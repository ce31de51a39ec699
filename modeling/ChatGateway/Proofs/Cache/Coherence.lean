import ChatGateway.Proofs.Cache.Keys
import ChatGateway.Proofs.Dispatch.Frames
import Mathlib.Data.List.Induction

/-!
The indexes of a cache. Every entity stands under its own identifier, whichever of them a frame
names, and the current user is the one of the last frame that made the session ready. Each
operation of the cache keeps this up, for guilds under the condition that the tables which they
bring along are keyed by their entries; frames only bring guilds that are. So it holds after every
history of frames (`applyAll_coherent`).
-/

namespace ChatGateway

/-- What a frame says of a session that is ready, if that is what it is about and its data
decode. -/
def readyOf? (frame : Dispatched) : Option ReadyEvent :=
  match EventKind.ofName? frame.1 with
  | some .ready => Cache.read? ReadyEvent.decode frame.2
  | _ => none

/-- A frame of another kind makes nothing ready. -/
theorem readyOf?_of_ne {frame : Dispatched} {kind : EventKind}
    (hkind : EventKind.ofName? frame.1 = some kind) (hother : kind ≠ .ready) :
    readyOf? frame = none := by
  unfold readyOf?
  rw [hkind]
  split
  next heq => exact absurd (Option.some.inj heq) hother
  next => rfl

namespace MessageStore

variable {store : MessageStore} {P : Snowflake → Message → Prop}

theorem all_makeRoom (h : store.table.All P) : store.makeRoom.table.All P := by
  unfold makeRoom
  split
  next =>
    split
    next => exact h.erase _
    next => exact h
  next => exact h

theorem all_insert (h : store.table.All P) {message : Message} (hmessage : P message.id message) :
    (store.insert message).table.All P := by
  unfold insert
  split
  next => exact h.insert hmessage
  next => exact (all_makeRoom h).insert hmessage

theorem all_erase (h : store.table.All P) (id : Snowflake) : (store.erase id).table.All P := by
  unfold erase
  split
  next => exact Table.All.erase h id
  next => exact h

theorem all_eraseAll (h : store.table.All P) (ids : List Snowflake) :
    (store.eraseAll ids).1.table.All P := by
  induction ids generalizing store with
  | nil => exact h
  | cons id rest ih => exact ih (all_erase h id)

end MessageStore

namespace Cache

/-- Every entity stands under its own identifier, and a guild does not list its channels. -/
structure Coherent (cache : Cache) : Prop where
  guilds : cache.guilds.All fun id guild => guild.id = id ∧ guild.channels = [] ∧ guild.Keyed
  channels : cache.channels.All fun id channel => channel.id = id
  members : cache.members.All fun key member =>
    member.guildId = some key.guild ∧ member.id? = some key.user
  messages : cache.messages.table.All fun id message => message.id = id

theorem coherent_empty (capacity : Nat) : (empty capacity).Coherent where
  guilds := Table.all_empty _
  channels := Table.all_empty _
  members := Table.all_empty _
  messages := Table.all_empty _

namespace Coherent

variable {cache : Cache}

/-! ### The current user and channels -/

theorem setCurrentUser (h : cache.Coherent) (user : User) : (cache.setCurrentUser user).Coherent :=
  { h with }

theorem updateCurrentUser (h : cache.Coherent) (user : User) :
    (cache.updateCurrentUser user).Coherent := by
  unfold Cache.updateCurrentUser
  split
  next => exact h.setCurrentUser user
  next => exact h

theorem upsertChannel (h : cache.Coherent) (channel : Channel) :
    (cache.upsertChannel channel).Coherent :=
  { h with channels := h.channels.insert rfl }

theorem removeChannel (h : cache.Coherent) (id : Snowflake) :
    (cache.removeChannel id).1.Coherent :=
  { h with channels := h.channels.erase id }

/-- A channel that becomes known by its pins gets the identifier of the update. -/
theorem updateChannelPins (h : cache.Coherent) (update : ChannelPinsUpdate) :
    (cache.updateChannelPins update).1.Coherent := by
  have hid : ((cache.channel? update.channelId).getD { id := update.channelId }).id =
      update.channelId := by
    cases hknown : cache.channel? update.channelId with
    | none => rfl
    | some channel => exact h.channels.of_get? hknown
  exact { h with channels := h.channels.insert hid }

/-! ### Guilds -/

/-- The tables of a guild stay keyed when the members are given the name of the guild. -/
theorem keyed_tag {guild : Guild} (hkeyed : guild.Keyed) : (tag guild).Keyed where
  roles := hkeyed.roles
  members := hkeyed.members.map fun _ _ hid => hid

theorem insertGuild (h : cache.Coherent) {guild : Guild} (hkeyed : guild.Keyed) :
    (cache.insertGuild guild).1.Coherent := by
  have htag := keyed_tag hkeyed
  refine { h with guilds := ?_, channels := ?_, members := ?_ }
  · exact h.guilds.insert ⟨rfl, rfl, htag.roles, htag.members⟩
  · refine h.channels.insertAll fun entry hentry => ?_
    obtain ⟨channel, -, rfl⟩ := List.mem_map.1 hentry
    rfl
  · refine h.members.insertAll fun entry hentry => ?_
    obtain ⟨⟨user, member⟩, hmember, rfl⟩ := List.mem_map.1 hentry
    refine ⟨?_, htag.members user member hmember⟩
    -- the name of the guild is put on each of its members before they are spread
    obtain ⟨⟨_, untagged⟩, -, heq⟩ := List.mem_map.1 hmember
    cases heq
    rfl

/-- An update without members takes over the members that are known, which are keyed as well. -/
theorem updateGuild (h : cache.Coherent) {guild : Guild} (hkeyed : guild.Keyed) :
    (cache.updateGuild guild).1.Coherent := by
  have hmembers : (cache.updateGuild guild).2.members.All fun id member =>
      member.id? = some id := by
    unfold Cache.updateGuild
    dsimp only
    split
    next known hknown =>
      split
      next => exact (h.guilds.of_get? hknown).2.2.members
      next => exact hkeyed.members
    next => exact hkeyed.members
  exact { h with guilds := h.guilds.insert ⟨rfl, rfl, hkeyed.roles, hmembers⟩ }

theorem removeGuild (h : cache.Coherent) (id : Snowflake) : (cache.removeGuild id).1.Coherent :=
  { h with
    guilds := h.guilds.erase id
    channels := h.channels.filter _
    members := h.members.filter _ }

theorem modifyGuild (h : cache.Coherent) (id : Snowflake) {f : Guild → Guild}
    (hid : ∀ guild, (f guild).id = guild.id)
    (hchannels : ∀ guild, (f guild).channels = guild.channels)
    (hkeyed : ∀ guild, guild.Keyed → (f guild).Keyed) : (cache.modifyGuild id f).Coherent := by
  refine { h with guilds := h.guilds.modify id fun key guild hguild => ?_ }
  obtain ⟨hkey, hnone, htables⟩ := hguild
  exact ⟨(hid guild).trans hkey, (hchannels guild).trans hnone, hkeyed guild htables⟩

theorem setGuildEmojis (h : cache.Coherent) (guild : Snowflake) (emojis : List Emoji) :
    (cache.setGuildEmojis guild emojis).Coherent :=
  h.modifyGuild guild (fun _ => rfl) (fun _ => rfl) fun _ hkeyed => ⟨hkeyed.roles, hkeyed.members⟩

theorem upsertRole (h : cache.Coherent) (guild : Snowflake) (role : Role) :
    (cache.upsertRole guild role).Coherent :=
  h.modifyGuild guild (fun _ => rfl) (fun _ => rfl) fun _ hkeyed =>
    ⟨hkeyed.roles.insert rfl, hkeyed.members⟩

theorem removeRole (h : cache.Coherent) (guild role : Snowflake) :
    (cache.removeRole guild role).1.Coherent :=
  h.modifyGuild guild (fun _ => rfl) (fun _ => rfl) fun _ hkeyed =>
    ⟨hkeyed.roles.erase role, hkeyed.members⟩

/-- The guilds of a session become known one after another. -/
theorem welcome (h : cache.Coherent) {ready : ReadyEvent}
    (hkeyed : ∀ guild ∈ ready.guilds, guild.Keyed) : (cache.welcome ready).Coherent := by
  unfold Cache.welcome
  have hfirst := h.setCurrentUser ready.user
  generalize cache.setCurrentUser ready.user = first at hfirst
  generalize ready.guilds = guilds at hkeyed
  induction guilds generalizing first with
  | nil => exact hfirst
  | cons guild rest ih =>
      have hguild := hkeyed guild List.mem_cons_self
      refine ih _ (hfirst.insertGuild hguild) fun later hlater => ?_
      exact hkeyed later (List.mem_cons_of_mem _ hlater)

/-! ### Members -/

/-- A member is stored under its user, in its guild and as an entry of its own. -/
theorem upsertMember (h : cache.Coherent) (guild : Snowflake) (member : Member) :
    (cache.upsertMember guild member).1.Coherent := by
  unfold Cache.upsertMember
  dsimp only
  split
  next => exact h
  next user huser =>
    have hguilds := h.modifyGuild guild
      (f := fun g => { g with
        members := g.members.insert user { member with guildId := some guild } })
      (fun _ => rfl) (fun _ => rfl) fun _ hkeyed => ⟨hkeyed.roles, hkeyed.members.insert huser⟩
    exact { hguilds with members := hguilds.members.insert ⟨rfl, huser⟩ }

theorem upsertMembers (h : cache.Coherent) (guild : Snowflake) (members : List Member) :
    (cache.upsertMembers guild members).Coherent := by
  unfold Cache.upsertMembers
  induction members generalizing cache with
  | nil => exact h
  | cons member rest ih => exact ih (h.upsertMember guild member)

theorem removeMember (h : cache.Coherent) (guild user : Snowflake) :
    (cache.removeMember guild user).1.Coherent := by
  have hguilds := h.modifyGuild guild
    (f := fun g => { g with members := g.members.erase user })
    (fun _ => rfl) (fun _ => rfl) fun _ hkeyed => ⟨hkeyed.roles, hkeyed.members.erase user⟩
  exact { hguilds with members := hguilds.members.erase _ }

theorem updateMember (h : cache.Coherent) (update : GuildMemberUpdate) :
    (cache.updateMember update).1.Coherent := h.upsertMember _ _

/-! ### Messages -/

theorem insertMessage (h : cache.Coherent) (message : Message) :
    (cache.insertMessage message).Coherent :=
  { h with messages := MessageStore.all_insert h.messages rfl }

theorem modifyMessage (h : cache.Coherent) (id : Snowflake) {f : Message → Message}
    (hf : ∀ message, (f message).id = message.id) : (cache.modifyMessage id f).1.Coherent :=
  { h with messages := h.messages.modify id fun _ message hid => (hf message).trans hid }

theorem removeMessage (h : cache.Coherent) (id : Snowflake) :
    (cache.removeMessage id).1.Coherent :=
  { h with messages := MessageStore.all_erase h.messages id }

theorem removeMessages (h : cache.Coherent) (ids : List Snowflake) :
    (cache.removeMessages ids).1.Coherent :=
  { h with messages := MessageStore.all_eraseAll h.messages ids }

end Coherent

/-! ### Frames -/

/-- What is made of decoded data has a property when it has it for whatever is decoded. -/
theorem of_map_eq_some {α : Type} {decoded : Option α} {f : α → Cache × Event} {next : Cache}
    {event : Event} {P : Cache → Prop} (happly : decoded.map f = some (next, event))
    (hf : ∀ a, decoded = some a → P (f a).1) : P next := by
  obtain ⟨a, ha, heq⟩ := Option.map_eq_some_iff.1 happly
  rw [← show (f a).1 = next from congrArg Prod.fst heq]
  exact hf a ha

/-- So it is with a change that makes an event only if it finds what it is about. -/
theorem of_bind_eq_some {α β : Type} {decoded : Option α} {changed : α → Cache}
    {found : α → Option β} {made : α → β → Event} {next : Cache} {event : Event} {P : Cache → Prop}
    (happly : (decoded.bind fun a => (found a).bind fun b => some (changed a, made a b)) =
      some (next, event))
    (hf : ∀ a, decoded = some a → P (changed a)) : P next := by
  obtain ⟨a, ha, happly⟩ := Option.bind_eq_some_iff.1 happly
  obtain ⟨b, -, heq⟩ := Option.bind_eq_some_iff.1 happly
  cases heq
  exact hf a ha

theorem ok_of_read? {α : Type} {decode : Decoder α} {data : Json} {a : α}
    (h : read? decode data = some a) : decode (Outline.ofJson data) = .ok a := by
  unfold read? Decoder.ofValue at h
  cases hdecode : decode (Outline.ofJson data) with
  | error e =>
      rw [hdecode] at h
      cases h
  | ok decoded =>
      rw [hdecode] at h
      cases h
      rfl

theorem Coherent.applyKind {cache next : Cache} (h : cache.Coherent) {kind : EventKind}
    {data : Json} {event : Event} (happly : cache.applyKind kind data = some (next, event)) :
    next.Coherent := by
  cases kind with
  | ready =>
      refine of_map_eq_some happly fun ready hready => ?_
      exact h.welcome (ReadyEvent.keyed_of_decode (ok_of_read? hready))
  | resumed =>
      cases happly
      exact h
  | channelCreate => exact of_map_eq_some happly fun channel _ => h.upsertChannel channel
  | channelUpdate => exact of_map_eq_some happly fun channel _ => h.upsertChannel channel
  | channelDelete => exact of_map_eq_some happly fun channel _ => h.removeChannel channel.id
  | channelPinsUpdate => exact of_map_eq_some happly fun update _ => h.updateChannelPins update
  | guildCreate =>
      refine of_map_eq_some happly fun guild hguild => ?_
      exact h.insertGuild (Guild.keyed_of_decode (ok_of_read? hguild))
  | guildUpdate =>
      refine of_map_eq_some happly fun guild hguild => ?_
      exact h.updateGuild (Guild.keyed_of_decode (ok_of_read? hguild))
  | guildDelete => exact of_map_eq_some happly fun gone _ => h.removeGuild gone.id
  | guildEmojisUpdate => exact of_map_eq_some happly fun update _ => h.setGuildEmojis _ _
  | guildMemberAdd => exact of_map_eq_some happly fun joined _ => h.upsertMember _ _
  | guildMemberRemove => exact of_map_eq_some happly fun left _ => h.removeMember _ _
  | guildMemberUpdate => exact of_map_eq_some happly fun update _ => h.updateMember update
  | guildMembersChunk => exact of_map_eq_some happly fun chunk _ => h.upsertMembers _ _
  | guildRoleCreate => exact of_map_eq_some happly fun change _ => h.upsertRole _ _
  | guildRoleUpdate => exact of_map_eq_some happly fun change _ => h.upsertRole _ _
  | guildRoleDelete => exact of_map_eq_some happly fun change _ => h.removeRole _ _
  | messageCreate => exact of_map_eq_some happly fun message _ => h.insertMessage message
  | messageUpdate =>
      exact of_bind_eq_some happly fun update _ => h.modifyMessage update.id fun _ => rfl
  | messageDelete => exact of_bind_eq_some happly fun gone _ => h.removeMessage gone.id
  | reactionAdd =>
      rw [applyKind_reactionAdd] at happly
      exact of_bind_eq_some happly fun reaction _ => h.modifyMessage reaction.messageId fun _ => rfl
  | reactionRemove =>
      exact of_bind_eq_some happly fun reaction _ => h.modifyMessage reaction.messageId fun _ => rfl
  | reactionRemoveAll =>
      exact of_bind_eq_some happly fun cleared _ => h.modifyMessage cleared.messageId fun _ => rfl
  | messageDeleteBulk => exact of_map_eq_some happly fun gone _ => h.removeMessages gone.ids
  | userUpdate => exact of_map_eq_some happly fun user _ => h.updateCurrentUser user
  -- what is left only tells the handler something
  | guildBanAdd | guildBanRemove | guildIntegrationsUpdate | presenceUpdate | typingStart
  | webhooksUpdate => exact of_map_eq_some happly fun _ _ => h

theorem Coherent.next {cache : Cache} (h : cache.Coherent) (frame : Dispatched) :
    (cache.next frame).Coherent := by
  unfold Cache.next
  cases happly : cache.apply frame.1 frame.2 with
  | none => exact h
  | some made =>
      obtain ⟨next, event⟩ := made
      unfold apply at happly
      split at happly
      next kind _ => exact h.applyKind happly
      next =>
        cases happly
        exact h

theorem Coherent.applyAll {cache : Cache} (h : cache.Coherent) (frames : List Dispatched) :
    (cache.applyAll frames).Coherent := by
  induction frames generalizing cache with
  | nil => exact h
  | cons frame rest ih =>
      rw [applyAll_cons]
      exact ih (h.next frame)

/-! ### Who the current user is -/

def userId? (cache : Cache) : Option Snowflake := cache.currentUser.map (·.id)

structure GuildsOnly (cache next : Cache) : Prop where
  currentUser : next.currentUser = cache.currentUser
  messages : next.messages = cache.messages

theorem GuildsOnly.trans {first second third : Cache} (h : first.GuildsOnly second)
    (h' : second.GuildsOnly third) : first.GuildsOnly third :=
  ⟨h'.currentUser.trans h.currentUser, h'.messages.trans h.messages⟩

theorem guildsOnly_upsertMember (cache : Cache) (guild : Snowflake) (member : Member) :
    cache.GuildsOnly (cache.upsertMember guild member).1 := by
  unfold upsertMember
  dsimp only
  split <;> exact ⟨rfl, rfl⟩

theorem guildsOnly_upsertMembers (cache : Cache) (guild : Snowflake) (members : List Member) :
    cache.GuildsOnly (cache.upsertMembers guild members) := by
  unfold upsertMembers
  induction members generalizing cache with
  | nil => exact ⟨rfl, rfl⟩
  | cons member rest ih =>
      rw [List.foldl_cons]
      exact (guildsOnly_upsertMember cache guild member).trans (ih _)

theorem guildsOnly_welcome (cache : Cache) (ready : ReadyEvent) :
    (cache.setCurrentUser ready.user).GuildsOnly (cache.welcome ready) := by
  unfold welcome
  generalize cache.setCurrentUser ready.user = first
  induction ready.guilds generalizing first with
  | nil => exact ⟨rfl, rfl⟩
  | cons guild rest ih =>
      have hguild : first.GuildsOnly (first.insertGuild guild).1 := ⟨rfl, rfl⟩
      rw [List.foldl_cons]
      exact hguild.trans (ih _)

theorem userId?_welcome (cache : Cache) (ready : ReadyEvent) :
    (cache.welcome ready).userId? = some ready.user.id :=
  congrArg (Option.map _) (guildsOnly_welcome cache ready).currentUser

/-- An update of the current user is taken over only if it is about that user. -/
theorem userId?_updateCurrentUser (cache : Cache) (user : User) :
    (cache.updateCurrentUser user).userId? = cache.userId? := by
  unfold updateCurrentUser
  split
  next hme => exact (eq_of_beq hme).symm
  next => rfl

/-- Nothing but a session that is ready changes who the current user is. -/
theorem userId?_applyKind {cache next : Cache} {kind : EventKind} (hkind : kind ≠ .ready)
    {data : Json} {event : Event} (happly : cache.applyKind kind data = some (next, event)) :
    next.userId? = cache.userId? := by
  have hmap : ∀ {α : Type} {decoded : Option α} {f : α → Cache × Event},
      decoded.map f = some (next, event) → (∀ a, (f a).1.currentUser = cache.currentUser) →
        next.userId? = cache.userId? := fun happly hf =>
    of_map_eq_some (P := fun next => next.userId? = cache.userId?) happly fun a _ =>
      congrArg (Option.map _) (hf a)
  cases kind with
  | ready => exact absurd rfl hkind
  | resumed =>
      cases happly
      rfl
  | guildMemberAdd => exact hmap happly fun joined =>
      (guildsOnly_upsertMember cache _ _).currentUser
  | guildMemberUpdate => exact hmap happly fun update =>
      (guildsOnly_upsertMember cache _ _).currentUser
  | guildMembersChunk => exact hmap happly fun chunk =>
      (guildsOnly_upsertMembers cache _ _).currentUser
  | userUpdate =>
      exact of_map_eq_some (P := fun next => next.userId? = cache.userId?) happly fun user _ =>
        userId?_updateCurrentUser cache user
  | reactionAdd =>
      rw [applyKind_reactionAdd] at happly
      exact of_bind_eq_some (P := fun next => next.userId? = cache.userId?) happly fun _ _ => rfl
  | messageUpdate | messageDelete | reactionRemove | reactionRemoveAll =>
      exact of_bind_eq_some (P := fun next => next.userId? = cache.userId?) happly fun _ _ => rfl
  | _ => exact hmap happly fun _ => rfl

theorem userId?_next (cache : Cache) (frame : Dispatched) :
    (cache.next frame).userId? =
      match readyOf? frame with
      | some ready => some ready.user.id
      | none => cache.userId? := by
  cases hkind : EventKind.ofName? frame.1 with
  | none =>
      unfold next apply readyOf?
      rw [hkind]
      rfl
  | some kind =>
      rw [cache.next_of_kind hkind]
      by_cases hready : kind = .ready
      · subst hready
        unfold readyOf?
        rw [hkind]
        show Cache.userId? ((((read? ReadyEvent.decode frame.2).map _).map _).getD cache) = _
        dsimp only
        cases read? ReadyEvent.decode frame.2 with
        | none => rfl
        | some ready => exact userId?_welcome cache ready
      · rw [readyOf?_of_ne hkind hready]
        cases happly : cache.applyKind kind frame.2 with
        | none => rfl
        | some made =>
            obtain ⟨next, event⟩ := made
            exact userId?_applyKind hready happly

/-- The indexes of a cache hold after every history of frames: guilds, channels and messages stand
under their own identifiers, a guild lists no channels and has its roles and members under theirs, a
member of the member collection names the guild and the user of its key, and the current user is the
one of the last frame that said that the session is ready and was understood. -/
theorem applyAll_coherent (capacity : Nat) (frames : List Dispatched) :
    ((empty capacity).applyAll frames).Coherent ∧
      ((empty capacity).applyAll frames).userId? =
        (frames.filterMap readyOf?).getLast?.map fun ready => ready.user.id := by
  induction frames using List.reverseRecOn with
  | nil => exact ⟨coherent_empty capacity, rfl⟩
  | append_singleton frames frame ih =>
      obtain ⟨hcoherent, huser⟩ := ih
      rw [applyAll_append, applyAll_cons, List.filterMap_append]
      refine ⟨hcoherent.next frame, ?_⟩
      rw [show ∀ cache : Cache, cache.applyAll [] = cache from fun _ => rfl, userId?_next]
      cases hready : readyOf? frame with
      | none => simp [hready, huser]
      | some ready => simp [hready]

end Cache

end ChatGateway
