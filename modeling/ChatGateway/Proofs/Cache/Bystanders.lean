import ChatGateway.Proofs.Cache.MessageOrder
import ChatGateway.Proofs.Cache.Redelivery

/-!
What a frame leaves alone. A frame names the guild, the channels or the messages that it is about,
and its family can be told from the beginning of the name of its event. What is of another family is
not touched at all, and of its own family only what is named: a guild with its members and channels
(`besidesGuild_mutate`), a channel (`besidesChannel_mutate`), or messages, where a full cache has to
make room for a new one (`besidesMessages_mutate`). `next_touches_named` says so of every frame, in
every cache that frames can lead to.
-/

namespace ChatGateway

namespace Mutation

/-- The guild that a mutation is about: the guild itself, or its emojis, roles or members. -/
def guild? : Mutation → Option Snowflake
  | .putGuild guild | .renewGuild guild => some guild.id
  | .dropGuild id | .putEmojis id _ | .putRole id _ | .dropRole id _ | .putMembers id _
  | .dropMember id _ => some id
  | .renewMember update => some update.guildId
  | _ => none

/-- The channels that a mutation is about. A guild that is put in lists its channels. -/
def channels : Mutation → List Snowflake
  | .putGuild guild => guild.channels.map (·.id)
  | .putChannel channel => [channel.id]
  | .dropChannel id => [id]
  | .pinChannel update => [update.channelId]
  | _ => []

def messages : Mutation → List Snowflake
  | .putMessage message => [message.id]
  | .renewMessage update => [update.id]
  | .dropMessages ids => ids
  | .react id _ => [id]
  | _ => []

def IsOfMessages : Mutation → Prop
  | .putMessage _ | .renewMessage _ | .dropMessages _ | .react _ _ => True
  | _ => False

/-! ### Families of frames -/

section Families

variable {name : String} {data : Json}

theorem read_cases {α : Type} (decode : Decoder α) (data : Json) (ask : α → Mutation) :
    read decode data ask = .keep ∨ ∃ a, read decode data ask = ask a := by
  unfold read
  split
  next a _ => exact .inr ⟨a, rfl⟩
  next => exact .inl rfl

/-- What can be read is of a family, if what it asks for is. -/
theorem read_of_family {α : Type} {decode : Decoder α} {data : Json} {ask : α → Mutation}
    {P : Mutation → Prop} (hask : ∀ a, P (ask a)) :
    read decode data ask = .keep ∨ P (read decode data ask) := by
  rcases read_cases decode data ask with hkeep | ⟨a, hasked⟩
  · exact .inl hkeep
  · exact .inr (hasked ▸ hask a)

/-- A frame asks for nothing, or for what its kind asks for. -/
theorem ofFrame_cases (name : String) (data : Json) :
    ofFrame (name, data) = .keep ∨
      ∃ kind : EventKind, kind.name = name ∧ ofFrame (name, data) = ofKind kind data := by
  unfold ofFrame
  cases hkind : EventKind.ofName? name with
  | none => exact .inl rfl
  | some kind => exact .inr ⟨kind, EventKind.name_of_ofName? hkind, rfl⟩

theorem guild?_ofFrame (hname : "GUILD_".toList <+: name.toList) :
    ofFrame (name, data) = .keep ∨ ∃ guild, (ofFrame (name, data)).guild? = some guild := by
  rcases ofFrame_cases name data with hkeep | ⟨kind, rfl, hasked⟩
  · exact .inl hkeep
  · rw [hasked]
    cases kind with
    | guildCreate | guildUpdate | guildDelete | guildEmojisUpdate | guildMemberAdd
    | guildMemberRemove | guildMemberUpdate | guildMembersChunk | guildRoleCreate
    | guildRoleUpdate | guildRoleDelete =>
        exact read_of_family (P := fun asked => ∃ guild, asked.guild? = some guild)
          fun _ => ⟨_, rfl⟩
    | guildBanAdd | guildBanRemove | guildIntegrationsUpdate => exact .inl rfl
    | _ => exact absurd hname (by decide)

theorem channels_ofFrame (hname : "CHANNEL_".toList <+: name.toList) :
    ofFrame (name, data) = .keep ∨ (ofFrame (name, data)).guild? = none ∧
      ∃ id, (ofFrame (name, data)).channels = [id] := by
  rcases ofFrame_cases name data with hkeep | ⟨kind, rfl, hasked⟩
  · exact .inl hkeep
  · rw [hasked]
    cases kind with
    | channelCreate | channelUpdate | channelDelete | channelPinsUpdate =>
        exact read_of_family
          (P := fun asked => asked.guild? = none ∧ ∃ id, asked.channels = [id])
          fun _ => ⟨rfl, _, rfl⟩
    | _ => exact absurd hname (by decide)

theorem isOfMessages_ofFrame (hname : "MESSAGE_".toList <+: name.toList) :
    ofFrame (name, data) = .keep ∨ (ofFrame (name, data)).IsOfMessages := by
  rcases ofFrame_cases name data with hkeep | ⟨kind, rfl, hasked⟩
  · exact .inl hkeep
  · rw [hasked]
    cases kind with
    | messageCreate | messageUpdate | messageDelete | messageDeleteBulk | reactionAdd
    | reactionRemove | reactionRemoveAll =>
        exact read_of_family (P := IsOfMessages) fun _ => trivial
    | _ => exact absurd hname (by decide)

/-- The events that only tell a handler something. -/
def tidings : List String :=
  ["RESUMED", "PRESENCE_UPDATE", "TYPING_START", "WEBHOOKS_UPDATE", "GUILD_BAN_ADD",
    "GUILD_BAN_REMOVE", "GUILD_INTEGRATIONS_UPDATE"]

theorem ofFrame_of_mem_tidings (hname : name ∈ tidings) : ofFrame (name, data) = .keep := by
  rcases ofFrame_cases name data with hkeep | ⟨kind, rfl, hasked⟩
  · exact hkeep
  · rw [hasked]
    cases kind with
    | resumed | presenceUpdate | typingStart | webhooksUpdate | guildBanAdd | guildBanRemove
    | guildIntegrationsUpdate => rfl
    | _ => exact absurd hname (by decide)

end Families

end Mutation

namespace Cache

/-! ### Guilds -/

/-- Nothing differs but a guild with its members, the channels that belong to it, and some others.
-/
structure BesidesGuild (cache now : Cache) (guild : Snowflake) (listed : List Snowflake) :
    Prop where
  guilds : ∀ id, id ≠ guild → now.guild? id = cache.guild? id
  members : ∀ id, id ≠ guild → ∀ user, now.member? id user = cache.member? id user
  channels : ∀ id, id ∉ listed →
    (∀ channel, cache.channel? id = some channel → channel.guildId ≠ some guild) →
    now.channel? id = cache.channel? id
  messages : now.messages = cache.messages
  currentUser : now.currentUser = cache.currentUser

variable (cache : Cache) {mutation : Mutation}

theorem besidesGuild_modifyGuild (guild : Snowflake) (f : Guild → Guild)
    (listed : List Snowflake) : cache.BesidesGuild (cache.modifyGuild guild f) guild listed where
  guilds id hid := by rw [guild?_modifyGuild, if_neg hid]
  members _ _ _ := rfl
  channels _ _ _ := rfl
  messages := rfl
  currentUser := rfl

theorem besidesGuild_insertGuild (guild : Guild) :
    cache.BesidesGuild (cache.insertGuild guild).1 guild.id (guild.channels.map (·.id)) where
  guilds id hid := by rw [guild?_insertGuild, if_neg hid]
  members id hid user := by rw [member?_insertGuild, if_neg hid]
  channels id hid _ := by
    have hnone : Table.find id (channelEntries guild).reverse = none := by
      refine Table.find_eq_none fun e hmem heq => hid ?_
      obtain ⟨tagged, htagged, rfl⟩ := List.mem_map.1 (List.mem_reverse.1 hmem)
      obtain ⟨channel, hchannel, rfl⟩ := List.mem_map.1 htagged
      exact List.mem_map.2 ⟨channel, hchannel, heq⟩
    rw [channel?, insertGuild_eq, Table.get?_insertAll, hnone, Option.none_or]
    rfl
  messages := rfl
  currentUser := rfl

theorem besidesGuild_removeGuild (guild : Snowflake) (listed : List Snowflake) :
    cache.BesidesGuild (cache.removeGuild guild).1 guild listed where
  guilds id hid := by rw [guild?_removeGuild, if_neg hid]
  members id hid user := by rw [member?_removeGuild, if_neg hid]
  channels id _ hforeign := by
    show (cache.channels.filter fun _ channel => channel.guildId != some guild).get? id = _
    rw [Table.get?_filter, channel?]
    cases hget : cache.channels.get? id with
    | none => rfl
    | some channel => exact Option.filter_some_pos (by simpa using hforeign channel hget)
  messages := rfl
  currentUser := rfl

theorem besidesGuild_upsertMembers (guild : Snowflake) (members : List Member)
    (listed : List Snowflake) :
    cache.BesidesGuild (cache.upsertMembers guild members) guild listed where
  guilds id hid := by
    rw [upsertMembers_eq]
    show (cache.guilds.modify guild _).get? id = _
    rw [Table.get?_modify, if_neg hid]
    rfl
  members id hid user := by
    have hnone : Table.find ⟨id, user⟩
        ((addressed guild members).map fun e => (MemberKey.mk guild e.1, e.2)).reverse = none := by
      refine Table.find_eq_none fun e hmem heq => hid ?_
      obtain ⟨_, -, rfl⟩ := List.mem_map.1 (List.mem_reverse.1 hmem)
      exact (MemberKey.mk.inj heq).1.symm
    rw [upsertMembers_eq, member?, Table.get?_insertAll, hnone, Option.none_or]
    rfl
  channels id _ _ := by
    rw [upsertMembers_eq]
    rfl
  messages := (guildsOnly_upsertMembers cache guild members).messages
  currentUser := (guildsOnly_upsertMembers cache guild members).currentUser

/-- What is about a guild touches nothing of another one. -/
theorem besidesGuild_mutate {guild : Snowflake} (hguild : mutation.guild? = some guild) :
    cache.BesidesGuild (cache.mutate mutation) guild mutation.channels := by
  cases mutation with
  | putGuild created =>
      cases hguild
      exact cache.besidesGuild_insertGuild created
  | renewGuild renewed =>
      cases hguild
      refine ⟨fun id hid => ?_, fun _ _ _ => rfl, fun _ _ _ => rfl, rfl, rfl⟩
      rw [mutate, guild?_updateGuild, if_neg hid]
  | dropGuild own =>
      cases hguild
      exact cache.besidesGuild_removeGuild guild []
  | putEmojis own _ | putRole own _ | dropRole own _ =>
      cases hguild
      exact cache.besidesGuild_modifyGuild guild _ []
  | putMembers own members =>
      cases hguild
      exact cache.besidesGuild_upsertMembers guild members []
  | renewMember update =>
      cases hguild
      exact cache.besidesGuild_upsertMembers update.guildId [_] []
  | dropMember own user =>
      cases hguild
      refine ⟨fun id hid => ?_, fun id hid other => ?_, fun _ _ _ => rfl, rfl, rfl⟩
      · rw [mutate, guild?_removeMember, if_neg hid]
      · rw [mutate, member?_removeMember, if_neg fun heq => hid heq.1]
  | _ => cases hguild

/-! ### Channels -/

structure BesidesChannel (cache now : Cache) (named : Snowflake) : Prop where
  guilds : now.guilds = cache.guilds
  members : now.members = cache.members
  messages : now.messages = cache.messages
  currentUser : now.currentUser = cache.currentUser
  channels : ∀ id, id ≠ named → now.channel? id = cache.channel? id

theorem besidesChannel_mutate {named : Snowflake} (hguild : mutation.guild? = none)
    (hchannels : mutation.channels = [named]) :
    cache.BesidesChannel (cache.mutate mutation) named := by
  cases mutation with
  | putChannel channel =>
      cases hchannels
      refine ⟨rfl, rfl, rfl, rfl, fun id hid => ?_⟩
      rw [mutate, channel?_upsertChannel, if_neg hid]
  | dropChannel gone =>
      cases hchannels
      refine ⟨rfl, rfl, rfl, rfl, fun id hid => ?_⟩
      rw [mutate, channel?_removeChannel, if_neg hid]
  | pinChannel update =>
      cases hchannels
      refine ⟨rfl, rfl, rfl, rfl, fun id hid => ?_⟩
      rw [mutate, channel?_updateChannelPins, if_neg hid]
  | putGuild => cases hguild
  | _ => cases hchannels

/-! ### Messages -/

/-- A new message is put into a cache that holds as many as it may. -/
def Crowds (cache : Cache) : Mutation → Prop
  | .putMessage message =>
      cache.message? message.id = none ∧ cache.messages.capacity ≤ cache.messageIds.length
  | _ => False

/-- Nothing differs but the messages that a mutation is about, and the oldest one if that has to
make room for a new one. -/
structure BesidesMessages (cache now : Cache) (mutation : Mutation) : Prop where
  guilds : now.guilds = cache.guilds
  channels : now.channels = cache.channels
  members : now.members = cache.members
  currentUser : now.currentUser = cache.currentUser
  found : ∀ id, id ∉ mutation.messages →
    (cache.Crowds mutation → cache.messageIds.head? ≠ some id) →
    now.message? id = cache.message? id
  order : ¬ cache.Crowds mutation →
    MessageList.without mutation.messages now.messages.toList =
      MessageList.without mutation.messages cache.messages.toList
  oldest : cache.Crowds mutation → ∃ oldest rest message, mutation = .putMessage message ∧
    cache.messages.toList = oldest :: rest ∧ now.messages.toList = rest ++ [message]

end Cache

namespace MessageList

variable {id : Snowflake} {f : Message → Message}
  (hf : ∀ message, message.id = id → (f message).id = id)

include hf

/-- Changing a message leaves the others as they were. -/
theorem without_change (list : MessageList) :
    (list.change id f).without [id] = list.without [id] := by
  induction list with
  | nil => rfl
  | cons head rest ih =>
      by_cases hid : head.id = id
      · have hdropped : change id f (head :: rest) = f head :: change id f rest := by
          simp [change, hid]
        rw [hdropped, without, List.filter_cons_of_neg (by simp [hf head hid]), without,
          List.filter_cons_of_neg (by simp [hid])]
        exact ih
      · have hkept : change id f (head :: rest) = head :: change id f rest := by
          simp [change, hid]
        rw [hkept, without, List.filter_cons_of_pos (by simpa using hid), without,
          List.filter_cons_of_pos (by simpa using hid)]
        exact congrArg (head :: ·) ih

omit hf

theorem without_without (gone : List Snowflake) (list : MessageList) :
    (list.without gone).without gone = list.without gone := by
  unfold without
  rw [List.filter_filter]
  simp only [Bool.and_self]

theorem without_append_self (list : MessageList) (message : Message) :
    without [message.id] (list ++ [message]) = list.without [message.id] := by
  unfold without
  rw [List.filter_append]
  simp

end MessageList

namespace Cache

section Messages

variable {cache : Cache} {capacity : Nat} {list : MessageList} {mutation : Mutation}

/-- What a mutation leaves of a store that holds a list is a store that holds a list, too. -/
theorem exists_holds_mutate (h : cache.messages.Holds capacity list) (mutation : Mutation) :
    ∃ next, (cache.mutate mutation).messages.Holds capacity next := by
  cases mutation with
  | putMessage message => exact ⟨_, h.insert message⟩
  | renewMessage update => exact ⟨_, h.modify (f := patch update) fun _ hid => hid⟩
  | dropMessages ids => exact ⟨_, (h.eraseAll ids).1⟩
  | react id change =>
      let react := fun message : Message =>
        { message with reactions := change.on cache.isCurrentUser message.reactions }
      exact ⟨_, h.modify (f := react) fun _ hid => hid⟩
  | welcome ready =>
      refine ⟨list, ?_⟩
      rw [mutate, (guildsOnly_welcome cache ready).messages]
      exact h
  | putMembers guild members =>
      refine ⟨list, ?_⟩
      rw [mutate, (guildsOnly_upsertMembers cache guild members).messages]
      exact h
  | renewMember update =>
      refine ⟨list, ?_⟩
      rw [mutate, updateMember, (guildsOnly_upsertMember cache _ _).messages]
      exact h
  | renewUser user =>
      refine ⟨list, ?_⟩
      rw [mutate, updateCurrentUser]
      split <;> exact h
  | _ => exact ⟨list, h⟩

/-- In every cache that frames can lead to, the messages are a list. -/
theorem exists_holds_applyAll (capacity : Nat) (frames : List Dispatched) :
    ∃ list, ((empty capacity).applyAll frames).messages.Holds (max 1 capacity) list :=
  applyAll_of_mutate (P := fun cache => ∃ list, cache.messages.Holds (max 1 capacity) list)
    ⟨[], MessageStore.holds_empty capacity⟩
    fun _ _ _ ⟨_, h⟩ => exists_holds_mutate h _

/-- Lists that agree but for some messages, when no room had to be made. -/
theorem besidesMessages_of_without (h : cache.messages.Holds capacity list)
    {messages : MessageStore} {next : MessageList} (hnext : messages.Holds capacity next)
    (hcalm : ¬ cache.Crowds mutation)
    (hwithout : next.without mutation.messages = list.without mutation.messages) :
    cache.BesidesMessages { cache with messages } mutation where
  guilds := rfl
  channels := rfl
  members := rfl
  currentUser := rfl
  found id hid _ := by
    have hfind : (next.without mutation.messages).find id =
        (list.without mutation.messages).find id := by rw [hwithout]
    rw [MessageList.find_without, MessageList.find_without, if_neg hid, if_neg hid] at hfind
    show messages.get? id = cache.messages.get? id
    rw [hnext.found, h.found, hfind]
  order _ := by
    show MessageList.without _ messages.toList = _
    rw [hnext.toList_eq, h.toList_eq, hwithout]
  oldest hcrowds := absurd hcrowds hcalm

theorem mem_ids_iff (h : cache.messages.Holds capacity list) (id : Snowflake) :
    id ∈ list.ids ↔ cache.message? id ≠ none := by
  rw [message?, h.found, ← Option.isSome_iff_ne_none, MessageList.find_isSome_iff]

/-- A new message takes the place of the oldest one when the list is full. -/
theorem besidesMessages_crowded (h : cache.messages.Holds capacity list) {message : Message}
    (hcrowds : cache.Crowds (.putMessage message)) :
    cache.BesidesMessages (cache.insertMessage message) (.putMessage message) := by
  obtain ⟨hnew, hfull⟩ := hcrowds
  have hunknown : message.id ∉ list.ids := fun hmem => (mem_ids_iff h _).1 hmem hnew
  have hlength : capacity ≤ list.length := by
    rwa [messageIds, h.queue, MessageList.ids, List.length_map, h.room] at hfull
  have hput := h.insert message
  cases list with
  | nil => exact absurd (Nat.lt_of_lt_of_le h.positive hlength) (Nat.lt_irrefl 0)
  | cons oldest rest =>
      have hlist : MessageList.put capacity message (oldest :: rest) = rest ++ [message] := by
        rw [MessageList.put, if_neg hunknown, MessageList.makeRoom, if_neg (Nat.not_lt.2 hlength)]
        rfl
      rw [hlist] at hput
      refine ⟨rfl, rfl, rfl, rfl, fun id hid hother => ?_, fun hcalm => absurd ⟨hnew, hfull⟩ hcalm,
        fun _ => ⟨oldest, rest, message, rfl, h.toList_eq, hput.toList_eq⟩⟩
      have hne : message.id ≠ id := fun heq => hid (heq ▸ List.mem_singleton_self _)
      have holdest : oldest.id ≠ id := by
        rintro rfl
        refine hother ⟨hnew, hfull⟩ ?_
        rw [messageIds, h.queue]
        rfl
      show (cache.messages.insert message).get? id = cache.messages.get? id
      rw [hput.found, h.found, MessageList.find_append, MessageList.find_cons,
        MessageList.find_cons, if_neg hne, if_neg holdest, MessageList.find_nil, Option.or_none]

/-- What is about messages touches no other message, unless it has to make room. -/
theorem besidesMessages_mutate (h : cache.messages.Holds capacity list)
    (hmessages : mutation.IsOfMessages) :
    cache.BesidesMessages (cache.mutate mutation) mutation := by
  cases mutation with
  | putMessage message =>
      by_cases hcrowds : cache.Crowds (.putMessage message)
      · exact besidesMessages_crowded h hcrowds
      · refine besidesMessages_of_without h (h.insert message) hcrowds ?_
        show MessageList.without [message.id] _ = _
        unfold MessageList.put
        split
        next => exact MessageList.without_change (fun _ _ => rfl) list
        next hunknown =>
          have hroom : list.length < capacity := by
            refine Nat.not_le.1 fun hfull => hcrowds ⟨?_, ?_⟩
            · exact Classical.not_not.1 fun hknown => hunknown ((mem_ids_iff h _).2 hknown)
            · rwa [messageIds, h.queue, MessageList.ids, List.length_map, h.room]
          rw [MessageList.makeRoom, if_pos hroom]
          exact list.without_append_self message
  | renewMessage update =>
      have hpatch : ∀ message : Message, message.id = update.id →
          (patch update message).id = update.id := fun _ hid => hid
      exact besidesMessages_of_without h (h.modify hpatch) id
        (MessageList.without_change hpatch list)
  | dropMessages ids =>
      exact besidesMessages_of_without h (h.eraseAll ids).1 id (list.without_without ids)
  | react subject change =>
      let react := fun message : Message =>
        { message with reactions := change.on cache.isCurrentUser message.reactions }
      have hreact : ∀ message : Message, message.id = subject → (react message).id = subject :=
        fun _ hid => hid
      exact besidesMessages_of_without h (h.modify hreact) id
        (MessageList.without_change hreact list)
  | _ => exact hmessages.elim

end Messages

/-! ### Every frame -/

/-- A frame touches only what it names, in every cache that frames can lead to. One whose name
begins with `GUILD_` is about one guild and leaves every other guild, the members of the others,
every channel that it does not list and that does not belong to the guild, all messages and the
current user. One whose name begins with `MESSAGE_` leaves the messages that it does not name, in
their order, unless a new one takes the place of the oldest in a full cache, and all that is no
message. One whose name begins with `CHANNEL_` is about one channel and leaves everything else. An
update of a user leaves all but the current user, who stays the same one. Whatever only tells a
handler something and whatever is not understood leaves everything, as does a frame that cannot be
read. -/
theorem next_touches_named (capacity : Nat) (history : List Dispatched) (name : String)
    (data : Json) :
    let cache := (empty capacity).applyAll history
    let asked := Mutation.ofFrame (name, data)
    let now := cache.next (name, data)
    ("GUILD_".toList <+: name.toList → now = cache ∨
      ∃ guild, asked.guild? = some guild ∧ cache.BesidesGuild now guild asked.channels) ∧
    ("MESSAGE_".toList <+: name.toList → now = cache ∨ cache.BesidesMessages now asked) ∧
    ("CHANNEL_".toList <+: name.toList → now = cache ∨
      ∃ channel, asked.channels = [channel] ∧ cache.BesidesChannel now channel) ∧
    (name = "USER_UPDATE" →
      now = { cache with currentUser := now.currentUser } ∧ now.userId? = cache.userId?) ∧
    (name ∈ Mutation.tidings ∨ EventKind.ofName? name = none → now = cache) := by
  intro cache asked now
  have hnow : now = cache.mutate asked := cache.next_eq_mutate (name, data)
  have hkeep : asked = .keep → now = cache := fun hkeep => by rw [hnow, hkeep]; rfl
  obtain ⟨list, hholds⟩ := exists_holds_applyAll capacity history
  refine ⟨fun hname => ?_, fun hname => ?_, fun hname => ?_, ?_, ?_⟩
  · refine (Mutation.guild?_ofFrame hname).imp hkeep fun ⟨guild, hguild⟩ => ⟨guild, hguild, ?_⟩
    rw [hnow]
    exact cache.besidesGuild_mutate hguild
  · refine (Mutation.isOfMessages_ofFrame hname).imp hkeep fun hmessages => ?_
    rw [hnow]
    exact besidesMessages_mutate hholds hmessages
  · refine (Mutation.channels_ofFrame hname).imp hkeep fun ⟨hguild, channel, hchannel⟩ =>
      ⟨channel, hchannel, ?_⟩
    rw [hnow]
    exact cache.besidesChannel_mutate hguild hchannel
  · rintro rfl
    rcases Mutation.read_cases User.decode data .renewUser with hread | ⟨user, hread⟩
    · have hsame : now = cache := hkeep hread
      rw [hsame]
      exact ⟨rfl, rfl⟩
    · have huser : now = cache.updateCurrentUser user := hnow.trans (congrArg cache.mutate hread)
      rw [huser]
      refine ⟨?_, userId?_updateCurrentUser cache user⟩
      unfold updateCurrentUser
      split <;> rfl
  · refine fun hname => hkeep ?_
    rcases hname with hname | hnone
    · exact Mutation.ofFrame_of_mem_tidings hname
    · show Mutation.ofFrame (name, data) = .keep
      unfold Mutation.ofFrame
      rw [hnone]

end Cache

end ChatGateway
