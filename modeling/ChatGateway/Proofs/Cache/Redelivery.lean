import ChatGateway.Proofs.Cache.Membership

/-!
Frames that are received twice. What a mutation writes does not depend on what it has written
itself, except where reactions are counted: tables are written over with the same entries, what is
taken out is gone, and what is patched keeps what the patch leaves out. So carrying a mutation out
again changes nothing (`mutate_mutate`), be it that the second time takes another way through the
code than the first, as with a message that was new and is known now.
-/

namespace ChatGateway

namespace MessageStore

variable (store : MessageStore)

/-- A message that has just been put in is known, so it is only written over. -/
theorem insert_insert (message : Message) :
    (store.insert message).insert message = store.insert message := by
  have hknown : ((store.insert message).get? message.id).isSome := by
    rw [get?_insert_self]
    rfl
  rw [insert, if_pos hknown]
  have htable : (store.insert message).table.insert message.id message =
      (store.insert message).table := by
    unfold insert
    split
    next => exact Table.insert_insert ..
    next => exact Table.insert_insert ..
  rw [htable]

theorem modify_modify (id : Snowflake) (f g : Message → Message) :
    (store.modify id f).modify id g = store.modify id (g ∘ f) := by
  simp only [modify, Table.modify_modify]

theorem eraseAll_of_none {store : MessageStore} {ids : List Snowflake}
    (hnone : ∀ id ∈ ids, store.get? id = none) : (store.eraseAll ids).1 = store := by
  induction ids with
  | nil => rfl
  | cons id rest ih =>
      have hstore : store.erase id = store := by
        simp [erase, hnone id List.mem_cons_self]
      show ((store.erase id).eraseAll rest).1 = store
      rw [hstore]
      exact ih fun later hlater => hnone later (List.mem_cons_of_mem _ hlater)

theorem eraseAll_eraseAll (ids : List Snowflake) :
    ((store.eraseAll ids).1.eraseAll ids).1 = (store.eraseAll ids).1 :=
  eraseAll_of_none fun id hid => by rw [get?_eraseAll, if_pos hid]

end MessageStore

namespace Mutation

def Counts : Mutation → Prop
  | .react _ (.add ..) | .react _ (.remove ..) => True
  | _ => False

theorem not_counts_read {α : Type} (decode : Decoder α) (data : Json) {ask : α → Mutation}
    (hask : ∀ a, ¬ (ask a).Counts) : ¬ (read decode data ask).Counts := by
  unfold read
  split
  next a _ => exact hask a
  next => exact id

theorem not_counts_ofFrame {frame : Dispatched} (hadd : frame.1 ≠ "MESSAGE_REACTION_ADD")
    (hremove : frame.1 ≠ "MESSAGE_REACTION_REMOVE") : ¬ (ofFrame frame).Counts := by
  unfold ofFrame
  cases hkind : EventKind.ofName? frame.1 with
  | none => exact id
  | some kind =>
      have hname := EventKind.name_of_ofName? hkind
      cases kind with
      | reactionAdd => exact absurd hname.symm hadd
      | reactionRemove => exact absurd hname.symm hremove
      | resumed | guildBanAdd | guildBanRemove | guildIntegrationsUpdate | presenceUpdate
      | typingStart | webhooksUpdate => exact id
      | _ => exact not_counts_read _ _ fun _ => id

end Mutation

namespace Cache

variable (cache : Cache)

/-! ### Writes in a row as one -/

theorem insertGuilds_eq (guilds : List Guild) :
    cache.insertGuilds guilds = { cache with
      channels := cache.channels.insertAll (guilds.flatMap channelEntries)
      members := cache.members.insertAll (guilds.flatMap memberEntries)
      guilds := cache.guilds.insertAll
        (guilds.map fun guild => (guild.id, { tag guild with channels := [] })) } := by
  induction guilds generalizing cache with
  | nil => rfl
  | cons guild rest ih =>
      show (cache.insertGuild guild).1.insertGuilds rest = _
      rw [ih, insertGuild_eq]
      simp only [List.flatMap_cons, Table.insertAll_append]
      rfl

/-- The members that can be addressed, as they are stored. -/
def addressed (guild : Snowflake) (members : List Member) : List (Snowflake × Member) :=
  members.filterMap fun member =>
    member.id?.map fun user => (user, { member with guildId := some guild })

theorem upsertMembers_eq (guild : Snowflake) (members : List Member) :
    cache.upsertMembers guild members = { cache with
      guilds := cache.guilds.modify guild fun g =>
        { g with members := g.members.insertAll (addressed guild members) }
      members := cache.members.insertAll
        ((addressed guild members).map fun e => (⟨guild, e.1⟩, e.2)) } := by
  induction members generalizing cache with
  | nil =>
      have hsame : cache.guilds.modify guild id = cache.guilds := Table.modify_id ..
      show cache = { cache with guilds := cache.guilds.modify guild id }
      rw [hsame]
  | cons member rest ih =>
      show (cache.upsertMember guild member).1.upsertMembers guild rest = _
      rw [ih]
      cases huser : member.id? with
      | none =>
          have hskipped : addressed guild (member :: rest) = addressed guild rest := by
            simp [addressed, huser]
          rw [cache.upsertMember_of_none huser, hskipped]
      | some user =>
          have hfirst : addressed guild (member :: rest) =
              (user, { member with guildId := some guild }) :: addressed guild rest := by
            simp [addressed, huser]
          have htagged : { member with guildId := some guild }.id? = some user := huser
          rw [hfirst]
          simp only [upsertMember, htagged, modifyGuild, Table.modify_modify]
          rfl

/-! ### The current user and channels, twice -/

theorem updateCurrentUser_twice (user : User) :
    (cache.updateCurrentUser user).updateCurrentUser user = cache.updateCurrentUser user := by
  by_cases hme : cache.isCurrentUser user.id
  · have hset : cache.updateCurrentUser user = cache.setCurrentUser user := if_pos hme
    have hnow : (cache.setCurrentUser user).isCurrentUser user.id = true := by
      simp [isCurrentUser, setCurrentUser]
    rw [hset, updateCurrentUser, if_pos hnow]
    rfl
  · have hsame : cache.updateCurrentUser user = cache := if_neg hme
    rw [hsame, hsame]

theorem updateChannelPins_twice (update : ChannelPinsUpdate) :
    ((cache.updateChannelPins update).1.updateChannelPins update).1 =
      (cache.updateChannelPins update).1 := by
  have hknown : (cache.updateChannelPins update).1.channel? update.channelId =
      some (cache.updateChannelPins update).2 := by
    simp
  have hpinned : { (cache.updateChannelPins update).2 with
      lastPinTimestamp := update.lastPinTimestamp
      guildId := update.guildId <|> (cache.updateChannelPins update).2.guildId } =
        (cache.updateChannelPins update).2 := by
    cases hguild : update.guildId <;> simp [updateChannelPins, hguild]
  rw [updateChannelPins, hknown, Option.getD_some, hpinned]
  simp [updateChannelPins, Table.insert_insert]

/-! ### Guilds and members, twice -/

theorem insertGuilds_twice (guilds : List Guild) :
    (cache.insertGuilds guilds).insertGuilds guilds = cache.insertGuilds guilds := by
  rw [insertGuilds_eq, insertGuilds_eq]
  simp only [Table.insertAll_insertAll]

theorem welcome_twice (ready : ReadyEvent) :
    (cache.welcome ready).welcome ready = cache.welcome ready := by
  rw [welcome_eq, welcome_eq, insertGuilds_eq, insertGuilds_eq]
  simp only [setCurrentUser, Table.insertAll_insertAll]

theorem updateGuild_twice (guild : Guild) :
    ((cache.updateGuild guild).1.updateGuild guild).1 = (cache.updateGuild guild).1 := by
  have hknown : (cache.updateGuild guild).1.guild? guild.id = some (cache.updateGuild guild).2 := by
    simp
  have hmembers : (if guild.members.isEmpty then (cache.updateGuild guild).2.members
      else guild.members) = (cache.updateGuild guild).2.members := by
    cases hempty : guild.members.isEmpty with
    | true => simp
    | false => cases hbefore : cache.guild? guild.id <;> simp [updateGuild, hbefore, hempty]
  rw [updateGuild, hknown]
  dsimp only
  rw [hmembers]
  simp [updateGuild, Table.insert_insert]

theorem removeGuild_twice (id : Snowflake) :
    ((cache.removeGuild id).1.removeGuild id).1 = (cache.removeGuild id).1 := by
  simp only [removeGuild, Table.erase_erase, Table.filter_filter]

theorem modifyGuild_twice (guild : Snowflake) {f : Guild → Guild} (hf : ∀ g, f (f g) = f g) :
    (cache.modifyGuild guild f).modifyGuild guild f = cache.modifyGuild guild f := by
  have htwice : f ∘ f = f := funext hf
  simp only [modifyGuild, Table.modify_modify, htwice]

theorem upsertMembers_twice (guild : Snowflake) (members : List Member) :
    (cache.upsertMembers guild members).upsertMembers guild members =
      cache.upsertMembers guild members := by
  rw [upsertMembers_eq, upsertMembers_eq]
  simp only [Table.modify_modify, Table.insertAll_insertAll, Function.comp_def]

theorem updateMember_twice (update : GuildMemberUpdate) :
    ((cache.updateMember update).1.updateMember update).1 = (cache.updateMember update).1 := by
  let known := (cache.member? update.guildId update.user.id).getD {}
  let patched : Member := { known with
    user := some update.user
    roles := update.roles
    nick := update.nick <|> known.nick }
  have hknown : (cache.updateMember update).1.member? update.guildId update.user.id =
      some { patched with guildId := some update.guildId } := by
    rw [member?_updateMember, if_pos ⟨rfl, rfl⟩]
    rfl
  have hpatched : ({ { patched with guildId := some update.guildId } with
      user := some update.user
      roles := update.roles
      nick := update.nick <|> patched.nick } : Member) =
        { patched with guildId := some update.guildId } := by
    cases hnick : update.nick <;> simp [patched, hnick]
  rw [updateMember, hknown, Option.getD_some]
  dsimp only
  rw [hpatched]
  -- the guild is put on the member in any case
  exact cache.upsertMembers_twice update.guildId [patched]

theorem removeMember_twice (guild user : Snowflake) :
    ((cache.removeMember guild user).1.removeMember guild user).1 =
      (cache.removeMember guild user).1 := by
  simp only [removeMember, modifyGuild, Table.modify_modify, Table.erase_erase, Function.comp_def]

/-! ### Messages, twice -/

theorem patch_patch (update : MessageUpdate) (message : Message) :
    patch update (patch update message) = patch update message := by
  have hvalue : ∀ {α : Type} (new : Option α) (old : α),
      new.getD (new.getD old) = new.getD old := by
    intro α new old
    cases new <;> rfl
  have hoption : ∀ new old : Option String, (new <|> new <|> old) = (new <|> old) := by
    intro new old
    cases new <;> rfl
  simp only [patch, hvalue, hoption]

theorem modifyMessage_twice (id : Snowflake) {f : Message → Message} (hf : ∀ m, f (f m) = f m) :
    ((cache.modifyMessage id f).1.modifyMessage id f).1 = (cache.modifyMessage id f).1 := by
  have htwice : f ∘ f = f := funext hf
  simp only [modifyMessage, MessageStore.modify_modify, htwice]

/-! ### Frames, twice -/

/-- Carrying out a mutation that does not count reactions again changes nothing. -/
theorem mutate_mutate (mutation : Mutation) (hcounts : ¬ mutation.Counts) :
    (cache.mutate mutation).mutate mutation = cache.mutate mutation := by
  cases mutation with
  | keep => rfl
  | welcome ready => exact cache.welcome_twice ready
  | putChannel channel => simp only [mutate, upsertChannel, Table.insert_insert]
  | dropChannel id => simp only [mutate, removeChannel, Table.erase_erase]
  | pinChannel update => exact cache.updateChannelPins_twice update
  | putGuild guild => exact cache.insertGuilds_twice [guild]
  | renewGuild guild => exact cache.updateGuild_twice guild
  | dropGuild id => exact cache.removeGuild_twice id
  | putEmojis guild emojis => exact cache.modifyGuild_twice guild fun _ => rfl
  | putRole guild role =>
      refine cache.modifyGuild_twice guild fun g => ?_
      simp only [Table.insert_insert]
  | dropRole guild role =>
      refine cache.modifyGuild_twice guild fun g => ?_
      simp only [Table.erase_erase]
  | putMembers guild members => exact cache.upsertMembers_twice guild members
  | renewMember update => exact cache.updateMember_twice update
  | dropMember guild user => exact cache.removeMember_twice guild user
  | putMessage message => simp only [mutate, insertMessage, MessageStore.insert_insert]
  | renewMessage update =>
      exact cache.modifyMessage_twice update.id (patch_patch update)
  | dropMessages ids => simp only [mutate, removeMessages, MessageStore.eraseAll_eraseAll]
  | react id change =>
      cases change with
      | add | remove => exact absurd trivial hcounts
      | clear => exact cache.modifyMessage_twice id fun _ => rfl
  | renewUser user => exact cache.updateCurrentUser_twice user

theorem next_next {frame : Dispatched} (hadd : frame.1 ≠ "MESSAGE_REACTION_ADD")
    (hremove : frame.1 ≠ "MESSAGE_REACTION_REMOVE") :
    (cache.next frame).next frame = cache.next frame := by
  rw [next_eq_mutate, next_eq_mutate]
  exact cache.mutate_mutate _ (Mutation.not_counts_ofFrame hadd hremove)

end Cache

namespace Dispatcher

theorem cache_dispatch (dispatcher : Dispatcher) (cache : Cache) (name : String) (data : Json) :
    (dispatcher.dispatch cache name data).2.1 = cache.next (name, data) := by
  unfold dispatch Cache.next
  cases cache.apply name data <;> rfl

/-- A frame that is received again leaves the cache exactly as it left it the first time, unless it
counts a reaction. -/
theorem dispatch_again (dispatcher : Dispatcher) (cache : Cache) (name : String) (data : Json)
    (hadd : name ≠ "MESSAGE_REACTION_ADD") (hremove : name ≠ "MESSAGE_REACTION_REMOVE") :
    let (next, once, _) := dispatcher.dispatch cache name data
    (next.dispatch once name data).2.1 = once := by
  dsimp only
  rw [cache_dispatch, cache_dispatch]
  exact cache.next_next hadd hremove

/-- The first time a new message takes the place of the oldest one; the second time it is known. -/
theorem dispatch_again_full :
    let data : Json := .object [("id", .string "2"), ("channel_id", .string "3")]
    let cache := (Cache.empty 1).insertMessage { id := ⟨"1"⟩, channelId := ⟨"3"⟩ }
    let (next, once, _) := (fresh 5).dispatch cache "MESSAGE_CREATE" data
    cache.messageIds = [⟨"1"⟩] ∧ once.messageIds = [⟨"2"⟩] ∧
      (next.dispatch once "MESSAGE_CREATE" data).2.1 = once := by
  intro data cache
  have hbefore : cache.messageIds = [⟨"1"⟩] := by decide +kernel
  have honce : ((fresh 5).dispatch cache "MESSAGE_CREATE" data).2.1.messageIds = [⟨"2"⟩] := by
    decide +kernel
  exact ⟨hbefore, honce,
    (fresh 5).dispatch_again cache "MESSAGE_CREATE" data (by decide) (by decide)⟩

end Dispatcher

end ChatGateway
