import ChatGateway.Proofs.Cache.Lookups
import ChatGateway.Proofs.Cache.MessageList

/-!
What a handler is told of the cache. An event carries an entity as it is in the cache once the frame
is taken in, or as it was before the frame took it out (`Event.Shows`). In a cache where everything
stands under its own identifier, which is every cache after a history of frames, each frame that can
be read makes such an event under its own name. Only a message that is not cached and a count that
overflows make no event (`answers_applyKind`, `event_shows`).
-/

namespace ChatGateway

open Cache (read?)

namespace EventKind

def reads (kind : EventKind) (data : Json) : Bool :=
  match kind with
  | .resumed => true
  | .ready => (read? ReadyEvent.decode data).isSome
  | .channelCreate | .channelUpdate | .channelDelete => (read? Channel.decode data).isSome
  | .channelPinsUpdate => (read? ChannelPinsUpdate.decode data).isSome
  | .guildCreate | .guildUpdate => (read? Guild.decode data).isSome
  | .guildDelete => (read? UnavailableGuild.decode data).isSome
  | .guildBanAdd | .guildBanRemove => (read? GuildBan.decode data).isSome
  | .guildEmojisUpdate => (read? GuildEmojisUpdate.decode data).isSome
  | .guildIntegrationsUpdate => (read? GuildIntegrationsUpdate.decode data).isSome
  | .guildMemberAdd => (read? GuildMemberAdd.decode data).isSome
  | .guildMemberRemove => (read? GuildMemberRemove.decode data).isSome
  | .guildMemberUpdate => (read? GuildMemberUpdate.decode data).isSome
  | .guildMembersChunk => (read? GuildMembersChunk.decode data).isSome
  | .guildRoleCreate | .guildRoleUpdate => (read? GuildRole.decode data).isSome
  | .guildRoleDelete => (read? GuildRoleDelete.decode data).isSome
  | .messageCreate => (read? Message.decode data).isSome
  | .messageUpdate => (read? MessageUpdate.decode data).isSome
  | .messageDelete => (read? MessageDelete.decode data).isSome
  | .messageDeleteBulk => (read? MessageDeleteBulk.decode data).isSome
  | .reactionAdd | .reactionRemove => (read? MessageReaction.decode data).isSome
  | .reactionRemoveAll => (read? MessageReactionRemoveAll.decode data).isSome
  | .presenceUpdate => (read? PresenceUpdate.decode data).isSome
  | .typingStart => (read? TypingStart.decode data).isSome
  | .userUpdate => (read? User.decode data).isSome
  | .webhooksUpdate => (read? WebhooksUpdate.decode data).isSome

/-- The message without which a frame of this kind makes no event. -/
def subject? (kind : EventKind) (data : Json) : Option Snowflake :=
  match kind with
  | .messageUpdate => (read? MessageUpdate.decode data).map (·.id)
  | .messageDelete => (read? MessageDelete.decode data).map (·.id)
  | .reactionAdd | .reactionRemove => (read? MessageReaction.decode data).map (·.messageId)
  | .reactionRemoveAll => (read? MessageReactionRemoveAll.decode data).map (·.messageId)
  | _ => none

end EventKind

/-- What an event carries is what the caches before and after the frame have of it, under the
identifiers that the data of the frame name. -/
def Event.Shows (before after : Cache) (data : Json) : Event → Prop
  | .ready session => read? ReadyEvent.decode data = some session ∧
      after.currentUser = some session.user
  | .channelCreate channel | .channelUpdate channel => read? Channel.decode data = some channel ∧
      after.channel? channel.id = some channel
  | .channelDelete channel => ∃ named, read? Channel.decode data = some named ∧
      channel.id = named.id ∧ channel = (before.channel? channel.id).getD named ∧
      after.channel? channel.id = none
  | .channelPinsUpdate channel => ∃ update, read? ChannelPinsUpdate.decode data = some update ∧
      channel.id = update.channelId ∧ after.channel? channel.id = some channel
  | .guildCreate guild => ∃ sent, read? Guild.decode data = some sent ∧ guild = Cache.tag sent ∧
      after.guild? guild.id = some { guild with channels := [] } ∧
      -- of several channels with one identifier the last one is stored
      ∀ earlier channel later, guild.channels = earlier ++ channel :: later →
        (∀ other ∈ later, other.id ≠ channel.id) →
          channel.guildId = some guild.id ∧ after.channel? channel.id = some channel
  | .guildUpdate guild => ∃ sent, read? Guild.decode data = some sent ∧ guild.id = sent.id ∧
      after.guild? guild.id = some guild
  | .guildDelete guild => ∃ gone, read? UnavailableGuild.decode data = some gone ∧
      guild.id = gone.id ∧
      guild = { (before.guild? gone.id).getD (.placeholder gone.id) with unavailable := true } ∧
      after.guild? guild.id = none
  | .guildMemberAdd member => ∃ joined, read? GuildMemberAdd.decode data = some joined ∧
      member = { joined.member with guildId := some joined.guildId } ∧
      ∀ user, member.id? = some user → after.member? joined.guildId user = some member
  | .guildMemberUpdate member => ∃ update, read? GuildMemberUpdate.decode data = some update ∧
      member.guildId = some update.guildId ∧ member.id? = some update.user.id ∧
      after.member? update.guildId update.user.id = some member
  | .guildMemberRemove guild user member => ∃ left,
      read? GuildMemberRemove.decode data = some left ∧ guild = left.guildId ∧ user = left.user ∧
      member = before.member? guild user.id ∧ after.member? guild user.id = none
  | .guildRoleDelete guild id role => ∃ change, read? GuildRoleDelete.decode data = some change ∧
      guild = change.guildId ∧ id = change.roleId ∧
      role = (before.guild? guild).bind (·.roles.get? id) ∧
      (after.guild? guild).bind (·.roles.get? id) = none
  | .messageCreate message => read? Message.decode data = some message ∧
      after.message? message.id = some message
  | .messageUpdate old new => ∃ update, read? MessageUpdate.decode data = some update ∧
      old.id = update.id ∧ new.id = update.id ∧
      before.message? old.id = some old ∧ after.message? new.id = some new
  | .messageDelete message => ∃ gone, read? MessageDelete.decode data = some gone ∧
      message.id = gone.id ∧ before.message? message.id = some message ∧
      after.message? message.id = none
  | .messageDeleteBulk messages => ∃ gone, read? MessageDeleteBulk.decode data = some gone ∧
      messages = gone.ids.eraseDups.filterMap before.message? ∧
      ∀ id ∈ gone.ids, after.message? id = none
  | .reactionAdd message reaction | .reactionRemove message reaction =>
      read? MessageReaction.decode data = some reaction ∧ message.id = reaction.messageId ∧
      after.message? message.id = some message
  | .reactionRemoveAll message => ∃ cleared,
      read? MessageReactionRemoveAll.decode data = some cleared ∧
      message.id = cleared.messageId ∧ after.message? message.id = some message
  -- the other events carry what the frame says
  | .resumed => after = before
  | .guildBanAdd ban | .guildBanRemove ban => read? GuildBan.decode data = some ban
  | .guildEmojisUpdate update => read? GuildEmojisUpdate.decode data = some update
  | .guildIntegrationsUpdate update => read? GuildIntegrationsUpdate.decode data = some update
  | .guildMembersChunk chunk => read? GuildMembersChunk.decode data = some chunk
  | .guildRoleCreate change | .guildRoleUpdate change => read? GuildRole.decode data = some change
  | .presenceUpdate update => read? PresenceUpdate.decode data = some update
  | .typingStart typing => read? TypingStart.decode data = some typing
  | .userUpdate user => read? User.decode data = some user
  | .webhooksUpdate update => read? WebhooksUpdate.decode data = some update
  | .unknown _ sent => sent = data ∧ after = before

namespace MessageStore

/-- Of the messages that are to be removed those are answered that are there, each of them once. -/
theorem removed_eraseAll (store : MessageStore) (ids : List Snowflake) :
    (store.eraseAll ids).2 = ids.eraseDups.filterMap store.get? := by
  induction ids generalizing store with
  | nil => rfl
  | cons id rest ih =>
      show (store.get? id).toList ++ ((store.erase id).eraseAll rest).2 = _
      rw [ih]
      exact (MessageList.filterMap_eraseDups_cons id rest
        fun other => store.get?_erase other id).symm

end MessageStore

namespace Cache

variable {cache : Cache} {data : Json}

/-! ### Entities that are carried -/

section Entities

variable (h : cache.Coherent)

include h

theorem shows_channelDelete {channel : Channel} (hread : read? Channel.decode data = some channel) :
    (Event.channelDelete ((cache.channel? channel.id).getD channel)).Shows cache
      (cache.removeChannel channel.id).1 data := by
  have hid : ((cache.channel? channel.id).getD channel).id = channel.id := by
    cases hknown : cache.channel? channel.id with
    | none => rfl
    | some known => exact h.channels.of_get? hknown
  refine ⟨channel, hread, hid, ?_, ?_⟩
  · rw [hid]
  · rw [hid]
    simp

theorem shows_channelPinsUpdate {update : ChannelPinsUpdate}
    (hread : read? ChannelPinsUpdate.decode data = some update) :
    (Event.channelPinsUpdate (cache.updateChannelPins update).2).Shows cache
      (cache.updateChannelPins update).1 data := by
  have hafter : (cache.updateChannelPins update).1.channel? update.channelId =
      some (cache.updateChannelPins update).2 := by
    simp
  have hid : (cache.updateChannelPins update).2.id = update.channelId :=
    (h.updateChannelPins update).channels.of_get? hafter
  refine ⟨update, hread, hid, ?_⟩
  rw [hid]
  exact hafter

theorem shows_guildDelete {gone : UnavailableGuild}
    (hread : read? UnavailableGuild.decode data = some gone) :
    (Event.guildDelete
      { (cache.guild? gone.id).getD (.placeholder gone.id) with unavailable := true }).Shows cache
      (cache.removeGuild gone.id).1 data := by
  have hid : ((cache.guild? gone.id).getD (.placeholder gone.id)).id = gone.id := by
    cases hknown : cache.guild? gone.id with
    | none => rfl
    | some known => exact (h.guilds.of_get? hknown).1
  refine ⟨gone, hread, hid, rfl, ?_⟩
  dsimp only
  rw [hid]
  simp

/-- A message that is changed is answered as it was and as it is. -/
theorem found_modifyMessage {id : Snowflake} {f : Message → Message}
    (hf : ∀ message, (f message).id = message.id) {old new : Message}
    (hfound : (cache.modifyMessage id f).2 = some (old, new)) :
    old.id = id ∧ new.id = id ∧ cache.message? old.id = some old ∧
      (cache.modifyMessage id f).1.message? new.id = some new := by
  obtain ⟨message, hmessage, hpair⟩ := Option.map_eq_some_iff.1 hfound
  cases hpair
  have hold : old.id = id := h.messages.of_get? hmessage
  have hnew : (f old).id = id := (hf old).trans hold
  refine ⟨hold, hnew, ?_, ?_⟩
  · rw [hold]
    exact hmessage
  · rw [hnew, message?_modifyMessage, if_pos rfl, hmessage]
    rfl

theorem shows_messageDelete {gone : MessageDelete} {message : Message}
    (hread : read? MessageDelete.decode data = some gone)
    (hfound : cache.message? gone.id = some message) :
    (Event.messageDelete message).Shows cache (cache.removeMessage gone.id).1 data := by
  have hid : message.id = gone.id := h.messages.of_get? hfound
  refine ⟨gone, hread, hid, ?_, ?_⟩
  · rw [hid]
    exact hfound
  · show (cache.messages.erase gone.id).get? message.id = none
    rw [MessageStore.get?_erase, if_pos hid]

end Entities

theorem shows_guildCreate {guild : Guild} (hread : read? Guild.decode data = some guild) :
    (Event.guildCreate (tag guild)).Shows cache (cache.insertGuild guild).1 data := by
  refine ⟨guild, hread, rfl, ?_, ?_⟩
  · simp [tag]
  · intro earlier channel later hchannels hlast
    refine ⟨?_, cache.channel?_insertGuild guild hchannels hlast⟩
    have hmem : channel ∈ (tag guild).channels := by
      rw [hchannels]
      simp
    obtain ⟨untagged, -, rfl⟩ := List.mem_map.1 hmem
    rfl

theorem shows_guildMemberAdd {joined : GuildMemberAdd}
    (hread : read? GuildMemberAdd.decode data = some joined) :
    (Event.guildMemberAdd (cache.upsertMember joined.guildId joined.member).2).Shows cache
      (cache.upsertMember joined.guildId joined.member).1 data := by
  have hmember : (cache.upsertMember joined.guildId joined.member).2 =
      { joined.member with guildId := some joined.guildId } := by
    unfold upsertMember
    dsimp only
    split <;> rfl
  refine ⟨joined, hread, hmember, ?_⟩
  rw [hmember]
  intro user huser
  have hown : joined.member.id? = some user := huser
  rw [cache.member?_upsertMember joined.guildId hown]
  simp

theorem shows_guildRoleDelete {change : GuildRoleDelete}
    (hread : read? GuildRoleDelete.decode data = some change) :
    (Event.guildRoleDelete change.guildId change.roleId
      (cache.removeRole change.guildId change.roleId).2).Shows cache
      (cache.removeRole change.guildId change.roleId).1 data := by
  refine ⟨change, hread, rfl, rfl, rfl, ?_⟩
  show ((cache.modifyGuild change.guildId _).guild? change.guildId).bind _ = none
  rw [guild?_modifyGuild]
  cases cache.guild? change.guildId with
  | none => simp
  | some known => simp [Table.get?_erase]

theorem shows_messageDeleteBulk {gone : MessageDeleteBulk}
    (hread : read? MessageDeleteBulk.decode data = some gone) :
    (Event.messageDeleteBulk (cache.removeMessages gone.ids).2).Shows cache
      (cache.removeMessages gone.ids).1 data := by
  refine ⟨gone, hread, cache.messages.removed_eraseAll gone.ids, fun id hid => ?_⟩
  show (cache.messages.eraseAll gone.ids).1.get? id = none
  rw [MessageStore.get?_eraseAll, if_pos hid]

/-! ### Frames and their events -/

/-- What a frame of a name comes to: an event of the same name that shows the caches before and
after, or none if the message that it cannot do without is not cached, or a count overflows. -/
def Answers (cache : Cache) (name : String) (data : Json) (subject : Option Snowflake)
    (overflows : Bool) : Option (Cache × Event) → Prop
  | some (after, event) => event.name = name ∧ event.Shows cache after data
  | none => (∃ id, subject = some id ∧ cache.message? id = none) ∨ overflows = true

section Answers

variable {α β : Type} {decode : Decoder α} {name : String} {subject : Option Snowflake}
  {overflows : Bool} (hread : (read? decode data).isSome)

include hread

theorem answers_of_map {made : α → Cache × Event} (hname : ∀ a, (made a).2.name = name)
    (hshows : ∀ a, read? decode data = some a → (made a).2.Shows cache (made a).1 data) :
    cache.Answers name data subject overflows ((read? decode data).map made) := by
  obtain ⟨a, ha⟩ := Option.isSome_iff_exists.1 hread
  rw [ha]
  exact ⟨hname a, hshows a ha⟩

/-- A frame that makes an event of the message that it finds. -/
theorem answers_of_bind (found : α → Option β) (made : α → β → Event) {id : α → Snowflake}
    {changed : α → Cache} (hnone : ∀ a, read? decode data = some a → found a = none →
      cache.message? (id a) = none ∨ overflows = true)
    (hname : ∀ a b, (made a b).name = name)
    (hshows : ∀ a b, read? decode data = some a → found a = some b →
      (made a b).Shows cache (changed a) data) :
    cache.Answers name data ((read? decode data).map id) overflows
      ((read? decode data).bind fun a => (found a).bind fun b => some (changed a, made a b)) := by
  obtain ⟨a, ha⟩ := Option.isSome_iff_exists.1 hread
  rw [ha, Option.bind_some]
  cases hfound : found a with
  | none => exact (hnone a ha hfound).imp (fun hnone => ⟨id a, rfl, hnone⟩) fun hover => hover
  | some b => exact ⟨hname a b, hshows a b ha hfound⟩

/-- A frame that changes the reactions to the message that it finds, which is shown as it is now. -/
theorem answers_of_react (h : cache.Coherent) (id : α → Snowflake)
    (react : α → List Reaction → List Reaction) (found : α → Option Message)
    (made : α → Message → Event) (hname : ∀ a message, (made a message).name = name)
    (hshows : ∀ a message after, read? decode data = some a → message.id = id a →
      after.message? message.id = some message → (made a message).Shows cache after data)
    (hnone : ∀ a, read? decode data = some a → found a = none →
      cache.message? (id a) = none ∨ overflows = true) :
    let changed := fun a => cache.modifyMessage (id a) fun message =>
      { message with reactions := react a message.reactions }
    (∀ a message, found a = some message → (changed a).2.map (·.2) = some message) →
    cache.Answers name data ((read? decode data).map id) overflows
      ((read? decode data).bind fun a => (found a).bind fun message =>
        some ((changed a).1, made a message)) := by
  intro changed hfinds
  refine answers_of_bind hread found made hnone hname ?_
  intro a message ha hfound
  obtain ⟨⟨old, new⟩, hchange, heq⟩ := Option.map_eq_some_iff.1 (hfinds a message hfound)
  cases heq
  have hids : ∀ message : Message,
      ({ message with reactions := react a message.reactions } : Message).id = message.id :=
    fun _ => rfl
  obtain ⟨-, hid, -, hafter⟩ := found_modifyMessage h hids hchange
  exact hshows a new (changed a).1 ha hid hafter

/-- If the frame does so whenever the message is there, nothing overflows. -/
theorem answers_of_react_found (h : cache.Coherent) (id : α → Snowflake)
    (react : α → List Reaction → List Reaction) (made : α → Message → Event)
    (hname : ∀ a message, (made a message).name = name)
    (hshows : ∀ a message after, read? decode data = some a → message.id = id a →
      after.message? message.id = some message → (made a message).Shows cache after data) :
    let changed := fun a => cache.modifyMessage (id a) fun message =>
      { message with reactions := react a message.reactions }
    cache.Answers name data ((read? decode data).map id) overflows
      ((read? decode data).bind fun a => ((changed a).2.map (·.2)).bind fun message =>
        some ((changed a).1, made a message)) :=
  answers_of_react hread h id react _ made hname hshows
    (fun _ _ hnone => .inl (Option.map_eq_none_iff.1 (Option.map_eq_none_iff.1 hnone)))
    fun _ _ hfound => hfound

end Answers

/-- In a cache where everything stands under its own identifier, a frame that can be read makes an
event that shows the cache, unless it is about a message that is not cached, or a count overflows.
-/
theorem answers_applyKind (h : cache.Coherent) {kind : EventKind} (hreads : kind.reads data) :
    cache.Answers kind.name data (kind.subject? data) (cache.overflowsKind kind data)
      (cache.applyKind kind data) := by
  cases kind with
  | resumed => exact ⟨rfl, rfl⟩
  | ready =>
      exact answers_of_map hreads (fun _ => rfl) fun ready hread =>
        ⟨hread, (guildsOnly_welcome cache ready).currentUser⟩
  | channelCreate | channelUpdate =>
      exact answers_of_map hreads (fun _ => rfl) fun channel hread => ⟨hread, by simp⟩
  | channelDelete =>
      exact answers_of_map hreads (fun _ => rfl) fun _ hread => shows_channelDelete h hread
  | channelPinsUpdate =>
      exact answers_of_map hreads (fun _ => rfl) fun _ hread => shows_channelPinsUpdate h hread
  | guildCreate => exact answers_of_map hreads (fun _ => rfl) fun _ => shows_guildCreate
  | guildUpdate =>
      exact answers_of_map hreads (fun _ => rfl) fun guild hread =>
        ⟨guild, hread, rfl, (cache.guild?_updateGuild guild.id guild).trans (if_pos rfl)⟩
  | guildDelete =>
      exact answers_of_map hreads (fun _ => rfl) fun _ hread => shows_guildDelete h hread
  | guildMemberAdd => exact answers_of_map hreads (fun _ => rfl) fun _ => shows_guildMemberAdd
  | guildMemberRemove =>
      exact answers_of_map hreads (fun _ => rfl) fun left hread =>
        ⟨left, hread, rfl, rfl, rfl, by simp⟩
  | guildMemberUpdate =>
      exact answers_of_map hreads (fun _ => rfl) fun update hread =>
        ⟨update, hread, rfl, rfl, by simp⟩
  | guildRoleDelete => exact answers_of_map hreads (fun _ => rfl) fun _ => shows_guildRoleDelete
  | messageCreate =>
      exact answers_of_map hreads (fun _ => rfl) fun message hread =>
        ⟨hread, cache.messages.get?_insert_self message⟩
  | messageUpdate =>
      refine answers_of_bind hreads (fun update => (cache.updateMessage update).2)
        (fun _ change => .messageUpdate change.1 change.2)
        (fun _ _ hnone => .inl (Option.map_eq_none_iff.1 hnone)) (fun _ _ => rfl) ?_
      intro update change hread hfound
      have hids : ∀ message, (patch update message).id = message.id := fun _ => rfl
      exact ⟨update, hread, found_modifyMessage h hids hfound⟩
  | messageDelete =>
      exact answers_of_bind hreads (fun gone => cache.message? gone.id)
        (fun _ message => .messageDelete message) (fun _ _ hnone => .inl hnone) (fun _ _ => rfl)
        fun _ _ hread hfound => shows_messageDelete h hread hfound
  | messageDeleteBulk =>
      exact answers_of_map hreads (fun _ => rfl) fun _ => shows_messageDeleteBulk
  | reactionAdd =>
      rw [applyKind_reactionAdd]
      refine answers_of_react hreads h (·.messageId)
        (fun reaction => Reactions.added reaction.emoji (cache.isCurrentUser reaction.userId))
        cache.counted? (fun reaction message => .reactionAdd message reaction) (fun _ _ => rfl)
        (fun _ _ _ hread hid hafter => ⟨hread, hid, hafter⟩) ?_
        fun _ _ hcounted => counted?_eq_some hcounted
      intro reaction hread hnone
      rw [overflowsKind, hread]
      exact (counted?_eq_none_iff.1 hnone).imp_right Option.isNone_iff_eq_none.2
  | reactionRemove =>
      exact answers_of_react_found hreads h (·.messageId)
        (fun reaction => Reactions.remove reaction.emoji (cache.isCurrentUser reaction.userId))
        (fun reaction message => .reactionRemove message reaction) (fun _ _ => rfl)
        fun _ _ _ hread hid hafter => ⟨hread, hid, hafter⟩
  | reactionRemoveAll =>
      exact answers_of_react_found hreads h (·.messageId) (fun _ _ => [])
        (fun _ message => .reactionRemoveAll message) (fun _ _ => rfl)
        fun cleared _ _ hread hid hafter => ⟨cleared, hread, hid, hafter⟩
  | _ => exact answers_of_map hreads (fun _ => rfl) fun _ hread => hread

/-- What a handler is given is the view of the cache. After every history a frame that can be read
makes an event of its own name that shows the cache before and after it, and it makes none only if
it is about a message that is not cached, or breaks off because a count overflows. A frame that is
not understood counts as one that can be read. -/
theorem event_shows (capacity : Nat) (history : List Dispatched) (name : String) (data : Json)
    (hreads : ∀ kind, EventKind.ofName? name = some kind → kind.reads data) :
    let before := (empty capacity).applyAll history
    match before.apply name data with
    | some (after, event) => event.name = name ∧ event.Shows before after data
    | none => (∃ kind id, EventKind.ofName? name = some kind ∧ kind.subject? data = some id ∧
        before.message? id = none) ∨ before.overflows name data = true := by
  intro before
  have hcoherent : before.Coherent := (coherent_empty capacity).applyAll history
  unfold apply
  cases hkind : EventKind.ofName? name with
  | none => exact ⟨rfl, rfl, rfl⟩
  | some kind =>
      have hanswers := answers_applyKind hcoherent (hreads kind hkind)
      rw [EventKind.name_of_ofName? hkind] at hanswers
      dsimp only
      cases happly : before.applyKind kind data with
      | some made =>
          rw [happly] at hanswers
          exact hanswers
      | none =>
          rw [happly] at hanswers
          rcases hanswers with ⟨id, hsubject, hnone⟩ | hover
          · exact .inl ⟨kind, id, rfl, hsubject, hnone⟩
          · rw [overflows, hkind]
            exact .inr hover

def threeMessages : List Dispatched :=
  ["1", "2", "3"].map fun id =>
    ("MESSAGE_CREATE", .object [("id", .string id), ("channel_id", .string "5")])

def bulkData : Json :=
  .object [("channel_id", .string "5"),
    ("ids", .array [.string "2", .string "1", .string "9", .string "2"])]

theorem event_shows_bulk :
    let before := (empty 10).applyAll threeMessages
    (∀ kind, EventKind.ofName? "MESSAGE_DELETE_BULK" = some kind → kind.reads bulkData) ∧
      ∃ after event, before.apply "MESSAGE_DELETE_BULK" bulkData = some (after, event) ∧
        after.messageIds = [⟨"3"⟩] ∧ event.name = "MESSAGE_DELETE_BULK" ∧
        event.Shows before after bulkData := by
  have hkind : EventKind.ofName? "MESSAGE_DELETE_BULK" = some .messageDeleteBulk := by decide
  have hreads : ∀ kind, EventKind.ofName? "MESSAGE_DELETE_BULK" = some kind →
      kind.reads bulkData := by
    intro kind hother
    rw [hkind] at hother
    cases hother
    decide +kernel
  have hleft : (((empty 10).applyAll threeMessages).apply "MESSAGE_DELETE_BULK" bulkData).map
      (fun made => made.1.messageIds) = some [⟨"3"⟩] := by
    decide +kernel
  obtain ⟨⟨after, event⟩, happly, hafter⟩ := Option.map_eq_some_iff.1 hleft
  have hshows := event_shows 10 threeMessages "MESSAGE_DELETE_BULK" bulkData hreads
  dsimp only at hshows
  rw [happly] at hshows
  exact ⟨hreads, after, event, happly, hafter, hshows⟩

end Cache

end ChatGateway
