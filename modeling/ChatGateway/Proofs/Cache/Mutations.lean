import ChatGateway.Proofs.Cache.MessageFrames
import ChatGateway.Proofs.Cache.Tables

/-!
What frames ask of a cache. A frame is read once, into the mutation that it asks for; one that
cannot be read, and one that is only for handlers, asks for none. A cache takes in a frame by
carrying the mutation out (`next_eq_mutate`), so that what holds of every mutation holds of every
frame, and after every history.
-/

namespace ChatGateway

/-- What a frame asks of a cache. -/
inductive Mutation where
  | keep
  | welcome (ready : ReadyEvent)
  | putChannel (channel : Channel)
  | dropChannel (id : Snowflake)
  | pinChannel (update : ChannelPinsUpdate)
  | putGuild (guild : Guild)
  | renewGuild (guild : Guild)
  | dropGuild (id : Snowflake)
  | putEmojis (guild : Snowflake) (emojis : List Emoji)
  | putRole (guild : Snowflake) (role : Role)
  | dropRole (guild role : Snowflake)
  | putMembers (guild : Snowflake) (members : List Member)
  | renewMember (update : GuildMemberUpdate)
  | dropMember (guild user : Snowflake)
  | putMessage (message : Message)
  | renewMessage (update : MessageUpdate)
  | dropMessages (ids : List Snowflake)
  | react (id : Snowflake) (change : ReactionChange)
  | renewUser (user : User)

namespace Mutation

def read {α : Type} (decode : Decoder α) (data : Json) (ask : α → Mutation) : Mutation :=
  match Cache.read? decode data with
  | some a => ask a
  | none => .keep

def ofKind (kind : EventKind) (data : Json) : Mutation :=
  match kind with
  | .ready => read ReadyEvent.decode data .welcome
  | .channelCreate | .channelUpdate => read Channel.decode data .putChannel
  | .channelDelete => read Channel.decode data fun channel => .dropChannel channel.id
  | .channelPinsUpdate => read ChannelPinsUpdate.decode data .pinChannel
  | .guildCreate => read Guild.decode data .putGuild
  | .guildUpdate => read Guild.decode data .renewGuild
  | .guildDelete => read UnavailableGuild.decode data fun gone => .dropGuild gone.id
  | .guildEmojisUpdate => read GuildEmojisUpdate.decode data fun update =>
      .putEmojis update.guildId update.emojis
  | .guildMemberAdd => read GuildMemberAdd.decode data fun joined =>
      .putMembers joined.guildId [joined.member]
  | .guildMemberRemove => read GuildMemberRemove.decode data fun left =>
      .dropMember left.guildId left.user.id
  | .guildMemberUpdate => read GuildMemberUpdate.decode data .renewMember
  | .guildMembersChunk => read GuildMembersChunk.decode data fun chunk =>
      .putMembers chunk.guildId chunk.members
  | .guildRoleCreate | .guildRoleUpdate => read GuildRole.decode data fun change =>
      .putRole change.guildId change.role
  | .guildRoleDelete => read GuildRoleDelete.decode data fun change =>
      .dropRole change.guildId change.roleId
  | .messageCreate => read Message.decode data .putMessage
  | .messageUpdate => read MessageUpdate.decode data .renewMessage
  | .messageDelete => read MessageDelete.decode data fun gone => .dropMessages [gone.id]
  | .messageDeleteBulk => read MessageDeleteBulk.decode data fun gone => .dropMessages gone.ids
  | .reactionAdd => read MessageReaction.decode data fun reaction =>
      .react reaction.messageId (.add reaction.emoji reaction.userId)
  | .reactionRemove => read MessageReaction.decode data fun reaction =>
      .react reaction.messageId (.remove reaction.emoji reaction.userId)
  | .reactionRemoveAll => read MessageReactionRemoveAll.decode data fun cleared =>
      .react cleared.messageId .clear
  | .userUpdate => read User.decode data .renewUser
  -- what is left only tells the handler something
  | .resumed | .guildBanAdd | .guildBanRemove | .guildIntegrationsUpdate | .presenceUpdate
  | .typingStart | .webhooksUpdate => .keep

def ofFrame (frame : Dispatched) : Mutation :=
  match EventKind.ofName? frame.1 with
  | some kind => ofKind kind frame.2
  | none => .keep

end Mutation

namespace Cache

def mutate (cache : Cache) : Mutation → Cache
  | .keep => cache
  | .welcome ready => cache.welcome ready
  | .putChannel channel => cache.upsertChannel channel
  | .dropChannel id => (cache.removeChannel id).1
  | .pinChannel update => (cache.updateChannelPins update).1
  | .putGuild guild => (cache.insertGuild guild).1
  | .renewGuild guild => (cache.updateGuild guild).1
  | .dropGuild id => (cache.removeGuild id).1
  | .putEmojis guild emojis => cache.setGuildEmojis guild emojis
  | .putRole guild role => cache.upsertRole guild role
  | .dropRole guild role => (cache.removeRole guild role).1
  | .putMembers guild members => cache.upsertMembers guild members
  | .renewMember update => (cache.updateMember update).1
  | .dropMember guild user => (cache.removeMember guild user).1
  | .putMessage message => cache.insertMessage message
  | .renewMessage update => (cache.modifyMessage update.id (patch update)).1
  | .dropMessages ids => (cache.removeMessages ids).1
  | .react id change => (cache.modifyMessage id fun message =>
      { message with reactions := change.on cache.isCurrentUser message.reactions }).1
  | .renewUser user => cache.updateCurrentUser user

theorem removeMessage_of_none {cache : Cache} {id : Snowflake} (hnone : cache.message? id = none) :
    (cache.removeMessage id).1 = cache := by
  have hstore : cache.messages.get? id = none := hnone
  simp [removeMessage, MessageStore.erase, hstore]

section Next

variable {cache : Cache} {frame : Dispatched} {kind : EventKind} {α β : Type} {decode : Decoder α}
  {ask : α → Mutation} (hkind : EventKind.ofName? frame.1 = some kind)

include hkind

/-- A frame that makes an event of what it can read does what it asks for. -/
theorem next_of_map {made : α → Cache × Event}
    (happly : cache.applyKind kind frame.2 = (read? decode frame.2).map made)
    (hmade : ∀ a, (made a).1 = cache.mutate (ask a)) :
    cache.next frame = cache.mutate (.read decode frame.2 ask) := by
  rw [cache.next_of_kind hkind, happly, Mutation.read]
  cases read? decode frame.2 with
  | none => rfl
  | some a => exact hmade a

/-- So does a frame that makes an event only if it finds what it is about, since there is nothing to
do otherwise. -/
theorem next_of_bind (found : α → Option β) (made : α → β → Event) {changed : α → Cache}
    (happly : cache.applyKind kind frame.2 = (read? decode frame.2).bind fun a =>
      (found a).bind fun b => some (changed a, made a b))
    (hnone : ∀ a, found a = none → changed a = cache)
    (hchanged : ∀ a, changed a = cache.mutate (ask a)) :
    cache.next frame = cache.mutate (.read decode frame.2 ask) := by
  rw [cache.next_of_kind hkind, happly, Mutation.read]
  cases read? decode frame.2 with
  | none => rfl
  | some a =>
      dsimp only
      rw [← hchanged a, Option.bind_some]
      cases hfound : found a with
      | none => exact (hnone a hfound).symm
      | some b => rfl

end Next

/-- A cache takes in a frame by carrying out what the frame asks for. -/
theorem next_eq_mutate (cache : Cache) (frame : Dispatched) :
    cache.next frame = cache.mutate (.ofFrame frame) := by
  unfold Mutation.ofFrame
  cases hkind : EventKind.ofName? frame.1 with
  | none =>
      unfold next apply
      rw [hkind]
      rfl
  | some kind =>
      cases kind with
      | resumed =>
          rw [cache.next_of_kind hkind]
          rfl
      | guildBanAdd | guildBanRemove | guildIntegrationsUpdate | presenceUpdate | typingStart
      | webhooksUpdate =>
          rw [cache.next_of_kind hkind, applyKind]
          cases read? _ frame.2 <;> rfl
      | messageUpdate =>
          exact next_of_bind hkind (fun update => (cache.updateMessage update).2)
            (fun _ change => .messageUpdate change.1 change.2) rfl
            (fun _ hnone => modifyMessage_of_none hnone) fun _ => rfl
      | messageDelete =>
          exact next_of_bind hkind (fun gone => cache.message? gone.id)
            (fun _ message => .messageDelete message) rfl
            (fun _ hnone => removeMessage_of_none hnone) fun _ => rfl
      | reactionAdd =>
          exact next_of_bind hkind cache.counted?
            (fun reaction message => .reactionAdd message reaction)
            (applyKind_reactionAdd cache frame.2)
            (fun _ hnone => counting_of_counted?_eq_none hnone) fun _ => rfl
      | reactionRemove =>
          exact next_of_bind hkind
            (fun reaction =>
              (cache.removeReaction reaction (cache.isCurrentUser reaction.userId)).2)
            (fun reaction message => .reactionRemove message reaction) rfl
            (fun _ hnone => modifyMessage_of_none (Option.map_eq_none_iff.1 hnone)) fun _ => rfl
      | reactionRemoveAll =>
          exact next_of_bind hkind (fun cleared => (cache.clearReactions cleared.messageId).2)
            (fun _ message => .reactionRemoveAll message) rfl
            (fun _ hnone => modifyMessage_of_none (Option.map_eq_none_iff.1 hnone)) fun _ => rfl
      | _ => exact next_of_map hkind rfl fun _ => rfl

/-- What every mutation keeps that the frames of a history ask for holds after the history. -/
theorem applyAll_of_mutate {P : Cache → Prop} {cache : Cache} {frames : List Dispatched}
    (hstart : P cache)
    (hmutate : ∀ frame ∈ frames, ∀ cache : Cache, P cache → P (cache.mutate (.ofFrame frame))) :
    P (cache.applyAll frames) := by
  induction frames generalizing cache with
  | nil => exact hstart
  | cons frame rest ih =>
      rw [applyAll_cons, next_eq_mutate]
      exact ih (hmutate frame List.mem_cons_self cache hstart) fun later hlater =>
        hmutate later (List.mem_cons_of_mem _ hlater)

end Cache

end ChatGateway
