import ChatGateway.Cache.Basic
import ChatGateway.Event

/-!
What the frame of an event does to the cache, and the event that a handler sees. A frame whose data
do not decode, and a change of a message that is not cached, does nothing and makes no event.
Neither does a frame at which a count overflows, but that one also breaks off whatever takes it in.
-/

namespace ChatGateway.Cache

def read? {α : Type} (decode : Decoder α) (data : Json) : Option α :=
  (Decoder.ofValue decode data).toOption

/-- The session is ready: its user and its guilds become known. -/
def welcome (cache : Cache) (ready : ReadyEvent) : Cache :=
  ready.guilds.foldl (fun cache guild => (cache.insertGuild guild).1)
    (cache.setCurrentUser ready.user)

def upsertMembers (cache : Cache) (guild : Snowflake) (members : List Member) : Cache :=
  members.foldl (fun cache member => (cache.upsertMember guild member).1) cache

def applyKind (cache : Cache) (kind : EventKind) (data : Json) : Option (Cache × Event) :=
  match kind with
  | .ready => (read? ReadyEvent.decode data).map fun ready => (cache.welcome ready, .ready ready)
  | .resumed => some (cache, .resumed)
  | .channelCreate => (read? Channel.decode data).map fun channel =>
    (cache.upsertChannel channel, .channelCreate channel)
  | .channelUpdate => (read? Channel.decode data).map fun channel =>
    (cache.upsertChannel channel, .channelUpdate channel)
  | .channelDelete => (read? Channel.decode data).map fun channel =>
    let (cache, removed) := cache.removeChannel channel.id
    (cache, .channelDelete (removed.getD channel))
  | .channelPinsUpdate => (read? ChannelPinsUpdate.decode data).map fun update =>
    let (cache, channel) := cache.updateChannelPins update
    (cache, .channelPinsUpdate channel)
  | .guildCreate => (read? Guild.decode data).map fun guild =>
    let (cache, guild) := cache.insertGuild guild
    (cache, .guildCreate guild)
  | .guildUpdate => (read? Guild.decode data).map fun guild =>
    let (cache, guild) := cache.updateGuild guild
    (cache, .guildUpdate guild)
  | .guildDelete => (read? UnavailableGuild.decode data).map fun gone =>
    let (cache, removed) := cache.removeGuild gone.id
    (cache, .guildDelete { removed.getD (.placeholder gone.id) with unavailable := true })
  | .guildBanAdd => (read? GuildBan.decode data).map fun ban => (cache, .guildBanAdd ban)
  | .guildBanRemove => (read? GuildBan.decode data).map fun ban => (cache, .guildBanRemove ban)
  | .guildEmojisUpdate => (read? GuildEmojisUpdate.decode data).map fun update =>
    (cache.setGuildEmojis update.guildId update.emojis, .guildEmojisUpdate update)
  | .guildIntegrationsUpdate => (read? GuildIntegrationsUpdate.decode data).map fun update =>
    (cache, .guildIntegrationsUpdate update)
  | .guildMemberAdd => (read? GuildMemberAdd.decode data).map fun joined =>
    let (cache, member) := cache.upsertMember joined.guildId joined.member
    (cache, .guildMemberAdd member)
  | .guildMemberRemove => (read? GuildMemberRemove.decode data).map fun left =>
    let (cache, member) := cache.removeMember left.guildId left.user.id
    (cache, .guildMemberRemove left.guildId left.user member)
  | .guildMemberUpdate => (read? GuildMemberUpdate.decode data).map fun update =>
    let (cache, member) := cache.updateMember update
    (cache, .guildMemberUpdate member)
  | .guildMembersChunk => (read? GuildMembersChunk.decode data).map fun chunk =>
    (cache.upsertMembers chunk.guildId chunk.members, .guildMembersChunk chunk)
  | .guildRoleCreate => (read? GuildRole.decode data).map fun change =>
    (cache.upsertRole change.guildId change.role, .guildRoleCreate change)
  | .guildRoleUpdate => (read? GuildRole.decode data).map fun change =>
    (cache.upsertRole change.guildId change.role, .guildRoleUpdate change)
  | .guildRoleDelete => (read? GuildRoleDelete.decode data).map fun change =>
    let (cache, role) := cache.removeRole change.guildId change.roleId
    (cache, .guildRoleDelete change.guildId change.roleId role)
  | .messageCreate => (read? Message.decode data).map fun message =>
    (cache.insertMessage message, .messageCreate message)
  | .messageUpdate => do
    let update ← read? MessageUpdate.decode data
    let (cache, change) := cache.updateMessage update
    let (before, after) ← change
    return (cache, .messageUpdate before after)
  | .messageDelete => do
    let gone ← read? MessageDelete.decode data
    let (cache, removed) := cache.removeMessage gone.id
    return (cache, .messageDelete (← removed))
  | .messageDeleteBulk => (read? MessageDeleteBulk.decode data).map fun gone =>
    let (cache, removed) := cache.removeMessages gone.ids
    (cache, .messageDeleteBulk removed)
  | .reactionAdd => do
    let reaction ← read? MessageReaction.decode data
    let (cache, message) ← cache.addReaction reaction (cache.isCurrentUser reaction.userId)
    return (cache, .reactionAdd (← message) reaction)
  | .reactionRemove => do
    let reaction ← read? MessageReaction.decode data
    let (cache, message) := cache.removeReaction reaction (cache.isCurrentUser reaction.userId)
    return (cache, .reactionRemove (← message) reaction)
  | .reactionRemoveAll => do
    let cleared ← read? MessageReactionRemoveAll.decode data
    let (cache, message) := cache.clearReactions cleared.messageId
    return (cache, .reactionRemoveAll (← message))
  | .presenceUpdate => (read? PresenceUpdate.decode data).map fun update =>
    (cache, .presenceUpdate update)
  | .typingStart => (read? TypingStart.decode data).map fun typing => (cache, .typingStart typing)
  | .userUpdate => (read? User.decode data).map fun user =>
    (cache.updateCurrentUser user, .userUpdate user)
  | .webhooksUpdate => (read? WebhooksUpdate.decode data).map fun update =>
    (cache, .webhooksUpdate update)

def apply (cache : Cache) (name : String) (data : Json) : Option (Cache × Event) :=
  match EventKind.ofName? name with
  | some kind => cache.applyKind kind data
  | none => some (cache, .unknown name data)

/-- Whether a count overflows at an event that is understood. -/
def overflowsKind (cache : Cache) (kind : EventKind) (data : Json) : Bool :=
  match kind with
  | .reactionAdd =>
    match read? MessageReaction.decode data with
    | some reaction =>
      (cache.addReaction reaction (cache.isCurrentUser reaction.userId)).isNone
    | none => false
  | _ => false

/-- Whether a count overflows at a frame. -/
def overflows (cache : Cache) (name : String) (data : Json) : Bool :=
  match EventKind.ofName? name with
  | some kind => cache.overflowsKind kind data
  | none => false

end ChatGateway.Cache
