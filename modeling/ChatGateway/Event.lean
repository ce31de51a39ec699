import ChatGateway.Entity.Message
import ChatGateway.Notice.Channel
import ChatGateway.Notice.Guild
import ChatGateway.Notice.Message
import ChatGateway.Notice.Session

/-!
Events that a handler can see. What an event carries is the view of the cache: after a change the
entity as it is now, after a deletion the entity as it was.
-/

namespace ChatGateway

/-- The events that are understood. -/
inductive EventKind where
  | ready
  | resumed
  | channelCreate
  | channelUpdate
  | channelDelete
  | channelPinsUpdate
  | guildCreate
  | guildUpdate
  | guildDelete
  | guildBanAdd
  | guildBanRemove
  | guildEmojisUpdate
  | guildIntegrationsUpdate
  | guildMemberAdd
  | guildMemberRemove
  | guildMemberUpdate
  | guildMembersChunk
  | guildRoleCreate
  | guildRoleUpdate
  | guildRoleDelete
  | messageCreate
  | messageUpdate
  | messageDelete
  | messageDeleteBulk
  | reactionAdd
  | reactionRemove
  | reactionRemoveAll
  | presenceUpdate
  | typingStart
  | userUpdate
  | webhooksUpdate
  deriving DecidableEq, Repr

namespace EventKind

def all : List EventKind :=
  [.ready, .resumed, .channelCreate, .channelUpdate, .channelDelete, .channelPinsUpdate,
   .guildCreate, .guildUpdate, .guildDelete, .guildBanAdd, .guildBanRemove, .guildEmojisUpdate,
   .guildIntegrationsUpdate, .guildMemberAdd, .guildMemberRemove, .guildMemberUpdate,
   .guildMembersChunk, .guildRoleCreate, .guildRoleUpdate, .guildRoleDelete, .messageCreate,
   .messageUpdate, .messageDelete, .messageDeleteBulk, .reactionAdd, .reactionRemove,
   .reactionRemoveAll, .presenceUpdate, .typingStart, .userUpdate, .webhooksUpdate]

def name : EventKind → String
  | .ready => "READY"
  | .resumed => "RESUMED"
  | .channelCreate => "CHANNEL_CREATE"
  | .channelUpdate => "CHANNEL_UPDATE"
  | .channelDelete => "CHANNEL_DELETE"
  | .channelPinsUpdate => "CHANNEL_PINS_UPDATE"
  | .guildCreate => "GUILD_CREATE"
  | .guildUpdate => "GUILD_UPDATE"
  | .guildDelete => "GUILD_DELETE"
  | .guildBanAdd => "GUILD_BAN_ADD"
  | .guildBanRemove => "GUILD_BAN_REMOVE"
  | .guildEmojisUpdate => "GUILD_EMOJIS_UPDATE"
  | .guildIntegrationsUpdate => "GUILD_INTEGRATIONS_UPDATE"
  | .guildMemberAdd => "GUILD_MEMBER_ADD"
  | .guildMemberRemove => "GUILD_MEMBER_REMOVE"
  | .guildMemberUpdate => "GUILD_MEMBER_UPDATE"
  | .guildMembersChunk => "GUILD_MEMBERS_CHUNK"
  | .guildRoleCreate => "GUILD_ROLE_CREATE"
  | .guildRoleUpdate => "GUILD_ROLE_UPDATE"
  | .guildRoleDelete => "GUILD_ROLE_DELETE"
  | .messageCreate => "MESSAGE_CREATE"
  | .messageUpdate => "MESSAGE_UPDATE"
  | .messageDelete => "MESSAGE_DELETE"
  | .messageDeleteBulk => "MESSAGE_DELETE_BULK"
  | .reactionAdd => "MESSAGE_REACTION_ADD"
  | .reactionRemove => "MESSAGE_REACTION_REMOVE"
  | .reactionRemoveAll => "MESSAGE_REACTION_REMOVE_ALL"
  | .presenceUpdate => "PRESENCE_UPDATE"
  | .typingStart => "TYPING_START"
  | .userUpdate => "USER_UPDATE"
  | .webhooksUpdate => "WEBHOOKS_UPDATE"

def ofName? (name : String) : Option EventKind := all.find? fun kind => kind.name == name

end EventKind

inductive Event where
  | ready (session : ReadyEvent)
  | resumed
  | channelCreate (channel : Channel)
  | channelUpdate (channel : Channel)
  /-- The channel as it was known. -/
  | channelDelete (channel : Channel)
  /-- The channel after its pins were recorded. -/
  | channelPinsUpdate (channel : Channel)
  | guildCreate (guild : Guild)
  | guildUpdate (guild : Guild)
  /-- Always unavailable, and no longer in the cache. -/
  | guildDelete (guild : Guild)
  | guildBanAdd (ban : GuildBan)
  | guildBanRemove (ban : GuildBan)
  | guildEmojisUpdate (update : GuildEmojisUpdate)
  | guildIntegrationsUpdate (update : GuildIntegrationsUpdate)
  | guildMemberAdd (member : Member)
  /-- The member, if it was known. -/
  | guildMemberRemove (guild : Snowflake) (user : User) (member : Option Member)
  | guildMemberUpdate (member : Member)
  | guildMembersChunk (chunk : GuildMembersChunk)
  | guildRoleCreate (change : GuildRole)
  | guildRoleUpdate (change : GuildRole)
  | guildRoleDelete (guild roleId : Snowflake) (role : Option Role)
  | messageCreate (message : Message)
  | messageUpdate (before after : Message)
  | messageDelete (message : Message)
  /-- Those that were in the cache. -/
  | messageDeleteBulk (messages : List Message)
  /-- The message once the reaction was counted. -/
  | reactionAdd (message : Message) (reaction : MessageReaction)
  | reactionRemove (message : Message) (reaction : MessageReaction)
  | reactionRemoveAll (message : Message)
  | presenceUpdate (update : PresenceUpdate)
  | typingStart (typing : TypingStart)
  | userUpdate (user : User)
  | webhooksUpdate (update : WebhooksUpdate)
  /-- An event that is not understood. -/
  | unknown (name : String) (data : Json)
  deriving Inhabited

namespace Event

/-- The kind of an event that is understood. -/
def kind? : Event → Option EventKind
  | .ready .. => some .ready
  | .resumed => some .resumed
  | .channelCreate .. => some .channelCreate
  | .channelUpdate .. => some .channelUpdate
  | .channelDelete .. => some .channelDelete
  | .channelPinsUpdate .. => some .channelPinsUpdate
  | .guildCreate .. => some .guildCreate
  | .guildUpdate .. => some .guildUpdate
  | .guildDelete .. => some .guildDelete
  | .guildBanAdd .. => some .guildBanAdd
  | .guildBanRemove .. => some .guildBanRemove
  | .guildEmojisUpdate .. => some .guildEmojisUpdate
  | .guildIntegrationsUpdate .. => some .guildIntegrationsUpdate
  | .guildMemberAdd .. => some .guildMemberAdd
  | .guildMemberRemove .. => some .guildMemberRemove
  | .guildMemberUpdate .. => some .guildMemberUpdate
  | .guildMembersChunk .. => some .guildMembersChunk
  | .guildRoleCreate .. => some .guildRoleCreate
  | .guildRoleUpdate .. => some .guildRoleUpdate
  | .guildRoleDelete .. => some .guildRoleDelete
  | .messageCreate .. => some .messageCreate
  | .messageUpdate .. => some .messageUpdate
  | .messageDelete .. => some .messageDelete
  | .messageDeleteBulk .. => some .messageDeleteBulk
  | .reactionAdd .. => some .reactionAdd
  | .reactionRemove .. => some .reactionRemove
  | .reactionRemoveAll .. => some .reactionRemoveAll
  | .presenceUpdate .. => some .presenceUpdate
  | .typingStart .. => some .typingStart
  | .userUpdate .. => some .userUpdate
  | .webhooksUpdate .. => some .webhooksUpdate
  | .unknown .. => none

/-- The name of an event on the gateway. -/
def name : Event → String
  | .unknown name _ => name
  | event => (event.kind?.map EventKind.name).getD ""

/-- What an event carries. -/
def data : Event → Json
  | .ready session => session.toJson
  | .resumed => .null
  | .channelCreate channel => channel.toJson
  | .channelUpdate channel => channel.toJson
  | .channelDelete channel => channel.toJson
  | .channelPinsUpdate channel => channel.toJson
  | .guildCreate guild => guild.toJson
  | .guildUpdate guild => guild.toJson
  | .guildDelete guild => guild.toJson
  | .guildBanAdd ban => ban.toJson
  | .guildBanRemove ban => ban.toJson
  | .guildEmojisUpdate update => update.toJson
  | .guildIntegrationsUpdate update => update.toJson
  | .guildMemberAdd member => member.toJson
  | .guildMemberRemove guild user member =>
    .object [("guild_id", guild.toJson), ("user", user.toJson),
      ("member", .ofOption Member.toJson member)]
  | .guildMemberUpdate member => member.toJson
  | .guildMembersChunk chunk => chunk.toJson
  | .guildRoleCreate change => change.toJson
  | .guildRoleUpdate change => change.toJson
  | .guildRoleDelete guild roleId role =>
    .object [("guild_id", guild.toJson), ("role_id", roleId.toJson),
      ("role", .ofOption Role.toJson role)]
  | .messageCreate message => message.toJson
  | .messageUpdate before after =>
    .object [("old", before.toJson), ("new", after.toJson)]
  | .messageDelete message => message.toJson
  | .messageDeleteBulk messages => .ofList Message.toJson messages
  | .reactionAdd message reaction =>
    .object [("message", message.toJson), ("reaction", reaction.toJson)]
  | .reactionRemove message reaction =>
    .object [("message", message.toJson), ("reaction", reaction.toJson)]
  | .reactionRemoveAll message => message.toJson
  | .presenceUpdate update => update.toJson
  | .typingStart typing => typing.toJson
  | .userUpdate user => user.toJson
  | .webhooksUpdate update => update.toJson
  | .unknown _ data => data

/-- The name of the hook that a handler can provide for an event, where there is one. -/
def hook? : Event → Option String
  | .ready _ => some "ready"
  | .resumed => some "resumed"
  | .guildCreate _ => some "guild_create"
  | .guildDelete _ => some "guild_delete"
  | .messageCreate _ => some "message_create"
  | .messageUpdate _ _ => some "message_update"
  | .messageDelete _ => some "message_delete"
  | .reactionAdd _ _ => some "reaction_add"
  | .reactionRemove _ _ => some "reaction_remove"
  | _ => none

end Event

end ChatGateway
