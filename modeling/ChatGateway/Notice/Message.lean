import ChatGateway.Entity.Emoji
import ChatGateway.Entity.Member

/-!
What the service reports about messages that exist already.
-/

namespace ChatGateway

/-- A change of a message; what is absent did not change. -/
structure MessageUpdate where
  id : Snowflake
  channelId : Snowflake
  guildId : Option Snowflake := none
  content : Option String := none
  editedTimestamp : Option String := none
  pinned : Option Bool := none
  mentionEveryone : Option Bool := none
  deriving DecidableEq, Repr, Inhabited

namespace MessageUpdate

def record : Record MessageUpdate :=
  MessageUpdate.mk
    <$> Record.required "id" Snowflake.decode
    <*> Record.required "channel_id" Snowflake.decode
    <*> Record.optional "guild_id" Snowflake.decode
    <*> Record.optional "content" Decoder.string
    <*> Record.optional "edited_timestamp" Decoder.string
    <*> Record.optional "pinned" Decoder.bool
    <*> Record.optional "mention_everyone" Decoder.bool

def decode : Decoder MessageUpdate := record.decode "MessageUpdate"

def toJson (m : MessageUpdate) : Json :=
  .object [
    ("id", m.id.toJson),
    ("channel_id", m.channelId.toJson),
    ("guild_id", .ofOption Snowflake.toJson m.guildId),
    ("content", .ofOption .string m.content),
    ("edited_timestamp", .ofOption .string m.editedTimestamp),
    ("pinned", .ofOption .bool m.pinned),
    ("mention_everyone", .ofOption .bool m.mentionEveryone)]

end MessageUpdate

structure MessageDelete where
  id : Snowflake
  channelId : Snowflake
  guildId : Option Snowflake := none
  deriving DecidableEq, Repr, Inhabited

namespace MessageDelete

def record : Record MessageDelete :=
  MessageDelete.mk
    <$> Record.required "id" Snowflake.decode
    <*> Record.required "channel_id" Snowflake.decode
    <*> Record.optional "guild_id" Snowflake.decode

def decode : Decoder MessageDelete := record.decode "MessageDelete"

def toJson (m : MessageDelete) : Json :=
  .object [
    ("id", m.id.toJson),
    ("channel_id", m.channelId.toJson),
    ("guild_id", .ofOption Snowflake.toJson m.guildId)]

end MessageDelete

structure MessageDeleteBulk where
  ids : List Snowflake
  channelId : Snowflake
  guildId : Option Snowflake := none
  deriving DecidableEq, Repr, Inhabited

namespace MessageDeleteBulk

def record : Record MessageDeleteBulk :=
  MessageDeleteBulk.mk
    <$> Record.required "ids" (Decoder.list Snowflake.decode)
    <*> Record.required "channel_id" Snowflake.decode
    <*> Record.optional "guild_id" Snowflake.decode

def decode : Decoder MessageDeleteBulk := record.decode "MessageDeleteBulk"

def toJson (m : MessageDeleteBulk) : Json :=
  .object [
    ("ids", .ofList Snowflake.toJson m.ids),
    ("channel_id", m.channelId.toJson),
    ("guild_id", .ofOption Snowflake.toJson m.guildId)]

end MessageDeleteBulk

/-- A user reacted to a message, or took the reaction back. -/
structure MessageReaction where
  userId : Snowflake
  channelId : Snowflake
  messageId : Snowflake
  guildId : Option Snowflake := none
  member : Option Member := none
  emoji : Emoji
  deriving DecidableEq, Repr, Inhabited

namespace MessageReaction

def record : Record MessageReaction :=
  MessageReaction.mk
    <$> Record.required "user_id" Snowflake.decode
    <*> Record.required "channel_id" Snowflake.decode
    <*> Record.required "message_id" Snowflake.decode
    <*> Record.optional "guild_id" Snowflake.decode
    <*> Record.optional "member" Member.decode
    <*> Record.required "emoji" Emoji.decode

def decode : Decoder MessageReaction := record.decode "MessageReaction"

def toJson (m : MessageReaction) : Json :=
  .object [
    ("user_id", m.userId.toJson),
    ("channel_id", m.channelId.toJson),
    ("message_id", m.messageId.toJson),
    ("guild_id", .ofOption Snowflake.toJson m.guildId),
    ("member", .ofOption Member.toJson m.member),
    ("emoji", m.emoji.toJson)]

end MessageReaction

structure MessageReactionRemoveAll where
  channelId : Snowflake
  messageId : Snowflake
  guildId : Option Snowflake := none
  deriving DecidableEq, Repr, Inhabited

namespace MessageReactionRemoveAll

def record : Record MessageReactionRemoveAll :=
  MessageReactionRemoveAll.mk
    <$> Record.required "channel_id" Snowflake.decode
    <*> Record.required "message_id" Snowflake.decode
    <*> Record.optional "guild_id" Snowflake.decode

def decode : Decoder MessageReactionRemoveAll := record.decode "MessageReactionRemoveAll"

def toJson (m : MessageReactionRemoveAll) : Json :=
  .object [
    ("channel_id", m.channelId.toJson),
    ("message_id", m.messageId.toJson),
    ("guild_id", .ofOption Snowflake.toJson m.guildId)]

end MessageReactionRemoveAll

end ChatGateway
