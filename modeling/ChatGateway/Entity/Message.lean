import ChatGateway.Entity.Emoji
import ChatGateway.Entity.Member

/-!
Messages and the reactions to them.
-/

namespace ChatGateway

/-- How many users reacted to a message with one emoji. -/
structure Reaction where
  count : UInt32
  /-- Whether the current user is among those who reacted. -/
  me : Bool := false
  emoji : Emoji
  deriving DecidableEq, Repr, Inhabited

namespace Reaction

def record : Record Reaction :=
  Reaction.mk
    <$> Record.required "count" Decoder.u32
    <*> Record.defaulted "me" Decoder.bool false
    <*> Record.required "emoji" Emoji.decode

def decode : Decoder Reaction := record.decode "Reaction"

def toJson (r : Reaction) : Json :=
  .object [
    ("count", .ofNat r.count.toNat),
    ("me", .bool r.me),
    ("emoji", r.emoji.toJson)]

end Reaction

structure Message where
  id : Snowflake
  channelId : Snowflake
  guildId : Option Snowflake := none
  author : Option User := none
  member : Option Member := none
  content : String := ""
  timestamp : Option String := none
  editedTimestamp : Option String := none
  tts : Bool := false
  mentionEveryone : Bool := false
  pinned : Bool := false
  reactions : List Reaction := []
  deriving DecidableEq, Repr, Inhabited

namespace Message

def record : Record Message :=
  Message.mk
    <$> Record.required "id" Snowflake.decode
    <*> Record.required "channel_id" Snowflake.decode
    <*> Record.optional "guild_id" Snowflake.decode
    <*> Record.optional "author" User.decode
    <*> Record.optional "member" Member.decode
    <*> Record.defaulted "content" Decoder.string ""
    <*> Record.optional "timestamp" Decoder.string
    <*> Record.optional "edited_timestamp" Decoder.string
    <*> Record.defaulted "tts" Decoder.bool false
    <*> Record.defaulted "mention_everyone" Decoder.bool false
    <*> Record.defaulted "pinned" Decoder.bool false
    <*> Record.defaulted "reactions" (Decoder.list Reaction.decode) []

def decode : Decoder Message := record.decode "Message"

def toJson (m : Message) : Json :=
  .object [
    ("id", m.id.toJson),
    ("channel_id", m.channelId.toJson),
    ("guild_id", .ofOption Snowflake.toJson m.guildId),
    ("author", .ofOption User.toJson m.author),
    ("member", .ofOption Member.toJson m.member),
    ("content", .string m.content),
    ("timestamp", .ofOption .string m.timestamp),
    ("edited_timestamp", .ofOption .string m.editedTimestamp),
    ("tts", .bool m.tts),
    ("mention_everyone", .bool m.mentionEveryone),
    ("pinned", .bool m.pinned),
    ("reactions", .ofList Reaction.toJson m.reactions)]

end Message

end ChatGateway
