import ChatGateway.Decode.Record
import ChatGateway.Snowflake

/-!
Channels of the service, inside a guild or private.
-/

namespace ChatGateway

/-- A channel; one that is known only by its identifier has all other parts empty. -/
structure Channel where
  id : Snowflake
  kind : UInt8 := 0
  guildId : Option Snowflake := none
  name : Option String := none
  position : Option Int64 := none
  topic : Option String := none
  nsfw : Option Bool := none
  lastMessageId : Option Snowflake := none
  lastPinTimestamp : Option String := none
  parentId : Option Snowflake := none
  rateLimitPerUser : Option UInt32 := none
  deriving DecidableEq, Repr, Inhabited

namespace Channel

def record : Record Channel :=
  Channel.mk
    <$> Record.required "id" Snowflake.decode
    <*> Record.defaulted "type" Decoder.u8 0
    <*> Record.optional "guild_id" Snowflake.decode
    <*> Record.optional "name" Decoder.string
    <*> Record.optional "position" Decoder.i64
    <*> Record.optional "topic" Decoder.string
    <*> Record.optional "nsfw" Decoder.bool
    <*> Record.optional "last_message_id" Snowflake.decode
    <*> Record.optional "last_pin_timestamp" Decoder.string
    <*> Record.optional "parent_id" Snowflake.decode
    <*> Record.optional "rate_limit_per_user" Decoder.u32

def decode : Decoder Channel := record.decode "Channel"

def toJson (c : Channel) : Json :=
  .object [
    ("id", c.id.toJson),
    ("type", .ofNat c.kind.toNat),
    ("guild_id", .ofOption Snowflake.toJson c.guildId),
    ("name", .ofOption .string c.name),
    ("position", .ofOption (fun n => .int n.toInt) c.position),
    ("topic", .ofOption .string c.topic),
    ("nsfw", .ofOption .bool c.nsfw),
    ("last_message_id", .ofOption Snowflake.toJson c.lastMessageId),
    ("last_pin_timestamp", .ofOption .string c.lastPinTimestamp),
    ("parent_id", .ofOption Snowflake.toJson c.parentId),
    ("rate_limit_per_user", .ofOption (fun n => .ofNat n.toNat) c.rateLimitPerUser)]

end Channel

end ChatGateway
