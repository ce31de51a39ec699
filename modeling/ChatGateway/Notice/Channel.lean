import ChatGateway.Entity.Member

/-!
What the service reports about channels besides the channels themselves.
-/

namespace ChatGateway

structure ChannelPinsUpdate where
  guildId : Option Snowflake := none
  channelId : Snowflake
  lastPinTimestamp : Option String := none
  deriving DecidableEq, Repr, Inhabited

namespace ChannelPinsUpdate

def record : Record ChannelPinsUpdate :=
  ChannelPinsUpdate.mk
    <$> Record.optional "guild_id" Snowflake.decode
    <*> Record.required "channel_id" Snowflake.decode
    <*> Record.optional "last_pin_timestamp" Decoder.string

def decode : Decoder ChannelPinsUpdate := record.decode "ChannelPinsUpdate"

def toJson (c : ChannelPinsUpdate) : Json :=
  .object [
    ("guild_id", .ofOption Snowflake.toJson c.guildId),
    ("channel_id", c.channelId.toJson),
    ("last_pin_timestamp", .ofOption .string c.lastPinTimestamp)]

end ChannelPinsUpdate

structure WebhooksUpdate where
  guildId : Snowflake
  channelId : Snowflake
  deriving DecidableEq, Repr, Inhabited

namespace WebhooksUpdate

def record : Record WebhooksUpdate :=
  WebhooksUpdate.mk
    <$> Record.required "guild_id" Snowflake.decode
    <*> Record.required "channel_id" Snowflake.decode

def decode : Decoder WebhooksUpdate := record.decode "WebhooksUpdate"

def toJson (w : WebhooksUpdate) : Json :=
  .object [
    ("guild_id", w.guildId.toJson),
    ("channel_id", w.channelId.toJson)]

end WebhooksUpdate

structure TypingStart where
  channelId : Snowflake
  guildId : Option Snowflake := none
  userId : Snowflake
  /-- Unix seconds. -/
  timestamp : UInt64
  member : Option Member := none
  deriving DecidableEq, Repr, Inhabited

namespace TypingStart

def record : Record TypingStart :=
  TypingStart.mk
    <$> Record.required "channel_id" Snowflake.decode
    <*> Record.optional "guild_id" Snowflake.decode
    <*> Record.required "user_id" Snowflake.decode
    <*> Record.required "timestamp" Decoder.u64
    <*> Record.optional "member" Member.decode

def decode : Decoder TypingStart := record.decode "TypingStart"

def toJson (t : TypingStart) : Json :=
  .object [
    ("channel_id", t.channelId.toJson),
    ("guild_id", .ofOption Snowflake.toJson t.guildId),
    ("user_id", t.userId.toJson),
    ("timestamp", .ofNat t.timestamp.toNat),
    ("member", .ofOption Member.toJson t.member)]

end TypingStart

end ChatGateway
