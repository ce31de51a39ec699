import ChatGateway.Entity.Guild
import ChatGateway.Entity.Presence

/-!
What the service reports when a session begins, and changes of presence.
-/

namespace ChatGateway

structure PresenceUpdate where
  user : User
  guildId : Option Snowflake := none
  status : Option Status := none
  activities : List Activity := []
  deriving DecidableEq, Repr, Inhabited

namespace PresenceUpdate

def record : Record PresenceUpdate :=
  PresenceUpdate.mk
    <$> Record.required "user" User.decode
    <*> Record.optional "guild_id" Snowflake.decode
    <*> Record.omissible "status" Status.decode
    <*> Record.defaulted "activities" (Decoder.list Activity.decode) []

def decode : Decoder PresenceUpdate := record.decode "PresenceUpdate"

def toJson (p : PresenceUpdate) : Json :=
  .object [
    ("user", p.user.toJson),
    ("guild_id", .ofOption Snowflake.toJson p.guildId),
    ("status", .ofOption Status.toJson p.status),
    ("activities", .ofList Activity.toJson p.activities)]

end PresenceUpdate

structure ReadyEvent where
  apiVersion : UInt8
  /-- The current user. -/
  user : User
  guilds : List Guild := []
  sessionId : String
  resumeGatewayUrl : Option String := none
  shard : Option (List Int64) := none
  deriving DecidableEq, Inhabited

namespace ReadyEvent

def record : Record ReadyEvent :=
  ReadyEvent.mk
    <$> Record.required "v" Decoder.u8
    <*> Record.required "user" User.decode
    <*> Record.defaulted "guilds" (Decoder.list Guild.decode) []
    <*> Record.required "session_id" Decoder.string
    <*> Record.optional "resume_gateway_url" Decoder.string
    <*> Record.optional "shard" (Decoder.list Decoder.i64)

def decode : Decoder ReadyEvent := record.decode "ReadyEvent"

def toJson (r : ReadyEvent) : Json :=
  .object [
    ("v", .ofNat r.apiVersion.toNat),
    ("user", r.user.toJson),
    ("guilds", .ofList Guild.toJson r.guilds),
    ("session_id", .string r.sessionId),
    ("resume_gateway_url", .ofOption .string r.resumeGatewayUrl),
    ("shard", .ofOption (.ofList (fun n => .int n.toInt)) r.shard)]

end ReadyEvent

end ChatGateway
