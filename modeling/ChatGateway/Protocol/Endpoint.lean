import ChatGateway.Decode.Record

/-!
Where to connect, and how often a session may still be started.
-/

namespace ChatGateway

structure SessionStartLimit where
  total : UInt64
  remaining : UInt64
  /-- Milliseconds after which the limit resets. -/
  resetAfter : UInt64
  maxConcurrency : UInt64 := 1
  deriving DecidableEq, Repr, Inhabited

namespace SessionStartLimit

def record : Record SessionStartLimit :=
  SessionStartLimit.mk
    <$> Record.required "total" Decoder.u64
    <*> Record.required "remaining" Decoder.u64
    <*> Record.required "reset_after" Decoder.u64
    <*> Record.defaulted "max_concurrency" Decoder.u64 1

def decode : Decoder SessionStartLimit := record.decode "SessionStartLimit"

def toJson (s : SessionStartLimit) : Json :=
  .object [
    ("total", .ofNat s.total.toNat),
    ("remaining", .ofNat s.remaining.toNat),
    ("reset_after", .ofNat s.resetAfter.toNat),
    ("max_concurrency", .ofNat s.maxConcurrency.toNat)]

end SessionStartLimit

structure GatewayEndpoint where
  url : String
  shards : UInt64
  sessionStartLimit : SessionStartLimit
  deriving DecidableEq, Repr, Inhabited

namespace GatewayEndpoint

def record : Record GatewayEndpoint :=
  GatewayEndpoint.mk
    <$> Record.required "url" Decoder.string
    <*> Record.required "shards" Decoder.u64
    <*> Record.required "session_start_limit" SessionStartLimit.decode

def decode : Decoder GatewayEndpoint := record.decode "BotGatewayEndpoint"

def toJson (g : GatewayEndpoint) : Json :=
  .object [
    ("url", .string g.url),
    ("shards", .ofNat g.shards.toNat),
    ("session_start_limit", g.sessionStartLimit.toJson)]

end GatewayEndpoint

end ChatGateway
