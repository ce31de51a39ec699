import ChatGateway.Entity.Presence
import ChatGateway.Json.Printer
import ChatGateway.Protocol.Opcode

/-!
What a client sends to the gateway, and the text of its frames.
-/

namespace ChatGateway

structure Hello where
  /-- Milliseconds. -/
  heartbeatInterval : UInt64
  deriving DecidableEq, Repr, Inhabited

namespace Hello

def record : Record Hello :=
  Hello.mk
    <$> Record.required "heartbeat_interval" Decoder.u64

def decode : Decoder Hello := record.decode "HelloWsMessage"

def toJson (h : Hello) : Json :=
  .object [
    ("heartbeat_interval", .ofNat h.heartbeatInterval.toNat)]

end Hello

/-- How the client describes itself. -/
structure IdentityProperties where
  os : String
  browser : String
  device : String
  deriving DecidableEq, Repr, Inhabited

namespace IdentityProperties

def record : Record IdentityProperties :=
  IdentityProperties.mk
    <$> Record.required "os" Decoder.string
    <*> Record.required "browser" Decoder.string
    <*> Record.required "device" Decoder.string

def decode : Decoder IdentityProperties := record.decode "IdentityProperties"

def toJson (i : IdentityProperties) : Json :=
  .object [
    ("os", .string i.os),
    ("browser", .string i.browser),
    ("device", .string i.device)]

end IdentityProperties

structure Identify where
  token : String
  intents : UInt64
  properties : IdentityProperties
  compress : Bool
  /-- From how many members on a guild leaves out those who are offline. -/
  largeThreshold : UInt8
  deriving DecidableEq, Repr, Inhabited

namespace Identify

def record : Record Identify :=
  Identify.mk
    <$> Record.required "token" Decoder.string
    <*> Record.required "intents" Decoder.u64
    <*> Record.required "properties" IdentityProperties.decode
    <*> Record.required "compress" Decoder.bool
    <*> Record.required "large_threshold" Decoder.u8

def decode : Decoder Identify := record.decode "IdentityGatewayMessage"

def toJson (i : Identify) : Json :=
  .object [
    ("token", .string i.token),
    ("intents", .ofNat i.intents.toNat),
    ("properties", i.properties.toJson),
    ("compress", .bool i.compress),
    ("large_threshold", .ofNat i.largeThreshold.toNat)]

end Identify

structure Resume where
  token : String
  sessionId : String
  seq : Option Int64 := none
  deriving DecidableEq, Repr, Inhabited

namespace Resume

def record : Record Resume :=
  Resume.mk
    <$> Record.required "token" Decoder.string
    <*> Record.required "session_id" Decoder.string
    <*> Record.optional "seq" Decoder.i64

def decode : Decoder Resume := record.decode "ResumeGatewayMessage"

def toJson (r : Resume) : Json :=
  .object [
    ("token", .string r.token),
    ("session_id", .string r.sessionId),
    ("seq", .ofOption (fun n => .int n.toInt) r.seq)]

end Resume

/-- A sequence number as the data of a heartbeat. -/
def sequenceToJson (sequence : Option Int64) : Json := .ofOption (fun n => .int n.toInt) sequence

def decodeSequence : Decoder (Option Int64) := Decoder.option Decoder.i64

/-- The text of a frame that is sent. -/
def outboundText (op : Opcode) (data : Json) : String :=
  Json.render (.object [("op", op.toJson), ("d", data)])

/-- What a client tells the gateway. -/
inductive Command where
  | heartbeat (sequence : Option Int64)
  | identify (who : Identify)
  | presence (shown : Presence)
  | resume (position : Resume)
  deriving DecidableEq, Repr

namespace Command

def op : Command → Opcode
  | .heartbeat _ => .heartbeat
  | .identify _ => .identify
  | .presence _ => .presenceUpdate
  | .resume _ => .resume

def data : Command → Json
  | .heartbeat sequence => sequenceToJson sequence
  | .identify who => who.toJson
  | .presence shown => shown.toJson
  | .resume position => position.toJson

def text (command : Command) : String := outboundText command.op command.data

example : (Command.heartbeat (some 5)).text = "\x7b\"op\":1,\"d\":5\x7d" := by decide +kernel

end Command

end ChatGateway
