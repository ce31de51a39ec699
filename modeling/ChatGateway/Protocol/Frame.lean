import ChatGateway.Decode.Record
import ChatGateway.Protocol.Opcode

/-!
Frames that arrive from the gateway.
-/

namespace ChatGateway

/-- A frame of the gateway. The code is kept as a number, so that a frame with an unknown code is
still readable. -/
structure Frame where
  op : UInt8
  /-- What the frame carries. -/
  data : Json := .null
  /-- Numbers the events of a session. -/
  sequence : Option Int64 := none
  /-- The name of the event. -/
  event : Option String := none
  deriving Inhabited

namespace Frame

def record : Record Frame :=
  Frame.mk
    <$> Record.required "op" Decoder.u8
    <*> Record.defaulted "d" Decoder.value .null
    <*> Record.omissible "s" Decoder.i64
    <*> Record.omissible "t" Decoder.string

def decode : Decoder Frame := record.decode "GatewayPayload"

def toJson (f : Frame) : Json :=
  .object [
    ("op", .ofNat f.op.toNat),
    ("d", f.data),
    ("s", .ofOption (fun n => .int n.toInt) f.sequence),
    ("t", .ofOption .string f.event)]

end Frame

/-- What the frame is for, if the code is a known one. -/
def Frame.opcode? (f : Frame) : Option Opcode := Opcode.ofNat? f.op.toNat

def Frame.ofText (text : String) : Except DecodeError Frame := Decoder.ofText Frame.decode text

end ChatGateway
