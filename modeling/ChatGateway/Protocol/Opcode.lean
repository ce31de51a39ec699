import ChatGateway.Decode.Basic

/-!
The codes that tell what a frame of the gateway is for.
-/

namespace ChatGateway

inductive Opcode where
  /-- An event happened. -/
  | dispatch
  /-- A sign of life, with the last sequence number; also asks for one. -/
  | heartbeat
  /-- Starts a new session. -/
  | identify
  /-- Shows a presence. -/
  | presenceUpdate
  /-- Takes up an earlier session. -/
  | resume
  /-- Asks for a new connection. -/
  | reconnect
  /-- The session is void; the data tell whether it can be taken up. -/
  | invalidSession
  /-- Opens a connection, with the heartbeat interval. -/
  | hello
  /-- The last heartbeat arrived. -/
  | heartbeatAck
  deriving DecidableEq, Repr

namespace Opcode

def all : List Opcode :=
  [.dispatch, .heartbeat, .identify, .presenceUpdate, .resume, .reconnect, .invalidSession, .hello,
   .heartbeatAck]

def toNat : Opcode → Nat
  | .dispatch => 0
  | .heartbeat => 1
  | .identify => 2
  | .presenceUpdate => 3
  | .resume => 6
  | .reconnect => 7
  | .invalidSession => 9
  | .hello => 10
  | .heartbeatAck => 11

def ofNat? (n : Nat) : Option Opcode := all.find? fun op => op.toNat == n

def name : Opcode → String
  | .dispatch => "Dispatch"
  | .heartbeat => "Heartbeat"
  | .identify => "Identify"
  | .presenceUpdate => "PresenceUpdate"
  | .resume => "Resume"
  | .reconnect => "Reconnect"
  | .invalidSession => "InvalidSession"
  | .hello => "Hello"
  | .heartbeatAck => "HeartbeatAck"

def describe (op : Opcode) : String :=
  op.name ++ " (" ++ String.ofList (Decimal.write op.toNat) ++ ")"

def toJson (op : Opcode) : Json := .ofNat op.toNat

def decode : Decoder Opcode := fun o => do
  let n ← Decoder.u8 o
  match ofNat? n.toNat with
  | some op => .ok op
  | none => .error (.meaningless "op code" n.toNat)

@[simp] theorem ofNat?_toNat (op : Opcode) : ofNat? op.toNat = some op := by
  cases op <;> rfl

end Opcode

end ChatGateway
