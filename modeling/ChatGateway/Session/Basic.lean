import ChatGateway.Config.Basic
import ChatGateway.Protocol.Command

/-!
A session with the gateway. It outlives its connections: the position, which is the session's
identifier and the last sequence number, is kept so that a session can be taken up on a new
connection.
-/

namespace ChatGateway

/-- Where a session stands. -/
inductive Phase where
  | connecting
  | awaitingHello
  | identifying
  | resuming
  | ready
  | disconnected
  | reconnecting
  deriving DecidableEq, Repr

namespace Phase

def name : Phase → String
  | .connecting => "Connecting"
  | .awaitingHello => "AwaitingHello"
  | .identifying => "Identifying"
  | .resuming => "Resuming"
  | .ready => "Ready"
  | .disconnected => "Disconnected"
  | .reconnecting => "Reconnecting"

end Phase

/-- The writing end of a connection. -/
structure Link where
  /-- The number of the connection. -/
  connection : Nat
  /-- Every write fails. -/
  broken : Bool := false
  /-- The gateway has closed the connection, and nobody hears a farewell. -/
  dismissed : Bool := false
  deriving DecidableEq, Repr

structure Session where
  phase : Phase := .disconnected
  /-- Set while the connection is being replaced. -/
  reconnecting : Bool := false
  sessionId : Option String := none
  /-- The number of the last numbered frame. -/
  sequence : Option Int64 := none
  /-- Milliseconds between two heartbeats. -/
  interval : UInt64 := 0
  /-- The last heartbeat has been acknowledged. -/
  acked : Bool := true
  link : Option Link := none
  /-- The heartbeat loop that is to be stopped with the session. -/
  heart : Option Nat := none
  deriving DecidableEq, Repr

namespace Session

/-- Takes over the number of a frame. The number -1 stands for none. -/
def number (session : Session) : Option Int64 → Session
  | some n => { session with sequence := if n = -1 then none else some n }
  | none => session

/-- Gives up the position, so that nothing of it gets into a new session. -/
def forget (session : Session) : Session := { session with sessionId := none, sequence := none }

end Session

inductive Order where
  | reconnect
  | shutdown
  deriving DecidableEq, Repr

/-- The code and the reason with which a connection is closed. -/
structure Farewell where
  code : Nat
  reason : String
  deriving DecidableEq, Repr

/-- What the client says when it leaves a connection for another one. -/
def Farewell.reconnecting : Farewell := ⟨4000, "reconnecting"⟩

/-- How a connection is left. -/
inductive Exit where
  /-- For another one, after some milliseconds. -/
  | reconnect (delay : Nat)
  | shutdown
  | fatal (error : ClientError)
  deriving DecidableEq, Repr

namespace Exit

/-- What is left to do when a connection is lost. -/
def lost (config : Config) : Exit := .reconnect config.reconnectDelay.toNat

/-- What is left to do when the gateway closes a connection. A refused token cannot be mended by
another connection, nor can an invalid shard, version or choice of events. -/
def ofFarewell (config : Config) : Option Farewell → Exit
  | some farewell =>
    if farewell.code = 4004 then .fatal (.authentication farewell.reason)
    else if 4010 ≤ farewell.code ∧ farewell.code ≤ 4014 then
      .fatal (.closed farewell.code farewell.reason)
    else lost config
  | none => lost config

end Exit

/-- An attempt to connect again. -/
structure Retry where
  /-- The number of the attempt, from 1 on. -/
  attempt : Nat
  /-- Milliseconds before the attempt. -/
  delay : Nat
  deriving DecidableEq, Repr

namespace Retry

def limit (config : Config) : Nat := max 1 config.maxReconnectAttempts.toNat

/-- The attempt after one that failed: the wait doubles, and after none at all it is the configured
one. -/
def next? (config : Config) (retry : Retry) : Option Retry :=
  if limit config ≤ retry.attempt then none
  else
    let delay := if retry.delay = 0 then config.reconnectDelay.toNat else 2 * retry.delay
    some ⟨retry.attempt + 1, delay⟩

end Retry

end ChatGateway
