import ChatGateway.Error
import ChatGateway.Flags
import ChatGateway.Text.Blank

/-!
The configuration of a client, its defaults, and what makes it valid.
-/

namespace ChatGateway

structure Config where
  token : String
  intents : UInt64 := nonPrivilegedIntents
  /-- How many messages the cache keeps. -/
  messageCacheCount : UInt64 := 5000
  largeThreshold : UInt8 := 250
  compress : Bool := false
  /-- Milliseconds before reconnecting after a connection that was lost. -/
  reconnectDelay : UInt64 := 10000
  maxReconnectAttempts : UInt32 := 3
  /-- Milliseconds between a greeting and the resumption that answers it. -/
  resumeGrace : UInt64 := 1200
  /-- Milliseconds before a new session after one that became void. -/
  invalidSessionDelay : UInt64 := 1000
  /-- How many events wait for the session to be ready. -/
  deferredQueueCapacity : UInt64 := 1024
  deriving DecidableEq, Repr

namespace Config

/-- What makes a configuration invalid. -/
inductive Fault where
  | emptyToken
  | noMessages
  | noDeferredEvents
  | largeThreshold (n : UInt8)
  deriving DecidableEq, Repr

def Fault.message : Fault → String
  | .emptyToken => "the token is empty"
  | .noMessages => "message_cache_count must be at least 1"
  | .noDeferredEvents => "deferred_queue_capacity must be at least 1"
  | .largeThreshold n =>
    "large_threshold must be between 50 and 250, got " ++ String.ofList (Decimal.write n.toNat)

/-- The first fault of a configuration. -/
def fault? (config : Config) : Option Fault :=
  if Text.trim config.token.toList = [] then some .emptyToken
  else if config.messageCacheCount = 0 then some .noMessages
  else if config.deferredQueueCapacity = 0 then some .noDeferredEvents
  else if config.largeThreshold < 50 ∨ 250 < config.largeThreshold then
    some (.largeThreshold config.largeThreshold)
  else none

/-- A configuration that is valid. -/
def validate (config : Config) : Except ClientError Config :=
  match config.fault? with
  | some fault => .error (.invalidConfig fault.message)
  | none => .ok config

end Config

end ChatGateway
