import ChatGateway.RateLimit.Bucket

/-!
What can go wrong for a client.
-/

namespace ChatGateway

inductive ClientError where
  | invalidConfig (reason : String)
  /-- The configuration cannot be read. -/
  | config
  /-- The token was refused. -/
  | authentication (reason : String)
  /-- No session can be started for some milliseconds. -/
  | sessionStartLimit (resetAfter : UInt64)
  | rateLimit (error : RateLimitError)
  | notConnected
  | alreadyRunning
  /-- The gateway closed the connection with a code that forbids another one. -/
  | closed (code : Nat) (reason : String)
  | reconnectFailed (attempts : Nat)
  /-- The connection could not be opened or written to. -/
  | webSocket
  /-- A payload has not the form that is wanted. -/
  | payload
  /-- A request failed: in transport, by its status, or because its answer has not the form that is
  wanted. -/
  | http (status : Option Nat) (undecodable : Bool)
  deriving DecidableEq, Repr

namespace ClientError

def number (n : Nat) : String := String.ofList (Decimal.write n)

def message? : ClientError → Option String
  | .invalidConfig reason => some ("invalid configuration: " ++ reason)
  | .authentication reason => some ("authentication failed: " ++ reason)
  | .sessionStartLimit n =>
    some ("maximum session start limit reached, resets in " ++ number n.toNat ++ "ms")
  | .rateLimit error => some error.message
  | .notConnected => some "the gateway connection is not established"
  | .alreadyRunning => some "the gateway session is already running"
  | .closed code reason =>
    some ("the gateway closed the connection (" ++ number code ++ "): " ++ reason)
  | _ => none

end ClientError

end ChatGateway
