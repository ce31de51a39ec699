import ChatGateway.Client.Heartbeat

/-!
The connection loop. The first connection is tried once; a connection that is lost is replaced, with
as many attempts as the configuration allows. The loop ends with a shutdown, with a close that
forbids another connection, or when no attempt is left. It runs once.
-/

namespace ChatGateway.Client

def conclude (c : Client) (result : Except ClientError Unit) : Client :=
  { c.stopHeart.enter .disconnected with stage := .ended result, orders := [] }

def connect (c : Client) (retry : Option Retry) : Client :=
  { c.enter .connecting with stage := .opening retry }

/-- Goes on to an attempt to reconnect, at once or after its delay. -/
def schedule (c : Client) (retry : Retry) : Client :=
  if retry.delay = 0 then c.connect (some retry)
  else { c with stage := .waiting (c.after retry.delay) retry }

/-- The farewell to a connection that is left for another one. -/
def farewell? : Exit → Option Farewell
  | .reconnect _ => some .reconnecting
  | _ => none

def leave (c : Client) (exit : Exit) : Client :=
  { c.detach (farewell? exit) with stage := .leaving exit }

/-- Goes on when the connection that is left has been closed. -/
def depart (c : Client) : Client :=
  match c.stage with
  | .leaving (.reconnect delay) => c.markReconnecting.schedule ⟨1, delay⟩
  | .leaving .shutdown => c.conclude (.ok ())
  | .leaving (.fatal error) => c.conclude (.error error)
  | _ => c

def start? (c : Client) : Except ClientError Client :=
  match c.stage with
  | .dormant => .ok (c.connect none)
  | _ => .error .alreadyRunning

def attach (c : Client) (broken : Bool) : Client :=
  { c with
    session.link := some { connection := c.connections, broken }
    connections := c.connections + 1 }

/-- A connection was opened. Orders to reconnect have been served by it; with a shutdown among the
orders it is given up at once. -/
def opened (c : Client) : Client :=
  match c.stage with
  | .opening _ =>
    let c := c.enter .awaitingHello
    match c.orders.dropWhile fun order => order = .reconnect with
    | [] => { c.attach false with stage := .reading, orders := [] }
    | _ :: _ => c.conclude (.ok ())
  | _ => c

def refused (c : Client) : Client :=
  match c.stage with
  | .opening none => c.conclude (.error .webSocket)
  | .opening (some retry) =>
    match retry.next? c.config with
    | none => c.conclude (.error (.reconnectFailed (Retry.limit c.config)))
    | some next => (c.enter .reconnecting).schedule next
  | _ => c

def retry (c : Client) : Client :=
  match c.stage with
  | .waiting due retry => if due ≤ c.clock then c.connect (some retry) else c
  | _ => c

/-- Follows the oldest order, between two frames or in a wait. -/
def obey (c : Client) : Client :=
  match c.orders with
  | [] => c
  | order :: rest =>
    match c.stage, c.framePath with
    | .reading, .idle =>
      match order with
      | .reconnect => { c with orders := rest }.leave (.reconnect 0)
      | .shutdown => { c with orders := rest }.leave .shutdown
    | .waiting _ retry, _ =>
      match order with
      | .reconnect => { c with orders := rest }.connect (some retry)
      | .shutdown => { c with orders := rest }.conclude (.ok ())
    | _, _ => c

end ChatGateway.Client
