import ChatGateway.Client.Basic

/-!
Heartbeats. A loop sleeps for the interval, waits until the session is not reconnecting, and sends
a heartbeat if the last one was acknowledged; otherwise the connection is taken for dead. There is
one loop for a session, which stays through its connections.
-/

namespace ChatGateway.Client

/-- Milliseconds by which heartbeats are early. -/
def safetyMargin : Nat := 10

/-- Starts a heartbeat loop if there is none. -/
def ensureHeart (c : Client) : Client :=
  match c.session.heart with
  | some _ => c
  | none =>
    { c with
      session.heart := some c.spawned
      loops := c.loops ++ [⟨c.spawned, .starting, false⟩]
      spawned := c.spawned + 1 }

def stopHeart (c : Client) : Client :=
  match c.session.heart with
  | none => c
  | some id =>
    { c with
      session.heart := none
      loops := c.loops.map fun loop =>
        if loop.id = id then { loop with stopped := true } else loop }

def loop? (c : Client) (id : Nat) : Option HeartbeatLoop := c.loops.find? fun loop => loop.id = id

def setBeat (c : Client) (id : Nat) (beat : Beat) : Client :=
  { c with loops := c.loops.map fun loop => if loop.id = id then { loop with beat } else loop }

/-- Sends the next heartbeat, or asks for another connection when the last heartbeat is still
without its acknowledgement. -/
def tick (c : Client) (id : Nat) : Client :=
  let c := c.record (.ticked id c.session.acked)
  if c.session.acked then
    let what := Outgoing.command (.heartbeat c.session.sequence)
    { c with session.acked := false }.setBeat id (.sending c.clearance what)
  else c.requestReconnect.setBeat id .starting

/-- The next step of a heartbeat loop, if its wait is over. -/
def beat (c : Client) (id : Nat) : Client :=
  match c.loop? id with
  | none => c
  | some loop =>
    match loop.beat with
    | .starting =>
      c.setBeat id (.sleeping (c.after (c.session.interval.toNat - safetyMargin)))
    | .sleeping due => if due ≤ c.clock then c.setBeat id .paused else c
    | .paused => if c.session.reconnecting then c else c.tick id
    | .sending due what =>
      if due ≤ c.clock then (c.write .heartbeat what).1.setBeat id .starting else c

/-- Ends a loop that was told to stop and has come to one of its waits. -/
def halt (c : Client) (id : Nat) : Client :=
  { c with loops := c.loops.filter fun loop =>
      match loop.beat with
      | .sleeping _ | .paused => !(loop.id = id && loop.stopped)
      | _ => true }

/-- Ends the session: the heartbeat stops, and the connection loop is to come to its end. -/
def shutdown (c : Client) : Client := c.stopHeart.order .shutdown

end ChatGateway.Client
