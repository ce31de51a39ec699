import ChatGateway.Client.Replies

/-!
The steps of a client. A move is what one of its parts does next, what its user asks of it, or what
its surroundings do: the gateway, the service, and time. A move that is not possible changes
nothing. Any list of moves is a possible history, in which waits may be longer than they need to be,
so that what holds of all lists of moves holds however the parts are interleaved.
-/

namespace ChatGateway

inductive Move where
  /-- Time passes. -/
  | elapse (milliseconds : Nat)
  /-- The time of day is set. -/
  | setTimeOfDay (now : Int)
  /-- The headers of a response are reported to the rate limiter. -/
  | observe (headers : Headers) (object : Option Snowflake) (kind : BucketKind)
  | requestReconnect
  | shutdown
  /-- A caller sends something. -/
  | send (what : Outgoing)
  | complete (id : Nat)
  /-- A connection is put in by hand while the connection loop has not begun. -/
  | attach (broken : Bool)
  /-- A frame is put in by hand while the connection loop has not begun. -/
  | frame (frame : Frame)
  | proceed
  | beat (id : Nat)
  | halt (id : Nat)
  | start
  | opened
  | refused
  | retry
  | depart
  | obey
  | receive (item : Item)
  /-- The gateway closes the connection; what it sent before is still to be read. -/
  | dismiss
  /-- The connection breaks. -/
  | cut
  | runReply (id : Nat)
  | respond (id : Nat) (response : Option Response)

namespace Client

def observe (c : Client) (headers : Headers) (object : Option Snowflake) (kind : BucketKind) :
    Client :=
  { c with limiter := c.limiter.take ⟨headers, object, kind, unixSeconds c.timeOfDay⟩ }

def step (c : Client) : Move → Client
  | .elapse milliseconds => { c with clock := c.clock + milliseconds }
  | .setTimeOfDay now => { c with epoch := now - c.clock }
  | .observe headers object kind => c.observe headers object kind
  | .requestReconnect => c.requestReconnect
  | .shutdown => c.shutdown
  | .send what => c.send what
  | .complete id => c.complete id
  | .attach broken =>
    match c.stage with
    | .dormant => c.attach broken
    | _ => c
  | .frame frame =>
    match c.stage, c.framePath with
    | .dormant, .idle => c.take frame
    | _, _ => c
  | .proceed => c.proceed
  | .beat id => c.beat id
  | .halt id => c.halt id
  | .start =>
    match c.start? with
    | .ok c => c
    | .error _ => c
  | .opened => c.opened
  | .refused => c.refused
  | .retry => c.retry
  | .depart => c.depart
  | .obey => c.obey
  | .receive item => c.receive item
  | .dismiss => c.changeLink fun link => { link with dismissed := true }
  | .cut => c.changeLink fun link => { link with broken := true }
  | .runReply id => c.runReply id
  | .respond id response => c.respond id response

/-- What is left of a client after a history. -/
def run (c : Client) (moves : List Move) : Client := moves.foldl step c

@[simp] theorem run_nil (c : Client) : c.run [] = c := rfl

@[simp] theorem run_cons (c : Client) (move : Move) (moves : List Move) :
    c.run (move :: moves) = (c.step move).run moves := rfl

theorem run_append (c : Client) (first second : List Move) :
    c.run (first ++ second) = (c.run first).run second :=
  List.foldl_append

end Client

end ChatGateway
