import ChatGateway.Simulation.Basic

/-!
What happens next. At one instant the frame path and the connection loop come first, then the
heartbeats, the sends, the answers to commands, the user, and the gateway. Where nothing is left to
do, time moves to the next timer.
-/

namespace ChatGateway

def FramePath.due? : FramePath → Option Nat
  | .idle => none
  | .grace due _ => some due
  | .cooldown due => some due
  | .sending due _ _ => some due

def Stage.due? : Stage → Option Nat
  | .waiting due _ => some due
  | _ => none

def Beat.due? : Beat → Option Nat
  | .sleeping due => some due
  | .sending due _ => some due
  | _ => none

def ReplyStage.due? : ReplyStage → Option Nat
  | .fresh _ => none
  | .calling due _ => some due

namespace Client

def timers (c : Client) : List Nat :=
  c.framePath.due?.toList ++ c.stage.due?.toList ++ c.loops.filterMap (·.beat.due?)
    ++ c.sends.map (·.due) ++ c.replies.filterMap (·.stage.due?)

def isDue (c : Client) (due? : Option Nat) : Bool := due?.any (· ≤ c.clock)

def isFree (c : Client) : Bool :=
  match c.stage, c.framePath with
  | .reading, .idle => true
  | .waiting _ _, _ => true
  | _, _ => false

/-- Whether the connection loop is closing a connection. -/
def isLeaving (c : Client) : Bool :=
  match c.stage with
  | .leaving _ => true
  | _ => false

/-- What the frame path or the connection loop can do by themselves. -/
def connectionMove? (c : Client) : Option Move :=
  if c.isLeaving then some .depart
  else if c.isDue c.framePath.due? then some .proceed
  else if !c.orders.isEmpty && c.isFree then some .obey
  else if c.isDue c.stage.due? then some .retry
  else none

def loopMove? (c : Client) (loop : HeartbeatLoop) : Option Move :=
  match loop.beat with
  | .starting => some (.beat loop.id)
  | .sleeping due =>
    if loop.stopped then some (.halt loop.id)
    else if due ≤ c.clock then some (.beat loop.id)
    else none
  | .paused =>
    if loop.stopped then some (.halt loop.id)
    else if c.session.reconnecting then none
    else some (.beat loop.id)
  | .sending due _ => if due ≤ c.clock then some (.beat loop.id) else none

end Client

namespace Simulation

def reply? (s : Simulation) (reply : Reply) : Option Simulation :=
  match reply.stage with
  | .fresh _ => some (s.act (.runReply reply.id))
  | .calling due _ => if due ≤ s.clock then some (s.respond reply.id) else none

/-- What happens next at this instant. -/
def next? (s : Simulation) : Option Simulation :=
  let c := s.client
  match c.connectionMove?, c.stage with
  | some move, _ => some (s.act move)
  | none, .opening _ => some s.connect
  | none, _ =>
    s.read? <|> (c.loops.findSome? c.loopMove?).map s.act
      <|> (c.sends.find? (·.due ≤ c.clock)).map (fun send => s.complete send.id)
      <|> c.replies.findSome? s.reply? <|> s.intervene? <|> s.serve?

/-- The timers that are running. -/
def timers (s : Simulation) : List Nat :=
  s.client.timers
    ++ (if s.interventions.isEmpty || s.awaited.isSome then [] else [s.due])
    ++ (match s.server with
      | some server => if server.script.isEmpty then [] else [server.due]
      | none => [])

/-- The time of the next timer. -/
def nextTime? (s : Simulation) : Option Nat := (s.timers.filter (s.clock < ·)).min?

def elapseTo (s : Simulation) (time : Nat) : Simulation := s.act (.elapse (time - s.clock))

/-- Lets things happen until `stop` holds at an instant at which nothing is left to do, or until a
time is reached. `fuel` bounds the number of moves. -/
def advance (stop : Simulation → Bool) (limit : Option Nat) : Nat → Simulation → Simulation
  | 0, s => s
  | fuel + 1, s =>
    match s.next? with
    | some s => advance stop limit fuel s
    | none =>
      if stop s then s
      else match s.nextTime?, limit with
        | some time, some limit' =>
          if time ≤ limit' then advance stop limit fuel (s.elapseTo time) else s.elapseTo limit'
        | some time, none => advance stop limit fuel (s.elapseTo time)
        | none, some limit' => s.elapseTo limit'
        | none, none => s

/-- More moves than any sensible run takes. -/
def fuel : Nat := 100000000

def settle (s : Simulation) : Simulation := s.advance (fun _ => true) none fuel

/-- Lets time pass, as much as a wait can take. -/
def elapse (s : Simulation) (milliseconds : Nat) : Simulation :=
  s.advance (fun _ => false) (some (s.after milliseconds)) fuel

end Simulation

end ChatGateway
