import ChatGateway.Proofs.Client.Account
import ChatGateway.Proofs.Client.Standing

/-!
The course of a client: where its connection loop stands and which orders that has, what the frame
path is at, which heartbeats and which sends of callers wait for the rate limit, which new sessions
were asked for, what the rate limiter knows, and the time. A turn is what a step can do to it: the
connection loop goes on, the frame path works, somebody begins a wait for the rate limit or comes to
its end, or the limiter is told something.
-/

namespace ChatGateway

def Outgoing.identify? : Outgoing → Option Identify
  | .command (.identify identify) => some identify
  | _ => none

/-- What the frame path and the heartbeat loops write in order to begin a session; the event handler
and the callers write what they like. -/
def Occurrence.identify? : Occurrence → Option Identify
  | .wrote _ .frames what | .wrote _ .heartbeat what => what.identify?
  | _ => none

deriving instance DecidableEq for Send

def HeartbeatLoop.pulse? (loop : HeartbeatLoop) : Option Send :=
  match loop.beat with
  | .sending due what => some ⟨loop.id, due, what⟩
  | _ => none

def Item.exit? (config : Config) : Item → Option Exit
  | .close farewell => some (.ofFarewell config farewell)
  | .lost => some (.lost config)
  | _ => none

def Order.exit : Order → Exit
  | .reconnect => .reconnect 0
  | .shutdown => .shutdown

/-- The result of the loop in a stage in which an attempt to connect is the last one, if the attempt
fails. -/
def Stage.lastAttempt? (config : Config) : Stage → Option ClientError
  | .opening none => some .webSocket
  | .opening (some retry) =>
    match retry.next? config with
    | none => some (.reconnectFailed (Retry.limit config))
    | some _ => none
  | _ => none

/-- An attempt that is not the last one is followed by another. -/
theorem Stage.next_of_lastAttempt? {config : Config} {retry : Option Retry}
    (hmore : (Stage.opening retry).lastAttempt? config = none) :
    ∃ again next, retry = some again ∧ again.next? config = some next := by
  cases retry with
  | none => cases hmore
  | some again =>
      unfold lastAttempt? at hmore
      dsimp only at hmore
      cases hnext : again.next? config with
      | none =>
          rw [hnext] at hmore
          cases hmore
      | some next => exact ⟨again, next, rfl, hnext⟩

/-- How often the frame path may still have to wait for the frame that it works on. -/
def FramePath.load : FramePath → Nat
  | .idle => 0
  | .grace _ _ | .cooldown _ => 2
  | .sending _ _ purpose => purpose.pending.length + 1

def FramePath.due : FramePath → Nat
  | .idle => 0
  | .grace due _ | .cooldown due | .sending due _ _ => due

structure Course where
  config : Config
  stage : Stage
  orders : List Order
  path : FramePath
  /-- The heartbeats that wait for the rate limit, with their loops. -/
  pulses : List Send
  sends : List Send
  /-- What was written in order to begin a session, the newest first. -/
  identifies : List Identify
  limiter : RateLimiter
  clock : Nat
  epoch : Int

namespace Client

def identifies (c : Client) : List Identify := c.log.filterMap fun entry => entry.what.identify?

def course (c : Client) : Course where
  config := c.config
  stage := c.stage
  orders := c.orders
  path := c.framePath
  pulses := c.loops.filterMap HeartbeatLoop.pulse?
  sends := c.sends
  identifies := c.identifies
  limiter := c.limiter
  clock := c.clock
  epoch := c.epoch

/-- What a move reports to the rate limiter, if it is an answer of the service. -/
def told? (c : Client) : Move → Option Report
  | .observe headers object kind => some ⟨headers, object, kind, unixSeconds c.timeOfDay⟩
  | .respond id response =>
    match c.reply? id with
    | some ⟨_, .calling due call⟩ =>
      if due ≤ c.clock ∧ (call.request? c.config.token).isSome then
        response.map fun response =>
          ⟨response.headers, call.object, call.kind, unixSeconds c.timeOfDay⟩
      else none
    | _ => none
  | _ => none

def informed (c : Client) (move : Move) : RateLimiter :=
  match c.told? move with
  | some report => c.limiter.take report
  | none => c.limiter

end Client

namespace Course

/-- The time at which something that is sent now has waited for the rate limit. -/
def clearance (o : Course) : Nat := o.clock + o.limiter.pause .global (o.epoch + o.clock)

/-- The orders after another one, which nobody takes when the loop is over. -/
def heard (o : Course) (order : Order) : List Order :=
  if o.stage.isOver then o.orders else o.orders ++ [order]

def trying (o : Course) (retry : Retry) : Stage :=
  if retry.delay = 0 then .opening (some retry)
  else .waiting (o.clock + retry.delay) retry

/-- The loop tries again at once or after a wait. -/
theorem trying_cases (o : Course) (retry : Retry) :
    o.trying retry = .opening (some retry) ∨ ∃ due, o.trying retry = .waiting due retry := by
  unfold trying
  split
  next => exact .inl rfl
  next => exact .inr ⟨_, rfl⟩

theorem tries_trying (o : Course) (retry : Retry) : (o.trying retry).Tries := by
  rcases trying_cases o retry with htry | ⟨due, htry⟩ <;> rw [htry] <;> exact trivial

theorem opening_of_lastAttempt? {config : Config} {stage : Stage} {error : ClientError}
    (hlast : stage.lastAttempt? config = some error) : ∃ retry, stage = .opening retry := by
  cases stage with
  | opening retry => exact ⟨retry, rfl⟩
  | _ => cases hlast

/-- What the work on a frame can come to. What it asks for waits for the rate limit from now on, and
it asks for a session only in answer to a greeting. -/
inductive Comes (o : Course) : FramePath → Prop
  | idle : Comes o .idle
  | grace {due : Nat} {sessionId : String} : Comes o (.grace due sessionId)
  | cooldown {due : Nat} : Comes o (.cooldown due)
  | send {command : Command} {purpose : Purpose}
      (hold : purpose = .answer → (Outgoing.command command).identify? = none) :
      Comes o (.sending o.clearance (.command command) purpose)

/-- What the frame path can do. -/
inductive Works (o : Course) : Course → Prop
  | on {path : FramePath} (hpath : o.Comes path) : Works o { o with path }
  | lose (hstage : o.stage = .reading) :
      Works o { o with path := .idle, stage := .leaving (.reconnect 0) }
  | breakOff (hstage : o.stage = .reading) :
      Works o { o with path := .idle, stage := .broken, orders := [] }

/-- What the connection loop can do in a move. -/
inductive Loops (o : Course) : Move → Stage → List Order → Prop
  | start (hstage : o.stage = .dormant) : Loops o .start (.opening none) o.orders
  | opened {retry : Option Retry} (hstage : o.stage = .opening retry)
      (hserved : .shutdown ∉ o.orders) : Loops o .opened .reading []
  /-- A connection is given up at once. -/
  | dropped {retry : Option Retry} (hstage : o.stage = .opening retry)
      (hshutdown : .shutdown ∈ o.orders) : Loops o .opened (.ended (.ok ())) []
  | refused {error : ClientError} (hlast : o.stage.lastAttempt? o.config = some error) :
      Loops o .refused (.ended (.error error)) []
  | again {retry next : Retry} (hstage : o.stage = .opening (some retry))
      (hnext : retry.next? o.config = some next) : Loops o .refused (o.trying next) o.orders
  | retry {due : Nat} {retry : Retry} (hstage : o.stage = .waiting due retry)
      (hdue : due ≤ o.clock) : Loops o .retry (.opening (some retry)) o.orders
  | depart {delay : Nat} (hstage : o.stage = .leaving (.reconnect delay)) :
      Loops o .depart (o.trying ⟨1, delay⟩) o.orders
  | close (hstage : o.stage = .leaving .shutdown) : Loops o .depart (.ended (.ok ())) []
  | fail {error : ClientError} (hstage : o.stage = .leaving (.fatal error)) :
      Loops o .depart (.ended (.error error)) []
  | hangUp {item : Item} {exit : Exit} (hstage : o.stage = .reading) (hidle : o.path = .idle)
      (hexit : item.exit? o.config = some exit) : Loops o (.receive item) (.leaving exit) o.orders
  | obey {order : Order} {rest : List Order} (hstage : o.stage = .reading) (hidle : o.path = .idle)
      (horders : o.orders = order :: rest) : Loops o .obey (.leaving order.exit) rest
  /-- The wait before an attempt is cut short. -/
  | hurry {due : Nat} {retry : Retry} {rest : List Order} (hstage : o.stage = .waiting due retry)
      (horders : o.orders = .reconnect :: rest) : Loops o .obey (.opening (some retry)) rest
  | stop {due : Nat} {retry : Retry} {rest : List Order} (hstage : o.stage = .waiting due retry)
      (horders : o.orders = .shutdown :: rest) : Loops o .obey (.ended (.ok ())) []

section Loops

variable {o : Course} {move : Move} {stage : Stage} {orders : List Order}

/-- A loop that is over goes on no more. -/
theorem Loops.open (hloops : o.Loops move stage orders) : o.stage.isOver = false := by
  cases hloops with
  | refused hlast =>
      obtain ⟨retry, hopening⟩ := opening_of_lastAttempt? hlast
      rw [hopening]
      rfl
  | start hstage | opened hstage | dropped hstage | again hstage | retry hstage | depart hstage
  | close hstage | fail hstage | hangUp hstage | obey hstage | hurry hstage | stop hstage =>
      rw [hstage]
      rfl

/-- The loop does not break off by itself. -/
theorem Loops.whole (hloops : o.Loops move stage orders) : stage ≠ .broken := by
  have htry (retry : Retry) : o.trying retry ≠ .broken := by
    rcases trying_cases o retry with htry | ⟨due, htry⟩ <;> rw [htry] <;> exact nofun
  cases hloops with
  | again => exact htry _
  | depart => exact htry _
  | _ => exact nofun

/-- A connection that is read is left for what the gateway sends or for an order. -/
theorem Loops.of_reading (hloops : o.Loops move stage orders) (hreading : o.stage = .reading) :
    (∃ exit, stage = .leaving exit) ∧
      ((∃ item, move = .receive item) ∨ ∃ order rest, o.orders = order :: rest) := by
  cases hloops with
  | @hangUp item => exact ⟨⟨_, rfl⟩, .inl ⟨item, rfl⟩⟩
  | obey _ _ horders => exact ⟨⟨_, rfl⟩, .inr ⟨_, _, horders⟩⟩
  | refused hlast =>
      obtain ⟨_, hopening⟩ := opening_of_lastAttempt? hlast
      cases hreading.symm.trans hopening
  | start hthis | opened hthis | dropped hthis | again hthis | retry hthis | depart hthis
  | close hthis | fail hthis | hurry hthis | stop hthis => cases hreading.symm.trans hthis

/-- A wait comes to its end, or an order cuts it short. -/
theorem Loops.of_waiting {due : Nat} {retry : Retry} (hloops : o.Loops move stage orders)
    (hwaiting : o.stage = .waiting due retry) :
    due ≤ o.clock ∨ (∃ rest, o.orders = .reconnect :: rest) ∨ stage = .ended (.ok ()) := by
  cases hloops with
  | retry hthis hdue =>
      cases hwaiting.symm.trans hthis
      exact .inl hdue
  | hurry _ horders => exact .inr (.inl ⟨_, horders⟩)
  | stop => exact .inr (.inr rfl)
  | refused hlast =>
      obtain ⟨_, hopening⟩ := opening_of_lastAttempt? hlast
      cases hwaiting.symm.trans hopening
  | start hthis | opened hthis | dropped hthis | again hthis | depart hthis | close hthis
  | fail hthis | hangUp hthis | obey hthis => cases hwaiting.symm.trans hthis

/-- There is nothing left to do for a loop that leaves its connection to shut down but to end. -/
theorem Loops.of_leaving_shutdown (hloops : o.Loops move stage orders)
    (hleaving : o.stage = .leaving .shutdown) : stage = .ended (.ok ()) := by
  cases hloops with
  | dropped | close | stop => rfl
  | refused hlast =>
      obtain ⟨_, hopening⟩ := opening_of_lastAttempt? hlast
      cases hleaving.symm.trans hopening
  | start hthis | opened hthis | again hthis | retry hthis | depart hthis | fail hthis
  | hangUp hthis | obey hthis | hurry hthis => cases hleaving.symm.trans hthis

end Loops

/-- The connection loop goes on in a move, and nothing else changes. -/
def Advances (c : Client) (move : Move) (d : Client) : Prop :=
  ∃ stage orders, c.course.Loops move stage orders ∧ d.course = { c.course with stage, orders }

/-- What a step of a client can do to its course. -/
inductive Turn (c : Client) (move : Move) (o : Course) : Course → Prop
  | stay : Turn c move o o
  | elapse {milliseconds : Nat} : Turn c move o { o with clock := o.clock + milliseconds }
  | setTimeOfDay {epoch : Int} : Turn c move o { o with epoch }
  | tell {report : Report} (htold : c.told? move = some report) :
      Turn c move o { o with limiter := o.limiter.take report }
  | order {order : Order} : Turn c move o { o with orders := o.heard order }
  | loop {stage : Stage} {orders : List Order} (hloops : o.Loops move stage orders) :
      Turn c move o { o with stage, orders }
  | send {id : Nat} {what : Outgoing} :
      Turn c move o { o with sends := o.sends ++ [⟨id, o.clearance, what⟩] }
  | complete {sends : List Send} (hsends : sends ⊆ o.sends) : Turn c move o { o with sends }
  /-- A heartbeat loop goes on. -/
  | beat {pulses : List Send} (hpulses : ∀ pulse ∈ pulses, pulse ∈ o.pulses ∨
        pulse.due = o.clearance ∧ pulse.what.identify? = none) : Turn c move o { o with pulses }
  /-- The last heartbeat is still without its acknowledgement. -/
  | dead {pulses : List Send} (hpulses : pulses ⊆ o.pulses) :
      Turn c move o { o with pulses, orders := o.heard .reconnect }
  /-- A heartbeat loop writes. -/
  | pulse {pulse : Send} {pulses : List Send} (hpulse : pulse ∈ o.pulses)
      (hpulses : pulses ⊆ o.pulses) :
      Turn c move o { o with
        pulses, identifies := pulse.what.identify?.toList ++ o.identifies }
  /-- The frame path works on a frame, and writes nothing. -/
  | work {o' : Course} (hworks : o.Works o') : Turn c move o o'
  /-- The wait before a new session is over. -/
  | renew {due : Nat} {identify : Identify} (hpath : o.path = .cooldown due)
      (hposition : (c.step move).session.sessionId = none ∧ (c.step move).session.sequence = none) :
      Turn c move o { o with
        path := .sending o.clearance (.command (.identify identify)) .answer }
  /-- The frame path comes to the end of a send. -/
  | sent {due : Nat} {what : Outgoing} {purpose : Purpose} {identifies : List Identify}
      {o' : Course} (hpath : o.path = .sending due what purpose)
      (hidentifies : identifies = o.identifies ∨
        purpose.writer = .frames ∧ identifies = what.identify?.toList ++ o.identifies)
      (hworks : Works { o with identifies } o')
      (hload : o'.path.load ≤ purpose.pending.length) : Turn c move o o'

end Course

end ChatGateway
