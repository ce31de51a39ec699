import ChatGateway.Proofs.Client.Course
import ChatGateway.Proofs.Client.Rhythm

/-!
Everything about a client that its properties depend on, in one state, and what a step can do to
it. The standing, the account, the course, the rhythm and the hearts of a client are read off its
snapshot, and what a step can do to them follows from `Snapshot.Turn`.
-/

namespace ChatGateway

/-- A frame that costs the connection: it asks for another one, or is a greeting that cannot be
read. -/
def Frame.Costs (frame : Frame) : Prop :=
  frame.opcode? = some .reconnect ∨
    frame.opcode? = some .hello ∧ ∃ error, Decoder.ofValue Hello.decode frame.data = .error error

/-- A frame that is only noted. -/
structure Frame.Passes (frame : Frame) : Prop where
  costless : ¬ frame.Costs
  plain : frame.acknowledges = false
  kept : ∀ sessionId, ¬ frame.Voids sessionId
  unnamed : frame.dispatched? = none

def Occurrence.isNoted : Occurrence → Bool
  | .wrote _ _ _ | .took _ | .handled _ | .ticked _ _ => true
  | _ => false

structure Snapshot where
  config : Config
  phase : Phase
  /-- The number of the connection that is written to. -/
  link : Option Nat
  connections : Nat
  reconnecting : Bool
  sessionId : Option String
  sequence : Option Int64
  acked : Bool
  /-- The heartbeat loop that is to be stopped with the session. -/
  heart : Option Nat
  stage : Stage
  orders : List Order
  path : FramePath
  cache : Cache
  dispatcher : Dispatcher
  loops : List HeartbeatLoop
  sends : List Send
  limiter : RateLimiter
  clock : Nat
  epoch : Int
  /-- The newest first. -/
  noted : List Occurrence

namespace Client

def noted (c : Client) : List Occurrence := (c.log.map (·.what)).filter Occurrence.isNoted

def snapshot (c : Client) : Snapshot where
  config := c.config
  phase := c.session.phase
  link := c.session.link.map (·.connection)
  connections := c.connections
  reconnecting := c.session.reconnecting
  sessionId := c.session.sessionId
  sequence := c.session.sequence
  acked := c.session.acked
  heart := c.session.heart
  stage := c.stage
  orders := c.orders
  path := c.framePath
  cache := c.cache
  dispatcher := c.dispatcher
  loops := c.loops
  sends := c.sends
  limiter := c.limiter
  clock := c.clock
  epoch := c.epoch
  noted := c.noted

/-- What is read off the log may be read off the occurrences that a snapshot has. -/
theorem filterMap_noted {α : Type} (c : Client) {f : Occurrence → Option α}
    (hf : ∀ what, what.isNoted = false → f what = none) :
    c.noted.filterMap f = c.log.filterMap fun entry => f entry.what := by
  unfold noted
  rw [List.filterMap_filter, List.filterMap_map]
  refine congrArg (List.filterMap · c.log) (funext fun entry => ?_)
  rw [Function.comp_apply]
  cases hnoted : entry.what.isNoted with
  | true => rfl
  | false => exact (hf _ hnoted).symm

end Client

namespace Snapshot

variable (s : Snapshot)

def clearance : Nat := s.clock + s.limiter.pause .global (s.epoch + s.clock)

def note (what : Occurrence) : Snapshot := { s with noted := what :: s.noted }

def setBeat (id : Nat) (beat : Beat) : Snapshot :=
  { s with loops := s.loops.map fun loop => if loop.id = id then { loop with beat } else loop }

/-- With a heartbeat loop that the session holds, which is a new one if there is none. -/
def beating (id : Nat) : Snapshot :=
  { s with
    heart := some (s.heart.getD id)
    loops := if s.heart.isSome then s.loops else s.loops ++ [⟨id, .starting, false⟩] }

def hushed : Snapshot :=
  { s with
    heart := none
    loops := s.loops.map fun loop =>
      if s.heart = some loop.id then { loop with stopped := true } else loop }

def taking (frame : Frame) : Snapshot :=
  { s with
    sequence := match frame.sequence with
      | some n => if n = -1 then none else some n
      | none => s.sequence
    noted := .took frame :: s.noted }

/-- What the session takes over from an event. -/
def booking (named : Dispatched) : Snapshot :=
  { s with
    phase := if named.1 = "READY" ∨ named.1 = "RESUMED" then .ready else s.phase
    sessionId :=
      if (named.1 == "READY") = true then (named.2.get? "session_id").bind (·.string?)
      else s.sessionId }

def handing (events : List Event) : Snapshot :=
  { s with noted := (events.map .handled).reverse ++ s.noted }

/-- What else changes when the connection loop comes to a stage. -/
def reaching : Stage → Snapshot
  | .opening _ => { s with phase := .connecting }
  | .waiting _ _ => { s with phase := .reconnecting }
  | .reading => { s with
      phase := .awaitingHello, link := some s.connections, connections := s.connections + 1 }
  | .leaving _ => { s with link := none }
  | .ended _ => { s.hushed with phase := .disconnected }
  | .dormant | .broken => s

/-! ### What may be read off -/

section Read

variable {α : Type} (s : Snapshot)

theorem filterMap_handing {f : Occurrence → Option α} (hf : ∀ event, f (.handled event) = none)
    (events : List Event) : (s.handing events).noted.filterMap f = s.noted.filterMap f := by
  have hnone : (events.map Occurrence.handled).reverse.filterMap f = [] := by
    rw [List.filterMap_eq_nil_iff]
    intro what hwhat
    obtain ⟨event, -, rfl⟩ := List.mem_map.1 (List.mem_reverse.1 hwhat)
    exact hf event
  show ((events.map Occurrence.handled).reverse ++ s.noted).filterMap f = _
  rw [List.filterMap_append, hnone, List.nil_append]

variable {f : HeartbeatLoop → Option α}

theorem filterMap_beating {id : Nat} (hf : f ⟨id, .starting, false⟩ = none) :
    (s.beating id).loops.filterMap f = s.loops.filterMap f := by
  unfold beating
  dsimp only
  split
  next => rfl
  next =>
    rw [List.filterMap_append, List.filterMap_cons_none hf, List.filterMap_nil, List.append_nil]

theorem filterMap_hushed (hf : ∀ loop, f { loop with stopped := true } = f loop) :
    s.hushed.loops.filterMap f = s.loops.filterMap f := by
  unfold hushed
  dsimp only
  rw [List.filterMap_map]
  refine congrArg (List.filterMap · s.loops) (funext fun loop => ?_)
  rw [Function.comp_apply]
  split
  next => exact hf loop
  next => rfl

/-! What is read off the loops that are about to write, and off no others. -/

variable (hf : ∀ loop, loop.beat.isSending = false → f loop = none)

include hf

theorem filterMap_keeps {keeps : HeartbeatLoop → Bool}
    (hkept : ∀ loop, loop.beat.isSending = true → keeps loop = true) (loops : List HeartbeatLoop) :
    (loops.filter keeps).filterMap f = loops.filterMap f := by
  rw [List.filterMap_filter]
  refine congrArg (List.filterMap · loops) (funext fun loop => ?_)
  split
  next => rfl
  next hgone =>
    refine (hf loop ?_).symm
    rw [← Bool.not_eq_true]
    exact mt (hkept loop) hgone

theorem mem_filterMap_setBeat {id : Nat} {beat : Beat} {a : α}
    (hmem : a ∈ (s.setBeat id beat).loops.filterMap f) :
    a ∈ s.loops.filterMap f ∨
      beat.isSending = true ∧ ∃ loop, loop.id = id ∧ loop.beat = beat ∧ f loop = some a := by
  obtain ⟨loop, hloop, hread⟩ := List.mem_filterMap.1 hmem
  obtain ⟨before, hbefore, rfl⟩ := List.mem_map.1 hloop
  split at hread
  next hid =>
    refine .inr ⟨?_, { before with beat }, hid, rfl, hread⟩
    rw [← Bool.not_eq_false]
    intro hidle
    rw [hf _ hidle] at hread
    cases hread
  next => exact .inl (List.mem_filterMap.2 ⟨before, hbefore, hread⟩)

theorem filterMap_setBeat_subset (id : Nat) {beat : Beat} (hbeat : beat.isSending = false) :
    (s.setBeat id beat).loops.filterMap f ⊆ s.loops.filterMap f := by
  intro a hmem
  rcases mem_filterMap_setBeat s hf hmem with hold | ⟨hsending, -⟩
  · exact hold
  · cases hbeat.symm.trans hsending

end Read

/-! ### The frame path -/

/-- A frame costs the connection that is read. One that is put in by hand has none. -/
inductive Loses : Snapshot → Prop
  | leave (hstage : s.stage = .reading) :
      Loses { s with path := .idle, link := none, stage := .leaving (.reconnect 0) }
  | spare (hstage : s.stage ≠ .reading) : Loses { s with path := .idle }

/-- The work on a frame breaks off, and with it the connection loop that reads it. -/
inductive Breaks : Snapshot → Prop
  | off (hstage : s.stage = .reading) :
      Breaks { s with path := .idle, stage := .broken, orders := [] }
  | spare (hstage : s.stage ≠ .reading) : Breaks { s with path := .idle }

/-- Events are given to the handler, up to one at which it sends something. -/
inductive Handles (events : List Event) : Snapshot → Prop
  | all : Handles events { s.handing events with path := .idle }
  | upTo {handed rest : List Event} {event : Event} {command : Command}
      (hevents : handed ++ event :: rest = events) :
      Handles events { s.handing (handed ++ [event]) with
        path := .sending s.clearance (.command command) (.handler rest) }

inductive Takes (frame : Frame) : Snapshot → Prop
  | pass (hpasses : frame.Passes) : Takes frame { s.taking frame with path := .idle }
  | cost {s' : Snapshot} (hcosts : frame.Costs) (hloses : (s.taking frame).Loses s') :
      Takes frame s'
  | acknowledge (hopcode : frame.opcode? = some .heartbeatAck) :
      Takes frame { s.taking frame with acked := true, path := .idle }
  /-- The gateway asks for a heartbeat. -/
  | echo (hopcode : frame.opcode? = some .heartbeat) :
      Takes frame { s.taking frame with
        path := .sending s.clearance (.command (.heartbeat (s.taking frame).sequence)) .answer }
  /-- A greeting on a connection that replaces another one, with a session to take up. -/
  | rejoin {id due : Nat} {sessionId : String} (hgreets : frame.greets = true)
      (hreconnecting : s.reconnecting = true) (hknown : s.sessionId = some sessionId) :
      Takes frame { (s.taking frame).beating id with
        acked := true, phase := .resuming, path := .grace due sessionId }
  | join {id : Nat} {identify : Identify} (hgreets : frame.greets = true) :
      Takes frame { (s.taking frame).beating id with
        acked := true, phase := .identifying
        path := .sending s.clearance (.command (.identify identify)) .greeting }
  /-- The session is void, but can be taken up. -/
  | resume {sessionId : String} (hopcode : frame.opcode? = some .invalidSession)
      (hkept : ¬ frame.Voids s.sessionId) (hknown : s.sessionId = some sessionId) :
      Takes frame { s.taking frame with
        phase := .resuming
        path := .sending s.clearance
          (.command (.resume ⟨s.config.token, sessionId, (s.taking frame).sequence⟩)) .answer }
  | void {due : Nat} (hvoids : frame.Voids s.sessionId) :
      Takes frame { s.taking frame with path := .cooldown due }
  | event {named : Dispatched} {dispatcher : Dispatcher} {cache : Cache} {delivery : Delivery}
      {s' : Snapshot} (hnamed : frame.dispatched? = some named)
      (hcounted : s.cache.overflows named.1 named.2 = false)
      (hdispatch : s.dispatcher.dispatch s.cache named.1 named.2 = (dispatcher, cache, delivery))
      (hhandles : Handles { (s.taking frame).booking named with dispatcher, cache }
        delivery.events s') : Takes frame s'
  | breakOff {named : Dispatched} {s' : Snapshot} (hnamed : frame.dispatched? = some named)
      (hoverflows : s.cache.overflows named.1 named.2 = true)
      (hbreaks : ((s.taking frame).booking named).Breaks s') : Takes frame s'

/-- What the frame path can do when its wait is over. -/
inductive Proceeds (c : Client) : Snapshot → Prop
  | resume {due : Nat} {sessionId : String} (hpath : c.framePath = .grace due sessionId)
      (hdue : due ≤ c.clock) :
      Proceeds c { c.snapshot with
        phase := .resuming
        path := .sending c.snapshot.clearance
          (.command (.resume ⟨c.config.token, sessionId, c.session.sequence⟩)) .greeting }
  /-- A new session follows on a void one. -/
  | renew {due : Nat} {identify : Identify} (hpath : c.framePath = .cooldown due)
      (hdue : due ≤ c.clock) :
      Proceeds c { c.snapshot with
        sessionId := none, sequence := none, phase := .identifying
        path := .sending c.snapshot.clearance (.command (.identify identify)) .answer }
  | unsent {due : Nat} {what : Outgoing} {purpose : Purpose} {error : ClientError} {s' : Snapshot}
      (hpath : c.framePath = .sending due what purpose) (hdue : due ≤ c.clock)
      (hwriter : purpose.writer = .frames) (hwrite : (c.write .frames what).2 = .error error)
      (hloses : c.snapshot.Loses s') : Proceeds c s'
  | greeted {due n : Nat} {what : Outgoing} (hpath : c.framePath = .sending due what .greeting)
      (hdue : due ≤ c.clock) (hlink : c.snapshot.link = some n) :
      Proceeds c { c.snapshot.note (.wrote n .frames what) with
        reconnecting := false, path := .idle }
  | answered {due n : Nat} {what : Outgoing} (hpath : c.framePath = .sending due what .answer)
      (hdue : due ≤ c.clock) (hlink : c.snapshot.link = some n) :
      Proceeds c { c.snapshot.note (.wrote n .frames what) with path := .idle }
  /-- What the event handler sends is written, or is not; the other events are next. -/
  | handled {due : Nat} {what : Outgoing} {rest : List Event} {wrote : List Occurrence}
      {s' : Snapshot} (hpath : c.framePath = .sending due what (.handler rest))
      (hdue : due ≤ c.clock) (hwrote : wrote = [] ∨ ∃ n, wrote = [.wrote n .handler what])
      (hhandles : Handles { c.snapshot with noted := wrote ++ c.noted } rest s') : Proceeds c s'

theorem Loses.stage {s s' : Snapshot} (hloses : s.Loses s') (hreading : s.stage = .reading) :
    s'.stage = .leaving (.reconnect 0) := by
  cases hloses with
  | leave => rfl
  | spare hother => exact absurd hreading hother

theorem Takes.stage {s s' : Snapshot} {frame : Frame} (htakes : s.Takes frame s') :
    s'.stage = s.stage ∨ s'.stage = .leaving (.reconnect 0) ∨ s'.stage = .broken := by
  cases htakes with
  | cost _ hloses =>
      cases hloses with
      | leave => exact .inr (.inl rfl)
      | spare => exact .inl rfl
  | event _ _ _ hhandles => cases hhandles <;> exact .inl rfl
  | breakOff _ _ hbreaks =>
      cases hbreaks with
      | off => exact .inr (.inr rfl)
      | spare => exact .inl rfl
  | _ => exact .inl rfl

/-- Only the beginning of the work on a frame can break off. -/
theorem Proceeds.stage {c : Client} {s : Snapshot} (hproceeds : Proceeds c s) :
    s.stage = c.stage ∨ s.stage = .leaving (.reconnect 0) := by
  cases hproceeds with
  | unsent _ _ _ _ hloses =>
      cases hloses with
      | leave => exact .inr rfl
      | spare => exact .inl rfl
  | handled _ _ _ hhandles => cases hhandles <;> exact .inl rfl
  | _ => exact .inl rfl

/-! ### Steps -/

inductive Beats (id : Nat) : Snapshot → Prop
  | rest {beat : Beat} (hbeat : beat.isSending = false) : Beats id (s.setBeat id beat)
  | tick {loop : HeartbeatLoop}
      (hloop : (s.loops.find? fun loop => loop.id = id) = some loop)
      (hpaused : loop.beat = .paused) (hdone : s.reconnecting = false) (hacked : s.acked = true) :
      Beats id { s.setBeat id (.sending s.clearance (.command (.heartbeat s.sequence))) with
        acked := false, noted := .ticked id true :: s.noted }
  /-- The last heartbeat is still without its acknowledgement. -/
  | dead {loop : HeartbeatLoop}
      (hloop : (s.loops.find? fun loop => loop.id = id) = some loop)
      (hpaused : loop.beat = .paused) (hdone : s.reconnecting = false) (hacked : s.acked = false) :
      Beats id { s.setBeat id .starting with
        reconnecting := true, phase := .reconnecting
        orders := if s.stage.isOver then s.orders else s.orders ++ [.reconnect]
        noted := .ticked id false :: s.noted }
  | pulse {loop : HeartbeatLoop} {due n : Nat} {what : Outgoing}
      (hloop : (s.loops.find? fun loop => loop.id = id) = some loop)
      (hsending : loop.beat = .sending due what) (hdue : due ≤ s.clock)
      (hlink : s.link = some n) :
      Beats id { s.setBeat id .starting with noted := .wrote n .heartbeat what :: s.noted }

/-- What a step can do. -/
inductive Turn (c : Client) : Move → Snapshot → Prop
  | stay {move : Move} : Turn c move c.snapshot
  | elapse {milliseconds : Nat} :
      Turn c (.elapse milliseconds) { c.snapshot with clock := c.clock + milliseconds }
  | setTimeOfDay {now : Int} : Turn c (.setTimeOfDay now) { c.snapshot with epoch := now - c.clock }
  | tell {move : Move} {report : Report} (htold : c.told? move = some report) :
      Turn c move { c.snapshot with limiter := c.limiter.take report }
  | requestReconnect :
      Turn c .requestReconnect { c.snapshot with
        reconnecting := true, phase := .reconnecting, orders := c.course.heard .reconnect }
  | shutdown : Turn c .shutdown { c.snapshot.hushed with orders := c.course.heard .shutdown }
  | send {what : Outgoing} {id : Nat} :
      Turn c (.send what) { c.snapshot with
        sends := c.sends ++ [⟨id, c.snapshot.clearance, what⟩] }
  | complete {id : Nat} {wrote : List Occurrence}
      (hwrote : wrote = [] ∨
        ∃ n what, c.snapshot.link = some n ∧ wrote = [.wrote n .caller what]) :
      Turn c (.complete id) { c.snapshot with
        sends := c.sends.filter fun send => send.id ≠ id, noted := wrote ++ c.noted }
  | attach {broken : Bool} (hstage : c.stage = .dormant) :
      Turn c (.attach broken) { c.snapshot with
        link := some c.connections, connections := c.connections + 1 }
  | beat {id : Nat} {s : Snapshot} (hbeats : c.snapshot.Beats id s) : Turn c (.beat id) s
  /-- No loop that is about to write comes to its end. -/
  | halt {id : Nat} {keeps : HeartbeatLoop → Bool}
      (hkept : ∀ loop, loop.beat.isSending = true → keeps loop = true) :
      Turn c (.halt id) { c.snapshot with loops := c.loops.filter keeps }
  /-- The connection loop goes on, but for the beginning of a reconnection. -/
  | loop {move : Move} {stage : Stage} {orders : List Order}
      (hloops : c.course.Loops move stage orders)
      (hstays : ∀ delay, c.stage ≠ .leaving (.reconnect delay)) :
      Turn c move { c.snapshot.reaching stage with stage, orders }
  | replace {delay : Nat} (hstage : c.stage = .leaving (.reconnect delay)) :
      Turn c .depart { c.snapshot.reaching (c.course.trying ⟨1, delay⟩) with
        reconnecting := true, stage := c.course.trying ⟨1, delay⟩, orders := c.orders }
  /-- A frame is put in by hand. -/
  | insert {frame : Frame} {s : Snapshot} (hstage : c.stage = .dormant)
      (hidle : c.framePath = .idle) (htakes : c.snapshot.Takes frame s) : Turn c (.frame frame) s
  | read {text : String} {frame : Frame} {s : Snapshot} (hstage : c.stage = .reading)
      (hidle : c.framePath = .idle) (hframe : Frame.ofText text = .ok frame)
      (htakes : c.snapshot.Takes frame s) : Turn c (.receive (.text text)) s
  | proceed {s : Snapshot} (hproceeds : Proceeds c s) : Turn c .proceed s

end Snapshot

end ChatGateway
