import ChatGateway.Dispatcher
import ChatGateway.Proofs.Cache.Overflow

/-!
Histories of frames. A history makes events in the order of receipt, one for each frame that the
cache can use, and it moves the cache through the same frames. A handler is called on the events
that the dispatcher lets out, and a call comes back whether it breaks off or not, so a run with a
handler splits into a run of the dispatcher alone and a fold of the calls (`run_receiveAll`).
-/

namespace ChatGateway

abbrev Dispatched := String × Json

theorem EventKind.name_of_ofName? {name : String} {kind : EventKind}
    (hkind : EventKind.ofName? name = some kind) : kind.name = name := by
  simpa using List.find?_some hkind

namespace Cache

def applyAll (cache : Cache) : List Dispatched → Cache
  | [] => cache
  | (name, data) :: rest =>
      match cache.apply name data with
      | some (next, _) => next.applyAll rest
      | none => cache.applyAll rest

def events (cache : Cache) : List Dispatched → List Event
  | [] => []
  | (name, data) :: rest =>
      match cache.apply name data with
      | some (next, event) => event :: next.events rest
      | none => cache.events rest

def next (cache : Cache) (frame : Dispatched) : Cache :=
  ((cache.apply frame.1 frame.2).map (·.1)).getD cache

/-- The cache after a frame of a kind that is known. -/
theorem next_of_kind (cache : Cache) {frame : Dispatched} {kind : EventKind}
    (hkind : EventKind.ofName? frame.1 = some kind) :
    cache.next frame = ((cache.applyKind kind frame.2).map (·.1)).getD cache := by
  unfold next apply
  rw [hkind]

theorem applyAll_cons (cache : Cache) (frame : Dispatched) (frames : List Dispatched) :
    cache.applyAll (frame :: frames) = (cache.next frame).applyAll frames := by
  obtain ⟨name, data⟩ := frame
  rw [applyAll, next]
  cases cache.apply name data <;> rfl

theorem applyAll_append (cache : Cache) (first second : List Dispatched) :
    cache.applyAll (first ++ second) = (cache.applyAll first).applyAll second := by
  induction first generalizing cache with
  | nil => rfl
  | cons frame rest ih => rw [List.cons_append, applyAll_cons, applyAll_cons, ih]

theorem events_append (cache : Cache) (first second : List Dispatched) :
    cache.events (first ++ second) =
      cache.events first ++ (cache.applyAll first).events second := by
  induction first generalizing cache with
  | nil => rfl
  | cons frame rest ih =>
      obtain ⟨name, data⟩ := frame
      rw [List.cons_append, events, events, applyAll]
      cases cache.apply name data with
      | none => exact ih cache
      | some made => exact congrArg (made.2 :: ·) (ih made.1)

end Cache

def Dispatcher.deliverAll (dispatcher : Dispatcher) : List Event → Dispatcher × List Event
  | [] => (dispatcher, [])
  | event :: rest =>
      let (next, out) := dispatcher.deliver event
      let (last, later) := next.deliverAll rest
      (last, out ++ later)

theorem Dispatcher.deliverAll_cons (dispatcher : Dispatcher) (event : Event)
    (events : List Event) :
    dispatcher.deliverAll (event :: events) =
      (((dispatcher.deliver event).1.deliverAll events).1,
        (dispatcher.deliver event).2 ++ ((dispatcher.deliver event).1.deliverAll events).2) := rfl

theorem Dispatcher.deliverAll_append (dispatcher : Dispatcher) (first second : List Event) :
    dispatcher.deliverAll (first ++ second) =
      (((dispatcher.deliverAll first).1.deliverAll second).1,
        (dispatcher.deliverAll first).2 ++
          ((dispatcher.deliverAll first).1.deliverAll second).2) := by
  induction first generalizing dispatcher with
  | nil => rfl
  | cons event rest ih =>
      rw [List.cons_append, deliverAll_cons, deliverAll_cons, ih]
      simp only [List.append_assoc]

/-- What follows a call that comes back runs where the call has left off. -/
theorem run_bind_ok {σ α β : Type} {call : ExceptT Panic (StateM σ) α}
    {next : α → ExceptT Panic (StateM σ) β} {state left : σ} {answer : α}
    (hcall : call.run.run state = (.ok answer, left)) :
    (call >>= next).run.run state = (next answer).run.run left := by
  have happly : (call : StateM σ (Except Panic α)) state = (.ok answer, left) := hcall
  show (ExceptT.bind call next : StateM σ (Except Panic β)) state = _
  simp only [ExceptT.bind, ExceptT.mk, bind, StateT.bind, happly]
  rfl

section TryCatch

variable {σ α : Type} {call : ExceptT Panic (StateM σ) α}
  {rescue : Panic → ExceptT Panic (StateM σ) α} {state left : σ}

theorem run_tryCatch_ok {answer : α} (hcall : call.run.run state = (.ok answer, left)) :
    (tryCatch call rescue).run.run state = (.ok answer, left) := by
  have happly : (call : StateM σ (Except Panic α)) state = (.ok answer, left) := hcall
  show (ExceptT.tryCatch call rescue : StateM σ (Except Panic α)) state = _
  simp only [ExceptT.tryCatch, ExceptT.mk, bind, StateT.bind, happly]
  rfl

/-- What is done by a call that breaks off stays. -/
theorem run_tryCatch_error {panic : Panic} (hcall : call.run.run state = (.error panic, left)) :
    (tryCatch call rescue).run.run state = (rescue panic).run.run left := by
  have happly : (call : StateM σ (Except Panic α)) state = (.error panic, left) := hcall
  show (ExceptT.tryCatch call rescue : StateM σ (Except Panic α)) state = _
  simp only [ExceptT.tryCatch, ExceptT.mk, bind, StateT.bind, happly]
  rfl

end TryCatch

namespace Handler

variable {σ : Type}

def after (handler : Handler σ) (events : List Event) (state : σ) : σ :=
  events.foldl (fun state event => ((handler event).run.run state).2) state

/-- A handler that also keeps the list of the events on which it was called. -/
def traced (handler : Handler σ) : Handler (List Event × σ) :=
  fun event => ExceptT.mk fun (calls, state) =>
    let (ending, state) := (handler event).run.run state
    (ending, (calls ++ [event], state))

/-- A call comes back whether it breaks off or not. -/
theorem run_invoke (handler : Handler σ) (event : Event) (state : σ) :
    (handler.invoke event).run.run state =
      (.ok (), ((handler event).run.run state).2) := by
  rcases hcall : (handler event).run.run state with ⟨ending, left⟩
  cases ending with
  | ok => exact run_tryCatch_ok hcall
  | error => exact run_tryCatch_error hcall

/-- Each of several calls is made, and they come back. -/
theorem run_invokeAll (handler : Handler σ) (events : List Event) (state : σ) :
    (handler.invokeAll events).run.run state = (.ok (), handler.after events state) := by
  induction events generalizing state with
  | nil => rfl
  | cons event rest ih =>
      rw [invokeAll, run_bind_ok (run_invoke handler event state), ih]
      rfl

theorem after_append (handler : Handler σ) (first second : List Event) (state : σ) :
    handler.after (first ++ second) state = handler.after second (handler.after first state) := by
  rw [after, List.foldl_append]
  rfl

/-- The list of a tracing handler is the list of its calls, and tracing changes nothing else. -/
theorem after_traced (handler : Handler σ) (events calls : List Event) (state : σ) :
    handler.traced.after events (calls, state) = (calls ++ events, handler.after events state) := by
  induction events generalizing calls state with
  | nil => simp [after]
  | cons event rest ih =>
      show handler.traced.after rest
        (calls ++ [event], ((handler event).run.run state).2) = _
      rw [ih, List.append_assoc]
      rfl

end Handler

namespace Dispatcher

variable {σ : Type}

/-- A frame at which a count overflows breaks off, and nothing is done by then. -/
theorem run_receive_of_overflows (dispatcher : Dispatcher) (handler : Handler σ) {cache : Cache}
    {name : String} {data : Json} (hover : cache.overflows name data = true) (state : σ) :
    (dispatcher.receive handler cache name data).run.run state = (.error .overflow, state) := by
  simp only [receive, hover, if_true]
  rfl

/-- A frame that makes no event changes nothing. -/
theorem run_receive_none (dispatcher : Dispatcher) (handler : Handler σ) {cache : Cache}
    {name : String} {data : Json} (hroom : cache.overflows name data = false)
    (happly : cache.apply name data = none) (state : σ) :
    (dispatcher.receive handler cache name data).run.run state =
      (.ok (dispatcher, cache), state) := by
  simp only [receive, hroom, Bool.false_eq_true, if_false, dispatch, happly]
  rfl

/-- A frame that makes an event delivers it, and the handler is called on what is let out. -/
theorem run_receive_some (dispatcher : Dispatcher) (handler : Handler σ) {cache next : Cache}
    {name : String} {data : Json} {event : Event}
    (happly : cache.apply name data = some (next, event)) (state : σ) :
    (dispatcher.receive handler cache name data).run.run state =
      (.ok ((dispatcher.deliver event).1, next),
        handler.after (dispatcher.deliver event).2 state) := by
  have hroom : cache.overflows name data = false := by
    rw [← Bool.not_eq_true]
    intro hover
    rw [Cache.apply_of_overflows hover] at happly
    cases happly
  simp only [receive, hroom, Bool.false_eq_true, if_false, dispatch, happly]
  exact run_bind_ok (handler.run_invokeAll (dispatcher.deliver event).2 state)

/-- Whether it makes no event or breaks off, a frame that does is over and changes nothing. -/
theorem run_guarded_none (dispatcher : Dispatcher) (handler : Handler σ) {cache : Cache}
    {name : String} {data : Json} (happly : cache.apply name data = none) (state : σ) :
    (tryCatch (dispatcher.receive handler cache name data)
        fun _ => pure (dispatcher, cache)).run.run state = (.ok (dispatcher, cache), state) := by
  cases hover : cache.overflows name data with
  | true => exact run_tryCatch_error (dispatcher.run_receive_of_overflows handler hover state)
  | false => exact run_tryCatch_ok (dispatcher.run_receive_none handler hover happly state)

/-- Frames deliver the events that they make, and the handler is called on what is let out. -/
theorem run_receiveAll (dispatcher : Dispatcher) (handler : Handler σ) (cache : Cache)
    (frames : List Dispatched) (state : σ) :
    (dispatcher.receiveAll handler cache frames).run.run state =
      (.ok ((dispatcher.deliverAll (cache.events frames)).1, cache.applyAll frames),
        handler.after (dispatcher.deliverAll (cache.events frames)).2 state) := by
  induction frames generalizing dispatcher cache state with
  | nil => rfl
  | cons frame rest ih =>
      obtain ⟨name, data⟩ := frame
      cases happly : cache.apply name data with
      | none =>
          rw [receiveAll, run_bind_ok (dispatcher.run_guarded_none handler happly state), ih]
          simp only [Cache.events, Cache.applyAll, happly]
      | some made =>
          obtain ⟨next, event⟩ := made
          have hmade := dispatcher.run_receive_some handler happly state
          rw [receiveAll, run_bind_ok (run_tryCatch_ok hmade), ih, ← Handler.after_append]
          simp only [Cache.events, Cache.applyAll, happly, deliverAll_cons]

end Dispatcher

end ChatGateway
