import ChatGateway.Proofs.Dispatch.Frames

/-!
The order in which a handler sees events. A dispatcher is asleep until the first event that says
that the session is ready. Until then it keeps the oldest events up to its capacity; from then on
it holds nothing back, whatever comes in. Which events the handler is called on is therefore a
function of the events that come in and of the place of the first ready one, and the handler has no
say in it: `receiveAll_in_order` holds for handlers that break off on any events.
-/

namespace ChatGateway

def Event.isReady : Event → Bool
  | .ready _ => true
  | _ => false

namespace Dispatcher

theorem deliver_of_isReady (dispatcher : Dispatcher) {event : Event}
    (hready : event.isReady = true) :
    dispatcher.deliver event =
      ({ dispatcher with ready := true, deferred := [] }, dispatcher.deferred ++ [event]) := by
  cases event with
  | ready notice => rfl
  | _ => cases hready

theorem deliver_awake (capacity : Nat) (event : Event) :
    (⟨true, [], capacity⟩ : Dispatcher).deliver event = (⟨true, [], capacity⟩, [event]) := by
  cases event <;> rfl

theorem deliver_asleep (queue : List Event) (capacity : Nat) {event : Event}
    (hready : event.isReady = false) :
    (⟨false, queue, capacity⟩ : Dispatcher).deliver event =
      (defer ⟨false, queue, capacity⟩ event, []) := by
  cases event with
  | ready notice => cases hready
  | _ => rfl

/-- A queue that holds the oldest events up to its capacity still does so after one more event. -/
theorem defer_take (events : List Event) (event : Event) (capacity : Nat) :
    (⟨false, events.take capacity, capacity⟩ : Dispatcher).defer event =
      ⟨false, (events ++ [event]).take capacity, capacity⟩ := by
  unfold defer
  dsimp only
  by_cases hroom : events.length < capacity
  · have hqueue : events.take capacity = events := List.take_of_length_le (by omega)
    rw [hqueue, if_pos hroom, List.take_of_length_le]
    rw [List.length_append, List.length_singleton]
    omega
  · have hfull : ¬ (events.take capacity).length < capacity := by
      rw [List.length_take]
      omega
    rw [if_neg hfull, List.take_append_of_le_length (by omega)]

/-- An awake dispatcher passes on whatever comes in, once and in order. -/
theorem deliverAll_awake (capacity : Nat) (events : List Event) :
    (⟨true, [], capacity⟩ : Dispatcher).deliverAll events = (⟨true, [], capacity⟩, events) := by
  induction events with
  | nil => rfl
  | cons event rest ih =>
      rw [deliverAll_cons, deliver_awake, ih]
      rfl

/-- An event that says that the session is ready lets out what was kept, itself, and whatever comes
in afterwards. -/
theorem deliverAll_of_isReady (queue : List Event) (capacity : Nat) {event : Event}
    (hready : event.isReady = true) (rest : List Event) :
    (⟨false, queue, capacity⟩ : Dispatcher).deliverAll (event :: rest) =
      (⟨true, [], capacity⟩, queue ++ event :: rest) := by
  rw [deliverAll_cons, deliver_of_isReady _ hready]
  dsimp only
  rw [deliverAll_awake, List.append_assoc]
  rfl

/-- What becomes of a dispatcher that is asleep and has kept the oldest of the events before: while
no event is a ready one it goes on to keep the oldest, and the first ready one wakes it up. -/
theorem deliverAll_asleep (before events : List Event) (capacity : Nat) :
    (⟨false, before.take capacity, capacity⟩ : Dispatcher).deliverAll events =
      match events.findIdx? Event.isReady with
      | none => (⟨false, (before ++ events).take capacity, capacity⟩, [])
      | some first =>
        (⟨true, [], capacity⟩,
          (before ++ events.take first).take capacity ++ events.drop first) := by
  induction events generalizing before with
  | nil =>
      rw [List.findIdx?_nil, List.append_nil]
      rfl
  | cons event rest ih =>
      rw [List.findIdx?_cons]
      cases hready : event.isReady with
      | true =>
          rw [deliverAll_of_isReady _ _ hready]
          simp only [if_true, List.take_zero, List.drop_zero, List.append_nil]
      | false =>
          -- an event more is kept, so that the events before are one more
          rw [deliverAll_cons, deliver_asleep _ _ hready]
          dsimp only
          rw [defer_take, ih]
          cases rest.findIdx? Event.isReady with
          | none => simp
          | some first => simp

/-- The handler is called once on each event and in the order of receipt, except on the newest
events beyond the capacity before the first one that says that the session is ready; until that one
comes in, the handler is not called and the oldest events are kept. This holds for every history of
frames and every handler, on whichever events its calls break off. -/
theorem receiveAll_in_order {σ : Type} (capacity : Nat) (handler : Handler σ) (cache : Cache)
    (frames : List Dispatched) (state : σ) :
    ∃ dispatcher calls,
      ((fresh capacity).receiveAll handler.traced cache frames).run.run ([], state) =
        (.ok (dispatcher, cache.applyAll frames), (calls, handler.after calls state)) ∧
      ((fresh capacity).receiveAll handler cache frames).run.run state =
        (.ok (dispatcher, cache.applyAll frames), handler.after calls state) ∧
      match (cache.events frames).findIdx? Event.isReady with
      | none =>
          calls = [] ∧ dispatcher.ready = false ∧
          dispatcher.deferred =
            (cache.events frames).take (min (max 1 capacity) (cache.events frames).length)
      | some first =>
          calls = (cache.events frames).take (min (max 1 capacity) first) ++
            (cache.events frames).drop first ∧
          dispatcher.ready = true ∧ dispatcher.deferred = [] := by
  have hall := deliverAll_asleep [] (cache.events frames) (max 1 capacity)
  simp only [List.take_nil, List.nil_append] at hall
  refine ⟨((fresh capacity).deliverAll (cache.events frames)).1,
    ((fresh capacity).deliverAll (cache.events frames)).2, ?_, run_receiveAll _ _ _ _ _, ?_⟩
  · rw [run_receiveAll, Handler.after_traced, List.nil_append]
  · rw [show (fresh capacity).deliverAll _ = _ from hall]
    cases (cache.events frames).findIdx? Event.isReady with
    | none =>
        refine ⟨rfl, rfl, ?_⟩
        rw [← List.take_eq_take_min]
    | some first =>
        refine ⟨?_, rfl, rfl⟩
        rw [← List.take_take]

end Dispatcher

end ChatGateway
