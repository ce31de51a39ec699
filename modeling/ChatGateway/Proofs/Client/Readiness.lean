import ChatGateway.Proofs.Cache.Coherence
import ChatGateway.Proofs.Client.Accounting
import ChatGateway.Proofs.Client.Progress

/-!
Who knows that the session is ready. The session looks at the name of an event, and of its data at
the session identifier alone; the dispatcher looks at the event that the data make. The dispatcher
knows of a ready session from the first frame on whose data can be read as a whole, and then it
holds nothing back, so that the two agree exactly if there has been such a frame (`ready_agrees`).
A session may be ready without one (`ready_unheard`).
-/

namespace ChatGateway

/-- Nothing but an event of the ready kind says that the session is ready. -/
theorem Event.isReady_of_kind {event : Event} (hkind : event.kind? ≠ some .ready) :
    event.isReady = false := by
  cases event with
  | ready => exact absurd rfl hkind
  | _ => rfl

/-- A frame makes an event that says that the session is ready exactly if its data can be read as
such. -/
theorem Cache.any_isReady_apply (cache : Cache) (named : Dispatched) :
    (cache.apply named.1 named.2).any (·.2.isReady) = (readyOf? named).isSome := by
  unfold apply
  cases hkind : EventKind.ofName? named.1 with
  | none =>
      unfold readyOf?
      rw [hkind]
      rfl
  | some kind =>
      by_cases hready : kind = .ready
      · subst hready
        unfold readyOf?
        rw [hkind]
        show ((read? ReadyEvent.decode named.2).map _).any _ = (read? _ named.2).isSome
        cases read? ReadyEvent.decode named.2 <;> rfl
      · rw [readyOf?_of_ne hkind hready]
        dsimp only
        cases happly : cache.applyKind kind named.2 with
        | none => rfl
        | some made =>
            refine Event.isReady_of_kind ?_
            rw [kind?_of_applyKind happly]
            exact mt Option.some.inj hready

theorem Cache.any_isReady_events (cache : Cache) (frames : List Dispatched) :
    (cache.events frames).any Event.isReady = frames.any fun named => (readyOf? named).isSome := by
  induction frames generalizing cache with
  | nil => rfl
  | cons named rest ih =>
      rw [List.any_cons, ← cache.any_isReady_apply named]
      obtain ⟨name, data⟩ := named
      rw [events]
      cases cache.apply name data with
      | none => exact ih cache
      | some made => exact congrArg (made.2.isReady || ·) (ih made.1)

namespace Client

open Account

/-- A dispatcher knows that the session is ready, and keeps nothing back, exactly if one of the
events says so. -/
theorem Handover.ready_iff {capacity : Nat} {events handed : List Event} {dispatcher : Dispatcher}
    (h : Handover capacity events dispatcher handed) :
    dispatcher.ready = true ∧ dispatcher.deferred = [] ↔ events.any Event.isReady = true := by
  unfold Handover at h
  rw [← List.findIdx?_isSome]
  cases hfirst : events.findIdx? Event.isReady with
  | none =>
      rw [hfirst] at h
      obtain ⟨-, hasleep, -⟩ := h
      rw [hasleep]
      simp
  | some first =>
      rw [hfirst] at h
      obtain ⟨-, hready, hdeferred⟩ := h
      exact ⟨fun _ => rfl, fun _ => ⟨hready, hdeferred⟩⟩

/-- The session and the dispatcher agree that the session is ready exactly if the data of some frame
could be read as those of a ready session, and from the first such frame on every event is handed
over in the order of receipt, after the oldest of the events before it; until then no event is. This
holds in every history. -/
theorem ready_agrees (config : Config) (handlers : Handlers) (moves : List Move) :
    let c := (fresh config handlers).run moves
    ((c.session.phase = .ready → c.dispatcher.ready = true ∧ c.dispatcher.deferred = []) ↔
      (c.session.phase = .ready →
        ∃ named ∈ Received.dispatched c.frames, (readyOf? named).isSome)) ∧
    Handover (freshDispatcher config).capacity
      ((emptyCache config).events (Received.dispatched c.frames)) c.dispatcher
      (c.handed ++ c.framePath.pending) := by
  intro c
  have hstep : c.account.InStep := inStep_run _ (inStep_fresh config handlers) moves
  have hconfig : c.account.config = config := config_run _ moves
  have hhandover := hstep.handover
  unfold events at hhandover
  rw [hconfig] at hhandover
  have hiff := Handover.ready_iff hhandover
  rw [Cache.any_isReady_events, List.any_eq_true] at hiff
  exact ⟨imp_congr_right fun _ => hiff, hhandover⟩

/-- A session is ready as soon as a frame says so by its name, even if the data tell no user or the
frame says that a session was taken up that the dispatcher has never seen begin. The events that
come in then are kept for later, and dropped when there are too many of them. -/
theorem ready_unheard :
    let start := fresh { token := "t", deferredQueueCapacity := 1 } .none
    let ready : Move := .frame {
      op := 0, sequence := some 1, event := some "READY"
      data := .object [("session_id", .string "abc"), ("v", .int 10)] }
    let resumed : Move := .frame { op := 0, sequence := some 1, event := some "RESUMED" }
    let event : Move := .frame { op := 0, sequence := some 2, event := some "X" }
    let c := start.run [ready]
    let d := start.run [resumed]
    (c.session.phase = .ready ∧ c.dispatcher.ready = false) ∧
      (d.session.phase = .ready ∧ d.dispatcher.ready = false) ∧
      -- the first of two events is kept, the second one dropped
      ((c.run [event]).handed.length = 0 ∧ (c.run [event]).dispatcher.deferred.length = 1) ∧
      (c.run [event, event]).handed.length = 0 ∧
      (c.run [event, event]).dispatcher.deferred.length = 1 := by
  decide +kernel

end Client

end ChatGateway
