import ChatGateway.Dispatcher.Tasks
import ChatGateway.Proofs.Cache.Redelivery

/-!
What depends on the frames alone. The cache takes in a frame before anybody is called, and the
command handler is started by the message that a frame creates, be the dispatcher asleep or awake,
its queue full or not. No call that breaks off gets further than the dispatcher. So two dispatchers
that take in the same frames over the same cache come to the same cache and start the same tasks,
whoever attends to them and whenever the tasks run (`same_frames_same_cache`).
-/

namespace ChatGateway

def created? (frame : Dispatched) : Option Message :=
  if frame.1 = "MESSAGE_CREATE" then Cache.read? Message.decode frame.2 else none

namespace Dispatcher

/-- Only an event of the kind that creates messages is for the command handler. -/
theorem command?_of_kind {event : Event} (hkind : event.kind? ≠ some .messageCreate) :
    command? event = none := by
  cases event with
  | messageCreate => exact absurd rfl hkind
  | _ => rfl

/-- The command handler is started on the message that is created, whatever the dispatcher does
about the event. -/
theorem command_dispatch (dispatcher : Dispatcher) (cache : Cache) (name : String) (data : Json) :
    (dispatcher.dispatch cache name data).2.2.command = created? (name, data) := by
  have hcommand : (dispatcher.dispatch cache name data).2.2.command =
      (cache.apply name data).bind fun made => command? made.2 := by
    unfold dispatch
    cases cache.apply name data <;> rfl
  rw [hcommand, Cache.apply, created?]
  cases hkind : EventKind.ofName? name with
  | none =>
      have hname : name ≠ "MESSAGE_CREATE" := by
        rintro rfl
        cases hkind
      rw [if_neg hname]
      rfl
  | some kind =>
      by_cases hcreate : kind = .messageCreate
      · subst hcreate
        have hname : name = "MESSAGE_CREATE" := (EventKind.name_of_ofName? hkind).symm
        rw [if_pos hname]
        show ((Cache.read? Message.decode data).map _).bind _ = Cache.read? Message.decode data
        cases Cache.read? Message.decode data <;> rfl
      · have hother : name ≠ "MESSAGE_CREATE" := by
          rintro rfl
          cases hkind
          exact hcreate rfl
        rw [if_neg hother]
        dsimp only
        cases happly : cache.applyKind kind data with
        | none => rfl
        | some made =>
            refine command?_of_kind ?_
            rw [Cache.kind?_of_applyKind happly]
            exact mt Option.some.inj hcreate

/-- The event handler comes back from a frame, whether its calls break off or not. A frame that
breaks off itself changes nothing. -/
theorem exists_run_receive {σ : Type} (dispatcher : Dispatcher) (handler : Handler σ)
    (cache : Cache) (name : String) (data : Json) (state : σ) :
    ∃ ending left, (dispatcher.receive handler cache name data).run.run state = (ending, left) ∧
      match ending with
      | .ok (_, next) => next = cache.next (name, data)
      | .error _ => cache.next (name, data) = cache := by
  cases happly : cache.apply name data with
  | none =>
      have hnext : cache.next (name, data) = cache := by simp [Cache.next, happly]
      cases hover : cache.overflows name data with
      | true => exact ⟨_, _, dispatcher.run_receive_of_overflows handler hover state, hnext⟩
      | false =>
          exact ⟨_, _, dispatcher.run_receive_none handler hover happly state, hnext.symm⟩
  | some made =>
      have hnext : cache.next (name, data) = made.1 := by simp [Cache.next, happly]
      exact ⟨_, _, dispatcher.run_receive_some handler happly state, hnext.symm⟩

section Turns

variable {σ : Type} (dispatcher : Dispatcher) (attendants : Attendants σ) (cache : Cache)
  (around : Surroundings σ)

/-- The tasks that frames start: one for each message that they create, if there is a command
handler. -/
def tasks (attendants : Attendants σ) (frames : List Dispatched) : List Message :=
  if attendants.onMessage.isSome then frames.filterMap created? else []

theorem tasks_append (first second : List Dispatched) :
    tasks attendants (first ++ second) = tasks attendants first ++ tasks attendants second := by
  unfold tasks
  split
  next => exact List.filterMap_append
  next => rfl

theorem run_start (frame : Dispatched) :
    ∃ left, (attendants.start (created? frame)).run.run around = (.ok (), left) ∧
      left.started = around.started ++ tasks attendants [frame] := by
  unfold Attendants.start tasks
  cases attendants.onMessage with
  | none => exact ⟨around, rfl, by simp⟩
  | some handler =>
      cases hcreated : created? frame with
      | none => exact ⟨around, rfl, by simp [hcreated]⟩
      | some message => exact ⟨_, rfl, by simp [hcreated]⟩

/-- With both handlers, too, a frame moves the cache unless it breaks off, and starts its task. -/
theorem run_attend (name : String) (data : Json) :
    ∃ next left, (tryCatch (dispatcher.attend attendants cache name data)
        fun _ => pure (dispatcher, cache)).run.run around =
        (.ok (next, cache.next (name, data)), left) ∧
      left.started = around.started ++ tasks attendants [(name, data)] := by
  obtain ⟨begun, hstart, hstarted⟩ := run_start attendants around (name, data)
  obtain ⟨ending, state, hreceive, hending⟩ := dispatcher.exists_run_receive
    (attendants.onEvent (dispatcher.dispatch cache name data).2.1) cache name data begun.state
  have hattend : (dispatcher.attend attendants cache name data).run.run around =
      (ending, { begun with state }) := by
    unfold attend
    dsimp only
    rw [command_dispatch, run_bind_ok hstart]
    show (((dispatcher.receive _ cache name data).run.run begun.state).1,
      { begun with state := ((dispatcher.receive _ cache name data).run.run begun.state).2 }) = _
    rw [hreceive]
  cases ending with
  | ok made =>
      refine ⟨made.1, { begun with state }, ?_, hstarted⟩
      rw [run_tryCatch_ok hattend, ← hending]
  | error panic =>
      refine ⟨dispatcher, { begun with state }, ?_, hstarted⟩
      rw [run_tryCatch_error hattend, hending]
      rfl

/-- Whatever a handler does, and however it ends, it leaves the tasks alone. -/
theorem run_tryCatch_act (work : ExceptT Panic (StateM σ) Unit) :
    ∃ state, (tryCatch (Surroundings.act work) fun _ => pure ()).run.run around =
      (.ok (), { around with state }) := by
  rcases hwork : work.run.run around.state with ⟨ending, state⟩
  refine ⟨state, ?_⟩
  have hact : (Surroundings.act work : StateM (Surroundings σ) (Except Panic Unit)) around =
      (ending, { around with state }) := by
    show ((work.run.run around.state).1, { around with state := (work.run.run around.state).2 }) = _
    rw [hwork]
  cases ending with
  | ok => exact run_tryCatch_ok hact
  | error => exact run_tryCatch_error hact

/-- A task that runs is over, however it ends, and starts no other one. -/
theorem run_runTask (place : Nat) :
    ∃ left, (attendants.runTask cache place).run.run around = (.ok (), left) ∧
      left.started = around.started := by
  have hget : (get : ExceptT Panic (StateM (Surroundings σ)) _).run.run around =
      (.ok around, around) := rfl
  unfold Attendants.runTask
  rw [run_bind_ok hget]
  cases attendants.onMessage with
  | none => exact ⟨around, rfl, rfl⟩
  | some handler =>
      cases around.waiting[place]? with
      | none => exact ⟨around, rfl, rfl⟩
      | some message =>
          let begun := { around with waiting := around.waiting.eraseIdx place }
          have hset : (set begun : ExceptT Panic (StateM (Surroundings σ)) _).run.run around =
              (.ok ⟨⟩, begun) := rfl
          obtain ⟨state, htask⟩ := run_tryCatch_act begun (handler cache message)
          refine ⟨{ begun with state }, ?_, rfl⟩
          dsimp only
          rw [run_bind_ok hset, htask]

/-- What one turn does: the cache moves by the frame, if one comes in, and its task is started. -/
theorem run_takeTurn (turn : Turn) :
    ∃ next left, (tryCatch (dispatcher.takeTurn attendants cache turn)
        fun _ => pure (dispatcher, cache)).run.run around =
        (.ok (next, cache.applyAll turn.frame?.toList), left) ∧
      left.started = around.started ++ tasks attendants turn.frame?.toList := by
  cases turn with
  | frame name data =>
      obtain ⟨next, left, hattend, hstarted⟩ :=
        dispatcher.run_attend attendants cache around name data
      refine ⟨next, left, ?_, hstarted⟩
      rw [takeTurn, hattend, Turn.frame?, Option.toList_some, Cache.applyAll_cons]
      rfl
  | task place =>
      obtain ⟨left, htask, hstarted⟩ := run_runTask attendants cache around place
      refine ⟨dispatcher, left, ?_, ?_⟩
      · rw [takeTurn]
        exact run_tryCatch_ok (run_bind_ok htask)
      · simp [Turn.frame?, hstarted, tasks]

theorem run_takeTurns (turns : List Turn) :
    ∃ next left, (dispatcher.takeTurns attendants cache turns).run.run around =
        (.ok (next, cache.applyAll (turns.filterMap Turn.frame?)), left) ∧
      left.started = around.started ++ tasks attendants (turns.filterMap Turn.frame?) := by
  induction turns generalizing dispatcher cache around with
  | nil => exact ⟨dispatcher, around, rfl, by simp [tasks]⟩
  | cons turn rest ih =>
      have hframes : (turn :: rest).filterMap Turn.frame? =
          turn.frame?.toList ++ rest.filterMap Turn.frame? := by
        cases turn <;> rfl
      obtain ⟨next, begun, hturn, hfirst⟩ := dispatcher.run_takeTurn attendants cache around turn
      obtain ⟨last, left, hrest, hlater⟩ :=
        ih next (cache.applyAll turn.frame?.toList) begun
      refine ⟨last, left, ?_, ?_⟩
      · rw [takeTurns, run_bind_ok hturn, hframes, Cache.applyAll_append]
        exact hrest
      · rw [hlater, hfirst, hframes, tasks_append, List.append_assoc]

end Turns

/-- Two dispatchers over equal caches that take in the same frames come to equal caches, and each of
them starts its command handler, if it has one, once on each message that is created and in the
order of receipt. This holds whether the dispatchers are awake or asleep, whatever they keep and can
keep, whoever attends to them and breaks off on whatever, and whenever the tasks run. -/
theorem same_frames_same_cache {σ τ : Type} (cache : Cache) (first second : Dispatcher)
    (attendants : Attendants σ) (others : Attendants τ) (turns schedule : List Turn)
    (hframes : turns.filterMap Turn.frame? = schedule.filterMap Turn.frame?)
    (around : Surroundings σ) (elsewhere : Surroundings τ) :
    let frames := turns.filterMap Turn.frame?
    ∃ after first' second' left left',
      (first.takeTurns attendants cache turns).run.run around = (.ok (first', after), left) ∧
      (second.takeTurns others cache schedule).run.run elsewhere = (.ok (second', after), left') ∧
      after = cache.applyAll frames ∧
      left.started = around.started ++
        (if attendants.onMessage.isSome then frames.filterMap created? else []) ∧
      left'.started = elsewhere.started ++
        (if others.onMessage.isSome then frames.filterMap created? else []) := by
  intro frames
  obtain ⟨first', left, hfirst, hleft⟩ := first.run_takeTurns attendants cache around turns
  obtain ⟨second', left', hsecond, hleft'⟩ :=
    second.run_takeTurns others cache elsewhere schedule
  rw [← hframes] at hsecond hleft'
  exact ⟨_, first', second', left, left', hfirst, hsecond, rfl, hleft, hleft'⟩

/-- Handlers of which every call breaks off. -/
def failing : Attendants Unit where
  onEvent _ := fun event => throw ⟨event.name⟩
  onMessage := some fun _ message => throw ⟨message.id.text⟩

def listing : Attendants (List String) where
  onEvent _ := fun event => modify (· ++ [event.name])
  onMessage := some fun _ message => modify (· ++ [message.id.text])

def messageTurn (id : String) : Turn :=
  .frame "MESSAGE_CREATE" (.object [("channel_id", .string "5"), ("id", .string id)])

/-- Two messages, and one without an identifier of its channel, with tasks in between. -/
def eagerTurns : List Turn :=
  [messageTurn "1", .task 0, .frame "MESSAGE_CREATE" (.object [("id", .string "9")]),
    messageTurn "2", .task 0]

/-- The same frames, with all tasks at the end and the newest one first. -/
def lateTurns : List Turn :=
  [messageTurn "1", .frame "MESSAGE_CREATE" (.object [("id", .string "9")]), messageTurn "2",
    .task 1, .task 0]

/-- An awake dispatcher of which every call breaks off, beside one that is asleep and can keep no
event more. -/
theorem same_frames_same_cache_failing :
    eagerTurns.filterMap Turn.frame? = lateTurns.filterMap Turn.frame? ∧
      ∃ after first second left left',
        ((⟨true, [], 1⟩ : Dispatcher).takeTurns failing (.empty 5) eagerTurns).run.run
          ⟨(), [], []⟩ = (.ok (first, after), left) ∧
        ((⟨false, [.resumed], 1⟩ : Dispatcher).takeTurns listing (.empty 5) lateTurns).run.run
          ⟨[], [], []⟩ = (.ok (second, after), left') ∧
        after.messageIds = [⟨"1"⟩, ⟨"2"⟩] ∧ left.started = left'.started ∧
        left.started.map (·.id) = [⟨"1"⟩, ⟨"2"⟩] := by
  have hframes : eagerTurns.filterMap Turn.frame? = lateTurns.filterMap Turn.frame? := rfl
  have hids : ((Cache.empty 5).applyAll (eagerTurns.filterMap Turn.frame?)).messageIds =
      [⟨"1"⟩, ⟨"2"⟩] := by
    decide +kernel
  have hstarted : ((eagerTurns.filterMap Turn.frame?).filterMap created?).map (·.id) =
      [⟨"1"⟩, ⟨"2"⟩] := by
    decide +kernel
  obtain ⟨after, first, second, left, left', hfirst, hsecond, rfl, hleft, hleft'⟩ :=
    same_frames_same_cache (.empty 5) ⟨true, [], 1⟩ ⟨false, [.resumed], 1⟩ failing listing
      eagerTurns lateTurns hframes ⟨(), [], []⟩ ⟨[], [], []⟩
  refine ⟨hframes, _, first, second, left, left', hfirst, hsecond, hids,
    hleft.trans hleft'.symm, ?_⟩
  rw [hleft]
  exact hstarted

end Dispatcher

end ChatGateway
