import ChatGateway.Proofs.Client.HeartbeatOrder
import ChatGateway.Proofs.Client.Hearts
import ChatGateway.Proofs.Client.Stages

/-!
What is left when the connection loop has ended. However the loop comes to its end, it is left
disconnected and without a hold on a heartbeat loop (`concluded_of_turn`), and it never ends with a
connection attached, since nothing is attached but while it reads, unless it broke off (`Runs`).
From then on nothing is written any more: what still happens to the client is quiet (`quiet_step`),
and whoever sends something is told that there is no connection (`run_cleans_up`).
-/

namespace ChatGateway

/-- Nothing is written, and a send that comes to its end finds no connection. -/
def Occurrence.Mute : Occurrence → Prop
  | .wrote _ _ _ => False
  | .returned _ result => result = .error .notConnected
  | _ => True

namespace Standing

/-- There is no connection to write to but one that was opened and has not been left. -/
def Tidy (o : Standing) : Prop := ¬ o.stage.Connected → o.link = none

/-- What becomes of the writing end in a step: it stays, it is given up, or one to the next
connection is taken where there was none. -/
inductive Relinks (o o' : Standing) : Prop
  | keep (hlink : o'.link = o.link)
  | drop (hlink : o'.link = none)
  | attach (hnone : o.link = none) (hlink : o'.link = some o.connections)

variable {o o' : Standing}

theorem Turn.relinks (hturn : Turn o o') (h : o.Tidy) : Relinks o o' := by
  cases hturn with
  | attach hstage => exact .attach (h (by rw [hstage]; exact id)) rfl
  | leave => exact .drop rfl
  | _ => exact .keep rfl

theorem Turn.tidy (hturn : Turn o o') (h : o.Tidy) : o'.Tidy := by
  cases hturn with
  | stay | mark => exact h
  | attach | breakOff => exact fun hleft => absurd trivial hleft
  | leave => exact fun _ => rfl
  | «begin» hstage | depart hstage => exact fun _ => h (by rw [hstage]; exact id)
  | «try» hstage => exact fun _ => h hstage.disconnected
  | conclude hstage => exact fun _ => h hstage
  | work hstage | greet hstage => exact fun hleft => absurd (by rw [hstage]; trivial) hleft

end Standing

namespace Client

open Standing

/-- What follows on a client writes nothing and begins no heartbeat loop. -/
structure Quiet (c d : Client) : Prop where
  log : ∃ since, d.log = since ++ c.log ∧ ∀ entry ∈ since, entry.what.Mute
  held : d.hearts.held = c.hearts.held
  loops : d.hearts.loops ⊆ c.hearts.loops

/-- What holds of a client whose connection loop was started. -/
structure Runs (c : Client) : Prop where
  orderly : c.standing.Orderly
  begun : c.stage ≠ .dormant
  /-- There is no connection to write to but one that was opened and has not been left. -/
  detached : ¬ c.stage.Connected → c.session.link = none
  told : c.hearts.Told
  heartless : ∀ result, c.stage = .ended result → c.session.heart = none

section Quiet

variable {c d e : Client}

theorem Quiet.refl (c : Client) : c.Quiet c :=
  ⟨⟨[], rfl, List.forall_mem_nil _⟩, rfl, List.Subset.refl _⟩

theorem Quiet.trans (h : c.Quiet d) (h' : d.Quiet e) : c.Quiet e := by
  obtain ⟨first, hfirst, hmute⟩ := h.log
  obtain ⟨second, hsecond, hmute'⟩ := h'.log
  refine ⟨⟨second ++ first, ?_, ?_⟩, h'.held.trans h.held, List.Subset.trans h'.loops h.loops⟩
  · rw [hsecond, hfirst, List.append_assoc]
  · intro entry hmem
    rcases List.mem_append.1 hmem with hlate | hearly
    · exact hmute' entry hlate
    · exact hmute entry hearly

theorem Quiet.of_eq (hlog : d.log = c.log) (hhearts : d.hearts = c.hearts) : c.Quiet d :=
  ⟨⟨[], hlog, List.forall_mem_nil _⟩, congrArg Hearts.held hhearts,
    by rw [hhearts]; exact List.Subset.refl _⟩

/-- Something is noted that nobody hears of. -/
theorem Quiet.of_note {entry : Entry} (hlog : d.log = entry :: c.log) (hmute : entry.what.Mute)
    (hhearts : d.hearts = c.hearts) : c.Quiet d :=
  ⟨⟨[entry], hlog, List.forall_mem_singleton.2 hmute⟩, congrArg Hearts.held hhearts,
    by rw [hhearts]; exact List.Subset.refl _⟩

theorem quiet_enter (c : Client) (phase : Phase) : c.Quiet (c.enter phase) := by
  unfold enter
  split
  next => exact .refl c
  next => exact .of_note rfl trivial rfl

theorem quiet_setBeat (c : Client) (id : Nat) (beat : Beat) : c.Quiet (c.setBeat id beat) :=
  .of_eq rfl (Snapshot.hearts_setBeat c.snapshot id beat)

theorem quiet_requestReconnect (c : Client) : c.Quiet c.requestReconnect := by
  have horder (d : Client) : d.Quiet (d.order .reconnect) := by
    unfold order
    split <;> exact .of_eq rfl rfl
  have hmark := quiet_enter { c with session.reconnecting := true } .reconnecting
  exact Quiet.trans ⟨hmark.log, hmark.held, hmark.loops⟩ (horder c.markReconnecting)

theorem write_of_detached (hlink : c.session.link = none) (writer : Writer) (what : Outgoing) :
    c.write writer what = (c, .error .notConnected) := by
  rw [write, hlink]

theorem quiet_tick (c : Client) (id : Nat) : c.Quiet (c.tick id) := by
  have hticked (acked : Bool) : c.Quiet
      { c.record (.ticked id c.session.acked) with session.acked := acked } :=
    .of_note rfl trivial rfl
  unfold tick
  dsimp only
  split
  next => exact (hticked false).trans (quiet_setBeat _ id _)
  next => exact (hticked _).trans ((quiet_requestReconnect _).trans (quiet_setBeat _ id _))

/-- A heartbeat that finds no connection is not written. -/
theorem quiet_beat (hlink : c.session.link = none) (id : Nat) : c.Quiet (c.beat id) := by
  unfold beat
  split
  next => exact .refl c
  next =>
    split
    next => exact quiet_setBeat c id _
    next =>
      split
      next => exact quiet_setBeat c id _
      next => exact .refl c
    next =>
      split
      next => exact .refl c
      next => exact quiet_tick c id
    next what _ =>
      split
      next =>
        rw [write_of_detached hlink]
        exact quiet_setBeat c id _
      next => exact .refl c

/-- Nor is what a caller sends. -/
theorem quiet_complete (hlink : c.session.link = none) (id : Nat) : c.Quiet (c.complete id) := by
  unfold complete
  split
  next => exact .refl c
  next send _ =>
    split
    next =>
      dsimp only
      rw [write_of_detached (by exact hlink)]
      exact .of_note rfl rfl rfl
    next => exact .refl c

theorem quiet_runReply (c : Client) (id : Nat) : c.Quiet (c.runReply id) := by
  unfold runReply
  split
  next =>
    dsimp only
    split
    next => exact .of_note rfl trivial rfl
    next => split <;> exact .of_note rfl trivial rfl
  next => exact .refl c

theorem quiet_respond (c : Client) (id : Nat) (response : Option Response) :
    c.Quiet (c.respond id response) := by
  unfold respond
  split
  next =>
    split
    next =>
      dsimp only
      split
      next => exact .of_eq rfl rfl
      next => exact .of_note rfl trivial rfl
    next => exact .refl c
  next => exact .refl c

/-- Whatever happens to a client whose connection loop has ended is quiet. -/
theorem quiet_step (h : c.Runs) {result : Except ClientError Unit}
    (hended : c.stage = .ended result) (move : Move) : c.Quiet (c.step move) := by
  have hunread : c.standing.stage ≠ .reading := fun hreading => by cases hended.symm.trans hreading
  have hidle : c.framePath = .idle := h.orderly.idle hunread
  have hlink : c.session.link = none := h.detached (by rw [hended]; exact id)
  have hheart : c.session.heart = none := h.heartless result hended
  have hsame {d : Client} (heq : d = c) : c.Quiet d := by
    rw [heq]
    exact .refl c
  -- the loop and the frame path do nothing any more;
  -- what is left waits, notes or finds no connection
  cases move with
  | elapse milliseconds => exact .of_eq rfl rfl
  | setTimeOfDay now => exact .of_eq rfl rfl
  | observe headers object kind => exact .of_eq rfl rfl
  | requestReconnect => exact quiet_requestReconnect c
  | shutdown => exact hsame (by simp [step, shutdown, stopHeart, order, hheart, hended])
  | send what => exact .of_eq rfl rfl
  | complete id => exact quiet_complete hlink id
  | attach broken => exact hsame (by simp [step, hended])
  | frame frame => exact hsame (by simp [step, hended])
  | proceed => exact hsame (by simp [step, proceed, hidle])
  | beat id => exact quiet_beat hlink id
  | halt id =>
      exact ⟨⟨[], rfl, List.forall_mem_nil _⟩, rfl, List.map_subset _ List.filter_sublist.subset⟩
  | start => exact hsame (by simp [step, start?, hended])
  | opened => exact hsame (by simp [step, opened, hended])
  | refused => exact hsame (by simp [step, refused, hended])
  | retry => exact hsame (by simp [step, Client.retry, hended])
  | depart => exact hsame (by simp [step, depart, hended])
  | obey => exact hsame (by simp only [step, obey, hended]; split <;> rfl)
  | receive item => exact hsame (by simp [step, receive, hended])
  | dismiss => exact .of_eq rfl rfl
  | cut => exact .of_eq rfl rfl
  | runReply id => exact quiet_runReply c id
  | respond id response => exact quiet_respond c id response

end Quiet

/-! ### The end of the loop -/

section Concluded

variable {c : Client} {result : Except ClientError Unit}

/-- However the loop comes to its end, the client is left disconnected and holds no heartbeat loop
any more. -/
theorem concluded_of_turn {move : Move} {s : Snapshot} (hturn : Snapshot.Turn c move s)
    (hlive : c.stage ≠ .ended result) (hended : s.stage = .ended result) :
    s.phase = .disconnected ∧ s.heart = none := by
  cases hturn with
  | @loop _ stage =>
      have hstage : stage = .ended result := hended
      subst hstage
      exact ⟨rfl, rfl⟩
  | @replace delay =>
      have htries := Course.tries_trying c.course ⟨1, delay⟩
      rw [show c.course.trying ⟨1, delay⟩ = _ from hended] at htries
      exact htries.elim
  | insert _ _ htakes | read _ _ _ htakes =>
      rcases htakes.stage with hsame | hleft | hbroken
      · exact absurd (hsame.symm.trans hended) hlive
      · cases hleft.symm.trans hended
      · cases hbroken.symm.trans hended
  | proceed hproceeds =>
      rcases hproceeds.stage with hsame | hleft
      · exact absurd (hsame.symm.trans hended) hlive
      · cases hleft.symm.trans hended
  | beat hbeats => cases hbeats <;> exact absurd hended hlive
  | _ => exact absurd hended hlive

end Concluded

/-! ### From the start on -/

section Runs

variable {c d : Client} {result : Except ClientError Unit}

/-- Connections and frames are put in by hand only before the loop has begun. -/
theorem step_of_isByHand (hbegun : c.stage ≠ .dormant) {move : Move}
    (hhand : move.isByHand = true) : c.step move = c := by
  cases move with
  | attach broken =>
      rw [step]
      split
      next hdormant => exact absurd hdormant hbegun
      next => rfl
  | frame frame =>
      rw [step]
      split
      next hdormant _ => exact absurd hdormant hbegun
      next => rfl
  | _ => cases hhand

theorem start?_of_begun (hbegun : c.stage ≠ .dormant) : c.start? = .error .alreadyRunning := by
  unfold start?
  split
  next hdormant => exact absurd hdormant hbegun
  next => rfl

theorem trying_ne_dormant (o : Course) (retry : Retry) : o.trying retry ≠ .dormant := by
  rcases Course.trying_cases o retry with htry | ⟨due, htry⟩ <;> rw [htry] <;> exact nofun

/-- A loop that has begun does not begin again. -/
theorem begun_step (hbegun : c.stage ≠ .dormant) (move : Move) :
    (c.step move).stage ≠ .dormant := by
  have hgoes := goes_step c move
  generalize (c.step move).stage = stage, (c.step move).orders = orders at hgoes
  cases hgoes with
  | stay => exact hbegun
  | lose | breakOff => exact nofun
  | loop hloops =>
      cases hloops with
      | again | depart => exact trying_ne_dormant c.course _
      | _ => exact nofun

theorem detached_iff : c.session.link = none ↔ c.standing.link = none :=
  Option.map_eq_none_iff.symm

/-- A heartbeat loop leaves the connection as it is. -/
theorem Beats.same {id : Nat} {o : Standing} (hbeats : Beats c id o) :
    o.link = c.standing.link ∧ o.stage = c.standing.stage := by
  cases hbeats <;> exact ⟨rfl, rfl⟩

theorem Runs.tidy (h : c.Runs) : c.standing.Tidy :=
  fun hstage => detached_iff.1 (h.detached hstage)

/-- The next connection is taken only after the last one was given up. -/
theorem Runs.relinks (h : c.Runs) (move : Move) :
    Relinks c.standing (c.step move).standing ∧ (c.step move).standing.Tidy := by
  cases hhand : move.isByHand with
  | true =>
      rw [step_of_isByHand h.begun hhand]
      exact ⟨.keep rfl, h.tidy⟩
  | false =>
      by_cases hbeat : ∃ id, move = .beat id
      · obtain ⟨id, rfl⟩ := hbeat
        obtain ⟨hlink, hstage⟩ := (beats_step c id).same
        refine ⟨.keep hlink, fun hother => ?_⟩
        rw [hlink]
        exact h.tidy (hstage ▸ hother)
      · have hturn := standing_step c h.orderly move hhand (not_exists.1 hbeat)
        exact ⟨hturn.relinks h.tidy, hturn.tidy h.tidy⟩

theorem Runs.step (h : c.Runs) (move : Move) : (c.step move).Runs where
  orderly := by
    cases hhand : move.isByHand with
    | true =>
        rw [step_of_isByHand h.begun hhand]
        exact h.orderly
    | false => exact (orderly_step c h.orderly move hhand).1
  begun := begun_step h.begun move
  detached := fun hstage => detached_iff.2 ((h.relinks move).2 hstage)
  told := h.told.turn (hearts_step c move)
  heartless := by
    intro result hended
    by_cases hbefore : c.stage = .ended result
    · exact (quiet_step h hbefore move).held.trans (h.heartless result hbefore)
    · -- the step that ends the loop lets go of the heartbeat
      exact (concluded_of_turn (turn_step c move) hbefore hended).2

theorem Runs.run (h : c.Runs) (moves : List Move) : (c.run moves).Runs := by
  induction moves generalizing c with
  | nil => exact h
  | cons move rest ih => exact ih (h.step move)

theorem start?_eq_ok (hstart : c.start? = .ok d) : c.stage = .dormant ∧ d = c.connect none := by
  unfold start? at hstart
  split at hstart
  next hdormant =>
    cases hstart
    exact ⟨hdormant, rfl⟩
  next => cases hstart

/-- A client that has not begun has had no connection, if none was put in by hand. -/
theorem runs_start (config : Config) (handlers : Handlers) {before : List Move} {started : Client}
    (hloop : ∀ move ∈ before, move.isByHand = false)
    (hstart : ((fresh config handlers).run before).start? = .ok started) : started.Runs := by
  obtain ⟨horderly, -⟩ := orderly_run _ (orderly_fresh config handlers) before hloop
  generalize hclient : (fresh config handlers).run before = c at hstart horderly
  obtain ⟨hdormant, rfl⟩ := start?_eq_ok hstart
  have hconnect := snapshot_connect c none
  have hstanding : (c.connect none).standing = { c.standing with stage := .opening none } := by
    rw [← snapshot_standing, hconnect, ← snapshot_standing]
    rfl
  have hlink : c.standing.link = none := by
    -- a connection would have been counted
    have hunused : c.standing.connections = 0 := horderly.unused hdormant
    cases hlink : c.standing.link with
    | none => rfl
    | some n =>
        have hnewest := horderly.newest n hlink
        omega
  refine ⟨?_, nofun, fun _ => ?_, ?_, fun result => nofun⟩
  · rw [hstanding]
    exact horderly.turn (.begin hdormant)
  · rw [detached_iff, hstanding]
    exact hlink
  · have hhearts : (c.connect none).hearts = c.hearts := congrArg Snapshot.hearts hconnect
    rw [hhearts, ← hclient]
    exact told_run _ (told_fresh config handlers) before

/-- When the connection loop has ended, every heartbeat loop has been told to stop. -/
theorem Runs.stopped (h : c.Runs) (hended : c.stage = .ended result) :
    ∀ loop ∈ c.loops, loop.stopped = true := by
  intro loop hmem
  have hheart : c.hearts.held = none := h.heartless result hended
  refine (h.told (loop.id, loop.stopped) (List.mem_map_of_mem hmem)).resolve_right fun hheld => ?_
  cases hheart.symm.trans hheld

theorem quiet_run (h : c.Runs) (hended : c.stage = .ended result) (moves : List Move) :
    c.Quiet (c.run moves) := by
  induction moves generalizing c with
  | nil => exact .refl c
  | cons move rest ih =>
      have hnext : (c.step move).stage = .ended result :=
        (goes_step c move).over hended rfl
      exact (quiet_step h hended move).trans (ih (h.step move) hnext)

/-- What a caller sends comes to its end without a connection. -/
theorem returned?_complete (hlink : c.session.link = none) {id : Nat} {send : Send}
    (hfound : (c.sends.find? fun send => send.id = id) = some send) (hdue : send.due ≤ c.clock) :
    (c.step (.complete id)).returned? id = some (.error .notConnected) := by
  have hstep : c.step (.complete id) =
      ({ c with sends := c.sends.filter fun send => send.id ≠ id } : Client).record
        (.returned id (.error .notConnected)) := by
    rw [step, complete, hfound]
    dsimp only
    rw [if_pos hdue, write_of_detached (by exact hlink)]
  rw [hstep]
  simp [returned?, record]

end Runs

/-- A loop that was started, with no connection put in by hand, after any history. A step keeps the
connection, gives it up, or takes the next one when there is none; and the loop is not started
again. The step that ends the loop leaves the client disconnected. From then on, whatever happens,
there is no connection, every heartbeat loop has been told to stop, nothing is written, no heartbeat
loop begins, and whoever sends something is told that there is no connection. -/
theorem run_cleans_up (config : Config) (handlers : Handlers) {before : List Move}
    {started : Client} (hloop : ∀ move ∈ before, move.isByHand = false)
    (hstart : ((fresh config handlers).run before).start? = .ok started) (moves : List Move) :
    let c := started.run moves
    (∀ move, Relinks c.standing (c.step move).standing) ∧
    (c.start? = .error .alreadyRunning ∧ c.step .start = c) ∧
    (∀ move result, c.stage ≠ .ended result → (c.step move).stage = .ended result →
      (c.step move).session.phase = .disconnected) ∧
    ∀ result, c.stage = .ended result → ∀ later,
      let d := c.run later
      d.stage = .ended result ∧ d.session.link = none ∧
      (∀ loop ∈ d.loops, loop.stopped = true) ∧ c.Quiet d ∧
      (∀ writer what, d.write writer what = (d, .error .notConnected)) ∧
      ∀ id send, (d.sends.find? fun send => send.id = id) = some send → send.due ≤ d.clock →
        (d.step (.complete id)).returned? id = some (.error .notConnected) := by
  intro c
  have hruns : c.Runs := (runs_start config handlers hloop hstart).run moves
  have hagain : c.start? = .error .alreadyRunning := start?_of_begun hruns.begun
  refine ⟨fun move => (hruns.relinks move).1, ⟨hagain, ?_⟩, ?_, ?_⟩
  · rw [step, hagain]
  · intro move result hlive hended
    exact (concluded_of_turn (turn_step c move) hlive hended).1
  · intro result hended later d
    have hlater : d.Runs := hruns.run later
    have hstill : d.stage = .ended result := over_run c hended rfl later
    have hlink : d.session.link = none := hlater.detached (by rw [hstill]; exact id)
    exact ⟨hstill, hlink, hlater.stopped hstill, quiet_run hruns hended later,
      write_of_detached hlink, fun id send hfound hdue => returned?_complete hlink hfound hdue⟩

def isDone (c : Client) : Bool :=
  match c.stage with
  | .ended (.ok ()) => true
  | _ => false

theorem stage_of_isDone {c : Client} (hdone : c.isDone = true) : c.stage = .ended (.ok ()) := by
  unfold isDone at hdone
  split at hdone
  next hended => exact hended
  next => cases hdone

/-- A client is shut down on its first connection, while a caller's send is under way. -/
def parted : Client :=
  (((fresh { token := "t" } .none).run [.elapse 5]).connect none).run
    [.opened, greeting, .proceed, .send (.text "late"), .shutdown, .obey, .depart]

theorem run_cleans_up_parted :
    (∀ move ∈ [Move.elapse 5], move.isByHand = false) ∧
      ((fresh { token := "t" } .none).run [.elapse 5]).start? =
        .ok (((fresh { token := "t" } .none).run [.elapse 5]).connect none) ∧
      parted.stage = .ended (.ok ()) ∧ parted.loops.length = 1 ∧
      (∀ loop ∈ parted.loops, loop.stopped = true) ∧
      (parted.step (.complete 1)).returned? 1 = some (.error .notConnected) := by
  have hloop : ∀ move ∈ [Move.elapse 5], move.isByHand = false := by decide
  have hstart : ((fresh { token := "t" } .none).run [.elapse 5]).start? =
      .ok (((fresh { token := "t" } .none).run [.elapse 5]).connect none) := rfl
  have hended : parted.stage = .ended (.ok ()) := stage_of_isDone (by decide +kernel)
  have hone : parted.loops.length = 1 := by decide +kernel
  have hsend : (parted.sends.find? fun send => send.id = 1) = some ⟨1, 5, .text "late"⟩ := by
    decide +kernel
  have hdue : (⟨1, 5, .text "late"⟩ : Send).due ≤ parted.clock := by decide +kernel
  obtain ⟨-, -, -, hafter⟩ := run_cleans_up { token := "t" } .none hloop hstart
    [.opened, greeting, .proceed, .send (.text "late"), .shutdown, .obey, .depart]
  rw [← parted] at hafter
  have hover := hafter (.ok ()) hended []
  dsimp only [run_nil] at hover
  obtain ⟨-, -, hstopped, -, -, hreturned⟩ := hover
  exact ⟨hloop, hstart, hended, hone, hstopped, hreturned 1 _ hsend hdue⟩

end Client

end ChatGateway
