import ChatGateway.Proofs.Client.HeartbeatOrder
import ChatGateway.Proofs.Client.Rhythm

/-!
Heartbeats run on acknowledgements. A step of a client in a steady rhythm is a turn of the rhythm or
a tick, unless it is a shutdown (`rhythm_step`), so that a client that is not shut down stays
steady, however its parts are interleaved (`steady_run`). What that says about its ticks is put
together in `heartbeats_follow_acknowledgements`.
-/

namespace ChatGateway

def Occurrence.written? : Occurrence → Option Outgoing
  | .wrote _ _ what => some what
  | _ => none

/-- Only an acknowledgement and a greeting stand for one. -/
theorem Frame.plain_of_opcode {frame : Frame} {opcode : Opcode}
    (hopcode : frame.opcode? = some opcode) (hack : opcode ≠ .heartbeatAck)
    (hhello : opcode ≠ .hello) : frame.acknowledges = false :=
  not_acknowledges (by simp [hopcode, hack]) (not_greets (by simp [hopcode, hhello]))

theorem Frame.plain_of_dispatched {frame : Frame} {named : Dispatched}
    (hnamed : frame.dispatched? = some named) : frame.acknowledges = false :=
  plain_of_opcode (opcode_of_dispatched hnamed) (by decide) (by decide)

namespace Snapshot

open Rhythm

def rhythm (s : Snapshot) : Rhythm where
  acked := s.acked
  reconnecting := s.reconnecting
  path := s.path
  heart := s.heart
  alive := s.loops.length
  ended := s.stage.isOver
  notes := s.noted.filterMap Occurrence.note?

variable {s s' : Snapshot}

theorem rhythm_beating (s : Snapshot) (id : Nat) : (s.beating id).rhythm = s.rhythm.beating id := by
  have hheart : s.rhythm.heart = s.heart := rfl
  unfold beating Rhythm.beating
  rw [hheart]
  cases hheld : s.heart with
  | some held =>
      unfold rhythm
      rw [hheld]
      rfl
  | none =>
      unfold rhythm
      dsimp only
      rw [if_neg (by exact nofun), List.length_append]
      rfl

theorem rhythm_hushed (s : Snapshot) : s.hushed.rhythm = { s.rhythm with heart := none } := by
  unfold rhythm hushed
  rw [List.length_map]

theorem rhythm_setBeat (s : Snapshot) (id : Nat) (beat : Beat) :
    (s.setBeat id beat).rhythm = s.rhythm := by
  unfold rhythm setBeat
  rw [List.length_map]

theorem rhythm_note (s : Snapshot) (what : Occurrence) :
    (s.note what).rhythm = { s.rhythm with notes := what.note?.toList ++ s.rhythm.notes } := by
  unfold rhythm note
  cases h : what.note? <;> simp [h]

theorem rhythm_handing (s : Snapshot) (events : List Event) :
    (s.handing events).rhythm = s.rhythm := by
  unfold rhythm
  rw [filterMap_handing s fun _ => rfl]
  rfl

/-- What the loop comes to while it goes on leaves the rhythm as it is. -/
theorem rhythm_reaching (s : Snapshot) {stage : Stage} (hopen : stage.isOver = false) :
    (s.reaching stage).rhythm = s.rhythm := by
  cases stage with
  | ended | broken => cases hopen
  | _ => rfl

/-! ### The frame path -/

theorem rhythm_loses (hloses : s.Loses s') : s'.rhythm = { s.rhythm with path := .idle } := by
  cases hloses with
  | leave hstage =>
      unfold rhythm
      rw [hstage]
      rfl
  | spare => rfl

theorem rhythm_handles {events : List Event} (hhandles : s.Handles events s') :
    ∃ path : FramePath, path.Sound ∧ path.answers = false ∧
      s'.rhythm = { s.rhythm with path } := by
  cases hhandles with
  | all =>
      rw [← rhythm_handing s events]
      exact ⟨.idle, trivial, rfl, rfl⟩
  | @upTo handed rest event command =>
      rw [← rhythm_handing s (handed ++ [event])]
      exact ⟨.sending _ (.command command) (.handler rest), trivial, rfl, rfl⟩

/-- Taking in a frame of a connection that may still be read. -/
theorem rhythm_takes {frame : Frame} (hopen : s.stage.isOver = false) (htakes : s.Takes frame s') :
    Rhythm.Turn s.rhythm s'.rhythm := by
  have hplain {path : FramePath} (hacks : frame.acknowledges = false) (hsound : path.Sound)
      (hanswers : path.answers = false) :
      Rhythm.Turn s.rhythm { (s.taking frame).rhythm with path } := .take hacks hsound hanswers
  cases htakes with
  | pass hpasses => exact hplain hpasses.plain trivial rfl
  | cost hcosts hloses =>
      rw [rhythm_loses hloses]
      exact hplain hcosts.plain trivial rfl
  | acknowledge hopcode => exact .acknowledge (by simp [Frame.acknowledges, hopcode])
  | echo hopcode => exact hplain (Frame.plain_of_opcode hopcode (by decide) (by decide)) trivial rfl
  | @rejoin id due sessionId hgreets =>
      have hturn : Rhythm.Turn s.rhythm { s.rhythm.beating id with
          acked := true, path := .grace due sessionId
          notes := .took frame :: s.rhythm.notes } := .greet hgreets trivial hopen
      rw [← rhythm_beating] at hturn
      exact hturn
  | @join id identify hgreets =>
      have hturn : Rhythm.Turn s.rhythm { s.rhythm.beating id with
          acked := true
          path := .sending (s.taking frame).clearance (.command (.identify identify)) .greeting
          notes := .took frame :: s.rhythm.notes } := .greet hgreets rfl hopen
      rw [← rhythm_beating] at hturn
      exact hturn
  | resume hopcode =>
    exact hplain (Frame.plain_of_opcode hopcode (by decide) (by decide)) trivial rfl
  | void hvoids => exact hplain (Frame.plain_of_opcode hvoids.1 (by decide) (by decide)) trivial rfl
  | event hnamed _ _ hhandles =>
      obtain ⟨path, hsound, hanswers, hpath⟩ := rhythm_handles hhandles
      rw [hpath]
      exact hplain (Frame.plain_of_dispatched hnamed) hsound hanswers
  | breakOff hnamed _ hbreaks =>
      have hacks := Frame.plain_of_dispatched hnamed
      cases hbreaks with
      | off => exact .breakOff hacks
      | spare => exact hplain hacks trivial rfl

/-! ### Ticks -/

/-- A heartbeat loop does nothing that matters, or it comes to its tick. -/
theorem rhythm_beats {id : Nat} (hbeats : s.Beats id s') :
    s'.rhythm = s.rhythm ∨ s.reconnecting = false ∧ s'.rhythm = s.rhythm.ticking := by
  have hset (beat : Beat) := rhythm_setBeat s id beat
  cases hbeats with
  | rest => exact .inl (hset _)
  | pulse => exact .inl (hset .starting)
  | tick _ _ hdone hacked =>
      refine .inr ⟨hdone, ?_⟩
      show { (s.setBeat id _).rhythm with
        acked := false, notes := .ticked true :: s.rhythm.notes } = _
      rw [hset]
      simp [ticking, rhythm, hacked]
  | dead _ _ hdone hacked =>
      refine .inr ⟨hdone, ?_⟩
      show { (s.setBeat id _).rhythm with
        reconnecting := true, notes := .ticked false :: s.rhythm.notes } = _
      rw [hset]
      simp [ticking, rhythm, hacked]

end Snapshot

namespace Client

open Rhythm Snapshot

def writes (c : Client) : List Outgoing := c.log.filterMap fun entry => entry.what.written?

theorem snapshot_rhythm (c : Client) : c.snapshot.rhythm = c.rhythm := by
  have hnotes : c.noted.filterMap Occurrence.note? = c.notes :=
    filterMap_noted c fun what hnoted => by cases what <;> first | rfl | cases hnoted
  unfold rhythm
  rw [← hnotes]
  rfl

theorem snapshot_writes (c : Client) :
    c.snapshot.noted.filterMap Occurrence.written? = c.writes :=
  filterMap_noted c fun what hnoted => by cases what <;> first | rfl | cases hnoted

/-! ### Steps -/

variable {c : Client} {s : Snapshot}

/-- Asking for a session in answer to a greeting ends the reconnection. -/
theorem rhythm_proceeds (h : c.snapshot.rhythm.Steady) (hproceeds : Proceeds c s) :
    Turn c.snapshot.rhythm s.rhythm := by
  have hwork {path : FramePath} (hsound : path.Sound) (hanswers : path.answers = false) :
      Turn c.snapshot.rhythm { c.snapshot.rhythm with path } :=
    .work hsound fun hpath => absurd (hanswers.symm.trans hpath) nofun
  cases hproceeds with
  | resume hpath => exact .work rfl fun _ => congrArg FramePath.answers hpath
  | renew => exact hwork trivial rfl
  | unsent _ _ _ _ hloses =>
      rw [rhythm_loses hloses]
      exact hwork trivial rfl
  | @greeted due n what hpath =>
      have hsound : c.framePath.Sound := h.sound
      rw [hpath] at hsound
      have hnote : (Occurrence.wrote n .frames what).note? = some .asked := if_pos hsound
      show Turn _ { (c.snapshot.note (.wrote n .frames what)).rhythm with
        reconnecting := false, path := .idle }
      rw [rhythm_note, hnote]
      exact .rejoin (congrArg FramePath.answers hpath)
  | @answered due n what =>
      show Turn _ { (c.snapshot.note (.wrote n .frames what)).rhythm with path := .idle }
      rw [rhythm_note, Occurrence.note?]
      split
      next => exact .ask
      next => exact hwork trivial rfl
  | handled _ _ hwrote hhandles =>
      obtain ⟨path, hsound, hanswers, hpath⟩ := rhythm_handles hhandles
      rw [hpath]
      rcases hwrote with rfl | ⟨n, rfl⟩ <;> exact hwork hsound hanswers

/-- The connection loop goes on, or it comes to its end and stops the heartbeat. -/
theorem rhythm_loop {move : Move} {stage : Stage} {orders : List Order}
    (hloops : c.course.Loops move stage orders) :
    Turn c.snapshot.rhythm { c.snapshot.reaching stage with stage, orders : Snapshot }.rhythm := by
  have hopen : c.stage.isOver = false := hloops.open
  have hstay (hgoes : stage.isOver = false) : Turn c.snapshot.rhythm
      { (c.snapshot.reaching stage).rhythm with ended := stage.isOver } := by
    rw [rhythm_reaching _ hgoes, hgoes, ← hopen]
    exact .stay
  cases stage with
  | ended result =>
      show Turn _ { c.snapshot.hushed.rhythm with ended := true }
      rw [rhythm_hushed]
      exact .close
  | broken => exact absurd rfl hloops.whole
  | _ => exact hstay rfl

/-- A step of a steady client is a turn, unless it is a shutdown or one of a heartbeat loop. -/
theorem rhythm_step (c : Client) (h : c.rhythm.Steady) {move : Move} (hup : move ≠ .shutdown) :
    Turn c.rhythm (c.step move).rhythm ∨ ∃ id, c.snapshot.Beats id (c.step move).snapshot := by
  have hturn := turn_step c move
  rw [← snapshot_rhythm] at h ⊢
  rw [← snapshot_rhythm]
  generalize (c.step move).snapshot = s at hturn
  cases hturn with
  | stay | elapse | setTimeOfDay | tell | send | attach => exact .inl .stay
  | requestReconnect => exact .inl .mark
  | shutdown => exact absurd rfl hup
  | complete hwrote => rcases hwrote with rfl | ⟨n, what, -, rfl⟩ <;> exact .inl .stay
  | beat hbeats => exact .inr ⟨_, hbeats⟩
  | halt => exact .inl (.halt (List.length_filter_le _ _))
  | loop hloops => exact .inl (rhythm_loop hloops)
  | @replace delay hstage =>
      have htries : (c.course.trying ⟨1, delay⟩).isOver = false :=
        Stage.Tries.open (Course.tries_trying _ _)
      left
      show Turn _ { (c.snapshot.reaching (c.course.trying ⟨1, delay⟩)).rhythm with
        reconnecting := true, ended := (c.course.trying ⟨1, delay⟩).isOver }
      rw [rhythm_reaching _ htries, htries, ← show c.stage.isOver = false by rw [hstage]; rfl]
      exact .mark
  | insert hstage _ htakes | read hstage _ _ htakes =>
      have hopen : c.snapshot.stage.isOver = false := congrArg Stage.isOver hstage
      exact .inl (rhythm_takes hopen htakes)
  | proceed hproceeds => exact .inl (rhythm_proceeds h hproceeds)

/-! ### Histories -/

theorem steady_step (c : Client) (h : c.rhythm.Steady) {move : Move} (hup : move ≠ .shutdown) :
    (c.step move).rhythm.Steady := by
  rcases rhythm_step c h hup with hturn | ⟨id, hbeats⟩
  · exact h.turn hturn
  · have hcases := rhythm_beats hbeats
    rw [snapshot_rhythm, snapshot_rhythm] at hcases
    rcases hcases with hsame | ⟨hdone, hticks⟩
    · rw [hsame]
      exact h
    · rw [hticks]
      exact h.tick hdone

theorem steady_fresh (config : Config) (handlers : Handlers) :
    (fresh config handlers).rhythm.Steady where
  single := Nat.zero_le _
  heartless := fun _ => .inl rfl
  sound := trivial
  greeted := nofun
  owing := rfl
  missing := nofun
  timed := trivial

theorem steady_run (c : Client) (h : c.rhythm.Steady) {moves : List Move}
    (hup : .shutdown ∉ moves) : (c.run moves).rhythm.Steady := by
  induction moves generalizing c with
  | nil => exact h
  | cons move rest ih =>
      obtain ⟨hmove, hrest⟩ := not_or.1 (mt List.mem_cons.2 hup)
      exact ih (c.step move) (steady_step c h (Ne.symm hmove)) hrest

/-- What follows when a tick finds the last heartbeat without its acknowledgement. -/
structure GivesUp (c d : Client) : Prop where
  /-- Nothing is sent, neither at once nor after a wait. -/
  unwritten : d.writes = c.writes
  unsent : d.senders = []
  /-- One order to reconnect is given to the connection loop, unless that is over. -/
  orders : d.orders = if c.stage.isOver then c.orders else c.orders ++ [.reconnect]
  reconnecting : d.session.reconnecting = true
  phase : d.session.phase = .reconnecting

/-- The only loop does not wait to write when it begins anew. -/
theorem senders_setBeat_starting (hsingle : c.loops.length ≤ 1) {id : Nat} {loop : HeartbeatLoop}
    (hfind : (c.snapshot.loops.find? fun loop => loop.id = id) = some loop) :
    (c.snapshot.setBeat id .starting).loops.filterMap HeartbeatLoop.sender? = [] := by
  have hid : loop.id = id := by simpa using List.find?_some hfind
  have hmem := List.mem_of_find?_eq_some hfind
  have hloops : c.snapshot.loops = [loop] := by
    obtain ⟨only, honly⟩ :=
      List.length_eq_one_iff.1 (Nat.le_antisymm hsingle (List.length_pos_of_mem hmem))
    rw [show c.snapshot.loops = _ from honly] at hmem ⊢
    rw [List.mem_singleton.1 hmem]
  unfold Snapshot.setBeat
  rw [hloops]
  simp [HeartbeatLoop.sender?, Beat.isSending, hid]

/-- A heartbeat loop that comes to its tick finds the last heartbeat with its acknowledgement, or it
gives the connection up. -/
theorem givesUp_of_beats {d : Client} (hsingle : c.loops.length ≤ 1) {id : Nat} {acked : Bool}
    (hbeats : c.snapshot.Beats id d.snapshot) (hnote : d.notes = .ticked acked :: c.notes) :
    c.session.acked = acked ∧ (acked = false → GivesUp c d) := by
  have hnotes : d.snapshot.rhythm.notes = .ticked acked :: c.snapshot.rhythm.notes := by
    rw [snapshot_rhythm, snapshot_rhythm]
    exact hnote
  generalize hs : d.snapshot = s at hbeats hnotes
  have hwrites : d.writes = s.noted.filterMap Occurrence.written? := by rw [← hs, snapshot_writes]
  cases hbeats with
  | rest | pulse => exact absurd (congrArg List.length hnotes) (Nat.ne_of_lt (Nat.lt_succ_self _))
  | tick _ _ _ hacked =>
      cases hnotes
      exact ⟨hacked, nofun⟩
  | @dead loop hloop _ _ hacked =>
      cases hnotes
      refine ⟨hacked, fun _ => ⟨?_, ?_, congrArg Snapshot.orders hs,
        congrArg Snapshot.reconnecting hs, congrArg Snapshot.phase hs⟩⟩
      · rw [hwrites, ← snapshot_writes c]
        rfl
      · have hloops : d.loops = (c.snapshot.setBeat id .starting).loops :=
          congrArg Snapshot.loops hs
        rw [senders, hloops]
        exact senders_setBeat_starting hsingle hloop

/-- A tick that is noted is that of a heartbeat loop. -/
theorem givesUp_of_note (c : Client) (h : c.rhythm.Steady) {move : Move} {acked : Bool}
    (hnote : (c.step move).notes = .ticked acked :: c.notes) :
    c.session.acked = acked ∧ (acked = false → GivesUp c (c.step move)) := by
  by_cases hup : move = .shutdown
  · subst hup
    have hnotes : c.shutdown.snapshot.rhythm.notes = c.snapshot.rhythm.notes := by
      rw [snapshot_shutdown]
      rfl
    rw [snapshot_rhythm, snapshot_rhythm] at hnotes
    exact absurd (congrArg List.length (hnotes.symm.trans hnote))
      (Nat.ne_of_lt (Nat.lt_succ_self _))
  · rcases rhythm_step c h hup with hturn | ⟨id, hbeats⟩
    · exact absurd hnote (hturn.notes_ne acked)
    · exact givesUp_of_beats h.single hbeats hnote

/-- Before a shutdown there is one heartbeat loop at most, and between two ticks that go on to send
a heartbeat an acknowledgement or a greeting was taken in. A tick that finds a heartbeat without its
acknowledgement gives the connection up, and no other tick follows before a session was asked for in
answer to a greeting. -/
theorem heartbeats_follow_acknowledgements (config : Config) (handlers : Handlers)
    {moves : List Move} (hup : .shutdown ∉ moves) :
    let c := (fresh config handlers).run moves
    c.loops.length ≤ 1 ∧
    (∀ recent since older, c.notes = recent ++ .ticked true :: since ++ .ticked true :: older →
      ∃ frame, .took frame ∈ since ∧ frame.acknowledges = true) ∧
    (∀ move acked, (c.step move).notes = .ticked acked :: c.notes →
      (acked = !owes c.notes) ∧ (owes c.notes = true → GivesUp c (c.step move))) ∧
    ∀ recent acked since older,
      c.notes = recent ++ .ticked acked :: since ++ .ticked false :: older →
      ∃ later before frame, since = later ++ .asked :: before ∧
        lastFrame? (before ++ .ticked false :: older) = some frame ∧ frame.greets = true := by
  intro c
  have hsteady : c.rhythm.Steady := steady_run _ (steady_fresh config handlers) hup
  refine ⟨hsteady.single, ?_, ?_, ?_⟩
  · intro recent since older hnotes
    have htimed : Timed c.notes := hsteady.timed
    rw [hnotes, List.append_assoc, List.cons_append] at htimed
    have hpaid : owes (since ++ .ticked true :: older) = false := by
      rw [← Bool.not_eq_true', ← htimed.ticked.1]
    exact acknowledged_of_not_owes hpaid
  · intro move acked hnote
    obtain ⟨hacked, hgives⟩ := givesUp_of_note c hsteady hnote
    have howing : owes c.notes = !c.session.acked := hsteady.owing
    rw [howing, hacked, Bool.not_not]
    exact ⟨rfl, fun howes => hgives (by simpa using howes)⟩
  · intro recent acked since older hnotes
    have htimed : Timed c.notes := hsteady.timed
    rw [hnotes, List.append_assoc, List.cons_append] at htimed
    obtain ⟨later, before, hsince, hgreeting⟩ := asked_of_not_missed htimed.ticked.2
    obtain ⟨frame, hframe, hgreets⟩ := (Option.any_eq_true _ _).1 hgreeting
    exact ⟨later, before, frame, hsince, hframe, hgreets⟩

/-- The first heartbeat is sent and is not acknowledged, and the loop waits to come to its next
tick. -/
def unanswered : List Move :=
  [.start, .opened, .receive (.text "\x7b\"op\":10,\"d\":\x7b\"heartbeat_interval\":41250\x7d\x7d"),
    .proceed, .beat 0, .elapse 41240, .beat 0, .beat 0, .beat 0, .beat 0, .elapse 41240, .beat 0]

theorem unanswered_gives_up :
    .shutdown ∉ unanswered ∧
    ((fresh { token := "t" } .none).run unanswered).loops.length ≤ 1 ∧
    ((fresh { token := "t" } .none).run unanswered).pulses = [0] ∧
    GivesUp ((fresh { token := "t" } .none).run unanswered)
      (((fresh { token := "t" } .none).run unanswered).step (.beat 0)) := by
  have hup : .shutdown ∉ unanswered := by
    unfold unanswered
    simp
  obtain ⟨hsingle, -, hticks, -⟩ := heartbeats_follow_acknowledgements { token := "t" } .none hup
  generalize hrun : (fresh { token := "t" } .none).run unanswered = c at hsingle hticks
  have hloop : c.loop? 0 = some ⟨0, .paused, false⟩ := by
    rw [← hrun]
    decide +kernel
  have hdone : c.session.reconnecting = false := by
    rw [← hrun]
    decide +kernel
  have hacked : c.session.acked = false := by
    rw [← hrun]
    decide +kernel
  have hnotes : (c.step (.beat 0)).notes = .ticked false :: c.notes := by
    have hticked : (c.beat 0).snapshot.rhythm.notes = .ticked false :: c.snapshot.rhythm.notes := by
      rw [beat_of_paused c hloop rfl hdone, snapshot_tick_unacked c 0 hacked]
      rfl
    rw [snapshot_rhythm, snapshot_rhythm] at hticked
    exact hticked
  obtain ⟨howes, hgives⟩ := hticks (.beat 0) false hnotes
  refine ⟨hup, hsingle, ?_, hgives (by simpa using howes)⟩
  rw [← hrun]
  decide +kernel

end Client

end ChatGateway
