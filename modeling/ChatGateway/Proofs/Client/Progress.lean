import ChatGateway.Proofs.Client.Steps

/-!
The steps of a client on its course. Every step of every client is a turn (`course_step`). The
connection loop goes on whenever it can, by a move that does nothing else to the course
(`advances_opened` and the like).
-/

namespace ChatGateway

theorem HeartbeatLoop.pulse?_eq_none {loop : HeartbeatLoop}
    (hidle : loop.beat.isSending = false) : loop.pulse? = none := by
  unfold pulse?
  cases hbeat : loop.beat with
  | sending =>
      rw [hbeat] at hidle
      cases hidle
  | _ => rfl

namespace Snapshot

def course (s : Snapshot) : Course where
  config := s.config
  stage := s.stage
  orders := s.orders
  path := s.path
  pulses := s.loops.filterMap HeartbeatLoop.pulse?
  sends := s.sends
  identifies := s.noted.filterMap Occurrence.identify?
  limiter := s.limiter
  clock := s.clock
  epoch := s.epoch

variable {s s' : Snapshot}

theorem course_beating (s : Snapshot) (id : Nat) : (s.beating id).course = s.course := by
  unfold course
  rw [filterMap_beating s rfl]
  rfl

theorem course_hushed (s : Snapshot) : s.hushed.course = s.course := by
  unfold course
  rw [filterMap_hushed s fun _ => rfl]
  rfl

theorem course_reaching (s : Snapshot) (stage : Stage) : (s.reaching stage).course = s.course := by
  cases stage with
  | ended => exact course_hushed s
  | _ => rfl

theorem course_handing (s : Snapshot) (events : List Event) :
    (s.handing events).course = s.course := by
  unfold course
  rw [filterMap_handing s fun _ => rfl]
  rfl

/-! ### The frame path -/

theorem works_loses (hloses : s.Loses s') : s.course.Works s'.course := by
  cases hloses with
  | leave hstage => exact .lose hstage
  | spare => exact .on .idle

theorem works_breaks (hbreaks : s.Breaks s') : s.course.Works s'.course := by
  cases hbreaks with
  | off hstage => exact .breakOff hstage
  | spare => exact .on .idle

/-- Giving events to the handler leaves the frame path idle or at something that the handler sends,
with fewer events behind it. -/
theorem course_handles {events : List Event} (hhandles : s.Handles events s') :
    s.course.Works s'.course ∧ s'.path.load ≤ events.length := by
  cases hhandles with
  | all =>
      rw [← course_handing s events]
      exact ⟨.on .idle, Nat.zero_le _⟩
  | @upTo handed rest event command hevents =>
      have hload : rest.length + 1 ≤ events.length := by
        rw [← hevents, List.length_append]
        exact Nat.le_add_left _ _
      rw [← course_handing s (handed ++ [event])]
      exact ⟨.on (.send nofun), hload⟩

theorem works_takes {frame : Frame} (htakes : s.Takes frame s') : s.course.Works s'.course := by
  cases htakes with
  | pass | acknowledge => exact .on .idle
  | cost _ hloses => exact works_loses (s := s.taking frame) hloses
  | echo => exact .on (.send fun _ => rfl)
  | @rejoin id due sessionId =>
      rw [show s.course = _ from (course_beating (s.taking frame) id).symm]
      exact .on .grace
  | @join id =>
      rw [show s.course = _ from (course_beating (s.taking frame) id).symm]
      exact .on (.send nofun)
  | resume => exact .on (.send fun _ => rfl)
  | void => exact .on .cooldown
  | event _ _ _ hhandles =>
      have hworks := (course_handles hhandles).1
      exact hworks
  | breakOff _ _ hbreaks =>
      have hworks := works_breaks hbreaks
      exact hworks

end Snapshot

namespace Client

open Course Snapshot

theorem snapshot_course (c : Client) : c.snapshot.course = c.course := by
  have hidentifies : c.noted.filterMap Occurrence.identify? = c.identifies :=
    filterMap_noted c fun what hnoted => by cases what <;> first | rfl | cases hnoted
  unfold course
  rw [← hidentifies]
  rfl

/-- Something is written on the frame path or by a heartbeat loop. -/
theorem identifies_note (s : Snapshot) (n : Nat) (writer : Writer) {what : Outgoing}
    (hidentify : (Occurrence.wrote n writer what).identify? = what.identify?) :
    (s.note (.wrote n writer what)).course.identifies =
      what.identify?.toList ++ s.course.identifies := by
  unfold note Snapshot.course
  cases h : what.identify? <;> simp [hidentify, h]

variable {c : Client} {s : Snapshot}

/-- The frame path comes to the end of a send that was written. -/
theorem course_sent {move : Move} {due n : Nat} {what : Outgoing} {purpose : Purpose}
    (hpath : c.framePath = .sending due what purpose) (hwriter : purpose.writer = .frames) :
    Turn c move c.snapshot.course
      { (c.snapshot.note (.wrote n .frames what)).course with path := .idle } := by
  have hidentifies : (c.snapshot.note (.wrote n .frames what)).course.identifies = _ :=
    identifies_note c.snapshot n .frames rfl
  exact .sent hpath (.inr ⟨hwriter, hidentifies⟩) (.on .idle) (Nat.zero_le _)

theorem course_proceeds (hs : (c.step .proceed).snapshot = s) (hproceeds : Proceeds c s) :
    Turn c .proceed c.snapshot.course s.course := by
  cases hproceeds with
  | resume => exact .work (.on (.send nofun))
  | renew hpath =>
    exact .renew hpath ⟨congrArg Snapshot.sessionId hs, congrArg Snapshot.sequence hs⟩
  | unsent hpath _ _ _ hloses =>
      refine .sent hpath (.inl rfl) (works_loses hloses) ?_
      cases hloses <;> exact Nat.zero_le _
  | greeted hpath => exact course_sent hpath rfl
  | answered hpath => exact course_sent hpath rfl
  | handled hpath _ hwrote hhandles =>
      obtain ⟨hworks, hload⟩ := course_handles hhandles
      refine .sent hpath (.inl rfl) ?_ hload
      rcases hwrote with rfl | ⟨n, rfl⟩ <;> exact hworks

theorem course_beats {move : Move} {id : Nat} (hbeats : c.snapshot.Beats id s) :
    Turn c move c.snapshot.course s.course := by
  have hidle (beat : Beat) (hbeat : beat.isSending = false) :
      (c.snapshot.setBeat id beat).course.pulses ⊆ c.snapshot.course.pulses :=
    filterMap_setBeat_subset c.snapshot (fun _ => HeartbeatLoop.pulse?_eq_none) id hbeat
  cases hbeats with
  | rest hbeat => exact .beat fun pulse hpulse => .inl (hidle _ hbeat hpulse)
  | tick =>
      refine .beat fun pulse hpulse =>
        (mem_filterMap_setBeat c.snapshot (fun _ => HeartbeatLoop.pulse?_eq_none) hpulse).imp_right
          ?_
      rintro ⟨-, loop, -, hbeat, hsending⟩
      rw [HeartbeatLoop.pulse?, hbeat] at hsending
      cases hsending
      exact ⟨rfl, rfl⟩
  | dead => exact .dead (hidle .starting rfl)
  | @pulse loop due n what hloop hsending =>
      have hpulse : ⟨loop.id, due, what⟩ ∈ c.snapshot.course.pulses := by
        refine List.mem_filterMap.2 ⟨loop, List.mem_of_find?_eq_some hloop, ?_⟩
        rw [HeartbeatLoop.pulse?, hsending]
      have hturn : Turn c move c.snapshot.course _ := .pulse hpulse (hidle .starting rfl)
      rw [← identifies_note c.snapshot n .heartbeat rfl] at hturn
      exact hturn

/-- A step of a client is a turn of its course. -/
theorem course_step (c : Client) (move : Move) : Turn c move c.course (c.step move).course := by
  have hturn := turn_step c move
  have hcourse := snapshot_course c
  rw [← hcourse, ← snapshot_course]
  generalize hs : (c.step move).snapshot = s at hturn
  cases hturn with
  | stay => exact .stay
  | elapse => exact .elapse
  | setTimeOfDay => exact .setTimeOfDay
  | tell htold => exact .tell htold
  | requestReconnect => exact .order
  | shutdown =>
      rw [← course_hushed c.snapshot]
      exact .order
  | send => exact .send
  | @complete id wrote hwrote =>
      have hsends : (c.sends.filter fun send => send.id ≠ id) ⊆ c.snapshot.course.sends :=
        List.filter_sublist.subset
      rcases hwrote with rfl | ⟨n, what, -, rfl⟩ <;> exact .complete hsends
  | attach => exact .stay
  | beat hbeats => exact course_beats hbeats
  | @halt id keeps hkept =>
      have hpulses := filterMap_keeps (fun _ => HeartbeatLoop.pulse?_eq_none) hkept c.loops
      have hstay : Turn c (.halt id) c.snapshot.course
          { c.snapshot.course with pulses := c.loops.filterMap HeartbeatLoop.pulse? } := .stay
      rw [← hpulses] at hstay
      exact hstay
  | @loop _ stage orders hloops =>
      show Turn c _ _ { (c.snapshot.reaching stage).course with stage, orders }
      rw [course_reaching]
      exact .loop (by rw [hcourse]; exact hloops)
  | @replace delay hstage =>
      show Turn c _ _ { (c.snapshot.reaching (c.course.trying ⟨1, delay⟩)).course with
        stage := c.course.trying ⟨1, delay⟩, orders := c.orders }
      rw [course_reaching]
      exact .loop (by rw [hcourse]; exact .depart hstage)
  | insert _ _ htakes => exact .work (works_takes htakes)
  | read _ _ _ htakes => exact .work (works_takes htakes)
  | proceed hproceeds => exact course_proceeds hs hproceeds

theorem config_of_turn {move : Move} {o : Course} (hturn : Turn c move c.course o) :
    o.config = c.config := by
  cases hturn with
  | work hworks => cases hworks <;> rfl
  | sent _ _ hworks => cases hworks <;> rfl
  | _ => rfl

theorem config_step (c : Client) (move : Move) : (c.step move).config = c.config :=
  config_of_turn (course_step c move)

theorem config_run (c : Client) (moves : List Move) : (c.run moves).config = c.config := by
  induction moves generalizing c with
  | nil => rfl
  | cons move rest ih => rw [run_cons, ih, config_step]

/-! ### What goes on -/

/-- When the frame path goes on, it has less before it. -/
theorem load_of_proceeds (hproceeds : Proceeds c s) : s.path.load < c.framePath.load := by
  cases hproceeds with
  | resume hpath | renew hpath =>
      rw [hpath]
      exact Nat.lt_succ_self _
  | unsent hpath _ _ _ hloses =>
      rw [hpath]
      cases hloses <;> exact Nat.succ_pos _
  | greeted hpath | answered hpath =>
      rw [hpath]
      exact Nat.succ_pos _
  | handled hpath _ _ hhandles =>
      rw [hpath]
      exact Nat.lt_succ_of_le (course_handles hhandles).2

theorem load_proceed (c : Client) (hbusy : c.framePath ≠ .idle) (hdue : c.framePath.due ≤ c.clock) :
    (c.step .proceed).framePath.load < c.framePath.load :=
  load_of_proceeds (proceeds_proceed c hbusy hdue)

theorem advances_of_snapshot {d : Client} {move : Move} {stage : Stage} {orders : List Order}
    (hloops : c.course.Loops move stage orders)
    (hcourse : d.snapshot.course = { c.snapshot.course with stage, orders }) :
    Advances c move d := by
  rw [snapshot_course, snapshot_course] at hcourse
  exact ⟨stage, orders, hloops, hcourse⟩

/-- The loop comes to its end. -/
theorem advances_of_ended {d : Client} {move : Move} {result : Except ClientError Unit}
    (hloops : c.course.Loops move (.ended result) [])
    (hsnapshot : d.snapshot = { c.snapshot.hushed with
      phase := .disconnected, stage := .ended result, orders := [] }) : Advances c move d := by
  refine advances_of_snapshot hloops ?_
  rw [hsnapshot, ← course_hushed c.snapshot]
  rfl

theorem advances_start (c : Client) (hstage : c.stage = .dormant) :
    Advances c .start (c.step .start) :=
  advances_of_snapshot (.start hstage) (by rw [snapshot_start c hstage]; rfl)

theorem advances_opened (c : Client) {retry : Option Retry} (hstage : c.stage = .opening retry) :
    Advances c .opened c.opened := by
  by_cases hshutdown : .shutdown ∈ c.orders
  · exact advances_of_ended (.dropped hstage hshutdown)
      (snapshot_opened_shutdown c hstage hshutdown)
  · exact advances_of_snapshot (.opened hstage hshutdown)
      (by rw [snapshot_opened c hstage hshutdown]; rfl)

theorem advances_refused (c : Client) {retry : Option Retry} (hstage : c.stage = .opening retry) :
    Advances c .refused c.refused := by
  cases hlast : c.stage.lastAttempt? c.config with
  | some error => exact advances_of_ended (.refused hlast) (snapshot_refused_last c hlast)
  | none =>
      obtain ⟨retry, next, rfl, hnext⟩ := Stage.next_of_lastAttempt? (hstage ▸ hlast)
      refine advances_of_snapshot (.again hstage hnext) ?_
      rw [snapshot_refused_again c hstage hnext, ← course_reaching c.snapshot]
      rfl

theorem advances_depart (c : Client) {exit : Exit} (hstage : c.stage = .leaving exit) :
    Advances c .depart c.depart := by
  cases exit with
  | reconnect delay =>
      refine advances_of_snapshot (.depart hstage) ?_
      rw [snapshot_depart_reconnect c hstage, ← course_reaching c.snapshot]
      rfl
  | shutdown =>
      exact advances_of_ended (.close hstage)
        (by rw [depart, hstage]; exact snapshot_conclude c _)
  | fatal error =>
      exact advances_of_ended (.fail hstage)
        (by rw [depart, hstage]; exact snapshot_conclude c _)

theorem advances_obey_reading (c : Client) {order : Order} {rest : List Order}
    (hstage : c.stage = .reading) (hidle : c.framePath = .idle)
    (horders : c.orders = order :: rest) : Advances c .obey c.obey :=
  advances_of_snapshot (.obey hstage hidle horders)
    (by rw [snapshot_obey_reading c hstage hidle horders]; rfl)

theorem advances_obey_waiting (c : Client) {due : Nat} {retry : Retry} {order : Order}
    {rest : List Order} (hstage : c.stage = .waiting due retry)
    (horders : c.orders = order :: rest) : Advances c .obey c.obey := by
  cases order with
  | reconnect =>
      exact advances_of_snapshot (.hurry hstage horders)
        (by rw [snapshot_obey_reconnect c hstage horders]; rfl)
  | shutdown =>
      exact advances_of_ended (.stop hstage horders) (snapshot_obey_shutdown c hstage horders)

end Client

end ChatGateway
