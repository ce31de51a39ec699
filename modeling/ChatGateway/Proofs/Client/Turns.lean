import ChatGateway.Proofs.Client.Steps

/-!
The steps of a client on its standing. A step of an orderly client that is not one of a heartbeat
loop is a turn (`standing_step`), provided that connections and frames come from the connection
loop.
-/

namespace ChatGateway

/-- Whether a connection or a frame is put in by hand, beside the connection loop. -/
def Move.isByHand : Move → Bool
  | .attach _ | .frame _ => true
  | _ => false

theorem HeartbeatLoop.sender?_eq_none {loop : HeartbeatLoop}
    (hidle : loop.beat.isSending = false) : loop.sender? = none :=
  if_neg (by rw [hidle]; exact nofun)

namespace Snapshot

def standing (s : Snapshot) : Standing where
  link := s.link
  connections := s.connections
  reconnecting := s.reconnecting
  stage := s.stage
  path := s.path
  handshakes := s.noted.filterMap Occurrence.handshake?
  pulses := s.noted.filterMap Occurrence.pulse?
  senders := s.loops.filterMap HeartbeatLoop.sender?

section Standing

variable {s s' : Snapshot}

theorem standing_beating (s : Snapshot) (id : Nat) : (s.beating id).standing = s.standing := by
  unfold standing
  rw [filterMap_beating s rfl]
  rfl

theorem standing_hushed (s : Snapshot) : s.hushed.standing = s.standing := by
  unfold standing
  rw [filterMap_hushed s fun _ => rfl]
  rfl

/-- Whatever stage the loop comes to in order to connect, nothing else of the standing changes. -/
theorem standing_reaching (s : Snapshot) {stage : Stage} (htries : stage.Tries) :
    (s.reaching stage).standing = s.standing := by
  cases stage with
  | opening | waiting => rfl
  | _ => exact htries.elim

theorem standing_loses (hloses : s.Loses s') (hstage : s.stage = .reading) :
    Standing.Turn s.standing s'.standing := by
  cases hloses with
  | leave => exact .leave hstage
  | spare hother => exact absurd hstage hother

theorem standing_handles {events : List Event} (hhandles : s.Handles events s')
    (hstage : s.stage = .reading) : Standing.Turn s.standing s'.standing := by
  have hhanding (handed : List Event) : (s.handing handed).standing = s.standing := by
    unfold standing
    rw [filterMap_handing s fun _ => rfl, filterMap_handing s fun _ => rfl]
    rfl
  cases hhandles with
  | all =>
      rw [← hhanding events]
      exact .work hstage trivial
  | @upTo handed _ event =>
      rw [← hhanding (handed ++ [event])]
      exact .work hstage trivial

theorem standing_takes {frame : Frame} (htakes : s.Takes frame s') (hstage : s.stage = .reading) :
    Standing.Turn s.standing s'.standing := by
  cases htakes with
  | cost _ hloses =>
      have hturn := standing_loses hloses hstage
      exact hturn
  | @rejoin id =>
      rw [show s.standing = _ from (standing_beating (s.taking frame) id).symm]
      exact .work hstage trivial
  | @join id =>
      rw [show s.standing = _ from (standing_beating (s.taking frame) id).symm]
      exact .work hstage rfl
  | event _ _ _ hhandles =>
      have hturn := standing_handles hhandles hstage
      exact hturn
  | breakOff _ _ hbreaks =>
      cases hbreaks with
      | off => exact .breakOff hstage
      | spare hother => exact absurd hstage hother
  | _ => exact .work hstage trivial

end Standing

end Snapshot

namespace Client

open Standing Snapshot

theorem snapshot_standing (c : Client) : c.snapshot.standing = c.standing := by
  have hhandshakes : c.noted.filterMap Occurrence.handshake? = c.handshakes :=
    filterMap_noted c fun what hnoted => by cases what <;> first | rfl | cases hnoted
  have hpulses : c.noted.filterMap Occurrence.pulse? = c.pulses :=
    filterMap_noted c fun what hnoted => by cases what <;> first | rfl | cases hnoted
  unfold standing
  rw [← hhandshakes, ← hpulses]
  rfl

/-- The connection loop goes on. -/
theorem standing_loop (c : Client) {move : Move} {stage : Stage} {orders : List Order}
    (hloops : c.course.Loops move stage orders)
    (hstays : ∀ delay, c.stage ≠ .leaving (.reconnect delay)) :
    Turn c.snapshot.standing
      { c.snapshot.reaching stage with stage, orders : Snapshot }.standing := by
  have hended {result : Except ClientError Unit} (hstage : ¬ c.stage.Connected) :
      Turn c.snapshot.standing { c.snapshot.hushed.standing with stage := .ended result } := by
    rw [standing_hushed]
    exact .conclude hstage
  have hleft {exit : Exit} (hstage : c.stage = .reading) (hidle : c.framePath = .idle) :
      Turn c.snapshot.standing
        { c.snapshot.standing with link := none, stage := .leaving exit } := by
    have hleave : Turn c.snapshot.standing
        { c.snapshot.standing with link := none, path := .idle, stage := .leaving exit } :=
      .leave hstage
    rw [← show c.snapshot.standing.path = .idle from hidle] at hleave
    exact hleave
  have htried {next : Stage} (hstage : c.stage.Tries) (htries : next.Tries) :
      Turn c.snapshot.standing
        { (c.snapshot.reaching next).standing with stage := next } := by
    rw [standing_reaching _ htries]
    exact .try hstage htries
  cases hloops with
  | start hstage => exact .begin hstage
  | opened hstage => exact .attach hstage
  | refused hlast =>
      obtain ⟨retry, hstage⟩ := Course.opening_of_lastAttempt? hlast
      exact hended (by rw [show c.stage = _ from hstage]; exact id)
  | again hstage =>
      exact htried (by rw [show c.stage = _ from hstage]; trivial) (Course.tries_trying _ _)
  | depart hstage => exact absurd hstage (hstays _)
  | dropped hstage | close hstage | fail hstage | stop hstage =>
      exact hended (by rw [show c.stage = _ from hstage]; exact id)
  | hangUp hstage hidle => exact hleft hstage hidle
  | obey hstage hidle => exact hleft hstage hidle
  | retry hstage | hurry hstage =>
      exact htried (by rw [show c.stage = _ from hstage]; trivial) trivial

/-- What is written on the frame path asks for a session, or changes nothing. -/
theorem standing_wrote (c : Client) (hstage : c.stage = .reading) {n : Nat}
    (hlink : c.snapshot.link = some n) {what : Outgoing} {reconnecting : Bool}
    (hkeeps : what.isHandshake = false → reconnecting = c.session.reconnecting) :
    Turn c.snapshot.standing
      { (c.snapshot.note (.wrote n .frames what)).standing with reconnecting, path := .idle } := by
  have hnoted : (c.snapshot.note (.wrote n .frames what)).standing =
      { c.snapshot.standing with
        handshakes := if what.isHandshake then n :: c.snapshot.standing.handshakes
          else c.snapshot.standing.handshakes } := by
    unfold note Snapshot.standing
    cases hhandshake : what.isHandshake <;>
      simp [List.filterMap_cons, Occurrence.handshake?, Occurrence.pulse?, hhandshake]
  rw [hnoted]
  cases hhandshake : what.isHandshake with
  | true => exact .greet hstage hlink
  | false =>
      rw [hkeeps hhandshake]
      exact .work hstage trivial

theorem standing_proceeds (c : Client) (h : c.standing.Orderly) {s : Snapshot}
    (hproceeds : Proceeds c s) : Turn c.snapshot.standing s.standing := by
  have hread : c.framePath ≠ .idle → c.stage = .reading := h.reading
  have hsound : c.framePath.Sound := h.sound
  cases hproceeds with
  | resume hpath => exact .work (hread (by rw [hpath]; exact nofun)) rfl
  | renew hpath => exact .work (hread (by rw [hpath]; exact nofun)) trivial
  | unsent hpath _ _ _ hloses => exact standing_loses hloses (hread (by rw [hpath]; exact nofun))
  | greeted hpath _ hlink =>
      rw [hpath] at hsound
      have hhandshake : Outgoing.isHandshake _ = true := hsound
      exact standing_wrote c (hread (by rw [hpath]; exact nofun)) hlink (by simp [hhandshake])
  | answered hpath _ hlink =>
      exact standing_wrote c (hread (by rw [hpath]; exact nofun)) hlink fun _ => rfl
  | handled hpath _ hwrote hhandles =>
      have hturn := standing_handles hhandles (hread (by rw [hpath]; exact nofun))
      rcases hwrote with rfl | ⟨n, rfl⟩ <;> exact hturn

/-- A step of an orderly client that is not one of a heartbeat loop is a turn. -/
theorem standing_step (c : Client) (h : c.standing.Orderly) (move : Move)
    (hloop : move.isByHand = false) (hbeat : ∀ id, move ≠ .beat id) :
    Turn c.standing (c.step move).standing := by
  have hturn := turn_step c move
  rw [← snapshot_standing, ← snapshot_standing]
  generalize (c.step move).snapshot = s at hturn
  cases hturn with
  | requestReconnect => exact .mark
  | shutdown =>
      show Turn _ c.snapshot.hushed.standing
      rw [standing_hushed]
      exact .stay
  | complete hwrote => rcases hwrote with rfl | ⟨n, what, -, rfl⟩ <;> exact .stay
  | attach | insert => cases hloop
  | beat => exact absurd rfl (hbeat _)
  | halt hkept =>
      have hsenders := filterMap_keeps (fun _ => HeartbeatLoop.sender?_eq_none) hkept c.loops
      have hstay : Turn c.snapshot.standing
          { c.snapshot.standing with senders := c.loops.filterMap HeartbeatLoop.sender? } := .stay
      rw [← hsenders] at hstay
      exact hstay
  | loop hloops hstays => exact standing_loop c hloops hstays
  | @replace delay hstage =>
      have htries := Course.tries_trying c.course ⟨1, delay⟩
      have hdepart : Turn c.snapshot.standing { c.snapshot.standing with
        reconnecting := true, stage := c.course.trying ⟨1, delay⟩ } := .depart hstage htries
      rw [← standing_reaching c.snapshot htries] at hdepart
      rw [← standing_reaching c.snapshot htries]
      exact hdepart
  | read hstage _ _ htakes => exact standing_takes htakes hstage
  | proceed hproceeds => exact standing_proceeds c h hproceeds
  | _ => exact .stay

end Client

end ChatGateway
