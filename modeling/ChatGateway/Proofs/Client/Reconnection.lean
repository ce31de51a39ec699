import ChatGateway.Proofs.Client.Stages
import Mathlib.Algebra.Group.Nat.Defs

/-!
The schedule of a reconnection. The wait before an attempt doubles from one attempt to the next; a
reconnection that begins without a wait makes its first attempt at once and goes on with the
configured delay (`Retry.wait`). `OnSchedule` says where the connection loop stands after some
failed attempts, and when the wait for the next one is over. The loop stays on schedule in every
step in which nothing is asked of it (`onSchedule_step`), until an attempt succeeds or none is
left.
-/

namespace ChatGateway

namespace Retry

/-- Milliseconds before an attempt, the first of which is number 1, of a reconnection that begins
with a delay: the delay doubled once for each attempt before it, or the configured one doubled once
less. -/
def wait (config : Config) (delay attempt : Nat) : Nat :=
  if 0 < delay then delay * 2 ^ (attempt - 1)
  else if attempt ≤ 1 then 0
  else config.reconnectDelay.toNat * 2 ^ (attempt - 2)

def scheduled (config : Config) (delay attempt : Nat) : Retry :=
  ⟨attempt, wait config delay attempt⟩

/-- The time at which the wait for the next attempt is over, in a reconnection that began at a time,
after the attempts that failed at some times. The wait begins with the last failure. -/
def due (config : Config) (delay start : Nat) (failed : List Nat) : Nat :=
  failed.getLastD start + wait config delay (failed.length + 1)

@[simp] theorem scheduled_one (config : Config) (delay : Nat) :
    scheduled config delay 1 = ⟨1, delay⟩ := by
  unfold scheduled wait
  split
  next => simp
  next hnone => simp [Nat.eq_zero_of_not_pos hnone]

theorem wait_succ (config : Config) (delay n : Nat) :
    wait config delay (n + 2) =
      if wait config delay (n + 1) = 0 then config.reconnectDelay.toNat
      else 2 * wait config delay (n + 1) := by
  have hpos {first : Nat} (k : Nat) (hfirst : 0 < first) : first * 2 ^ k ≠ 0 :=
    Nat.ne_of_gt (Nat.mul_pos hfirst (Nat.two_pow_pos k))
  have hdouble (first k : Nat) : first * 2 ^ (k + 1) = 2 * (first * 2 ^ k) := by
    rw [Nat.pow_succ', Nat.mul_left_comm]
  unfold wait
  by_cases hdelay : 0 < delay
  · rw [if_pos hdelay, if_pos hdelay, if_neg (hpos _ hdelay)]
    exact hdouble delay n
  · rw [if_neg hdelay, if_neg hdelay]
    cases n with
    | zero => simp
    | succ n =>
        rw [if_neg (by omega : ¬ n + 1 + 2 ≤ 1), if_neg (by omega : ¬ n + 1 + 1 ≤ 1)]
        -- a configured delay of nothing stays nothing
        rcases Nat.eq_zero_or_pos config.reconnectDelay.toNat with hnone | hsome
        · simp [hnone]
        · rw [if_neg (hpos _ hsome)]
          exact hdouble _ n

theorem next?_scheduled {config : Config} {n : Nat} (delay : Nat) (hleft : n + 1 < limit config) :
    (scheduled config delay (n + 1)).next? config = some (scheduled config delay (n + 2)) := by
  unfold next? scheduled
  rw [if_neg (Nat.not_le.2 hleft), wait_succ]

theorem next?_scheduled_last {config : Config} {n : Nat} (delay : Nat)
    (hlast : limit config ≤ n + 1) : (scheduled config delay (n + 1)).next? config = none :=
  if_pos hlast

end Retry

instance (stage : Stage) : Decidable stage.Tries :=
  match stage with
  | .opening _ | .waiting _ _ => isTrue trivial
  | .dormant | .reading | .leaving _ | .ended _ | .broken => isFalse id

/-- Where the connection loop stands in a reconnection that began at a time with a delay, after the
attempts that failed at some times. -/
inductive OnSchedule (config : Config) (delay start : Nat) (failed : List Nat) (now : Nat) :
    Stage → Prop
  | waiting (hleft : failed.length < Retry.limit config)
      (hlong : Retry.wait config delay (failed.length + 1) ≠ 0) :
      OnSchedule config delay start failed now
        (.waiting (Retry.due config delay start failed)
          (.scheduled config delay (failed.length + 1)))
  /-- The next attempt has begun, and the wait for it was over. -/
  | opening (hleft : failed.length < Retry.limit config)
      (hdue : Retry.due config delay start failed ≤ now) :
      OnSchedule config delay start failed now
        (.opening (some (.scheduled config delay (failed.length + 1))))
  | connected (hleft : failed.length < Retry.limit config) :
      OnSchedule config delay start failed now .reading
  /-- All attempts have failed. -/
  | exhausted (hall : failed.length = Retry.limit config) :
      OnSchedule config delay start failed now
        (.ended (.error (.reconnectFailed (Retry.limit config))))

theorem OnSchedule.mono {config : Config} {delay start now later : Nat} {failed : List Nat}
    {stage : Stage} (h : OnSchedule config delay start failed now stage) (hle : now ≤ later) :
    OnSchedule config delay start failed later stage := by
  cases h with
  | waiting hleft hlong => exact .waiting hleft hlong
  | opening hleft hdue => exact .opening hleft (Nat.le_trans hdue hle)
  | connected hleft => exact .connected hleft
  | exhausted hall => exact .exhausted hall

namespace Client

open Course

def failure? (c : Client) : Move → Option Nat
  | .refused =>
    match c.stage with
    | .opening _ => some c.clock
    | _ => none
  | _ => none

def failures (c : Client) : List Move → List Nat
  | [] => []
  | move :: moves => (c.failure? move).toList ++ (c.step move).failures moves

/-- Before every step of a history the connection loop tries to connect, and nothing is asked of
it. -/
def Undisturbed (c : Client) : List Move → Prop
  | [] => True
  | move :: moves => c.stage.Tries ∧ c.orders = [] ∧ (c.step move).Undisturbed moves

instance decidableUndisturbed : (c : Client) → (moves : List Move) → Decidable (c.Undisturbed moves)
  | _, [] => isTrue trivial
  | c, move :: moves =>
    have := decidableUndisturbed (c.step move) moves
    inferInstanceAs (Decidable (_ ∧ _ ∧ _))

theorem failure?_refused (c : Client) {retry : Option Retry} (hstage : c.stage = .opening retry) :
    c.failure? .refused = some c.clock := by
  unfold failure?
  rw [hstage]

theorem failure?_other (c : Client) {move : Move}
    (hother : ∀ retry, c.stage = .opening retry → move ≠ .refused) : c.failure? move = none := by
  unfold failure?
  split
  next =>
    split
    next retry hstage => exact absurd rfl (hother retry hstage)
    next => rfl
  next => rfl

theorem clock_le_of_turn {c : Client} {move : Move} {o : Course} (hturn : Turn c move c.course o) :
    c.clock ≤ o.clock := by
  cases hturn with
  | elapse => exact Nat.le_add_right _ _
  | work hworks => cases hworks <;> exact Nat.le_refl _
  | sent _ _ hworks => cases hworks <;> exact Nat.le_refl _
  | _ => exact Nat.le_refl _

theorem clock_le_step (c : Client) (move : Move) : c.clock ≤ (c.step move).clock :=
  clock_le_of_turn (course_step c move)

theorem clock_le_run (c : Client) (moves : List Move) : c.clock ≤ (c.run moves).clock := by
  induction moves generalizing c with
  | nil => exact Nat.le_refl _
  | cons move rest ih => exact Nat.le_trans (clock_le_step c move) (ih (c.step move))

/-! ### One step of a reconnection -/

variable {delay start : Nat} {failed : List Nat}

/-- The wait for an attempt begins when the attempt before it fails. -/
theorem onSchedule_trying (o : Course) (hleft : failed.length < Retry.limit o.config)
    (hnow : failed.getLastD start = o.clock) :
    OnSchedule o.config delay start failed o.clock
      (o.trying (.scheduled o.config delay (failed.length + 1))) := by
  unfold trying
  show OnSchedule _ _ _ _ _ (if Retry.wait o.config delay (failed.length + 1) = 0 then _ else _)
  split
  next hnone =>
    refine .opening hleft ?_
    rw [Retry.due, hnone, hnow]
    exact Nat.le_refl _
  next hlong =>
    show OnSchedule _ _ _ _ _ (.waiting (o.clock + Retry.wait o.config delay _) _)
    rw [← hnow]
    exact .waiting hleft hlong

theorem stage_refused_last (c : Client) {retry : Retry} (hopening : c.stage = .opening (some retry))
    (hnone : retry.next? c.config = none) :
    c.refused.stage = .ended (.error (.reconnectFailed (Retry.limit c.config))) := by
  have hlast : c.stage.lastAttempt? c.config =
      some (.reconnectFailed (Retry.limit c.config)) := by
    unfold Stage.lastAttempt?
    rw [hopening]
    dsimp only
    rw [hnone]
  exact congrArg Snapshot.stage (snapshot_refused_last c hlast)

theorem stage_refused_again (c : Client) {retry next : Retry}
    (hopening : c.stage = .opening (some retry)) (hnext : retry.next? c.config = some next) :
    c.refused.stage = c.course.trying next :=
  congrArg Snapshot.stage (snapshot_refused_again c hopening hnext)

/-- A failed attempt leads to the wait for the next one, or it was the last one. -/
theorem onSchedule_refused (c : Client)
    (h : OnSchedule c.config delay start failed c.clock c.stage) {retry : Option Retry}
    (hopening : c.stage = .opening retry) :
    OnSchedule c.config delay start (failed ++ [c.clock]) c.refused.clock c.refused.stage := by
  obtain ⟨_, _, -, hcourse⟩ := advances_refused c hopening
  have hclock : c.refused.clock = c.clock := congrArg Course.clock hcourse
  have hlength : (failed ++ [c.clock]).length = failed.length + 1 := List.length_append
  rw [hopening] at h
  rw [hclock]
  cases h with
  | opening hleft =>
      by_cases hmore : failed.length + 1 < Retry.limit c.config
      · rw [stage_refused_again c hopening (Retry.next?_scheduled delay hmore)]
        have htrying := @onSchedule_trying delay start (failed ++ [c.clock]) c.course
        rw [hlength, List.getLastD_concat] at htrying
        exact htrying hmore rfl
      · have hlast := Nat.le_of_not_lt hmore
        rw [stage_refused_last c hopening (Retry.next?_scheduled_last delay hlast)]
        exact .exhausted (by rw [hlength]; exact Nat.le_antisymm hleft hlast)

/-- Every other step of the connection loop keeps to the schedule too. -/
theorem onSchedule_other (c : Client) (h : OnSchedule c.config delay start failed c.clock c.stage)
    (hquiet : c.orders = []) {move : Move}
    (hother : ∀ retry, c.stage = .opening retry → move ≠ .refused) (htries : c.stage.Tries) :
    OnSchedule c.config delay start failed (c.step move).clock (c.step move).stage := by
  have hclock := clock_le_step c move
  have hgoes := goes_step c move
  generalize (c.step move).stage = stage, (c.step move).orders = orders,
    (c.step move).clock = later at hclock hgoes
  have hnone : ∀ {order rest}, c.course.orders ≠ order :: rest := by
    intro order rest horders
    cases hquiet.symm.trans horders
  have hon (hstage : c.stage.Tries → False) : OnSchedule c.config delay start failed later stage :=
    (hstage htries).elim
  cases hgoes with
  | stay => exact h.mono hclock
  | lose hreading | breakOff hreading => exact hon (by rw [hreading]; exact id)
  | loop hloops =>
      cases hloops with
      | opened hstage =>
          rw [show c.stage = _ from hstage] at h
          cases h with
          | opening hleft => exact .connected hleft
      | dropped _ hshutdown =>
          rw [show c.course.orders = [] from hquiet] at hshutdown
          cases hshutdown
      | refused hlast =>
          obtain ⟨retry, hopening⟩ := opening_of_lastAttempt? hlast
          exact absurd rfl (hother retry hopening)
      | again hstage => exact absurd rfl (hother _ hstage)
      | retry hstage hdue =>
          rw [show c.stage = _ from hstage] at h
          cases h with
          | waiting hleft => exact .opening hleft (Nat.le_trans hdue hclock)
      | hurry _ horders => exact absurd horders hnone
      | stop _ horders => exact absurd horders hnone
      | start hstage | depart hstage | close hstage | fail hstage | hangUp hstage | obey hstage =>
          exact hon (by rw [show c.stage = _ from hstage]; exact id)

/-! ### Whole reconnections -/

theorem onSchedule_step (c : Client) (h : OnSchedule c.config delay start failed c.clock c.stage)
    (htries : c.stage.Tries) (hquiet : c.orders = []) (move : Move) :
    OnSchedule c.config delay start (failed ++ (c.failure? move).toList) (c.step move).clock
      (c.step move).stage := by
  by_cases hfailure : ∃ retry, c.stage = .opening retry ∧ move = .refused
  · obtain ⟨retry, hopening, rfl⟩ := hfailure
    rw [failure?_refused c hopening]
    exact onSchedule_refused c h hopening
  · have hother : ∀ retry, c.stage = .opening retry → move ≠ .refused :=
      fun retry hopening hmove => hfailure ⟨retry, hopening, hmove⟩
    rw [failure?_other c hother, Option.toList_none, List.append_nil]
    exact onSchedule_other c h hquiet hother htries

theorem onSchedule_run (c : Client) (h : OnSchedule c.config delay start failed c.clock c.stage)
    {moves : List Move} (hcalm : c.Undisturbed moves) :
    OnSchedule c.config delay start (failed ++ c.failures moves) (c.run moves).clock
      (c.run moves).stage := by
  induction moves generalizing c failed with
  | nil =>
      rw [failures, List.append_nil]
      exact h
  | cons move rest ih =>
      obtain ⟨htries, hquiet, hrest⟩ := hcalm
      have hstep := onSchedule_step c h htries hquiet move
      rw [← config_step c move] at hstep ⊢
      rw [failures, ← List.append_assoc]
      exact ih (c.step move) hstep hrest

theorem stage_depart (c : Client) (hleaving : c.stage = .leaving (.reconnect delay)) :
    (c.step .depart).stage = c.course.trying ⟨1, delay⟩ ∧ (c.step .depart).clock = c.clock := by
  obtain ⟨_, _, -, hcourse⟩ := advances_depart c hleaving
  exact ⟨congrArg Snapshot.stage (snapshot_depart_reconnect c hleaving),
    congrArg Course.clock hcourse⟩

theorem onSchedule_depart (c : Client) (hleaving : c.stage = .leaving (.reconnect delay)) :
    OnSchedule c.config delay c.clock [] (c.step .depart).clock (c.step .depart).stage := by
  obtain ⟨hstage, hclock⟩ := stage_depart c hleaving
  rw [hstage, hclock, ← Retry.scheduled_one c.config delay]
  exact onSchedule_trying c.course (Retry.limit_pos c.config) rfl

/-- An attempt that succeeds, if no shutdown is asked for. -/
theorem connected_of_opened (c : Client) {retry : Option Retry}
    (hopening : c.stage = .opening retry) (hserved : .shutdown ∉ c.orders) :
    (c.step .opened).stage = .reading ∧ (c.step .opened).session.phase = .awaitingHello := by
  have hopened : (c.step .opened).snapshot = _ := snapshot_opened c hopening hserved
  exact ⟨congrArg Snapshot.stage hopened, congrArg Snapshot.phase hopened⟩

/-- The phase of a session whose connection has just been opened. -/
theorem phase_of_connected (c : Client) (htries : c.stage.Tries) {move : Move}
    (hreading : (c.step move).stage = .reading) :
    (c.step move).session.phase = .awaitingHello := by
  have hopened : ∃ retry, c.stage = .opening retry ∧ .shutdown ∉ c.orders ∧ move = .opened := by
    have hgoes := goes_step c move
    generalize (c.step move).stage = stage, (c.step move).orders = orders at hreading hgoes
    cases hgoes with
    | stay =>
        rw [hreading] at htries
        exact htries.elim
    | lose => cases hreading
    | breakOff => cases hreading
    | loop hloops =>
        cases hloops with
        | opened hthis hserved => exact ⟨_, hthis, hserved, rfl⟩
        | @again _ next =>
            have htry := tries_trying c.course next
            rw [hreading] at htry
            exact htry.elim
        | depart hthis =>
            rw [show c.stage = _ from hthis] at htries
            exact htries.elim
        | _ => cases hreading
  obtain ⟨retry, hopening, hserved, rfl⟩ := hopened
  exact (connected_of_opened c hopening hserved).2

theorem phase_of_connected_run (c : Client) (htries : c.stage.Tries) {moves : List Move}
    (hcalm : c.Undisturbed moves) (hreading : (c.run moves).stage = .reading) :
    (c.run moves).session.phase = .awaitingHello := by
  induction moves generalizing c with
  | nil =>
      rw [show c.stage = _ from hreading] at htries
      exact htries.elim
  | cons move rest ih =>
      cases rest with
      | nil => exact phase_of_connected c htries hreading
      | cons next rest => exact ih (c.step move) hcalm.2.2.1 hcalm.2.2 hreading

/-- After an attempt that succeeds there is none until the connection is left. -/
theorem connected_run (c : Client) (hconnected : c.stage = .reading ∨ c.stage = .broken)
    {moves : List Move} (htries : (c.run moves).stage.Tries) :
    ∃ first rest exit, moves = first ++ rest ∧ (c.run first).stage = .leaving exit := by
  induction moves generalizing c with
  | nil =>
      rcases hconnected with hstage | hstage <;>
      · rw [show (c.run []).stage = _ from hstage] at htries
        exact htries.elim
  | cons move rest ih =>
      have hstep : (∃ exit, (c.step move).stage = .leaving exit) ∨
          (c.step move).stage = .reading ∨ (c.step move).stage = .broken := by
        have hgoes := goes_step c move
        generalize (c.step move).stage = stage, (c.step move).orders = orders at hgoes
        rcases hconnected with hreading | hbroken
        · cases hgoes with
          | stay => exact .inr (.inl hreading)
          | lose => exact .inl ⟨_, rfl⟩
          | breakOff => exact .inr (.inr rfl)
          | loop hloops => exact .inl (hloops.of_reading hreading).1
        · exact .inr (.inr (hgoes.over hbroken rfl))
      rcases hstep with ⟨exit, hleaving⟩ | hstill
      · exact ⟨[move], rest, exit, rfl, hleaving⟩
      · obtain ⟨first, later, exit, rfl, hleaving⟩ := ih (c.step move) hstill htries
        exact ⟨move :: first, later, exit, rfl, hleaving⟩

/-! ### A shutdown during a wait -/

/-- A loop that waits for an attempt has to shut down before anything else, or it has done so. -/
def Stops (o : Course) (due : Nat) (retry : Retry) : Prop :=
  o.stage = .ended (.ok ()) ∨
    o.stage = .waiting due retry ∧ ∃ rest, o.orders = .shutdown :: rest

theorem stops_of_works {o o' : Course} {due : Nat} {retry : Retry} (hworks : o.Works o')
    (h : Stops o due retry) : Stops o' due retry := by
  cases hworks with
  | on => exact h
  | lose hreading | breakOff hreading =>
      rcases h with hended | ⟨hwaiting, -⟩
      · cases hreading.symm.trans hended
      · cases hreading.symm.trans hwaiting

/-- No attempt is made before the wait is over. -/
theorem stops_of_turn {c : Client} {move : Move} {o : Course} (hturn : Turn c move c.course o)
    {due : Nat} {retry : Retry} (hearly : c.clock < due) (h : Stops c.course due retry) :
    Stops o due retry := by
  rcases h with hended | ⟨hwaiting, rest, hfirst⟩
  · exact .inl ((goes_of_turn hturn).over hended rfl)
  · have hstay : Stops c.course due retry := .inr ⟨hwaiting, rest, hfirst⟩
    have hheard (order : Order) : c.course.heard order = .shutdown :: (rest ++ [order]) := by
      unfold heard
      rw [hwaiting, hfirst]
      rfl
    cases hturn with
    | order => exact .inr ⟨hwaiting, _, hheard _⟩
    | dead => exact .inr ⟨hwaiting, _, hheard _⟩
    | work hworks => exact stops_of_works hworks hstay
    | sent _ _ hworks => exact stops_of_works hworks hstay
    | loop hloops =>
        -- the order is served before anything else
        rcases hloops.of_waiting hwaiting with hdue | ⟨later, horders⟩ | hended
        · exact absurd hdue (Nat.not_le.2 hearly)
        · cases hfirst.symm.trans horders
        · exact .inl hended
    | _ => exact hstay

theorem stops_run (c : Client) {due : Nat} {retry : Retry} (h : Stops c.course due retry)
    {moves : List Move} (hearly : (c.run moves).clock < due) :
    Stops (c.run moves).course due retry := by
  induction moves generalizing c with
  | nil => exact h
  | cons move rest ih =>
      have hnow : c.clock < due :=
        Nat.lt_of_le_of_lt (clock_le_run c (move :: rest)) hearly
      exact ih (c.step move) (stops_of_turn (course_step c move) hnow h) hearly

theorem stage_obey_of_stops (c : Client) {due : Nat} {retry : Retry}
    (h : Stops c.course due retry) : (c.step .obey).stage = .ended (.ok ()) := by
  rcases h with hended | ⟨hwaiting, rest, hfirst⟩
  · exact over_run c hended rfl [.obey]
  · exact congrArg Snapshot.stage (snapshot_obey_shutdown c hwaiting hfirst)

/-- A reconnection keeps to its schedule as long as it lasts and nothing is asked of the loop. The
wait that is over is followed by an attempt. An attempt that succeeds leads to a connection that
waits for its greeting, and no other attempt is made before that connection is left; a loop that has
given up makes no other at all. A shutdown in a wait ends the loop without another attempt. -/
theorem reconnects_on_schedule (c : Client) {delay : Nat}
    (hleaving : c.stage = .leaving (.reconnect delay))
    {moves : List Move} (hcalm : (c.step .depart).Undisturbed moves) :
    let d := (c.step .depart).run moves
    OnSchedule c.config delay c.clock ((c.step .depart).failures moves) d.clock d.stage ∧
    (d.stage = .reading → d.session.phase = .awaitingHello) ∧
    (∀ retry, d.stage = .opening retry → d.orders = [] →
      (d.step .opened).stage = .reading ∧ (d.step .opened).session.phase = .awaitingHello ∧
      ∀ later, ((d.step .opened).run later).stage.Tries →
        ∃ first rest exit, later = first ++ rest ∧
          ((d.step .opened).run first).stage = .leaving exit) ∧
    (∀ due retry, d.stage = .waiting due retry → due ≤ d.clock →
      (d.step .retry).stage = .opening (some retry)) ∧
    (∀ result later, d.stage = .ended result → (d.run later).stage = .ended result) ∧
    ∀ due retry later, d.stage = .waiting due retry → d.orders = [] →
      (d.run (.shutdown :: later)).clock < due →
      ((d.run (.shutdown :: later)).stage = .ended (.ok ()) ∨
        (d.run (.shutdown :: later)).stage = .waiting due retry) ∧
      (d.run (.shutdown :: later ++ [.obey])).stage = .ended (.ok ()) := by
  intro d
  have hdepart := onSchedule_depart c hleaving
  have hconfig := config_step c .depart
  rw [← hconfig] at hdepart
  refine ⟨hconfig ▸ onSchedule_run _ hdepart hcalm, ?_, ?_, ?_, ?_, ?_⟩
  · have htries : (c.step .depart).stage.Tries := by
      rw [(stage_depart c hleaving).1]
      exact tries_trying _ _
    exact phase_of_connected_run _ htries hcalm
  · intro retry hopening hquiet
    have hserved : .shutdown ∉ d.orders := by
      rw [hquiet]
      exact List.not_mem_nil
    obtain ⟨hreading, hphase⟩ := connected_of_opened d hopening hserved
    exact ⟨hreading, hphase, fun later htries => connected_run _ (.inl hreading) htries⟩
  · intro due retry hwaiting hdue
    exact congrArg Snapshot.stage (snapshot_retry d hwaiting hdue)
  · exact fun result later hended => over_run d hended rfl later
  · intro due retry later hwaiting hquiet hearly
    have hordered : Stops (d.step .shutdown).course due retry := by
      have hsnapshot : (d.step .shutdown).snapshot = _ := snapshot_shutdown d
      have hopen : d.stage.isOver = false := by
        rw [hwaiting]
        rfl
      rw [heard_of_open hopen, hquiet] at hsnapshot
      exact .inr ⟨(congrArg Snapshot.stage hsnapshot).trans hwaiting, [],
        congrArg Snapshot.orders hsnapshot⟩
    have hstops := stops_run _ hordered hearly
    refine ⟨hstops.imp id (·.1), ?_⟩
    show (d.run (.shutdown :: (later ++ [.obey]))).stage = _
    rw [run_cons, run_append]
    exact stage_obey_of_stops _ hstops

def losing : List Move := [.start, .opened, .receive .lost]

/-- The first attempt begins after ten milliseconds. -/
def trying : List Move := [.elapse 10, .retry]

/-- The first attempt takes a while to fail. -/
def failing : List Move := trying ++ [.elapse 3, .refused]

/-- The first attempt may succeed. If it fails the second one is to come after twice the wait, which
a shutdown cuts short. -/
theorem losing_reconnects_on_schedule :
    let c := (fresh { token := "t", reconnectDelay := 10 } .none).run losing
    let d := (c.step .depart).run failing
    let e := (c.step .depart).run trying
    c.stage = .leaving (.reconnect 10) ∧ (c.step .depart).Undisturbed failing ∧
    (c.step .depart).failures failing = [13] ∧
    OnSchedule c.config 10 c.clock [13] d.clock d.stage ∧
    d.stage = .waiting 33 ⟨2, 20⟩ ∧
    (d.run [.shutdown, .elapse 19, .obey]).stage = .ended (.ok ()) ∧
    e.stage = .opening (some ⟨1, 10⟩) ∧ (e.step .opened).session.phase = .awaitingHello := by
  intro c d e
  have hleaving : c.stage = .leaving (.reconnect 10) := rfl
  have hcalm : (c.step .depart).Undisturbed failing := by decide +kernel
  have hcalm' : (c.step .depart).Undisturbed trying := by decide +kernel
  have hfailures : (c.step .depart).failures failing = [13] := by decide +kernel
  have hwaiting : d.stage = .waiting 33 ⟨2, 20⟩ := rfl
  have hopening : e.stage = .opening (some ⟨1, 10⟩) := rfl
  obtain ⟨hschedule, -, -, -, -, hstop⟩ := reconnects_on_schedule c hleaving hcalm
  obtain ⟨-, -, hopened, -⟩ := reconnects_on_schedule c hleaving hcalm'
  rw [hfailures] at hschedule
  exact ⟨hleaving, hcalm, hfailures, hschedule, hwaiting,
    (hstop _ _ [.elapse 19] hwaiting rfl (by decide +kernel)).2,
    hopening, (hopened _ hopening rfl).2.1⟩

end Client

end ChatGateway
