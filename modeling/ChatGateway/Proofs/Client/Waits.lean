import ChatGateway.Proofs.Client.HeartbeatOrder
import ChatGateway.Proofs.Client.Progress
import ChatGateway.Proofs.RateLimit.Precedence

/-!
Waits for the global rate limit. Whoever sends something looks at the global bucket once, computes
when the wait will be over, and does not look again. What is reported while it sleeps replaces the
bucket, so that the wait may be over while the bucket demands another one. `wait_over_as_sampled`
says for every history what a wait that is over has waited for, and what the bucket demands by then.
-/

namespace ChatGateway

namespace RateLimiter

/-- After some more reports a limiter holds the last of them about a bucket, or what it held
before. -/
theorem get?_foldl_take (limiter : RateLimiter) (reports : List Report) (key : BucketKey) :
    (reports.foldl take limiter).buckets.get? key =
      (lastAbout reports key).or (limiter.buckets.get? key) := by
  induction reports using List.reverseRecOn with
  | nil => rfl
  | append_singleton reports report ih =>
      rw [List.foldl_append, lastAbout_concat, Option.or_assoc, ← ih]
      exact get?_take _ report key

/-- The global bucket alone decides about what is sent to the gateway. -/
theorem deciding_global (limiter : RateLimiter) :
    limiter.deciding .global = limiter.buckets.get? .global := by
  unfold deciding
  cases limiter.buckets.get? .global with
  | none => rfl
  | some g => exact ite_self _

theorem delay_global (limiter : RateLimiter) (object : Option Snowflake) (now : Float) :
    limiter.delay object .global now =
      .ok (Bucket.demand (limiter.buckets.get? .global) now) := by
  rw [← deciding_global]
  rfl

end RateLimiter

inductive Waiter where
  /-- The frame path. -/
  | frames
  | heartbeat (loop : Nat)
  | caller (send : Nat)

namespace Course

def Awaits (o : Course) : Waiter → Nat → Prop
  | .frames, due => ∃ what purpose, o.path = .sending due what purpose
  | .heartbeat loop, due => ∃ what, ⟨loop, due, what⟩ ∈ o.pulses
  | .caller send, due => ∃ what, ⟨send, due, what⟩ ∈ o.sends

/-- Everybody who waits has waited before or begins with a look at the limiter. -/
structure Arrives (o o' : Course) : Prop where
  path : ∀ {due what purpose}, o'.path = .sending due what purpose →
    o.path = .sending due what purpose ∨ due = o.clearance
  pulses : ∀ {pulse}, pulse ∈ o'.pulses → pulse ∈ o.pulses ∨ pulse.due = o.clearance
  sends : ∀ {send}, send ∈ o'.sends → send ∈ o.sends ∨ send.due = o.clearance

end Course

namespace Client

open Course

abbrev Awaits (c : Client) : Waiter → Nat → Prop := c.course.Awaits

def reports (c : Client) : List Move → List Report
  | [] => []
  | move :: moves => (c.told? move).toList ++ (c.step move).reports moves

/-! ### The limiter -/

theorem limiter_of_turn {c : Client} {move : Move} {o : Course} (hturn : Turn c move c.course o)
    (hnone : c.told? move = none) : o.limiter = c.limiter := by
  cases hturn with
  | tell htold => exact absurd (hnone.symm.trans htold) nofun
  | work hworks => cases hworks <;> rfl
  | sent _ _ hworks => cases hworks <;> rfl
  | _ => rfl

theorem limiter_step (c : Client) (move : Move) : (c.step move).limiter = c.informed move := by
  cases htold : c.told? move with
  | none =>
      rw [informed, htold]
      exact limiter_of_turn (course_step c move) htold
  | some report =>
      cases move with
      | observe headers object kind => rfl
      | respond id response => exact congrArg Snapshot.limiter (snapshot_respond c id response)
      | _ => cases htold

theorem limiter_run (c : Client) (moves : List Move) :
    (c.run moves).limiter = (c.reports moves).foldl RateLimiter.take c.limiter := by
  induction moves generalizing c with
  | nil => rfl
  | cons move rest ih =>
      rw [run_cons, ih (c.step move), limiter_step, informed, reports, List.foldl_append]
      cases c.told? move <;> rfl

/-! ### Waits -/

theorem arrives_of_works {o o' : Course} (hworks : o.Works o') : o.Arrives o' := by
  cases hworks with
  | lose | breakOff => exact ⟨nofun, .inl, .inl⟩
  | on hcomes =>
      refine ⟨fun hpath => ?_, .inl, .inl⟩
      dsimp only at hpath
      subst hpath
      cases hcomes with
      | send => exact .inr rfl

theorem arrives_of_turn {c : Client} {move : Move} {o : Course} (hturn : Turn c move c.course o) :
    c.course.Arrives o := by
  cases hturn with
  | send =>
      refine ⟨.inl, .inl, fun hsend => ?_⟩
      rcases List.mem_append.1 hsend with hold | hnew
      · exact .inl hold
      · cases List.mem_singleton.1 hnew
        exact .inr rfl
  | complete hsends => exact ⟨.inl, .inl, fun hsend => .inl (hsends hsend)⟩
  | beat hpulses => exact ⟨.inl, fun hpulse => (hpulses _ hpulse).imp_right And.left, .inl⟩
  | dead hpulses => exact ⟨.inl, fun hpulse => .inl (hpulses hpulse), .inl⟩
  | pulse _ hpulses => exact ⟨.inl, fun hpulse => .inl (hpulses hpulse), .inl⟩
  | work hworks => exact arrives_of_works hworks
  | renew hpath =>
      refine ⟨fun hsending => ?_, .inl, .inl⟩
      cases hsending
      exact .inr rfl
  | sent _ _ hworks =>
      obtain ⟨hpath, hpulses, hsends⟩ := arrives_of_works hworks
      exact ⟨hpath, hpulses, hsends⟩
  | _ => exact ⟨.inl, .inl, .inl⟩

/-- A wait that begins in a step is over when the limiter says so at that time. -/
theorem due_of_step (c : Client) (move : Move) {waiter : Waiter} {due : Nat}
    (hafter : (c.step move).Awaits waiter due) : c.Awaits waiter due ∨ due = c.clearance := by
  have harrives := arrives_of_turn (course_step c move)
  cases waiter with
  | frames =>
      obtain ⟨what, purpose, hpath⟩ := hafter
      exact (harrives.path hpath).imp_left fun hold => ⟨what, purpose, hold⟩
  | heartbeat loop =>
      obtain ⟨what, hpulse⟩ := hafter
      exact (harrives.pulses hpulse).imp_left fun hold => ⟨what, hold⟩
  | caller send =>
      obtain ⟨what, hsend⟩ := hafter
      exact (harrives.sends hsend).imp_left fun hold => ⟨what, hold⟩

/-- A wait has begun at some step with a look at the limiter, and has gone on ever since. -/
theorem call_of_awaits (c : Client) {waiter : Waiter} {due : Nat} (hnone : ¬ c.Awaits waiter due)
    {moves : List Move} (hawaits : (c.run moves).Awaits waiter due) :
    ∃ before call asleep, moves = before ++ call :: asleep ∧ due = (c.run before).clearance ∧
      ∀ elapsed, elapsed <+: asleep →
        (c.run (before ++ call :: elapsed)).Awaits waiter due := by
  -- from the end of the history back to the step in which the wait began
  induction moves using List.reverseRecOn with
  | nil => exact absurd hawaits hnone
  | append_singleton moves move ih =>
      by_cases hheld : (c.run moves).Awaits waiter due
      · obtain ⟨before, call, asleep, rfl, hdue, hasleep⟩ := ih hheld
        refine ⟨before, call, asleep ++ [move], by simp, hdue, fun elapsed helapsed => ?_⟩
        rcases List.prefix_concat_iff.1 helapsed with rfl | helapsed
        · simpa using hawaits
        · exact hasleep elapsed helapsed
      · have hstep : c.run (moves ++ [move]) = (c.run moves).step move := by
          rw [run_append]
          rfl
        rw [hstep] at hawaits
        refine ⟨moves, move, [], rfl, (due_of_step _ move hawaits).resolve_left hheld,
          fun elapsed helapsed => ?_⟩
        rw [List.prefix_nil.1 helapsed, hstep]
        exact hawaits

theorem not_awaits_fresh (config : Config) (handlers : Handlers) (waiter : Waiter) (due : Nat) :
    ¬ (fresh config handlers).Awaits waiter due := by
  cases waiter with
  | frames => exact fun ⟨_, _, hpath⟩ => nomatch hpath
  | heartbeat loop => exact fun ⟨_, hpulse⟩ => nomatch hpulse
  | caller send => exact fun ⟨_, hsend⟩ => nomatch hsend

/-- A wait that is over began with one look at the global bucket, and was to be as long as the
bucket demanded at that time; it has gone on ever since, for that long at least. By now the limiter
holds the last report about the bucket that came meanwhile, or the bucket that was looked at if
there was none, and it demands what that demands now. -/
theorem wait_over_as_sampled (config : Config) (handlers : Handlers) {moves : List Move}
    {waiter : Waiter} {due : Nat}
    (hawaits : ((fresh config handlers).run moves).Awaits waiter due)
    (hover : due ≤ ((fresh config handlers).run moves).clock) :
    ∃ before call asleep, moves = before ++ call :: asleep ∧
      let calling := (fresh config handlers).run before
      let waking := (fresh config handlers).run moves
      let sampled := lastAbout ((fresh config handlers).reports before) .global
      let since := lastAbout (calling.reports (call :: asleep)) .global
      let demanded := Bucket.demand sampled (unixSeconds calling.timeOfDay)
      due = calling.clock + Duration.pause demanded ∧
      (∀ elapsed, elapsed <+: asleep →
        ((fresh config handlers).run (before ++ call :: elapsed)).Awaits waiter due) ∧
      (∀ d, demanded = some d → d.nanoseconds ≤ (waking.clock - calling.clock) * 1000000) ∧
      ∀ object, waking.limiter.delay object .global (unixSeconds waking.timeOfDay) =
        .ok (Bucket.demand (since.or sampled) (unixSeconds waking.timeOfDay)) := by
  have hnone := not_awaits_fresh config handlers waiter due
  obtain ⟨before, call, asleep, rfl, hdue, hasleep⟩ := call_of_awaits _ hnone hawaits
  refine ⟨before, call, asleep, rfl, ?_⟩
  intro calling waking sampled since demanded
  have hsampled : calling.limiter.buckets.get? .global = sampled := by
    rw [limiter_run, RateLimiter.get?_foldl_take]
    exact Option.or_none
  have hslept : due = calling.clock + Duration.pause demanded := by
    rw [hdue, clearance, RateLimiter.pause, RateLimiter.deciding_global, hsampled]
    rfl
  have hheld : waking.limiter.buckets.get? .global = since.or sampled := by
    have hrun : waking = calling.run (call :: asleep) := run_append _ before (call :: asleep)
    rw [hrun, limiter_run, RateLimiter.get?_foldl_take, hsampled]
  refine ⟨hslept, hasleep, fun d hd => ?_, fun object => ?_⟩
  · have hpause : Duration.pause demanded = d.milliseconds := by
      rw [hd]
      rfl
    rw [hslept, hpause] at hover
    have hlong : d.milliseconds ≤ waking.clock - calling.clock := Nat.le_sub_of_add_le' hover
    unfold Duration.milliseconds at hlong
    omega
  · rw [RateLimiter.delay_global, hheld]

def exhaustedReport (second : String) : Move :=
  .observe [(Headers.globalName, "true"), (Headers.limitName, "50"), (Headers.remainingName, "0"),
    (Headers.resetName, second)] none .global

/-- A heartbeat waits until second 100, and while it does so the bucket is reported anew, to be
reset at a second that is given. -/
def replaced (second : String) : List Move :=
  [.start, .opened, greeting, .proceed, exhaustedReport "100", .beat 0, .elapse 41240, .beat 0,
    .beat 0, exhaustedReport second, .elapse 58760]

theorem replaced_awaits (second : String)
    (hpulses : ((fresh { token := "t" } .none).run (replaced second)).course.pulses =
      [⟨0, 100000, .command (.heartbeat none)⟩]) :
    ((fresh { token := "t" } .none).run (replaced second)).Awaits (.heartbeat 0) 100000 :=
  ⟨.command (.heartbeat none), by rw [hpulses]; exact List.mem_singleton_self _⟩

/-- The heartbeat has waited as long as the bucket demanded at its tick; the bucket that is reported
meanwhile has the same reset, and demands nothing more. -/
theorem wait_over_as_sampled_renewed :
    let waking := (fresh { token := "t" } .none).run (replaced "100")
    waking.Awaits (.heartbeat 0) 100000 ∧ 100000 ≤ waking.clock ∧
    (∃ before call asleep, replaced "100" = before ++ call :: asleep ∧
      let calling := (fresh { token := "t" } .none).run before
      100000 = calling.clock + Duration.pause (Bucket.demand
        (lastAbout ((fresh { token := "t" } .none).reports before) .global)
        (unixSeconds calling.timeOfDay))) ∧
    waking.limiter.delay none .global (unixSeconds waking.timeOfDay) = .ok none := by
  intro waking
  have hawaits : waking.Awaits (.heartbeat 0) 100000 := replaced_awaits "100" (by decide +kernel)
  have hover : 100000 ≤ waking.clock := by decide +kernel
  obtain ⟨before, call, asleep, hsplit, hdue, -, -, -⟩ :=
    wait_over_as_sampled { token := "t" } .none hawaits hover
  exact ⟨hawaits, hover, ⟨before, call, asleep, hsplit, hdue⟩, by decide +kernel⟩

/-- The wait of a heartbeat is over while the bucket demands another hundred seconds, and the
heartbeat is written. -/
theorem wait_over_while_exhausted :
    let waking := (fresh { token := "t" } .none).run (replaced "200")
    waking.Awaits (.heartbeat 0) 100000 ∧ 100000 ≤ waking.clock ∧
    waking.limiter.delay none .global (unixSeconds waking.timeOfDay) = .ok (some ⟨100000000000⟩) ∧
    (waking.step (.beat 0)).pulses = [0] := by
  refine ⟨replaced_awaits "200" ?_, ?_, ?_, ?_⟩ <;> decide +kernel

end Client

end ChatGateway
