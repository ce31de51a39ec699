import ChatGateway.Proofs.RateLimit.Reports
import Mathlib.Tactic.ByContra
import Mathlib.Tactic.Push

/-!
Which bucket makes a request wait. The global bucket takes precedence as soon as the last report
about it says that nothing is left, and goes on to do so when its own reset has passed: it is never
asked whether it still demands a wait. A request is let through before its own bucket allows it
exactly when such a report stands in the way, which `delay_meets_iff` states for every history of
reports; the demands of the global bucket are always met.
-/

namespace ChatGateway

def Duration.Meets (wait demand : Option Duration) : Prop :=
  ∀ d, demand = some d → ∃ w, wait = some w ∧ d.nanoseconds ≤ w.nanoseconds

def Bucket.demand (bucket : Option Bucket) (now : Float) : Option Duration :=
  bucket.bind fun bucket => bucket.delay now

/-- The last report about the global bucket says that nothing is left of it, whether its reset has
passed or not, and it demands less of a request than the bucket of the request does. -/
def Bucket.Overrides (global own : Option Bucket) (now : Float) : Prop :=
  ∃ g d, global = some g ∧ g.remaining = 0 ∧ demand own now = some d ∧
    ∀ w, g.delay now = some w → w.nanoseconds < d.nanoseconds

theorem Duration.Meets.refl (wait : Option Duration) : Meets wait wait := by
  intro d hd
  exact ⟨d, hd, Nat.le_refl _⟩

theorem Duration.meets_none (wait : Option Duration) : Meets wait none := by
  intro d hd
  cases hd

/-- A wait that meets a demand takes at least as many milliseconds. -/
theorem Duration.Meets.pause_le {wait demand : Option Duration} (h : Meets wait demand) :
    pause demand ≤ pause wait := by
  cases hdemand : demand with
  | none => exact Nat.zero_le _
  | some d =>
      obtain ⟨w, hw, hle⟩ := h d hdemand
      rw [hw]
      show d.milliseconds ≤ w.milliseconds
      unfold milliseconds
      omega

/-- A bucket with requests left demands nothing. -/
theorem Bucket.delay_eq_none_of_remaining {bucket : Bucket} (h : bucket.remaining ≠ 0)
    (now : Float) : bucket.delay now = none := by
  have hpos : 0 < bucket.remaining := UInt32.pos_iff_ne_zero.2 h
  rw [delay, if_pos hpos]

namespace RateLimiter

/-- Once nothing is left of the global bucket, it alone decides. -/
theorem deciding_of_remaining_eq_zero {limiter : RateLimiter} {g : Bucket}
    (hglobal : limiter.buckets.get? .global = some g) (hzero : g.remaining = 0)
    (key : BucketKey) : limiter.deciding key = some g := by
  simp only [deciding, hglobal, hzero, if_true]

/-- As long as something is left of the global bucket, or nothing was reported about it, the bucket
of the request decides. -/
theorem deciding_of_live {limiter : RateLimiter}
    (hlive : ∀ g, limiter.buckets.get? .global = some g → g.remaining ≠ 0) (key : BucketKey) :
    limiter.deciding key = limiter.buckets.get? key := by
  unfold deciding
  cases hglobal : limiter.buckets.get? .global with
  | none => rfl
  | some g => exact if_neg (hlive g hglobal)

/-- The wait of a request meets the demand of the global bucket. -/
theorem meets_global (limiter : RateLimiter) (key : BucketKey) (now : Float) :
    Duration.Meets (Bucket.demand (limiter.deciding key) now)
      (Bucket.demand (limiter.buckets.get? .global) now) := by
  cases hglobal : limiter.buckets.get? .global with
  | none => exact Duration.meets_none _
  | some g =>
      by_cases hzero : g.remaining = 0
      · rw [deciding_of_remaining_eq_zero hglobal hzero]
        exact Duration.Meets.refl _
      · have hnone : Bucket.demand (some g) now = none :=
          Bucket.delay_eq_none_of_remaining hzero now
        rw [hnone]
        exact Duration.meets_none _

/-- The wait of a request meets the demand of its own bucket unless the global one overrides it. -/
theorem meets_own_iff (limiter : RateLimiter) (key : BucketKey) (now : Float) :
    Duration.Meets (Bucket.demand (limiter.deciding key) now)
        (Bucket.demand (limiter.buckets.get? key) now) ↔
      ¬ Bucket.Overrides (limiter.buckets.get? .global) (limiter.buckets.get? key) now := by
  constructor
  · rintro hmeets ⟨g, d, hglobal, hzero, hdemand, hless⟩
    obtain ⟨w, hw, hle⟩ := hmeets d hdemand
    rw [deciding_of_remaining_eq_zero hglobal hzero] at hw
    have hlt := hless w hw
    omega
  · intro hfree d hdemand
    by_cases hlive : ∀ g, limiter.buckets.get? .global = some g → g.remaining ≠ 0
    · rw [deciding_of_live hlive]
      exact ⟨d, hdemand, Nat.le_refl _⟩
    · -- the global bucket decides, so it has to demand as much as the request's own one
      push Not at hlive
      obtain ⟨g, hglobal, hzero⟩ := hlive
      rw [deciding_of_remaining_eq_zero hglobal hzero]
      by_contra hshort
      refine hfree ⟨g, d, hglobal, hzero, hdemand, fun w hw => ?_⟩
      by_contra hle
      exact hshort ⟨w, hw, Nat.le_of_not_lt hle⟩

/-- For every history of reports, every request and every time: the request waits at least as long
as the last report about the global bucket demands, and it waits at least as long as the last
report about its own bucket demands exactly when the global one does not override it. Whoever waits
sleeps for as long as that. -/
theorem delay_meets_iff (reports : List Report) (object : Option Snowflake) (kind : BucketKind)
    (key : BucketKey) (now : Float) (hkey : BucketKey.resolve object kind = .ok key) :
    ∃ global own wait,
      (ofReports reports).bucket none .global = .ok global ∧ global = lastAbout reports .global ∧
      (ofReports reports).bucket object kind = .ok own ∧ own = lastAbout reports key ∧
      (ofReports reports).delay object kind now = .ok wait ∧
      Duration.Meets wait (Bucket.demand global now) ∧
      (Duration.Meets wait (Bucket.demand own now) ↔ ¬ Bucket.Overrides global own now) ∧
      ∀ time, now = unixSeconds time →
        (ofReports reports).pause key time = Duration.pause wait ∧
        Duration.pause (Bucket.demand global now) ≤ (ofReports reports).pause key time ∧
        (¬ Bucket.Overrides global own now →
          Duration.pause (Bucket.demand own now) ≤ (ofReports reports).pause key time) := by
  have hglobal := meets_global (ofReports reports) key now
  have hown := meets_own_iff (ofReports reports) key now
  rw [get?_ofReports] at hglobal
  rw [get?_ofReports, get?_ofReports] at hown
  refine ⟨lastAbout reports .global, lastAbout reports key,
    Bucket.demand ((ofReports reports).deciding key) now, bucket_ofReports reports rfl, rfl,
    bucket_ofReports reports hkey, rfl, ?_, hglobal, hown, ?_⟩
  · rw [delay, hkey]
    rfl
  · rintro time rfl
    exact ⟨rfl, hglobal.pause_le, fun hfree => (hown.2 hfree).pause_le⟩

/-- Two reports that say that nothing is left: of the global bucket until second 10, and of the
bucket of channel 7 until a second that is given. -/
def exhaustedUntil (second : String) : List Report :=
  [⟨[(Headers.globalName, "true"), (Headers.limitName, "50"), (Headers.remainingName, "0"),
      (Headers.resetName, "10")], none, .global, 0⟩,
    ⟨[(Headers.limitName, "5"), (Headers.remainingName, "0"), (Headers.resetName, second)],
      some ⟨"7"⟩, .channel, 0⟩]

/-- At second 5 the global bucket demands five seconds and the channel three; the wait of a request
to the channel meets both demands. -/
theorem delay_meets_both_pending :
    BucketKey.resolve (some ⟨"7"⟩) .channel = .ok ⟨.channel, ⟨"7"⟩⟩ ∧
    ∃ wait, (ofReports (exhaustedUntil "8")).delay (some ⟨"7"⟩) .channel 5 = .ok wait ∧
      Duration.Meets wait (some ⟨5000000000⟩) ∧ Duration.Meets wait (some ⟨3000000000⟩) := by
  refine ⟨rfl, ?_⟩
  obtain ⟨global, own, wait, -, hglobal, -, hown, hdelay, hmeets, hiff, -⟩ :=
    delay_meets_iff (exhaustedUntil "8") (some ⟨"7"⟩) .channel ⟨.channel, ⟨"7"⟩⟩ 5 rfl
  have hfive : Bucket.demand global 5 = some ⟨5000000000⟩ := by
    rw [hglobal]
    decide +kernel
  have hthree : Bucket.demand own 5 = some ⟨3000000000⟩ := by
    rw [hown]
    decide +kernel
  rw [hfive] at hmeets
  rw [hthree] at hiff
  refine ⟨wait, hdelay, hmeets, hiff.2 ?_⟩
  rintro ⟨g, d, hg, -, hd, hless⟩
  have hgfive : g.delay 5 = some ⟨5000000000⟩ := by
    rw [hg] at hfive
    exact hfive
  rw [hthree] at hd
  cases hd
  exact absurd (hless _ hgfive) (by decide)

/-- A report that nothing is left of the global bucket hides the bucket of a channel. At second 50
the global reset has passed, the channel demands fifty seconds and the request is let through at
once; at second 5 the channel demands ninety-five seconds and the request waits for five. -/
theorem exhausted_global_hides_channel :
    ((ofReports (exhaustedUntil "100")).bucket (some ⟨"7"⟩) .channel = .ok (some ⟨5, 0, 100⟩) ∧
      Bucket.delay ⟨5, 0, 100⟩ 50 = some ⟨50000000000⟩ ∧
      (ofReports (exhaustedUntil "100")).delay (some ⟨"7"⟩) .channel 50 = .ok none) ∧
    (Bucket.delay ⟨5, 0, 100⟩ 5 = some ⟨95000000000⟩ ∧
      (ofReports (exhaustedUntil "100")).delay (some ⟨"7"⟩) .channel 5 =
        .ok (some ⟨5000000000⟩)) := by
  refine ⟨⟨?_, ?_, ?_⟩, ?_, ?_⟩ <;> decide +kernel

end RateLimiter

end ChatGateway
