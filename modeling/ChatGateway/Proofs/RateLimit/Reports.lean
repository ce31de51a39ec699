import ChatGateway.RateLimit.Limiter
import Mathlib.Data.List.Induction

/-!
What a limiter knows after a history of reports. The table of a limiter is a function of the
reports it took in: under each key it holds the last sound report about that bucket, and nothing
else ever gets into it or out of it.
-/

namespace ChatGateway

/-- What a report says about the bucket of a key, when it is about that bucket and sound. -/
def Report.about (report : Report) (key : BucketKey) : Option Bucket :=
  match RateLimiter.target report.headers report.object report.kind with
  | .ok (some target) => if target = key then report.headers.bucket report.time else none
  | _ => none

def lastAbout (reports : List Report) (key : BucketKey) : Option Bucket :=
  reports.reverse.findSome? fun report => report.about key

theorem lastAbout_concat (reports : List Report) (report : Report) (key : BucketKey) :
    lastAbout (reports ++ [report]) key = (report.about key).or (lastAbout reports key) := by
  unfold lastAbout
  rw [List.reverse_append, List.reverse_singleton, List.singleton_append, List.findSome?_cons]
  cases report.about key <;> rfl

namespace RateLimiter

/-- One report changes the bucket that it is about, and no other one. -/
theorem get?_take (limiter : RateLimiter) (report : Report) (key : BucketKey) :
    (limiter.take report).buckets.get? key =
      (report.about key).or (limiter.buckets.get? key) := by
  unfold take observe Report.about
  rcases target report.headers report.object report.kind with e | _ | target
  · rfl
  · rfl
  · simp only [Except.map]
    cases hbucket : report.headers.bucket report.time with
    | none => simp
    | some bucket =>
        simp only [Table.get?_insert, eq_comm (a := key)]
        split <;> rfl

/-- A limiter holds the last report about each bucket. -/
theorem get?_ofReports (reports : List Report) (key : BucketKey) :
    (ofReports reports).buckets.get? key = lastAbout reports key := by
  induction reports using List.reverseRecOn with
  | nil => rfl
  | append_singleton reports report ih =>
      have hlast : ofReports (reports ++ [report]) = (ofReports reports).take report := by
        rw [ofReports, List.foldl_append]
        rfl
      rw [hlast, get?_take, ih, lastAbout_concat]

/-- Looking up a bucket answers the last report about it. -/
theorem bucket_ofReports (reports : List Report) {object : Option Snowflake} {kind : BucketKind}
    {key : BucketKey} (hkey : BucketKey.resolve object kind = .ok key) :
    (ofReports reports).bucket object kind = .ok (lastAbout reports key) := by
  rw [bucket, hkey, ← get?_ofReports]
  rfl

end RateLimiter

end ChatGateway
