import ChatGateway.RateLimit.Header

/-!
The rate limiter: a table of the buckets that were reported. It counts nothing itself. A bucket is
replaced as a whole by the next report about it.
-/

namespace ChatGateway

structure RateLimiter where
  buckets : Table BucketKey Bucket

/-- A response as the limiter is told of it. -/
structure Report where
  headers : Headers
  /-- The object of the request that was answered, and the kind of its bucket. -/
  object : Option Snowflake
  kind : BucketKind
  /-- Unix seconds of its receipt. -/
  time : Float

namespace RateLimiter

def empty : RateLimiter := ⟨.empty⟩

def bucket (limiter : RateLimiter) (object : Option Snowflake) (kind : BucketKind) :
    Except RateLimitError (Option Bucket) :=
  (BucketKey.resolve object kind).map limiter.buckets.get?

/-- The bucket that decides about requests of a key: the global one once it is exhausted, the
bucket of the key otherwise. -/
def deciding (limiter : RateLimiter) (key : BucketKey) : Option Bucket :=
  match limiter.buckets.get? .global with
  | some global => if global.remaining = 0 then some global else limiter.buckets.get? key
  | none => limiter.buckets.get? key

/-- How long a request has to wait at a time, if it has to. -/
def delay (limiter : RateLimiter) (object : Option Snowflake) (kind : BucketKind) (now : Float) :
    Except RateLimitError (Option Duration) :=
  (BucketKey.resolve object kind).map fun key =>
    (limiter.deciding key).bind fun bucket => bucket.delay now

def pause (limiter : RateLimiter) (key : BucketKey) (now : Int) : Nat :=
  Duration.pause ((limiter.deciding key).bind fun bucket => bucket.delay (unixSeconds now))

/-- The bucket that the headers of a response are about, if they are about any. -/
def target (headers : Headers) (object : Option Snowflake) (kind : BucketKind) :
    Except RateLimitError (Option BucketKey) :=
  if headers.has Headers.globalName then .ok (some .global)
  else if headers.has Headers.limitName then (BucketKey.resolve object kind).map some
  else .ok none

/-- Takes in the headers of a response. Headers that are not sound change nothing. -/
def observe (limiter : RateLimiter) (headers : Headers) (object : Option Snowflake)
    (kind : BucketKind) (now : Float) : Except RateLimitError RateLimiter :=
  (target headers object kind).map fun target =>
    match target, headers.bucket now with
    | some key, some bucket => ⟨limiter.buckets.insert key bucket⟩
    | _, _ => limiter

/-- Takes in a report. One that is refused changes nothing. -/
def take (limiter : RateLimiter) (report : Report) : RateLimiter :=
  match limiter.observe report.headers report.object report.kind report.time with
  | .ok limiter => limiter
  | .error _ => limiter

/-- A limiter that has taken in some reports, one after another. -/
def ofReports (reports : List Report) : RateLimiter := reports.foldl take empty

end RateLimiter

end ChatGateway
