import ChatGateway.Proofs.RateLimit.Reports

/-!
What a limiter makes of a response. A header of a name is absent, or it spells a value, or it is
spoilt; from this `Reports` says which bucket a response reports, and `Unsound` lists all the ways
in which it reports none. A response concerns one bucket at most, and that is replaced as a whole
or not at all (`observe_replaces_one`), so that whatever a limiter ever holds about a bucket was
said by a single response.
-/

namespace ChatGateway

namespace Headers

def Absent (headers : Headers) (name : String) : Prop :=
  ∀ header ∈ headers, lower header.1 ≠ lower name

/-- The first header of the name has the value. -/
def Holds (headers : Headers) (name value : String) : Prop :=
  ∃ before spelling after, headers = before ++ (spelling, value) :: after ∧
    lower spelling = lower name ∧ Absent before name

section Parse

variable {α : Type} (headers : Headers) (read : List Char → Option α) (name : String)

def Spells (a : α) : Prop :=
  ∃ value, headers.Holds name value ∧ readable value = true ∧ read (Text.trim value.toList) = some a

/-- The header is there and is of no use, since it is not readable text or spells nothing. -/
def Spoilt : Prop :=
  ∃ value, headers.Holds name value ∧
    (readable value = false ∨ read (Text.trim value.toList) = none)

end Parse

/-- The value of a count; one that is absent is zero in a report about the global bucket. -/
def Counts (headers : Headers) (name : String) (n : UInt32) : Prop :=
  headers.Spells readU32 name n ∨ headers.Absent name ∧ ¬ headers.Absent globalName ∧ n = 0

/-- The time of the reset, or else the time that is reached after the wait that is asked for. -/
def Resets (headers : Headers) (now reset : Float) : Prop :=
  headers.Spells Binary64.read? resetName reset ∨
    headers.Absent resetName ∧
      ∃ wait, headers.Spells Binary64.read? retryAfterName wait ∧ reset = now + wait

structure Reports (headers : Headers) (now : Float) (bucket : Bucket) : Prop where
  limit : headers.Counts limitName bucket.limit
  remaining : headers.Counts remainingName bucket.remaining
  reset : headers.Resets now bucket.resetAt
  finite : bucket.resetAt.isFinite = true

inductive Unsound (headers : Headers) (now : Float) : Prop
  | spoiltLimit (h : headers.Spoilt readU32 limitName)
  | spoiltRemaining (h : headers.Spoilt readU32 remainingName)
  | spoiltReset (h : headers.Spoilt Binary64.read? resetName)
  | noLimit (h : headers.Absent limitName) (hglobal : headers.Absent globalName)
  | noRemaining (h : headers.Absent remainingName) (hglobal : headers.Absent globalName)
  | noRetry (h : headers.Absent resetName) (hretry : headers.Absent retryAfterName)
  | spoiltRetry (h : headers.Absent resetName)
      (hretry : headers.Spoilt Binary64.read? retryAfterName)
  | infinite {reset : Float} (h : headers.Resets now reset) (hinfinite : reset.isFinite = false)

/-! ### Look-ups -/

variable {headers : Headers} {name : String}

theorem get?_eq_none_iff (name : String) : headers.get? name = none ↔ headers.Absent name := by
  simp [get?, Absent]

theorem get?_eq_some_iff {value : String} :
    headers.get? name = some value ↔ headers.Holds name value := by
  simp only [get?, Option.map_eq_some_iff, List.find?_eq_some_iff_append]
  constructor
  · rintro ⟨⟨spelling, value⟩, ⟨hname, before, after, hsplit, hbefore⟩, rfl⟩
    refine ⟨before, spelling, after, hsplit, by simpa using hname, fun header hmem => ?_⟩
    simpa using hbefore header hmem
  · rintro ⟨before, spelling, after, hsplit, hname, hbefore⟩
    refine ⟨(spelling, value), ⟨by simpa using hname, before, after, hsplit, ?_⟩, rfl⟩
    intro header hmem
    simpa using hbefore header hmem

theorem has_eq_true_iff : headers.has name = true ↔ ¬ headers.Absent name := by
  rw [has, ← get?_eq_none_iff, Option.isSome_iff_ne_none]

section Parse

variable {α : Type} {read : List Char → Option α}

theorem parse_eq_none_iff (read : List Char → Option α) (name : String) :
    headers.parse read name = none ↔ headers.Absent name := by
  rw [parse, Option.map_eq_none_iff, get?_eq_none_iff]

theorem parse_eq_spelled_iff {a : α} :
    headers.parse read name = some (some a) ↔ headers.Spells read name a := by
  simp [parse, Spells, get?_eq_some_iff]

theorem parse_eq_spoilt_iff :
    headers.parse read name = some none ↔ headers.Spoilt read name := by
  simp only [parse, Spoilt, Option.map_eq_some_iff, get?_eq_some_iff]
  refine exists_congr fun value => and_congr_right fun _ => ?_
  cases readable value <;> simp

end Parse

theorem count_eq_some_iff {n : UInt32} :
    headers.count name = some n ↔ headers.Counts name n := by
  rw [count, Counts, ← parse_eq_none_iff readU32, ← parse_eq_spelled_iff, ← has_eq_true_iff]
  cases headers.parse readU32 name with
  | none => cases headers.has globalName <;> simp [eq_comm]
  | some value => simp

theorem count_eq_none_iff :
    headers.count name = none ↔
      headers.Spoilt readU32 name ∨ headers.Absent name ∧ headers.Absent globalName := by
  rw [count, ← parse_eq_none_iff readU32, ← parse_eq_spoilt_iff, ← get?_eq_none_iff globalName,
    has]
  cases headers.parse readU32 name with
  | none => cases headers.get? globalName <;> simp
  | some value => simp

theorem resetAt_eq_some_iff {now reset : Float} :
    headers.resetAt now = some reset ↔ headers.Resets now reset := by
  rw [resetAt, Resets, ← parse_eq_none_iff Binary64.read?, ← parse_eq_spelled_iff]
  simp only [← parse_eq_spelled_iff]
  cases headers.parse Binary64.read? resetName with
  | none => simp [Option.map_eq_some_iff, Option.join_eq_some_iff, eq_comm (a := reset)]
  | some value => simp

theorem resetAt_eq_none_iff {now : Float} :
    headers.resetAt now = none ↔
      headers.Spoilt Binary64.read? resetName ∨ headers.Absent resetName ∧
        (headers.Absent retryAfterName ∨ headers.Spoilt Binary64.read? retryAfterName) := by
  rw [resetAt, ← parse_eq_none_iff Binary64.read? resetName,
    ← parse_eq_none_iff Binary64.read? retryAfterName, ← parse_eq_spoilt_iff,
    ← parse_eq_spoilt_iff]
  cases headers.parse Binary64.read? resetName with
  | none => simp [Option.join_eq_none_iff]
  | some value => simp

/-- The bucket that is computed from the headers is the one that they report. -/
theorem bucket_eq_some_iff {now : Float} {bucket : Bucket} :
    headers.bucket now = some bucket ↔ headers.Reports now bucket := by
  obtain ⟨limit, remaining, resetAt⟩ := bucket
  simp only [Headers.bucket, Option.bind_eq_bind, Option.bind_eq_some_iff,
    Option.ite_none_right_eq_some, Option.some.injEq, Bucket.mk.injEq, count_eq_some_iff,
    resetAt_eq_some_iff]
  constructor
  · rintro ⟨_, hlimit, _, hremaining, _, hreset, hfinite, rfl, rfl, rfl⟩
    exact ⟨hlimit, hremaining, hreset, hfinite⟩
  · rintro ⟨hlimit, hremaining, hreset, hfinite⟩
    exact ⟨_, hlimit, _, hremaining, _, hreset, hfinite, rfl, rfl, rfl⟩

/-- The headers report no bucket exactly for one of the causes that are listed. -/
theorem bucket_eq_none_iff {now : Float} : headers.bucket now = none ↔ headers.Unsound now := by
  constructor
  · intro hnone
    cases hlimit : headers.count limitName with
    | none =>
        rcases count_eq_none_iff.1 hlimit with hspoilt | ⟨habsent, hglobal⟩
        · exact .spoiltLimit hspoilt
        · exact .noLimit habsent hglobal
    | some limit =>
        cases hremaining : headers.count remainingName with
        | none =>
            rcases count_eq_none_iff.1 hremaining with hspoilt | ⟨habsent, hglobal⟩
            · exact .spoiltRemaining hspoilt
            · exact .noRemaining habsent hglobal
        | some remaining =>
            cases hreset : headers.resetAt now with
            | none =>
                rcases resetAt_eq_none_iff.1 hreset with hspoilt | ⟨habsent, hretry | hretry⟩
                · exact .spoiltReset hspoilt
                · exact .noRetry habsent hretry
                · exact .spoiltRetry habsent hretry
            | some reset =>
                refine .infinite (resetAt_eq_some_iff.1 hreset) ?_
                simpa [Headers.bucket, hlimit, hremaining, hreset] using hnone
  · -- a bucket that is reported nevertheless contradicts each of the causes
    intro hunsound
    rw [Option.eq_none_iff_forall_ne_some]
    intro bucket hbucket
    simp only [Headers.bucket, Option.bind_eq_bind, Option.bind_eq_some_iff,
      Option.ite_none_right_eq_some] at hbucket
    obtain ⟨limit, hlimit, remaining, hremaining, reset, hreset, hfinite, -⟩ := hbucket
    cases hunsound with
    | spoiltLimit h => simp [count_eq_none_iff.2 (.inl h)] at hlimit
    | spoiltRemaining h => simp [count_eq_none_iff.2 (.inl h)] at hremaining
    | spoiltReset h => simp [resetAt_eq_none_iff.2 (.inl h)] at hreset
    | noLimit h hglobal => simp [count_eq_none_iff.2 (.inr ⟨h, hglobal⟩)] at hlimit
    | noRemaining h hglobal => simp [count_eq_none_iff.2 (.inr ⟨h, hglobal⟩)] at hremaining
    | noRetry h hretry => simp [resetAt_eq_none_iff.2 (.inr ⟨h, .inl hretry⟩)] at hreset
    | spoiltRetry h hretry => simp [resetAt_eq_none_iff.2 (.inr ⟨h, .inr hretry⟩)] at hreset
    | infinite h hinfinite =>
        rw [resetAt_eq_some_iff.2 h] at hreset
        cases hreset
        simp [hinfinite] at hfinite

end Headers

namespace BucketKey

theorem resolve_eq_error_iff {object : Option Snowflake} {kind : BucketKind} {e : RateLimitError} :
    resolve object kind = .error e ↔
      kind ≠ .global ∧ object = none ∧ e = .missingObject kind := by
  cases kind <;> cases object <;> simp [resolve, eq_comm]

end BucketKey

namespace RateLimiter

variable {headers : Headers} {object : Option Snowflake} {kind : BucketKind}

/-- The bucket that a response is about: the global one if the response says so, whatever was asked
for, and else the one of the request, provided that the response has a limit. -/
inductive Concerns (headers : Headers) (object : Option Snowflake) (kind : BucketKind) :
    BucketKey → Prop
  | global (hglobal : ¬ headers.Absent Headers.globalName) : Concerns headers object kind .global
  | own {key : BucketKey} (hglobal : headers.Absent Headers.globalName)
      (hlimit : ¬ headers.Absent Headers.limitName)
      (hkey : BucketKey.resolve object kind = .ok key) : Concerns headers object kind key

structure Refused (headers : Headers) (object : Option Snowflake) (kind : BucketKind) : Prop where
  global : headers.Absent Headers.globalName
  limit : ¬ headers.Absent Headers.limitName
  kind : kind ≠ .global
  object : object = none

def Replaces (limiter after : RateLimiter) (key : BucketKey) (bucket : Bucket) : Prop :=
  ∀ other, after.buckets.get? other =
    if other = key then some bucket else limiter.buckets.get? other

/-- A response is about one bucket, or about none, unless it is refused. -/
theorem concerns_cases (headers : Headers) (object : Option Snowflake) (kind : BucketKind) :
    Refused headers object kind ∨
      headers.Absent Headers.globalName ∧ headers.Absent Headers.limitName ∨
      ∃ key, Concerns headers object kind key := by
  by_cases hglobal : headers.Absent Headers.globalName
  · by_cases hlimit : headers.Absent Headers.limitName
    · exact .inr (.inl ⟨hglobal, hlimit⟩)
    · cases hkey : BucketKey.resolve object kind with
      | ok key => exact .inr (.inr ⟨key, .own hglobal hlimit hkey⟩)
      | error e =>
          obtain ⟨hkind, hobject, -⟩ := BucketKey.resolve_eq_error_iff.1 hkey
          exact .inl ⟨hglobal, hlimit, hkind, hobject⟩
  · exact .inr (.inr ⟨.global, .global hglobal⟩)

theorem target_of_refused (h : Refused headers object kind) :
    target headers object kind = .error (.missingObject kind) := by
  have hkey := BucketKey.resolve_eq_error_iff.2 ⟨h.kind, h.object, rfl⟩
  simp [target, Headers.has_eq_true_iff, h.global, h.limit, hkey, Except.map]

theorem target_of_absent (hglobal : headers.Absent Headers.globalName)
    (hlimit : headers.Absent Headers.limitName) : target headers object kind = .ok none := by
  simp [target, Headers.has_eq_true_iff, hglobal, hlimit]

theorem target_of_concerns {key : BucketKey} (h : Concerns headers object kind key) :
    target headers object kind = .ok (some key) := by
  cases h with
  | global hglobal => simp [target, Headers.has_eq_true_iff, hglobal]
  | own hglobal hlimit hkey =>
      simp [target, Headers.has_eq_true_iff, hglobal, hlimit, hkey, Except.map]

theorem concerns_of_target {key : BucketKey} (h : target headers object kind = .ok (some key)) :
    Concerns headers object kind key := by
  rcases concerns_cases headers object kind with hrefused | ⟨hglobal, hlimit⟩ | ⟨other, hother⟩
  · simp [target_of_refused hrefused] at h
  · simp [target_of_absent hglobal hlimit] at h
  · rw [target_of_concerns hother] at h
    cases h
    exact hother

/-- A response is about one bucket at most. -/
theorem Concerns.unique {key other : BucketKey} (h : Concerns headers object kind key)
    (hother : Concerns headers object kind other) : other = key := by
  have htarget := (target_of_concerns hother).symm.trans (target_of_concerns h)
  simpa using htarget

/-! ### One response -/

variable (limiter : RateLimiter) {now : Float}

theorem observe_of_refused (h : Refused headers object kind) :
    limiter.observe headers object kind now = .error (.missingObject kind) := by
  simp [observe, target_of_refused h, Except.map]

theorem observe_of_concerns {key : BucketKey} (h : Concerns headers object kind key) :
    limiter.observe headers object kind now =
      .ok (match headers.bucket now with
        | some bucket => ⟨limiter.buckets.insert key bucket⟩
        | none => limiter) := by
  simp only [observe, target_of_concerns h, Except.map]
  cases headers.bucket now <;> rfl

theorem observe_of_absent (hglobal : headers.Absent Headers.globalName)
    (hlimit : headers.Absent Headers.limitName) :
    limiter.observe headers object kind now = .ok limiter := by
  simp [observe, target_of_absent hglobal hlimit, Except.map]

/-- Only a response about a bucket that cannot be named is an error. -/
theorem observe_eq_error_iff {e : RateLimitError} :
    limiter.observe headers object kind now = .error e ↔
      Refused headers object kind ∧ e = .missingObject kind := by
  constructor
  · intro herror
    rcases concerns_cases headers object kind with hrefused | ⟨hglobal, hlimit⟩ | ⟨key, hkey⟩
    · rw [observe_of_refused limiter hrefused] at herror
      cases herror
      exact ⟨hrefused, rfl⟩
    · simp [observe_of_absent limiter hglobal hlimit] at herror
    · simp [observe_of_concerns limiter hkey] at herror
  · rintro ⟨hrefused, rfl⟩
    exact observe_of_refused limiter hrefused

/-- A report that is not refused leaves behind what observing it answers. -/
theorem observe_eq_take (haccepted : ¬ Refused headers object kind) :
    limiter.observe headers object kind now = .ok (limiter.take ⟨headers, object, kind, now⟩) := by
  simp only [take]
  cases hobserve : limiter.observe headers object kind now with
  | ok after => rfl
  | error e => exact absurd ((observe_eq_error_iff limiter).1 hobserve).1 haccepted

theorem take_of_refused (h : Refused headers object kind) :
    limiter.take ⟨headers, object, kind, now⟩ = limiter := by
  simp [take, observe_of_refused limiter h]

theorem take_of_absent (hglobal : headers.Absent Headers.globalName)
    (hlimit : headers.Absent Headers.limitName) :
    limiter.take ⟨headers, object, kind, now⟩ = limiter := by
  simp [take, observe_of_absent limiter hglobal hlimit]

/-- An unsound report changes nothing, whatever it is about. -/
theorem take_of_unsound (hunsound : headers.Unsound now) :
    limiter.take ⟨headers, object, kind, now⟩ = limiter := by
  have hbucket := Headers.bucket_eq_none_iff.2 hunsound
  rcases concerns_cases headers object kind with hrefused | ⟨hglobal, hlimit⟩ | ⟨key, hkey⟩
  · exact take_of_refused limiter hrefused
  · exact take_of_absent limiter hglobal hlimit
  · simp [take, observe_of_concerns limiter hkey, hbucket]

/-- A sound report replaces the bucket that it is about. -/
theorem replaces_take {key : BucketKey} (h : Concerns headers object kind key) {bucket : Bucket}
    (hreports : headers.Reports now bucket) :
    limiter.Replaces (limiter.take ⟨headers, object, kind, now⟩) key bucket := by
  have hbucket := Headers.bucket_eq_some_iff.2 hreports
  intro other
  simp [take, observe_of_concerns limiter h, hbucket, Table.get?_insert]

/-! ### Histories -/

theorem about_eq_some_iff {report : Report} {key : BucketKey} {bucket : Bucket} :
    report.about key = some bucket ↔
      Concerns report.headers report.object report.kind key ∧
        report.headers.Reports report.time bucket := by
  unfold Report.about
  constructor
  · intro habout
    split at habout
    next target htarget =>
      obtain ⟨rfl, hbucket⟩ := Option.ite_none_right_eq_some.1 habout
      exact ⟨concerns_of_target htarget, Headers.bucket_eq_some_iff.1 hbucket⟩
    next => cases habout
  · rintro ⟨hkey, hreports⟩
    simp [target_of_concerns hkey, Headers.bucket_eq_some_iff.2 hreports]

theorem about_eq_none_iff {report : Report} {key : BucketKey} :
    report.about key = none ↔
      (Concerns report.headers report.object report.kind key →
        report.headers.Unsound report.time) := by
  constructor
  · intro hnone hkey
    rw [← Headers.bucket_eq_none_iff, Option.eq_none_iff_forall_ne_some]
    intro bucket hbucket
    have habout := about_eq_some_iff.2 ⟨hkey, Headers.bucket_eq_some_iff.1 hbucket⟩
    simp [hnone] at habout
  · intro hunsound
    rw [Option.eq_none_iff_forall_ne_some]
    intro bucket habout
    obtain ⟨hkey, hreports⟩ := about_eq_some_iff.1 habout
    have hnone := Headers.bucket_eq_none_iff.2 (hunsound hkey)
    simp [Headers.bucket_eq_some_iff.2 hreports] at hnone

/-- What is known last about a bucket was said by one report, and no later report said anything
sound about it. -/
theorem lastAbout_eq_some_iff {reports : List Report} {key : BucketKey} {bucket : Bucket} :
    lastAbout reports key = some bucket ↔
      ∃ before report after, reports = before ++ report :: after ∧
        Concerns report.headers report.object report.kind key ∧
        report.headers.Reports report.time bucket ∧
        ∀ later ∈ after, Concerns later.headers later.object later.kind key →
          later.headers.Unsound later.time := by
  simp only [lastAbout, List.findSome?_eq_some_iff, about_eq_some_iff, about_eq_none_iff]
  constructor
  · rintro ⟨after, report, before, hsplit, ⟨hkey, hreports⟩, hlater⟩
    refine ⟨before.reverse, report, after.reverse, ?_, hkey, hreports, ?_⟩
    · simpa using congrArg List.reverse hsplit
    · intro later hmem
      exact hlater later (List.mem_reverse.1 hmem)
  · rintro ⟨before, report, after, rfl, hkey, hreports, hlater⟩
    refine ⟨after.reverse, report, before.reverse, by simp, ⟨hkey, hreports⟩, ?_⟩
    intro later hmem
    exact hlater later (List.mem_reverse.1 hmem)

/-- Observing a response fails exactly if it has a limit, is not said to be about the global bucket
and answers a request of a kind with one bucket for each object that named no object. Then the table
stays as it is, and so it does if the response has neither header or if it is unsound in one of the
ways that are listed. Otherwise exactly the bucket that the response is about changes, and becomes
the bucket that the response reports. After any history of responses a bucket is there exactly if
one of them reported it with all its parts and nothing sound was said about it later, and its reset
is finite. -/
theorem observe_replaces_one (limiter : RateLimiter) (headers : Headers)
    (object : Option Snowflake) (kind : BucketKind) (now : Float) (reports : List Report) :
    let observed := limiter.observe headers object kind now
    let after := limiter.take ⟨headers, object, kind, now⟩
    let bare := headers.Absent Headers.globalName ∧ headers.Absent Headers.limitName
    (∀ e, observed = .error e ↔ Refused headers object kind ∧ e = .missingObject kind) ∧
    (¬ Refused headers object kind → observed = .ok after) ∧
    (Refused headers object kind ∨ bare ∨ headers.Unsound now → after = limiter) ∧
    (Refused headers object kind ∨ bare ∨ ∃ key, Concerns headers object kind key ∧
      (∀ other, Concerns headers object kind other → other = key) ∧
      (headers.Unsound now ∨ ∃ bucket, headers.Reports now bucket ∧
        limiter.Replaces after key bucket)) ∧
    ∀ key bucket,
      ((ofReports reports).buckets.get? key = some bucket → bucket.resetAt.isFinite = true) ∧
      ((ofReports reports).buckets.get? key = some bucket ↔
        ∃ before report later, reports = before ++ report :: later ∧
          Concerns report.headers report.object report.kind key ∧
          report.headers.Reports report.time bucket ∧
          ∀ other ∈ later, Concerns other.headers other.object other.kind key →
            other.headers.Unsound other.time) := by
  intro observed after bare
  refine ⟨fun e => observe_eq_error_iff limiter, observe_eq_take limiter, ?_, ?_, ?_⟩
  · rintro (hrefused | ⟨hglobal, hlimit⟩ | hunsound)
    · exact take_of_refused limiter hrefused
    · exact take_of_absent limiter hglobal hlimit
    · exact take_of_unsound limiter hunsound
  · rcases concerns_cases headers object kind with hrefused | habsent | ⟨key, hkey⟩
    · exact .inl hrefused
    · exact .inr (.inl habsent)
    · refine .inr (.inr ⟨key, hkey, fun other => hkey.unique, ?_⟩)
      cases hbucket : headers.bucket now with
      | none => exact .inl (Headers.bucket_eq_none_iff.1 hbucket)
      | some bucket =>
          have hreports := Headers.bucket_eq_some_iff.1 hbucket
          exact .inr ⟨bucket, hreports, replaces_take limiter hkey hreports⟩
  · intro key bucket
    rw [get?_ofReports, lastAbout_eq_some_iff]
    refine ⟨?_, Iff.rfl⟩
    rintro ⟨before, report, later, rfl, -, hreports, -⟩
    exact hreports.finite

end RateLimiter

end ChatGateway
