import ChatGateway.Duration
import ChatGateway.Snowflake
import ChatGateway.Text.Quoted

/-!
Buckets of requests. The service counts requests in buckets: one for everything, and one for each
channel, guild or webhook. A bucket holds what the service reported last; requests wait only while
that report leaves none of them and its reset lies ahead.
-/

namespace ChatGateway

inductive BucketKind where
  | global
  | channel
  | guild
  | webhook
  deriving DecidableEq, Repr

inductive RateLimitError where
  | unknownBucket (text : String)
  /-- The kind has one bucket for each object, and no object was named. -/
  | missingObject (kind : BucketKind)
  deriving DecidableEq, Repr

namespace BucketKind

def all : List BucketKind := [.global, .channel, .guild, .webhook]

def name : BucketKind → String
  | .global => "GLOBAL"
  | .channel => "CHANNEL"
  | .guild => "GUILD"
  | .webhook => "WEBHOOK"

def label : BucketKind → String
  | .global => "Global"
  | .channel => "Channel"
  | .guild => "Guild"
  | .webhook => "Webhook"

def rank : BucketKind → Nat
  | .global => 0
  | .channel => 1
  | .guild => 2
  | .webhook => 3

/-- Reads a kind by its name; the case of ASCII letters does not matter. -/
def ofText (text : String) : Except RateLimitError BucketKind :=
  match all.find? fun kind => kind.name.toList == text.toList.map Char.toUpper with
  | some kind => .ok kind
  | none => .error (.unknownBucket text)

theorem rank_injective {a b : BucketKind} (h : a.rank = b.rank) : a = b := by
  cases a <;> cases b <;> first | rfl | cases h

end BucketKind

def RateLimitError.message : RateLimitError → String
  | .unknownBucket text => "unknown rate limit bucket kind: " ++ Text.Quoted.quote text
  | .missingObject kind => "the " ++ kind.name ++ " bucket is per object, an object id is required"

/-- What tells a bucket from the others: its kind and, for all kinds but the global one, an object.
-/
structure BucketKey where
  kind : BucketKind
  object : Snowflake
  deriving DecidableEq, Repr

namespace BucketKey

instance : Ord BucketKey := ⟨compareLex (compareOn fun k => k.kind.rank) (compareOn object)⟩

instance : Std.TransOrd BucketKey :=
  inferInstanceAs (Std.TransCmp (compareLex (compareOn fun k : BucketKey => k.kind.rank)
    (compareOn object)))

instance : Std.LawfulEqOrd BucketKey where
  eq_of_compare {a b} h := by
    obtain ⟨hk, ho⟩ := compareLex_eq_eq.1 h
    have kinds : a.kind = b.kind := BucketKind.rank_injective (eq_of_compareOn hk)
    have objects : a.object = b.object := eq_of_compareOn ho
    cases a
    cases b
    simp_all

/-- The global bucket, which belongs to no object. -/
def global : BucketKey := ⟨.global, ⟨""⟩⟩

def resolve (object : Option Snowflake) (kind : BucketKind) : Except RateLimitError BucketKey :=
  match kind, object with
  | .global, _ => .ok global
  | kind, some id => .ok ⟨kind, id⟩
  | kind, none => .error (.missingObject kind)

end BucketKey

/-- The last report about a bucket. -/
structure Bucket where
  limit : UInt32
  remaining : UInt32
  /-- Unix seconds at which the count starts anew. -/
  resetAt : Float
  deriving DecidableEq, Repr

/-- How long a request has to wait at a time. A reset too far ahead to be a duration is not waited
for. -/
def Bucket.delay (b : Bucket) (now : Float) : Option Duration :=
  if 0 < b.remaining then none
  else
    let left := b.resetAt - now
    if left ≤ 0 then none else Duration.ofSeconds? left

end ChatGateway
