import ChatGateway.Binary64.Reading
import ChatGateway.RateLimit.Bucket
import ChatGateway.Text.Blank

/-!
What the headers of a response say about a bucket. Names of headers ignore case and the first one
of a name counts. A header may be absent, readable, or present and of no use, and the last two are
not treated alike: only a header that is absent has a substitute.
-/

namespace ChatGateway

abbrev Headers := List (String × String)

namespace Headers

def globalName : String := "x-ratelimit-global"
def limitName : String := "x-ratelimit-limit"
def remainingName : String := "x-ratelimit-remaining"
def resetName : String := "x-ratelimit-reset"
def retryAfterName : String := "retry-after"

def lower (name : String) : List Char := name.toList.map Char.toLower

def get? (headers : Headers) (name : String) : Option String :=
  (headers.find? fun header => lower header.1 == lower name).map (·.2)

def has (headers : Headers) (name : String) : Bool := (headers.get? name).isSome

/-- Text can be read when all its characters are visible ASCII characters, spaces or tabs. -/
def readable (value : String) : Bool :=
  value.toList.all fun c => 0x20 ≤ c.toNat && c.toNat < 0x7F || c = '\t'

/-- What a header spells: nothing when it is absent, `some none` when it spells nothing. -/
def parse {α : Type} (headers : Headers) (read : List Char → Option α) (name : String) :
    Option (Option α) :=
  (headers.get? name).map fun value =>
    if readable value then read (Text.trim value.toList) else none

def readU32 (cs : List Char) : Option UInt32 :=
  (Decimal.readBelow? UInt32.size cs).map UInt32.ofNat

def count (headers : Headers) (name : String) : Option UInt32 :=
  match headers.parse readU32 name with
  | some value => value
  | none => if headers.has globalName then some 0 else none

/-- When the count starts anew: the time that is told, or else the time until it. -/
def resetAt (headers : Headers) (now : Float) : Option Float :=
  match headers.parse Binary64.read? resetName with
  | some value => value
  | none => (headers.parse Binary64.read? retryAfterName).join.map fun wait => now + wait

/-- The bucket that a response reports, if its headers are sound. -/
def bucket (headers : Headers) (now : Float) : Option Bucket := do
  let limit ← headers.count limitName
  let remaining ← headers.count remainingName
  let resetAt ← headers.resetAt now
  if resetAt.isFinite then some { limit, remaining, resetAt } else none

end Headers

end ChatGateway
