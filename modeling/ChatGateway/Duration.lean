import ChatGateway.Binary64.Parts

/-!
Lengths of time in whole nanoseconds, waits in whole milliseconds, and the time of day as seconds
since the Unix epoch.
-/

namespace ChatGateway

structure Duration where
  nanoseconds : Nat
  deriving DecidableEq, Repr

namespace Duration

def zero : Duration := ⟨0⟩

/-- The nanoseconds nearest to a number of seconds, a half to the even one. Negative numbers and
those of `2 ^ 64` seconds and more are no durations. -/
def ofSeconds? (x : Float) : Option Duration :=
  let p := Binary64.parts x
  if !x.isFinite || p.negative && p.mantissa != 0 then none
  else
    let n := Binary64.roundHalfEven (p.numerator * 1000000000) p.denominator
    if n < UInt64.size * 1000000000 then some ⟨n⟩ else none

def seconds (d : Duration) : Nat := d.nanoseconds / 1000000000

def subseconds (d : Duration) : Nat := d.nanoseconds % 1000000000

/-- Whole milliseconds, rounded up. -/
def milliseconds (d : Duration) : Nat := (d.nanoseconds + 999999) / 1000000

/-- The milliseconds that pass while something waits for a length of time, if it has to. -/
def pause : Option Duration → Nat
  | some d => d.milliseconds
  | none => 0

end Duration

def unixSeconds (milliseconds : Int) : Float := Float.ofInt milliseconds / 1000

end ChatGateway
