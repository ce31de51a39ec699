/-!
The exact value behind a double-precision number, and its rounding to whole units. A finite
number is `± mantissa * 2 ^ exponent`; everything that has to be exact is computed on these parts
in whole-number arithmetic.
-/

namespace ChatGateway.Binary64

/-- A finite double: sign, mantissa below `2 ^ 53`, and power of two. -/
structure Parts where
  negative : Bool
  mantissa : Nat
  exponent : Int
  deriving DecidableEq, Repr

/-- The parts of a double; meaningful when it is finite. -/
def parts (x : Float) : Parts :=
  let bits := x.toBits.toNat
  let biased : Nat := (bits >>> 52) % 0x800
  let fraction := bits % (1 <<< 52)
  { negative := 1 <<< 63 ≤ bits
    mantissa := if biased = 0 then fraction else (1 <<< 52) + fraction
    exponent := (if biased = 0 then 1 else (biased : Int)) - 1075 }

/-- Numerator of the absolute value over `denominator`. -/
def Parts.numerator (p : Parts) : Nat := p.mantissa <<< p.exponent.toNat

def Parts.denominator (p : Parts) : Nat := 1 <<< (-p.exponent).toNat

/-- The quotient rounded to the nearest whole number, a half to the even one. -/
def roundHalfEven (num den : Nat) : Nat :=
  let q := num / den
  let r := num % den
  if 2 * r < den ∨ (2 * r = den ∧ q % 2 = 0) then q else q + 1

/-- The quotient rounded to the nearest whole number, a half away from zero. -/
def roundHalfUp (num den : Nat) : Nat := (2 * num + den) / (2 * den)

def infinity : Float := Float.ofBits 0x7FF0000000000000

def nan : Float := Float.ofBits 0x7FF8000000000000

/-- The double nearest to `coefficient * 10 ^ exponent`. Exponents far outside the range of
doubles are answered without computing the power. -/
def ofDecimal (coefficient : Nat) (exponent : Int) : Float :=
  let magnitude := exponent + (Nat.toDigits 10 coefficient).length
  if coefficient = 0 ∨ magnitude < -400 then 0
  else if 400 < magnitude then infinity
  else Float.ofScientific coefficient (exponent < 0) exponent.natAbs

/-- The sixteen hexadecimal digits of the IEEE 754 encoding. -/
def hexBits (x : Float) : String :=
  let digits := Nat.toDigits 16 x.toBits.toNat
  String.ofList (List.replicate (16 - digits.length) '0' ++ digits)

end ChatGateway.Binary64
