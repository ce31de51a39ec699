import ChatGateway.Binary64.Parts
import ChatGateway.Json.Outline

/-!
Numbers in a JSON text. A number without point and exponent that fits a machine word is a whole
number. Every other number becomes a double: its digits are collected in a word of 64 bits, the
whole digits that no longer fit raise the exponent, the decimals that no longer fit are dropped,
and the word is scaled by a rounded power of ten.
-/

namespace ChatGateway.Json.Number

/-- Digits before the point: the word, how many digits did not fit it, and the rest. -/
def whole (word dropped : Nat) : List Char → Nat × Nat × List Char
  | [] => (word, dropped, [])
  | c :: rest =>
    if c.isDigit then
      let next := 10 * word + (c.toNat - 48)
      if dropped = 0 ∧ next < UInt64.size then whole next 0 rest else whole word (dropped + 1) rest
    else (word, dropped, c :: rest)

/-- Digits after the point: the word, how many digits went into it, and the rest. -/
def decimals (word kept : Nat) (full : Bool) : List Char → Nat × Nat × List Char
  | [] => (word, kept, [])
  | c :: rest =>
    if c.isDigit then
      let next := 10 * word + (c.toNat - 48)
      if full ∨ UInt64.size ≤ next then decimals word kept true rest
      else decimals next (kept + 1) false rest
    else (word, kept, c :: rest)

/-- The rounded power of ten. -/
def powerOfTen (k : Nat) : Float := Float.ofScientific 1 false k

/-- `x * 10 ^ exponent` by one product or quotient with a rounded power where the power is a
double, and none beyond the range of doubles. -/
def scale (x : Float) (exponent : Int) : Option Float :=
  if exponent.natAbs ≤ 308 then
    if 0 ≤ exponent then
      let y := x * powerOfTen exponent.natAbs
      if y.isInf then none else some y
    else some (x / powerOfTen exponent.natAbs)
  else if x == 0 then some x
  else if 0 ≤ exponent then none
  else scale (x / powerOfTen 308) (exponent + 308)
termination_by (-exponent).toNat
decreasing_by omega

/-- A whole number of a machine word; a negative zero and what fits no word are doubles. -/
def wholeNumber (negative : Bool) (word : Nat) : Outline :=
  if negative then
    if word = 0 ∨ 0x8000000000000000 < word then .float (-(Float.ofNat word))
    else .int (-(word : Int))
  else .int word

/-- A number with a point, an exponent or too many digits. -/
def real (negative : Bool) (word : Nat) (exponent : Int) : Outline :=
  match scale (Float.ofNat word) exponent with
  | none => .unreadable
  | some x => .float (if negative then -x else x)

/-- A number cut short or ill-formed; who passes over it objects to its form only. -/
def stop (flaw : Flaw) : Outline × Option (List Char) := (.broken flaw .malformed, none)

/-- The exponent, after its mark. -/
def exponent (negative : Bool) (word : Nat) (start : Int) (cs : List Char) :
    Outline × Option (List Char) :=
  let (minus, cs) := match cs with
    | '-' :: rest => (true, rest)
    | '+' :: rest => (false, rest)
    | cs => (false, cs)
  match cs with
  | [] => stop .unfinished
  | c :: _ =>
    if c.isDigit then
      let (ds, rest) := cs.span Char.isDigit
      let n : Int := Nat.ofDigitChars 10 ds 0
      (real negative word (start + if minus then -n else n), some rest)
    else stop .malformed

/-- What follows the whole digits. -/
def tail (negative : Bool) (word dropped : Nat) : List Char → Outline × Option (List Char)
  | '.' :: rest =>
    match rest with
    | [] => stop .unfinished
    | c :: _ =>
      if c.isDigit then
        let (word, kept, rest) := decimals word 0 false rest
        let start : Int := (dropped : Int) - kept
        match rest with
        | mark :: more =>
          if mark = 'e' ∨ mark = 'E' then exponent negative word start more
          else (real negative word start, some rest)
        | [] => (real negative word start, some [])
      else stop .malformed
  | c :: rest =>
    if c = 'e' ∨ c = 'E' then exponent negative word dropped rest
    else if dropped = 0 then (wholeNumber negative word, some (c :: rest))
    else (real negative word dropped, some (c :: rest))
  | [] =>
    if dropped = 0 then (wholeNumber negative word, some [])
    else (real negative word dropped, some [])

/-- A number after its sign. A leading zero stands alone. -/
def magnitude (negative : Bool) : List Char → Outline × Option (List Char)
  | [] => stop .unfinished
  | '0' :: rest =>
    match rest with
    | c :: _ => if c.isDigit then stop .malformed else tail negative 0 0 rest
    | [] => tail negative 0 0 []
  | c :: rest =>
    if c.isDigit then
      let (word, dropped, rest) := whole 0 0 (c :: rest)
      tail negative word dropped rest
    else stop .malformed

end ChatGateway.Json.Number
