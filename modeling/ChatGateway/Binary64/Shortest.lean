import ChatGateway.Binary64.Parts

/-!
The shortest decimal that reads back as a given double. For one, two, up to seventeen digits the
two neighbours of the exact value on that decimal grid are tried; the first grid with a neighbour
that reads back wins, and of two such neighbours the nearer.

Two layouts use these digits: the positional one, and the compact one, which writes numbers from
`10 ^ 16` up and below `10 ^ -5` with an exponent. Of two equally near neighbours the positional
layout takes the larger, the compact one the even.
-/

namespace ChatGateway.Binary64

/-- The number `coefficient * 10 ^ exponent`. -/
structure Decimal where
  coefficient : Nat
  exponent : Int
  deriving DecidableEq, Repr

/-- Which of two equally near neighbours is taken. -/
inductive Tie where
  | even
  | up
  deriving DecidableEq, Repr

def Tie.round : Tie → Nat → Nat → Nat
  | .even => roundHalfEven
  | .up => roundHalfUp

/-- The largest `k` with `10 ^ k ≤ num / den`, for positive numbers. -/
def floorLog10 (num den : Nat) : Int :=
  if den ≤ num then (Nat.toDigits 10 (num / den)).length - 1
  else
    let k := (Nat.toDigits 10 (den / num)).length
    if den ≤ num * Nat.pow 10 (k - 1) then -((k : Int) - 1) else -(k : Int)

/-- The neighbour of `num / den` with `count` digits that reads back as `x`. -/
def candidate? (tie : Tie) (x : Float) (num den count : Nat) : Option Decimal :=
  let exponent := floorLog10 num den - count + 1
  let scaledNum := num * Nat.pow 10 (-exponent).toNat
  let scaledDen := den * Nat.pow 10 exponent.toNat
  let nearest := tie.round scaledNum scaledDen
  let below := scaledNum / scaledDen
  let other := if nearest = below then below + 1 else below
  [nearest, other].findSome? fun c =>
    if (ofDecimal c exponent).toBits = x.toBits then some ⟨c, exponent⟩ else none

/-- The shortest decimal of a positive finite double. -/
def shortest (tie : Tie) (x : Float) : Decimal :=
  let p := parts x
  let counts := (List.range 17).map (· + 1)
  (counts.findSome? (candidate? tie x p.numerator p.denominator)).getD ⟨p.numerator, 0⟩

/-- Drops the zeros at the end of a coefficient into the exponent. -/
def Decimal.normalize (d : Decimal) : List Char × Int :=
  let zeros := ((Nat.toDigits 10 d.coefficient).reverse.takeWhile (· = '0')).length
  let digits := Nat.toDigits 10 d.coefficient
  (digits.take (digits.length - zeros), d.exponent + zeros)

/-- Digits and power of ten of the absolute value; zero has one digit. -/
def digits (tie : Tie) (x : Float) : List Char × Int :=
  if (parts x).mantissa = 0 then (['0'], 0) else (shortest tie x.abs).normalize

/-- Digits with the point after the first `point` of them; zeros fill the gaps. -/
def positional (ds : List Char) (point : Int) : List Char × List Char :=
  if point ≤ 0 then (['0'], List.replicate (-point).toNat '0' ++ ds)
  else
    let n := point.toNat
    (ds.take n ++ List.replicate (n - ds.length) '0', ds.drop n)

def sign (x : Float) : List Char := if (parts x).negative then ['-'] else []

/-- The positional layout, with a point only before a fraction. -/
def writePositional (x : Float) : List Char :=
  if x.isNaN then "NaN".toList
  else if x.isInf then sign x ++ "inf".toList
  else
    let (ds, e) := digits .up x
    let (whole, fraction) := positional ds (ds.length + e)
    sign x ++ whole ++ (if fraction = [] then [] else '.' :: fraction)

/-- The compact layout of a finite number, which always shows that it is no whole number type: it
has a point or an exponent, and an exponent always has its sign. -/
def writeCompact (x : Float) : List Char :=
  let (ds, e) := digits .even x
  let point : Int := ds.length + e
  if -5 < point ∧ point ≤ 16 then
    let (whole, fraction) := positional ds point
    sign x ++ whole ++ '.' :: (if fraction = [] then ['0'] else fraction)
  else
    let power := point - 1
    let tail := match ds with
      | [] => []
      | [d] => [d]
      | d :: more => d :: '.' :: more
    sign x ++ tail ++ 'e' :: (if power < 0 then '-' else '+') :: Nat.toDigits 10 power.natAbs

end ChatGateway.Binary64
