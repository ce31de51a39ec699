import ChatGateway.Binary64.Parts

/-!
Reading a double from text: an optional sign, then either one of the words `inf`, `infinity` and
`nan` in any case, or digits with an optional point and an optional exponent, with at least one
digit before the exponent. The value is the double nearest to the decimal that is written.
-/

namespace ChatGateway.Binary64

/-- An exponent that is the whole rest of the text: nothing, or a mark, a sign and digits. -/
def readExponent? : List Char → Option Int
  | [] => some 0
  | mark :: rest =>
    if mark ≠ 'e' ∧ mark ≠ 'E' then none
    else
      let (negative, digits) := match rest with
        | '-' :: ds => (true, ds)
        | '+' :: ds => (false, ds)
        | ds => (false, ds)
      if digits ≠ [] ∧ digits.all Char.isDigit then
        let n := Nat.ofDigitChars 10 digits 0
        some (if negative then -(n : Int) else n)
      else none

def readMagnitude? (cs : List Char) : Option Float :=
  let word := cs.map Char.toLower
  if word = "inf".toList ∨ word = "infinity".toList then some infinity
  else if word = "nan".toList then some nan
  else
    let (whole, rest) := cs.span Char.isDigit
    let (fraction, rest) := match rest with
      | '.' :: rest => rest.span Char.isDigit
      | rest => ([], rest)
    if whole = [] ∧ fraction = [] then none
    else
      (readExponent? rest).map fun e =>
        ofDecimal (Nat.ofDigitChars 10 (whole ++ fraction) 0) (e - fraction.length)

def read? : List Char → Option Float
  | '-' :: rest => (readMagnitude? rest).map fun x => -x
  | '+' :: rest => readMagnitude? rest
  | cs => readMagnitude? cs

end ChatGateway.Binary64
