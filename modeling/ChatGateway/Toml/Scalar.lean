import ChatGateway.Binary64.Reading
import ChatGateway.Text.Decimal
import ChatGateway.Toml.Value

/-!
The scalar values of a configuration document: strings in their four notations, whole numbers in
four bases, real numbers, truth values, and moments.
-/

namespace ChatGateway.Toml

/-- Controls other than the tab stand nowhere in a document. -/
def isText (c : Char) : Bool := c = '\t' || 0x20 ≤ c.toNat && c.toNat ≠ 0x7F

def hexDigit? (c : Char) : Option Nat :=
  if c.isDigit then some (c.toNat - 48)
  else if 'a' ≤ c ∧ c ≤ 'f' then some (c.toNat - 87)
  else if 'A' ≤ c ∧ c ≤ 'F' then some (c.toNat - 55)
  else none

/-- The character of a code point in hexadecimal digits. -/
def codePoint? (digits : List Char) : Option Char := do
  let values ← digits.mapM hexDigit?
  let n := values.foldl (fun n d => 16 * n + d) 0
  if n < 0xD800 ∨ 0xDFFF < n ∧ n < 0x110000 then some (Char.ofNat n) else none

def shortEscape? : Char → Option Char
  | 'b' => some '\x08'
  | 't' => some '\t'
  | 'n' => some '\n'
  | 'f' => some '\x0c'
  | 'r' => some '\r'
  | '"' => some '"'
  | '\\' => some '\\'
  | _ => none

def escape? : List Char → Option (Char × List Char)
  | 'u' :: rest =>
    if rest.length < 4 then none else (codePoint? (rest.take 4)).map fun c => (c, rest.drop 4)
  | 'U' :: rest =>
    if rest.length < 8 then none else (codePoint? (rest.take 8)).map fun c => (c, rest.drop 8)
  | c :: rest => (shortEscape? c).map fun c => (c, rest)
  | [] => none

def basicString : Nat → List Char → Option (List Char × List Char)
  | _, '"' :: rest => some ([], rest)
  | fuel + 1, '\\' :: rest => do
    let (c, rest) ← escape? rest
    let (cs, rest) ← basicString fuel rest
    return (c :: cs, rest)
  | fuel + 1, c :: rest => do
    if isText c then
      let (cs, rest) ← basicString fuel rest
      return (c :: cs, rest)
    else none
  | _, _ => none

/-- A string after its opening apostrophe, on one line and taken as it is. -/
def literalString : List Char → Option (List Char × List Char)
  | [] => none
  | '\'' :: rest => some ([], rest)
  | c :: rest => do
    if isText c then
      let (cs, rest) ← literalString rest
      return (c :: cs, rest)
    else none

/-- The end of a line, and the rest. -/
def lineBreak? : List Char → Option (List Char)
  | '\n' :: rest => some rest
  | '\r' :: '\n' :: rest => some rest
  | _ => none

def isSpace (c : Char) : Bool := c = ' ' || c = '\t'

def dropSpaces (cs : List Char) : List Char := cs.dropWhile isSpace

/-- Drops the blanks after a backslash at the end of a line. -/
def dropLines : Nat → List Char → List Char
  | fuel + 1, cs =>
    match lineBreak? (dropSpaces cs) with
    | some rest => dropLines fuel rest
    | none => dropSpaces cs
  | 0, cs => cs

/-- A run of quotes in a string of several lines: three of them close it, and up to two before
those belong to it. -/
def closing? (quote : Char) (cs : List Char) : Option (List Char × List Char) :=
  let run := (cs.takeWhile (· = quote)).length
  if run < 3 then none
  else
    let own := min (run - 3) 2
    some (List.replicate own quote, cs.drop (own + 3))

/-- A string of several lines after its opening quotes. -/
def longString (quote : Char) (escapes : Bool) : Nat → List Char → Option (List Char × List Char)
  | 0, _ => none
  | fuel + 1, cs =>
    match closing? quote cs with
    | some result => some result
    | none =>
      match lineBreak? cs with
      | some rest => do
        let (cs, rest) ← longString quote escapes fuel rest
        return ('\n' :: cs, rest)
      | none =>
        match cs with
        | [] => none
        | c :: rest =>
          if c = '\\' ∧ escapes then
            match lineBreak? (dropSpaces rest) with
            | some rest => longString quote escapes fuel (dropLines rest.length rest)
            | none => do
              let (c, rest) ← escape? rest
              let (cs, rest) ← longString quote escapes fuel rest
              return (c :: cs, rest)
          else if isText c then do
            let (cs, rest) ← longString quote escapes fuel rest
            return (c :: cs, rest)
          else none

/-- Drops a line break right after the opening quotes. -/
def trimFirst (cs : List Char) : List Char := (lineBreak? cs).getD cs

/-- A string in any notation, from its first quote. -/
def string? : List Char → Option (String × List Char)
  | '"' :: '"' :: '"' :: rest =>
    (longString '"' true (rest.length + 1) (trimFirst rest)).map fun r => (String.ofList r.1, r.2)
  | '\'' :: '\'' :: '\'' :: rest =>
    (longString '\'' false (rest.length + 1) (trimFirst rest)).map fun r => (String.ofList r.1, r.2)
  | '"' :: rest => (basicString rest.length rest).map fun r => (String.ofList r.1, r.2)
  | '\'' :: rest => (literalString rest).map fun r => (String.ofList r.1, r.2)
  | _ => none

/-! ### Numbers -/

/-- Digits with single underscores between them, without the underscores. -/
def plainDigits? (isDigit : Char → Bool) : List Char → Option (List Char)
  | [] => none
  | [c] => if isDigit c then some [c] else none
  | c :: '_' :: rest => if isDigit c then (plainDigits? isDigit rest).map (c :: ·) else none
  | c :: rest => if isDigit c then (plainDigits? isDigit rest).map (c :: ·) else none

/-- A decimal number without leading zeros. -/
def decimal? (cs : List Char) : Option (List Char) :=
  match cs with
  | '0' :: _ :: _ => none
  | _ => plainDigits? Char.isDigit cs

def base? (base : Nat) (cs : List Char) : Option Nat := do
  let inBase (c : Char) := match hexDigit? c with
    | some d => d < base
    | none => false
  let digits ← plainDigits? inBase cs
  let values ← digits.mapM hexDigit?
  return values.foldl (fun n d => base * n + d) 0

def signed (cs : List Char) : Bool × List Char :=
  match cs with
  | '-' :: rest => (true, rest)
  | '+' :: rest => (false, rest)
  | _ => (false, cs)

def integer? (cs : List Char) : Option Int := do
  let n ← match cs with
    | '0' :: 'x' :: rest => (base? 16 rest).map Int.ofNat
    | '0' :: 'o' :: rest => (base? 8 rest).map Int.ofNat
    | '0' :: 'b' :: rest => (base? 2 rest).map Int.ofNat
    | _ =>
      let (negative, rest) := signed cs
      (decimal? rest).map fun ds =>
        let n : Int := Nat.ofDigitChars 10 ds 0
        if negative then -n else n
  if Int64.minValue.toInt ≤ n ∧ n ≤ Int64.maxValue.toInt then some n else none

/-- A real number: whole digits, then decimals or an exponent or both, or a word. Digits alone are
none, also when they are too many for a whole number. Beyond the range of doubles lies an infinity
below zero and nothing above. -/
def float? (cs : List Char) : Option Float := do
  let (negative, rest) := signed cs
  let magnitude ←
    if rest = "inf".toList then some Binary64.infinity
    else if rest = "nan".toList then some Binary64.nan
    else
      let (whole, tail) := rest.span fun c => c ≠ '.' && c ≠ 'e' && c ≠ 'E'
      let whole ← decimal? whole
      if tail = [] then none
      let (fraction, tail) := match tail with
        | '.' :: tail => (some (tail.takeWhile fun c => c ≠ 'e' && c ≠ 'E'),
            tail.dropWhile fun c => c ≠ 'e' && c ≠ 'E')
        | _ => (none, tail)
      let fraction ← match fraction with
        | some ds => plainDigits? Char.isDigit ds
        | none => some []
      let exponent ← match tail with
        | _ :: tail =>
          let (negative, ds) := signed tail
          (plainDigits? Char.isDigit ds).map fun ds =>
            let n : Int := Nat.ofDigitChars 10 ds 0
            if negative then -n else n
        | [] => some 0
      let x := Binary64.ofDecimal (Nat.ofDigitChars 10 (whole ++ fraction) 0)
        (exponent - fraction.length)
      if x.isInf ∧ !negative then none else some x
  return if negative then -magnitude else magnitude

/-! ### Moments -/

def twoDigits (n : Nat) : List Char := [Nat.digitChar (n / 10), Nat.digitChar (n % 10)]

/-- A number in exactly `count` digits, and the rest. -/
def fixedDigits? (count : Nat) (cs : List Char) : Option (Nat × List Char) :=
  let ds := cs.take count
  if ds.length = count ∧ ds.all Char.isDigit then some (Nat.ofDigitChars 10 ds 0, cs.drop count)
  else none

def expect? (c : Char) : List Char → Option (List Char)
  | d :: rest => if d = c then some rest else none
  | [] => none

def daysIn (year month : Nat) : Nat :=
  match month with
  | 2 => if year % 4 = 0 ∧ (year % 100 ≠ 0 ∨ year % 400 = 0) then 29 else 28
  | 4 | 6 | 9 | 11 => 30
  | _ => 31

def date? (cs : List Char) : Option (List Char × List Char) := do
  let (year, rest) ← fixedDigits? 4 cs
  let rest ← expect? '-' rest
  let (month, rest) ← fixedDigits? 2 rest
  let rest ← expect? '-' rest
  let (day, rest) ← fixedDigits? 2 rest
  if 1 ≤ month ∧ month ≤ 12 ∧ 1 ≤ day ∧ day ≤ daysIn year month then
    return (cs.take 10, rest)
  else none

/-- Nine digits at most of a fraction of a second, without zeros at the end. -/
def fractionText (ds : List Char) : List Char :=
  match ((ds.take 9).reverse.dropWhile (· = '0')).reverse with
  | [] => []
  | kept => '.' :: kept

def time? (cs : List Char) : Option (List Char × List Char) := do
  let (hour, rest) ← fixedDigits? 2 cs
  let rest ← expect? ':' rest
  let (minute, rest) ← fixedDigits? 2 rest
  let rest ← expect? ':' rest
  let (second, rest) ← fixedDigits? 2 rest
  if 23 < hour ∨ 59 < minute ∨ 60 < second then none
  else match rest with
    | '.' :: rest =>
      let (ds, rest) := rest.span Char.isDigit
      if ds = [] then none else return (cs.take 8 ++ fractionText ds, rest)
    | _ => return (cs.take 8, rest)

/-- The distance from universal time, which is less than a day. -/
def offset? (cs : List Char) : Option (List Char) :=
  match cs with
  | [] => some []
  | ['Z'] => some ['Z']
  | ['z'] => some ['Z']
  | sign :: rest => do
    let (hour, rest) ← fixedDigits? 2 rest
    let rest ← expect? ':' rest
    let (minute, rest) ← fixedDigits? 2 rest
    if (sign = '+' ∨ sign = '-') ∧ hour ≤ 23 ∧ minute ≤ 59 ∧ rest = [] then
      let sign := if hour = 0 ∧ minute = 0 then '+' else sign
      return sign :: twoDigits hour ++ ':' :: twoDigits minute
    else none

/-- A date, a time, or a date with a time and perhaps its distance from universal time. -/
def moment? (cs : List Char) : Option String :=
  match date? cs with
  | some (date, []) => some (String.ofList date)
  | some (date, mark :: rest) => do
    let (time, rest) ← time? rest
    let offset ← offset? rest
    if mark = 'T' ∨ mark = 't' ∨ mark = ' ' then
      return String.ofList (date ++ 'T' :: time ++ offset)
    else none
  | none =>
    match time? cs with
    | some (time, []) => some (String.ofList time)
    | _ => none

/-! ### Words -/

def isWordChar (c : Char) : Bool :=
  c.isAlphanum || c = '+' || c = '-' || c = '_' || c = '.' || c = ':'

/-- The characters of a value that is no string, array or table. A blank between a date and a time
belongs to it. -/
def word (cs : List Char) : List Char × List Char :=
  let (first, rest) := cs.span isWordChar
  match rest with
  | ' ' :: a :: b :: ':' :: _ =>
    if (date? first).any (fun r => r.2.isEmpty) ∧ a.isDigit ∧ b.isDigit then
      let (second, rest) := (rest.drop 1).span isWordChar
      (first ++ ' ' :: second, rest)
    else (first, rest)
  | _ => (first, rest)

def ofWord? (cs : List Char) : Option Toml :=
  if cs = "true".toList then some (.boolean true)
  else if cs = "false".toList then some (.boolean false)
  else (integer? cs).map .integer <|> (float? cs).map .float <|> (moment? cs).map .moment

end ChatGateway.Toml
