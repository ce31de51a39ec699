import ChatGateway.Json.Outline

/-!
Strings in a JSON text. A string is first cut into units, which are characters and escaped UTF-16
code units; pairs of surrogates are joined afterwards. A surrogate without its partner has no
value, but the string can still be passed over.
-/

namespace ChatGateway.Json.QuotedText

/-- A piece of a string: a character, or a code unit given by four hexadecimal digits. -/
inductive Piece where
  | char (c : Char)
  | unit (code : Nat)
  deriving DecidableEq, Repr

def hexValue? (c : Char) : Option Nat :=
  if c.isDigit then some (c.toNat - 48)
  else if 'a' ≤ c ∧ c ≤ 'f' then some (c.toNat - 87)
  else if 'A' ≤ c ∧ c ≤ 'F' then some (c.toNat - 55)
  else none

def hexUnit? (a b c d : Char) : Option Nat := do
  let a ← hexValue? a
  let b ← hexValue? b
  let c ← hexValue? c
  let d ← hexValue? d
  return ((a * 16 + b) * 16 + c) * 16 + d

def escaped? : Char → Option Char
  | '"' => some '"'
  | '\\' => some '\\'
  | '/' => some '/'
  | 'b' => some '\x08'
  | 'f' => some '\x0c'
  | 'n' => some '\x0a'
  | 'r' => some '\x0d'
  | 't' => some '\x09'
  | _ => none

/-- The flaw of a code unit that has no four digits: the text must still hold four bytes. -/
def hexFlaw (cs : List Char) : Flaw :=
  if (String.ofList (cs.take 4)).utf8ByteSize < 4 then .unfinished else .malformed

def push (piece : Piece) :
    List Piece × Except Flaw (List Char) → List Piece × Except Flaw (List Char)
  | (pieces, ending) => (piece :: pieces, ending)

/-- The pieces of a string after its opening quote, and the text after its closing quote. -/
def pieces : List Char → List Piece × Except Flaw (List Char)
  | [] => ([], .error .unfinished)
  | '"' :: rest => ([], .ok rest)
  | '\\' :: 'u' :: a :: b :: c :: d :: rest =>
    match hexUnit? a b c d with
    | some code => push (.unit code) (pieces rest)
    | none => ([], .error (hexFlaw (a :: b :: c :: d :: rest)))
  | '\\' :: 'u' :: rest => ([], .error (hexFlaw rest))
  | '\\' :: c :: rest =>
    match escaped? c with
    | some c => push (.char c) (pieces rest)
    | none => ([], .error .malformed)
  | ['\\'] => ([], .error .unfinished)
  | c :: rest => if c.toNat < 0x20 then ([], .error .malformed) else push (.char c) (pieces rest)

def isHighSurrogate (code : Nat) : Bool := 0xD800 ≤ code && code < 0xDC00

def isLowSurrogate (code : Nat) : Bool := 0xDC00 ≤ code && code < 0xE000

/-- The characters of a string, if its surrogates are paired. In a string that was cut short the
partner of the last one may be missing. -/
def join (cut : Bool) : List Piece → Option (List Char)
  | [] => some []
  | .char c :: rest => (join cut rest).map (c :: ·)
  | .unit high :: .unit low :: rest =>
    if isHighSurrogate high then
      if isLowSurrogate low then
        (join cut rest).map (Char.ofNat (0x10000 + (high - 0xD800) * 0x400 + (low - 0xDC00)) :: ·)
      else none
    else if isLowSurrogate high then none
    else (join cut (.unit low :: rest)).map (Char.ofNat high :: ·)
  | .unit code :: rest =>
    if isHighSurrogate code then (if cut && rest = [] then some [] else none)
    else if isLowSurrogate code then none
    else (join cut rest).map (Char.ofNat code :: ·)

/-- The end of reading a string: the string, if it has a value, with the text after it, or the
flaws of a string that is cut short. -/
inductive Result where
  | closed (text : Option String) (rest : List Char)
  | cut (read skipped : Flaw)

/-- A string after its opening quote. -/
def read (cs : List Char) : Result :=
  match pieces cs with
  | (ps, .ok rest) => .closed ((join false ps).map String.ofList) rest
  | (ps, .error flaw) => .cut (if (join true ps).isSome then flaw else .malformed) flaw

end ChatGateway.Json.QuotedText
