/-!
Names of settings. Capitals and small letters are the same in them. A name can be followed by a path
into what it names: the names of parts after dots, and the places of items in brackets. A text that
is no name with a path is a name as a whole.
-/

namespace ChatGateway.SettingName

/-- The small form of a letter. Of all letters beyond ASCII only the sign of the kelvin has a small
form within it, so that no other one is part of the name of a field. -/
def lower (c : Char) : Char := if c = '\u212a' then 'k' else c.toLower

def lowercase (name : String) : String := String.ofList (name.toList.map lower)

/-- The characters of a name that a path follows. -/
def isNameChar (c : Char) : Bool := c.isAlphanum || c = ' ' || c = '_' || c = '-'

def isSpace (c : Char) : Bool := c = ' ' || c = '\t'

/-- Takes the place of an item off, a word of 64 bits that may count from the end. -/
def place? (cs : List Char) : Option (List Char) :=
  let (negative, rest) := match cs.dropWhile isSpace with
    | '-' :: rest => (true, rest)
    | rest => (false, rest)
  let (digits, rest) := rest.span Char.isDigit
  let n := Nat.ofDigitChars 10 digits 0
  if digits = [] ∨ 0x8000000000000000 < n ∨ (n = 0x8000000000000000 ∧ !negative) then none
  else some (rest.dropWhile isSpace)

/-- Takes the first step of a path off. -/
def step? : List Char → Option (List Char)
  | '.' :: rest =>
    let (name, rest) := rest.span isNameChar
    if name = [] then none else some rest
  | '[' :: rest =>
    match place? rest with
    | some (']' :: rest) => some rest
    | _ => none
  | _ => none

/-- Whether some characters are a path; `fuel` bounds its steps. -/
def isPath : Nat → List Char → Bool
  | _, [] => true
  | 0, _ => false
  | fuel + 1, cs =>
    match step? cs with
    | some rest => isPath fuel rest
    | none => false

/-- The name in small letters, and whether a path into what it names follows it. -/
def split (text : String) : String × Bool :=
  let (name, path) := text.toList.span isNameChar
  if name ≠ [] ∧ path ≠ [] ∧ isPath path.length path then
    (lowercase (String.ofList name), true)
  else (lowercase text, false)

example :
    split "Intents[ 0 ].a" = ("intents", true) ∧ split "Intents[0" = ("intents[0", false) := by
  decide +kernel

end ChatGateway.SettingName
