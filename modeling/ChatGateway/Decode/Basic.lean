import ChatGateway.Decode.Error
import ChatGateway.Json.Reader

/-!
Decoders of single values. A decoder reads an outline, so that one decoder serves both JSON values
and JSON texts and meets the errors of a text in its order.
-/

namespace ChatGateway

abbrev Decoder (α : Type) := Outline → Except DecodeError α

namespace Decoder

/-- What an outline is found to be, unless its text is at fault. -/
def found : Outline → Except Flaw Found
  | .null => .ok .null
  | .bool b => .ok (.bool b)
  | .int n => .ok (.int n)
  | .float x => .ok (.float x)
  | .string s => .ok (.string s)
  | .array _ _ => .ok .sequence
  | .object _ _ => .ok .map
  | .unreadable => .error .malformed
  | .broken read _ => .error read

/-- The error of an outline that is not of the wanted type. -/
def mismatch {α : Type} (wanted : String) (outline : Outline) : Except DecodeError α :=
  match found outline with
  | .ok found => .error (.wrongType found wanted)
  | .error flaw => .error (.flawed flaw)

/-- Turns a flaw of the text into an error. -/
def lift {α : Type} : Except Flaw α → Except DecodeError α
  | .ok a => .ok a
  | .error flaw => .error (.flawed flaw)

def string : Decoder String
  | .string s => .ok s
  | o => mismatch "a string" o

def bool : Decoder Bool
  | .bool b => .ok b
  | o => mismatch "a boolean" o

/-- A whole number below a limit. -/
def natBelow (limit : Nat) (wanted : String) : Decoder Nat
  | .int n => if 0 ≤ n ∧ n < limit then .ok n.toNat else .error (.outOfRange n wanted)
  | o => mismatch wanted o

def u8 : Decoder UInt8 := fun o => (natBelow UInt8.size "u8" o).map UInt8.ofNat

def u32 : Decoder UInt32 := fun o => (natBelow UInt32.size "u32" o).map UInt32.ofNat

def u64 : Decoder UInt64 := fun o => (natBelow UInt64.size "u64" o).map UInt64.ofNat

def i64 : Decoder Int64
  | .int n =>
    if Int64.minValue.toInt ≤ n ∧ n ≤ Int64.maxValue.toInt then .ok (Int64.ofInt n)
    else .error (.outOfRange n "i64")
  | o => mismatch "i64" o

/-- `null` for nothing. -/
def option {α : Type} (decode : Decoder α) : Decoder (Option α)
  | .null => .ok none
  | o => (decode o).map some

/-- The items of an array in order. -/
def items {α : Type} (decode : Decoder α) : List Outline → Except DecodeError (List α)
  | [] => .ok []
  | item :: rest => do
    let a ← decode item
    let more ← items decode rest
    return a :: more

def list {α : Type} (decode : Decoder α) : Decoder (List α)
  | .array content ending => do
    let decoded ← items decode content
    lift (Outline.close ending)
    return decoded
  | o => mismatch "a sequence" o

/-- Any value. -/
def value : Decoder Json := fun o => lift o.value

/-- Nothing but `null`. -/
def unit : Decoder Unit
  | .null => .ok ()
  | o => mismatch "unit" o

/-- A variant without content: its name, or an object with one member of that name and no value. -/
def variant {α : Type} (known : List (String × α)) : Decoder α
  | .string name => select name
  | .object [(name, content)] none => do
    let name ← lift name
    let a ← select name
    unit content
    return a
  | .object _ _ => .error .notOneMember
  | o => mismatch "string or map" o
where
  /-- The variant of a name. -/
  select (name : String) : Except DecodeError α :=
    match known.find? fun entry => entry.1 == name with
    | some (_, a) => .ok a
    | none => .error (.unknownVariant name (known.map (·.1)))

/-- Decodes a value. -/
def ofValue {α : Type} (decode : Decoder α) (value : Json) : Except DecodeError α :=
  decode (Outline.ofJson value)

/-- Decodes a whole text, after which only blanks may follow. -/
def ofText {α : Type} (decode : Decoder α) (text : String) : Except DecodeError α := do
  let document := Document.read text
  let a ← decode document.outline
  if document.trailing then .error (.flawed .malformed) else .ok a

end Decoder

end ChatGateway
