import ChatGateway.Binary64.Shortest
import ChatGateway.Json.Outline
import ChatGateway.Text.Quoted

/-!
Why a JSON value or text does not decode to what is wanted. A value that does not decode is
reported by a sentence, a text only by a category.
-/

namespace ChatGateway

/-- The kind of JSON that stands where something else was wanted. -/
inductive Found where
  | null
  | bool (b : Bool)
  | int (n : Int)
  | float (x : Float)
  | string (s : String)
  | sequence
  | map

inductive DecodeError where
  /-- The text itself is at fault. -/
  | flawed (flaw : Flaw)
  | wrongType (found : Found) (wanted : String)
  /-- A whole number outside the range of the wanted type. -/
  | outOfRange (n : Int) (wanted : String)
  | missingField (name : String)
  | duplicateField (name : String)
  /-- An array that ends before a field that has to be there. -/
  | tooShort (length : Nat) (wanted : String) (fields : Nat)
  | tooLong (length fields : Nat)
  /-- As `tooLong`, inside an object whose members were collected first. -/
  | tooLongCollected (length fields : Nat)
  | unknownVariant (name : String) (known : List String)
  /-- A variant is an object with exactly one member. -/
  | notOneMember
  /-- A number in range without a meaning. -/
  | meaningless (what : String) (n : Nat)

/-- The classes of errors of a JSON text. -/
inductive TextFault where
  | syntaxFault
  | unfinished
  | data
  deriving DecidableEq, Repr

def TextFault.label : TextFault → String
  | .syntaxFault => "Syntax"
  | .unfinished => "Eof"
  | .data => "Data"

def Flaw.fault : Flaw → TextFault
  | .unfinished => .unfinished
  | .malformed => .syntaxFault

def Found.describe : Found → String
  | .null => "null"
  | .bool true => "boolean \x60true\x60"
  | .bool false => "boolean \x60false\x60"
  | .int n => "integer \x60" ++ String.ofList (Decimal.writeInt n) ++ "\x60"
  | .float x => "floating point \x60" ++ String.ofList (Binary64.writeCompact x) ++ "\x60"
  | .string s => "string " ++ Text.Quoted.quote s
  | .sequence => "sequence"
  | .map => "map"

namespace DecodeError

/-- Quotes a name for a message. -/
def tick (name : String) : String := "\x60" ++ name ++ "\x60"

def number (n : Nat) : String := String.ofList (Decimal.write n)

/-- A list of alternatives. -/
def oneOf : List String → String
  | [] => "there are no variants"
  | [a] => "expected " ++ tick a
  | [a, b] => "expected " ++ tick a ++ " or " ++ tick b
  | names => "expected one of " ++ String.intercalate ", " (names.map tick)

/-- The sentence that reports an error of a value. -/
def message : DecodeError → String
  | .flawed .unfinished => "unfinished text"
  | .flawed .malformed => "malformed text"
  | .wrongType found wanted => "invalid type: " ++ found.describe ++ ", expected " ++ wanted
  | .outOfRange n wanted =>
    "invalid value: " ++ (Found.int n).describe ++ ", expected " ++ wanted
  | .missingField name => "missing field " ++ tick name
  | .duplicateField name => "duplicate field " ++ tick name
  | .tooShort length wanted fields =>
    "invalid length " ++ number length ++ ", expected " ++ wanted ++ " with " ++ number fields
      ++ (if fields = 1 then " element" else " elements")
  | .tooLong length _ =>
    "invalid length " ++ number length ++ ", expected fewer elements in array"
  | .tooLongCollected length fields =>
    "invalid length " ++ number length ++ ", expected " ++ number fields
      ++ (if fields = 1 then " element in sequence" else " elements in sequence")
  | .unknownVariant name known => "unknown variant " ++ tick name ++ ", " ++ oneOf known
  | .notOneMember => "invalid value: map, expected map with a single key"
  | .meaningless what n => "invalid " ++ what ++ ": " ++ number n

/-- The class of an error of a text. -/
def fault : DecodeError → TextFault
  | .flawed flaw => flaw.fault
  | .tooLong _ _ => .syntaxFault
  | _ => .data

end DecodeError

end ChatGateway
