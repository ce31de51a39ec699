import ChatGateway.Binary64.Shortest
import ChatGateway.Json.Value

/-!
The compact text of a JSON value: no blanks, members in the order of the value, and in strings
only quotes, backslashes and the controls below U+0020 escaped.
-/

namespace ChatGateway.Json

/-- Four hexadecimal digits of a control character. -/
def controlEscape (c : Char) : List Char :=
  ['\\', 'u', '0', '0', Nat.digitChar (c.toNat / 16), Nat.digitChar (c.toNat % 16)]

def escape (c : Char) : List Char :=
  match c with
  | '"' => ['\\', '"']
  | '\\' => ['\\', '\\']
  | '\x08' => ['\\', 'b']
  | '\x09' => ['\\', 't']
  | '\x0a' => ['\\', 'n']
  | '\x0c' => ['\\', 'f']
  | '\x0d' => ['\\', 'r']
  | c => if c.toNat < 0x20 then controlEscape c else [c]

def printString (s : String) : List Char :=
  '"' :: s.toList.flatMap escape ++ ['"']

mutual

def print : Json → List Char
  | .null => "null".toList
  | .bool true => "true".toList
  | .bool false => "false".toList
  | .int n => Decimal.writeInt n
  | .float x => if x.isFinite then Binary64.writeCompact x else "null".toList
  | .string s => printString s
  | .array items => '[' :: printItems items ++ [']']
  | .object members => '\x7b' :: printMembers members ++ ['\x7d']

def printItems : List Json → List Char
  | [] => []
  | [item] => print item
  | item :: rest => print item ++ ',' :: printItems rest

def printMembers : List (String × Json) → List Char
  | [] => []
  | [(name, item)] => printString name ++ ':' :: print item
  | (name, item) :: rest => printString name ++ ':' :: print item ++ ',' :: printMembers rest

end

def render (value : Json) : String := String.ofList (print value)

end ChatGateway.Json
