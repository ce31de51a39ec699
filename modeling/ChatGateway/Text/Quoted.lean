import ChatGateway.Text.Blank
import ChatGateway.Text.Hidden

/-!
Quoted text for messages. A text stands between double quotes; quotes, backslashes and the common
controls have short escapes, and every other character that shows nothing is written by its code
point in hexadecimal.
-/

namespace ChatGateway.Text.Quoted

/-- A hexadecimal escape of a code point, without leading zeros. -/
def codePoint (c : Char) : List Char :=
  ['\\', 'u', '\x7b'] ++ Nat.toDigits 16 c.toNat ++ ['\x7d']

def escape (c : Char) : List Char :=
  match c with
  | '"' => ['\\', '"']
  | '\\' => ['\\', '\\']
  | '\n' => ['\\', 'n']
  | '\t' => ['\\', 't']
  | '\r' => ['\\', 'r']
  | '\x00' => ['\\', '0']
  | c => if inRanges hiddenRanges c then codePoint c else [c]

def quote (s : String) : String :=
  String.ofList ('"' :: s.toList.flatMap escape ++ ['"'])

end ChatGateway.Text.Quoted
