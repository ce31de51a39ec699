/-!
Blank characters in the sense of the Unicode property White_Space, and trimming by them.
-/

namespace ChatGateway.Text

/-- The code points with the Unicode property White_Space, as closed ranges in order. -/
def blankRanges : List (Nat × Nat) :=
  [(0x09, 0x0D), (0x20, 0x20), (0x85, 0x85), (0xA0, 0xA0), (0x1680, 0x1680), (0x2000, 0x200A),
   (0x2028, 0x2029), (0x202F, 0x202F), (0x205F, 0x205F), (0x3000, 0x3000)]

/-- Membership of a code point in a list of closed ranges. -/
def inRanges (ranges : List (Nat × Nat)) (c : Char) : Bool :=
  ranges.any fun (low, high) => low ≤ c.toNat && c.toNat ≤ high

def isBlank (c : Char) : Bool := inRanges blankRanges c

/-- Drops blank characters from the end of a text. -/
def trimEnd : List Char → List Char
  | [] => []
  | c :: rest =>
    match trimEnd rest with
    | [] => if isBlank c then [] else [c]
    | kept => c :: kept

def trim (cs : List Char) : List Char := trimEnd (cs.dropWhile isBlank)

example : trim " \u2003a b\u3000\n".toList = "a b".toList := by decide

end ChatGateway.Text
