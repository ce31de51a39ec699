/-!
Decimal notation of whole numbers. Writing is the shortest notation; reading takes any run of
ASCII digits, leading zeros included, and reads back what was written.
-/

namespace ChatGateway.Decimal

def write (n : Nat) : List Char := Nat.toDigits 10 n

/-- The decimal notation of an integer; only negative numbers carry a sign. -/
def writeInt : Int → List Char
  | .ofNat n => write n
  | .negSucc n => '-' :: write (n + 1)

/-- The value of a non-empty run of ASCII digits. -/
def read? (cs : List Char) : Option Nat :=
  if cs ≠ [] ∧ cs.all Char.isDigit then some (Nat.ofDigitChars 10 cs 0) else none

/-- A number below `limit` in digits, after at most one plus sign. -/
def readBelow? (limit : Nat) (cs : List Char) : Option Nat :=
  let digits := match cs with
    | '+' :: rest => rest
    | _ => cs
  (read? digits).filter (· < limit)

theorem write_ne_nil (n : Nat) : write n ≠ [] := Nat.toDigits_ne_nil

theorem isDigit_of_mem_write {n : Nat} {c : Char} (h : c ∈ write n) : c.isDigit :=
  Nat.isDigit_of_mem_toDigits (by decide) (by decide) h

theorem read?_write (n : Nat) : read? (write n) = some n := by
  have digits : (write n).all Char.isDigit := List.all_eq_true.2 fun _ => isDigit_of_mem_write
  have value : Nat.ofDigitChars 10 (write n) 0 = n := Nat.ofDigitChars_ten_toDigits
  rw [read?, if_pos ⟨write_ne_nil n, digits⟩, value]

theorem read?_eq_none_iff {cs : List Char} :
    read? cs = none ↔ cs = [] ∨ ∃ c ∈ cs, c.isDigit = false := by
  by_cases h : cs = [] <;> simp [read?, h]

end ChatGateway.Decimal
