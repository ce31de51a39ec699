import ChatGateway.Text.Decimal
import Mathlib.Data.List.Induction
import Mathlib.Data.Nat.Digits.Defs

/-!
Numerals. A text is the numeral of a number if its digits, after at most one plus sign, stand for it
(`Decimal.Numeral`), and what is read below a limit are the numerals of the numbers below it
(`Decimal.readBelow?_eq_some_iff`). Every number has a numeral, the one that is written.
-/

namespace ChatGateway

namespace Decimal

/-- The number that digits stand for, the last one for the units. -/
def placeValue (digits : List Char) : Nat :=
  Nat.ofDigits 10 (digits.reverse.map fun digit => digit.toNat - '0'.toNat)

/-- One ASCII digit or more, leading zeros included, after at most one plus sign. -/
def Numeral (text : List Char) (n : Nat) : Prop :=
  ∃ digits, (text = digits ∨ text = '+' :: digits) ∧ digits ≠ [] ∧
    (∀ digit ∈ digits, '0' ≤ digit ∧ digit ≤ '9') ∧ placeValue digits = n

theorem placeValue_concat (digits : List Char) (digit : Char) :
    placeValue (digits ++ [digit]) = 10 * placeValue digits + (digit.toNat - '0'.toNat) := by
  rw [placeValue, List.reverse_append, List.reverse_singleton, List.singleton_append,
    List.map_cons, Nat.ofDigits_cons, Nat.add_comm]
  rfl

/-- Reading from the left, each digit shifts what was read by a place. -/
theorem ofDigitChars_eq_placeValue (digits : List Char) :
    Nat.ofDigitChars 10 digits 0 = placeValue digits := by
  induction digits using List.reverseRecOn with
  | nil => rfl
  | append_singleton digits digit ih =>
      rw [placeValue_concat, Nat.ofDigitChars_append, ih]
      rfl

theorem isDigit_iff {c : Char} : c.isDigit = true ↔ '0' ≤ c ∧ c ≤ '9' := by
  simp [Char.isDigit, Char.le_def]

theorem read?_eq_some_iff {digits : List Char} {n : Nat} :
    read? digits = some n ↔
      digits ≠ [] ∧ (∀ digit ∈ digits, '0' ≤ digit ∧ digit ≤ '9') ∧ placeValue digits = n := by
  rw [read?, Option.ite_none_right_eq_some, List.all_eq_true, ofDigitChars_eq_placeValue,
    and_assoc, Option.some.injEq]
  simp only [isDigit_iff]

theorem numeral_iff {text : List Char} {n : Nat} :
    Numeral text n ↔ read? text = some n ∨ ∃ rest, text = '+' :: rest ∧ read? rest = some n := by
  simp only [Numeral, read?_eq_some_iff]
  constructor
  · rintro ⟨digits, rfl | rfl, hdigits⟩
    · exact .inl hdigits
    · exact .inr ⟨digits, rfl, hdigits⟩
  · rintro (hdigits | ⟨rest, rfl, hdigits⟩)
    · exact ⟨text, .inl rfl, hdigits⟩
    · exact ⟨rest, .inr rfl, hdigits⟩

theorem read?_plus (rest : List Char) : read? ('+' :: rest) = none :=
  read?_eq_none_iff.2 (.inr ⟨'+', List.mem_cons_self, rfl⟩)

/-- Exactly the numerals of the numbers below the limit are read. -/
theorem readBelow?_eq_some_iff {limit : Nat} {text : List Char} {n : Nat} :
    readBelow? limit text = some n ↔ Numeral text n ∧ n < limit := by
  rw [readBelow?.eq_def, Option.filter_eq_some_iff, decide_eq_true_iff, numeral_iff]
  refine and_congr_left fun _ => ?_
  -- no digits begin with a plus sign, so that it is dropped exactly where it has to be
  split
  next rest => simp [read?_plus]
  next hplus =>
    refine ⟨.inl, ?_⟩
    rintro (hread | ⟨rest, heq, -⟩)
    · exact hread
    · exact (hplus rest heq).elim

theorem numeral_write (n : Nat) : Numeral (write n) n := numeral_iff.2 (.inl (read?_write n))

end Decimal

end ChatGateway
