import ChatGateway.Proofs.Text.Numerals
import ChatGateway.Snowflake

/-!
When identifiers were made. The milliseconds of a word of 64 bits fit every word they pass through
(`made_exact`) and lie within reach of a calendar, so that an identifier tells a time exactly if it
is the numeral of such a word, and a greater number does not tell an earlier time
(`timestamp_total_monotone`).
-/

namespace ChatGateway

namespace Snowflake

open Decimal

variable {id : Snowflake}

theorem number?_eq_some_iff {n : UInt64} :
    id.number? = some n ↔ Numeral id.text.toList n.toNat := by
  simp only [number?, Option.map_eq_some_iff, readBelow?_eq_some_iff]
  constructor
  · rintro ⟨value, ⟨hnumeral, hvalue⟩, rfl⟩
    rwa [UInt64.toNat_ofNat_of_lt' hvalue]
  · intro hnumeral
    exact ⟨n.toNat, ⟨hnumeral, n.toNat_lt⟩, UInt64.ofNat_toNat⟩

theorem number?_of_numeral {n : Nat} (h : Numeral id.text.toList n) (hn : n < 2 ^ 64) :
    id.number? = some (UInt64.ofNat n) := by
  rwa [number?_eq_some_iff, UInt64.toNat_ofNat_of_lt' hn]

theorem number?_eq_none_iff :
    id.number? = none ↔ ¬ ∃ n < 2 ^ 64, Numeral id.text.toList n := by
  constructor
  · rintro hnone ⟨n, hn, hnumeral⟩
    simp [number?_of_numeral hnumeral hn] at hnone
  · intro hnumeral
    rw [Option.eq_none_iff_forall_ne_some]
    intro n hn
    exact hnumeral ⟨n.toNat, n.toNat_lt, number?_eq_some_iff.1 hn⟩

theorem numeral_ofNat (n : Nat) : Numeral (ofNat n).text.toList n := by
  rw [ofNat, String.toList_ofList]
  exact numeral_write n

/-- The sum does not go round, and its signed reading is its value. -/
theorem made_exact (n : UInt64) :
    (made n).toNat = (n.toNat >>> 22) + 1420070400000 ∧
      (made n).toInt64.toInt = (made n).toNat := by
  have hepoch : epoch.toNat = 1420070400000 := rfl
  have hshift : (n >>> 22).toNat = n.toNat >>> 22 := UInt64.toNat_shiftRight n 22
  have hbound : n.toNat >>> 22 < 2 ^ 42 := by
    have hword := n.toNat_lt
    rw [Nat.shiftRight_eq_div_pow]
    omega
  have hsum : (made n).toNat = (n.toNat >>> 22) + 1420070400000 := by
    rw [made, UInt64.toNat_add, hshift, hepoch]
    exact Nat.mod_eq_of_lt (by omega)
  refine ⟨hsum, ?_⟩
  calc (made n).toInt64.toInt = (made n).toBitVec.toInt := rfl
    _ = (made n).toBitVec.toNat :=
      BitVec.toInt_eq_toNat_of_lt (by rw [UInt64.toNat_toBitVec, hsum]; omega)
    _ = (made n).toNat := by rw [UInt64.toNat_toBitVec]

section Timestamp

variable {calendar : Calendar} (lawful : calendar.Lawful)
include lawful

/-- The time of every word of 64 bits is within reach. -/
theorem exists_timestamp? {n : UInt64} (h : id.number? = some n) :
    ∃ moment, id.timestamp? calendar = some moment ∧
      calendar.milliseconds moment = (((n.toNat >>> 22) + 1420070400000 : Nat) : Int) := by
  have hmade : (made n).toInt64.toInt = (((n.toNat >>> 22) + 1420070400000 : Nat) : Int) := by
    rw [(made_exact n).2, (made_exact n).1]
  have hfirst : Calendar.first ≤ (made n).toInt64.toInt := by
    rw [hmade, Calendar.first]
    omega
  have hlast : (made n).toInt64.toInt ≤ Calendar.last := by
    have hword := n.toNat_lt
    rw [hmade, Calendar.last, Nat.shiftRight_eq_div_pow]
    omega
  obtain ⟨moment, hmoment⟩ := Option.isSome_iff_exists.1 (lawful.reaches hfirst hlast)
  refine ⟨moment, ?_, (lawful.keeps hmoment).trans hmade⟩
  rw [timestamp?, h, Option.bind_some, hmoment]

theorem exists_timestamp?_of_numeral {n : Nat} (h : Numeral id.text.toList n) (hn : n < 2 ^ 64) :
    ∃ moment, id.timestamp? calendar = some moment ∧
      calendar.milliseconds moment = (((n >>> 22) + 1420070400000 : Nat) : Int) := by
  have htime := exists_timestamp? lawful (number?_of_numeral h hn)
  rwa [UInt64.toNat_ofNat_of_lt' hn] at htime

theorem timestamp?_eq_none_iff : id.timestamp? calendar = none ↔ id.number? = none := by
  cases h : id.number? with
  | none => simp [timestamp?, h]
  | some n =>
      obtain ⟨moment, hmoment, -⟩ := exists_timestamp? lawful h
      simp [hmoment]

end Timestamp

/-- The identifier of a word of 64 bits tells the time that its upper bits hold, and no word goes
round on the way. A text tells no time exactly if it is not the numeral of such a word, and of two
that are, the one of the smaller number does not tell the later time. -/
theorem timestamp_total_monotone (calendar : Calendar) (lawful : calendar.Lawful) :
    (∀ n : UInt64,
      (made n).toNat = (n.toNat >>> 22) + 1420070400000 ∧
      (made n).toInt64.toInt = (made n).toNat ∧
      ∃ moment, (ofNat n.toNat).timestamp? calendar = some moment ∧
        calendar.milliseconds moment = (((n.toNat >>> 22) + 1420070400000 : Nat) : Int)) ∧
    (∀ id : Snowflake, id.timestamp? calendar = none ↔
      ¬ ∃ n < 2 ^ 64, Numeral id.text.toList n) ∧
    ∀ (small large : Snowflake) (m n : Nat), Numeral small.text.toList m →
      Numeral large.text.toList n → m ≤ n → n < 2 ^ 64 →
      ∃ moment later, small.timestamp? calendar = some moment ∧
        large.timestamp? calendar = some later ∧
        calendar.milliseconds moment ≤ calendar.milliseconds later := by
  refine ⟨fun n => ?_, fun id => ?_, fun small large m n hm hn hle hlt => ?_⟩
  · obtain ⟨hsum, hsigned⟩ := made_exact n
    exact ⟨hsum, hsigned,
      exists_timestamp?_of_numeral lawful (numeral_ofNat n.toNat) n.toNat_lt⟩
  · rw [timestamp?_eq_none_iff lawful, number?_eq_none_iff]
  · obtain ⟨moment, hsmall, htime⟩ := exists_timestamp?_of_numeral lawful hm (by omega)
    obtain ⟨later, hlarge, hlater⟩ := exists_timestamp?_of_numeral lawful hn hlt
    have hshift : m >>> 22 ≤ n >>> 22 := by
      rw [Nat.shiftRight_eq_div_pow, Nat.shiftRight_eq_div_pow]
      exact Nat.div_le_div_right hle
    refine ⟨moment, later, hsmall, hlarge, ?_⟩
    rw [htime, hlater]
    omega

/-- The last word of 64 bits, the number after it, and two spellings out of the order of texts. -/
theorem timestamp_total_monotone_gregorian :
    Calendar.gregorian.Lawful ∧
    (∃ moment, (ofNat 18446744073709551615).timestamp? .gregorian = some moment ∧
      Calendar.gregorian.milliseconds moment = 5818116911103) ∧
    (mk "18446744073709551616").timestamp? .gregorian = none ∧
    ∃ moment later, (mk "4194304").timestamp? .gregorian = some moment ∧
      (mk "+0012345678901").timestamp? .gregorian = some later ∧
      Calendar.gregorian.milliseconds moment ≤ Calendar.gregorian.milliseconds later := by
  have lawful := Calendar.gregorian_lawful
  obtain ⟨hnumber, hnone, hmonotone⟩ := timestamp_total_monotone .gregorian lawful
  have hbeyond : (mk "18446744073709551616").number? = none := by decide +kernel
  have hsmall : Numeral "4194304".toList 4194304 :=
    numeral_iff.2 (.inl (by decide +kernel))
  have hlarge : Numeral "+0012345678901".toList 12345678901 :=
    numeral_iff.2 (.inr ⟨"0012345678901".toList, by decide, by decide +kernel⟩)
  exact ⟨lawful, (hnumber 18446744073709551615).2.2, (hnone _).2 (number?_eq_none_iff.1 hbeyond),
    hmonotone _ _ _ _ hsmall hlarge (by decide) (by decide)⟩

end Snowflake

end ChatGateway
