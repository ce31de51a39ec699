import ChatGateway.Cache.Reactions

/-!
The records of reactions as a list. A reaction that is added or taken back goes to the first record
of its emoji and to nothing else (`add_first`, `remove_first`). A count that is the last word of 32
bits has no room for one more, and is the only one that has not.
-/

namespace ChatGateway.Reactions

variable {emoji : Emoji} {byMe : Bool} {known counted : Reaction}
  {before after records : List Reaction}

theorem countUp?_eq_some_iff : countUp? byMe known = some counted ↔
    known.count.toNat + 1 < UInt32.size ∧
      { known with count := known.count + 1, me := known.me || byMe } = counted := by
  simp [countUp?]

theorem countUp?_eq_none_iff :
    countUp? byMe known = none ↔ known.count.toNat + 1 = UInt32.size := by
  have hlt : known.count.toNat < UInt32.size := known.count.toNat_lt
  simp only [countUp?, ite_eq_right_iff, reduceCtorEq, imp_false]
  omega

/-- A count that has room for one more is one more afterwards. -/
theorem toNat_count_of_countUp? (h : countUp? byMe known = some counted) :
    counted.count.toNat = known.count.toNat + 1 := by
  obtain ⟨hroom, rfl⟩ := countUp?_eq_some_iff.1 h
  rw [UInt32.toNat_add, UInt32.toNat_one]
  exact Nat.mod_eq_of_lt hroom

theorem add_new (h : ∀ record ∈ records, record.emoji.sameAs emoji = false) :
    add emoji byMe records = some (records ++ [{ count := 1, me := byMe, emoji }]) := by
  induction records with
  | nil => rfl
  | cons record rest ih =>
      obtain ⟨hrecord, hrest⟩ := List.forall_mem_cons.1 h
      simp [add, hrecord, ih hrest]

theorem remove_new (h : ∀ record ∈ records, record.emoji.sameAs emoji = false) :
    remove emoji byMe records = records := by
  induction records with
  | nil => rfl
  | cons record rest ih =>
      obtain ⟨hrecord, hrest⟩ := List.forall_mem_cons.1 h
      simp [remove, hrecord, ih hrest]

section First

variable (hbefore : ∀ record ∈ before, record.emoji.sameAs emoji = false)
  (hknown : known.emoji.sameAs emoji = true)

include hbefore hknown

/-- A reaction is counted by the first record of its emoji. -/
theorem add_first : add emoji byMe (before ++ known :: after) =
    (countUp? byMe known).map fun counted => before ++ counted :: after := by
  induction before with
  | nil => simp [add, hknown]
  | cons record before ih =>
      obtain ⟨hrecord, hbefore⟩ := List.forall_mem_cons.1 hbefore
      simp only [List.cons_append, add, hrecord, Bool.false_eq_true, if_false, ih hbefore,
        Option.map_map]
      rfl

/-- A reaction that is taken back is taken off the first record of its emoji. -/
theorem remove_first : remove emoji byMe (before ++ known :: after) =
    before ++ if known.count ≤ 1 then after
      else { known with count := known.count - 1, me := known.me && !byMe } :: after := by
  induction before with
  | nil => simp [remove, hknown]
  | cons record before ih =>
      obtain ⟨hrecord, hbefore⟩ := List.forall_mem_cons.1 hbefore
      simp [remove, hrecord, ih hbefore]

end First

def added (emoji : Emoji) (byMe : Bool) (records : List Reaction) : List Reaction :=
  (add emoji byMe records).getD records

theorem added_cons_of_same (hknown : known.emoji.sameAs emoji = true) :
    added emoji byMe (known :: records) = (countUp? byMe known).getD known :: records := by
  rw [added, add, if_pos hknown]
  cases countUp? byMe known <;> rfl

theorem added_cons_of_other (hknown : ¬ known.emoji.sameAs emoji = true) :
    added emoji byMe (known :: records) = known :: added emoji byMe records := by
  rw [added, add, if_neg hknown, added]
  cases add emoji byMe records <;> rfl

/-- A record that counts one more stays a record of its emoji. -/
theorem emoji_getD_countUp? : ((countUp? byMe known).getD known).emoji = known.emoji := by
  unfold countUp?
  split <;> rfl

end ChatGateway.Reactions
