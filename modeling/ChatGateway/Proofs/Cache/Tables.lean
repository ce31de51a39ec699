import ChatGateway.Proofs.Cache.Keys
import Mathlib.Data.List.Sort

/-!
Tables by what is found in them. The entries of a table are what its look-ups find
(`get?_eq_some_iff`), and as they stand in one order only, tables that find the same are equal
(`ext_get?`). So an equation between changes of a table is an equation between the look-ups after
them, and writing what is already written changes nothing.
-/

namespace ChatGateway.Table

variable {κ α : Type} [Ord κ]

theorem find_append (k : κ) (first second : List (κ × α)) :
    find k (first ++ second) = (find k first).or (find k second) := by
  induction first with
  | nil => simp
  | cons head rest ih =>
      obtain ⟨k', a⟩ := head
      by_cases h : compare k k' = .eq <;> simp [find, h, ih]

section Find

variable [Std.LawfulEqOrd κ]

theorem find_eq_none {k : κ} {entries : List (κ × α)} (hnone : ∀ e ∈ entries, e.1 ≠ k) :
    find k entries = none := by
  cases hfind : find k entries with
  | none => rfl
  | some a => exact absurd rfl (hnone _ (mem_of_find hfind))

/-- Under the key of an entry something is found, be it this entry or another one. -/
theorem exists_find_of_mem {e : κ × α} {entries : List (κ × α)} (hmem : e ∈ entries) :
    ∃ a, find e.1 entries = some a := by
  induction entries with
  | nil => cases hmem
  | cons head rest ih =>
      rw [find]
      split
      next => exact ⟨head.2, rfl⟩
      next hne =>
        rcases List.mem_cons.1 hmem with rfl | hlater
        · exact absurd Std.ReflCmp.compare_self hne
        · exact ih hlater

/-- Where no key stands twice, every entry is found under its key. -/
theorem find_eq_some_iff {entries : List (κ × α)} (hnodup : (entries.map (·.1)).Nodup) (k : κ)
    (a : α) : find k entries = some a ↔ (k, a) ∈ entries := by
  refine ⟨mem_of_find, fun hmem => ?_⟩
  induction entries with
  | nil => cases hmem
  | cons head rest ih =>
      obtain ⟨hhead, hrest⟩ := List.nodup_cons.1 hnodup
      rcases List.mem_cons.1 hmem with rfl | hlater
      · simp [find]
      · have hne : k ≠ head.1 := by
          rintro rfl
          exact hhead (List.mem_map.2 ⟨_, hlater, rfl⟩)
        have hcompare : compare k head.1 ≠ .eq := fun h => hne (Std.LawfulEqCmp.eq_of_compare h)
        rw [find, if_neg hcompare]
        exact ih hrest hlater

/-- What is found under a key is its entry, and an entry is found under its key. -/
theorem get?_eq_some_iff (t : Table κ α) (k : κ) (a : α) :
    t.get? k = some a ↔ (k, a) ∈ t.entries := find_eq_some_iff t.nodup_keys k a

theorem get?_filter (t : Table κ α) (keep : κ → α → Bool) (k : κ) :
    (t.filter keep).get? k = (t.get? k).filter (keep k) := by
  refine Option.ext fun a => ?_
  rw [get?_eq_some_iff, Option.filter_eq_some_iff, get?_eq_some_iff]
  exact List.mem_filter

end Find

variable [Std.TransOrd κ] [Std.LawfulEqOrd κ]

/-- Tables that find the same are equal. -/
theorem ext_get? {t s : Table κ α} (h : ∀ k, t.get? k = s.get? k) : t = s := by
  have hmem : ∀ e, e ∈ t.entries ↔ e ∈ s.entries := fun e => by
    rw [← get?_eq_some_iff t e.1 e.2, ← get?_eq_some_iff s e.1 e.2, h]
  have hperm : t.entries.Perm s.entries :=
    (List.perm_ext_iff_of_nodup t.nodup_keys.of_map s.nodup_keys.of_map).2 hmem
  have hentries : t.entries = s.entries := by
    refine List.Perm.eq_of_pairwise (fun a b _ _ hab hba => ?_) t.sorted s.sorted hperm
    exact absurd hba (Std.OrientedCmp.not_lt_of_lt hab)
  cases t
  cases s
  cases hentries
  rfl

/-- Of several entries with one key that are inserted, the last one is found. -/
theorem get?_insertAll (t : Table κ α) (entries : List (κ × α)) (k : κ) :
    (t.insertAll entries).get? k = (find k entries.reverse).or (t.get? k) := by
  classical
  induction entries generalizing t with
  | nil => rfl
  | cons e rest ih =>
      show ((t.insert e.1 e.2).insertAll rest).get? k = _
      rw [ih, get?_insert, List.reverse_cons, find_append, Option.or_assoc]
      congr 1
      by_cases h : k = e.1
      · simp [find, h]
      · have hcompare : compare k e.1 ≠ .eq := fun heq => h (Std.LawfulEqCmp.eq_of_compare heq)
        simp [find, h]

theorem get?_insertAll_of_nodup (t : Table κ α) {entries : List (κ × α)}
    (hnodup : (entries.map (·.1)).Nodup) (k : κ) :
    (t.insertAll entries).get? k = (find k entries).or (t.get? k) := by
  have hreverse : (entries.reverse.map (·.1)).Nodup := by
    rwa [List.map_reverse, List.nodup_reverse]
  have hfind : find k entries.reverse = find k entries := Option.ext fun a => by
    rw [find_eq_some_iff hreverse, find_eq_some_iff hnodup, List.mem_reverse]
  rw [get?_insertAll, hfind]

/-- A list in which no key stands twice holds the entries of its table. -/
theorem perm_entries_ofList {entries : List (κ × α)} (hnodup : (entries.map (·.1)).Nodup) :
    (ofList entries).entries.Perm entries := by
  refine (List.perm_ext_iff_of_nodup (nodup_keys _).of_map hnodup.of_map).2 fun e => ?_
  have hempty : (empty : Table κ α).get? e.1 = none := rfl
  rw [← get?_eq_some_iff _ e.1 e.2, ofList, get?_insertAll_of_nodup _ hnodup, hempty,
    Option.or_none, find_eq_some_iff hnodup e.1 e.2]

/-- A table can be made again from its entries, in whatever order they are listed. -/
theorem ofList_of_perm {t : Table κ α} {entries : List (κ × α)} (h : entries.Perm t.entries) :
    ofList entries = t := by
  have hnodup : (entries.map (·.1)).Nodup := (h.map _).nodup_iff.2 t.nodup_keys
  have hmem (k : κ) (a : α) : (k, a) ∈ (ofList entries).entries ↔ (k, a) ∈ t.entries :=
    ((perm_entries_ofList hnodup).trans h).mem_iff
  refine ext_get? fun k => Option.ext fun a => ?_
  rw [get?_eq_some_iff, get?_eq_some_iff, hmem]

theorem insertAll_append (t : Table κ α) (first second : List (κ × α)) :
    t.insertAll (first ++ second) = (t.insertAll first).insertAll second :=
  List.foldl_append

/-! ### Writing twice -/

theorem insertAll_insertAll (t : Table κ α) (entries : List (κ × α)) :
    (t.insertAll entries).insertAll entries = t.insertAll entries := by
  refine ext_get? fun k => ?_
  rw [get?_insertAll, get?_insertAll, ← Option.or_assoc, Option.or_self]

theorem insert_insert (t : Table κ α) (k : κ) (a b : α) :
    (t.insert k a).insert k b = t.insert k b := by
  classical
  refine ext_get? fun k' => ?_
  simp only [get?_insert]
  split <;> rfl

theorem filter_filter (t : Table κ α) (keep : κ → α → Bool) :
    (t.filter keep).filter keep = t.filter keep := by
  refine ext_get? fun k => ?_
  simp only [get?_filter, Option.filter_filter, Bool.and_self]

theorem erase_erase (t : Table κ α) (k : κ) : (t.erase k).erase k = t.erase k := t.filter_filter _

theorem modify_modify (t : Table κ α) (k : κ) (f g : α → α) :
    (t.modify k f).modify k g = t.modify k (g ∘ f) := by
  classical
  refine ext_get? fun k' => ?_
  simp only [get?_modify]
  split
  next => rw [Option.map_map]
  next => rfl

theorem modify_id (t : Table κ α) (k : κ) : t.modify k id = t := by
  classical
  refine ext_get? fun k' => ?_
  rw [get?_modify, Option.map_id, id, ite_self]

/-- A change is known by what it makes of the value that is there. -/
theorem modify_congr {t : Table κ α} {k : κ} {f g : α → α}
    (h : ∀ a, t.get? k = some a → f a = g a) : t.modify k f = t.modify k g := by
  classical
  refine ext_get? fun k' => ?_
  rw [get?_modify, get?_modify]
  split
  next heq =>
    rw [heq]
    cases hget : t.get? k with
    | none => rfl
    | some a => rw [Option.map_some, Option.map_some, h a hget]
  next => rfl

/-- Nothing is changed under a key that is not there. -/
theorem modify_of_get?_eq_none {t : Table κ α} {k : κ} (hnone : t.get? k = none) (f : α → α) :
    t.modify k f = t := by
  rw [modify_congr (g := id) (by simp [hnone]), modify_id]

/-! ### What a filter does not see -/

/-- Nothing is taken out of a table of which every entry is kept. -/
theorem filter_eq_self {t : Table κ α} {keep : κ → α → Bool}
    (h : ∀ k a, t.get? k = some a → keep k a = true) : t.filter keep = t := by
  refine ext_get? fun k => ?_
  rw [get?_filter]
  cases hget : t.get? k with
  | none => rfl
  | some a => rw [Option.filter_some_pos (h k a hget)]

/-- Entries that are not kept do not show after a filter, if what they replace is not kept either.
-/
theorem filter_insertAll_of_rejected {t : Table κ α} {keep : κ → α → Bool}
    {entries : List (κ × α)} (hnew : ∀ e ∈ entries, keep e.1 e.2 = false)
    (hold : ∀ e ∈ entries, ∀ b, t.get? e.1 = some b → keep e.1 b = false) :
    (t.insertAll entries).filter keep = t.filter keep := by
  refine ext_get? fun k => ?_
  rw [get?_filter, get?_filter, get?_insertAll]
  cases hfind : find k entries.reverse with
  | none => rfl
  | some a =>
      have hmem : (k, a) ∈ entries := List.mem_reverse.1 (mem_of_find hfind)
      have hafter : Option.filter (keep k) (some a) = none :=
        Option.filter_some_neg (by simp [hnew _ hmem])
      rw [Option.some_or, hafter]
      cases hget : t.get? k with
      | none => rfl
      | some b => exact (Option.filter_some_neg (by simp [hold _ hmem b hget])).symm

theorem filter_insert_of_rejected {t : Table κ α} {keep : κ → α → Bool} {k : κ} {a : α}
    (hnew : keep k a = false) (hold : ∀ b, t.get? k = some b → keep k b = false) :
    (t.insert k a).filter keep = t.filter keep := by
  show (t.insertAll [(k, a)]).filter keep = t.filter keep
  refine filter_insertAll_of_rejected (fun e he => ?_) fun e he => ?_
  · cases List.mem_singleton.1 he
    exact hnew
  · cases List.mem_singleton.1 he
    exact hold

theorem filter_erase_of_rejected {t : Table κ α} {keep : κ → α → Bool} {k : κ}
    (hold : ∀ b, t.get? k = some b → keep k b = false) :
    (t.erase k).filter keep = t.filter keep := by
  classical
  refine ext_get? fun k' => ?_
  rw [get?_filter, get?_filter, get?_erase]
  split
  next heq =>
    subst heq
    cases hget : t.get? k' with
    | none => rfl
    | some b => exact (Option.filter_some_neg (by simp [hold b hget])).symm
  next => rfl

theorem erase_insert (t : Table κ α) (k : κ) (a : α) : (t.insert k a).erase k = t.erase k :=
  filter_insert_of_rejected (by simp) fun _ _ => by simp

theorem erase_modify (t : Table κ α) (k : κ) (f : α → α) : (t.modify k f).erase k = t.erase k := by
  classical
  refine ext_get? fun k' => ?_
  rw [get?_erase, get?_erase, get?_modify]
  split <;> rfl

theorem erase_of_get?_eq_none {t : Table κ α} {k : κ} (hnone : t.get? k = none) :
    t.erase k = t := by
  refine filter_eq_self fun k' a hget => ?_
  have hne : k ≠ k' := by
    rintro rfl
    rw [hnone] at hget
    cases hget
  have hcompare : compare k k' ≠ .eq := fun h => hne (Std.LawfulEqCmp.eq_of_compare h)
  simpa using hcompare

end ChatGateway.Table
