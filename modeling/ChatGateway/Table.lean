/-!
Finite maps as lists of entries in strictly increasing order of their keys. The order makes the
list of a map unique, so two tables with the same look-ups are equal, and listing a table shows
its entries by key.
-/

namespace ChatGateway

/-- Keys that compare by a part of theirs are equal in that part when they compare equal. -/
theorem eq_of_compareOn {α β : Type} [Ord β] [Std.LawfulEqOrd β] {f : α → β} {a b : α}
    (h : compareOn f a b = .eq) : f a = f b :=
  Std.LawfulEqCmp.eq_of_compare h

structure Table (κ α : Type) [Ord κ] where
  entries : List (κ × α)
  sorted : entries.Pairwise fun a b => compare a.1 b.1 = .lt := by exact .nil
  deriving DecidableEq

namespace Table

variable {κ α β : Type} [Ord κ]

def empty : Table κ α := { entries := [] }

instance : Inhabited (Table κ α) := ⟨empty⟩

/-- Puts an entry at its place, replacing one of the same key. -/
def insertEntry (k : κ) (a : α) : List (κ × α) → List (κ × α)
  | [] => [(k, a)]
  | (k', a') :: rest =>
    match compare k k' with
    | .lt => (k, a) :: (k', a') :: rest
    | .eq => (k, a) :: rest
    | .gt => (k', a') :: insertEntry k a rest

def find (k : κ) : List (κ × α) → Option α
  | [] => none
  | (k', a) :: rest => if compare k k' = .eq then some a else find k rest

theorem mem_insertEntry {k : κ} {a : α} {entries : List (κ × α)} {e : κ × α}
    (h : e ∈ insertEntry k a entries) : e = (k, a) ∨ e ∈ entries := by
  induction entries with
  | nil => simpa [insertEntry] using h
  | cons head rest ih =>
    obtain ⟨k', a'⟩ := head
    rw [insertEntry] at h
    split at h <;> grind

@[simp] theorem find_nil (k : κ) : find k ([] : List (κ × α)) = none := rfl

section Find

variable [Std.LawfulEqOrd κ]

theorem find_insertEntry [DecidableEq κ] {k k' : κ} {a : α} {entries : List (κ × α)} :
    find k' (insertEntry k a entries) = if k' = k then some a else find k' entries := by
  induction entries with
  | nil => simp [insertEntry, find]
  | cons head rest ih =>
    obtain ⟨key, value⟩ := head
    rw [insertEntry]
    split
    next => simp [find]
    next heq =>
      have : k = key := Std.LawfulEqCmp.eq_of_compare heq
      subst this
      by_cases h : k' = k <;> simp [find, h]
    next hgt =>
      have hne : k ≠ key := fun h => by simp [Std.LawfulEqCmp.compare_eq_iff_eq.2 h] at hgt
      by_cases h : k' = key
      · subst h
        simp [find, Ne.symm hne]
      · simp [find, h, ih]

theorem find_filter_ne [DecidableEq κ] {k k' : κ} {entries : List (κ × α)} :
    find k' (entries.filter fun e => compare k e.1 != .eq)
      = if k' = k then none else find k' entries := by
  induction entries with
  | nil => simp [find]
  | cons head rest ih =>
    obtain ⟨key, value⟩ := head
    by_cases h : k = key
    · subst h
      have hself : compare k k = .eq := Std.ReflCmp.compare_self
      by_cases hk : k' = k <;> simp_all [find]
    · have hne : compare k key ≠ .eq := fun heq => h (Std.LawfulEqCmp.eq_of_compare heq)
      by_cases hk : k' = key
      · subst hk
        simp [find, hne, Ne.symm h]
      · simp [find, hne, hk, ih]

theorem find_map {f : κ → α → β} {k : κ} {entries : List (κ × α)} :
    find k (entries.map fun e => (e.1, f e.1 e.2)) = (find k entries).map (f k) := by
  induction entries with
  | nil => simp [find]
  | cons head rest ih =>
    obtain ⟨key, value⟩ := head
    by_cases h : k = key
    · subst h
      simp [find]
    · simp [find, h, ih]

end Find

variable [Std.TransOrd κ] [Std.LawfulEqOrd κ]

theorem sorted_insertEntry {k : κ} {a : α} {entries : List (κ × α)}
    (h : entries.Pairwise fun a b => compare a.1 b.1 = .lt) :
    (insertEntry k a entries).Pairwise fun a b => compare a.1 b.1 = .lt := by
  induction entries with
  | nil => simp [insertEntry]
  | cons head rest ih =>
    obtain ⟨k', a'⟩ := head
    obtain ⟨first, tail⟩ := List.pairwise_cons.1 h
    rw [insertEntry]
    split
    next hlt =>
      refine List.pairwise_cons.2 ⟨fun e he => ?_, h⟩
      cases List.mem_cons.1 he with
      | inl heq => simpa [heq] using hlt
      | inr hmem => exact Std.TransCmp.lt_trans hlt (first e hmem)
    next heq =>
      have : k = k' := Std.LawfulEqCmp.eq_of_compare heq
      subst this
      exact List.pairwise_cons.2 ⟨first, tail⟩
    next hgt =>
      refine List.pairwise_cons.2 ⟨fun e he => ?_, ih tail⟩
      cases mem_insertEntry he with
      | inl heq => simpa [heq] using Std.OrientedCmp.lt_of_gt hgt
      | inr hmem => exact first e hmem

def get? (t : Table κ α) (k : κ) : Option α := find k t.entries

def insert (t : Table κ α) (k : κ) (a : α) : Table κ α :=
  ⟨insertEntry k a t.entries, sorted_insertEntry t.sorted⟩

def filter (t : Table κ α) (keep : κ → α → Bool) : Table κ α :=
  ⟨t.entries.filter fun e => keep e.1 e.2, t.sorted.filter _⟩

def erase (t : Table κ α) (k : κ) : Table κ α := t.filter fun k' _ => compare k k' != .eq

def map (t : Table κ α) (f : κ → α → β) : Table κ β where
  entries := t.entries.map fun e => (e.1, f e.1 e.2)
  sorted := by simpa [List.pairwise_map] using t.sorted

def modify (t : Table κ α) (k : κ) (f : α → α) : Table κ α :=
  t.map fun k' a => if compare k k' = .eq then f a else a

def keys (t : Table κ α) : List κ := t.entries.map (·.1)

def values (t : Table κ α) : List α := t.entries.map (·.2)

def size (t : Table κ α) : Nat := t.entries.length

def isEmpty (t : Table κ α) : Bool := t.entries.isEmpty

def insertAll (t : Table κ α) (entries : List (κ × α)) : Table κ α :=
  entries.foldl (fun t e => t.insert e.1 e.2) t

def ofList (entries : List (κ × α)) : Table κ α := empty.insertAll entries

/-! ### Look-ups after each operation -/

theorem get?_insert [DecidableEq κ] (t : Table κ α) (k k' : κ) (a : α) :
    (t.insert k a).get? k' = if k' = k then some a else t.get? k' := find_insertEntry

omit [Std.TransOrd κ] in
theorem get?_erase [DecidableEq κ] (t : Table κ α) (k k' : κ) :
    (t.erase k).get? k' = if k' = k then none else t.get? k' := find_filter_ne

omit [Std.TransOrd κ] in
theorem get?_map (t : Table κ α) (f : κ → α → β) (k : κ) :
    (t.map f).get? k = (t.get? k).map (f k) := find_map

omit [Std.TransOrd κ] in
theorem get?_modify [DecidableEq κ] (t : Table κ α) (k k' : κ) (f : α → α) :
    (t.modify k f).get? k' = if k' = k then (t.get? k').map f else t.get? k' := by
  rw [modify, get?_map]
  by_cases h : k' = k
  · subst h
    simp
  · simp [h, Ne.symm h]

/-! ### Keys -/

omit [Std.TransOrd κ] in
theorem mem_keys_iff (t : Table κ α) (k : κ) : k ∈ t.keys ↔ (t.get? k).isSome := by
  unfold keys get?
  induction t.entries with
  | nil => simp
  | cons head rest ih =>
    obtain ⟨key, value⟩ := head
    rw [List.map_cons, List.mem_cons, ih, find]
    by_cases h : compare k key = .eq
    · simp [Std.LawfulEqCmp.eq_of_compare h]
    · have hne : k ≠ key := fun heq => h (Std.LawfulEqCmp.compare_eq_iff_eq.2 heq)
      simp [h, hne]

omit [Std.TransOrd κ] in
theorem nodup_keys (t : Table κ α) : t.keys.Nodup := by
  refine List.pairwise_map.2 (t.sorted.imp fun {a b} hlt heq => ?_)
  have hself : compare b.1 b.1 = .eq := Std.ReflCmp.compare_self
  rw [heq, hself] at hlt
  cases hlt

end Table

end ChatGateway
