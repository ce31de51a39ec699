import ChatGateway.Json.Outline
import ChatGateway.Proofs.Cache.Tables

/-!
The order of members. Where the names of an object differ, its members mean the same in any order.
An arrangement orders the members throughout a value: as they stand (`Arrangement.asWritten`), or
by name (`Arrangement.byName`), which is how a value has them that was read without knowing its
type.
-/

namespace ChatGateway

namespace Json

def isAtom : Json → Bool
  | .array _ | .object _ => false
  | _ => true

/-- A way to order the members of objects, inside and outside; nothing else changes. -/
structure Arrangement where
  toFun : Json → Json
  atom : ∀ {value : Json}, value.isAtom → toFun value = value
  array : ∀ items, toFun (.array items) = .array (items.map toFun)
  object : ∀ members : List (String × Json), (members.map (·.1)).Nodup →
    ∃ arranged, toFun (.object members) = .object arranged ∧
      arranged.Perm (members.map fun member => (member.1, toFun member.2))

instance : CoeFun Arrangement fun _ => Json → Json := ⟨Arrangement.toFun⟩

def Arrangement.asWritten : Arrangement where
  toFun := id
  atom _ := rfl
  array items := by rw [List.map_id]; rfl
  object members _ := ⟨members, rfl, by simp⟩

mutual

def sorted : Json → Json
  | .array items => .array (sortedItems items)
  | .object members => .ofMembers (sortedMembers members)
  | value => value

def sortedItems : List Json → List Json
  | [] => []
  | item :: rest => sorted item :: sortedItems rest

def sortedMembers : List (String × Json) → List (String × Json)
  | [] => []
  | (name, value) :: rest => (name, sorted value) :: sortedMembers rest

end

theorem sortedItems_eq_map (items : List Json) : sortedItems items = items.map sorted := by
  induction items with
  | nil => rfl
  | cons item rest ih => rw [sortedItems, List.map_cons, ih]

theorem sortedMembers_eq_map (members : List (String × Json)) :
    sortedMembers members = members.map fun member => (member.1, sorted member.2) := by
  induction members with
  | nil => rfl
  | cons member rest ih =>
      obtain ⟨name, value⟩ := member
      rw [sortedMembers, List.map_cons, ih]

/-! ### Canonical objects as tables -/

theorem insertMember_eq_insertEntry (name : String) (value : Json)
    (members : List (String × Json)) :
    insertMember name value members = Table.insertEntry name value members := by
  induction members with
  | nil => rfl
  | cons member rest ih =>
      obtain ⟨other, old⟩ := member
      cases h : compare name other <;> simp only [insertMember, Table.insertEntry, h, ih]

theorem foldl_insertMember (t : Table String Json) (members : List (String × Json)) :
    members.foldl (fun sorted member => insertMember member.1 member.2 sorted) t.entries
      = (t.insertAll members).entries := by
  induction members generalizing t with
  | nil => rfl
  | cons member rest ih =>
      rw [List.foldl_cons, insertMember_eq_insertEntry]
      exact ih (t.insert member.1 member.2)

/-- The members of a canonical object are the entries of a table. -/
theorem ofMembers_eq (members : List (String × Json)) :
    ofMembers members = .object (Table.ofList members).entries :=
  congrArg Json.object (foldl_insertMember Table.empty members)

def Arrangement.byName : Arrangement where
  toFun := sorted
  atom {value} h := by cases value <;> first | rfl | cases h
  array items := by rw [sorted, sortedItems_eq_map]
  object members hnodup := by
    refine ⟨_, by rw [sorted, sortedMembers_eq_map, ofMembers_eq], ?_⟩
    refine Table.perm_entries_ofList ?_
    rwa [List.map_map]

/-! ### Values that were read -/

mutual

theorem value_ofJson (value : Json) : (Outline.ofJson value).value = .ok value.sorted := by
  cases value with
  | array items =>
      rw [Outline.ofJson, Outline.value, values_ofItems, sorted]
      rfl
  | object members =>
      rw [Outline.ofJson, Outline.value, memberValues_ofMembers, sorted]
      rfl
  | _ => rfl

theorem values_ofItems (items : List Json) :
    Outline.values (Outline.ofItems items) = .ok (sortedItems items) := by
  cases items with
  | nil => rfl
  | cons item rest =>
      rw [Outline.ofItems, Outline.values, value_ofJson, values_ofItems, sortedItems]
      rfl

theorem memberValues_ofMembers (members : List (String × Json)) :
    Outline.memberValues (Outline.ofMembers members) = .ok (sortedMembers members) := by
  cases members with
  | nil => rfl
  | cons member rest =>
      obtain ⟨name, value⟩ := member
      rw [Outline.ofMembers, Outline.memberValues, value_ofJson, memberValues_ofMembers,
        sortedMembers]
      rfl

end

/-- An object whose values are canonical is canonical once its members are in order. -/
theorem sorted_ofMembers {members : List (String × Json)}
    (h : ∀ member ∈ members, member.2.sorted = member.2) :
    (ofMembers members).sorted = ofMembers members := by
  have hentries : (Table.ofList members).All fun name value => (name, value) ∈ members :=
    (Table.all_empty _).insertAll fun _ hmem => hmem
  have hsorted : sortedMembers (Table.ofList members).entries = (Table.ofList members).entries := by
    rw [sortedMembers_eq_map]
    refine (List.map_congr_left fun e he => ?_).trans (List.map_id _)
    exact Prod.ext rfl (h e (hentries e.1 e.2 he))
  rw [ofMembers_eq, sorted, hsorted, ofMembers_eq, Table.ofList_of_perm (List.Perm.refl _)]

mutual

/-- What is read without a type is canonical. -/
theorem sorted_of_value {o : Outline} {value : Json} (h : o.value = .ok value) :
    value.sorted = value := by
  cases o with
  | array items ending =>
      obtain ⟨read, hread, h⟩ := Decoder.of_bind_ok h
      obtain ⟨_, -, h⟩ := Decoder.of_bind_ok h
      cases h
      rw [sorted, sorted_of_values hread]
  | object members ending =>
      obtain ⟨read, hread, h⟩ := Decoder.of_bind_ok h
      obtain ⟨_, -, h⟩ := Decoder.of_bind_ok h
      cases h
      exact sorted_ofMembers (sorted_of_memberValues hread)
  | unreadable => cases h
  | broken => cases h
  | _ =>
      cases h
      rfl

theorem sorted_of_values {items : List Outline} {read : List Json}
    (h : Outline.values items = .ok read) : sortedItems read = read := by
  cases items with
  | nil =>
      cases h
      rfl
  | cons item rest =>
      obtain ⟨first, hfirst, h⟩ := Decoder.of_bind_ok h
      obtain ⟨more, hmore, h⟩ := Decoder.of_bind_ok h
      cases h
      rw [sortedItems, sorted_of_value hfirst, sorted_of_values hmore]

theorem sorted_of_memberValues {members : List (Except Flaw String × Outline)}
    {read : List (String × Json)} (h : Outline.memberValues members = .ok read) :
    ∀ member ∈ read, member.2.sorted = member.2 := by
  cases members with
  | nil =>
      cases h
      exact nofun
  | cons member rest =>
      obtain ⟨name, _, h⟩ := Decoder.of_bind_ok h
      obtain ⟨first, hfirst, h⟩ := Decoder.of_bind_ok h
      obtain ⟨more, hmore, h⟩ := Decoder.of_bind_ok h
      cases h
      exact List.forall_mem_cons.2 ⟨sorted_of_value hfirst, sorted_of_memberValues hmore⟩

end

/-! ### Values that were read and are arranged -/

mutual

/-- A canonical value that was arranged is canonical again once it is read. -/
theorem sorted_arrange (arrange : Arrangement) (value : Json) :
    (arrange value.sorted).sorted = value.sorted := by
  cases value with
  | array items =>
      rw [sorted, sortedItems_eq_map, arrange.array, sorted, sortedItems_eq_map]
      simp only [List.map_map]
      exact congrArg Json.array (List.map_congr_left (sorted_arrange_items arrange items))
  | object members =>
      have hentries : (Table.ofList (sortedMembers members)).All fun name value =>
          (name, value) ∈ sortedMembers members :=
        (Table.all_empty _).insertAll fun _ hmem => hmem
      rw [sorted, ofMembers_eq]
      obtain ⟨arranged, heq, hperm⟩ := arrange.object _ (Table.nodup_keys _)
      rw [heq, sorted, ofMembers_eq, sortedMembers_eq_map]
      refine congrArg (fun t => Json.object (Table.entries t)) (Table.ofList_of_perm ?_)
      refine (hperm.map _).trans (List.Perm.of_eq ?_)
      rw [List.map_map]
      refine (List.map_congr_left fun e he => ?_).trans (List.map_id _)
      exact Prod.ext rfl (sorted_arrange_members arrange members e (hentries e.1 e.2 he))
  | _ =>
      rw [arrange.atom rfl]
      rfl

theorem sorted_arrange_items (arrange : Arrangement) (items : List Json) :
    ∀ item ∈ items, (arrange item.sorted).sorted = item.sorted := by
  cases items with
  | nil => exact nofun
  | cons item rest =>
      exact List.forall_mem_cons.2 ⟨sorted_arrange arrange item, sorted_arrange_items arrange rest⟩

theorem sorted_arrange_members (arrange : Arrangement) (members : List (String × Json)) :
    ∀ member ∈ sortedMembers members, (arrange member.2).sorted = member.2 := by
  cases members with
  | nil => exact nofun
  | cons member rest =>
      obtain ⟨name, value⟩ := member
      exact List.forall_mem_cons.2
        ⟨sorted_arrange arrange value, sorted_arrange_members arrange rest⟩

end

end Json

end ChatGateway
