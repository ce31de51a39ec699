import ChatGateway.Decode.Record
import ChatGateway.Proofs.Json.Arrangement

/-!
Reading back what was written. A record is spelled by the members that hold its fields, in the order
of declaration; an optional one may be left out (`Record.Spells`). If no two fields have one name,
the record is read from what spells it (`Record.decode_of_spells`), however the members are
arranged: the first pass finds every member good, and the second finds for each field its own
member. So for a type it is enough to go through its fields once.
-/

namespace ChatGateway

namespace Outline

mutual

/-- A value can be passed over. -/
theorem skip_ofJson (value : Json) : (ofJson value).skip = .ok () := by
  cases value with
  | array items =>
      rw [ofJson, skip, skipItems_ofItems]
      rfl
  | object members =>
      rw [ofJson, skip, skipMembers_ofMembers]
      rfl
  | _ => rfl

theorem skipItems_ofItems (items : List Json) : skipItems (ofItems items) = .ok () := by
  cases items with
  | nil => rfl
  | cons item rest =>
      rw [ofItems, skipItems, skip_ofJson]
      exact skipItems_ofItems rest

theorem skipMembers_ofMembers (members : List (String × Json)) :
    skipMembers (ofMembers members) = .ok () := by
  cases members with
  | nil => rfl
  | cons member rest =>
      obtain ⟨name, value⟩ := member
      rw [ofMembers, skipMembers, skip_ofJson]
      exact skipMembers_ofMembers rest

end

end Outline

namespace Decoder

variable {α : Type} {arrange : Json.Arrangement} {decode : Decoder α} {encode : α → Json}

/-- A decoder reads what an encoder writes, arranged in some way. It takes no `null`, which is left
to mean that nothing is there. -/
structure Inverts (arrange : Json.Arrangement) (decode : Decoder α) (encode : α → Json) : Prop where
  reads : ∀ a, decode (.ofJson (arrange (encode a))) = .ok a
  solid : ∀ a, decode .null ≠ .ok a

theorem Inverts.option (h : decode.Inverts arrange encode) (a : Option α) :
    option decode (.ofJson (arrange (.ofOption encode a))) = .ok a := by
  cases a with
  | none => rw [Json.ofOption_none, arrange.atom rfl]; rfl
  | some x =>
      have hreads := h.reads x
      rw [Json.ofOption_some, Decoder.option]
      · rw [hreads]
        rfl
      · intro hnull
        rw [hnull] at hreads
        exact h.solid x hreads

theorem items_ofItems {values : List α} {written : List Json}
    (h : List.Forall₂ (fun a value => decode (.ofJson value) = .ok a) values written) :
    items decode (Outline.ofItems written) = .ok values := by
  induction h with
  | nil => rfl
  | cons hfirst _ ih =>
      rw [Outline.ofItems, items, hfirst, ih]
      rfl

/-- A list is read item by item. -/
theorem list_array {values : List α} {written : List Json}
    (h : List.Forall₂ (fun a value => decode (.ofJson (arrange value)) = .ok a) values written) :
    list decode (.ofJson (arrange (.array written))) = .ok values := by
  rw [arrange.array, Outline.ofJson, list, items_ofItems (List.forall₂_map_right_iff.2 h)]
  rfl

theorem Inverts.list_ofList (h : decode.Inverts arrange encode) (values : List α) :
    Decoder.list decode (.ofJson (arrange (.ofList encode values))) = .ok values :=
  list_array (List.forall₂_map_right_iff.2 (List.forall₂_same.2 fun a _ => h.reads a))

theorem Inverts.list (h : decode.Inverts arrange encode) :
    (Decoder.list decode).Inverts arrange (.ofList encode) where
  reads := h.list_ofList
  solid _ := nofun

end Decoder

namespace Record

variable {α β : Type} {arrange : Json.Arrangement}

/-! ### The two passes over good members -/

theorem checkMembers_ofMembers {fields : List Field} {seen : List String}
    {members : List (String × Json)} (hnames : (members.map (·.1)).Nodup)
    (hseen : ∀ member ∈ members, member.1 ∉ seen)
    (hcheck : ∀ member ∈ members, ∀ field ∈ fields, field.name = member.1 →
      field.check (.ofJson member.2) = .ok ()) :
    checkMembers fields seen (Outline.ofMembers members) = .ok () := by
  induction members generalizing seen with
  | nil => rfl
  | cons member rest ih =>
      obtain ⟨name, value⟩ := member
      obtain ⟨hname, hnodup⟩ := List.nodup_cons.1 hnames
      obtain ⟨hfirst, hlater⟩ := List.forall_mem_cons.1 hseen
      obtain ⟨hgood, hrest⟩ := List.forall_mem_cons.1 hcheck
      cases hfind : fields.find? fun field => field.name == name with
      | none =>
          have hskip := Outline.skip_ofJson value
          simp only [Outline.ofMembers, checkMembers, Decoder.lift, bind, Except.bind, hfind, hskip]
          exact ih hnodup hlater hrest
      | some field =>
          have hfield : field.name = name := by simpa using List.find?_some hfind
          have hmem : field ∈ fields := List.mem_of_find?_eq_some hfind
          have hnew : seen.contains name = false := by simpa using hfirst
          simp only [Outline.ofMembers, checkMembers, Decoder.lift, bind, Except.bind, hfind, hnew,
            Bool.false_eq_true, if_false, hgood field hmem hfield]
          refine ih hnodup (fun later hlate => ?_) hrest
          rw [List.mem_cons, not_or]
          refine ⟨?_, hlater later hlate⟩
          rintro rfl
          exact hname (List.mem_map.2 ⟨_, hlate, rfl⟩)

theorem memberNamed_of_mem {members : List (String × Json)} (hnames : (members.map (·.1)).Nodup)
    {member : String × Json} (hmem : member ∈ members) :
    memberNamed (Outline.ofMembers members) member.1 = some (.ofJson member.2) := by
  induction members with
  | nil => cases hmem
  | cons head rest ih =>
      obtain ⟨name, value⟩ := head
      obtain ⟨hname, hnodup⟩ := List.nodup_cons.1 hnames
      rcases List.mem_cons.1 hmem with rfl | hlater
      · simp [Outline.ofMembers, memberNamed, Except.toOption]
      · have hne : name ≠ member.1 := by
          rintro rfl
          exact hname (List.mem_map.2 ⟨_, hlater, rfl⟩)
        have hhead := ih hnodup hlater
        simpa [Outline.ofMembers, memberNamed, Except.toOption, hne] using hhead

theorem memberNamed_of_not_mem {members : List (String × Json)} {name : String}
    (hnone : name ∉ members.map (·.1)) :
    memberNamed (Outline.ofMembers members) name = none := by
  induction members with
  | nil => rfl
  | cons head rest ih =>
      obtain ⟨other, value⟩ := head
      obtain ⟨hne, hrest⟩ := not_or.1 (mt List.mem_cons.2 hnone)
      have hlater := ih hrest
      simpa [Outline.ofMembers, memberNamed, Except.toOption, Ne.symm hne] using hlater

/-! ### Records as their members spell them -/

/-- The members of a list up to some rest spell a record, in the order of its fields. -/
inductive Spells (arrange : Json.Arrangement) :
    {α : Type} → Record α → α → List (String × Json) → List (String × Json) → Prop
  | pure {α : Type} {a : α} {rest : List (String × Json)} :
      Spells arrange (Record.pure a) a rest rest
  | seq {α β : Type} {f : Record (α → β)} {a : Record α} {g : α → β} {x : α}
      {members middle rest : List (String × Json)} :
      Spells arrange f g members middle → Spells arrange a x middle rest →
        Spells arrange (f <*> a) (g x) members rest
  | field {α : Type} {name : String} {omissible : Bool} {decode : Decoder α}
      {absent : Except DecodeError α} {a : α} {value : Json} {rest : List (String × Json)} :
      decode (.ofJson (arrange value)) = .ok a →
        Spells arrange (field name omissible decode absent) a ((name, value) :: rest) rest
  | absent {α : Type} {name : String} {omissible : Bool} {decode : Decoder α} {a : α}
      {rest : List (String × Json)} :
      Spells arrange (field name omissible decode (.ok a)) a rest rest

/-- What both passes make of the parts that are found by name. -/
structure Accepts (record : Record α) (look : String → Option Outline) (a : α) : Prop where
  check : ∀ field ∈ record.fields, ∀ o, look field.name = some o → field.check o = .ok ()
  build : record.build look = .ok a

namespace Spells

section Fields

variable {name : String} {decode : Decoder α} {encode : α → Json} {rest : List (String × Json)}

theorem map {f : α → β} {a : Record α} {x : α} {members : List (String × Json)}
    (h : Spells arrange a x members rest) : Spells arrange (f <$> a) (f x) members rest :=
  Spells.seq .pure h

theorem required {a : α} (h : decode.Inverts arrange encode) :
    Spells arrange (Record.required name decode) a ((name, encode a) :: rest) rest :=
  .field (h.reads a)

theorem defaulted {default a : α} (h : decode.Inverts arrange encode) :
    Spells arrange (Record.defaulted name decode default) a ((name, encode a) :: rest) rest :=
  .field (h.reads a)

theorem optional {a : Option α} (h : decode.Inverts arrange encode) :
    Spells arrange (Record.optional name decode) a ((name, .ofOption encode a) :: rest) rest :=
  .field (h.option a)

theorem omissible {a : Option α} (h : decode.Inverts arrange encode) :
    Spells arrange (Record.omissible name decode) a ((name, .ofOption encode a) :: rest) rest :=
  .field (h.option a)

end Fields

/-- The members that spell a record have names of its fields. If those differ, the record is made of
parts that are found under these names, with nothing under the names of the other fields. -/
theorem accepts {record : Record α} {a : α} {members rest : List (String × Json)}
    (h : Spells arrange record a members rest) (hnames : (record.fields.map (·.name)).Nodup) :
    ∃ used, members = used ++ rest ∧ (used.map (·.1)).Sublist (record.fields.map (·.name)) ∧
      ∀ look : String → Option Outline,
        (∀ member ∈ used, look member.1 = some (.ofJson (arrange member.2))) →
        (∀ name ∈ record.fields.map (·.name), name ∉ used.map (·.1) → look name = none) →
        record.Accepts look a := by
  induction h with
  | pure => exact ⟨[], rfl, List.Sublist.refl _, fun _ _ _ => ⟨nofun, rfl⟩⟩
  | @seq α β f a g x members middle rest _ _ ihf iha =>
      rw [fields_seq, List.map_append] at hnames ⊢
      obtain ⟨hnamesF, hnamesA, hapart⟩ := List.nodup_append'.1 hnames
      obtain ⟨usedF, rfl, hsubF, hacceptF⟩ := ihf hnamesF
      obtain ⟨usedA, rfl, hsubA, hacceptA⟩ := iha hnamesA
      refine ⟨usedF ++ usedA, (List.append_assoc ..).symm, ?_, fun look hthere hgone => ?_⟩
      · rw [List.map_append]
        exact hsubF.append hsubA
      · obtain ⟨hthereF, hthereA⟩ := List.forall_mem_append.1 hthere
        obtain ⟨hgoneF, hgoneA⟩ := List.forall_mem_append.1 hgone
        simp only [List.map_append, List.mem_append, not_or] at hgoneF hgoneA
        -- a name of one side is not used on the other
        obtain ⟨hcheckF, hbuildF⟩ := hacceptF look hthereF fun name hname hnone =>
          hgoneF name hname ⟨hnone, fun hother => hapart hname (hsubA.subset hother)⟩
        obtain ⟨hcheckA, hbuildA⟩ := hacceptA look hthereA fun name hname hnone =>
          hgoneA name hname ⟨fun hother => hapart (hsubF.subset hother) hname, hnone⟩
        refine ⟨List.forall_mem_append.2 ⟨hcheckF, hcheckA⟩, ?_⟩
        show (do let g ← f.build look; let x ← a.build look; return g x) = _
        rw [hbuildF, hbuildA]
        rfl
  | @field α name omissible decode absent a value rest hdecode =>
      refine ⟨[(name, value)], rfl, List.Sublist.refl _, fun look hthere _ => ?_⟩
      have hlook : look name = some (.ofJson (arrange value)) := hthere _ List.mem_cons_self
      refine ⟨List.forall_mem_singleton.2 fun o ho => ?_, ?_⟩
      · cases hlook.symm.trans ho
        show (decode _).map _ = _
        rw [hdecode]
        rfl
      · simp only [Record.field, hlook, hdecode]
  | @absent α name omissible decode a rest =>
      refine ⟨[], rfl, List.nil_sublist _, fun look _ hgone => ?_⟩
      have hlook : look name = none := hgone name List.mem_cons_self List.not_mem_nil
      refine ⟨List.forall_mem_singleton.2 fun o ho => ?_, ?_⟩
      · cases hlook.symm.trans ho
      · simp only [Record.field, hlook]

end Spells

/-- A record whose fields have different names is read from what spells it. -/
theorem decode_of_spells {title : String} {record : Record α} {a : α}
    {members : List (String × Json)} (hnames : (record.fields.map (·.name)).Nodup)
    (h : Spells arrange record a members []) :
    record.decode title (.ofJson (arrange (.object members))) = .ok a := by
  obtain ⟨used, hused, hsub, haccepts⟩ := h.accepts hnames
  rw [List.append_nil] at hused
  subst hused
  have hnodup : (members.map (·.1)).Nodup := hsub.nodup hnames
  obtain ⟨arranged, heq, hperm⟩ := arrange.object members hnodup
  have hsame : (arranged.map (·.1)).Perm (members.map (·.1)) := by
    have hmap := hperm.map (·.1)
    rwa [List.map_map] at hmap
  have hnodup' : (arranged.map (·.1)).Nodup := hsame.nodup_iff.2 hnodup
  obtain ⟨hcheck, hbuild⟩ := haccepts (memberNamed (Outline.ofMembers arranged))
    (fun member hmem => memberNamed_of_mem hnodup' (hperm.mem_iff.2 (List.mem_map_of_mem hmem)))
    (fun name _ hnone => memberNamed_of_not_mem fun hother => hnone (hsame.subset hother))
  have hfirst : checkMembers record.fields [] (Outline.ofMembers arranged) = .ok () := by
    refine checkMembers_ofMembers hnodup' (fun _ _ => List.not_mem_nil) ?_
    intro member hmem field hfield hname
    refine hcheck field hfield _ ?_
    rw [hname, memberNamed_of_mem hnodup' hmem]
  rw [heq, Outline.ofJson, decode, hfirst]
  exact hbuild

/-- A type is read back from what it is written as, if that spells its record. -/
theorem inverts {title : String} {record : Record α} {encode : α → Json}
    (hnames : (record.fields.map (·.name)).Nodup)
    (h : ∀ a, ∃ members, encode a = .object members ∧ Spells arrange record a members []) :
    (record.decode title).Inverts arrange encode where
  reads a := by
    obtain ⟨members, heq, hspells⟩ := h a
    rw [heq]
    exact decode_of_spells hnames hspells
  solid _ := nofun

end Record

end ChatGateway
