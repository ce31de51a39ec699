import ChatGateway.Json.Printer
import ChatGateway.Json.Reader

/-!
Reading what was printed. The text of a value is read back as the value, with whatever follows it
left over, if its whole numbers fit a machine word, it holds no doubles and it is not nested too
deep (`Json.Legible`). A string is read character by character, whatever its characters are; of a
number the only thing to know is that nothing follows that could be a part of it
(`Number.Ends`).
-/

namespace ChatGateway.Json

/-! ### Strings -/

namespace QuotedText

def Piece.For (piece : Piece) (c : Char) : Prop :=
  ∀ cut later, join cut (piece :: later) = (join cut later).map (c :: ·)

theorem char_for (c : Char) : (Piece.char c).For c := fun _ _ => rfl

/-- A code unit below the surrogates stands for its own character. -/
theorem unit_for {c : Char} (h : c.toNat < 0xD800) : (Piece.unit c.toNat).For c := by
  have hhigh : isHighSurrogate c.toNat = false := by simp [isHighSurrogate]; omega
  have hlow : isLowSurrogate c.toNat = false := by simp [isLowSurrogate]; omega
  intro cut later
  rcases later with _ | ⟨next | next, later⟩ <;> simp [join, hhigh, hlow]

theorem hexUnit?_control : ∀ n < 0x20,
    hexUnit? '0' '0' (Nat.digitChar (n / 16)) (Nat.digitChar (n % 16)) = some n := by decide

/-- An escaped character is read as one piece, which stands for it. -/
theorem pieces_escape (c : Char) : ∃ piece : Piece, piece.For c ∧
    ∀ rest, pieces (escape c ++ rest) = push piece (pieces rest) := by
  unfold escape
  split
  iterate 7 exact ⟨_, char_for _, fun _ => rfl⟩
  next hquote hslash _ _ _ _ _ =>
    split
    next hcontrol =>
      refine ⟨_, unit_for (by omega), fun rest => ?_⟩
      simp only [controlEscape, List.cons_append, List.nil_append, pieces,
        hexUnit?_control c.toNat hcontrol]
    next hplain =>
      refine ⟨_, char_for c, fun rest => ?_⟩
      rw [List.singleton_append, pieces, if_neg hplain]
      · exact hquote
      · exact fun _ _ _ _ _ h _ => hslash h
      · exact fun _ h _ => hslash h
      · exact fun _ _ h _ => hslash h
      · exact fun h _ => hslash h

theorem pieces_escapeAll (cs rest : List Char) :
    ∃ ps, pieces (cs.flatMap escape ++ '"' :: rest) = (ps, .ok rest) ∧ join false ps = some cs := by
  induction cs with
  | nil => exact ⟨[], rfl, rfl⟩
  | cons c cs ih =>
      obtain ⟨ps, hps, hjoin⟩ := ih
      obtain ⟨piece, hfor, hpiece⟩ := pieces_escape c
      refine ⟨piece :: ps, ?_, ?_⟩
      · rw [List.flatMap_cons, List.append_assoc, hpiece, hps]
        rfl
      · rw [hfor, hjoin]
        rfl

theorem read_escapeAll (s : String) (rest : List Char) :
    read (s.toList.flatMap escape ++ '"' :: rest) = .closed (some s) rest := by
  obtain ⟨ps, hps, hjoin⟩ := pieces_escapeAll s.toList rest
  rw [read, hps]
  simp only [hjoin, Option.map_some, String.ofList_toList]

end QuotedText

/-! ### Numbers -/

namespace Number

/-- A number ends here: what follows is no part of it. -/
def Ends (rest : List Char) : Prop :=
  ∀ c ∈ rest.head?, c.isDigit = false ∧ c ≠ '.' ∧ c ≠ 'e' ∧ c ≠ 'E'

theorem ends_nil : Ends [] := nofun

theorem ends_cons {c : Char} (h : c.isDigit = false ∧ c ≠ '.' ∧ c ≠ 'e' ∧ c ≠ 'E')
    (rest : List Char) : Ends (c :: rest) := fun d hd => by
  cases hd
  exact h

theorem tail_of_ends {negative : Bool} {word : Nat} {rest : List Char} (h : Ends rest) :
    tail negative word 0 rest = (wholeNumber negative word, some rest) := by
  cases rest with
  | nil => rfl
  | cons c rest =>
      obtain ⟨-, hpoint, he, hE⟩ := h c rfl
      rw [tail]
      · simp [he, hE]
      · exact hpoint

theorem le_ofDigitChars (ds : List Char) (word : Nat) : word ≤ Nat.ofDigitChars 10 ds word := by
  induction ds generalizing word with
  | nil => exact Nat.le_refl _
  | cons d ds ih =>
      rw [Nat.ofDigitChars_cons]
      exact Nat.le_trans (by omega) (ih _)

/-- Digits are collected in the word as long as it has room for them. -/
theorem whole_digits {ds rest : List Char} (hdigits : ∀ d ∈ ds, d.isDigit = true)
    (hends : Ends rest) {word : Nat} (hroom : Nat.ofDigitChars 10 ds word < UInt64.size) :
    whole word 0 (ds ++ rest) = (Nat.ofDigitChars 10 ds word, 0, rest) := by
  induction ds generalizing word with
  | nil =>
      cases rest with
      | nil => rfl
      | cons c rest =>
          rw [List.nil_append, whole, (hends c rfl).1]
          rfl
  | cons d ds ih =>
      obtain ⟨hd, hds⟩ := List.forall_mem_cons.1 hdigits
      rw [Nat.ofDigitChars_cons] at hroom ⊢
      have hnext : 10 * word + (d.toNat - 48) < UInt64.size :=
        Nat.lt_of_le_of_lt (le_ofDigitChars ds _) hroom
      rw [List.cons_append, whole, if_pos hd]
      simp only [true_and, if_pos hnext]
      exact ih hds hroom

theorem digitChar_ne_zero : ∀ n < 10, 0 < n → Nat.digitChar n ≠ '0' := by decide

/-- Only zero is written with a leading zero. -/
theorem exists_write_eq {n : Nat} (h : 0 < n) :
    ∃ d ds, Decimal.write n = d :: ds ∧ d ≠ '0' := by
  induction n using Nat.strongRecOn with
  | _ n ih =>
      rw [Decimal.write]
      by_cases hlt : n < 10
      · rw [Nat.toDigits_of_lt_base hlt]
        exact ⟨_, _, rfl, digitChar_ne_zero n hlt h⟩
      · obtain ⟨d, ds, heq, hne⟩ := ih (n / 10) (by omega) (by omega)
        rw [Decimal.write] at heq
        rw [Nat.toDigits_of_base_le (by decide) (by omega), heq]
        exact ⟨_, _, rfl, hne⟩

/-- A number is read back from its decimal notation. -/
theorem magnitude_write {negative : Bool} {n : Nat} (hn : n < UInt64.size) {rest : List Char}
    (hends : Ends rest) :
    magnitude negative (Decimal.write n ++ rest) = (wholeNumber negative n, some rest) := by
  rcases Nat.eq_zero_or_pos n with rfl | hpos
  · show magnitude negative ('0' :: rest) = _
    rw [← tail_of_ends hends]
    cases rest with
    | nil => rfl
    | cons c rest => rw [magnitude, (hends c rfl).1, if_neg Bool.false_ne_true]
  · obtain ⟨d, ds, heq, hne⟩ := exists_write_eq hpos
    have hdigits : ∀ c ∈ Decimal.write n, c.isDigit = true := fun c => Decimal.isDigit_of_mem_write
    have hvalue : Nat.ofDigitChars 10 (Decimal.write n) 0 = n := Nat.ofDigitChars_ten_toDigits
    have hwhole := whole_digits hdigits hends (by rw [hvalue]; exact hn)
    rw [hvalue, heq, List.cons_append] at hwhole
    rw [heq, List.cons_append, magnitude]
    · rw [if_pos (hdigits d (heq ▸ List.mem_cons_self)), hwhole]
      exact tail_of_ends hends
    · exact hne

end Number

/-! ### Values -/

/-- Values that can be read back where they stand: whole numbers fit a machine word, there are no
doubles, and no container is deeper than what is read. -/
inductive Legible : Nat → Json → Prop
  | null {depth : Nat} : Legible depth .null
  | bool {depth : Nat} (b : Bool) : Legible depth (.bool b)
  | int {depth : Nat} {n : Int} : -0x8000000000000000 ≤ n → n < 0x10000000000000000 →
      Legible depth (.int n)
  | string {depth : Nat} (s : String) : Legible depth (.string s)
  | array {depth : Nat} {items : List Json} : depth ≤ Reader.depthLimit →
      (∀ item ∈ items, Legible (depth + 1) item) → Legible depth (.array items)
  | object {depth : Nat} {members : List (String × Json)} : depth ≤ Reader.depthLimit →
      (∀ member ∈ members, Legible (depth + 1) member.2) → Legible depth (.object members)

namespace Reader

variable {fuel depth : Nat}

theorem limit_of_le (h : depth ≤ depthLimit) (o : Outline) (rest : Option (List Char)) :
    limit depth (o, rest) = (o, rest) := if_pos h

theorem isBlank_of_isDigit {c : Char} (h : c.isDigit = true) : isBlank c = false := by
  simp only [isBlank, Bool.or_eq_false_iff, decide_eq_false_iff_not]
  refine ⟨⟨⟨?_, ?_⟩, ?_⟩, ?_⟩
  all_goals
    rintro rfl
    exact absurd h (by decide)

theorem value_digit {d : Char} (hd : d.isDigit = true) (cs : List Char) :
    value (fuel + 1) depth (d :: cs) = Number.magnitude false (d :: cs) := by
  have hblank : dropBlanks (d :: cs) = d :: cs := by
    simp [dropBlanks, isBlank_of_isDigit hd]
  rw [value, hblank]
  split <;> simp_all

theorem value_int {n : Int} (hlow : -0x8000000000000000 ≤ n) (hhigh : n < 0x10000000000000000)
    {rest : List Char} (hends : Number.Ends rest) :
    value (fuel + 1) depth (print (.int n) ++ rest) = (.int n, some rest) := by
  cases n with
  | ofNat n =>
      have hn : n < UInt64.size := Int.ofNat_lt.1 hhigh
      have hmagnitude : Number.magnitude false (Decimal.write n ++ rest) = (.int n, some rest) :=
        Number.magnitude_write hn hends
      obtain ⟨d, ds, heq⟩ := List.exists_cons_of_ne_nil (Decimal.write_ne_nil n)
      have hd : d.isDigit = true := Decimal.isDigit_of_mem_write (heq ▸ List.mem_cons_self)
      show value (fuel + 1) depth (Decimal.write n ++ rest) = _
      rw [heq, List.cons_append] at hmagnitude ⊢
      exact (value_digit hd _).trans hmagnitude
  | negSucc n =>
      have hn : n + 1 ≤ 0x8000000000000000 := by omega
      have hsize : n + 1 < UInt64.size := Nat.lt_of_le_of_lt hn (by decide)
      show Number.magnitude true (Decimal.write (n + 1) ++ rest) = _
      rw [Number.magnitude_write hsize hends, Number.wholeNumber, if_pos rfl, if_neg (by omega)]
      rfl

theorem exists_printString_eq (s : String) (rest : List Char) :
    ∃ cs, printString s ++ rest = '"' :: cs ∧ QuotedText.read cs = .closed (some s) rest := by
  refine ⟨s.toList.flatMap escape ++ '"' :: rest, ?_, QuotedText.read_escapeAll s rest⟩
  simp [printString]

theorem value_string (s : String) (rest : List Char) :
    value (fuel + 1) depth (printString s ++ rest) = (.string s, some rest) := by
  obtain ⟨cs, htext, hread⟩ := exists_printString_eq s rest
  have hquote : dropBlanks ('"' :: cs) = '"' :: cs := rfl
  simp only [htext, value, hquote, hread]

/-- What a text begins with, so that neither a blank nor the end of an array is taken for it. -/
theorem exists_print_eq {value : Json} (h : Legible depth value) :
    ∃ c cs, print value = c :: cs ∧ isBlank c = false ∧ c ≠ ']' := by
  cases h with
  | null => exact ⟨_, _, rfl, by decide⟩
  | bool b => cases b <;> exact ⟨_, _, rfl, by decide⟩
  | @int _ n _ _ =>
      cases n with
      | ofNat n =>
          obtain ⟨d, ds, heq⟩ := List.exists_cons_of_ne_nil (Decimal.write_ne_nil n)
          have hd : d.isDigit = true := Decimal.isDigit_of_mem_write (heq ▸ List.mem_cons_self)
          refine ⟨d, ds, heq, isBlank_of_isDigit hd, ?_⟩
          rintro rfl
          exact absurd hd (by decide)
      | negSucc n => exact ⟨_, _, rfl, by decide⟩
  | string s => exact ⟨_, _, rfl, by decide⟩
  | array _ _ => exact ⟨_, _, rfl, by decide⟩
  | object _ _ => exact ⟨_, _, rfl, by decide⟩

theorem print_array (items : List Json) : print (.array items) = '[' :: printItems items ++ [']'] :=
  rfl

theorem print_object (members : List (String × Json)) :
    print (.object members) = '\x7b' :: printMembers members ++ ['\x7d'] := rfl

theorem exists_printItems_eq (item : Json) (more : List Json) :
    ∃ later, printItems (item :: more) = print item ++ later := by
  cases more with
  | nil => exact ⟨[], (List.append_nil _).symm⟩
  | cons next more => exact ⟨_, rfl⟩

theorem exists_printMembers_eq (member : String × Json) (more : List (String × Json)) :
    ∃ later, printMembers (member :: more) = '"' :: later := by
  cases more <;> exact ⟨_, rfl⟩

theorem dropBlanks_cons {c : Char} (h : isBlank c = false) (cs : List Char) :
    dropBlanks (c :: cs) = c :: cs := by simp [dropBlanks, h]

/-! ### One step of each reader -/

theorem value_array {c : Char} (hblank : isBlank c = false) (hclose : c ≠ ']') {cs : List Char}
    {content : List Outline} {ending : Option Flaw} {rest : Option (List Char)}
    (h : items fuel (depth + 1) (c :: cs) = (content, ending, rest)) :
    value (fuel + 1) depth ('[' :: c :: cs) = limit depth (.array content ending, rest) := by
  rw [value, dropBlanks_cons rfl]
  simp only [dropBlanks_cons hblank]
  split <;> simp_all

theorem value_object {cs : List Char} {content : List (Except Flaw String × Outline)}
    {ending : Option Flaw} {rest : Option (List Char)}
    (h : members fuel (depth + 1) ('"' :: cs) = (content, ending, rest)) :
    value (fuel + 1) depth ('\x7b' :: '"' :: cs) = limit depth (.object content ending, rest) := by
  have hquote : dropBlanks ('"' :: cs) = '"' :: cs := rfl
  rw [value, dropBlanks_cons rfl]
  simp only [hquote]
  split <;> simp_all

theorem items_last {cs rest : List Char} {item : Outline}
    (h : value fuel depth cs = (item, some (']' :: rest))) :
    items (fuel + 1) depth cs = ([item], none, some rest) := by
  have hclose : dropBlanks (']' :: rest) = ']' :: rest := rfl
  simp only [items, h, hclose]

theorem items_more {cs more : List Char} {item : Outline} {later : List Outline}
    {ending : Option Flaw} {rest : Option (List Char)}
    (h : value fuel depth cs = (item, some (',' :: more)))
    (hlater : items fuel depth more = (later, ending, rest)) :
    items (fuel + 1) depth cs = (item :: later, ending, rest) := by
  have hcomma : dropBlanks (',' :: more) = ',' :: more := rfl
  simp only [items, h, hcomma, hlater]

theorem members_last {name : String} {cs rest : List Char} {item : Outline}
    (h : value fuel depth cs = (item, some ('\x7d' :: rest))) :
    members (fuel + 1) depth (printString name ++ ':' :: cs)
      = ([(.ok name, item)], none, some rest) := by
  obtain ⟨text, htext, hread⟩ := exists_printString_eq name (':' :: cs)
  have hquote : dropBlanks ('"' :: text) = '"' :: text := rfl
  have hcolon : dropBlanks (':' :: cs) = ':' :: cs := rfl
  have hclose : dropBlanks ('\x7d' :: rest) = '\x7d' :: rest := rfl
  simp only [htext, members, hquote, hread, hcolon, h, hclose]

theorem members_more {name : String} {cs more : List Char} {item : Outline}
    {later : List (Except Flaw String × Outline)} {ending : Option Flaw}
    {rest : Option (List Char)} (h : value fuel depth cs = (item, some (',' :: more)))
    (hlater : members fuel depth more = (later, ending, rest)) :
    members (fuel + 1) depth (printString name ++ ':' :: cs)
      = ((.ok name, item) :: later, ending, rest) := by
  obtain ⟨text, htext, hread⟩ := exists_printString_eq name (':' :: cs)
  have hquote : dropBlanks ('"' :: text) = '"' :: text := rfl
  have hcolon : dropBlanks (':' :: cs) = ':' :: cs := rfl
  have hcomma : dropBlanks (',' :: more) = ',' :: more := rfl
  simp only [htext, members, hquote, hread, hcolon, h, hcomma, hlater]

/-! ### Whole values -/

mutual

/-- A printed value is read back, and what follows is left over. -/
theorem value_print (fuel depth : Nat) {j : Json} (h : Legible depth j)
    (hfuel : 2 * (print j).length ≤ fuel) {rest : List Char} (hends : Number.Ends rest) :
    value fuel depth (print j ++ rest) = (.ofJson j, some rest) := by
  obtain ⟨c, cs, hprint, -⟩ := exists_print_eq h
  obtain ⟨fuel, rfl⟩ : ∃ less, fuel = less + 1 := by
    rw [hprint, List.length_cons] at hfuel
    exact ⟨fuel - 1, by omega⟩
  cases h with
  | null => rfl
  | bool b => cases b <;> rfl
  | int hlow hhigh => exact value_int hlow hhigh hends
  | string s => exact value_string s rest
  | @array _ items hdepth hitems =>
      cases items with
      | nil =>
          show limit depth (.array [] none, some rest) = _
          exact limit_of_le hdepth _ _
      | cons first more =>
          have htext : print (.array (first :: more)) ++ rest
              = '[' :: (printItems (first :: more) ++ ']' :: rest) := by simp [print_array]
          have hroom : 2 * (printItems (first :: more)).length + 1 ≤ fuel := by
            simp [print_array] at hfuel
            omega
          have hread := items_print fuel (depth + 1) hitems hroom rest
          obtain ⟨c, cs, hfirst, hblank, hclose⟩ :=
            exists_print_eq (hitems first List.mem_cons_self)
          obtain ⟨later, hlater⟩ := exists_printItems_eq first more
          rw [hlater, hfirst, List.cons_append, List.cons_append] at hread htext
          rw [htext]
          exact (value_array hblank hclose hread).trans (limit_of_le hdepth _ _)
  | @object _ members hdepth hmembers =>
      cases members with
      | nil =>
          show limit depth (.object [] none, some rest) = _
          exact limit_of_le hdepth _ _
      | cons first more =>
          have htext : print (.object (first :: more)) ++ rest
              = '\x7b' :: (printMembers (first :: more) ++ '\x7d' :: rest) := by simp [print_object]
          have hroom : 2 * (printMembers (first :: more)).length + 1 ≤ fuel := by
            simp [print_object] at hfuel
            omega
          have hread := members_print fuel (depth + 1) hmembers hroom rest
          obtain ⟨later, hlater⟩ := exists_printMembers_eq first more
          rw [hlater, List.cons_append] at hread htext
          rw [htext]
          exact (value_object hread).trans (limit_of_le hdepth _ _)

theorem items_print (fuel depth : Nat) {first : Json} {more : List Json}
    (h : ∀ item ∈ first :: more, Legible depth item)
    (hfuel : 2 * (printItems (first :: more)).length + 1 ≤ fuel) (rest : List Char) :
    items fuel depth (printItems (first :: more) ++ ']' :: rest)
      = (Outline.ofItems (first :: more), none, some rest) := by
  obtain ⟨fuel, rfl⟩ : ∃ less, fuel = less + 1 := ⟨fuel - 1, by omega⟩
  obtain ⟨hfirst, hmore⟩ := List.forall_mem_cons.1 h
  cases more with
  | nil =>
      rw [printItems] at hfuel ⊢
      exact items_last (value_print fuel depth hfirst (by omega) (Number.ends_cons (by decide) _))
  | cons next more =>
      have htext : printItems (first :: next :: more) ++ ']' :: rest
          = print first ++ ',' :: (printItems (next :: more) ++ ']' :: rest) := by simp [printItems]
      have hlength : (printItems (first :: next :: more)).length
          = (print first).length + 1 + (printItems (next :: more)).length := by
        simp [printItems]
        omega
      have hlater := items_print fuel depth hmore (by omega) rest
      rw [htext]
      refine items_more (value_print fuel depth hfirst (by omega) ?_) hlater
      exact Number.ends_cons (by decide) _

theorem members_print (fuel depth : Nat) {first : String × Json} {more : List (String × Json)}
    (h : ∀ member ∈ first :: more, Legible depth member.2)
    (hfuel : 2 * (printMembers (first :: more)).length + 1 ≤ fuel) (rest : List Char) :
    members fuel depth (printMembers (first :: more) ++ '\x7d' :: rest)
      = (Outline.ofMembers (first :: more), none, some rest) := by
  obtain ⟨fuel, rfl⟩ : ∃ less, fuel = less + 1 := ⟨fuel - 1, by omega⟩
  obtain ⟨name, item⟩ := first
  obtain ⟨hfirst, hmore⟩ := List.forall_mem_cons.1 h
  change Legible depth item at hfirst
  cases more with
  | nil =>
      have htext : printMembers [(name, item)] ++ '\x7d' :: rest
          = printString name ++ ':' :: (print item ++ '\x7d' :: rest) := by simp [printMembers]
      have hlength : (printMembers [(name, item)]).length
          = (printString name).length + 1 + (print item).length := by
        simp [printMembers]
        omega
      rw [htext]
      exact members_last (value_print fuel depth hfirst (by omega) (Number.ends_cons (by decide) _))
  | cons next more =>
      have htext : printMembers ((name, item) :: next :: more) ++ '\x7d' :: rest
          = printString name ++ ':' :: (print item ++ ',' :: (printMembers (next :: more)
            ++ '\x7d' :: rest)) := by simp [printMembers]
      have hlength : (printMembers ((name, item) :: next :: more)).length
          = (printString name).length + 1 + (print item).length + 1
            + (printMembers (next :: more)).length := by
        simp [printMembers]
        omega
      have hlater := members_print fuel depth hmore (by omega) rest
      rw [htext]
      refine members_more (value_print fuel depth hfirst (by omega) ?_) hlater
      exact Number.ends_cons (by decide) _

end

end Reader

/-- The text of a legible value is read as that value, and nothing else stands in it. -/
theorem read_render {value : Json} (h : Legible 1 value) :
    Document.read value.render = ⟨.ofJson value, false⟩ := by
  have hread := Reader.value_print (2 * value.print.length + 2) 1 h (by omega) Number.ends_nil
  rw [List.append_nil] at hread
  simp only [Document.read, render, String.toList_ofList, hread]
  rfl

end ChatGateway.Json
