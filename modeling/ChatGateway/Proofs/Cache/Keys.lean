import ChatGateway.Notice.Session

/-!
Entries under keys of their own. A table that satisfies a relation between keys and values keeps it
under every operation whose new entries satisfy it. The tables of roles and members that a decoded
guild brings along are made from lists, and they are keyed by the entries themselves
(`Guild.keyed_of_decode`), whatever the lists hold.
-/

namespace ChatGateway

namespace Table

variable {κ α β : Type} [Ord κ]

def All (t : Table κ α) (P : κ → α → Prop) : Prop := ∀ k a, (k, a) ∈ t.entries → P k a

theorem all_empty (P : κ → α → Prop) : (empty : Table κ α).All P := nofun

variable {t : Table κ α} {P : κ → α → Prop}

theorem All.filter (h : t.All P) (keep : κ → α → Bool) : (t.filter keep).All P :=
  fun k a hmem => h k a (List.mem_filter.1 hmem |>.1)

theorem All.erase (h : t.All P) (k : κ) : (t.erase k).All P := h.filter _

theorem All.map {Q : κ → β → Prop} (h : t.All P) {f : κ → α → β}
    (hf : ∀ k a, P k a → Q k (f k a)) : (t.map f).All Q := by
  intro k b hmem
  obtain ⟨e, he, heq⟩ := List.mem_map.1 hmem
  cases heq
  exact hf e.1 e.2 (h e.1 e.2 he)

theorem All.modify (h : t.All P) (k : κ) {f : α → α} (hf : ∀ k a, P k a → P k (f a)) :
    (t.modify k f).All P := by
  refine h.map fun k' a ha => ?_
  split
  next => exact hf k' a ha
  next => exact ha

/-- The value that is found under a key is an entry. -/
theorem mem_of_find [Std.LawfulEqOrd κ] {k : κ} {a : α} {entries : List (κ × α)}
    (h : find k entries = some a) : (k, a) ∈ entries := by
  induction entries with
  | nil => cases h
  | cons head rest ih =>
      obtain ⟨k', a'⟩ := head
      rw [find] at h
      split at h
      next heq =>
        cases h
        rw [Std.LawfulEqCmp.eq_of_compare heq]
        exact List.mem_cons_self
      next => exact List.mem_cons_of_mem _ (ih h)

theorem All.of_get? [Std.LawfulEqOrd κ] (h : t.All P) {k : κ} {a : α} (hget : t.get? k = some a) :
    P k a := h k a (mem_of_find hget)

variable [Std.TransOrd κ] [Std.LawfulEqOrd κ]

theorem All.insert (h : t.All P) {k : κ} {a : α} (ha : P k a) : (t.insert k a).All P := by
  intro k' a' hmem
  rcases mem_insertEntry hmem with heq | hold
  · cases heq
    exact ha
  · exact h k' a' hold

theorem All.insertAll (h : t.All P) {entries : List (κ × α)} (hentries : ∀ e ∈ entries, P e.1 e.2) :
    (t.insertAll entries).All P := by
  unfold Table.insertAll
  induction entries generalizing t with
  | nil => exact h
  | cons e rest ih =>
      refine ih (h.insert (hentries e List.mem_cons_self)) fun later hlater => ?_
      exact hentries later (List.mem_cons_of_mem _ hlater)

end Table

/-! ### What a decoder makes -/

namespace Decoder

variable {α : Type} {decode : Decoder α}

/-- A chain that succeeds has a first part that does. -/
theorem of_bind_ok {ε α β : Type} {first : Except ε α} {rest : α → Except ε β} {b : β}
    (h : (do let a ← first; rest a) = .ok b) : ∃ a, first = .ok a ∧ rest a = .ok b := by
  cases first with
  | error e => cases h
  | ok a => exact ⟨a, rfl, h⟩

theorem mismatch_ne_ok {wanted : String} {o : Outline} {a : α} : mismatch wanted o ≠ .ok a := by
  unfold mismatch
  split <;> exact nofun

theorem mem_items {outlines : List Outline} {made : List α} (h : items decode outlines = .ok made)
    {a : α} (ha : a ∈ made) : ∃ o, decode o = .ok a := by
  induction outlines generalizing made with
  | nil =>
      cases h
      cases ha
  | cons o rest ih =>
      obtain ⟨first, hfirst, h⟩ := of_bind_ok h
      obtain ⟨more, hmore, h⟩ := of_bind_ok h
      cases h
      rcases List.mem_cons.1 ha with rfl | hlater
      · exact ⟨o, hfirst⟩
      · exact ih hmore hlater

theorem mem_list {o : Outline} {made : List α} (h : list decode o = .ok made) {a : α}
    (ha : a ∈ made) : ∃ item, decode item = .ok a := by
  unfold list at h
  split at h
  next content ending =>
    obtain ⟨decoded, hdecoded, h⟩ := of_bind_ok h
    obtain ⟨_, -, h⟩ := of_bind_ok h
    cases h
    exact mem_items hdecoded ha
  next => exact absurd h mismatch_ne_ok

end Decoder

namespace Record

variable {α β : Type}

def Ensures (record : Record α) (P : α → Prop) : Prop :=
  ∀ look a, record.build look = .ok a → P a

theorem ensures_true (record : Record α) : record.Ensures fun _ => True := fun _ _ _ => trivial

theorem Ensures.seq {f : Record (α → β)} {a : Record α} {Q : α → Prop} {P : β → Prop}
    (hf : f.Ensures fun g => ∀ x, Q x → P (g x)) (ha : a.Ensures Q) : (f <*> a).Ensures P := by
  intro look b hb
  obtain ⟨g, hg, hb⟩ := Decoder.of_bind_ok hb
  obtain ⟨x, hx, hb⟩ := Decoder.of_bind_ok hb
  cases hb
  exact hf look g hg x (ha look x hx)

theorem Ensures.map {f : α → β} {a : Record α} {Q : α → Prop} {P : β → Prop} (ha : a.Ensures Q)
    (hf : ∀ x, Q x → P (f x)) : (f <$> a).Ensures P :=
  Ensures.seq (f := Record.pure f) (fun _ _ hg => by cases hg; exact hf) ha

theorem ensures_field {name : String} {omissible : Bool} {decode : Decoder α}
    {absent : Except DecodeError α} {P : α → Prop} (hdecode : ∀ o a, decode o = .ok a → P a)
    (habsent : ∀ a, absent = .ok a → P a) : (field name omissible decode absent).Ensures P := by
  intro look a ha
  rw [field] at ha
  dsimp only at ha
  split at ha
  next => exact hdecode _ a ha
  next => exact habsent a ha

theorem ensures_defaulted {name : String} {decode : Decoder α} {default : α} {P : α → Prop}
    (hdecode : ∀ o a, decode o = .ok a → P a) (hdefault : P default) :
    (defaulted name decode default).Ensures P :=
  ensures_field hdecode fun a ha => by cases ha; exact hdefault

/-- What is decoded was built, from the members of an object or from the items of an array. -/
theorem Ensures.of_decode {title : String} {record : Record α} {P : α → Prop}
    (h : record.Ensures P) {o : Outline} {a : α} (hdecode : record.decode title o = .ok a) :
    P a := by
  unfold Record.decode at hdecode
  split at hdecode
  next members ending =>
    obtain ⟨_, -, hdecode⟩ := Decoder.of_bind_ok hdecode
    obtain ⟨_, -, hdecode⟩ := Decoder.of_bind_ok hdecode
    exact h _ a hdecode
  next items ending =>
    obtain ⟨_, -, hdecode⟩ := Decoder.of_bind_ok hdecode
    exact h _ a hdecode
  next => exact absurd hdecode Decoder.mismatch_ne_ok

end Record

open Record (ensures_true)

namespace Guild

/-- Roles stand under their own identifiers, and members under those of their users. -/
structure Keyed (guild : Guild) : Prop where
  roles : guild.roles.All fun id role => role.id = id
  members : guild.members.All fun id member => member.id? = some id

/-- A list of entries becomes a table that is keyed by the entries, of which those without a key
are left out. -/
theorem all_of_keyed {α : Type} {decode : Decoder α} {key : α → Option Snowflake} {o : Outline}
    {t : Table Snowflake α} (h : keyed decode key o = .ok t) : t.All fun k a => key a = some k := by
  unfold keyed at h
  cases hlist : Decoder.list decode o with
  | error e =>
      rw [hlist] at h
      cases h
  | ok entries =>
      rw [hlist] at h
      cases h
      refine (Table.all_empty _).insertAll fun e he => ?_
      obtain ⟨entry, -, hentry⟩ := List.mem_filterMap.1 he
      obtain ⟨k, hk, rfl⟩ := Option.map_eq_some_iff.1 hentry
      exact hk

theorem ensures_record : record.Ensures Keyed := by
  have hroles : (Record.defaulted "roles" (keyed Role.decode fun role => some role.id)
      .empty).Ensures fun roles => roles.All fun id role => role.id = id :=
    Record.ensures_defaulted
      (fun o t h id role hmem => Option.some.inj (all_of_keyed h id role hmem)) (Table.all_empty _)
  have hmembers : (Record.defaulted "members" (keyed Member.decode Member.id?)
      .empty).Ensures fun members => members.All fun id member => member.id? = some id :=
    Record.ensures_defaulted (fun _ _ => all_of_keyed) (Table.all_empty _)
  unfold record
  -- nothing is asked of the fields but of the two tables
  refine .seq (.seq (.seq (.seq (.seq (.seq (.seq (.seq (.seq (.seq (.seq (.map (ensures_true _) ?_)
    (ensures_true _)) (ensures_true _)) (ensures_true _)) (ensures_true _)) (ensures_true _))
    (ensures_true _)) (ensures_true _)) hroles) hmembers) (ensures_true _)) (ensures_true _)
  intro _ _ _ _ _ _ _ _ _ _ _ _ _ _ _ _ roles hroles members hmembers _ _ _ _
  exact ⟨hroles, hmembers⟩

theorem keyed_of_decode {o : Outline} {guild : Guild} (h : Guild.decode o = .ok guild) :
    guild.Keyed := ensures_record.of_decode h

end Guild

/-- The guilds that come with a session are decoded as guilds. -/
theorem ReadyEvent.keyed_of_decode {o : Outline} {ready : ReadyEvent}
    (h : ReadyEvent.decode o = .ok ready) : ∀ guild ∈ ready.guilds, guild.Keyed := by
  have hguilds : (Record.defaulted "guilds" (Decoder.list Guild.decode) []).Ensures
      fun guilds => ∀ guild ∈ guilds, guild.Keyed := by
    refine Record.ensures_defaulted (fun o guilds hlist guild hmem => ?_) nofun
    obtain ⟨item, hitem⟩ := Decoder.mem_list hlist hmem
    exact Guild.keyed_of_decode hitem
  refine Record.Ensures.of_decode (P := fun ready => ∀ guild ∈ ready.guilds, guild.Keyed) ?_ h
  unfold record
  refine .seq (.seq (.seq (.seq (.seq (.map (ensures_true _) ?_) (ensures_true _)) hguilds)
    (ensures_true _)) (ensures_true _)) (ensures_true _)
  intro _ _ _ _ guilds hguilds _ _ _ _ _ _
  exact hguilds

end ChatGateway
