import ChatGateway.Proofs.Cache.Records
import Mathlib.Data.Finset.Card

/-!
Counted reactions and the users behind them. Emojis are sorted by what identifies them: a custom one
by its identifier, a unicode one by its name. The records of one identity never have to do with
those of another one (`of_add`, `of_remove`), so that the records of a message fall apart into one
tally for each identity, which is compared with one set of users.
-/

namespace ChatGateway

inductive EmojiIdentity where
  | custom (id : Snowflake)
  | unicode (name : String)
  deriving DecidableEq

/-- The identity of an emoji; one with neither an identifier nor a name has none. -/
def Emoji.identity? (emoji : Emoji) : Option EmojiIdentity :=
  match emoji.id, emoji.name with
  | some id, _ => some (.custom id)
  | none, some name => some (.unicode name)
  | none, none => none

/-- Emojis are the same if they have the same identity. -/
theorem Emoji.sameAs_iff (a b : Emoji) :
    a.sameAs b = true ↔ ∃ identity, a.identity? = some identity ∧ b.identity? = some identity := by
  obtain ⟨aid, aname, _⟩ := a
  obtain ⟨bid, bname, _⟩ := b
  cases aid <;> cases bid <;> cases aname <;> cases bname <;>
    simp [sameAs, identity?]
  all_goals exact eq_comm

namespace Reactions

def of (identity : EmojiIdentity) (records : List Reaction) : List Reaction :=
  records.filter fun record => record.emoji.identity? = some identity

theorem of_cons (identity : EmojiIdentity) (record : Reaction) (rest : List Reaction) :
    of identity (record :: rest) =
      if record.emoji.identity? = some identity then record :: of identity rest
      else of identity rest := by
  unfold of
  rw [List.filter_cons]
  simp only [decide_eq_true_eq]

/-- A record that is the same one as an emoji is a record of its identity and of no other. -/
theorem sameAs_of {record : Reaction} {emoji : Emoji} (hsame : record.emoji.sameAs emoji = true) :
    record.emoji.identity? = emoji.identity? := by
  obtain ⟨identity, hrecord, hemoji⟩ := (Emoji.sameAs_iff _ _).1 hsame
  rw [hrecord, hemoji]

/-- A reaction is counted among the records of its emoji, and the others stay as they are. -/
theorem of_add (identity : EmojiIdentity) (emoji : Emoji) (byMe : Bool)
    (records : List Reaction) :
    of identity (added emoji byMe records) =
      if emoji.identity? = some identity then added emoji byMe (of identity records)
      else of identity records := by
  induction records with
  | nil => exact of_cons identity _ []
  | cons known rest ih =>
      by_cases hsame : known.emoji.sameAs emoji = true
      · rw [added_cons_of_same hsame, of_cons, of_cons, emoji_getD_countUp?, sameAs_of hsame]
        by_cases hemoji : emoji.identity? = some identity
        · rw [if_pos hemoji, if_pos hemoji, if_pos hemoji, added_cons_of_same hsame]
        · rw [if_neg hemoji, if_neg hemoji, if_neg hemoji]
      · rw [added_cons_of_other hsame, of_cons, of_cons, ih]
        by_cases hknown : known.emoji.identity? = some identity
        · rw [if_pos hknown, if_pos hknown]
          by_cases hemoji : emoji.identity? = some identity
          · exact absurd ((Emoji.sameAs_iff _ _).2 ⟨identity, hknown, hemoji⟩) hsame
          · rw [if_neg hemoji, if_neg hemoji]
        · rw [if_neg hknown, if_neg hknown]

/-- A reaction is taken back among the records of its emoji, and the others stay as they are. -/
theorem of_remove (identity : EmojiIdentity) (emoji : Emoji) (byMe : Bool)
    (records : List Reaction) :
    of identity (remove emoji byMe records) =
      if emoji.identity? = some identity then remove emoji byMe (of identity records)
      else of identity records := by
  induction records with
  | nil => simp [remove, of]
  | cons known rest ih =>
      rw [remove]
      by_cases hsame : known.emoji.sameAs emoji = true
      · rw [if_pos hsame]
        by_cases hemoji : emoji.identity? = some identity
        · have hknown : known.emoji.identity? = some identity := (sameAs_of hsame).trans hemoji
          rw [of_cons, if_pos hknown, if_pos hemoji, remove, if_pos hsame]
          split
          next => rfl
          next => rw [of_cons, if_pos hknown]
        · have hknown : known.emoji.identity? ≠ some identity := by
            rw [sameAs_of hsame]
            exact hemoji
          rw [of_cons, if_neg hknown, if_neg hemoji]
          split
          next => rfl
          next => rw [of_cons, if_neg hknown]
      · rw [if_neg hsame, of_cons, of_cons, ih]
        by_cases hknown : known.emoji.identity? = some identity
        · rw [if_pos hknown, if_pos hknown]
          by_cases hemoji : emoji.identity? = some identity
          · rw [if_pos hemoji, if_pos hemoji, remove, if_neg hsame]
          · rw [if_neg hemoji, if_neg hemoji]
        · rw [if_neg hknown, if_neg hknown]

/-- A record is added for the emoji of a reaction only. -/
theorem known_add {emoji : Emoji} (hemoji : emoji.identity?.isSome) {byMe : Bool}
    {records : List Reaction} (hknown : ∀ record ∈ records, record.emoji.identity?.isSome) :
    ∀ record ∈ added emoji byMe records, record.emoji.identity?.isSome := by
  induction records with
  | nil =>
      intro record hmem
      rw [List.mem_singleton.1 hmem]
      exact hemoji
  | cons known rest ih =>
      rw [List.forall_mem_cons] at hknown
      by_cases hsame : known.emoji.sameAs emoji = true
      · rw [added_cons_of_same hsame, List.forall_mem_cons, emoji_getD_countUp?]
        exact hknown
      · rw [added_cons_of_other hsame, List.forall_mem_cons]
        exact ⟨hknown.1, ih hknown.2⟩

theorem known_remove {emoji : Emoji} {byMe : Bool} {records : List Reaction}
    (hknown : ∀ record ∈ records, record.emoji.identity?.isSome) :
    ∀ record ∈ remove emoji byMe records, record.emoji.identity?.isSome := by
  induction records with
  | nil => exact hknown
  | cons known rest ih =>
      rw [List.forall_mem_cons] at hknown
      rw [remove]
      split
      next =>
        split
        next => exact hknown.2
        next => exact List.forall_mem_cons.2 hknown
      next => exact List.forall_mem_cons.2 ⟨hknown.1, ih hknown.2⟩

/-- The records of one emoji stand for a set of users: there is none if nobody reacts with it, and
otherwise one, which counts the users and tells whether a given one is among them. -/
def Tally (me : Snowflake) (users : Finset Snowflake) : List Reaction → Prop
  | [] => users = ∅
  | [record] =>
      users.Nonempty ∧ record.count.toNat = users.card ∧ (record.me = true ↔ me ∈ users)
  | _ => False

section Tally

variable {me user : Snowflake} {users : Finset Snowflake} {records : List Reaction} {emoji : Emoji}

/-- One more user, who has not reacted before. -/
theorem Tally.add (h : Tally me users records) (hsame : ∀ record ∈ records,
    record.emoji.sameAs emoji = true) (hnew : user ∉ users) (hroom : users.card + 1 < UInt32.size) :
    Tally me (insert user users) (added emoji (me = user) records) := by
  have hcard : (insert user users).card = users.card + 1 := Finset.card_insert_of_notMem hnew
  match records, h with
  | [], hempty =>
      refine ⟨Finset.insert_nonempty user users, ?_, ?_⟩
      · rw [hcard, show users = ∅ from hempty]
        rfl
      · rw [show users = ∅ from hempty]
        simp
  | [record], ⟨_, hcount, hme⟩ =>
      -- there is room for the count, since the users are not too many
      have hcounted : countUp? (me = user) record =
          some { record with count := record.count + 1, me := record.me || (me = user) } :=
        countUp?_eq_some_iff.2 ⟨hcount ▸ hroom, rfl⟩
      rw [added_cons_of_same (hsame record List.mem_cons_self), hcounted, Option.getD_some]
      refine ⟨Finset.insert_nonempty user users, ?_, ?_⟩
      · rw [hcard, ← hcount]
        exact toNat_count_of_countUp? hcounted
      · simp only [Bool.or_eq_true, decide_eq_true_eq, hme, Finset.mem_insert]
        exact or_comm

/-- One user less, who has reacted before. -/
theorem Tally.remove (h : Tally me users records) (hsame : ∀ record ∈ records,
    record.emoji.sameAs emoji = true) (hthere : user ∈ users) :
    Tally me (users.erase user) (Reactions.remove emoji (me = user) records) := by
  have hcard : (users.erase user).card = users.card - 1 := Finset.card_erase_of_mem hthere
  match records, h with
  | [], hempty =>
      rw [show users = ∅ from hempty] at hthere
      exact absurd hthere (Finset.notMem_empty user)
  | [record], ⟨_, hcount, hme⟩ =>
      have hpositive : 0 < users.card := Finset.card_pos.2 ⟨user, hthere⟩
      rw [Reactions.remove, if_pos (hsame record List.mem_cons_self)]
      by_cases hlast : record.count ≤ 1
      · -- the record goes with its last user
        have hone : users.card ≤ 1 := by
          rw [← hcount]
          exact UInt32.le_iff_toNat_le.1 hlast
        rw [if_pos hlast]
        show users.erase user = ∅
        rw [← Finset.card_eq_zero]
        omega
      · have hmore : 1 < users.card := by
          rw [← hcount]
          exact Nat.lt_of_not_le fun hle => hlast (UInt32.le_iff_toNat_le.2 hle)
        rw [if_neg hlast]
        refine ⟨?_, ?_, ?_⟩
        · rw [← Finset.card_pos]
          omega
        · rw [hcard, ← hcount, UInt32.toNat_sub_of_le]
          · rfl
          · exact UInt32.le_iff_toNat_le.2 (by rw [hcount]; exact hpositive)
        · simp only [Bool.and_eq_true, Bool.not_eq_true', decide_eq_false_iff_not, hme,
            Finset.mem_erase]
          exact and_comm

end Tally

end Reactions

end ChatGateway
