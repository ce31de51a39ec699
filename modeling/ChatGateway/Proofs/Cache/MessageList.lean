import ChatGateway.Cache.Basic

/-!
A bounded list of messages, oldest first, which is all that the message part of a cache stands for.
Calls are answered by looking through the list: there is no table and no queue beside it that would
have to be kept in step.
-/

namespace ChatGateway

inductive MessageCall where
  | insert (message : Message)
  | update (update : MessageUpdate)
  | remove (id : Snowflake)
  | removeAll (ids : List Snowflake)
  | addReaction (reaction : MessageReaction) (byMe : Bool)
  | removeReaction (reaction : MessageReaction) (byMe : Bool)
  | clearReactions (id : Snowflake)

inductive MessageAnswer where
  | nothing
  | change (change : Option (Message × Message))
  | message (message : Option Message)
  | messages (messages : List Message)
  /-- The call broke off. -/
  | overflow
  deriving DecidableEq

abbrev MessageList := List Message

namespace MessageList

def ids (list : MessageList) : List Snowflake := list.map (·.id)

def find (list : MessageList) (id : Snowflake) : Option Message := list.find? (·.id = id)

def change (id : Snowflake) (f : Message → Message) (list : MessageList) : MessageList :=
  list.map fun message => if message.id = id then f message else message

def without (gone : List Snowflake) (list : MessageList) : MessageList :=
  list.filter fun message => message.id ∉ gone

/-- The messages that are named, each of them once, in the order of their first mention. -/
def named (ids : List Snowflake) (list : MessageList) : List Message :=
  ids.eraseDups.filterMap list.find

/-- Drops the oldest message of a full list. -/
def makeRoom (capacity : Nat) (list : MessageList) : MessageList :=
  if list.length < capacity then list else list.tail

/-- Replaces a message that is known at its place, and appends a new one. -/
def put (capacity : Nat) (message : Message) (list : MessageList) : MessageList :=
  if message.id ∈ list.ids then list.change message.id fun _ => message
  else list.makeRoom capacity ++ [message]

def modify (id : Snowflake) (f : Message → Message) (list : MessageList) :
    MessageList × Option (Message × Message) :=
  (list.change id f, (list.find id).map fun message => (message, f message))

def updated (update : MessageUpdate) (message : Message) : Message :=
  { message with
    content := match update.content with
      | some content => content
      | none => message.content
    editedTimestamp := match update.editedTimestamp with
      | some timestamp => some timestamp
      | none => message.editedTimestamp
    pinned := match update.pinned with
      | some pinned => pinned
      | none => message.pinned
    mentionEveryone := match update.mentionEveryone with
      | some mentions => mentions
      | none => message.mentionEveryone }

/-- The records before the first one of an emoji, and from it on. -/
def splitAt (emoji : Emoji) (records : List Reaction) : List Reaction × List Reaction :=
  (records.takeWhile fun record => !record.emoji.sameAs emoji,
    records.dropWhile fun record => !record.emoji.sameAs emoji)

/-- The records with one more reaction; there is nothing beyond the last count. -/
def withReaction? (emoji : Emoji) (byMe : Bool) (records : List Reaction) :
    Option (List Reaction) :=
  match splitAt emoji records with
  | (before, []) => some (before ++ [⟨1, byMe, emoji⟩])
  | (before, known :: after) =>
      if known.count = 4294967295 then none
      else some (before ++ ⟨known.count + 1, known.me || byMe, known.emoji⟩ :: after)

def withoutReaction (emoji : Emoji) (byMe : Bool) (records : List Reaction) : List Reaction :=
  match splitAt emoji records with
  | (before, []) => before
  | (before, known :: after) =>
      if known.count ≤ 1 then before ++ after
      else before ++ ⟨known.count - 1, if byMe then false else known.me, known.emoji⟩ :: after

def call (capacity : Nat) (list : MessageList) : MessageCall → MessageList × MessageAnswer
  | .insert message => (list.put capacity message, .nothing)
  | .update update =>
      let (list, change) := list.modify update.id (updated update)
      (list, .change change)
  | .remove id => (list.without [id], .message (list.find id))
  | .removeAll ids => (list.without ids, .messages (list.named ids))
  | .addReaction reaction byMe =>
      match list.find reaction.messageId with
      | none => (list, .message none)
      | some message =>
          match withReaction? reaction.emoji byMe message.reactions with
          | none => (list, .overflow)
          | some reactions =>
              let (list, change) := list.modify reaction.messageId fun message =>
                { message with reactions }
              (list, .message (change.map (·.2)))
  | .removeReaction reaction byMe =>
      let (list, change) := list.modify reaction.messageId fun message =>
        { message with reactions := withoutReaction reaction.emoji byMe message.reactions }
      (list, .message (change.map (·.2)))
  | .clearReactions id =>
      let (list, change) := list.modify id fun message => { message with reactions := [] }
      (list, .message (change.map (·.2)))

def callAll (capacity : Nat) (list : MessageList) :
    List MessageCall → MessageList × List MessageAnswer
  | [] => (list, [])
  | call :: rest =>
      let (next, answer) := list.call capacity call
      let (last, answers) := next.callAll capacity rest
      (last, answer :: answers)

/-! ### Looking through the list -/

@[simp] theorem find_nil (id : Snowflake) : find [] id = none := rfl

theorem find_cons (head : Message) (rest : MessageList) (id : Snowflake) :
    find (head :: rest) id = if head.id = id then some head else rest.find id := by
  unfold find
  rw [List.find?_cons]
  by_cases h : head.id = id <;> simp [h]

theorem find_append (first second : MessageList) (id : Snowflake) :
    find (first ++ second) id = (first.find id).or (second.find id) := List.find?_append

theorem find_isSome_iff (list : MessageList) (id : Snowflake) :
    (list.find id).isSome ↔ id ∈ list.ids := by
  simp [find, ids]

/-- The message that is found is the only one of its identifier. -/
theorem find_eq_some_iff {list : MessageList} (hnodup : list.ids.Nodup) (id : Snowflake)
    (message : Message) : list.find id = some message ↔ message ∈ list ∧ message.id = id := by
  induction list with
  | nil => simp
  | cons head rest ih =>
      obtain ⟨hhead, hrest⟩ := List.nodup_cons.1 hnodup
      rw [find_cons]
      by_cases hid : head.id = id
      · rw [if_pos hid, Option.some_inj, List.mem_cons]
        constructor
        · rintro rfl
          exact ⟨.inl rfl, hid⟩
        · rintro ⟨rfl | hmem, hmessage⟩
          · rfl
          · -- a later message of this identifier would repeat that of the head
            exact absurd (List.mem_map.2 ⟨message, hmem, hmessage.trans hid.symm⟩) hhead
      · rw [if_neg hid, ih hrest, List.mem_cons]
        constructor
        · rintro ⟨hmem, hmessage⟩
          exact ⟨.inr hmem, hmessage⟩
        · rintro ⟨rfl | hmem, hmessage⟩
          · exact absurd hmessage hid
          · exact ⟨hmem, hmessage⟩

section Change

variable {id : Snowflake} {f : Message → Message}
  (hf : ∀ message, message.id = id → (f message).id = id)

include hf

theorem find_change (list : MessageList) (other : Snowflake) :
    (list.change id f).find other =
      if other = id then (list.find other).map f else list.find other := by
  induction list with
  | nil => simp [change]
  | cons head rest ih =>
      show find ((if head.id = id then f head else head) :: change id f rest) other = _
      rw [find_cons, find_cons, ih]
      by_cases hid : head.id = id
      · rw [if_pos hid, hf head hid, hid]
        by_cases hother : id = other
        · simp [hother]
        · simp [hother, Ne.symm hother]
      · rw [if_neg hid]
        by_cases hhead : head.id = other
        · have hother : other ≠ id := fun h => hid (hhead.trans h)
          simp [hhead, hother]
        · simp [hhead]

theorem ids_change (list : MessageList) : (list.change id f).ids = list.ids := by
  unfold ids change
  rw [List.map_map]
  refine List.map_congr_left fun message _ => ?_
  rw [Function.comp_apply]
  split
  next h => rw [hf message h, h]
  next => rfl

end Change

theorem find_without (gone : List Snowflake) (list : MessageList) (id : Snowflake) :
    (list.without gone).find id = if id ∈ gone then none else list.find id := by
  induction list with
  | nil => simp [without]
  | cons head rest ih =>
      rw [find_cons]
      by_cases hgone : head.id ∈ gone
      · have hdrop : without gone (head :: rest) = without gone rest := by simp [without, hgone]
        rw [hdrop, ih]
        split
        next => rfl
        next hid =>
          have hne : head.id ≠ id := fun h => hid (h ▸ hgone)
          rw [if_neg hne]
      · have hkeep : without gone (head :: rest) = head :: without gone rest := by
          simp [without, hgone]
        rw [hkeep, find_cons, ih]
        by_cases hid : head.id = id
        · simp [hid, hid ▸ hgone]
        · simp [hid]

theorem ids_without (gone : List Snowflake) (list : MessageList) :
    (list.without gone).ids = list.ids.filter (· ∉ gone) := by
  unfold ids without
  rw [List.filter_map]
  rfl

theorem without_cons (id : Snowflake) (gone : List Snowflake) (list : MessageList) :
    (list.without [id]).without gone = list.without (id :: gone) := by
  unfold without
  rw [List.filter_filter]
  refine List.filter_congr fun message _ => ?_
  simp [Bool.and_comm]

/-! ### Naming messages -/

theorem eraseDups_filter (keep : Snowflake → Bool) (ids : List Snowflake) :
    (ids.filter keep).eraseDups = ids.eraseDups.filter keep := by
  match ids with
  | [] => rfl
  | id :: rest =>
      have ih := eraseDups_filter keep (rest.filter fun other => !other == id)
      rw [List.eraseDups_cons, List.filter_cons, List.filter_cons, ← ih]
      by_cases hid : keep id
      · rw [if_pos hid, if_pos hid, List.eraseDups_cons, List.filter_filter, List.filter_filter]
        simp only [Bool.and_comm]
      · -- what is left out by name is left out by the test as well
        rw [if_neg hid, if_neg hid, List.filter_filter]
        have hsame : rest.filter (fun other => keep other && !other == id) = rest.filter keep := by
          refine List.filter_congr fun other _ => ?_
          by_cases hother : other = id
          · simp [hother, hid]
          · simp [hother]
        rw [hsame]
termination_by ids.length
decreasing_by exact Nat.lt_succ_of_le (List.length_filter_le _ _)

/-- Looking entries up one after another, where each one is gone once it has been looked up. -/
theorem filterMap_eraseDups_cons (id : Snowflake) (rest : List Snowflake)
    {find later : Snowflake → Option Message}
    (hlater : ∀ other, later other = if other = id then none else find other) :
    (id :: rest).eraseDups.filterMap find =
      (find id).toList ++ rest.eraseDups.filterMap later := by
  have hrest : (rest.filter fun other => !other == id).eraseDups.filterMap find =
      rest.eraseDups.filterMap later := by
    rw [eraseDups_filter, List.filterMap_filter]
    congr 1
    funext other
    rw [hlater]
    by_cases hother : other = id <;> simp [hother]
  rw [← hrest, List.eraseDups_cons, List.filterMap_cons]
  cases find id <;> rfl

theorem named_cons (id : Snowflake) (rest : List Snowflake) (list : MessageList) :
    list.named (id :: rest) = (list.find id).toList ++ (list.without [id]).named rest := by
  refine filterMap_eraseDups_cons id rest fun other => ?_
  rw [find_without]
  simp only [List.mem_singleton]

end MessageList

end ChatGateway
