import ChatGateway.Proofs.Cache.MessageList
import ChatGateway.Proofs.Cache.Records
import Mathlib.Data.List.Basic
import Mathlib.Data.List.Nodup

/-!
The message part of a cache keeps a bounded list of messages. Its table and its queue agree at any
time about one list (`MessageStore.Holds`), every call keeps them in step and is answered as the
list answers it, and so is every history of calls.
-/

namespace ChatGateway

namespace MessageList

variable (emoji : Emoji) (byMe : Bool) (records : List Reaction)

/-- An update changes its four fields and nothing else of a message. -/
theorem patch_eq_updated (update : MessageUpdate) : Cache.patch update = updated update := by
  obtain ⟨id, channelId, guildId, content, editedTimestamp, pinned, mentionEveryone⟩ := update
  funext message
  cases content <;> cases editedTimestamp <;> cases pinned <;> cases mentionEveryone <;> rfl

/-- The records fall apart before the first one of an emoji. -/
theorem splitAt_spec : (splitAt emoji records).1 ++ (splitAt emoji records).2 = records ∧
    (∀ record ∈ (splitAt emoji records).1, record.emoji.sameAs emoji = false) ∧
    ∀ known after, (splitAt emoji records).2 = known :: after →
      known.emoji.sameAs emoji = true := by
  refine ⟨List.takeWhile_append_dropWhile, fun record hmem => ?_, fun known after hfound => ?_⟩
  · simpa using List.all_eq_true.1 List.all_takeWhile record hmem
  · have hhead := List.head?_dropWhile_not (fun record => !record.emoji.sameAs emoji) records
    have hfound : records.dropWhile (fun record => !record.emoji.sameAs emoji) = known :: after :=
      hfound
    simpa [hfound] using hhead

theorem add_eq_withReaction? :
    Reactions.add emoji byMe records = withReaction? emoji byMe records := by
  obtain ⟨hsplit, hbefore, hfound⟩ := splitAt_spec emoji records
  unfold withReaction?
  generalize splitAt emoji records = parts at hsplit hbefore hfound ⊢
  obtain ⟨before, found⟩ := parts
  cases found with
  | nil =>
      rw [← hsplit, List.append_nil]
      exact Reactions.add_new hbefore
  | cons known after =>
      rw [← hsplit, Reactions.add_first hbefore (hfound known after rfl)]
      have hlast : known.count.toNat + 1 < UInt32.size ↔ known.count ≠ 4294967295 := by
        have hlt := known.count.toNat_lt
        rw [Ne, ← UInt32.toNat_inj]
        show known.count.toNat + 1 < 4294967296 ↔ ¬ known.count.toNat = 4294967295
        omega
      by_cases hcount : known.count = 4294967295 <;> simp [Reactions.countUp?, hlast, hcount]

theorem remove_eq_withoutReaction :
    Reactions.remove emoji byMe records = withoutReaction emoji byMe records := by
  obtain ⟨hsplit, hbefore, hfound⟩ := splitAt_spec emoji records
  unfold withoutReaction
  generalize splitAt emoji records = parts at hsplit hbefore hfound ⊢
  obtain ⟨before, found⟩ := parts
  cases found with
  | nil =>
      rw [← hsplit, List.append_nil]
      exact Reactions.remove_new hbefore
  | cons known after =>
      rw [← hsplit, Reactions.remove_first hbefore (hfound known after rfl)]
      have hme : (known.me && !byMe) = if byMe then false else known.me := by
        cases byMe <;> simp
      show before ++ _ = if known.count ≤ 1 then before ++ after else before ++ _
      rw [hme]
      split <;> rfl

end MessageList

namespace MessageStore

/-- A store holds a list: the queue names its messages in order, none of them twice, the table
finds what is found in the list, and the list is not too long. -/
structure Holds (store : MessageStore) (capacity : Nat) (list : MessageList) : Prop where
  queue : store.queue = list.ids
  nodup : list.ids.Nodup
  found : ∀ id, store.get? id = list.find id
  room : store.capacity = capacity
  positive : 0 < capacity
  fits : list.length ≤ capacity

theorem holds_empty (capacity : Nat) : (empty capacity).Holds (max 1 capacity) [] where
  queue := rfl
  nodup := List.nodup_nil
  found _ := rfl
  room := rfl
  positive := by omega
  fits := Nat.zero_le _

namespace Holds

variable {store : MessageStore} {capacity : Nat} {list : MessageList}

theorem mem_queue_iff (h : store.Holds capacity list) (id : Snowflake) :
    id ∈ store.queue ↔ (store.get? id).isSome := by
  rw [h.queue, h.found, MessageList.find_isSome_iff]

theorem modify (h : store.Holds capacity list) {id : Snowflake} {f : Message → Message}
    (hf : ∀ message, message.id = id → (f message).id = id) :
    (store.modify id f).Holds capacity (list.change id f) where
  queue := by rw [queue_modify, h.queue, MessageList.ids_change hf]
  nodup := by
    rw [MessageList.ids_change hf]
    exact h.nodup
  found other := by rw [get?_modify, MessageList.find_change hf, h.found]
  room := h.room
  positive := h.positive
  fits := by
    rw [MessageList.change, List.length_map]
    exact h.fits

/-- Taking the oldest message out of a full store takes the head off its list. -/
theorem makeRoom (h : store.Holds capacity list) :
    store.makeRoom.Holds capacity (list.makeRoom capacity) := by
  unfold MessageStore.makeRoom MessageList.makeRoom
  have hlength : store.queue.length = list.length := by
    rw [h.queue, MessageList.ids, List.length_map]
  cases list with
  | nil =>
      have hqueue : store.queue = [] := h.queue
      have hempty : ([] : List Message).length < capacity := h.positive
      rw [hqueue, if_pos hempty]
      exact h
  | cons oldest rest =>
      have hqueue : store.queue = oldest.id :: MessageList.ids rest := h.queue
      rw [hqueue] at hlength ⊢
      dsimp only
      rw [hlength, h.room]
      by_cases hfull : capacity ≤ (oldest :: rest).length
      · obtain ⟨hoff, hnodup⟩ := List.nodup_cons.1 h.nodup
        rw [if_pos hfull, if_neg (Nat.not_lt.2 hfull)]
        refine ⟨rfl, hnodup, fun id => ?_, rfl, h.positive, ?_⟩
        · show (store.table.erase oldest.id).get? id = MessageList.find rest id
          have hfound : store.table.get? id = MessageList.find (oldest :: rest) id := h.found id
          rw [Table.get?_erase, hfound, MessageList.find_cons]
          by_cases hid : id = oldest.id
          · subst hid
            rw [if_pos rfl, eq_comm, ← Option.not_isSome_iff_eq_none,
              MessageList.find_isSome_iff]
            exact hoff
          · rw [if_neg hid, if_neg (Ne.symm hid)]
        · have hfits := h.fits
          rw [List.length_cons] at hfits
          show rest.length ≤ capacity
          omega
      · rw [if_neg hfull, if_pos (Nat.not_le.1 hfull)]
        exact h

/-- A new message at the end of a store that has room for it. -/
theorem append (h : store.Holds capacity list) {message : Message}
    (hnew : message.id ∉ list.ids) (hroom : list.length < capacity) :
    Holds { store with
        table := store.table.insert message.id message
        queue := store.queue ++ [message.id] } capacity (list ++ [message]) where
  queue := by
    show store.queue ++ [message.id] = MessageList.ids (list ++ [message])
    rw [h.queue, MessageList.ids, MessageList.ids, List.map_append]
    rfl
  nodup := by
    rw [MessageList.ids, List.map_append, List.nodup_append]
    refine ⟨h.nodup, List.nodup_singleton _, ?_⟩
    rintro id hid other hother rfl
    rw [List.map_singleton, List.mem_singleton] at hother
    exact hnew (hother ▸ hid)
  found id := by
    show (store.table.insert message.id message).get? id = MessageList.find (list ++ [message]) id
    have hfound : store.table.get? id = list.find id := h.found id
    rw [Table.get?_insert, hfound, MessageList.find_append, MessageList.find_cons,
      MessageList.find_nil]
    by_cases hid : id = message.id
    · have hnone : list.find message.id = none := by
        rw [← Option.not_isSome_iff_eq_none, MessageList.find_isSome_iff]
        exact hnew
      rw [if_pos hid, if_pos hid.symm, hid, hnone]
      rfl
    · rw [if_neg hid, if_neg (Ne.symm hid), Option.or_none]
  room := h.room
  positive := h.positive
  fits := by
    rw [List.length_append, List.length_singleton]
    exact hroom

theorem insert (h : store.Holds capacity list) (message : Message) :
    (store.insert message).Holds capacity (list.put capacity message) := by
  unfold MessageStore.insert MessageList.put
  by_cases hknown : message.id ∈ list.ids
  · have hsome : (store.get? message.id).isSome := by
      rw [h.found, MessageList.find_isSome_iff]
      exact hknown
    rw [if_pos hsome, if_pos hknown]
    -- replacing a known message is changing it to the new one
    have hchanged := h.modify (f := fun _ => message) fun _ _ => rfl
    refine ⟨hchanged.queue, hchanged.nodup, fun id => ?_, hchanged.room, hchanged.positive,
      hchanged.fits⟩
    rw [← hchanged.found, get?_modify]
    show (store.table.insert message.id message).get? id = _
    rw [Table.get?_insert]
    split
    next hid =>
      obtain ⟨known, hfound⟩ := Option.isSome_iff_exists.1 hsome
      rw [hid, hfound]
      rfl
    next => rfl
  · have hnone : ¬ (store.get? message.id).isSome := by
      rw [h.found, MessageList.find_isSome_iff]
      exact hknown
    rw [if_neg hnone, if_neg hknown]
    refine h.makeRoom.append ?_ ?_
    · intro hmem
      refine hknown ?_
      unfold MessageList.makeRoom at hmem
      split at hmem
      next => exact hmem
      next => exact List.mem_of_mem_tail (by rwa [MessageList.ids, List.map_tail] at hmem)
    · have hfits := h.fits
      have hpositive := h.positive
      unfold MessageList.makeRoom
      split
      next hroom => exact hroom
      next =>
        rw [List.length_tail]
        omega

theorem erase (h : store.Holds capacity list) (id : Snowflake) :
    (store.erase id).Holds capacity (list.without [id]) := by
  have hfits : (list.without [id]).length ≤ capacity :=
    Nat.le_trans (List.length_filter_le _ _) h.fits
  have hnodup : (list.without [id]).ids.Nodup := by
    rw [MessageList.ids_without]
    exact h.nodup.filter _
  unfold MessageStore.erase
  by_cases hknown : (store.get? id).isSome
  · rw [if_pos hknown]
    refine ⟨?_, hnodup, fun other => ?_, h.room, h.positive, hfits⟩
    · show store.queue.filter (· != id) = _
      rw [MessageList.ids_without, h.queue]
      refine List.filter_congr fun other _ => ?_
      by_cases hother : other = id <;> simp [hother]
    · show (store.table.erase id).get? other = _
      have hfound : store.table.get? other = list.find other := h.found other
      rw [Table.get?_erase, MessageList.find_without, hfound]
      simp only [List.mem_singleton]
  · rw [if_neg hknown]
    rw [← h.mem_queue_iff, h.queue] at hknown
    have hsame : list.without [id] = list := by
      refine List.filter_eq_self.2 fun message hmem => ?_
      have hne : message.id ≠ id := fun heq => hknown (heq ▸ List.mem_map_of_mem hmem)
      simpa using hne
    rw [hsame]
    exact h

theorem eraseAll (h : store.Holds capacity list) (ids : List Snowflake) :
    (store.eraseAll ids).1.Holds capacity (list.without ids) ∧
      (store.eraseAll ids).2 = list.named ids := by
  induction ids generalizing store list with
  | nil =>
      have hsame : list.without [] = list := List.filter_eq_self.2 fun _ _ => rfl
      rw [hsame]
      exact ⟨h, rfl⟩
  | cons id rest ih =>
      obtain ⟨hstore, hnamed⟩ := ih (h.erase id)
      rw [MessageList.without_cons] at hstore
      refine ⟨hstore, ?_⟩
      show (store.get? id).toList ++ ((store.erase id).eraseAll rest).2 = _
      rw [hnamed, h.found, MessageList.named_cons]

theorem toList_eq (h : store.Holds capacity list) : store.toList = list := by
  unfold toList
  rw [h.queue, MessageList.ids, List.filterMap_map]
  have hself : ∀ message ∈ list, (store.get? ∘ (·.id)) message = some message := by
    intro message hmem
    show store.get? message.id = some message
    rw [h.found, MessageList.find_eq_some_iff h.nodup]
    exact ⟨hmem, rfl⟩
  rw [List.filterMap_congr hself, List.filterMap_some]

/-- The table has as many entries as the queue. -/
theorem size_eq (h : store.Holds capacity list) : store.size = store.queue.length := by
  have hnodup : store.queue.Nodup := h.queue ▸ h.nodup
  have hperm : store.table.keys.Perm store.queue :=
    (List.perm_ext_iff_of_nodup store.table.nodup_keys hnodup).2 fun id => by
      rw [h.mem_queue_iff, Table.mem_keys_iff]
      rfl
  rw [← hperm.length_eq, Table.keys, List.length_map]
  rfl

end Holds

end MessageStore

namespace Cache

def call (cache : Cache) : MessageCall → Cache × MessageAnswer
  | .insert message => (cache.insertMessage message, .nothing)
  | .update update =>
      let (cache, change) := cache.updateMessage update
      (cache, .change change)
  | .remove id =>
      let (cache, removed) := cache.removeMessage id
      (cache, .message removed)
  | .removeAll ids =>
      let (cache, removed) := cache.removeMessages ids
      (cache, .messages removed)
  | .addReaction reaction byMe =>
      match cache.addReaction reaction byMe with
      | some (cache, message) => (cache, .message message)
      | none => (cache, .overflow)
  | .removeReaction reaction byMe =>
      let (cache, message) := cache.removeReaction reaction byMe
      (cache, .message message)
  | .clearReactions id =>
      let (cache, message) := cache.clearReactions id
      (cache, .message message)

def callAll (cache : Cache) : List MessageCall → Cache × List MessageAnswer
  | [] => (cache, [])
  | call :: rest =>
      let (next, answer) := cache.call call
      let (last, answers) := next.callAll rest
      (last, answer :: answers)

section

variable {cache : Cache} {capacity : Nat} {list : MessageList}

theorem holds_modifyMessage (h : cache.messages.Holds capacity list) {id : Snowflake}
    {f : Message → Message} (hf : ∀ message, message.id = id → (f message).id = id) :
    (cache.modifyMessage id f).1.messages.Holds capacity (list.modify id f).1 ∧
      (cache.modifyMessage id f).2 = (list.modify id f).2 := by
  refine ⟨h.modify hf, ?_⟩
  show (cache.messages.get? id).map _ = _
  rw [h.found]
  rfl

/-- Changing the reactions of a message, which are answered as they are now. -/
theorem holds_reactions (h : cache.messages.Holds capacity list) (id : Snowflake)
    (react : List Reaction → List Reaction) :
    let change := fun message : Message =>
      { message with reactions := react message.reactions }
    (cache.modifyMessage id change).1.messages.Holds capacity (list.modify id change).1 ∧
      (cache.modifyMessage id change).2.map (·.2) = (list.modify id change).2.map (·.2) := by
  intro change
  obtain ⟨hstore, hanswer⟩ := holds_modifyMessage h (f := change) fun _ hid => hid
  refine ⟨hstore, ?_⟩
  rw [hanswer]

/-- One call keeps the store in step with the list, and is answered as the list answers it. -/
theorem holds_call (h : cache.messages.Holds capacity list) (call : MessageCall) :
    (cache.call call).1.messages.Holds capacity (list.call capacity call).1 ∧
      (cache.call call).2 = (list.call capacity call).2 := by
  cases call with
  | insert message => exact ⟨h.insert message, rfl⟩
  | update update =>
      obtain ⟨hstore, hanswer⟩ := holds_modifyMessage h (f := patch update) fun _ hid => hid
      simp only [MessageList.call, ← MessageList.patch_eq_updated]
      exact ⟨hstore, congrArg _ hanswer⟩
  | remove id => exact ⟨h.erase id, congrArg _ (h.found id)⟩
  | removeAll ids =>
      obtain ⟨hstore, hanswer⟩ := h.eraseAll ids
      exact ⟨hstore, congrArg _ hanswer⟩
  | addReaction reaction byMe =>
      have hfound : cache.message? reaction.messageId = list.find reaction.messageId :=
        h.found reaction.messageId
      simp only [call, MessageList.call, addReaction, hfound]
      cases list.find reaction.messageId with
      | none => exact ⟨h, rfl⟩
      | some message =>
          simp only [← MessageList.add_eq_withReaction?]
          cases Reactions.add reaction.emoji byMe message.reactions with
          | none => exact ⟨h, rfl⟩
          | some reactions =>
              obtain ⟨hstore, hanswer⟩ :=
                holds_reactions h reaction.messageId fun _ => reactions
              exact ⟨hstore, congrArg MessageAnswer.message hanswer⟩
  | removeReaction reaction byMe =>
      obtain ⟨hstore, hanswer⟩ := holds_reactions h reaction.messageId
        (Reactions.remove reaction.emoji byMe)
      simp only [MessageList.call, ← MessageList.remove_eq_withoutReaction]
      exact ⟨hstore, congrArg MessageAnswer.message hanswer⟩
  | clearReactions id =>
      obtain ⟨hstore, hanswer⟩ := holds_reactions h id fun _ => []
      exact ⟨hstore, congrArg MessageAnswer.message hanswer⟩

theorem holds_callAll (h : cache.messages.Holds capacity list) (calls : List MessageCall) :
    (cache.callAll calls).1.messages.Holds capacity (list.callAll capacity calls).1 ∧
      (cache.callAll calls).2 = (list.callAll capacity calls).2 := by
  induction calls generalizing cache list with
  | nil => exact ⟨h, rfl⟩
  | cons call rest ih =>
      obtain ⟨hnext, hanswer⟩ := holds_call h call
      obtain ⟨hlast, hanswers⟩ := ih hnext
      refine ⟨hlast, ?_⟩
      show (cache.call call).2 :: ((cache.call call).1.callAll rest).2 = _
      rw [hanswer, hanswers]
      rfl

end

/-- For every capacity and every history of calls, the cache answers as a list of messages of
distinct identifiers does, it holds the messages of that list in order and no other ones, and its
look-ups, its identifiers and the number of its messages agree about them. -/
theorem callAll_refines_list (capacity : Nat) (calls : List MessageCall) :
    let list := (MessageList.callAll (max 1 capacity) [] calls).1
    let cache := ((empty capacity).callAll calls).1
    ((empty capacity).callAll calls).2 = (MessageList.callAll (max 1 capacity) [] calls).2 ∧
      list.ids.Nodup ∧ list.length ≤ max 1 capacity ∧
      cache.messages.toList = list ∧
      cache.messageIds = list.ids ∧ cache.messageIds.Nodup ∧
      (∀ id message, cache.message? id = some message ↔ message ∈ list ∧ message.id = id) ∧
      (∀ id, id ∈ cache.messageIds ↔ ∃ message, cache.message? id = some message) ∧
      cache.messages.size = cache.messageIds.length := by
  intro list cache
  have hempty : (empty capacity).messages.Holds (max 1 capacity) [] :=
    MessageStore.holds_empty capacity
  obtain ⟨hholds, hanswers⟩ := holds_callAll hempty calls
  refine ⟨hanswers, hholds.nodup, hholds.fits, hholds.toList_eq, hholds.queue, ?_, ?_, ?_,
    hholds.size_eq⟩
  · rw [show cache.messageIds = list.ids from hholds.queue]
    exact hholds.nodup
  · intro id message
    rw [message?, hholds.found, MessageList.find_eq_some_iff hholds.nodup]
  · intro id
    rw [← Option.isSome_iff_exists]
    exact hholds.mem_queue_iff id

end Cache

end ChatGateway
