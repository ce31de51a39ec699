import ChatGateway.Event.Application
import ChatGateway.Proofs.Cache.Records
import ChatGateway.Proofs.Cache.Tables

/-!
Frames at which a count overflows. A reaction that can be counted is a change of one message like
any other (`addReaction_of_some`); one that cannot leaves the cache as it is, and its frame makes no
event (`apply_of_overflows`). Nothing else overflows (`overflows_iff`).
-/

namespace ChatGateway.Cache

variable {cache : Cache} {id : Snowflake} {reaction : MessageReaction}

/-- A message that is not found is not changed either. -/
theorem modifyMessage_of_none {f : Message → Message}
    (hnone : (cache.modifyMessage id f).2 = none) : (cache.modifyMessage id f).1 = cache := by
  have hget : cache.message? id = none := Option.map_eq_none_iff.1 hnone
  have htable : cache.messages.table.modify id f = cache.messages.table :=
    Table.modify_of_get?_eq_none hget f
  simp only [modifyMessage, MessageStore.modify, htable]

/-- A change of a message is known by what it makes of the one that is there. -/
theorem modifyMessage_congr {f g : Message → Message}
    (h : ∀ message, cache.message? id = some message → f message = g message) :
    cache.modifyMessage id f = cache.modifyMessage id g := by
  have htable : cache.messages.table.modify id f = cache.messages.table.modify id g :=
    Table.modify_congr h
  have hanswer : ((cache.message? id).map fun message => (message, f message)) =
      (cache.message? id).map fun message => (message, g message) := by
    cases hget : cache.message? id with
    | none => rfl
    | some message => rw [Option.map_some, Option.map_some, h message hget]
  simp only [modifyMessage, MessageStore.modify, htable, hanswer]

/-- A message that is left as it is. -/
theorem modifyMessage_eq_self {f : Message → Message}
    (h : ∀ message, cache.message? id = some message → f message = message) :
    (cache.modifyMessage id f).1 = cache := by
  have htable : cache.messages.table.modify id f = cache.messages.table := by
    rw [Table.modify_congr h]
    exact Table.modify_id ..
  simp only [modifyMessage, MessageStore.modify, htable]

/-- A message with one more reaction, if that can be counted. -/
def counting (cache : Cache) (reaction : MessageReaction) (message : Message) : Message :=
  { message with reactions :=
      Reactions.added reaction.emoji (cache.isCurrentUser reaction.userId) message.reactions }

def counted? (cache : Cache) (reaction : MessageReaction) : Option Message :=
  (cache.addReaction reaction (cache.isCurrentUser reaction.userId)).bind (·.2)

/-- A reaction that is counted is a change of its message. -/
theorem addReaction_of_some {made : Cache × Option Message}
    (h : cache.addReaction reaction (cache.isCurrentUser reaction.userId) = some made) :
    made.1 = (cache.modifyMessage reaction.messageId (cache.counting reaction)).1 ∧
      made.2 = (cache.modifyMessage reaction.messageId (cache.counting reaction)).2.map (·.2) := by
  unfold addReaction at h
  cases hcached : cache.message? reaction.messageId with
  | none =>
      rw [hcached] at h
      cases h
      have hnone : (cache.modifyMessage reaction.messageId (cache.counting reaction)).2 = none := by
        simp [modifyMessage, hcached]
      exact ⟨(modifyMessage_of_none hnone).symm, by rw [hnone]; rfl⟩
  | some message =>
      rw [hcached] at h
      obtain ⟨reactions, hadd, rfl⟩ := Option.map_eq_some_iff.1 h
      have hsame : cache.modifyMessage reaction.messageId
            (fun message => { message with reactions }) =
          cache.modifyMessage reaction.messageId (cache.counting reaction) := by
        refine modifyMessage_congr fun other hother => ?_
        rw [hcached] at hother
        cases hother
        rw [counting, Reactions.added, hadd]
        rfl
      rw [hsame]
      exact ⟨rfl, rfl⟩

/-- A reaction cannot be counted if the first record of its emoji has no room for it. -/
theorem addReaction_eq_none_iff {byMe : Bool} : cache.addReaction reaction byMe = none ↔
    ∃ message, cache.message? reaction.messageId = some message ∧
      Reactions.add reaction.emoji byMe message.reactions = none := by
  unfold addReaction
  cases cache.message? reaction.messageId with
  | none => simp
  | some message => simp

theorem counted?_eq_some {message : Message} (h : cache.counted? reaction = some message) :
    (cache.modifyMessage reaction.messageId (cache.counting reaction)).2.map (·.2) =
      some message := by
  obtain ⟨made, hadd, hmessage⟩ := Option.bind_eq_some_iff.1 h
  rw [← (addReaction_of_some hadd).2]
  exact hmessage

/-- A reaction is not counted if its message is not cached, or the count overflows. -/
theorem counted?_eq_none_iff : cache.counted? reaction = none ↔
    cache.message? reaction.messageId = none ∨
      cache.addReaction reaction (cache.isCurrentUser reaction.userId) = none := by
  unfold counted?
  cases hadd : cache.addReaction reaction (cache.isCurrentUser reaction.userId) with
  | none => simp
  | some made =>
      rw [Option.bind_some, (addReaction_of_some hadd).2]
      simp [modifyMessage]

/-- A reaction that is not counted changes nothing. -/
theorem counting_of_counted?_eq_none (h : cache.counted? reaction = none) :
    (cache.modifyMessage reaction.messageId (cache.counting reaction)).1 = cache := by
  refine modifyMessage_eq_self fun message hcached => ?_
  rcases counted?_eq_none_iff.1 h with hnone | hadd
  · rw [hnone] at hcached
    cases hcached
  · obtain ⟨other, hother, hnone⟩ := addReaction_eq_none_iff.1 hadd
    rw [hcached] at hother
    cases hother
    rw [counting, Reactions.added, hnone]
    rfl

/-- A frame that adds a reaction makes an event if the reaction is counted. -/
theorem applyKind_reactionAdd (cache : Cache) (data : Json) :
    cache.applyKind .reactionAdd data =
      (read? MessageReaction.decode data).bind fun reaction =>
        (cache.counted? reaction).bind fun message =>
          some ((cache.modifyMessage reaction.messageId (cache.counting reaction)).1,
            .reactionAdd message reaction) := by
  show (read? MessageReaction.decode data).bind (fun reaction =>
    (cache.addReaction reaction (cache.isCurrentUser reaction.userId)).bind fun made =>
      made.2.bind fun message => some (made.1, Event.reactionAdd message reaction)) = _
  congr 1
  funext reaction
  rw [counted?]
  cases hadd : cache.addReaction reaction (cache.isCurrentUser reaction.userId) with
  | none => rfl
  | some made =>
      rw [Option.bind_some, Option.bind_some, (addReaction_of_some hadd).1]

/-- A frame makes an event of its own kind. -/
theorem kind?_of_applyKind {kind : EventKind} {data : Json} {made : Cache × Event}
    (happly : cache.applyKind kind data = some made) : made.2.kind? = some kind := by
  cases kind with
  | resumed =>
      cases happly
      rfl
  | reactionAdd =>
      rw [applyKind_reactionAdd] at happly
      obtain ⟨decoded, -, happly⟩ := Option.bind_eq_some_iff.1 happly
      obtain ⟨found, -, heq⟩ := Option.bind_eq_some_iff.1 happly
      cases heq
      rfl
  | messageUpdate | messageDelete | reactionRemove | reactionRemoveAll =>
      obtain ⟨decoded, -, happly⟩ := Option.bind_eq_some_iff.1 happly
      obtain ⟨found, -, heq⟩ := Option.bind_eq_some_iff.1 happly
      cases heq
      rfl
  | _ =>
      obtain ⟨decoded, -, heq⟩ := Option.map_eq_some_iff.1 happly
      cases heq
      rfl

/-- A count overflows at a frame that adds a reaction to a cached message whose record of the emoji
has no room for it, and at no other frame. -/
theorem overflows_iff {name : String} {data : Json} : cache.overflows name data = true ↔
    EventKind.ofName? name = some .reactionAdd ∧
      ∃ reaction message, read? MessageReaction.decode data = some reaction ∧
        cache.message? reaction.messageId = some message ∧
        Reactions.add reaction.emoji (cache.isCurrentUser reaction.userId) message.reactions =
          none := by
  unfold overflows overflowsKind
  cases EventKind.ofName? name with
  | none => simp
  | some kind =>
      cases kind with
      | reactionAdd =>
          cases read? MessageReaction.decode data with
          | none => simp
          | some reaction => simp [addReaction_eq_none_iff]
      | _ => simp

theorem apply_of_overflows {name : String} {data : Json} (h : cache.overflows name data = true) :
    cache.apply name data = none := by
  obtain ⟨hkind, reaction, message, hread, hcached, hnone⟩ := overflows_iff.1 h
  have hadd : cache.addReaction reaction (cache.isCurrentUser reaction.userId) = none :=
    addReaction_eq_none_iff.2 ⟨message, hcached, hnone⟩
  rw [apply, hkind]
  show cache.applyKind .reactionAdd data = none
  rw [applyKind_reactionAdd, hread, Option.bind_some, counted?, hadd]
  rfl

end ChatGateway.Cache
