import ChatGateway.Proofs.Cache.Coherence

/-!
What a frame does to one message in the cache. Few kinds of frames are about messages at all
(`messages_next`). Those that change a message change no other one (`keeps_modifyMessage`), and make
an event only if they find it; what becomes of its reactions is read off the frame
(`next_reaction`). Those that create and remove messages leave any other message as it is, unless
it has to make room (`keeps_next_of_store`).
-/

namespace ChatGateway

def createdBy? (frame : Dispatched) : Option Snowflake :=
  match EventKind.ofName? frame.1 with
  | some .messageCreate => (Cache.read? Message.decode frame.2).map (·.id)
  | _ => none

inductive ReactionChange where
  | add (emoji : Emoji) (user : Snowflake)
  | remove (emoji : Emoji) (user : Snowflake)
  | clear

def ReactionChange.on (byMe : Snowflake → Bool) (records : List Reaction) :
    ReactionChange → List Reaction
  | .add emoji user => Reactions.added emoji (byMe user) records
  | .remove emoji user => Reactions.remove emoji (byMe user) records
  | .clear => []

/-- The message to which a frame changes the reactions, and how. -/
def reaction? (frame : Dispatched) : Option (Snowflake × ReactionChange) :=
  match EventKind.ofName? frame.1 with
  | some .reactionAdd => (Cache.read? MessageReaction.decode frame.2).map fun reaction =>
      (reaction.messageId, .add reaction.emoji reaction.userId)
  | some .reactionRemove => (Cache.read? MessageReaction.decode frame.2).map fun reaction =>
      (reaction.messageId, .remove reaction.emoji reaction.userId)
  | some .reactionRemoveAll =>
      (Cache.read? MessageReactionRemoveAll.decode frame.2).map fun cleared =>
        (cleared.messageId, .clear)
  | _ => none

namespace MessageStore

variable (store : MessageStore) (id : Snowflake)

/-- A message is found as before after another one, or itself, was taken out. -/
theorem get?_without (other : Snowflake) :
    (store.table.erase other).get? id = none ∨
      (store.table.erase other).get? id = store.table.get? id := by
  rw [Table.get?_erase]
  split
  next => exact .inl rfl
  next => exact .inr rfl

theorem get?_makeRoom : store.makeRoom.get? id = none ∨ store.makeRoom.get? id = store.get? id := by
  unfold makeRoom
  split
  next oldest rest _ =>
    split
    next => exact store.get?_without id oldest
    next => exact .inr rfl
  next => exact .inr rfl

/-- A message that is put into the store may cost another one its place. -/
theorem get?_insert_of_ne {message : Message} (hne : message.id ≠ id) :
    (store.insert message).get? id = none ∨ (store.insert message).get? id = store.get? id := by
  have hother : ∀ table : Table Snowflake Message,
      (table.insert message.id message).get? id = table.get? id := fun table => by
    rw [Table.get?_insert, if_neg (Ne.symm hne)]
  unfold insert
  split
  next => exact .inr (hother store.table)
  next =>
    show (store.makeRoom.table.insert message.id message).get? id = none ∨
      (store.makeRoom.table.insert message.id message).get? id = store.get? id
    rw [hother]
    exact store.get?_makeRoom id

theorem get?_insert_self (message : Message) :
    (store.insert message).get? message.id = some message := by
  unfold insert
  split
  next => simp [get?, Table.get?_insert]
  next => simp [get?, Table.get?_insert]

theorem get?_erase (other : Snowflake) :
    (store.erase other).get? id = if id = other then none else store.get? id := by
  unfold erase
  split
  next => exact Table.get?_erase ..
  next hnone =>
    split
    next heq =>
      rw [heq]
      exact Option.not_isSome_iff_eq_none.1 hnone
    next => rfl

theorem get?_eraseAll (ids : List Snowflake) :
    (store.eraseAll ids).1.get? id = if id ∈ ids then none else store.get? id := by
  induction ids generalizing store with
  | nil => rfl
  | cons other rest ih =>
      show ((store.erase other).eraseAll rest).1.get? id = _
      rw [ih, get?_erase]
      by_cases hother : id = other <;> simp [hother]

end MessageStore

namespace Cache

variable {cache : Cache} {id : Snowflake} {frame : Dispatched}

def messageKinds : List EventKind :=
  [.messageCreate, .messageUpdate, .messageDelete, .messageDeleteBulk, .reactionAdd,
    .reactionRemove, .reactionRemoveAll]

theorem messages_applyKind {next : Cache} {kind : EventKind} (hkind : kind ∉ messageKinds)
    {data : Json} {event : Event} (happly : cache.applyKind kind data = some (next, event)) :
    next.messages = cache.messages := by
  have hmap : ∀ {α : Type} {decoded : Option α} {f : α → Cache × Event},
      decoded.map f = some (next, event) → (∀ a, (f a).1.messages = cache.messages) →
        next.messages = cache.messages := fun happly hf =>
    of_map_eq_some (P := fun next => next.messages = cache.messages) happly fun a _ => hf a
  cases kind with
  | ready => exact hmap happly fun ready => (guildsOnly_welcome cache ready).messages
  | resumed =>
      cases happly
      rfl
  | guildMemberAdd => exact hmap happly fun joined =>
      (guildsOnly_upsertMember cache _ _).messages
  | guildMemberUpdate => exact hmap happly fun update =>
      (guildsOnly_upsertMember cache _ _).messages
  | guildMembersChunk => exact hmap happly fun chunk =>
      (guildsOnly_upsertMembers cache _ _).messages
  | userUpdate =>
      refine hmap happly fun user => ?_
      show (cache.updateCurrentUser user).messages = cache.messages
      unfold updateCurrentUser
      split <;> rfl
  | messageCreate | messageUpdate | messageDelete | messageDeleteBulk | reactionAdd
  | reactionRemove | reactionRemoveAll => exact absurd (by decide) hkind
  | _ => exact hmap happly fun _ => rfl

/-- Frames that are not about messages leave the messages alone. -/
theorem messages_next {kind : EventKind} (hkind : EventKind.ofName? frame.1 = some kind)
    (hother : kind ∉ messageKinds) : (cache.next frame).messages = cache.messages := by
  rw [cache.next_of_kind hkind]
  cases happly : cache.applyKind kind frame.2 with
  | none => rfl
  | some made =>
      obtain ⟨next, event⟩ := made
      exact messages_applyKind hother happly

/-- A message is gone or as it was. -/
def Keeps (cache : Cache) (id : Snowflake) (next : Cache) : Prop :=
  next.message? id = none ∨ next.message? id = cache.message? id

theorem keeps_of_if {next : Cache} {gone : Prop} [Decidable gone]
    (h : next.message? id = if gone then none else cache.message? id) : cache.Keeps id next := by
  split at h
  next => exact .inl h
  next => exact .inr h

/-! ### Frames that change one message -/

theorem message?_modifyMessage (cache : Cache) (id other : Snowflake) (f : Message → Message) :
    (cache.modifyMessage other f).1.message? id =
      if id = other then (cache.message? id).map f else cache.message? id :=
  MessageStore.get?_modify ..

theorem keeps_modifyMessage {other : Snowflake} (f : Message → Message) (hne : id ≠ other) :
    cache.Keeps id (cache.modifyMessage other f).1 := by
  refine .inr ?_
  rw [message?_modifyMessage, if_neg hne]

/-- A frame whose data cannot be read leaves the cache alone. -/
theorem keeps_next_of_none {kind : EventKind} (hkind : EventKind.ofName? frame.1 = some kind)
    (hnone : cache.applyKind kind frame.2 = none) : cache.Keeps id (cache.next frame) := by
  refine .inr ?_
  rw [cache.next_of_kind hkind, hnone]
  rfl

/-- A frame that makes an event only if it finds what it is about changes nothing if it does not. -/
theorem next_of_found {kind : EventKind} (hkind : EventKind.ofName? frame.1 = some kind)
    {other : Snowflake} {f : Message → Message} {β : Type} (found : Option β) (made : β → Event)
    (happly : cache.applyKind kind frame.2 =
      found.bind fun b => some ((cache.modifyMessage other f).1, made b))
    (hnone : found = none → (cache.modifyMessage other f).1 = cache) :
    cache.next frame = (cache.modifyMessage other f).1 := by
  rw [cache.next_of_kind hkind, happly]
  cases hfound : found with
  | none => exact (hnone hfound).symm
  | some b => rfl

theorem next_messageUpdate (hkind : EventKind.ofName? frame.1 = some .messageUpdate)
    {update : MessageUpdate} (hread : read? MessageUpdate.decode frame.2 = some update) :
    cache.next frame = (cache.modifyMessage update.id (patch update)).1 := by
  refine next_of_found hkind (cache.updateMessage update).2
    (fun change => .messageUpdate change.1 change.2) ?_ modifyMessage_of_none
  rw [applyKind, hread]
  rfl

theorem next_reaction {other : Snowflake} {change : ReactionChange}
    (hfound : reaction? frame = some (other, change)) :
    cache.next frame = (cache.modifyMessage other fun message =>
      { message with reactions := change.on cache.isCurrentUser message.reactions }).1 := by
  unfold reaction? at hfound
  split at hfound
  next hkind =>
    obtain ⟨reaction, hread, hmade⟩ := Option.map_eq_some_iff.1 hfound
    cases hmade
    refine next_of_found hkind (cache.counted? reaction)
      (fun message => .reactionAdd message reaction) ?_ counting_of_counted?_eq_none
    rw [applyKind_reactionAdd, hread]
    rfl
  next hkind =>
    obtain ⟨reaction, hread, hmade⟩ := Option.map_eq_some_iff.1 hfound
    cases hmade
    refine next_of_found hkind
      (cache.removeReaction reaction (cache.isCurrentUser reaction.userId)).2
      (fun message => .reactionRemove message reaction) ?_
      fun hnone => modifyMessage_of_none (Option.map_eq_none_iff.1 hnone)
    rw [applyKind, hread]
    rfl
  next hkind =>
    obtain ⟨cleared, hread, hmade⟩ := Option.map_eq_some_iff.1 hfound
    cases hmade
    refine next_of_found hkind (cache.clearReactions cleared.messageId).2 .reactionRemoveAll ?_
      fun hnone => modifyMessage_of_none (Option.map_eq_none_iff.1 hnone)
    rw [applyKind, hread]
    rfl
  next => cases hfound

/-! ### Frames that create and remove messages -/

/-- A frame that creates or removes messages leaves a message that it does not create as it is,
unless it takes it out. -/
theorem keeps_next_of_store (hcreate : createdBy? frame ≠ some id) {kind : EventKind}
    (hkind : EventKind.ofName? frame.1 = some kind)
    (hstore : kind ∈ [EventKind.messageCreate, .messageDelete, .messageDeleteBulk]) :
    cache.Keeps id (cache.next frame) := by
  rw [cache.next_of_kind hkind]
  cases happly : cache.applyKind kind frame.2 with
  | none => exact .inr rfl
  | some made =>
      show cache.Keeps id made.1
      cases kind with
      | messageCreate =>
          refine of_map_eq_some (P := cache.Keeps id) happly fun message hread => ?_
          refine cache.messages.get?_insert_of_ne id fun heq => hcreate ?_
          unfold createdBy?
          rw [hkind]
          dsimp only
          rw [hread, Option.map_some, heq]
      | messageDelete =>
          exact of_bind_eq_some (P := cache.Keeps id) happly fun gone _ =>
            keeps_of_if (cache.messages.get?_erase id gone.id)
      | messageDeleteBulk =>
          exact of_map_eq_some (P := cache.Keeps id) happly fun gone _ =>
            keeps_of_if (cache.messages.get?_eraseAll id gone.ids)
      | _ => simp at hstore

end Cache

end ChatGateway
