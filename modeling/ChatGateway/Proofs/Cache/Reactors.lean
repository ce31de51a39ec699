import ChatGateway.Proofs.Cache.MessageFrames
import ChatGateway.Proofs.Cache.Tally

/-!
Who reacts to a message. A history of frames tells which users react with which emoji; nothing of it
is kept in the cache but counts and flags. A frame about the reactions to a message changes its
records as `ReactionChange.on` says (`message?_next_of_change`), and any other frame leaves them as
they are while the message stays (`message?_next_of_spares`). A change of the records then follows
the change of the sets of users (`CountedBy.after`), as long as users take back only what they have
given and give nothing twice; from a message without reactions on, the records count the users at
any time (`reactions_counted`).
-/

namespace ChatGateway

def reactionChange? (id : Snowflake) (frame : Dispatched) : Option ReactionChange :=
  (reaction? frame).bind fun found => if id = found.1 then some found.2 else none

/-- The users who react to a message, for each emoji. -/
abbrev Reactors := EmojiIdentity → Finset Snowflake

namespace Reactors

def nobody : Reactors := fun _ => ∅

def after (who : Reactors) : ReactionChange → Reactors
  | .add emoji user => fun identity =>
      if emoji.identity? = some identity then insert user (who identity) else who identity
  | .remove emoji user => fun identity =>
      if emoji.identity? = some identity then (who identity).erase user else who identity
  | .clear => nobody

def next (who : Reactors) (id : Snowflake) (frame : Dispatched) : Reactors :=
  match reactionChange? id frame with
  | some change => who.after change
  | none => who

def afterAll (who : Reactors) (id : Snowflake) (frames : List Dispatched) : Reactors :=
  frames.foldl (fun who frame => who.next id frame) who

end Reactors

namespace ReactionChange

/-- Users react with emojis that have an identity, once with each, and take back only what they have
given; the users who react with one emoji do not become too many to be counted. -/
def Fair (who : Reactors) : ReactionChange → Prop
  | .add emoji user => ∃ identity, emoji.identity? = some identity ∧
      user ∉ who identity ∧ (who identity).card + 1 < UInt32.size
  | .remove emoji user => ∃ identity, emoji.identity? = some identity ∧ user ∈ who identity
  | .clear => True

end ReactionChange

/-- The records of a message count the users who react to it: those of each emoji tell how many
users react with it and whether a given one does, and there is no other record. -/
structure Reactors.CountedBy (who : Reactors) (me : Snowflake) (records : List Reaction) :
    Prop where
  known : ∀ record ∈ records, record.emoji.identity?.isSome
  tally : ∀ identity, Reactions.Tally me (who identity) (Reactions.of identity records)

namespace Cache

/-- A frame neither creates a message nor removes it from the cache, be it to make room for another
one, and the current user stays who it is. -/
structure Spares (cache : Cache) (id : Snowflake) (frame : Dispatched) : Prop where
  create : createdBy? frame ≠ some id
  keep : ((cache.next frame).message? id).isSome
  user : (cache.next frame).userId? = cache.userId?

/-- Frames in turn, each of which changes the reactions to a message fairly or is about something
else and spares it. -/
def Attends (cache : Cache) (id : Snowflake) (who : Reactors) : List Dispatched → Prop
  | [] => True
  | frame :: rest =>
      (match reactionChange? id frame with
        | some change => change.Fair who
        | none => cache.Spares id frame) ∧
        (cache.next frame).Attends id (who.next id frame) rest

/-! ### From a frame to the records -/

variable {cache : Cache} {id : Snowflake} {frame : Dispatched}

/-- A frame about the reactions to a message changes the records of the message and nothing else of
it. -/
theorem message?_next_of_change {change : ReactionChange}
    (hchange : reactionChange? id frame = some change) :
    (cache.next frame).message? id = (cache.message? id).map fun message =>
      { message with reactions := change.on cache.isCurrentUser message.reactions } := by
  obtain ⟨⟨other, made⟩, hfound, hchange⟩ := Option.bind_eq_some_iff.1 hchange
  obtain ⟨hid, hmade⟩ := Option.ite_none_right_eq_some.1 hchange
  cases hmade
  rw [next_reaction hfound, message?_modifyMessage, if_pos hid]

theorem userId?_next_of_change {change : ReactionChange}
    (hchange : reactionChange? id frame = some change) :
    (cache.next frame).userId? = cache.userId? := by
  have hready : readyOf? frame = none := by
    obtain ⟨found, hfound, -⟩ := Option.bind_eq_some_iff.1 hchange
    unfold reaction? at hfound
    split at hfound
    next hkind => exact readyOf?_of_ne hkind (by decide)
    next hkind => exact readyOf?_of_ne hkind (by decide)
    next hkind => exact readyOf?_of_ne hkind (by decide)
    next => cases hfound
  rw [userId?_next, hready]

/-- A frame about reactions leaves a message that it is not about as it is. -/
theorem keeps_next_of_reaction (hother : reactionChange? id frame = none) {kind : EventKind}
    (hkind : EventKind.ofName? frame.1 = some kind)
    (hreaction : kind ∈ [EventKind.reactionAdd, .reactionRemove, .reactionRemoveAll]) :
    cache.Keeps id (cache.next frame) := by
  cases hfound : reaction? frame with
  | some found =>
      obtain ⟨other, change⟩ := found
      have hne : id ≠ other := by
        intro heq
        simp [reactionChange?, hfound, heq] at hother
      rw [next_reaction hfound]
      exact keeps_modifyMessage _ hne
  | none =>
      -- the frame names a reaction, so that its data cannot be read
      refine keeps_next_of_none hkind ?_
      unfold reaction? at hfound
      rw [hkind] at hfound
      cases kind with
      | reactionAdd | reactionRemove | reactionRemoveAll =>
          have hread := Option.map_eq_none_iff.1 hfound
          rw [applyKind, hread]
          rfl
      | _ => simp at hreaction

/-- A frame that is not about the reactions to a message leaves them as they are if it spares the
message, whatever else it changes. -/
theorem message?_next_of_spares (hspares : cache.Spares id frame)
    (hother : reactionChange? id frame = none) {message : Message}
    (hcached : cache.message? id = some message) :
    ∃ after, (cache.next frame).message? id = some after ∧
      after.reactions = message.reactions := by
  obtain ⟨after, hafter⟩ := Option.isSome_iff_exists.1 hspares.keep
  refine ⟨after, hafter, ?_⟩
  -- a message that is there before and after a frame that may only remove it is the same one
  have hsame : cache.Keeps id (cache.next frame) → after.reactions = message.reactions := by
    rintro (hnone | hkept)
    · rw [hafter] at hnone
      cases hnone
    · rw [hafter, hcached] at hkept
      cases hkept
      rfl
  cases hkind : EventKind.ofName? frame.1 with
  | none =>
      refine hsame (.inr ?_)
      unfold next apply
      rw [hkind]
      rfl
  | some kind =>
      cases kind with
      | messageUpdate =>
          cases hread : read? MessageUpdate.decode frame.2 with
          | none => exact hsame (keeps_next_of_none hkind (by rw [applyKind, hread]; rfl))
          | some update =>
              have hmessage := message?_modifyMessage cache id update.id (patch update)
              rw [← next_messageUpdate hkind hread, hafter, hcached] at hmessage
              split at hmessage
              next =>
                -- an update has nothing to say about reactions
                rw [Option.map_some] at hmessage
                cases hmessage
                rfl
              next =>
                cases hmessage
                rfl
      | reactionAdd | reactionRemove | reactionRemoveAll =>
          exact hsame (keeps_next_of_reaction hother hkind (by decide))
      | messageCreate | messageDelete | messageDeleteBulk =>
          exact hsame (keeps_next_of_store hspares.create hkind (by decide))
      | _ =>
          refine hsame (.inr ?_)
          unfold Cache.message?
          rw [messages_next hkind (by decide)]

theorem isCurrentUser_of_userId? {me : Snowflake} (hme : cache.userId? = some me) :
    cache.isCurrentUser = fun user => decide (me = user) := by
  funext user
  unfold isCurrentUser
  rw [show cache.currentUser.map (·.id) = some me from hme]
  rfl

end Cache

/-! ### From one frame to all of them -/

namespace Reactors

variable {who : Reactors} {me : Snowflake} {records : List Reaction}

theorem countedBy_nil (me : Snowflake) : nobody.CountedBy me [] where
  known := by simp
  tally _ := rfl

/-- The records of one emoji are the same as every emoji of their identity. -/
theorem sameAs_of_mem_of {identity : EmojiIdentity} {emoji : Emoji}
    (hemoji : emoji.identity? = some identity) {record : Reaction}
    (hmem : record ∈ Reactions.of identity records) : record.emoji.sameAs emoji = true := by
  have hrecord : record.emoji.identity? = some identity := by
    simpa using List.of_mem_filter hmem
  exact (Emoji.sameAs_iff _ _).2 ⟨identity, hrecord, hemoji⟩

/-- A fair change of who reacts is followed by the records. -/
theorem CountedBy.after (h : who.CountedBy me records) {change : ReactionChange}
    (hfair : change.Fair who) :
    (who.after change).CountedBy me (change.on (fun user => decide (me = user)) records) := by
  cases change with
  | add emoji user =>
      obtain ⟨own, hown, hnew, hroom⟩ := hfair
      refine ⟨Reactions.known_add (by rw [hown]; rfl) h.known, fun identity => ?_⟩
      show Reactions.Tally me (if emoji.identity? = some identity then insert user (who identity)
        else who identity) _
      rw [ReactionChange.on, Reactions.of_add]
      -- the tally of the emoji takes in the user, and the other ones stay as they are
      by_cases heq : emoji.identity? = some identity
      · cases hown.symm.trans heq
        rw [if_pos heq, if_pos heq]
        exact (h.tally own).add (fun record => sameAs_of_mem_of hown) hnew hroom
      · rw [if_neg heq, if_neg heq]
        exact h.tally identity
  | remove emoji user =>
      obtain ⟨own, hown, hthere⟩ := hfair
      refine ⟨Reactions.known_remove h.known, fun identity => ?_⟩
      show Reactions.Tally me (if emoji.identity? = some identity then (who identity).erase user
        else who identity) _
      rw [ReactionChange.on, Reactions.of_remove]
      by_cases heq : emoji.identity? = some identity
      · cases hown.symm.trans heq
        rw [if_pos heq, if_pos heq]
        exact (h.tally own).remove (fun record => sameAs_of_mem_of hown) hthere
      · rw [if_neg heq, if_neg heq]
        exact h.tally identity
  | clear => exact countedBy_nil me

end Reactors

namespace Cache

def Counts (cache : Cache) (id : Snowflake) (who : Reactors) (me : Snowflake) : Prop :=
  cache.userId? = some me ∧
    ∃ message, cache.message? id = some message ∧ who.CountedBy me message.reactions

variable {cache : Cache} {id me : Snowflake} {who : Reactors} {frame : Dispatched}
  {frames before : List Dispatched}

theorem Counts.next (h : cache.Counts id who me) (hframe : cache.Attends id who [frame]) :
    (cache.next frame).Counts id (who.next id frame) me := by
  obtain ⟨hme, message, hcached, hcounted⟩ := h
  obtain ⟨hframe, -⟩ := hframe
  unfold Reactors.next
  cases hchange : reactionChange? id frame with
  | some change =>
      rw [hchange] at hframe
      refine ⟨(userId?_next_of_change hchange).trans hme,
        { message with reactions := change.on _ message.reactions }, ?_, hcounted.after hframe⟩
      rw [message?_next_of_change hchange, hcached, isCurrentUser_of_userId? hme]
      rfl
  | none =>
      rw [hchange] at hframe
      obtain ⟨after, hafter, hsame⟩ := message?_next_of_spares hframe hchange hcached
      refine ⟨hframe.user.trans hme, after, hafter, ?_⟩
      rw [hsame]
      exact hcounted

theorem Counts.applyAll (h : cache.Counts id who me) (hattends : cache.Attends id who frames) :
    (cache.applyAll frames).Counts id (who.afterAll id frames) me := by
  induction frames generalizing cache who with
  | nil => exact h
  | cons frame rest ih =>
      obtain ⟨hframe, hrest⟩ := hattends
      rw [applyAll_cons]
      exact ih (h.next ⟨hframe, trivial⟩) hrest

/-- What holds of all frames holds of the first of them. -/
theorem Attends.of_append {rest : List Dispatched}
    (h : cache.Attends id who (before ++ rest)) : cache.Attends id who before := by
  induction before generalizing cache who with
  | nil => trivial
  | cons frame before ih => exact ⟨h.1, ih h.2⟩

/-- Reactions are counted right at any time: take a message without reactions in the cache of a
known user, and frames each of which changes the reactions to it fairly or spares it. After every
part of the frames the message holds one record for each emoji that somebody reacts with and none
besides; the record tells how many users react with the emoji and whether the known one is among
them. -/
theorem reactions_counted {message : Message} (hcached : cache.message? id = some message)
    (hnone : message.reactions = []) (hme : cache.userId? = some me)
    (hattends : cache.Attends id .nobody frames) (hbefore : before <+: frames) :
    ∃ after, (cache.applyAll before).message? id = some after ∧
      (Reactors.nobody.afterAll id before).CountedBy me after.reactions := by
  obtain ⟨rest, rfl⟩ := hbefore
  have hstart : cache.Counts id .nobody me := by
    refine ⟨hme, message, hcached, ?_⟩
    rw [hnone]
    exact Reactors.countedBy_nil me
  exact (hstart.applyAll hattends.of_append).2

/-- A frame about a custom emoji, with whatever name it has at the time. -/
def customReaction (event user : String) (emoji : Json) : Dispatched :=
  (event, .object [("user_id", .string user), ("channel_id", .string "2"),
    ("message_id", .string "1"), ("emoji", .object [("id", .string "5"), ("name", emoji)])])

/-- Two users react with an emoji that gets another name meanwhile, and the first one, who is the
current user, takes it back. -/
def renamedReactions : List Dispatched :=
  [customReaction "MESSAGE_REACTION_ADD" "7" (.string "old"), ("OTHER", .null),
    customReaction "MESSAGE_REACTION_ADD" "8" (.string "new"),
    customReaction "MESSAGE_REACTION_REMOVE" "7" .null]

theorem reactions_counted_renamed :
    let cache := ((empty 10).setCurrentUser { id := ⟨"7"⟩ }).insertMessage
      { id := ⟨"1"⟩, channelId := ⟨"2"⟩ }
    cache.userId? = some ⟨"7"⟩ ∧ cache.Attends ⟨"1"⟩ .nobody renamedReactions ∧
      ∃ after, (cache.applyAll renamedReactions).message? ⟨"1"⟩ = some after ∧
        (Reactors.nobody.afterAll ⟨"1"⟩ renamedReactions).CountedBy ⟨"7"⟩ after.reactions := by
  intro cache
  have hattends : cache.Attends ⟨"1"⟩ .nobody renamedReactions := by
    refine ⟨?_, ?_, ?_, ?_, trivial⟩
    · exact ⟨.custom ⟨"5"⟩, rfl, by decide, by decide⟩
    · exact ⟨by decide +kernel, by decide +kernel, by decide +kernel⟩
    · exact ⟨.custom ⟨"5"⟩, rfl, by decide, by decide⟩
    · exact ⟨.custom ⟨"5"⟩, rfl, by decide⟩
  have hcached : cache.message? ⟨"1"⟩ = some { id := ⟨"1"⟩, channelId := ⟨"2"⟩ } := by
    decide +kernel
  exact ⟨rfl, hattends, reactions_counted hcached rfl rfl hattends (List.prefix_refl _)⟩

end Cache

end ChatGateway
