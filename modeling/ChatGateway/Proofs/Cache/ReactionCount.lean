import ChatGateway.Proofs.Cache.Reactors

/-!
The count of one record. A reaction that is added goes to the first record of its emoji and to
nothing else of the message, and adds one to a count that is a word of 32 bits. The service reports
counts of its own, up to the last number that there is; at that one the next reaction breaks off the
frame that brings it (`reaction_counted_iff`).
-/

namespace ChatGateway.Cache

variable {cache : Cache} {frame : Dispatched} {reaction : MessageReaction} {message : Message}
  {before after : List Reaction} {known : Reaction}

section Added

variable (hkind : EventKind.ofName? frame.1 = some .reactionAdd)
  (hread : read? MessageReaction.decode frame.2 = some reaction)
  (hcached : cache.message? reaction.messageId = some message)

include hkind hread hcached

theorem overflows_iff_of_cached : cache.overflows frame.1 frame.2 = true ↔
    Reactions.add reaction.emoji (cache.isCurrentUser reaction.userId) message.reactions =
      none := by
  rw [overflows_iff]
  constructor
  · rintro ⟨-, other, found, hother, hfound, hnone⟩
    rw [hread] at hother
    cases hother
    rw [hcached] at hfound
    cases hfound
    exact hnone
  · exact fun hnone => ⟨hkind, reaction, message, hread, hcached, hnone⟩

/-- A reaction that is counted makes an event, which shows the message with it, and changes no other
message. -/
theorem next_of_counted {records : List Reaction}
    (hadd : Reactions.add reaction.emoji (cache.isCurrentUser reaction.userId) message.reactions =
      some records) :
    let left := { message with reactions := records }
    cache.apply frame.1 frame.2 = some (cache.next frame, .reactionAdd left reaction) ∧
      ∀ id, (cache.next frame).message? id =
        if id = reaction.messageId then some left else cache.message? id := by
  intro left
  have hcounting : cache.counting reaction message = left := by
    rw [counting, Reactions.added, hadd]
    rfl
  have hcounted : cache.counted? reaction = some left := by
    simp [counted?, addReaction, hcached, hadd, modifyMessage, left]
  have happly : cache.apply frame.1 frame.2 =
      some ((cache.modifyMessage reaction.messageId (cache.counting reaction)).1,
        .reactionAdd left reaction) := by
    rw [apply, hkind]
    show cache.applyKind .reactionAdd frame.2 = _
    rw [applyKind_reactionAdd, hread, Option.bind_some, hcounted, Option.bind_some]
  have hnext : cache.next frame =
      (cache.modifyMessage reaction.messageId (cache.counting reaction)).1 := by
    rw [next, happly]
    rfl
  refine ⟨by rw [hnext, happly], fun id => ?_⟩
  rw [hnext, message?_modifyMessage]
  split
  next heq => rw [heq, hcached, Option.map_some, hcounting]
  next => rfl

end Added

/-- A reaction to a message that is cached, after any history. Unless the count of the first record
of its emoji is the last number of 32 bits, the frame makes an event, that count goes up by one, and
nothing else of the message changes and no other message. At the last number, and only there, the
frame breaks off whatever takes it in, before a handler sees anything and with nothing changed. -/
theorem reaction_counted_iff (capacity : Nat) (frames : List Dispatched)
    (hkind : EventKind.ofName? frame.1 = some .reactionAdd)
    (hread : read? MessageReaction.decode frame.2 = some reaction)
    (hcached : ((empty capacity).applyAll frames).message? reaction.messageId = some message)
    (hrecords : message.reactions = before ++ known :: after)
    (hbefore : ∀ record ∈ before, record.emoji.sameAs reaction.emoji = false)
    (hknown : known.emoji.sameAs reaction.emoji = true) :
    let cache := (empty capacity).applyAll frames
    let next := (empty capacity).applyAll (frames ++ [frame])
    (cache.overflows frame.1 frame.2 = true ↔ known.count.toNat + 1 = UInt32.size) ∧
    (known.count.toNat + 1 = UInt32.size →
      next = cache ∧ cache.apply frame.1 frame.2 = none ∧
      ∀ (σ : Type) (dispatcher : Dispatcher) (handler : Handler σ) (state : σ),
        (dispatcher.receive handler cache frame.1 frame.2).run.run state =
          (.error .overflow, state)) ∧
    (known.count.toNat + 1 < UInt32.size →
      ∃ counted : Reaction,
        let left := { message with reactions := before ++ counted :: after }
        counted.count.toNat = known.count.toNat + 1 ∧
        counted = { known with
          count := counted.count
          me := known.me || cache.isCurrentUser reaction.userId } ∧
        cache.apply frame.1 frame.2 = some (next, .reactionAdd left reaction) ∧
        ∀ id, next.message? id =
          if id = reaction.messageId then some left else cache.message? id) := by
  intro cache next
  have hnext : next = cache.next frame := by
    show (empty capacity).applyAll (frames ++ [frame]) = _
    rw [applyAll_append, applyAll_cons]
    rfl
  let byMe := cache.isCurrentUser reaction.userId
  have hadd : Reactions.add reaction.emoji byMe message.reactions =
      (Reactions.countUp? byMe known).map fun counted => before ++ counted :: after := by
    rw [hrecords]
    exact Reactions.add_first hbefore hknown
  have hover : cache.overflows frame.1 frame.2 = true ↔ known.count.toNat + 1 = UInt32.size := by
    rw [overflows_iff_of_cached hkind hread hcached, hadd, Option.map_eq_none_iff]
    exact Reactions.countUp?_eq_none_iff
  refine ⟨hover, fun hlast => ?_, fun hroom => ?_⟩
  · have hnone := apply_of_overflows (hover.2 hlast)
    refine ⟨?_, hnone, fun σ dispatcher handler state =>
      dispatcher.run_receive_of_overflows handler (hover.2 hlast) state⟩
    rw [hnext, Cache.next, hnone]
    rfl
  · have hcounted : Reactions.countUp? byMe known =
        some { known with count := known.count + 1, me := known.me || byMe } :=
      Reactions.countUp?_eq_some_iff.2 ⟨hroom, rfl⟩
    rw [hcounted, Option.map_some] at hadd
    refine ⟨_, Reactions.toNat_count_of_countUp? hcounted, rfl, ?_⟩
    rw [hnext]
    exact next_of_counted hkind hread hcached hadd

/-- A message that arrives with reactions with a unicode emoji and with a custom one. -/
def countedMessage (count : Nat) : Dispatched :=
  let record (count : Nat) (emoji : Json) : Json :=
    .object [("count", .ofNat count), ("emoji", emoji)]
  ("MESSAGE_CREATE", .object [("channel_id", .string "2"), ("id", .string "1"),
    ("reactions", .array [record 3 (.object [("name", .string "x")]),
      record count (.object [("id", .string "5")])])])

def reactionCounts (cache : Cache) : Option (List Nat) :=
  (cache.message? ⟨"1"⟩).map fun message => message.reactions.map (·.count.toNat)

theorem reaction_counted_iff_custom :
    let frame := customReaction "MESSAGE_REACTION_ADD" "9" .null
    let reaction : MessageReaction :=
      { userId := ⟨"9"⟩, channelId := ⟨"2"⟩, messageId := ⟨"1"⟩, emoji := { id := some ⟨"5"⟩ } }
    let other : Reaction := { count := 3, emoji := { name := some "x" } }
    let known : Reaction := { count := 7, emoji := { id := some ⟨"5"⟩ } }
    let message : Message := { id := ⟨"1"⟩, channelId := ⟨"2"⟩, reactions := [other, known] }
    EventKind.ofName? frame.1 = some .reactionAdd ∧
      read? MessageReaction.decode frame.2 = some reaction ∧
      ((empty 10).applyAll [countedMessage 7]).message? ⟨"1"⟩ = some message ∧
      ∃ counted : Reaction, ((empty 10).applyAll [countedMessage 7, frame]).message? ⟨"1"⟩ =
        some { message with reactions := [other, counted] } ∧ counted.count.toNat = 8 := by
  intro frame reaction other known message
  have hread : read? MessageReaction.decode frame.2 = some reaction := by decide +kernel
  have hcached : ((empty 10).applyAll [countedMessage 7]).message? ⟨"1"⟩ = some message := by
    decide +kernel
  have hbefore : ∀ record ∈ [other], record.emoji.sameAs reaction.emoji = false := by decide
  obtain ⟨-, -, hcounted⟩ :=
    reaction_counted_iff 10 [countedMessage 7]
      (show EventKind.ofName? frame.1 = some .reactionAdd from rfl) hread hcached
      (show message.reactions = [other] ++ known :: [] from rfl) hbefore rfl
  obtain ⟨counted, hcount, -, -, hmessages⟩ := hcounted (by decide)
  exact ⟨rfl, hread, hcached, counted, (hmessages _).trans (if_pos rfl), hcount⟩

/-- One more reaction than can be counted leaves the counts as they are and breaks off. -/
theorem reaction_count_overflows :
    let cache := (empty 10).applyAll [countedMessage 4294967295]
    let frame := customReaction "MESSAGE_REACTION_ADD" "9" .null
    let calls := fun event : Event => modify fun handled : List Event => handled ++ [event]
    cache.reactionCounts = some [3, 4294967295] ∧
      (cache.next frame).reactionCounts = some [3, 4294967295] ∧
      ((Dispatcher.fresh 8).receive calls cache frame.1 frame.2).run.run [] =
        (.error .overflow, []) := by
  refine ⟨by decide +kernel, by decide +kernel, ?_⟩
  exact Dispatcher.run_receive_of_overflows _ _ (by decide +kernel) _

end ChatGateway.Cache
