import ChatGateway.Proofs.Dispatch.EventViews

/-!
Frames that cannot be used. A frame is taken in by work on a cache that is changed in place: its
data are read, the cache is changed, and an event is made of what was found. A step that fails ends
the work and takes nothing back, so it is the order of the steps that keeps a cache from being left
half changed. The work comes to what the cache is said to do with the frame (`exec_ofKind`); it
fails on the frames that cannot be read and on those about a message that is not cached, and on no
others (`unusable_iff`), and nothing at all is changed by them (`unusable_changes_nothing`). Nor is
it by work that breaks off.
-/

namespace ChatGateway

namespace Cache

/-- Why work on a frame ends without an event. -/
inductive Failure where
  | unusable
  /-- A count overflows. -/
  | broken

/-- Work on a cache that is changed in place. What was done before a step that fails stays done. -/
abbrev Work := ExceptT Failure (StateM Cache)

namespace Work

variable {α β : Type}

def exec (work : Work α) (cache : Cache) : Except Failure α × Cache := work.run.run cache

def found (a : Option α) : Work α := ExceptT.mk (pure (a.elim (.error .unusable) .ok))

def read (decode : Decoder α) (data : Json) : Work α := found (read? decode data)

def change (f : Cache → Cache × α) : Work α := ExceptT.lift (modifyGet fun cache => (f cache).swap)

/-- Changes the cache, unless a count overflows. -/
def count (f : Cache → Option (Cache × α)) : Work α := ExceptT.mk fun cache =>
  (f cache).elim (.error .broken, cache) fun made => (.ok made.2, made.1)

def update (f : Cache → Cache) : Work Unit := change fun cache => (f cache, ())

def look (f : Cache → α) : Work α := change fun cache => (cache, f cache)

def ofKind (kind : EventKind) (data : Json) : Work Event :=
  match kind with
  | .ready => do
    let ready ← read ReadyEvent.decode data
    update (·.setCurrentUser ready.user)
    ready.guilds.forM fun guild => update fun cache => (cache.insertGuild guild).1
    return .ready ready
  | .resumed => return .resumed
  | .channelCreate => do
    let channel ← read Channel.decode data
    update (·.upsertChannel channel)
    return .channelCreate channel
  | .channelUpdate => do
    let channel ← read Channel.decode data
    update (·.upsertChannel channel)
    return .channelUpdate channel
  | .channelDelete => do
    let channel ← read Channel.decode data
    let removed ← change (·.removeChannel channel.id)
    return .channelDelete (removed.getD channel)
  | .channelPinsUpdate => do
    let pins ← read ChannelPinsUpdate.decode data
    return .channelPinsUpdate (← change (·.updateChannelPins pins))
  | .guildCreate => do
    let guild ← read Guild.decode data
    return .guildCreate (← change (·.insertGuild guild))
  | .guildUpdate => do
    let guild ← read Guild.decode data
    return .guildUpdate (← change (·.updateGuild guild))
  | .guildDelete => do
    let gone ← read UnavailableGuild.decode data
    let removed ← change (·.removeGuild gone.id)
    return .guildDelete { removed.getD (.placeholder gone.id) with unavailable := true }
  | .guildBanAdd => return .guildBanAdd (← read GuildBan.decode data)
  | .guildBanRemove => return .guildBanRemove (← read GuildBan.decode data)
  | .guildEmojisUpdate => do
    let emojis ← read GuildEmojisUpdate.decode data
    update (·.setGuildEmojis emojis.guildId emojis.emojis)
    return .guildEmojisUpdate emojis
  | .guildIntegrationsUpdate =>
    return .guildIntegrationsUpdate (← read GuildIntegrationsUpdate.decode data)
  | .guildMemberAdd => do
    let joined ← read GuildMemberAdd.decode data
    return .guildMemberAdd (← change (·.upsertMember joined.guildId joined.member))
  | .guildMemberRemove => do
    let left ← read GuildMemberRemove.decode data
    let member ← change (·.removeMember left.guildId left.user.id)
    return .guildMemberRemove left.guildId left.user member
  | .guildMemberUpdate => do
    let renewed ← read GuildMemberUpdate.decode data
    return .guildMemberUpdate (← change (·.updateMember renewed))
  | .guildMembersChunk => do
    let chunk ← read GuildMembersChunk.decode data
    chunk.members.forM fun member => update fun cache =>
      (cache.upsertMember chunk.guildId member).1
    return .guildMembersChunk chunk
  | .guildRoleCreate => do
    let role ← read GuildRole.decode data
    update (·.upsertRole role.guildId role.role)
    return .guildRoleCreate role
  | .guildRoleUpdate => do
    let role ← read GuildRole.decode data
    update (·.upsertRole role.guildId role.role)
    return .guildRoleUpdate role
  | .guildRoleDelete => do
    let gone ← read GuildRoleDelete.decode data
    let role ← change (·.removeRole gone.guildId gone.roleId)
    return .guildRoleDelete gone.guildId gone.roleId role
  | .messageCreate => do
    let message ← read Message.decode data
    update (·.insertMessage message)
    return .messageCreate message
  | .messageUpdate => do
    let renewed ← read MessageUpdate.decode data
    let (before, after) ← found (← change (·.updateMessage renewed))
    return .messageUpdate before after
  | .messageDelete => do
    let gone ← read MessageDelete.decode data
    return .messageDelete (← found (← change (·.removeMessage gone.id)))
  | .messageDeleteBulk => do
    let gone ← read MessageDeleteBulk.decode data
    return .messageDeleteBulk (← change (·.removeMessages gone.ids))
  | .reactionAdd => do
    let reaction ← read MessageReaction.decode data
    let byMe ← look (·.isCurrentUser reaction.userId)
    return .reactionAdd (← found (← count (·.addReaction reaction byMe))) reaction
  | .reactionRemove => do
    let reaction ← read MessageReaction.decode data
    let byMe ← look (·.isCurrentUser reaction.userId)
    return .reactionRemove (← found (← change (·.removeReaction reaction byMe))) reaction
  | .reactionRemoveAll => do
    let cleared ← read MessageReactionRemoveAll.decode data
    return .reactionRemoveAll (← found (← change (·.clearReactions cleared.messageId)))
  | .presenceUpdate => return .presenceUpdate (← read PresenceUpdate.decode data)
  | .typingStart => return .typingStart (← read TypingStart.decode data)
  | .userUpdate => do
    let user ← read User.decode data
    update (·.updateCurrentUser user)
    return .userUpdate user
  | .webhooksUpdate => return .webhooksUpdate (← read WebhooksUpdate.decode data)

def ofFrame (name : String) (data : Json) : Work Event :=
  match EventKind.ofName? name with
  | some kind => ofKind kind data
  | none => return .unknown name data

/-! ### Steps -/

/-- What follows on a step sees the cache as the step has left it. -/
theorem exec_bind (work : Work α) (next : α → Work β) (cache : Cache) :
    (work >>= next).exec cache =
      match work.exec cache with
      | (.ok a, left) => (next a).exec left
      | (.error failure, left) => (.error failure, left) := by
  unfold exec
  rw [ExceptT.run_bind, StateT.run_bind]
  generalize work.run.run cache = left
  obtain ⟨a, left⟩ := left
  cases a <;> rfl

@[simp] theorem exec_change (f : Cache → Cache × α) (cache : Cache) :
    (change f).exec cache = (.ok (f cache).2, (f cache).1) := rfl

theorem exec_update (f : Cache → Cache) (cache : Cache) :
    (update f).exec cache = (.ok (), f cache) := rfl

/-- Changes made one after another add up. -/
theorem exec_forM (f : α → Cache → Cache) (list : List α) (cache : Cache) :
    (list.forM fun a => update (f a)).exec cache =
      (.ok (), list.foldl (fun cache a => f a cache) cache) := by
  induction list generalizing cache with
  | nil => rfl
  | cons a rest ih =>
      show (update (f a) >>= fun _ => rest.forM fun a => update (f a)).exec cache = _
      rw [exec_bind, exec_update]
      exact ih (f a cache)

/-- Work that finds nothing to go on with fails, and leaves the cache as it is by then. -/
theorem exec_found_bind (a : Option α) (next : α → Work β) (cache : Cache) :
    (found a >>= next).exec cache =
      match a with
      | some a => (next a).exec cache
      | none => (.error .unusable, cache) := by
  rw [exec_bind]
  cases a <;> rfl

theorem exec_change_found (f : Cache → Cache × Option α) (made : α → Event) (cache : Cache) :
    (change f >>= fun a => found a >>= fun a => pure (made a)).exec cache =
      match (f cache).2 with
      | some a => (.ok (made a), (f cache).1)
      | none => (.error .unusable, (f cache).1) := by
  rw [exec_bind, exec_change]
  dsimp only
  rw [exec_found_bind]
  cases (f cache).2 <;> rfl

theorem exec_count_found (f : Cache → Option (Cache × Option α)) (made : α → Event)
    (cache : Cache) :
    (count f >>= fun a => found a >>= fun a => pure (made a)).exec cache =
      match f cache with
      | some (next, some a) => (.ok (made a), next)
      | some (next, none) => (.error .unusable, next)
      | none => (.error .broken, cache) := by
  have hcount : (count f).exec cache = ((f cache).elim (.error .broken, cache)
      fun made => (.ok made.2, made.1)) := rfl
  rw [exec_bind, hcount]
  rcases f cache with _ | ⟨next, _ | a⟩ <;> rfl

/-! ### Frames -/

/-- What work on a frame comes to when the cache answers the frame in a certain way. -/
def outcome (cache : Cache) (overflows : Bool) :
    Option (Cache × Event) → Except Failure Event × Cache
  | some (next, event) => (.ok event, next)
  | none => (.error (if overflows then .broken else .unusable), cache)

section Kinds

variable {decode : Decoder α} {data : Json} {cache : Cache}

/-- Work that goes through once the data are read. -/
theorem exec_of_map {next : α → Work Event} {made : α → Cache × Event}
    (hnext : ∀ a, (next a).exec cache = (.ok (made a).2, (made a).1)) :
    (read decode data >>= next).exec cache =
      outcome cache false ((read? decode data).map made) := by
  rw [read, exec_found_bind]
  cases read? decode data with
  | none => rfl
  | some a => exact hnext a

/-- Work that makes its event of what it finds. The cache may be changed by then, but it is not if
there is nothing to be found. -/
theorem exec_of_bind (changed : α → Cache × Option β) (made : α → β → Event)
    (hnone : ∀ a, (changed a).2 = none → (changed a).1 = cache) {f : α → Cache → Cache × Option β}
    (hf : ∀ a, f a cache = changed a) :
    (read decode data >>= fun a => change (f a) >>= fun b => found b >>= fun b =>
        pure (made a b)).exec cache =
      outcome cache false ((read? decode data).bind fun a =>
        (changed a).2.bind fun b => some ((changed a).1, made a b)) := by
  rw [read, exec_found_bind]
  cases read? decode data with
  | none => rfl
  | some a =>
      dsimp only
      rw [exec_change_found, hf a, Option.bind_some]
      cases hfound : (changed a).2 with
      | none => exact congrArg (Except.error Failure.unusable, ·) (hnone a hfound)
      | some b => rfl

end Kinds

/-- The work on a reaction that is added, which may break off. -/
theorem exec_reactionAdd (data : Json) (cache : Cache) :
    (ofKind .reactionAdd data).exec cache =
      outcome cache (cache.overflowsKind .reactionAdd data)
        (cache.applyKind .reactionAdd data) := by
  show (read MessageReaction.decode data >>= fun reaction =>
    look (·.isCurrentUser reaction.userId) >>= fun byMe =>
      count (·.addReaction reaction byMe) >>= fun a => found a >>= fun message =>
        pure (Event.reactionAdd message reaction)).exec cache = _
  rw [read, exec_found_bind, applyKind_reactionAdd, overflowsKind]
  cases read? MessageReaction.decode data with
  | none => rfl
  | some reaction =>
      dsimp only
      rw [exec_bind, look, exec_change]
      dsimp only
      rw [exec_count_found, Option.bind_some]
      cases hadd : cache.addReaction reaction (cache.isCurrentUser reaction.userId) with
      | none => rw [counted?, hadd]; rfl
      | some made =>
          obtain ⟨next, message⟩ := made
          have hnext := (addReaction_of_some hadd).1
          have hcounted : cache.counted? reaction = message := by rw [counted?, hadd]; rfl
          cases message with
          | none =>
              rw [hcounted]
              exact congrArg (Except.error Failure.unusable, ·)
                (hnext.trans (counting_of_counted?_eq_none hcounted))
          | some message =>
              rw [hcounted]
              exact congrArg (Except.ok _, ·) hnext

/-- The work on a frame does to the cache what the cache is said to do with the frame. -/
theorem exec_ofKind (kind : EventKind) (data : Json) (cache : Cache) :
    (ofKind kind data).exec cache =
      outcome cache (cache.overflowsKind kind data) (cache.applyKind kind data) := by
  cases kind with
  | resumed => rfl
  | ready =>
      refine exec_of_map fun ready => ?_
      rw [exec_bind, exec_update]
      dsimp only
      rw [exec_bind, exec_forM]
      rfl
  | guildMembersChunk =>
      refine exec_of_map fun chunk => ?_
      rw [exec_bind, exec_forM]
      rfl
  | messageUpdate =>
      exact exec_of_bind cache.updateMessage (fun _ change => .messageUpdate change.1 change.2)
        (fun _ => modifyMessage_of_none) fun _ => rfl
  | messageDelete =>
      exact exec_of_bind (fun gone : MessageDelete => cache.removeMessage gone.id)
        (fun _ message => .messageDelete message) (fun _ => removeMessage_of_none) fun _ => rfl
  | reactionAdd => exact exec_reactionAdd data cache
  | reactionRemove =>
      exact exec_of_bind
        (fun reaction => cache.removeReaction reaction (cache.isCurrentUser reaction.userId))
        (fun reaction message => .reactionRemove message reaction)
        (fun _ hnone => modifyMessage_of_none (Option.map_eq_none_iff.1 hnone)) fun _ => rfl
  | reactionRemoveAll =>
      exact exec_of_bind
        (fun cleared : MessageReactionRemoveAll => cache.clearReactions cleared.messageId)
        (fun _ message => .reactionRemoveAll message)
        (fun _ hnone => modifyMessage_of_none (Option.map_eq_none_iff.1 hnone)) fun _ => rfl
  | _ => exact exec_of_map fun _ => rfl

theorem exec_ofFrame (name : String) (data : Json) (cache : Cache) :
    (ofFrame name data).exec cache =
      outcome cache (cache.overflows name data) (cache.apply name data) := by
  unfold ofFrame overflows apply
  cases EventKind.ofName? name with
  | none => rfl
  | some kind => exact exec_ofKind kind data cache

theorem outcome_eq_error_iff {cache : Cache} {made : Option (Cache × Event)} {overflows : Bool} :
    (outcome cache overflows made = (.error .unusable, cache) ↔
        made = none ∧ overflows = false) ∧
      (outcome cache overflows made = (.error .broken, cache) ↔
        made = none ∧ overflows = true) := by
  cases made <;> cases overflows <;> simp [outcome]

end Work

/-- A frame that a cache cannot use: its data cannot be read, or they are about a message that is
not cached. -/
def Unusable (cache : Cache) (name : String) (data : Json) : Prop :=
  ∃ kind, EventKind.ofName? name = some kind ∧
    (kind.reads data = false ∨ ∃ id, kind.subject? data = some id ∧ cache.message? id = none)

section Failures

variable {α β : Type} {decode : Decoder α} {data : Json} (cache : Cache)

/-- A frame that makes an event of whatever it can read fails only if it cannot be read. -/
theorem map_eq_none_iff (made : α → Cache × Event) :
    (read? decode data).map made = none ↔
      (read? decode data).isSome = false ∨
        ∃ id, (none : Option Snowflake) = some id ∧ cache.message? id = none := by
  simp

/-- A frame that makes an event of a message fails if it does not find it, too. -/
theorem bind_eq_none_iff (id : α → Snowflake) (found : α → Option β) (made : α → β → Cache × Event)
    (hfound : ∀ a, found a = none ↔ cache.message? (id a) = none) :
    ((read? decode data).bind fun a => (found a).bind fun b => some (made a b)) = none ↔
      (read? decode data).isSome = false ∨
        ∃ subject, (read? decode data).map id = some subject ∧ cache.message? subject = none := by
  cases read? decode data with
  | none => simp
  | some a =>
      have ha := hfound a
      cases hmade : found a with
      | none => simpa [hmade] using ha
      | some b => simpa [hmade] using ha

/-- What is changed about a message is found exactly if the message is. -/
theorem modifyMessage_eq_none_iff {γ : Type} (id : Snowflake) (f : Message → Message)
    (g : Message × Message → γ) :
    (cache.modifyMessage id f).2.map g = none ↔ cache.message? id = none :=
  Option.map_eq_none_iff.trans Option.map_eq_none_iff

/-- A reaction that is added and not counted is either about a message that is not cached, or
overflows. -/
theorem reactionAdd_eq_none_iff :
    (cache.applyKind .reactionAdd data = none ∧ cache.overflowsKind .reactionAdd data = false) ↔
      EventKind.reactionAdd.reads data = false ∨
        ∃ id, EventKind.reactionAdd.subject? data = some id ∧ cache.message? id = none := by
  rw [applyKind_reactionAdd, overflowsKind, EventKind.reads, EventKind.subject?]
  cases read? MessageReaction.decode data with
  | none => simp
  | some reaction =>
      have hevent : ((cache.counted? reaction).bind fun message =>
          some ((cache.modifyMessage reaction.messageId (cache.counting reaction)).1,
            Event.reactionAdd message reaction)) = none ↔ cache.counted? reaction = none := by
        cases cache.counted? reaction <;> simp
      simp only [Option.bind_some, Option.isSome_some, Option.map_some, Option.some_inj,
        exists_eq_left', Bool.true_eq_false, false_or, hevent, counted?_eq_none_iff,
        Option.isNone_eq_false_iff, Option.isSome_iff_ne_none]
      constructor
      · rintro ⟨hnone | hadd, hroom⟩
        · exact hnone
        · exact absurd hadd hroom
      · intro hnone
        refine ⟨.inl hnone, fun hadd => ?_⟩
        obtain ⟨message, hcached, -⟩ := addReaction_eq_none_iff.1 hadd
        rw [hnone] at hcached
        cases hcached

end Failures

/-- Work on a frame of a kind goes through unless its data cannot be read, or they are about a
message that is not cached, or it breaks off. -/
theorem applyKind_eq_none_iff (cache : Cache) (kind : EventKind) (data : Json) :
    (cache.applyKind kind data = none ∧ cache.overflowsKind kind data = false) ↔
      kind.reads data = false ∨
        ∃ id, kind.subject? data = some id ∧ cache.message? id = none := by
  cases kind with
  | resumed => simp [applyKind, EventKind.reads, EventKind.subject?]
  | messageUpdate =>
      refine (and_iff_left rfl).trans ?_
      exact cache.bind_eq_none_iff MessageUpdate.id (fun update => (cache.updateMessage update).2) _
        fun _ => Option.map_eq_none_iff
  | messageDelete =>
      refine (and_iff_left rfl).trans ?_
      exact cache.bind_eq_none_iff MessageDelete.id (fun gone => cache.message? gone.id) _
        fun _ => Iff.rfl
  | reactionAdd => exact cache.reactionAdd_eq_none_iff
  | reactionRemove =>
      refine (and_iff_left rfl).trans ?_
      exact cache.bind_eq_none_iff MessageReaction.messageId
        (fun reaction => (cache.removeReaction reaction (cache.isCurrentUser reaction.userId)).2) _
        fun reaction => cache.modifyMessage_eq_none_iff reaction.messageId _ _
  | reactionRemoveAll =>
      refine (and_iff_left rfl).trans ?_
      exact cache.bind_eq_none_iff MessageReactionRemoveAll.messageId
        (fun cleared => (cache.clearReactions cleared.messageId).2) _
        fun cleared => cache.modifyMessage_eq_none_iff cleared.messageId _ _
  | _ => exact (and_iff_left rfl).trans (cache.map_eq_none_iff _)

/-- A cache makes no event of a frame exactly if it cannot use it, or a count overflows at it. -/
theorem unusable_iff (cache : Cache) (name : String) (data : Json) :
    cache.Unusable name data ↔
      cache.apply name data = none ∧ cache.overflows name data = false := by
  unfold apply overflows Unusable
  cases EventKind.ofName? name with
  | none => simp
  | some kind =>
      dsimp only
      rw [applyKind_eq_none_iff]
      simp

end Cache

namespace Dispatcher

open Cache (Work)

/-- The work on a frame fails exactly if the cache cannot use the frame, and then the cache is left
as it was, step by step and not only in the end. The dispatcher is left as it was, too: no event is
passed on or kept, no message goes to the command handler, and whatever handler there is is not
called. This holds in every state of the dispatcher and the cache. Work breaks off, with as little
effect, exactly if a count overflows. -/
theorem unusable_changes_nothing {σ : Type} (dispatcher : Dispatcher) (handler : Handler σ)
    (cache : Cache) (name : String) (data : Json) (state : σ) :
    (cache.Unusable name data ↔
      (Work.ofFrame name data).exec cache = (.error .unusable, cache)) ∧
    (cache.Unusable name data →
      dispatcher.dispatch cache name data = (dispatcher, cache, ⟨[], none⟩) ∧
      (dispatcher.receive handler cache name data).run.run state =
        (.ok (dispatcher, cache), state)) ∧
    (cache.overflows name data = true ↔
      (Work.ofFrame name data).exec cache = (.error .broken, cache)) := by
  rw [cache.unusable_iff, Work.exec_ofFrame, Work.outcome_eq_error_iff.1,
    Work.outcome_eq_error_iff.2]
  refine ⟨Iff.rfl, fun ⟨happly, hroom⟩ => ⟨?_, ?_⟩, ?_⟩
  · unfold dispatch
    rw [happly]
  · exact dispatcher.run_receive_none handler hroom happly state
  · exact (and_iff_right_of_imp Cache.apply_of_overflows).symm

/-- A reaction to the oldest of three messages, of which a cache keeps two. -/
def lateReaction : Json :=
  .object [("channel_id", .string "5"), ("emoji", .object [("name", .string "x")]),
    ("message_id", .string "1"), ("user_id", .string "7")]

/-- A reaction that can be read and comes too late changes nothing. -/
theorem unusable_changes_nothing_evicted :
    let cache := (Cache.empty 2).applyAll Cache.threeMessages
    EventKind.reactionAdd.reads lateReaction = true ∧
    cache.Unusable "MESSAGE_REACTION_ADD" lateReaction ∧
    (Work.ofFrame "MESSAGE_REACTION_ADD" lateReaction).exec cache = (.error .unusable, cache) ∧
    (fresh 4).dispatch cache "MESSAGE_REACTION_ADD" lateReaction =
      (fresh 4, cache, ⟨[], none⟩) := by
  intro cache
  have hreads : EventKind.reactionAdd.reads lateReaction = true := by decide +kernel
  have hsubject : EventKind.reactionAdd.subject? lateReaction = some ⟨"1"⟩ := by decide +kernel
  have hevicted : cache.message? ⟨"1"⟩ = none := by decide +kernel
  have hunusable : cache.Unusable "MESSAGE_REACTION_ADD" lateReaction :=
    ⟨.reactionAdd, by decide, .inr ⟨⟨"1"⟩, hsubject, hevicted⟩⟩
  let quiet : Handler Unit := fun _ => pure ()
  obtain ⟨hiff, hnothing, -⟩ :=
    unusable_changes_nothing (fresh 4) quiet cache "MESSAGE_REACTION_ADD" lateReaction ()
  exact ⟨hreads, hunusable, hiff.1 hunusable, (hnothing hunusable).1⟩

end Dispatcher

end ChatGateway
