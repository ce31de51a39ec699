import ChatGateway.Proofs.Client.Turns
import Mathlib.Data.List.Induction

/-!
Heartbeats and handshakes. A heartbeat loop looks once whether the client is reconnecting, at its
tick. The heartbeat then waits for the rate limit, and it is written to whatever connection is there
when the wait is over. What it was decided for may be gone by then, and a new connection may be
there on which nothing has been asked for yet. `pulse_before_handshake_iff` says for every history
of a connection loop which heartbeats come too early.
-/

namespace ChatGateway

namespace Client

open Standing Snapshot

/-- A heartbeat loop comes to its next heartbeat, and the last one was acknowledged. -/
def Ticks (c : Client) (id : Nat) : Prop :=
  (c.step (.beat id)).log = ⟨c.clock, .ticked id true⟩ :: c.log

/-- What a step of a heartbeat loop can do to the standing of a client. -/
inductive Beats (c : Client) (id : Nat) : Standing → Prop
  | rest {senders : List Nat} (hsenders : senders ⊆ c.standing.senders) :
      Beats c id { c.standing with senders }
  /-- The last heartbeat is still without its acknowledgement. -/
  | dead {senders : List Nat} (hsenders : senders ⊆ c.standing.senders) :
      Beats c id { c.standing with reconnecting := true, senders }
  | tick {senders : List Nat} (hticks : c.Ticks id) (hdone : c.session.reconnecting = false)
      (hsenders : senders ⊆ id :: c.standing.senders) : Beats c id { c.standing with senders }
  | write {senders : List Nat} {n : Nat} (hsender : id ∈ c.standing.senders)
      (hlink : c.standing.link = some n) (hsenders : senders ⊆ c.standing.senders) :
      Beats c id { c.standing with pulses := n :: c.standing.pulses, senders }

theorem sender_of_loop? (c : Client) {id due : Nat} {what : Outgoing} {loop : HeartbeatLoop}
    (hloop : c.loop? id = some loop) (hbeat : loop.beat = .sending due what) :
    id ∈ c.standing.senders := by
  have hid : loop.id = id := by simpa using List.find?_some hloop
  refine List.mem_filterMap.2 ⟨loop, List.mem_of_find?_eq_some hloop, ?_⟩
  rw [HeartbeatLoop.sender?, hbeat, ← hid]
  rfl

theorem senders_setBeat (c : Client) (id : Nat) (beat : Beat) :
    (c.snapshot.setBeat id beat).standing.senders ⊆ id :: c.standing.senders := by
  intro n hn
  rcases mem_filterMap_setBeat c.snapshot (fun _ => HeartbeatLoop.sender?_eq_none) hn with
    hold | ⟨-, loop, rfl, -, hsender⟩
  · exact List.mem_cons_of_mem _ hold
  · unfold HeartbeatLoop.sender? at hsender
    split at hsender
    next =>
      cases hsender
      exact List.mem_cons_self
    next => cases hsender

theorem beat_of_paused (c : Client) {id : Nat} {loop : HeartbeatLoop}
    (hloop : c.loop? id = some loop) (hbeat : loop.beat = .paused)
    (hdone : c.session.reconnecting = false) : c.beat id = c.tick id := by
  unfold beat
  rw [hloop]
  dsimp only
  rw [hbeat]
  dsimp only
  rw [hdone]
  rfl

/-- A loop that waits until the client is not reconnecting comes to its tick when it is not. -/
theorem ticks_of_paused (c : Client) {id : Nat} {loop : HeartbeatLoop}
    (hloop : c.loop? id = some loop) (hbeat : loop.beat = .paused)
    (hdone : c.session.reconnecting = false) (hacked : c.session.acked = true) : c.Ticks id := by
  have hrecorded : (c.record (.ticked id true)).session.acked = true := hacked
  rw [Ticks, step, beat_of_paused c hloop hbeat hdone, tick, hacked]
  dsimp only
  rw [if_pos hrecorded]
  rfl

theorem beats_step (c : Client) (id : Nat) : Beats c id (c.step (.beat id)).standing := by
  have hturn := turn_step c (.beat id)
  have hstanding := snapshot_standing c
  have hidle (beat : Beat) (hbeat : beat.isSending = false) :
      (c.snapshot.setBeat id beat).standing.senders ⊆ c.standing.senders :=
    filterMap_setBeat_subset c.snapshot (fun _ => HeartbeatLoop.sender?_eq_none) id hbeat
  rw [← snapshot_standing]
  generalize (c.step (.beat id)).snapshot = s at hturn
  rcases beats_of_turn hturn with rfl | hbeats
  · rw [hstanding]
    exact .rest (List.Subset.refl _)
  · cases hbeats with
    | rest hbeat =>
        show Beats c id { c.snapshot.standing with senders := _ }
        rw [hstanding]
        exact .rest (hidle _ hbeat)
    | tick hloop hpaused hdone hacked =>
        have hticks := ticks_of_paused c hloop hpaused hdone hacked
        show Beats c id { c.snapshot.standing with senders := _ }
        rw [hstanding]
        exact .tick hticks hdone (senders_setBeat c id _)
    | dead =>
        show Beats c id { c.snapshot.standing with reconnecting := true, senders := _ }
        rw [hstanding]
        exact .dead (hidle .starting rfl)
    | @pulse loop due n what hloop hsending _ hlink =>
        have hsender := sender_of_loop? c hloop hsending
        have hwrote : c.standing.link = some n := by
          rw [← hstanding]
          exact hlink
        show Beats c id { c.snapshot.standing with
          pulses := n :: c.snapshot.standing.pulses, senders := _ }
        rw [hstanding]
        exact .write hsender hwrote (hidle .starting rfl)

/-! ### Histories -/

theorem Beats.orderly {c : Client} {id : Nat} {o : Standing} (h : c.standing.Orderly)
    (hbeats : Beats c id o) : o.Orderly := by
  cases hbeats with
  | dead => exact { h with replacing := fun _ => .inl rfl, greeted := nofun }
  | _ => exact { h with }

theorem Beats.follows {c : Client} {id : Nat} {o : Standing} (hbeats : Beats c id o) :
    c.standing.Follows o := by
  cases hbeats <;> exact ⟨⟨[], rfl⟩, Nat.le_refl _, fun _ hlink => .inl hlink⟩

theorem orderly_step (c : Client) (h : c.standing.Orderly) (move : Move)
    (hloop : move.isByHand = false) :
    (c.step move).standing.Orderly ∧ c.standing.Follows (c.step move).standing := by
  by_cases hbeat : ∃ id, move = .beat id
  · obtain ⟨id, rfl⟩ := hbeat
    have hbeats := beats_step c id
    exact ⟨hbeats.orderly h, hbeats.follows⟩
  · have hturn := standing_step c h move hloop (not_exists.1 hbeat)
    exact ⟨h.turn hturn, hturn.follows⟩

theorem orderly_run (c : Client) (h : c.standing.Orderly) (moves : List Move)
    (hrun : ∀ move ∈ moves, move.isByHand = false) :
    (c.run moves).standing.Orderly ∧ c.standing.Follows (c.run moves).standing := by
  induction moves generalizing c with
  | nil => exact ⟨h, .refl _⟩
  | cons move rest ih =>
      obtain ⟨hnext, hfollows⟩ := orderly_step c h move (hrun move List.mem_cons_self)
      obtain ⟨hlast, hfollows'⟩ :=
        ih (c.step move) hnext fun later hlater => hrun later (List.mem_cons_of_mem _ hlater)
      exact ⟨hlast, hfollows.trans hfollows'⟩

theorem orderly_fresh (config : Config) (handlers : Handlers) :
    (fresh config handlers).standing.Orderly where
  newest := nofun
  past := nofun
  reading := fun hbusy => absurd rfl hbusy
  sound := trivial
  unused := fun _ => rfl
  replacing := nofun
  greeted := nofun

/-- Only a tick makes a loop be about to write. -/
theorem tick_of_new_sender (c : Client) (h : c.standing.Orderly) {move : Move}
    (hloop : move.isByHand = false) {id : Nat} (hsender : id ∈ (c.step move).senders)
    (hnew : id ∉ c.senders) :
    move = .beat id ∧ c.Ticks id ∧ c.session.reconnecting = false := by
  by_cases hbeat : ∃ other, move = .beat other
  · obtain ⟨other, rfl⟩ := hbeat
    have hbeats := beats_step c other
    generalize hstanding : (c.step (.beat other)).standing = o at hbeats
    have hmem : id ∈ o.senders := by
      rw [← hstanding]
      exact hsender
    cases hbeats with
    | rest hsenders => exact absurd (hsenders hmem) hnew
    | dead hsenders => exact absurd (hsenders hmem) hnew
    | write _ _ hsenders => exact absurd (hsenders hmem) hnew
    | tick hticks hdone hsenders =>
        rcases List.mem_cons.1 (hsenders hmem) with rfl | hold
        · exact ⟨rfl, hticks, hdone⟩
        · exact absurd hold hnew
  · have hturn := standing_step c h move hloop (not_exists.1 hbeat)
    have hsame : (c.step move).senders = c.senders := hturn.senders_eq
    rw [hsame] at hsender
    exact absurd hsender hnew

/-- A loop that is about to write has come to its tick while the client was not reconnecting, and
it has been about to write ever since. -/
theorem tick_of_sender (c : Client) (h : c.standing.Orderly) (hnone : c.senders = [])
    {moves : List Move} (hrun : ∀ move ∈ moves, move.isByHand = false) {id : Nat}
    (hsender : id ∈ (c.run moves).senders) :
    ∃ before waiting, moves = before ++ .beat id :: waiting ∧
      (c.run before).Ticks id ∧ (c.run before).session.reconnecting = false ∧
      ∀ elapsed, elapsed <+: waiting → id ∈ (c.run (before ++ .beat id :: elapsed)).senders := by
  -- from the end of the history back to the step that has made the loop be about to write
  induction moves using List.reverseRecOn with
  | nil =>
      rw [run_nil, hnone] at hsender
      cases hsender
  | append_singleton moves move ih =>
      have hbefore : ∀ earlier ∈ moves, earlier.isByHand = false := fun earlier hearlier =>
        hrun earlier (List.mem_append_left _ hearlier)
      by_cases hheld : id ∈ (c.run moves).senders
      · obtain ⟨before, waiting, rfl, hticks, hdone, hwaiting⟩ := ih hbefore hheld
        refine ⟨before, waiting ++ [move], by simp, hticks, hdone, fun elapsed helapsed => ?_⟩
        rcases List.prefix_concat_iff.1 helapsed with rfl | helapsed
        · simpa using hsender
        · exact hwaiting elapsed helapsed
      · have horderly := (orderly_run c h moves hbefore).1
        have hstep : c.run (moves ++ [move]) = (c.run moves).step move := by
          rw [run_append]
          rfl
        have hlast := hrun move (List.mem_append_right _ List.mem_cons_self)
        rw [hstep] at hsender
        obtain ⟨rfl, hticks, hdone⟩ := tick_of_new_sender _ horderly hlast hsender hheld
        refine ⟨moves, [], rfl, hticks, hdone, fun elapsed helapsed => ?_⟩
        rw [List.prefix_nil.1 helapsed, hstep]
        exact hsender

/-- A heartbeat of a loop is written by a loop that is about to write, to the connection that is
there. -/
theorem sender_of_pulse (c : Client) (h : c.standing.Orderly) {move : Move}
    (hloop : move.isByHand = false) {n : Nat} (hpulse : (c.step move).pulses = n :: c.pulses) :
    ∃ id, move = .beat id ∧ id ∈ c.senders ∧ c.standing.link = some n := by
  have hne : c.pulses ≠ n :: c.pulses := fun heq => by simpa using congrArg List.length heq
  by_cases hbeat : ∃ id, move = .beat id
  · obtain ⟨id, rfl⟩ := hbeat
    have hbeats := beats_step c id
    generalize hstanding : (c.step (.beat id)).standing = o at hbeats
    have hnew : o.pulses = n :: c.pulses := by
      rw [← hstanding]
      exact hpulse
    cases hbeats with
    | rest => exact absurd hnew hne
    | dead => exact absurd hnew hne
    | tick => exact absurd hnew hne
    | write hsender hlink =>
        cases (List.cons.inj hnew).1
        exact ⟨id, rfl, hsender, hlink⟩
  · have hturn := standing_step c h move hloop (not_exists.1 hbeat)
    have hsame : (c.step move).pulses = c.pulses := hturn.pulses_eq
    exact absurd (hsame.symm.trans hpulse) hne

/-- A heartbeat that a loop writes on connection `n` was decided for at a tick at which the client
was not reconnecting, and the loop has waited to write it ever since. It comes before the handshake
on `n` exactly when `n` was not the connection at the tick, or was the first one and nothing had
been asked for on it, and nothing was asked for on `n` since. A client that is not reconnecting when
it is written has asked for a session on `n`, unless `n` is the first connection. -/
theorem pulse_before_handshake_iff (config : Config) (handlers : Handlers) {moves : List Move}
    {move : Move} {n : Nat} (hrun : ∀ earlier ∈ moves, earlier.isByHand = false)
    (hloop : move.isByHand = false)
    (hpulse : (((fresh config handlers).run moves).step move).pulses =
      n :: ((fresh config handlers).run moves).pulses) :
    ∃ id before waiting since,
      move = .beat id ∧ moves = before ++ .beat id :: waiting ∧
      let ticking := (fresh config handlers).run before
      let writing := (fresh config handlers).run moves
      ticking.Ticks id ∧ ticking.session.reconnecting = false ∧
      (∀ elapsed, elapsed <+: waiting →
        id ∈ ((fresh config handlers).run (before ++ .beat id :: elapsed)).senders) ∧
      writing.handshakes = since ++ ticking.handshakes ∧
      (n ∉ writing.handshakes ↔
        (ticking.standing.link ≠ some n ∨ n = 0 ∧ n ∉ ticking.handshakes) ∧ n ∉ since) ∧
      (writing.session.reconnecting = false → n = 0 ∨ n ∈ writing.handshakes) := by
  have hfresh := orderly_fresh config handlers
  have hwriting := (orderly_run _ hfresh moves hrun).1
  obtain ⟨id, rfl, hsender, hlink⟩ := sender_of_pulse _ hwriting hloop hpulse
  obtain ⟨before, waiting, rfl, hticks, hdone, hwaiting⟩ :=
    tick_of_sender (fresh config handlers) hfresh rfl hrun hsender
  have hbefore : ∀ earlier ∈ before, earlier.isByHand = false := fun earlier hearlier =>
    hrun earlier (List.mem_append_left _ hearlier)
  have hafter : ∀ later ∈ .beat id :: waiting, later.isByHand = false := fun later hlater =>
    hrun later (List.mem_append_right _ hlater)
  have hticking := (orderly_run _ hfresh before hbefore).1
  have hfollows := (orderly_run _ hticking _ hafter).2
  rw [← run_append] at hfollows
  obtain ⟨since, hsince⟩ := hfollows.handshakes
  exact ⟨id, before, waiting, since, rfl, rfl, hticks, hdone, hwaiting, hsince,
    hticking.unasked_iff hfollows hdone hlink hsince,
    fun hcalm => hwriting.greeted hcalm n hlink⟩

/-- A greeting that asks for a heartbeat every 41250 milliseconds. -/
def greeting : Move :=
  .receive (.text "\x7b\"op\":10,\"d\":\x7b\"heartbeat_interval\":41250\x7d\x7d")

/-- A report about the global bucket, which is reset at second 100. -/
def globalReport (remaining : String) : Move :=
  .observe [(Headers.globalName, "true"), (Headers.limitName, "50"),
    (Headers.remainingName, remaining), (Headers.resetName, "100")] none .global

/-- The heartbeat of the first connection waits for the rate limit while the connection is
replaced. -/
def overtaking : List Move :=
  [.start, .opened, greeting, .proceed, globalReport "0", .beat 0, .elapse 41240, .beat 0, .beat 0,
    .requestReconnect, .obey, .depart, .opened, .elapse 58760]

/-- The first request for a session waits for the rate limit, which the first heartbeat does not
have to do. -/
def hasty : List Move :=
  [.start, .opened, globalReport "0", greeting, globalReport "5", .beat 0, .elapse 41240, .beat 0,
    .beat 0]

/-- The heartbeat on the second connection was decided for when that was not there. -/
theorem overtaking_ticks_elsewhere :
    (∀ earlier ∈ overtaking, earlier.isByHand = false) ∧ (Move.beat 0).isByHand = false ∧
    (((fresh { token := "t" } .none).run overtaking).step (.beat 0)).pulses =
      1 :: ((fresh { token := "t" } .none).run overtaking).pulses ∧
    ∃ before waiting, overtaking = before ++ .beat 0 :: waiting ∧
      ((fresh { token := "t" } .none).run before).Ticks 0 ∧
      ((fresh { token := "t" } .none).run before).session.reconnecting = false ∧
      ((fresh { token := "t" } .none).run before).standing.link ≠ some 1 := by
  have hrun : ∀ earlier ∈ overtaking, earlier.isByHand = false := by decide
  have hpulse : (((fresh { token := "t" } .none).run overtaking).step (.beat 0)).pulses =
      1 :: ((fresh { token := "t" } .none).run overtaking).pulses := by decide +kernel
  have hearly : 1 ∉ ((fresh { token := "t" } .none).run overtaking).handshakes := by
    decide +kernel
  refine ⟨hrun, rfl, hpulse, ?_⟩
  obtain ⟨id, before, waiting, since, hid, hsplit, hticks, hdone, -, -, hiff, -⟩ :=
    pulse_before_handshake_iff { token := "t" } .none hrun rfl hpulse
  cases hid
  rcases (hiff.1 hearly).1 with helsewhere | ⟨hfirst, -⟩
  · exact ⟨before, waiting, hsplit, hticks, hdone, helsewhere⟩
  · cases hfirst

/-- A heartbeat goes out before a session is asked for: on a connection that replaces another one,
while the client is reconnecting, and on the first connection. -/
theorem pulse_overtakes_handshake :
    ((∀ move ∈ overtaking, move.isByHand = false) ∧
      ((fresh { token := "t" } .none).run overtaking).session.reconnecting = true ∧
      1 ∉ ((fresh { token := "t" } .none).run overtaking).handshakes ∧
      (((fresh { token := "t" } .none).run overtaking).step (.beat 0)).pulses = [1]) ∧
    ((∀ move ∈ hasty, move.isByHand = false) ∧
      0 ∉ ((fresh { token := "t" } .none).run hasty).handshakes ∧
      (((fresh { token := "t" } .none).run hasty).step (.beat 0)).pulses = [0]) := by
  refine ⟨⟨?_, ?_, ?_, ?_⟩, ?_, ?_, ?_⟩ <;> decide +kernel

end Client

end ChatGateway
