import ChatGateway.Proofs.Client.Accounting
import ChatGateway.Proofs.Client.HeartbeatOrder
import ChatGateway.Proofs.Client.Progress

/-!
Beginning a session. A session is begun in answer to a greeting or in place of a void one. In place
of a void one the position is given up first. A greeting is answered whatever the position is, and
then that of an earlier session gets into the new one: heartbeats carry its number until a frame of
the new session has one (`identifies_at_position`, `stale_number_outlives_session`).
-/

namespace ChatGateway

namespace Account

variable {o o' : Account}

theorem Turn.frames_prefix (hturn : Turn o o') : o.frames <+: o'.frames := by
  cases hturn with
  | take | void | dispatch => exact List.prefix_append _ _
  | _ => exact List.prefix_rfl

/-- Without work on a frame, the position changes only with the next frame. -/
theorem Turn.quiet (hturn : Turn o o') (hidle : o.path = .idle) (hframes : o'.frames = o.frames) :
    o'.path = .idle ∧ o'.sessionId = o.sessionId ∧ o'.sequence = o.sequence := by
  cases hturn with
  | stay => exact ⟨hidle, rfl, rfl⟩
  | beat => exact ⟨hidle, rfl, rfl⟩
  | pulse => exact ⟨hidle, rfl, rfl⟩
  | take | void | dispatch =>
      -- a frame that was taken in is one more
      exact absurd (congrArg List.length hframes) (by simp [taking])
  | resume hgrace => exact absurd (hidle.symm.trans hgrace) nofun
  | forget hcooldown => exact absurd (hidle.symm.trans hcooldown) nofun
  | send hsending => exact absurd (hidle.symm.trans hsending) nofun

/-- While something of the frame path waits to be sent, the position stays. -/
theorem Turn.position_of_sending (hturn : Turn o o') {due : Nat} {what : Outgoing}
    {purpose : Purpose} (hsending : o.path = .sending due what purpose) :
    o'.frames = o.frames ∧ o'.sessionId = o.sessionId ∧ o'.sequence = o.sequence := by
  cases hturn with
  | take hidle => exact absurd (hidle.symm.trans hsending) nofun
  | void hidle => exact absurd (hidle.symm.trans hsending) nofun
  | dispatch hidle => exact absurd (hidle.symm.trans hsending) nofun
  | forget hcooldown => exact absurd (hcooldown.symm.trans hsending) nofun
  | _ => exact ⟨rfl, rfl, rfl⟩

end Account

theorem FramePath.eq_idle_of_load {path : FramePath} (hload : path.load ≤ 0) : path = .idle := by
  cases path with
  | idle => rfl
  | _ => exact absurd hload (by simp [load])

theorem Course.Works.identifies_eq {o o' : Course} (hworks : o.Works o') :
    o'.identifies = o.identifies := by
  cases hworks <;> rfl

theorem Course.Works.pulses_eq {o o' : Course} (hworks : o.Works o') : o'.pulses = o.pulses := by
  cases hworks <;> rfl

namespace Client

open Account Course

/-- Frames that were taken in stay taken in. -/
theorem frames_run (c : Client) (h : c.account.InStep) (moves : List Move) :
    c.frames <+: (c.run moves).frames := by
  induction moves generalizing c with
  | nil => exact List.prefix_rfl
  | cons move rest ih =>
      have hturn := account_step c h move
      exact hturn.frames_prefix.trans (ih (c.step move) (h.turn hturn))

/-- The position stays until the next frame is taken in. -/
theorem position_run (c : Client) (h : c.account.InStep) (hidle : c.framePath = .idle)
    (moves : List Move) (hframes : (c.run moves).frames = c.frames) :
    (c.run moves).session.sessionId = c.session.sessionId ∧
      (c.run moves).session.sequence = c.session.sequence := by
  induction moves generalizing c with
  | nil => exact ⟨rfl, rfl⟩
  | cons move rest ih =>
      have hturn := account_step c h move
      have hnext := h.turn hturn
      have hrest : (c.step move).frames <+: c.frames := by
        rw [← hframes]
        exact frames_run (c.step move) hnext rest
      have hsame : (c.step move).frames = c.frames :=
        hrest.eq_of_length_le hturn.frames_prefix.length_le
      obtain ⟨hidle', hsession, hsequence⟩ := hturn.quiet hidle hsame
      obtain ⟨hsession', hsequence'⟩ :=
        ih (c.step move) hnext hidle' (hframes.trans hsame.symm)
      exact ⟨hsession'.trans hsession, hsequence'.trans hsequence⟩

/-- Heartbeats ask for nothing, and what is asked for in answer to a frame that is no greeting is a
new session only when there is no position. -/
structure Renews (c : Client) : Prop where
  pulses : ∀ pulse ∈ c.course.pulses, pulse.what.identify? = none
  position : ∀ {due what}, c.framePath = .sending due what .answer → what.identify?.isSome →
    c.session.sessionId = none ∧ c.session.sequence = none

theorem renews_step (c : Client) (hstep : c.account.InStep) (h : c.Renews) (move : Move) :
    (c.step move).Renews := by
  have haccount := account_step c hstep move
  -- what is still being sent is sent at the same position
  have hkept : ∀ {due what}, c.framePath = .sending due what .answer → what.identify?.isSome →
      (c.step move).session.sessionId = none ∧ (c.step move).session.sequence = none := by
    intro due what hpath hidentify
    obtain ⟨-, hsession, hsequence⟩ := haccount.position_of_sending hpath
    obtain ⟨hnone, hnone'⟩ := h.position hpath hidentify
    exact ⟨hsession.trans hnone, hsequence.trans hnone'⟩
  have hworked : ∀ {o o' : Course}, o.Works o' →
      ∀ {due what}, o'.path = .sending due what .answer → what.identify? = none := by
    intro o o' hworks due what hpath
    cases hworks with
    | lose | breakOff => cases hpath
    | on hcomes =>
        dsimp only at hpath
        subst hpath
        cases hcomes with
        | send hold => exact hold rfl
  have hturn := course_step c move
  generalize hcourse : (c.step move).course = o at hturn
  suffices hparts : (∀ pulse ∈ o.pulses, pulse.what.identify? = none) ∧
      ∀ {due what}, o.path = .sending due what .answer → what.identify?.isSome →
        (c.step move).session.sessionId = none ∧ (c.step move).session.sequence = none by
    subst hcourse
    exact ⟨hparts.1, hparts.2⟩
  cases hturn with
  | beat hpulses =>
      refine ⟨fun pulse hpulse => ?_, hkept⟩
      rcases hpulses pulse hpulse with hold | ⟨-, hnone⟩
      · exact h.pulses pulse hold
      · exact hnone
  | dead hpulses => exact ⟨fun pulse hpulse => h.pulses pulse (hpulses hpulse), hkept⟩
  | pulse _ hpulses => exact ⟨fun pulse hpulse => h.pulses pulse (hpulses hpulse), hkept⟩
  | work hworks =>
      refine ⟨?_, fun hpath hidentify => ?_⟩
      · rw [hworks.pulses_eq]
        exact h.pulses
      · rw [hworked hworks hpath] at hidentify
        cases hidentify
  | renew hpath hposition => exact ⟨h.pulses, fun _ _ => hposition⟩
  | sent hpath hidentifies hworks hload =>
      refine ⟨?_, fun hpath hidentify => ?_⟩
      · rw [hworks.pulses_eq]
        exact h.pulses
      · rw [hworked hworks hpath] at hidentify
        cases hidentify
  | _ => exact ⟨h.pulses, hkept⟩

theorem renews_run (config : Config) (handlers : Handlers) (moves : List Move) :
    ((fresh config handlers).run moves).Renews := by
  induction moves using List.reverseRecOn with
  | nil => exact ⟨nofun, nofun⟩
  | append_singleton moves move ih =>
      rw [run_append]
      exact renews_step _ (inStep_run _ (inStep_fresh config handlers) moves) ih move

/-- A step asks for a new session only when the frame path comes to the end of sending that. -/
theorem identify_of_step (c : Client) (h : c.Renews) (move : Move) :
    (c.step move).identifies = c.identifies ∨
      ∃ identify due purpose, c.framePath = .sending due (.command (.identify identify)) purpose ∧
        purpose.writer = .frames ∧ (c.step move).identifies = identify :: c.identifies ∧
        (c.step move).framePath = .idle := by
  have hturn := course_step c move
  have hidentifies : (c.step move).identifies = (c.step move).course.identifies := rfl
  have hafter : (c.step move).framePath = (c.step move).course.path := rfl
  rw [hidentifies, hafter]
  generalize (c.step move).course = o at hturn
  cases hturn with
  | pulse hpulse _ =>
      refine .inl ?_
      rw [h.pulses _ hpulse]
      rfl
  | work hworks => exact .inl hworks.identifies_eq
  | @sent due what purpose identifies _ hpath hcases hworks hload =>
      rw [hworks.identifies_eq]
      rcases hcases with rfl | ⟨hwriter, rfl⟩
      · exact .inl rfl
      · cases what with
        | text text => exact .inl rfl
        | command command =>
            cases command with
            | identify identify =>
                -- no events wait behind what the frame path sends for itself
                have hpending : purpose.pending.length = 0 := by
                  cases purpose with
                  | handler rest => cases hwriter
                  | _ => rfl
                rw [hpending] at hload
                exact .inr ⟨identify, due, purpose, hpath, hwriter, rfl,
                  FramePath.eq_idle_of_load hload⟩
            | _ => exact .inl rfl
  | _ => exact .inl rfl

/-- A new session is asked for at the position that the frames say: of the session that was begun
last and has not become void since, and at the last number since a session was void. A step asks for
it at most once. In place of a void session there is no position. In answer to a greeting there may
be one, and whatever it is, it stays until another frame is taken in. This holds in every
history. -/
theorem identifies_at_position (config : Config) (handlers : Handlers) (moves : List Move)
    (move : Move) :
    let c := (fresh config handlers).run moves
    let since := Received.sinceVoid c.frames
    (c.step move).identifies = c.identifies ∨
      ∃ identify due purpose, c.framePath = .sending due (.command (.identify identify)) purpose ∧
        (c.step move).identifies = identify :: c.identifies ∧
        c.session.sessionId = Received.session? since ∧
        c.session.sequence = Received.number? since ∧
        (purpose = .greeting ∨ c.session.sessionId = none ∧ c.session.sequence = none) ∧
        ∀ later, ((c.step move).run later).frames = c.frames →
          ((c.step move).run later).session.sessionId = Received.session? since ∧
            ((c.step move).run later).session.sequence = Received.number? since := by
  intro c since
  have hstep : c.account.InStep := inStep_run _ (inStep_fresh config handlers) moves
  have hrenews : c.Renews := renews_run config handlers moves
  rcases identify_of_step c hrenews move with
    hsame | ⟨identify, due, purpose, hpath, hwriter, hwritten, hidle⟩
  · exact .inl hsame
  · have hturn := account_step c hstep move
    have hplace := hstep.inPlace (show ∀ due, c.framePath ≠ _ by rw [hpath]; exact nofun)
    obtain ⟨hframes, hsession, hsequence⟩ := hturn.position_of_sending hpath
    refine .inr ⟨identify, due, purpose, hpath, hwritten, hplace.sessionId, hplace.sequence, ?_, ?_⟩
    · cases purpose with
      | greeting => exact .inl rfl
      | answer => exact .inr (hrenews.position hpath rfl)
      | handler rest => cases hwriter
    · intro later hlater
      obtain ⟨hsession', hsequence'⟩ :=
        position_run (c.step move) (hstep.turn hturn) hidle later (hlater.trans hframes.symm)
      exact ⟨(hsession'.trans hsession).trans hplace.sessionId,
        (hsequence'.trans hsequence).trans hplace.sequence⟩

def readyText (more : String) : String :=
  "\x7b\"op\":0,\"s\":7,\"t\":\"READY\",\"d\":\x7b\"v\":10," ++ more ++
    "\"user\":\x7b\"id\":\"42\"\x7d\x7d\x7d"

/-- A session without a name is left for a new one, on another connection. -/
def unnamed : List Move :=
  [.start, .opened, greeting, .proceed, .receive (.text (readyText "")), .requestReconnect, .obey,
    .depart, .opened, greeting]

/-- The gateway greets a second time. -/
def greetedAgain : List Move :=
  [.start, .opened, greeting, .proceed,
    .receive (.text (readyText "\"session_id\":\"abc\",")), greeting]

/-- The second session is asked for at the position of the first one, and the next heartbeat, before
any frame of the second session, carries that number. -/
theorem stale_number_outlives_session :
    let moved := (fresh { token := "t" } .none).run unnamed
    let greeted := (fresh { token := "t" } .none).run greetedAgain
    (moved.identifies.length = 1 ∧ (moved.step .proceed).identifies.length = 2 ∧
      (moved.session.sessionId, moved.session.sequence) = (none, some 7) ∧
      ((moved.step .proceed).run [.beat 0, .elapse 41240, .beat 0, .beat 0]).account.pulses =
        [.command (.heartbeat (some 7))]) ∧
    (greeted.identifies.length = 1 ∧ (greeted.step .proceed).identifies.length = 2 ∧
      (greeted.session.sessionId, greeted.session.sequence) = (some "abc", some 7)) := by
  refine ⟨⟨?_, ?_, ?_, ?_⟩, ?_, ?_, ?_⟩ <;> decide +kernel

end Client

end ChatGateway
