import ChatGateway.Proofs.Client.Standing

/-!
What the heartbeat depends on. The rhythm of a client says whether the last heartbeat was
acknowledged, whether the client is reconnecting, what the frame path is at, how many heartbeat
loops there are, and which frames, requests for a session and ticks there have been. A turn is what
a step can do to it other than a tick. In a steady rhythm the acknowledgement agrees with what was
noted, every tick has come in time, and there is one loop at most; turns and ticks leave it steady.
-/

namespace ChatGateway

def Frame.greets (frame : Frame) : Bool :=
  match frame.opcode? with
  | some .hello => (Decoder.ofValue Hello.decode frame.data).toOption.isSome
  | _ => false

/-- Whether a frame stands for the acknowledgement of a heartbeat. A connection begins without a
heartbeat to be acknowledged. -/
def Frame.acknowledges (frame : Frame) : Bool :=
  frame.opcode? = some .heartbeatAck || frame.greets

/-- What matters to a heartbeat. -/
inductive Note where
  | took (frame : Frame)
  /-- The frame path has asked for a session. -/
  | asked
  /-- A heartbeat loop came to its next heartbeat, after an acknowledgement of the last one or
  without. -/
  | ticked (acked : Bool)

def Occurrence.note? : Occurrence → Option Note
  | .took frame => some (.took frame)
  | .wrote _ .frames what => if what.isHandshake then some .asked else none
  | .ticked _ acked => some (.ticked acked)
  | _ => none

def Note.frame? : Note → Option Frame
  | .took frame => some frame
  | _ => none

/-! ### Notes, the newest first -/

def lastFrame? (notes : List Note) : Option Frame := notes.findSome? Note.frame?

def afterGreeting (notes : List Note) : Bool := (lastFrame? notes).any Frame.greets

/-- A heartbeat was decided for, and nothing has acknowledged it since. -/
def owes : List Note → Bool
  | [] => false
  | .ticked true :: _ => true
  | .took frame :: older => !frame.acknowledges && owes older
  | _ :: older => owes older

/-- A tick found a heartbeat without its acknowledgement, and no greeting was answered since. -/
def missed : List Note → Bool
  | [] => false
  | .ticked false :: _ => true
  | .asked :: older => !afterGreeting older && missed older
  | _ :: older => missed older

/-- Every tick finds what is owed, and none comes between a missing acknowledgement and the answer
to a greeting. -/
def Timed : List Note → Prop
  | [] => True
  | .ticked acked :: older => (acked = !owes older) ∧ missed older = false ∧ Timed older
  | _ :: older => Timed older

theorem Timed.ticked {recent older : List Note} {acked : Bool}
    (h : Timed (recent ++ .ticked acked :: older)) :
    (acked = !owes older) ∧ missed older = false := by
  induction recent with
  | nil => exact ⟨h.1, h.2.1⟩
  | cons note recent ih =>
      cases note with
      | ticked other => exact ih h.2.2
      | _ => exact ih h

/-- What is no longer owed has been acknowledged. -/
theorem acknowledged_of_not_owes {since older : List Note}
    (h : owes (since ++ .ticked true :: older) = false) :
    ∃ frame, .took frame ∈ since ∧ frame.acknowledges = true := by
  induction since with
  | nil => cases h
  | cons note since ih =>
      have hlater (hrest : owes (since ++ .ticked true :: older) = false) :
          ∃ frame, Note.took frame ∈ note :: since ∧ frame.acknowledges = true := by
        obtain ⟨frame, hframe, hacks⟩ := ih hrest
        exact ⟨frame, List.mem_cons_of_mem _ hframe, hacks⟩
      cases note with
      | asked => exact hlater h
      | took frame =>
          cases hacks : frame.acknowledges with
          | true => exact ⟨frame, List.mem_cons_self, hacks⟩
          | false =>
              refine hlater ?_
              simpa [owes, hacks] using h
      | ticked acked =>
          cases acked with
          | true => cases h
          | false => exact hlater h

/-- A missing acknowledgement is made up for by the answer to a greeting. -/
theorem asked_of_not_missed {since older : List Note}
    (h : missed (since ++ .ticked false :: older) = false) :
    ∃ later before, since = later ++ .asked :: before ∧
      afterGreeting (before ++ .ticked false :: older) = true := by
  induction since with
  | nil => cases h
  | cons note since ih =>
      have hlater (hrest : missed (since ++ .ticked false :: older) = false) :
          ∃ later before, note :: since = later ++ .asked :: before ∧
            afterGreeting (before ++ .ticked false :: older) = true := by
        obtain ⟨later, before, rfl, hgreeted⟩ := ih hrest
        exact ⟨note :: later, before, rfl, hgreeted⟩
      cases note with
      | took frame => exact hlater h
      | asked =>
          cases hgreeted : afterGreeting (since ++ .ticked false :: older) with
          | true => exact ⟨[], since, rfl, hgreeted⟩
          | false =>
              refine hlater ?_
              simpa [missed, hgreeted] using h
      | ticked acked =>
          cases acked with
          | true => exact hlater h
          | false => cases h

/-! ### The rhythm of a client -/

def FramePath.answers : FramePath → Bool
  | .grace _ _ | .sending _ _ .greeting => true
  | _ => false

structure Rhythm where
  acked : Bool
  reconnecting : Bool
  path : FramePath
  /-- The heartbeat loop that is to be stopped with the session. -/
  heart : Option Nat
  /-- How many heartbeat loops there are. -/
  alive : Nat
  /-- The connection loop is over. -/
  ended : Bool
  /-- The newest first. -/
  notes : List Note

namespace Client

def notes (c : Client) : List Note := c.log.filterMap fun entry => entry.what.note?

def rhythm (c : Client) : Rhythm where
  acked := c.session.acked
  reconnecting := c.session.reconnecting
  path := c.framePath
  heart := c.session.heart
  alive := c.loops.length
  ended := c.stage.isOver
  notes := c.notes

end Client

namespace Rhythm

def beating (o : Rhythm) (id : Nat) : Rhythm :=
  match o.heart with
  | some _ => o
  | none => { o with heart := some id, alive := o.alive + 1 }

/-- What a step that is not one of a heartbeat loop can do to a rhythm. -/
inductive Turn (o : Rhythm) : Rhythm → Prop
  | stay : Turn o o
  /-- Another connection is asked for. -/
  | mark : Turn o { o with reconnecting := true }
  /-- The connection loop comes to its end, and the heartbeat is told to stop. -/
  | close : Turn o { o with heart := none, ended := true }
  | halt {alive : Nat} (halive : alive ≤ o.alive) : Turn o { o with alive }
  /-- The frame path goes on. -/
  | work {path : FramePath} (hsound : path.Sound)
      (hanswers : path.answers = true → o.path.answers = true) : Turn o { o with path }
  | take {frame : Frame} {path : FramePath} (hplain : frame.acknowledges = false)
      (hsound : path.Sound) (hanswers : path.answers = false) :
      Turn o { o with path, notes := .took frame :: o.notes }
  /-- The work on a frame breaks off, and with it the connection loop. -/
  | breakOff {frame : Frame} (hplain : frame.acknowledges = false) :
      Turn o { o with path := .idle, ended := true, notes := .took frame :: o.notes }
  | acknowledge {frame : Frame} (hacks : frame.acknowledges = true) :
      Turn o { o with acked := true, path := .idle, notes := .took frame :: o.notes }
  | greet {frame : Frame} {path : FramePath} {id : Nat} (hgreets : frame.greets = true)
      (hsound : path.Sound) (hended : o.ended = false) :
      Turn o { o.beating id with acked := true, path, notes := .took frame :: o.notes }
  /-- A session is asked for in answer to something else than a greeting. -/
  | ask : Turn o { o with path := .idle, notes := .asked :: o.notes }
  /-- A session is asked for in answer to a greeting, which ends the reconnection. -/
  | rejoin (hanswers : o.path.answers = true) :
      Turn o { o with reconnecting := false, path := .idle, notes := .asked :: o.notes }

/-- The rhythm after a tick. Another connection is asked for if the last heartbeat is still without
its acknowledgement. -/
def ticking (o : Rhythm) : Rhythm :=
  { o with
    acked := false
    reconnecting := o.reconnecting || !o.acked
    notes := .ticked o.acked :: o.notes }

/-- What holds of a client that was not shut down. -/
structure Steady (o : Rhythm) : Prop where
  single : o.alive ≤ 1
  /-- Without a heart no loop is left, unless the connection loop has just stopped it. -/
  heartless : o.heart = none → o.alive = 0 ∨ o.ended = true
  sound : o.path.Sound
  greeted : o.path.answers = true → afterGreeting o.notes = true
  owing : owes o.notes = !o.acked
  missing : missed o.notes = true → o.reconnecting = true
  timed : Timed o.notes

variable {o o' : Rhythm}

/-- A loop is only begun when there is none. -/
theorem Steady.beating (h : o.Steady) (hended : o.ended = false) (id : Nat) :
    (o.beating id).alive ≤ 1 ∧ (o.beating id).heart ≠ none := by
  unfold Rhythm.beating
  split
  next hheart => exact ⟨h.single, by rw [hheart]; exact nofun⟩
  next hheart =>
    rcases h.heartless hheart with hnone | hgone
    · exact ⟨by simp [hnone], nofun⟩
    · exact absurd (hgone.symm.trans hended) nofun

/-- A client that is not reconnecting has made up for every missing acknowledgement. -/
theorem Steady.unmissed (h : o.Steady) (hdone : o.reconnecting = false) :
    missed o.notes = false := by
  cases hmissed : missed o.notes with
  | false => rfl
  | true => exact absurd (hdone.symm.trans (h.missing hmissed)) nofun

theorem Steady.turn (h : o.Steady) (hturn : Turn o o') : o'.Steady := by
  cases hturn with
  | stay => exact h
  | mark => exact { h with missing := fun _ => rfl }
  | close => exact { h with heartless := fun _ => .inr rfl }
  | halt halive =>
      refine { h with single := Nat.le_trans halive h.single, heartless := fun hheart => ?_ }
      rcases h.heartless hheart with hnone | hended
      · exact .inl (Nat.le_zero.1 (hnone ▸ halive))
      · exact .inr hended
  | work hsound hanswers =>
      exact { h with sound := hsound, greeted := fun hpath => h.greeted (hanswers hpath) }
  | take hplain hsound hanswers =>
      refine { h with sound := hsound, greeted := fun hpath => ?_, owing := ?_ }
      · exact absurd (hanswers.symm.trans hpath) nofun
      · show (!_ && owes o.notes) = _
        rw [hplain]
        exact h.owing
  | breakOff hplain =>
      refine { h with
        heartless := fun _ => .inr rfl, sound := trivial, greeted := nofun, owing := ?_ }
      show (!_ && owes o.notes) = _
      rw [hplain]
      exact h.owing
  | acknowledge hacks =>
      refine { h with sound := trivial, greeted := nofun, owing := ?_ }
      show (!_ && owes o.notes) = _
      rw [hacks]
      rfl
  | @greet frame path id hgreets hsound hended =>
      obtain ⟨hsingle, hheart⟩ := h.beating hended id
      refine ⟨hsingle, fun hnone => absurd hnone hheart, hsound, fun _ => hgreets, ?_, ?_, ?_⟩
      · have hacks : frame.acknowledges = true := by simp [Frame.acknowledges, hgreets]
        show (!frame.acknowledges && owes o.notes) = _
        rw [hacks]
        rfl
      · intro hmissed
        have hreconnecting := h.missing hmissed
        unfold Rhythm.beating
        split <;> exact hreconnecting
      · exact h.timed
  | ask =>
      refine { h with sound := trivial, greeted := nofun, missing := fun hmissed => ?_ }
      exact h.missing (Bool.and_eq_true_iff.1 hmissed).2
  | rejoin hanswers =>
      refine { h with sound := trivial, greeted := nofun, missing := fun hmissed => ?_ }
      have hother : (!afterGreeting o.notes) = true := (Bool.and_eq_true_iff.1 hmissed).1
      rw [h.greeted hanswers] at hother
      cases hother

theorem Steady.tick (h : o.Steady) (hdone : o.reconnecting = false) : o.ticking.Steady := by
  have howing := h.owing
  have htimed : Timed o.ticking.notes := by
    refine ⟨?_, h.unmissed hdone, h.timed⟩
    rw [howing, Bool.not_not]
  cases hacked : o.acked with
  | true =>
      refine { h with owing := ?_, missing := fun hmissed => ?_, timed := htimed }
      · simp [ticking, owes, hacked]
      · have hlate : missed o.notes = true := by simpa [ticking, missed, hacked] using hmissed
        exact absurd ((h.unmissed hdone).symm.trans hlate) nofun
  | false =>
      rw [hacked] at howing
      refine { h with owing := ?_, missing := fun _ => ?_, timed := htimed }
      · simp [ticking, owes, hacked, howing]
      · simp [ticking, hacked]

/-- Nothing but a tick is noted as one. -/
theorem Turn.notes_ne (hturn : Turn o o') (acked : Bool) :
    o'.notes ≠ .ticked acked :: o.notes := by
  have hne (notes : List Note) : notes ≠ .ticked acked :: notes :=
    fun heq => by simpa using congrArg List.length heq
  cases hturn with
  | take | breakOff | acknowledge | greet | ask | rejoin =>
    exact fun heq => nomatch (List.cons.inj heq).1
  | _ => exact hne o.notes

end Rhythm

end ChatGateway
