import ChatGateway.Client.Step

/-!
What the order of frames on a connection depends on. The standing of a client says which connection
it writes to, whether it is reconnecting, what the connection loop and the frame path are at, which
heartbeat loops are about to write, and on which connections a session was asked for or a heartbeat
was written. A turn is what a step can do to a standing. An orderly standing stays so in every turn,
and it says that a client that is not reconnecting has asked for a session on its connection, unless
that is the first one.
-/

namespace ChatGateway

def Outgoing.isHandshake : Outgoing → Bool
  | .command (.identify _) | .command (.resume _) => true
  | _ => false

/-- The connection on which the frame path has asked for a session. -/
def Occurrence.handshake? : Occurrence → Option Nat
  | .wrote connection .frames what => if what.isHandshake then some connection else none
  | _ => none

def Occurrence.pulse? : Occurrence → Option Nat
  | .wrote connection .heartbeat _ => some connection
  | _ => none

def Beat.isSending : Beat → Bool
  | .sending _ _ => true
  | _ => false

def HeartbeatLoop.sender? (loop : HeartbeatLoop) : Option Nat :=
  if loop.beat.isSending then some loop.id else none

/-- The connection loop has come to its end or has broken off; it takes no orders any more. -/
def Stage.isOver : Stage → Bool
  | .ended _ | .broken => true
  | _ => false

def Stage.Tries : Stage → Prop
  | .opening _ | .waiting _ _ => True
  | _ => False

def Stage.Connected : Stage → Prop
  | .reading | .broken => True
  | _ => False

theorem Stage.Tries.open {stage : Stage} (htries : stage.Tries) : stage.isOver = false := by
  cases stage with
  | opening | waiting => rfl
  | _ => exact htries.elim

theorem Stage.Tries.disconnected {stage : Stage} (htries : stage.Tries) : ¬ stage.Connected := by
  cases stage with
  | opening | waiting => exact id
  | _ => exact htries.elim

/-- What is sent in answer to a greeting asks for a session. -/
def FramePath.Sound : FramePath → Prop
  | .sending _ what .greeting => what.isHandshake = true
  | _ => True

structure Standing where
  link : Option Nat
  connections : Nat
  reconnecting : Bool
  stage : Stage
  path : FramePath
  /-- The connections on which a session was asked for, the newest first. -/
  handshakes : List Nat
  /-- The connections on which a heartbeat loop wrote, the newest first. -/
  pulses : List Nat
  /-- The heartbeat loops that are about to write. -/
  senders : List Nat

namespace Client

def handshakes (c : Client) : List Nat := c.log.filterMap fun entry => entry.what.handshake?

def pulses (c : Client) : List Nat := c.log.filterMap fun entry => entry.what.pulse?

def senders (c : Client) : List Nat := c.loops.filterMap HeartbeatLoop.sender?

def standing (c : Client) : Standing where
  link := c.session.link.map (·.connection)
  connections := c.connections
  reconnecting := c.session.reconnecting
  stage := c.stage
  path := c.framePath
  handshakes := c.handshakes
  pulses := c.pulses
  senders := c.senders

end Client

namespace Standing

/-- What a step that is not one of a heartbeat loop can do to a standing. -/
inductive Turn (o : Standing) : Standing → Prop
  | stay : Turn o o
  /-- Another connection is asked for. -/
  | mark : Turn o { o with reconnecting := true }
  | begin (hstage : o.stage = .dormant) : Turn o { o with stage := .opening none }
  /-- Another attempt to connect. -/
  | try {stage : Stage} (hstage : o.stage.Tries) (htries : stage.Tries) : Turn o { o with stage }
  | attach {retry : Option Retry} (hstage : o.stage = .opening retry) :
      Turn o { o with
        link := some o.connections, connections := o.connections + 1, stage := .reading }
  | conclude {result : Except ClientError Unit} (hstage : ¬ o.stage.Connected) :
      Turn o { o with stage := .ended result }
  | leave {exit : Exit} (hstage : o.stage = .reading) :
      Turn o { o with link := none, path := .idle, stage := .leaving exit }
  | depart {exit : Exit} {stage : Stage} (hstage : o.stage = .leaving exit)
      (htries : stage.Tries) : Turn o { o with reconnecting := true, stage }
  /-- The frame path goes on. -/
  | work {path : FramePath} (hstage : o.stage = .reading) (hsound : path.Sound) :
      Turn o { o with path }
  /-- The work on a frame breaks off, and nobody reads the connection any more. -/
  | breakOff (hstage : o.stage = .reading) : Turn o { o with path := .idle, stage := .broken }
  /-- The frame path asks for a session, which may end a reconnection. -/
  | greet {n : Nat} {reconnecting : Bool} (hstage : o.stage = .reading) (hlink : o.link = some n) :
      Turn o { o with handshakes := n :: o.handshakes, path := .idle, reconnecting }

/-- What holds of a client whose connections are opened by its connection loop. -/
structure Orderly (o : Standing) : Prop where
  newest : ∀ n, o.link = some n → o.connections = n + 1
  past : ∀ n ∈ o.handshakes, n < o.connections
  reading : o.path ≠ .idle → o.stage = .reading
  sound : o.path.Sound
  unused : o.stage = .dormant → o.connections = 0
  /-- Whatever connection comes next, it is the first one or replaces another one. -/
  replacing : o.stage.Tries → o.reconnecting = true ∨ o.connections = 0
  /-- On a connection that replaces another one, a session was asked for. -/
  greeted : o.reconnecting = false → ∀ n, o.link = some n → n = 0 ∨ n ∈ o.handshakes

section Turns

variable {o o' : Standing}

/-- A path that is at work belongs to a connection that is read. -/
theorem Orderly.idle (h : o.Orderly) (hstage : o.stage ≠ .reading) : o.path = .idle := by
  cases hpath : o.path with
  | idle => rfl
  | _ => exact absurd (h.reading (by rw [hpath]; exact nofun)) hstage

theorem Orderly.turn (h : o.Orderly) (hturn : Turn o o') : o'.Orderly := by
  cases hturn with
  | stay => exact h
  | mark => exact { h with replacing := fun _ => .inl rfl, greeted := nofun }
  | begin hstage =>
      have hpath := h.idle (by rw [hstage]; exact nofun)
      exact { h with
        reading := fun hbusy => absurd hpath hbusy
        unused := nofun
        replacing := fun _ => .inr (h.unused hstage) }
  | «try» hstage htries =>
      have hpath := h.idle (by intro hreading; rw [hreading] at hstage; exact hstage)
      exact { h with
        reading := fun hbusy => absurd hpath hbusy
        unused := by
          rintro rfl
          exact htries.elim
        replacing := fun _ => h.replacing hstage }
  | attach hstage =>
      have htries : o.stage.Tries := by
        rw [hstage]
        exact trivial
      refine ⟨?_, ?_, fun _ => rfl, h.sound, nofun, nofun, ?_⟩
      · intro n hn
        cases hn
        rfl
      · intro n hn
        exact Nat.lt_succ_of_lt (h.past n hn)
      · -- nothing but the first connection is attached unless the client is reconnecting
        intro hdone n hn
        cases hn
        rcases h.replacing htries with hreconnecting | hfirst
        · exact absurd (hreconnecting.symm.trans hdone) nofun
        · exact .inl hfirst
  | conclude hstage =>
      exact { h with
        reading := fun hbusy =>
          absurd (h.reading hbusy) (mt (fun hthis => by rw [hthis]; trivial) hstage)
        unused := nofun
        replacing := nofun }
  | leave hstage =>
      exact ⟨nofun, h.past, fun hbusy => absurd rfl hbusy, trivial, nofun, nofun, nofun⟩
  | depart hstage htries =>
      have hpath := h.idle (by rw [hstage]; exact nofun)
      exact { h with
        reading := fun hbusy => absurd hpath hbusy
        unused := by
          rintro rfl
          exact htries.elim
        replacing := fun _ => .inl rfl
        greeted := nofun }
  | work hstage hsound => exact { h with reading := fun _ => hstage, sound := hsound }
  | breakOff =>
      exact { h with
        reading := fun hbusy => absurd rfl hbusy
        sound := trivial
        unused := nofun
        replacing := nofun }
  | greet hstage hlink =>
      refine ⟨h.newest, ?_, fun hbusy => absurd rfl hbusy, trivial, h.unused, ?_, ?_⟩
      · intro m hm
        rcases List.mem_cons.1 hm with rfl | hm
        · rw [h.newest m hlink]
          exact Nat.lt_succ_self m
        · exact h.past m hm
      · intro htries
        rw [hstage] at htries
        exact htries.elim
      · intro _ m hm
        cases hlink.symm.trans hm
        exact .inr List.mem_cons_self

/-- What was written stays written, and a connection that is there later on was there before or is
a new one. -/
structure Follows (o o' : Standing) : Prop where
  handshakes : ∃ since, o'.handshakes = since ++ o.handshakes
  connections : o.connections ≤ o'.connections
  link : ∀ n, o'.link = some n → o.link = some n ∨ o.connections ≤ n

theorem Follows.refl (o : Standing) : o.Follows o :=
  ⟨⟨[], rfl⟩, Nat.le_refl _, fun _ hlink => .inl hlink⟩

theorem Follows.trans {o'' : Standing} (h : o.Follows o') (h' : o'.Follows o'') :
    o.Follows o'' := by
  obtain ⟨first, hfirst⟩ := h.handshakes
  obtain ⟨second, hsecond⟩ := h'.handshakes
  refine ⟨⟨second ++ first, ?_⟩, Nat.le_trans h.connections h'.connections, fun n hn => ?_⟩
  · rw [hsecond, hfirst, List.append_assoc]
  · rcases h'.link n hn with hlink | hnew
    · exact h.link n hlink
    · exact .inr (Nat.le_trans h.connections hnew)

theorem Turn.follows (hturn : Turn o o') : o.Follows o' := by
  cases hturn with
  | attach =>
      refine ⟨⟨[], rfl⟩, Nat.le_succ _, fun n hn => ?_⟩
      cases hn
      exact .inr (Nat.le_refl _)
  | leave => exact ⟨⟨[], rfl⟩, Nat.le_refl _, nofun⟩
  | @greet n _ => exact ⟨⟨[n], rfl⟩, Nat.le_refl _, fun _ hn => .inl hn⟩
  | _ => exact ⟨⟨[], rfl⟩, Nat.le_refl _, fun _ hn => .inl hn⟩

theorem Turn.pulses_eq (hturn : Turn o o') : o'.pulses = o.pulses := by
  cases hturn <;> rfl

theorem Turn.senders_eq (hturn : Turn o o') : o'.senders = o.senders := by
  cases hturn <;> rfl

/-- When nothing was asked for on the connection of a client that was not reconnecting at an earlier
time: it had another connection or none by then, or it had not asked for its first session. -/
theorem Orderly.unasked_iff (h : o.Orderly) (hfollows : o.Follows o')
    (hdone : o.reconnecting = false) {n : Nat} (hlink : o'.link = some n) {since : List Nat}
    (hsince : o'.handshakes = since ++ o.handshakes) :
    n ∉ o'.handshakes ↔ (o.link ≠ some n ∨ n = 0 ∧ n ∉ o.handshakes) ∧ n ∉ since := by
  rw [hsince, List.mem_append, not_or]
  constructor
  · rintro ⟨hnew, hold⟩
    refine ⟨?_, hnew⟩
    by_cases hattached : o.link = some n
    · rcases h.greeted hdone n hattached with hfirst | hgreeted
      · exact .inr ⟨hfirst, hold⟩
      · exact absurd hgreeted hold
    · exact .inl hattached
  · rintro ⟨hexposed, hnew⟩
    refine ⟨hnew, fun hold => ?_⟩
    rcases hexposed with hdetached | ⟨-, hfirst⟩
    · -- a connection that came later was not there to be asked on before
      rcases hfollows.link n hlink with hattached | hlater
      · exact hdetached hattached
      · have hlt := h.past n hold
        omega
    · exact hfirst hold

end Turns

end Standing

end ChatGateway
