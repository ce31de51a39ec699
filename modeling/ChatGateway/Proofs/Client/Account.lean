import ChatGateway.Client.Step
import ChatGateway.Proofs.Client.Position
import ChatGateway.Proofs.Dispatch.ReceiptOrder

/-!
What a client has made of its frames. The account of a client says which frames it took in, which
position, cache and dispatcher it has after them, which events the handler was called on and which
wait for it, and what was asked of the gateway in order to take up a session. A turn is what a step
can do to an account. An account is in step if each part of it is what the frames say; every turn
keeps it so, and a session is taken up only at the position that the frames say
(`InStep.resumes_turn`).
-/

namespace ChatGateway

def Outgoing.resume? : Outgoing → Option Resume
  | .command (.resume position) => some position
  | _ => none

/-- What the frame path and the heartbeat loops write in order to take up a session; the event
handler and the callers write what they like. -/
def Occurrence.resume? : Occurrence → Option Resume
  | .wrote _ .frames what | .wrote _ .heartbeat what => what.resume?
  | _ => none

def Occurrence.frame? : Occurrence → Option Frame
  | .took frame => some frame
  | _ => none

def Occurrence.event? : Occurrence → Option Event
  | .handled event => some event
  | _ => none

def HeartbeatLoop.outgoing? (loop : HeartbeatLoop) : Option Outgoing :=
  match loop.beat with
  | .sending _ what => some what
  | _ => none

/-- The events that wait until the event handler has sent something. -/
def Purpose.pending : Purpose → List Event
  | .handler rest => rest
  | _ => []

def FramePath.pending : FramePath → List Event
  | .sending _ _ purpose => purpose.pending
  | _ => []

structure Account where
  config : Config
  /-- The frames that were taken in, the oldest first. -/
  frames : List Frame
  sessionId : Option String
  sequence : Option Int64
  cache : Cache
  dispatcher : Dispatcher
  /-- The events on which the handler was called, the oldest first. -/
  handed : List Event
  path : FramePath
  /-- What was written in order to take up a session, the newest first. -/
  resumes : List Resume
  /-- What the heartbeat loops are about to write. -/
  pulses : List Outgoing

namespace Client

def frames (c : Client) : List Frame := (c.log.filterMap fun entry => entry.what.frame?).reverse

def handed (c : Client) : List Event := (c.log.filterMap fun entry => entry.what.event?).reverse

def resumes (c : Client) : List Resume := c.log.filterMap fun entry => entry.what.resume?

def account (c : Client) : Account where
  config := c.config
  frames := c.frames
  sessionId := c.session.sessionId
  sequence := c.session.sequence
  cache := c.cache
  dispatcher := c.dispatcher
  handed := c.handed
  path := c.framePath
  resumes := c.resumes
  pulses := c.loops.filterMap HeartbeatLoop.outgoing?

end Client

namespace Account

def emptyCache (config : Config) : Cache := .empty config.messageCacheCount.toNat

def freshDispatcher (config : Config) : Dispatcher := .fresh config.deferredQueueCapacity.toNat

/-- The events that the frames make, in the order of receipt. -/
def events (o : Account) : List Event := (emptyCache o.config).events (Received.dispatched o.frames)

/-- What the frame path is at agrees with the position: it is about to take up the session that is
known, at the number that is known. -/
def Fits (o : Account) : FramePath → Prop
  | .idle => True
  | .grace _ sessionId => o.sessionId = some sessionId
  | .cooldown _ => False
  | .sending _ what purpose => purpose.writer = .frames → ∀ resume, what.resume? = some resume →
      resume.token = o.config.token ∧ o.sessionId = some resume.sessionId ∧
        resume.seq = o.sequence

def taking (o : Account) (frame : Frame) : Account :=
  { o with
    frames := o.frames ++ [frame]
    sequence := match frame.sequence with
      | some n => if n = -1 then none else some n
      | none => o.sequence }

/-- What a step can do to an account. -/
inductive Turn (o : Account) : Account → Prop
  | stay : Turn o o
  /-- A heartbeat loop goes on. -/
  | beat {pulses : List Outgoing}
      (hpulses : ∀ what ∈ pulses, what ∈ o.pulses ∨ what.resume? = none) : Turn o { o with pulses }
  /-- A heartbeat loop writes. -/
  | pulse {what : Outgoing} {pulses : List Outgoing} (hwhat : what ∈ o.pulses)
      (hpulses : ∀ what ∈ pulses, what ∈ o.pulses) :
      Turn o { o with pulses, resumes := what.resume?.toList ++ o.resumes }
  /-- A frame that names no event and leaves the session as it is. -/
  | take {frame : Frame} {path : FramePath} (hidle : o.path = .idle)
      (hkeeps : ¬ frame.Voids o.sessionId) (hnone : frame.dispatched? = none)
      (hfits : (o.taking frame).Fits path) (hpending : path.pending = []) :
      Turn o { o.taking frame with path }
  /-- A frame that makes the session void, which is forgotten after a while. -/
  | void {frame : Frame} {due : Nat} (hidle : o.path = .idle) (hvoids : frame.Voids o.sessionId) :
      Turn o { o.taking frame with path := .cooldown due }
  /-- A frame that names an event. Some events may have to wait until the handler has sent
  something. -/
  | dispatch {frame : Frame} {named : Dispatched} {dispatcher : Dispatcher} {cache : Cache}
      {delivery : Delivery} {handed : List Event} {path : FramePath} (hidle : o.path = .idle)
      (hnamed : frame.dispatched? = some named)
      (hdispatch : o.dispatcher.dispatch o.cache named.1 named.2 = (dispatcher, cache, delivery))
      (hhanded : handed ++ path.pending = o.handed ++ delivery.events)
      (hfits : ∀ o : Account, o.Fits path) :
      Turn o { o.taking frame with
        sessionId := if frame.begins = true then frame.sessionId? else o.sessionId
        dispatcher, cache, handed, path }
  /-- The wait before a session is taken up is over. -/
  | resume {due : Nat} {sessionId : String} {path : FramePath}
      (hgrace : o.path = .grace due sessionId) (hfits : o.Fits path)
      (hpending : path.pending = []) : Turn o { o with path }
  /-- The wait before a new session is over. -/
  | forget {due : Nat} {path : FramePath} (hcooldown : o.path = .cooldown due)
      (hfits : ∀ o : Account, o.Fits path) (hpending : path.pending = []) :
      Turn o { o with sessionId := none, sequence := none, path }
  /-- The frame path comes to the end of a send. -/
  | send {due : Nat} {what : Outgoing} {purpose : Purpose} {handed : List Event} {path : FramePath}
      {resumes : List Resume} (hsending : o.path = .sending due what purpose)
      (hresumes : resumes = o.resumes ∨
        purpose.writer = .frames ∧ resumes = what.resume?.toList ++ o.resumes)
      (hhanded : handed ++ path.pending = o.handed ++ purpose.pending)
      (hfits : ∀ o : Account, o.Fits path) : Turn o { o with handed, path, resumes }

/-- The position is the one that the frames say, and what the frame path is at agrees with it. -/
structure InPlace (o : Account) : Prop where
  sessionId : o.sessionId = Received.session? (Received.sinceVoid o.frames)
  sequence : o.sequence = Received.number? (Received.sinceVoid o.frames)
  fits : o.Fits o.path

/-- Everything is as the frames say; the position of a void session may still have to be
forgotten. -/
structure InStep (o : Account) : Prop where
  cache : o.cache = (emptyCache o.config).applyAll (Received.dispatched o.frames)
  delivered : (freshDispatcher o.config).deliverAll o.events =
    (o.dispatcher, o.handed ++ o.path.pending)
  position : (∃ due, o.path = .cooldown due) ∧ Received.sinceVoid o.frames = [] ∨ o.InPlace
  pulses : ∀ what ∈ o.pulses, what.resume? = none

section Turns

variable {o o' : Account}

theorem InStep.inPlace (h : o.InStep) (hpath : ∀ due, o.path ≠ .cooldown due) : o.InPlace := by
  rcases h.position with ⟨⟨due, hcooldown⟩, -⟩ | hplace
  · exact absurd hcooldown (hpath due)
  · exact hplace

theorem InStep.delivered_of_nil (h : o.InStep) (hpending : o.path.pending = []) :
    (freshDispatcher o.config).deliverAll o.events = (o.dispatcher, o.handed) := by
  rw [h.delivered, hpending, List.append_nil]

/-- A frame that leaves the session as it is adds to the frames since it was void, so that it may
begin a session, and its number is the last one. -/
theorem InPlace.append (h : o.InPlace) {frame : Frame} (hkeeps : ¬ frame.Voids o.sessionId) :
    Received.session? (Received.sinceVoid (o.frames ++ [frame])) =
        (if frame.begins = true then frame.sessionId? else o.sessionId) ∧
      Received.number? (Received.sinceVoid (o.frames ++ [frame])) = (o.taking frame).sequence := by
  have hsince : Received.sinceVoid (o.frames ++ [frame]) =
      Received.sinceVoid o.frames ++ [frame] := by
    rw [Received.sinceVoid_append, ← h.sessionId, if_neg hkeeps]
  refine ⟨?_, ?_⟩
  · rw [hsince, Received.session?_append, ← h.sessionId]
  · rw [hsince, Received.number?_append, ← h.sequence]
    rfl

/-- A path that waits for a new session agrees with no position. -/
theorem InStep.void_of_cooldown (h : o.InStep) {due : Nat} (hcooldown : o.path = .cooldown due) :
    Received.sinceVoid o.frames = [] := by
  rcases h.position with ⟨-, hvoid⟩ | hplace
  · exact hvoid
  · have hfalse := hplace.fits
    rw [hcooldown] at hfalse
    exact hfalse.elim

/-- A frame that names no event leaves the cache and the dispatcher as they are. -/
theorem InStep.unnamed (h : o.InStep) {frame : Frame} (hpending : o.path.pending = [])
    (hnone : frame.dispatched? = none) :
    o.cache = (emptyCache o.config).applyAll (Received.dispatched (o.frames ++ [frame])) ∧
      (freshDispatcher o.config).deliverAll (o.taking frame).events =
        (o.dispatcher, o.handed) := by
  have hdispatched : Received.dispatched (o.frames ++ [frame]) = Received.dispatched o.frames :=
    Received.dispatched_append_of_none o.frames hnone
  refine ⟨?_, ?_⟩
  · rw [hdispatched]
    exact h.cache
  · show (freshDispatcher o.config).deliverAll
      ((emptyCache o.config).events (Received.dispatched (o.frames ++ [frame]))) = _
    rw [hdispatched]
    exact h.delivered_of_nil hpending

/-- The dispatcher takes in a frame as one more of a history. -/
theorem dispatch_eq {dispatcher next : Dispatcher} {cache later : Cache} {named : Dispatched}
    {delivery : Delivery}
    (hdispatch : dispatcher.dispatch cache named.1 named.2 = (next, later, delivery)) :
    later = cache.applyAll [named] ∧
      dispatcher.deliverAll (cache.events [named]) = (next, delivery.events) := by
  obtain ⟨name, data⟩ := named
  unfold Dispatcher.dispatch at hdispatch
  unfold Cache.applyAll Cache.events
  cases happly : cache.apply name data with
  | none =>
      simp only [happly] at hdispatch
      cases hdispatch
      exact ⟨rfl, rfl⟩
  | some made =>
      simp only [happly] at hdispatch
      cases hdispatch
      refine ⟨rfl, ?_⟩
      show ((dispatcher.deliver made.2).1, (dispatcher.deliver made.2).2 ++ []) = _
      rw [List.append_nil]

/-- A frame that names an event moves the cache and the dispatcher on by that event. -/
theorem InStep.dispatch (h : o.InStep) {frame : Frame} {named : Dispatched}
    (hpending : o.path.pending = []) (hnamed : frame.dispatched? = some named)
    {dispatcher : Dispatcher} {cache : Cache} {delivery : Delivery}
    (hdispatch : o.dispatcher.dispatch o.cache named.1 named.2 = (dispatcher, cache, delivery)) :
    cache = (emptyCache o.config).applyAll (Received.dispatched (o.frames ++ [frame])) ∧
      (freshDispatcher o.config).deliverAll (o.taking frame).events =
        (dispatcher, o.handed ++ delivery.events) := by
  have hdispatched : Received.dispatched (o.frames ++ [frame]) =
      Received.dispatched o.frames ++ [named] := by
    rw [Received.dispatched_append, hnamed]
    rfl
  obtain ⟨hcache, hdeliver⟩ := dispatch_eq hdispatch
  have hbefore := h.delivered_of_nil hpending
  unfold events at hbefore
  refine ⟨?_, ?_⟩
  · rw [hdispatched, Cache.applyAll_append, ← h.cache]
    exact hcache
  · show (freshDispatcher o.config).deliverAll
      ((emptyCache o.config).events (Received.dispatched (o.frames ++ [frame]))) = _
    rw [hdispatched, Cache.events_append, Dispatcher.deliverAll_append, hbefore, ← h.cache,
      hdeliver]

theorem InStep.turn (h : o.InStep) (hturn : Turn o o') : o'.InStep := by
  cases hturn with
  | stay => exact h
  | beat hpulses =>
      refine { h with
        position := h.position.imp_right fun hplace => { hplace with }
        pulses := fun what hwhat => ?_ }
      rcases hpulses what hwhat with hold | hnone
      · exact h.pulses what hold
      · exact hnone
  | pulse hwhat hpulses =>
      exact { h with
        position := h.position.imp_right fun hplace => { hplace with }
        pulses := fun what hmem => h.pulses what (hpulses what hmem) }
  | @take frame path hidle hkeeps hnone hfits hpending =>
      -- before a frame is taken in, the position is in place and no event waits
      have hplace := h.inPlace (by rw [hidle]; exact nofun)
      obtain ⟨hsession, hnumber⟩ := hplace.append hkeeps
      rw [Frame.begins_of_none hnone] at hsession
      obtain ⟨hcache, hdelivered⟩ := h.unnamed (by rw [hidle]; rfl) hnone
      rw [← List.append_nil o.handed, ← hpending] at hdelivered
      exact ⟨hcache, hdelivered, .inr ⟨hsession.symm, hnumber.symm, hfits⟩, h.pulses⟩
  | @void frame due hidle hvoids =>
      have hplace := h.inPlace (by rw [hidle]; exact nofun)
      have hvoid : Received.sinceVoid (o.frames ++ [frame]) = [] := by
        rw [Received.sinceVoid_append, ← hplace.sessionId, if_pos hvoids]
      obtain ⟨hcache, hdelivered⟩ := h.unnamed (by rw [hidle]; rfl) hvoids.dispatched?
      rw [← List.append_nil o.handed] at hdelivered
      exact ⟨hcache, hdelivered, .inl ⟨⟨due, rfl⟩, hvoid⟩, h.pulses⟩
  | @dispatch frame named dispatcher cache delivery handed path hidle hnamed hdispatch hhanded
      hfits =>
      have hplace := h.inPlace (by rw [hidle]; exact nofun)
      have hkeeps : ¬ frame.Voids o.sessionId := by
        intro hvoids
        rw [hvoids.dispatched?] at hnamed
        cases hnamed
      obtain ⟨hsession, hnumber⟩ := hplace.append hkeeps
      obtain ⟨hcache, hdelivered⟩ := h.dispatch (by rw [hidle]; rfl) hnamed hdispatch
      rw [← hhanded] at hdelivered
      exact ⟨hcache, hdelivered, .inr ⟨hsession.symm, hnumber.symm, hfits _⟩, h.pulses⟩
  | @resume due sessionId path hgrace hfits hpending =>
      have hplace := h.inPlace (by rw [hgrace]; exact nofun)
      have hdelivered := h.delivered_of_nil (by rw [hgrace]; rfl)
      rw [← List.append_nil o.handed, ← hpending] at hdelivered
      exact { h with
        delivered := hdelivered
        position := .inr ⟨hplace.sessionId, hplace.sequence, hfits⟩ }
  | @forget due path hcooldown hfits hpending =>
      have hvoid := h.void_of_cooldown hcooldown
      have hdelivered := h.delivered_of_nil (by rw [hcooldown]; rfl)
      rw [← List.append_nil o.handed, ← hpending] at hdelivered
      refine ⟨h.cache, hdelivered, .inr ⟨?_, ?_, hfits _⟩, h.pulses⟩
      · show none = Received.session? (Received.sinceVoid o.frames)
        rw [hvoid]
        rfl
      · show none = Received.number? (Received.sinceVoid o.frames)
        rw [hvoid]
        rfl
  | @send due what purpose handed path resumes hsending hresumes hhanded hfits =>
      have hplace := h.inPlace (by rw [hsending]; exact nofun)
      have hdelivered := h.delivered
      rw [show o.path.pending = purpose.pending by rw [hsending]; rfl, ← hhanded] at hdelivered
      exact { h with
        delivered := hdelivered
        position := .inr ⟨hplace.sessionId, hplace.sequence, hfits _⟩ }

/-- A session is taken up only at the position that the frames say, and when no event waits for the
handler. -/
theorem InStep.resumes_turn (h : o.InStep) (hturn : Turn o o') :
    o'.resumes = o.resumes ∨ ∃ resume, o'.resumes = resume :: o.resumes ∧
      o'.frames = o.frames ∧ resume.token = o.config.token ∧
      Received.session? (Received.sinceVoid o.frames) = some resume.sessionId ∧
      resume.seq = Received.number? (Received.sinceVoid o.frames) ∧ o.path.pending = [] := by
  cases hturn with
  | pulse hwhat hpulses =>
      refine .inl ?_
      rw [h.pulses _ hwhat]
      rfl
  | @send due what purpose handed path resumes hsending hresumes hhanded hfits =>
      have hplace := h.inPlace (by rw [hsending]; exact nofun)
      have hold := hplace.fits
      rw [hsending] at hold
      rcases hresumes with rfl | ⟨hwriter, rfl⟩
      · exact .inl rfl
      · cases hresume : what.resume? with
        | none => exact .inl rfl
        | some resume =>
            obtain ⟨htoken, hsession, hseq⟩ := hold hwriter resume hresume
            refine .inr ⟨resume, rfl, rfl, htoken, ?_, ?_, ?_⟩
            · rw [← hplace.sessionId]
              exact hsession
            · rw [← hplace.sequence]
              exact hseq
            · rw [hsending]
              cases purpose with
              | handler rest => cases hwriter
              | _ => rfl
  | _ => exact .inl rfl

end Turns

/-- What has become of the events of a history: those from the first one on that says that the
session is ready have been handed over, after the oldest of those before it; as long as there is no
such event, the oldest ones are kept and none is handed over. -/
def Handover (capacity : Nat) (events : List Event) (dispatcher : Dispatcher)
    (handed : List Event) : Prop :=
  match events.findIdx? Event.isReady with
  | none => handed = [] ∧ dispatcher.ready = false ∧ dispatcher.deferred = events.take capacity
  | some first => handed = (events.take first).take capacity ++ events.drop first ∧
      dispatcher.ready = true ∧ dispatcher.deferred = []

theorem InStep.handover {o : Account} (h : o.InStep) :
    Handover (freshDispatcher o.config).capacity o.events o.dispatcher
      (o.handed ++ o.path.pending) := by
  have hall := Dispatcher.deliverAll_asleep [] o.events (freshDispatcher o.config).capacity
  rw [List.take_nil] at hall
  have hdelivered := h.delivered.symm.trans hall
  unfold Handover
  cases hfirst : o.events.findIdx? Event.isReady with
  | none =>
      rw [hfirst] at hdelivered
      obtain ⟨hdispatcher, hhanded⟩ := Prod.mk.inj hdelivered
      rw [hdispatcher]
      exact ⟨hhanded, rfl, rfl⟩
  | some first =>
      rw [hfirst] at hdelivered
      obtain ⟨hdispatcher, hhanded⟩ := Prod.mk.inj hdelivered
      rw [hdispatcher]
      exact ⟨hhanded, rfl, rfl⟩

end Account

end ChatGateway
