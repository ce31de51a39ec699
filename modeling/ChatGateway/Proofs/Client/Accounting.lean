import ChatGateway.Proofs.Client.Steps

/-!
The steps of a client on its account. What the connection loop, the callers and the command handler
do leaves the account alone; a heartbeat loop writes nothing that takes up a session; and the frame
path goes on by one turn of the account. Every step of a client that is in step is a turn
(`account_step`), so that a client is in step after every history (`inStep_run`).
-/

namespace ChatGateway

theorem HeartbeatLoop.outgoing?_eq_none {loop : HeartbeatLoop}
    (hidle : loop.beat.isSending = false) : loop.outgoing? = none := by
  unfold outgoing?
  cases hbeat : loop.beat with
  | sending =>
      rw [hbeat] at hidle
      cases hidle
  | _ => rfl

namespace Snapshot

def account (s : Snapshot) : Account where
  config := s.config
  frames := (s.noted.filterMap Occurrence.frame?).reverse
  sessionId := s.sessionId
  sequence := s.sequence
  cache := s.cache
  dispatcher := s.dispatcher
  handed := (s.noted.filterMap Occurrence.event?).reverse
  path := s.path
  resumes := s.noted.filterMap Occurrence.resume?
  pulses := s.loops.filterMap HeartbeatLoop.outgoing?

variable {s s' : Snapshot}

/-! ### Operations -/

theorem account_taking (s : Snapshot) (frame : Frame) :
    (s.taking frame).account = s.account.taking frame := by
  have hframes : (s.taking frame).account.frames = s.account.frames ++ [frame] :=
    List.reverse_cons
  unfold Account.taking
  rw [← hframes]
  rfl

theorem account_beating (s : Snapshot) (id : Nat) : (s.beating id).account = s.account := by
  unfold account
  rw [filterMap_beating s rfl]
  rfl

theorem account_hushed (s : Snapshot) : s.hushed.account = s.account := by
  unfold account
  rw [filterMap_hushed s fun _ => rfl]
  rfl

theorem account_reaching (s : Snapshot) (stage : Stage) :
    (s.reaching stage).account = s.account := by
  cases stage with
  | ended => exact account_hushed s
  | _ => rfl

theorem account_handing (s : Snapshot) (events : List Event) :
    (s.handing events).account = { s.account with handed := s.account.handed ++ events } := by
  have hevents : (events.map Occurrence.handled).filterMap Occurrence.event? = events := by
    rw [List.filterMap_map]
    exact List.filterMap_some
  have hhanded : (s.handing events).account.handed = s.account.handed ++ events := by
    show (((events.map Occurrence.handled).reverse ++ s.noted).filterMap _).reverse = _
    rw [List.filterMap_append, List.filterMap_reverse, hevents, List.reverse_append,
      List.reverse_reverse]
    rfl
  rw [← hhanded]
  unfold account
  rw [filterMap_handing (f := Occurrence.frame?) s fun _ => rfl,
    filterMap_handing (f := Occurrence.resume?) s fun _ => rfl]
  rfl

/-- After the events are given to the handler, or some of them to be given to it later. -/
theorem account_handles {events : List Event} (hhandles : s.Handles events s') :
    ∃ (handed : List Event) (path : FramePath),
      handed ++ path.pending = s.account.handed ++ events ∧ (∀ o : Account, o.Fits path) ∧
      s'.account = { s.account with handed, path } := by
  cases hhandles with
  | all =>
      refine ⟨s.account.handed ++ events, .idle, List.append_nil _, fun _ => trivial, ?_⟩
      show { (s.handing events).account with path := .idle } = _
      rw [account_handing]
  | @upTo handed rest event command hevents =>
      refine ⟨s.account.handed ++ (handed ++ [event]),
        .sending s.clearance (.command command) (.handler rest), ?_, fun _ => nofun, ?_⟩
      · rw [← hevents, List.append_assoc, List.append_assoc]
        rfl
      · show { (s.handing (handed ++ [event])).account with
          path := .sending s.clearance (.command command) (.handler rest) } = _
        rw [account_handing]

theorem account_loses (hloses : s.Loses s') : s'.account = { s.account with path := .idle } := by
  cases hloses <;> rfl

/-! ### The frame path -/

/-- A frame that names no event and leaves the session as it is, whatever the frame path is at
afterwards. -/
theorem account_plain {frame : Frame} {path : FramePath} (hidle : s.path = .idle)
    (hkept : ¬ frame.Voids s.sessionId) (hunnamed : frame.dispatched? = none)
    (hfits : (s.account.taking frame).Fits path) (hpending : path.pending = []) :
    Account.Turn s.account { (s.taking frame).account with path } := by
  rw [account_taking]
  exact .take hidle hkept hunnamed hfits hpending

theorem account_plain_of_opcode {frame : Frame} {path : FramePath} (hidle : s.path = .idle)
    (hopcode : frame.opcode? ≠ some .invalidSession ∧ frame.opcode? ≠ some .dispatch)
    (hfits : (s.account.taking frame).Fits path) (hpending : path.pending = []) :
    Account.Turn s.account { (s.taking frame).account with path } :=
  account_plain hidle (fun hvoids => hopcode.1 hvoids.1) (if_neg hopcode.2) hfits hpending

/-- A frame that names an event. -/
theorem account_event {frame : Frame} {named : Dispatched} {dispatcher : Dispatcher} {cache : Cache}
    {delivery : Delivery} {handed : List Event} {path : FramePath} (hidle : s.path = .idle)
    (hnamed : frame.dispatched? = some named)
    (hdispatch : s.dispatcher.dispatch s.cache named.1 named.2 = (dispatcher, cache, delivery))
    (hhanded : handed ++ path.pending = s.account.handed ++ delivery.events)
    (hfits : ∀ o : Account, o.Fits path) :
    Account.Turn s.account { ((s.taking frame).booking named).account with
      dispatcher, cache, handed, path } := by
  have hbegins : frame.begins = (named.1 == "READY") := by
    unfold Frame.begins
    rw [hnamed]
    rfl
  have hdata : named.2 = frame.data := by
    unfold Frame.dispatched? at hnamed
    split at hnamed
    next =>
      obtain ⟨name, -, rfl⟩ := Option.map_eq_some_iff.1 hnamed
      rfl
    next => cases hnamed
  have hbooks : ((s.taking frame).booking named).account =
      { s.account.taking frame with
        sessionId := if frame.begins = true then frame.sessionId? else s.sessionId } := by
    rw [← account_taking, hbegins, Frame.sessionId?, ← hdata]
    rfl
  rw [hbooks]
  exact .dispatch hidle hnamed hdispatch hhanded hfits

theorem account_takes {frame : Frame} (htakes : s.Takes frame s') (hidle : s.path = .idle) :
    Account.Turn s.account s'.account := by
  cases htakes with
  | pass hpasses => exact account_plain hidle (hpasses.kept _) hpasses.unnamed trivial rfl
  | cost hcosts hloses =>
      rw [account_loses hloses]
      exact account_plain_of_opcode hidle hcosts.opcode_ne trivial rfl
  | acknowledge hopcode =>
      exact account_plain_of_opcode hidle (by simp [hopcode]) trivial rfl
  | echo hopcode =>
      exact account_plain_of_opcode hidle (by simp [hopcode]) (fun _ _ hresume => nomatch hresume)
        rfl
  | @rejoin id due sessionId hgreets _ hknown =>
      have hturn : Account.Turn s.account
          { (s.taking frame).account with path := .grace due sessionId } :=
        account_plain_of_opcode hidle (Frame.opcode_of_greets hgreets) hknown rfl
      rw [← account_beating (s.taking frame) id] at hturn
      exact hturn
  | @join id identify hgreets =>
      have hturn : Account.Turn s.account { (s.taking frame).account with
          path := .sending s.clearance (.command (.identify identify)) .greeting } :=
        account_plain_of_opcode hidle (Frame.opcode_of_greets hgreets)
          (fun _ _ hresume => nomatch hresume) rfl
      rw [← account_beating (s.taking frame) id] at hturn
      exact hturn
  | resume hopcode hkept hknown =>
      refine account_plain hidle hkept (if_neg (by rw [hopcode]; decide)) ?_ rfl
      intro _ resume hresume
      cases hresume
      exact ⟨rfl, hknown, rfl⟩
  | @void due hvoids =>
      show Account.Turn s.account { (s.taking frame).account with path := .cooldown due }
      rw [account_taking]
      exact .void hidle hvoids
  | event hnamed _ hdispatch hhandles =>
      obtain ⟨handed, path, hhanded, hfits, haccount⟩ := account_handles hhandles
      rw [haccount]
      exact account_event hidle hnamed hdispatch hhanded hfits
  | @breakOff named _ hnamed hoverflows hbreaks =>
      -- a frame that breaks off makes no event
      have hdispatch : s.dispatcher.dispatch s.cache named.1 named.2 =
          (s.dispatcher, s.cache, ⟨[], none⟩) := by
        unfold Dispatcher.dispatch
        rw [Cache.apply_of_overflows hoverflows]
      have hturn := account_event hidle hnamed hdispatch
        (show s.account.handed ++ FramePath.idle.pending = _ from rfl) fun _ => trivial
      cases hbreaks <;> exact hturn

/-- What follows on a send of the frame path, be it written or not. -/
theorem account_sent {due : Nat} {what : Outgoing} {purpose : Purpose}
    (hpath : s.path = .sending due what purpose) (hwriter : purpose.writer = .frames)
    {resumes : List Resume} (hresumes : resumes = s.account.resumes ∨
      resumes = what.resume?.toList ++ s.account.resumes) :
    Account.Turn s.account { s.account with path := .idle, resumes } := by
  have hpending : purpose.pending = [] := by
    cases purpose with
    | handler rest => cases hwriter
    | _ => rfl
  have hsend : Account.Turn s.account
      { s.account with handed := s.account.handed, path := .idle, resumes } := by
    refine .send hpath (hresumes.imp_right fun hnew => ⟨hwriter, hnew⟩) ?_ fun _ => trivial
    rw [hpending]
    rfl
  exact hsend

end Snapshot

namespace Client

open Account Snapshot

theorem snapshot_account (c : Client) : c.snapshot.account = c.account := by
  have hframes : c.noted.filterMap Occurrence.frame? = c.log.filterMap (·.what.frame?) :=
    filterMap_noted c fun what hnoted => by cases what <;> first | rfl | cases hnoted
  have hhanded : c.noted.filterMap Occurrence.event? = c.log.filterMap (·.what.event?) :=
    filterMap_noted c fun what hnoted => by cases what <;> first | rfl | cases hnoted
  have hresumes : c.noted.filterMap Occurrence.resume? = c.resumes :=
    filterMap_noted c fun what hnoted => by cases what <;> first | rfl | cases hnoted
  unfold account frames handed
  rw [← hframes, ← hhanded, ← hresumes]
  rfl

/-- What is written on the frame path. -/
theorem account_wrote (c : Client) (n : Nat) (what : Outgoing) :
    (c.snapshot.note (.wrote n .frames what)).account =
      { c.snapshot.account with resumes := what.resume?.toList ++ c.snapshot.account.resumes } := by
  unfold note Snapshot.account
  cases hresume : what.resume? <;> simp [List.filterMap_cons, Occurrence.resume?, hresume,
    Occurrence.frame?, Occurrence.event?]

theorem account_proceeds (c : Client) (h : c.snapshot.account.InStep) {s : Snapshot}
    (hproceeds : Proceeds c s) : Turn c.snapshot.account s.account := by
  cases hproceeds with
  | @resume due sessionId hpath =>
      -- the session that is waited for is still the one that is known
      have hgrace : c.snapshot.account.path = .grace due sessionId := hpath
      have hfits := (h.inPlace (by rw [hgrace]; exact nofun)).fits
      rw [hgrace] at hfits
      refine .resume hpath (fun _ resume hresume => ?_) rfl
      cases hresume
      exact ⟨rfl, hfits, rfl⟩
  | renew hpath => exact .forget hpath (fun _ _ _ hresume => nomatch hresume) rfl
  | unsent hpath _ hwriter _ hloses =>
      rw [account_loses hloses]
      exact account_sent hpath hwriter (.inl rfl)
  | @greeted due n what hpath =>
      show Turn _ { (c.snapshot.note (.wrote n .frames what)).account with path := .idle }
      rw [account_wrote]
      exact account_sent hpath rfl (.inr rfl)
  | @answered due n what hpath =>
      show Turn _ { (c.snapshot.note (.wrote n .frames what)).account with path := .idle }
      rw [account_wrote]
      exact account_sent hpath rfl (.inr rfl)
  | handled hpath _ hwrote hhandles =>
      -- what is written for the event handler is not asked for by the session
      obtain ⟨handed, path, hhanded, hfits, haccount⟩ := account_handles hhandles
      rw [haccount]
      rcases hwrote with rfl | ⟨n, rfl⟩ <;> exact .send hpath (.inl rfl) hhanded hfits

/-! ### The heartbeat loops -/

theorem account_beats (c : Client) {id : Nat} {s : Snapshot} (hbeats : c.snapshot.Beats id s) :
    Turn c.snapshot.account s.account := by
  have hidle (beat : Beat) (hbeat : beat.isSending = false) :
      (c.snapshot.setBeat id beat).account.pulses ⊆ c.snapshot.account.pulses :=
    filterMap_setBeat_subset c.snapshot (fun _ => HeartbeatLoop.outgoing?_eq_none) id hbeat
  cases hbeats with
  | rest hbeat => exact .beat fun what hwhat => .inl (hidle _ hbeat hwhat)
  | dead => exact .beat fun what hwhat => .inl (hidle .starting rfl hwhat)
  | tick =>
      refine .beat fun what hwhat => ?_
      have hfrom :=
        mem_filterMap_setBeat c.snapshot (fun _ => HeartbeatLoop.outgoing?_eq_none) hwhat
      refine hfrom.imp_right ?_
      rintro ⟨-, loop, -, hbeat, hpulse⟩
      rw [HeartbeatLoop.outgoing?, hbeat] at hpulse
      cases hpulse
      rfl
  | @pulse loop due n what hloop hsending =>
      have hwhat : what ∈ c.snapshot.account.pulses := by
        refine List.mem_filterMap.2 ⟨loop, List.mem_of_find?_eq_some hloop, ?_⟩
        rw [HeartbeatLoop.outgoing?, hsending]
      have hpulse := Turn.pulse hwhat fun what hold => hidle .starting rfl hold
      have hresumes : (c.snapshot.note (.wrote n .heartbeat what)).account.resumes =
          what.resume?.toList ++ c.snapshot.account.resumes := by
        unfold note Snapshot.account
        cases hresume : what.resume? <;> simp [Occurrence.resume?, hresume]
      rw [← hresumes] at hpulse
      exact hpulse

/-! ### Every step -/

theorem account_step (c : Client) (h : c.account.InStep) (move : Move) :
    Turn c.account (c.step move).account := by
  have hturn := turn_step c move
  rw [← snapshot_account] at h
  rw [← snapshot_account, ← snapshot_account]
  generalize (c.step move).snapshot = s at hturn
  have hstay {s : Snapshot} (hsame : s.account = c.snapshot.account) :
      Turn c.snapshot.account s.account := by
    rw [hsame]
    exact .stay
  cases hturn with
  | shutdown =>
    exact hstay (s := { c.snapshot.hushed with orders := _ }) (account_hushed c.snapshot)
  | complete hwrote => rcases hwrote with rfl | ⟨n, what, -, rfl⟩ <;> exact .stay
  | beat hbeats => exact account_beats c hbeats
  | halt hkept =>
      have hpulses := filterMap_keeps (fun _ => HeartbeatLoop.outgoing?_eq_none) hkept c.loops
      have hturn : Turn c.snapshot.account
          { c.snapshot.account with pulses := c.loops.filterMap HeartbeatLoop.outgoing? } := .stay
      rw [← hpulses] at hturn
      exact hturn
  | @loop _ stage orders =>
      exact hstay (s := { c.snapshot.reaching stage with stage, orders })
        (account_reaching c.snapshot stage)
  | replace => exact hstay (s := { c.snapshot.reaching _ with
      reconnecting := true, stage := _, orders := _ }) (account_reaching c.snapshot _)
  | insert _ hidle htakes => exact account_takes htakes hidle
  | read _ hidle _ htakes => exact account_takes htakes hidle
  | proceed hproceeds => exact account_proceeds c h hproceeds
  | _ => exact .stay

theorem inStep_fresh (config : Config) (handlers : Handlers) :
    (fresh config handlers).account.InStep where
  cache := rfl
  delivered := rfl
  position := .inr ⟨rfl, rfl, trivial⟩
  pulses := nofun

/-- A client that is in step is so after every history. -/
theorem inStep_run (c : Client) (h : c.account.InStep) (moves : List Move) :
    (c.run moves).account.InStep := by
  induction moves generalizing c with
  | nil => exact h
  | cons move rest ih =>
      rw [run_cons]
      exact ih (c.step move) (h.turn (account_step c h move))

end Client

end ChatGateway
