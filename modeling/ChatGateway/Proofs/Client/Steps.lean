import ChatGateway.Proofs.Client.Operations

/-!
The steps of a client. Whatever is known of a step is in `turn_step`: what it makes of the snapshot
is one of the cases of `Snapshot.Turn`.
-/

namespace ChatGateway

namespace Frame

variable {frame : Frame}

theorem not_costs (hreconnect : frame.opcode? ≠ some .reconnect)
    (hhello : frame.opcode? ≠ some .hello) : ¬ frame.Costs := by
  rintro (hcosts | ⟨hcosts, -⟩)
  · exact hreconnect hcosts
  · exact hhello hcosts

theorem not_acknowledges (hack : frame.opcode? ≠ some .heartbeatAck)
    (hgreets : frame.greets = false) : frame.acknowledges = false := by
  simp [acknowledges, hack, hgreets]

theorem not_greets (hhello : frame.opcode? ≠ some .hello) : frame.greets = false := by
  unfold greets
  split
  next hopcode => exact absurd hopcode hhello
  next => rfl

theorem opcode_of_greets (hgreets : frame.greets = true) :
    frame.opcode? ≠ some .invalidSession ∧ frame.opcode? ≠ some .dispatch := by
  have hopcode : frame.opcode? = some .hello :=
    not_not.1 fun hother => by simp [not_greets hother] at hgreets
  simp [hopcode]

/-- A frame that costs the connection acknowledges nothing. -/
theorem Costs.plain (hcosts : frame.Costs) : frame.acknowledges = false := by
  rcases hcosts with hreconnect | ⟨hhello, error, hunread⟩
  · exact not_acknowledges (by simp [hreconnect]) (not_greets (by simp [hreconnect]))
  · refine not_acknowledges (by simp [hhello]) ?_
    unfold greets
    rw [hhello, hunread]
    rfl

theorem Costs.opcode_ne (hcosts : frame.Costs) :
    frame.opcode? ≠ some .invalidSession ∧ frame.opcode? ≠ some .dispatch := by
  rcases hcosts with hopcode | ⟨hopcode, -⟩ <;> simp [hopcode]

/-- A frame that asks for nothing that the session knows of. -/
theorem passes_of_opcode (hhello : frame.opcode? ≠ some .hello)
    (hack : frame.opcode? ≠ some .heartbeatAck) (hreconnect : frame.opcode? ≠ some .reconnect)
    (hinvalid : frame.opcode? ≠ some .invalidSession) (hunnamed : frame.dispatched? = none) :
    frame.Passes where
  costless := not_costs hreconnect hhello
  plain := not_acknowledges hack (not_greets hhello)
  kept := fun _ hvoids => hinvalid hvoids.1
  unnamed := hunnamed

end Frame

namespace Client

open Snapshot

/-! ### Taking in a frame -/

section Takes

variable {c d : Client} {frame : Frame}

/-- Taking in a greeting. -/
theorem takes_hello (htaken : d.snapshot = c.snapshot.taking frame)
    (hopcode : frame.opcode? = some .hello) :
    c.snapshot.Takes frame (d.hello frame.data).snapshot := by
  unfold hello
  split
  next error hunread =>
    refine .cost (.inr ⟨hopcode, error, hunread⟩) ?_
    rw [← htaken]
    exact loses_finish d
  next hello hread =>
    have hgreets : frame.greets = true := by
      unfold Frame.greets
      rw [hopcode, hread]
      rfl
    dsimp only
    generalize hgreeted : ensureHeart { d with
      session.interval := hello.heartbeatInterval, session.acked := true } = e
    have hbeating : e.snapshot = { (c.snapshot.taking frame).beating d.spawned with
        acked := true } := by
      rw [← hgreeted, snapshot_ensureHeart, ← htaken]
      rfl
    split
    next sessionId hreconnecting hknown =>
      have hbefore : c.snapshot.reconnecting = true :=
        (congrArg Snapshot.reconnecting hbeating).symm.trans hreconnecting
      have hsession : c.snapshot.sessionId = some sessionId :=
        (congrArg Snapshot.sessionId hbeating).symm.trans hknown
      have hresuming := snapshot_enter e .resuming
      rw [hbeating] at hresuming
      show c.snapshot.Takes frame { (e.enter .resuming).snapshot with
        path := .grace (e.after e.config.resumeGrace.toNat) sessionId }
      rw [hresuming]
      exact .rejoin hgreets hbefore hsession
    next =>
      obtain ⟨identify, hidentify⟩ := snapshot_identify e .greeting
      rw [hidentify, hbeating]
      exact .join hgreets

/-- Taking in that the session is void, or that it can be taken up. -/
theorem takes_invalidate (htaken : d.snapshot = c.snapshot.taking frame)
    (hopcode : frame.opcode? = some .invalidSession) :
    c.snapshot.Takes frame (d.invalidate (frame.data.bool?.getD false)).snapshot := by
  have hsession : d.session.sessionId = c.snapshot.sessionId :=
    congrArg Snapshot.sessionId htaken
  unfold invalidate
  split
  next sessionId hresumable hknown =>
    have hdata : frame.data.bool? = some true := by
      cases hdata : frame.data.bool? with
      | none => simp [hdata] at hresumable
      | some b => simpa [hdata] using hresumable
    have hkept : ¬ frame.Voids c.snapshot.sessionId := by
      rintro ⟨-, hvoid⟩
      exact hvoid ⟨hdata, by rw [← hsession, hknown]; rfl⟩
    have hconfig : d.config = c.config := congrArg Snapshot.config htaken
    have hsequence : d.session.sequence = (c.snapshot.taking frame).sequence :=
      congrArg Snapshot.sequence htaken
    rw [snapshot_resume, htaken, hconfig, hsequence]
    exact .resume hopcode hkept (hsession.symm.trans hknown)
  next hother =>
    have hvoids : frame.Voids c.snapshot.sessionId := by
      refine ⟨hopcode, ?_⟩
      rintro ⟨hdata, hknown⟩
      obtain ⟨sessionId, hsome⟩ := Option.isSome_iff_exists.1 hknown
      exact hother sessionId (by rw [hdata]; rfl) (hsession.trans hsome)
    show c.snapshot.Takes frame { d.snapshot with
      path := .cooldown (d.after d.config.invalidSessionDelay.toNat) }
    rw [htaken]
    exact .void hvoids

/-- Taking in an event. The cache and the dispatcher have not changed since the last one. -/
theorem takes_event (htaken : d.snapshot = c.snapshot.taking frame)
    (hopcode : frame.opcode? = some .dispatch) {name : String} (hname : frame.event = some name) :
    c.snapshot.Takes frame ((d.keepBooks name frame.data).dispatch name frame.data).snapshot := by
  have hnamed : frame.dispatched? = some (name, frame.data) := by
    unfold Frame.dispatched?
    rw [if_pos hopcode, hname]
    rfl
  have hbooks := snapshot_keepBooks d name frame.data
  generalize d.keepBooks name frame.data = e at hbooks
  rw [htaken] at hbooks
  have hcache : e.cache = c.snapshot.cache := congrArg Snapshot.cache hbooks
  have hdispatcher : e.dispatcher = c.snapshot.dispatcher := congrArg Snapshot.dispatcher hbooks
  unfold dispatch
  split
  next hoverflows =>
    rw [hcache] at hoverflows
    refine .breakOff hnamed hoverflows ?_
    rw [← hbooks]
    exact breaks_breakOff e
  next hcounted =>
    rw [hcache, Bool.not_eq_true] at hcounted
    generalize hdispatch : e.dispatcher.dispatch e.cache name frame.data = taken
    obtain ⟨dispatcher, cache, delivery⟩ := taken
    rw [hdispatcher, hcache] at hdispatch
    refine .event hnamed hcounted hdispatch ?_
    rw [← hbooks]
    dsimp only
    cases delivery.command with
    | none => exact handles_handle { e with dispatcher, cache } delivery.events
    | some message =>
        have hspawn := snapshot_spawnReply { e with dispatcher, cache } message
        have hhandles :=
          handles_handle (spawnReply { e with dispatcher, cache } message) delivery.events
        rw [hspawn] at hhandles
        exact hhandles

theorem takes_take (c : Client) (frame : Frame) :
    c.snapshot.Takes frame (c.take frame).snapshot := by
  have htaken := snapshot_took c frame
  unfold take
  generalize ({ c with session := c.session.number frame.sequence } : Client).record
    (.took frame) = d at htaken
  have hunnamed (hop : frame.opcode? ≠ some .dispatch) : frame.dispatched? = none := if_neg hop
  dsimp only
  split
  next hopcode => exact takes_hello htaken hopcode
  next hopcode =>
    rw [snapshot_finish_proceed]
    show c.snapshot.Takes frame { d.snapshot with acked := true, path := .idle }
    rw [htaken]
    exact .acknowledge hopcode
  next hopcode =>
    show c.snapshot.Takes frame { d.snapshot with
      path := .sending d.snapshot.clearance (.command (.heartbeat d.snapshot.sequence)) .answer }
    rw [htaken]
    exact .echo hopcode
  next hopcode =>
    refine .cost (.inl hopcode) ?_
    rw [← htaken]
    exact loses_finish d
  next hopcode => exact takes_invalidate htaken hopcode
  next hopcode =>
    split
    next name hname => exact takes_event htaken hopcode hname
    next hname =>
      -- a frame of an event without a name is passed over
      have hnone : frame.dispatched? = none := by
        unfold Frame.dispatched?
        rw [if_pos hopcode, hname]
        rfl
      rw [snapshot_finish_proceed, htaken]
      exact .pass (Frame.passes_of_opcode (by simp [hopcode]) (by simp [hopcode])
        (by simp [hopcode]) (by simp [hopcode]) hnone)
  next hhello hack _ hreconnect hinvalid hdispatch =>
    rw [snapshot_finish_proceed, htaken]
    exact .pass (Frame.passes_of_opcode hhello hack hreconnect hinvalid (hunnamed hdispatch))

end Takes

/-! ### Going on with a frame -/

/-- The end of a send of the frame path. -/
theorem proceeds_sent (c : Client) {due : Nat} {what : Outgoing} {purpose : Purpose}
    (hpath : c.framePath = .sending due what purpose) (hdue : due ≤ c.clock) :
    Proceeds c ((c.write purpose.writer what).1.sent purpose
      (c.write purpose.writer what).2).snapshot := by
  rcases write_cases c purpose.writer what with ⟨error, hwrite⟩ | ⟨n, hlink, hwrite⟩
  · rw [hwrite]
    dsimp only
    cases purpose with
    | greeting | answer =>
        exact .unsent hpath hdue rfl (congrArg Prod.snd hwrite) (loses_finish c)
    | handler rest => exact .handled hpath hdue (.inl rfl) (handles_handle c rest)
  · have hwrote := snapshot_note c
      (show (Occurrence.wrote n purpose.writer what).isNoted = true from rfl)
    rw [hwrite]
    generalize c.record (.wrote n purpose.writer what) = d at hwrote
    dsimp only
    cases purpose with
    | greeting =>
        rw [sent, snapshot_finish_proceed]
        show Proceeds c { d.snapshot with reconnecting := false, path := .idle }
        rw [hwrote]
        exact .greeted hpath hdue hlink
    | answer =>
        rw [sent, snapshot_finish_proceed, hwrote]
        exact .answered hpath hdue hlink
    | handler rest =>
        have hhandles := handles_handle d rest
        rw [hwrote] at hhandles
        exact .handled hpath hdue (.inr ⟨n, rfl⟩) hhandles

/-- The frame path goes on when its wait is over. -/
theorem proceeds_proceed (c : Client) (hbusy : c.framePath ≠ .idle)
    (hdue : c.framePath.due ≤ c.clock) : Proceeds c c.proceed.snapshot := by
  unfold proceed
  cases hpath : c.framePath with
  | idle => exact absurd hpath hbusy
  | grace due sessionId =>
      rw [hpath] at hdue
      dsimp only
      rw [if_pos (show due ≤ c.clock from hdue), snapshot_resume]
      exact .resume hpath hdue
  | cooldown due =>
      rw [hpath] at hdue
      have hidentify := snapshot_identify { c with session := c.session.forget } .answer
      rw [hpath] at hidentify
      obtain ⟨identify, hidentify⟩ := hidentify
      dsimp only
      rw [if_pos (show due ≤ c.clock from hdue), hidentify]
      exact .renew hpath hdue
  | sending due what purpose =>
      rw [hpath] at hdue
      dsimp only
      rw [if_pos (show due ≤ c.clock from hdue)]
      exact proceeds_sent c hpath hdue

theorem turn_proceed (c : Client) : Turn c .proceed c.proceed.snapshot := by
  by_cases hready : c.framePath ≠ .idle ∧ c.framePath.due ≤ c.clock
  · exact .proceed (proceeds_proceed c hready.1 hready.2)
  · have hstay : c.proceed = c := by
      unfold proceed
      cases hpath : c.framePath with
      | idle => rfl
      | _ =>
          rw [hpath] at hready
          exact if_neg fun hdue => hready ⟨nofun, hdue⟩
    rw [hstay]
    exact .stay

/-! ### The heartbeat loops -/

theorem beats_tick (c : Client) {id : Nat} {loop : HeartbeatLoop} (hloop : c.loop? id = some loop)
    (hpaused : loop.beat = .paused) (hdone : c.session.reconnecting = false) :
    c.snapshot.Beats id (c.tick id).snapshot := by
  cases hacked : c.session.acked with
  | true =>
      rw [snapshot_tick_acked c id hacked]
      exact .tick hloop hpaused hdone hacked
  | false =>
      rw [snapshot_tick_unacked c id hacked]
      exact .dead hloop hpaused hdone hacked

theorem turn_beat (c : Client) (id : Nat) : Turn c (.beat id) (c.beat id).snapshot := by
  unfold Client.beat
  split
  next => exact .stay
  next loop hloop =>
    split
    next => exact .beat (.rest rfl)
    next =>
      split
      next => exact .beat (.rest rfl)
      next => exact .stay
    next hpaused =>
      split
      next => exact .stay
      next hdone => exact .beat (beats_tick c hloop hpaused (Bool.not_eq_true _ ▸ hdone))
    next due what hsending =>
      split
      next hdue =>
        rcases write_cases c .heartbeat what with ⟨error, hwrite⟩ | ⟨n, hlink, hwrite⟩
        · rw [hwrite]
          exact .beat (.rest rfl)
        · rw [hwrite]
          exact .beat (.pulse hloop hsending hdue hlink)
      next => exact .stay

/-- The heartbeat loops move in no other way. -/
theorem beats_of_turn {c : Client} {id : Nat} {s : Snapshot} (hturn : Turn c (.beat id) s) :
    s = c.snapshot ∨ c.snapshot.Beats id s := by
  cases hturn with
  | stay => exact .inl rfl
  | beat hbeats => exact .inr hbeats
  | tell htold => cases htold
  | loop hloops => cases hloops

/-- No loop that is about to write comes to its end. -/
theorem turn_halt (c : Client) (id : Nat) : Turn c (.halt id) (c.halt id).snapshot := by
  refine .halt fun loop hsending => ?_
  cases hbeat : loop.beat with
  | sleeping | paused =>
      rw [hbeat] at hsending
      cases hsending
  | _ => rfl

/-! ### The connection loop -/

theorem turn_of_eq {c d : Client} {move : Move} (hstay : d = c) : Turn c move d.snapshot := by
  rw [hstay]
  exact .stay

theorem turn_start (c : Client) : Turn c .start (c.step .start).snapshot := by
  cases hstage : c.stage with
  | dormant =>
      rw [snapshot_start c hstage]
      exact .loop (.start hstage) (by rw [hstage]; exact nofun)
  | _ => exact turn_of_eq (by simp only [step, start?, hstage])

theorem turn_opened (c : Client) : Turn c .opened c.opened.snapshot := by
  cases hstage : c.stage with
  | opening retry =>
      by_cases hshutdown : .shutdown ∈ c.orders
      · rw [snapshot_opened_shutdown c hstage hshutdown]
        exact .loop (.dropped hstage hshutdown) (by rw [hstage]; exact nofun)
      · rw [snapshot_opened c hstage hshutdown]
        exact .loop (.opened hstage hshutdown) (by rw [hstage]; exact nofun)
  | _ => exact turn_of_eq (by simp only [opened, hstage])

theorem turn_refused (c : Client) : Turn c .refused c.refused.snapshot := by
  cases hstage : c.stage with
  | opening retry =>
      have hopening : ∀ delay, c.stage ≠ .leaving (.reconnect delay) := by
        rw [hstage]
        exact nofun
      cases hlast : c.stage.lastAttempt? c.config with
      | some error =>
          rw [snapshot_refused_last c hlast]
          exact .loop (.refused hlast) hopening
      | none =>
          obtain ⟨again, next, rfl, hnext⟩ := Stage.next_of_lastAttempt? (hstage ▸ hlast)
          rw [snapshot_refused_again c hstage hnext]
          exact .loop (.again hstage hnext) hopening
  | _ => exact turn_of_eq (by simp only [refused, hstage])

theorem turn_retry (c : Client) : Turn c .retry c.retry.snapshot := by
  cases hstage : c.stage with
  | waiting due retry =>
      by_cases hdue : due ≤ c.clock
      · rw [snapshot_retry c hstage hdue]
        exact .loop (.retry hstage hdue) (by rw [hstage]; exact nofun)
      · exact turn_of_eq (by simp only [Client.retry, hstage, if_neg hdue])
  | _ => exact turn_of_eq (by simp only [Client.retry, hstage])

theorem turn_depart (c : Client) : Turn c .depart c.depart.snapshot := by
  cases hstage : c.stage with
  | leaving exit =>
      cases exit with
      | reconnect delay =>
          rw [snapshot_depart_reconnect c hstage]
          exact .replace hstage
      | shutdown =>
          simp only [depart, hstage]
          rw [snapshot_conclude]
          exact .loop (.close hstage) (by rw [hstage]; exact nofun)
      | fatal error =>
          simp only [depart, hstage]
          rw [snapshot_conclude]
          exact .loop (.fail hstage) (by rw [hstage]; exact nofun)
  | _ => exact turn_of_eq (by simp only [depart, hstage])

theorem turn_obey (c : Client) : Turn c .obey c.obey.snapshot := by
  cases horders : c.orders with
  | nil => exact turn_of_eq (by simp only [obey, horders])
  | cons order rest =>
      cases hstage : c.stage with
      | reading =>
          cases hpath : c.framePath with
          | idle =>
              rw [snapshot_obey_reading c hstage hpath horders]
              exact .loop (.obey hstage hpath horders) (by rw [hstage]; exact nofun)
          | _ => exact turn_of_eq (by simp only [obey, horders, hstage, hpath])
      | waiting due retry =>
          have hwaiting : ∀ delay, c.stage ≠ .leaving (.reconnect delay) := by
            rw [hstage]
            exact nofun
          cases order with
          | reconnect =>
              rw [snapshot_obey_reconnect c hstage horders]
              exact .loop (.hurry hstage horders) hwaiting
          | shutdown =>
              rw [snapshot_obey_shutdown c hstage horders]
              exact .loop (.stop hstage horders) hwaiting
      | _ => exact turn_of_eq (by simp only [obey, horders, hstage])

/-- An item that ends the connection. -/
theorem turn_hangUp {c d : Client} (hsame : d.snapshot = c.snapshot) (hstage : c.stage = .reading)
    (hidle : c.framePath = .idle) {item : Item} {exit : Exit}
    (hexit : item.exit? c.config = some exit) : Turn c (.receive item) (d.leave exit).snapshot := by
  rw [snapshot_leave, hsame]
  exact .loop (.hangUp hstage hidle hexit) (by rw [hstage]; exact nofun)

theorem turn_receive (c : Client) (item : Item) :
    Turn c (.receive item) (c.receive item).snapshot := by
  unfold receive
  split
  next hstage hidle =>
    split
    next text =>
      split
      next frame hframe => exact .read hstage hidle hframe (takes_take c frame)
      next => exact .stay
    next => exact .stay
    next farewell =>
      have hexit :
          (Item.close farewell).exit? c.config = some (.ofFarewell c.config farewell) := rfl
      have hdismiss : (c.changeLink fun link => { link with dismissed := true }).snapshot =
          c.snapshot := snapshot_changeLink c fun _ => rfl
      exact turn_hangUp hdismiss hstage hidle hexit
    next =>
      have hexit : Item.lost.exit? c.config = some (.lost c.config) := rfl
      exact turn_hangUp rfl hstage hidle hexit
  next => exact .stay

/-! ### Work beside the frame path -/

theorem turn_complete (c : Client) (id : Nat) : Turn c (.complete id) (c.complete id).snapshot := by
  unfold complete
  split
  next => exact .stay
  next send _ =>
    split
    next =>
      dsimp only
      generalize hrest : ({ c with sends := c.sends.filter fun send => send.id ≠ id } : Client) = d
      have hsends : d.snapshot =
          { c.snapshot with sends := c.sends.filter fun send => send.id ≠ id } := by
        rw [← hrest]
        rfl
      rcases write_cases d .caller send.what with ⟨error, hwrite⟩ | ⟨n, hlink, hwrite⟩
      · rw [hwrite]
        dsimp only
        rw [snapshot_record d rfl, hsends]
        exact .complete (.inl rfl)
      · have hbefore : c.snapshot.link = some n := by
          rw [hsends] at hlink
          exact hlink
        rw [hwrite]
        dsimp only
        rw [snapshot_record _ rfl, snapshot_note d rfl, hsends]
        exact .complete (.inr ⟨n, send.what, hbefore, rfl⟩)
    next => exact .stay

theorem turn_runReply (c : Client) (id : Nat) : Turn c (.runReply id) (c.runReply id).snapshot := by
  have hsame : (c.runReply id).snapshot = c.snapshot := by
    unfold runReply
    split
    next message _ =>
      rw [← @snapshot_record c (.commanded message) rfl]
      dsimp only
      split
      next => rfl
      next => split <;> rfl
    next => rfl
  rw [hsame]
  exact .stay

/-- An answer to a call changes the limiter by what it reports. -/
theorem conclude_limiter {α : Type} (call : Call α) (limiter : RateLimiter) (now : Float)
    (response : Option Response) :
    (call.conclude limiter now response).1 =
      match response with
      | none => limiter
      | some response => limiter.take ⟨response.headers, call.object, call.kind, now⟩ := by
  unfold Call.conclude
  cases response with
  | none => rfl
  | some response =>
      unfold RateLimiter.take
      dsimp only
      cases limiter.observe response.headers call.object call.kind now <;> rfl

theorem snapshot_respond (c : Client) (id : Nat) (response : Option Response) :
    (c.respond id response).snapshot =
      { c.snapshot with limiter := c.informed (.respond id response) } := by
  unfold respond
  split
  next id' due call hreply =>
    have htold : c.told? (.respond id response) =
        if due ≤ c.clock ∧ (call.request? c.config.token).isSome then
          response.map fun response =>
            ⟨response.headers, call.object, call.kind, unixSeconds c.timeOfDay⟩
        else none := by
      unfold told?
      dsimp only
      rw [hreply]
    unfold informed
    rw [htold]
    split
    next hdue =>
      dsimp only
      split
      next hnone =>
        have hrequest : call.request? c.config.token = none := hnone
        rw [hrequest, if_neg (by simp)]
        rfl
      next request hsome =>
        have hrequest : call.request? c.config.token = some request := hsome
        rw [hrequest, if_pos ⟨hdue, rfl⟩, conclude_limiter]
        cases response <;> rfl
    next hdue =>
      rw [if_neg fun hanswered => hdue hanswered.1]
      rfl
  next hother =>
    have htold : c.told? (.respond id response) = none := by
      unfold told?
      dsimp only
      split
      next hreply => exact absurd hreply (hother _ _ _)
      next => rfl
    unfold informed
    rw [htold]
    rfl

theorem turn_respond (c : Client) (id : Nat) (response : Option Response) :
    Turn c (.respond id response) (c.respond id response).snapshot := by
  rw [snapshot_respond, informed]
  cases htold : c.told? (.respond id response) with
  | none => exact .stay
  | some report => exact .tell htold

/-! ### Every step -/

theorem turn_step (c : Client) (move : Move) : Turn c move (c.step move).snapshot := by
  cases move with
  | elapse milliseconds => exact .elapse
  | setTimeOfDay now => exact .setTimeOfDay
  | observe headers object kind => exact .tell rfl
  | requestReconnect =>
      show Turn c _ c.requestReconnect.snapshot
      rw [snapshot_requestReconnect]
      exact .requestReconnect
  | shutdown =>
      show Turn c _ c.shutdown.snapshot
      rw [snapshot_shutdown]
      exact .shutdown
  | send what => exact .send
  | complete id => exact turn_complete c id
  | attach broken =>
      rw [step]
      split
      next hstage => exact .attach hstage
      next => exact .stay
  | frame frame =>
      rw [step]
      split
      next hstage hidle => exact .insert hstage hidle (takes_take c frame)
      next => exact .stay
  | proceed => exact turn_proceed c
  | beat id => exact turn_beat c id
  | halt id => exact turn_halt c id
  | start => exact turn_start c
  | opened => exact turn_opened c
  | refused => exact turn_refused c
  | retry => exact turn_retry c
  | depart => exact turn_depart c
  | obey => exact turn_obey c
  | receive item => exact turn_receive c item
  | dismiss =>
      show Turn c _ (c.changeLink _).snapshot
      rw [snapshot_changeLink]
      · exact .stay
      · exact fun _ => rfl
  | cut =>
      show Turn c _ (c.changeLink _).snapshot
      rw [snapshot_changeLink]
      · exact .stay
      · exact fun _ => rfl
  | runReply id => exact turn_runReply c id
  | respond id response => exact turn_respond c id response

end Client

end ChatGateway
