import ChatGateway.Proofs.Client.Snapshot

/-!
The operations of a client on its snapshot. Each has one lemma that says all that it does: an
equation where that depends on nothing that a snapshot leaves out, and one of the relations of
`Snapshot` where it does.
-/

namespace ChatGateway.Client

open Snapshot

/-! ### What every part of a client uses -/

theorem snapshot_note (c : Client) {what : Occurrence} (hnoted : what.isNoted = true) :
    (c.record what).snapshot = c.snapshot.note what := by
  have hrecord : (c.record what).noted = what :: c.noted := List.filter_cons_of_pos hnoted
  unfold snapshot
  rw [hrecord]
  rfl

/-- Something happens that a snapshot does not have. -/
theorem snapshot_record (c : Client) {what : Occurrence} (hnoted : what.isNoted = false) :
    (c.record what).snapshot = c.snapshot := by
  have hrecord : (c.record what).noted = c.noted := List.filter_cons_of_neg (by simp [hnoted])
  unfold snapshot
  rw [hrecord]
  rfl

theorem snapshot_enter (c : Client) (phase : Phase) :
    (c.enter phase).snapshot = { c.snapshot with phase } := by
  unfold enter
  split
  next hsame =>
    rw [← hsame]
    rfl
  next => rfl

theorem heard_of_over {c : Client} (hover : c.stage.isOver = true) (order : Order) :
    c.course.heard order = c.orders := if_pos hover

theorem heard_of_open {c : Client} (hopen : c.stage.isOver = false) (order : Order) :
    c.course.heard order = c.orders ++ [order] :=
  if_neg (by show ¬ c.stage.isOver = true; simp [hopen])

theorem snapshot_order (c : Client) (order : Order) :
    (c.order order).snapshot = { c.snapshot with orders := c.course.heard order } := by
  unfold Client.order
  split
  next hstage => rw [heard_of_over (by rw [hstage]; rfl)]; rfl
  next hstage => rw [heard_of_over (by rw [hstage]; rfl)]; rfl
  next hlive hwhole =>
    have hopen : c.stage.isOver = false := by
      unfold Stage.isOver
      split
      next result hended => exact absurd hended (hlive result)
      next hbroken => exact absurd hbroken hwhole
      next => rfl
    rw [heard_of_open hopen]
    rfl

theorem snapshot_markReconnecting (c : Client) :
    c.markReconnecting.snapshot =
      { c.snapshot with reconnecting := true, phase := .reconnecting } := by
  rw [markReconnecting, snapshot_enter]
  rfl

theorem snapshot_requestReconnect (c : Client) :
    c.requestReconnect.snapshot = { c.snapshot with
      reconnecting := true, phase := .reconnecting, orders := c.course.heard .reconnect } := by
  have hmark := snapshot_markReconnecting c
  have hheard : c.markReconnecting.course.heard .reconnect = c.course.heard .reconnect := by
    unfold Course.heard
    rw [show c.markReconnecting.course.stage = c.course.stage from congrArg Snapshot.stage hmark,
      show c.markReconnecting.course.orders = c.course.orders from congrArg Snapshot.orders hmark]
  rw [requestReconnect, snapshot_order, hmark, hheard]

/-- What a write does: it fails and changes nothing, or it is noted with its connection. -/
theorem write_cases (c : Client) (writer : Writer) (what : Outgoing) :
    (∃ e, c.write writer what = (c, .error e)) ∨
      ∃ n, c.snapshot.link = some n ∧
        c.write writer what = (c.record (.wrote n writer what), .ok ()) := by
  unfold write
  split
  next => exact .inl ⟨_, rfl⟩
  next link hlink =>
    split
    next => exact .inl ⟨_, rfl⟩
    next => exact .inr ⟨link.connection, congrArg (Option.map _) hlink, rfl⟩

theorem snapshot_detach (c : Client) (farewell : Option Farewell) :
    (c.detach farewell).snapshot = { c.snapshot with link := none } := by
  unfold detach
  split
  next hlink =>
    have hnone : c.snapshot.link = none := congrArg (Option.map _) hlink
    rw [← hnone]
  next =>
    dsimp only
    split
    next => rfl
    next => exact snapshot_record _ rfl

theorem snapshot_changeLink (c : Client) {f : Link → Link}
    (hf : ∀ link, (f link).connection = link.connection) :
    (c.changeLink f).snapshot = c.snapshot := by
  have hlink : (c.session.link.map f).map (·.connection) = c.session.link.map (·.connection) := by
    rw [Option.map_map]
    exact congrArg (Option.map · c.session.link) (funext hf)
  unfold snapshot
  rw [← hlink]
  rfl

/-! ### The heartbeat -/

theorem snapshot_ensureHeart (c : Client) :
    c.ensureHeart.snapshot = c.snapshot.beating c.spawned := by
  have hheart : c.snapshot.heart = c.session.heart := rfl
  unfold ensureHeart beating
  rw [hheart]
  cases hheld : c.session.heart with
  | none => rfl
  | some id =>
      unfold snapshot
      rw [hheld]
      rfl

theorem snapshot_stopHeart (c : Client) : c.stopHeart.snapshot = c.snapshot.hushed := by
  have hheart : c.snapshot.heart = c.session.heart := rfl
  unfold stopHeart hushed
  rw [hheart]
  cases hheld : c.session.heart with
  | none =>
      unfold snapshot
      simp [hheld]
  | some id =>
      have hloops (loop : HeartbeatLoop) :
          (if loop.id = id then { loop with stopped := true } else loop) =
            if some id = some loop.id then { loop with stopped := true } else loop := by
        simp only [Option.some.injEq, eq_comm]
      unfold snapshot
      simp only [hloops]
      rfl

theorem snapshot_shutdown (c : Client) :
    c.shutdown.snapshot = { c.snapshot.hushed with orders := c.course.heard .shutdown } := by
  have hstop := snapshot_stopHeart c
  have hheard : c.stopHeart.course.heard .shutdown = c.course.heard .shutdown := by
    unfold Course.heard
    rw [show c.stopHeart.course.stage = c.course.stage from congrArg Snapshot.stage hstop,
      show c.stopHeart.course.orders = c.course.orders from congrArg Snapshot.orders hstop]
  rw [shutdown, snapshot_order, hstop, hheard]

theorem snapshot_tick_acked (c : Client) (id : Nat) (hacked : c.session.acked = true) :
    (c.tick id).snapshot =
      { c.snapshot.setBeat id
          (.sending c.snapshot.clearance (.command (.heartbeat c.session.sequence))) with
        acked := false, noted := .ticked id true :: c.noted } := by
  unfold tick
  rw [hacked]
  dsimp only
  rw [if_pos (show (c.record (.ticked id true)).session.acked = true from hacked)]
  rfl

theorem snapshot_tick_unacked (c : Client) (id : Nat) (hacked : c.session.acked = false) :
    (c.tick id).snapshot =
      { c.snapshot.setBeat id .starting with
        reconnecting := true, phase := .reconnecting, orders := c.course.heard .reconnect
        noted := .ticked id false :: c.noted } := by
  have hunacked : ¬ (c.record (.ticked id false)).session.acked = true := by
    show ¬ c.session.acked = true
    simp [hacked]
  have hrequest := snapshot_requestReconnect (c.record (.ticked id false))
  unfold tick
  rw [hacked]
  dsimp only
  rw [if_neg hunacked]
  show (c.record (.ticked id false)).requestReconnect.snapshot.setBeat id .starting = _
  rw [hrequest]
  rfl

/-! ### The connection loop -/

theorem snapshot_connect (c : Client) (retry : Option Retry) :
    (c.connect retry).snapshot =
      { c.snapshot with phase := .connecting, stage := .opening retry } := by
  show { (c.enter .connecting).snapshot with stage := .opening retry } = _
  rw [snapshot_enter]

theorem snapshot_conclude (c : Client) (result : Except ClientError Unit) :
    (c.conclude result).snapshot =
      { c.snapshot.hushed with phase := .disconnected, stage := .ended result, orders := [] } := by
  show { (c.stopHeart.enter .disconnected).snapshot with
    stage := .ended result, orders := [] } = _
  rw [snapshot_enter, snapshot_stopHeart]

/-- A client that is reconnecting goes on to an attempt. -/
theorem snapshot_schedule (c : Client) (hphase : c.session.phase = .reconnecting) (retry : Retry) :
    (c.schedule retry).snapshot =
      { c.snapshot.reaching (c.course.trying retry) with stage := c.course.trying retry } := by
  unfold schedule Course.trying
  split
  next => exact snapshot_connect c _
  next =>
    unfold snapshot
    rw [hphase]
    rfl

theorem snapshot_leave (c : Client) (exit : Exit) :
    (c.leave exit).snapshot = { c.snapshot with link := none, stage := .leaving exit } := by
  show { (c.detach (farewell? exit)).snapshot with stage := .leaving exit } = _
  rw [snapshot_detach]

theorem snapshot_start (c : Client) (hstage : c.stage = .dormant) :
    (c.step .start).snapshot =
      { c.snapshot with phase := .connecting, stage := .opening none } := by
  have hstep : c.step .start = c.connect none := by simp only [step, start?, hstage]
  rw [hstep, snapshot_connect]

/-- Something is left of the orders when those to reconnect have been served exactly if a shutdown
is among them. -/
theorem shutdown_mem_iff (orders : List Order) :
    .shutdown ∈ orders ↔ orders.dropWhile (fun order => order = .reconnect) ≠ [] := by
  induction orders with
  | nil => simp
  | cons order rest ih => cases order <;> simp [ih]

theorem snapshot_opened (c : Client) {retry : Option Retry} (hstage : c.stage = .opening retry)
    (hserved : .shutdown ∉ c.orders) :
    c.opened.snapshot = { c.snapshot with
      phase := .awaitingHello, link := some c.connections, connections := c.connections + 1
      stage := .reading, orders := [] } := by
  have henter := snapshot_enter c .awaitingHello
  have horders : (c.enter .awaitingHello).orders = c.orders := congrArg Snapshot.orders henter
  have hnone : c.orders.dropWhile (fun order => order = .reconnect) = [] :=
    not_not.1 (mt (shutdown_mem_iff c.orders).2 hserved)
  unfold opened
  rw [hstage]
  dsimp only
  rw [horders, hnone]
  show { (c.enter .awaitingHello).snapshot with
    link := some (c.enter .awaitingHello).snapshot.connections
    connections := (c.enter .awaitingHello).snapshot.connections + 1
    stage := .reading, orders := [] } = _
  rw [henter]
  rfl

/-- A connection is given up at once if a shutdown is among the orders. -/
theorem snapshot_opened_shutdown (c : Client) {retry : Option Retry}
    (hstage : c.stage = .opening retry) (hshutdown : .shutdown ∈ c.orders) :
    c.opened.snapshot = { c.snapshot.hushed with
      phase := .disconnected, stage := .ended (.ok ()), orders := [] } := by
  have henter := snapshot_enter c .awaitingHello
  have horders : (c.enter .awaitingHello).orders = c.orders := congrArg Snapshot.orders henter
  have hsome := (shutdown_mem_iff c.orders).1 hshutdown
  unfold opened
  rw [hstage]
  dsimp only
  rw [horders]
  split
  next hnone => exact absurd hnone hsome
  next =>
    rw [snapshot_conclude, henter]
    rfl

/-- The loop ends with an error when the last attempt to connect fails. -/
theorem snapshot_refused_last (c : Client) {error : ClientError}
    (hlast : c.stage.lastAttempt? c.config = some error) :
    c.refused.snapshot = { c.snapshot.hushed with
      phase := .disconnected, stage := .ended (.error error), orders := [] } := by
  rw [← snapshot_conclude]
  unfold refused
  cases hstage : c.stage with
  | opening retry =>
      rw [hstage] at hlast
      unfold Stage.lastAttempt? at hlast
      cases retry with
      | none =>
          cases hlast
          rfl
      | some retry =>
          dsimp only at hlast ⊢
          cases hnext : retry.next? c.config with
          | none =>
              rw [hnext] at hlast
              cases hlast
              rfl
          | some next =>
              rw [hnext] at hlast
              cases hlast
  | _ =>
      rw [hstage] at hlast
      cases hlast

theorem snapshot_refused_again (c : Client) {retry next : Retry}
    (hstage : c.stage = .opening (some retry)) (hnext : retry.next? c.config = some next) :
    c.refused.snapshot =
      { c.snapshot.reaching (c.course.trying next) with
        stage := c.course.trying next, orders := c.orders } := by
  have henter := snapshot_enter c .reconnecting
  have hphase : (c.enter .reconnecting).session.phase = .reconnecting :=
    congrArg Snapshot.phase henter
  have htrying : (c.enter .reconnecting).course.trying next = c.course.trying next := by
    unfold Course.trying
    rw [show (c.enter .reconnecting).course.clock = c.course.clock from
      congrArg Snapshot.clock henter]
  have hagain : c.refused = (c.enter .reconnecting).schedule next := by
    simp only [refused, hstage, hnext]
  rw [hagain, snapshot_schedule _ hphase, htrying, henter]
  rcases Course.trying_cases c.course next with htry | ⟨due, htry⟩ <;> rw [htry] <;> rfl

theorem snapshot_retry (c : Client) {due : Nat} {retry : Retry}
    (hstage : c.stage = .waiting due retry) (hdue : due ≤ c.clock) :
    c.retry.snapshot =
      { c.snapshot with phase := .connecting, stage := .opening (some retry) } := by
  unfold Client.retry
  rw [hstage]
  dsimp only
  rw [if_pos hdue, snapshot_connect]

theorem snapshot_depart_reconnect (c : Client) {delay : Nat}
    (hstage : c.stage = .leaving (.reconnect delay)) :
    c.depart.snapshot = { c.snapshot.reaching (c.course.trying ⟨1, delay⟩) with
      reconnecting := true, stage := c.course.trying ⟨1, delay⟩, orders := c.orders } := by
  have hmark := snapshot_markReconnecting c
  have hphase : c.markReconnecting.session.phase = .reconnecting := congrArg Snapshot.phase hmark
  have htrying : c.markReconnecting.course.trying ⟨1, delay⟩ = c.course.trying ⟨1, delay⟩ := by
    unfold Course.trying
    rw [show c.markReconnecting.course.clock = c.course.clock from congrArg Snapshot.clock hmark]
  unfold depart
  rw [hstage]
  dsimp only
  rw [snapshot_schedule _ hphase, htrying, hmark]
  rcases Course.trying_cases c.course ⟨1, delay⟩ with htry | ⟨due, htry⟩ <;> rw [htry] <;> rfl

theorem snapshot_obey_reading (c : Client) {order : Order} {rest : List Order}
    (hstage : c.stage = .reading) (hidle : c.framePath = .idle)
    (horders : c.orders = order :: rest) :
    c.obey.snapshot =
      { c.snapshot with link := none, stage := .leaving order.exit, orders := rest } := by
  have hleave : c.obey = { c with orders := rest }.leave order.exit := by
    unfold obey
    rw [horders]
    dsimp only
    rw [hstage, hidle]
    cases order <;> rfl
  rw [hleave, snapshot_leave]
  rfl

/-- The wait before an attempt is cut short. -/
theorem snapshot_obey_reconnect (c : Client) {due : Nat} {retry : Retry} {rest : List Order}
    (hstage : c.stage = .waiting due retry) (horders : c.orders = .reconnect :: rest) :
    c.obey.snapshot = { c.snapshot with
      phase := .connecting, stage := .opening (some retry), orders := rest } := by
  unfold obey
  rw [horders]
  dsimp only
  rw [hstage]
  dsimp only
  rw [snapshot_connect]
  rfl

theorem snapshot_obey_shutdown (c : Client) {due : Nat} {retry : Retry} {rest : List Order}
    (hstage : c.stage = .waiting due retry) (horders : c.orders = .shutdown :: rest) :
    c.obey.snapshot = { c.snapshot.hushed with
      phase := .disconnected, stage := .ended (.ok ()), orders := [] } := by
  unfold obey
  rw [horders]
  dsimp only
  rw [hstage]
  dsimp only
  rw [snapshot_conclude]
  rfl

/-! ### The frame path -/

theorem snapshot_finish_proceed (c : Client) :
    (c.finish .proceed).snapshot = { c.snapshot with path := .idle } := by
  unfold finish
  dsimp only
  split
  next hreconnect => cases hreconnect
  next => exact snapshot_record { c with framePath := .idle } rfl

theorem loses_finish (c : Client) : c.snapshot.Loses (c.finish .reconnect).snapshot := by
  have hrecord : (({ c with framePath := .idle } : Client).record
      (.answered .reconnect)).snapshot = { c.snapshot with path := .idle } := snapshot_record _ rfl
  unfold finish
  dsimp only
  split
  next hstage _ =>
    rw [snapshot_leave, hrecord]
    exact .leave hstage
  next hother =>
    rw [hrecord]
    exact .spare fun hstage => hother hstage rfl

theorem breaks_breakOff (c : Client) : c.snapshot.Breaks c.breakOff.snapshot := by
  have hrecord : (({ c with framePath := .idle } : Client).record .brokeOff).snapshot =
      { c.snapshot with path := .idle } := snapshot_record _ rfl
  unfold breakOff
  dsimp only
  split
  next hstage =>
    show c.snapshot.Breaks { (({ c with framePath := .idle } : Client).record
      .brokeOff).snapshot with stage := .broken, orders := [] }
    rw [hrecord]
    exact .off hstage
  next hother =>
    rw [hrecord]
    exact .spare hother

/-- Going on to send something from another phase. -/
theorem snapshot_submit_enter (c : Client) (phase : Phase) (command : Command) (purpose : Purpose) :
    ((c.enter phase).submit command purpose).snapshot = { c.snapshot with
      phase, path := .sending c.snapshot.clearance (.command command) purpose } := by
  have henter := snapshot_enter c phase
  have hclearance : (c.enter phase).snapshot.clearance = c.snapshot.clearance := by
    rw [henter]
    rfl
  show { (c.enter phase).snapshot with
    path := .sending (c.enter phase).snapshot.clearance (.command command) purpose } = _
  rw [hclearance, henter]

theorem snapshot_identify (c : Client) (purpose : Purpose) :
    ∃ identify : Identify, (c.identify purpose).snapshot = { c.snapshot with
      phase := .identifying
      path := .sending c.snapshot.clearance (.command (.identify identify)) purpose } :=
  ⟨_, snapshot_submit_enter c .identifying _ purpose⟩

theorem snapshot_resume (c : Client) (sessionId : String) (purpose : Purpose) :
    (c.resume sessionId purpose).snapshot = { c.snapshot with
      phase := .resuming
      path := .sending c.snapshot.clearance
        (.command (.resume ⟨c.config.token, sessionId, c.session.sequence⟩)) purpose } :=
  snapshot_submit_enter c .resuming _ purpose

theorem handles_handle (c : Client) (events : List Event) :
    c.snapshot.Handles events (c.handle events).snapshot := by
  -- the events before the one at which something is sent are given to the handler one by one
  induction events generalizing c with
  | nil =>
      rw [handle, snapshot_finish_proceed]
      exact .all
  | cons event rest ih =>
      have hrecord : (c.record (.handled event)).snapshot = c.snapshot.handing [event] :=
        snapshot_note c rfl
      rw [handle]
      split
      next command _ =>
        show c.snapshot.Handles (event :: rest)
          { (c.record (.handled event)).snapshot with
            path := .sending c.snapshot.clearance (.command command) (.handler rest) }
        have hfirst : [] ++ event :: rest = event :: rest := rfl
        rw [hrecord]
        exact .upTo hfirst
      next =>
        have hhandles := ih (c.record (.handled event))
        generalize ((c.record (.handled event)).handle rest).snapshot = s at hhandles
        rw [hrecord] at hhandles
        have hmore (handed : List Event) :
            (c.snapshot.handing [event]).handing handed = c.snapshot.handing (event :: handed) := by
          simp [handing]
        cases hhandles with
        | all =>
            rw [hmore]
            exact .all
        | @upTo handed later last _ hevents =>
            have hlonger : (event :: handed) ++ last :: later = event :: rest :=
              congrArg (event :: ·) hevents
            rw [hmore]
            exact .upTo hlonger

theorem snapshot_spawnReply (c : Client) (message : Message) :
    (c.spawnReply message).snapshot = c.snapshot := by
  unfold spawnReply
  split <;> rfl

theorem snapshot_keepBooks (c : Client) (name : String) (data : Json) :
    (c.keepBooks name data).snapshot = c.snapshot.booking (name, data) := by
  unfold keepBooks booking
  split
  next =>
    rw [snapshot_enter]
    rfl
  next =>
    rw [snapshot_enter]
    rfl
  next hready hresumed =>
    have hphase : ¬ (name = "READY" ∨ name = "RESUMED") := not_or.2 ⟨hready, hresumed⟩
    have hsession : ¬ (name == "READY") = true := fun heq => hready (eq_of_beq heq)
    dsimp only
    rw [if_neg hphase, if_neg hsession]

theorem snapshot_took (c : Client) (frame : Frame) :
    (({ c with session := c.session.number frame.sequence } : Client).record
      (.took frame)).snapshot = c.snapshot.taking frame := by
  rw [snapshot_note _ rfl]
  unfold taking Session.number
  cases frame.sequence <;> rfl

end ChatGateway.Client
