import ChatGateway.Proofs.Client.Stages
import Mathlib.Data.List.Induction

/-!
The end of a client. After a shutdown the order for it is among the orders of the connection loop,
or the loop is leaving its connection for it, until the loop ends (`Goes.closing`). From then on
whatever changes the stage of the loop brings it closer to its end (`Goes.distance`), and the loop
can always go on by itself, so that it does end (`ends_of_closing`). It ends without an error
unless the last attempt to connect fails: the orders are looked at when a connection was opened, but
not when none was (`shutdown_ends`).
-/

namespace ChatGateway

/-- A close that forbids another connection. -/
def Move.IsFatal (config : Config) (move : Move) : Prop :=
  ∃ item error, move = .receive item ∧ item.exit? config = some (.fatal error)

/-- The loop is not over, and it is not about to end for a close that forbids another connection. -/
def Stage.Live : Stage → Prop
  | .ended _ | .broken | .leaving (.fatal _) => False
  | _ => True

/-- How far the loop is from its end when it is to shut down. -/
def Stage.distance (config : Config) : Stage → Nat
  | .ended _ | .broken => 0
  | .opening none => 1
  | .dormant => 2
  | .opening (some retry) => 2 * (Retry.limit config - retry.attempt) + 1
  | .waiting _ retry => 2 * (Retry.limit config - retry.attempt) + 2
  | .leaving _ => 2 * Retry.limit config + 1
  | .reading => 2 * Retry.limit config + 2

theorem Move.not_isFatal_of_isOwn {config : Config} {move : Move} (hown : move.isOwn = true) :
    ¬ move.IsFatal config := by
  rintro ⟨item, error, rfl, -⟩
  cases hown

/-- The loop is to shut down and is not over: it leaves its connection for that, or the order for it
is still before it. -/
inductive Stage.Closing (stage : Stage) (orders : List Order) : Prop
  | leaving (hstage : stage = .leaving .shutdown) : Closing stage orders
  | ordered (hlive : stage.Live) (hshutdown : .shutdown ∈ orders) : Closing stage orders

namespace Stage

variable {stage : Stage} {orders : List Order}

theorem Live.open (hlive : stage.Live) : stage.isOver = false := by
  cases stage with
  | ended | broken => exact hlive.elim
  | _ => rfl

theorem Closing.open (h : stage.Closing orders) : stage.isOver = false := by
  cases h with
  | leaving hstage => rw [hstage]; rfl
  | ordered hlive => exact hlive.open

theorem distance_open (config : Config) (hopen : stage.isOver = false) :
    0 < stage.distance config := by
  cases stage with
  | ended | broken => cases hopen
  | opening retry => cases retry <;> exact Nat.succ_pos _
  | _ => exact Nat.succ_pos _

end Stage

namespace Course

theorem live_trying (o : Course) (retry : Retry) : (o.trying retry).Live := by
  rcases trying_cases o retry with htry | ⟨due, htry⟩ <;> rw [htry] <;> trivial

theorem distance_trying (o : Course) (config : Config) (retry : Retry) :
    (o.trying retry).distance config ≤ 2 * (Retry.limit config - retry.attempt) + 2 := by
  rcases trying_cases o retry with htry | ⟨due, htry⟩ <;> rw [htry]
  · exact Nat.le_succ _
  · exact Nat.le_refl _

variable {c : Client} {move : Move} {stage : Stage} {orders : List Order}

theorem live_of_exit {item : Item} {exit : Exit} (hgentle : ¬ (Move.receive item).IsFatal c.config)
    (hexit : item.exit? c.config = some exit) : (Stage.leaving exit).Live := by
  cases exit with
  | fatal error => exact absurd ⟨item, error, rfl, hexit⟩ hgentle
  | _ => trivial

/-- As long as no close forbids another connection, the loop does not come to leave one for that. -/
theorem Goes.live (hgoes : Goes c move stage orders) (hgentle : ¬ move.IsFatal c.config)
    (hlive : c.stage.Live) : stage.Live ∨ stage.isOver = true := by
  cases hgoes with
  | stay => exact .inl hlive
  | lose => exact .inl trivial
  | breakOff => exact .inr rfl
  | loop hloops =>
      cases hloops with
      | again => exact .inl (live_trying _ _)
      | depart => exact .inl (live_trying _ _)
      | hangUp _ _ hexit => exact .inl (live_of_exit hgentle hexit)
      | @obey order => cases order <;> exact .inl trivial
      | dropped | refused | close | fail | stop => exact .inr rfl
      | start | opened | retry | hurry => exact .inl trivial

/-- What becomes of a loop with the order to shut down before it. -/
theorem Loops.closing (hloops : c.course.Loops move stage orders)
    (hgentle : ¬ move.IsFatal c.config) (hlive : c.stage.Live) (hshutdown : .shutdown ∈ c.orders) :
    stage.Closing orders ∨ stage = .ended (.ok ()) ∨
      ∃ error, move = .refused ∧ c.stage.lastAttempt? c.config = some error ∧
        stage = .ended (.error error) := by
  cases hloops with
  | start => exact .inl (.ordered trivial hshutdown)
  | opened _ hserved => exact absurd hshutdown hserved
  | dropped | close | stop => exact .inr (.inl rfl)
  | refused hlast => exact .inr (.inr ⟨_, rfl, hlast, rfl⟩)
  | again => exact .inl (.ordered (live_trying _ _) hshutdown)
  | retry => exact .inl (.ordered trivial hshutdown)
  | depart => exact .inl (.ordered (live_trying _ _) hshutdown)
  | fail hfatal =>
      rw [show c.stage = _ from hfatal] at hlive
      exact hlive.elim
  | hangUp _ _ hexit => exact .inl (.ordered (live_of_exit hgentle hexit) hshutdown)
  | @obey order _ _ _ hfirst =>
      rw [show c.orders = _ from hfirst] at hshutdown
      cases order with
      | shutdown => exact .inl (.leaving rfl)
      | reconnect =>
          -- a shutdown behind an order to reconnect stays where it is
          refine .inl (.ordered trivial ?_)
          simpa using hshutdown
  | hurry _ hfirst =>
      rw [show c.orders = _ from hfirst] at hshutdown
      refine .inl (.ordered trivial ?_)
      simpa using hshutdown

/-- What becomes of a loop that is to shut down: it still is, or it is over, because the work on a
frame broke off, without an error, or because the last attempt to connect failed. -/
theorem Goes.closing (hgoes : Goes c move stage orders) (hgentle : ¬ move.IsFatal c.config)
    (h : c.stage.Closing c.orders) :
    stage.Closing orders ∨ stage = .broken ∨ stage = .ended (.ok ()) ∨
      ∃ error, move = .refused ∧ c.stage.lastAttempt? c.config = some error ∧
        stage = .ended (.error error) := by
  cases h with
  | leaving hleaving =>
      cases hgoes with
      | stay => exact .inl (.leaving hleaving)
      | loop hloops => exact .inr (.inr (.inl (hloops.of_leaving_shutdown hleaving)))
      | lose hreading => exact absurd (hreading.symm.trans hleaving) nofun
      | breakOff => exact .inr (.inl rfl)
  | ordered hlive hshutdown =>
      cases hgoes with
      | stay hmore => exact .inl (.ordered hlive (hmore hshutdown))
      | loop hloops => exact (hloops.closing hgentle hlive hshutdown).imp_right .inr
      | lose => exact .inl (.ordered trivial hshutdown)
      | breakOff => exact .inr (.inl rfl)

/-- Whatever a loop that is to shut down does brings it closer to its end. -/
theorem Loops.distance (hloops : c.course.Loops move stage orders)
    (h : c.stage.Closing c.orders) :
    stage.distance c.config < c.stage.distance c.config := by
  have hlimit := Retry.limit_pos c.config
  have hend : ∀ result, stage = .ended result →
      stage.distance c.config < c.stage.distance c.config := by
    rintro result rfl
    exact Stage.distance_open c.config h.open
  show _ < c.course.stage.distance c.config
  cases hloops with
  | opened hstage hserved =>
      -- a connection is taken only if no shutdown is among the orders
      cases h with
      | leaving hleaving => exact absurd (hstage.symm.trans hleaving) nofun
      | ordered _ hshutdown => exact absurd hshutdown hserved
  | @again retry next hstage hnext =>
      obtain ⟨hleft, hattempt⟩ := Retry.next?_eq_some hnext
      have hleft : retry.attempt < Retry.limit c.config := hleft
      have htry := distance_trying c.course c.config next
      rw [hattempt] at htry
      rw [hstage]
      show _ < 2 * (Retry.limit c.config - retry.attempt) + 1
      omega
  | @depart delay hstage =>
      have htry := distance_trying c.course c.config ⟨1, delay⟩
      dsimp only at htry
      rw [hstage]
      show _ < 2 * Retry.limit c.config + 1
      omega
  | dropped | refused | close | fail | stop => exact hend _ rfl
  | start hstage | retry hstage | hangUp hstage | obey hstage | hurry hstage =>
      rw [hstage]
      exact Nat.lt_succ_self _

theorem Goes.distance (hgoes : Goes c move stage orders) (h : c.stage.Closing c.orders) :
    stage = c.stage ∨ stage.distance c.config < c.stage.distance c.config := by
  cases hgoes with
  | stay => exact .inl rfl
  | loop hloops => exact .inr (hloops.distance h)
  | lose hreading =>
      rw [hreading]
      exact .inr (Nat.lt_succ_self _)
  | breakOff => exact .inr (Stage.distance_open c.config h.open)

end Course

namespace Client

open Course

/-! ### Histories -/

/-- A loop that is not over after a history without a close that forbids another connection is not
about to end for one. -/
theorem live_run (c : Client) (hlive : c.stage.Live) {moves : List Move}
    (hgentle : ∀ move ∈ moves, ¬ move.IsFatal c.config) :
    (c.run moves).stage.Live ∨ (c.run moves).stage.isOver = true := by
  induction moves generalizing c with
  | nil => exact .inl hlive
  | cons move rest ih =>
      have hrest : ∀ later ∈ rest, ¬ later.IsFatal (c.step move).config := by
        intro later hlater
        rw [config_step]
        exact hgentle later (List.mem_cons_of_mem _ hlater)
      rcases (goes_step c move).live (hgentle move List.mem_cons_self) hlive with hnext | hover
      · exact ih (c.step move) hnext hrest
      · rw [run_cons, over_run (c.step move) rfl hover]
        exact .inr hover

/-- What becomes of a loop that is to shut down, after any history. -/
theorem closing_run (c : Client) (h : c.stage.Closing c.orders) {moves : List Move}
    (hgentle : ∀ move ∈ moves, ¬ move.IsFatal c.config) :
    (c.run moves).stage.Closing (c.run moves).orders ∨ (c.run moves).stage = .broken ∨
      (c.run moves).stage = .ended (.ok ()) ∨
      ∃ error first rest, moves = first ++ .refused :: rest ∧
        (c.run first).stage.lastAttempt? c.config = some error ∧
        (c.run moves).stage = .ended (.error error) := by
  induction moves using List.reverseRecOn with
  | nil => exact .inl h
  | append_singleton moves move ih =>
      have hbefore : ∀ earlier ∈ moves, ¬ earlier.IsFatal c.config := fun earlier hearlier =>
        hgentle earlier (List.mem_append_left _ hearlier)
      have hstep : c.run (moves ++ [move]) = (c.run moves).step move := by
        rw [run_append]
        rfl
      have hgoes := goes_step (c.run moves) move
      have hconfig := config_run c moves
      rw [hstep]
      rcases ih hbefore with
        hclosing | hbroken | hok | ⟨error, first, rest, rfl, hlast, hended⟩
      · have hlater : ¬ move.IsFatal (c.run moves).config := by
          rw [hconfig]
          exact hgentle move (List.mem_append_right _ List.mem_cons_self)
        rcases hgoes.closing hlater hclosing with
          hstill | hbroken | hok | ⟨error, rfl, hlast, hended⟩
        · exact .inl hstill
        · exact .inr (.inl hbroken)
        · exact .inr (.inr (.inl hok))
        · rw [hconfig] at hlast
          exact .inr (.inr (.inr ⟨error, moves, [], rfl, hlast, hended⟩))
      · exact .inr (.inl (hgoes.over hbroken rfl))
      · exact .inr (.inr (.inl (hgoes.over hok rfl)))
      · exact .inr (.inr (.inr ⟨error, first, rest ++ [move], by simp, hlast,
          hgoes.over hended rfl⟩))

/-! ### The loop goes on -/

/-- The loop ends by itself, whatever becomes of the attempts to connect. -/
inductive Ends : Client → Prop
  | ended {c : Client} {result : Except ClientError Unit} (hstage : c.stage = .ended result) :
      Ends c
  | go {c : Client} {move : Move} (hown : move.isOwn = true) (hends : Ends (c.step move)) : Ends c
  | attempt {c : Client} {retry : Option Retry} (hstage : c.stage = .opening retry)
      (hopened : Ends (c.step .opened)) (hrefused : Ends (c.step .refused)) : Ends c

/-- Every loop that is to shut down and is closer to its end than a distance comes to it. -/
def EndsWithin (config : Config) (distance : Nat) : Prop :=
  ∀ c : Client, c.config = config → c.stage.Closing c.orders →
    c.stage.distance config < distance → c.Ends

theorem exists_order_of_closing {stage : Stage} {orders : List Order} (h : stage.Closing orders)
    (hstage : stage ≠ .leaving .shutdown) : ∃ order rest, orders = order :: rest := by
  cases h with
  | leaving hleaving => exact absurd hleaving hstage
  | ordered _ hshutdown => exact List.exists_cons_of_ne_nil (List.ne_nil_of_mem hshutdown)

section Ends

variable {config : Config} {move : Move}

/-- A step that brings the loop closer to its end leads to the end, if whatever is closer does. -/
theorem ends_of_closer (c : Client) (hconfig : c.config = config) (h : c.stage.Closing c.orders)
    (hwithin : EndsWithin config (c.stage.distance config)) (hgentle : ¬ move.IsFatal config)
    (hwhole : (c.step move).stage ≠ .broken)
    (hless : (c.step move).stage.distance config < c.stage.distance config) :
    (c.step move).Ends := by
  subst hconfig
  rcases (goes_step c move).closing hgentle h with
    hclosing | hbroken | hok | ⟨error, -, -, hended⟩
  · exact hwithin _ (config_step c move) hclosing hless
  · exact absurd hbroken hwhole
  · exact .ended hok
  · exact .ended hended

/-- Whatever the loop does brings it closer to its end. -/
theorem ends_of_advances (c : Client) (hconfig : c.config = config) (h : c.stage.Closing c.orders)
    (hwithin : EndsWithin config (c.stage.distance config)) (hgentle : ¬ move.IsFatal config)
    (hadvances : Advances c move (c.step move)) : (c.step move).Ends := by
  obtain ⟨stage, orders, hloops, hcourse⟩ := hadvances
  have hstage : (c.step move).stage = stage := congrArg Course.stage hcourse
  have hless : stage.distance config < c.stage.distance config := hconfig ▸ hloops.distance h
  rw [← hstage] at hless
  exact ends_of_closer c hconfig h hwithin hgentle (by rw [hstage]; exact hloops.whole) hless

theorem ends_of_own (c : Client) (hconfig : c.config = config) (h : c.stage.Closing c.orders)
    (hwithin : EndsWithin config (c.stage.distance config)) (hown : move.isOwn = true)
    (hadvances : Advances c move (c.step move)) : c.Ends :=
  .go hown
    (ends_of_advances c hconfig h hwithin (Move.not_isFatal_of_isOwn hown) hadvances)

/-- A connection that is read is left when the frame path is through with its frame. -/
theorem ends_of_reading (c : Client) (hconfig : c.config = config) (h : c.stage.Closing c.orders)
    (hstage : c.stage = .reading)
    (hwithin : EndsWithin config (Stage.reading.distance config)) : c.Ends := by
  induction hload : c.framePath.load using Nat.strongRecOn generalizing c with
  | ind load ih =>
    subst hload
    by_cases hidle : c.framePath = .idle
    · have hobey : Move.obey.isOwn = true := rfl
      obtain ⟨order, rest, horders⟩ := exists_order_of_closing h (by rw [hstage]; exact nofun)
      exact ends_of_own c hconfig h (by rw [hstage]; exact hwithin) hobey
        (advances_obey_reading c hstage hidle horders)
    · -- the wait is over in time, and then there is less before the frame path
      generalize hlater : c.step (.elapse c.framePath.due) = d
      have helapse : (Move.elapse c.framePath.due).isOwn = true := rfl
      have hproceed : Move.proceed.isOwn = true := rfl
      have hcourse : d.course = { c.course with clock := c.clock + c.framePath.due } := by
        rw [← hlater]
        rfl
      have hconfig' : d.config = config := (congrArg Course.config hcourse).trans hconfig
      have hstage' : d.stage = .reading := (congrArg Course.stage hcourse).trans hstage
      have hpath : d.framePath = c.framePath := congrArg Course.path hcourse
      have hover : d.framePath.due ≤ d.clock := by
        rw [hpath, show d.clock = _ from congrArg Course.clock hcourse]
        exact Nat.le_add_left _ _
      have hclosing : d.stage.Closing d.orders := by
        rw [hstage', ← hstage, show d.orders = c.orders from congrArg Course.orders hcourse]
        exact h
      have hgentle : ∀ {config}, ¬ Move.proceed.IsFatal config :=
        Move.not_isFatal_of_isOwn hproceed
      have hbusy : d.framePath ≠ .idle := by
        rw [hpath]
        exact hidle
      have hwhole : (d.step .proceed).stage ≠ .broken := whole_proceed d hstage' hbusy hover
      refine .go helapse (hlater ▸ .go hproceed ?_)
      rcases (goes_step d .proceed).distance hclosing with hsame | hless
      · have hstill : (d.step .proceed).stage = .reading := hsame.trans hstage'
        have hload : (d.step .proceed).framePath.load < c.framePath.load := by
          rw [← hpath]
          exact load_proceed d hbusy hover
        have hnext : (d.step .proceed).stage.Closing (d.step .proceed).orders := by
          rcases (goes_step d .proceed).closing hgentle hclosing with
            hnext | hbroken | hok | ⟨error, -, -, hended⟩
          · exact hnext
          · exact absurd hbroken hwhole
          · exact absurd (hstill.symm.trans hok) nofun
          · exact absurd (hstill.symm.trans hended) nofun
        exact ih _ hload _ ((config_step d .proceed).trans hconfig') hnext hstill rfl
      · -- the frame costs the connection
        rw [hconfig'] at hless
        exact ends_of_closer d hconfig' hclosing (by rw [hstage']; exact hwithin) hgentle hwhole
          hless

theorem ends_of_closing (c : Client) (h : c.stage.Closing c.orders) : c.Ends := by
  generalize hconfig : c.config = config
  -- on the distance of the stage
  induction hdistance : c.stage.distance config using Nat.strongRecOn generalizing c with
  | ind distance ih =>
    subst hdistance
    have hwithin : EndsWithin config (c.stage.distance config) :=
      fun d hconfig hclosing hless => ih _ hless d hclosing hconfig rfl
    cases hstage : c.stage with
    | dormant => exact ends_of_own c hconfig h hwithin rfl (advances_start c hstage)
    | opening retry =>
        have hopened : ¬ Move.opened.IsFatal config := nofun
        have hrefused : ¬ Move.refused.IsFatal config := nofun
        exact .attempt hstage
          (ends_of_advances c hconfig h hwithin hopened (advances_opened c hstage))
          (ends_of_advances c hconfig h hwithin hrefused (advances_refused c hstage))
    | waiting due retry =>
        have hobey : Move.obey.isOwn = true := rfl
        obtain ⟨order, rest, horders⟩ := exists_order_of_closing h (by rw [hstage]; exact nofun)
        exact ends_of_own c hconfig h hwithin hobey (advances_obey_waiting c hstage horders)
    | reading => exact ends_of_reading c hconfig h hstage (by rw [← hstage]; exact hwithin)
    | leaving exit =>
        have hdepart : Move.depart.isOwn = true := rfl
        exact ends_of_own c hconfig h hwithin hdepart (advances_depart c hstage)
    | ended | broken =>
        rw [hstage] at h
        exact absurd h.open nofun

end Ends

/-- An order for a shutdown reaches a loop that has not ended. -/
theorem closing_shutdown (c : Client) (hlive : c.stage.Live) :
    (c.step .shutdown).stage.Closing (c.step .shutdown).orders := by
  show c.shutdown.snapshot.stage.Closing c.shutdown.snapshot.orders
  rw [snapshot_shutdown, heard_of_open hlive.open]
  exact .ordered hlive (List.mem_append_right _ List.mem_cons_self)

/-- A loop that is to shut down ends with an error exactly if the last attempt to connect fails. -/
theorem error_iff_last_refused (c : Client) (h : c.stage.Closing c.orders) {moves : List Move}
    (hgentle : ∀ move ∈ moves, ¬ move.IsFatal c.config) {error : ClientError} :
    (c.run moves).stage = .ended (.error error) ↔
      ∃ first rest, moves = first ++ .refused :: rest ∧
        (c.run first).stage.lastAttempt? c.config = some error := by
  constructor
  · intro hstage
    rcases closing_run c h hgentle with
      hclosing | hbroken | hok | ⟨error', first, rest, hsplit, hlast, hstage'⟩
    · rw [hstage] at hclosing
      exact absurd hclosing.open nofun
    · exact absurd (hstage.symm.trans hbroken) nofun
    · exact absurd (hstage.symm.trans hok) nofun
    · cases hstage.symm.trans hstage'
      exact ⟨first, rest, hsplit, hlast⟩
  · rintro ⟨first, rest, rfl, hlast⟩
    have hconfig : (c.run first).config = c.config := config_run c first
    have hended : ((c.run first).step .refused).stage = .ended (.error error) :=
      congrArg Snapshot.stage (snapshot_refused_last _ (hconfig.symm ▸ hlast))
    rw [run_append, run_cons, over_run _ hended rfl]

/-- Whatever happens to a loop that is to shut down, it goes on to its end unless the work on a
frame breaks off, and comes closer to it with each change of its stage. -/
theorem ends_run (c : Client) (h : c.stage.Closing c.orders) {moves : List Move}
    (hgentle : ∀ move ∈ moves, ¬ move.IsFatal c.config) :
    ((c.run moves).stage ≠ .broken → (c.run moves).Ends) ∧
    ∀ move, ((c.run moves).step move).stage = (c.run moves).stage ∨
      ((c.run moves).step move).stage.distance c.config <
        (c.run moves).stage.distance c.config := by
  have hover (hover : (c.run moves).stage.isOver = true) (move : Move) :
      ((c.run moves).step move).stage = (c.run moves).stage := (goes_step _ move).over rfl hover
  rcases closing_run c h hgentle with
    hclosing | hbroken | hok | ⟨error, -, -, -, -, hended⟩
  · refine ⟨fun _ => ends_of_closing _ hclosing, fun move => ?_⟩
    rw [← config_run c moves]
    exact (goes_step _ move).distance hclosing
  · exact ⟨fun hwhole => absurd hbroken hwhole,
      fun move => .inl (hover (by rw [hbroken]; rfl) move)⟩
  · exact ⟨fun _ => .ended hok, fun move => .inl (hover (by rw [hok]; rfl) move)⟩
  · exact ⟨fun _ => .ended hended, fun move => .inl (hover (by rw [hended]; rfl) move)⟩

/-- A shutdown of a loop that has not ended ends it, at whatever moment it comes and whatever
happens then, unless a close forbids another connection or the work on a frame breaks off. The loop
goes on by itself until it has ended, and each change of its stage brings it closer to its end. It
ends with an error exactly if an attempt to connect fails after the shutdown that is the last one;
otherwise it ends without one. -/
theorem shutdown_ends (config : Config) (handlers : Handlers) {before after : List Move}
    (hlive : ∀ result, ((fresh config handlers).run before).stage ≠ .ended result)
    (hgentle : ∀ move ∈ before ++ after, ¬ move.IsFatal config) :
    let shut := ((fresh config handlers).run before).step .shutdown
    let c := shut.run after
    (∀ error, c.stage = .ended (.error error) ↔
      ∃ first rest, after = first ++ .refused :: rest ∧
        (shut.run first).stage.lastAttempt? config = some error) ∧
    (c.stage ≠ .broken → c.Ends) ∧
    ∀ move, (c.step move).stage = c.stage ∨
      (c.step move).stage.distance config < c.stage.distance config := by
  intro shut c
  have hfresh : (fresh config handlers).stage.Live := trivial
  have hbefore : ∀ move ∈ before, ¬ move.IsFatal config := fun move hmove =>
    hgentle move (List.mem_append_left _ hmove)
  have hafter : ∀ move ∈ after, ¬ move.IsFatal config := fun move hmove =>
    hgentle move (List.mem_append_right _ hmove)
  have hconfig : shut.config = config := (config_step _ _).trans (config_run _ before)
  have hgoes : ∀ move ∈ after, ¬ move.IsFatal shut.config := by
    rw [hconfig]
    exact hafter
  rcases live_run (fresh config handlers) hfresh hbefore with hstill | hover
  · have hclosing : shut.stage.Closing shut.orders := closing_shutdown _ hstill
    obtain ⟨hends, hcloser⟩ := ends_run shut hclosing hgoes
    refine ⟨fun error => ?_, hends, fun move => ?_⟩
    · rw [← hconfig]
      exact error_iff_last_refused shut hclosing hgoes
    · rw [← hconfig]
      exact hcloser move
  · -- nothing more happens to a loop that has broken off before the shutdown
    have hbroken : ((fresh config handlers).run before).stage = .broken := by
      cases hstage : ((fresh config handlers).run before).stage with
      | broken => rfl
      | ended result => exact absurd hstage (hlive result)
      | _ =>
          rw [hstage] at hover
          cases hover
    have hlater (moves : List Move) : (shut.run moves).stage = .broken := by
      rw [show shut.run moves = _ from (run_cons _ .shutdown moves).symm]
      exact over_run _ hbroken rfl _
    refine ⟨fun error => ⟨fun hended => ?_, ?_⟩, fun hwhole => absurd (hlater after) hwhole,
      fun move => .inl ?_⟩
    · exact absurd ((hlater after).symm.trans hended) nofun
    · rintro ⟨first, rest, -, hlast⟩
      rw [hlater first] at hlast
      cases hlast
    · exact ((goes_step c move).over (hlater after) rfl).trans (hlater after).symm

/-- A shutdown behind an order to reconnect, while the first connection is being opened. -/
theorem shutdown_ends_behind_reconnect :
    (∀ result, ((fresh { token := "t" } .none).run [.start, .requestReconnect]).stage ≠
      .ended result) ∧
    (∀ move ∈ [Move.start, .requestReconnect] ++ [.opened], ¬ move.IsFatal { token := "t" }) ∧
    let c := (((fresh { token := "t" } .none).run [.start, .requestReconnect]).step .shutdown).run
      [.opened]
    c.stage = .ended (.ok ()) ∧ c.Ends := by
  have hlive : ∀ result, ((fresh { token := "t" } .none).run [.start, .requestReconnect]).stage ≠
      .ended result := nofun
  have hgentle : ∀ move ∈ [Move.start, .requestReconnect] ++ [.opened],
      ¬ move.IsFatal { token := "t" } := by
    rintro move hmove ⟨item, error, rfl, -⟩
    simp at hmove
  obtain ⟨-, hends, -⟩ := shutdown_ends { token := "t" } .none hlive hgentle
  exact ⟨hlive, hgentle, rfl, hends nofun⟩

/-- The connection is left for another one, and there is one attempt to open that. -/
def reopening : List Move := [.start, .opened, .requestReconnect, .obey, .depart]

/-- A shutdown that comes while the last attempt to connect is made is not heard when the attempt
fails: the first attempt, or the last one to connect again. -/
theorem shutdown_unheard :
    (((fresh { token := "t" } .none).run [.start]).stage = .opening none ∧
      ((fresh { token := "t" } .none).run [.start, .shutdown, .refused]).stage =
        .ended (.error .webSocket)) ∧
    (((fresh { token := "t", maxReconnectAttempts := 1 } .none).run reopening).stage =
        .opening (some ⟨1, 0⟩) ∧
      ((fresh { token := "t", maxReconnectAttempts := 1 } .none).run
        (reopening ++ [.shutdown, .refused])).stage =
          .ended (.error (.reconnectFailed 1))) :=
  ⟨⟨rfl, rfl⟩, rfl, rfl⟩

end Client

end ChatGateway
