import ChatGateway.Proofs.Client.Progress

/-!
What a step can do to the connection loop: it goes on by a move of its own, it takes another order,
or the work on a frame costs it the connection or breaks it off (`goes_step`). A loop that is over
goes on no more (`over_run`).
-/

namespace ChatGateway

/-- Whether a move is one of the connection loop and the frame path that waits for nobody but the
clock. -/
def Move.isOwn : Move → Bool
  | .elapse _ | .start | .proceed | .depart | .obey => true
  | _ => false

namespace Retry

theorem next?_eq_some {config : Config} {retry next : Retry}
    (hnext : retry.next? config = some next) :
    retry.attempt < limit config ∧ next.attempt = retry.attempt + 1 := by
  unfold next? at hnext
  split at hnext
  next => cases hnext
  next hleft =>
    cases hnext
    exact ⟨Nat.lt_of_not_le hleft, rfl⟩

theorem limit_pos (config : Config) : 0 < limit config := by
  unfold limit
  omega

end Retry

namespace Course

theorem orders_subset_heard (o : Course) (order : Order) : o.orders ⊆ o.heard order := by
  unfold heard
  split
  next => exact List.Subset.refl _
  next => exact List.subset_append_left _ _

/-- What a step can do to the connection loop. -/
inductive Goes (c : Client) (move : Move) : Stage → List Order → Prop
  | stay {orders : List Order} (horders : c.orders ⊆ orders) : Goes c move c.stage orders
  | loop {stage : Stage} {orders : List Order} (hloops : c.course.Loops move stage orders) :
      Goes c move stage orders
  /-- A frame costs the connection. -/
  | lose (hreading : c.stage = .reading) : Goes c move (.leaving (.reconnect 0)) c.orders
  | breakOff (hreading : c.stage = .reading) : Goes c move .broken []

variable {c : Client} {move : Move} {stage : Stage} {orders : List Order}

theorem goes_of_works {o o' : Course} (hworks : o.Works o') (hstage : o.stage = c.stage)
    (horders : o.orders = c.orders) : Goes c move o'.stage o'.orders := by
  cases hworks with
  | on =>
      rw [hstage, horders]
      exact .stay (List.Subset.refl _)
  | lose hreading =>
      rw [horders]
      exact .lose (hstage.symm.trans hreading)
  | breakOff hreading => exact .breakOff (hstage.symm.trans hreading)

theorem goes_of_turn {o : Course} (hturn : Turn c move c.course o) :
    Goes c move o.stage o.orders := by
  cases hturn with
  | order => exact .stay (orders_subset_heard c.course _)
  | dead => exact .stay (orders_subset_heard c.course _)
  | loop hloops => exact .loop hloops
  | work hworks => exact goes_of_works hworks rfl rfl
  | sent _ _ hworks => exact goes_of_works hworks rfl rfl
  | _ => exact .stay (List.Subset.refl _)

theorem Goes.over (hgoes : Goes c move stage orders) {last : Stage} (hlast : c.stage = last)
    (hover : last.isOver = true) : stage = last := by
  subst hlast
  cases hgoes with
  | stay => rfl
  | loop hloops => exact absurd (hover.symm.trans hloops.open) nofun
  | lose hreading | breakOff hreading =>
      rw [hreading] at hover
      cases hover

end Course

namespace Client

open Course

theorem goes_step (c : Client) (move : Move) :
    Goes c move (c.step move).stage (c.step move).orders :=
  goes_of_turn (course_step c move)

/-- A loop that is over stays as it is. -/
theorem over_run (c : Client) {last : Stage} (hlast : c.stage = last) (hover : last.isOver = true)
    (moves : List Move) : (c.run moves).stage = last := by
  induction moves generalizing c with
  | nil => exact hlast
  | cons move rest ih => exact ih (c.step move) ((goes_step c move).over hlast hover)

/-- Only the beginning of the work on a frame can break off. -/
theorem whole_proceed (c : Client) (hstage : c.stage = .reading) (hbusy : c.framePath ≠ .idle)
    (hdue : c.framePath.due ≤ c.clock) : (c.step .proceed).stage ≠ .broken := by
  have hthis : (c.step .proceed).stage = c.stage ∨ (c.step .proceed).stage = _ :=
    (proceeds_proceed c hbusy hdue).stage
  rcases hthis with hsame | hleaving
  · rw [hsame, hstage]
    exact nofun
  · rw [hleaving]
    exact nofun

end Client

end ChatGateway
