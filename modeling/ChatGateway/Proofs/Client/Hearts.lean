import ChatGateway.Proofs.Client.Steps

/-!
Which heartbeat loops have been told to stop. There is at most one that the session still holds to
stop it later on; every other loop has been told already (`told_run`), however often the heartbeat
was begun and stopped. A step begins a loop when none is held, stops the one that is held, lets
loops end, or leaves them alone (`hearts_step`).
-/

namespace ChatGateway

/-- The heartbeat loops and the hold on them. -/
structure Hearts where
  /-- The loop that the session can still tell to stop. -/
  held : Option Nat
  /-- The loops, each with whether it has been told to stop. -/
  loops : List (Nat × Bool)

namespace Client

def hearts (c : Client) : Hearts where
  held := c.session.heart
  loops := c.loops.map fun loop => (loop.id, loop.stopped)

end Client

namespace Hearts

def begun (o : Hearts) (id : Nat) : Hearts :=
  match o.held with
  | some _ => o
  | none => ⟨some id, o.loops ++ [(id, false)]⟩

def stopped (o : Hearts) : Hearts :=
  ⟨none, o.loops.map fun loop => (loop.1, loop.2 || o.held = some loop.1)⟩

inductive Turn (o : Hearts) : Hearts → Prop
  | stay : Turn o o
  | begin {id : Nat} : Turn o (o.begun id)
  | stop : Turn o o.stopped
  /-- Some loops have come to their end. -/
  | halt {loops : List (Nat × Bool)} (hloops : loops ⊆ o.loops) : Turn o { o with loops }

/-- Every loop that is not held has been told to stop. -/
def Told (o : Hearts) : Prop := ∀ loop ∈ o.loops, loop.2 = true ∨ o.held = some loop.1

variable {o o' : Hearts}

/-- A loop that begins when none is held is held itself, and all others had been told. -/
theorem Told.begun (h : o.Told) (id : Nat) : (o.begun id).Told := by
  unfold Hearts.begun
  split
  next => exact h
  next hfree =>
    intro loop hmem
    rcases List.mem_append.1 hmem with hold | hnew
    · refine .inl ((h loop hold).resolve_right fun hheld => ?_)
      cases hfree.symm.trans hheld
    · rw [List.mem_singleton.1 hnew]
      exact .inr rfl

/-- Once the loop that is held has been told, all have been. -/
theorem Told.all_stopped (h : o.Told) : ∀ loop ∈ o.stopped.loops, loop.2 = true := by
  intro loop hmem
  obtain ⟨before, hbefore, rfl⟩ := List.mem_map.1 hmem
  rcases h before hbefore with htold | hheld
  · simp [htold]
  · simp [hheld]

theorem Told.turn (h : o.Told) (hturn : Turn o o') : o'.Told := by
  cases hturn with
  | stay => exact h
  | «begin» => exact h.begun _
  | stop => exact fun loop hmem => .inl (h.all_stopped loop hmem)
  | halt hloops => exact fun loop hmem => h loop (hloops hmem)

end Hearts

namespace Snapshot

open Hearts

def hearts (s : Snapshot) : Hearts where
  held := s.heart
  loops := s.loops.map fun loop => (loop.id, loop.stopped)

variable {s s' : Snapshot}

theorem hearts_beating (s : Snapshot) (id : Nat) : (s.beating id).hearts = s.hearts.begun id := by
  have hheld : s.hearts.held = s.heart := rfl
  unfold beating begun
  rw [hheld]
  cases hheart : s.heart with
  | some held =>
      unfold hearts
      rw [hheart]
      rfl
  | none =>
      unfold hearts
      dsimp only
      rw [if_neg (by exact nofun), List.map_append]
      rfl

theorem hearts_hushed (s : Snapshot) : s.hushed.hearts = s.hearts.stopped := by
  unfold hushed hearts stopped
  dsimp only
  rw [List.map_map, List.map_map]
  refine congrArg (Hearts.mk none) (List.map_congr_left fun loop _ => ?_)
  by_cases hheld : s.heart = some loop.id <;> simp [hheld]

theorem hearts_setBeat (s : Snapshot) (id : Nat) (beat : Beat) :
    (s.setBeat id beat).hearts = s.hearts := by
  unfold hearts setBeat
  dsimp only
  rw [List.map_map]
  refine congrArg (Hearts.mk s.heart) (List.map_congr_left fun loop _ => ?_)
  rw [Function.comp_apply]
  split <;> rfl

/-- Only the end of the connection loop stops a loop. -/
theorem hearts_reaching (s : Snapshot) (stage : Stage) :
    Hearts.Turn s.hearts (s.reaching stage).hearts := by
  cases stage with
  | ended =>
      show Hearts.Turn s.hearts s.hushed.hearts
      rw [hearts_hushed]
      exact .stop
  | _ => exact .stay

theorem hearts_handles {events : List Event} (hhandles : s.Handles events s') :
    s'.hearts = s.hearts := by
  cases hhandles <;> rfl

/-- Only a greeting begins a loop. -/
theorem hearts_takes {frame : Frame} (htakes : s.Takes frame s') :
    Hearts.Turn s.hearts s'.hearts := by
  have hgreeted (id : Nat) : Hearts.Turn s.hearts ((s.taking frame).beating id).hearts := by
    rw [hearts_beating]
    exact .begin
  cases htakes with
  | cost _ hloses => cases hloses <;> exact .stay
  | @rejoin id => exact hgreeted id
  | @join id => exact hgreeted id
  | event _ _ _ hhandles =>
      rw [hearts_handles hhandles]
      exact .stay
  | breakOff _ _ hbreaks => cases hbreaks <;> exact .stay
  | _ => exact .stay

theorem hearts_beats {id : Nat} (hbeats : s.Beats id s') : s'.hearts = s.hearts := by
  cases hbeats with
  | rest | tick => exact hearts_setBeat s id _
  | dead | pulse => exact hearts_setBeat s id .starting

end Snapshot

namespace Client

open Hearts Snapshot

theorem snapshot_hearts (c : Client) : c.snapshot.hearts = c.hearts := rfl

theorem hearts_proceeds {c : Client} {s : Snapshot} (hproceeds : Proceeds c s) :
    s.hearts = c.hearts := by
  cases hproceeds with
  | unsent _ _ _ _ hloses => cases hloses <;> rfl
  | handled _ _ _ hhandles => exact hearts_handles hhandles
  | _ => rfl

theorem hearts_step (c : Client) (move : Move) : Turn c.hearts (c.step move).hearts := by
  have hturn := turn_step c move
  rw [← snapshot_hearts, ← snapshot_hearts]
  generalize (c.step move).snapshot = s at hturn
  cases hturn with
  | shutdown =>
      show Turn c.snapshot.hearts c.snapshot.hushed.hearts
      rw [hearts_hushed]
      exact .stop
  | beat hbeats =>
      rw [hearts_beats hbeats]
      exact .stay
  | halt => exact .halt (List.map_subset _ List.filter_sublist.subset)
  | loop => exact hearts_reaching c.snapshot _
  | replace => exact hearts_reaching c.snapshot _
  | insert _ _ htakes => exact hearts_takes htakes
  | read _ _ _ htakes => exact hearts_takes htakes
  | proceed hproceeds =>
      rw [hearts_proceeds hproceeds]
      exact .stay
  | _ => exact .stay

/-- After any history every loop that is not held has been told to stop. -/
theorem told_run (c : Client) (h : c.hearts.Told) (moves : List Move) :
    (c.run moves).hearts.Told := by
  induction moves generalizing c with
  | nil => exact h
  | cons move rest ih => exact ih (c.step move) (h.turn (hearts_step c move))

theorem told_fresh (config : Config) (handlers : Handlers) :
    (fresh config handlers).hearts.Told := nofun

end Client

end ChatGateway
