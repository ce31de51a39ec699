import ChatGateway.Protocol.Frame
import ChatGateway.Proofs.Dispatch.Frames

/-!
What the frames that were received say about the position of a session. Nothing counts but the
frames since the session was void for the last time: the last of them that begins a session names
it, and the last number among them is the position in it. Whether a frame makes the session void
depends on the frames before it, for a session that nobody knows cannot be taken up.
-/

namespace ChatGateway

namespace Frame

def dispatched? (frame : Frame) : Option Dispatched :=
  if frame.opcode? = some .dispatch then frame.event.map fun name => (name, frame.data) else none

def begins (frame : Frame) : Bool := frame.dispatched?.any fun named => named.1 == "READY"

def sessionId? (frame : Frame) : Option String := (frame.data.get? "session_id").bind (·.string?)

/-- A frame makes the session void: it says that the session is invalid and does not let it be taken
up, or there is none that could be. -/
def Voids (frame : Frame) (sessionId : Option String) : Prop :=
  frame.opcode? = some .invalidSession ∧ ¬ (frame.data.bool? = some true ∧ sessionId.isSome)

instance (frame : Frame) (sessionId : Option String) : Decidable (frame.Voids sessionId) :=
  inferInstanceAs (Decidable (_ ∧ _))

theorem opcode_of_dispatched {frame : Frame} {named : Dispatched}
    (hnamed : frame.dispatched? = some named) : frame.opcode? = some .dispatch := by
  unfold dispatched? at hnamed
  split at hnamed
  next hopcode => exact hopcode
  next => cases hnamed

theorem Voids.dispatched? {frame : Frame} {sessionId : Option String}
    (h : frame.Voids sessionId) : frame.dispatched? = none := by
  unfold Frame.dispatched?
  rw [h.1]
  rfl

theorem begins_of_none {frame : Frame} (hnone : frame.dispatched? = none) :
    frame.begins = false := by
  unfold begins
  rw [hnone]
  rfl

end Frame

/-! ### Histories of frames, the oldest first -/

namespace Received

def dispatched (frames : List Frame) : List Dispatched := frames.filterMap Frame.dispatched?

/-- The session that was begun last, if its frame names one. -/
def session? (frames : List Frame) : Option String :=
  (frames.filter Frame.begins).getLast?.bind Frame.sessionId?

/-- The last number, unless it is the one that stands for none. -/
def number? (frames : List Frame) : Option Int64 :=
  (frames.filterMap Frame.sequence).getLast?.filter (· ≠ -1)

/-- The frames since the session was void for the last time. -/
def sinceVoid (frames : List Frame) : List Frame :=
  frames.foldl
    (fun since frame => if frame.Voids (session? since) then [] else since ++ [frame]) []

variable (frames : List Frame) (frame : Frame)

theorem dispatched_append :
    dispatched (frames ++ [frame]) = dispatched frames ++ frame.dispatched?.toList := by
  unfold dispatched
  rw [List.filterMap_append]
  cases h : frame.dispatched? <;> simp [h]

theorem dispatched_append_of_none {frame : Frame} (hnone : frame.dispatched? = none) :
    dispatched (frames ++ [frame]) = dispatched frames := by
  rw [dispatched_append, hnone]
  exact List.append_nil _

theorem session?_append :
    session? (frames ++ [frame]) =
      if frame.begins = true then frame.sessionId? else session? frames := by
  unfold session?
  rw [List.filter_append]
  split
  next hbegins => simp [hbegins]
  next hother => simp [hother]

theorem number?_append :
    number? (frames ++ [frame]) =
      match frame.sequence with
      | some n => if n = -1 then none else some n
      | none => number? frames := by
  unfold number?
  rw [List.filterMap_append]
  cases h : frame.sequence with
  | none => simp [h]
  | some n => simp [h, Option.filter]

theorem sinceVoid_append :
    sinceVoid (frames ++ [frame]) =
      if frame.Voids (session? (sinceVoid frames)) then [] else sinceVoid frames ++ [frame] := by
  unfold sinceVoid
  rw [List.foldl_append]
  rfl

end Received

end ChatGateway
