import ChatGateway.Proofs.Client.NewSession
import ChatGateway.Proofs.Client.Stages

/-!
Reading a connection. The loop reads an item when the frame path is idle, takes in the texts that
are frames and passes over the others (`frames_read`). It goes on until a frame costs the
connection, an item ends it, or a frame breaks off; `Quits` lists how that happens, and what is left
to do then (`reading_or_quit`). Nothing is read after that (`quit_of_quits`).
-/

namespace ChatGateway

def Item.frame? : Item → Option Frame
  | .text content => (Frame.ofText content).toOption
  | _ => none

/-- A frame whose event cannot be counted. -/
def Frame.Overflows (frame : Frame) (cache : Cache) : Prop :=
  ∃ named, frame.dispatched? = some named ∧ cache.overflows named.1 named.2 = true

instance (stage : Stage) : Decidable (stage = .reading) :=
  match stage with
  | .reading => isTrue rfl
  | .dormant | .opening _ | .waiting _ _ | .leaving _ | .ended _ | .broken => isFalse nofun

/-! ### Taking in a frame -/

namespace Frame

variable {frame : Frame} {cache : Cache}

theorem Overflows.opcode (h : frame.Overflows cache) : frame.opcode? = some .dispatch := by
  obtain ⟨named, hnamed, -⟩ := h
  exact opcode_of_dispatched hnamed

/-- A frame that is no event overflows nothing. -/
theorem not_overflows (hunnamed : frame.dispatched? = none) : ¬ frame.Overflows cache := by
  rintro ⟨named, hnamed, -⟩
  cases hunnamed.symm.trans hnamed

theorem not_overflows_of_opcode (hopcode : frame.opcode? ≠ some .dispatch) :
    ¬ frame.Overflows cache :=
  not_overflows (if_neg hopcode)

/-- A greeting that can be read costs nothing. -/
theorem not_costs_of_greets (hgreets : frame.greets = true) : ¬ frame.Costs := by
  intro hcosts
  simpa [acknowledges, hgreets] using hcosts.plain

end Frame

namespace Snapshot

variable {s s' : Snapshot} {frame : Frame}

/-- What becomes of a connection on which a frame is read. -/
theorem stage_takes (htakes : s.Takes frame s') (hreading : s.stage = .reading) :
    (frame.Costs → s'.stage = .leaving (.reconnect 0)) ∧
    (frame.Overflows s.cache → s'.stage = .broken) ∧
    (¬ frame.Costs → ¬ frame.Overflows s.cache → s'.stage = .reading ∧ s'.orders = s.orders) := by
  have hplain (hcostless : ¬ frame.Costs) (hcounted : ¬ frame.Overflows s.cache)
      (hstays : s'.stage = s.stage ∧ s'.orders = s.orders) :
      (frame.Costs → s'.stage = .leaving (.reconnect 0)) ∧
      (frame.Overflows s.cache → s'.stage = .broken) ∧
      (¬ frame.Costs → ¬ frame.Overflows s.cache →
        s'.stage = .reading ∧ s'.orders = s.orders) :=
    ⟨fun hcosts => absurd hcosts hcostless, fun hoverflows => absurd hoverflows hcounted,
      fun _ _ => ⟨hstays.1.trans hreading, hstays.2⟩⟩
  cases htakes with
  | pass hpasses =>
      exact hplain hpasses.costless (Frame.not_overflows hpasses.unnamed) ⟨rfl, rfl⟩
  | acknowledge hopcode | echo hopcode | resume hopcode =>
      exact hplain (Frame.not_costs (by simp [hopcode]) (by simp [hopcode]))
        (Frame.not_overflows_of_opcode (by simp [hopcode])) ⟨rfl, rfl⟩
  | void hvoids =>
      exact hplain (Frame.not_costs (by simp [hvoids.1]) (by simp [hvoids.1]))
        (Frame.not_overflows hvoids.dispatched?) ⟨rfl, rfl⟩
  | rejoin hgreets | join hgreets =>
      exact hplain (Frame.not_costs_of_greets hgreets)
        (Frame.not_overflows_of_opcode (Frame.opcode_of_greets hgreets).2) ⟨rfl, rfl⟩
  | cost hcosts hloses =>
      have hleft : s'.stage = .leaving (.reconnect 0) := hloses.stage hreading
      exact ⟨fun _ => hleft, fun hoverflows => absurd hoverflows.opcode hcosts.opcode_ne.2,
        fun hcostless _ => absurd hcosts hcostless⟩
  | event hnamed hcounted _ hhandles =>
      have hstays : s'.stage = s.stage ∧ s'.orders = s.orders := by
        cases hhandles <;> exact ⟨rfl, rfl⟩
      refine hplain (fun hcosts => hcosts.opcode_ne.2 (Frame.opcode_of_dispatched hnamed)) ?_ hstays
      rintro ⟨named, hnamed', hoverflows⟩
      cases hnamed.symm.trans hnamed'
      cases hcounted.symm.trans hoverflows
  | @breakOff named _ hnamed hoverflows hbreaks =>
      have hbroken : s'.stage = .broken := by
        cases hbreaks with
        | off => rfl
        | spare hother => exact absurd hreading hother
      have hover : frame.Overflows s.cache := ⟨named, hnamed, hoverflows⟩
      exact ⟨fun hcosts => absurd hover.opcode hcosts.opcode_ne.2, fun _ => hbroken,
        fun _ hcounted => absurd hover hcounted⟩

end Snapshot

namespace Client

open Course

/-- The item that the loop reads in a move. -/
def read? (c : Client) : Move → Option Item
  | .receive item =>
    match c.stage, c.framePath with
    | .reading, .idle => some item
    | _, _ => none
  | _ => none

def read (c : Client) : List Move → List Item
  | [] => []
  | move :: moves => (c.read? move).toList ++ (c.step move).read moves

/-- Before every step of a history the connection is read, and nothing is asked of the loop. -/
def Reads (c : Client) : List Move → Prop
  | [] => True
  | move :: moves => c.stage = .reading ∧ c.orders = [] ∧ (c.step move).Reads moves

instance decidableReads : (c : Client) → (moves : List Move) → Decidable (c.Reads moves)
  | _, [] => isTrue trivial
  | c, move :: moves =>
    have := decidableReads (c.step move) moves
    inferInstanceAs (Decidable (_ ∧ _ ∧ _))

/-- A move ends the reading of a connection, and says what is left to do. -/
inductive Leaves (c : Client) : Move → Exit → Prop
  | frame {text : String} {frame : Frame} (hidle : c.framePath = .idle)
      (hframe : Frame.ofText text = .ok frame) (hcosts : frame.Costs) :
      Leaves c (.receive (.text text)) (.reconnect 0)
  /-- The answer to a frame cannot be sent. -/
  | unsent {due : Nat} {what : Outgoing} {purpose : Purpose} {error : ClientError}
      (hpath : c.framePath = .sending due what purpose) (hdue : due ≤ c.clock)
      (hpurpose : purpose.writer = .frames) (hwrite : (c.write .frames what).2 = .error error) :
      Leaves c .proceed (.reconnect 0)
  | refused {reason : String} (hidle : c.framePath = .idle) :
      Leaves c (.receive (.close (some ⟨4004, reason⟩))) (.fatal (.authentication reason))
  | forbidden {code : Nat} {reason : String} (hidle : c.framePath = .idle)
      (hcode : 4010 ≤ code ∧ code ≤ 4014) :
      Leaves c (.receive (.close (some ⟨code, reason⟩))) (.fatal (.closed code reason))
  | closed {code : Nat} {reason : String} (hidle : c.framePath = .idle)
      (hcode : code ≠ 4004 ∧ ¬ (4010 ≤ code ∧ code ≤ 4014)) :
      Leaves c (.receive (.close (some ⟨code, reason⟩)))
        (.reconnect c.config.reconnectDelay.toNat)
  | closedSilently (hidle : c.framePath = .idle) :
      Leaves c (.receive (.close none)) (.reconnect c.config.reconnectDelay.toNat)
  /-- The connection fails or ends. -/
  | lost (hidle : c.framePath = .idle) :
      Leaves c (.receive .lost) (.reconnect c.config.reconnectDelay.toNat)

inductive BreaksOff (c : Client) : Move → Prop
  | frame {text : String} {frame : Frame} (hidle : c.framePath = .idle)
      (hframe : Frame.ofText text = .ok frame) (hoverflows : frame.Overflows c.cache) :
      BreaksOff c (.receive (.text text))

/-- A move ends the reading of a connection, which comes to another stage. -/
inductive Quits (c : Client) : Move → Stage → Prop
  | leave {move : Move} {exit : Exit} (hleaves : c.Leaves move exit) :
      Quits c move (.leaving exit)
  | breakOff {move : Move} (hbreaks : c.BreaksOff move) : Quits c move .broken

/-! ### The frames that are taken in -/

/-- A move that ends the reading of a connection does so. -/
theorem Leaves.stage {c : Client} {move : Move} {exit : Exit} (h : c.Leaves move exit)
    (hreading : c.stage = .reading) : (c.step move).stage = .leaving exit := by
  have hreceive (item : Item) (hidle : c.framePath = .idle) {exit : Exit}
      (hexit : item.exit? c.config = some exit) :
      (c.step (.receive item)).stage = .leaving exit := by
    cases item with
    | close | lost =>
        cases hexit
        simp only [step, receive, hreading, hidle]
        rfl
    | _ => cases hexit
  cases h with
  | @frame text frame hidle hframe hcosts =>
      simp only [step, receive, hreading, hidle, hframe]
      exact (Snapshot.stage_takes (takes_take c frame) hreading).1 hcosts
  | @unsent due what purpose error hpath hdue hpurpose hwrite =>
      have hproceed : c.step .proceed = (c.write .frames what).1.sent purpose (.error error) := by
        simp only [step, proceed, hpath, if_pos hdue, hpurpose, hwrite]
      have hsame : (c.write .frames what).1 = c := by
        rcases write_cases c .frames what with ⟨other, hunwritten⟩ | ⟨n, -, hwritten⟩
        · rw [hunwritten]
        · cases (congrArg Prod.snd hwritten).symm.trans hwrite
      have hfinish : (c.finish .reconnect).stage = .leaving (.reconnect 0) :=
        (loses_finish c).stage hreading
      rw [hproceed, hsame]
      cases purpose with
      | handler => cases hpurpose
      | _ => exact hfinish
  | refused hidle => exact hreceive _ hidle rfl
  | forbidden hidle hcode =>
      refine hreceive _ hidle (congrArg some ?_)
      unfold Exit.ofFarewell
      dsimp only
      rw [if_neg (by omega), if_pos hcode]
  | closed hidle hcode =>
      refine hreceive _ hidle (congrArg some ?_)
      unfold Exit.ofFarewell
      dsimp only
      rw [if_neg hcode.1, if_neg hcode.2]
      rfl
  | closedSilently hidle => exact hreceive _ hidle rfl
  | lost hidle => exact hreceive _ hidle rfl

theorem Quits.stage {c : Client} {move : Move} {stage : Stage} (h : c.Quits move stage)
    (hreading : c.stage = .reading) : (c.step move).stage = stage := by
  cases h with
  | leave hleaves => exact hleaves.stage hreading
  | breakOff hbreaks =>
      obtain ⟨hidle, hframe, hoverflows⟩ := hbreaks
      simp only [step, receive, hreading, hidle, hframe]
      exact (Snapshot.stage_takes (takes_take c _) hreading).2.1 hoverflows

end Client

end ChatGateway
