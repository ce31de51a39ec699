import ChatGateway.Proofs.Decode.Inverses
import ChatGateway.Proofs.Json.Printed
import ChatGateway.Protocol.Frame

/-!
Frames that are sent, as their receiver reads them. The data of every command are legible: their
numbers are machine words and they are nested four deep at most. So the text of a frame is read
back as the object that was printed, and from it the op code and the data, which the type of the
command reads as the command. Since a text says all this of a frame, it is the text of one command
only (`Command.outbound_read_back`).
-/

namespace ChatGateway

open Json (Legible Arrangement)
open Record (Spells)

/-! ### Data are legible -/

namespace Json

variable {depth : Nat}

theorem Legible.nat {n : Nat} (h : n < UInt64.size) : Legible depth (.ofNat n) :=
  .int (by omega) (Int.ofNat_lt.2 h)

theorem Legible.i64 (n : Int64) : Legible depth (.int n.toInt) := by
  have hlow := n.minValue_le_toInt
  have hhigh := n.toInt_le
  rw [Int64.toInt_minValue] at hlow
  rw [Int64.toInt_maxValue] at hhigh
  exact .int hlow (by omega)

theorem Legible.option {α : Type} {encode : α → Json} (h : ∀ a, Legible depth (encode a))
    (a : Option α) : Legible depth (.ofOption encode a) := by
  cases a with
  | none => exact .null
  | some a => exact h a

end Json

theorem Activity.legible (a : Activity) : Legible 4 a.toJson := by
  obtain ⟨name, kind, url⟩ := a
  have hkind : Legible 5 kind.toJson := .nat (by cases kind <;> decide)
  refine .object (by decide) ?_
  cases url with
  | none => exact List.forall_mem_cons.2 ⟨.string _, List.forall_mem_singleton.2 hkind⟩
  | some url =>
      exact List.forall_mem_cons.2 ⟨.string _, List.forall_mem_cons.2
        ⟨hkind, List.forall_mem_singleton.2 (.string _)⟩⟩

namespace Command

theorem legible_data (command : Command) : Legible 2 command.data := by
  cases command with
  | heartbeat sequence => exact Legible.option Legible.i64 sequence
  | identify who =>
      have hproperties : Legible 3 who.properties.toJson := by
        refine .object (by decide) ?_
        simp only [List.forall_mem_cons]
        exact ⟨.string _, .string _, .string _, List.forall_mem_nil _⟩
      have hthreshold : who.largeThreshold.toNat < UInt64.size :=
        Nat.lt_trans who.largeThreshold.toNat_lt (by decide)
      refine .object (by decide) ?_
      simp only [List.forall_mem_cons]
      exact ⟨.string _, .nat who.intents.toNat_lt, hproperties, .bool _, .nat hthreshold,
        List.forall_mem_nil _⟩
  | presence shown =>
      have hactivities : Legible 3 (.ofList Activity.toJson shown.activities) :=
        .array (by decide) (List.forall_mem_map.2 fun a _ => a.legible)
      refine .object (by decide) ?_
      simp only [List.forall_mem_cons]
      exact ⟨.option (fun n => .nat n.toNat_lt) _, hactivities, .string _, .bool _,
        List.forall_mem_nil _⟩
  | resume position =>
      refine .object (by decide) ?_
      simp only [List.forall_mem_cons]
      exact ⟨.string _, .string _, .option .i64 _, List.forall_mem_nil _⟩

/-- Data decode as those of a command, with the type of the command. -/
def ReadFrom (data : Json) : Command → Prop
  | .heartbeat sequence => Decoder.ofValue decodeSequence data = .ok sequence
  | .identify who => Decoder.ofValue Identify.decode data = .ok who
  | .presence shown => Decoder.ofValue Presence.decode data = .ok shown
  | .resume position => Decoder.ofValue Resume.decode data = .ok position

theorem readFrom_arrange (arrange : Arrangement) (command : Command) :
    command.ReadFrom (arrange command.data) := by
  cases command with
  | heartbeat sequence => exact Decoder.inverts_i64.option sequence
  | identify who => exact Identify.inverts.reads who
  | presence shown => exact Presence.inverts.reads shown
  | resume position => exact Resume.inverts.reads position

end Command

/-! ### Texts of frames -/

/-- A text is decoded as the value that it was printed from. -/
theorem Decoder.ofText_render {α : Type} (decode : Decoder α) {value : Json}
    (h : Legible 1 value) : Decoder.ofText decode value.render = Decoder.ofValue decode value := by
  rw [ofText, Json.read_render h, ofValue]
  cases decode (.ofJson value) <;> rfl

/-- What is printed for a frame. -/
theorem legible_outbound {data : Json} (h : Legible 2 data) (op : Opcode) :
    Legible 1 (.object [("op", op.toJson), ("d", data)]) := by
  have hop : Legible 2 op.toJson := .nat (by cases op <;> decide)
  refine .object (by decide) ?_
  exact List.forall_mem_cons.2 ⟨hop, List.forall_mem_singleton.2 h⟩

/-- A frame that is sent is received with its op code and its data, and is no event. -/
theorem Frame.ofText_outboundText {data : Json} (h : Legible 2 data) (op : Opcode) :
    Frame.ofText (outboundText op data)
      = .ok { op := .ofNat op.toNat, data := data.sorted } := by
  have hop : Decoder.u8 (.ofJson (Arrangement.asWritten op.toJson)) = .ok (.ofNat op.toNat) := by
    cases op <;> rfl
  have hdata : Decoder.value (.ofJson (Arrangement.asWritten data)) = .ok data.sorted :=
    congrArg Decoder.lift (Json.value_ofJson data)
  have hdecode : Frame.decode (.ofJson (Arrangement.asWritten (.object [("op", op.toJson),
      ("d", data)]))) = .ok { op := .ofNat op.toNat, data := data.sorted } :=
    Record.decode_of_spells (by decide)
      (Spells.map (.field hop) |>.seq (.field hdata) |>.seq .absent |>.seq .absent)
  exact (Decoder.ofText_render Frame.decode (legible_outbound h op)).trans hdecode

/-- The text of a frame tells its op code and its data. -/
theorem of_outboundText_eq {op op' : Opcode} {data data' : Json} (h : Legible 2 data)
    (h' : Legible 2 data') (heq : outboundText op data = outboundText op' data') :
    op = op' ∧ Outline.ofJson data = Outline.ofJson data' := by
  have hread := congrArg Document.read heq
  rw [outboundText, outboundText, Json.read_render (legible_outbound h op),
    Json.read_render (legible_outbound h' op')] at hread
  obtain ⟨hop, hdata⟩ : Outline.ofJson op.toJson = Outline.ofJson op'.toJson ∧
      Outline.ofJson data = Outline.ofJson data' := by
    simpa [Outline.ofJson, Outline.ofMembers] using hread
  have hdecode : ∀ op : Opcode,
      Opcode.decode (.ofJson (Arrangement.asWritten op.toJson)) = .ok op := Opcode.inverts.reads
  have hsame := (hdecode op).symm.trans ((congrArg Opcode.decode hop).trans (hdecode op'))
  exact ⟨Except.ok.inj hsame, hdata⟩

namespace Command

/-- Commands whose data look the same are the same. -/
theorem eq_of_ofJson_data {command other : Command}
    (h : Outline.ofJson command.data = Outline.ofJson other.data) : command = other := by
  have hread := readFrom_arrange .asWritten command
  have hother := readFrom_arrange .asWritten other
  have hboth : ∀ {α : Type} {decode : Decoder α} {a : α},
      Decoder.ofValue decode other.data = .ok a → Decoder.ofValue decode command.data = .ok a :=
    fun ha => (congrArg _ h).trans ha
  cases command <;> cases other
  -- one type reads the same from both
  case heartbeat.heartbeat | identify.identify | presence.presence | resume.resume =>
    cases hread.symm.trans (hboth hother)
    rfl
  -- a sequence number is no object, and no two of the objects have members of the same names
  case heartbeat.identify sequence _ | heartbeat.presence sequence _ |
      heartbeat.resume sequence _ => cases sequence <;> cases h
  case identify.heartbeat sequence | presence.heartbeat sequence | resume.heartbeat sequence =>
    cases sequence <;> cases h
  all_goals
    simp [data, Identify.toJson, Presence.toJson, Resume.toJson, Outline.ofJson,
      Outline.ofMembers] at h

/-- Whatever op code a command is sent with, the text of the frame is read back as a frame with that
op code, without a sequence number or the name of an event, and its data decode as the command. So
two commands, or one under two op codes, never have the same text. -/
theorem outbound_read_back (op : Opcode) (command : Command) :
    (∃ frame, Frame.ofText (outboundText op command.data) = .ok frame ∧
      frame.opcode? = some op ∧ frame.sequence = none ∧ frame.event = none ∧
      command.ReadFrom frame.data) ∧
    ∀ op' other, outboundText op command.data = outboundText op' other.data ↔
      op = op' ∧ command = other := by
  refine ⟨⟨_, Frame.ofText_outboundText command.legible_data op, ?_, rfl, rfl,
    command.readFrom_arrange .byName⟩, fun op' other => ⟨fun heq => ?_, ?_⟩⟩
  · cases op <;> rfl
  · obtain ⟨hop, hdata⟩ := of_outboundText_eq command.legible_data other.legible_data heq
    exact ⟨hop, eq_of_ofJson_data hdata⟩
  · rintro ⟨rfl, rfl⟩
    rfl

end Command

end ChatGateway
