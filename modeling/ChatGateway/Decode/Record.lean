import ChatGateway.Decode.Basic

/-!
Records: values with named fields. A record is read from an object in two passes. The first goes
through the members in the order in which they stand: unknown ones are passed over, known ones
must decode and may occur only once. The second asks for the fields in the order of their
declaration and reports the first one that is missing.

An array is read as a record too, by position. There an optional field has to be present, and only
a field with a default may be missing at the end.
-/

namespace ChatGateway

/-- What the first pass knows of a field. -/
structure Field where
  name : String
  check : Outline → Except DecodeError Unit
  /-- Whether an array may end before the field. -/
  omissible : Bool

structure Record (α : Type) where
  /-- The fields in the order of their declaration. -/
  fields : List Field
  build : (String → Option Outline) → Except DecodeError α

namespace Record

def pure {α : Type} (a : α) : Record α := ⟨[], fun _ => .ok a⟩

def seq {α β : Type} (f : Record (α → β)) (a : Record α) : Record β where
  fields := f.fields ++ a.fields
  build look := do
    let f ← f.build look
    let a ← a.build look
    return f a

instance : Applicative Record where
  pure := Record.pure
  seq f a := Record.seq f (a ())

/-- One field with a decoder for its value and an answer for its absence. -/
def field {α : Type} (name : String) (omissible : Bool) (decode : Decoder α)
    (absent : Except DecodeError α) : Record α where
  fields := [⟨name, fun o => (decode o).map fun _ => (), omissible⟩]
  build look :=
    match look name with
    | some o => decode o
    | none => absent

def required {α : Type} (name : String) (decode : Decoder α) : Record α :=
  field name false decode (.error (.missingField name))

def optional {α : Type} (name : String) (decode : Decoder α) : Record (Option α) :=
  field name false (Decoder.option decode) (.ok none)

/-- A field with a default; `null` is not the default. -/
def defaulted {α : Type} (name : String) (decode : Decoder α) (default : α) : Record α :=
  field name true decode (.ok default)

/-- An optional field that an array may leave out. -/
def omissible {α : Type} (name : String) (decode : Decoder α) : Record (Option α) :=
  field name true (Decoder.option decode) (.ok none)

/-- The first pass over the members of an object; `seen` holds the names met so far. -/
def checkMembers (fields : List Field) (seen : List String) :
    List (Except Flaw String × Outline) → Except DecodeError Unit
  | [] => .ok ()
  | (name, content) :: rest => do
    let name ← Decoder.lift name
    match fields.find? fun field => field.name == name with
    | none =>
      Decoder.lift content.skip
      checkMembers fields seen rest
    | some field =>
      if seen.contains name then .error (.duplicateField name)
      else
        field.check content
        checkMembers fields (name :: seen) rest

/-- The first pass over an array; `index` counts the items met so far. -/
def checkItems (wanted : String) (count index : Nat) (ending : Option Flaw) :
    List Field → List Outline → Except DecodeError Unit
  | [], [] => Decoder.lift (Outline.close ending)
  | [], _ :: rest => .error (.tooLong (index + 1 + rest.length) count)
  | field :: fields, item :: rest => do
    field.check item
    checkItems wanted count (index + 1) ending fields rest
  | field :: fields, [] => do
    Decoder.lift (Outline.close ending)
    if field.omissible then checkItems wanted count (index + 1) ending fields []
    else .error (.tooShort index wanted count)

def memberNamed (members : List (Except Flaw String × Outline)) (name : String) : Option Outline :=
  (members.find? fun member => member.1.toOption == some name).map (·.2)

def itemNamed (fields : List Field) (items : List Outline) (name : String) : Option Outline :=
  ((fields.zip items).find? fun pair => pair.1.name == name).map (·.2)

/-- Reads a record from an object or an array. -/
def decode {α : Type} (title : String) (record : Record α) : Decoder α
  | .object members ending => do
    checkMembers record.fields [] members
    Decoder.lift (Outline.close ending)
    record.build (memberNamed members)
  | .array items ending => do
    checkItems ("struct " ++ title) record.fields.length 0 ending record.fields items
    record.build (itemNamed record.fields items)
  | o => Decoder.mismatch ("struct " ++ title) o

@[simp] theorem fields_pure {α : Type} (a : α) : (Pure.pure a : Record α).fields = [] := rfl

@[simp] theorem fields_seq {α β : Type} (f : Record (α → β)) (a : Record α) :
    (f <*> a).fields = f.fields ++ a.fields := rfl

@[simp] theorem fields_map {α β : Type} (f : α → β) (a : Record α) :
    (f <$> a).fields = a.fields := rfl

end Record

end ChatGateway
