import ChatGateway.Text.Decimal

/-!
JSON values. Whole numbers and numbers written with a point or an exponent are kept apart. The
members of an object stand in a list; `Json.ofMembers` builds the canonical object, sorted by name
in code point order, in which of several members of one name the last one counts.
-/

namespace ChatGateway

inductive Json where
  | null
  | bool (b : Bool)
  | int (n : Int)
  | float (x : Float)
  | string (s : String)
  | array (items : List Json)
  | object (members : List (String × Json))
  deriving Inhabited, Repr

namespace Json

/-- Puts a member at its place in a list sorted by name, replacing one of the same name. -/
def insertMember (name : String) (value : Json) : List (String × Json) → List (String × Json)
  | [] => [(name, value)]
  | (other, old) :: rest =>
    match compare name other with
    | .lt => (name, value) :: (other, old) :: rest
    | .eq => (name, value) :: rest
    | .gt => (other, old) :: insertMember name value rest

def ofMembers (members : List (String × Json)) : Json :=
  .object (members.foldl (fun sorted member => insertMember member.1 member.2 sorted) [])

def get? (name : String) : Json → Option Json
  | .object members => (members.find? fun member => member.1 == name).map (·.2)
  | _ => none

def string? : Json → Option String
  | .string s => some s
  | _ => none

def bool? : Json → Option Bool
  | .bool b => some b
  | _ => none

/-- The value of an optional part, `null` when it is absent. -/
def ofOption {α : Type} (encode : α → Json) : Option α → Json
  | none => .null
  | some a => encode a

def ofList {α : Type} (encode : α → Json) (items : List α) : Json :=
  .array (items.map encode)

def ofNat (n : Nat) : Json := .int n

@[simp] theorem ofOption_none {α : Type} (encode : α → Json) : ofOption encode none = .null := rfl

@[simp] theorem ofOption_some {α : Type} (encode : α → Json) (a : α) :
    ofOption encode (some a) = encode a := rfl

end Json

end ChatGateway
