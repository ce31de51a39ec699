import ChatGateway.Json.Value

/-!
A JSON text as far as it can be read. Decoding a text stops at the first thing that is wrong, be it
the text or the type, so a text is read into an outline first: everything up to the place where
reading must stop, with the flaw that stands there. Walking an outline in order meets the errors
in the order in which they stand in the text.

Reading a value and passing over it do not object to the same things: a lone surrogate escape, a
number beyond the range of doubles and nesting that is too deep matter only to a reader who wants
the value.
-/

namespace ChatGateway

/-- What is wrong where reading a text stops: the text ends too early, or it is ill-formed. -/
inductive Flaw where
  | unfinished
  | malformed
  deriving DecidableEq, Repr

inductive Outline where
  | null
  | bool (b : Bool)
  | int (n : Int)
  | float (x : Float)
  | string (s : String)
  /-- Items in order, and the flaw at which the array stops short. -/
  | array (items : List Outline) (ending : Option Flaw)
  /-- Members in order, whose names may be unreadable, and the flaw at which the object stops. -/
  | object (members : List (Except Flaw String × Outline)) (ending : Option Flaw)
  /-- Can be passed over, but has no value. -/
  | unreadable
  /-- The text stops being JSON here, with a flaw for its reader and one for who passes over it. -/
  | broken (read skipped : Flaw)
  deriving Inhabited

namespace Outline

mutual

/-- The outline of a value. -/
def ofJson : Json → Outline
  | .null => .null
  | .bool b => .bool b
  | .int n => .int n
  | .float x => .float x
  | .string s => .string s
  | .array items => .array (ofItems items) none
  | .object members => .object (ofMembers members) none

def ofItems : List Json → List Outline
  | [] => []
  | item :: rest => ofJson item :: ofItems rest

def ofMembers : List (String × Json) → List (Except Flaw String × Outline)
  | [] => []
  | (name, value) :: rest => (.ok name, ofJson value) :: ofMembers rest

end

/-- The end of a container: nothing, or its flaw. -/
def close : Option Flaw → Except Flaw Unit
  | none => .ok ()
  | some flaw => .error flaw

mutual

def value : Outline → Except Flaw Json
  | .null => .ok .null
  | .bool b => .ok (.bool b)
  | .int n => .ok (.int n)
  | .float x => .ok (.float x)
  | .string s => .ok (.string s)
  | .array items ending => do
    let items ← values items
    close ending
    return .array items
  | .object members ending => do
    let members ← memberValues members
    close ending
    return .ofMembers members
  | .unreadable => .error .malformed
  | .broken read _ => .error read

def values : List Outline → Except Flaw (List Json)
  | [] => .ok []
  | item :: rest => do
    let item ← value item
    let rest ← values rest
    return item :: rest

def memberValues : List (Except Flaw String × Outline) → Except Flaw (List (String × Json))
  | [] => .ok []
  | (name, item) :: rest => do
    let name ← name
    let item ← value item
    let rest ← memberValues rest
    return (name, item) :: rest

end

mutual

/-- The first flaw met when an outline is passed over. -/
def skip : Outline → Except Flaw Unit
  | .array items ending => do
    skipItems items
    close ending
  | .object members ending => do
    skipMembers members
    close ending
  | .broken _ skipped => .error skipped
  | _ => .ok ()

def skipItems : List Outline → Except Flaw Unit
  | [] => .ok ()
  | item :: rest => do
    skip item
    skipItems rest

def skipMembers : List (Except Flaw String × Outline) → Except Flaw Unit
  | [] => .ok ()
  | (_, item) :: rest => do
    skip item
    skipMembers rest

end

end Outline

end ChatGateway
