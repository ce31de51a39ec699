/-!
Values of a configuration document. Tables remember how they came about, because that decides
whether later lines of the document may add to them.
-/

namespace ChatGateway

inductive Toml where
  | string (s : String)
  | integer (n : Int)
  | float (x : Float)
  | boolean (b : Bool)
  /-- A date, a time or both, in their normal notation. -/
  | moment (text : String)
  | array (items : List Toml)
  /-- A table written in braces, which nothing can be added to. -/
  | inlineTable (entries : List (String × Toml))
  /-- A table; an implicit one was only named on the way to another, a dotted one by a dotted
  key. -/
  | table (isImplicit dotted : Bool) (entries : List (String × Toml))
  /-- The tables of an array in order. -/
  | tables (elements : List (List (String × Toml)))
  deriving Inhabited

namespace Toml

abbrev Entries := List (String × Toml)

def lookup (key : String) (entries : Entries) : Option Toml :=
  (entries.find? fun entry => entry.1 == key).map (·.2)

def replace (key : String) (value : Toml) (entries : Entries) : Entries :=
  entries.map fun entry => if entry.1 == key then (key, value) else entry

/-- Goes down a path of tables, making those that are missing, and changes the entries at its end.
On the way `dotted` tells whether the path is a dotted key, which may not enter a table that has a
header of its own; the change is told whether it happens in a table of a dotted key. -/
def descend (dotted : Bool) (change : Bool → Entries → Option Entries) :
    List String → Bool → Entries → Option Entries
  | [], inDotted, entries => change inDotted entries
  | key :: path, _, entries =>
    match lookup key entries with
    | none => do
      let inner ← descend dotted change path dotted []
      return entries ++ [(key, .table true dotted inner)]
    | some (.table isImplicit isDotted inner) =>
      if dotted && !isImplicit then none
      else do
        let inner ← descend dotted change path isDotted inner
        return replace key (.table isImplicit isDotted inner) entries
    | some (.tables elements) => do
      let last ← elements.getLast?
      let last ← descend dotted change path false last
      return replace key (.tables (elements.dropLast ++ [last])) entries
    | some _ => none

/-- Adds a value under a key, which must be new. -/
def addNew (key : String) (value : Toml) (entries : Entries) : Option Entries :=
  if (lookup key entries).isSome then none else some (entries ++ [(key, value)])

/-- Adds a value under a dotted key. Tables of headers and tables of dotted keys do not mix. -/
def addValue (keys : List String) (value : Toml) (entries : Entries) : Option Entries := do
  let last ← keys.getLast?
  let path := keys.dropLast
  descend true
    (fun inDotted inner => if inDotted == path.isEmpty then none else addNew last value inner)
    path false entries

/-- Opens the table of a header. It must be new, or have been named only on the way to others; it
takes its place after the tables there are. -/
def openTable (keys : List String) (entries : Entries) : Option Entries := do
  let last ← keys.getLast?
  descend false
    (fun _ inner => match lookup last inner with
      | none => some (inner ++ [(last, .table false false [])])
      | some (.table true false content) =>
        some (inner.filter (fun entry => entry.1 != last) ++ [(last, .table false false content)])
      | some _ => none)
    keys.dropLast false entries

/-- Opens the next table of an array. -/
def openElement (keys : List String) (entries : Entries) : Option Entries := do
  let last ← keys.getLast?
  descend false
    (fun _ inner => match lookup last inner with
      | none => some (inner ++ [(last, .tables [[]])])
      | some (.tables elements) => some (replace last (.tables (elements ++ [[]])) inner)
      | some _ => none)
    keys.dropLast false entries

end Toml

end ChatGateway
