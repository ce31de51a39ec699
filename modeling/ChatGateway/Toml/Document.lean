import ChatGateway.Toml.Reserved

/-!
Reading a configuration document: lines with a key and a value, headers of tables and of elements of
arrays of tables, blank lines and comments. Any fault makes the whole document unreadable, and so do
keys of too many parts and values that are nested too deep.
-/

namespace ChatGateway.Toml

def isBareKeyChar (c : Char) : Bool := c.isAlphanum || c = '_' || c = '-'

def simpleKey? (cs : List Char) : Option (String × List Char) :=
  match cs with
  | '"' :: rest => (basicString rest.length rest).map fun r => (String.ofList r.1, r.2)
  | '\'' :: rest => (literalString rest).map fun r => (String.ofList r.1, r.2)
  | _ =>
    let (key, rest) := cs.span isBareKeyChar
    if key = [] then none else some (String.ofList key, rest)

/-- The parts of a key, which are separated by dots, and the rest after blanks. -/
def parts? : Nat → List Char → Option (List String × List Char)
  | 0, _ => none
  | fuel + 1, cs => do
    let (part, rest) ← simpleKey? (dropSpaces cs)
    match dropSpaces rest with
    | '.' :: rest =>
      let (parts, rest) ← parts? fuel rest
      return (part :: parts, rest)
    | rest => return ([part], rest)

/-- How many parts a key may have, and how deep arrays and tables in braces may be nested. -/
def depthLimit : Nat := 79

/-- A key, and the rest after blanks. -/
def key? (cs : List Char) : Option (List String × List Char) :=
  (parts? cs.length cs).filter fun key => key.1.length ≤ depthLimit

/-- Drops a comment up to the end of its line. -/
def dropComment (cs : List Char) : List Char :=
  match cs with
  | '#' :: rest => rest.dropWhile isText
  | _ => cs

def dropTrivia : Nat → List Char → List Char
  | 0, cs => cs
  | fuel + 1, cs =>
    match lineBreak? (dropComment (dropSpaces cs)) with
    | some rest => dropTrivia fuel rest
    | none => dropComment (dropSpaces cs)

mutual

def value? : Nat → Nat → List Char → Option (Toml × List Char)
  | 0, _, _ => none
  | fuel + 1, depth, cs =>
    match cs, depth with
    | [], _ => none
    | '[' :: _, 0 => none
    | '\x7b' :: _, 0 => none
    | '[' :: rest, depth + 1 => do
      let (items, rest) ← items? fuel depth (dropTrivia rest.length rest)
      return (.array items, rest)
    | '\x7b' :: rest, depth + 1 =>
      match dropSpaces rest with
      | '\x7d' :: rest => some (.inlineTable [], rest)
      | rest => do
        let (entries, rest) ← entries? fuel depth [] rest
        return (.inlineTable entries, rest)
    | c :: _, _ =>
      if c = '"' ∨ c = '\'' then (string? cs).map fun r => (.string r.1, r.2)
      else do
        let (chars, rest) := word cs
        let value ← ofWord? chars
        return (value, rest)

/-- The items of an array up to its end. A comma may stand after the last one. -/
def items? : Nat → Nat → List Char → Option (List Toml × List Char)
  | 0, _, _ => none
  | _ + 1, _, ']' :: rest => some ([], rest)
  | fuel + 1, depth, cs => do
    let (item, rest) ← value? fuel depth cs
    match dropTrivia rest.length rest with
    | ',' :: rest =>
      let (items, rest) ← items? fuel depth (dropTrivia rest.length rest)
      return (item :: items, rest)
    | ']' :: rest => return ([item], rest)
    | _ => none

def entries? : Nat → Nat → Entries → List Char → Option (Entries × List Char)
  | 0, _, _, _ => none
  | fuel + 1, depth, entries, cs => do
    let (keys, rest) ← key? cs
    let rest ← expect? '=' rest
    let (value, rest) ← value? fuel depth (dropSpaces rest)
    let entries ← addValue keys value entries
    match dropSpaces rest with
    | ',' :: rest => entries? fuel depth entries rest
    | '\x7d' :: rest => return (entries, rest)
    | _ => none

end

/-- A document that is being read: its entries, and the path of the table that lines belong to. -/
structure Draft where
  root : Entries
  path : List String

/-- Adds a value to the table that lines belong to. -/
def Draft.add (draft : Draft) (keys : List String) (value : Toml) : Option Draft := do
  let root ← descend false (fun _ inner => addValue keys value inner) draft.path false draft.root
  return { draft with root }

/-- What must follow on a line: nothing but blanks and a comment. Answers the next lines. -/
def lineEnd? (cs : List Char) : Option (List Char) :=
  match dropComment (dropSpaces cs) with
  | [] => some []
  | rest => lineBreak? rest

/-- One line that is not blank. -/
def line? (draft : Draft) (cs : List Char) : Option (Draft × List Char) :=
  match cs with
  | '[' :: '[' :: rest => do
    let (keys, rest) ← key? rest
    let rest ← expect? ']' rest
    let rest ← expect? ']' rest
    let root ← openElement keys draft.root
    return (⟨root, keys⟩, rest)
  | '[' :: rest => do
    let (keys, rest) ← key? rest
    let rest ← expect? ']' rest
    let root ← openTable keys draft.root
    return (⟨root, keys⟩, rest)
  | _ => do
    let (keys, rest) ← key? cs
    let rest ← expect? '=' rest
    let (value, rest) ← value? (cs.length + 1) depthLimit (dropSpaces rest)
    let draft ← draft.add keys value
    return (draft, rest)

/-- Lines to the end of the document. -/
def lines? : Nat → Draft → List Char → Option Entries
  | fuel + 1, draft, cs =>
    match dropTrivia cs.length cs with
    | [] => some draft.root
    | rest => do
      let (draft, rest) ← line? draft rest
      let rest ← lineEnd? rest
      lines? fuel draft rest
  | 0, _, _ => none

/-- The entries of a document at its top. A byte order mark at its start does not count. -/
def read? (text : String) : Option Entries :=
  let cs := text.toList
  let cs := match cs with
    | '\ufeff' :: rest => rest
    | _ => cs
  match (lines? (cs.length + 1) ⟨[], []⟩ cs).bind resolveTable? with
  | some (.inlineTable entries) => some entries
  | _ => none

end ChatGateway.Toml
