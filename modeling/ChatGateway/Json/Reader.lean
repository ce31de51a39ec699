import ChatGateway.Json.Number
import ChatGateway.Json.QuotedText

/-!
Reading a JSON text into its outline. Containers may be nested 127 deep; a deeper one has no value
but can be passed over.
-/

namespace ChatGateway

/-- A text that was read: the outline of its value, and whether more than blanks follow it. -/
structure Document where
  outline : Outline
  trailing : Bool

namespace Json.Reader

/-- The greatest depth of nested containers. -/
def depthLimit : Nat := 127

def isBlank (c : Char) : Bool := c = ' ' || c = '\n' || c = '\t' || c = '\r'

def dropBlanks (cs : List Char) : List Char := cs.dropWhile isBlank

/-- An outline that ends the reading. -/
def stop (flaw : Flaw) : Outline × Option (List Char) := (.broken flaw flaw, none)

def word (outline : Outline) : List Char → List Char → Outline × Option (List Char)
  | [], cs => (outline, some cs)
  | _ :: _, [] => stop .unfinished
  | w :: ws, c :: cs => if c = w then word outline ws cs else stop .malformed

/-- A container at a depth; beyond the limit it has no value. -/
def limit (depth : Nat) : Outline × Option (List Char) → Outline × Option (List Char)
  | (outline, rest) =>
    if depth ≤ depthLimit then (outline, rest)
    else match outline.skip with
      | .ok () => (.unreadable, rest)
      | .error flaw => (.broken .malformed flaw, rest)

mutual

/-- A value, with `depth` the depth of a container that starts here. -/
def value : Nat → Nat → List Char → Outline × Option (List Char)
  | 0, _, _ => stop .malformed
  | fuel + 1, depth, cs =>
    match dropBlanks cs with
    | [] => stop .unfinished
    | 'n' :: rest => word .null ['u', 'l', 'l'] rest
    | 't' :: rest => word (.bool true) ['r', 'u', 'e'] rest
    | 'f' :: rest => word (.bool false) ['a', 'l', 's', 'e'] rest
    | '-' :: rest => Number.magnitude true rest
    | '"' :: rest =>
      match QuotedText.read rest with
      | .closed (some s) rest => (.string s, some rest)
      | .closed none rest => (.unreadable, some rest)
      | .cut read skipped => (.broken read skipped, none)
    | '[' :: rest =>
      match dropBlanks rest with
      | ']' :: rest => limit depth (.array [] none, some rest)
      | [] => limit depth (.array [] (some .unfinished), none)
      | rest =>
        let (content, ending, rest) := items fuel (depth + 1) rest
        limit depth (.array content ending, rest)
    | '\x7b' :: rest =>
      match dropBlanks rest with
      | '\x7d' :: rest => limit depth (.object [] none, some rest)
      | [] => limit depth (.object [] (some .unfinished), none)
      | rest =>
        let (content, ending, rest) := members fuel (depth + 1) rest
        limit depth (.object content ending, rest)
    | c :: rest => if c.isDigit then Number.magnitude false (c :: rest) else stop .malformed

def items : Nat → Nat → List Char → List Outline × Option Flaw × Option (List Char)
  | 0, _, _ => ([], some .malformed, none)
  | fuel + 1, depth, cs =>
    match value fuel depth cs with
    | (item, none) => ([item], none, none)
    | (item, some rest) =>
      match dropBlanks rest with
      | ',' :: rest =>
        let (more, ending, rest) := items fuel depth rest
        (item :: more, ending, rest)
      | ']' :: rest => ([item], none, some rest)
      | [] => ([item], some .unfinished, none)
      | _ => ([item], some .malformed, none)

def members : Nat → Nat → List Char →
    List (Except Flaw String × Outline) × Option Flaw × Option (List Char)
  | 0, _, _ => ([], some .malformed, none)
  | fuel + 1, depth, cs =>
    match dropBlanks cs with
    | '"' :: rest =>
      match QuotedText.read rest with
      | .cut read skipped => ([(.error read, .broken read skipped)], none, none)
      | .closed text rest =>
        let name : Except Flaw String := match text with
          | some s => .ok s
          | none => .error .malformed
        match dropBlanks rest with
        | ':' :: rest =>
          match value fuel depth rest with
          | (item, none) => ([(name, item)], none, none)
          | (item, some rest) =>
            match dropBlanks rest with
            | ',' :: rest =>
              let (more, ending, rest) := members fuel depth rest
              ((name, item) :: more, ending, rest)
            | '\x7d' :: rest => ([(name, item)], none, some rest)
            | [] => ([(name, item)], some .unfinished, none)
            | _ => ([(name, item)], some .malformed, none)
        | [] => ([(name, .broken .unfinished .unfinished)], none, none)
        | _ => ([(name, .broken .malformed .malformed)], none, none)
    | [] => ([], some .unfinished, none)
    | _ => ([], some .malformed, none)

end

end Json.Reader

/-- Reads a text. Every step of the reading that consumes nothing is followed by one that
consumes a character, so twice the length is fuel enough. -/
def Document.read (text : String) : Document :=
  let cs := text.toList
  let (outline, rest) := Json.Reader.value (2 * cs.length + 2) 1 cs
  ⟨outline, !(Json.Reader.dropBlanks (rest.getD [])).isEmpty⟩

/-- The value that a text spells. -/
def Json.ofText? (text : String) : Except Flaw Json := do
  let document := Document.read text
  let value ← document.outline.value
  if document.trailing then .error .malformed else .ok value

end ChatGateway
