/-!
Which texts name a place that a connection can be opened to. A scheme is optional; what follows it
up to the first slash, question mark or number sign must name a host, and what follows that may hold
only characters that need no escape.
-/

namespace ChatGateway.Location

/-- The characters that a host, with a number after it and a user before it, may hold. -/
def isHostChar (c : Char) : Bool :=
  c.isAlphanum || "!$&'()*+,-.:;=@[]_~".toList.contains c

def isSchemeChar (c : Char) : Bool := c.isAlphanum || c = '+' || c = '-' || c = '.' || c = '~'

def schemeLimit : Nat := 64

/-- Takes the scheme off: whether there is one, and the rest. A scheme that is too long is refused.
-/
def scheme? (cs : List Char) : Option (Bool × List Char) :=
  let (scheme, rest) := cs.span isSchemeChar
  match rest with
  | ':' :: '/' :: '/' :: rest =>
    if cs.length ≤ 3 then some (false, cs)
    else if schemeLimit < scheme.length then none
    else some (true, rest)
  | _ => some (false, cs)

/-- What has been seen of a host. -/
structure Host where
  colons : Nat := 0
  bracketOpened : Bool := false
  bracketClosed : Bool := false
  /-- There is an escape, which only a user may hold. -/
  escaped : Bool := false
  /-- The last character ends a user. -/
  afterUser : Bool := false

namespace Host

/-- Goes on by a character. -/
def next? (host : Host) (c : Char) : Option Host :=
  let host := { host with afterUser := false }
  match c with
  | ':' => if 8 ≤ host.colons then none else some { host with colons := host.colons + 1 }
  | '[' =>
    if host.escaped || host.bracketOpened then none else some { host with bracketOpened := true }
  | ']' =>
    if !host.bracketOpened || host.bracketClosed then none
    else some { host with bracketClosed := true, colons := 0, escaped := false }
  | '@' => some { host with colons := 0, escaped := false, afterUser := true }
  | '%' => some { host with escaped := true }
  | c => if isHostChar c then some host else none

def complete (host : Host) : Bool :=
  host.bracketOpened == host.bracketClosed && host.colons ≤ 1 && !host.afterUser && !host.escaped

end Host

def endsHost (c : Char) : Bool := c = '/' || c = '?' || c = '#'

/-- Takes the host off: whether it has any character, and the rest. -/
def host? (cs : List Char) : Option (Bool × List Char) :=
  let (host, rest) := cs.span fun c => !endsHost c
  match host.foldlM Host.next? {} with
  | some seen => if seen.complete then some (!host.isEmpty, rest) else none
  | none => none

def isControl (c : Char) : Bool := c.toNat < 0x20 || c = '\x7f'

def isPathChar (c : Char) : Bool :=
  !isControl c && !([' ', '#', '<', '>', '?', '\x60'].contains c)

def isQueryChar (c : Char) : Bool := !isControl c && !([' ', '"', '#', '<', '>'].contains c)

/-- Whether what follows the host is sound. What follows a number sign does not matter. -/
def soundRoute (cs : List Char) : Bool :=
  let (path, query) := (cs.takeWhile (· ≠ '#')).span (· ≠ '?')
  path.all isPathChar && (query.drop 1).all isQueryChar

/-- The longest location, in bytes. -/
def lengthLimit : Nat := 65534

/-- Whether a text names a place with a host. -/
def isValid (text : String) : Bool :=
  text.utf8ByteSize ≤ lengthLimit && text ≠ "*" &&
    match scheme? text.toList with
    | none => false
    | some (hasScheme, rest) =>
      match host? rest with
      | none => false
      | some (hasHost, rest) => hasHost && (rest.isEmpty || hasScheme && soundRoute rest)

example : isValid "ws://gateway.example/?v=10" ∧ ¬isValid "ws://" ∧ ¬isValid "ws://x/ y" := by
  decide +kernel

end ChatGateway.Location
