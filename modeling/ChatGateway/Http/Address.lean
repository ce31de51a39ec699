import ChatGateway.Text.Blank

/-!
Addresses of routes. A route is joined to the base of the interface; what is sent is the normal
form of the address: blanks around it and line breaks inside it are dropped, backslashes in the
path are slashes, segments of dots are resolved, and characters that may not stand in an address
are written as bytes in percent notation.
-/

namespace ChatGateway.Address

def base : String := "https://discord.com/api/v10/"

/-- A route at the base, with its leading slashes dropped. -/
def join (route : String) : String :=
  base ++ String.ofList (route.toList.dropWhile (· = '/'))

def percent (b : UInt8) : List Char :=
  ['%', (Nat.digitChar (b.toNat / 16)).toUpper, (Nat.digitChar (b.toNat % 16)).toUpper]

/-- Writes a character as it is, or by its bytes if it is in a set or outside visible ASCII. -/
def encode (reserved : List Char) (c : Char) : List Char :=
  if c.toNat ≤ 0x20 ∨ 0x7F ≤ c.toNat ∨ c ∈ reserved then (String.utf8EncodeChar c).flatMap percent
  else [c]

def pathReserved : List Char := ['"', '#', '<', '>', '?', '\x60', '\x7b', '\x7d']

def queryReserved : List Char := ['"', '#', '<', '>', '\'']

def fragmentReserved : List Char := ['"', '<', '>', '\x60']

def segments : List Char → List (List Char)
  | [] => [[]]
  | c :: rest =>
    if c = '/' ∨ c = '\\' then [] :: segments rest
    else match segments rest with
      | first :: more => (c :: first) :: more
      | [] => [[c]]

/-- A segment with escaped dots written as dots. -/
def dots : List Char → List Char
  | '%' :: '2' :: e :: rest =>
    if e = 'e' ∨ e = 'E' then '.' :: dots rest else '%' :: '2' :: e :: rest
  | '.' :: rest => '.' :: dots rest
  | cs => cs

/-- Whether a segment reads as the name of a drive. -/
def isDrive (segment : List Char) : Bool :=
  match segment with
  | [letter, mark] => letter.isAlpha && (mark = ':' || mark = '|')
  | _ => false

/-- Goes up by a segment; there is no way up from a drive. -/
def goUp (done : List (List Char)) : List (List Char) :=
  match done with
  | [] => []
  | segment :: rest => if isDrive segment then done else rest

/-- Resolves the segments of dots; `done` holds the segments before, the nearest first. A path that
ends in one ends in a slash. -/
def resolve (done : List (List Char)) : List (List Char) → List (List Char)
  | [] => done.reverse
  | segment :: rest =>
    let next := if rest.isEmpty then [[]] else []
    if dots segment = ['.', '.'] then resolve (next ++ goUp done) rest
    else if dots segment = ['.'] then resolve (next ++ done) rest
    else resolve (segment.flatMap (encode pathReserved) :: done) rest

def joinSegments (path : List (List Char)) : List Char := path.flatMap fun s => '/' :: s

/-- The normal form of the part of an address that follows the host and its slash. -/
def normalizeRoute (cs : List Char) : List Char :=
  let (main, fragment) := cs.span (· ≠ '#')
  let (path, query) := main.span (· ≠ '?')
  joinSegments (resolve [] (segments path))
    ++ (match query with
      | [] => []
      | _ :: query => '?' :: query.flatMap (encode queryReserved))
    ++ (match fragment with
      | [] => []
      | _ :: fragment => '#' :: fragment.flatMap (encode fragmentReserved))

def origin : String := "https://discord.com"

def isControlOrSpace (c : Char) : Bool := c.toNat ≤ 0x20

/-- Drops what may not stand in an address at all. -/
def clean (cs : List Char) : List Char :=
  ((cs.dropWhile isControlOrSpace).reverse.dropWhile isControlOrSpace).reverse.filter fun c =>
    c ≠ '\t' && c ≠ '\n' && c ≠ '\r'

/-- The normal form of the address of a route. -/
def ofRoute (route : String) : String :=
  let address := clean (join route).toList
  origin ++ String.ofList (normalizeRoute (address.drop (origin.length + 1)))

example : ofRoute "/a/./b/../c?x=1#y" = "https://discord.com/api/v10/a/c?x=1#y" := by cbv

end ChatGateway.Address
