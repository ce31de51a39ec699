import ChatGateway.Decode.Record
import ChatGateway.Snowflake

/-!
Emojis, and when two of them are the same one.
-/

namespace ChatGateway

/-- A unicode emoji has a name and no identifier, a custom one always has an identifier. -/
structure Emoji where
  id : Option Snowflake := none
  name : Option String := none
  animated : Bool := false
  deriving DecidableEq, Repr, Inhabited

namespace Emoji

def record : Record Emoji :=
  Emoji.mk
    <$> Record.optional "id" Snowflake.decode
    <*> Record.optional "name" Decoder.string
    <*> Record.defaulted "animated" Decoder.bool false

def decode : Decoder Emoji := record.decode "Emoji"

def toJson (e : Emoji) : Json :=
  .object [
    ("id", .ofOption Snowflake.toJson e.id),
    ("name", .ofOption .string e.name),
    ("animated", .bool e.animated)]

end Emoji

namespace Emoji

def unicode (name : String) : Emoji := { name := some name }

def custom (id : Snowflake) (name : String) : Emoji := { id := some id, name := some name }

def isCustom (e : Emoji) : Bool := e.id.isSome

/-- Whether two emojis are the same one: custom emojis by their identifier, since their name can
change, unicode ones by their name. -/
def sameAs (a b : Emoji) : Bool :=
  match a.id, b.id with
  | some i, some j => i == j
  | none, none => a.name.isSome && a.name == b.name
  | _, _ => false

end Emoji

end ChatGateway
