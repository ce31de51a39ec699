import ChatGateway.Entity.Channel
import ChatGateway.Entity.Emoji
import ChatGateway.Entity.Member

/-!
Guilds and their roles.
-/

namespace ChatGateway

structure Role where
  id : Snowflake
  name : String := ""
  color : UInt32 := 0
  hoist : Bool := false
  position : Int64 := 0
  permissions : String := ""
  managed : Bool := false
  mentionable : Bool := false
  deriving DecidableEq, Repr, Inhabited

namespace Role

def record : Record Role :=
  Role.mk
    <$> Record.required "id" Snowflake.decode
    <*> Record.defaulted "name" Decoder.string ""
    <*> Record.defaulted "color" Decoder.u32 0
    <*> Record.defaulted "hoist" Decoder.bool false
    <*> Record.defaulted "position" Decoder.i64 0
    <*> Record.defaulted "permissions" Decoder.string ""
    <*> Record.defaulted "managed" Decoder.bool false
    <*> Record.defaulted "mentionable" Decoder.bool false

def decode : Decoder Role := record.decode "Role"

def toJson (r : Role) : Json :=
  .object [
    ("id", r.id.toJson),
    ("name", .string r.name),
    ("color", .ofNat r.color.toNat),
    ("hoist", .bool r.hoist),
    ("position", .int r.position.toInt),
    ("permissions", .string r.permissions),
    ("managed", .bool r.managed),
    ("mentionable", .bool r.mentionable)]

end Role

structure Guild where
  id : Snowflake
  name : String := ""
  icon : Option String := none
  ownerId : Option Snowflake := none
  region : Option String := none
  memberCount : Option UInt64 := none
  large : Option Bool := none
  /-- Set after an outage and when the guild is gone. -/
  unavailable : Bool := false
  roles : Table Snowflake Role := .empty
  members : Table Snowflake Member := .empty
  /-- Only a guild that was just created lists its channels. -/
  channels : List Channel := []
  emojis : List Emoji := []
  deriving DecidableEq, Inhabited

namespace Guild

/-- A list of entries by their keys. Entries without a key cannot be addressed and are left out; of
several with one key the last one stays. -/
def keyed {α : Type} (decode : Decoder α) (key : α → Option Snowflake) :
    Decoder (Table Snowflake α) := fun o =>
  (Decoder.list decode o).map fun entries =>
    .ofList (entries.filterMap fun entry => (key entry).map fun k => (k, entry))

def record : Record Guild :=
  Guild.mk
    <$> Record.required "id" Snowflake.decode
    <*> Record.defaulted "name" Decoder.string ""
    <*> Record.optional "icon" Decoder.string
    <*> Record.optional "owner_id" Snowflake.decode
    <*> Record.optional "region" Decoder.string
    <*> Record.optional "member_count" Decoder.u64
    <*> Record.optional "large" Decoder.bool
    <*> Record.defaulted "unavailable" Decoder.bool false
    <*> Record.defaulted "roles" (keyed Role.decode fun role => some role.id) .empty
    <*> Record.defaulted "members" (keyed Member.decode Member.id?) .empty
    <*> Record.defaulted "channels" (Decoder.list Channel.decode) []
    <*> Record.defaulted "emojis" (Decoder.list Emoji.decode) []

def decode : Decoder Guild := record.decode "Guild"

def toJson (g : Guild) : Json :=
  .object [
    ("id", g.id.toJson),
    ("name", .string g.name),
    ("icon", .ofOption .string g.icon),
    ("owner_id", .ofOption Snowflake.toJson g.ownerId),
    ("region", .ofOption .string g.region),
    ("member_count", .ofOption (fun n => .ofNat n.toNat) g.memberCount),
    ("large", .ofOption .bool g.large),
    ("unavailable", .bool g.unavailable),
    ("roles", .ofList Role.toJson g.roles.values),
    ("members", .ofList Member.toJson g.members.values),
    ("channels", .ofList Channel.toJson g.channels),
    ("emojis", .ofList Emoji.toJson g.emojis)]

end Guild

/-- The placeholder of a guild that is known only by its identifier. -/
def Guild.placeholder (id : Snowflake) : Guild := { id, unavailable := true }

end ChatGateway
