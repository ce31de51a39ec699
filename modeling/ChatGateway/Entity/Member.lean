import ChatGateway.Entity.User

/-!
Memberships of users in guilds.
-/

namespace ChatGateway

structure Member where
  user : Option User := none
  nick : Option String := none
  roles : List Snowflake := []
  joinedAt : Option String := none
  deaf : Bool := false
  mute : Bool := false
  guildId : Option Snowflake := none
  deriving DecidableEq, Repr, Inhabited

namespace Member

def record : Record Member :=
  Member.mk
    <$> Record.optional "user" User.decode
    <*> Record.optional "nick" Decoder.string
    <*> Record.defaulted "roles" (Decoder.list Snowflake.decode) []
    <*> Record.optional "joined_at" Decoder.string
    <*> Record.defaulted "deaf" Decoder.bool false
    <*> Record.defaulted "mute" Decoder.bool false
    <*> Record.optional "guild_id" Snowflake.decode

def decode : Decoder Member := record.decode "Member"

def toJson (m : Member) : Json :=
  .object [
    ("user", .ofOption User.toJson m.user),
    ("nick", .ofOption .string m.nick),
    ("roles", .ofList Snowflake.toJson m.roles),
    ("joined_at", .ofOption .string m.joinedAt),
    ("deaf", .bool m.deaf),
    ("mute", .bool m.mute),
    ("guild_id", .ofOption Snowflake.toJson m.guildId)]

end Member

/-- The identifier of the user; a member without a user cannot be addressed. -/
def Member.id? (m : Member) : Option Snowflake := m.user.map (·.id)

end ChatGateway
