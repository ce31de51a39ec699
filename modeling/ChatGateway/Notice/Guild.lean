import ChatGateway.Entity.Guild

/-!
What the service reports about guilds besides the guilds themselves.
-/

namespace ChatGateway

/-- A guild that is gone, for good or by an outage. -/
structure UnavailableGuild where
  id : Snowflake
  unavailable : Bool := false
  deriving DecidableEq, Repr, Inhabited

namespace UnavailableGuild

def record : Record UnavailableGuild :=
  UnavailableGuild.mk
    <$> Record.required "id" Snowflake.decode
    <*> Record.defaulted "unavailable" Decoder.bool false

def decode : Decoder UnavailableGuild := record.decode "UnavailableGuild"

def toJson (u : UnavailableGuild) : Json :=
  .object [
    ("id", u.id.toJson),
    ("unavailable", .bool u.unavailable)]

end UnavailableGuild

structure GuildBan where
  guildId : Snowflake
  user : User
  deriving DecidableEq, Repr, Inhabited

namespace GuildBan

def record : Record GuildBan :=
  GuildBan.mk
    <$> Record.required "guild_id" Snowflake.decode
    <*> Record.required "user" User.decode

def decode : Decoder GuildBan := record.decode "GuildBan"

def toJson (g : GuildBan) : Json :=
  .object [
    ("guild_id", g.guildId.toJson),
    ("user", g.user.toJson)]

end GuildBan

structure GuildEmojisUpdate where
  guildId : Snowflake
  emojis : List Emoji
  deriving DecidableEq, Repr, Inhabited

namespace GuildEmojisUpdate

def record : Record GuildEmojisUpdate :=
  GuildEmojisUpdate.mk
    <$> Record.required "guild_id" Snowflake.decode
    <*> Record.required "emojis" (Decoder.list Emoji.decode)

def decode : Decoder GuildEmojisUpdate := record.decode "GuildEmojisUpdate"

def toJson (g : GuildEmojisUpdate) : Json :=
  .object [
    ("guild_id", g.guildId.toJson),
    ("emojis", .ofList Emoji.toJson g.emojis)]

end GuildEmojisUpdate

structure GuildIntegrationsUpdate where
  guildId : Snowflake
  deriving DecidableEq, Repr, Inhabited

namespace GuildIntegrationsUpdate

def record : Record GuildIntegrationsUpdate :=
  GuildIntegrationsUpdate.mk
    <$> Record.required "guild_id" Snowflake.decode

def decode : Decoder GuildIntegrationsUpdate := record.decode "GuildIntegrationsUpdate"

def toJson (g : GuildIntegrationsUpdate) : Json :=
  .object [
    ("guild_id", g.guildId.toJson)]

end GuildIntegrationsUpdate

structure GuildMemberAdd where
  guildId : Snowflake
  member : Member
  deriving DecidableEq, Repr, Inhabited

namespace GuildMemberAdd

/-- What is left of the members of the object once the guild has been taken from them. -/
structure Rest where
  guildId : Option Snowflake
  members : List (String × Json)

/-- Goes through the members in order: the guild is decoded where it stands, all else is collected.
-/
def collect : List (Except Flaw String × Outline) → Rest → Except DecodeError Rest
  | [], rest => .ok rest
  | (name, content) :: more, rest => do
    let name ← Decoder.lift name
    if name = "guild_id" then
      if rest.guildId.isSome then .error (.duplicateField name)
      else
        let id ← Snowflake.decode content
        collect more { rest with guildId := some id }
    else
      let value ← Decoder.value content
      collect more { rest with members := rest.members ++ [(name, value)] }

/-- Errors inside collected members know the length of an array and how much of it was used. -/
def collected : DecodeError → DecodeError
  | .tooLong length fields => .tooLongCollected length fields
  | e => e

/-- The object of a joining member has the guild beside the parts of the member, so the member
does not see it. An array does not do. -/
def decode : Decoder GuildMemberAdd
  | .object members ending => do
    let rest ← collect members ⟨none, []⟩
    Decoder.lift (Outline.close ending)
    match rest.guildId with
    | none => .error (.missingField "guild_id")
    | some guildId =>
      match Decoder.ofValue Member.decode (.object rest.members) with
      | .ok member => .ok { guildId, member }
      | .error e => .error (collected e)
  | o => Decoder.mismatch "struct GuildMemberAdd" o

end GuildMemberAdd

structure GuildMemberRemove where
  guildId : Snowflake
  user : User
  deriving DecidableEq, Repr, Inhabited

namespace GuildMemberRemove

def record : Record GuildMemberRemove :=
  GuildMemberRemove.mk
    <$> Record.required "guild_id" Snowflake.decode
    <*> Record.required "user" User.decode

def decode : Decoder GuildMemberRemove := record.decode "GuildMemberRemove"

def toJson (g : GuildMemberRemove) : Json :=
  .object [
    ("guild_id", g.guildId.toJson),
    ("user", g.user.toJson)]

end GuildMemberRemove

/-- New roles of a member, and a new nickname if there is one. -/
structure GuildMemberUpdate where
  guildId : Snowflake
  user : User
  roles : List Snowflake := []
  nick : Option String := none
  deriving DecidableEq, Repr, Inhabited

namespace GuildMemberUpdate

def record : Record GuildMemberUpdate :=
  GuildMemberUpdate.mk
    <$> Record.required "guild_id" Snowflake.decode
    <*> Record.required "user" User.decode
    <*> Record.defaulted "roles" (Decoder.list Snowflake.decode) []
    <*> Record.optional "nick" Decoder.string

def decode : Decoder GuildMemberUpdate := record.decode "GuildMemberUpdate"

def toJson (g : GuildMemberUpdate) : Json :=
  .object [
    ("guild_id", g.guildId.toJson),
    ("user", g.user.toJson),
    ("roles", .ofList Snowflake.toJson g.roles),
    ("nick", .ofOption .string g.nick)]

end GuildMemberUpdate

structure GuildMembersChunk where
  guildId : Snowflake
  members : List Member
  chunkIndex : UInt32 := 0
  chunkCount : UInt32 := 0
  deriving DecidableEq, Repr, Inhabited

namespace GuildMembersChunk

def record : Record GuildMembersChunk :=
  GuildMembersChunk.mk
    <$> Record.required "guild_id" Snowflake.decode
    <*> Record.required "members" (Decoder.list Member.decode)
    <*> Record.defaulted "chunk_index" Decoder.u32 0
    <*> Record.defaulted "chunk_count" Decoder.u32 0

def decode : Decoder GuildMembersChunk := record.decode "GuildMembersChunk"

def toJson (g : GuildMembersChunk) : Json :=
  .object [
    ("guild_id", g.guildId.toJson),
    ("members", .ofList Member.toJson g.members),
    ("chunk_index", .ofNat g.chunkIndex.toNat),
    ("chunk_count", .ofNat g.chunkCount.toNat)]

end GuildMembersChunk

structure GuildRole where
  guildId : Snowflake
  role : Role
  deriving DecidableEq, Repr, Inhabited

namespace GuildRole

def record : Record GuildRole :=
  GuildRole.mk
    <$> Record.required "guild_id" Snowflake.decode
    <*> Record.required "role" Role.decode

def decode : Decoder GuildRole := record.decode "GuildRole"

def toJson (g : GuildRole) : Json :=
  .object [
    ("guild_id", g.guildId.toJson),
    ("role", g.role.toJson)]

end GuildRole

structure GuildRoleDelete where
  guildId : Snowflake
  roleId : Snowflake
  deriving DecidableEq, Repr, Inhabited

namespace GuildRoleDelete

def record : Record GuildRoleDelete :=
  GuildRoleDelete.mk
    <$> Record.required "guild_id" Snowflake.decode
    <*> Record.required "role_id" Snowflake.decode

def decode : Decoder GuildRoleDelete := record.decode "GuildRoleDelete"

def toJson (g : GuildRoleDelete) : Json :=
  .object [
    ("guild_id", g.guildId.toJson),
    ("role_id", g.roleId.toJson)]

end GuildRoleDelete

end ChatGateway
