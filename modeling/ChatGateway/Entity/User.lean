import ChatGateway.Decode.Record
import ChatGateway.Snowflake

/-!
Users of the service.
-/

namespace ChatGateway

structure User where
  id : Snowflake
  username : String := ""
  discriminator : String := ""
  globalName : Option String := none
  avatar : Option String := none
  bot : Bool := false
  system : Bool := false
  mfaEnabled : Option Bool := none
  banner : Option String := none
  accentColor : Option Int64 := none
  locale : Option String := none
  verified : Option Bool := none
  email : Option String := none
  flags : Option UInt64 := none
  premiumType : Option Int64 := none
  publicFlags : Option UInt64 := none
  deriving DecidableEq, Repr, Inhabited

namespace User

def record : Record User :=
  User.mk
    <$> Record.required "id" Snowflake.decode
    <*> Record.defaulted "username" Decoder.string ""
    <*> Record.defaulted "discriminator" Decoder.string ""
    <*> Record.optional "global_name" Decoder.string
    <*> Record.optional "avatar" Decoder.string
    <*> Record.defaulted "bot" Decoder.bool false
    <*> Record.defaulted "system" Decoder.bool false
    <*> Record.optional "mfa_enabled" Decoder.bool
    <*> Record.optional "banner" Decoder.string
    <*> Record.optional "accent_color" Decoder.i64
    <*> Record.optional "locale" Decoder.string
    <*> Record.optional "verified" Decoder.bool
    <*> Record.optional "email" Decoder.string
    <*> Record.optional "flags" Decoder.u64
    <*> Record.optional "premium_type" Decoder.i64
    <*> Record.optional "public_flags" Decoder.u64

def decode : Decoder User := record.decode "User"

def toJson (u : User) : Json :=
  .object [
    ("id", u.id.toJson),
    ("username", .string u.username),
    ("discriminator", .string u.discriminator),
    ("global_name", .ofOption .string u.globalName),
    ("avatar", .ofOption .string u.avatar),
    ("bot", .bool u.bot),
    ("system", .bool u.system),
    ("mfa_enabled", .ofOption .bool u.mfaEnabled),
    ("banner", .ofOption .string u.banner),
    ("accent_color", .ofOption (fun n => .int n.toInt) u.accentColor),
    ("locale", .ofOption .string u.locale),
    ("verified", .ofOption .bool u.verified),
    ("email", .ofOption .string u.email),
    ("flags", .ofOption (fun n => .ofNat n.toNat) u.flags),
    ("premium_type", .ofOption (fun n => .int n.toInt) u.premiumType),
    ("public_flags", .ofOption (fun n => .ofNat n.toNat) u.publicFlags)]

end User

end ChatGateway
