import ChatGateway.Decode.Basic

/-!
Sets of named bits. A family of flags names some bits of a word of 64 bits, single ones and
combinations; a set may hold bits that no name covers, and keeps them.
-/

namespace ChatGateway

/-- A family of flags: its title and its names with their bits, in order of declaration. -/
structure FlagFamily where
  title : String
  flags : List (String × UInt64)

namespace FlagFamily

/-- All bits that have a name. -/
def all (family : FlagFamily) : UInt64 := family.flags.foldl (fun bits flag => bits ||| flag.2) 0

def bits? (family : FlagFamily) (name : String) : Option UInt64 :=
  (family.flags.find? fun flag => flag.1 == name).map (·.2)

def contains (a b : UInt64) : Bool := a &&& b == b

def intersects (a b : UInt64) : Bool := a &&& b != 0

def difference (a b : UInt64) : UInt64 := a &&& ~~~b

/-- The named bits outside a set. -/
def complement (family : FlagFamily) (bits : UInt64) : UInt64 := ~~~bits &&& family.all

def truncate (family : FlagFamily) (bits : UInt64) : UInt64 := bits &&& family.all

/-- A set without unnamed bits. -/
def strict? (family : FlagFamily) (bits : UInt64) : Option UInt64 :=
  if family.truncate bits = bits then some bits else none

def isAll (family : FlagFamily) (bits : UInt64) : Bool := contains bits family.all

/-- Goes through the flags in order and takes each one that the set holds and that still has a bit
which no flag taken before had. Answers the names taken and the bits left over. -/
def takeNames (bits : UInt64) : UInt64 → List (String × UInt64) → List String × UInt64
  | left, [] => ([], left)
  | left, (name, flag) :: rest =>
    if contains bits flag && intersects left flag then
      let (names, left) := takeNames bits (difference left flag) rest
      (name :: names, left)
    else takeNames bits left rest

def names (family : FlagFamily) (bits : UInt64) : List String :=
  (takeNames bits bits family.flags).1

/-- The names of a set and its unnamed bits in hexadecimal, inside the title of the family. -/
def describe (family : FlagFamily) (bits : UInt64) : String :=
  let (names, left) := takeNames bits bits family.flags
  let hex := "0x" ++ String.ofList (Nat.toDigits 16 left.toNat)
  let parts := if left = 0 ∧ names ≠ [] then names else names ++ [hex]
  family.title ++ "(" ++ String.intercalate " | " parts ++ ")"

end FlagFamily

def bit (n : Nat) : UInt64 := UInt64.ofNat (1 <<< n)

/-- Events that a session subscribes to. -/
def gatewayIntents : FlagFamily where
  title := "GatewayIntents"
  flags := [
    ("GUILDS", bit 0), ("GUILD_MEMBERS", bit 1), ("GUILD_BANS", bit 2),
    ("GUILD_EMOJIS", bit 3), ("GUILD_INTEGRATIONS", bit 4), ("GUILD_WEBHOOKS", bit 5),
    ("GUILD_INVITES", bit 6), ("GUILD_VOICE_STATES", bit 7), ("GUILD_PRESENCES", bit 8),
    ("GUILD_MESSAGES", bit 9), ("GUILD_MESSAGE_REACTIONS", bit 10),
    ("GUILD_MESSAGE_TYPING", bit 11), ("DIRECT_MESSAGES", bit 12),
    ("DIRECT_MESSAGE_REACTIONS", bit 13), ("DIRECT_MESSAGE_TYPING", bit 14),
    ("NON_PRIVILEGED", 32509), ("ALL", 32767)]

/-- The intents that need no approval: all but members and presences. -/
def nonPrivilegedIntents : UInt64 := 32509

def userFlags : FlagFamily where
  title := "UserFlags"
  flags := [
    ("STAFF", bit 0), ("PARTNER", bit 1), ("HYPESQUAD", bit 2),
    ("BUG_HUNTER_LEVEL_1", bit 3), ("VERIFIED_BOT", bit 16), ("VERIFIED_DEVELOPER", bit 17),
    ("BOT_HTTP_INTERACTIONS", bit 19)]

example : gatewayIntents.bits? "NON_PRIVILEGED" = some nonPrivilegedIntents := by decide

example : gatewayIntents.all = 32767 := by decide

end ChatGateway
