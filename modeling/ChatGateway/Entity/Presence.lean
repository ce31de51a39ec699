import ChatGateway.Decode.Record
import ChatGateway.Snowflake

/-!
Activities, online status, and the presence made of them.
-/

namespace ChatGateway

inductive ActivityKind where
  | game
  | streaming
  | listening
  | watching
  | custom
  | competing
  deriving DecidableEq, Repr, Inhabited

namespace ActivityKind

def all : List ActivityKind := [.game, .streaming, .listening, .watching, .custom, .competing]

def toNat : ActivityKind → Nat
  | .game => 0
  | .streaming => 1
  | .listening => 2
  | .watching => 3
  | .custom => 4
  | .competing => 5

def ofNat? (n : Nat) : Option ActivityKind := all.find? fun kind => kind.toNat == n

def label : ActivityKind → String
  | .game => "Game"
  | .streaming => "Streaming"
  | .listening => "Listening"
  | .watching => "Watching"
  | .custom => "Custom"
  | .competing => "Competing"

def toJson (kind : ActivityKind) : Json := .ofNat kind.toNat

def decode : Decoder ActivityKind := fun o => do
  let n ← Decoder.u8 o
  match ofNat? n.toNat with
  | some kind => .ok kind
  | none => .error (.meaningless "activity type" n.toNat)

@[simp] theorem ofNat?_toNat (kind : ActivityKind) : ofNat? kind.toNat = some kind := by
  cases kind <;> rfl

end ActivityKind

structure Activity where
  name : String
  kind : ActivityKind
  url : Option String := none
  deriving DecidableEq, Repr, Inhabited

namespace Activity

def record : Record Activity :=
  Activity.mk
    <$> Record.required "name" Decoder.string
    <*> Record.required "type" ActivityKind.decode
    <*> Record.optional "url" Decoder.string

def decode : Decoder Activity := record.decode "Activity"

def toJson (a : Activity) : Json :=
  .object ([
    ("name", .string a.name),
    ("type", a.kind.toJson)]
    ++ (a.url.map fun text => ("url", Json.string text)).toList)

end Activity

inductive Status where
  | online
  | dnd
  | idle
  | invisible
  | offline
  deriving DecidableEq, Repr, Inhabited

namespace Status

def all : List Status := [.online, .dnd, .idle, .invisible, .offline]

def name : Status → String
  | .online => "online"
  | .dnd => "dnd"
  | .idle => "idle"
  | .invisible => "invisible"
  | .offline => "offline"

def toJson (status : Status) : Json := .string status.name

def decode : Decoder Status := Decoder.variant (all.map fun status => (status.name, status))

end Status

structure Presence where
  /-- Unix milliseconds since which the client is idle. -/
  since : Option UInt64 := none
  activities : List Activity
  status : Status
  afk : Bool
  deriving DecidableEq, Repr, Inhabited

namespace Presence

def record : Record Presence :=
  Presence.mk
    <$> Record.optional "since" Decoder.u64
    <*> Record.required "activities" (Decoder.list Activity.decode)
    <*> Record.required "status" Status.decode
    <*> Record.required "afk" Decoder.bool

def decode : Decoder Presence := record.decode "Presence"

def toJson (p : Presence) : Json :=
  .object [
    ("since", .ofOption (fun n => .ofNat n.toNat) p.since),
    ("activities", .ofList Activity.toJson p.activities),
    ("status", p.status.toJson),
    ("afk", .bool p.afk)]

end Presence

namespace Presence

/-- Online with nothing to show. -/
def plain : Presence := { activities := [], status := .online, afk := false }

def playing (name : String) : Presence := { plain with activities := [{ name, kind := .game }] }

end Presence

end ChatGateway
