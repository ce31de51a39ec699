import ChatGateway.Binary64.Shortest
import ChatGateway.Config.Basic
import ChatGateway.Config.SettingName
import ChatGateway.Toml.Document

/-!
Settings from a document and from variables of the environment. A setting is turned into the type of
its field where that makes sense: numbers, truth values and texts stand in for each other. A name
with a path into what it names makes a list or a table of that. Variables have a common beginning
and win over the document.
-/

namespace ChatGateway

/-- What a setting is given as. -/
inductive Setting where
  | integer (n : Int)
  | float (x : Float)
  | boolean (b : Bool)
  | text (s : String)
  /-- A list or a table, which is no setting of any field. -/
  | compound
  /-- A table without entries, which is no setting of any field either. -/
  | emptyTable

abbrev Settings := List (String × Setting)

namespace Setting

def ofToml : Toml → Setting
  | .string s => .text s
  | .integer n => .integer n
  | .float x => .float x
  | .boolean b => .boolean b
  | .moment s => .text s
  | .inlineTable [] => .emptyTable
  | _ => .compound

def truthWord? (s : List Char) : Option Bool :=
  if ["true", "on", "yes"].any fun w => w.toList == s then some true
  else if ["false", "off", "no"].any fun w => w.toList == s then some false
  else none

/-- The whole number nearest to a double, a half away from zero; below zero and above the words of
64 bits the nearest word, and zero for what is no number. -/
def roundWord (x : Float) : Nat :=
  let p := Binary64.parts x
  if x.isNaN || p.negative then 0
  else if x.isInf then UInt64.size - 1
  else min (UInt64.size - 1) (Binary64.roundHalfUp p.numerator p.denominator)

/-- A whole number below a limit. -/
def nat? (limit : Nat) (setting : Setting) : Option Nat :=
  let n := match setting with
    | .integer n => if 0 ≤ n then some n.toNat else none
    | .float x => some (roundWord x)
    | .boolean b => some b.toNat
    | .text s =>
      match truthWord? (s.toList.map Char.toLower) with
      | some b => some b.toNat
      | none => Decimal.readBelow? UInt64.size s.toList
    | .compound | .emptyTable => none
  n.filter (· < limit)

def bool? : Setting → Option Bool
  | .integer n => some (n != 0)
  | .float x => some (x != 0)
  | .boolean b => some b
  | .text s =>
    let word := s.toList.map Char.toLower
    if word = ['1'] then some true
    else if word = ['0'] then some false
    else truthWord? word
  | .compound | .emptyTable => none

def text? : Setting → Option String
  | .integer n => some (String.ofList (Decimal.writeInt n))
  | .float x => some (String.ofList (Binary64.writePositional x))
  | .boolean b => some (if b then "true" else "false")
  | .text s => some s
  | .compound | .emptyTable => none

end Setting

namespace Settings

/-- What a name is set to by a new setting. The entries of a table are set one by one, so that a
table without any changes nothing that is there. -/
def revise (known : Option Setting) (new : Setting) : Setting :=
  match known, new with
  | some known, .emptyTable => known
  | _, new => new

/-- What a name is set to in the end. -/
def get? (settings : Settings) (name : String) : Option Setting :=
  settings.foldl
    (fun known setting => if setting.1 == name then some (revise known setting.2) else known) none

/-- The setting of a name, or of a part of what it names. -/
def entry (name : String) (setting : Setting) : String × Setting :=
  match SettingName.split name with
  | (name, true) => (name, .compound)
  | (name, false) => (name, setting)

/-- The settings of a document. -/
def ofDocument? (text : String) : Option Settings :=
  (Toml.read? text).map fun entries => entries.map fun (name, value) =>
    entry name (Setting.ofToml value)

/-- How the names of variables begin. -/
def variableStart : List Char := "ember_".toList

/-- The settings of the environment. -/
def ofEnvironment (environment : List (String × String)) : Settings :=
  environment.filterMap fun (name, value) =>
    let name := name.toList.map SettingName.lower
    if variableStart.isPrefixOf name then
      some (entry (String.ofList (name.drop variableStart.length)) (.text value))
    else none

/-- A field with a default. -/
def field {α : Type} (settings : Settings) (name : String) (read : Setting → Option α)
    (default : α) : Option α :=
  match settings.get? name with
  | some setting => read setting
  | none => some default

/-- The configuration of some settings; the token has no default. -/
def config? (settings : Settings) : Option Config := do
  let token ← (settings.get? "token").bind Setting.text?
  let plain : Config := { token }
  let word := Setting.nat? UInt64.size
  let intents ← settings.field "intents" word plain.intents.toNat
  let messages ← settings.field "message_cache_count" word plain.messageCacheCount.toNat
  let threshold ←
    settings.field "large_threshold" (Setting.nat? UInt8.size) plain.largeThreshold.toNat
  let compress ← settings.field "compress" Setting.bool? plain.compress
  let reconnect ← settings.field "reconnect_delay_ms" word plain.reconnectDelay.toNat
  let attempts ← settings.field "max_reconnect_attempts" (Setting.nat? UInt32.size)
    plain.maxReconnectAttempts.toNat
  let grace ← settings.field "resume_grace_ms" word plain.resumeGrace.toNat
  let invalid ← settings.field "invalid_session_delay_ms" word plain.invalidSessionDelay.toNat
  let deferred ← settings.field "deferred_queue_capacity" word plain.deferredQueueCapacity.toNat
  return {
    token
    intents := .ofNat intents
    messageCacheCount := .ofNat messages
    largeThreshold := .ofNat threshold
    compress
    reconnectDelay := .ofNat reconnect
    maxReconnectAttempts := .ofNat attempts
    resumeGrace := .ofNat grace
    invalidSessionDelay := .ofNat invalid
    deferredQueueCapacity := .ofNat deferred }

end Settings

namespace Config

/-- The valid configuration of some settings. -/
def ofSettings (settings : Option Settings) : Except ClientError Config :=
  match settings.bind Settings.config? with
  | some config => config.validate
  | none => .error .config

/-- Reads a configuration from a document. -/
def ofDocument (text : String) : Except ClientError Config :=
  ofSettings (Settings.ofDocument? text)

/-- Reads a configuration from a document, if there is one, and the environment. -/
def load (document : Option String) (environment : List (String × String)) :
    Except ClientError Config :=
  let fromDocument := match document with
    | some text => Settings.ofDocument? text
    | none => some []
  ofSettings (fromDocument.map fun settings => settings ++ Settings.ofEnvironment environment)

end Config

end ChatGateway
