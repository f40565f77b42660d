import TelemetryRelay.Json.Record
import TelemetryRelay.Notice
import TelemetryRelay.Text.Blank

/-!
Settings. Each of the twelve settings is a member of the settings file and an environment variable,
and both spellings come from one table: a variable is named `NOZZLE_` and the upper-case key. The
environment overrides the file, and only the outcome is validated.
-/

namespace TelemetryRelay

structure Settings where
  url : String
  database : String
  user : String
  password : String
  skipsVerification : Bool
  metricPrefix : String
  deployment : String
  ip : String
  flushSeconds : UInt64
  timeoutSeconds : UInt64
  listenerHost : String
  listenerPort : UInt16
deriving DecidableEq, Repr

namespace Settings

def default : Settings where
  url := ""
  database := ""
  user := ""
  password := ""
  skipsVerification := false
  metricPrefix := ""
  deployment := ""
  ip := ""
  flushSeconds := 15
  timeoutSeconds := 5
  listenerHost := "0.0.0.0"
  listenerPort := 8126

instance : Inhabited Settings := ⟨default⟩

inductive Slot
  | text (store : String → Settings → Settings)
  | flag (store : Bool → Settings → Settings)
  | count (store : UInt64 → Settings → Settings)
  | port (store : UInt16 → Settings → Settings)

structure Entry where
  key : String
  slot : Slot

def entries : List Entry :=
  [
    ⟨"InfluxDbUrl", .text fun url settings => { settings with url }⟩,
    ⟨"InfluxDbDatabase", .text fun database settings => { settings with database }⟩,
    ⟨"InfluxDbUser", .text fun user settings => { settings with user }⟩,
    ⟨"InfluxDbPassword", .text fun password settings => { settings with password }⟩,
    ⟨"InsecureSSLSkipVerify", .flag fun skipsVerification settings =>
      { settings with skipsVerification }⟩,
    ⟨"MetricPrefix", .text fun metricPrefix settings => { settings with metricPrefix }⟩,
    ⟨"Deployment", .text fun deployment settings => { settings with deployment }⟩,
    ⟨"Ip", .text fun ip settings => { settings with ip }⟩,
    ⟨"FlushDurationSeconds", .count fun flushSeconds settings =>
      { settings with flushSeconds }⟩,
    ⟨"HttpTimeoutSeconds", .count fun timeoutSeconds settings =>
      { settings with timeoutSeconds }⟩,
    ⟨"ListenerHost", .text fun listenerHost settings => { settings with listenerHost }⟩,
    ⟨"ListenerPort", .port fun listenerPort settings => { settings with listenerPort }⟩
  ]

def Entry.variableName (entry : Entry) : String :=
  "NOZZLE_" ++ String.ofList (entry.key.toList.map Char.toUpper)

def Entry.field (entry : Entry) : Json.Field Settings :=
  match entry.slot with
  | .text store => .of entry.key .defaulted Json.string store
  | .flag store => .of entry.key .defaulted Json.boolean store
  | .count store => .of entry.key .defaulted Json.uint64 store
  | .port store => .of entry.key .defaulted Json.uint16 store

def record : Json.Record Settings where
  name := "NozzleConfig"
  initial := default
  fields := entries.map Entry.field

def decode (text : List Char) : Except Json.Fault Settings := do
  let (settings, rest) ← record.read text
  Json.finish rest
  return settings

def flag? (text : List Char) : Option Bool :=
  if text = "true".toList then some true
  else if text = "false".toList then some false
  else none

def natural? (bound : Nat) (text : List Char) : Option Nat :=
  let digits :=
    match text with
    | '+' :: rest => rest
    | _ => text
  if digits.isEmpty ∨ !digits.all Char.isDigit then none
  else
    let value := Json.digitsValue digits
    if value < bound then some value else none

/-- The change that the text of a variable makes, if it is of the setting's kind. Blanks around the
text of a setting that is no text do not count. -/
def Slot.override? (slot : Slot) (value : String) : Option (Settings → Settings) :=
  let trimmed := Text.trim value.toList
  match slot with
  | .text store => some (store value)
  | .flag store => (flag? trimmed).map store
  | .count store => (natural? (2 ^ 64) trimmed).map fun number => store (.ofNat number)
  | .port store => (natural? (2 ^ 16) trimmed).map fun number => store (.ofNat number)

abbrev Environment := String → Option String

def Entry.apply (entry : Entry) (environment : Environment) (settings : Settings) : Settings :=
  match environment entry.variableName with
  | none => settings
  | some value =>
    match entry.slot.override? value with
    | some change => change settings
    | none => settings

def Entry.notice? (entry : Entry) (environment : Environment) : Option Notice :=
  match environment entry.variableName with
  | none => none
  | some value =>
    match entry.slot.override? value with
    | some _ => none
    | none => some (.unusableVariable entry.variableName value)

def override (settings : Settings) (environment : Environment) : Settings :=
  entries.foldl (fun settings entry => entry.apply environment settings) settings

def overrideNotices (environment : Environment) : List Notice :=
  entries.filterMap fun entry => entry.notice? environment

inductive Defect
  | noUrl
  | noDatabase
  | noFlushInterval
  | noTimeout
deriving DecidableEq, Repr

def Defect.reason : Defect → String
  | .noUrl => "InfluxDbUrl cannot be empty"
  | .noDatabase => "InfluxDbDatabase cannot be empty"
  | .noFlushInterval => "FlushDurationSeconds must be greater than 0"
  | .noTimeout => "HttpTimeoutSeconds must be greater than 0"

def isBlankText (text : String) : Bool := (Text.trim text.toList).isEmpty

def defect? (settings : Settings) : Option Defect :=
  if isBlankText settings.url then some .noUrl
  else if isBlankText settings.database then some .noDatabase
  else if settings.flushSeconds = 0 then some .noFlushInterval
  else if settings.timeoutSeconds = 0 then some .noTimeout
  else none

inductive File
  | contents (bytes : List UInt8)
  | directory
  | absent
deriving DecidableEq, Repr

inductive ReadFault
  | absent
  | directory
  | malformedText
deriving DecidableEq, Repr

def ReadFault.reason : ReadFault → String
  | .absent => "No such file or directory (os error 2)"
  | .directory => "Is a directory (os error 21)"
  | .malformedText => "stream did not contain valid UTF-8"

inductive Fault
  | read (fault : ReadFault)
  | parse (fault : Json.Fault)
  | invalid (defect : Defect)
deriving DecidableEq, Repr

def readMessage (path reason : String) : String :=
  "Unable to read config file " ++ path ++ ": " ++ reason

def parseMessage (path reason : String) : String :=
  "Unable to parse config file " ++ path ++ ": " ++ reason

def invalidMessage (reason : String) : String :=
  "Invalid configuration: " ++ reason

def Fault.message (path : String) : Fault → String
  | .read fault => readMessage path fault.reason
  | .parse fault => parseMessage path fault.message
  | .invalid defect => invalidMessage defect.reason

def ofFile : File → Except Fault Settings
  | .absent => .error (.read .absent)
  | .directory => .error (.read .directory)
  | .contents bytes =>
    match Text.Utf8.decode bytes with
    | .error _ => .error (.read .malformedText)
    | .ok text => (decode text).mapError .parse

def validate (settings : Settings) : Except Fault Settings :=
  match settings.defect? with
  | some defect => .error (.invalid defect)
  | none => .ok settings

def effective (file : File) (environment : Environment) : Except Fault Settings := do
  let settings ← ofFile file
  (settings.override environment).validate

def ofEnvironment (environment : Environment) : Except Fault Settings :=
  (default.override environment).validate

def address (settings : Settings) (ownAddress : String) : String :=
  if settings.ip.isEmpty then ownAddress else settings.ip

end Settings

end TelemetryRelay
