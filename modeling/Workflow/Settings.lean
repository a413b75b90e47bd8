import Workflow.Json.Reader
import Workflow.Record.Reader
import Workflow.Text.Lowercase

/-!
# Settings

The settings of the service, read from named texts.  Names are taken without regard to letter case
and start with a common mark; a list is given as JSON.  What is not given has a default.
-/

namespace Workflow

open Number (Double)
open Record (Checked)

/-- The settings of the service. -/
structure Settings where
  appName : String := "Workflow Engine API"
  appVersion : String := "1.0.0"
  apiPrefix : String := "/api/v1"
  logLevel : String := "INFO"
  allowedOrigins : List String := ["*"]
  jwtSecret : String := "change-me"
  jwtAlgorithm : String := "HS256"
  jwtExpireMinutes : Int := 360
  bcryptRounds : Int := 10
  smtpHost : String := "localhost"
  smtpPort : Int := 587
  smtpUser : Option String := none
  smtpPassword : Option String := none
  smtpFrom : String := "no-reply@localhost"
  smtpTimeout : Double := .ofInt 30
  collections : List String := ["users"]

namespace Settings

/-- What the names of all settings start with. -/
def mark : String := "apiflow_"

/-- Why settings cannot be read. -/
inductive Problem where
  /-- A list is not given as JSON that can be read. -/
  | fault (cause : Fault)
  | invalid (violations : List Record.Violation)

/-- The fault that an unreadable list is. -/
def unreadableFault (field : String) : Fault :=
  .reported .settings
    s!"error parsing value for field \"{field}\" from source \"EnvSettingsSource\""

/-- The texts by the lowercase form of their names; of several, the last counts. -/
def normalise (texts : List (String × String)) : Object :=
  Object.ofFields (texts.map fun given => (Text.lowercase given.1, .str given.2))

/-- The text given for a field. -/
def given (texts : Object) (field : String) : Option Value := Object.get? texts (mark ++ field)

/-- The value given for a list; null counts as not given. -/
def givenList (texts : Object) (field : String) : Except Problem (Option Value) :=
  match given texts field with
  | some (.str text) =>
    match Json.read text with
    | .error error =>
      let cause := error.fault
      .error (.fault (if cause.kind = .recursion then cause else unreadableFault field))
    | .ok .null => .ok none
    | .ok value => .ok (some value)
  | _ => .ok none

/-- Read a field that may not be given. -/
def readGiven {α : Type} (field : String) (value : Option Value) (fallback : α)
    (read : Value → Checked α) : Checked α :=
  match value with
  | some value => (read value).within (.field field)
  | none => .ok fallback

/-- Read the settings from texts whose lists have been parsed. -/
def readFields (texts : Object) (origins collections : Option Value) : Checked Settings :=
  let standard : Settings := {}
  let text (field fallback : String) := readGiven field (given texts field) fallback Record.text
  let integer (field : String) (fallback : Int) :=
    readGiven field (given texts field) fallback Record.integer
  let optional (field : String) :=
    readGiven field (given texts field) none (Record.nullable Record.text)
  let server := Checked.both Settings.mk (text "app_name" standard.appName)
    (text "app_version" standard.appVersion)
  let server := (server.apply (text "api_prefix" standard.apiPrefix)).apply
    (text "log_level" standard.logLevel)
  let server := server.apply
    (readGiven "allowed_origins" origins standard.allowedOrigins (Record.list Record.text))
  let tokens := (server.apply (text "jwt_secret" standard.jwtSecret)).apply
    (text "jwt_algorithm" standard.jwtAlgorithm)
  let tokens := tokens.apply (integer "jwt_expire_minutes" standard.jwtExpireMinutes)
  let hashing := tokens.apply (integer "bcrypt_rounds" standard.bcryptRounds)
  let relay := (hashing.apply (text "smtp_host" standard.smtpHost)).apply
    (integer "smtp_port" standard.smtpPort)
  let relay := (relay.apply (optional "smtp_user")).apply (optional "smtp_password")
  let relay := relay.apply (text "smtp_from" standard.smtpFrom)
  let relay := relay.apply
    (readGiven "smtp_timeout" (given texts "smtp_timeout") standard.smtpTimeout Record.double)
  relay.apply
    (readGiven "collections" collections standard.collections (Record.list Record.text))

/-- Read the settings from named texts. -/
def read (texts : List (String × String)) : Except Problem Settings := do
  let texts := normalise texts
  let origins ← givenList texts "allowed_origins"
  let collections ← givenList texts "collections"
  (readFields texts origins collections).mapError .invalid

/-- The settings as an object. -/
def toObject (settings : Settings) : Object :=
  [("app_name", .str settings.appName), ("app_version", .str settings.appVersion),
    ("api_prefix", .str settings.apiPrefix), ("log_level", .str settings.logLevel),
    ("allowed_origins", .ofTexts settings.allowedOrigins),
    ("jwt_secret", .str settings.jwtSecret), ("jwt_algorithm", .str settings.jwtAlgorithm),
    ("jwt_expire_minutes", .int settings.jwtExpireMinutes),
    ("bcrypt_rounds", .int settings.bcryptRounds), ("smtp_host", .str settings.smtpHost),
    ("smtp_port", .int settings.smtpPort), ("smtp_user", Value.ofText? settings.smtpUser),
    ("smtp_password", Value.ofText? settings.smtpPassword),
    ("smtp_from", .str settings.smtpFrom), ("smtp_timeout", .float settings.smtpTimeout),
    ("collections", .ofTexts settings.collections)]

end Settings

end Workflow
