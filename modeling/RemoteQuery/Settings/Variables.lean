import RemoteQuery.Decimal.Read
import RemoteQuery.Environment
import RemoteQuery.Settings
import RemoteQuery.Text.Case
import RemoteQuery.Text.Shown
set_option autoImplicit false

/-! Settings from environment variables.  A variable that is not set leaves the standard
value; one that is set counts even when it is empty.  Switches are given as words,
numbers as decimals or as the words of a switch. -/

namespace RemoteQuery

structure SettingMismatch where
  text : String
  expected : String
  setting : String
  deriving Repr, DecidableEq, Inhabited

def SettingMismatch.message (mismatch : SettingMismatch) : String :=
  s!"invalid type: string {Text.shown mismatch.text}, expected {mismatch.expected} for key "
    ++ s!"`{mismatch.setting}`"

def SettingMismatch.error (mismatch : SettingMismatch) : QueryError :=
  .configuration mismatch.message

namespace Settings

def standard : Settings :=
  { engine := {
      region := "us-east-1", database := "", tablePrefix := "", workGroup := "primary"
      endpoint := none, pretend := false, escapeBindings := false }
    storage := { bucket := "", outputFolder := "", stagingPath := "./storage", endpoint := none }
    poll := {
      intervalMillis := 1000, maxIntervalMillis := 1000, backoffFactor := Decimal.ofInt 1
      timeoutSeconds := 1800 }
    logLevel := "info" }

def lowered (text : String) : String := String.ofList (Text.lowercase text.toList)

def switchOfWord? (word : String) : Option Bool :=
  if ["true", "on", "yes"].contains (lowered word) then some true
  else if ["false", "off", "no"].contains (lowered word) then some false
  else none

def switchOfText? (text : String) : Option Bool :=
  if text = "1" then some true else if text = "0" then some false else switchOfWord? text

/-- A switch; a text that is none is reported in lower case. -/
def readSwitch (setting text : String) : Except SettingMismatch Bool :=
  match switchOfText? text with
  | some switch => .ok switch
  | none => .error { text := lowered text, expected := "a boolean", setting := setting }

def readCount (setting text : String) : Except SettingMismatch UInt64 :=
  match switchOfWord? text, Decimal.readCount? text with
  | some switch, _ => .ok (if switch then 1 else 0)
  | none, some count => .ok count
  | none, none => .error { text := text, expected := "an integer", setting := setting }

def readFactor (setting text : String) : Except SettingMismatch Float :=
  match switchOfWord? text, Decimal.read? text with
  | some switch, _ => .ok (Decimal.ofInt (if switch then 1 else 0))
  | none, some factor => .ok factor
  | none, none => .error { text := text, expected := "a floating point", setting := setting }

def readVariable {α : Type} (read : String → Except SettingMismatch α) (fallback : α)
    (variableName : String) (environment : Environment) : Except SettingMismatch α :=
  match environment.get? variableName with
  | none => .ok fallback
  | some text => read text

def variableNames : List String := [
  "ATHENA_AWS_REGION", "ATHENA_DB", "ATHENA_TABLE_PREFIX", "ATHENA_WORK_GROUP",
  "ATHENA_ENDPOINT", "ATHENA_PRETEND", "ATHENA_ESCAPE_BINDINGS", "ATHENA_S3_BUCKET",
  "ATHENA_OUTPUT_FOLDER", "ATHENA_STAGING_DIR", "ATHENA_S3_ENDPOINT",
  "ATHENA_POLL_INTERVAL_MS", "ATHENA_POLL_MAX_INTERVAL_MS", "ATHENA_POLL_BACKOFF",
  "ATHENA_POLL_TIMEOUT_SECS", "RUST_LOG"]

def ofEnvironment (environment : Environment) : Except SettingMismatch Settings := do
  let text (variableName fallback : String) : String :=
    (environment.get? variableName).getD fallback
  let pretend ← readVariable (readSwitch "athena.pretend") standard.engine.pretend
    "ATHENA_PRETEND" environment
  let escapeBindings ← readVariable (readSwitch "athena.escape_bindings")
    standard.engine.escapeBindings "ATHENA_ESCAPE_BINDINGS" environment
  let intervalMillis ← readVariable (readCount "polling.interval_ms")
    standard.poll.intervalMillis "ATHENA_POLL_INTERVAL_MS" environment
  let maxIntervalMillis ← readVariable (readCount "polling.max_interval_ms")
    standard.poll.maxIntervalMillis "ATHENA_POLL_MAX_INTERVAL_MS" environment
  let backoffFactor ← readVariable (readFactor "polling.backoff_factor")
    standard.poll.backoffFactor "ATHENA_POLL_BACKOFF" environment
  let timeoutSeconds ← readVariable (readCount "polling.timeout_secs")
    standard.poll.timeoutSeconds "ATHENA_POLL_TIMEOUT_SECS" environment
  return {
    engine := {
      region := text "ATHENA_AWS_REGION" standard.engine.region
      database := text "ATHENA_DB" standard.engine.database
      tablePrefix := text "ATHENA_TABLE_PREFIX" standard.engine.tablePrefix
      workGroup := text "ATHENA_WORK_GROUP" standard.engine.workGroup
      endpoint := environment.get? "ATHENA_ENDPOINT"
      pretend := pretend
      escapeBindings := escapeBindings }
    storage := {
      bucket := text "ATHENA_S3_BUCKET" standard.storage.bucket
      outputFolder := text "ATHENA_OUTPUT_FOLDER" standard.storage.outputFolder
      stagingPath := text "ATHENA_STAGING_DIR" standard.storage.stagingPath
      endpoint := environment.get? "ATHENA_S3_ENDPOINT" }
    poll := {
      intervalMillis := intervalMillis
      maxIntervalMillis := maxIntervalMillis
      backoffFactor := backoffFactor
      timeoutSeconds := timeoutSeconds }
    logLevel := text "RUST_LOG" standard.logLevel }

end Settings

end RemoteQuery
