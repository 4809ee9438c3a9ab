import RemoteQuery.Error
import RemoteQuery.Literal
import RemoteQuery.Poll
import RemoteQuery.Text.Blank
set_option autoImplicit false

/-! Settings of a connection, and what they have to satisfy before one is opened. -/

namespace RemoteQuery

structure EngineSettings where
  region : String
  database : String
  tablePrefix : String
  workGroup : String
  endpoint : Option String
  pretend : Bool
  escapeBindings : Bool
  deriving Repr, DecidableEq, Inhabited

structure StorageSettings where
  bucket : String
  outputFolder : String
  stagingPath : String
  endpoint : Option String
  deriving Repr, DecidableEq, Inhabited

structure PollSettings where
  intervalMillis : UInt64
  maxIntervalMillis : UInt64
  backoffFactor : Float
  /-- Zero for no deadline. -/
  timeoutSeconds : UInt64
  deriving Repr, Inhabited

structure Settings where
  engine : EngineSettings
  storage : StorageSettings
  poll : PollSettings
  logLevel : String
  deriving Repr, Inhabited

namespace Settings

def maxBackoffFactor : Float := Decimal.ofInt 10

/-- An endpoint without blanks around it; a missing or blank one is an error that names
the variable. -/
def requiredEndpoint (endpoint : Option String) (variableName : String) :
    Except QueryError String :=
  match endpoint.map Text.trimmed with
  | some endpoint =>
      if endpoint.isEmpty then missing else .ok endpoint
  | none => missing
where
  missing : Except QueryError String :=
    .error (.configuration (variableName ++ " must be set, requests are not signed so a gateway "
      ++ "or emulator endpoint is required"))

def engineEndpoint (settings : Settings) : Except QueryError String :=
  requiredEndpoint settings.engine.endpoint "ATHENA_ENDPOINT"

def storeEndpoint (settings : Settings) : Except QueryError String :=
  requiredEndpoint settings.storage.endpoint "ATHENA_S3_ENDPOINT"

def requireText (text variableName : String) : Except QueryError Unit :=
  if Text.isBlankText text then .error (.configuration (variableName ++ " must be set"))
  else .ok ()

def isBackoffFactor (factor : Float) : Bool :=
  Decimal.isFinite factor && Decimal.ofInt 1 ≤ factor && factor ≤ maxBackoffFactor

/-- Whether a connection can be opened with the settings: the first thing missing or out
of bounds. -/
def validate (settings : Settings) : Except QueryError Unit := do
  requireText settings.engine.database "ATHENA_DB"
  requireText settings.storage.bucket "ATHENA_S3_BUCKET"
  requireText settings.storage.outputFolder "ATHENA_OUTPUT_FOLDER"
  discard settings.engineEndpoint
  discard settings.storeEndpoint
  if !isBackoffFactor settings.poll.backoffFactor then
    throw (QueryError.configuration
      (s!"ATHENA_POLL_BACKOFF must be between 1.0 and {Decimal.plain maxBackoffFactor}, "
        ++ s!"got {Decimal.plain settings.poll.backoffFactor}"))
  if settings.poll.intervalMillis = 0 then
    throw (QueryError.configuration "ATHENA_POLL_INTERVAL_MS must be greater than 0")

def outputLocation (settings : Settings) : String :=
  let folder := Text.dropAroundWhile (fun c => c == '/') settings.storage.outputFolder.toList
  s!"s3://{settings.storage.bucket}/{String.ofList folder}"

def pollPolicy (settings : Settings) : PollPolicy :=
  { interval := settings.poll.intervalMillis.toNat * nanosPerMilli
    maxInterval := settings.poll.maxIntervalMillis.toNat * nanosPerMilli
    backoffFactor := settings.poll.backoffFactor
    timeout :=
      if settings.poll.timeoutSeconds = 0 then none
      else some (settings.poll.timeoutSeconds.toNat * nanosPerSecond) }

def literalPolicy (settings : Settings) : LiteralPolicy :=
  if settings.engine.escapeBindings then .escapeQuotes else .verbatim

end Settings

end RemoteQuery
