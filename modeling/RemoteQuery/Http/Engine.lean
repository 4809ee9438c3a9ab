import RemoteQuery.Http.Peer
import RemoteQuery.Json.Reader
import RemoteQuery.Service
set_option autoImplicit false

/-! The engine over HTTP.  Every operation is a POST of a JSON object to the endpoint; a
header names the operation.  Answers are JSON; an error may name its type and message. -/

namespace RemoteQuery.Http

def contentType : String := "application/x-amz-json-1.1"

def targetOf (operation : String) : String := "AmazonAthena." ++ operation

structure Engine where
  endpoint : Url
  deriving Inhabited

namespace Engine

def name : String := "athena"

def isSlash (c : Char) : Bool := c == '/'

/-- The engine at the URL of a text, without slashes at its end. -/
def ofText (text : String) : Except QueryError Engine :=
  match readEndpoint "Athena" text with
  | .error reason => .error (.configuration reason)
  | .ok url =>
      let trimmed := String.ofList (Text.dropEndWhile isSlash url.text)
      match readEndpoint "Athena" trimmed with
      | .error reason => .error (.configuration reason)
      | .ok url => .ok { endpoint := url }

/-! ### Requests -/

def startFields (submission : Submission) (token : String) : Json.Value := .object [
  ("QueryString", .text submission.statement),
  ("QueryExecutionContext", .object [("Database", .text submission.context.database)]),
  ("ResultConfiguration",
    .object [("OutputLocation", .text submission.context.outputLocation)]),
  ("WorkGroup", .text submission.context.workGroup),
  ("ClientRequestToken", .text token)]

def idFields (executionId : String) : Json.Value :=
  .object [("QueryExecutionId", .text executionId)]

def requestOf (engine : Engine) (operation : String) (fields : Json.Value) : Request :=
  { method := .post
    url := engine.endpoint
    contentType := some contentType
    target := some (targetOf operation)
    body := some fields }

/-! ### Answers -/

def startSlots : List Json.Slot :=
  [.loose "QueryExecutionId" (Json.Value.asOption Json.Value.asText)]

/-- The identifier of a new execution; empty when the engine told none. -/
def decodeStart (value : Json.Value) : Json.Decoded String := do
  let row ← value.asRow "StartQueryExecutionResponse" startSlots
  return (← row.optional 0 Json.Value.asText).getD ""

def configurationSlots : List Json.Slot :=
  [.loose "OutputLocation" (Json.Value.asOption Json.Value.asText)]

def decodeConfiguration (value : Json.Value) : Json.Decoded (Option String) := do
  let row ← value.asRow "ResultConfiguration" configurationSlots
  row.optional 0 Json.Value.asText

structure StatusFields where
  state : ExecutionState
  reason : Option String
  submitted : Option Float
  completed : Option Float

def statusSlots : List Json.Slot := [
  .plain "State" ExecutionState.decode,
  .loose "StateChangeReason" (Json.Value.asOption Json.Value.asText),
  .loose "SubmissionDateTime" (Json.Value.asOption Json.Value.asReal),
  .loose "CompletionDateTime" (Json.Value.asOption Json.Value.asReal)]

def decodeStatus (value : Json.Value) : Json.Decoded StatusFields := do
  let row ← value.asRow "QueryExecutionStatus" statusSlots
  return { state := ← row.required 0 "State" ExecutionState.decode
           reason := ← row.optional 1 Json.Value.asText
           submitted := ← row.optional 2 Json.Value.asReal
           completed := ← row.optional 3 Json.Value.asReal }

def statisticsSlots : List Json.Slot := [
  .loose "EngineExecutionTimeInMillis" (Json.Value.asOption Json.Value.asCount),
  .loose "TotalExecutionTimeInMillis" (Json.Value.asOption Json.Value.asCount),
  .loose "DataScannedInBytes" (Json.Value.asOption Json.Value.asCount)]

def decodeStatistics (value : Json.Value) : Json.Decoded Statistics := do
  let row ← value.asRow "QueryExecutionStatistics" statisticsSlots
  return { engineMillis := ← row.optional 0 Json.Value.asCount
           totalMillis := ← row.optional 1 Json.Value.asCount
           scannedBytes := ← row.optional 2 Json.Value.asCount }

def instantOfSeconds (seconds : Float) : Option Time.Instant :=
  Time.Instant.ofMillis (Decimal.truncated (seconds * Decimal.ofInt 1000))

def executionSlots : List Json.Slot := [
  .plain "QueryExecutionId" Json.Value.asText,
  .loose "ResultConfiguration" (Json.Value.asOption decodeConfiguration),
  .plain "Status" decodeStatus,
  .loose "Statistics" (Json.Value.asOption decodeStatistics)]

def decodeExecution (value : Json.Value) : Json.Decoded Descriptor := do
  let row ← value.asRow "QueryExecution" executionSlots
  let executionId ← row.required 0 "QueryExecutionId" Json.Value.asText
  let configuration ← row.optional 1 decodeConfiguration
  let status ← row.required 2 "Status" decodeStatus
  let statistics ← row.optional 3 decodeStatistics
  return { executionId := executionId
           state := status.state
           resultLocation := configuration.join
           stateChangeReason := status.reason
           submittedAt := status.submitted.bind instantOfSeconds
           completedAt := status.completed.bind instantOfSeconds
           statistics := statistics }

def decodeGet (value : Json.Value) : Json.Decoded Descriptor := do
  let row ← value.asRow "GetQueryExecutionResponse" [.plain "QueryExecution" decodeExecution]
  row.required 0 "QueryExecution" decodeExecution

/-- How deeply an answer may be nested that is only looked at as a whole. -/
def depthLimit : Nat := 127

def decodeAny (value : Json.Value) : Json.Decoded Unit :=
  if value.isUsable && value.depth ≤ depthLimit then .ok ()
  else .error (.malformed "recursion limit exceeded")

structure ServiceError where
  kind : Option String
  message : Option String

def errorSlots : List Json.Slot := [
  .loose "__type" (Json.Value.asOption Json.Value.asText),
  { Json.Slot.loose "message" (Json.Value.asOption Json.Value.asText) with
    otherNames := ["Message"] }]

def decodeError (value : Json.Value) : Json.Decoded ServiceError := do
  let row ← value.asRow "ServiceError" errorSlots
  return { kind := ← row.optional 0 Json.Value.asText
           message := ← row.optional 1 Json.Value.asText }

/-- What an error says: its type and message, or its body as it is. -/
def errorDetail (text : String) : String :=
  match Json.read? text with
  | none => text
  | some value =>
      match decodeError value with
      | .ok { kind := some kind, message } => kind ++ ": " ++ message.getD ""
      | _ => text

def decodeBody {α : Type} (decode : Json.Value → Json.Decoded α) (body : Body) : Option α := do
  let bytes ← body.bytes?
  let text ← Text.decode? bytes
  let value ← Json.read? text
  (decode value).toOption

def readAnswer {α : Type} (operation : String) (decode : Json.Value → Json.Decoded α)
    (status : Nat) (body : Body) : Except QueryError α :=
  if !isSuccess status then
    .error (.engine
      s!"{operation} failed ({statusText status}): {errorDetail (errorText body)}")
  else
    match decodeBody decode body with
    | some content => .ok content
    | none => .error (.engine s!"Failed to parse {operation} response: {bodyFailed}")

def call {α : Type} (engine : Engine) (operation : String) (fields : Json.Value)
    (decode : Json.Value → Json.Decoded α) (peer : Peer) : Reply α × Peer :=
  let (response, after) := peer.exchange (engine.requestOf operation fields)
  let reply := match response with
    | .answered status body =>
        .answer { result := readAnswer operation decode status body, cancels := false }
    | .dropped =>
        .answer {
          result := .error (.engine
            s!"{operation} request failed: {sendingFailed engine.endpoint}")
          cancels := false }
    | .interrupted => .interrupted
  (reply, after)

/-- An answer where one is waited for in any case: giving up counts as no answer. -/
def settled {α : Type} (engine : Engine) (operation : String) : Reply α → Answer α
  | .answer answer => answer
  | .interrupted =>
      { result := .error (.engine
          s!"{operation} request failed: {sendingFailed engine.endpoint}")
        cancels := true }

def start (engine : Engine) (token : String) (submission : Submission) (peer : Peer) :
    Answer String × Peer :=
  let (reply, after) :=
    engine.call "StartQueryExecution" (startFields submission token) decodeStart peer
  (engine.settled "StartQueryExecution" reply, after)

def status (engine : Engine) (executionId : String) (peer : Peer) : Reply Descriptor × Peer :=
  engine.call "GetQueryExecution" (idFields executionId) decodeGet peer

def stop (engine : Engine) (executionId : String) (peer : Peer) :
    Except QueryError Unit × Peer :=
  let (reply, after) := engine.call "StopQueryExecution" (idFields executionId) decodeAny peer
  ((engine.settled "StopQueryExecution" reply).result, after)

end Engine

end RemoteQuery.Http
