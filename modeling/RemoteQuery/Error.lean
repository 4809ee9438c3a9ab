import RemoteQuery.Execution
set_option autoImplicit false

/-! Errors of the query pipeline.  Every error has a stable code for machines and a
message for people; a failed download also tells its cause. -/

namespace RemoteQuery

mutual

inductive QueryError where
  | submission (text : String)
  | execution (state : ExecutionState) (reason : String)
  | paginationSyntax (text : String)
  | download (path : String) (cause : Cause)
  | resultParse (text : String)
  | timeout (executionId : String) (elapsedSeconds : Nat)
  | cancelled (subject : String)
  | engine (text : String)
  | storage (text : String)
  | configuration (text : String)
  | internal (text : String)

/-- What made a download fail: the local system, or the object store. -/
inductive Cause where
  | system (text : String)
  | error (error : QueryError)

end

deriving instance Repr, DecidableEq for QueryError, Cause

instance : Inhabited QueryError := ⟨.internal ""⟩

namespace QueryError

def code : QueryError → String
  | submission _ => "SUBMISSION_ERROR"
  | execution _ _ => "EXECUTION_ERROR"
  | paginationSyntax _ => "PAGINATION_SYNTAX_ERROR"
  | download _ _ => "DOWNLOAD_ERROR"
  | resultParse _ => "RESULT_PARSE_ERROR"
  | timeout _ _ => "TIMEOUT"
  | cancelled _ => "CANCELLED"
  | engine _ => "ENGINE_ERROR"
  | storage _ => "STORAGE_ERROR"
  | configuration _ => "CONFIG_ERROR"
  | internal _ => "INTERNAL_ERROR"

def message : QueryError → String
  | submission text => s!"Submission error: {text}"
  | execution state reason => s!"Athena query error [{state.name}]: {reason}"
  | paginationSyntax text => s!"Pagination syntax error: {text}"
  | download path _ => s!"Unable to download file from S3: {path}"
  | resultParse text => s!"Result parse error: {text}"
  | timeout executionId elapsedSeconds =>
      s!"Query {executionId} did not finish within {elapsedSeconds} seconds"
  | cancelled subject => s!"Query {subject} was cancelled by the caller"
  | engine text => s!"Query engine error: {text}"
  | storage text => s!"Storage error: {text}"
  | configuration text => s!"Configuration error: {text}"
  | internal text => s!"Internal error: {text}"

end QueryError

def Cause.message : Cause → String
  | .system text => text
  | .error content => content.message

namespace QueryError

def details? : QueryError → Option String
  | download _ cause => some cause.message
  | _ => none

end QueryError

structure ErrorReport where
  code : String
  message : String
  details : Option String
  deriving Repr, DecidableEq, Inhabited

namespace ErrorReport

def ofError (error : QueryError) : ErrorReport :=
  { code := error.code, message := error.message, details := error.details? }

def detailFields : Option String → List (String × Json.Value)
  | none => []
  | some details => [("details", .text details)]

/-- The report under the key `error`; details are left out when there are none. -/
def encode (report : ErrorReport) : Json.Value := .object [("error", .object (
  [("code", .text report.code), ("message", .text report.message)]
    ++ detailFields report.details))]

def slots : List Json.Slot := [
  .plain "code" Json.Value.asText,
  .plain "message" Json.Value.asText,
  .plain "details" (Json.Value.asOption Json.Value.asText)]

def decodeDetail (value : Json.Value) : Json.Decoded ErrorReport := do
  let row ← value.asRow "ErrorDetail" slots
  return { code := ← row.required 0 "code" Json.Value.asText
           message := ← row.required 1 "message" Json.Value.asText
           details := ← row.optional 2 Json.Value.asText }

def decode (value : Json.Value) : Json.Decoded ErrorReport := do
  let row ← value.asRow "ErrorResponse" [.plain "error" decodeDetail]
  row.required 0 "error" decodeDetail

end ErrorReport

end RemoteQuery
