import RemoteQuery.Json.Decode
import RemoteQuery.Time.Instant
set_option autoImplicit false

/-! Executions of statements by the remote service: the states they pass through, and
what the service reports about one of them. -/

namespace RemoteQuery

inductive ExecutionState where
  | pending
  | queued
  | running
  | succeeded
  | failed
  | cancelled
  deriving Repr, DecidableEq, Inhabited

namespace ExecutionState

def name : ExecutionState → String
  | pending => "PENDING"
  | queued => "QUEUED"
  | running => "RUNNING"
  | succeeded => "SUCCEEDED"
  | failed => "FAILED"
  | cancelled => "CANCELLED"

def all : List ExecutionState := [pending, queued, running, succeeded, failed, cancelled]

def ofName? (name : String) : Option ExecutionState := all.find? fun state => state.name == name

def isTerminal : ExecutionState → Bool
  | succeeded | failed | cancelled => true
  | pending | queued | running => false

def decode (value : Json.Value) : Json.Decoded ExecutionState := do
  let name ← value.asVariant (all.map ExecutionState.name)
  match ofName? name with
  | some state => return state
  | none => throw (Json.Mismatch.unknownVariant name (all.map ExecutionState.name))

end ExecutionState

structure ExecutionContext where
  database : String
  workGroup : String
  outputLocation : String
  deriving Repr, DecidableEq, Inhabited

structure Statistics where
  engineMillis : Option UInt64
  totalMillis : Option UInt64
  scannedBytes : Option UInt64
  deriving Repr, DecidableEq, Inhabited

namespace Statistics

def slots : List Json.Slot := [
  .plain "engine_execution_time_ms" (Json.Value.asOption Json.Value.asCount),
  .plain "total_execution_time_ms" (Json.Value.asOption Json.Value.asCount),
  .plain "data_scanned_bytes" (Json.Value.asOption Json.Value.asCount)]

def decode (value : Json.Value) : Json.Decoded Statistics := do
  let row ← value.asRow "ExecutionStatistics" slots
  return { engineMillis := ← row.optional 0 Json.Value.asCount
           totalMillis := ← row.optional 1 Json.Value.asCount
           scannedBytes := ← row.optional 2 Json.Value.asCount }

def encodeCount (count : Option UInt64) : Json.Value :=
  Json.Value.ofOption (fun count => .ofNat count.toNat) count

def encode (statistics : Statistics) : Json.Value := .object [
  ("engine_execution_time_ms", encodeCount statistics.engineMillis),
  ("total_execution_time_ms", encodeCount statistics.totalMillis),
  ("data_scanned_bytes", encodeCount statistics.scannedBytes)]

end Statistics

structure Descriptor where
  executionId : String
  state : ExecutionState
  /-- Set once the execution has succeeded. -/
  resultLocation : Option String
  /-- Set when the execution failed or was cancelled. -/
  stateChangeReason : Option String
  submittedAt : Option Time.Instant
  completedAt : Option Time.Instant
  statistics : Option Statistics
  deriving Repr, DecidableEq, Inhabited

namespace Descriptor

def pending (executionId : String) : Descriptor :=
  { executionId := executionId, state := .pending, resultLocation := none
    stateChangeReason := none, submittedAt := none, completedAt := none, statistics := none }

def isTerminal (descriptor : Descriptor) : Bool := descriptor.state.isTerminal

def reason (descriptor : Descriptor) : String := descriptor.stateChangeReason.getD ""

def decodeInstant : Json.Value → Json.Decoded Time.Instant
  | .text text =>
      match Time.Instant.read text with
      | .ok instant => .ok instant
      | .error fault => .error (.malformed fault.message)
  | found => .error (.wrongType found "an RFC 3339 formatted date and time string")

def slots : List Json.Slot := [
  .plain "execution_id" Json.Value.asText,
  .plain "state" ExecutionState.decode,
  .plain "result_location" (Json.Value.asOption Json.Value.asText),
  .plain "state_change_reason" (Json.Value.asOption Json.Value.asText),
  .plain "submitted_at" (Json.Value.asOption decodeInstant),
  .plain "completed_at" (Json.Value.asOption decodeInstant),
  .plain "statistics" (Json.Value.asOption Statistics.decode)]

def decode (value : Json.Value) : Json.Decoded Descriptor := do
  let row ← value.asRow "ExecutionDescriptor" slots
  return { executionId := ← row.required 0 "execution_id" Json.Value.asText
           state := ← row.required 1 "state" ExecutionState.decode
           resultLocation := ← row.optional 2 Json.Value.asText
           stateChangeReason := ← row.optional 3 Json.Value.asText
           submittedAt := ← row.optional 4 decodeInstant
           completedAt := ← row.optional 5 decodeInstant
           statistics := ← row.optional 6 Statistics.decode }

def encodeInstant (instant : Time.Instant) : Json.Value := .text instant.written

def encode (descriptor : Descriptor) : Json.Value := .object [
  ("execution_id", .text descriptor.executionId),
  ("state", .text descriptor.state.name),
  ("result_location", Json.Value.ofOption .text descriptor.resultLocation),
  ("state_change_reason", Json.Value.ofOption .text descriptor.stateChangeReason),
  ("submitted_at", Json.Value.ofOption encodeInstant descriptor.submittedAt),
  ("completed_at", Json.Value.ofOption encodeInstant descriptor.completedAt),
  ("statistics", Json.Value.ofOption Statistics.encode descriptor.statistics)]

end Descriptor

end RemoteQuery
