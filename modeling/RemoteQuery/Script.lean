import RemoteQuery.Service
set_option autoImplicit false

/-! A service that answers from a script.  Each status call takes the next entry; when
none is left, the status call fails.  Objects are kept by path. -/

namespace RemoteQuery

structure ScriptedPoll where
  /-- Whether the caller cancels before the answer comes. -/
  cancels : Bool
  failure : Option String
  /-- The execution told of; the one asked for when missing. -/
  executionId : Option String
  state : ExecutionState
  resultLocation : Option String
  reason : Option String
  statistics : Option Statistics
  deriving Repr, Inhabited

structure ScriptedObject where
  content : List UInt8
  /-- The download fails once everything is written. -/
  failure : Option String
  /-- The caller cancels once everything is written, and the download never ends. -/
  hangs : Bool
  deriving Repr, Inhabited

structure Script where
  acknowledgement : String
  startFailure : Option String
  cancelsOnStart : Bool
  polls : List ScriptedPoll
  stopFailure : Option String
  objects : List (String × ScriptedObject)
  /-- Whether it is the caller who is cancelled. -/
  reachesCaller : Bool
  deriving Repr, Inhabited

namespace ScriptedPoll

/-- The status told when the execution asked for is `asked`. -/
def descriptor (poll : ScriptedPoll) (asked : String) : Descriptor :=
  { executionId := poll.executionId.getD asked
    state := poll.state
    resultLocation := poll.resultLocation
    stateChangeReason := poll.reason
    submittedAt := none
    completedAt := none
    statistics := poll.statistics }

def result (poll : ScriptedPoll) (asked : String) : Except QueryError Descriptor :=
  match poll.failure with
  | some text => .error (.engine text)
  | none => .ok (poll.descriptor asked)

end ScriptedPoll

namespace Script

def start (_ : Submission) (script : Script) : Answer String × Script :=
  let result := match script.startFailure with
    | some text => .error (.engine text)
    | none => .ok script.acknowledgement
  ({ result := result, cancels := script.cancelsOnStart && script.reachesCaller }, script)

def status (asked : String) (script : Script) : Reply Descriptor × Script :=
  match script.polls with
  | [] => (.answer { result := .error (.engine "script exhausted"), cancels := false }, script)
  | poll :: rest =>
      (.answer { result := poll.result asked, cancels := poll.cancels && script.reachesCaller },
        { script with polls := rest })

def stop (_ : String) (script : Script) : Except QueryError Unit × Script :=
  match script.stopFailure with
  | some text => (.error (.engine text), script)
  | none => (.ok (), script)

def download (path : String) (script : Script) : Download × Script :=
  match script.objects.find? fun object => object.1 == path with
  | none =>
      ({ written := []
         reply := .answer {
           result := .error (.storage s!"Object {path} not found"), cancels := false } }, script)
  | some (_, object) =>
      let reply := match object.failure with
        | some text => .answer { result := .error (.storage text), cancels := false }
        | none =>
            if object.hangs then .interrupted
            else .answer { result := .ok (), cancels := false }
      ({ written := object.content, reply := reply }, script)

def service (name : String) : Service Script :=
  { name := name
    start := start
    status := status
    stop := stop
    download := download }

end Script

end RemoteQuery
