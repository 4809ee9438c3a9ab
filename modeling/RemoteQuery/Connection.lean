import RemoteQuery.Executor
import RemoteQuery.Materialize
import RemoteQuery.Settings
import RemoteQuery.Statement
set_option autoImplicit false

/-! Connections.  A call prepares a statement, runs it, and reads its result as far as it
is asked to.  A connection may pretend: then a call is only written down and answered
with an empty result.  A caller who has cancelled gets no result any more.  What is written
down tells neither when a call was made nor how long it took. -/

namespace RemoteQuery

structure Connection where
  tablePrefix : String
  literalPolicy : LiteralPolicy
  context : ExecutionContext
  pollPolicy : PollPolicy
  folders : ResultFolders
  deriving Inhabited

/-- A statement as it was run, or the text of the caller where none was. -/
structure LogEntry where
  query : String
  pretended : Bool
  deriving Repr, DecidableEq, Inhabited

structure Session (σ : Type) where
  world : World σ
  pretending : Bool
  logging : Bool
  log : List LogEntry

structure QueryOutput where
  rows : List Record
  artifactPath : String
  /-- Nothing when the connection is pretending. -/
  execution : Option Descriptor
  deriving Repr, DecidableEq, Inhabited

def QueryOutput.empty : QueryOutput := { rows := [], artifactPath := "", execution := none }

namespace Connection

def ofSettings (settings : Settings) : Connection :=
  { tablePrefix := settings.engine.tablePrefix
    literalPolicy := settings.literalPolicy
    context := {
      database := settings.engine.database
      workGroup := settings.engine.workGroup
      outputLocation := settings.outputLocation }
    pollPolicy := settings.pollPolicy
    folders := {
      outputFolder := settings.storage.outputFolder
      stagingPath := settings.storage.stagingPath } }

def prepare (connection : Connection) (request : Request) : Except Statement.Failure String :=
  Statement.prepare connection.tablePrefix connection.literalPolicy request

end Connection

namespace Session

variable {σ : Type}

def opened (settings : Settings) (remote : σ) (staging : Staging) : Session σ :=
  { world := {
      remote := remote, cancelled := false, clock := 0, calls := [], staging := staging }
    pretending := settings.engine.pretend
    logging := false
    log := [] }

def setPretending (session : Session σ) (pretending : Bool) : Session σ :=
  { session with pretending := pretending }

def enableLog (session : Session σ) : Session σ := { session with logging := true }

def flushLog (session : Session σ) : Session σ := { session with log := [] }

def cancel (session : Session σ) : Session σ :=
  { session with world := { session.world with cancelled := true } }

def note (session : Session σ) (query : String) (pretended : Bool) : Session σ :=
  if session.logging then
    { session with log := session.log ++ [{ query := query, pretended := pretended }] }
  else session

end Session

abbrev CallResult (α : Type) := Except Statement.Failure α

def CallResult.ofResult {α : Type} : Except QueryError α → CallResult α
  | .ok content => .ok content
  | .error error => .error (.refused error)

namespace Connection

variable {σ α : Type}

def collect (connection : Connection) (service : Service σ) (descriptor : Descriptor)
    (world : World σ) : Except QueryError QueryOutput × World σ :=
  match Artifact.ofDescriptor descriptor connection.folders.outputFolder with
  | .error error => (.error error, world)
  | .ok artifact =>
      if world.cancelled then (.error (.cancelled descriptor.executionId), world)
      else
        match service.materialize connection.folders descriptor world with
        | (.interrupted, world) => (.error (.cancelled descriptor.executionId), world)
        | (.finished (.error error), world) => (.error error, world)
        | (.finished (.ok rows), world) =>
            (.ok { rows := rows, artifactPath := artifact.objectPath
                   execution := some descriptor }, world)

def conclude (finish : Descriptor → World σ → Except QueryError α × World σ) :
    Except QueryError Descriptor × World σ → Except QueryError α × World σ
  | (.error error, world) => (.error error, world)
  | (.ok descriptor, world) => finish descriptor world

/-- Run a request and go on with the execution when it has succeeded.  A connection that
is pretending answers at once.  A request without a statement is logged as it was given;
arithmetic beyond 64 bits breaks the call off before anything is logged.  There is no
answer as long as the execution is waited for. -/
def call (connection : Connection) (service : Service σ) (pretended : α)
    (finish : Descriptor → World σ → Except QueryError α × World σ)
    (request : Request) (session : Session σ) : Option (CallResult α × Session σ) :=
  if session.pretending then some (.ok pretended, session.note request.sql true)
  else
    match connection.prepare request with
    | .error (.overflow overflow) => some (.error (.overflow overflow), session)
    | .error (.refused error) =>
        some (.error (.refused error), session.note request.sql false)
    | .ok statement =>
        (service.execute connection.pollPolicy connection.context statement session.world).map
          fun executed =>
            let (answer, world) := conclude finish executed
            (CallResult.ofResult answer, { session with world := world }.note statement false)

def statement (connection : Connection) (service : Service σ) (request : Request)
    (session : Session σ) : Option (CallResult Bool × Session σ) :=
  connection.call service true (fun _ world => (.ok true, world)) request session

def fetch (connection : Connection) (service : Service σ) (request : Request)
    (session : Session σ) : Option (CallResult QueryOutput × Session σ) :=
  connection.call service QueryOutput.empty (connection.collect service) request session

def select (connection : Connection) (service : Service σ) (request : Request)
    (session : Session σ) : Option (CallResult (List Record) × Session σ) :=
  (connection.fetch service request session).map fun (result, session) =>
    (result.map QueryOutput.rows, session)

def locate (connection : Connection) (descriptor : Descriptor) (world : World σ) :
    Except QueryError String × World σ :=
  ((Artifact.ofDescriptor descriptor connection.folders.outputFolder).map Artifact.objectPath,
    world)

def exportPath (connection : Connection) (service : Service σ) (request : Request)
    (session : Session σ) : Option (CallResult String × Session σ) :=
  connection.call service "" connection.locate request session

end Connection

end RemoteQuery
