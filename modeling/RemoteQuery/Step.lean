import RemoteQuery.Connection
set_option autoImplicit false

/-! Runs of steps on a connection.  A caller prepares statements, runs requests in one of
four modes, keeps a log, pretends, or cancels.  A run ends early at a step that is waited
for without end. -/

namespace RemoteQuery

inductive Mode where
  | statement
  | select
  | fetch
  | exportPath
  deriving Repr, DecidableEq, Inhabited

inductive Step where
  | prepare (request : Request)
  | query (mode : Mode) (request : Request)
  | setPretending (pretending : Bool)
  | enableLog
  | flushLog
  | readLog
  | cancel
  deriving Inhabited

inductive StepResult where
  | refused (failure : Statement.Failure)
  | done
  | flag (value : Bool)
  | text (content : String)
  | records (records : List Record)
  | output (output : QueryOutput)
  | log (entries : List LogEntry)
  deriving Repr, DecidableEq, Inhabited

namespace StepResult

def ofCall {α : Type} (content : α → StepResult) : CallResult α → StepResult
  | .ok value => content value
  | .error failure => refused failure

def ofAnswered {α σ : Type} (content : α → StepResult) (answered : CallResult α × Session σ) :
    StepResult × Session σ :=
  (ofCall content answered.1, answered.2)

end StepResult

namespace Connection

variable {σ : Type}

def query (connection : Connection) (service : Service σ) (mode : Mode) (request : Request)
    (session : Session σ) : Option (StepResult × Session σ) :=
  match mode with
  | .statement =>
      (connection.statement service request session).map (StepResult.ofAnswered .flag)
  | .select => (connection.select service request session).map (StepResult.ofAnswered .records)
  | .fetch => (connection.fetch service request session).map (StepResult.ofAnswered .output)
  | .exportPath =>
      (connection.exportPath service request session).map (StepResult.ofAnswered .text)

/-- Take a step; nothing when it is waited for without end. -/
def perform (connection : Connection) (service : Service σ) (step : Step)
    (session : Session σ) : Option (StepResult × Session σ) :=
  match step with
  | .prepare request => some (.ofCall .text (connection.prepare request), session)
  | .query mode request => connection.query service mode request session
  | .setPretending pretending => some (.flag pretending, session.setPretending pretending)
  | .enableLog => some (.done, session.enableLog)
  | .flushLog => some (.done, session.flushLog)
  | .readLog => some (.log session.log, session)
  | .cancel => some (.flag true, session.cancel)

end Connection

/-- A step that was taken, with the sessions before and after it. -/
structure Moment (σ : Type) where
  step : Step
  before : Session σ
  result : StepResult
  after : Session σ

namespace Connection

variable {σ : Type}

/-- Take steps one after the other, up to one that is waited for without end. -/
def run (connection : Connection) (service : Service σ) : List Step → Session σ → List (Moment σ)
  | [], _ => []
  | step :: rest, session =>
      match connection.perform service step session with
      | none => []
      | some (result, after) =>
          { step := step, before := session, result := result, after := after }
            :: connection.run service rest after

end Connection

end RemoteQuery
