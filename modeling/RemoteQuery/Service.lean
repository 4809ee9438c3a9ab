import RemoteQuery.Error
import RemoteQuery.Staging
set_option autoImplicit false

/-! The remote service: an engine that runs statements and tells their status, and a
store that keeps their results.  A service is given by its answers and by how they change
it.  The caller may cancel while a call is pending; a call that is given up has no
answer.  Nothing says that an execution ever comes to its end.

A call takes no time: the clock moves by the sleeps between polls and by nothing else.  An
answer that is slow to come is not told apart from a quick one, so neither the seconds that
a timeout names nor the passing of a deadline depends on how long the service took. -/

namespace RemoteQuery

structure Submission where
  statement : String
  context : ExecutionContext
  deriving Repr, DecidableEq, Inhabited

/-- The answer to a call, and whether the caller cancelled while it was pending. -/
structure Answer (α : Type) where
  result : Except QueryError α
  cancels : Bool

inductive Reply (α : Type) where
  | answer (answer : Answer α)
  /-- The caller cancelled, and no answer came. -/
  | interrupted

def Reply.cancels {α : Type} : Reply α → Bool
  | .answer told => told.cancels
  | .interrupted => true

/-- What a download wrote before it ended, and how it ended. -/
structure Download where
  written : List UInt8
  reply : Reply Unit

structure Service (σ : Type) where
  name : String
  start : Submission → σ → Answer String × σ
  status : String → σ → Reply Descriptor × σ
  stop : String → σ → Except QueryError Unit × σ
  download : String → σ → Download × σ

/-- A call to the service.  A poll also tells the milliseconds on the clock. -/
inductive Call where
  | start (submission : Submission)
  | poll (executionId : String) (clock : Nat)
  | stop (executionId : String)
  | download (objectPath : String)
  deriving Repr, DecidableEq, Inhabited

/-- What calls depend on and change: the service, whether the caller has cancelled, the
milliseconds on the clock, the calls made so far, and the staging folder. -/
@[ext] structure World (σ : Type) where
  remote : σ
  cancelled : Bool
  clock : Nat
  calls : List Call
  staging : Staging

namespace World

variable {σ : Type}

def record (world : World σ) (call : Call) : World σ :=
  { world with calls := world.calls ++ [call] }

def after (world : World σ) (remote : σ) (cancels : Bool) : World σ :=
  { world with remote := remote, cancelled := world.cancelled || cancels }

end World

namespace Service

variable {σ : Type}

def callStart (service : Service σ) (submission : Submission) (world : World σ) :
    Except QueryError String × World σ :=
  let (answer, remote) := service.start submission world.remote
  (answer.result, (world.record (.start submission)).after remote answer.cancels)

def callStatus (service : Service σ) (executionId : String) (world : World σ) :
    Reply Descriptor × World σ :=
  let (reply, remote) := service.status executionId world.remote
  (reply, (world.record (.poll executionId world.clock)).after remote reply.cancels)

/-- Ask the service to stop an execution.  Whether it does makes no difference. -/
def callStop (service : Service σ) (executionId : String) (world : World σ) : World σ :=
  let (_, remote) := service.stop executionId world.remote
  (world.record (.stop executionId)).after remote false

def callDownload (service : Service σ) (objectPath : String) (world : World σ) :
    Download × World σ :=
  let (download, remote) := service.download objectPath world.remote
  (download, (world.record (.download objectPath)).after remote download.reply.cancels)

end Service

end RemoteQuery
