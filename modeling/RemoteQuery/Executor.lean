import RemoteQuery.Poll
import RemoteQuery.Service
import RemoteQuery.Text.Blank
import RemoteQuery.Text.Case
import RemoteQuery.Text.Search
set_option autoImplicit false

/-! Running a statement.  It is submitted and then polled until it is over, the deadline
has passed, or the caller cancels; in the last two cases the service is asked to stop.
Without a deadline nothing ends the wait for an execution that never ends.  Who cancels
while the wait sleeps is taken for one who had cancelled when the sleep began, since the
same stop and the same error follow.

The deadline is the start and the timeout added as natural numbers.  A clock that counts
its seconds in a signed word of 64 bits has no room for the sum when the timeout is close
to 2 ^ 63 seconds or more, and would fail there; such a timeout is not told apart here from
any other that is not reached. -/

namespace RemoteQuery

namespace Descriptor

/-- The reason that makes a failure no failure: what was to be added is there already. -/
def absorbedReason : String := "partition already exists"

/-- A failed or cancelled execution is an error unless its reason is absorbed. -/
def resolveFailure (descriptor : Descriptor) : Except QueryError Descriptor :=
  if Text.hasInfix absorbedReason.toList (Text.lowercase descriptor.reason.toList) then
    .ok descriptor
  else .error (.execution descriptor.state descriptor.reason)

def resolve (descriptor : Descriptor) : Except QueryError Descriptor :=
  match descriptor.state with
  | .failed | .cancelled => descriptor.resolveFailure
  | _ => .ok descriptor

end Descriptor

/-- A number divided, a remainder counting as one more. -/
def dividedUp (number divisor : Nat) : Nat := (number + divisor - 1) / divisor

namespace Service

variable {σ : Type}

structure Wait where
  executionId : String
  /-- Nanoseconds to the next poll. -/
  interval : Nat
  /-- When the wait began, in milliseconds. -/
  started : Nat

inductive Turn (σ : Type) where
  | ended (result : Except QueryError Descriptor) (world : World σ)
  | again (wait : Wait) (world : World σ)

/-- The caller has cancelled: ask the service to stop, and report it. -/
def giveUp (service : Service σ) (executionId : String) (world : World σ) : Turn σ :=
  .ended (.error (.cancelled executionId)) (service.callStop executionId world)

/-- How long to sleep before the next poll, or nothing when the deadline has passed. -/
def pause? (policy : PollPolicy) (wait : Wait) (clock : Nat) : Option Nat :=
  match policy.timeout with
  | none => some wait.interval
  | some timeout =>
      let deadline := wait.started * nanosPerMilli + timeout
      let now := clock * nanosPerMilli
      if deadline ≤ now then none else some (min wait.interval (deadline - now))

def heed (service : Service σ) (policy : PollPolicy) (wait : Wait) (descriptor : Descriptor)
    (world : World σ) : Turn σ :=
  if descriptor.isTerminal then .ended descriptor.resolve world
  else
    match pause? policy wait world.clock with
    | none =>
        let elapsedSeconds := (world.clock - wait.started) / 1000
        .ended (.error (.timeout descriptor.executionId elapsedSeconds))
          (service.callStop descriptor.executionId world)
    | some pause =>
        if world.cancelled then service.giveUp descriptor.executionId world
        else
          .again
            { wait with
              executionId := descriptor.executionId
              interval := policy.nextInterval wait.interval }
            { world with clock := world.clock + dividedUp pause nanosPerMilli }

def turn (service : Service σ) (policy : PollPolicy) (wait : Wait) (world : World σ) : Turn σ :=
  if world.cancelled then service.giveUp wait.executionId world
  else
    match service.callStatus wait.executionId world with
    | (.interrupted, world) => service.giveUp wait.executionId world
    | (.answer { result := .error error, .. }, world) => .ended (.error error) world
    | (.answer { result := .ok descriptor, .. }, world) =>
        service.heed policy wait descriptor world

/-- Poll an execution until the wait is over; nothing when it never is. -/
def await (service : Service σ) (policy : PollPolicy) (wait : Wait) (world : World σ) :
    Option (Except QueryError Descriptor × World σ) :=
  match service.turn policy wait world with
  | .ended result world => some (result, world)
  | .again wait world => service |>.await policy wait world
partial_fixpoint

def execute (service : Service σ) (policy : PollPolicy) (context : ExecutionContext)
    (statement : String) (world : World σ) : Option (Except QueryError Descriptor × World σ) :=
  if world.cancelled then some (.error (.cancelled "cancelled before submission"), world)
  else
    match service.callStart { statement := statement, context := context } world with
    | (.error error, world) => some (.error error, world)
    | (.ok executionId, world) =>
        if Text.isBlankText executionId then
          some (.error
            (.submission s!"{service.name} did not acknowledge the query submission"), world)
        else
          service.await policy
            { executionId := executionId, interval := policy.interval, started := world.clock }
            world

end Service

end RemoteQuery
