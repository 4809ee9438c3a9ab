import RemoteQuery.Executor
import RemoteQuery.Proofs.Calls
set_option autoImplicit false

/-! What the wait for an execution can do.  One turn has seven outcomes, told apart by
the token, the reply to the status call, and the deadline; every property of a whole wait
follows from them by induction over its turns.  A statement that is run is waited for
once the service has accepted it. -/

namespace RemoteQuery.Service

variable {σ : Type} {service : Service σ} {policy : PollPolicy}

def pollReply (service : Service σ) (wait : Wait) (world : World σ) : Reply Descriptor :=
  (service.status wait.executionId world.remote).1

def polled (service : Service σ) (wait : Wait) (world : World σ) : World σ :=
  service.made (.poll wait.executionId world.clock) world

inductive Turned (service : Service σ) (policy : PollPolicy) (wait : Wait) (world : World σ) :
    Turn σ → Prop where
  | cancelledBefore (cancelled : world.cancelled = true) :
      Turned service policy wait world
        (.ended (.error (.cancelled wait.executionId))
          (service.made (.stop wait.executionId) world))
  | interrupted (live : world.cancelled = false)
      (reply : service.pollReply wait world = .interrupted) :
      Turned service policy wait world
        (.ended (.error (.cancelled wait.executionId))
          (service.made (.stop wait.executionId) (service.polled wait world)))
  | refused (live : world.cancelled = false) (error : QueryError) (cancels : Bool)
      (reply : service.pollReply wait world
        = .answer { result := .error error, cancels := cancels }) :
      Turned service policy wait world (.ended (.error error) (service.polled wait world))
  | ended (live : world.cancelled = false) (descriptor : Descriptor) (cancels : Bool)
      (reply : service.pollReply wait world
        = .answer { result := .ok descriptor, cancels := cancels })
      (terminal : descriptor.isTerminal = true) :
      Turned service policy wait world (.ended descriptor.resolve (service.polled wait world))
  | late (live : world.cancelled = false) (descriptor : Descriptor) (cancels : Bool)
      (reply : service.pollReply wait world
        = .answer { result := .ok descriptor, cancels := cancels })
      (going : descriptor.isTerminal = false)
      (passed : pause? policy wait world.clock = none) :
      Turned service policy wait world
        (.ended
          (.error (.timeout descriptor.executionId ((world.clock - wait.started) / 1000)))
          (service.made (.stop descriptor.executionId) (service.polled wait world)))
  | cancelledMeanwhile (live : world.cancelled = false) (descriptor : Descriptor)
      (pause : Nat)
      (reply : service.pollReply wait world
        = .answer { result := .ok descriptor, cancels := true })
      (going : descriptor.isTerminal = false)
      (due : pause? policy wait world.clock = some pause) :
      Turned service policy wait world
        (.ended (.error (.cancelled descriptor.executionId))
          (service.made (.stop descriptor.executionId) (service.polled wait world)))
  | again (live : world.cancelled = false) (descriptor : Descriptor) (pause : Nat)
      (reply : service.pollReply wait world
        = .answer { result := .ok descriptor, cancels := false })
      (going : descriptor.isTerminal = false)
      (due : pause? policy wait world.clock = some pause) :
      Turned service policy wait world
        (.again
          { wait with
            executionId := descriptor.executionId
            interval := policy.nextInterval wait.interval }
          { service.polled wait world with
            clock := world.clock + dividedUp pause nanosPerMilli })

theorem polled_cancelled (service : Service σ) (wait : Wait) (world : World σ)
    (live : world.cancelled = false) :
    (service.polled wait world).cancelled = (service.pollReply wait world).cancels := by
  rw [polled, made_cancelled, live, Bool.false_or]
  rfl

theorem turn_live (wait : Wait) (world : World σ) (live : world.cancelled = false) :
    service.turn policy wait world =
      match service.pollReply wait world with
      | .interrupted => service.giveUp wait.executionId (service.polled wait world)
      | .answer { result := .error error, .. } =>
          .ended (.error error) (service.polled wait world)
      | .answer { result := .ok descriptor, .. } =>
          service.heed policy wait descriptor (service.polled wait world) := by
  rw [turn, live, if_neg Bool.false_ne_true, callStatus_eq, pollReply, polled]
  cases (service.status wait.executionId world.remote).1 with
  | interrupted => rfl
  | answer answer =>
      obtain ⟨result, cancels⟩ := answer
      cases result with
      | error error => rfl
      | ok descriptor => rfl

theorem turn_turned (service : Service σ) (policy : PollPolicy) (wait : Wait) (world : World σ) :
    Turned service policy wait world (service.turn policy wait world) := by
  cases live : world.cancelled with
  | true =>
      rw [turn, live, if_pos rfl]
      exact .cancelledBefore live
  | false =>
      have cancelled := service.polled_cancelled wait world live
      rw [turn_live wait world live]
      cases reply : service.pollReply wait world with
      | interrupted => exact .interrupted live reply
      | answer answer =>
          obtain ⟨result, cancels⟩ := answer
          cases result with
          | error error => exact .refused live error cancels reply
          | ok descriptor =>
              rw [reply] at cancelled
              change (service.polled wait world).cancelled = cancels at cancelled
              cases terminal : descriptor.isTerminal with
              | true =>
                  simp only [heed, terminal, if_true]
                  exact .ended live descriptor cancels reply terminal
              | false =>
                  cases due : pause? policy wait world.clock with
                  | none =>
                      simp only [heed, terminal, Bool.false_eq_true, if_false, polled,
                        made_clock, due]
                      exact .late live descriptor cancels reply terminal due
                  | some pause =>
                      simp only [heed, terminal, Bool.false_eq_true, if_false, polled,
                        made_clock, due]
                      change Turned service policy wait world
                        (if (service.polled wait world).cancelled = true then _ else _)
                      rw [cancelled]
                      cases cancels with
                      | true => exact .cancelledMeanwhile live descriptor pause reply terminal due
                      | false => exact .again live descriptor pause reply terminal due

/-! ### Whole waits -/

theorem await_of_ended {wait : Wait} {world after : World σ}
    {result : Except QueryError Descriptor}
    (ended : service.turn policy wait world = .ended result after) :
    service.await policy wait world = some (result, after) := by
  rw [await, ended]

theorem await_of_again {wait next : Wait} {world after : World σ}
    (going : service.turn policy wait world = .again next after) :
    service.await policy wait world = service.await policy next after := by
  rw [await, going]

/-- What holds of a wait that ends with its first turn, and goes over from the rest of a
wait to all of it, holds of every wait that comes to an end. -/
theorem await_induction
    {motive : Wait → World σ → Except QueryError Descriptor → World σ → Prop}
    (finished : ∀ wait world result after,
      service.turn policy wait world = .ended result after → motive wait world result after)
    (again : ∀ wait world next between result after,
      service.turn policy wait world = .again next between →
      motive next between result after → motive wait world result after)
    {wait : Wait} {world after : World σ} {result : Except QueryError Descriptor}
    (ended : service.await policy wait world = some (result, after)) :
    motive wait world result after := by
  refine await.partial_correctness service policy
    (fun wait world ended => motive wait world ended.1 ended.2) ?_ wait world (result, after) ended
  intro rest inductionHypothesis wait world ended came
  cases turned : service.turn policy wait world with
  | ended result after =>
      rw [turned] at came
      cases came
      exact finished wait world result after turned
  | again next between =>
      rw [turned] at came
      exact again wait world next between ended.1 ended.2 turned
        (inductionHypothesis next between ended came)

/-- A wait whose turns go on along a sequence of states comes to what the wait from any
one of them comes to. -/
theorem await_along (service : Service σ) (policy : PollPolicy) (waits : Nat → Wait)
    (worlds : Nat → World σ) (count : Nat)
    (going : ∀ turn, turn < count → service.turn policy (waits turn) (worlds turn)
      = .again (waits (turn + 1)) (worlds (turn + 1))) :
    service.await policy (waits 0) (worlds 0)
      = service.await policy (waits count) (worlds count) := by
  induction count with
  | zero => rfl
  | succ count inductionHypothesis =>
      rw [inductionHypothesis (fun turn before => going turn (Nat.lt_succ_of_lt before))]
      exact await_of_again (going count (Nat.lt_succ_self count))

theorem await_endless (service : Service σ) (policy : PollPolicy) (waits : Nat → Wait)
    (worlds : Nat → World σ)
    (going : ∀ turn, service.turn policy (waits turn) (worlds turn)
      = .again (waits (turn + 1)) (worlds (turn + 1))) :
    service.await policy (waits 0) (worlds 0) = none := by
  cases came : service.await policy (waits 0) (worlds 0) with
  | none => rfl
  | some ended =>
      have never : ∀ turn, waits 0 = waits turn → worlds 0 = worlds turn → False := by
        refine await_induction
          (motive := fun wait world _ _ =>
            ∀ turn, wait = waits turn → world = worlds turn → False) ?_ ?_ came
        · intro wait world result after finished turn atWait atWorld
          rw [atWait, atWorld, going turn] at finished
          cases finished
        · intro wait world next between result after again rest turn atWait atWorld
          rw [atWait, atWorld, going turn] at again
          cases again
          exact rest (turn + 1) rfl rfl
      exact (never 0 rfl rfl).elim

/-! ### Running a statement -/

structure Accepted (service : Service σ) (submission : Submission) (world : World σ)
    (executionId : String) : Prop where
  live : world.cancelled = false
  told : (service.start submission world.remote).1.result = .ok executionId
  named : Text.isBlankText executionId = false

variable {submission : Submission} {world : World σ}

theorem execute_of_cancelled {context : ExecutionContext} {statement : String}
    (cancelled : world.cancelled = true) :
    service.execute policy context statement world
      = some (.error (.cancelled "cancelled before submission"), world) := by
  rw [execute, cancelled, if_pos rfl]

theorem execute_of_startFailed (live : world.cancelled = false) (error : QueryError)
    (failed : (service.start submission world.remote).1.result = .error error) :
    service.execute policy submission.context submission.statement world
      = some (.error error, service.made (.start submission) world) := by
  rw [execute, live, if_neg Bool.false_ne_true, callStart_eq, failed]

theorem execute_of_unacknowledged (live : world.cancelled = false) (executionId : String)
    (told : (service.start submission world.remote).1.result = .ok executionId)
    (blank : Text.isBlankText executionId = true) :
    service.execute policy submission.context submission.statement world
      = some
        (.error (.submission s!"{service.name} did not acknowledge the query submission"),
          service.made (.start submission) world) := by
  rw [execute, live, if_neg Bool.false_ne_true, callStart_eq, told]
  exact if_pos blank

theorem execute_of_accepted (executionId : String)
    (accepted : service.Accepted submission world executionId) :
    service.execute policy submission.context submission.statement world
      = service.await policy
        { executionId := executionId, interval := policy.interval, started := world.clock }
        (service.made (.start submission) world) := by
  rw [execute, accepted.live, if_neg Bool.false_ne_true, callStart_eq, accepted.told]
  exact if_neg (fun blank => Bool.false_ne_true (accepted.named.symm.trans blank))

theorem started_cancelled (service : Service σ) (submission : Submission) (world : World σ)
    (live : world.cancelled = false) :
    (service.made (.start submission) world).cancelled
      = (service.start submission world.remote).1.cancels := by
  rw [made_cancelled, live, Bool.false_or]
  rfl

inductive Submitted (service : Service σ) (policy : PollPolicy) (submission : Submission)
    (world : World σ) : Option (Except QueryError Descriptor × World σ) → Prop where
  | cancelledBefore (cancelled : world.cancelled = true) :
      Submitted service policy submission world
        (some (.error (.cancelled "cancelled before submission"), world))
  | failed (live : world.cancelled = false) (error : QueryError) :
      Submitted service policy submission world
        (some (.error error, service.made (.start submission) world))
  | accepted (executionId : String) (accepted : service.Accepted submission world executionId) :
      Submitted service policy submission world
        (service.await policy
          { executionId := executionId, interval := policy.interval, started := world.clock }
          (service.made (.start submission) world))

theorem execute_submitted (service : Service σ) (policy : PollPolicy) (context : ExecutionContext)
    (statement : String) (world : World σ) :
    service.Submitted policy { statement := statement, context := context } world
      (service.execute policy context statement world) := by
  let submission : Submission := { statement := statement, context := context }
  change service.Submitted policy submission world
    (service.execute policy submission.context submission.statement world)
  cases live : world.cancelled with
  | true =>
      rw [execute_of_cancelled live]
      exact .cancelledBefore live
  | false =>
      cases told : (service.start submission world.remote).1.result with
      | error error =>
          rw [execute_of_startFailed live error told]
          exact .failed live error
      | ok executionId =>
          cases named : Text.isBlankText executionId with
          | true =>
              rw [execute_of_unacknowledged live executionId told named]
              exact .failed live _
          | false =>
              rw [execute_of_accepted executionId ⟨live, told, named⟩]
              exact .accepted executionId ⟨live, told, named⟩

/-- The waits that running a statement comes to, each with the world in front of its next
status call. -/
inductive Waiting (service : Service σ) (policy : PollPolicy) (submission : Submission)
    (world : World σ) : Wait → World σ → Prop where
  | first (executionId : String) (accepted : service.Accepted submission world executionId) :
      Waiting service policy submission world
        { executionId := executionId, interval := policy.interval, started := world.clock }
        (service.made (.start submission) world)
  | next {wait next : Wait} {before between : World σ}
      (waiting : Waiting service policy submission world wait before)
      (again : service.turn policy wait before = .again next between) :
      Waiting service policy submission world next between

/-- Running a statement comes to what any of its waits comes to. -/
theorem Waiting.execute_eq {wait : Wait} {before : World σ}
    (waiting : service.Waiting policy submission world wait before) :
    service.execute policy submission.context submission.statement world
      = service.await policy wait before := by
  induction waiting with
  | first executionId accepted => exact execute_of_accepted executionId accepted
  | next _ again inductionHypothesis => rw [inductionHypothesis, await_of_again again]

end RemoteQuery.Service
