import RemoteQuery.Proofs.Execution.Reference
import RemoteQuery.Proofs.Execution.Trace
set_option autoImplicit false

/-! Which execution the calls of a wait are addressed to.  The service names an execution when
it accepts a statement, and names one again with every status that it tells.  Each call goes by
the name that was told last, and so does the error that reports a stop.  The execution that was
begun is therefore the only one that is touched exactly as long as the service keeps to its
name. -/

namespace RemoteQuery

def Call.executionId? : Call → Option String
  | .poll executionId _ => some executionId
  | .stop executionId => some executionId
  | .start _ => none
  | .download _ => none

namespace Service

variable {σ : Type} {service : Service σ} {policy : PollPolicy}

/-! ### Names along a list of calls -/

def nameBehind (service : Service σ) (name : String) (remote : σ) : Call → String
  | .poll executionId _ =>
      match (service.status executionId remote).1 with
      | .answer { result := .ok descriptor, .. } => descriptor.executionId
      | _ => name
  | _ => name

/-- Each call is addressed to the execution that was named last. -/
def GoesByName (service : Service σ) : String → σ → List Call → Prop
  | _, _, [] => True
  | name, remote, call :: rest =>
      call.executionId? = some name ∧
        service.GoesByName (service.nameBehind name remote call)
          (service.stateAfter remote call) rest

/-- Every status that is told names the same execution, but for one that no call follows. -/
def KeepsName (service : Service σ) (name : String) (remote : σ) (calls : List Call) : Prop :=
  ∀ earlier asked clock next later, calls = earlier ++ .poll asked clock :: next :: later →
    ∀ descriptor cancels,
      (service.status asked (service.stateAfterAll remote earlier)).1
        = .answer { result := .ok descriptor, cancels := cancels } →
      descriptor.executionId = name

/-- How the calls of a wait end, and the result with them. -/
inductive Closes (service : Service σ) (remote : σ) (calls : List Call)
    (result : Except QueryError Descriptor) : Prop where
  /-- The error names the execution that the service was asked to stop. -/
  | stopped (earlier : List Call) (executionId : String) (error : QueryError)
      (split : calls = earlier ++ [.stop executionId]) (failed : result = .error error)
      (named : error = .cancelled executionId ∨
        ∃ seconds, error = .timeout executionId seconds)
  | told (earlier : List Call) (asked : String) (clock : Nat) (answer : Answer Descriptor)
      (split : calls = earlier ++ [.poll asked clock])
      (reply : (service.status asked (service.stateAfterAll remote earlier)).1 = .answer answer)
      (same : result = answer.result.bind Descriptor.resolve)

/-- Calls that go by the names that are told, and to one execution only as long as the
service does not name another. -/
structure Follows (service : Service σ) (executionId : String) (remote : σ)
    (calls : List Call) : Prop where
  goes : service.GoesByName executionId remote calls
  own_iff : (∀ call, call ∈ calls → call.executionId? = some executionId) ↔
    service.KeepsName executionId remote calls

theorem nameBehind_told {name asked : String} {remote : σ} {descriptor : Descriptor}
    {cancels : Bool} (clock : Nat)
    (reply : (service.status asked remote).1
      = .answer { result := .ok descriptor, cancels := cancels }) :
    service.nameBehind name remote (.poll asked clock) = descriptor.executionId := by
  simp only [nameBehind, reply]

theorem nameBehind_kept {name : String} {remote : σ} {call : Call}
    (kept : ∀ asked clock, call = .poll asked clock → ∀ descriptor cancels,
      (service.status asked remote).1
        = .answer { result := .ok descriptor, cancels := cancels } →
      descriptor.executionId = name) :
    service.nameBehind name remote call = name := by
  cases call with
  | start submission => rfl
  | stop executionId => rfl
  | download objectPath => rfl
  | poll asked clock =>
      cases reply : (service.status asked remote).1 with
      | interrupted => simp only [nameBehind, reply]
      | answer answer =>
          obtain ⟨result, cancels⟩ := answer
          cases result with
          | error error => simp only [nameBehind, reply]
          | ok descriptor =>
              rw [nameBehind_told clock reply]
              exact kept asked clock rfl descriptor cancels reply

theorem GoesByName.behind {name : String} {remote : σ} {earlier later : List Call}
    (goes : service.GoesByName name remote (earlier ++ later)) :
    ∃ current, service.GoesByName current (service.stateAfterAll remote earlier) later := by
  induction earlier generalizing name remote with
  | nil => exact ⟨name, goes⟩
  | cons call earlier inductionHypothesis => exact inductionHypothesis goes.2

theorem KeepsName.behind {name : String} {remote : σ} {call : Call} {rest : List Call}
    (keeps : service.KeepsName name remote (call :: rest)) :
    service.KeepsName name (service.stateAfter remote call) rest := by
  intro earlier asked clock next later split
  exact keeps (call :: earlier) asked clock next later (congrArg (call :: ·) split)

theorem GoesByName.own_of_keeps {name : String} {remote : σ} {calls : List Call}
    (goes : service.GoesByName name remote calls)
    (keeps : service.KeepsName name remote calls) :
    ∀ call, call ∈ calls → call.executionId? = some name := by
  induction calls generalizing remote with
  | nil =>
      intro call member
      cases member
  | cons first rest inductionHypothesis =>
      obtain ⟨addressed, onward⟩ := goes
      intro call member
      rcases List.mem_cons.mp member with rfl | behind
      · exact addressed
      · cases rest with
        | nil => cases behind
        | cons next later =>
            have same : service.nameBehind name remote first = name := by
              apply nameBehind_kept
              intro asked clock isPoll
              exact keeps [] asked clock next later (by rw [isPoll]; rfl)
            rw [same] at onward
            exact inductionHypothesis onward keeps.behind call behind

theorem GoesByName.keeps_of_own {name : String} {remote : σ} {calls : List Call}
    (goes : service.GoesByName name remote calls)
    (own : ∀ call, call ∈ calls → call.executionId? = some name) :
    service.KeepsName name remote calls := by
  intro earlier asked clock next later split descriptor cancels reply
  rw [split] at goes own
  obtain ⟨current, _, addressed, _⟩ := goes.behind
  rw [nameBehind_told clock reply] at addressed
  have named : next.executionId? = some name := by
    apply own
    simp
  exact Option.some.inj (addressed.symm.trans named)

theorem GoesByName.follows {name : String} {remote : σ} {calls : List Call}
    (goes : service.GoesByName name remote calls) : service.Follows name remote calls where
  goes := goes
  own_iff := ⟨goes.keeps_of_own, goes.own_of_keeps⟩

theorem Closes.behind {remote : σ} {call : Call} {calls : List Call}
    {result : Except QueryError Descriptor}
    (closes : service.Closes (service.stateAfter remote call) calls result) :
    service.Closes remote (call :: calls) result := by
  cases closes with
  | stopped earlier executionId error split failed named =>
      exact .stopped (call :: earlier) executionId error (by rw [split]; rfl) failed named
  | told earlier asked clock answer split reply same =>
      exact .told (call :: earlier) asked clock answer (by rw [split]; rfl) reply same

/-! ### Turns -/

/-- The calls of a wait, addressed by name up to its end. -/
structure Addressed (service : Service σ) (executionId : String) (world after : World σ)
    (calls : List Call) (result : Except QueryError Descriptor) : Prop where
  calls_eq : after.calls = world.calls ++ calls
  goes : service.GoesByName executionId world.remote calls
  closes : service.Closes world.remote calls result

/-- A turn that goes on has made one status call, and goes by the name that it was told. -/
structure Onward (service : Service σ) (wait next : Wait) (world between : World σ) : Prop where
  calls_eq : between.calls = world.calls ++ [.poll wait.executionId world.clock]
  remote_eq : between.remote
    = service.stateAfter world.remote (.poll wait.executionId world.clock)
  name_eq : next.executionId
    = service.nameBehind wait.executionId world.remote (.poll wait.executionId world.clock)

theorem turn_onward {wait next : Wait} {world between : World σ}
    (going : service.turn policy wait world = .again next between) :
    service.Onward wait next world between := by
  have turned := service.turn_turned policy wait world
  rw [going] at turned
  cases turned with
  | again live descriptor pause reply undecided due =>
      exact ⟨rfl, rfl, (nameBehind_told world.clock reply).symm⟩

theorem turn_addressed {wait : Wait} {world after : World σ}
    {result : Except QueryError Descriptor}
    (ended : service.turn policy wait world = .ended result after) :
    ∃ calls, service.Addressed wait.executionId world after calls result := by
  have turned := service.turn_turned policy wait world
  rw [ended] at turned
  have pollThenStop (executionId : String) :
      (service.made (.stop executionId) (service.polled wait world)).calls
        = world.calls ++ [.poll wait.executionId world.clock, .stop executionId] := by
    rw [made_calls, polled, made_calls, List.append_assoc]
    rfl
  cases turned with
  | cancelledBefore _ =>
      exact ⟨[.stop wait.executionId], rfl, ⟨rfl, trivial⟩,
        .stopped [] wait.executionId _ rfl rfl (Or.inl rfl)⟩
  | interrupted _ reply =>
      have same : service.nameBehind wait.executionId world.remote
          (.poll wait.executionId world.clock) = wait.executionId := by
        rw [pollReply] at reply
        simp only [nameBehind, reply]
      refine ⟨_, pollThenStop wait.executionId, ⟨rfl, ?_, trivial⟩,
        .stopped [.poll wait.executionId world.clock] wait.executionId _ rfl rfl (Or.inl rfl)⟩
      rw [same]
      rfl
  | refused _ error cancels reply =>
      exact ⟨[.poll wait.executionId world.clock], rfl, ⟨rfl, trivial⟩,
        .told [] wait.executionId world.clock _ rfl reply rfl⟩
  | ended _ descriptor cancels reply _ =>
      exact ⟨[.poll wait.executionId world.clock], rfl, ⟨rfl, trivial⟩,
        .told [] wait.executionId world.clock _ rfl reply rfl⟩
  | late _ descriptor cancels reply _ _ =>
      refine ⟨_, pollThenStop descriptor.executionId, ⟨rfl, ?_, trivial⟩,
        .stopped [.poll wait.executionId world.clock] descriptor.executionId _ rfl rfl
          (Or.inr ⟨_, rfl⟩)⟩
      rw [nameBehind_told world.clock reply]
      rfl
  | cancelledMeanwhile _ descriptor _ reply _ _ =>
      refine ⟨_, pollThenStop descriptor.executionId, ⟨rfl, ?_, trivial⟩,
        .stopped [.poll wait.executionId world.clock] descriptor.executionId _ rfl rfl
          (Or.inl rfl)⟩
      rw [nameBehind_told world.clock reply]
      rfl

/-! ### Whole waits -/

theorem await_addressed {wait : Wait} {world after : World σ}
    {result : Except QueryError Descriptor}
    (ended : service.await policy wait world = some (result, after)) :
    ∃ calls, service.Addressed wait.executionId world after calls result := by
  refine await_induction
    (motive := fun wait world result after =>
      ∃ calls, service.Addressed wait.executionId world after calls result) ?_ ?_ ended
  · intro wait world result after finished
    exact turn_addressed finished
  · intro wait world next between result after going rest
    obtain ⟨calls, addressed⟩ := rest
    have onward := turn_onward going
    refine ⟨.poll wait.executionId world.clock :: calls, ?_, ⟨rfl, ?_⟩, ?_⟩
    · rw [addressed.calls_eq, onward.calls_eq, List.append_assoc]
      rfl
    · rw [← onward.name_eq, ← onward.remote_eq]
      exact addressed.goes
    · apply Closes.behind
      rw [← onward.remote_eq]
      exact addressed.closes

theorem going_addressed {waits : Nat → Wait} {worlds : Nat → World σ}
    (going : ∀ turn, service.turn policy (waits turn) (worlds turn)
      = .again (waits (turn + 1)) (worlds (turn + 1))) (first count : Nat) :
    ∃ calls, calls.length = count ∧
      (worlds (first + count)).calls = (worlds first).calls ++ calls ∧
      service.GoesByName (waits first).executionId (worlds first).remote calls := by
  induction count generalizing first with
  | zero => exact ⟨[], rfl, (List.append_nil _).symm, trivial⟩
  | succ count inductionHypothesis =>
      obtain ⟨calls, length, calls_eq, goes⟩ := inductionHypothesis (first + 1)
      have onward := turn_onward (going first)
      refine ⟨.poll (waits first).executionId (worlds first).clock :: calls, ?_, ?_, rfl, ?_⟩
      · rw [List.length_cons, length]
      · have place : first + (count + 1) = first + 1 + count := by omega
        rw [place, calls_eq, onward.calls_eq, List.append_assoc]
        rfl
      · rw [← onward.name_eq, ← onward.remote_eq]
        exact goes

private theorem onward_of_going {waits : Nat → Wait} {worlds : Nat → World σ}
    (going : ∀ turn, service.turn policy (waits turn) (worlds turn)
      = .again (waits (turn + 1)) (worlds (turn + 1))) (count : Nat) :
    service.onward policy (waits 0) (worlds 0) count = (waits count, worlds count) := by
  induction count with
  | zero => rfl
  | succ count inductionHypothesis =>
      apply onward_succ
      rw [inductionHypothesis]
      exact going count

/-! ### Running a statement -/

/-- Which executions are touched by running a statement. -/
structure Addresses (service : Service σ) (policy : PollPolicy) (submission : Submission)
    (world : World σ) : Prop where
  unaccepted : ∀ result after,
    service.execute policy submission.context submission.statement world
      = some (result, after) →
    (¬ ∃ executionId, service.Accepted submission world executionId) →
    ∃ calls, after.calls = world.calls ++ calls ∧
      ∀ call, call ∈ calls → call.executionId? = none
  ended : ∀ executionId result after, service.Accepted submission world executionId →
    service.execute policy submission.context submission.statement world
      = some (result, after) →
    ∃ calls, after.calls = world.calls ++ .start submission :: calls ∧
      service.Follows executionId (service.start submission world.remote).2 calls ∧
      service.Closes (service.start submission world.remote).2 calls result
  /-- Also of a wait without end, told by what has been called after a number of turns. -/
  endless : ∀ executionId, service.Accepted submission world executionId →
    service.execute policy submission.context submission.statement world = none →
    ∀ count, ∃ calls, calls.length = count ∧
      (service.onward policy
          { executionId := executionId, interval := policy.interval, started := world.clock }
          (service.made (.start submission) world) count).2.calls
        = world.calls ++ .start submission :: calls ∧
      service.Follows executionId (service.start submission world.remote).2 calls

variable {submission : Submission} {world : World σ}

theorem execute_unaccepted {after : World σ} {result : Except QueryError Descriptor}
    (ended : service.execute policy submission.context submission.statement world
      = some (result, after))
    (unaccepted : ¬ ∃ executionId, service.Accepted submission world executionId) :
    ∃ calls, after.calls = world.calls ++ calls ∧
      ∀ call, call ∈ calls → call.executionId? = none := by
  have submitted := service.execute_submitted policy submission.context submission.statement world
  rw [ended] at submitted
  generalize came : some (result, after) = outcome at submitted
  cases submitted with
  | cancelledBefore cancelled =>
      cases came
      exact ⟨[], (List.append_nil _).symm, by simp⟩
  | failed live error =>
      cases came
      refine ⟨[.start submission], rfl, ?_⟩
      intro call member
      rw [List.mem_singleton.mp member]
      rfl
  | accepted executionId accepted => exact (unaccepted ⟨executionId, accepted⟩).elim

/-- Running a statement goes by the names that the service tells.  It keeps to the execution
that it began exactly as long as they are the same. -/
theorem execute_addresses (service : Service σ) (policy : PollPolicy) (submission : Submission)
    (world : World σ) : service.Addresses policy submission world where
  unaccepted := fun _ _ ended unaccepted => execute_unaccepted ended unaccepted
  ended := by
    intro executionId result after accepted ended
    rw [execute_of_accepted executionId accepted] at ended
    obtain ⟨calls, addressed⟩ := await_addressed ended
    refine ⟨calls, ?_, addressed.goes.follows, addressed.closes⟩
    rw [addressed.calls_eq, made_calls, List.append_assoc]
    rfl
  endless := by
    intro executionId accepted never count
    rw [execute_of_accepted executionId accepted, await_eq_none_iff] at never
    obtain ⟨waits, worlds, firstWait, firstWorld, turns⟩ := never
    have going := fun turn => (turns turn).1
    obtain ⟨calls, length, calls_eq, goes⟩ := going_addressed going 0 count
    rw [Nat.zero_add, firstWorld, made_calls, List.append_assoc] at calls_eq
    rw [firstWait, firstWorld] at goes
    refine ⟨calls, length, ?_, goes.follows⟩
    rw [← firstWait, ← firstWorld, onward_of_going going]
    exact calls_eq

/-! ### An execution with two names -/

def renamedScript : Script :=
  let poll : ScriptedPoll :=
    { cancels := false, failure := none, executionId := some "q-2", state := .running
      resultLocation := none, reason := none, statistics := none }
  { acknowledgement := "q-1", startFailure := none, cancelsOnStart := false
    polls := [poll], stopFailure := none, objects := [], reachesCaller := true }

def hastyPolicy : PollPolicy :=
  { interval := nanosPerMilli, maxInterval := nanosPerMilli
    backoffFactor := Decimal.ofInt 1, timeout := some 0 }

def renamedWorld : World Script :=
  { remote := renamedScript, cancelled := false, clock := 0, calls := [], staging := .fresh [] }

def renamedSubmission : Submission := { statement := "SELECT 1", context := default }

private theorem renamed_accepted :
    (Script.service "scripted").Accepted renamedSubmission renamedWorld "q-1" :=
  ⟨rfl, rfl, by decide⟩

theorem execute_renamed :
    ∃ after,
      (Script.service "scripted").execute hastyPolicy renamedSubmission.context
        renamedSubmission.statement renamedWorld = some (.error (.timeout "q-2" 0), after) ∧
      after.calls = [.start renamedSubmission, .poll "q-1" 0, .stop "q-2"] := by
  have reference : (Script.service "scripted").Reference hastyPolicy renamedSubmission
      renamedWorld (.error (.timeout "q-2" 0))
      [.start renamedSubmission, .poll "q-1" 0, .stop "q-2"] :=
    .decided "q-1" renamed_accepted rfl 0 (.stopped "q-2" (.timeout "q-2" 0))
      (fun earlier before => (Nat.not_lt_zero earlier before).elim) rfl
  exact execute_of_reference (Or.inr rfl) reference

theorem execute_addresses_renamed :
    (Script.service "scripted").Follows "q-1" renamedScript [.poll "q-1" 0, .stop "q-2"] ∧
      ¬ (Script.service "scripted").KeepsName "q-1" renamedScript
        [.poll "q-1" 0, .stop "q-2"] := by
  obtain ⟨after, ended, made⟩ := execute_renamed
  obtain ⟨calls, same, follows, _⟩ :=
    (execute_addresses (Script.service "scripted") hastyPolicy renamedSubmission
      renamedWorld).ended "q-1" _ after renamed_accepted ended
  cases made.symm.trans same
  refine ⟨follows, ?_⟩
  intro keeps
  have own := follows.own_iff.mpr keeps (.stop "q-2") (by simp)
  exact absurd (Option.some.inj own) (by decide)

theorem execute_stops_another :
    ¬ ∀ (service : Service Script) (policy : PollPolicy) (submission : Submission)
        (world : World Script) (executionId : String) (result : Except QueryError Descriptor)
        (after : World Script) (calls : List Call),
      service.Accepted submission world executionId →
      service.execute policy submission.context submission.statement world
        = some (result, after) →
      after.calls = world.calls ++ .start submission :: calls →
      (∀ call, call ∈ calls → call.executionId? = some executionId) ∧
        ∀ named seconds, result = .error (.timeout named seconds) → named = executionId := by
  intro claimed
  obtain ⟨after, ended, made⟩ := execute_renamed
  have own := (claimed (Script.service "scripted") hastyPolicy renamedSubmission renamedWorld
    "q-1" _ after _ renamed_accepted ended made).2 "q-2" 0 rfl
  exact absurd own (by decide)

end Service

end RemoteQuery
