import Mathlib.Data.Nat.Find
import RemoteQuery.Proofs.Execution.Turn
import RemoteQuery.Script
set_option autoImplicit false

/-! The result and the calls of a statement that is run, told without the loop.  The
status replies form a sequence; the first of them that decides ends the wait, and none is
asked for after it.  Without a deadline, or with one that has passed at once, running a
statement comes to exactly this. -/

namespace RemoteQuery.Service

variable {σ : Type}

/-! ### The sequence of status replies -/

/-- Whom the next status call asks: the execution asked about, and the service. -/
structure Standing (σ : Type) where
  executionId : String
  remote : σ

def Standing.next (service : Service σ) (standing : Standing σ) : Standing σ :=
  match service.status standing.executionId standing.remote with
  | (.answer { result := .ok descriptor, .. }, remote) =>
      { executionId := descriptor.executionId, remote := remote }
  | (_, remote) => { standing with remote := remote }

/-- Where the status call with a number stands, counted from zero. -/
def standingAt (service : Service σ) (first : Standing σ) : Nat → Standing σ
  | 0 => first
  | turn + 1 => (service.standingAt first turn).next service

def replyAt (service : Service σ) (first : Standing σ) (turn : Nat) : Reply Descriptor :=
  (service.status (service.standingAt first turn).executionId
    (service.standingAt first turn).remote).1

def intervalAt (policy : PollPolicy) : Nat → Nat
  | 0 => policy.interval
  | turn + 1 => policy.nextInterval (intervalAt policy turn)

def clockAt (policy : PollPolicy) (started : Nat) : Nat → Nat
  | 0 => started
  | turn + 1 => clockAt policy started turn + dividedUp (intervalAt policy turn) nanosPerMilli

def pollsAt (service : Service σ) (policy : PollPolicy) (first : Standing σ) (started : Nat)
    (count : Nat) : List Call :=
  (List.range count).map fun turn =>
    .poll (service.standingAt first turn).executionId (clockAt policy started turn)

/-! ### What a reply decides -/

/-- How a wait ends. -/
inductive Verdict where
  /-- The service is left alone. -/
  | settled (result : Except QueryError Descriptor)
  /-- The service is asked to stop an execution. -/
  | stopped (executionId : String) (error : QueryError)

namespace Verdict

def result : Verdict → Except QueryError Descriptor
  | settled result => result
  | stopped _ error => .error error

def calls : Verdict → List Call
  | settled _ => []
  | stopped executionId _ => [.stop executionId]

end Verdict

/-- The reason tells, in any case of its letters, that what was to be added is there. -/
def Absorbed (descriptor : Descriptor) : Prop :=
  Descriptor.absorbedReason.toList <:+: Text.lowercase descriptor.reason.toList

instance (descriptor : Descriptor) : Decidable (Absorbed descriptor) :=
  inferInstanceAs (Decidable (_ <:+: _))

/-- What a reply to a status call decides; nothing when another call has to be made. -/
def verdict? (policy : PollPolicy) (asked : String) : Reply Descriptor → Option Verdict
  | .interrupted => some (.stopped asked (.cancelled asked))
  | .answer { result := .error error, .. } => some (.settled (.error error))
  | .answer { result := .ok descriptor, cancels } =>
      match descriptor.state with
      | .succeeded => some (.settled (.ok descriptor))
      | .failed | .cancelled =>
          if Absorbed descriptor then some (.settled (.ok descriptor))
          else some (.settled (.error (.execution descriptor.state descriptor.reason)))
      | .pending | .queued | .running =>
          if policy.timeout = some 0 then
            some (.stopped descriptor.executionId (.timeout descriptor.executionId 0))
          else if cancels then
            some (.stopped descriptor.executionId (.cancelled descriptor.executionId))
          else none

def verdictAt (service : Service σ) (policy : PollPolicy) (first : Standing σ) (turn : Nat) :
    Option Verdict :=
  verdict? policy (service.standingAt first turn).executionId (service.replyAt first turn)

/-! ### Running a statement -/

def firstStanding (service : Service σ) (submission : Submission) (world : World σ)
    (executionId : String) : Standing σ :=
  { executionId := executionId, remote := (service.start submission world.remote).2 }

/-- The result and the calls that running a statement comes to. -/
inductive Reference (service : Service σ) (policy : PollPolicy) (submission : Submission)
    (world : World σ) : Except QueryError Descriptor → List Call → Prop where
  | cancelledBefore (cancelled : world.cancelled = true) :
      Reference service policy submission world
        (.error (.cancelled "cancelled before submission")) []
  | startFailed (live : world.cancelled = false) (error : QueryError)
      (failed : (service.start submission world.remote).1.result = .error error) :
      Reference service policy submission world (.error error) [.start submission]
  | unacknowledged (live : world.cancelled = false) (executionId : String)
      (told : (service.start submission world.remote).1.result = .ok executionId)
      (blank : Text.isBlankText executionId = true) :
      Reference service policy submission world
        (.error (.submission s!"{service.name} did not acknowledge the query submission"))
        [.start submission]
  | cancelledDuringStart (executionId : String)
      (accepted : service.Accepted submission world executionId)
      (cancelled : (service.start submission world.remote).1.cancels = true) :
      Reference service policy submission world (.error (.cancelled executionId))
        [.start submission, .stop executionId]
  | decided (executionId : String) (accepted : service.Accepted submission world executionId)
      (live : (service.start submission world.remote).1.cancels = false)
      (turn : Nat) (verdict : Verdict)
      (undecided : ∀ earlier, earlier < turn → service.verdictAt policy
        (service.firstStanding submission world executionId) earlier = none)
      (decides : service.verdictAt policy
        (service.firstStanding submission world executionId) turn = some verdict) :
      Reference service policy submission world verdict.result
        (.start submission
          :: service.pollsAt policy (service.firstStanding submission world executionId)
            world.clock (turn + 1)
          ++ verdict.calls)

/-- No status reply ever decides. -/
def Undecided (service : Service σ) (policy : PollPolicy) (submission : Submission)
    (world : World σ) : Prop :=
  ∃ executionId, service.Accepted submission world executionId ∧
    (service.start submission world.remote).1.cancels = false ∧
    ∀ turn, service.verdictAt policy
      (service.firstStanding submission world executionId) turn = none

/-! ### The loop walks along the sequence -/

private theorem verdict?_of_terminal (policy : PollPolicy) (asked : String)
    (descriptor : Descriptor) (cancels : Bool) (terminal : descriptor.isTerminal = true) :
    verdict? policy asked (.answer { result := .ok descriptor, cancels := cancels })
      = some (.settled descriptor.resolve) := by
  have absorbs := Text.hasInfix_iff Descriptor.absorbedReason.toList
    (Text.lowercase descriptor.reason.toList)
  have failure : (if Absorbed descriptor then some (Verdict.settled (.ok descriptor))
      else some (.settled (.error (.execution descriptor.state descriptor.reason))))
      = some (.settled descriptor.resolveFailure) := by
    rw [Descriptor.resolveFailure]
    by_cases absorbed : Absorbed descriptor
    · rw [if_pos absorbed, if_pos (absorbs.mpr absorbed)]
    · rw [if_neg absorbed, if_neg (fun found => absorbed (absorbs.mp found))]
  simp only [verdict?, Descriptor.resolve]
  cases state : descriptor.state with
  | succeeded => rfl
  | failed => rw [state] at failure; exact failure
  | cancelled => rw [state] at failure; exact failure
  | pending => rw [Descriptor.isTerminal, state] at terminal; cases terminal
  | queued => rw [Descriptor.isTerminal, state] at terminal; cases terminal
  | running => rw [Descriptor.isTerminal, state] at terminal; cases terminal

private theorem verdict?_of_going (policy : PollPolicy) (asked : String) (descriptor : Descriptor)
    (cancels : Bool) (going : descriptor.isTerminal = false) :
    verdict? policy asked (.answer { result := .ok descriptor, cancels := cancels })
      = if policy.timeout = some 0 then
          some (.stopped descriptor.executionId (.timeout descriptor.executionId 0))
        else if cancels then
          some (.stopped descriptor.executionId (.cancelled descriptor.executionId))
        else none := by
  simp only [verdict?]
  cases state : descriptor.state with
  | pending => rfl
  | queued => rfl
  | running => rfl
  | succeeded => rw [Descriptor.isTerminal, state] at going; cases going
  | failed => rw [Descriptor.isTerminal, state] at going; cases going
  | cancelled => rw [Descriptor.isTerminal, state] at going; cases going

section Sequence

variable (service : Service σ) (policy : PollPolicy) (first : Standing σ) (begun : World σ)

def waitAt (turn : Nat) : Wait :=
  { executionId := (service.standingAt first turn).executionId
    interval := intervalAt policy turn
    started := begun.clock }

def worldAt (turn : Nat) : World σ :=
  { begun with
    remote := (service.standingAt first turn).remote
    clock := clockAt policy begun.clock turn
    calls := begun.calls ++ service.pollsAt policy first begun.clock turn }

private theorem pollsAt_succ (started turn : Nat) :
    service.pollsAt policy first started (turn + 1)
      = service.pollsAt policy first started turn
        ++ [.poll (service.standingAt first turn).executionId
              (clockAt policy started turn)] := by
  rw [pollsAt, List.range_succ, List.map_append]
  rfl

private theorem polled_calls (turn : Nat) :
    (service.polled (service.waitAt policy first begun turn)
        (service.worldAt policy first begun turn)).calls
      = begun.calls ++ service.pollsAt policy first begun.clock (turn + 1) := by
  rw [pollsAt_succ, ← List.append_assoc]
  rfl

theorem standingAt_succ (turn : Nat) (descriptor : Descriptor) (cancels : Bool)
    (told : service.replyAt first turn = .answer { result := .ok descriptor, cancels := cancels }) :
    service.standingAt first (turn + 1)
      = { executionId := descriptor.executionId
          remote := (service.status (service.standingAt first turn).executionId
            (service.standingAt first turn).remote).2 } := by
  rw [standingAt, Standing.next]
  rw [replyAt] at told
  cases asked : service.status (service.standingAt first turn).executionId
      (service.standingAt first turn).remote with
  | mk reply remote =>
      rw [asked] at told
      change reply = _ at told
      subst told
      rfl

theorem verdictAt_of_zero_deadline (turn : Nat) (zero : policy.timeout = some 0) :
    service.verdictAt policy first turn ≠ none := by
  intro undecided
  rw [verdictAt] at undecided
  cases reply : service.replyAt first turn with
  | interrupted => rw [reply] at undecided; cases undecided
  | answer answer =>
      obtain ⟨result, cancels⟩ := answer
      rw [reply] at undecided
      cases result with
      | error error => cases undecided
      | ok descriptor =>
          cases terminal : descriptor.isTerminal with
          | true => rw [verdict?_of_terminal _ _ _ _ terminal] at undecided; cases undecided
          | false =>
              rw [verdict?_of_going _ _ _ _ terminal, if_pos zero] at undecided
              cases undecided

/-- Without a deadline every turn sleeps for the interval, with a deadline of zero none
sleeps at all. -/
theorem pause?_unhurried (wait : Wait) (clock : Nat) (begins : wait.started ≤ clock)
    (unhurried : policy.timeout = none ∨ policy.timeout = some 0) :
    pause? policy wait clock = if policy.timeout = some 0 then none else some wait.interval := by
  rcases unhurried with never | zero
  · rw [pause?, never, if_neg (fun impossible => by cases impossible)]
  · have passed : wait.started * nanosPerMilli + 0 ≤ clock * nanosPerMilli := by
      rw [Nat.add_zero]
      exact Nat.mul_le_mul_right nanosPerMilli begins
    simp only [pause?, zero, if_pos passed, if_true]

private theorem started_le_clockAt (started turn : Nat) :
    started ≤ clockAt policy started turn := by
  induction turn with
  | zero => exact Nat.le_refl started
  | succ turn inductionHypothesis =>
      exact Nat.le_trans inductionHypothesis (Nat.le_add_right _ _)

private theorem timeout_of_passed (wait : Wait) (clock : Nat) (begins : wait.started ≤ clock)
    (unhurried : policy.timeout = none ∨ policy.timeout = some 0)
    (passed : pause? policy wait clock = none) : policy.timeout = some 0 := by
  rw [pause?_unhurried policy wait clock begins unhurried] at passed
  by_contra nonzero
  rw [if_neg nonzero] at passed
  cases passed

private theorem timeout_of_due {pause : Nat} (wait : Wait) (clock : Nat)
    (begins : wait.started ≤ clock)
    (unhurried : policy.timeout = none ∨ policy.timeout = some 0)
    (due : pause? policy wait clock = some pause) :
    policy.timeout ≠ some 0 ∧ pause = wait.interval := by
  rw [pause?_unhurried policy wait clock begins unhurried] at due
  split at due
  · cases due
  · rename_i nonzero
    exact ⟨nonzero, (Option.some.inj due).symm⟩

private theorem first_of_zero_deadline {turn : Nat} (zero : policy.timeout = some 0)
    (undecided : ∀ earlier, earlier < turn → service.verdictAt policy first earlier = none) :
    turn = 0 := by
  cases turn with
  | zero => rfl
  | succ turn =>
      exact (service.verdictAt_of_zero_deadline policy first 0 zero
        (undecided 0 (Nat.succ_pos turn))).elim

private theorem waitAt_succ (turn : Nat) (descriptor : Descriptor)
    (told : service.replyAt first turn = .answer { result := .ok descriptor, cancels := false }) :
    service.waitAt policy first begun (turn + 1)
      = { service.waitAt policy first begun turn with
          executionId := descriptor.executionId
          interval := policy.nextInterval (intervalAt policy turn) } := by
  rw [waitAt, waitAt, service.standingAt_succ first turn descriptor false told]
  rfl

private theorem worldAt_succ (turn : Nat) (descriptor : Descriptor)
    (live : begun.cancelled = false)
    (told : service.replyAt first turn = .answer { result := .ok descriptor, cancels := false }) :
    service.worldAt policy first begun (turn + 1)
      = { service.polled (service.waitAt policy first begun turn)
            (service.worldAt policy first begun turn) with
          clock := clockAt policy begun.clock (turn + 1) } := by
  have next := service.standingAt_succ first turn descriptor false told
  have stillLive := service.polled_cancelled (service.waitAt policy first begun turn)
    (service.worldAt policy first begun turn) live
  change _ = (service.replyAt first turn).cancels at stillLive
  rw [told] at stillLive
  exact World.ext (congrArg Standing.remote next) (live.trans stillLive.symm) rfl
    (service.polled_calls policy first begun turn).symm rfl

/-- A turn that decides ends the wait, with the calls and the result of its verdict; any
other turn leads to the next place of the sequence. -/
theorem turn_along (turn : Nat) (live : begun.cancelled = false)
    (unhurried : policy.timeout = none ∨ policy.timeout = some 0)
    (undecided : ∀ earlier, earlier < turn → service.verdictAt policy first earlier = none) :
    match service.verdictAt policy first turn with
    | some verdict => ∃ after,
        service.turn policy (service.waitAt policy first begun turn)
          (service.worldAt policy first begun turn) = .ended verdict.result after ∧
        after.calls = begun.calls
          ++ (service.pollsAt policy first begun.clock (turn + 1) ++ verdict.calls)
    | none =>
        service.turn policy (service.waitAt policy first begun turn)
            (service.worldAt policy first begun turn)
          = .again (service.waitAt policy first begun (turn + 1))
              (service.worldAt policy first begun (turn + 1)) := by
  have calls := service.polled_calls policy first begun turn
  have begins := started_le_clockAt policy begun.clock turn
  have sameReply : service.pollReply (service.waitAt policy first begun turn)
      (service.worldAt policy first begun turn) = service.replyAt first turn := rfl
  have stopCalls (executionId : String) :
      (service.made (.stop executionId) (service.polled (service.waitAt policy first begun turn)
        (service.worldAt policy first begun turn))).calls
        = begun.calls ++ (service.pollsAt policy first begun.clock (turn + 1)
          ++ [.stop executionId]) := by
    rw [made_calls, calls, List.append_assoc]
  have turned := service.turn_turned policy
    (service.waitAt policy first begun turn) (service.worldAt policy first begun turn)
  revert turned
  generalize service.turn policy (service.waitAt policy first begun turn)
    (service.worldAt policy first begun turn) = outcome
  intro turned
  unfold verdictAt
  cases turned with
  | cancelledBefore cancelled =>
      change begun.cancelled = true at cancelled
      rw [live] at cancelled
      cases cancelled
  | interrupted _ reply =>
      rw [← sameReply, reply]
      exact ⟨_, rfl, stopCalls _⟩
  | refused _ error cancels reply =>
      rw [← sameReply, reply]
      exact ⟨_, rfl, by rw [calls]; exact congrArg _ (List.append_nil _).symm⟩
  | ended _ descriptor cancels reply terminal =>
      rw [← sameReply, reply, verdict?_of_terminal _ _ _ _ terminal]
      exact ⟨_, rfl, by rw [calls]; exact congrArg _ (List.append_nil _).symm⟩
  | late _ descriptor cancels reply going passed =>
      have zero := timeout_of_passed policy _ _ begins unhurried passed
      have atOnce := service.first_of_zero_deadline policy first zero undecided
      subst atOnce
      have elapsed : ((service.worldAt policy first begun 0).clock
          - (service.waitAt policy first begun 0).started) / 1000 = 0 := by
        change (begun.clock - begun.clock) / 1000 = 0
        rw [Nat.sub_self, Nat.zero_div]
      rw [← sameReply, reply, verdict?_of_going _ _ _ _ going, if_pos zero, elapsed]
      exact ⟨_, rfl, stopCalls _⟩
  | cancelledMeanwhile _ descriptor _ reply going due =>
      obtain ⟨nonzero, _⟩ := timeout_of_due policy _ _ begins unhurried due
      rw [← sameReply, reply, verdict?_of_going _ _ _ _ going, if_neg nonzero, if_pos rfl]
      exact ⟨_, rfl, stopCalls _⟩
  | again _ descriptor sleep reply going due =>
      obtain ⟨nonzero, rfl⟩ := timeout_of_due policy _ _ begins unhurried due
      rw [← sameReply, reply, verdict?_of_going _ _ _ _ going, if_neg nonzero,
        if_neg Bool.false_ne_true, service.waitAt_succ policy first begun turn descriptor reply,
        service.worldAt_succ policy first begun turn descriptor live reply]
      rfl

private theorem worldAt_zero (same : first.remote = begun.remote) :
    service.worldAt policy first begun 0 = begun :=
  World.ext same rfl rfl (List.append_nil begun.calls) rfl

theorem await_of_decided (same : first.remote = begun.remote) (live : begun.cancelled = false)
    (unhurried : policy.timeout = none ∨ policy.timeout = some 0) (turn : Nat) (verdict : Verdict)
    (undecided : ∀ earlier, earlier < turn → service.verdictAt policy first earlier = none)
    (decides : service.verdictAt policy first turn = some verdict) :
    ∃ after,
      service.await policy (service.waitAt policy first begun 0) begun
        = some (verdict.result, after) ∧
      after.calls = begun.calls
        ++ (service.pollsAt policy first begun.clock (turn + 1) ++ verdict.calls) := by
  have last := service.turn_along policy first begun turn live unhurried undecided
  rw [decides] at last
  obtain ⟨after, finished, calls⟩ := last
  have along := service.await_along policy
    (service.waitAt policy first begun) (service.worldAt policy first begun) turn (by
      intro earlier before
      have step := service.turn_along policy first begun earlier live unhurried
        (fun evenEarlier first => undecided evenEarlier (Nat.lt_trans first before))
      rw [undecided earlier before] at step
      exact step)
  rw [service.worldAt_zero policy first begun same] at along
  exact ⟨after, along.trans (await_of_ended finished), calls⟩

theorem await_of_undecided (same : first.remote = begun.remote) (live : begun.cancelled = false)
    (unhurried : policy.timeout = none ∨ policy.timeout = some 0)
    (undecided : ∀ turn, service.verdictAt policy first turn = none) :
    service.await policy (service.waitAt policy first begun 0) begun = none := by
  have endless := service.await_endless policy
    (service.waitAt policy first begun) (service.worldAt policy first begun) (by
      intro turn
      have step := service.turn_along policy first begun turn live unhurried
        (fun earlier _ => undecided earlier)
      rw [undecided turn] at step
      exact step)
  rw [service.worldAt_zero policy first begun same] at endless
  exact endless

end Sequence

/-! ### Running a statement comes to the reference -/

variable {service : Service σ} {policy : PollPolicy} {submission : Submission} {world : World σ}

theorem execute_of_reference {result : Except QueryError Descriptor} {calls : List Call}
    (unhurried : policy.timeout = none ∨ policy.timeout = some 0)
    (reference : service.Reference policy submission world result calls) :
    ∃ after,
      service.execute policy submission.context submission.statement world
        = some (result, after) ∧
      after.calls = world.calls ++ calls := by
  cases reference with
  | cancelledBefore cancelled =>
      exact ⟨world, execute_of_cancelled cancelled, (List.append_nil world.calls).symm⟩
  | startFailed live error failed =>
      exact ⟨_, execute_of_startFailed live error failed, rfl⟩
  | unacknowledged live executionId told blank =>
      exact ⟨_, execute_of_unacknowledged live executionId told blank, rfl⟩
  | cancelledDuringStart executionId accepted cancelled =>
      have begun := service.started_cancelled submission world accepted.live
      rw [cancelled] at begun
      refine ⟨service.made (.stop executionId) (service.made (.start submission) world), ?_, ?_⟩
      · rw [execute_of_accepted executionId accepted]
        apply await_of_ended
        rw [turn, begun, if_pos rfl]
        rfl
      · rw [made_calls, made_calls, List.append_assoc]
        rfl
  | decided executionId accepted live turn verdict undecided decides =>
      have begun := service.started_cancelled submission world accepted.live
      rw [live] at begun
      obtain ⟨after, ended, calls⟩ := service.await_of_decided policy
        (service.firstStanding submission world executionId)
        (service.made (.start submission) world) rfl begun unhurried turn verdict undecided decides
      refine ⟨after, (execute_of_accepted executionId accepted).trans ended, ?_⟩
      rw [calls, made_calls, List.append_assoc]
      rfl

theorem execute_of_undecided (unhurried : policy.timeout = none ∨ policy.timeout = some 0)
    (undecided : service.Undecided policy submission world) :
    service.execute policy submission.context submission.statement world = none := by
  obtain ⟨executionId, accepted, live, never⟩ := undecided
  have begun := service.started_cancelled submission world accepted.live
  rw [live] at begun
  rw [execute_of_accepted executionId accepted]
  exact service.await_of_undecided policy _ _ rfl begun unhurried never

/-- Every statement has a reference result, or is never decided on. -/
theorem reference_or_undecided (service : Service σ) (policy : PollPolicy)
    (submission : Submission) (world : World σ) :
    (∃ result calls, service.Reference policy submission world result calls) ∨
      service.Undecided policy submission world := by
  cases live : world.cancelled with
  | true => exact Or.inl ⟨_, _, .cancelledBefore live⟩
  | false =>
      cases told : (service.start submission world.remote).1.result with
      | error error => exact Or.inl ⟨_, _, .startFailed live error told⟩
      | ok executionId =>
          cases named : Text.isBlankText executionId with
          | true => exact Or.inl ⟨_, _, .unacknowledged live executionId told named⟩
          | false =>
              have accepted : service.Accepted submission world executionId :=
                ⟨live, told, named⟩
              cases cancels : (service.start submission world.remote).1.cancels with
              | true => exact Or.inl ⟨_, _, .cancelledDuringStart executionId accepted cancels⟩
              | false =>
                  by_cases decided : ∃ turn, service.verdictAt policy
                      (service.firstStanding submission world executionId) turn ≠ none
                  · classical
                    obtain ⟨verdict, decides⟩ :=
                      Option.ne_none_iff_exists'.mp (Nat.find_spec decided)
                    refine Or.inl ⟨_, _, .decided executionId accepted cancels
                      (Nat.find decided) verdict ?_ decides⟩
                    intro earlier before
                    exact not_not.mp (Nat.find_min decided before)
                  · refine Or.inr ⟨executionId, accepted, cancels, ?_⟩
                    intro turn
                    exact not_not.mp (fun decides => decided ⟨turn, decides⟩)

/-- Running a statement under no deadline, or one of zero, has the result and makes the
calls of the reference; it never comes to an end exactly when no reply decides. -/
theorem execute_iff_reference (service : Service σ) (policy : PollPolicy)
    (context : ExecutionContext) (statement : String) (world : World σ)
    (unhurried : policy.timeout = none ∨ policy.timeout = some 0) :
    (∀ result calls,
      (∃ after, service.execute policy context statement world = some (result, after) ∧
        after.calls = world.calls ++ calls) ↔
      service.Reference policy { statement := statement, context := context } world
        result calls) ∧
    (service.execute policy context statement world = none ↔
      service.Undecided policy { statement := statement, context := context } world) := by
  have decidedOrNot := service.reference_or_undecided policy
    { statement := statement, context := context } world
  constructor
  · intro result calls
    constructor
    · rintro ⟨after, ended, made⟩
      rcases decidedOrNot with ⟨expected, expectedCalls, reference⟩ | undecided
      · obtain ⟨expectedAfter, expectedEnd, expectedMade⟩ :=
          execute_of_reference unhurried reference
        have same := ended.symm.trans expectedEnd
        cases same
        have sameCalls := List.append_cancel_left (made.symm.trans expectedMade)
        rw [sameCalls]
        exact reference
      · have endless := execute_of_undecided unhurried undecided
        rw [ended] at endless
        cases endless
    · intro reference
      exact execute_of_reference unhurried reference
  · constructor
    · intro endless
      rcases decidedOrNot with ⟨expected, expectedCalls, reference⟩ | undecided
      · obtain ⟨_, ended, _⟩ := execute_of_reference unhurried reference
        rw [endless] at ended
        cases ended
      · exact undecided
    · intro undecided
      exact execute_of_undecided unhurried undecided

def quickScript : Script :=
  let poll (state : ExecutionState) : ScriptedPoll :=
    { cancels := false, failure := none, executionId := none, state := state
      resultLocation := none, reason := none, statistics := none }
  { acknowledgement := "q", startFailure := none, cancelsOnStart := false
    polls := [poll .running, poll .succeeded], stopFailure := none, objects := []
    reachesCaller := true }

def quickPolicy : PollPolicy :=
  { interval := nanosPerMilli, maxInterval := nanosPerMilli
    backoffFactor := Decimal.ofInt 1, timeout := none }

def quickWorld : World Script :=
  { remote := quickScript, cancelled := false, clock := 0, calls := [], staging := .fresh [] }

theorem execute_iff_reference_quick :
    (quickPolicy.timeout = none ∨ quickPolicy.timeout = some 0) ∧
      ∃ after,
        (Script.service "scripted").execute quickPolicy default "SELECT 1" quickWorld
          = some (.ok { Descriptor.pending "q" with state := .succeeded }, after) ∧
        after.calls = [.start { statement := "SELECT 1", context := default },
          .poll "q" 0, .poll "q" 1] := by
  refine ⟨Or.inl rfl, ?_⟩
  have reference : (Script.service "scripted").Reference quickPolicy
      { statement := "SELECT 1", context := default } quickWorld
      (.ok { Descriptor.pending "q" with state := .succeeded })
      [.start { statement := "SELECT 1", context := default }, .poll "q" 0, .poll "q" 1] :=
    .decided "q" ⟨rfl, rfl, by decide⟩ rfl 1
      (.settled (.ok { Descriptor.pending "q" with state := .succeeded }))
      (by intro earlier before; cases Nat.lt_one_iff.mp before; rfl) rfl
  exact ((execute_iff_reference (Script.service "scripted") quickPolicy default "SELECT 1"
    quickWorld (Or.inl rfl)).1 _ _).mpr reference

end RemoteQuery.Service
