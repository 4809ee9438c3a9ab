import RemoteQuery.Proofs.Execution.Turn
set_option autoImplicit false

/-! What running a statement leaves behind.  It makes calls, none of them a download and
at most a stop behind the one during which the caller cancels, and it never touches the
staging folder.  Where it is waited for without end the caller never cancels. -/

namespace RemoteQuery

def Call.isDownload : Call → Bool
  | .download _ => true
  | _ => false

namespace Service

variable {σ : Type} {service : Service σ} {policy : PollPolicy}

/-- The trace of a statement that is run, or of the rest of one. -/
structure Executed (service : Service σ) (calls : List Call) (world after : World σ) :
    Prop where
  traced : service.Traced calls world after
  staging_eq : after.staging = world.staging
  undownloaded : ∀ call, call ∈ calls → call.isDownload = false
  halts : world.cancelled = false → service.HaltsOnCancel world.remote calls
  stops : world.cancelled = true → calls = [] ∨ ∃ executionId, calls = [.stop executionId]

theorem Executed.of_live {calls : List Call} {world after : World σ}
    (live : world.cancelled = false) (traced : service.Traced calls world after)
    (staging : after.staging = world.staging)
    (undownloaded : ∀ call, call ∈ calls → call.isDownload = false)
    (halts : service.HaltsOnCancel world.remote calls) :
    service.Executed calls world after :=
  { traced := traced
    staging_eq := staging
    undownloaded := undownloaded
    halts := fun _ => halts
    stops := fun cancelled => (Bool.false_ne_true (live.symm.trans cancelled)).elim }

theorem Executed.unmoved (world : World σ) : service.Executed [] world world where
  traced := .refl service world
  staging_eq := rfl
  undownloaded := by
    intro call member
    cases member
  halts := fun _ => trivial
  stops := fun _ => Or.inl rfl

theorem Executed.stopped (executionId : String) (world : World σ) :
    service.Executed [.stop executionId] world (service.made (.stop executionId) world) where
  traced := .single service _ world
  staging_eq := rfl
  undownloaded := by
    intro call member
    rw [List.mem_singleton.mp member]
    rfl
  halts := fun _ => service.haltsOnCancel_single world.remote _
  stops := fun _ => Or.inr ⟨executionId, rfl⟩

theorem Executed.single {call : Call} {world : World σ} (live : world.cancelled = false)
    (other : call.isDownload = false) :
    service.Executed [call] world (service.made call world) := by
  refine .of_live live (.single service call world) rfl ?_ (service.haltsOnCancel_single _ _)
  intro same member
  rw [List.mem_singleton.mp member]
  exact other

theorem Executed.cons {call : Call} {calls : List Call} {world between after : World σ}
    (live : world.cancelled = false) (other : call.isDownload = false)
    (first : service.Traced [call] world between) (staging : between.staging = world.staging)
    (rest : service.Executed calls between after) :
    service.Executed (call :: calls) world after := by
  have sameRemote : between.remote = service.stateAfter world.remote call := first.remote_eq
  have sameToken : between.cancelled = service.cancelsDuring world.remote call := by
    rw [first.cancelled_eq, live, Bool.false_or, cancelsIn_singleton]
  refine .of_live live (first.trans rest.traced) (rest.staging_eq.trans staging) ?_ ?_
  · intro same member
    rcases List.mem_cons.mp member with here | behind
    · rw [here]
      exact other
    · exact rest.undownloaded same behind
  · rw [HaltsOnCancel]
    cases cancels : service.cancelsDuring world.remote call with
    | true =>
        rw [if_pos rfl]
        exact rest.stops (sameToken.trans cancels)
    | false =>
        rw [if_neg Bool.false_ne_true, ← sameRemote]
        exact rest.halts (sameToken.trans cancels)

theorem await_executed {wait : Wait} {world after : World σ}
    {result : Except QueryError Descriptor}
    (ended : service.await policy wait world = some (result, after)) :
    ∃ calls, service.Executed calls world after := by
  refine await_induction
    (motive := fun _ world _ after => ∃ calls, service.Executed calls world after) ?_ ?_ ended
  · intro wait world result after finished
    have turned := service.turn_turned policy wait world
    rw [finished] at turned
    have asked (live : world.cancelled = false) :
        service.Executed [.poll wait.executionId world.clock] world (service.polled wait world) :=
      .single live rfl
    have askedAndStopped (executionId : String) (live : world.cancelled = false) :
        service.Executed [.poll wait.executionId world.clock, .stop executionId] world
          (service.made (.stop executionId) (service.polled wait world)) :=
      .cons live rfl (.single service _ world) rfl (.stopped executionId _)
    cases turned with
    | cancelledBefore _ => exact ⟨_, .stopped wait.executionId world⟩
    | interrupted live _ => exact ⟨_, askedAndStopped _ live⟩
    | refused live _ _ _ => exact ⟨_, asked live⟩
    | ended live _ _ _ _ => exact ⟨_, asked live⟩
    | late live _ _ _ _ _ => exact ⟨_, askedAndStopped _ live⟩
    | cancelledMeanwhile live _ _ _ _ _ => exact ⟨_, askedAndStopped _ live⟩
  · intro wait world next between result after again rest
    obtain ⟨calls, executed⟩ := rest
    have turned := service.turn_turned policy wait world
    rw [again] at turned
    cases turned with
    | again live descriptor pause reply going due =>
        have polled := Traced.single service (.poll wait.executionId world.clock) world
        have asked : service.Traced [.poll wait.executionId world.clock] world
            { service.polled wait world with
              clock := world.clock + dividedUp pause nanosPerMilli } :=
          ⟨polled.calls_eq, polled.remote_eq, polled.cancelled_eq⟩
        exact ⟨_, .cons live rfl asked rfl executed⟩

/-- Running a statement, whatever comes of it, is such a trace; a caller who has cancelled
makes no call at all. -/
theorem execute_executed {context : ExecutionContext} {statement : String}
    {world after : World σ} {result : Except QueryError Descriptor}
    (ended : service.execute policy context statement world = some (result, after)) :
    ∃ calls, service.Executed calls world after := by
  have submitted := service.execute_submitted policy context statement world
  rw [ended] at submitted
  generalize came : some (result, after) = outcome at submitted
  cases submitted with
  | cancelledBefore cancelled =>
      cases came
      exact ⟨[], .unmoved world⟩
  | failed live error =>
      cases came
      exact ⟨_, .single live rfl⟩
  | accepted executionId accepted =>
      obtain ⟨calls, executed⟩ := await_executed came.symm
      exact ⟨_, .cons accepted.live rfl (.single service _ world) rfl executed⟩

/-! ### What is told in the end -/

private theorem resolve_eq_ok {descriptor told : Descriptor}
    (resolved : descriptor.resolve = .ok told) :
    told = descriptor := by
  have absorbed (failed : descriptor.resolveFailure = .ok told) : told = descriptor := by
    rw [Descriptor.resolveFailure] at failed
    split at failed
    · exact (Except.ok.inj failed).symm
    · cases failed
  rw [Descriptor.resolve] at resolved
  split at resolved
  · exact absorbed resolved
  · exact absorbed resolved
  · exact (Except.ok.inj resolved).symm

theorem await_terminal {wait : Wait} {world after : World σ}
    {result : Except QueryError Descriptor}
    (ended : service.await policy wait world = some (result, after)) :
    ∀ descriptor, result = .ok descriptor → descriptor.isTerminal = true := by
  refine await_induction
    (motive := fun _ _ result _ => ∀ descriptor, result = .ok descriptor →
      descriptor.isTerminal = true) ?_ ?_ ended
  · intro wait world result after finished told succeeded
    have turned := service.turn_turned policy wait world
    rw [finished, succeeded] at turned
    generalize came : Except.ok told = outcome at turned
    cases turned with
    | cancelledBefore _ => cases came
    | interrupted _ _ => cases came
    | refused _ _ _ _ => cases came
    | ended _ descriptor _ _ terminal =>
        rw [resolve_eq_ok came.symm]
        exact terminal
    | late _ _ _ _ _ _ => cases came
    | cancelledMeanwhile _ _ _ _ _ _ => cases came
  · intro wait world next between result after again rest
    exact rest

theorem execute_terminal {context : ExecutionContext} {statement : String}
    {world after : World σ} {descriptor : Descriptor}
    (ended : service.execute policy context statement world = some (.ok descriptor, after)) :
    descriptor.isTerminal = true := by
  have submitted := service.execute_submitted policy context statement world
  rw [ended] at submitted
  generalize came : some (Except.ok descriptor, after) = outcome at submitted
  cases submitted with
  | cancelledBefore cancelled => cases came
  | failed live error => cases came
  | accepted executionId accepted => exact await_terminal came.symm descriptor rfl

/-! ### Waits without end -/

/-- The turns of a wait go on for ever, and before none of them has the caller cancelled. -/
def Endless (service : Service σ) (policy : PollPolicy) (wait : Wait) (world : World σ) : Prop :=
  ∃ (waits : Nat → Wait) (worlds : Nat → World σ), waits 0 = wait ∧ worlds 0 = world ∧
    ∀ turn,
      service.turn policy (waits turn) (worlds turn)
        = .again (waits (turn + 1)) (worlds (turn + 1)) ∧
      (worlds turn).cancelled = false

def onward (service : Service σ) (policy : PollPolicy) (wait : Wait) (world : World σ) :
    Nat → Wait × World σ
  | 0 => (wait, world)
  | count + 1 =>
      let (wait, world) := service.onward policy wait world count
      match service.turn policy wait world with
      | .ended _ _ => (wait, world)
      | .again wait world => (wait, world)

theorem onward_succ {wait next : Wait} {world between : World σ} {count : Nat}
    (going : service.turn policy (service.onward policy wait world count).1
      (service.onward policy wait world count).2 = .again next between) :
    service.onward policy wait world (count + 1) = (next, between) := by
  simp only [onward, going]

theorem await_eq_none_iff (wait : Wait) (world : World σ) :
    service.await policy wait world = none ↔ service.Endless policy wait world := by
  constructor
  · intro never
    have still (turn : Nat) : service.await policy (service.onward policy wait world turn).1
        (service.onward policy wait world turn).2 = none := by
      induction turn with
      | zero => exact never
      | succ turn inductionHypothesis =>
          cases turned : service.turn policy (service.onward policy wait world turn).1
              (service.onward policy wait world turn).2 with
          | ended result after =>
              rw [await_of_ended turned] at inductionHypothesis
              cases inductionHypothesis
          | again next between =>
              rw [onward_succ turned]
              exact (await_of_again turned).symm.trans inductionHypothesis
    refine ⟨fun turn => (service.onward policy wait world turn).1,
      fun turn => (service.onward policy wait world turn).2, rfl, rfl, ?_⟩
    intro turn
    have turned := service.turn_turned policy (service.onward policy wait world turn).1
      (service.onward policy wait world turn).2
    cases came : service.turn policy (service.onward policy wait world turn).1
        (service.onward policy wait world turn).2 with
    | ended result after =>
        have ended := still turn
        rw [await_of_ended came] at ended
        cases ended
    | again next between =>
        rw [came] at turned
        constructor
        · simp only [onward_succ came]
        · cases turned with
          | again live _ _ _ _ _ => exact live
  · rintro ⟨waits, worlds, firstWait, firstWorld, going⟩
    rw [← firstWait, ← firstWorld]
    exact service.await_endless policy waits worlds (fun turn => (going turn).1)

/-- A statement that never comes to an end has been accepted and is waited for without
end. -/
theorem execute_endless {context : ExecutionContext} {statement : String} {world : World σ}
    (never : service.execute policy context statement world = none) :
    ∃ executionId,
      service.Accepted { statement := statement, context := context } world executionId ∧
      service.Endless policy
        { executionId := executionId, interval := policy.interval, started := world.clock }
        (service.made (.start { statement := statement, context := context }) world) := by
  have submitted := service.execute_submitted policy context statement world
  rw [never] at submitted
  generalize came : none = outcome at submitted
  cases submitted with
  | cancelledBefore cancelled => cases came
  | failed live error => cases came
  | accepted executionId accepted =>
      exact ⟨executionId, accepted, (await_eq_none_iff _ _).mp came.symm⟩

end Service

end RemoteQuery
