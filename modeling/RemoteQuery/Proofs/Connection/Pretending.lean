import RemoteQuery.Proofs.Connection.Log
set_option autoImplicit false

/-! Pretending over runs of steps.  Whether a connection pretends is a matter of the steps
alone, and so is what a pretended request answers: engine, store, staging folder and caller
have no part in it.  Such a request leaves nothing behind but an entry in the log, so that
a run without it differs in what the log holds and in nothing else. -/

namespace RemoteQuery

/-! ### What is left when the log is left out -/

/-- What a mode answers without running anything. -/
def Mode.pretended : Mode → StepResult
  | .statement => .flag true
  | .select => .records []
  | .fetch => .output .empty
  | .exportPath => .text ""

def StepResult.exceptLog : StepResult → StepResult
  | .log _ => .log []
  | result => result

variable {σ τ : Type}

def Session.exceptLog (session : Session σ) : Session σ := { session with log := [] }

def Moment.exceptLog (moment : Moment σ) : Moment σ :=
  { step := moment.step, before := moment.before.exceptLog, result := moment.result.exceptLog
    after := moment.after.exceptLog }

def Moment.Pretended (moment : Moment σ) (mode : Mode) (request : Request) : Prop :=
  moment.step = .query mode request ∧ moment.before.pretending = true

namespace Connection

/-- Two runs of the same steps, and what is pretended in them.  What is said of the first
run alone holds of the other as well, since the two can be exchanged. -/
structure PretendsApart (connection : Connection) (service : Service σ) (other : Service τ)
    (steps : List Step) (session : Session σ) (otherSession : Session τ) : Prop where
  /-- Where both runs have come to, the one pretends if the other does, with one result. -/
  alike : ∀ (turn : Nat) (moment : Moment σ) (otherMoment : Moment τ),
    (connection.run service steps session)[turn]? = some moment →
    (connection.run other steps otherSession)[turn]? = some otherMoment →
    ∀ mode request, moment.Pretended mode request →
      otherMoment.Pretended mode request ∧ moment.result = mode.pretended ∧
        otherMoment.result = mode.pretended
  /-- Nothing is called, and the staging folder, the service and the clock stay as they are. -/
  untouched : ∀ moment, moment ∈ connection.run service steps session → ∀ mode request,
    moment.Pretended mode request → moment.after.world = moment.before.world
  /-- No run comes to its end in front of a request that is to be pretended. -/
  answered : ∀ mode request,
    steps[(connection.run service steps session).length]? = some (.query mode request) →
    (session.reached (connection.run service steps session)).pretending = false
  /-- Without a pretended request a run takes the same course, the log apart. -/
  removable : ∀ (turn : Nat) (moment : Moment σ),
    (connection.run service steps session)[turn]? = some moment →
    ∀ mode request, moment.Pretended mode request →
      (connection.run service (steps.eraseIdx turn) session).map Moment.exceptLog
        = ((connection.run service steps session).eraseIdx turn).map Moment.exceptLog

variable {connection : Connection} {service : Service σ}

/-! ### One step -/

theorem query_of_pretending (connection : Connection) (service : Service σ) (mode : Mode)
    (request : Request) {session : Session σ} (pretending : session.pretending = true) :
    connection.query service mode request session
      = some (mode.pretended, session.note request.sql true) := by
  cases mode with
  | statement => rw [query, statement, call, if_pos pretending]; rfl
  | select => rw [query, select, fetch, call, if_pos pretending]; rfl
  | fetch => rw [query, fetch, call, if_pos pretending]; rfl
  | exportPath => rw [query, exportPath, call, if_pos pretending]; rfl

theorem Took.of_pretended {moment : Moment σ} (took : connection.Took service moment)
    {mode : Mode} {request : Request} (pretended : moment.Pretended mode request) :
    moment.result = mode.pretended ∧ moment.after = moment.before.note request.sql true := by
  rw [Took, pretended.1, perform,
    connection.query_of_pretending service mode request pretended.2, Option.some.injEq,
    Prod.mk.injEq] at took
  exact ⟨took.1.symm, took.2.symm⟩

theorem call_pretending {α : Type} {pretended : α}
    {finish : Descriptor → World σ → Except QueryError α × World σ} {request : Request}
    {session : Session σ} {answered : CallResult α × Session σ}
    (came : connection.call service pretended finish request session = some answered) :
    answered.2.pretending = session.pretending := by
  rw [call] at came
  split at came
  · cases came
    exact Session.note_pretending _ _ _
  · split at came
    · cases came
      rfl
    · cases came
      exact Session.note_pretending _ _ _
    · obtain ⟨executed, _, same⟩ := Option.map_eq_some_iff.mp came
      cases same
      exact Session.note_pretending _ _ _

/-- Only the caller decides whether a connection pretends, even if a call is broken off. -/
theorem Took.pretending {moment : Moment σ} (took : connection.Took service moment) :
    moment.after.pretending = moment.step.setsPretending?.getD moment.before.pretending := by
  obtain ⟨step, before, result, after⟩ := moment
  change connection.perform service step before = some (result, after) at took
  cases step with
  | query mode request =>
      obtain ⟨_, _, _, _, same, _⟩ := connection.query_finishes service mode request before
      rw [perform, same] at took
      obtain ⟨answered, came, told⟩ := Option.map_eq_some_iff.mp took
      cases told
      exact call_pretending came
  | prepare request => cases took; rfl
  | setPretending value => cases took; rfl
  | enableLog => cases took; rfl
  | flushLog => cases took; rfl
  | readLog => cases took; rfl
  | cancel => cases took; rfl

/-! ### Sessions that differ in their logs -/

private theorem note_exceptLog (session : Session σ) (query : String) (pretended : Bool) :
    (session.note query pretended).exceptLog = session.exceptLog := by
  rw [Session.note]
  split <;> rfl

theorem call_exceptLog {α : Type} (connection : Connection) (service : Service σ) (pretended : α)
    (finish : Descriptor → World σ → Except QueryError α × World σ) (request : Request)
    {first second : Session σ} (same : first.exceptLog = second.exceptLog) :
    (connection.call service pretended finish request first).map
        (fun answered => (answered.1, answered.2.exceptLog))
      = (connection.call service pretended finish request second).map
        (fun answered => (answered.1, answered.2.exceptLog)) := by
  obtain ⟨world, pretending, logging, log⟩ := first
  obtain ⟨_, _, _, otherLog⟩ := second
  cases same
  rw [call, call]
  cases pretending with
  | true =>
      rw [if_pos rfl, if_pos rfl, Option.map_some, Option.map_some, note_exceptLog, note_exceptLog]
      rfl
  | false =>
      rw [if_neg Bool.false_ne_true, if_neg Bool.false_ne_true]
      cases connection.prepare request with
      | error failure =>
          cases failure with
          | overflow overflow => rfl
          | refused error =>
              simp only [Option.map_some, note_exceptLog]
              rfl
      | ok statement =>
          simp only [Option.map_map]
          refine congrArg (Option.map · _) (funext fun executed => ?_)
          simp only [Function.comp_apply, note_exceptLog]
          rfl

theorem query_eq_map_call (connection : Connection) (service : Service σ) (mode : Mode)
    (request : Request) :
    ∃ (β : Type) (pretended : β) (finish : Descriptor → World σ → Except QueryError β × World σ)
      (content : β → StepResult), ∀ session,
        connection.query service mode request session
          = (connection.call service pretended finish request session).map
            (StepResult.ofAnswered content) := by
  cases mode with
  | statement => exact ⟨Bool, true, _, .flag, fun _ => rfl⟩
  | exportPath => exact ⟨String, "", connection.locate, .text, fun _ => rfl⟩
  | fetch => exact ⟨QueryOutput, .empty, connection.collect service, .output, fun _ => rfl⟩
  | select =>
      refine ⟨QueryOutput, .empty, connection.collect service, fun output => .records output.rows,
        fun session => ?_⟩
      rw [query, select, fetch, Option.map_map]
      refine congrArg (Option.map · _) (funext fun answered => ?_)
      obtain ⟨result, after⟩ := answered
      cases result <;> rfl

theorem perform_exceptLog (connection : Connection) (service : Service σ) (step : Step)
    {first second : Session σ} (same : first.exceptLog = second.exceptLog) :
    (connection.perform service step first).map
        (fun told => (told.1.exceptLog, told.2.exceptLog))
      = (connection.perform service step second).map
        (fun told => (told.1.exceptLog, told.2.exceptLog)) := by
  cases step with
  | query mode request =>
      obtain ⟨β, pretended, finish, content, asCall⟩ :=
        connection.query_eq_map_call service mode request
      have apart (answered : Option (CallResult β × Session σ)) :
          (answered.map (StepResult.ofAnswered content)).map
              (fun told => (told.1.exceptLog, told.2.exceptLog))
            = (answered.map fun answered => (answered.1, answered.2.exceptLog)).map
              fun answered => ((StepResult.ofCall content answered.1).exceptLog, answered.2) := by
        cases answered <;> rfl
      rw [perform, perform, asCall, asCall, apart, apart,
        connection.call_exceptLog service pretended finish request same]
  | prepare request => simp only [perform, Option.map_some, same]
  | readLog => simp only [perform, Option.map_some, same, StepResult.exceptLog]
  | enableLog | flushLog | cancel | setPretending value =>
      obtain ⟨world, pretending, logging, log⟩ := first
      obtain ⟨_, _, _, otherLog⟩ := second
      cases same
      rfl

/-! ### Runs of steps -/

theorem run_exceptLog (connection : Connection) (service : Service σ) (steps : List Step)
    {first second : Session σ} (same : first.exceptLog = second.exceptLog) :
    (connection.run service steps first).map Moment.exceptLog
      = (connection.run service steps second).map Moment.exceptLog := by
  induction steps generalizing first second with
  | nil => rfl
  | cons step rest inductionHypothesis =>
      have told := connection.perform_exceptLog service step same
      cases came : connection.perform service step first with
      | none =>
          rw [came] at told
          have never := Option.map_eq_none_iff.mp told.symm
          rw [run_of_endless _ _ came, run_of_endless _ _ never]
      | some answer =>
          obtain ⟨result, after⟩ := answer
          rw [came] at told
          obtain ⟨⟨otherResult, otherAfter⟩, otherCame, equal⟩ :=
            Option.map_eq_some_iff.mp told.symm
          obtain ⟨sameResult, sameAfter⟩ := Prod.mk.injEq _ _ _ _ ▸ equal
          rw [run_cons _ _ came, run_cons _ _ otherCame, List.map_cons, List.map_cons,
            inductionHypothesis sameAfter.symm, Moment.exceptLog, Moment.exceptLog, same,
            sameResult, sameAfter]

theorem run_eraseIdx {steps : List Step} {session : Session σ} {turn : Nat} {moment : Moment σ}
    (found : (connection.run service steps session)[turn]? = some moment) {mode : Mode}
    {request : Request} (pretended : moment.Pretended mode request) :
    (connection.run service (steps.eraseIdx turn) session).map Moment.exceptLog
      = ((connection.run service steps session).eraseIdx turn).map Moment.exceptLog := by
  induction steps generalizing session turn with
  | nil => cases found
  | cons step rest inductionHypothesis =>
      cases came : connection.perform service step session with
      | none =>
          rw [run_of_endless _ _ came] at found
          cases found
      | some answer =>
          obtain ⟨result, after⟩ := answer
          have took : connection.Took service ⟨step, session, result, after⟩ := came
          rw [run_cons _ _ came] at found ⊢
          cases turn with
          | zero =>
              cases found
              have noted := (took.of_pretended pretended).2
              rw [List.eraseIdx_cons_zero, List.eraseIdx_cons_zero]
              refine connection.run_exceptLog service rest ?_
              exact ((congrArg Session.exceptLog noted).trans (note_exceptLog _ _ _)).symm
          | succ turn =>
              rw [List.eraseIdx_cons_succ, List.eraseIdx_cons_succ, run_cons _ _ came,
                List.map_cons, List.map_cons, inductionHypothesis found]

private theorem pretendingAfter_cons (pretending : Bool) (step : Step) (rest : List Step) :
    Step.pretendingAfter pretending (step :: rest)
      = Step.pretendingAfter (step.setsPretending?.getD pretending) rest := by
  rw [Step.pretendingAfter, Step.pretendingAfter]
  cases told : step.setsPretending? with
  | none => rw [List.filterMap_cons_none told]; rfl
  | some value => rw [List.filterMap_cons_some told, List.getLast?_cons]; rfl

/-- Steps are taken in their order, and whether one of them is pretended is a matter of the
steps before it. -/
theorem run_position {steps : List Step} {session : Session σ} {turn : Nat} {moment : Moment σ}
    (found : (connection.run service steps session)[turn]? = some moment) :
    steps[turn]? = some moment.step ∧
      moment.before.pretending = Step.pretendingAfter session.pretending (steps.take turn) := by
  induction steps generalizing session turn with
  | nil => cases found
  | cons step rest inductionHypothesis =>
      cases came : connection.perform service step session with
      | none =>
          rw [run_of_endless _ _ came] at found
          cases found
      | some answer =>
          obtain ⟨result, after⟩ := answer
          have took : connection.Took service ⟨step, session, result, after⟩ := came
          rw [run_cons _ _ came] at found
          cases turn with
          | zero =>
              cases found
              exact ⟨rfl, rfl⟩
          | succ turn =>
              obtain ⟨here, pretending⟩ := inductionHypothesis found
              refine ⟨here, ?_⟩
              rw [pretending, took.pretending, List.take_succ_cons, pretendingAfter_cons]

theorem run_answered {steps : List Step} {session : Session σ} {mode : Mode} {request : Request}
    (asked : steps[(connection.run service steps session).length]?
      = some (.query mode request)) :
    (session.reached (connection.run service steps session)).pretending = false := by
  induction steps generalizing session with
  | nil => cases asked
  | cons step rest inductionHypothesis =>
      cases came : connection.perform service step session with
      | none =>
          rw [run_of_endless _ _ came] at asked ⊢
          cases asked
          refine Bool.eq_false_iff.mpr fun pretending => ?_
          change session.pretending = true at pretending
          rw [perform, connection.query_of_pretending service mode request pretending] at came
          cases came
      | some answer =>
          obtain ⟨result, after⟩ := answer
          rw [run_cons _ _ came] at asked ⊢
          exact inductionHypothesis asked

/-- Whatever engines, stores, staging folders and callers are at work, two connections with
the same settings pretend alike, and pretending is not felt elsewhere. -/
theorem run_pretendsApart (connection : Connection) (service : Service σ) (other : Service τ)
    (steps : List Step) (session : Session σ) (otherSession : Session τ)
    (same : session.pretending = otherSession.pretending) :
    connection.PretendsApart service other steps session otherSession := by
  constructor
  · intro turn moment otherMoment found otherFound mode request pretended
    obtain ⟨here, pretending⟩ := run_position found
    obtain ⟨otherHere, otherPretending⟩ := run_position otherFound
    have otherPretended : otherMoment.Pretended mode request := by
      constructor
      · rw [← pretended.1, ← Option.some.injEq, ← otherHere, here]
      · rw [otherPretending, ← same, ← pretending, pretended.2]
    exact ⟨otherPretended,
      ((took_of_mem_run (List.mem_of_getElem? found)).of_pretended pretended).1,
      ((took_of_mem_run (List.mem_of_getElem? otherFound)).of_pretended otherPretended).1⟩
  · intro moment member mode request pretended
    rw [((took_of_mem_run member).of_pretended pretended).2, Session.note_world]
  · intro mode request asked
    exact run_answered asked
  · intro turn moment found mode request pretended
    exact run_eraseIdx found pretended

/-- A request for a page that would end beyond the row numbers. -/
def overflowingRequest : Request :=
  { sql := "rank() over () rn", bindings := [], limit := some 1
    offset := some 18446744073709551615 }

def overflowingSteps : List Step :=
  [.setPretending true, .query .exportPath overflowingRequest, .setPretending false,
    .query .exportPath overflowingRequest]

def overflowingResults : List StepResult :=
  [.flag true, .text "", .flag false, .refused (.overflow .add)]

theorem run_pretendsApart_overflowing :
    cancellingSession.pretending = cancelledSession.pretending ∧
    (cancellingConnection.run (Script.service "scripted") overflowingSteps
      cancellingSession).map Moment.result = overflowingResults ∧
    (cancellingConnection.run (Script.service "scripted") overflowingSteps
      cancelledSession).map Moment.result = overflowingResults ∧
    cancellingConnection.PretendsApart (Script.service "scripted") (Script.service "scripted")
      overflowingSteps cancellingSession cancelledSession :=
  ⟨rfl, by decide +kernel, by decide +kernel, run_pretendsApart _ _ _ _ _ _ rfl⟩

end Connection

end RemoteQuery
