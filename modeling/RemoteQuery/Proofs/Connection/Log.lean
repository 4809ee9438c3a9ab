import Mathlib.Data.List.DropRight
import RemoteQuery.Proofs.Connection.Cancellation
import RemoteQuery.Proofs.Connection.Course
set_option autoImplicit false

/-! The log over runs of steps.  What a caller reads there is one entry for every request
since the log was first kept and last emptied, whatever became of the requests.  Runs are
taken apart at their last step, since that is where the log grows. -/

namespace RemoteQuery

/-! ### What the log is to hold -/

namespace Step

def enablesLog : Step → Bool
  | .enableLog => true
  | _ => false

def flushesLog : Step → Bool
  | .flushLog => true
  | _ => false

def setsPretending? : Step → Option Bool
  | .setPretending pretending => some pretending
  | _ => none

def pretendingAfter (pretending : Bool) (steps : List Step) : Bool :=
  (steps.filterMap setsPretending?).getLast?.getD pretending

private theorem pretendingAfter_concat (pretending : Bool) (steps : List Step) (step : Step) :
    pretendingAfter pretending (steps ++ [step])
      = step.setsPretending?.getD (pretendingAfter pretending steps) := by
  rw [pretendingAfter, List.filterMap_append, List.getLast?_append]
  cases told : step.setsPretending? with
  | none => rw [List.filterMap_cons_none told]; rfl
  | some value => rw [List.filterMap_cons_some told]; rfl

end Step

variable {σ : Type}

/-- What was done since the log was first kept, and since it was last emptied. -/
def Moment.recorded (earlier : List (Moment σ)) : List (Moment σ) :=
  (earlier.dropWhile fun moment => !moment.step.enablesLog).tail.rtakeWhile
    fun moment => !moment.step.flushesLog

namespace Connection

/-- What is written down for a request: the text of the caller when the connection is
pretending or there is no statement, and else the statement. -/
def entryFor (connection : Connection) (pretending : Bool) (request : Request) : LogEntry :=
  if pretending then { query := request.sql, pretended := true }
  else match connection.prepare request with
    | .ok statement => { query := statement, pretended := false }
    | .error _ => { query := request.sql, pretended := false }

def noted? (connection : Connection) (moment : Moment σ) : Option LogEntry :=
  match moment.step with
  | .query _ request => some (connection.entryFor moment.before.pretending request)
  | _ => none

def logOf (connection : Connection) (earlier : List (Moment σ)) : List LogEntry :=
  (Moment.recorded earlier).filterMap connection.noted?

/-- What the log holds in a run of steps. -/
structure KeepsLog (connection : Connection) (service : Service σ) (steps : List Step)
    (session : Session σ) : Prop where
  /-- Wherever a run has come to, the log has one entry for every recorded request. -/
  held : ∀ earlier later, connection.run service steps session = earlier ++ later →
    (session.reached earlier).log = connection.logOf earlier
  /-- That is what a caller is told who reads the log. -/
  told : ∀ earlier moment later,
    connection.run service steps session = earlier ++ moment :: later →
    moment.step = .readLog → moment.result = .log (connection.logOf earlier)
  /-- A request is pretended as the caller has last said before it. -/
  pretending : ∀ earlier moment later,
    connection.run service steps session = earlier ++ moment :: later →
    moment.before.pretending
      = Step.pretendingAfter session.pretending (earlier.map Moment.step)

end Connection

/-! ### What one more step records -/

namespace Moment

def logged (earlier : List (Moment σ)) : Bool :=
  earlier.any fun moment => moment.step.enablesLog

private theorem logged_concat (earlier : List (Moment σ)) (moment : Moment σ) :
    logged (earlier ++ [moment]) = (logged earlier || moment.step.enablesLog) := by
  rw [logged, List.any_append, List.any_cons, List.any_nil, Bool.or_false]
  rfl

theorem dropWhile_eq_nil_iff_logged (earlier : List (Moment σ)) :
    (earlier.dropWhile fun moment => !moment.step.enablesLog) = [] ↔ logged earlier = false := by
  simp [logged, List.dropWhile_eq_nil_iff]

private theorem recorded_of_unlogged {earlier : List (Moment σ)}
    (unlogged : logged earlier = false) :
    recorded earlier = [] := by
  rw [recorded, (dropWhile_eq_nil_iff_logged earlier).mpr unlogged]
  rfl

/-- The step that first enables the log is not recorded itself. -/
theorem recorded_concat_of_unlogged {earlier : List (Moment σ)} (moment : Moment σ)
    (unlogged : logged earlier = false) : recorded (earlier ++ [moment]) = [] := by
  have empty := (dropWhile_eq_nil_iff_logged earlier).mpr unlogged
  have behind : ((earlier ++ [moment]).dropWhile fun moment => !moment.step.enablesLog).tail
      = [] := by
    rw [List.dropWhile_append, empty, List.isEmpty_nil, if_pos rfl, List.dropWhile_cons]
    split <;> rfl
  rw [recorded, behind]
  rfl

private theorem recorded_concat_of_logged {earlier : List (Moment σ)} (moment : Moment σ)
    (enabled : logged earlier = true) :
    recorded (earlier ++ [moment])
      = if moment.step.flushesLog then [] else recorded earlier ++ [moment] := by
  have filled : (earlier.dropWhile fun moment => !moment.step.enablesLog) ≠ [] := fun empty =>
    Bool.false_ne_true (((dropWhile_eq_nil_iff_logged earlier).mp empty).symm.trans enabled)
  rw [recorded, List.dropWhile_append, if_neg (mt List.isEmpty_iff.mp filled),
    List.tail_append_of_ne_nil filled, List.rtakeWhile_concat]
  cases moment.step.flushesLog <;> rfl

end Moment

namespace Connection

private theorem logOf_concat (connection : Connection) (earlier : List (Moment σ))
    (moment : Moment σ) :
    connection.logOf (earlier ++ [moment])
      = if moment.step.flushesLog then []
        else if Moment.logged earlier then
          connection.logOf earlier ++ (connection.noted? moment).toList
        else connection.logOf earlier := by
  cases enabled : Moment.logged earlier with
  | false =>
      rw [logOf, logOf, Moment.recorded_concat_of_unlogged moment enabled,
        Moment.recorded_of_unlogged enabled]
      split <;> rfl
  | true =>
      rw [logOf, Moment.recorded_concat_of_logged moment enabled, if_pos rfl]
      cases moment.step.flushesLog with
      | true => rfl
      | false =>
          rw [if_neg Bool.false_ne_true, if_neg Bool.false_ne_true, List.filterMap_append, logOf]
          cases entry : connection.noted? moment with
          | none => rw [List.filterMap_cons_none entry]; rfl
          | some written => rw [List.filterMap_cons_some entry]; rfl

/-! ### One step -/

variable {connection : Connection} {service : Service σ} {request : Request}
  {session : Session σ}

def notedFor (connection : Connection) (request : Request) (session : Session σ)
    (world : World σ) : Session σ :=
  let entry := connection.entryFor session.pretending request
  { session with world := world }.note entry.query entry.pretended

private theorem notedFor_of_pretending (world : World σ) (pretending : session.pretending = true) :
    connection.notedFor request session world
      = { session with world := world }.note request.sql true := by
  rw [notedFor, entryFor, if_pos pretending]

private theorem notedFor_of_unprepared {failure : Statement.Failure} (world : World σ)
    (serious : session.pretending = false) (failed : connection.prepare request = .error failure) :
    connection.notedFor request session world
      = { session with world := world }.note request.sql false := by
  rw [notedFor, entryFor, if_neg (Bool.eq_false_iff.mp serious), failed]

private theorem notedFor_of_prepared {statement : String} (world : World σ)
    (serious : session.pretending = false) (prepared : connection.prepare request = .ok statement) :
    connection.notedFor request session world
      = { session with world := world }.note statement false := by
  rw [notedFor, entryFor, if_neg (Bool.eq_false_iff.mp serious), prepared]

/-- A call that is not broken off is written down, whatever it answers. -/
theorem call_noted {α : Type} {pretended : α}
    {finish : Descriptor → World σ → Except QueryError α × World σ}
    {result : CallResult α} {after : Session σ}
    (came : connection.call service pretended finish request session = some (result, after))
    (calm : ∀ overflow, result ≠ .error (.overflow overflow)) :
    ∃ world, after = connection.notedFor request session world := by
  cases pretending : session.pretending with
  | true =>
      rw [call, if_pos pretending] at came
      cases came
      exact ⟨session.world, (notedFor_of_pretending _ pretending).symm⟩
  | false =>
      cases prepared : connection.prepare request with
      | error failure =>
          rw [call, if_neg (Bool.eq_false_iff.mp pretending), prepared] at came
          cases failure with
          | overflow overflow =>
              cases came
              exact (calm overflow rfl).elim
          | refused error =>
              cases came
              exact ⟨session.world, (notedFor_of_unprepared _ pretending prepared).symm⟩
      | ok statement =>
          rw [call_of_prepared pretending prepared] at came
          obtain ⟨executed, _, same⟩ := Option.map_eq_some_iff.mp came
          cases same
          exact ⟨_, (notedFor_of_prepared _ pretending prepared).symm⟩

theorem query_noted {mode : Mode} {result : StepResult} {after : Session σ}
    (came : connection.query service mode request session = some (result, after))
    (calm : ∀ overflow, result ≠ .refused (.overflow overflow)) :
    ∃ world, after = connection.notedFor request session world := by
  obtain ⟨_, _, _, _, same, _⟩ := connection.query_finishes service mode request session
  rw [same] at came
  obtain ⟨⟨answer, reached⟩, answered, told⟩ := Option.map_eq_some_iff.mp came
  cases told
  refine call_noted answered fun overflow broken => ?_
  rw [broken] at calm
  exact calm overflow rfl

/-- What a step leaves of the log, and of what is written there. -/
structure Notes (connection : Connection) (moment : Moment σ) : Prop where
  log : moment.after.log
    = if moment.step.flushesLog then []
      else if moment.before.logging then
        moment.before.log ++ (connection.noted? moment).toList
      else moment.before.log
  logging : moment.after.logging = (moment.before.logging || moment.step.enablesLog)
  pretending : moment.after.pretending
    = moment.step.setsPretending?.getD moment.before.pretending

theorem Notes.of_unwritten {moment : Moment σ} (nothing : connection.noted? moment = none)
    (kept : moment.step.flushesLog = false) (same : moment.after.log = moment.before.log)
    (logging : moment.after.logging = (moment.before.logging || moment.step.enablesLog))
    (pretending : moment.after.pretending
      = moment.step.setsPretending?.getD moment.before.pretending) :
    connection.Notes moment := by
  refine ⟨?_, logging, pretending⟩
  rw [kept, nothing, same, if_neg Bool.false_ne_true, Option.toList_none, List.append_nil, ite_self]

theorem Notes.of_noted {moment : Moment σ} {mode : Mode} {world : World σ}
    (asked : moment.step = .query mode request)
    (noted : moment.after = connection.notedFor request moment.before world) :
    connection.Notes moment := by
  have written : connection.noted? moment
      = some (connection.entryFor moment.before.pretending request) := by
    rw [noted?, asked]
  constructor
  · rw [written, asked, noted]
    exact Session.note_log _ _ _
  · rw [asked, noted]
    exact (Session.note_logging _ _ _).trans (Bool.or_false _).symm
  · rw [asked, noted]
    exact Session.note_pretending _ _ _

theorem Took.notes {moment : Moment σ} (took : connection.Took service moment)
    (calm : ∀ overflow, moment.result ≠ .refused (.overflow overflow)) :
    connection.Notes moment := by
  obtain ⟨step, before, result, after⟩ := moment
  change connection.perform service step before = some (result, after) at took
  cases step with
  | query mode request =>
      obtain ⟨world, noted⟩ := query_noted took calm
      exact .of_noted rfl noted
  | flushLog =>
      cases took
      exact ⟨rfl, (Bool.or_false _).symm, rfl⟩
  | enableLog =>
      cases took
      exact .of_unwritten rfl rfl rfl (Bool.or_true _).symm rfl
  | prepare request =>
      cases took
      exact .of_unwritten rfl rfl rfl (Bool.or_false _).symm rfl
  | setPretending value =>
      cases took
      exact .of_unwritten rfl rfl rfl (Bool.or_false _).symm rfl
  | readLog =>
      cases took
      exact .of_unwritten rfl rfl rfl (Bool.or_false _).symm rfl
  | cancel =>
      cases took
      exact .of_unwritten rfl rfl rfl (Bool.or_false _).symm rfl

/-! ### A run of steps -/

/-- What a run has made of a session that keeps no log yet. -/
structure Recorded (connection : Connection) (session : Session σ)
    (earlier : List (Moment σ)) : Prop where
  log : (session.reached earlier).log = connection.logOf earlier
  logging : (session.reached earlier).logging = Moment.logged earlier
  pretending : (session.reached earlier).pretending
    = Step.pretendingAfter session.pretending (earlier.map Moment.step)

/-- One more step is recorded as the log is to hold it. -/
theorem Recorded.concat {earlier : List (Moment σ)} {moment : Moment σ}
    (recorded : connection.Recorded session earlier)
    (before : moment.before = session.reached earlier) (notes : connection.Notes moment) :
    connection.Recorded session (earlier ++ [moment]) := by
  constructor
  · rw [Session.reached_concat, notes.log, before, recorded.log, recorded.logging, logOf_concat]
  · rw [Session.reached_concat, notes.logging, before, recorded.logging, Moment.logged_concat]
  · rw [Session.reached_concat, notes.pretending, before, recorded.pretending, List.map_append]
    exact (Step.pretendingAfter_concat _ _ _).symm

theorem run_recorded {steps : List Step} (unlogged : session.logging = false)
    (empty : session.log = [])
    (calm : ∀ moment, moment ∈ connection.run service steps session →
      ∀ overflow, moment.result ≠ .refused (.overflow overflow))
    {earlier later : List (Moment σ)}
    (split : connection.run service steps session = earlier ++ later) :
    connection.Recorded session earlier := by
  induction earlier using List.reverseRecOn generalizing later with
  | nil => exact ⟨empty, unlogged, rfl⟩
  | append_singleton earlier moment inductionHypothesis =>
      rw [List.append_assoc, List.singleton_append] at split
      have member : moment ∈ connection.run service steps session :=
        split ▸ List.mem_append_cons_self
      exact (inductionHypothesis split).concat (run_before split)
        ((took_of_mem_run member).notes (calm moment member))

/-- Whatever engine, store and caller do, the log holds what it is to hold, in every run
in which no call is broken off. -/
theorem run_keepsLog (connection : Connection) (service : Service σ) (steps : List Step)
    (session : Session σ) (unlogged : session.logging = false) (empty : session.log = [])
    (calm : ∀ moment, moment ∈ connection.run service steps session →
      ∀ overflow, moment.result ≠ .refused (.overflow overflow)) :
    connection.KeepsLog service steps session := by
  constructor
  · intro earlier later split
    exact (run_recorded unlogged empty calm split).log
  · intro earlier moment later split asked
    have took : connection.Took service moment :=
      took_of_mem_run (split ▸ List.mem_append_cons_self)
    rw [Took, asked] at took
    have told : .log moment.before.log = moment.result :=
      congrArg Prod.fst (Option.some.inj took)
    rw [← told, run_before split, (run_recorded unlogged empty calm split).log]
  · intro earlier moment later split
    rw [run_before split, (run_recorded unlogged empty calm split).pretending]

def loggedRequest : Request :=
  { sql := "SELECT \x60id\x60 FROM t", bindings := [], limit := none, offset := none }

def loggedSteps : List Step :=
  [.query .statement loggedRequest, .enableLog, .query .fetch loggedRequest,
    .setPretending true, .query .exportPath loggedRequest, .readLog]

def loggedResults : List StepResult :=
  [.refused (.refused (.cancelled "cancelled before submission")), .done,
    .refused (.refused (.cancelled "cancelled before submission")), .flag true, .text "",
    .log [
      { query := "SELECT id FROM t", pretended := false },
      { query := "SELECT \x60id\x60 FROM t", pretended := true }]]

private theorem logged_run :
    (cancellingConnection.run (Script.service "scripted") loggedSteps cancelledSession).map
      Moment.result = loggedResults := by
  have prepared : cancellingConnection.prepare loggedRequest = .ok "SELECT id FROM t" := rfl
  have unsent : (Script.service "scripted").execute cancellingConnection.pollPolicy
      cancellingConnection.context "SELECT id FROM t" cancelledSession.world
      = some (.error (.cancelled "cancelled before submission"), cancelledSession.world) :=
    Service.execute_of_cancelled rfl
  have unlogged : cancellingConnection.perform (Script.service "scripted")
      (.query .statement loggedRequest) cancelledSession
      = some (.refused (.refused (.cancelled "cancelled before submission")),
          cancelledSession) := by
    rw [perform, query, statement, call_of_prepared rfl prepared, unsent]
    rfl
  have refused : cancellingConnection.perform (Script.service "scripted")
      (.query .fetch loggedRequest) cancelledSession.enableLog
      = some (.refused (.refused (.cancelled "cancelled before submission")),
          cancelledSession.enableLog.note "SELECT id FROM t" false) := by
    rw [perform, query, fetch, call_of_prepared rfl prepared]
    exact congrArg (Option.map _ ∘ Option.map _) unsent
  have enabled : cancellingConnection.perform (Script.service "scripted") .enableLog
      cancelledSession = some (.done, cancelledSession.enableLog) := rfl
  rw [loggedSteps, run_cons _ _ unlogged, run_cons _ _ enabled, run_cons _ _ refused]
  rfl

theorem run_keepsLog_cancelled :
    (cancelledSession.logging = false ∧ cancelledSession.log = []) ∧
    (cancellingConnection.run (Script.service "scripted") loggedSteps cancelledSession).map
      Moment.result = loggedResults ∧
    cancellingConnection.KeepsLog (Script.service "scripted") loggedSteps cancelledSession := by
  refine ⟨⟨rfl, rfl⟩, logged_run, run_keepsLog _ _ _ _ rfl rfl ?_⟩
  intro moment member overflow broken
  have among : StepResult.refused (.overflow overflow) ∈ loggedResults := by
    rw [← logged_run, ← broken]
    exact List.mem_map_of_mem member
  simp [loggedResults] at among

end Connection

end RemoteQuery
