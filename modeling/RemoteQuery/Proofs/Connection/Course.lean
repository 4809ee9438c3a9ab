import RemoteQuery.Proofs.Connection.Trace
import RemoteQuery.Script
set_option autoImplicit false

/-! The course of one request.  A statement is submitted once and polled; the service may
then be asked to stop, or, when the execution has succeeded, for one result file.  A result
is only told when that file has arrived. -/

namespace RemoteQuery

def OnlyPolls (calls : List Call) : Prop :=
  ∀ call, call ∈ calls → ∃ executionId clock, call = .poll executionId clock

def stopCalls (stopped : Option String) : List Call := stopped.toList.map Call.stop

def downloadCalls (downloaded : Option String) : List Call := downloaded.toList.map Call.download

theorem OnlyPolls.nil : OnlyPolls [] := by
  intro call member
  cases member

theorem OnlyPolls.single (executionId : String) (clock : Nat) :
    OnlyPolls [.poll executionId clock] :=
  fun _ member => ⟨executionId, clock, List.mem_singleton.mp member⟩

theorem OnlyPolls.append {first second : List Call} (before : OnlyPolls first)
    (behind : OnlyPolls second) : OnlyPolls (first ++ second) :=
  fun call member => (List.mem_append.mp member).elim (before call) (behind call)

namespace Service

variable {σ : Type} {service : Service σ} {policy : PollPolicy}

/-! ### Running the statement -/

/-- A wait polls, and asks to stop at most once, at its end and without success. -/
theorem await_course {wait : Wait} {world after : World σ}
    {result : Except QueryError Descriptor}
    (ended : service.await policy wait world = some (result, after)) :
    ∃ polls stopped, OnlyPolls polls ∧
      after.calls = world.calls ++ (polls ++ stopCalls stopped) ∧
      ∀ descriptor, result = .ok descriptor → stopped = none := by
  refine await_induction
    (motive := fun _ world result after => ∃ polls stopped, OnlyPolls polls ∧
      after.calls = world.calls ++ (polls ++ stopCalls stopped) ∧
      ∀ descriptor, result = .ok descriptor → stopped = none) ?_ ?_ ended
  · intro wait world result after finished
    have turned := service.turn_turned policy wait world
    rw [finished] at turned
    have onePoll : OnlyPolls [.poll wait.executionId world.clock] := .single _ _
    have polledAndStopped (executionId : String) :
        (service.made (.stop executionId) (service.polled wait world)).calls
          = world.calls ++ ([.poll wait.executionId world.clock]
            ++ stopCalls (some executionId)) := by
      rw [made_calls, polled, made_calls, List.append_assoc]
      rfl
    have failed (error : QueryError) (stopped : Option String) (descriptor : Descriptor)
        (same : Except.error error = .ok descriptor) : stopped = none := by
      cases same
    cases turned with
    | cancelledBefore _ => exact ⟨[], some wait.executionId, .nil, rfl, failed _ _⟩
    | interrupted _ _ => exact ⟨_, _, onePoll, polledAndStopped _, failed _ _⟩
    | refused _ _ _ _ => exact ⟨_, none, onePoll, rfl, fun _ _ => rfl⟩
    | ended _ _ _ _ _ => exact ⟨_, none, onePoll, rfl, fun _ _ => rfl⟩
    | late _ _ _ _ _ _ => exact ⟨_, _, onePoll, polledAndStopped _, failed _ _⟩
    | cancelledMeanwhile _ _ _ _ _ _ => exact ⟨_, _, onePoll, polledAndStopped _, failed _ _⟩
  · intro wait world next between result after again rest
    obtain ⟨polls, stopped, onlyPolls, calls, unstopped⟩ := rest
    have turned := service.turn_turned policy wait world
    rw [again] at turned
    cases turned with
    | again _ _ _ _ _ _ =>
        refine ⟨_, stopped, (OnlyPolls.single wait.executionId world.clock).append onlyPolls, ?_,
          unstopped⟩
        rw [calls]
        exact List.append_assoc _ _ _

theorem execute_course {context : ExecutionContext} {statement : String}
    {world after : World σ} {result : Except QueryError Descriptor}
    (live : world.cancelled = false)
    (ended : service.execute policy context statement world = some (result, after)) :
    ∃ polls stopped, OnlyPolls polls ∧
      after.calls = world.calls
        ++ (.start { statement := statement, context := context } :: (polls ++ stopCalls stopped)) ∧
      ∀ descriptor, result = .ok descriptor → stopped = none := by
  have submitted := service.execute_submitted policy context statement world
  rw [ended] at submitted
  generalize came : some (result, after) = outcome at submitted
  cases submitted with
  | cancelledBefore cancelled => exact (Bool.false_ne_true (live.symm.trans cancelled)).elim
  | failed _ error =>
      cases came
      exact ⟨[], none, .nil, rfl, fun _ _ => rfl⟩
  | accepted executionId _ =>
      obtain ⟨polls, stopped, onlyPolls, calls, unstopped⟩ := await_course came.symm
      refine ⟨polls, stopped, onlyPolls, ?_, unstopped⟩
      rw [calls]
      exact List.append_assoc _ _ _

theorem going_course {waits : Nat → Wait} {worlds : Nat → World σ}
    (going : ∀ turn, service.turn policy (waits turn) (worlds turn)
      = .again (waits (turn + 1)) (worlds (turn + 1))) (count : Nat) :
    ∃ polls, OnlyPolls polls ∧ polls.length = count ∧
      (worlds count).calls = (worlds 0).calls ++ polls := by
  induction count with
  | zero => exact ⟨[], .nil, rfl, (List.append_nil _).symm⟩
  | succ count inductionHypothesis =>
      obtain ⟨polls, onlyPolls, length, calls⟩ := inductionHypothesis
      have turned := service.turn_turned policy (waits count) (worlds count)
      rw [going count] at turned
      refine ⟨polls ++ [.poll (waits count).executionId (worlds count).clock],
        onlyPolls.append (.single _ _), ?_, ?_⟩
      · rw [List.length_append, length]
        rfl
      · rw [← List.append_assoc, ← calls]
        generalize worlds (count + 1) = next at turned
        generalize waits (count + 1) = onward at turned
        cases turned with
        | again _ _ _ _ _ _ => rfl

/-! ### Fetching the result -/

/-- All of an object arrives, and the caller does not cancel meanwhile. -/
def Delivers (service : Service σ) (remote : σ) (objectPath : String) : Prop :=
  (service.download objectPath remote).1.reply = .answer { result := .ok (), cancels := false }

private theorem fill_delivers {artifact : Artifact} {world : World σ}
    (filled : (service.fill artifact world).1 = .finished (.ok ())) :
    service.Delivers world.remote artifact.objectPath := by
  simp only [fill, callDownload_eq] at filled
  rw [Delivers]
  cases reply : (service.download artifact.objectPath world.remote).1.reply with
  | interrupted =>
      rw [reply] at filled
      cases filled
  | answer answer =>
      obtain ⟨result, cancels⟩ := answer
      rw [reply] at filled
      cases result with
      | error error => cases filled
      | ok content =>
          cases cancels with
          | true => cases filled
          | false => rfl

private theorem fetchArtifact_delivers {artifact : Artifact} {world : World σ}
    (fetched : (service.fetchArtifact artifact world).1 = .finished (.ok ())) :
    service.Delivers world.remote artifact.objectPath := by
  rw [fetchArtifact] at fetched
  cases ensured : world.staging.ensure with
  | mk fault staging =>
      rw [ensured] at fetched
      cases fault with
      | some fault => cases fetched
      | none =>
          simp only at fetched
          cases created : staging.create artifact.fileName with
          | error fault =>
              rw [created] at fetched
              cases fetched
          | ok staged =>
              rw [created] at fetched
              exact @fill_delivers σ service artifact { world with staging := staged } fetched

/-- At most one object was asked for, at the place that was located, and it arrived where
the whole succeeded. -/
structure Collected (service : Service σ) (descriptor : Descriptor) (outputFolder : String)
    (world after : World σ) (succeeded : Prop) (downloaded : Option String) : Prop where
  calls_eq : after.calls = world.calls ++ downloadCalls downloaded
  located : ∀ objectPath, downloaded = some objectPath →
    ∃ artifact, Artifact.ofDescriptor descriptor outputFolder = .ok artifact ∧
      objectPath = artifact.objectPath
  delivered : succeeded →
    ∃ objectPath, downloaded = some objectPath ∧ service.Delivers world.remote objectPath

theorem Collected.nothing {descriptor : Descriptor} {outputFolder : String}
    {world after : World σ} {succeeded : Prop} (uncalled : after.calls = world.calls)
    (failed : ¬ succeeded) :
    service.Collected descriptor outputFolder world after succeeded none where
  calls_eq := uncalled.trans (List.append_nil _).symm
  located := by
    intro objectPath found
    cases found
  delivered := fun succeeds => (failed succeeds).elim

theorem Collected.failed {descriptor : Descriptor} {outputFolder : String}
    {world after : World σ} {succeeded other : Prop} {downloaded : Option String}
    (collected : service.Collected descriptor outputFolder world after succeeded downloaded)
    (failed : ¬ other) : service.Collected descriptor outputFolder world after other downloaded :=
  ⟨collected.calls_eq, collected.located, fun succeeds => (failed succeeds).elim⟩

private theorem unstaged_ne_ok (artifact : Artifact) (fault : FileFault) :
    unstaged artifact fault ≠ .finished (.ok ()) := by
  intro same
  cases same

private theorem fetchArtifact_collected (service : Service σ) {descriptor : Descriptor}
    {outputFolder : String} {artifact : Artifact} (world : World σ)
    (located : Artifact.ofDescriptor descriptor outputFolder = .ok artifact) :
    ∃ downloaded, service.Collected descriptor outputFolder world
      (service.fetchArtifact artifact world).2
      ((service.fetchArtifact artifact world).1 = .finished (.ok ())) downloaded := by
  have fetched := service.fetchArtifact_fetched artifact world
  have delivers := @fetchArtifact_delivers σ service artifact world
  have here (objectPath : String) (same : some artifact.objectPath = some objectPath) :
      ∃ artifact, Artifact.ofDescriptor descriptor outputFolder = .ok artifact ∧
        objectPath = artifact.objectPath :=
    ⟨artifact, located, (Option.some.inj same).symm⟩
  generalize service.fetchArtifact artifact world = ended at fetched delivers
  cases fetched with
  | noFolder fault missing => exact ⟨none, .nothing rfl (unstaged_ne_ok artifact fault)⟩
  | notCreated there fault refused => exact ⟨none, .nothing rfl (unstaged_ne_ok artifact fault)⟩
  | dropped there staged created outcome partly =>
      exact ⟨some artifact.objectPath, rfl, here, fun whole => (partly whole).elim⟩
  | kept there staged created =>
      exact ⟨some artifact.objectPath, rfl, here, fun whole => ⟨_, rfl, delivers whole⟩⟩

theorem materialize_collected (service : Service σ) (folders : ResultFolders)
    (descriptor : Descriptor) (world : World σ) :
    ∃ downloaded, service.Collected descriptor folders.outputFolder world
      (service.materialize folders descriptor world).2
      (∃ rows, (service.materialize folders descriptor world).1 = .finished (.ok rows))
      downloaded := by
  rw [materialize]
  cases located : Artifact.ofDescriptor descriptor folders.outputFolder with
  | error error =>
      refine ⟨none, .nothing rfl ?_⟩
      rintro ⟨rows, same⟩
      cases same
  | ok artifact =>
      obtain ⟨downloaded, collected⟩ := service.fetchArtifact_collected world located
      refine ⟨downloaded, ?_⟩
      simp only
      cases came : service.fetchArtifact artifact world with
      | mk outcome after =>
          rw [came] at collected
          cases outcome with
          | interrupted =>
              refine collected.failed ?_
              rintro ⟨rows, same⟩
              cases same
          | finished result =>
              cases result with
              | error error =>
                  refine collected.failed ?_
                  rintro ⟨rows, same⟩
                  cases same
              | ok content =>
                  exact ⟨collected.calls_eq, collected.located, fun _ => collected.delivered rfl⟩

end Service

namespace Connection

variable {σ : Type} {connection : Connection} {service : Service σ}

private theorem not_ok {α : Type} (error : QueryError) :
    ¬ ∃ value : α, Except.error error = .ok value := by
  rintro ⟨value, same⟩
  cases same

theorem collect_collected (connection : Connection) (service : Service σ)
    (descriptor : Descriptor) (world : World σ) :
    ∃ downloaded, service.Collected descriptor connection.folders.outputFolder world
        (connection.collect service descriptor world).2
        (∃ output, (connection.collect service descriptor world).1 = .ok output) downloaded ∧
      ∀ objectPath, downloaded = some objectPath → world.cancelled = false := by
  cases cancelled : world.cancelled with
  | true =>
      obtain ⟨error, failed⟩ := connection.collect_of_cancelled service descriptor world cancelled
      rw [failed]
      refine ⟨none, .nothing rfl (not_ok error), ?_⟩
      intro objectPath found
      cases found
  | false =>
      rw [collect]
      cases located : Artifact.ofDescriptor descriptor connection.folders.outputFolder with
      | error error => exact ⟨none, .nothing rfl (not_ok error), fun _ _ => rfl⟩
      | ok artifact =>
          obtain ⟨downloaded, collected⟩ :=
            service.materialize_collected connection.folders descriptor world
          refine ⟨downloaded, ?_, fun _ _ => rfl⟩
          simp only [cancelled, Bool.false_eq_true, if_false]
          cases came : service.materialize connection.folders descriptor world with
          | mk outcome after =>
              rw [came] at collected
              cases outcome with
              | interrupted => exact collected.failed (not_ok _)
              | finished result =>
                  cases result with
                  | error error => exact collected.failed (not_ok error)
                  | ok rows =>
                      exact ⟨collected.calls_eq, collected.located,
                        fun _ => collected.delivered ⟨rows, rfl⟩⟩

/-- What a request calls whose statement is submitted and comes to its end. -/
structure Course (connection : Connection) (service : Service σ) (mode : Mode)
    (submission : Submission) (session after : Session σ) (result : StepResult)
    (polls : List Call) (stopped downloaded : Option String) : Prop where
  calls_eq : after.world.calls = session.world.calls
    ++ (.start submission :: (polls ++ stopCalls stopped ++ downloadCalls downloaded))
  onlyPolls : OnlyPolls polls
  exclusive : stopped = none ∨ downloaded = none
  undownloaded : mode.downloads = false → downloaded = none
  located : ∀ objectPath, downloaded = some objectPath →
    ∃ descriptor world artifact,
      service.execute connection.pollPolicy submission.context submission.statement session.world
        = some (.ok descriptor, world) ∧
      world.cancelled = false ∧
      Artifact.ofDescriptor descriptor connection.folders.outputFolder = .ok artifact ∧
      objectPath = artifact.objectPath
  delivered : mode.downloads = true → (∀ failure, result ≠ .refused failure) →
    ∃ objectPath descriptor world, downloaded = some objectPath ∧
      service.execute connection.pollPolicy submission.context submission.statement session.world
        = some (.ok descriptor, world) ∧
      service.Delivers world.remote objectPath

theorem Answered.course {α : Type} {pretended : α} {mode : Mode}
    {finish : Descriptor → World σ → Except QueryError α × World σ} {request : Request}
    {session : Session σ} {answered : CallResult α × Session σ} {statement : String}
    (came : connection.Answered service pretended finish request session answered)
    (serious : session.pretending = false) (live : session.world.cancelled = false)
    (prepared : connection.prepare request = .ok statement) (content : α → StepResult)
    (finishes : ∀ descriptor world, ∃ downloaded,
      service.Collected descriptor connection.folders.outputFolder world
        (finish descriptor world).2
        (mode.downloads = true ∧ ∃ value, (finish descriptor world).1 = .ok value) downloaded ∧
      (∀ objectPath, downloaded = some objectPath → world.cancelled = false) ∧
      (mode.downloads = false → downloaded = none)) :
    ∃ polls stopped downloaded, connection.Course service mode
      { statement := statement, context := connection.context } session answered.2
      (StepResult.ofCall content answered.1) polls stopped downloaded := by
  cases came with
  | pretended pretending => exact (Bool.false_ne_true (serious.symm.trans pretending)).elim
  | unprepared _ failure failed after same =>
      rw [prepared] at failed
      cases failed
  | failed _ statement sent error world ended =>
      cases prepared.symm.trans sent
      obtain ⟨polls, stopped, onlyPolls, calls, _⟩ := Service.execute_course live ended
      refine ⟨polls, stopped, none, ?_, onlyPolls, Or.inr rfl, fun _ => rfl, ?_, ?_⟩
      · rw [Session.note_world, calls, downloadCalls, Option.toList_none, List.map_nil,
          List.append_nil]
      · intro objectPath found
        cases found
      · intro _ answers
        exact (answers _ rfl).elim
  | concluded _ statement sent descriptor world ended =>
      cases prepared.symm.trans sent
      obtain ⟨polls, stopped, onlyPolls, calls, unstopped⟩ := Service.execute_course live ended
      obtain ⟨downloaded, collected, uncancelled, undownloaded⟩ := finishes descriptor world
      have quiet := unstopped descriptor rfl
      refine ⟨polls, stopped, downloaded, ?_, onlyPolls, Or.inl quiet, undownloaded, ?_, ?_⟩
      · rw [Session.note_world, collected.calls_eq, calls, List.append_assoc]
        rfl
      · intro objectPath found
        obtain ⟨artifact, located, same⟩ := collected.located objectPath found
        exact ⟨descriptor, world, artifact, ended, uncancelled objectPath found, located, same⟩
      · intro downloads answers
        cases concluded : (finish descriptor world).1 with
        | error error =>
            rw [concluded] at answers
            exact (answers _ rfl).elim
        | ok value =>
            obtain ⟨objectPath, found, delivers⟩ :=
              collected.delivered ⟨downloads, value, concluded⟩
            exact ⟨objectPath, descriptor, world, found, ended, delivers⟩

/-- One request from first to last, of a connection that is not pretending. -/
structure CallsInOrder (connection : Connection) (service : Service σ) (mode : Mode)
    (request : Request) (session : Session σ) (context : ExecutionContext) : Prop where
  /-- Without a statement nothing is called and nothing staged. -/
  unprepared : ∀ failure, connection.prepare request = .error failure →
    ∃ after, connection.query service mode request session = some (.refused failure, after) ∧
      after.world = session.world
  /-- Nor is it for a caller who has cancelled before. -/
  cancelled : ∀ statement, connection.prepare request = .ok statement →
    session.world.cancelled = true →
    ∃ after, connection.query service mode request session
        = some (.refused (.refused (.cancelled "cancelled before submission")), after) ∧
      after.world = session.world
  submitted : ∀ statement result after, connection.prepare request = .ok statement →
    session.world.cancelled = false →
    connection.query service mode request session = some (result, after) →
    ∃ polls stopped downloaded, connection.Course service mode
      { statement := statement, context := context } session after result polls stopped downloaded
  /-- A request that is never answered has been submitted, and polls for ever. -/
  endless : connection.query service mode request session = none →
    ∃ (statement : String) (waits : Nat → Service.Wait) (worlds : Nat → World σ),
      connection.prepare request = .ok statement ∧ session.world.cancelled = false ∧
      worlds 0 = service.made (.start { statement := statement, context := context })
        session.world ∧
      ∀ turn,
        service.turn connection.pollPolicy (waits turn) (worlds turn)
          = .again (waits (turn + 1)) (worlds (turn + 1)) ∧
        ∃ polls, OnlyPolls polls ∧ polls.length = turn ∧
          (worlds turn).calls = session.world.calls
            ++ (.start { statement := statement, context := context } :: polls)

theorem query_finishes (connection : Connection) (service : Service σ) (mode : Mode)
    (request : Request) (session : Session σ) :
    ∃ (β : Type) (pretended : β) (finish : Descriptor → World σ → Except QueryError β × World σ)
      (content : β → StepResult),
      connection.query service mode request session
        = (connection.call service pretended finish request session).map
          (StepResult.ofAnswered content) ∧
      ∀ descriptor world, ∃ downloaded,
        service.Collected descriptor connection.folders.outputFolder world
          (finish descriptor world).2
          (mode.downloads = true ∧ ∃ value, (finish descriptor world).1 = .ok value) downloaded ∧
        (∀ objectPath, downloaded = some objectPath → world.cancelled = false) ∧
        (mode.downloads = false → downloaded = none) := by
  rcases connection.query_eq_call service mode request session with
    ⟨nothing, β, pretended, finish, content, still, same⟩ | ⟨downloads, content, same⟩
  · refine ⟨β, pretended, finish, content, same, fun descriptor world => ?_⟩
    rw [still]
    refine ⟨none, .nothing rfl ?_, ?_, fun _ => rfl⟩
    · rintro ⟨downloads, _⟩
      exact Bool.false_ne_true (nothing.symm.trans downloads)
    · intro objectPath found
      cases found
  · refine ⟨QueryOutput, .empty, connection.collect service, content, same,
      fun descriptor world => ?_⟩
    obtain ⟨downloaded, collected, uncancelled⟩ :=
      connection.collect_collected service descriptor world
    refine ⟨downloaded, ⟨collected.calls_eq, collected.located, ?_⟩, uncancelled, ?_⟩
    · exact fun succeeded => collected.delivered succeeded.2
    · exact fun nothing => (Bool.false_ne_true (nothing.symm.trans downloads)).elim

/-- Whatever engine, store and caller do, a request calls in this order.  The submission
carries the statement as it is prepared, and the database, work group and output location
of the settings. -/
theorem query_callsInOrder (settings : Settings) (service : Service σ) (mode : Mode)
    (request : Request) (session : Session σ) (serious : session.pretending = false) :
    (ofSettings settings).CallsInOrder service mode request session
      { database := settings.engine.database
        workGroup := settings.engine.workGroup
        outputLocation := settings.outputLocation } := by
  obtain ⟨β, pretended, finish, content, same, finishes⟩ :=
    (ofSettings settings).query_finishes service mode request session
  constructor
  · intro failure failed
    obtain ⟨after, refused, unmoved⟩ :=
      (ofSettings settings).call_of_unprepared service pretended finish serious failed
    exact ⟨after, by rw [same, refused]; rfl, unmoved⟩
  · intro statement prepared cancelled
    obtain ⟨after, refused, unmoved⟩ := (ofSettings settings).call_of_cancelled service pretended
      finish request serious cancelled
    rw [refusal, prepared] at refused
    exact ⟨after, by rw [same, refused]; rfl, unmoved⟩
  · intro statement result after prepared live came
    rw [same] at came
    obtain ⟨answered, called, told⟩ := Option.map_eq_some_iff.mp came
    cases told
    exact (call_answered called).course serious live prepared content finishes
  · intro never
    rw [same] at never
    obtain ⟨_, statement, prepared, endless⟩ := call_endless (Option.map_eq_none_iff.mp never)
    obtain ⟨executionId, accepted, waits, worlds, _, first, going⟩ :=
      Service.execute_endless endless
    refine ⟨statement, waits, worlds, prepared, accepted.live, first, fun turn => ?_⟩
    obtain ⟨polls, onlyPolls, length, calls⟩ :=
      Service.going_course (fun turn => (going turn).1) turn
    refine ⟨(going turn).1, polls, onlyPolls, length, ?_⟩
    rw [calls, first]
    exact List.append_assoc _ _ _

def fetchedScript : Script :=
  { acknowledgement := "q", startFailure := none, cancelsOnStart := false
    polls := [{ cancels := false, failure := none, executionId := none, state := .succeeded
                resultLocation := some "s3://query-results/athena/q.csv", reason := none
                statistics := none }]
    stopFailure := none
    objects := [("/athena/q.csv", { content := [], failure := none, hangs := false })]
    reachesCaller := true }

def fetchedSettings : Settings :=
  { engine := {
      region := "us-east-1", database := "analytics", tablePrefix := "", workGroup := "primary"
      endpoint := some "http://localhost:4566", pretend := false, escapeBindings := true }
    storage := {
      bucket := "query-results", outputFolder := "athena", stagingPath := "/tmp"
      endpoint := some "http://localhost:4566" }
    poll := {
      intervalMillis := 1, maxIntervalMillis := 1, backoffFactor := Decimal.ofInt 1
      timeoutSeconds := 0 }
    logLevel := "info" }

def fetchedSession : Session Script :=
  { world := {
      remote := fetchedScript, cancelled := false, clock := 0, calls := []
      staging := .fresh ["tmp"] }
    pretending := false, logging := false, log := [] }

def fetchedRequest : Request :=
  { sql := "SELECT 1", bindings := [], limit := none, offset := none }

def fetchedDescriptor : Descriptor :=
  { Descriptor.pending "q" with
    state := .succeeded, resultLocation := some "s3://query-results/athena/q.csv" }

def fetchedSubmission : Submission :=
  { statement := "SELECT 1"
    context := {
      database := "analytics", workGroup := "primary"
      outputLocation := "s3://query-results/athena" } }

def succeededWorld : World Script :=
  { fetchedSession.world with
    remote := { fetchedScript with polls := [] }
    calls := [.start fetchedSubmission, .poll "q" 0] }

theorem query_callsInOrder_fetched :
    ∃ after,
      (ofSettings fetchedSettings).query (Script.service "scripted") .fetch fetchedRequest
          fetchedSession
        = some (.output {
            rows := [], artifactPath := "/athena/q.csv", execution := some fetchedDescriptor },
          after) ∧
      after.world.calls
        = [.start fetchedSubmission, .poll "q" 0, .download "/athena/q.csv"] ∧
      (ofSettings fetchedSettings).CallsInOrder (Script.service "scripted") .fetch fetchedRequest
        fetchedSession fetchedSubmission.context := by
  have prepared : (ofSettings fetchedSettings).prepare fetchedRequest = .ok "SELECT 1" := rfl
  have accepted : (Script.service "scripted").Accepted fetchedSubmission fetchedSession.world "q" :=
    ⟨rfl, rfl, by decide⟩
  have ended : (Script.service "scripted").execute (ofSettings fetchedSettings).pollPolicy
      (ofSettings fetchedSettings).context "SELECT 1" fetchedSession.world
      = some (.ok fetchedDescriptor, succeededWorld) :=
    (Service.execute_of_accepted "q" accepted).trans (Service.await_of_ended rfl)
  have output : ((ofSettings fetchedSettings).collect (Script.service "scripted") fetchedDescriptor
      succeededWorld).1.toOption = some {
        rows := [], artifactPath := "/athena/q.csv", execution := some fetchedDescriptor } := by
    decide +kernel
  refine ⟨{ fetchedSession with
    world := ((ofSettings fetchedSettings).collect (Script.service "scripted") fetchedDescriptor
      succeededWorld).2 }, ?_, by decide +kernel,
    query_callsInOrder fetchedSettings _ .fetch fetchedRequest fetchedSession rfl⟩
  rw [query, fetch, call_of_prepared rfl prepared, ended]
  cases collected : (ofSettings fetchedSettings).collect (Script.service "scripted")
      fetchedDescriptor succeededWorld with
  | mk result world =>
      rw [collected] at output
      cases result with
      | error error => cases output
      | ok told =>
          cases output
          rw [Option.map_some, Option.map_some, conclude, collected]
          rfl

end Connection

end RemoteQuery
