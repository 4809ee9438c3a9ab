import RemoteQuery.Proofs.Connection.Course
set_option autoImplicit false

/-! The modes of a request.  All of them run the same statement and differ in what they
make of an execution that has succeeded: nothing, the place of its result, or its rows.
So they call the engine alike, and whatever one of them fails with before there is a
result the others fail with as well. -/

namespace RemoteQuery

/-- The answers to one request, asked in every mode. -/
structure ModeAnswers (σ : Type) where
  statement : CallResult Bool × Session σ
  exportPath : CallResult String × Session σ
  fetch : CallResult QueryOutput × Session σ
  select : CallResult (List Record) × Session σ

/-- An error that a result with a known place may end in. -/
inductive ArrivalError (objectPath executionId : String) : QueryError → Prop where
  | download (cause : Cause) : ArrivalError objectPath executionId (.download objectPath cause)
  | resultParse (text : String) : ArrivalError objectPath executionId (.resultParse text)
  | cancelled : ArrivalError objectPath executionId (.cancelled executionId)

/-- Answers that are made of one execution, whose statement made these calls. -/
structure ModeAnswers.Agree {σ : Type} (answers : ModeAnswers σ) (session : Session σ)
    (executed : CallResult Descriptor) (calls : List Call) (downloaded : Option String) :
    Prop where
  engine : ∀ call, call ∈ calls → call.isDownload = false
  statement_calls : answers.statement.2.world.calls = session.world.calls ++ calls
  exportPath_calls : answers.exportPath.2.world.calls = session.world.calls ++ calls
  fetch_calls : answers.fetch.2.world.calls
    = session.world.calls ++ (calls ++ downloadCalls downloaded)
  select_calls : answers.select.2.world.calls = answers.fetch.2.world.calls
  succeeded : answers.statement.1 = .ok true ↔ ∃ descriptor, executed = .ok descriptor
  failed : ∀ failure, executed = .error failure →
    answers.statement.1 = .error failure ∧ answers.exportPath.1 = .error failure ∧
      answers.fetch.1 = .error failure ∧ answers.select.1 = .error failure
  /-- Without a place for the result there are no rows, and nothing is downloaded. -/
  unlocated : ∀ failure, answers.exportPath.1 = .error failure →
    answers.fetch.1 = .error failure ∧ downloaded = none
  fetched : ∀ objectPath output, answers.exportPath.1 = .ok objectPath →
    answers.fetch.1 = .ok output →
    output.artifactPath = objectPath ∧ downloaded = some objectPath ∧
      ∃ descriptor, executed = .ok descriptor ∧ descriptor.isTerminal = true ∧
        output.execution = some descriptor
  unfetched : ∀ objectPath failure, answers.exportPath.1 = .ok objectPath →
    answers.fetch.1 = .error failure →
    ∃ descriptor error, executed = .ok descriptor ∧ failure = .refused error ∧
      ArrivalError objectPath descriptor.executionId error
  selected : answers.select.1 = answers.fetch.1.map QueryOutput.rows

namespace Connection

variable {σ α : Type} {connection : Connection} {service : Service σ}

/-- How the statement of a request ends, whatever its mode then makes of it. -/
def execution (connection : Connection) (service : Service σ) (request : Request)
    (session : Session σ) : Option (CallResult Descriptor × World σ) :=
  match connection.prepare request with
  | .error failure => some (.error failure, session.world)
  | .ok statement =>
      (service.execute connection.pollPolicy connection.context statement session.world).map
        fun (result, world) => (CallResult.ofResult result, world)

/-- What the modes of one request have in common, on a connection that is not pretending. -/
structure ModesAgree (connection : Connection) (service : Service σ) (request : Request)
    (session : Session σ) : Prop where
  /-- When one of them is never answered none is, and all go through the same turns. -/
  endless : connection.execution service request session = none →
    (∀ mode, connection.query service mode request session = none) ∧
    ∃ statement executionId,
      connection.prepare request = .ok statement ∧
      service.Accepted { statement := statement, context := connection.context } session.world
        executionId ∧
      service.Endless connection.pollPolicy
        { executionId := executionId
          interval := connection.pollPolicy.interval
          started := session.world.clock }
        (service.made (.start { statement := statement, context := connection.context })
          session.world)
  answered : ∀ executed world,
    connection.execution service request session = some (executed, world) →
    ∃ (answers : ModeAnswers σ) (calls : List Call) (downloaded : Option String),
      connection.statement service request session = some answers.statement ∧
      connection.exportPath service request session = some answers.exportPath ∧
      connection.fetch service request session = some answers.fetch ∧
      connection.select service request session = some answers.select ∧
      answers.Agree session executed calls downloaded

/-! ### What a mode makes of an execution -/

def made (finish : Descriptor → World σ → Except QueryError α × World σ) :
    CallResult Descriptor × World σ → CallResult α × World σ
  | (.error failure, world) => (.error failure, world)
  | (.ok descriptor, world) =>
      (CallResult.ofResult (finish descriptor world).1, (finish descriptor world).2)

variable {pretended : α} {finish : Descriptor → World σ → Except QueryError α × World σ}
  {request : Request} {session : Session σ}

private theorem execution_eq_some {executed : CallResult Descriptor} {world : World σ}
    (ended : connection.execution service request session = some (executed, world)) :
    (∃ failure, connection.prepare request = .error failure ∧
      executed = .error failure ∧ world = session.world) ∨
    ∃ statement result, connection.prepare request = .ok statement ∧
      service.execute connection.pollPolicy connection.context statement session.world
        = some (result, world) ∧
      executed = CallResult.ofResult result := by
  rw [execution] at ended
  cases prepared : connection.prepare request with
  | error failure =>
      rw [prepared] at ended
      cases ended
      exact Or.inl ⟨failure, rfl, rfl, rfl⟩
  | ok statement =>
      rw [prepared] at ended
      obtain ⟨⟨result, after⟩, ran, same⟩ := Option.map_eq_some_iff.mp ended
      cases same
      exact Or.inr ⟨statement, result, rfl, ran, rfl⟩

private theorem execution_eq_none
    (endless : connection.execution service request session = none) :
    ∃ statement, connection.prepare request = .ok statement ∧
      service.execute connection.pollPolicy connection.context statement session.world
        = none := by
  rw [execution] at endless
  cases prepared : connection.prepare request with
  | error failure =>
      rw [prepared] at endless
      cases endless
  | ok statement =>
      rw [prepared] at endless
      exact ⟨statement, rfl, Option.map_eq_none_iff.mp endless⟩

theorem call_of_endless (serious : session.pretending = false)
    (endless : connection.execution service request session = none) :
    connection.call service pretended finish request session = none := by
  obtain ⟨statement, prepared, never⟩ := execution_eq_none endless
  rw [call_of_prepared serious prepared, never]
  rfl

theorem call_of_execution (pretended : α)
    (finish : Descriptor → World σ → Except QueryError α × World σ)
    (serious : session.pretending = false)
    {executed : CallResult Descriptor} {world : World σ}
    (ended : connection.execution service request session = some (executed, world)) :
    ∃ after, connection.call service pretended finish request session
        = some ((made finish (executed, world)).1, after) ∧
      after.world = (made finish (executed, world)).2 := by
  rcases execution_eq_some ended with
    ⟨failure, prepared, failed, same⟩ | ⟨statement, result, prepared, ran, told⟩
  · rw [failed, same]
    exact connection.call_of_unprepared service pretended finish serious prepared
  · rw [call_of_prepared serious prepared, ran, told]
    cases result with
    | error error => exact ⟨_, rfl, Session.note_world _ _ _⟩
    | ok descriptor => exact ⟨_, rfl, Session.note_world _ _ _⟩

private theorem execution_calls {executed : CallResult Descriptor} {world : World σ}
    (ended : connection.execution service request session = some (executed, world)) :
    ∃ calls, (∀ call, call ∈ calls → call.isDownload = false) ∧
      world.calls = session.world.calls ++ calls := by
  rcases execution_eq_some ended with ⟨_, _, _, same⟩ | ⟨_, _, _, ran, _⟩
  · refine ⟨[], ?_, ?_⟩
    · intro call member
      cases member
    · rw [same, List.append_nil]
  · obtain ⟨calls, traced⟩ := Service.execute_executed ran
    exact ⟨calls, traced.undownloaded, traced.traced.calls_eq⟩

private theorem execution_terminal {descriptor : Descriptor} {world : World σ}
    (ended : connection.execution service request session = some (.ok descriptor, world)) :
    descriptor.isTerminal = true := by
  rcases execution_eq_some ended with ⟨_, _, failed, _⟩ | ⟨_, result, _, ran, told⟩
  · cases failed
  · cases result with
    | error error => cases told
    | ok succeeded =>
        cases told
        exact Service.execute_terminal ran

/-! ### Results with and without a place -/

private theorem collect_of_unlocated (service : Service σ) {descriptor : Descriptor}
    {error : QueryError} (world : World σ)
    (unlocated : Artifact.ofDescriptor descriptor connection.folders.outputFolder
      = .error error) :
    connection.collect service descriptor world = (.error error, world) := by
  rw [collect, unlocated]

private theorem collect_of_located (service : Service σ) {descriptor : Descriptor}
    {artifact : Artifact} (world : World σ)
    (located : Artifact.ofDescriptor descriptor connection.folders.outputFolder
      = .ok artifact) :
    (∃ rows, (connection.collect service descriptor world).1
      = .ok { rows := rows, artifactPath := artifact.objectPath
              execution := some descriptor }) ∨
    ∃ error, (connection.collect service descriptor world).1 = .error error ∧
      ArrivalError artifact.objectPath descriptor.executionId error := by
  rw [collect, located]
  cases cancelled : world.cancelled with
  | true => exact Or.inr ⟨_, rfl, .cancelled⟩
  | false =>
      simp only [Bool.false_eq_true, if_false]
      cases came : service.materialize connection.folders descriptor world with
      | mk outcome after =>
          cases outcome with
          | interrupted => exact Or.inr ⟨_, rfl, .cancelled⟩
          | finished result =>
              cases result with
              | ok rows => exact Or.inl ⟨rows, rfl⟩
              | error error =>
                  refine Or.inr ⟨error, rfl, ?_⟩
                  rcases Service.materialize_failed located (congrArg Prod.fst came) with
                    ⟨cause, same⟩ | ⟨text, same⟩
                  · rw [same]
                    exact .download cause
                  · rw [same]
                    exact .resultParse text

/-! ### The answers -/

def answersOf (connection : Connection) (service : Service σ)
    (ended : CallResult Descriptor × World σ) (stated located fetched : Session σ) :
    ModeAnswers σ :=
  { statement := ((made (fun _ world => (.ok true, world)) ended).1, stated)
    exportPath := ((made connection.locate ended).1, located)
    fetch := ((made (connection.collect service) ended).1, fetched)
    select := ((made (connection.collect service) ended).1.map QueryOutput.rows, fetched) }

private theorem exists_answers (serious : session.pretending = false)
    {executed : CallResult Descriptor} {world : World σ}
    (ended : connection.execution service request session = some (executed, world)) :
    ∃ stated located fetched,
      connection.statement service request session
        = some (connection.answersOf service (executed, world) stated located fetched).statement ∧
      connection.exportPath service request session
        = some (connection.answersOf service (executed, world) stated located fetched).exportPath ∧
      connection.fetch service request session
        = some (connection.answersOf service (executed, world) stated located fetched).fetch ∧
      connection.select service request session
        = some (connection.answersOf service (executed, world) stated located fetched).select ∧
      stated.world = world ∧ located.world = world ∧
      fetched.world = (made (connection.collect service) (executed, world)).2 := by
  obtain ⟨stated, statedCall, statedWorld⟩ :=
    call_of_execution true (fun _ world => (.ok true, world)) serious ended
  obtain ⟨located, locatedCall, locatedWorld⟩ :=
    call_of_execution "" connection.locate serious ended
  obtain ⟨fetched, fetchedCall, fetchedWorld⟩ :=
    call_of_execution .empty (connection.collect service) serious ended
  have selectedCall : connection.select service request session
      = some ((made (connection.collect service) (executed, world)).1.map QueryOutput.rows,
          fetched) := by
    rw [select, fetch, fetchedCall]
    rfl
  refine ⟨stated, located, fetched, statedCall, locatedCall, fetchedCall, selectedCall, ?_, ?_,
    fetchedWorld⟩
  · rw [statedWorld]
    cases executed <;> rfl
  · rw [locatedWorld]
    cases executed <;> rfl

section Agreement

variable {world : World σ} {calls : List Call} {stated located fetched : Session σ}

/-- The answers agree once it is known what `exportPath` and `fetch` tell and where the
rows were downloaded. -/
theorem agree_of_told {executed : CallResult Descriptor} {downloaded : Option String}
    (engine : ∀ call, call ∈ calls → call.isDownload = false)
    (calls_eq : world.calls = session.world.calls ++ calls)
    (statedWorld : stated.world = world) (locatedWorld : located.world = world)
    (fetchedCalls : fetched.world.calls = world.calls ++ downloadCalls downloaded)
    (unlocated : ∀ failure, (made connection.locate (executed, world)).1 = .error failure →
      (made (connection.collect service) (executed, world)).1 = .error failure ∧
        downloaded = none)
    (rows : ∀ objectPath output,
      (made connection.locate (executed, world)).1 = .ok objectPath →
      (made (connection.collect service) (executed, world)).1 = .ok output →
      output.artifactPath = objectPath ∧ downloaded = some objectPath ∧
        ∃ descriptor, executed = .ok descriptor ∧ descriptor.isTerminal = true ∧
          output.execution = some descriptor)
    (noRows : ∀ objectPath failure,
      (made connection.locate (executed, world)).1 = .ok objectPath →
      (made (connection.collect service) (executed, world)).1 = .error failure →
      ∃ descriptor error, executed = .ok descriptor ∧ failure = .refused error ∧
        ArrivalError objectPath descriptor.executionId error) :
    (connection.answersOf service (executed, world) stated located fetched).Agree session
      executed calls downloaded where
  engine := engine
  statement_calls := (congrArg World.calls statedWorld).trans calls_eq
  exportPath_calls := (congrArg World.calls locatedWorld).trans calls_eq
  fetch_calls := by
    rw [← List.append_assoc, ← calls_eq]
    exact fetchedCalls
  select_calls := rfl
  succeeded := by
    cases executed with
    | error failure =>
        constructor
        · intro told
          cases told
        · rintro ⟨descriptor, told⟩
          cases told
    | ok descriptor => exact ⟨fun _ => ⟨descriptor, rfl⟩, fun _ => rfl⟩
  failed := by
    intro failure same
    rw [same]
    exact ⟨rfl, rfl, rfl, rfl⟩
  unlocated := unlocated
  fetched := rows
  unfetched := noRows
  selected := rfl

private theorem agree_of_failure (connection : Connection) (service : Service σ)
    (failure : Statement.Failure) (engine : ∀ call, call ∈ calls → call.isDownload = false)
    (calls_eq : world.calls = session.world.calls ++ calls)
    (statedWorld : stated.world = world) (locatedWorld : located.world = world)
    (fetchedWorld : fetched.world = world) :
    (connection.answersOf service (.error failure, world) stated located fetched).Agree session
      (.error failure) calls none := by
  have fetchedCalls : fetched.world.calls = world.calls ++ downloadCalls none := by
    rw [fetchedWorld]
    exact (List.append_nil _).symm
  refine agree_of_told engine calls_eq statedWorld locatedWorld fetchedCalls ?_ ?_ ?_
  · intro other same
    cases same
    exact ⟨rfl, rfl⟩
  · intro objectPath output told
    cases told
  · intro objectPath other told
    cases told

variable {descriptor : Descriptor}

private theorem agree_of_unlocated (connection : Connection) (service : Service σ)
    {error : QueryError}
    (unlocated : Artifact.ofDescriptor descriptor connection.folders.outputFolder
      = .error error)
    (engine : ∀ call, call ∈ calls → call.isDownload = false)
    (calls_eq : world.calls = session.world.calls ++ calls)
    (statedWorld : stated.world = world) (locatedWorld : located.world = world)
    (fetchedWorld : fetched.world = (connection.collect service descriptor world).2) :
    (connection.answersOf service (.ok descriptor, world) stated located fetched).Agree session
      (.ok descriptor) calls none := by
  have noPlace : (made connection.locate (.ok descriptor, world)).1
      = .error (.refused error) := by
    simp only [made, locate, unlocated]
    rfl
  have fetchedCalls : fetched.world.calls = world.calls ++ downloadCalls none := by
    rw [fetchedWorld, collect_of_unlocated service world unlocated]
    exact (List.append_nil _).symm
  refine agree_of_told engine calls_eq statedWorld locatedWorld fetchedCalls ?_ ?_ ?_
  · intro failure same
    cases noPlace.symm.trans same
    simp only [made, collect_of_unlocated service world unlocated]
    exact ⟨rfl, trivial⟩
  · intro objectPath output same
    cases noPlace.symm.trans same
  · intro objectPath failure same
    cases noPlace.symm.trans same

private theorem agree_of_located (connection : Connection) (service : Service σ)
    {artifact : Artifact}
    (placed : Artifact.ofDescriptor descriptor connection.folders.outputFolder = .ok artifact)
    (terminal : descriptor.isTerminal = true)
    (engine : ∀ call, call ∈ calls → call.isDownload = false)
    (calls_eq : world.calls = session.world.calls ++ calls)
    (statedWorld : stated.world = world) (locatedWorld : located.world = world)
    (fetchedWorld : fetched.world = (connection.collect service descriptor world).2) :
    ∃ downloaded,
      (connection.answersOf service (.ok descriptor, world) stated located fetched).Agree session
        (.ok descriptor) calls downloaded := by
  obtain ⟨downloaded, collected, _⟩ := connection.collect_collected service descriptor world
  have place : (made connection.locate (.ok descriptor, world)).1
      = .ok artifact.objectPath := by
    simp only [made, locate, placed]
    rfl
  have fetchedCalls : fetched.world.calls = world.calls ++ downloadCalls downloaded :=
    (congrArg World.calls fetchedWorld).trans collected.calls_eq
  have arrival := collect_of_located service world placed
  refine ⟨downloaded, agree_of_told engine calls_eq statedWorld locatedWorld fetchedCalls
    ?_ ?_ ?_⟩
  · intro failure missing
    cases place.symm.trans missing
  · intro objectPath output exported fetches
    cases place.symm.trans exported
    rw [made] at fetches
    rcases arrival with ⟨rows, arrived⟩ | ⟨error, failed, _⟩
    · rw [arrived] at fetches
      cases fetches
      obtain ⟨asked, found, _⟩ := collected.delivered ⟨_, arrived⟩
      obtain ⟨same, known, path⟩ := collected.located asked found
      cases placed.symm.trans known
      exact ⟨rfl, found.trans (congrArg some path), descriptor, rfl, terminal, rfl⟩
    · rw [failed] at fetches
      cases fetches
  · intro objectPath failure exported fails
    cases place.symm.trans exported
    rw [made] at fails
    rcases arrival with ⟨rows, arrived⟩ | ⟨error, failed, arrivalError⟩
    · rw [arrived] at fails
      cases fails
    · rw [failed] at fails
      cases fails
      exact ⟨descriptor, error, rfl, rfl, arrivalError⟩

end Agreement

theorem query_of_endless (serious : session.pretending = false)
    (endless : connection.execution service request session = none) (mode : Mode) :
    connection.query service mode request session = none := by
  obtain ⟨β, pretended, finish, content, same, _⟩ :=
    connection.query_finishes service mode request session
  rw [same, call_of_endless serious endless]
  rfl

/-- Whatever engine and store do, the modes of a request agree. -/
theorem query_modesAgree (connection : Connection) (service : Service σ) (request : Request)
    (session : Session σ) (serious : session.pretending = false) :
    connection.ModesAgree service request session := by
  constructor
  · intro endless
    obtain ⟨statement, prepared, never⟩ := execution_eq_none endless
    obtain ⟨executionId, accepted, turns⟩ := Service.execute_endless never
    exact ⟨query_of_endless serious endless, statement, executionId, prepared, accepted, turns⟩
  · intro executed world ended
    obtain ⟨calls, engine, calls_eq⟩ := execution_calls ended
    obtain ⟨stated, located, fetched, statement, exportPath, fetch, select, statedWorld,
      locatedWorld, fetchedWorld⟩ := exists_answers serious ended
    have agree : ∃ downloaded,
        (connection.answersOf service (executed, world) stated located fetched).Agree session
          executed calls downloaded := by
      cases executed with
      | error failure =>
          exact ⟨none, connection.agree_of_failure service failure engine calls_eq statedWorld
            locatedWorld fetchedWorld⟩
      | ok descriptor =>
          cases placed : Artifact.ofDescriptor descriptor connection.folders.outputFolder with
          | error error =>
              exact ⟨none, connection.agree_of_unlocated service placed engine calls_eq
                statedWorld locatedWorld fetchedWorld⟩
          | ok artifact =>
              exact connection.agree_of_located service placed (execution_terminal ended) engine
                calls_eq statedWorld locatedWorld fetchedWorld
    obtain ⟨downloaded, agreed⟩ := agree
    exact ⟨_, calls, downloaded, statement, exportPath, fetch, select, agreed⟩

private theorem execution_fetchedSession :
    (ofSettings fetchedSettings).execution (Script.service "scripted") fetchedRequest
      fetchedSession = some (.ok fetchedDescriptor, succeededWorld) := by
  have prepared : (ofSettings fetchedSettings).prepare fetchedRequest = .ok "SELECT 1" := rfl
  have accepted : (Script.service "scripted").Accepted fetchedSubmission fetchedSession.world "q" :=
    ⟨rfl, rfl, by decide⟩
  have ended : (Script.service "scripted").execute (ofSettings fetchedSettings).pollPolicy
      (ofSettings fetchedSettings).context "SELECT 1" fetchedSession.world
      = some (.ok fetchedDescriptor, succeededWorld) :=
    (Service.execute_of_accepted "q" accepted).trans (Service.await_of_ended rfl)
  rw [execution, prepared]
  simp only [ended]
  rfl

theorem query_modesAgree_fetched :
    fetchedSession.pretending = false ∧
    ∃ (answers : ModeAnswers Script) (calls : List Call) (downloaded : Option String),
      (ofSettings fetchedSettings).exportPath (Script.service "scripted") fetchedRequest
        fetchedSession = some answers.exportPath ∧
      (ofSettings fetchedSettings).fetch (Script.service "scripted") fetchedRequest
        fetchedSession = some answers.fetch ∧
      answers.exportPath.1 = .ok "/athena/q.csv" ∧
      answers.fetch.1.toOption = some {
        rows := [], artifactPath := "/athena/q.csv", execution := some fetchedDescriptor } ∧
      answers.Agree fetchedSession (.ok fetchedDescriptor) calls downloaded := by
  obtain ⟨answers, calls, downloaded, _, exported, fetched, _, agree⟩ :=
    (query_modesAgree (ofSettings fetchedSettings) (Script.service "scripted") fetchedRequest
      fetchedSession rfl).answered _ _ execution_fetchedSession
  obtain ⟨located, place, _⟩ := call_of_execution ""
    (ofSettings fetchedSettings).locate rfl execution_fetchedSession
  obtain ⟨collected, rows, _⟩ := call_of_execution .empty
    ((ofSettings fetchedSettings).collect (Script.service "scripted")) rfl
    execution_fetchedSession
  have told : (made ((ofSettings fetchedSettings).collect (Script.service "scripted"))
      (.ok fetchedDescriptor, succeededWorld)).1.toOption = some {
        rows := [], artifactPath := "/athena/q.csv", execution := some fetchedDescriptor } := by
    decide +kernel
  refine ⟨rfl, answers, calls, downloaded, exported, fetched, ?_, ?_, agree⟩
  · rw [← Option.some.inj (place.symm.trans exported)]
    rfl
  · rw [← Option.some.inj (rows.symm.trans fetched)]
    exact told

end Connection

end RemoteQuery
