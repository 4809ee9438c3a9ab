import RemoteQuery.Proofs.Connection.Cancellation
import RemoteQuery.Proofs.Staging
set_option autoImplicit false

/-! Staged files over calls and runs of steps.  Only a request for rows stages anything,
whatever its statement comes to; it tidies up behind itself, so that no run of steps adds
a file anywhere. -/

namespace RemoteQuery

namespace Staging

/-- Every file was there before, with the same content. -/
structure AddsNoFile (before after : Staging) : Prop where
  folder_eq : after.folder = before.folder
  files : ∀ place content, after.disk.entryAt? place = some (.file content) →
    before.disk.entryAt? place = some (.file content)

theorem AddsNoFile.refl (staging : Staging) : AddsNoFile staging staging :=
  ⟨rfl, fun _ _ found => found⟩

theorem AddsNoFile.trans {before between after : Staging} (first : AddsNoFile before between)
    (second : AddsNoFile between after) : AddsNoFile before after :=
  ⟨second.folder_eq.trans first.folder_eq, fun place content found =>
    first.files place content (second.files place content found)⟩

theorem Spares.addsNoFile {name : String} {before after : Staging}
    (spares : Spares name before after) : AddsNoFile before after where
  folder_eq := spares.folder_eq
  files := by
    intro place content found
    by_cases here : place = before.placeOf name
    · subst here
      by_cases created : before.Creates name
      · rw [spares.removed created] at found
        cases found
      · rw [← spares.unchanged created]
        exact found
    · rcases spares.elsewhere place here with same | ⟨_, made, _⟩
      · rw [← same]
        exact found
      · rw [made] at found
        cases found

end Staging

namespace Connection

variable {σ : Type}

def Succeeds (connection : Connection) (service : Service σ) (request : Request)
    (session : Session σ) (descriptor : Descriptor) (world : World σ) : Prop :=
  session.pretending = false ∧ ∃ statement, connection.prepare request = .ok statement ∧
    service.execute connection.pollPolicy connection.context statement session.world
      = some (.ok descriptor, world)

/-- A request stages an artifact: it asks for rows, its statement succeeds with that
result, and the caller has not cancelled by then. -/
def Stages (connection : Connection) (service : Service σ) (mode : Mode) (request : Request)
    (session : Session σ) (artifact : Artifact) : Prop :=
  mode.downloads = true ∧ ∃ descriptor world,
    connection.Succeeds service request session descriptor world ∧
    Artifact.ofDescriptor descriptor connection.folders.outputFolder = .ok artifact ∧
    world.cancelled = false

/-- What is staged is tidied up again. -/
structure TidiesUp (connection : Connection) (service : Service σ) : Prop where
  /-- While a fetched artifact is kept its file holds exactly what was downloaded. -/
  fetched : ∀ artifact world,
    ((service.fetchArtifact artifact world).1 ≠ .finished (.ok ()) →
      world.staging.Spares artifact.fileName
        (service.fetchArtifact artifact world).2.staging) ∧
    ((service.fetchArtifact artifact world).1 = .finished (.ok ()) →
      world.staging.Holds artifact.fileName
        (service.download artifact.objectPath world.remote).1.written
        (service.fetchArtifact artifact world).2.staging ∧
      world.staging.Spares artifact.fileName
        ((service.fetchArtifact artifact world).2.staging.remove artifact.fileName))
  /-- Turning an execution into rows leaves nothing of its result file. -/
  materialized : ∀ folders descriptor world,
    match Artifact.ofDescriptor descriptor folders.outputFolder with
    | .error _ => (service.materialize folders descriptor world).2 = world
    | .ok artifact => world.staging.Spares artifact.fileName
        (service.materialize folders descriptor world).2.staging
  /-- A request that stages an artifact leaves nothing of it, any other one nothing at all. -/
  queried : ∀ mode request session result after,
    connection.query service mode request session = some (result, after) →
    (∀ artifact, connection.Stages service mode request session artifact →
      session.world.staging.Spares artifact.fileName after.world.staging) ∧
    ((∀ artifact, ¬ connection.Stages service mode request session artifact) →
      after.world.staging = session.world.staging)
  /-- No run of steps adds a file. -/
  run : ∀ steps session moment, moment ∈ connection.run service steps session →
    session.world.staging.AddsNoFile moment.after.world.staging

variable {connection : Connection} {service : Service σ}

private theorem collect_staging (connection : Connection) (service : Service σ)
    (descriptor : Descriptor) (world : World σ) :
    (∀ artifact,
      Artifact.ofDescriptor descriptor connection.folders.outputFolder = .ok artifact →
      world.cancelled = false →
      world.staging.Spares artifact.fileName
        (connection.collect service descriptor world).2.staging) ∧
    ((∀ artifact,
      Artifact.ofDescriptor descriptor connection.folders.outputFolder = .ok artifact →
      world.cancelled = true) →
      (connection.collect service descriptor world).2 = world) := by
  have spares := service.materialize_staging connection.folders descriptor world
  rw [collect]
  cases located : Artifact.ofDescriptor descriptor connection.folders.outputFolder with
  | error error => exact ⟨fun _ impossible => (by cases impossible), fun _ => rfl⟩
  | ok artifact =>
      rw [located] at spares
      constructor
      · intro same located live
        cases located
        simp only [live, Bool.false_eq_true, if_false]
        cases came : service.materialize connection.folders descriptor world with
        | mk outcome after =>
            rw [came] at spares
            cases outcome with
            | interrupted => exact spares
            | finished result => cases result <;> exact spares
      · intro cancelled
        simp only [cancelled artifact rfl, if_true]

theorem Succeeds.unique {request : Request} {session : Session σ}
    {descriptor other : Descriptor} {world otherWorld : World σ}
    (succeeds : connection.Succeeds service request session descriptor world)
    (again : connection.Succeeds service request session other otherWorld) :
    other = descriptor ∧ otherWorld = world := by
  obtain ⟨_, statement, prepared, ended⟩ := succeeds
  obtain ⟨_, sameStatement, preparedAgain, endedAgain⟩ := again
  cases prepared.symm.trans preparedAgain
  cases ended.symm.trans endedAgain
  exact ⟨rfl, rfl⟩

/-- A call leaves the staging folder alone, unless its statement succeeds; then it leaves
the world as the part behind the statement does. -/
theorem Answered.staging {α : Type} {pretended : α}
    {finish : Descriptor → World σ → Except QueryError α × World σ} {request : Request}
    {session : Session σ} {answered : CallResult α × Session σ}
    (came : connection.Answered service pretended finish request session answered) :
    (answered.2.world.staging = session.world.staging ∧
      ∀ descriptor world, ¬ connection.Succeeds service request session descriptor world) ∨
    ∃ descriptor world, connection.Succeeds service request session descriptor world ∧
      world.staging = session.world.staging ∧
      answered.2.world = (finish descriptor world).2 := by
  cases came with
  | pretended pretending =>
      refine Or.inl ⟨congrArg World.staging (Session.note_world _ _ _), ?_⟩
      rintro descriptor world ⟨serious, _⟩
      rw [pretending] at serious
      cases serious
  | unprepared serious failure failed after same =>
      refine Or.inl ⟨congrArg World.staging same, ?_⟩
      rintro descriptor world ⟨_, statement, prepared, _⟩
      rw [failed] at prepared
      cases prepared
  | failed serious statement prepared error world ended =>
      obtain ⟨calls, ran⟩ := Service.execute_executed ended
      refine Or.inl ⟨(congrArg World.staging (Session.note_world _ _ _)).trans ran.staging_eq, ?_⟩
      rintro descriptor between ⟨_, same, preparedSame, succeeded⟩
      cases prepared.symm.trans preparedSame
      rw [ended] at succeeded
      cases succeeded
  | concluded serious statement prepared descriptor world ended =>
      obtain ⟨calls, ran⟩ := Service.execute_executed ended
      exact Or.inr ⟨descriptor, world, ⟨serious, statement, prepared, ended⟩, ran.staging_eq,
        Session.note_world _ _ _⟩

theorem query_staging {mode : Mode} {request : Request} {session after : Session σ}
    {result : StepResult}
    (came : connection.query service mode request session = some (result, after)) :
    (∀ artifact, connection.Stages service mode request session artifact →
      session.world.staging.Spares artifact.fileName after.world.staging) ∧
    ((∀ artifact, ¬ connection.Stages service mode request session artifact) →
      after.world.staging = session.world.staging) := by
  rcases connection.query_eq_call service mode request session with
    ⟨nothing, β, pretended, finish, content, still, same⟩ | ⟨rows, content, same⟩
  · rw [same] at came
    obtain ⟨answered, called, told⟩ := Option.map_eq_some_iff.mp came
    cases told
    constructor
    · rintro artifact ⟨rows, _⟩
      rw [nothing] at rows
      cases rows
    · intro _
      rcases (call_answered called).staging with
        ⟨unmoved, _⟩ | ⟨descriptor, world, _, before, after⟩
      · exact unmoved
      · rw [still] at after
        exact (congrArg World.staging after).trans before
  · rw [same] at came
    obtain ⟨answered, called, told⟩ := Option.map_eq_some_iff.mp came
    cases told
    rcases (call_answered called).staging with
      ⟨unmoved, never⟩ | ⟨descriptor, world, succeeds, before, after⟩
    · refine ⟨?_, fun _ => unmoved⟩
      rintro artifact ⟨_, descriptor, world, succeeds, _⟩
      exact (never descriptor world succeeds).elim
    · obtain ⟨staged, untouched⟩ := connection.collect_staging service descriptor world
      rw [after, ← before]
      constructor
      · rintro artifact ⟨_, other, otherWorld, again, located, live⟩
        obtain ⟨sameDescriptor, sameWorld⟩ := succeeds.unique again
        rw [sameDescriptor] at located
        rw [sameWorld] at live
        exact staged artifact located live
      · intro never
        refine congrArg World.staging (untouched ?_)
        intro artifact located
        cases live : world.cancelled with
        | true => rfl
        | false =>
            exact (never artifact ⟨rows, descriptor, world, succeeds, located, live⟩).elim

theorem perform_addsNoFile {step : Step} {session after : Session σ} {result : StepResult}
    (came : connection.perform service step session = some (result, after)) :
    session.world.staging.AddsNoFile after.world.staging := by
  cases step with
  | query mode request =>
      obtain ⟨spares, untouched⟩ := query_staging came
      by_cases staged : ∃ artifact, connection.Stages service mode request session artifact
      · obtain ⟨artifact, stages⟩ := staged
        exact (spares artifact stages).addsNoFile
      · rw [untouched (fun artifact stages => staged ⟨artifact, stages⟩)]
        exact .refl _
  | prepare request => cases came; exact .refl _
  | setPretending value => cases came; exact .refl _
  | enableLog => cases came; exact .refl _
  | flushLog => cases came; exact .refl _
  | readLog => cases came; exact .refl _
  | cancel => cases came; exact .refl _

theorem run_addsNoFile (connection : Connection) (service : Service σ) (steps : List Step)
    (session : Session σ) {moment : Moment σ}
    (member : moment ∈ connection.run service steps session) :
    session.world.staging.AddsNoFile moment.after.world.staging := by
  revert moment
  refine connection.run_induction service
    (motive := fun _ session moments => ∀ {moment}, moment ∈ moments →
      session.world.staging.AddsNoFile moment.after.world.staging) ?_ ?_ ?_ steps session
  · intro session moment member
    cases member
  · intro step rest session never moment member
    cases member
  · intro first rest took inductionHypothesis moment member
    rcases List.mem_cons.mp member with here | later
    · rw [here]
      exact perform_addsNoFile took
    · exact (perform_addsNoFile took).trans (inductionHypothesis later)

/-- Whatever a service does, what it makes a connection stage is tidied up. -/
theorem tidiesUp (connection : Connection) (service : Service σ) : connection.TidiesUp service where
  fetched := service.fetchArtifact_staging
  materialized := service.materialize_staging
  queried := fun _ _ _ _ _ came => query_staging came
  run := fun steps session _ member => connection.run_addsNoFile service steps session member

def keptScript : Script :=
  { acknowledgement := "", startFailure := none, cancelsOnStart := false, polls := []
    stopFailure := none
    objects := [("/out/q.csv", { content := [97, 10], failure := none, hangs := false })]
    reachesCaller := false }

def keptWorld : World Script :=
  { remote := keptScript, cancelled := false, clock := 0, calls := []
    staging := .fresh ["tmp", "results"] }

theorem tidiesUp_kept :
    let artifact : Artifact := { objectPath := "/out/q.csv", fileName := "q.csv" }
    let fetched := (Script.service "scripted").fetchArtifact artifact keptWorld
    fetched.1 = .finished (.ok ()) ∧
      fetched.2.staging.content? "q.csv" = some [97, 10] ∧
      keptWorld.staging.Creates "q.csv" ∧
      (fetched.2.staging.remove "q.csv").disk.entryAt? ["tmp", "results", "q.csv"] = none := by
  have kept := ((tidiesUp default (Script.service "scripted")).fetched
    { objectPath := "/out/q.csv", fileName := "q.csv" } keptWorld).2 rfl
  exact ⟨rfl, kept.1.content, kept.1.created, kept.2.removed kept.1.created⟩

end Connection

end RemoteQuery
