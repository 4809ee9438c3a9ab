import RemoteQuery.Proofs.Artifact
import RemoteQuery.Proofs.Csv.Faults
import RemoteQuery.Proofs.Materialize.Rows
set_option autoImplicit false

/-! The stages of materializing an execution, and how each of them fails.  The result must
be located, its file must be staged, the store must bring it, and every field of it must be
a text.  Each stage has a failure of its own, which tells where the execution stopped, and
no later stage is begun behind it.  An execution that passes all of them has all of its
rows. -/

namespace RemoteQuery.Service

variable {σ : Type}

/-- An execution gets as far as asking the store: its result is located, and the file of it
can be staged. -/
structure ReachesStore (folders : ResultFolders) (descriptor : Descriptor) (staging : Staging)
    (artifact : Artifact) : Prop where
  isOf : Artifact.IsOf descriptor folders.outputFolder artifact
  takes : staging.Takes artifact.fileName

namespace ReachesStore

variable {folders : ResultFolders} {descriptor : Descriptor} {staging : Staging}
  {artifact : Artifact}

theorem located (reaches : ReachesStore folders descriptor staging artifact) :
    Artifact.ofDescriptor descriptor folders.outputFolder = .ok artifact :=
  Artifact.ofDescriptor_eq_ok_iff.mpr reaches.isOf

theorem creates (reaches : ReachesStore folders descriptor staging artifact) :
    staging.Creates artifact.fileName :=
  Staging.creates_iff_takes.mpr reaches.takes

end ReachesStore

/-! ### What a store can do -/

/-- A download fails with an error of the store, whatever has been written by then. -/
def Fails (service : Service σ) (remote : σ) (objectPath : String) (error : QueryError) : Prop :=
  ∃ written cancels, (service.download objectPath remote).1
    = { written := written, reply := .answer { result := .error error, cancels := cancels } }

/-- The caller cancels before all of the object is there, or has cancelled by then. -/
def IsGivenUp (service : Service σ) (remote : σ) (objectPath : String) : Prop :=
  ∃ written, (service.download objectPath remote).1 = { written := written, reply := .interrupted } ∨
    (service.download objectPath remote).1
      = { written := written, reply := .answer { result := .ok (), cancels := true } }

private theorem download_cases (service : Service σ) (remote : σ) (objectPath : String) :
    (∃ bytes, service.Serves remote objectPath bytes) ∨
      (∃ error, service.Fails remote objectPath error) ∨ service.IsGivenUp remote objectPath := by
  rw [IsGivenUp]
  simp only [Serves, Fails]
  cases (service.download objectPath remote).1 with
  | mk written reply =>
      cases reply with
      | interrupted => exact Or.inr (Or.inr ⟨written, Or.inl rfl⟩)
      | answer told =>
          obtain ⟨result, cancels⟩ := told
          cases result with
          | error error => exact Or.inr (Or.inl ⟨error, written, cancels, rfl⟩)
          | ok content =>
              cases cancels with
              | true => exact Or.inr (Or.inr ⟨written, Or.inr rfl⟩)
              | false => exact Or.inl ⟨written, rfl⟩

section Stages

variable {service : Service σ} {folders : ResultFolders} {descriptor : Descriptor}
  {world : World σ} {artifact : Artifact} {error : QueryError}

private theorem fill_of_fails (fails : service.Fails world.remote artifact.objectPath error) :
    (service.fill artifact world).1
      = .finished (.error (.download artifact.objectPath (.error error))) := by
  obtain ⟨written, cancels, told⟩ := fails
  simp only [fill, callDownload_eq, told]

theorem fetchArtifact_of_fails (takes : world.staging.Takes artifact.fileName)
    (fails : service.Fails world.remote artifact.objectPath error) :
    (service.fetchArtifact artifact world).1
      = .finished (.error (.download artifact.objectPath (.error error))) := by
  obtain ⟨there, staged, created⟩ := Staging.creates_iff_takes.mpr takes
  rw [fetchArtifact_eq_fill there created]
  exact fill_of_fails fails

private theorem fill_of_givenUp (givenUp : service.IsGivenUp world.remote artifact.objectPath) :
    (service.fill artifact world).1 = .interrupted := by
  obtain ⟨written, told | told⟩ := givenUp
  · simp only [fill, callDownload_eq, told]
  · simp only [fill, callDownload_eq, told]
    rfl

private theorem materialize_of_nowhere {text : String}
    (nowhere : Artifact.Nowhere descriptor text) :
    service.materialize folders descriptor world = (.finished (.error (.internal text)), world) := by
  rw [materialize, Artifact.ofDescriptor_eq_error_iff.mpr ⟨text, rfl, nowhere⟩]

private theorem materialize_of_fails
    (reaches : ReachesStore folders descriptor world.staging artifact)
    (fails : service.Fails world.remote artifact.objectPath error) :
    (service.materialize folders descriptor world).1
      = .finished (.error (.download artifact.objectPath (.error error))) :=
  materialize_of_failed reaches.located (fetchArtifact_of_fails reaches.takes fails)

private theorem materialize_of_givenUp
    (reaches : ReachesStore folders descriptor world.staging artifact)
    (givenUp : service.IsGivenUp world.remote artifact.objectPath) :
    (service.materialize folders descriptor world).1 = .interrupted := by
  obtain ⟨there, staged, created⟩ := reaches.creates
  have stopped : (service.fill artifact { world with staging := staged }).1 = .interrupted :=
    fill_of_givenUp givenUp
  rw [materialize, reaches.located]
  simp only [fetchArtifact_eq_fill there created]
  cases came : service.fill artifact { world with staging := staged } with
  | mk outcome after =>
      rw [came] at stopped
      cases stopped
      rfl

/-! ### The calls of each stage -/

private theorem materialize_uncalled {fault : FileFault}
    (located : Artifact.ofDescriptor descriptor folders.outputFolder = .ok artifact)
    (refuses : world.staging.Refuses artifact.fileName fault) :
    ∃ staging, (service.materialize folders descriptor world).2
      = { world with staging := staging } := by
  have fetched := service.fetchArtifact_fetched artifact world
  have stopped := refuses.not_creates
  rw [materialize, located]
  simp only
  generalize service.fetchArtifact artifact world = ended at fetched
  cases fetched with
  | noFolder fault missing => exact ⟨_, rfl⟩
  | notCreated there fault refused => exact ⟨_, rfl⟩
  | dropped there staged created outcome partly => exact (stopped ⟨there, staged, created⟩).elim
  | kept there staged created => exact (stopped ⟨there, staged, created⟩).elim

private theorem materialize_called
    (reaches : ReachesStore folders descriptor world.staging artifact) :
    ∃ staging, (service.materialize folders descriptor world).2
      = { service.made (.download artifact.objectPath) world with staging := staging } := by
  have fetched := service.fetchArtifact_fetched artifact world
  obtain ⟨there, staged, created⟩ := reaches.creates
  rw [materialize, reaches.located]
  simp only
  generalize service.fetchArtifact artifact world = ended at fetched
  cases fetched with
  | noFolder fault missing =>
      rw [there] at missing
      cases missing
  | notCreated _ fault refused =>
      rw [created] at refused
      cases refused
  | dropped _ staged _ outcome partly =>
      cases outcome with
      | interrupted => exact ⟨_, rfl⟩
      | finished result =>
          cases result with
          | error error => exact ⟨_, rfl⟩
          | ok content => exact (partly rfl).elim
  | kept _ staged _ => exact ⟨_, rfl⟩

end Stages

/-! ### Every end has its stage -/

/-- The ways in which materializing an execution ends. -/
inductive Ended (service : Service σ) (folders : ResultFolders) (descriptor : Descriptor)
    (world : World σ) : Outcome (List Record) → Prop where
  | nowhere {text : String} (nowhere : Artifact.Nowhere descriptor text) :
      Ended service folders descriptor world (.finished (.error (.internal text)))
  | refused {artifact : Artifact} {fault : FileFault}
      (isOf : Artifact.IsOf descriptor folders.outputFolder artifact)
      (refuses : world.staging.Refuses artifact.fileName fault) :
      Ended service folders descriptor world
        (.finished (.error (.download artifact.objectPath (.system fault.message))))
  | failed {artifact : Artifact} {error : QueryError}
      (reaches : ReachesStore folders descriptor world.staging artifact)
      (fails : service.Fails world.remote artifact.objectPath error) :
      Ended service folders descriptor world
        (.finished (.error (.download artifact.objectPath (.error error))))
  | givenUp {artifact : Artifact}
      (reaches : ReachesStore folders descriptor world.staging artifact)
      (givenUp : service.IsGivenUp world.remote artifact.objectPath) :
      Ended service folders descriptor world .interrupted
  | unread {artifact : Artifact} {bytes : List UInt8} {fault : Csv.Fault}
      (reaches : ReachesStore folders descriptor world.staging artifact)
      (served : service.Serves world.remote artifact.objectPath bytes)
      (unread : Csv.read bytes = .error fault) :
      Ended service folders descriptor world (.finished (.error
        (.resultParse s!"{joinPath folders.stagingPath artifact.fileName}: {fault.message}")))
  | read {artifact : Artifact} {bytes : List UInt8} {texts : List (List String)}
      (reaches : ReachesStore folders descriptor world.staging artifact)
      (served : service.Serves world.remote artifact.objectPath bytes)
      (read : Csv.read bytes = .ok texts) :
      Ended service folders descriptor world (.finished (.ok (Record.ofRows texts)))

section Ends

variable {service : Service σ} {folders : ResultFolders} {descriptor : Descriptor}
  {world : World σ}

private theorem ended_of_eq {outcome : Outcome (List Record)}
    (same : (service.materialize folders descriptor world).1 = outcome) :
    service.Ended folders descriptor world outcome := by
  rw [← same]
  cases located : Artifact.ofDescriptor descriptor folders.outputFolder with
  | error error =>
      obtain ⟨text, rfl, nowhere⟩ := Artifact.ofDescriptor_eq_error_iff.mp located
      rw [materialize_of_nowhere nowhere]
      exact .nowhere nowhere
  | ok artifact =>
      have isOf := Artifact.ofDescriptor_eq_ok_iff.mp located
      rcases world.staging.creates_or_refuses artifact.fileName with creates | ⟨fault, refuses⟩
      · have reaches : ReachesStore folders descriptor world.staging artifact :=
          ⟨isOf, Staging.creates_iff_takes.mp creates⟩
        rcases service.download_cases world.remote artifact.objectPath with
          ⟨bytes, served⟩ | ⟨error, fails⟩ | givenUp
        · rw [materialize_of_served located creates served, readRows]
          cases read : Csv.read bytes with
          | error fault => exact .unread reaches served read
          | ok texts => exact .read reaches served read
        · rw [materialize_of_fails reaches fails]
          exact .failed reaches fails
        · rw [materialize_of_givenUp reaches givenUp]
          exact .givenUp reaches givenUp
      · rw [materialize_of_refuses located refuses]
        exact .refused isOf refuses

theorem materialize_internal_iff {text : String} :
    (service.materialize folders descriptor world).1 = .finished (.error (.internal text)) ↔
      Artifact.Nowhere descriptor text := by
  constructor
  · intro same
    cases ended_of_eq same with
    | nowhere nowhere => exact nowhere
  · intro nowhere
    rw [materialize_of_nowhere nowhere]

theorem materialize_system_iff {path text : String} :
    (service.materialize folders descriptor world).1
        = .finished (.error (.download path (.system text))) ↔
      ∃ artifact fault, Artifact.IsOf descriptor folders.outputFolder artifact ∧
        world.staging.Refuses artifact.fileName fault ∧
        path = artifact.objectPath ∧ text = fault.message := by
  constructor
  · intro same
    cases ended_of_eq same with
    | refused isOf refuses => exact ⟨_, _, isOf, refuses, rfl, rfl⟩
  · rintro ⟨artifact, fault, isOf, refuses, rfl, rfl⟩
    exact materialize_of_refuses (Artifact.ofDescriptor_eq_ok_iff.mpr isOf) refuses

theorem materialize_download_iff {path : String} {error : QueryError} :
    (service.materialize folders descriptor world).1
        = .finished (.error (.download path (.error error))) ↔
      ∃ artifact, ReachesStore folders descriptor world.staging artifact ∧
        service.Fails world.remote artifact.objectPath error ∧ path = artifact.objectPath := by
  constructor
  · intro same
    cases ended_of_eq same with
    | failed reaches fails => exact ⟨_, reaches, fails, rfl⟩
  · rintro ⟨artifact, reaches, fails, rfl⟩
    exact materialize_of_fails reaches fails

theorem materialize_interrupted_iff :
    (service.materialize folders descriptor world).1 = .interrupted ↔
      ∃ artifact, ReachesStore folders descriptor world.staging artifact ∧
        service.IsGivenUp world.remote artifact.objectPath := by
  constructor
  · intro same
    cases ended_of_eq same with
    | givenUp reaches givenUp => exact ⟨_, reaches, givenUp⟩
  · rintro ⟨artifact, reaches, givenUp⟩
    exact materialize_of_givenUp reaches givenUp

theorem materialize_resultParse_iff {text : String} :
    (service.materialize folders descriptor world).1 = .finished (.error (.resultParse text)) ↔
      ∃ artifact bytes fault, ReachesStore folders descriptor world.staging artifact ∧
        service.Serves world.remote artifact.objectPath bytes ∧
        Csv.read bytes = .error fault ∧
        text = s!"{joinPath folders.stagingPath artifact.fileName}: {fault.message}" := by
  constructor
  · intro same
    cases ended_of_eq same with
    | unread reaches served unread => exact ⟨_, _, _, reaches, served, unread, rfl⟩
  · rintro ⟨artifact, bytes, fault, reaches, served, unread, rfl⟩
    rw [materialize_of_served reaches.located reaches.creates served, readRows, unread]
    rfl

theorem materialize_ok_iff {records : List Record} :
    (service.materialize folders descriptor world).1 = .finished (.ok records) ↔
      ∃ artifact bytes texts, ReachesStore folders descriptor world.staging artifact ∧
        service.Serves world.remote artifact.objectPath bytes ∧
        texts.map (List.map Text.encode) = (Csv.rows bytes).map Csv.Row.fields ∧
        records = Record.ofRows texts := by
  constructor
  · intro same
    cases ended_of_eq same with
    | read reaches served read => exact ⟨_, _, _, reaches, served, Csv.read_eq_ok_iff.mp read, rfl⟩
  · rintro ⟨artifact, bytes, texts, reaches, served, whole, rfl⟩
    rw [materialize_of_served reaches.located reaches.creates served, readRows,
      Csv.read_eq_ok_iff.mpr whole]
    rfl

end Ends

/-- How materializing ends, and at which stage.  Each failure has its own form, which it has
exactly if its stage is the one that is not passed. -/
structure EndsByStage (service : Service σ) (folders : ResultFolders) (descriptor : Descriptor)
    (world : World σ) (ended : Outcome (List Record) × World σ) : Prop where
  /-- The result is not located: nothing is called and nothing changes. -/
  unlocated : ∀ text, ended.1 = .finished (.error (.internal text)) ↔
    Artifact.Nowhere descriptor text
  untouched : ∀ text, Artifact.Nowhere descriptor text → ended.2 = world
  /-- The file is not staged: the store is not asked. -/
  unstaged : ∀ path text, ended.1 = .finished (.error (.download path (.system text))) ↔
    ∃ artifact fault, Artifact.IsOf descriptor folders.outputFolder artifact ∧
      world.staging.Refuses artifact.fileName fault ∧
      path = artifact.objectPath ∧ text = fault.message
  uncalled : ∀ artifact, Artifact.IsOf descriptor folders.outputFolder artifact →
    ¬ world.staging.Takes artifact.fileName → ∃ staging, ended.2 = { world with staging := staging }
  /-- The store is asked once if the file is staged, whatever comes of it. -/
  called : ∀ artifact, ReachesStore folders descriptor world.staging artifact →
    ∃ staging, ended.2
      = { service.made (.download artifact.objectPath) world with staging := staging }
  /-- The store fails: its error is the cause. -/
  failed : ∀ path error, ended.1 = .finished (.error (.download path (.error error))) ↔
    ∃ artifact, ReachesStore folders descriptor world.staging artifact ∧
      service.Fails world.remote artifact.objectPath error ∧ path = artifact.objectPath
  /-- Only a caller who cancels gets nothing. -/
  givenUp : ended.1 = .interrupted ↔
    ∃ artifact, ReachesStore folders descriptor world.staging artifact ∧
      service.IsGivenUp world.remote artifact.objectPath
  /-- A field is not a text: the first such field is told. -/
  unread : (∃ text, ended.1 = .finished (.error (.resultParse text))) ↔
    ∃ artifact bytes, ReachesStore folders descriptor world.staging artifact ∧
      service.Serves world.remote artifact.objectPath bytes ∧
      ∃ row, row ∈ Csv.rows bytes ∧ ∃ field, field ∈ row.fields ∧ ¬ Text.IsUtf8 field
  told : ∀ text, ended.1 = .finished (.error (.resultParse text)) →
    ∃ artifact bytes fault, ReachesStore folders descriptor world.staging artifact ∧
      service.Serves world.remote artifact.objectPath bytes ∧
      Csv.Fault.Tells fault (Csv.rows bytes) ∧
      text = s!"{joinPath folders.stagingPath artifact.fileName}: {fault.message}"
  /-- All stages are passed: every field of every row is there. -/
  read : ∀ records, ended.1 = .finished (.ok records) ↔
    ∃ artifact bytes texts, ReachesStore folders descriptor world.staging artifact ∧
      service.Serves world.remote artifact.objectPath bytes ∧
      texts.map (List.map Text.encode) = (Csv.rows bytes).map Csv.Row.fields ∧
      records = Record.ofRows texts
  /-- There are no other failures. -/
  only : ∀ error, ended.1 = .finished (.error error) →
    (∃ text, error = .internal text) ∨ (∃ path cause, error = .download path cause) ∨
      ∃ text, error = .resultParse text

/-- Materializing fails in one way for each stage, and otherwise has all of the rows. -/
theorem materialize_endsByStage (service : Service σ) (folders : ResultFolders)
    (descriptor : Descriptor) (world : World σ) :
    service.EndsByStage folders descriptor world
      (service.materialize folders descriptor world) where
  unlocated := fun _ => materialize_internal_iff
  untouched := by
    intro text nowhere
    rw [materialize_of_nowhere nowhere]
  unstaged := fun _ _ => materialize_system_iff
  uncalled := by
    intro artifact isOf full
    obtain ⟨fault, refuses⟩ := Staging.refuses_iff.mpr full
    exact materialize_uncalled (Artifact.ofDescriptor_eq_ok_iff.mpr isOf) refuses
  called := fun _ => materialize_called
  failed := fun _ _ => materialize_download_iff
  givenUp := materialize_interrupted_iff
  unread := by
    constructor
    · rintro ⟨text, same⟩
      obtain ⟨artifact, bytes, fault, reaches, served, unread, _⟩ :=
        materialize_resultParse_iff.mp same
      exact ⟨artifact, bytes, reaches, served, Csv.read_fails_iff.mp ⟨fault, unread⟩⟩
    · rintro ⟨artifact, bytes, reaches, served, wrong⟩
      obtain ⟨fault, unread⟩ := Csv.read_fails_iff.mpr wrong
      exact ⟨_, materialize_resultParse_iff.mpr
        ⟨artifact, bytes, fault, reaches, served, unread, rfl⟩⟩
  told := by
    intro text same
    obtain ⟨artifact, bytes, fault, reaches, served, unread, told⟩ :=
      materialize_resultParse_iff.mp same
    exact ⟨artifact, bytes, fault, reaches, served, Csv.tells_of_read unread, told⟩
  read := fun _ => materialize_ok_iff
  only := by
    intro error same
    cases ended_of_eq same with
    | nowhere => exact Or.inl ⟨_, rfl⟩
    | refused => exact Or.inr (Or.inl ⟨_, _, rfl⟩)
    | failed => exact Or.inr (Or.inl ⟨_, _, rfl⟩)
    | unread => exact Or.inr (Or.inr ⟨_, rfl⟩)

end RemoteQuery.Service
