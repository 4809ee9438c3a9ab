import RemoteQuery.Materialize
import RemoteQuery.Proofs.Calls
set_option autoImplicit false

/-! The ways in which a result is fetched and read.  The folder cannot be made, the file
cannot be created, the download does not bring all of it, or the file is kept until it
has been read.  At most one call is made, and it is a download.  A result whose place is
known fails to arrive or to be read, and in no other way. -/

namespace RemoteQuery.Service

variable {σ : Type}

def downloaded (service : Service σ) (artifact : Artifact) (world : World σ) : World σ :=
  { service.made (.download artifact.objectPath) world with
    staging := world.staging.append artifact.fileName
      (service.download artifact.objectPath world.remote).1.written }

def unstaged (artifact : Artifact) (fault : FileFault) : Outcome Unit :=
  .finished (.error (.download artifact.objectPath (.system fault.message)))

inductive Fetched (service : Service σ) (artifact : Artifact) (world : World σ) :
    Outcome Unit × World σ → Prop where
  | noFolder (fault : FileFault) (missing : world.staging.ensure.1 = some fault) :
      Fetched service artifact world
        (unstaged artifact fault, { world with staging := world.staging.ensure.2 })
  | notCreated (there : world.staging.ensure.1 = none) (fault : FileFault)
      (refused : world.staging.ensure.2.create artifact.fileName = .error fault) :
      Fetched service artifact world
        (unstaged artifact fault,
          unstage artifact { world with staging := world.staging.ensure.2 })
  | dropped (there : world.staging.ensure.1 = none) (staged : Staging)
      (created : world.staging.ensure.2.create artifact.fileName = .ok staged)
      (outcome : Outcome Unit) (partly : outcome ≠ .finished (.ok ())) :
      Fetched service artifact world
        (outcome,
          unstage artifact (service.downloaded artifact { world with staging := staged }))
  | kept (there : world.staging.ensure.1 = none) (staged : Staging)
      (created : world.staging.ensure.2.create artifact.fileName = .ok staged) :
      Fetched service artifact world
        (.finished (.ok ()), service.downloaded artifact { world with staging := staged })

private theorem fill_dropped_or_kept (service : Service σ) (artifact : Artifact) (world : World σ) :
    (∃ outcome, outcome ≠ .finished (.ok ()) ∧ service.fill artifact world
      = (outcome, unstage artifact (service.downloaded artifact world))) ∨
    service.fill artifact world = (.finished (.ok ()), service.downloaded artifact world) := by
  simp only [fill, callDownload_eq]
  cases reply : (service.download artifact.objectPath world.remote).1.reply with
  | interrupted =>
      refine Or.inl ⟨.interrupted, ?_, rfl⟩
      intro same
      cases same
  | answer answer =>
      obtain ⟨result, cancels⟩ := answer
      cases result with
      | error error =>
          refine Or.inl ⟨.finished (.error (.download artifact.objectPath (.error error))), ?_, rfl⟩
          intro same
          cases same
      | ok content =>
          cases cancels with
          | true =>
              refine Or.inl ⟨.interrupted, ?_, rfl⟩
              intro same
              cases same
          | false => exact Or.inr rfl

theorem fetchArtifact_fetched (service : Service σ) (artifact : Artifact) (world : World σ) :
    service.Fetched artifact world (service.fetchArtifact artifact world) := by
  rw [fetchArtifact]
  cases ensured : world.staging.ensure with
  | mk fault staging =>
      have folder : world.staging.ensure.2 = staging := congrArg Prod.snd ensured
      cases fault with
      | some fault =>
          have missing : world.staging.ensure.1 = some fault := congrArg Prod.fst ensured
          rw [← folder]
          exact .noFolder fault missing
      | none =>
          have there : world.staging.ensure.1 = none := congrArg Prod.fst ensured
          simp only
          rw [← folder]
          cases created : world.staging.ensure.2.create artifact.fileName with
          | error fault => exact .notCreated there fault created
          | ok staged =>
              rcases service.fill_dropped_or_kept artifact { world with staging := staged }
                with ⟨outcome, partly, same⟩ | same
              · simp only [same]
                exact .dropped there staged created outcome partly
              · simp only [same]
                exact .kept there staged created

/-! ### The calls -/

/-- Nothing is called, or one result file is asked for. -/
def DownloadsOnce (service : Service σ) (world after : World σ) : Prop :=
  ∃ calls, service.Traced calls world after ∧
    (calls = [] ∨ ∃ objectPath, calls = [.download objectPath])

private theorem fetchArtifact_downloads (service : Service σ) (artifact : Artifact)
    (world : World σ) :
    service.DownloadsOnce world (service.fetchArtifact artifact world).2 := by
  have fetched := service.fetchArtifact_fetched artifact world
  have once (staging : Staging) : service.Traced [.download artifact.objectPath] world
      (service.downloaded artifact { world with staging := staging }) :=
    (Traced.single service (.download artifact.objectPath) world).restaged _ _
  generalize came : service.fetchArtifact artifact world = ended at fetched
  cases fetched with
  | noFolder fault missing =>
      exact ⟨[], (Traced.refl service world).restaged _ _, Or.inl rfl⟩
  | notCreated there fault refused =>
      exact ⟨[], (Traced.refl service world).restaged _ _, Or.inl rfl⟩
  | dropped there staged created outcome partly =>
      exact ⟨_, (once staged).restaged _ _, Or.inr ⟨_, rfl⟩⟩
  | kept there staged created => exact ⟨_, once staged, Or.inr ⟨_, rfl⟩⟩

theorem materialize_downloads (service : Service σ) (folders : ResultFolders)
    (descriptor : Descriptor) (world : World σ) :
    service.DownloadsOnce world (service.materialize folders descriptor world).2 := by
  rw [materialize]
  cases Artifact.ofDescriptor descriptor folders.outputFolder with
  | error error => exact ⟨[], .refl service world, Or.inl rfl⟩
  | ok artifact =>
      have fetched := service.fetchArtifact_downloads artifact world
      cases came : service.fetchArtifact artifact world with
      | mk outcome after =>
          rw [came] at fetched
          simp only
          rw [came]
          cases outcome with
          | interrupted => exact fetched
          | finished result =>
              cases result with
              | error error => exact fetched
              | ok content =>
                  obtain ⟨calls, traced, once⟩ := fetched
                  exact ⟨calls, traced.restaged _ _, once⟩

/-! ### Failures -/

private theorem fill_failed {service : Service σ} {artifact : Artifact} {world : World σ}
    {error : QueryError} (failed : (service.fill artifact world).1 = .finished (.error error)) :
    ∃ cause, error = .download artifact.objectPath cause := by
  simp only [fill] at failed
  split at failed
  · cases failed
  · cases failed
    exact ⟨_, rfl⟩
  · split at failed <;> cases failed

theorem fetchArtifact_failed {service : Service σ} {artifact : Artifact} {world : World σ}
    {error : QueryError}
    (failed : (service.fetchArtifact artifact world).1 = .finished (.error error)) :
    ∃ cause, error = .download artifact.objectPath cause := by
  rw [fetchArtifact] at failed
  split at failed
  · cases failed
    exact ⟨_, rfl⟩
  · split at failed
    · cases failed
      exact ⟨_, rfl⟩
    · exact fill_failed failed

private theorem readRows_failed {path : String} {content : Except FileFault (List UInt8)}
    {error : QueryError} (failed : readRows path content = .error error) :
    ∃ text, error = .resultParse text := by
  cases content with
  | error fault =>
      cases failed
      exact ⟨_, rfl⟩
  | ok bytes =>
      cases read : Csv.read bytes with
      | error fault =>
          rw [readRows, read] at failed
          cases failed
          exact ⟨_, rfl⟩
      | ok rows =>
          rw [readRows, read] at failed
          cases failed

private theorem readStaged_failed {folders : ResultFolders} {artifact : Artifact}
    {staging : Staging}
    {error : QueryError} (failed : readStaged folders artifact staging = .error error) :
    ∃ text, error = .resultParse text := by
  simp only [readStaged] at failed
  split at failed
  · exact readRows_failed failed
  · exact readRows_failed failed

/-- A result whose place is known can only fail to arrive or to be read. -/
theorem materialize_failed {service : Service σ} {folders : ResultFolders}
    {descriptor : Descriptor} {world : World σ} {artifact : Artifact} {error : QueryError}
    (located : Artifact.ofDescriptor descriptor folders.outputFolder = .ok artifact)
    (failed : (service.materialize folders descriptor world).1 = .finished (.error error)) :
    (∃ cause, error = .download artifact.objectPath cause) ∨ ∃ text, error = .resultParse text := by
  rw [materialize, located] at failed
  simp only at failed
  cases came : service.fetchArtifact artifact world with
  | mk outcome after =>
      rw [came] at failed
      cases outcome with
      | interrupted => cases failed
      | finished result =>
          cases result with
          | error cause =>
              cases failed
              exact Or.inl (fetchArtifact_failed (congrArg Prod.fst came))
          | ok content =>
              change Outcome.finished ((readStaged folders artifact after.staging).map
                Record.ofRows) = .finished (.error error) at failed
              cases read : readStaged folders artifact after.staging with
              | error fault =>
                  rw [read] at failed
                  cases failed
                  exact Or.inr (readStaged_failed read)
              | ok rows =>
                  rw [read] at failed
                  cases failed

end RemoteQuery.Service
