import RemoteQuery.Proofs.Disk
import RemoteQuery.Proofs.Materialize
set_option autoImplicit false

/-! What is left of a staged file.  A call that stages an artifact makes the folder for
it, may replace what stands under the name of the artifact, and takes the file away
again; every other place is left alone.  Only between the download and the reading of it
does the file stand there, and then it holds what was downloaded. -/

namespace RemoteQuery

namespace Staging

/-- A call that stages a file under a name gets as far as creating it. -/
def Creates (staging : Staging) (name : String) : Prop :=
  staging.ensure.1 = none ∧ ∃ staged, staging.ensure.2.create name = .ok staged

/-- Places other than that of a name keep what stands there; only folders on the way to
the staging folder are made. -/
structure SparesOthers (name : String) (before after : Staging) : Prop where
  folder_eq : after.folder = before.folder
  elsewhere : ∀ place, place ≠ before.placeOf name →
    Disk.Keeps before.folder before.disk after.disk place

/-- What a call that stages a file leaves behind: no file under its name if it was
created, and otherwise what was there. -/
structure Spares (name : String) (before after : Staging) : Prop extends
    SparesOthers name before after where
  removed : before.Creates name → after.disk.entryAt? (before.placeOf name) = none
  unchanged : ¬ before.Creates name →
    after.disk.entryAt? (before.placeOf name) = before.disk.entryAt? (before.placeOf name)

/-- The state while a staged file is there. -/
structure Holds (name : String) (bytes : List UInt8) (before after : Staging) : Prop extends
    SparesOthers name before after where
  created : before.Creates name
  content : after.content? name = some bytes

/-! ### One file -/

theorem placeOf_ne_nil (staging : Staging) (name : String) : staging.placeOf name ≠ [] :=
  List.append_ne_nil_of_right_ne_nil staging.folder (List.cons_ne_nil name [])

theorem entryAt?_of_ordinary (staging : Staging) {name : String} (here : name ≠ ".")
    (up : name ≠ "..") : staging.entryAt? name = staging.disk.entryAt? (staging.placeOf name) := by
  rw [entryAt?, if_neg]
  simp only [here, up, decide_false, Bool.or_self, Bool.false_eq_true, not_false_eq_true]

private theorem ordinary_of_entryAt? {staging : Staging} {name : String}
    (notFolder : staging.entryAt? name ≠ some .folder) : name ≠ "." ∧ name ≠ ".." := by
  constructor
  · intro here
    rw [here] at notFolder
    exact notFolder rfl
  · intro up
    rw [up] at notFolder
    exact notFolder rfl

private theorem append_of_file {staging : Staging} {name : String} {content : List UInt8}
    (found : staging.entryAt? name = some (.file content)) (bytes : List UInt8) :
    staging.append name bytes = staging.put name (content ++ bytes) := by
  rw [append, found]

private theorem append_of_no_file {staging : Staging} {name : String}
    (missing : ∀ content, staging.entryAt? name ≠ some (.file content)) (bytes : List UInt8) :
    staging.append name bytes = staging := by
  rw [append]
  split
  · rename_i content found
    exact (missing content found).elim
  · rfl

theorem append_append (staging : Staging) (name : String) (first second : List UInt8) :
    (staging.append name first).append name second = staging.append name (first ++ second) := by
  by_cases there : ∃ content, staging.entryAt? name = some (.file content)
  · obtain ⟨content, found⟩ := there
    have notFolder : staging.entryAt? name ≠ some .folder := by
      rw [found]
      exact fun same => Entry.noConfusion (Option.some.inj same)
    obtain ⟨here, up⟩ := ordinary_of_entryAt? notFolder
    have written : (staging.put name (content ++ first)).entryAt? name
        = some (.file (content ++ first)) := by
      rw [entryAt?_of_ordinary _ here up]
      exact Disk.entryAt?_put_same _ _ _ (staging.placeOf_ne_nil name)
    rw [append_of_file found, append_of_file found, append_of_file written, List.append_assoc]
    exact congrArg (Staging.mk staging.folder) (Disk.put_put _ _ _ _)
  · have missing : ∀ content, staging.entryAt? name ≠ some (.file content) :=
      not_exists.mp there
    rw [append_of_no_file missing, append_of_no_file missing, append_of_no_file missing]

structure Created (staging : Staging) (name : String) (staged : Staging) : Prop where
  sound : Disk.nameFault? name = none
  here : name ≠ "."
  up : name ≠ ".."
  staged_eq : staged = staging.put name []

theorem created_of_create {staging staged : Staging} {name : String}
    (created : staging.create name = .ok staged) : staging.Created name staged := by
  rw [create] at created
  cases sound : Disk.nameFault? name with
  | some fault =>
      rw [sound] at created
      cases created
  | none =>
      rw [sound] at created
      cases around : staging.disk.entryAt? staging.folder with
      | none =>
          rw [around] at created
          cases created
      | some entry =>
          rw [around] at created
          cases entry with
          | file content => cases created
          | folder =>
              have notFolder : staging.entryAt? name ≠ some .folder := by
                intro found
                rw [found] at created
                cases created
              obtain ⟨here, up⟩ := ordinary_of_entryAt? notFolder
              refine ⟨sound, here, up, ?_⟩
              cases found : staging.entryAt? name with
              | none =>
                  rw [found] at created
                  exact (Except.ok.inj created).symm
              | some entry =>
                  rw [found] at created
                  cases entry with
                  | folder => cases created
                  | file content => exact (Except.ok.inj created).symm

private theorem remove_of_refused {staging : Staging} {name : String} {fault : FileFault}
    (there : staging.disk.entryAt? staging.folder = some .folder)
    (refused : staging.create name = .error fault) : staging.remove name = staging := by
  rw [create, there] at refused
  rw [remove]
  cases sound : Disk.nameFault? name with
  | some fault => rfl
  | none =>
      rw [sound] at refused
      cases found : staging.entryAt? name with
      | none => rfl
      | some entry =>
          rw [found] at refused
          cases entry with
          | folder => rfl
          | file content => cases refused

theorem remove_of_fault {staging : Staging} {name : String} {fault : FileFault}
    (impossible : Disk.nameFault? name = some fault) : staging.remove name = staging := by
  rw [remove, impossible]

theorem content?_remove {staging : Staging} {name : String}
    (sound : Disk.nameFault? name = none) : (staging.remove name).content? name = none := by
  rw [remove, sound]
  cases found : staging.entryAt? name with
  | none =>
      simp only
      rw [content?, found]
  | some entry =>
      cases entry with
      | folder =>
          simp only
          rw [content?, found]
      | file content =>
          have notFolder : staging.entryAt? name ≠ some .folder := by
            rw [found]
            exact fun same => Entry.noConfusion (Option.some.inj same)
          obtain ⟨here, up⟩ := ordinary_of_entryAt? notFolder
          have free : ({ staging with disk := staging.disk.erase (staging.placeOf name) } :
              Staging).entryAt? name = none :=
            (entryAt?_of_ordinary _ here up).trans
              (Disk.entryAt?_erase_same _ _ (staging.placeOf_ne_nil name))
          simp only
          rw [content?, free]

namespace Created

variable {staging staged : Staging} {name : String}

theorem append_eq (created : staging.Created name staged) (bytes : List UInt8) :
    staged.append name bytes = staged.put name bytes := by
  have empty : staged.entryAt? name = some (.file []) := by
    rw [entryAt?_of_ordinary staged created.here created.up, created.staged_eq]
    exact Disk.entryAt?_put_same _ _ _ (staging.placeOf_ne_nil name)
  rw [append, empty]
  rfl

theorem append_nil (created : staging.Created name staged) : staged.append name [] = staged := by
  rw [created.append_eq [], created.staged_eq]
  exact congrArg (Staging.mk staging.folder) (Disk.put_put _ _ _ _)

private theorem entryAt?_append (created : staging.Created name staged) (bytes : List UInt8) :
    (staged.append name bytes).entryAt? name = some (.file bytes) := by
  rw [created.append_eq bytes, entryAt?_of_ordinary _ created.here created.up]
  exact Disk.entryAt?_put_same _ _ _ (staged.placeOf_ne_nil name)

theorem content?_append (created : staging.Created name staged) (bytes : List UInt8) :
    (staged.append name bytes).content? name = some bytes := by
  rw [content?, created.entryAt?_append bytes]

private theorem folder_append (created : staging.Created name staged) (bytes : List UInt8) :
    (staged.append name bytes).folder = staging.folder := by
  rw [created.append_eq bytes, created.staged_eq]
  rfl

private theorem append_elsewhere (created : staging.Created name staged) (bytes : List UInt8)
    (place : Place) (other : place ≠ staging.placeOf name) :
    (staged.append name bytes).disk.entryAt? place = staging.disk.entryAt? place := by
  rw [created.append_eq bytes, created.staged_eq]
  exact (Disk.entryAt?_put_other _ _ _ _ other).trans (Disk.entryAt?_put_other _ _ _ _ other)

private theorem remove_append (created : staging.Created name staged) (bytes : List UInt8) :
    (staged.append name bytes).remove name
      = { staged.append name bytes with
          disk := (staged.append name bytes).disk.erase (staging.placeOf name) } := by
  have place : (staged.append name bytes).placeOf name = staging.placeOf name := by
    rw [placeOf, created.folder_append bytes]
    rfl
  rw [remove, created.sound, created.entryAt?_append bytes, ← place]

end Created

/-! ### The folder -/

theorem ensure_keeps (staging : Staging) (place : Place) :
    Disk.Keeps staging.folder staging.disk staging.ensure.2.disk place :=
  Disk.makeFolders_keeps staging.disk staging.folder place

theorem ensure_placeOf (staging : Staging) (name : String) :
    staging.ensure.2.disk.entryAt? (staging.placeOf name)
      = staging.disk.entryAt? (staging.placeOf name) := by
  rcases staging.ensure_keeps (staging.placeOf name) with same | ⟨_, _, onTheWay⟩
  · exact same
  · have shorter := onTheWay.length_le
    rw [placeOf, List.length_append, List.length_singleton] at shorter
    omega

private theorem entryAt?_ensure (staging : Staging) (name : String) :
    staging.ensure.2.entryAt? name = staging.entryAt? name := by
  have place : staging.ensure.2.placeOf name = staging.placeOf name := rfl
  rw [entryAt?, entryAt?, place, staging.ensure_placeOf name]

theorem content?_ensure (staging : Staging) (name : String) :
    staging.ensure.2.content? name = staging.content? name := by
  rw [content?, content?, entryAt?_ensure]

private theorem ensure_spares {staging : Staging} {name : String}
    (stopped : ¬ staging.Creates name) :
    Spares name staging staging.ensure.2 where
  folder_eq := rfl
  elsewhere := fun place _ => staging.ensure_keeps place
  removed := fun created => (stopped created).elim
  unchanged := fun _ => staging.ensure_placeOf name

/-- A file can be staged: the folder is there or can be made, and no folder stands under the
name of the file, which is one that a file can have. -/
structure Takes (staging : Staging) (name : String) : Prop where
  clear : staging.disk.IsClear staging.folder
  sound : Disk.nameFault? name = none
  free : staging.entryAt? name ≠ some .folder

/-- What the system says when a file cannot be staged, of the folder or of the file. -/
inductive Refuses (staging : Staging) (name : String) (fault : FileFault) : Prop where
  | folder (missing : staging.ensure.1 = some fault)
  | file (there : staging.ensure.1 = none) (refused : staging.ensure.2.create name = .error fault)

theorem creates_or_refuses (staging : Staging) (name : String) :
    staging.Creates name ∨ ∃ fault, staging.Refuses name fault := by
  cases told : staging.ensure.1 with
  | some fault => exact Or.inr ⟨fault, .folder told⟩
  | none =>
      cases made : staging.ensure.2.create name with
      | error fault => exact Or.inr ⟨fault, .file told made⟩
      | ok staged => exact Or.inl ⟨told, staged, made⟩

theorem Refuses.not_creates {staging : Staging} {name : String} {fault : FileFault}
    (refuses : staging.Refuses name fault) : ¬ staging.Creates name := by
  rintro ⟨there, staged, created⟩
  cases refuses with
  | folder missing =>
      rw [there] at missing
      cases missing
  | file _ refused =>
      rw [created] at refused
      cases refused

theorem creates_iff_takes {staging : Staging} {name : String} :
    staging.Creates name ↔ staging.Takes name := by
  have clear : staging.ensure.1 = none ↔ staging.disk.IsClear staging.folder :=
    Disk.makeFolders_eq_none_iff
  have around (there : staging.ensure.1 = none) :
      staging.ensure.2.disk.entryAt? staging.ensure.2.folder = some .folder :=
    Disk.makeFolders_there _ _ there
  constructor
  · rintro ⟨there, staged, created⟩
    have sound := (created_of_create created).sound
    refine ⟨clear.mp there, sound, fun folder => ?_⟩
    rw [create, sound, around there, entryAt?_ensure, folder] at created
    cases created
  · intro takes
    have there := clear.mpr takes.clear
    refine ⟨there, ?_⟩
    rw [create, takes.sound, around there, entryAt?_ensure]
    cases found : staging.entryAt? name with
    | none => exact ⟨_, rfl⟩
    | some entry =>
        cases entry with
        | folder => exact (takes.free found).elim
        | file content => exact ⟨_, rfl⟩

theorem refuses_iff {staging : Staging} {name : String} :
    (∃ fault, staging.Refuses name fault) ↔ ¬ staging.Takes name := by
  rw [← creates_iff_takes]
  constructor
  · rintro ⟨fault, refuses⟩
    exact refuses.not_creates
  · exact (staging.creates_or_refuses name).resolve_left

/-- A file in the folder that has been made sure of, as long as it stands there. -/
theorem append_holds {staging staged : Staging} {name : String} (there : staging.ensure.1 = none)
    (created : staging.ensure.2.create name = .ok staged) (bytes : List UInt8) :
    Holds name bytes staging (staged.append name bytes) where
  folder_eq := (created_of_create created).folder_append bytes
  elsewhere := by
    intro place other
    rw [Disk.Keeps, (created_of_create created).append_elsewhere bytes place other]
    exact staging.ensure_keeps place
  created := ⟨there, staged, created⟩
  content := (created_of_create created).content?_append bytes

private theorem remove_spares {staging staged : Staging} {name : String}
    (there : staging.ensure.1 = none)
    (created : staging.ensure.2.create name = .ok staged) (bytes : List UInt8) :
    Spares name staging ((staged.append name bytes).remove name) where
  folder_eq := by
    rw [(created_of_create created).remove_append bytes]
    exact (created_of_create created).folder_append bytes
  elsewhere := by
    intro place other
    have erased : ((staged.append name bytes).remove name).disk.entryAt? place
        = (staged.append name bytes).disk.entryAt? place := by
      rw [(created_of_create created).remove_append bytes]
      exact Disk.entryAt?_erase_other _ _ _ other
    rw [Disk.Keeps, erased]
    exact (append_holds there created bytes).elsewhere place other
  removed := by
    intro _
    rw [(created_of_create created).remove_append bytes]
    exact Disk.entryAt?_erase_same _ _ (staging.placeOf_ne_nil name)
  unchanged := fun stopped => (stopped ⟨there, staged, created⟩).elim

/-- Nothing is read under the name of a file that was created and taken away. -/
theorem Spares.content?_eq_none {before after : Staging} {name : String}
    (spares : Spares name before after) (created : before.Creates name) :
    after.content? name = none := by
  have place : after.placeOf name = before.placeOf name := by
    rw [placeOf, placeOf, spares.folder_eq]
  rw [content?, entryAt?, place, spares.removed created]
  by_cases special : (decide (name = ".") || decide (name = "..")) = true
  · rw [if_pos special]
  · rw [if_neg special]

end Staging

namespace Service

variable {σ : Type}

/-! ### Fetching and reading a result -/

/-- A fetch that fails leaves nothing of the file; after any other the file holds what
was downloaded, and removing it leaves nothing of it. -/
theorem fetchArtifact_staging (service : Service σ) (artifact : Artifact)
    (world : World σ) :
    ((service.fetchArtifact artifact world).1 ≠ .finished (.ok ()) →
      world.staging.Spares artifact.fileName
        (service.fetchArtifact artifact world).2.staging) ∧
    ((service.fetchArtifact artifact world).1 = .finished (.ok ()) →
      world.staging.Holds artifact.fileName
        (service.download artifact.objectPath world.remote).1.written
        (service.fetchArtifact artifact world).2.staging ∧
      world.staging.Spares artifact.fileName
        ((service.fetchArtifact artifact world).2.staging.remove artifact.fileName)) := by
  have fetched := service.fetchArtifact_fetched artifact world
  generalize came : service.fetchArtifact artifact world = ended at fetched
  cases fetched with
  | noFolder fault missing =>
      refine ⟨fun _ => Staging.ensure_spares ?_, fun impossible => by cases impossible⟩
      intro created
      rw [created.1] at missing
      cases missing
  | notCreated there fault refused =>
      have folder : world.staging.ensure.2.disk.entryAt? world.staging.ensure.2.folder
          = some .folder := Disk.makeFolders_there _ _ there
      refine ⟨fun _ => ?_, fun impossible => by cases impossible⟩
      change world.staging.Spares artifact.fileName
        (world.staging.ensure.2.remove artifact.fileName)
      rw [Staging.remove_of_refused folder refused]
      apply Staging.ensure_spares
      rintro ⟨_, staged, created⟩
      rw [refused] at created
      cases created
  | dropped there staged created outcome partly =>
      exact ⟨fun _ => Staging.remove_spares there created _, fun whole => (partly whole).elim⟩
  | kept there staged created =>
      exact ⟨fun partly => (partly rfl).elim, fun _ =>
        ⟨Staging.append_holds there created _, Staging.remove_spares there created _⟩⟩

/-- However an execution is turned into rows, nothing of its result file is left. -/
theorem materialize_staging (service : Service σ) (folders : ResultFolders)
    (descriptor : Descriptor) (world : World σ) :
    match Artifact.ofDescriptor descriptor folders.outputFolder with
    | .error _ => (service.materialize folders descriptor world).2 = world
    | .ok artifact => world.staging.Spares artifact.fileName
        (service.materialize folders descriptor world).2.staging := by
  rw [materialize]
  cases Artifact.ofDescriptor descriptor folders.outputFolder with
  | error error => rfl
  | ok artifact =>
      obtain ⟨partly, whole⟩ := service.fetchArtifact_staging artifact world
      cases came : service.fetchArtifact artifact world with
      | mk outcome after =>
          rw [came] at partly whole
          simp only
          rw [came]
          cases outcome with
          | interrupted => exact partly (fun impossible => by cases impossible)
          | finished result =>
              cases result with
              | error error => exact partly (fun impossible => by cases impossible)
              | ok content => exact (whole rfl).2

end Service

end RemoteQuery
