import RemoteQuery.Proofs.Csv
import RemoteQuery.Proofs.Staging
import RemoteQuery.Script
set_option autoImplicit false

/-! From a result that the service has written to its rows.  When the file can be staged
and all of the object arrives, every row behind the header comes back as one record; when
it cannot be staged there are no rows at all. -/

namespace RemoteQuery

def Record.positionalPairs (header row : List String) : List (String × String) :=
  List.ofFn fun position : Fin (min header.length row.length) =>
    (header.get ⟨position, Nat.lt_of_lt_of_le position.isLt (Nat.min_le_left _ _)⟩,
      row.get ⟨position, Nat.lt_of_lt_of_le position.isLt (Nat.min_le_right _ _)⟩)

theorem Record.zip_eq_positionalPairs (header row : List String) :
    header.zip row = Record.positionalPairs header row := by
  apply List.ext_getElem
  · rw [positionalPairs, List.length_zip, List.length_ofFn]
  · intro position inZip inPairs
    simp only [positionalPairs, List.getElem_zip, List.getElem_ofFn, List.get_eq_getElem]

namespace Service

variable {σ : Type}

/-- A store has an object: downloading it brings all of its bytes to a caller who waits. -/
def Serves (service : Service σ) (remote : σ) (objectPath : String) (bytes : List UInt8) :
    Prop :=
  (service.download objectPath remote).1
    = { written := bytes, reply := .answer { result := .ok (), cancels := false } }

private theorem fill_of_served {service : Service σ} {artifact : Artifact} {world : World σ}
    {bytes : List UInt8} (served : service.Serves world.remote artifact.objectPath bytes) :
    service.fill artifact world = (.finished (.ok ()), service.downloaded artifact world) := by
  rw [Serves] at served
  simp only [fill, callDownload_eq, downloaded, served]
  rfl

theorem fetchArtifact_eq_fill {service : Service σ} {artifact : Artifact} {world : World σ}
    {staged : Staging} (there : world.staging.ensure.1 = none)
    (created : world.staging.ensure.2.create artifact.fileName = .ok staged) :
    service.fetchArtifact artifact world
      = service.fill artifact { world with staging := staged } := by
  have ensured : world.staging.ensure = (none, world.staging.ensure.2) := Prod.ext there rfl
  rw [fetchArtifact, ensured]
  simp only [created]

theorem fetchArtifact_of_created {service : Service σ} {artifact : Artifact} {world : World σ}
    {staged : Staging} {bytes : List UInt8} (there : world.staging.ensure.1 = none)
    (created : world.staging.ensure.2.create artifact.fileName = .ok staged)
    (served : service.Serves world.remote artifact.objectPath bytes) :
    service.fetchArtifact artifact world
      = (.finished (.ok ()), service.downloaded artifact { world with staging := staged }) := by
  rw [fetchArtifact_eq_fill there created]
  exact fill_of_served served

theorem fetchArtifact_of_refuses {service : Service σ} {artifact : Artifact} {world : World σ}
    {fault : FileFault} (refuses : world.staging.Refuses artifact.fileName fault) :
    (service.fetchArtifact artifact world).1 = unstaged artifact fault := by
  cases refuses with
  | folder missing =>
      have ensured : world.staging.ensure = (some fault, world.staging.ensure.2) :=
        Prod.ext missing rfl
      rw [fetchArtifact, ensured]
      rfl
  | file there refused =>
      have ensured : world.staging.ensure = (none, world.staging.ensure.2) := Prod.ext there rfl
      rw [fetchArtifact, ensured]
      simp only [refused]
      rfl

theorem materialize_of_served {service : Service σ} {folders : ResultFolders}
    {descriptor : Descriptor} {world : World σ} {artifact : Artifact} {bytes : List UInt8}
    (located : Artifact.ofDescriptor descriptor folders.outputFolder = .ok artifact)
    (creates : world.staging.Creates artifact.fileName)
    (served : service.Serves world.remote artifact.objectPath bytes) :
    (service.materialize folders descriptor world).1
      = .finished ((readRows (joinPath folders.stagingPath artifact.fileName) (.ok bytes)).map
          Record.ofRows) := by
  obtain ⟨there, staged, created⟩ := creates
  have arrived : (service.download artifact.objectPath world.remote).1.written = bytes := by
    rw [served]
  have content : (service.downloaded artifact { world with staging := staged }).staging.content?
      artifact.fileName = some bytes := by
    rw [← arrived]
    exact (Staging.created_of_create created).content?_append _
  rw [materialize, located]
  simp only [fetchArtifact_of_created there created served, readStaged, content]

theorem materialize_of_failed {service : Service σ} {folders : ResultFolders}
    {descriptor : Descriptor} {world : World σ} {artifact : Artifact} {error : QueryError}
    (located : Artifact.ofDescriptor descriptor folders.outputFolder = .ok artifact)
    (failed : (service.fetchArtifact artifact world).1 = .finished (.error error)) :
    (service.materialize folders descriptor world).1 = .finished (.error error) := by
  rw [materialize, located]
  cases came : service.fetchArtifact artifact world with
  | mk outcome after =>
      rw [came] at failed
      cases failed
      simp only
      rw [came]

theorem materialize_of_refuses {service : Service σ} {folders : ResultFolders}
    {descriptor : Descriptor} {world : World σ} {artifact : Artifact} {fault : FileFault}
    (located : Artifact.ofDescriptor descriptor folders.outputFolder = .ok artifact)
    (refuses : world.staging.Refuses artifact.fileName fault) :
    (service.materialize folders descriptor world).1
      = .finished (.error (.download artifact.objectPath (.system fault.message))) :=
  materialize_of_failed located (fetchArtifact_of_refuses refuses)

theorem materialize_of_uncreated {service : Service σ} {folders : ResultFolders}
    {descriptor : Descriptor} {world : World σ} {artifact : Artifact}
    (located : Artifact.ofDescriptor descriptor folders.outputFolder = .ok artifact)
    (stopped : ¬ world.staging.Creates artifact.fileName) :
    ∃ fault : FileFault, (service.materialize folders descriptor world).1
      = .finished (.error (.download artifact.objectPath (.system fault.message))) := by
  obtain ⟨fault, refuses⟩ :=
    (world.staging.creates_or_refuses artifact.fileName).resolve_left stopped
  exact ⟨fault, materialize_of_refuses located refuses⟩

/-- An object in which every field stands in quotation marks is read back as its header
and rows, and materialized as one record a row. -/
theorem materialize_written (service : Service σ) (folders : ResultFolders)
    (descriptor : Descriptor) (world : World σ) (artifact : Artifact) (header : List String)
    (rows : List (List String)) (text : List Char)
    (located : Artifact.ofDescriptor descriptor folders.outputFolder = .ok artifact)
    (headed : header ≠ []) (filled : ∀ row, row ∈ rows → row ≠ [])
    (written : Csv.Written (header :: rows) text)
    (served : service.Serves world.remote artifact.objectPath
      (Text.encode (String.ofList text))) :
    (∀ path, readRows path (.ok (Text.encode (String.ofList text))) = .ok (header :: rows)) ∧
    (world.staging.Creates artifact.fileName →
      (service.materialize folders descriptor world).1
        = .finished (.ok (rows.map fun row =>
            Record.ofPairs (Record.positionalPairs header row)))) ∧
    (¬ world.staging.Creates artifact.fileName →
      ∃ fault : FileFault, (service.materialize folders descriptor world).1
        = .finished (.error (.download artifact.objectPath (.system fault.message)))) := by
  have allFilled : ∀ row, row ∈ header :: rows → row ≠ [] := by
    intro row member
    rcases List.mem_cons.mp member with first | later
    · rw [first]
      exact headed
    · exact filled row later
  have read (path : String) :
      readRows path (.ok (Text.encode (String.ofList text))) = .ok (header :: rows) := by
    rw [readRows, Csv.read_written written allFilled]
  have records : Record.ofRows (header :: rows)
      = rows.map fun row => Record.ofPairs (Record.positionalPairs header row) := by
    refine List.map_congr_left fun row _ => ?_
    rw [Record.ofRow, Record.zip_eq_positionalPairs]
  refine ⟨read, ?_, materialize_of_uncreated located⟩
  intro creates
  rw [materialize_of_served located creates served, read, Except.map, records]

def writtenHeader : List String := ["a", "\uFEFFb,c"]

def writtenRows : List (List String) := [["1", "say \"so\"\r\n", "3"], [""]]

def writtenText : List Char :=
  Csv.line writtenHeader ++ ['\r', '\n'] ++ Csv.line ["1", "say \"so\"\r\n", "3"] ++ ['\n']
    ++ Csv.line [""]

def writtenScript : Script :=
  { acknowledgement := "", startFailure := none, cancelsOnStart := false, polls := []
    stopFailure := none
    objects := [("/out/q.csv",
      { content := Text.encode (String.ofList writtenText), failure := none, hangs := false })]
    reachesCaller := false }

def writtenWorld : World Script :=
  { remote := writtenScript, cancelled := false, clock := 0, calls := []
    staging := .fresh ["tmp"] }

def writtenDescriptor : Descriptor :=
  { Descriptor.pending "q" with
    state := .succeeded, resultLocation := some "s3://bucket/out/q.csv" }

theorem materialize_written_marks :
    writtenText = ("\"a\",\"\uFEFFb,c\"\r\n\"1\",\"say \"\"so\"\"\r\n\",\"3\"\n\"\"").toList ∧
    ((Script.service "scripted").materialize { outputFolder := "out", stagingPath := "/tmp" }
      writtenDescriptor writtenWorld).1
      = .finished (.ok
          [{ fields := [("a", "1"), ("\uFEFFb,c", "say \"so\"\r\n")] },
            { fields := [("a", "")] }]) := by
  have written : Csv.Written (writtenHeader :: writtenRows) writtenText :=
    .row writtenHeader .carriageReturnLineFeed (.row _ .lineFeed (.unended [""]))
  have filled : ∀ row, row ∈ writtenRows → row ≠ [] := by decide
  have materialized := materialize_written (Script.service "scripted")
    { outputFolder := "out", stagingPath := "/tmp" } writtenDescriptor writtenWorld
    { objectPath := "/out/q.csv", fileName := "q.csv" } writtenHeader writtenRows writtenText
    rfl (by decide) filled written rfl
  exact ⟨rfl, materialized.2.1 ⟨rfl, _, rfl⟩⟩

end Service

end RemoteQuery
