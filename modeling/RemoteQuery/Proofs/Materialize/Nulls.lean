import RemoteQuery.Proofs.Csv.Nulls
import RemoteQuery.Proofs.Materialize.Rows
set_option autoImplicit false

/-! From a table with nulls to its records.  Every row comes back as a record in which a
null is the empty text, except for the null of a single column: its line is empty, and no
record stands for it. -/

namespace RemoteQuery

def Record.ofValues (header : List String) (row : List (Option String)) : Record :=
  Record.ofPairs (Record.positionalPairs header (Csv.texts row))

theorem Record.ofRows_texts (header : List String) (rows : List (List (Option String))) :
    Record.ofRows (header :: rows.map Csv.texts) = rows.map (Record.ofValues header) := by
  rw [Record.ofRows, List.map_map]
  refine List.map_congr_left fun row _ => ?_
  rw [Function.comp_apply, Record.ofRow, Record.zip_eq_positionalPairs, Record.ofValues]

namespace Service

variable {σ : Type}

private theorem readRows_table {header : List String} {rows : List (List (Option String))}
    (headed : header ≠ []) (aligned : Csv.Aligned header rows) (path : String) :
    readRows path (.ok (Csv.tableBytes header rows))
      = .ok (header :: (rows.filter Csv.isWritten).map Csv.texts) := by
  rw [readRows, Csv.read_table headed (aligned.filled headed)]

theorem materialize_of_table {service : Service σ} {folders : ResultFolders}
    {descriptor : Descriptor} {world : World σ} {artifact : Artifact} {header : List String}
    {rows : List (List (Option String))}
    (located : Artifact.ofDescriptor descriptor folders.outputFolder = .ok artifact)
    (headed : header ≠ []) (aligned : Csv.Aligned header rows)
    (served : service.Serves world.remote artifact.objectPath (Csv.tableBytes header rows))
    (creates : world.staging.Creates artifact.fileName) :
    (service.materialize folders descriptor world).1
      = .finished (.ok ((rows.filter Csv.isWritten).map (Record.ofValues header))) := by
  rw [materialize_of_served located creates served, readRows_table headed aligned, Except.map,
    Record.ofRows_texts]

/-- A table comes back as one record a row, in order, but for nulls that stand alone on
their line; there are none where the table has more than one column. -/
theorem materialize_table (service : Service σ) (folders : ResultFolders)
    (descriptor : Descriptor) (world : World σ) (artifact : Artifact) (header : List String)
    (rows : List (List (Option String)))
    (located : Artifact.ofDescriptor descriptor folders.outputFolder = .ok artifact)
    (headed : header ≠ []) (aligned : Csv.Aligned header rows)
    (served : service.Serves world.remote artifact.objectPath (Csv.tableBytes header rows)) :
    (∀ path, readRows path (.ok (Csv.tableBytes header rows))
      = .ok (header :: (rows.filter Csv.isWritten).map Csv.texts)) ∧
    (world.staging.Creates artifact.fileName →
      (service.materialize folders descriptor world).1
        = .finished (.ok ((rows.filter Csv.isWritten).map (Record.ofValues header)))) ∧
    (¬ world.staging.Creates artifact.fileName →
      ∃ fault : FileFault, (service.materialize folders descriptor world).1
        = .finished (.error (.download artifact.objectPath (.system fault.message)))) ∧
    (rows.filter Csv.isWritten = rows ↔ ¬ (header.length = 1 ∧ [none] ∈ rows)) :=
  ⟨readRows_table headed aligned, materialize_of_table located headed aligned served,
    materialize_of_uncreated located, aligned.filter_isWritten⟩

def tableScript (header : List String) (rows : List (List (Option String))) : Script :=
  { writtenScript with
    objects := [("/out/q.csv",
      { content := Csv.tableBytes header rows, failure := none, hangs := false })] }

def tableWorld (header : List String) (rows : List (List (Option String))) : World Script :=
  { writtenWorld with remote := tableScript header rows }

private theorem tableScript_serves (header : List String) (rows : List (List (Option String))) :
    (Script.service "scripted").Serves (tableScript header rows) "/out/q.csv"
      (Csv.tableBytes header rows) := rfl

theorem materialize_table_nulls :
    String.ofList (Csv.table [[some "a", some "b"], [none, none], [some "x", none]])
      = "\"a\",\"b\"\n,\n\"x\",\n" ∧
    ((Script.service "scripted").materialize { outputFolder := "out", stagingPath := "/tmp" }
      writtenDescriptor (tableWorld ["a", "b"] [[none, none], [some "x", none]])).1
      = .finished (.ok
          [{ fields := [("a", ""), ("b", "")] }, { fields := [("a", "x"), ("b", "")] }]) := by
  have aligned : Csv.Aligned ["a", "b"] [[none, none], [some "x", none]] := by
    rw [Csv.Aligned]
    decide
  have materialized := materialize_table (Script.service "scripted")
    { outputFolder := "out", stagingPath := "/tmp" } writtenDescriptor
    (tableWorld ["a", "b"] [[none, none], [some "x", none]])
    { objectPath := "/out/q.csv", fileName := "q.csv" } ["a", "b"]
    [[none, none], [some "x", none]] rfl (by decide) aligned (tableScript_serves _ _)
  exact ⟨rfl, materialized.2.1 ⟨rfl, _, rfl⟩⟩

/-- The null of a single column is lost with its row. -/
theorem materialize_loses_nulls :
    ¬ ∀ (folders : ResultFolders) (descriptor : Descriptor) (world : World Script)
      (artifact : Artifact) (header : List String) (rows : List (List (Option String))),
      Artifact.ofDescriptor descriptor folders.outputFolder = .ok artifact →
      header ≠ [] →
      Csv.Aligned header rows →
      (Script.service "scripted").Serves world.remote artifact.objectPath
        (Csv.tableBytes header rows) →
      world.staging.Creates artifact.fileName →
      ((Script.service "scripted").materialize folders descriptor world).1
        = .finished (.ok (rows.map (Record.ofValues header))) := by
  intro kept
  have aligned : Csv.Aligned ["a"] [[none], [some "1"]] := by
    rw [Csv.Aligned]
    decide
  have located : Artifact.ofDescriptor writtenDescriptor "out"
      = .ok { objectPath := "/out/q.csv", fileName := "q.csv" } := rfl
  have creates : (tableWorld ["a"] [[none], [some "1"]]).staging.Creates "q.csv" := ⟨rfl, _, rfl⟩
  have served := tableScript_serves ["a"] [[none], [some "1"]]
  have both := (materialize_of_table located (by decide) aligned served creates).symm.trans
    (kept { outputFolder := "out", stagingPath := "/tmp" } writtenDescriptor
      (tableWorld ["a"] [[none], [some "1"]]) _ ["a"] _ located (by decide) aligned served creates)
  exact absurd (congrArg List.length (Except.ok.inj (Outcome.finished.inj both))) (by decide)

end Service

end RemoteQuery
