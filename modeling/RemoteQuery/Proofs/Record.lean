import Mathlib.Data.List.Forall2
import Mathlib.Data.List.Induction
import Mathlib.Data.List.Nodup
import RemoteQuery.Record
set_option autoImplicit false

/-! Records as ordered maps, and rows under a header.  The columns of a record stand in the
order in which they were first inserted, each once, and a column has the value inserted
last.  So a name that a header repeats stands where it comes first, and has the field of
the last of its positions that the row still has. -/

namespace RemoteQuery.Record

/-! ### Inserting -/

private theorem names_insertField (column value : String) (fields : List (String × String)) :
    (insertField column value fields).map (·.1)
      = if column ∈ fields.map (·.1) then fields.map (·.1) else fields.map (·.1) ++ [column] := by
  induction fields with
  | nil => rfl
  | cons field fields inductionHypothesis =>
      obtain ⟨name, existing⟩ := field
      by_cases here : name = column
      · simp [insertField, here]
      · have different : column ≠ name := fun same => here same.symm
        rw [insertField, if_neg here, List.map_cons, inductionHypothesis]
        by_cases found : column ∈ fields.map (·.1)
        · simp [different, found]
        · simp [different, found]

private theorem find?_insertField (column value other : String) (fields : List (String × String)) :
    ((insertField column value fields).find? fun field => field.1 == other).map (·.2)
      = if column = other then some value
        else (fields.find? fun field => field.1 == other).map (·.2) := by
  induction fields with
  | nil =>
      by_cases same : column = other
      · simp [insertField, same]
      · simp [insertField, same]
  | cons field fields inductionHypothesis =>
      obtain ⟨name, existing⟩ := field
      by_cases here : name = column
      · by_cases same : column = other
        · simp [insertField, here, same]
        · simp [insertField, here, same]
      · rw [insertField, if_neg here]
        by_cases found : name = other
        · have different : column ≠ other := fun same => here (found.trans same.symm)
          simp [found, different]
        · simp only [List.find?_cons, beq_eq_false_iff_ne.mpr found]
          exact inductionHypothesis

theorem columns_insert (record : Record) (column value : String) :
    (record.insert column value).columns
      = if column ∈ record.columns then record.columns else record.columns ++ [column] :=
  names_insertField column value record.fields

theorem get?_insert (record : Record) (column value other : String) :
    (record.insert column value).get? other
      = if column = other then some value else record.get? other :=
  find?_insertField column value other record.fields

private theorem nodup_columns_insert {record : Record} (distinct : record.columns.Nodup)
    (column value : String) : (record.insert column value).columns.Nodup := by
  rw [columns_insert]
  by_cases found : column ∈ record.columns
  · rw [if_pos found]
    exact distinct
  · rw [if_neg found, ← List.concat_eq_append]
    exact List.Nodup.concat found distinct

theorem get?_eq_none_iff (record : Record) (column : String) :
    record.get? column = none ↔ column ∉ record.columns := by
  simp only [get?, columns, Option.map_eq_none_iff, List.find?_eq_none, beq_iff_eq, List.mem_map,
    not_exists, not_and]

/-! ### Collecting pairs -/

private theorem ofPairs_concat (pairs : List (String × String)) (pair : String × String) :
    ofPairs (pairs ++ [pair]) = (ofPairs pairs).insert pair.1 pair.2 := by
  rw [ofPairs, List.foldl_append]
  rfl

theorem eraseDups_concat (names : List String) (name : String) :
    (names ++ [name]).eraseDups
      = if name ∈ names then names.eraseDups else names.eraseDups ++ [name] := by
  rw [List.eraseDups_append, List.removeAll]
  by_cases found : name ∈ names
  · simp [found]
  · simp [found, List.eraseDups_cons]

theorem columns_ofPairs (pairs : List (String × String)) :
    (ofPairs pairs).columns = (pairs.map (·.1)).eraseDups := by
  induction pairs using List.reverseRecOn with
  | nil => rfl
  | append_singleton pairs pair inductionHypothesis =>
      rw [ofPairs_concat, columns_insert, inductionHypothesis, List.map_append, List.map_singleton,
        eraseDups_concat]
      simp only [List.mem_eraseDups]

theorem nodup_columns_ofPairs (pairs : List (String × String)) :
    (ofPairs pairs).columns.Nodup := by
  induction pairs using List.reverseRecOn with
  | nil => exact List.nodup_nil
  | append_singleton pairs pair inductionHypothesis =>
      rw [ofPairs_concat]
      exact nodup_columns_insert inductionHypothesis pair.1 pair.2

theorem get?_ofPairs_last (before after : List (String × String)) {column : String}
    (value : String) (last : column ∉ after.map (·.1)) :
    (ofPairs (before ++ (column, value) :: after)).get? column = some value := by
  induction after using List.reverseRecOn with
  | nil => rw [ofPairs_concat, get?_insert, if_pos rfl]
  | append_singleton after pair inductionHypothesis =>
      simp only [List.map_append, List.mem_append, not_or, List.map_singleton,
        List.mem_singleton] at last
      obtain ⟨absent, different⟩ := last
      rw [← List.cons_append, ← List.append_assoc, ofPairs_concat, get?_insert,
        if_neg fun same => different same.symm]
      exact inductionHypothesis absent

/-! ### Rows under a header -/

/-- A record holds a row under a header.  Only the positions that both have count: their
names are the columns, each where it comes first, and a column has the field of the last
position with its name. -/
structure Holds (header row : List String) (record : Record) : Prop where
  distinct : record.columns.Nodup
  columns_eq : record.columns = (header.take (min header.length row.length)).eraseDups
  get?_eq : ∀ (position : Nat) (inHeader : position < header.length)
    (inRow : position < row.length),
    (∀ (later : Nat) (further : later < header.length), position < later → later < row.length →
      header[later] ≠ header[position]) →
    record.get? header[position] = some row[position]
  absent : ∀ column, column ∉ header.take (min header.length row.length) →
    record.get? column = none

private theorem names_zip (header row : List String) :
    (header.zip row).map (·.1) = header.take (min header.length row.length) := by
  rw [List.zip_eq_zip_take_min]
  apply List.map_fst_zip
  simp only [List.length_take]
  omega

private theorem columns_ofRow (header row : List String) :
    (ofRow header row).columns = (header.take (min header.length row.length)).eraseDups := by
  rw [ofRow, columns_ofPairs, names_zip]

private theorem get?_ofRow {header row : List String} {position : Nat}
    (inHeader : position < header.length) (inRow : position < row.length)
    (last : ∀ (later : Nat) (further : later < header.length), position < later →
      later < row.length → header[later] ≠ header[position]) :
    (ofRow header row).get? header[position] = some row[position] := by
  have inZip : position < (header.zip row).length := by
    rw [List.length_zip]
    omega
  have here : (header.zip row)[position] = (header[position], row[position]) :=
    List.getElem_zip
  have split : header.zip row = (header.zip row).take position
      ++ (header[position], row[position]) :: (header.zip row).drop (position + 1) := by
    rw [← here, List.getElem_cons_drop, List.take_append_drop]
  have absent : header[position] ∉ ((header.zip row).drop (position + 1)).map (·.1) := by
    rw [List.map_drop, names_zip]
    intro member
    obtain ⟨offset, inside, same⟩ := List.mem_iff_getElem.mp member
    simp only [List.length_drop, List.length_take] at inside
    rw [List.getElem_drop, List.getElem_take] at same
    exact last (position + 1 + offset) (by omega) (by omega) (by omega) same
  rw [ofRow, split]
  exact get?_ofPairs_last _ _ _ absent

private theorem ofRow_holds (header row : List String) : Holds header row (ofRow header row) where
  distinct := nodup_columns_ofPairs _
  columns_eq := columns_ofRow header row
  get?_eq := fun _ => get?_ofRow
  absent := by
    intro column absent
    rw [get?_eq_none_iff, columns_ofRow, List.mem_eraseDups]
    exact absent

private theorem ofRow_take (header row : List String) (names fields : Nat)
    (enough : min header.length row.length ≤ min names fields) :
    ofRow (header.take names) (row.take fields) = ofRow header row := by
  have pairs : (header.take names).zip (row.take fields) = header.zip row := by
    apply List.ext_getElem
    · simp only [List.length_zip, List.length_take]
      omega
    · intro position inside within
      simp only [List.getElem_zip, List.getElem_take]
  rw [ofRow, pairs, ofRow]

theorem ofRow_fields_congr {header row other : List String}
    (agree : other.take header.length = row.take header.length) :
    ofRow header other = ofRow header row :=
  calc ofRow header other
      = ofRow (header.take header.length) (other.take header.length) :=
        (ofRow_take header other _ _ (by omega)).symm
    _ = ofRow (header.take header.length) (row.take header.length) := by rw [agree]
    _ = ofRow header row := ofRow_take header row _ _ (by omega)

theorem ofRow_names_congr {header other row : List String}
    (agree : other.take row.length = header.take row.length) :
    ofRow other row = ofRow header row :=
  calc ofRow other row
      = ofRow (other.take row.length) (row.take row.length) :=
        (ofRow_take other row _ _ (by omega)).symm
    _ = ofRow (header.take row.length) (row.take row.length) := by rw [agree]
    _ = ofRow header row := ofRow_take header row _ _ (by omega)

/-- There is one record for each row behind the header, in order, and it holds the row.  The
records are the same whatever the rows have behind the header's length, and the header
behind that of the rows. -/
theorem ofRows_hold (header : List String) (rows : List (List String)) :
    ofRows [] = [] ∧
    List.Forall₂ (Holds header) rows (ofRows (header :: rows)) ∧
    (∀ others, List.Forall₂ (fun other row =>
        other.take header.length = row.take header.length) others rows →
      ofRows (header :: others) = ofRows (header :: rows)) ∧
    (∀ other : List String, (∀ row, row ∈ rows → other.take row.length = header.take row.length) →
      ofRows (other :: rows) = ofRows (header :: rows)) := by
  refine ⟨rfl, ?_, ?_, ?_⟩
  · rw [ofRows, List.forall₂_map_right_iff, List.forall₂_same]
    intro row _
    exact ofRow_holds header row
  · intro others agree
    rw [ofRows, ofRows]
    induction agree with
    | nil => rfl
    | cons same _ inductionHypothesis =>
        rw [List.map_cons, List.map_cons, ofRow_fields_congr same, inductionHypothesis]
  · intro other agree
    rw [ofRows, ofRows]
    apply List.map_congr_left
    intro row member
    exact ofRow_names_congr (agree row member)

theorem ofRows_hold_repeated :
    ofRows [["a", "b", "a"], ["1", "2", "3"], ["4", "5"], []]
      = [{ fields := [("a", "3"), ("b", "2")] }, { fields := [("a", "4"), ("b", "5")] }, empty] ∧
    ofRows [["a", "b", "a"], ["1", "2", "3", "beyond"], ["4", "5"], []]
      = ofRows [["a", "b", "a"], ["1", "2", "3"], ["4", "5"], []] ∧
    ofRows [["a", "b", "c"], ["4", "5"], []] = ofRows [["a", "b", "a"], ["4", "5"], []] := by
  obtain ⟨_, _, fields, _⟩ := ofRows_hold ["a", "b", "a"] [["1", "2", "3"], ["4", "5"], []]
  obtain ⟨_, _, _, names⟩ := ofRows_hold ["a", "b", "a"] [["4", "5"], []]
  refine ⟨by decide, fields _ ?_, names _ ?_⟩
  · exact .cons rfl (.cons rfl (.cons rfl .nil))
  · decide

end RemoteQuery.Record
