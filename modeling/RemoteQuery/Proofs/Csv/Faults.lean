import RemoteQuery.Proofs.Csv
set_option autoImplicit false

/-! Which files can be read as texts.  Fields are separated as bytes, so whether a field is
UTF-8 is a question of its own bytes alone.  A file is read if every field of every row is,
and then no field is lost; if one is not, the first such field is told, however far behind
it stands. -/

namespace RemoteQuery.Csv

/-- The first member of a list that does not have a property, and its position. -/
structure FirstWithout {α : Type} (P : α → Prop) (members : List α) (position : Nat)
    (found : α) : Prop where
  there : members[position]? = some found
  without : ¬ P found
  before : ∀ earlier, earlier ∈ members.take position → P earlier

namespace FirstWithout

variable {α : Type} {P : α → Prop} {first found : α} {others : List α} {position : Nat}

private theorem head (without : ¬ P first) (others : List α) :
    FirstWithout P (first :: others) 0 first :=
  ⟨rfl, without, nofun⟩

private theorem behind (right : P first) (wrong : FirstWithout P others position found) :
    FirstWithout P (first :: others) (position + 1) found where
  there := wrong.there
  without := wrong.without
  before := by
    intro earlier member
    rw [List.take_succ_cons, List.mem_cons] at member
    rcases member with same | inside
    · rw [same]
      exact right
    · exact wrong.before earlier inside

private theorem mem (wrong : FirstWithout P others position found) : found ∈ others :=
  List.mem_of_getElem? wrong.there

end FirstWithout

/-! ### The fields of one row -/

theorem decodeFields_eq_ok_iff {position : Nat} {fields : List (List UInt8)}
    {texts : List String} :
    decodeFields position fields = .ok texts ↔ texts.map Text.encode = fields := by
  constructor
  · intro decoded
    induction fields generalizing position texts with
    | nil =>
        cases decoded
        rfl
    | cons field others inductionHypothesis =>
        rw [decodeFields] at decoded
        cases found : Text.decode? field with
        | none =>
            rw [found] at decoded
            cases decoded
        | some text =>
            rw [found] at decoded
            cases rest : decodeFields (position + 1) others with
            | error place =>
                rw [rest] at decoded
                cases decoded
            | ok behind =>
                rw [rest] at decoded
                cases decoded
                rw [List.map_cons, Text.encode_of_decode? found, inductionHypothesis rest]
  · rintro rfl
    exact decodeFields_encode position texts

private theorem decodeFields_eq_error {position : Nat} {fields : List (List UInt8)}
    {place : Nat × Nat} (refused : decodeFields position fields = .error place) :
    ∃ inside field, FirstWithout Text.IsUtf8 fields inside field ∧
      place = (position + inside, Text.validLength field) := by
  induction fields generalizing position with
  | nil => cases refused
  | cons field others inductionHypothesis =>
      rw [decodeFields] at refused
      cases found : Text.decode? field with
      | none =>
          rw [found] at refused
          cases refused
          exact ⟨0, field, .head (Text.decode?_eq_none_iff.mp found) others, rfl⟩
      | some text =>
          rw [found] at refused
          cases rest : decodeFields (position + 1) others with
          | ok behind =>
              rw [rest] at refused
              cases refused
          | error inner =>
              rw [rest] at refused
              cases refused
              obtain ⟨inside, wrong, first, same⟩ := inductionHypothesis rest
              have right : Text.IsUtf8 field := ⟨text, Text.encode_of_decode? found⟩
              refine ⟨inside + 1, wrong, first.behind right, ?_⟩
              rw [same, Nat.add_assoc, Nat.add_comm 1]

/-! ### All rows -/

def Row.IsUtf8 (row : Row) : Prop := ∀ field, field ∈ row.fields → Text.IsUtf8 field

private theorem isUtf8_of_encoded {row : Row} {texts : List String}
    (same : texts.map Text.encode = row.fields) : row.IsUtf8 := by
  intro field member
  rw [← same] at member
  obtain ⟨text, _, encoded⟩ := List.mem_map.mp member
  exact ⟨text, encoded⟩

theorem decodeRows_eq_ok_iff {whole : List UInt8} {index : Nat} {rows : List Row}
    {texts : List (List String)} :
    decodeRows whole index rows = .ok texts ↔
      texts.map (List.map Text.encode) = rows.map Row.fields := by
  constructor
  · intro decoded
    induction rows generalizing index texts with
    | nil =>
        cases decoded
        rfl
    | cons row others inductionHypothesis =>
        rw [decodeRows] at decoded
        cases found : decodeFields 0 row.fields with
        | error place =>
            rw [found] at decoded
            cases decoded
        | ok fields =>
            rw [found] at decoded
            cases rest : decodeRows whole (index + 1) others with
            | error fault =>
                simp only [rest] at decoded
                cases decoded
            | ok behind =>
                simp only [rest] at decoded
                cases decoded
                rw [List.map_cons, List.map_cons, decodeFields_eq_ok_iff.mp found,
                  inductionHypothesis rest]
  · intro same
    exact decodeRows_encode whole index same.symm

/-- What a fault tells: the first row that is not UTF-8, and the first field of it that is
not. -/
def Fault.Tells (fault : Fault) (rows : List Row) : Prop :=
  ∃ row field, FirstWithout Row.IsUtf8 rows fault.row row ∧
    FirstWithout Text.IsUtf8 row.fields fault.field field

private theorem decodeRows_eq_error {whole : List UInt8} {index : Nat} {rows : List Row}
    {fault : Fault} (refused : decodeRows whole index rows = .error fault) :
    ∃ inside row field, fault.row = index + inside ∧
      FirstWithout Row.IsUtf8 rows inside row ∧
      FirstWithout Text.IsUtf8 row.fields fault.field field := by
  induction rows generalizing index with
  | nil => cases refused
  | cons row others inductionHypothesis =>
      rw [decodeRows] at refused
      cases found : decodeFields 0 row.fields with
      | error place =>
          rw [found] at refused
          cases refused
          obtain ⟨inside, field, first, same⟩ := decodeFields_eq_error found
          have wrong : ¬ row.IsUtf8 := fun right => first.without (right field first.mem)
          refine ⟨0, row, field, rfl, .head wrong others, ?_⟩
          rw [Nat.zero_add] at same
          rw [same]
          exact first
      | ok texts =>
          rw [found] at refused
          cases rest : decodeRows whole (index + 1) others with
          | ok behind =>
              simp only [rest] at refused
              cases refused
          | error inner =>
              simp only [rest] at refused
              cases refused
              obtain ⟨inside, wrongRow, field, same, firstRow, firstField⟩ := inductionHypothesis rest
              have right := isUtf8_of_encoded (decodeFields_eq_ok_iff.mp found)
              refine ⟨inside + 1, wrongRow, field, ?_, firstRow.behind right, firstField⟩
              rw [same, Nat.add_assoc, Nat.add_comm 1]

/-! ### A file -/

theorem read_eq_ok_iff {bytes : List UInt8} {texts : List (List String)} :
    read bytes = .ok texts ↔ texts.map (List.map Text.encode) = (rows bytes).map Row.fields :=
  decodeRows_eq_ok_iff

theorem tells_of_read {bytes : List UInt8} {fault : Fault} (refused : read bytes = .error fault) :
    fault.Tells (rows bytes) := by
  obtain ⟨inside, row, field, same, firstRow, firstField⟩ := decodeRows_eq_error refused
  rw [Nat.zero_add] at same
  rw [← same] at firstRow
  exact ⟨row, field, firstRow, firstField⟩

/-- A file cannot be read exactly if a field is not UTF-8, in whatever row. -/
theorem read_fails_iff {bytes : List UInt8} :
    (∃ fault, read bytes = .error fault) ↔
      ∃ row, row ∈ rows bytes ∧ ∃ field, field ∈ row.fields ∧ ¬ Text.IsUtf8 field := by
  constructor
  · rintro ⟨fault, refused⟩
    obtain ⟨row, field, firstRow, firstField⟩ := tells_of_read refused
    exact ⟨row, firstRow.mem, field, firstField.mem, firstField.without⟩
  · rintro ⟨row, inRows, field, inRow, wrong⟩
    cases found : read bytes with
    | error fault => exact ⟨fault, rfl⟩
    | ok texts =>
        have rowFields : row.fields ∈ texts.map (List.map Text.encode) := by
          rw [read_eq_ok_iff.mp found]
          exact List.mem_map_of_mem inRows
        obtain ⟨rowTexts, _, same⟩ := List.mem_map.mp rowFields
        exact (wrong (isUtf8_of_encoded same field inRow)).elim

/-- The two bytes of a character may stand on both sides of a mark: the file is not UTF-8,
but its only field is. -/
example : Text.decode? [0x22, 0xC3, 0x22, 0xA9] = none ∧
    read [0x22, 0xC3, 0x22, 0xA9] = .ok [["\u00E9"]] := by
  cbv

/-- A byte in the last row is told with its place. -/
example : read [0x61, 0x0A, 0x31, 0x2C, 0xFF]
    = .error { row := 1, line := 2, byte := 2, field := 1, validBytes := 0 } := by
  cbv

end RemoteQuery.Csv
