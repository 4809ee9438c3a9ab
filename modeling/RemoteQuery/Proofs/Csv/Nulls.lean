import RemoteQuery.Proofs.Csv
set_option autoImplicit false

/-! Reading tables with nulls.  A null is written as nothing at all, so that it is read as
the empty text.  In a table of one column the line of a null has no byte, and the row is
passed over; every other row is read back. -/

namespace RemoteQuery.Csv

/-! ### Writing -/

/-- A value as it is written: a text in quotation marks, or nothing for a null. -/
def cell : Option String → List Char
  | none => []
  | some text => quoted text

def cellLine (row : List (Option String)) : List Char := [','].intercalate (row.map cell)

/-- The text of a table: every row is a line with a line feed at its end. -/
def table (rows : List (List (Option String))) : List Char :=
  rows.flatMap fun row => cellLine row ++ ['\n']

def texts (row : List (Option String)) : List String := row.map fun value => value.getD ""

def tableBytes (header : List String) (rows : List (List (Option String))) : List UInt8 :=
  Text.encode (String.ofList (table (header.map some :: rows)))

/-- Rows under a header, one value for each column. -/
def Aligned (header : List String) (rows : List (List (Option String))) : Prop :=
  ∀ row, row ∈ rows → row.length = header.length

/-- Anything is written of a row, unless it is a null alone. -/
def isWritten (row : List (Option String)) : Bool := row != [none]

private theorem cellLine_cons (value next : Option String) (others : List (Option String)) :
    cellLine (value :: next :: others) = cell value ++ ',' :: cellLine (next :: others) := by
  rw [cellLine, cellLine, List.map_cons, List.map_cons, List.intercalate_cons_cons]
  simp only [List.append_assoc, List.cons_append, List.nil_append]

private theorem cellLine_single (value : Option String) : cellLine [value] = cell value :=
  List.append_nil (cell value)

private theorem bytesOf_table (row : List (Option String)) (rows : List (List (Option String))) :
    Text.bytesOf (table (row :: rows))
      = Text.bytesOf (cellLine row) ++ lineFeed :: Text.bytesOf (table rows) := by
  rw [table, List.flatMap_cons, Text.bytesOf_append, Text.bytesOf_append, List.append_assoc]
  rfl

theorem Aligned.filled {header : List String} {rows : List (List (Option String))}
    (aligned : Aligned header rows) (headed : header ≠ []) :
    ∀ row, row ∈ rows → row ≠ [] := by
  intro row member empty
  have length := aligned row member
  rw [empty] at length
  exact headed (List.length_eq_zero_iff.mp length.symm)

/-- Nothing is written of a row only where a null stands in a single column. -/
theorem Aligned.filter_isWritten {header : List String} {rows : List (List (Option String))}
    (aligned : Aligned header rows) :
    rows.filter isWritten = rows ↔ ¬ (header.length = 1 ∧ [none] ∈ rows) := by
  rw [List.filter_eq_self]
  constructor
  · rintro written ⟨_, member⟩
    exact absurd (written [none] member) (by decide)
  · intro kept row member
    rw [isWritten, bne_iff_ne]
    intro alone
    rw [alone] at member
    exact kept ⟨(aligned [none] member).symm, member⟩

private theorem texts_some (header : List String) : texts (header.map some) = header := by
  rw [texts, List.map_map]
  exact List.map_id header

/-! ### Reading one row -/

private theorem endsRow_lineFeed (behind : List UInt8) : EndsRow (lineFeed :: behind) := by
  intro byte first
  cases first
  rfl

private theorem encode_empty : Text.encode "" = [] := by
  rw [Text.encode_eq_bytesOf]
  rfl

private theorem restOfRow_cellLine (value : Option String) (others : List (Option String))
    (behind : List UInt8) :
    restOfRow .front (Text.bytesOf (cellLine (value :: others)) ++ lineFeed :: behind)
      = { field := Text.encode (value.getD ""), fields := (texts others).map Text.encode
          behind := behind } := by
  induction others generalizing value with
  | nil =>
      rw [cellLine_single]
      cases value with
      | none =>
          have ends : step .front lineFeed = .endRow := rfl
          rw [cell, Text.bytesOf, List.flatMap_nil, List.nil_append, restOfRow, ends,
            Option.getD_none, encode_empty]
          rfl
      | some text =>
          rw [cell, restOfRow_quoted, restOfRow_ended (endsRow_lineFeed behind), List.append_nil]
          rfl
  | cons next others inductionHypothesis =>
      have separator : Text.bytesOf (',' :: cellLine (next :: others))
          = comma :: Text.bytesOf (cellLine (next :: others)) := rfl
      rw [cellLine_cons, Text.bytesOf_append, List.append_assoc, separator, List.cons_append]
      cases value with
      | none =>
          have closes : step .front comma = .endField := rfl
          rw [cell, Text.bytesOf, List.flatMap_nil, List.nil_append, restOfRow, closes]
          simp only [inductionHypothesis next, Option.getD_none, encode_empty]
          rfl
      | some text =>
          have closes : step .afterMark comma = .endField := rfl
          rw [cell, restOfRow_quoted, restOfRow, closes]
          simp only [inductionHypothesis next, List.append_nil]
          rfl

theorem exists_cellLine_bytes {value : Option String} {others : List (Option String)}
    (written : isWritten (value :: others) = true) :
    ∃ byte rest, Text.bytesOf (cellLine (value :: others)) = byte :: rest ∧
      isRowEnd byte = false := by
  cases value with
  | some text =>
      refine ⟨mark, ?_⟩
      cases others with
      | nil =>
          rw [cellLine_single, cell, quoted, Text.bytesOf_cons]
          exact ⟨_, rfl, rfl⟩
      | cons next others =>
          rw [cellLine_cons, cell, quoted, List.cons_append, Text.bytesOf_cons]
          exact ⟨_, rfl, rfl⟩
  | none =>
      cases others with
      | nil => exact absurd rfl (bne_iff_ne.mp written)
      | cons next others =>
          rw [cellLine_cons, cell, List.nil_append, Text.bytesOf_cons]
          exact ⟨comma, _, rfl, rfl⟩

/-! ### Reading all rows -/

private theorem rowsFrom_written_row (remaining : List UInt8) {value : Option String}
    {others : List (Option String)} (behind : List UInt8)
    (written : isWritten (value :: others) = true) :
    rowsFrom remaining (Text.bytesOf (cellLine (value :: others)) ++ lineFeed :: behind)
      = { fields := (texts (value :: others)).map Text.encode, remaining := remaining }
        :: rowsFrom behind behind := by
  have row := restOfRow_cellLine value others behind
  obtain ⟨byte, rest, bytes, notEnd⟩ := exists_cellLine_bytes written
  rw [bytes, List.cons_append] at row ⊢
  rw [rowsFrom, notEnd, if_neg Bool.false_ne_true]
  simp only [row, texts, List.map_cons]

/-- The rows of a table are read in their order, but for those of a null alone. -/
theorem rowsFrom_table (remaining : List UInt8) {rows : List (List (Option String))}
    (filled : ∀ row, row ∈ rows → row ≠ []) :
    (rowsFrom remaining (Text.bytesOf (table rows))).map Row.fields
      = ((rows.filter isWritten).map texts).map (List.map Text.encode) := by
  induction rows generalizing remaining with
  | nil => rw [table, List.flatMap_nil, Text.bytesOf, List.flatMap_nil, rowsFrom]; rfl
  | cons row rows inductionHypothesis =>
      have onward (left : List UInt8) :=
        inductionHypothesis left fun row member => filled row (List.mem_cons_of_mem _ member)
      rw [bytesOf_table]
      cases written : isWritten row with
      | false =>
          have nothing : Text.bytesOf (cellLine row) = [] := by
            rw [bne_eq_false_iff_eq.mp written]
            rfl
          rw [nothing, List.nil_append, rowsFrom_rowEnd remaining lineFeed _ rfl, onward,
            List.filter_cons_of_neg (Bool.eq_false_iff.mp written)]
      | true =>
          cases row with
          | nil => exact (filled [] List.mem_cons_self rfl).elim
          | cons value others =>
              rw [rowsFrom_written_row remaining _ written, List.map_cons, onward,
                List.filter_cons_of_pos written]
              rfl

theorem read_table {header : List String} {rows : List (List (Option String))}
    (headed : header ≠ []) (filled : ∀ row, row ∈ rows → row ≠ []) :
    read (tableBytes header rows) = .ok (header :: (rows.filter isWritten).map texts) := by
  obtain ⟨name, names, same⟩ := List.exists_cons_of_ne_nil headed
  have written : isWritten (header.map some) = true := by
    rw [same]
    cases names <;> rfl
  have allFilled : ∀ row, row ∈ header.map some :: rows → row ≠ [] := by
    intro row member
    rcases List.mem_cons.mp member with first | later
    · rw [first, same]
      exact List.cons_ne_nil _ _
    · exact filled row later
  have unmarked : dropMark (Text.bytesOf (table (header.map some :: rows)))
      = Text.bytesOf (table (header.map some :: rows)) := by
    rw [same, bytesOf_table]
    cases names with
    | nil => rfl
    | cons next names => rfl
  have found := rowsFrom_table (Text.bytesOf (table (header.map some :: rows))) allFilled
  rw [List.filter_cons_of_pos written, List.map_cons, texts_some] at found
  rw [tableBytes, Text.encode_ofList, read, Csv.rows, unmarked]
  exact decodeRows_encode _ 0 found

end RemoteQuery.Csv
