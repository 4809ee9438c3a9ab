import RemoteQuery.Csv
import RemoteQuery.Proofs.Text.Utf8
set_option autoImplicit false

/-! Reading what has been written with every field in quotation marks.  Rows, commas, marks
and line ends inside of a field all come back as they were, as long as no row is without a
field. -/

namespace RemoteQuery.Csv

/-! ### Writing -/

def doubled (text : List Char) : List Char :=
  text.flatMap fun c => if c = '"' then ['"', '"'] else [c]

def quoted (text : String) : List Char := '"' :: (doubled text.toList ++ ['"'])

def line (row : List String) : List Char := [','].intercalate (row.map quoted)

inductive LineEnd where
  | lineFeed
  | carriageReturnLineFeed
  deriving Repr, DecidableEq

def LineEnd.text : LineEnd → List Char
  | .lineFeed => ['\n']
  | .carriageReturnLineFeed => ['\r', '\n']

/-- The texts of a list of rows: every row is a line with its own end, which may be
missing behind the last one. -/
inductive Written : List (List String) → List Char → Prop where
  | nothing : Written [] []
  | unended (row : List String) : Written [row] (line row)
  | row (row : List String) (ending : LineEnd) {rows : List (List String)} {text : List Char}
      (behind : Written rows text) : Written (row :: rows) (line row ++ (ending.text ++ text))

private theorem doubled_cons (c : Char) (rest : List Char) :
    doubled (c :: rest) = (if c = '"' then ['"', '"'] else [c]) ++ doubled rest :=
  List.flatMap_cons

private theorem line_single (field : String) : line [field] = quoted field :=
  List.append_nil (quoted field)

private theorem line_cons (field next : String) (others : List String) :
    line (field :: next :: others) = quoted field ++ ',' :: line (next :: others) := by
  rw [line, line, List.map_cons, List.map_cons, List.intercalate_cons_cons]
  simp only [List.append_assoc, List.cons_append, List.nil_append]

private theorem bytesOf_quoted (text : String) (rest : List UInt8) :
    Text.bytesOf (quoted text) ++ rest
      = mark :: (Text.bytesOf (doubled text.toList) ++ mark :: rest) := by
  rw [quoted, Text.bytesOf_cons, Text.bytesOf_append, List.append_assoc, List.append_assoc]
  rfl

/-! ### Reading one row -/

private theorem restOfRow_keep (bytes rest : List UInt8) (unmarked : mark ∉ bytes) :
    restOfRow .quoted (bytes ++ rest)
      = { restOfRow .quoted rest with field := bytes ++ (restOfRow .quoted rest).field } := by
  induction bytes with
  | nil => rfl
  | cons byte others inductionHypothesis =>
      have different : byte ≠ mark := fun same => unmarked (same ▸ List.mem_cons_self)
      have stays : step .quoted byte = .keep .quoted := if_neg different
      have onward := inductionHypothesis (fun member => unmarked (List.mem_cons_of_mem _ member))
      rw [List.cons_append, restOfRow, stays]
      simp only [onward]
      rfl

theorem restOfRow_doubled (text : List Char) (rest : List UInt8) :
    restOfRow .quoted (Text.bytesOf (doubled text) ++ mark :: rest)
      = { restOfRow .afterMark rest with
          field := Text.bytesOf text ++ (restOfRow .afterMark rest).field } := by
  induction text with
  | nil => rfl
  | cons c others inductionHypothesis =>
      rw [doubled_cons, Text.bytesOf_append, Text.bytesOf_cons, List.append_assoc]
      by_cases isMark : c = '"'
      · have markByte : String.utf8EncodeChar '"' = [mark] := rfl
        rw [isMark, if_pos rfl]
        change restOfRow .quoted
          (mark :: mark :: (Text.bytesOf (doubled others) ++ mark :: rest)) = _
        have opens : step .quoted mark = .skip .afterMark := rfl
        have again : step .afterMark mark = .keep .quoted := rfl
        rw [restOfRow, opens]
        simp only [restOfRow, again, inductionHypothesis, markByte]
        rfl
      · have unmarked : mark ∉ String.utf8EncodeChar c :=
          @Text.not_mem_utf8EncodeChar c '"' (by decide) isMark
        rw [if_neg isMark, show Text.bytesOf [c] = String.utf8EncodeChar c from
          List.append_nil _, restOfRow_keep _ _ unmarked, inductionHypothesis]
        simp only [List.append_assoc]

theorem restOfRow_quoted (text : String) (rest : List UInt8) :
    restOfRow .front (Text.bytesOf (quoted text) ++ rest)
      = { restOfRow .afterMark rest with
          field := Text.encode text ++ (restOfRow .afterMark rest).field } := by
  have opens : step .front mark = .skip .quoted := rfl
  rw [bytesOf_quoted, restOfRow, opens, Text.encode_eq_bytesOf]
  exact restOfRow_doubled text.toList rest

def EndsRow (bytes : List UInt8) : Prop := ∀ byte, bytes.head? = some byte → isRowEnd byte = true

theorem restOfRow_ended {bytes : List UInt8} (ends : EndsRow bytes) :
    restOfRow .afterMark bytes = { field := [], fields := [], behind := bytes.tail } := by
  cases bytes with
  | nil => rfl
  | cons byte rest =>
      have isEnd : isRowEnd byte = true := ends byte rfl
      have notMark : byte ≠ mark := by
        intro same
        rw [same] at isEnd
        cases isEnd
      have notComma : byte ≠ comma := by
        intro same
        rw [same] at isEnd
        cases isEnd
      have closes : step .afterMark byte = .endRow := by
        rw [step, if_neg notMark, stepPlain, if_neg notComma, if_pos isEnd]
      rw [restOfRow, closes]
      rfl

private theorem restOfRow_line (field : String) (others : List String) {behind : List UInt8}
    (ends : EndsRow behind) :
    restOfRow .front (Text.bytesOf (line (field :: others)) ++ behind)
      = { field := Text.encode field, fields := others.map Text.encode
          behind := behind.tail } := by
  induction others generalizing field with
  | nil =>
      rw [line_single, restOfRow_quoted, restOfRow_ended ends, List.append_nil]
      rfl
  | cons next others inductionHypothesis =>
      have separator : Text.bytesOf (',' :: line (next :: others))
          = comma :: Text.bytesOf (line (next :: others)) := rfl
      have closes : step .afterMark comma = .endField := rfl
      rw [line_cons, Text.bytesOf_append, List.append_assoc, restOfRow_quoted, separator,
        List.cons_append, restOfRow, closes]
      simp only [inductionHypothesis next, List.append_nil]
      rfl

/-! ### Reading all rows -/

theorem rowsFrom_rowEnd (remaining : List UInt8) (byte : UInt8) (rest : List UInt8)
    (isEnd : isRowEnd byte = true) :
    rowsFrom remaining (byte :: rest) = rowsFrom remaining rest := by
  rw [rowsFrom, if_pos isEnd]

private theorem exists_line_bytes (field : String) (others : List String) :
    ∃ rest, Text.bytesOf (line (field :: others)) = mark :: rest := by
  cases others with
  | nil =>
      rw [line_single, quoted, Text.bytesOf_cons]
      exact ⟨_, rfl⟩
  | cons next others =>
      rw [line_cons, quoted, List.cons_append, Text.bytesOf_cons]
      exact ⟨_, rfl⟩

private theorem rowsFrom_line (remaining : List UInt8) (field : String) (others : List String)
    {behind : List UInt8} (ends : EndsRow behind) :
    rowsFrom remaining (Text.bytesOf (line (field :: others)) ++ behind)
      = { fields := (field :: others).map Text.encode, remaining := remaining }
        :: rowsFrom behind.tail behind.tail := by
  have row := restOfRow_line field others ends
  obtain ⟨rest, marked⟩ := exists_line_bytes field others
  have notEnd : isRowEnd mark = false := rfl
  rw [marked, List.cons_append] at row ⊢
  rw [rowsFrom, notEnd, if_neg Bool.false_ne_true]
  simp only [row, List.map_cons]

private theorem rowsFrom_lineEnd (remaining : List UInt8) (ending : LineEnd) (text : List Char) :
    ∃ left, rowsFrom remaining (Text.bytesOf (ending.text ++ text)).tail
      = rowsFrom left (Text.bytesOf text) := by
  cases ending with
  | lineFeed => exact ⟨remaining, rfl⟩
  | carriageReturnLineFeed =>
      exact ⟨remaining, rowsFrom_rowEnd remaining lineFeed (Text.bytesOf text) rfl⟩

private theorem endsRow_lineEnd (ending : LineEnd) (text : List Char) :
    EndsRow (Text.bytesOf (ending.text ++ text)) := by
  intro byte first
  cases ending with
  | lineFeed =>
      cases first
      rfl
  | carriageReturnLineFeed =>
      cases first
      rfl

/-- The fields of written rows are read as they are, wherever the reading begins. -/
theorem rowsFrom_written (remaining : List UInt8) {rows : List (List String)}
    {text : List Char} (written : Written rows text) (filled : ∀ row, row ∈ rows → row ≠ []) :
    (rowsFrom remaining (Text.bytesOf text)).map Row.fields
      = rows.map (List.map Text.encode) := by
  induction written generalizing remaining with
  | nothing => rw [Text.bytesOf, List.flatMap_nil, rowsFrom]; rfl
  | unended row =>
      cases row with
      | nil => exact (filled [] List.mem_cons_self rfl).elim
      | cons field others =>
          have ends : EndsRow [] := fun byte none => by cases none
          have read := rowsFrom_line remaining field others ends
          rw [List.append_nil] at read
          rw [read, List.tail_nil, rowsFrom]
          rfl
  | @row row ending rows text behind inductionHypothesis =>
      cases row with
      | nil => exact (filled [] List.mem_cons_self rfl).elim
      | cons field others =>
          have onward (left : List UInt8) :=
            inductionHypothesis left fun row member => filled row (List.mem_cons_of_mem _ member)
          rw [Text.bytesOf_append,
            rowsFrom_line remaining field others (endsRow_lineEnd ending text), List.map_cons]
          obtain ⟨left, same⟩ := rowsFrom_lineEnd
            (Text.bytesOf (ending.text ++ text)).tail ending text
          rw [same, onward left]
          rfl

/-! ### Texts -/

theorem decodeFields_encode (position : Nat) (row : List String) :
    decodeFields position (row.map Text.encode) = .ok row := by
  induction row generalizing position with
  | nil => rfl
  | cons field others inductionHypothesis =>
      rw [List.map_cons, decodeFields, Text.decode?_encode]
      simp only [inductionHypothesis]
      rfl

theorem decodeRows_encode (whole : List UInt8) (index : Nat) {found : List Row}
    {rows : List (List String)} (same : found.map Row.fields = rows.map (List.map Text.encode)) :
    decodeRows whole index found = .ok rows := by
  induction found generalizing index rows with
  | nil =>
      rw [List.map_eq_nil_iff.mp same.symm]
      rfl
  | cons row others inductionHypothesis =>
      cases rows with
      | nil => cases same
      | cons texts rows =>
          obtain ⟨sameRow, sameOthers⟩ := List.cons.inj same
          rw [decodeRows, sameRow, decodeFields_encode]
          simp only [inductionHypothesis (index + 1) sameOthers]
          rfl

private theorem dropMark_written {row : List String} {rows : List (List String)} {text : List Char}
    (written : Written (row :: rows) text) (filled : row ≠ []) :
    dropMark (Text.bytesOf text) = Text.bytesOf text := by
  cases row with
  | nil => exact (filled rfl).elim
  | cons field others =>
      obtain ⟨rest, marked⟩ := exists_line_bytes field others
      cases written with
      | unended => rw [marked]; rfl
      | row _ ending behind => rw [Text.bytesOf_append, marked]; rfl

theorem read_written {rows : List (List String)} {text : List Char} (written : Written rows text)
    (filled : ∀ row, row ∈ rows → row ≠ []) :
    read (Text.encode (String.ofList text)) = .ok rows := by
  have whole : dropMark (Text.bytesOf text) = Text.bytesOf text := by
    cases rows with
    | nil =>
        cases written
        rfl
    | cons row rows => exact dropMark_written written (filled row List.mem_cons_self)
  rw [Text.encode_ofList, read, Csv.rows, whole]
  exact decodeRows_encode _ 0 (rowsFrom_written _ written filled)

end RemoteQuery.Csv
