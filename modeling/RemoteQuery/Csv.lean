import RemoteQuery.Text.Utf8
set_option autoImplicit false

/-! Comma-separated values.  A row ends at a line feed or a carriage return, and lines
without a byte between their ends are no rows.  A field may stand in quotation marks, in
which commas and line ends are kept and a doubled mark stands for one; behind the closing
mark the field goes on as a plain one.  A byte order mark at the very front is left out.
Fields are separated as bytes and read as UTF-8 afterwards. -/

namespace RemoteQuery.Csv

def comma : UInt8 := 0x2C

def mark : UInt8 := 0x22

def lineFeed : UInt8 := 0x0A

def isRowEnd (byte : UInt8) : Bool := byte == lineFeed || byte == 0x0D

inductive Spot where
  | front
  | plain
  | quoted
  /-- Behind a quotation mark in a quoted field: half of a doubled mark, or the end. -/
  | afterMark
  deriving Repr, DecidableEq

inductive Step where
  | keep (spot : Spot)
  | skip (spot : Spot)
  | endField
  | endRow
  deriving Repr, DecidableEq

def stepPlain (byte : UInt8) : Step :=
  if byte = comma then .endField else if isRowEnd byte then .endRow else .keep .plain

def step (spot : Spot) (byte : UInt8) : Step :=
  match spot with
  | .front => if byte = mark then .skip .quoted else stepPlain byte
  | .plain => stepPlain byte
  | .quoted => if byte = mark then .skip .afterMark else .keep .quoted
  | .afterMark => if byte = mark then .keep .quoted else stepPlain byte

/-- The rest of a row: what is left of the current field, the fields behind it, and the
bytes behind the row and its end. -/
structure RowRest where
  field : List UInt8
  fields : List (List UInt8)
  behind : List UInt8
  deriving Repr

def restOfRow : Spot → List UInt8 → RowRest
  | _, [] => { field := [], fields := [], behind := [] }
  | spot, byte :: rest =>
      match step spot byte with
      | .keep next =>
          let row := restOfRow next rest
          { row with field := byte :: row.field }
      | .skip next => restOfRow next rest
      | .endField =>
          let row := restOfRow .front rest
          { row with field := [], fields := row.field :: row.fields }
      | .endRow => { field := [], fields := [], behind := rest }

theorem restOfRow_behind_length (spot : Spot) (bytes : List UInt8) :
    (restOfRow spot bytes).behind.length ≤ bytes.length := by
  induction bytes generalizing spot with
  | nil => simp [restOfRow]
  | cons byte rest inductionHypothesis =>
      unfold restOfRow
      split
      · exact Nat.le_succ_of_le (inductionHypothesis _)
      · exact Nat.le_succ_of_le (inductionHypothesis _)
      · exact Nat.le_succ_of_le (inductionHypothesis _)
      · exact Nat.le_succ _

theorem restOfRow_behind_length_lt (spot : Spot) (byte : UInt8) (rest : List UInt8) :
    (restOfRow spot (byte :: rest)).behind.length < (byte :: rest).length := by
  unfold restOfRow
  split
  · exact Nat.lt_succ_of_le (restOfRow_behind_length _ _)
  · exact Nat.lt_succ_of_le (restOfRow_behind_length _ _)
  · exact Nat.lt_succ_of_le (restOfRow_behind_length _ _)
  · exact Nat.lt_succ_self _

/-- A row of fields, and the bytes that were left when the row before it ended. -/
structure Row where
  fields : List (List UInt8)
  remaining : List UInt8
  deriving Repr

/-- The rows of the bytes, where `remaining` is what was left when the row before them
ended. -/
def rowsFrom (remaining : List UInt8) : List UInt8 → List Row
  | [] => []
  | byte :: rest =>
      if isRowEnd byte then rowsFrom remaining rest
      else
        let row := restOfRow .front (byte :: rest)
        { fields := row.field :: row.fields, remaining := remaining }
          :: rowsFrom row.behind row.behind
termination_by bytes => bytes.length
decreasing_by
  · simp
  · exact restOfRow_behind_length_lt .front byte rest

def dropMark : List UInt8 → List UInt8
  | 0xEF :: 0xBB :: 0xBF :: rest => rest
  | bytes => bytes

def rows (bytes : List UInt8) : List Row := rowsFrom bytes (dropMark bytes)

/-- A field that is not UTF-8: its place, the place where its row begins, and how many of
its bytes are. -/
structure Fault where
  row : Nat
  line : Nat
  byte : Nat
  field : Nat
  validBytes : Nat
  deriving Repr, DecidableEq

def Fault.message (fault : Fault) : String :=
  s!"CSV parse error: record {fault.row} (line {fault.line}, field: {fault.field}, "
    ++ s!"byte: {fault.byte}): invalid utf-8: invalid UTF-8 in field {fault.field} "
    ++ s!"near byte index {fault.validBytes}"

/-- The fields as texts, or the position of the first one that is none and the count of
its bytes that are. -/
def decodeFields : Nat → List (List UInt8) → Except (Nat × Nat) (List String)
  | _, [] => .ok []
  | position, field :: rest =>
      match Text.decode? field with
      | none => .error (position, Text.validLength field)
      | some text => (decodeFields (position + 1) rest).map (text :: ·)

def countLineFeeds (bytes : List UInt8) : Nat := bytes.countP fun byte => byte == lineFeed

/-- The rows as texts, where `whole` is the file and `index` the number of rows before. -/
def decodeRows (whole : List UInt8) : Nat → List Row → Except Fault (List (List String))
  | _, [] => .ok []
  | index, row :: rest =>
      match decodeFields 0 row.fields with
      | .error (field, validBytes) =>
          .error {
            row := index
            line := countLineFeeds whole - countLineFeeds row.remaining + 1
            byte := whole.length - row.remaining.length
            field := field
            validBytes := validBytes }
      | .ok texts => (decodeRows whole (index + 1) rest).map (texts :: ·)

def read (bytes : List UInt8) : Except Fault (List (List String)) :=
  decodeRows bytes 0 (rows bytes)

end RemoteQuery.Csv
