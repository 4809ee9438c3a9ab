import RemoteQuery.Sql.Window
set_option autoImplicit false

/-! Row patterns: the clause that finds runs of rows in a table.  A pattern is made of
alternatives, an alternative of symbols in sequence, and a symbol or a group may be
repeated.  What each symbol stands for is defined behind the pattern. -/

namespace RemoteQuery.Sql
open Reader

namespace RowPattern

def occurrences : Reader Unit := do
  let count := wholeNumberBelow UInt32.size
  if ← symbol? "," then count
  else
    count
    if ← symbol? "," then
      unless ← peekSymbol "\x7d" do count
  symbol "\x7d"

def repetitions : Reader Unit := whileTrue do
  match ← peek with
  | some (.symbol "*") => skip; return true
  | some (.symbol "+") => skip; return true
  | some (.placeholder "?") => skip; return true
  | some (.symbol "\x7b") => skip; occurrences; return true
  | _ => return false

/-- A symbol, one of the two ends of the table, an excluded symbol, a permutation or a
group; `group` reads what a group holds. -/
def element (group : Reader Unit) : Reader Unit := do
  match ← peek with
  | some (.symbol "^") => skip
  | some (.placeholder "$") => skip
  | some (.symbol "\x7b") =>
      skip
      symbol "-"
      void identifier
      symbol "-"
      symbol "\x7d"
  | some (.symbol "(") => parenthesised group
  | some (.word "PERMUTE" "PERMUTE") =>
      skip
      columnList
  | _ => void identifier

def sequence (group : Reader Unit) : Reader Unit :=
  void (itemsWhile (do return !((← peekSymbol ")") || (← peekSymbol "|"))) do
    element group
    repetitions)

/-- Alternatives; `depth` bounds how often one group stands inside another. -/
def alternatives : Nat → Reader Unit
  | 0 => fail
  | depth + 1 => void (itemsWhile (symbol? "|") (sequence (alternatives depth)))

def pattern : Reader Unit := do parenthesised (alternatives ((← bound) + 1))

def measure (nested : Nested) : Reader Unit := do
  void nested.expr
  let _ ← keyword? "AS"
  void identifier

def rowsPerMatch : Reader Unit := do
  unless ← keywords? ["ONE", "ROW", "PER", "MATCH"] do
    if ← keywords? ["ALL", "ROWS", "PER", "MATCH"] then
      unless ← keywords? ["SHOW", "EMPTY", "MATCHES"] do
        unless ← keywords? ["OMIT", "EMPTY", "MATCHES"] do
          void (keywords? ["WITH", "UNMATCHED", "ROWS"])

def afterMatch : Reader Unit := do
  if ← keywords? ["AFTER", "MATCH", "SKIP"] then
    unless ← keywords? ["PAST", "LAST", "ROW"] do
      unless ← keywords? ["TO", "NEXT", "ROW"] do
        keyword "TO"
        void (oneOf ["FIRST", "LAST"])
        void identifier

def definition (nested : Nested) : Reader Unit := do
  void identifier
  keyword "AS"
  void nested.expr

def read (nested : Nested) : Reader Unit := parenthesised do
  if ← keywords? ["PARTITION", "BY"] then void nested.exprs
  optionalOrdering nested
  if ← keyword? "MEASURES" then void (commaSeparated (measure nested))
  rowsPerMatch
  afterMatch
  keyword "PATTERN"
  pattern
  keyword "DEFINE"
  void (commaSeparated (definition nested))

end RowPattern

end RemoteQuery.Sql
