import RemoteQuery.Sql.DataType
set_option autoImplicit false

/-! Orderings and windows: `ORDER BY` items, window specifications and frames. -/

namespace RemoteQuery.Sql
open Reader

def orderOptions : Reader Unit := do
  let _ ← oneOf? ["ASC", "DESC"]
  if ← keyword? "NULLS" then void (oneOf ["FIRST", "LAST"])

def orderItem (nested : Nested) : Reader Unit := do
  let _ ← nested.expr
  orderOptions
  if ← keywords? ["WITH", "FILL"] then
    afterKeyword "FROM" nested.expr
    afterKeyword "TO" nested.expr
    afterKeyword "STEP" nested.expr

def orderItems (nested : Nested) : Reader Unit := void (commaSeparated (orderItem nested))

def optionalOrdering (nested : Nested) : Reader Unit := do
  if ← keywords? ["ORDER", "BY"] then orderItems nested

def frameBound (nested : Nested) (interval : Reader Unit) : Reader Unit := do
  if ← keywords? ["CURRENT", "ROW"] then return ()
  unless ← keyword? "UNBOUNDED" do
    match ← peek with
    | some (.quoted _) => interval
    | _ => void nested.expr
  void (oneOf ["PRECEDING", "FOLLOWING"])

def frame (nested : Nested) (interval : Reader Unit) : Reader Unit := do
  let _ ← oneOf ["ROWS", "RANGE", "GROUPS"]
  if ← keyword? "BETWEEN" then
    frameBound nested interval
    keyword "AND"
    frameBound nested interval
  else frameBound nested interval

/-- What stands between the parentheses of a window, the closing one included. -/
def windowBody (nested : Nested) (interval : Reader Unit) : Reader Unit := do
  if isPlainWord (← peek) then skip
  if ← keywords? ["PARTITION", "BY"] then void nested.exprs
  optionalOrdering nested
  unless ← symbol? ")" do
    frame nested interval
    symbol ")"

def overWindow (nested : Nested) (interval : Reader Unit) : Reader Unit := do
  if ← symbol? "(" then windowBody nested interval
  else void identifier

end RemoteQuery.Sql
