import RemoteQuery.Sql.Source
set_option autoImplicit false

/-! Queries: select lists, the clauses of a `SELECT`, set operations, common table
expressions, and the clauses that follow the body of a query. -/

namespace RemoteQuery.Sql
open Reader

namespace Query

def item (nested : Nested) : Reader Item := do
  match ← Expression.orWildcard nested with
  | .wildcard =>
      Expression.wildcardOptions nested
      return ⟨.wildcard, none⟩
  | .name text bare =>
      if bare && text.toLower == "from" then fail
      return ⟨.name text bare, ← columnAlias⟩
  | shape => return ⟨shape, ← columnAlias⟩

def items (nested : Nested) : Reader (List Item) :=
  commaSeparatedTrailing (fun k => notColumnAliases.contains k) (item nested)

def optionalTop (nested : Nested) : Reader Unit := do
  if ← keyword? "TOP" then
    if ← symbol? "(" then
      void nested.expr
      symbol ")"
    else wholeNumber
    let _ ← keyword? "PERCENT"
    void (keywords? ["WITH", "TIES"])

def optionalDistinct (nested : Nested) : Reader Unit := do
  match ← oneOf? ["ALL", "DISTINCT"] with
  | some "ALL" => if ← peekKeyword "DISTINCT" then fail
  | some _ =>
      if ← peekKeyword "ALL" then fail
      if ← keyword? "ON" then
        symbol "("
        unless ← peekSymbol ")" do void nested.exprs
        symbol ")"
  | none => return ()

def lateralViews (nested : Nested) : Reader Unit := whileTrue do
  if ← keywords? ["LATERAL", "VIEW"] then
    let _ ← keyword? "OUTER"
    void nested.expr
    objectName
    void (commaSeparated (optionalAlias fun k =>
      ! ["WHERE", "GROUP", "CLUSTER", "HAVING", "LATERAL"].contains k))
    return true
  else return false

/-- A tuple of a grouping; a single expression may stand for one if `lifted`. -/
def groupingTuple (nested : Nested) (lifted : Bool) : Reader Unit := do
  if ← symbol? "(" then
    unless ← peekSymbol ")" do void nested.exprs
    symbol ")"
  else if lifted then void nested.expr
  else fail

def groupingItem (nested : Nested) : Reader Unit := do
  if ← keywords? ["GROUPING", "SETS"] then
    void (parenthesised (commaSeparated (groupingTuple nested false)))
  else if (← oneOf? ["CUBE", "ROLLUP"]).isSome then
    void (parenthesised (commaSeparated (groupingTuple nested true)))
  else if (← peekSymbol "(") && isSymbol ")" (← peekAt 1) then
    skip
    skip
  else void nested.expr

def optionalGrouping (nested : Nested) : Reader Unit := do
  if ← keywords? ["GROUP", "BY"] then
    unless ← keyword? "ALL" do void (commaSeparated (groupingItem nested))
    whileTrue do
      if ← keyword? "WITH" then
        void (oneOf ["ROLLUP", "CUBE", "TOTALS"])
        return true
      else return false
    if ← keywords? ["GROUPING", "SETS"] then
      void (parenthesised (commaSeparated (groupingTuple nested true)))

def namedWindow (nested : Nested) : Reader Unit := do
  void identifier
  keyword "AS"
  overWindow nested (Source.interval nested)

def windowAndQualify (nested : Nested) : Reader Unit := do
  let windows := commaSeparated (namedWindow nested)
  if ← keyword? "WINDOW" then
    void windows
    afterKeyword "QUALIFY" nested.expr
  else if ← keyword? "QUALIFY" then
    void nested.expr
    afterKeyword "WINDOW" windows

def optionalHierarchy (nested : Nested) : Reader Unit := do
  let relationships := do
    keywords ["CONNECT", "BY"]
    hierarchically (void nested.exprs)
  let start := do
    keywords ["START", "WITH"]
    void nested.expr
  if ← peekKeyword "START" then
    start
    relationships
  else if ← peekKeyword "CONNECT" then
    relationships
    start

/-- A `SELECT` with its clauses; its sources may stand in front of it. -/
def select (nested : Nested) : Reader Body := do
  let leading ← if ← keyword? "FROM" then some <$> Source.readMany nested else pure none
  if leading.isSome && !(← peekKeyword "SELECT") then
    return .select [] (leading.getD [])
  keyword "SELECT"
  optionalDistinct nested
  optionalTop nested
  let selected ← if ← peekKeyword "FROM" then pure [] else items nested
  if ← keyword? "INTO" then
    let _ ← oneOf? ["TEMP", "TEMPORARY"]
    let _ ← keyword? "UNLOGGED"
    let _ ← keyword? "TABLE"
    objectName
  let sources ← match leading with
    | some sources => pure sources
    | none => if ← keyword? "FROM" then Source.readMany nested else pure []
  lateralViews nested
  afterKeyword "PREWHERE" nested.expr
  afterKeyword "WHERE" nested.expr
  optionalGrouping nested
  if ← keywords? ["CLUSTER", "BY"] then void nested.exprs
  if ← keywords? ["DISTRIBUTE", "BY"] then void nested.exprs
  if ← keywords? ["SORT", "BY"] then orderItems nested
  afterKeyword "HAVING" nested.expr
  windowAndQualify nested
  optionalHierarchy nested
  return .select selected sources

def operand (nested : Nested) : Reader Body := do
  if (← peekKeyword "SELECT") || (← peekKeyword "FROM") then select nested
  else if ← symbol? "(" then
    let query ← nested.query
    symbol ")"
    return .parenthesised query
  else if (← oneOf? ["VALUES", "VALUE"]).isSome then
    Source.rows nested
    return .other
  else if ← keyword? "TABLE" then
    objectName
    return .other
  else fail

/-- The set operators of each rank: `INTERSECT` binds tighter than the others. -/
def setOperators : Nat → List String
  | 0 => ["INTERSECT"]
  | _ => ["UNION", "EXCEPT", "MINUS"]

/-- Whether duplicates are kept, and whether columns are matched by name; the answer
says whether duplicates are explicitly dropped. -/
def setQuantifier : Reader Bool := do
  let byName := keywords? ["BY", "NAME"]
  if ← byName then return false
  match ← oneOf? ["ALL", "DISTINCT"] with
  | some k =>
      void byName
      return k == "DISTINCT"
  | none => return false

/-- A body joined by set operators of the given rank and below, from left to right. -/
def body (nested : Nested) : Nat → Reader Body
  | 0 => operand nested
  | rank + 1 => do
      let first ← body nested rank
      grow (fun left => do
        match ← oneOf? (setOperators rank) with
        | some _ =>
            void setQuantifier
            return some (.setOperation left (← body nested rank))
        | none => return none) first

def columnDefinitions : Reader Unit := do
  if ← symbol? "(" then
    void (commaSeparated do
      void identifier
      void (attempt dataType))
    symbol ")"

def tableExpression (nested : Nested) : Reader Query := do
  void identifier
  unless ← keyword? "AS" do
    columnDefinitions
    keyword "AS"
  let query ← parenthesised nested.query
  if ← keyword? "FROM" then void identifier
  return query

def offsetValue (nested : Nested) : Reader Unit := do
  void nested.expr
  void (oneOf? ["ROW", "ROWS"])

def limits (nested : Nested) : Reader Unit := do
  let offset ← keyword? "OFFSET"
  if offset then offsetValue nested
  if ← keyword? "LIMIT" then
    let unlimited ← keyword? "ALL"
    unless unlimited do void nested.expr
    let comma ← if offset || unlimited then pure false else symbol? ","
    if comma then void nested.expr
    else
      if ← keyword? "BY" then void nested.exprs
      unless offset do
        if ← keyword? "OFFSET" then offsetValue nested

def fetch : Reader Unit := do
  let _ ← oneOf? ["FIRST", "NEXT"]
  if (← oneOf? ["ROW", "ROWS"]).isNone then
    value
    let _ ← keyword? "PERCENT"
    let _ ← oneOf? ["ROW", "ROWS"]
  unless ← keyword? "ONLY" do
    void (keywords? ["WITH", "TIES"])

def forClauses : Reader Unit := whileTrue do
  if ← keyword? "FOR" then
    match ← oneOf ["UPDATE", "SHARE", "BROWSE", "JSON", "XML"] with
    | "BROWSE" => return false
    | "JSON" | "XML" =>
        void (oneOf ["AUTO", "PATH", "RAW", "EXPLICIT"])
        return false
    | _ =>
        afterKeyword "OF" objectName
        unless ← keyword? "NOWAIT" do
          void (keywords? ["SKIP", "LOCKED"])
        return true
  else return false

def assignment (nested : Nested) : Reader Unit := do
  if ← peekSymbol "(" then columnList else objectName
  symbol "="
  void nested.expr

def anyAlias : Reader Unit := void (optionalAlias fun _ => true)

/-- `PIVOT` in a pipe: the pivoted column is a name, and the alias has no columns. -/
def pipedPivot (nested : Nested) : Reader Unit := do
  symbol "("
  Source.pivotAggregates nested
  keyword "FOR"
  objectName
  Source.pivotValues nested
  symbol ")"
  anyAlias

def pipedUnpivot : Reader Unit := do
  symbol "("
  void identifier
  keyword "FOR"
  void identifier
  keyword "IN"
  columnList
  symbol ")"
  anyAlias

def pipeStep (nested : Nested) : Reader Unit := do
  let aggregated : Reader Unit := do
    void nested.expr
    void columnAlias
    orderOptions
  let queries := void (commaSeparated (parenthesised nested.query))
  let joining := ["JOIN", "INNER", "LEFT", "RIGHT", "FULL", "CROSS"]
  if joining.contains (keywordOf (← peek)) then
    match ← Source.joins nested with
    | [_] => return ()
    | _ => fail
  match ← oneOf ["SELECT", "EXTEND", "SET", "DROP", "AS", "WHERE", "LIMIT", "AGGREGATE", "ORDER",
      "TABLESAMPLE", "RENAME", "UNION", "INTERSECT", "EXCEPT", "CALL", "PIVOT", "UNPIVOT"] with
  | "SELECT" | "EXTEND" => void (commaSeparated (item nested))
  | "SET" => void (commaSeparated (assignment nested))
  | "DROP" => void (commaSeparated identifier)
  | "AS" => void identifier
  | "WHERE" => void nested.expr
  | "LIMIT" =>
      void nested.expr
      afterKeyword "OFFSET" nested.expr
  | "AGGREGATE" =>
      unless ← peekKeyword "GROUP" do void (commaSeparated aggregated)
      if ← keywords? ["GROUP", "BY"] then void (commaSeparated aggregated)
  | "ORDER" =>
      keyword "BY"
      orderItems nested
  | "RENAME" =>
      void (commaSeparated do
        void identifier
        let _ ← keyword? "AS"
        void identifier)
  | "TABLESAMPLE" => Source.sample nested
  | "UNION" =>
      void setQuantifier
      queries
  | "INTERSECT" | "EXCEPT" => if ← setQuantifier then queries else fail
  | "CALL" =>
      objectName
      void (Expression.call nested (Source.interval nested))
      anyAlias
  | "PIVOT" => pipedPivot nested
  | "UNPIVOT" => pipedUnpivot
  | _ => fail

def pipes (nested : Nested) : Reader Unit := whileTrue do
  if ← symbol? "|>" then
    pipeStep nested
    return true
  else return false

/-- A query; `change` reads a data-changing statement that stands as its body. -/
def read (nested : Nested) (change : Reader Unit) : Reader Query := do
  let tables ← if ← keyword? "WITH" then do
      let _ ← keyword? "RECURSIVE"
      commaSeparated (tableExpression nested)
    else pure []
  if ["INSERT", "UPDATE", "DELETE", "MERGE"].contains (keywordOf (← peek)) then
    change
    return .mk tables .other
  let body ← body nested 2
  if ← keywords? ["ORDER", "BY"] then
    orderItems nested
    if ← keyword? "INTERPOLATE" then
      if ← symbol? "(" then
        unless ← peekSymbol ")" do
          void (commaSeparated do
            void identifier
            afterKeyword "AS" nested.expr)
        symbol ")"
  limits nested
  let _ ← Source.optionalSettings nested
  afterKeyword "FETCH" fetch
  forClauses
  if ← keyword? "FORMAT" then
    unless ← keyword? "NULL" do void identifier
  pipes nested
  return .mk tables body

end Query

end RemoteQuery.Sql
