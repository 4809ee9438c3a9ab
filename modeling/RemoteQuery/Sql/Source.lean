import RemoteQuery.Sql.DocumentTable
import RemoteQuery.Sql.Expression
import RemoteQuery.Sql.RowPattern
set_option autoImplicit false

/-! The sources of a query: named tables, table functions, queries in parentheses,
pivots, samples and joins.  An opening parenthesis first tries to begin a query; only
when that does not read to its end does it enclose a join or a single relation. -/

namespace RemoteQuery.Sql
open Reader

namespace Source

/-- The length of time in places that allow a bare text for it. -/
def interval (nested : Nested) : Reader Unit := do
  Expression.intervalForm (Expression.beginning nested ((← bound) + 1))

def tableAlias : Reader Bool := do
  match ← optionalAlias fun k => !notTableAliases.contains k with
  | some _ =>
      if ← symbol? "(" then
        void (commaSeparated do
          void identifier
          void (attempt dataType))
        symbol ")"
      return true
  | none => return false

def aliasedExpression (nested : Nested) : Reader Unit := do
  void nested.expr
  if ← keyword? "AS" then void identifier

def pivotAggregates (nested : Nested) : Reader Unit := void (commaSeparated do
  match ← next with
  | .word _ _ => pure ()
  | _ => fail
  void (Expression.call nested (interval nested))
  void (optionalAlias fun k => k != "FOR" && !notColumnAliases.contains k))

def pivotValues (nested : Nested) : Reader Unit := do
  keyword "IN"
  symbol "("
  if ← keyword? "ANY" then optionalOrdering nested
  else if Expression.startsQuery (← peek) then void nested.query
  else void (commaSeparated (aliasedExpression nested))
  symbol ")"

def pivot (nested : Nested) : Reader Bool := do
  symbol "("
  pivotAggregates nested
  keyword "FOR"
  if ← symbol? "(" then
    void (commaSeparated (nested.expression Precedence.comparison))
    symbol ")"
  else void (nested.expression Precedence.comparison)
  pivotValues nested
  if ← keywords? ["DEFAULT", "ON", "NULL"] then parenthesised (void nested.expr)
  symbol ")"
  tableAlias

def unpivot (nested : Nested) : Reader Bool := do
  if (← oneOf? ["INCLUDE", "EXCLUDE"]).isSome then keyword "NULLS"
  symbol "("
  void nested.expr
  keyword "FOR"
  void identifier
  keyword "IN"
  void (parenthesised (commaSeparated (aliasedExpression nested)))
  symbol ")"
  tableAlias

/-- Pivots after a relation; each makes another relation of it. -/
def pivots (nested : Nested) (placed : Placed) : Reader Placed :=
  grow (fun _ => do
    match ← oneOf? ["PIVOT", "UNPIVOT"] with
    | some "PIVOT" => return some ⟨.other, ← pivot nested⟩
    | some _ => return some ⟨.other, ← unpivot nested⟩
    | none => return none) placed

def sample (nested : Nested) : Reader Unit := do
  let _ ← oneOf? ["BERNOULLI", "ROW", "SYSTEM", "BLOCK"]
  let enclosed ← symbol? "("
  let bucketed ← if enclosed then keyword? "BUCKET" else pure false
  if bucketed then
    value
    keywords ["OUT", "OF"]
    value
    afterKeyword "ON" nested.expr
  else
    match ← attempt nested.expr with
    | some _ => pure ()
    | none =>
        match ← next with
        | .word _ _ => pure ()
        | _ => fail
    void (oneOf? ["ROWS", "PERCENT"])
  if enclosed then symbol ")"
  if (← oneOf? ["REPEATABLE", "SEED"]).isSome then parenthesised value
  afterKeyword "OFFSET" nested.expr

def optionalSample (nested : Nested) : Reader Unit := do
  if (← oneOf? ["TABLESAMPLE", "SAMPLE"]).isSome then sample nested

def rows (nested : Nested) : Reader Unit := void (commaSeparated do
  let _ ← keyword? "ROW"
  void (parenthesised nested.exprs))

def optionalSettings (nested : Nested) : Reader Bool := do
  if ← keyword? "SETTINGS" then
    void (commaSeparated do
      void identifier
      symbol "="
      void nested.expr)
    return true
  else return false

def functionArguments (nested : Nested) : Reader Unit := do
  if ← symbol? ")" then return ()
  let _ ← grow (fun more => do
    if !more then return none
    else if ← optionalSettings nested then return some false
    else
      Expression.argument nested
      return some (← symbol? ",")) true
  symbol ")"

def derived (nested : Nested) : Reader Placed := do
  let query ← nested.query
  symbol ")"
  return ⟨.derived query, ← tableAlias⟩

def unnest (nested : Nested) : Reader Placed := do
  void (parenthesised nested.exprs)
  let _ ← keywords? ["WITH", "ORDINALITY"]
  let aliased ← tableAlias
  if ← keywords? ["WITH", "OFFSET"] then void columnAlias
  return ⟨.other, aliased⟩

def named (nested : Nested) : Reader Placed := do
  objectName
  if ← keyword? "PARTITION" then columnList
  if ← symbol? "(" then functionArguments nested
  let _ ← keywords? ["WITH", "ORDINALITY"]
  let aliased ← tableAlias
  if (← peekKeyword "WITH") && isSymbol "(" (← peekAt 1) then
    skip
    void (parenthesised nested.exprs)
  optionalSample nested
  let placed ← pivots nested ⟨.other, aliased⟩
  if ← keyword? "MATCH_RECOGNIZE" then
    RowPattern.read nested
    return ⟨.other, ← tableAlias⟩
  else return placed

def joins (nested : Nested) : Reader (List Relation) := do
  let joined ← grow (fun joined => do
    match ← join? with
    | some relation => return some (relation :: joined)
    | none => return none) []
  return joined.reverse
where
  constraint : Reader Unit := do
    if ← keyword? "ON" then void nested.expr
    else if ← keyword? "USING" then qualifiedColumnList
  relation : Reader Relation := do return (← nested.relation).relation
  constrained (natural : Bool) : Reader (Option Relation) := do
    let joined ← relation
    unless natural do constraint
    return some joined
  join? : Reader (Option Relation) := do
    let _ ← keyword? "GLOBAL"
    if ← keyword? "CROSS" then
      void (oneOf ["JOIN", "APPLY"])
      return some (← relation)
    else if ← keyword? "OUTER" then
      keyword "APPLY"
      return some (← relation)
    else if ← keyword? "ASOF" then
      keyword "JOIN"
      let joined ← relation
      keyword "MATCH_CONDITION"
      parenthesised (void nested.expr)
      constraint
      return some joined
    else
      let natural ← keyword? "NATURAL"
      match keywordOf (← peek) with
      | "INNER" =>
          skip
          keyword "JOIN"
          constrained natural
      | "JOIN" | "STRAIGHT_JOIN" =>
          skip
          constrained natural
      | "LEFT" | "RIGHT" =>
          skip
          let kind ← oneOf ["OUTER", "SEMI", "ANTI", "JOIN"]
          unless kind == "JOIN" do keyword "JOIN"
          constrained natural
      | "ANTI" | "SEMI" =>
          skip
          keyword "JOIN"
          constrained natural
      | "FULL" =>
          skip
          let _ ← keyword? "OUTER"
          keyword "JOIN"
          constrained natural
      | _ => if natural then fail else return none

/-- A relation with the relations joined to it, and whether the relation alone had an
alias. -/
def readPlaced (nested : Nested) : Reader (Source × Bool) := do
  let placed ← nested.relation
  let joined ← joins nested
  return (.mk placed.relation joined, placed.aliased)

def read (nested : Nested) : Reader Source := return (← readPlaced nested).1

def readMany (nested : Nested) : Reader (List Source) := commaSeparated (read nested)

/-- What an opening parenthesis encloses that is no query: a join, or one relation,
whose alias stands inside or behind but not in both places. -/
def enclosed (nested : Nested) : Reader Placed := do
  let (source, aliased) ← readPlaced nested
  symbol ")"
  match source with
  | .mk relation [] =>
      let outer ← tableAlias
      match relation with
      | .nestedJoin _ => return ⟨.nestedJoin source, outer⟩
      | _ => if aliased && outer then fail else return ⟨relation, aliased || outer⟩
  | .mk _ _ => return ⟨.nestedJoin source, ← tableAlias⟩

def readRelation (nested : Nested) : Reader Placed := do
  if ← keyword? "LATERAL" then
    if ← symbol? "(" then derived nested
    else
      objectName
      symbol "("
      unless ← symbol? ")" do
        void (commaSeparated (Expression.argument nested))
        symbol ")"
      return ⟨.other, ← tableAlias⟩
  else if ← keyword? "TABLE" then
    parenthesised (void nested.expr)
    return ⟨.other, ← tableAlias⟩
  else if ← symbol? "(" then
    match ← attempt (derived nested) with
    | some placed => pivots nested placed
    | none => enclosed nested
  else if (← peekKeyword "VALUES") && isSymbol "(" (← peekAt 1) then
    skip
    rows nested
    return ⟨.other, ← tableAlias⟩
  else if ← keyword? "UNNEST" then unnest nested
  else if ← DocumentTable.read? nested then return ⟨.other, ← tableAlias⟩
  else named nested

end Source

end RemoteQuery.Sql
