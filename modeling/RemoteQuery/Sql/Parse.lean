import RemoteQuery.Sql.Change
set_option autoImplicit false

/-! Reading a whole text: statements between semicolons.  Statements, queries,
expressions and relations may be nested in one another to a fixed depth; the readers
for one level are built from the readers for the level below, and on the last level
every nested construct is refused.

Not every kind of statement is read.  Conditionals and loops of procedures, the sending and
awaiting of messages, cursors being opened and fetched from, servers being flushed, locked,
loaded and killed, the creating of anything but tables, views and schemas, and the altering
of anything but tables and views are refused, as a text is that is no SQL; what is asked of
a statement is then looked for in its text. -/

namespace RemoteQuery.Sql
open Reader

namespace Statement

/-- Tokens up to the end of the statement or an equals sign. -/
def skipWords : Reader Unit := whileTrue do
  match ← peek with
  | none => return false
  | some (.symbol s) => if [";", "=", "|>"].contains s then return false else skip; return true
  | some _ => skip; return true

def explain (nested : Nested) (explains : Bool) : Reader Unit := do
  if explains && (← peekSymbol "(") then
    void (parenthesised (commaSeparated do
      void identifier
      unless (← peekSymbol ",") || (← peekSymbol ")") do void nested.expr))
  else if ← keywords? ["QUERY", "PLAN"] then pure ()
  else if ← keyword? "ESTIMATE" then pure ()
  else
    let _ ← keyword? "ANALYZE"
    let _ ← keyword? "VERBOSE"
    if ← keyword? "FORMAT" then
      let _ ← symbol? "="
      void (oneOf ["TEXT", "GRAPHVIZ", "JSON", "TREE", "TRADITIONAL"])
  match ← attempt (notExplained *> nested.statement) with
  | some _ => return ()
  | none =>
      void (oneOf? ["EXTENDED", "FORMATTED"])
      objectName
where
  notExplained : Reader Unit := do
    if ["EXPLAIN", "DESCRIBE", "DESC"].contains (keywordOf (← peek)) then fail

def unload (nested : Nested) : Reader Unit := do
  symbol "("
  match ← peek with
  | some (.quoted _) => skip
  | _ => void nested.query
  symbol ")"
  keyword "TO"
  void identifier
  if ← keyword? "IAM_ROLE" then
    unless ← keyword? "DEFAULT" do value
  Change.options nested "WITH"

def set (nested : Nested) : Reader Unit := do
  let _ ← oneOf? ["SESSION", "LOCAL", "GLOBAL"]
  if ← keywords? ["TIME", "ZONE"] then
    void nested.expr
  else
    objectName
    unless ← symbol? "=" do
      unless ← keyword? "TO" do symbol ":="
    void nested.exprs

def transactionModes : Reader Unit := do
  void (oneOf? ["TRANSACTION", "WORK", "TRAN"])
  skipWords

def analyze (nested : Nested) : Reader Unit := do
  let _ ← keyword? "TABLE"
  objectName
  whileTrue do
    match ← oneOf? ["PARTITION", "NOSCAN", "FOR", "CACHE", "COMPUTE"] with
    | some "PARTITION" => void (parenthesised nested.exprs); return true
    | some "FOR" =>
        keyword "COLUMNS"
        match ← peek with
        | some (.word _ _) => void (commaSeparated identifier); return true
        | _ => return true
    | some "CACHE" => keyword "METADATA"; return true
    | some "COMPUTE" => keyword "STATISTICS"; return true
    | some _ => return true
    | none => return false

def grant : Reader Unit := do
  void (commaSeparated do
    match ← next with
    | .word _ _ => if ← peekSymbol "(" then columnList
    | _ => fail
    void (keyword? "PRIVILEGES"))
  if ← keyword? "ON" then
    let _ ← oneOf? ["TABLE", "SCHEMA", "DATABASE", "VIEW"]
    void (commaSeparated objectName)
  void (oneOf ["TO", "FROM"])
  void (commaSeparated do
    let _ ← oneOf? ["ROLE", "USER", "GROUP"]
    void identifier)
  void (keywords? ["WITH", "GRANT", "OPTION"])

def command (nested : Nested) (k : String) : Reader Unit := do
  match k with
  | "EXPLAIN" => explain nested true
  | "DESCRIBE" | "DESC" => explain nested false
  | "ANALYZE" => analyze nested
  | "TRUNCATE" =>
      let _ ← keyword? "TABLE"
      let _ ← keywords? ["IF", "EXISTS"]
      void (commaSeparated objectName)
      if ← keyword? "PARTITION" then void (parenthesised nested.exprs)
      void (oneOf? ["CASCADE", "RESTRICT"])
  | "MSCK" =>
      let _ ← keyword? "REPAIR"
      keyword "TABLE"
      objectName
      if (← oneOf? ["ADD", "DROP", "SYNC"]).isSome then keyword "PARTITIONS"
  | "CREATE" => Change.create nested
  | "DROP" => Change.drop
  | "ALTER" => Change.alter nested
  | "DELETE" => Change.delete nested
  | "INSERT" | "REPLACE" => Change.insert nested
  | "UPDATE" => Change.update nested
  | "MERGE" => Change.merge nested
  | "UNLOAD" => unload nested
  | "CALL" =>
      objectName
      if ← peekSymbol "(" then void (Expression.call nested (Source.interval nested))
  | "SET" => set nested
  | "SHOW" => skipWords
  | "USE" =>
      let _ ← oneOf? ["CATALOG", "DATABASE", "SCHEMA", "WAREHOUSE", "ROLE"]
      objectName
  | "GRANT" | "REVOKE" => grant
  | "START" =>
      keyword "TRANSACTION"
      skipWords
  | "BEGIN" | "COMMIT" | "ROLLBACK" | "END" => transactionModes
  | "SAVEPOINT" => void identifier
  | "RELEASE" =>
      let _ ← keyword? "SAVEPOINT"
      void identifier
  | "DEALLOCATE" =>
      let _ ← keyword? "PREPARE"
      void identifier
  | "EXECUTE" | "EXEC" =>
      let _ ← keyword? "IMMEDIATE"
      objectName
      if ← symbol? "(" then
        unless ← symbol? ")" do
          void nested.exprs
          symbol ")"
      if ← keyword? "USING" then
        void (commaSeparated do
          void nested.expr
          void columnAlias)
  | "PREPARE" =>
      void identifier
      if ← peekSymbol "(" then void (parenthesised (commaSeparated dataType))
      keyword "AS"
      void nested.statement
  | "CACHE" =>
      unless ← peekKeyword "TABLE" do objectName
      keyword "TABLE"
      objectName
      Change.options nested "OPTIONS"
      if ← keyword? "AS" then void nested.query
      else if Expression.startsQuery (← peek) then void nested.query
  | "UNCACHE" =>
      keyword "TABLE"
      let _ ← keywords? ["IF", "EXISTS"]
      objectName
  | "COPY" =>
      if ← peekSymbol "(" then void (parenthesised nested.query)
      else
        objectName
        if ← peekSymbol "(" then columnList
      void (oneOf ["FROM", "TO"])
      value
  | "DECLARE" =>
      void identifier
      keywords ["CURSOR", "FOR"]
      void nested.query
  | "COMMENT" =>
      keyword "ON"
      void (oneOf ["TABLE", "COLUMN", "SCHEMA", "DATABASE", "VIEW"])
      objectName
      keyword "IS"
      value
  | "PRINT" => void nested.expr
  | "ASSERT" =>
      void nested.expr
      afterKeyword "AS" nested.expr
  | "CLOSE" => unless ← keyword? "ALL" do void identifier
  | "DISCARD" => void (oneOf ["ALL", "PLANS", "SEQUENCES", "TEMP", "TEMPORARY"])
  | "RENAME" =>
      keyword "TABLE"
      void (commaSeparated do
        objectName
        keyword "TO"
        objectName)
  | _ => fail

def read (nested : Nested) : Reader Statement := do
  match ← peek with
  | some (.word _ k) =>
      if ["SELECT", "WITH", "VALUES", "FROM"].contains k then return .query (← nested.query)
      else
        skip
        command nested k
        return .other
  | some (.symbol "(") => return .query (← nested.query)
  | _ => fail

end Statement

/-- The readers for constructs that may be nested in one another `levels` times. -/
def nestedReaders : Nat → Nested
  | 0 => Nested.none
  | levels + 1 =>
      let inner := nestedReaders levels
      { statement := Statement.read inner
        query := Query.read inner (Change.read inner)
        expression := Expression.read inner
        relation := Source.readRelation inner }

def nestingLimit : Nat := 50

/-- The statements of the text.  A semicolon stands between two of them; the word
`END` after a statement ends the text. -/
def statements : Reader (List Statement) := do
  let levels := nestedReaders nestingLimit
  let step (state : List Statement × Bool) : Reader (Option (List Statement × Bool)) := do
    if ← symbol? ";" then return some (state.1, true)
    else
      match ← peek with
      | none => return none
      | some token =>
          if !state.2 && isKeyword "END" (some token) then return none
          else if !state.2 then fail
          else return some ((← levels.statement) :: state.1, false)
  let (reversed, _) ← grow step ([], true)
  return reversed.reverse

/-- The statements of a text, or `none` when it cannot be read as SQL. -/
def parse (text : String) : Option (List Statement) :=
  match lex text with
  | none => none
  | some lexemes =>
      match statements { rest := lexemes, bound := lexemes.length, hierarchical := false } with
      | .ok (found, _) => some found
      | .error _ => none

end RemoteQuery.Sql
