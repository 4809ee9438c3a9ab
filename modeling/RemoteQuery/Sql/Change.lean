import RemoteQuery.Sql.Select
set_option autoImplicit false

/-! Statements that change data or definitions.  Only whether they can be read
matters, and how far they reach; a query inside them is no query of the text. -/

namespace RemoteQuery.Sql
open Reader

namespace Change

def returning (nested : Nested) : Reader Unit :=
  afterKeyword "RETURNING" (commaSeparated (Query.item nested))

def conflictClause : Reader Unit := do
  if ← keyword? "OR" then void (oneOf ["REPLACE", "ROLLBACK", "ABORT", "FAIL", "IGNORE"])

def assignments (nested : Nested) : Reader Unit :=
  void (commaSeparated (Query.assignment nested))

def options (nested : Nested) (k : String) : Reader Unit := do
  if ← keyword? k then
    symbol "("
    unless ← peekSymbol ")" do
      void (commaSeparated do
        void (match ← peek with
          | some (.quoted _) => skip
          | _ => objectName)
        symbol "="
        void nested.expr)
    symbol ")"

def onConflict (nested : Nested) : Reader Unit := do
  if ← keyword? "CONFLICT" then
    if ← keywords? ["ON", "CONSTRAINT"] then objectName
    else if ← peekSymbol "(" then columnList
    keyword "DO"
    unless ← keyword? "NOTHING" do
      keywords ["UPDATE", "SET"]
      assignments nested
      afterKeyword "WHERE" nested.expr
  else
    keywords ["DUPLICATE", "KEY", "UPDATE"]
    assignments nested

def insert (nested : Nested) : Reader Unit := do
  conflictClause
  let _ ← oneOf? ["LOW_PRIORITY", "DELAYED", "HIGH_PRIORITY"]
  let _ ← keyword? "IGNORE"
  let _ ← keyword? "OVERWRITE"
  let _ ← keyword? "INTO"
  let _ ← keyword? "LOCAL"
  if ← keyword? "DIRECTORY" then
    value
    if ← keywords? ["STORED", "AS"] then void identifier
    void nested.query
  else
    let _ ← keyword? "TABLE"
    if ← keyword? "FUNCTION" then
      objectName
      symbol "("
      Source.functionArguments nested
    else objectName
    unless ← keywords? ["DEFAULT", "VALUES"] do
      let queryInParentheses := (← peekSymbol "(") && isKeyword "SELECT" (← peekAt 1)
      unless queryInParentheses do
        if ← peekSymbol "(" then columnList
        if ← keyword? "PARTITION" then void (parenthesised nested.exprs)
      if ← keyword? "SET" then assignments nested else void nested.query
    if ← keyword? "AS" then
      objectName
      if ← peekSymbol "(" then columnList
    afterKeyword "ON" (onConflict nested)
    returning nested

def update (nested : Nested) : Reader Unit := do
  conflictClause
  void (Source.read nested)
  let early ← keyword? "FROM"
  if early then void (Source.readMany nested)
  keyword "SET"
  assignments nested
  unless early do afterKeyword "FROM" (Source.readMany nested)
  afterKeyword "WHERE" nested.expr
  returning nested
  afterKeyword "LIMIT" nested.expr

def delete (nested : Nested) : Reader Unit := do
  let _ ← keyword? "FROM"
  void (Source.readMany nested)
  afterKeyword "USING" (Source.readMany nested)
  afterKeyword "WHERE" nested.expr
  returning nested
  optionalOrdering nested
  afterKeyword "LIMIT" nested.expr

def mergeClause (nested : Nested) : Reader Unit := do
  let absent ← keyword? "NOT"
  keyword "MATCHED"
  let bySource ← if absent then keywords? ["BY", "SOURCE"] else pure false
  if absent && !bySource then void (keywords? ["BY", "TARGET"])
  let inserts := absent && !bySource
  afterKeyword "AND" nested.expr
  keyword "THEN"
  match ← oneOf ["UPDATE", "INSERT", "DELETE"] with
  | "UPDATE" =>
      if inserts then fail
      keyword "SET"
      assignments nested
  | "DELETE" => if inserts then fail
  | _ =>
      unless inserts do fail
      if ← peekSymbol "(" then columnList
      unless ← keyword? "ROW" do
        keyword "VALUES"
        Source.rows nested

def merge (nested : Nested) : Reader Unit := do
  let _ ← keyword? "INTO"
  void nested.relation
  keyword "USING"
  void nested.relation
  keyword "ON"
  void nested.expr
  whileTrue do
    if ← keyword? "WHEN" then
      mergeClause nested
      return true
    else return false
  if (← oneOf? ["OUTPUT", "RETURNING"]).isSome then
    void (commaSeparated (Query.item nested))

def read (nested : Nested) : Reader Unit := do
  match ← oneOf ["INSERT", "UPDATE", "DELETE", "MERGE"] with
  | "INSERT" => insert nested
  | "UPDATE" => update nested
  | "DELETE" => delete nested
  | _ => merge nested

/-! ### Definitions -/

/-- A property of a column after its type; the answer says whether there was one. -/
def columnProperty (nested : Nested) : Reader Bool := do
  match ← oneOf? ["NOT", "NULL", "DEFAULT", "PRIMARY", "UNIQUE", "COMMENT", "CHECK", "COLLATE",
      "REFERENCES", "CONSTRAINT"] with
  | some "NOT" => keyword "NULL"; return true
  | some "DEFAULT" => void nested.expr; return true
  | some "PRIMARY" => keyword "KEY"; return true
  | some "COMMENT" => value; return true
  | some "CHECK" => parenthesised (void nested.expr); return true
  | some "COLLATE" => objectName; return true
  | some "CONSTRAINT" => void identifier; return true
  | some "REFERENCES" =>
      objectName
      if ← peekSymbol "(" then columnList
      return true
  | some _ => return true
  | none => return false

def columnDefinition (nested : Nested) : Reader Unit := do
  void identifier
  void (attempt dataType)
  whileTrue (columnProperty nested)

def tableElement (nested : Nested) : Reader Unit := do
  let named ← keyword? "CONSTRAINT"
  if named then void identifier
  if ← keywords? ["PRIMARY", "KEY"] then columnList
  else if ← keyword? "UNIQUE" then
    void (oneOf? ["KEY", "INDEX"])
    columnList
  else if ← keyword? "CHECK" then parenthesised (void nested.expr)
  else if ← keywords? ["FOREIGN", "KEY"] then
    columnList
    keyword "REFERENCES"
    objectName
    if ← peekSymbol "(" then columnList
  else if named then fail
  else columnDefinition nested

def ifNotExists : Reader Unit := void (keywords? ["IF", "NOT", "EXISTS"])

/-- Where and how a table's files are stored; the answer says whether a clause stood
there. -/
def storageClause (nested : Nested) : Reader Bool := do
  if ← keyword? "COMMENT" then
    let _ ← symbol? "="
    value
    return true
  else if ← keywords? ["PARTITIONED", "BY"] then
    void (parenthesised (commaSeparated (columnDefinition nested)))
    return true
  else if ← keywords? ["CLUSTERED", "BY"] then
    columnList
    keyword "INTO"
    value
    keyword "BUCKETS"
    return true
  else if ← keywords? ["ROW", "FORMAT"] then
    if ← keyword? "SERDE" then
      value
      options nested "WITH"
    else
      keyword "DELIMITED"
      whileTrue do
        match ← oneOf? ["FIELDS", "COLLECTION", "MAP", "LINES", "ESCAPED", "NULL"] with
        | some _ =>
            let _ ← oneOf? ["ITEMS", "KEYS", "DEFINED"]
            let _ ← keyword? "TERMINATED"
            let _ ← oneOf? ["BY", "AS"]
            void identifier
            return true
        | none => return false
    return true
  else if ← keywords? ["STORED", "AS"] then
    if ← keyword? "INPUTFORMAT" then
      void nested.expr
      keyword "OUTPUTFORMAT"
      void nested.expr
    else void identifier
    return true
  else if ← keyword? "LOCATION" then
    value
    return true
  else if ← peekKeyword "WITH" then
    options nested "WITH"
    return true
  else if ← peekKeyword "TBLPROPERTIES" then
    options nested "TBLPROPERTIES"
    return true
  else return false

def createTable (nested : Nested) : Reader Unit := do
  ifNotExists
  objectName
  if ← keyword? "LIKE" then objectName
  else if ← keyword? "CLONE" then objectName
  else if ← symbol? "(" then
    if !(← symbol? ")") then
      void (commaSeparated (tableElement nested))
      symbol ")"
  whileTrue (storageClause nested)
  if ← keyword? "AS" then void nested.query
  else if ← peekKeyword "SELECT" then void nested.query

def createView (nested : Nested) : Reader Unit := do
  ifNotExists
  objectName
  ifNotExists
  if ← symbol? "(" then
    unless ← symbol? ")" do
      void (commaSeparated do
        void identifier
        afterKeyword "COMMENT" value)
      symbol ")"
  options nested "WITH"
  if ← keywords? ["CLUSTER", "BY"] then columnList
  options nested "OPTIONS"
  afterKeyword "TO" objectName
  if ← keyword? "COMMENT" then
    symbol "="
    value
  keyword "AS"
  void nested.query
  void (keywords? ["WITH", "NO", "SCHEMA", "BINDING"])

def create (nested : Nested) : Reader Unit := do
  if ← keyword? "OR" then void (oneOf ["REPLACE", "ALTER"])
  let _ ← oneOf? ["LOCAL", "GLOBAL"]
  let _ ← keyword? "TRANSIENT"
  let _ ← oneOf? ["TEMP", "TEMPORARY", "PERSISTENT"]
  let _ ← keyword? "SECURE"
  if ← keyword? "TABLE" then createTable nested
  else if ← keywords? ["EXTERNAL", "TABLE"] then createTable nested
  else if ← keywords? ["MATERIALIZED", "VIEW"] then createView nested
  else if ← keyword? "VIEW" then createView nested
  else if (← oneOf? ["SCHEMA", "DATABASE"]).isSome then
    ifNotExists
    objectName
    afterKeyword "COMMENT" value
    afterKeyword "LOCATION" value
    options nested "WITH"
  else fail

def drop : Reader Unit := do
  let _ ← oneOf? ["TEMPORARY", "MATERIALIZED"]
  void (oneOf ["TABLE", "VIEW", "INDEX", "SCHEMA", "DATABASE", "ROLE", "SEQUENCE", "STAGE", "TYPE",
    "USER", "STREAM", "FUNCTION", "PROCEDURE"])
  let _ ← keywords? ["IF", "EXISTS"]
  void (commaSeparated objectName)
  let _ ← oneOf? ["CASCADE", "RESTRICT"]
  void (keyword? "PURGE")

def alterTable (nested : Nested) : Reader Unit := do
  let _ ← keywords? ["IF", "EXISTS"]
  let _ ← keyword? "ONLY"
  objectName
  let partitions : Reader Unit := void (itemsWhile (keyword? "PARTITION") do
    void (parenthesised nested.exprs)
    afterKeyword "LOCATION" value)
  void (commaSeparated do
    match ← oneOf ["ADD", "DROP", "RENAME", "SET", "ALTER"] with
    | "ADD" =>
        ifNotExists
        if ← keyword? "PARTITION" then partitions
        else if ← keyword? "COLUMN" then
          ifNotExists
          columnDefinition nested
        else tableElement nested
    | "DROP" =>
        let _ ← keywords? ["IF", "EXISTS"]
        if ← keyword? "PARTITION" then partitions
        else
          let _ ← keyword? "COLUMN"
          let _ ← keywords? ["IF", "EXISTS"]
          void identifier
          void (oneOf? ["CASCADE", "RESTRICT"])
    | "RENAME" =>
        if ← keyword? "TO" then objectName
        else
          let _ ← keyword? "COLUMN"
          void identifier
          keyword "TO"
          void identifier
    | "SET" =>
        if ← peekKeyword "TBLPROPERTIES" then options nested "TBLPROPERTIES"
        else
          keyword "LOCATION"
          value
    | _ =>
        let _ ← keyword? "COLUMN"
        void identifier
        if ← keywords? ["SET", "DEFAULT"] then void nested.expr
        else if ← keywords? ["DROP", "DEFAULT"] then return ()
        else if ← keywords? ["SET", "NOT", "NULL"] then return ()
        else if ← keywords? ["DROP", "NOT", "NULL"] then return ()
        else
          let _ ← keywords? ["SET", "DATA"]
          keyword "TYPE"
          void dataType)

def alterView (nested : Nested) : Reader Unit := do
  objectName
  if ← peekSymbol "(" then columnList
  options nested "WITH"
  keyword "AS"
  void nested.query

def alter (nested : Nested) : Reader Unit := do
  match ← oneOf ["TABLE", "VIEW"] with
  | "TABLE" => alterTable nested
  | _ => alterView nested

end Change

end RemoteQuery.Sql
