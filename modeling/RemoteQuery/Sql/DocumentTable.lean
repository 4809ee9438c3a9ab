import RemoteQuery.Sql.Window
set_option autoImplicit false

/-! Tables made of a document: a JSON or XML text, a path to the rows, and the columns
with their paths.  Each form is told by its keyword with an opening parenthesis directly
behind it; without the parenthesis the keyword is a name like any other. -/

namespace RemoteQuery.Sql
open Reader

namespace DocumentTable

def fallbacks : Reader Unit := whileTrue do
  match ← oneOf? ["NULL", "ERROR", "DEFAULT"] with
  | some k =>
      if k == "DEFAULT" then value
      keyword "ON"
      void (oneOf ["EMPTY", "ERROR"])
      return true
  | none => return false

def jsonColumn (inner : Reader Unit) : Reader Unit := do
  if ← keyword? "NESTED" then
    let _ ← keyword? "PATH"
    value
    keyword "COLUMNS"
    parenthesised inner
  else
    void identifier
    if ← keyword? "FOR" then keyword "ORDINALITY"
    else
      void dataType
      let _ ← keyword? "EXISTS"
      keyword "PATH"
      value
      fallbacks

/-- Columns of a JSON table; `depth` bounds how often they are nested. -/
def jsonColumns : Nat → Reader Unit
  | 0 => fail
  | depth + 1 => void (commaSeparated (jsonColumn (jsonColumns depth)))

def json (nested : Nested) : Reader Unit := do
  void nested.expr
  symbol ","
  value
  keyword "COLUMNS"
  parenthesised (jsonColumns ((← bound) + 1))
  symbol ")"

def openedColumn : Reader Unit := do
  void identifier
  void dataType
  match ← peek with
  | some (.quoted _) => skip
  | _ => pure ()
  if ← keyword? "AS" then keyword "JSON"

/-- A JSON text whose columns may follow the closing parenthesis. -/
def opened (nested : Nested) : Reader Unit := do
  void nested.expr
  if ← symbol? "," then value
  symbol ")"
  if ← keyword? "WITH" then void (parenthesised (commaSeparated openedColumn))

def xmlNamespace (nested : Nested) : Reader Unit := do
  void nested.expr
  keyword "AS"
  void identifier

def passed (nested : Nested) : Reader Unit := do
  if ← keyword? "BY" then keyword "VALUE"
  void nested.expr
  if ← keyword? "AS" then void identifier

def xmlColumn (nested : Nested) : Reader Unit := do
  void identifier
  if ← keyword? "FOR" then keyword "ORDINALITY"
  else
    void dataType
    afterKeyword "PATH" nested.expr
    afterKeyword "DEFAULT" nested.expr
    unless ← keywords? ["NOT", "NULL"] do void (keyword? "NULL")

def xml (nested : Nested) : Reader Unit := do
  if ← keyword? "XMLNAMESPACES" then
    void (parenthesised (commaSeparated (xmlNamespace nested)))
    symbol ","
  void nested.expr
  if ← keyword? "PASSING" then void (commaSeparated (passed nested))
  keyword "COLUMNS"
  void (commaSeparated (xmlColumn nested))
  symbol ")"

/-- A table made of a document, without its alias; the answer says whether one
stands here. -/
def read? (nested : Nested) : Reader Bool := do
  let form? : Option (Reader Unit) := match keywordOf (← peek) with
    | "JSON_TABLE" => some (json nested)
    | "OPENJSON" => some (opened nested)
    | "XMLTABLE" => some (xml nested)
    | _ => none
  match form? with
  | none => return false
  | some form =>
      if isSymbol "(" (← peekAt 1) then
        skip
        skip
        form
        return true
      else return false

end DocumentTable

end RemoteQuery.Sql
