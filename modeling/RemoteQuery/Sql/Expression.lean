import RemoteQuery.Sql.Window
set_option autoImplicit false

/-! Expressions: prefix forms, chains of fields and elements, and operators by
precedence.  A nested expression is read one level deeper; the reading stops when no
level is left. -/

namespace RemoteQuery.Sql
open Reader

namespace Precedence

def disjunction : Nat := 5
def conjunction : Nat := 10
def negation : Nat := 15
def extension : Nat := 16
def identity : Nat := 17
def pattern : Nat := 19
def comparison : Nat := 20
def bitOr : Nat := 21
def bitXor : Nat := 22
def bitAnd : Nat := 23
def exclusive : Nat := 24
def sum : Nat := 30
def product : Nat := 40
def timeZone : Nat := 41
def conversion : Nat := 50
def member : Nat := 100

end Precedence

namespace Expression
open Precedence

def startsQuery (token : Option Token) : Bool :=
  isKeyword "SELECT" token || isKeyword "WITH" token

/-! ### Function calls -/

def nullTreatment : Reader Bool := do
  match ← oneOf? ["RESPECT", "IGNORE"] with
  | some _ => keyword "NULLS"; return true
  | none => return false

def jsonClauses : Reader Unit := do
  unless ← keywords? ["NULL", "ON", "NULL"] do
    let _ ← keywords? ["ABSENT", "ON", "NULL"]
  if ← keyword? "RETURNING" then void dataType

def wildcardOptions (nested : Nested) : Reader Unit := do
  if ← keyword? "ILIKE" then void next
  else if ← keyword? "EXCLUDE" then
    if ← symbol? "(" then
      void (commaSeparated identifier)
      symbol ")"
    else void identifier
  else if ← keyword? "EXCEPT" then
    if ← peekSymbol "(" then columnList else void identifier
  if ← keyword? "REPLACE" then
    void (parenthesised (commaSeparated do
      let _ ← nested.expr
      let _ ← keyword? "AS"
      void identifier))
  let renamed : Reader Unit := do
    void identifier
    keyword "AS"
    void identifier
  if ← keyword? "RENAME" then
    if ← symbol? "(" then
      void (commaSeparated renamed)
      symbol ")"
    else renamed

/-- Whether `*` is next, alone or behind names and full stops; then it is consumed. -/
def wildcard? : Reader Bool := do
  let start ← get
  let named := match ← peek with
    | some (.word _ _) => true
    | some (.quoted _) => true
    | _ => false
  if ← symbol? "*" then return true
  else if named then
    skip
    let found ← grow (fun state => do
      if state.2 then return none
      else if ← symbol? "." then
        match ← next with
        | .word _ _ => return some (true, false)
        | .quoted _ => return some (true, false)
        | .symbol "*" => return some (true, true)
        | _ => fail
      else return none) (false, false)
    if found.2 then return true
    else
      set start
      return false
  else return false

def orWildcard (nested : Nested) : Reader Shape := do
  if ← wildcard? then return .wildcard else nested.expr

def argumentMark : Reader Unit := do
  unless ← keyword? "VALUE" do
    unless ← symbol? "=>" do
      symbol ":="

def argument (nested : Nested) : Reader Unit := do
  let named ← attempt do
    void identifier
    argumentMark
    void (orWildcard nested)
  match named with
  | some _ => return ()
  | none =>
      match ← orWildcard nested with
      | .wildcard => wildcardOptions nested
      | _ => return ()

/-- Arguments up to the closing parenthesis; the answer says whether the treatment
of nulls was among them. -/
def arguments (nested : Nested) : Reader Bool := do
  jsonClauses
  if ← symbol? ")" then return false
  let all ← keyword? "ALL"
  if (← keyword? "DISTINCT") && all then fail
  void (commaSeparated (argument nested))
  let treated ← nullTreatment
  optionalOrdering nested
  afterKeyword "LIMIT" nested.expr
  if ← keyword? "HAVING" then
    void (oneOf ["MIN", "MAX"])
    void nested.expr
  afterKeyword "SEPARATOR" value
  if ← keywords? ["ON", "OVERFLOW"] then
    unless ← keyword? "ERROR" do
      keyword "TRUNCATE"
      match ← peek with
      | some (.quoted _) => skip
      | some (.literal _) => skip
      | _ => pure ()
      void (oneOf ["WITH", "WITHOUT"])
      keyword "COUNT"
  jsonClauses
  symbol ")"
  return treated

def call (nested : Nested) (interval : Reader Unit) : Reader Shape := do
  symbol "("
  let treated ← arguments nested
  let treated ← if ← symbol? "(" then arguments nested else pure treated
  if ← keywords? ["WITHIN", "GROUP"] then
    symbol "("
    keywords ["ORDER", "BY"]
    orderItems nested
    symbol ")"
  if ← keyword? "FILTER" then
    if ← symbol? "(" then
      if ← keyword? "WHERE" then
        void nested.expr
        symbol ")"
  unless treated do void nullTreatment
  if ← keyword? "OVER" then
    overWindow nested interval
    return .call true
  else return .call false

/-! ### Forms that begin with a keyword -/

def caseForm (nested : Nested) : Reader Unit := do
  unless ← keyword? "WHEN" do
    void nested.expr
    keyword "WHEN"
  void (itemsWhile (keyword? "WHEN") do
    void nested.expr
    keyword "THEN"
    void nested.expr)
  afterKeyword "ELSE" nested.expr
  keyword "END"

def castForm (nested : Nested) : Reader Unit := parenthesised do
  void nested.expr
  keyword "AS"
  void dataType
  let _ ← keyword? "ARRAY"
  if ← keyword? "FORMAT" then
    value
    if ← keywords? ["AT", "TIME", "ZONE"] then value

def convertForm (nested : Nested) : Reader Unit := parenthesised do
  void nested.expr
  if ← keyword? "USING" then objectName
  else
    symbol ","
    void dataType
    if ← keywords? ["CHARACTER", "SET"] then objectName

def existsForm (nested : Nested) : Reader Unit := void (parenthesised nested.query)

def extractForm (nested : Nested) : Reader Unit := parenthesised do
  let _ ← dateTimeField
  unless ← keyword? "FROM" do symbol ","
  void nested.expr

def roundingForm (nested : Nested) : Reader Unit := parenthesised do
  void nested.expr
  if ← keyword? "TO" then void dateTimeField
  else if ← symbol? "," then
    match ← next with
    | .number _ => return ()
    | _ => fail

def substringForm (nested : Nested) : Reader Unit := parenthesised do
  void nested.expr
  let comma ← symbol? ","
  let from? ← if comma then pure true else keyword? "FROM"
  if from? then void nested.expr
  let for? ← if ← keyword? "FOR" then pure true else symbol? ","
  if for? then void nested.expr

def overlayForm (nested : Nested) : Reader Unit := parenthesised do
  void nested.expr
  keyword "PLACING"
  void nested.expr
  keyword "FROM"
  void nested.expr
  afterKeyword "FOR" nested.expr

def trimForm (nested : Nested) : Reader Unit := parenthesised do
  let _ ← oneOf? ["BOTH", "LEADING", "TRAILING"]
  void nested.expr
  if ← keyword? "FROM" then void nested.expr
  else if ← symbol? "," then void nested.exprs

def positionForm (nested : Nested) : Reader Unit := parenthesised do
  void (nested.expression comparison)
  keyword "IN"
  void nested.expr

def arrayElements (nested : Nested) : Reader Unit := do
  unless ← peekSymbol "]" do void nested.exprs
  symbol "]"

def matchForm : Reader Unit := do
  qualifiedColumnList
  keyword "AGAINST"
  parenthesised do
    value
    unless ← keywords? ["IN", "NATURAL", "LANGUAGE", "MODE", "WITH", "QUERY", "EXPANSION"] do
      unless ← keywords? ["IN", "NATURAL", "LANGUAGE", "MODE"] do
        unless ← keywords? ["IN", "BOOLEAN", "MODE"] do
          let _ ← keywords? ["WITH", "QUERY", "EXPANSION"]

def structForm (nested : Nested) : Reader Unit := do
  let typed ← isSymbol "<" <$> peekAt 1
  let kind ← dataTypeOfStruct
  match kind with
  | .builtIn =>
      parenthesised (void (commaSeparated do
        void nested.expr
        if ← keyword? "AS" then
          if typed then fail else void identifier))
  | _ => fail
where
  dataTypeOfStruct : Reader TypeKind := do
    match ← peekAt 1 with
    | some (.symbol "<") => dataType
    | _ => skip; return .builtIn

def dictionary (nested : Nested) (key : Reader Unit) : Reader Unit := do
  symbol "\x7b"
  unless ← peekSymbol "\x7d" do
    void (commaSeparated do
      key
      symbol ":"
      void nested.expr)
  symbol "\x7d"

def braceForm (nested : Nested) (interval : Reader Unit) : Reader Unit := do
  let escape ← attempt do
    symbol "\x7b"
    match ← next with
    | .word text k =>
        if k == "FN" then
          void identifier
          void (call nested interval)
        else if ["d", "t", "ts"].contains text.toLower then
          match ← next with
          | .quoted _ => pure ()
          | _ => fail
        else fail
    | _ => fail
    symbol "\x7d"
  match escape with
  | some _ => return ()
  | none => dictionary nested (void identifier)

/-- An expression that its first keyword `k`, already consumed, announces; `none`
when the keyword announces nothing here. -/
def reservedForm (nested : Nested) (interval : Reader Unit) (k : String) :
    Reader (Option Shape) := do
  let form (reader : Reader Unit) : Reader (Option Shape) := do
    reader
    return some .other
  match k with
  | "TRUE" => return some .value
  | "FALSE" => return some .value
  | "NULL" => return some .value
  | "CURRENT_CATALOG" => return some (.call false)
  | "CURRENT_USER" => return some (.call false)
  | "SESSION_USER" => return some (.call false)
  | "USER" => return some (.call false)
  | "CURRENT_TIMESTAMP" | "CURRENT_TIME" | "CURRENT_DATE" | "LOCALTIME" | "LOCALTIMESTAMP" =>
      if ← symbol? "(" then void (arguments nested)
      return some (.call false)
  | "CASE" => form (caseForm nested)
  | "CONVERT" | "TRY_CONVERT" => form (convertForm nested)
  | "CAST" | "TRY_CAST" | "SAFE_CAST" => form (castForm nested)
  | "EXISTS" => form (existsForm nested)
  | "EXTRACT" => form (extractForm nested)
  | "CEIL" | "FLOOR" => form (roundingForm nested)
  | "POSITION" =>
      if ← peekSymbol "(" then
        match ← attempt (positionForm nested) with
        | some _ => return some .other
        | none => return some (← call nested interval)
      else return none
  | "SUBSTR" | "SUBSTRING" => form (substringForm nested)
  | "OVERLAY" => form (overlayForm nested)
  | "TRIM" => form (trimForm nested)
  | "INTERVAL" => form interval
  | "ARRAY" =>
      if ← symbol? "[" then form (arrayElements nested)
      else if ← peekSymbol "(" then
        void (parenthesised nested.query)
        return some (.call false)
      else return none
  | "NOT" =>
      if ← keyword? "EXISTS" then form (existsForm nested)
      else form (void (nested.expression negation))
  | "MATCH" => form matchForm
  | "PRIOR" =>
      if ← isHierarchical then form (void (nested.expression sum)) else return none
  | "MAP" =>
      if ← peekSymbol "\x7b" then form (dictionary nested (void nested.expr)) else return none
  | _ => return none

def nameForm (nested : Nested) (interval : Reader Unit) (text keyword : String) :
    Reader Shape := do
  match ← peek with
  | some (.symbol "(") => call nested interval
  | some (.quoted _) => if text.startsWith "_" then skip; return .other else return name
  | some (.literal _) => if text.startsWith "_" then skip; return .other else return name
  | _ => return name
where
  name : Shape := .name text (keyword != "")

def typedText (interval : Reader Unit) : Reader Shape := do
  match ← dataType with
  | .interval => interval; return .other
  | .custom => fail
  | .builtIn => value; return .other

def signedOperand (nested : Nested) (precedence : Nat) : Reader Shape := do
  void (nested.expression precedence)
  return .other

def parenthesisForm (nested : Nested) : Reader Shape := do
  if startsQuery (← peek) then void nested.query else void nested.exprs
  symbol ")"
  return .other

def intervalForm (operand : Reader Shape) : Reader Unit := do
  void operand
  let leading ← temporalUnit?
  match leading with
  | some true => optionalPrecisionAnd wholeNumber
  | _ =>
      optionalPrecision
      if ← keyword? "TO" then
        if ← dateTimeField then optionalPrecision
where
  temporalUnit? : Reader (Option Bool) := do
    match ← peek with
    | some (.word _ k) => if temporalUnits.contains k then some <$> dateTimeField else return none
    | _ => return none

/-- The beginning of an expression, up to its first operator.  `fuel` bounds how
often one interval stands directly inside another. -/
def beginning (nested : Nested) : Nat → Reader Shape
  | 0 => fail
  | fuel + 1 => do
      let interval : Reader Unit := intervalForm (beginning nested fuel)
      match ← attempt (typedText interval) with
      | some shape => return shape
      | none => pure ()
      match ← peek with
      | some (.word text k) =>
          if k == "STRUCT" then
            structForm nested
            return .other
          skip
          match ← outcome (reservedForm nested interval k) with
          | .ok (some shape) => return shape
          | .ok none => nameForm nested interval text k
          | .error stop =>
              if notNames.contains k then throw stop
              match ← outcome (nameForm nested interval text k) with
              | .ok shape => return shape
              | .error _ => throw stop
      | some (.symbol s) =>
          if s == "[" then
            skip
            arrayElements nested
            return .other
          else if s == "-" || s == "+" then
            skip
            signedOperand nested product
          else if s == "~" then
            skip
            signedOperand nested sum
          else if s == "(" then
            skip
            parenthesisForm nested
          else if s == "\x7b" then
            braceForm nested interval
            return .other
          else
            value
            return .value
      | _ =>
          value
          return .value

/-! ### Fields and elements -/

def subscript (nested : Nested) : Reader Unit := do
  let open? ← symbol? ":"
  unless open? do void nested.expr
  if ← symbol? "]" then return ()
  unless open? do symbol ":"
  if ← symbol? "]" then return ()
  void nested.expr
  if ← symbol? "]" then return ()
  symbol ":"
  if ← symbol? "]" then return ()
  void nested.expr
  symbol "]"

/-- What a chain of fields has come to: only names so far, names and then one call,
or anything else. -/
inductive Chain where
  | names
  | namesThenCall (windowed : Bool)
  | mixed
  deriving Repr, DecidableEq, Inhabited

def Chain.push (chain : Chain) (shape : Shape) : Chain :=
  match chain, shape with
  | .names, .name _ _ => .names
  | .names, .path => .names
  | .names, .call windowed => .namesThenCall windowed
  | _, _ => .mixed

def field (nested : Nested) : Reader Shape := do
  match ← peek with
  | some (.quoted text) => skip; return .name text false
  | _ =>
      let found ← attempt do
        match ← nested.expression member with
        | .other => fail
        | .wildcard => fail
        | shape => return shape
      match found with
      | some shape => return shape
      | none => return .name (← identifier) true

def chained (nested : Nested) (root : Shape) : Reader Shape := do
  let start : Chain := match root with
    | .name _ _ => .names
    | _ => .mixed
  let (chain, long) ← grow (fun (state : Chain × Bool) => do
    if (← peekSymbol ".") && !isSymbol "*" (← peekAt 1) then
      skip
      return some (state.1.push (← field nested), true)
    else if ← symbol? "[" then
      subscript nested
      return some (.mixed, true)
    else return none) (start, false)
  if long then
    match chain with
    | .names => return .path
    | .namesThenCall windowed => return .call windowed
    | .mixed => return .access
  else return root

/-! ### Operators -/

def comparisonSymbols : List String := [">", "<", ">=", "<=", "=", "==", "!=", "<>"]

def patternSymbols : List String := ["~", "~*", "!~", "!~*", "~~", "~~*", "!~~", "!~~*"]

def symbolPrecedence (s : String) : Option Nat :=
  if comparisonSymbols.contains s || patternSymbols.contains s || s == "<=>" || s == ":=" then
    some comparison
  else if s == "|" then some bitOr
  else if s == "^" || s == "<<" || s == ">>" then some bitXor
  else if s == "&" then some bitAnd
  else if s == "+" || s == "-" then some sum
  else if ["*", "/", "//", "%", "||"].contains s then some product
  else if s == "^@" then some conversion
  else if ["->", "->>", "#>", "#>>", "@>", "<@", "#-", "@?", "@@"].contains s then some extension
  else none

/-- Symbols that end an expression with an error when they stand after an operand. -/
def misplacedPrecedence (s : String) : Option Nat :=
  if s == "#" then some bitXor
  else if s == "!" || s == "[" || s == "&&" then some conversion
  else none

def nextPrecedence : Reader Nat := do
  match ← peek with
  | some (.symbol s) =>
      if s == "::" then return conversion
      else return ((symbolPrecedence s).orElse fun _ => misplacedPrecedence s).getD 0
  | some (.word _ k) =>
      match k with
      | "OR" => return disjunction
      | "AND" => return conjunction
      | "XOR" => return exclusive
      | "AT" =>
          if isKeyword "TIME" (← peekAt 1) && isKeyword "ZONE" (← peekAt 2) then return timeZone
          else return 0
      | "NOT" =>
          let following := keywordOf (← peekAt 1)
          if following == "IN" || following == "BETWEEN" then return comparison
          else if ["LIKE", "ILIKE", "RLIKE", "REGEXP", "MATCH", "SIMILAR", "MEMBER"].contains
              following then return pattern
          else if following == "NULL" then return identity
          else return 0
      | "IS" => return identity
      | "IN" | "BETWEEN" | "OVERLAPS" | "OPERATOR" => return comparison
      | "LIKE" | "ILIKE" | "RLIKE" | "REGEXP" | "MATCH" | "SIMILAR" | "MEMBER" => return pattern
      | "DIV" => return product
      | _ => return 0
  | _ => return 0

def rightOperand (nested : Nested) (quantifiable : Bool) (precedence : Nat) : Reader Unit := do
  match ← oneOf? ["ANY", "ALL", "SOME"] with
  | some _ =>
      if (← peekSymbol "(") && startsQuery (← peekAt 1) then
        void (nested.expression precedence)
      else parenthesised (void (nested.expression precedence))
      unless quantifiable do fail
  | none => void (nested.expression precedence)

def afterIs (nested : Nested) : Reader Unit := do
  if ← keyword? "NULL" then return ()
  else if ← keywords? ["NOT", "NULL"] then return ()
  else if ← keyword? "TRUE" then return ()
  else if ← keywords? ["NOT", "TRUE"] then return ()
  else if ← keyword? "FALSE" then return ()
  else if ← keywords? ["NOT", "FALSE"] then return ()
  else if ← keyword? "UNKNOWN" then return ()
  else if ← keywords? ["NOT", "UNKNOWN"] then return ()
  else if ← keywords? ["DISTINCT", "FROM"] then void nested.expr
  else if ← keywords? ["NOT", "DISTINCT", "FROM"] then void nested.expr
  else
    let _ ← keyword? "NOT"
    let _ ← oneOf? ["NFC", "NFD", "NFKC", "NFKD"]
    keyword "NORMALIZED"

def escapeCharacter : Reader Unit := afterKeyword "ESCAPE" value

def afterIn (nested : Nested) : Reader Unit := do
  if ← keyword? "UNNEST" then parenthesised (void nested.expr)
  else
    symbol "("
    match ← attempt nested.query with
    | some _ => return ← symbol ")"
    | none =>
        void nested.exprs
        symbol ")"

def rangeOrPattern (nested : Nested) : Reader Unit := do
  let negated ← keyword? "NOT"
  match ← oneOf? ["REGEXP", "RLIKE"] with
  | some _ => void (nested.expression pattern)
  | none =>
      let null ← keyword? "NULL"
      if negated && null then return ()
      else if ← keyword? "IN" then afterIn nested
      else if ← keyword? "BETWEEN" then
        void (nested.expression comparison)
        keyword "AND"
        void (nested.expression comparison)
      else if ← keyword? "SIMILAR" then
        keyword "TO"
        void (nested.expression pattern)
        escapeCharacter
      else
        void (oneOf ["LIKE", "ILIKE"])
        let _ ← keyword? "ANY"
        void (nested.expression pattern)
        escapeCharacter

def operatorRest (nested : Nested) (precedence : Nat) : Reader Unit := do
  match ← peek with
  | some (.symbol s) =>
      skip
      if s == "::" then void dataType
      else if (symbolPrecedence s).isSome then
        rightOperand nested (comparisonSymbols.contains s || patternSymbols.contains s) precedence
      else fail
  | some (.word _ k) =>
      match k with
      | "OR" | "AND" | "XOR" | "OVERLAPS" =>
          skip
          rightOperand nested false precedence
      | "OPERATOR" =>
          skip
          symbol "("
          void (itemsWhile (symbol? ".") next)
          symbol ")"
          rightOperand nested false precedence
      | "IS" =>
          skip
          afterIs nested
      | "AT" =>
          skip
          keywords ["TIME", "ZONE"]
          void (nested.expression precedence)
      | "MEMBER" =>
          skip
          keyword "OF"
          parenthesised (void nested.expr)
      | "NOT" | "IN" | "BETWEEN" | "LIKE" | "ILIKE" | "SIMILAR" | "REGEXP" | "RLIKE" =>
          rangeOrPattern nested
      | _ => fail
  | _ => fail

/-- An expression whose operators bind tighter than `precedence`. -/
def read (nested : Nested) (precedence : Nat) : Reader Shape := do
  let root ← beginning nested ((← bound) + 1)
  let shape ← chained nested root
  let shape ← if ← keyword? "COLLATE" then do objectName; pure Shape.other else pure shape
  grow (fun _ => do
    let following ← nextPrecedence
    if precedence < following then
      operatorRest nested following
      return some .other
    else return none) shape

end Expression

end RemoteQuery.Sql
