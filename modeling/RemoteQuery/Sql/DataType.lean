import RemoteQuery.Sql.Name
set_option autoImplicit false

/-! Data types.  Every word that is no built-in type names a type of the user, with
optional modifiers in parentheses.  A closing `>>` ends two nested types at once. -/

namespace RemoteQuery.Sql
open Reader

/-- What an expression has to know of a type that stands at its beginning. -/
inductive TypeKind where
  | interval
  | custom
  | builtIn
  deriving Repr, DecidableEq, Inhabited

namespace DataType

def plainTypes : List String :=
  ["BOOLEAN", "BOOL", "DATE", "DATE32", "UUID", "JSON", "JSONB", "REGCLASS", "TEXT", "TINYTEXT",
   "MEDIUMTEXT", "LONGTEXT", "BYTEA", "TINYBLOB", "MEDIUMBLOB", "LONGBLOB", "TRIGGER", "INT16",
   "INT32", "INT64", "INT128", "INT256", "UINT8", "UINT16", "UINT32", "UINT64", "UINT128",
   "UINT256", "FLOAT4", "FLOAT32", "FLOAT64", "FLOAT8", "HUGEINT", "UHUGEINT", "UBIGINT",
   "UINTEGER", "USMALLINT", "UTINYINT", "TSVECTOR", "TSQUERY"]

def integerTypes : List String :=
  ["TINYINT", "SMALLINT", "MEDIUMINT", "INT", "INTEGER", "BIGINT"]

/-- Whole numbers named for their bytes, which may only be marked as unsigned. -/
def byteIntegerTypes : List String := ["INT2", "INT4", "INT8"]

def sizedTypes : List String :=
  ["BINARY", "BLOB", "BYTES", "STRING", "DATETIME", "TIMESTAMP_NTZ", "TIMESTAMPTZ", "TIMETZ",
   "CLOB", "VARBIT"]

def decimalTypes : List String := ["FLOAT", "DECIMAL", "DEC"]

def exactTypes : List String := ["NUMERIC", "BIGNUMERIC", "BIGDECIMAL"]

def characterLength : Reader Unit := do
  if ← symbol? "(" then
    unless ← keyword? "MAX" do
      wholeNumber
      void (oneOf? ["CHARACTERS", "OCTETS"])
    symbol ")"

def byteLength : Reader Unit := do
  if ← symbol? "(" then
    unless ← keyword? "MAX" do wholeNumber
    symbol ")"

def precisionAndScale : Reader Unit := optionalPrecisionAnd signedNumber

def unsigned : Reader Unit := void (keyword? "UNSIGNED")

def label : Reader Unit := do
  match ← next with
  | .quoted _ => return ()
  | .literal _ => return ()
  | token => unless isPlainWord (some token) do fail

def member : Reader Unit := do
  label
  if ← symbol? "=" then
    match ← next with
    | .number _ => return ()
    | _ => fail

def quotedText : Reader Unit := do
  match ← next with
  | .quoted _ => return ()
  | _ => fail

def timeZone : Reader Unit := do
  match ← oneOf? ["WITH", "WITHOUT"] with
  | some _ => keywords ["TIME", "ZONE"]
  | none => return ()

def modifiers : Reader Unit := do
  if ← symbol? "(" then
    whileTrue do
      match ← next with
      | .word _ _ => return true
      | .number _ => return true
      | .quoted _ => return true
      | .symbol "," => return true
      | .symbol ")" => return false
      | _ => fail

def intervalFields : Reader Unit := do
  match ← oneOf? ["YEAR", "DAY", "HOUR", "MINUTE", "MONTH", "SECOND"] with
  | some _ => if ← keyword? "TO" then void (oneOf ["MONTH", "HOUR", "MINUTE", "SECOND"])
  | none => return ()

/-- The closing mark of a type in angle brackets.  `closed` when the inner type has
already consumed it as the second half of a `>>`; the answer says whether this
closing leaves such a half for the type around it. -/
def closeAngle (closed : Bool) : Reader Bool := do
  if closed then return false
  else if ← symbol? ">" then return false
  else if ← symbol? ">>" then return true
  else fail

def readField (inner : Reader (TypeKind × Bool)) : Reader Bool := do
  let named := match ← peekAt 0, ← peekAt 1 with
    | some (.word _ _), some (.word _ _) => true
    | some (.word _ _), some (.symbol ":") => true
    | _, _ => false
  if named then
    skip
    let _ ← symbol? ":"
  let (_, closed) ← inner
  return closed

/-- Fields of a structure; the last one may have closed the structure as well. -/
def readFields (inner : Reader (TypeKind × Bool)) : Reader Bool := do
  grow (fun closed => do
    if closed then return none
    else if ← symbol? "," then return some (← readField inner)
    else return none) (← readField inner)

def growBrackets (kind : TypeKind) : Reader TypeKind :=
  grow (fun _ => do
    if ← symbol? "[" then
      let _ ← attempt wholeNumber
      symbol "]"
      return some .builtIn
    else return none) kind

def readBase (inner : Reader (TypeKind × Bool)) : Reader (TypeKind × Bool) := do
  let whole : Reader Unit := do if (← inner).2 then fail
  let column : Reader Unit := do
    void identifier
    whole
  let columns : Reader Unit := void (parenthesised (commaSeparated column))
  let builtIn (rest : Reader Unit) : Reader (TypeKind × Bool) := do
    skip
    rest
    return (.builtIn, false)
  match ← peek with
  | some (.word _ k) =>
      if plainTypes.contains k then builtIn (pure ())
      else if integerTypes.contains k then builtIn do
        optionalPrecision
        void (oneOf? ["UNSIGNED", "SIGNED"])
      else if byteIntegerTypes.contains k then builtIn (optionalPrecision *> unsigned)
      else if sizedTypes.contains k then builtIn optionalPrecision
      else if decimalTypes.contains k then builtIn (precisionAndScale *> unsigned)
      else if exactTypes.contains k then builtIn precisionAndScale
      else match k with
      | "REAL" => builtIn unsigned
      | "DOUBLE" => builtIn do
          unless ← keyword? "PRECISION" do precisionAndScale
          unsigned
      | "VARCHAR" | "NVARCHAR" => builtIn characterLength
      | "VARBINARY" => builtIn byteLength
      | "CHARACTER" | "CHAR" => builtIn do
          if ← keywords? ["LARGE", "OBJECT"] then optionalPrecision
          else
            let _ ← keyword? "VARYING"
            characterLength
      | "BIT" => builtIn do
          let _ ← keyword? "VARYING"
          optionalPrecision
      | "DATETIME64" => builtIn (parenthesised do
          wholeNumber
          if ← symbol? "," then label)
      | "FIXEDSTRING" => builtIn (parenthesised wholeNumber)
      | "TIMESTAMP" | "TIME" => builtIn (optionalPrecision *> timeZone)
      | "INTERVAL" =>
          skip
          intervalFields
          optionalPrecision
          return (.interval, false)
      | "ENUM" | "ENUM8" | "ENUM16" =>
          builtIn (void (parenthesised (commaSeparated member)))
      | "SET" => builtIn (void (parenthesised (commaSeparated quotedText)))
      | "SIGNED" | "UNSIGNED" => builtIn (void (keyword? "INTEGER"))
      | "ARRAY" =>
          skip
          symbol "<"
          let (_, closed) ← inner
          return (.builtIn, ← closeAngle closed)
      | "STRUCT" =>
          skip
          if ← symbol? "<" then
            let closed ← readFields inner
            return (.builtIn, ← closeAngle closed)
          else return (.builtIn, false)
      | "MAP" => builtIn (parenthesised do
          whole
          symbol ","
          whole)
      | "NULLABLE" | "LOWCARDINALITY" => builtIn (parenthesised whole)
      | "TUPLE" => builtIn (void (parenthesised (commaSeparated (readField inner))))
      | "UNION" | "NESTED" => builtIn columns
      | "TABLE" => builtIn do if ← peekSymbol "(" then columns
      | _ =>
          if k == "ANY" && isKeyword "TYPE" (← peekAt 1) then builtIn skip
          else
            objectName
            modifiers
            return (.custom, false)
  | _ => fail

/-- A type, and whether it ends with the first half of a `>>`. -/
def read : Nat → Reader (TypeKind × Bool)
  | 0 => fail
  | fuel + 1 => do
      let (kind, trailing) ← readBase (read fuel)
      return (← growBrackets kind, trailing)

end DataType

def dataType : Reader TypeKind := do
  let (kind, trailing) ← DataType.read ((← bound) + 1)
  if trailing then fail else return kind

end RemoteQuery.Sql
