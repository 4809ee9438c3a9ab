import RemoteQuery.Sql.Reader
set_option autoImplicit false

/-! Names, aliases and literal values.  Any word can be a name where a name is
required, a text in single quotes as well.  An alias after `AS` may be any word; an
alias without `AS` must not be a keyword that continues the statement. -/

namespace RemoteQuery.Sql
open Reader

def isPlainWord : Option Token → Bool
  | some (.word _ k) => k == "" || !knownKeywords.contains k
  | _ => false

def identifier : Reader String := do
  match ← next with
  | .word text _ => return text
  | .quoted text => return text
  | _ => fail

def objectName : Reader Unit := void (itemsWhile (symbol? ".") identifier)

def columnList : Reader Unit := void (parenthesised (commaSeparated identifier))

def qualifiedColumnList : Reader Unit := void (parenthesised (commaSeparated objectName))

/-- An alias, if one follows.  `allowed` decides on the keyword of a word without `AS`. -/
def optionalAlias (allowed : String → Bool) : Reader (Option String) := do
  let explicit ← keyword? "AS"
  match ← peek with
  | some (.word text k) =>
      if explicit || allowed k then skip; return some text else return none
  | some (.quoted text) => skip; return some text
  | _ => if explicit then fail else return none

def columnAlias : Reader (Option String) :=
  optionalAlias fun k => !notColumnAliases.contains k

def value : Reader Unit := do
  match ← next with
  | .number _ => return ()
  | .quoted _ => return ()
  | .literal _ => return ()
  | .placeholder _ => return ()
  | .symbol s =>
      if s == ":" || s == "@" then
        match ← nextJoined with
        | .word _ _ => return ()
        | .number _ => return ()
        | _ => fail
      else fail
  | .word _ k => if ["TRUE", "FALSE", "NULL"].contains k then return () else fail
  | .stray _ => fail

def wholeNumberBelow (limit : Nat) : Reader Unit := do
  match ← next with
  | .number text =>
      match text.toList.all Text.isAsciiDigit, text.toNat? with
      | true, some n => if n < limit then return () else fail
      | _, _ => fail
  | _ => fail

def wholeNumber : Reader Unit := wholeNumberBelow UInt64.size

def signedNumber : Reader Unit := do
  unless ← symbol? "-" do void (symbol? "+")
  wholeNumberBelow (UInt64.size / 2)

def optionalPrecision : Reader Unit := do
  if ← symbol? "(" then
    wholeNumber
    symbol ")"

def optionalPrecisionAnd (scale : Reader Unit) : Reader Unit := do
  if ← symbol? "(" then
    wholeNumber
    if ← symbol? "," then scale
    symbol ")"

def dateTimeField : Reader Bool := do
  match ← next with
  | .word _ k =>
      if k == "WEEK" then
        if ← symbol? "(" then
          void identifier
          symbol ")"
      return k == "SECOND"
  | .quoted _ => return false
  | _ => fail

end RemoteQuery.Sql
