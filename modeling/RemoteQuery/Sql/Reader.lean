import RemoteQuery.Sql.Syntax
import RemoteQuery.Sql.Token
set_option autoImplicit false

/-! Reading syntax from a list of tokens.  A reader consumes a prefix of the tokens
or stops: because the next token does not fit, or because the text is nested too
deeply.  Only the first kind of stop may be answered by trying another reading. -/

namespace RemoteQuery.Sql

inductive Stop where
  | unexpected
  | tooDeep
  deriving Repr, DecidableEq, Inhabited

/-- The tokens still to be read.  `bound` is the number of tokens of the whole text
and so bounds the rounds of every loop; `hierarchical` holds inside the relationships of
a hierarchy, where an expression may speak of the row before. -/
structure Cursor where
  rest : List Lexeme
  bound : Nat
  hierarchical : Bool
  deriving Repr, Inhabited

abbrev Reader := StateT Cursor (Except Stop)

namespace Reader

variable {α β : Type}

def fail : Reader α := throw .unexpected

/-- Run a reader; when the next token does not fit, go back and answer `none`. -/
def attempt (reader : Reader α) : Reader (Option α) := fun cursor =>
  match reader cursor with
  | .ok (a, after) => .ok (some a, after)
  | .error .unexpected => .ok (none, cursor)
  | .error .tooDeep => .error .tooDeep

/-- Run a reader; when it stops for whatever reason, go back and answer the stop. -/
def outcome (reader : Reader α) : Reader (Except Stop α) := fun cursor =>
  match reader cursor with
  | .ok (a, after) => .ok (.ok a, after)
  | .error stop => .ok (.error stop, cursor)

def bound : Reader Nat := return (← get).bound

def isHierarchical : Reader Bool := return (← get).hierarchical

def hierarchically (reader : Reader α) : Reader α := do
  let outer ← isHierarchical
  modify fun cursor => { cursor with hierarchical := true }
  let a ← reader
  modify fun cursor => { cursor with hierarchical := outer }
  return a

def peekAt (distance : Nat) : Reader (Option Token) :=
  return ((← get).rest[distance]?).map (·.token)

def peek : Reader (Option Token) := return (← get).rest.head?.map (·.token)

def skip : Reader Unit := modify fun cursor => { cursor with rest := cursor.rest.tail }

def next : Reader Token := do
  match (← get).rest with
  | lexeme :: rest =>
      modify fun cursor => { cursor with rest := rest }
      return lexeme.token
  | [] => fail

/-- The next token, which has to follow the previous one directly. -/
def nextJoined : Reader Token := do
  match (← get).rest with
  | lexeme :: rest =>
      if lexeme.joined then
        modify fun cursor => { cursor with rest := rest }
        return lexeme.token
      else fail
  | [] => fail

def isKeyword (keyword : String) : Option Token → Bool
  | some (.word _ k) => k == keyword
  | _ => false

def keywordOf : Option Token → String
  | some (.word _ k) => k
  | _ => ""

def isSymbol (symbol : String) : Option Token → Bool
  | some (.symbol s) => s == symbol
  | _ => false

def peekKeyword (keyword : String) : Reader Bool := return isKeyword keyword (← peek)

def peekSymbol (symbol : String) : Reader Bool := return isSymbol symbol (← peek)

def keyword? (keyword : String) : Reader Bool := do
  if ← peekKeyword keyword then skip; return true else return false

def symbol? (symbol : String) : Reader Bool := do
  if ← peekSymbol symbol then skip; return true else return false

def startsWithKeywords : List String → List Lexeme → Bool
  | [], _ => true
  | keyword :: more, lexeme :: rest =>
      isKeyword keyword (some lexeme.token) && startsWithKeywords more rest
  | _ :: _, [] => false

def keywords? (keywords : List String) : Reader Bool := do
  let cursor ← get
  if startsWithKeywords keywords cursor.rest then
    set { cursor with rest := cursor.rest.drop keywords.length }
    return true
  else return false

def oneOf? (keywords : List String) : Reader (Option String) := do
  match ← peek with
  | some (.word _ k) =>
      if k != "" && keywords.contains k then skip; return some k else return none
  | _ => return none

def keyword (k : String) : Reader Unit := do
  if ← keyword? k then return () else fail

def keywords (ks : List String) : Reader Unit := do
  if ← keywords? ks then return () else fail

def symbol (s : String) : Reader Unit := do
  if ← symbol? s then return () else fail

def oneOf (ks : List String) : Reader String := do
  match ← oneOf? ks with
  | some k => return k
  | none => fail

def void (reader : Reader α) : Reader Unit := do let _ ← reader

def afterKeyword (k : String) (reader : Reader α) : Reader Unit := do
  if ← keyword? k then void reader

def parenthesised (reader : Reader α) : Reader α := do
  symbol "("
  let a ← reader
  symbol ")"
  return a

def rounds : Nat → Reader Bool → Reader Unit
  | 0, _ => return ()
  | n + 1, step => do
      if ← step then rounds n step else return ()

def whileTrue (step : Reader Bool) : Reader Unit := do rounds ((← bound) + 1) step

def growRounds : Nat → (α → Reader (Option α)) → α → Reader α
  | 0, _, a => return a
  | n + 1, step, a => do
      match ← step a with
      | some b => growRounds n step b
      | none => return a

def grow (step : α → Reader (Option α)) (a : α) : Reader α := do
  growRounds ((← bound) + 1) step a

/-- One or more items; `more` says after each whether another follows. -/
def itemsWhile (more : Reader Bool) (item : Reader α) : Reader (List α) := do
  let first ← item
  let items ← grow (fun items => do
    if ← more then return some ((← item) :: items) else return none) [first]
  return items.reverse

def commaSeparated (item : Reader α) : Reader (List α) := itemsWhile (symbol? ",") item

/-- One or more items between commas, where a last comma may stand before a closing
mark, the end, or a word that satisfies `ends`. -/
def commaSeparatedTrailing (ends : String → Bool) (item : Reader α) : Reader (List α) :=
  itemsWhile (do
    if ← symbol? "," then
      match ← peek with
      | none => return false
      | some (.word _ k) => return !ends k
      | some (.symbol s) => return !([")", ";", "]", "\x7d"].contains s)
      | some _ => return true
    else return false) item

end Reader

structure Placed where
  relation : Relation
  aliased : Bool
  deriving Inhabited

/-- The readers for the constructs one level deeper in the nesting. -/
structure Nested where
  statement : Reader Statement
  query : Reader Query
  /-- An expression whose operators bind tighter than the given precedence. -/
  expression : Nat → Reader Shape
  relation : Reader Placed
  deriving Inhabited

namespace Nested

def expr (nested : Nested) : Reader Shape := nested.expression 0

def exprs (nested : Nested) : Reader (List Shape) := Reader.commaSeparated nested.expr

def none : Nested where
  statement := throw .tooDeep
  query := throw .tooDeep
  expression := fun _ => throw .tooDeep
  relation := throw .tooDeep

end Nested

end RemoteQuery.Sql
