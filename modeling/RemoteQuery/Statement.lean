import RemoteQuery.Error
import RemoteQuery.Literal
import RemoteQuery.Paging
import RemoteQuery.Sql.Ranking
set_option autoImplicit false

/-! From a request to the text of a statement.  The table prefix is expanded, a limit
without an offset is appended, literals are put for the placeholders, and a limit with an
offset becomes a window around the statement.  The service takes no backticks, so they
are left out at the end. -/

namespace RemoteQuery

structure Request where
  sql : String
  bindings : List Binding
  limit : Option UInt64
  offset : Option UInt64
  deriving Inhabited

inductive LimitClause where
  | nothing
  | native (text : String)
  /-- A window around the statement, once its literals are in place. -/
  | deferred (window : Window)
  deriving Repr, DecidableEq, Inhabited

/-- The text of a statement with placeholders, and the window that is still to come. -/
structure CompiledRequest where
  sql : String
  bindings : List Binding
  window : Option Window
  deriving Inhabited

namespace Statement

def prefixToken : String := "\x7bprefix\x7d"

def expandPrefix (tablePrefix sql : List Char) : List Char :=
  Text.replace prefixToken.toList tablePrefix sql

/-- A statement without blanks at its end, one run of semicolons, and blanks before it. -/
def trim (sql : List Char) : List Char :=
  Text.trimEnd (Text.dropEndWhile (fun c => c == ';') (Text.trimEnd sql))

/-- Any offset defers the window, with or without a limit. -/
def compileLimit (limit offset : Option UInt64) : LimitClause :=
  match limit, offset with
  | limit, some offset => .deferred { limit := limit, offset := offset }
  | some limit, none => .native s!"LIMIT {limit.toNat}"
  | none, none => .nothing

def compile (tablePrefix : String) (request : Request) : CompiledRequest :=
  let sql := expandPrefix tablePrefix.toList request.sql.toList
  match compileLimit request.limit request.offset with
  | .nothing =>
      { sql := String.ofList sql, bindings := request.bindings, window := none }
  | .native clause =>
      { sql := String.ofList (trim sql ++ ' ' :: clause.toList)
        bindings := request.bindings, window := none }
  | .deferred window =>
      { sql := String.ofList sql, bindings := request.bindings, window := some window }

inductive Failure where
  | refused (error : QueryError)
  | overflow (overflow : Overflow)
  deriving Repr, DecidableEq, Inhabited

def missingRanking : QueryError :=
  .paginationSyntax
    s!"Required `ROW_NUMBER() OVER(...) AS {Sql.rankingName}` to implement LIMIT with OFFSET"

/-- Select the rows of a page from a statement that has a ranking column.  The limit
zero asks for no page at all. -/
def cutPage (sql : String) (limit offset : UInt64) : Except Failure String :=
  if !Sql.hasRankingColumn sql then .error (.refused missingRanking)
  else match Window.rowRange { limit := some limit, offset := offset } with
    | .error overflow => .error (.overflow overflow)
    | .ok none => .ok sql
    | .ok (some (first, last)) =>
        let statement := String.ofList (trim sql.toList)
        .ok (s!"SELECT * FROM ({statement}) WHERE {Sql.rankingName} BETWEEN "
          ++ s!"{first.toNat} AND {last.toNat}")

def stripBackticks (sql : String) : String :=
  String.ofList (sql.toList.filter fun c => c != '\x60')

/-- The statement as it is sent.  An offset without a limit cannot be expressed and is
ignored. -/
def finish (sql : String) (window : Option Window) : Except Failure String :=
  match window with
  | some { limit := some limit, offset } => (cutPage sql limit offset).map stripBackticks
  | _ => .ok (stripBackticks sql)

def prepare (tablePrefix : String) (policy : LiteralPolicy) (request : Request) :
    Except Failure String :=
  let compiled := compile tablePrefix request
  let bound := Binding.substitute policy compiled.sql.toList compiled.bindings
  finish (String.ofList bound) compiled.window

end Statement

end RemoteQuery
