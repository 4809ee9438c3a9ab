import RemoteQuery.Decimal.Read
import RemoteQuery.Statement
import RemoteQuery.Text.Search
set_option autoImplicit false

/-! Arguments of the command.  One argument is the statement; options may stand before
and after it, and behind the argument `--` there are no options any more.  The value of
an option follows an equals sign, or is the next argument unless that looks like an
option itself.  Reading goes from left to right and stops at the first fault and at the
first request for help or for the version, whichever comes first. -/

namespace RemoteQuery.Command

inductive Mode where
  | select
  | statement
  | exportPath
  deriving Repr, DecidableEq, Inhabited

def Mode.ofName? : String → Option Mode
  | "select" => some .select
  | "statement" => some .statement
  | "export" => some .exportPath
  | _ => none

structure Invocation where
  sql : String
  mode : Mode
  bindings : List String
  limit : Option UInt64
  offset : Option UInt64
  dryRun : Bool
  showSql : Bool
  deriving Repr, DecidableEq, Inhabited

def Invocation.request (invocation : Invocation) : Request :=
  { sql := invocation.sql
    bindings := invocation.bindings.map Binding.text
    limit := invocation.limit
    offset := invocation.offset }

inductive Order where
  | run (invocation : Invocation)
  | help (detailed : Bool)
  | version
  | misuse
  deriving Repr, DecidableEq, Inhabited

inductive ValueOption where
  | mode
  | bind
  | limit
  | offset
  deriving Repr, DecidableEq, Inhabited

inductive Flag where
  | dryRun
  | showSql
  | help
  | version
  deriving Repr, DecidableEq, Inhabited

def ValueOption.ofName? : String → Option ValueOption
  | "mode" => some .mode
  | "bind" => some .bind
  | "limit" => some .limit
  | "offset" => some .offset
  | _ => none

def Flag.ofName? : String → Option Flag
  | "dry-run" => some .dryRun
  | "show-sql" => some .showSql
  | "help" => some .help
  | "version" => some .version
  | _ => none

inductive Shape where
  | divider
  | long (name : String) (attached : Option String)
  | short (letters : List Char)
  | plain
  deriving Repr, DecidableEq, Inhabited

/-- Two hyphens begin a long option, one hyphen short ones; a hyphen alone is plain. -/
def Shape.ofArgument (argument : String) : Shape :=
  match argument.toList with
  | ['-', '-'] => .divider
  | '-' :: '-' :: text =>
      let name := String.ofList (text.takeWhile fun c => c != '=')
      match text.dropWhile fun c => c != '=' with
      | [] => .long name none
      | _ :: value => .long name (some (String.ofList value))
  | '-' :: c :: letters => .short (c :: letters)
  | _ => .plain

structure Draft where
  sql : Option String
  mode : Option Mode
  bindings : List String
  limit : Option UInt64
  offset : Option UInt64
  dryRun : Bool
  showSql : Bool
  deriving Repr, DecidableEq, Inhabited

namespace Draft

def empty : Draft :=
  { sql := none, mode := none, bindings := [], limit := none, offset := none
    dryRun := false, showSql := false }

def addStatement (draft : Draft) (argument : String) : Option Draft :=
  match draft.sql with
  | some _ => none
  | none => some { draft with sql := some argument }

/-- Take the value of an option.  Only bindings may be given more than once. -/
def addValue (draft : Draft) (option : ValueOption) (value : String) : Option Draft :=
  match option with
  | .bind => some { draft with bindings := draft.bindings ++ [value] }
  | .mode => do
      if draft.mode.isSome then none
      else return { draft with mode := some (← Mode.ofName? value) }
  | .limit => do
      if draft.limit.isSome then none
      else return { draft with limit := some (← Decimal.readCount? value) }
  | .offset => do
      if draft.offset.isSome then none
      else return { draft with offset := some (← Decimal.readCount? value) }

/-- The statement is required; the mode is `select` unless another one is given. -/
def finish (draft : Draft) : Order :=
  match draft.sql with
  | none => .misuse
  | some sql => .run {
      sql := sql, mode := draft.mode.getD .select, bindings := draft.bindings
      limit := draft.limit, offset := draft.offset
      dryRun := draft.dryRun, showSql := draft.showSql }

def readPlain : Draft → List String → Order
  | draft, [] => draft.finish
  | draft, argument :: rest =>
      match draft.addStatement argument with
      | none => .misuse
      | some draft => readPlain draft rest

def read : Draft → List String → Order
  | draft, [] => draft.finish
  | draft, argument :: rest =>
      match Shape.ofArgument argument with
      | .divider => readPlain draft rest
      | .plain =>
          match draft.addStatement argument with
          | none => .misuse
          | some draft => read draft rest
      | .short letters =>
          match letters.head? with
          | some 'h' => .help false
          | some 'V' => .version
          | _ => .misuse
      | .long name (some value) =>
          match (ValueOption.ofName? name).bind (draft.addValue · value) with
          | none => .misuse
          | some draft => read draft rest
      | .long name none =>
          match Flag.ofName? name with
          | some .help => .help true
          | some .version => .version
          | some .dryRun => if draft.dryRun then .misuse else read { draft with dryRun := true } rest
          | some .showSql =>
              if draft.showSql then .misuse else read { draft with showSql := true } rest
          | none =>
              match rest with
              | [] => .misuse
              | value :: others =>
                  match Shape.ofArgument value with
                  | .plain =>
                      match (ValueOption.ofName? name).bind (draft.addValue · value) with
                      | none => .misuse
                      | some draft => read draft others
                  | _ => .misuse

end Draft

def Order.ofArguments (arguments : List String) : Order := Draft.empty.read arguments

end RemoteQuery.Command
