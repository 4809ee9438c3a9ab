set_option autoImplicit false

/-! Syntax trees of SQL statements, as far as the ranking check looks into them.
Of an expression only its outermost form is kept.  A query keeps its common table
expressions and its body; a body keeps its select list and its sources; a source
keeps its relation and the relations joined to it. -/

namespace RemoteQuery.Sql

/-- The outermost form of an expression. -/
inductive Shape where
  /-- One identifier; `bare` when it was written without quotes. -/
  | name (text : String) (bare : Bool)
  | path
  /-- A function call and whether it has an `OVER` clause. -/
  | call (windowed : Bool)
  | value
  | access
  | wildcard
  | other
  deriving Repr, DecidableEq, Inhabited

structure Item where
  shape : Shape
  label : Option String
  deriving Repr, DecidableEq, Inhabited

mutual

inductive Query where
  | mk (tables : List Query) (body : Body)

inductive Body where
  | select (items : List Item) (sources : List Source)
  | parenthesised (query : Query)
  | setOperation (left right : Body)
  /-- Rows of values, a named table, or a data-changing statement. -/
  | other

inductive Source where
  | mk (relation : Relation) (joined : List Relation)

inductive Relation where
  | derived (query : Query)
  | nestedJoin (source : Source)
  | other

end

inductive Statement where
  | query (query : Query)
  | other

instance : Inhabited Body := ⟨.other⟩
instance : Inhabited Query := ⟨.mk [] .other⟩
instance : Inhabited Relation := ⟨.other⟩
instance : Inhabited Source := ⟨.mk default []⟩
instance : Inhabited Statement := ⟨.other⟩

end RemoteQuery.Sql
