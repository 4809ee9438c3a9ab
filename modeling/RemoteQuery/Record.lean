import RemoteQuery.Json.Value
set_option autoImplicit false

/-! Result rows.  A record keeps its columns in the order in which they were first
inserted; inserting a column again replaces its value in place. -/

namespace RemoteQuery

structure Record where
  fields : List (String × String)
  deriving Repr, DecidableEq, Inhabited

namespace Record

def empty : Record := { fields := [] }

/-- Replace the value of the first field with the name, or append a field. -/
def insertField (column value : String) : List (String × String) → List (String × String)
  | [] => [(column, value)]
  | (name, existing) :: rest =>
      if name = column then (name, value) :: rest
      else (name, existing) :: insertField column value rest

def insert (record : Record) (column value : String) : Record :=
  { fields := insertField column value record.fields }

def ofPairs (pairs : List (String × String)) : Record :=
  pairs.foldl (fun record pair => record.insert pair.1 pair.2) empty

def get? (record : Record) (column : String) : Option String :=
  (record.fields.find? fun field => field.1 == column).map (·.2)

def contains (record : Record) (column : String) : Bool := (record.get? column).isSome

def length (record : Record) : Nat := record.fields.length

def isEmpty (record : Record) : Bool := record.fields.isEmpty

def columns (record : Record) : List String := record.fields.map (·.1)

def encode (record : Record) : Json.Value :=
  .object (record.fields.map fun field => (field.1, .text field.2))

/-- The fields of a row under the names of a header.  A position that is missing in one
of the two is left out. -/
def ofRow (header row : List String) : Record := ofPairs (header.zip row)

/-- The first row names the columns of the others. -/
def ofRows : List (List String) → List Record
  | [] => []
  | header :: rows => rows.map (ofRow header)

end Record

end RemoteQuery
