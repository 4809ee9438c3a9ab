import RemoteQuery.Json.Printer
import RemoteQuery.Text.Shown
set_option autoImplicit false

/-! Decoding values of the domain from JSON.  A record is read from an object by field
name, where unknown fields are passed over, or from a list by position.  The first thing
that does not fit is the mismatch. -/

namespace RemoteQuery.Json

inductive Mismatch where
  | wrongType (found : Value) (expected : String)
  | wrongValue (found : Value) (expected : String)
  | wrongLength (length : Nat) (expected : String)
  | missingField (name : String)
  | duplicateField (name : String)
  | unknownVariant (name : String) (known : List String)
  | noVariant (typeName : String)
  | malformed (problem : String)
  deriving Repr, Inhabited

/-- A number with a point even when it is whole. -/
def withPoint (number : Float) : String :=
  let text := Decimal.plain number
  if text.toList.contains '.' || !Decimal.isFinite number then text else text ++ ".0"

def Value.named : Value → String
  | .null => "null"
  | .bool flag => "boolean `" ++ (if flag then "true" else "false") ++ "`"
  | .number (.whole size) => "integer `" ++ toString size ++ "`"
  | .number (.real size) => "floating point `" ++ withPoint size ++ "`"
  | .text content => "string " ++ Text.shown content
  | .list _ => "sequence"
  | .object _ => "map"
  | .unusable => "value"

def quotedName (name : String) : String := "`" ++ name ++ "`"

def Mismatch.message : Mismatch → String
  | .wrongType found expected => s!"invalid type: {found.named}, expected {expected}"
  | .wrongValue found expected => s!"invalid value: {found.named}, expected {expected}"
  | .wrongLength length expected => s!"invalid length {length}, expected {expected}"
  | .missingField name => s!"missing field {quotedName name}"
  | .duplicateField name => s!"duplicate field {quotedName name}"
  | .unknownVariant name known =>
      s!"unknown variant {quotedName name}, expected one of "
        ++ ", ".intercalate (known.map quotedName)
  | .noVariant typeName =>
      s!"data did not match any variant of untagged enum {typeName}"
  | .malformed problem => problem

abbrev Decoded (α : Type) := Except Mismatch α

namespace Value

def asText : Value → Decoded String
  | .text content => .ok content
  | found => .error (.wrongType found "a string")

def asCount : Value → Decoded UInt64
  | .number (.whole size) =>
      if 0 ≤ size && size < (UInt64.size : Int) then .ok (UInt64.ofNat size.toNat)
      else .error (.wrongValue (.number (.whole size)) "u64")
  | found => .error (.wrongType found "u64")

def asWord : Value → Decoded Int64
  | .number (.whole size) =>
      if Decimal.leastWord ≤ size && size ≤ Decimal.greatestWord then .ok (Int64.ofInt size)
      else .error (.wrongValue (.number (.whole size)) "i64")
  | found => .error (.wrongType found "i64")

def asFlag : Value → Decoded Bool
  | .bool flag => .ok flag
  | found => .error (.wrongType found "a boolean")

def asReal : Value → Decoded Float
  | .number (.whole size) => .ok (Decimal.ofInt size)
  | .number (.real size) => .ok size
  | found => .error (.wrongType found "f64")

def asOption {α : Type} (decode : Value → Decoded α) : Value → Decoded (Option α)
  | .null => .ok none
  | found => (decode found).map some

/-- The first of several forms that fits; why the others do not is not told. -/
def asFirst {α : Type} (typeName : String) (forms : List (Value → Decoded α)) (value : Value) :
    Decoded α :=
  match forms.findSome? fun form => (form value).toOption with
  | some content => .ok content
  | none => .error (.noVariant typeName)

/-- One of the known names: as a text, or as the only field of an object whose value is
`null`. -/
def asVariant (known : List String) : Value → Decoded String
  | .text name => check name
  | .object [(name, content)] => do
      let name ← check name
      match content with
      | .null => return name
      | found => throw (.wrongType found "unit")
  | .object fields => .error (.wrongValue (.object fields) "map with a single key")
  | found => .error (.wrongType found "string or map")
where
  check (name : String) : Decoded String :=
    if known.contains name then .ok name else .error (.unknownVariant name known)

end Value

/-- One field of a record: its names, whether a list may end before it, and the check
of its value. -/
structure Slot where
  name : String
  otherNames : List String
  defaulted : Bool
  check : Value → Decoded Unit

namespace Slot

def plain {α : Type} (name : String) (decode : Value → Decoded α) : Slot :=
  { name := name, otherNames := [], defaulted := false
    check := fun value => (decode value).map fun _ => () }

def loose {α : Type} (name : String) (decode : Value → Decoded α) : Slot :=
  { plain name decode with defaulted := true }

def answersTo (slot : Slot) (name : String) : Bool :=
  slot.name == name || slot.otherNames.contains name

end Slot

abbrev Row := List (Option Value)

namespace Value

def structName (typeName : String) : String := "struct " ++ typeName

def fillSlots (slots : List Slot) : Row → List (String × Value) → Decoded Row
  | row, [] => .ok row
  | row, (name, content) :: rest =>
      match slots.findIdx? fun slot => slot.answersTo name with
      | none => fillSlots slots row rest
      | some place =>
          match slots[place]?, row[place]? with
          | some slot, some none =>
              match slot.check content with
              | .error mismatch => .error mismatch
              | .ok () => fillSlots slots (row.set place (some content)) rest
          | some slot, _ => .error (.duplicateField slot.name)
          | none, _ => fillSlots slots row rest

def fillInOrder (complaint : Nat → Mismatch) : Nat → List Slot → List Value → Decoded Row
  | _, [], [] => .ok []
  | position, [], surplus =>
      .error (.wrongLength (position + surplus.length) "fewer elements in array")
  | position, slot :: slots, [] =>
      if slot.defaulted then
        (fillInOrder complaint (position + 1) slots []).map (none :: ·)
      else .error (complaint position)
  | position, slot :: slots, item :: rest =>
      match slot.check item with
      | .error mismatch => .error mismatch
      | .ok () =>
          (fillInOrder complaint (position + 1) slots rest).map (some item :: ·)

def asRow (typeName : String) (slots : List Slot) : Value → Decoded Row
  | .object fields => fillSlots slots (slots.map fun _ => none) fields
  | .list items =>
      let elements := if slots.length = 1 then "1 element" else s!"{slots.length} elements"
      fillInOrder (fun length => .wrongLength length s!"{structName typeName} with {elements}")
        0 slots items
  | found => .error (.wrongType found (structName typeName))

end Value

namespace Row

def required {α : Type} (row : Row) (place : Nat) (name : String)
    (decode : Value → Decoded α) : Decoded α :=
  match row[place]? with
  | some (some content) => decode content
  | _ => .error (.missingField name)

def optional {α : Type} (row : Row) (place : Nat)
    (decode : Value → Decoded α) : Decoded (Option α) :=
  match row[place]? with
  | some (some content) => Value.asOption decode content
  | _ => .ok none

end Row

end RemoteQuery.Json
