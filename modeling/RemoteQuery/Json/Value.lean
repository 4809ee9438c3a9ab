set_option autoImplicit false

/-! JSON values.  A number written without point and exponent stays a whole number as
long as it fits 64 bits, signed or unsigned; every other number is a floating-point
number.  The fields of an object keep the order in which they stand. -/

namespace RemoteQuery.Json

inductive Number where
  | whole (number : Int)
  | real (number : Float)
  deriving Repr, Inhabited

inductive Value where
  | null
  | bool (flag : Bool)
  | number (number : Number)
  | text (text : String)
  | list (items : List Value)
  | object (fields : List (String × Value))
  /-- A literal that is well formed but has no value: a number beyond every
  floating-point number, or a text with half of a surrogate pair. -/
  | unusable
  deriving Repr, Inhabited

namespace Value

def ofNat (number : Nat) : Value := .number (.whole number)

def ofInt (number : Int) : Value := .number (.whole number)

def ofOption {α : Type} (encode : α → Value) : Option α → Value
  | none => .null
  | some content => encode content

def field? (name : String) : Value → Option Value
  | .object fields => (fields.find? fun entry => entry.1 == name).map (·.2)
  | _ => none

mutual

def depth : Value → Nat
  | .list items => depthOfItems items + 1
  | .object fields => depthOfFields fields + 1
  | _ => 0

def depthOfItems : List Value → Nat
  | [] => 0
  | item :: rest => max (depth item) (depthOfItems rest)

def depthOfFields : List (String × Value) → Nat
  | [] => 0
  | (_, content) :: rest => max (depth content) (depthOfFields rest)

def isUsable : Value → Bool
  | .unusable => false
  | .list items => itemsUsable items
  | .object fields => fieldsUsable fields
  | _ => true

def itemsUsable : List Value → Bool
  | [] => true
  | item :: rest => isUsable item && itemsUsable rest

def fieldsUsable : List (String × Value) → Bool
  | [] => true
  | (_, content) :: rest => isUsable content && fieldsUsable rest

end

end Value

end RemoteQuery.Json
