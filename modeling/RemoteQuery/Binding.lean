import RemoteQuery.Json.Decode
set_option autoImplicit false

/-! Values bound to the placeholders of a statement.  In JSON a binding is a bare
number, truth value or text; a number is a whole-number binding exactly when it is
written as one and fits 64 bits with sign. -/

namespace RemoteQuery

inductive Binding where
  | integer (number : Int64)
  | real (number : Float)
  | flag (value : Bool)
  | text (value : String)
  deriving Repr, Inhabited

namespace Binding

def encode : Binding → Json.Value
  | integer number => .ofInt number.toInt
  | real number => if Decimal.isFinite number then .number (.real number) else .null
  | flag value => .bool value
  | text value => .text value

/-- What a binding can be, in the order in which it is tried. -/
def forms : List (Json.Value → Json.Decoded Binding) := [
  fun value => value.asWord.map integer,
  fun value => value.asReal.map real,
  fun value => value.asFlag.map flag,
  fun value => value.asText.map text]

def decode (value : Json.Value) : Json.Decoded Binding := value.asFirst "Binding" forms

end Binding

end RemoteQuery
