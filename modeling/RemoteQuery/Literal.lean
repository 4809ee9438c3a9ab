import RemoteQuery.Binding
import RemoteQuery.Text.Blank
set_option autoImplicit false

/-! Bindings as literals in the text of a statement.  Numbers, and texts that read as
numbers, stand bare; every other text stands in single quotes. -/

namespace RemoteQuery

inductive LiteralPolicy where
  /-- They are kept, so that texts have to come from a trusted source. -/
  | verbatim
  /-- They are written twice, so that a text stays inside its literal. -/
  | escapeQuotes
  deriving Repr, DecidableEq, Inhabited

namespace Literal

def escape : List Char → List Char
  | [] => []
  | c :: rest => if c = '\'' then '\'' :: '\'' :: escape rest else c :: escape rest

def dropSign : List Char → List Char
  | [] => []
  | c :: rest => if c = '+' || c = '-' then rest else c :: rest

/-- Pass over digits and at most one full stop; the count of the digits, and the rest. -/
def mantissa (seenPoint : Bool) : List Char → Nat × List Char
  | [] => (0, [])
  | c :: rest =>
      if Text.isAsciiDigit c then
        let (digits, behind) := mantissa seenPoint rest
        (digits + 1, behind)
      else if c = '.' && !seenPoint then mantissa true rest
      else (0, c :: rest)

/-- Nothing, or an exponent with at least one digit. -/
def isExponent : List Char → Bool
  | [] => true
  | c :: rest =>
      (c = 'e' || c = 'E') && !(dropSign rest).isEmpty && (dropSign rest).all Text.isAsciiDigit

def isTrimmedNumber (text : List Char) : Bool :=
  let (digits, rest) := mantissa false (dropSign text)
  digits ≠ 0 && isExponent rest

/-- Whether a text reads as a number; blanks may stand around it. -/
def isNumeric (text : List Char) : Bool := isTrimmedNumber (Text.trim text)

def quote (text : List Char) : List Char := '\'' :: (text ++ ['\''])

end Literal

namespace Binding

/-- The literal of a binding.  The undefined number and the infinities have no bare form
and are quoted by name. -/
def literal (policy : LiteralPolicy) : Binding → List Char
  | integer number => (toString number.toInt).toList
  | real number =>
      if Decimal.isFinite number then (Decimal.plain number).toList
      else Literal.quote (Decimal.plain number).toList
  | flag value => if value then ['1'] else ['0']
  | text value =>
      if Literal.isNumeric value.toList then value.toList
      else match policy with
        | .verbatim => Literal.quote value.toList
        | .escapeQuotes => Literal.quote (Literal.escape value.toList)

def placeholder : Char := '?'

/-- Put literals for placeholders from left to right.  Placeholders without a binding
stay, and bindings without a placeholder are ignored. -/
def substitute (policy : LiteralPolicy) : List Char → List Binding → List Char
  | sql, [] => sql
  | [], _ :: _ => []
  | c :: rest, binding :: others =>
      if c = placeholder then literal policy binding ++ substitute policy rest others
      else c :: substitute policy rest (binding :: others)

end Binding

end RemoteQuery
