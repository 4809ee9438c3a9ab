import RemoteQuery.Decimal.Binary
import RemoteQuery.Text.Letter
import RemoteQuery.Text.Search
set_option autoImplicit false

/-! Reading decimal text as a floating-point number: an optional sign, then digits with
at most one point among them and an optional exponent, or one of the names of infinity
and of the undefined number in any case. -/

namespace RemoteQuery.Decimal

def digitValue (c : Char) : Nat := c.toNat - '0'.toNat

def natOfDigits (digits : List Char) : Nat :=
  digits.foldl (fun value digit => 10 * value + digitValue digit) 0

/-- The number nearest to `significand · 10 ^ exponent`.  Far outside the range of
finite numbers the power of ten is not computed. -/
def ofScientific (negative : Bool) (significand : Nat) (exponent : Int) : Float :=
  let magnitude := (Nat.log2 significand : Int) * 30103 / 100000 + exponent
  if significand = 0 || magnitude < -400 then ofSizeBits negative 0
  else if 400 < magnitude then ofSizeBits negative infinityBits
  else nearest negative (significand * Nat.pow 10 exponent.toNat)
    (Nat.pow 10 (-exponent).toNat)

/-- Digits, a point and more digits, at least one digit in all; then what follows.  The
digits are given as one whole number and the count of those behind the point. -/
def readSignificand (text : List Char) : Option (Nat × Nat × List Char) :=
  let whole := text.takeWhile Text.isAsciiDigit
  let behind := text.dropWhile Text.isAsciiDigit
  let (fraction, rest) := match behind with
    | '.' :: more => (more.takeWhile Text.isAsciiDigit, more.dropWhile Text.isAsciiDigit)
    | _ => ([], behind)
  if whole.isEmpty && fraction.isEmpty then none
  else some (natOfDigits (whole ++ fraction), fraction.length, rest)

def readSign : List Char → Bool × List Char
  | '-' :: rest => (true, rest)
  | '+' :: rest => (false, rest)
  | text => (false, text)

def readExponent : List Char → Option Int
  | [] => some 0
  | c :: rest =>
      if c = 'e' || c = 'E' then
        let (negative, digits) := readSign rest
        if digits.isEmpty || !digits.all Text.isAsciiDigit then none
        else
          let value : Int := natOfDigits digits
          some (if negative then -value else value)
      else none

def undefinedNumber : Float := Float.ofBits 0x7FF8000000000000

def read? (text : String) : Option Float :=
  let (negative, size) := readSign text.toList
  let name := String.ofList (size.map Char.toLower)
  if name = "inf" || name = "infinity" then some (ofSizeBits negative infinityBits)
  else if name = "nan" then some undefinedNumber
  else do
    let (significand, places, rest) ← readSignificand size
    let exponent ← readExponent rest
    some (ofScientific negative significand (exponent - places))

/-- The whole number below `2 ^ 64` that decimal digits stand for, perhaps with a plus
sign before them. -/
def readCount? (text : String) : Option UInt64 :=
  let digits := match text.toList with
    | '+' :: rest => rest
    | whole => whole
  let value := natOfDigits digits
  if digits.isEmpty || !digits.all Text.isAsciiDigit || UInt64.size ≤ value then none
  else some (UInt64.ofNat value)

end RemoteQuery.Decimal
