import RemoteQuery.Json.Value
import RemoteQuery.Decimal.Read
import RemoteQuery.Decimal.Written
set_option autoImplicit false

/-! JSON numbers.  Whole numbers that fit 64 bits are exact.  Of every other number as
many leading digits are kept as fit 64 bits; they are rounded to a floating-point number
and then scaled by a power of ten. -/

namespace RemoteQuery.Json

def greatestWhole : Nat := UInt64.size - 1

/-- Append digits to a significand as long as it fits 64 bits; also the count of the
digits appended. -/
def accumulate (significand : Nat) : List Char → Nat × Nat
  | [] => (significand, 0)
  | digit :: rest =>
      let longer := 10 * significand + Decimal.digitValue digit
      if longer ≤ greatestWhole then
        let (final, used) := accumulate longer rest
        (final, used + 1)
      else (significand, 0)

def powerOfTen (exponent : Nat) : Float := Decimal.ofScientific false 1 exponent

/-- Divide by a power of ten, in steps of at most `10 ^ 308`. -/
def divideByPower : Nat → Float → Nat → Float
  | 0, number, _ => number
  | steps + 1, number, power =>
      if power ≤ 308 then number / powerOfTen power
      else divideByPower steps (number / powerOfTen 308) (power - 308)

/-- The significand as a floating-point number, times a power of ten.  `none` when the
product is beyond every finite number.  After four steps of division nothing is left of
64 bits. -/
def scale? (significand : Nat) (exponent : Int) : Option Float :=
  if significand = 0 then some (Decimal.ofInt 0)
  else if exponent < 0 then some (divideByPower 4 (Decimal.ofInt significand) exponent.natAbs)
  else if 308 < exponent then none
  else
    let product := Decimal.ofInt significand * powerOfTen exponent.toNat
    if Decimal.isFinite product then some product else none

def realValue (negative : Bool) (significand : Nat) (exponent : Int) : Value :=
  match scale? significand exponent with
  | none => .unusable
  | some number => .number (.real (if negative then -number else number))

def readFraction : List Char → Option (List Char × List Char)
  | '.' :: rest =>
      let digits := rest.takeWhile Text.isAsciiDigit
      if digits.isEmpty then none else some (digits, rest.dropWhile Text.isAsciiDigit)
  | text => some ([], text)

def readPower : List Char → Option (Option Int × List Char)
  | [] => some (none, [])
  | c :: rest =>
      if c = 'e' || c = 'E' then
        let (negative, unsigned) := Decimal.readSign rest
        let digits := unsigned.takeWhile Text.isAsciiDigit
        if digits.isEmpty then none
        else
          let size : Int := Decimal.natOfDigits digits
          some (some (if negative then -size else size), unsigned.dropWhile Text.isAsciiDigit)
      else some (none, c :: rest)

def readUnsigned (negative : Bool) (text : List Char) : Option (Value × List Char) := do
  let digits := text.takeWhile Text.isAsciiDigit
  if digits.isEmpty || (digits.head? = some '0' && 1 < digits.length) then none
  else
    let (fraction, afterFraction) ← readFraction (text.dropWhile Text.isAsciiDigit)
    let (power, rest) ← readPower afterFraction
    let (whole, used) := accumulate 0 digits
    if used = digits.length && fraction.isEmpty && power.isNone then
      if negative then
        if whole = 0 || Decimal.halfWord < whole then some (realValue true whole 0, rest)
        else some (.number (.whole (-(whole : Int))), rest)
      else some (.number (.whole whole), rest)
    else
      let (significand, places) := accumulate whole fraction
      let exponent : Int := (digits.length - used : Nat) - (places : Int) + power.getD 0
      some (realValue negative significand exponent, rest)

def readNumber : List Char → Option (Value × List Char)
  | '-' :: rest => readUnsigned true rest
  | text => readUnsigned false text

/-- The text of a number.  A number that is not finite is written as `null`. -/
def Number.written : Number → List Char
  | .whole (.ofNat size) => Decimal.digitsOf size
  | .whole (.negSucc size) => '-' :: Decimal.digitsOf (size + 1)
  | .real number =>
      if Decimal.isFinite number then (Decimal.jsonText number).toList else "null".toList

end RemoteQuery.Json
