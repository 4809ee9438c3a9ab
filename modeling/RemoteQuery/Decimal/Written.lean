import RemoteQuery.Decimal.Shortest
set_option autoImplicit false

/-! Floating-point numbers as text.  The plain form never has an exponent and writes a
whole number without a point.  The JSON form always shows that the number is not a
whole-number literal, and turns to an exponent for very large and very small sizes. -/

namespace RemoteQuery.Decimal

def digitsOf (number : Nat) : List Char := Nat.toDigits 10 number

def zeros (count : Nat) : List Char := List.replicate count '0'

def positional (written : Digits) : List Char :=
  let digits := digitsOf written.digits
  if 0 ≤ written.exponent then digits ++ zeros written.exponent.toNat
  else
    let places := (-written.exponent).toNat
    if places < digits.length then
      digits.take (digits.length - places) ++ '.' :: digits.drop (digits.length - places)
    else '0' :: '.' :: (zeros (places - digits.length) ++ digits)

def scientific (written : Digits) : List Char :=
  let digits := digitsOf written.digits
  let exponent := written.exponent + digits.length - 1
  let mantissa := match digits with
    | [] => []
    | [digit] => [digit]
    | digit :: more => digit :: '.' :: more
  mantissa ++ 'e' :: (if exponent < 0 then '-' else '+') :: digitsOf exponent.natAbs

def signed (number : Float) (size : List Char) : String :=
  String.ofList (if isNegative number then '-' :: size else size)

/-- The plain form: never an exponent, and no point for a whole number. -/
def plain (number : Float) : String :=
  if isNaN number then "NaN"
  else if isFinite number then signed number (positional (shortest .up number))
  else signed number "inf".toList

/-- The JSON form of a finite number.  Sizes from `0.00001` to below `10 ^ 16` are
written positionally, with at least one digit behind the point. -/
def jsonText (number : Float) : String :=
  let written := shortest .even number
  let position := written.exponent + (digitsOf written.digits).length
  signed number <|
    if written.digits = 0 then "0.0".toList
    else if -5 < position && position ≤ 16 then
      if 0 ≤ written.exponent then positional written ++ ['.', '0'] else positional written
    else scientific written

end RemoteQuery.Decimal
