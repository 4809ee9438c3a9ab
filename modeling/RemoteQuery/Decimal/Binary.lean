set_option autoImplicit false

/-! Floating-point numbers as exact fractions.  A finite number is a whole mantissa
times a power of two; in the other direction a fraction has a nearest number, where a
fraction halfway between two numbers takes the one with the even mantissa. -/

namespace RemoteQuery.Decimal

/-- The size of a finite number: `mantissa · 2 ^ exponent`. -/
structure Binary where
  mantissa : Nat
  exponent : Int
  deriving Repr, DecidableEq

def halfWord : Nat := 0x8000000000000000

/-- The least mantissa of full precision, `2 ^ 52`. -/
def mantissaUnit : Nat := 0x10000000000000

/-- Whether the sign bit is set; true of `-0` too. -/
def isNegative (number : Float) : Bool := halfWord ≤ number.toBits.toNat

def sizeBits (number : Float) : Nat := number.toBits.toNat % halfWord

/-- The bits of infinity; those of every finite number are below. -/
def infinityBits : Nat := 2047 * mantissaUnit

def isFinite (number : Float) : Bool := sizeBits number < infinityBits

def isNaN (number : Float) : Bool := infinityBits < sizeBits number

def binaryOf (number : Float) : Binary :=
  let biased : Nat := sizeBits number / mantissaUnit
  let fraction : Nat := sizeBits number % mantissaUnit
  if biased = 0 then { mantissa := fraction, exponent := -1074 }
  else { mantissa := mantissaUnit + fraction, exponent := (biased : Int) - 1075 }

/-- `numerator / denominator` as a whole number, half a unit going to the even one. -/
def roundedQuotient (numerator denominator : Nat) : Nat :=
  let whole := numerator / denominator
  let twice := 2 * (numerator % denominator)
  if twice < denominator then whole
  else if denominator < twice then whole + 1
  else whole + whole % 2

/-- The bits of the number nearest to `numerator / denominator`.  A mantissa below
`2 ^ 52` belongs to the least exponent, so exponent and mantissa add up to the bits. -/
def nearestBits (numerator denominator : Nat) : Nat :=
  if numerator = 0 || denominator = 0 then 0
  else
    let scaled (exponent : Int) : Nat × Nat :=
      (numerator * Nat.pow 2 (-exponent).toNat, denominator * Nat.pow 2 exponent.toNat)
    let guess : Int := (Nat.log2 numerator : Int) - (Nat.log2 denominator : Int) - 52
    let (guessTop, guessBottom) := scaled guess
    let exponent := max (if guessTop < mantissaUnit * guessBottom then guess - 1 else guess) (-1074)
    let (top, bottom) := scaled exponent
    min ((exponent + 1074).toNat * mantissaUnit + roundedQuotient top bottom) infinityBits

def ofSizeBits (negative : Bool) (bits : Nat) : Float :=
  Float.ofBits (UInt64.ofNat ((if negative then halfWord else 0) + bits))

def nearest (negative : Bool) (numerator denominator : Nat) : Float :=
  ofSizeBits negative (nearestBits numerator denominator)

def ofInt (number : Int) : Float := nearest (number < 0) number.natAbs 1

def leastWord : Int := -(halfWord : Int)

def greatestWord : Int := (halfWord : Int) - 1

/-- The whole part of a number, held within 64 bits with sign; zero for the undefined
number. -/
def truncated (number : Float) : Int :=
  if isNaN number then 0
  else if !isFinite number then (if isNegative number then leastWord else greatestWord)
  else
    let size := binaryOf number
    let scaled := size.mantissa * Nat.pow 2 size.exponent.toNat
    let whole : Int := (scaled / Nat.pow 2 (-size.exponent).toNat : Nat)
    max leastWord (min greatestWord (if isNegative number then -whole else whole))

end RemoteQuery.Decimal
