import RemoteQuery.Decimal.Binary
set_option autoImplicit false

/-! The shortest decimal digits of a floating-point number.  Of all decimal fractions
that read back as the number, those with the fewest digits are taken, and of these the
one nearest to the number. -/

namespace RemoteQuery.Decimal

structure Digits where
  digits : Nat
  exponent : Int
  deriving Repr, DecidableEq

inductive Tie where
  | up
  | even
  deriving Repr, DecidableEq

/-- The fractions that read back as a number, all over one denominator.  The ends
belong to them when the mantissa is even. -/
structure Interval where
  low : Nat
  value : Nat
  high : Nat
  denominator : Nat
  closed : Bool

/-- Below a power of two the numbers lie twice as dense, except at the least exponent. -/
def intervalOf (size : Binary) : Interval :=
  let unit := Nat.pow 2 size.exponent.toNat
  let value := 4 * size.mantissa * unit
  let below := if size.mantissa = mantissaUnit && size.exponent ≠ -1074 then unit else 2 * unit
  { low := value - below, value := value, high := value + 2 * unit,
    denominator := 4 * Nat.pow 2 (-size.exponent).toNat,
    closed := size.mantissa % 2 = 0 }

def Interval.holds (interval : Interval) (point : Nat) : Bool :=
  if interval.closed then interval.low ≤ point && point ≤ interval.high
  else interval.low < point && point < interval.high

/-- The multiple of `10 ^ exponent` in the interval that is nearest to its value. -/
def Interval.onGrid (interval : Interval) (tie : Tie) (exponent : Int) : Option Nat :=
  let stretch := Nat.pow 10 (-exponent).toNat
  let unit := interval.denominator * Nat.pow 10 exponent.toNat
  let stretched : Interval :=
    { interval with
      low := interval.low * stretch
      value := interval.value * stretch
      high := interval.high * stretch }
  let under := stretched.value / unit
  let twice := 2 * (stretched.value % unit)
  match stretched.holds (under * unit), stretched.holds ((under + 1) * unit) with
  | false, false => none
  | true, false => some under
  | false, true => some (under + 1)
  | true, true =>
      if twice < unit then some under
      else if unit < twice then some (under + 1)
      else match tie with
        | .up => some (under + 1)
        | .even => some (under + under % 2)

def Interval.shortest (interval : Interval) (tie : Tie) : Nat → Int → Digits
  | 0, exponent => { digits := 0, exponent := exponent }
  | rounds + 1, exponent =>
      match interval.onGrid tie exponent with
      | some digits => { digits := digits, exponent := exponent }
      | none => interval.shortest tie rounds (exponent - 1)

/-- The shortest digits of the size of a finite number.  The first grid is coarser than
the number, and seventeen digits are always enough. -/
def shortest (tie : Tie) (number : Float) : Digits :=
  let interval := intervalOf (binaryOf number)
  if interval.value = 0 then { digits := 0, exponent := 0 }
  else
    let magnitude : Int :=
      (Nat.log2 interval.value : Int) - (Nat.log2 interval.denominator : Int)
    interval.shortest tie 24 ((magnitude + 1) * 30103 / 100000 + 1)

end RemoteQuery.Decimal
