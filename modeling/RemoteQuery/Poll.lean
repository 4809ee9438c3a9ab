import RemoteQuery.Decimal.Binary
set_option autoImplicit false

/-! Pacing of status calls.  Intervals are whole nanoseconds.  After every poll the
interval grows by a factor, up to a ceiling; a factor that is not above one keeps it. -/

namespace RemoteQuery

def nanosPerSecond : Nat := 1000000000

def nanosPerMilli : Nat := 1000000

def secondsOf (nanos : Nat) : Float :=
  Decimal.ofInt (nanos / nanosPerSecond : Nat)
    + Decimal.ofInt (nanos % nanosPerSecond : Nat) / Decimal.ofInt nanosPerSecond

/-- The whole number of nanoseconds nearest to a count of seconds; nothing for a count
that is negative, undefined, or has more seconds than 64 bits hold. -/
def nanosOf? (seconds : Float) : Option Nat :=
  if !Decimal.isFinite seconds || (Decimal.isNegative seconds && Decimal.sizeBits seconds ≠ 0) then
    none
  else
    let size := Decimal.binaryOf seconds
    let nanos := Decimal.roundedQuotient
      (size.mantissa * Nat.pow 2 size.exponent.toNat * nanosPerSecond)
      (Nat.pow 2 (-size.exponent).toNat)
    if nanos < UInt64.size * nanosPerSecond then some nanos else none

structure PollPolicy where
  /-- Nanoseconds before the second poll. -/
  interval : Nat
  maxInterval : Nat
  backoffFactor : Float
  /-- Nanoseconds to wait in all; nothing to wait for as long as it takes. -/
  timeout : Option Nat
  deriving Repr, Inhabited

namespace PollPolicy

/-- One poll a second for at most half an hour. -/
def standard : PollPolicy :=
  { interval := nanosPerSecond, maxInterval := nanosPerSecond
    backoffFactor := Decimal.ofInt 1, timeout := some (1800 * nanosPerSecond) }

def ceiling (policy : PollPolicy) : Nat := max policy.maxInterval policy.interval

def grows (policy : PollPolicy) : Bool :=
  Decimal.isFinite policy.backoffFactor && !(policy.backoffFactor ≤ Decimal.ofInt 1)

def nextInterval (policy : PollPolicy) (current : Nat) : Nat :=
  if policy.grows then
    match nanosOf? (secondsOf current * policy.backoffFactor) with
    | some next => min next policy.ceiling
    | none => policy.ceiling
  else current

end PollPolicy

end RemoteQuery
