import RemoteQuery.Decimal.Read
import RemoteQuery.Decimal.Written
import RemoteQuery.Text.Blank
import RemoteQuery.Time.Calendar
set_option autoImplicit false

/-! Points in time, as date and time of day in UTC.  They are written as in
`2024-01-01T00:00:00.250Z`, with no, three, six or nine digits of a second.  Reading is
more generous: blanks may stand between the parts, a blank may stand for the `T`, and
the offset may be any that is shorter than a day. -/

namespace RemoteQuery.Time

/-- Seconds since the start of 1970, and nanoseconds on top of them.  A leap second is
the second before it with a thousand million nanoseconds or more. -/
structure Instant where
  seconds : Int
  nanos : Nat
  deriving Repr, DecidableEq

def nanosPerSecond : Nat := 1000000000

def secondsPerDay : Nat := 86400

inductive Fault where
  | outOfRange
  | impossible
  | invalid
  | tooShort
  | tooLong
  deriving Repr, DecidableEq

def Fault.message : Fault → String
  | .outOfRange => "input is out of range"
  | .impossible => "no possible date and time matching input"
  | .invalid => "input contains invalid characters"
  | .tooShort => "premature end of input"
  | .tooLong => "trailing input"

abbrev Scanned (α : Type) := α × List Char

def skipBlank (text : List Char) : List Char := text.dropWhile Text.isBlank

def greatestNumber : Nat := Decimal.halfWord - 1

/-- A number of at least one digit and at most `width` digits. -/
def scanNumber (width : Option Nat) (text : List Char) : Except Fault (Scanned Nat) :=
  match text with
  | [] => .error .tooShort
  | c :: _ =>
      if !Text.isAsciiDigit c then .error .invalid
      else
        let run := text.takeWhile Text.isAsciiDigit
        let digits := match width with
          | some most => run.take most
          | none => run
        let number := Decimal.natOfDigits digits
        if number ≤ greatestNumber then .ok (number, text.drop digits.length)
        else .error .outOfRange

/-- A number of at most two digits between two bounds, behind blanks. -/
def scanTwoDigits (least greatest : Nat) (text : List Char) : Except Fault (Scanned Nat) := do
  let (number, rest) ← scanNumber (some 2) (skipBlank text)
  if least ≤ number && number ≤ greatest then .ok (number, rest) else .error .outOfRange

def yearBound : Int := 0x80000000

/-- A year: four digits, or any number of digits behind a sign. -/
def scanYear (text : List Char) : Except Fault (Scanned Int) := do
  let (year, rest) ← match skipBlank text with
    | '-' :: digits => (scanNumber none digits).map fun (number, rest) => (-(number : Int), rest)
    | '+' :: digits => (scanNumber none digits).map fun (number, rest) => ((number : Int), rest)
    | unsigned => (scanNumber (some 4) unsigned).map fun (number, rest) => ((number : Int), rest)
  if -yearBound ≤ year && year < yearBound then .ok (year, rest) else .error .outOfRange

def scanMark (mark : Char) (text : List Char) : Except Fault (List Char) :=
  match skipBlank text with
  | [] => .error .tooShort
  | c :: rest => if c = mark then .ok rest else .error .invalid

/-- The digits behind a full stop, as nanoseconds; further digits are passed over. -/
def scanFraction : List Char → Except Fault (Scanned Nat)
  | '.' :: text => do
      let (number, rest) ← scanNumber (some 9) text
      let width := text.length - rest.length
      .ok (number * Nat.pow 10 (9 - width), rest.dropWhile Text.isAsciiDigit)
  | text => .ok (0, text)

def hasTwoBytes : List Char → Bool
  | [] => false
  | [c] => 128 ≤ c.toNat
  | _ => true

def scanPair (greatestTens : Char) (text : List Char) : Except Fault (Scanned Nat) :=
  if !hasTwoBytes text then .error .tooShort
  else match text with
    | tens :: units :: rest =>
        if !(Text.isAsciiDigit tens && Text.isAsciiDigit units) then .error .invalid
        else if greatestTens < tens then .error .outOfRange
        else .ok (Decimal.natOfDigits [tens, units], rest)
    | _ => .error .invalid

def scanOffset (text : List Char) : Except Fault (Scanned Int) :=
  match text with
  | [] => .error .tooShort
  | c :: rest =>
      if c = 'Z' || c = 'z' then .ok (0, rest)
      else if c = '+' || c = '-' || c = '\u2212' then do
        let (hours, afterHours) ← scanPair '9' rest
        let apart := afterHours.dropWhile fun d => d == ':' || Text.isBlank d
        let (minutes, final) ← scanPair '5' apart
        let seconds : Int := hours * 3600 + minutes * 60
        .ok (if c = '+' then seconds else -seconds, final)
      else .error .invalid

/-- The offset, or the letters `UTC` in any case. -/
def scanZone (text : List Char) : Except Fault (Scanned Int) :=
  if (text.take 3).map Char.toUpper = ['U', 'T', 'C'] then .ok (0, text.drop 3)
  else scanOffset text

def Instant.read (text : String) : Except Fault Instant := do
  let (year, rest) ← scanYear text.toList
  let (month, rest) ← scanTwoDigits 1 12 (← scanMark '-' rest)
  let (day, rest) ← scanTwoDigits 1 31 (← scanMark '-' rest)
  let rest ← match rest with
    | [] => .error .tooShort
    | c :: more => if c = 'T' || c = 't' || c = ' ' then .ok more else .error .invalid
  let (hour, rest) ← scanTwoDigits 0 23 rest
  let (minute, rest) ← scanTwoDigits 0 59 (← scanMark ':' rest)
  let (second, rest) ← scanTwoDigits 0 60 (← scanMark ':' rest)
  let (fraction, rest) ← scanFraction rest
  let (offset, rest) ← scanZone (skipBlank rest)
  if !(skipBlank rest).isEmpty then throw Fault.tooLong
  if year < leastYear || greatestYear < year || daysInMonth year month < day then
    throw Fault.outOfRange
  if secondsPerDay ≤ offset.natAbs then throw Fault.outOfRange
  let date : Date := { year := year, month := month, day := day }
  let (plainSecond, nanos) :=
    if second = 60 then (59, fraction + nanosPerSecond) else (second, fraction)
  let seconds : Int :=
    date.dayNumber * secondsPerDay + (hour * 3600 + minute * 60 + plainSecond : Nat) - offset
  let dayNumber := seconds.fdiv secondsPerDay
  if dayNumber < leastDay || greatestDay < dayNumber then throw Fault.impossible
  return { seconds := seconds, nanos := nanos }

def padded (width number : Nat) : List Char :=
  let digits := Decimal.digitsOf number
  Decimal.zeros (width - digits.length) ++ digits

def yearText (year : Int) : List Char :=
  if 0 ≤ year && year ≤ 9999 then padded 4 year.natAbs
  else (if year < 0 then '-' else '+') :: padded 4 year.natAbs

/-- The digits of a second: none, three, six or nine, as few as are exact. -/
def fractionText (nanos : Nat) : List Char :=
  if nanos = 0 then []
  else if nanos % 1000000 = 0 then '.' :: padded 3 (nanos / 1000000)
  else if nanos % 1000 = 0 then '.' :: padded 6 (nanos / 1000)
  else '.' :: padded 9 nanos

def Instant.written (instant : Instant) : String :=
  let dayNumber := instant.seconds.fdiv secondsPerDay
  let date := dateOf dayNumber
  let secondOfDay := (instant.seconds - dayNumber * secondsPerDay).toNat
  let leap := nanosPerSecond ≤ instant.nanos
  let second := secondOfDay % 60 + (if leap then 1 else 0)
  let nanos := if leap then instant.nanos - nanosPerSecond else instant.nanos
  String.ofList <|
    yearText date.year ++ '-' :: padded 2 date.month ++ '-' :: padded 2 date.day
      ++ 'T' :: padded 2 (secondOfDay / 3600) ++ ':' :: padded 2 (secondOfDay / 60 % 60)
      ++ ':' :: padded 2 second ++ fractionText nanos ++ ['Z']

/-- The instant that many milliseconds after the start of 1970, if its date is kept. -/
def Instant.ofMillis (millis : Int) : Option Instant :=
  let seconds := millis.fdiv 1000
  let dayNumber := seconds.fdiv secondsPerDay
  if leastDay ≤ dayNumber && dayNumber ≤ greatestDay then
    some { seconds := seconds, nanos := (millis - seconds * 1000).toNat * 1000000 }
  else none

end RemoteQuery.Time
