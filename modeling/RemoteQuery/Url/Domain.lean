import RemoteQuery.Text.Blank
import RemoteQuery.Text.Case
import RemoteQuery.Text.Search
set_option autoImplicit false

/-! Domain names in ASCII.  Letters are lower-cased, wide forms become plain ones, and a
label beyond ASCII is written in Punycode behind `xn--`: its ASCII characters first, then
the places and values of the others as whole numbers of variable length in base 36.

This is not the whole of the mapping that names are read through.  What is mapped is wide
ASCII, the ideographic full stops, blanks, capitals and the characters that are left out.
Names are not normalised: a letter and its mark stay two characters, ligatures and other
compatibility forms stay as they are, and neither the direction of writing nor the length
of a label is looked at. -/

namespace RemoteQuery.Url

def base : Nat := 36

def leastThreshold : Nat := 1

def greatestThreshold : Nat := 26

def skew : Nat := 38

def damping : Nat := 700

def punycodeDigit (value : Nat) : Char :=
  if value < 26 then Char.ofNat ('a'.toNat + value) else Char.ofNat ('0'.toNat + (value - 26))

def spreadOf : Nat → Nat → Nat → Nat × Nat
  | 0, distance, steps => (distance, steps)
  | fuel + 1, distance, steps =>
      if ((base - leastThreshold) * greatestThreshold) / 2 < distance then
        spreadOf fuel (distance / (base - leastThreshold)) (steps + base)
      else (distance, steps)

def adapt (distance count : Nat) (first : Bool) : Nat :=
  let damped := if first then distance / damping else distance / 2
  let (rest, steps) := spreadOf damped (damped + damped / count) 0
  steps + ((base - leastThreshold + 1) * rest) / (rest + skew)

def variableDigits (bias : Nat) : Nat → Nat → Nat → List Char
  | 0, _, _ => []
  | fuel + 1, place, number =>
      let threshold := min greatestThreshold (max leastThreshold (place - bias))
      if number < threshold then [punycodeDigit number]
      else
        punycodeDigit (threshold + (number - threshold) % (base - threshold))
          :: variableDigits bias fuel (place + base) ((number - threshold) / (base - threshold))

structure PunycodeState where
  code : Nat
  distance : Nat
  bias : Nat
  handled : Nat
  written : List Char

def passOver (asciiCount : Nat) (state : PunycodeState) (label : List Nat) : PunycodeState :=
  label.foldl (fun state code =>
    if code < state.code then { state with distance := state.distance + 1 }
    else if code = state.code then
      { state with
        written := state.written ++ variableDigits state.bias (state.distance + 1) base state.distance
        bias := adapt state.distance (state.handled + 1) (state.handled == asciiCount)
        distance := 0
        handled := state.handled + 1 }
    else state) state

def passes (asciiCount : Nat) (label : List Nat) : Nat → PunycodeState → PunycodeState
  | 0, state => state
  | rounds + 1, state =>
      match (label.filter fun code => state.code ≤ code).min? with
      | none => state
      | some next =>
          let raised := { state with
            code := next
            distance := state.distance + (next - state.code) * (state.handled + 1) }
          let passed := passOver asciiCount raised label
          passes asciiCount label rounds
            { passed with code := passed.code + 1, distance := passed.distance + 1 }

def punycode (label : List Char) : List Char :=
  let ascii := label.filter fun c => c.toNat < 128
  let start : PunycodeState :=
    { code := 128, distance := 0, bias := 72, handled := ascii.length
      written := if ascii.isEmpty then [] else ascii ++ ['-'] }
  (passes ascii.length (label.map Char.toNat) label.length start).written

/-- Characters that a domain name is read without: soft hyphens, invisible joints, marks
of byte order and selectors of variants. -/
def isLeftOut (code : Nat) : Bool :=
  [0xAD, 0x200B, 0x2060, 0xFEFF].contains code || (0xFE00 ≤ code && code ≤ 0xFE0F)

/-- The plain form of a character: wide ASCII is narrowed, ideographic full stops become
plain ones, blanks become spaces, letters are lower-cased. -/
def plainForm (c : Char) : List Char :=
  let code := c.toNat
  if code < 0x80 then [c.toLower]
  else if code = 0x3002 || code = 0xFF61 then ['.']
  else if 0xFF01 ≤ code && code ≤ 0xFF5E then [(Char.ofNat (code - 0xFEE0)).toLower]
  else if isLeftOut code then []
  else if Text.isBlank c then [' ']
  else Text.lowercaseChar c

def punycodeValue? (c : Char) : Option Nat :=
  if 'a' ≤ c && c ≤ 'z' then some (c.toNat - 'a'.toNat)
  else if '0' ≤ c && c ≤ '9' then some (c.toNat - '0'.toNat + 26)
  else none

/-- How far the reader of a label has come: the next place and code, and within a number
the place at its start, the weight of the next digit and its position. -/
structure PunycodeReader where
  place : Nat
  code : Nat
  bias : Nat
  start : Nat
  weight : Nat
  position : Nat
  label : List Nat

def PunycodeReader.insertCode (reader : PunycodeReader) : PunycodeReader :=
  let count := reader.label.length + 1
  let code := reader.code + reader.place / count
  let place := reader.place % count
  { place := place + 1
    code := code
    bias := adapt (reader.place - reader.start) count (reader.start == 0)
    start := place + 1
    weight := 1
    position := base
    label := reader.label.take place ++ code :: reader.label.drop place }

def readPunycodeDigits : PunycodeReader → List Char → Option (List Nat)
  | reader, [] => if reader.position = base then some reader.label else none
  | reader, c :: rest => do
      let digit ← punycodeValue? c
      let threshold := min greatestThreshold (max leastThreshold (reader.position - reader.bias))
      let moved := { reader with place := reader.place + digit * reader.weight }
      if digit < threshold then readPunycodeDigits moved.insertCode rest
      else
        readPunycodeDigits { moved with
          weight := reader.weight * (base - threshold), position := reader.position + base } rest

/-- The label that Punycode stands for: ASCII before the last hyphen, digits behind it. -/
def readPunycode (text : List Char) : Option (List Char) := do
  let digits := (text.reverse.takeWhile fun c => c != '-').reverse
  let ascii := text.take (text.length - digits.length - 1)
  let start : PunycodeReader :=
    { place := 0, code := 128, bias := 72, start := 0, weight := 1, position := base
      label := ascii.map Char.toNat }
  let codes ← readPunycodeDigits start digits
  if codes.all fun code => code.isValidChar then some (codes.map Char.ofNat) else none

/-- The characters beyond ASCII that no label holds: controls, joiners, and the sign that
replaces what cannot be read. -/
def isUnusableInDomain (c : Char) : Bool :=
  let code := c.toNat
  (0x80 ≤ code && code < 0xA0) || code = 0x200C || code = 0x200D || code = 0xFFFD

def isWrittenLabel (text : List Char) : Bool :=
  match readPunycode text with
  | none => false
  | some label =>
      label.any (fun c => 128 ≤ c.toNat) && !label.any isUnusableInDomain
        && label.flatMap plainForm == label && punycode label == text

def labelToAscii (label : List Char) : Option (List Char) :=
  match label with
  | 'x' :: 'n' :: '-' :: '-' :: text => if isWrittenLabel text then some label else none
  | _ =>
      if label.all fun c => c.toNat < 128 then some label
      else if label.any isUnusableInDomain then none
      else some ('x' :: 'n' :: '-' :: '-' :: punycode label)

def domainToAscii (domain : List Char) : Option (List Char) :=
  let labels := Text.splitAt '.' (domain.flatMap plainForm)
  (labels.mapM labelToAscii).map fun labels => ['.'].intercalate labels

def isForbiddenInDomain (c : Char) : Bool :=
  c.toNat ≤ 32 || c.toNat = 127
    || ['#', '/', ':', '<', '>', '?', '@', '[', '\\', ']', '^', '|', '%'].contains c

end RemoteQuery.Url
