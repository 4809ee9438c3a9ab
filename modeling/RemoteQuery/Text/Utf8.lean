set_option autoImplicit false

/-! Texts as bytes.  Strict reading takes exactly the bytes that encode a text.  Lenient
reading never fails: each longest piece that could begin a character but does not encode
one becomes the replacement character. -/

namespace RemoteQuery.Text

def encode (text : String) : List UInt8 := text.toUTF8.toList

def decode? (bytes : List UInt8) : Option String := String.fromUTF8? ⟨bytes.toArray⟩

/-- Read the bytes behind a leading byte: how many are needed, the bounds of the next
one, the value so far and the count of bytes taken.  The value is missing when a byte
does not fit; the count tells how far the bytes did. -/
def takeContinuation (low high : UInt8) : Nat → Nat → Nat → List UInt8 → Option Nat × Nat
  | 0, value, taken, _ => (some value, taken)
  | _ + 1, _, taken, [] => (none, taken)
  | needed + 1, value, taken, byte :: rest =>
      if low ≤ byte && byte ≤ high then
        match needed with
        | 0 => (some (value * 64 + byte.toNat % 64), taken + 1)
        | more + 1 =>
            takeContinuation 0x80 0xBF (more + 1) (value * 64 + byte.toNat % 64) (taken + 1) rest
      else (none, taken)

/-- The first character of the bytes, or nothing when they begin with none; and the
count of the bytes it takes up, or of those that could have begun one. -/
def decodeFirst (lead : UInt8) (rest : List UInt8) : Option Char × Nat :=
  let asChar (decoded : Option Nat × Nat) : Option Char × Nat :=
    (decoded.1.map Char.ofNat, decoded.2)
  let value := lead.toNat
  if lead < 0x80 then (some (Char.ofNat value), 1)
  else if 0xC2 ≤ lead && lead ≤ 0xDF then
    asChar (takeContinuation 0x80 0xBF 1 (value % 32) 1 rest)
  else if lead = 0xE0 then asChar (takeContinuation 0xA0 0xBF 2 0 1 rest)
  else if lead = 0xED then asChar (takeContinuation 0x80 0x9F 2 13 1 rest)
  else if 0xE1 ≤ lead && lead ≤ 0xEF then
    asChar (takeContinuation 0x80 0xBF 2 (value % 16) 1 rest)
  else if lead = 0xF0 then asChar (takeContinuation 0x90 0xBF 3 0 1 rest)
  else if 0xF1 ≤ lead && lead ≤ 0xF3 then
    asChar (takeContinuation 0x80 0xBF 3 (value % 8) 1 rest)
  else if lead = 0xF4 then asChar (takeContinuation 0x80 0x8F 3 4 1 rest)
  else (none, 1)

def replacement : Char := '\uFFFD'

def decodeLenientAfter : Nat → List UInt8 → List Char
  | _, [] => []
  | skip + 1, _ :: rest => decodeLenientAfter skip rest
  | 0, lead :: rest =>
      let (first, length) := decodeFirst lead rest
      first.getD replacement :: decodeLenientAfter (length - 1) rest

/-- Read bytes as a text, with replacement characters where they encode none. -/
def decodeLenient (bytes : List UInt8) : String := String.ofList (decodeLenientAfter 0 bytes)

/-- How many of the bytes behind the first `skip` encode characters before the first that
do not. -/
def validLengthAfter : Nat → List UInt8 → Nat
  | _, [] => 0
  | skip + 1, _ :: rest => validLengthAfter skip rest + 1
  | 0, lead :: rest =>
      match decodeFirst lead rest with
      | (none, _) => 0
      | (some _, length) => validLengthAfter (length - 1) rest + 1

def validLength (bytes : List UInt8) : Nat := validLengthAfter 0 bytes

end RemoteQuery.Text
