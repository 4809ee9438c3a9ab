import RemoteQuery.Text.Utf8
set_option autoImplicit false

/-! Bytes of unknown encoding as text.  A byte order mark at the front tells UTF-8 and
the two orders of UTF-16 and is left out; bytes without a mark are taken as UTF-8. -/

namespace RemoteQuery.Text

/-- Pairs of bytes as 16-bit codes; `none` for a byte that is left over. -/
def codesOf (bigEndian : Bool) : List UInt8 → List (Option Nat)
  | [] => []
  | [_] => [none]
  | first :: second :: rest =>
      let code := if bigEndian then first.toNat * 256 + second.toNat
        else second.toNat * 256 + first.toNat
      some code :: codesOf bigEndian rest

/-- Characters of 16-bit codes; half of a surrogate pair becomes the replacement
character, and with it a byte left over right behind it. -/
def charsOfCodes : List (Option Nat) → List Char
  | [] => []
  | none :: _ => [replacement]
  | some high :: some low :: rest =>
      if 0xD800 ≤ high && high < 0xDC00 then
        if 0xDC00 ≤ low && low < 0xE000 then
          Char.ofNat (0x10000 + (high - 0xD800) * 0x400 + (low - 0xDC00)) :: charsOfCodes rest
        else replacement :: charsOfCodes (some low :: rest)
      else if 0xDC00 ≤ high && high < 0xE000 then replacement :: charsOfCodes (some low :: rest)
      else Char.ofNat high :: charsOfCodes (some low :: rest)
  | some code :: rest =>
      if 0xD800 ≤ code && code < 0xDC00 then [replacement]
      else if 0xDC00 ≤ code && code < 0xE000 then replacement :: charsOfCodes rest
      else Char.ofNat code :: charsOfCodes rest

/-- The text of bytes that may begin with a byte order mark. -/
def decodeMarked : List UInt8 → String
  | 0xEF :: 0xBB :: 0xBF :: rest => decodeLenient rest
  | 0xFE :: 0xFF :: rest => String.ofList (charsOfCodes (codesOf true rest))
  | 0xFF :: 0xFE :: rest => String.ofList (charsOfCodes (codesOf false rest))
  | bytes => decodeLenient bytes

end RemoteQuery.Text
