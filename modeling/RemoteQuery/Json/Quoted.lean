set_option autoImplicit false

/-! Quoted JSON text.  Writing escapes the quotation mark, the backslash and the control
characters, and nothing else.  Reading also knows every other escape; a code given in
two halves is put together, and a half that stands alone is kept as a gap. -/

namespace RemoteQuery.Json

def hexDigit (value : Nat) : Char :=
  if value < 10 then Char.ofNat ('0'.toNat + value) else Char.ofNat ('a'.toNat + (value - 10))

def hexValue? (c : Char) : Option Nat :=
  if '0' ≤ c && c ≤ '9' then some (c.toNat - '0'.toNat)
  else if 'a' ≤ c && c ≤ 'f' then some (c.toNat - 'a'.toNat + 10)
  else if 'A' ≤ c && c ≤ 'F' then some (c.toNat - 'A'.toNat + 10)
  else none

def escapeChar (c : Char) : List Char :=
  if c = '"' then ['\\', '"']
  else if c = '\\' then ['\\', '\\']
  else if c = '\n' then ['\\', 'n']
  else if c = '\r' then ['\\', 'r']
  else if c = '\t' then ['\\', 't']
  else if c = '\x08' then ['\\', 'b']
  else if c = '\x0c' then ['\\', 'f']
  else if c.toNat < 32 then
    ['\\', 'u', '0', '0', hexDigit (c.toNat / 16), hexDigit (c.toNat % 16)]
  else [c]

def escapeText : List Char → List Char
  | [] => []
  | c :: rest => escapeChar c ++ escapeText rest

def quote (text : List Char) : List Char := '"' :: (escapeText text ++ ['"'])

def shortEscape? (c : Char) : Option Char :=
  if c = '"' then some '"'
  else if c = '\\' then some '\\'
  else if c = '/' then some '/'
  else if c = 'b' then some '\x08'
  else if c = 'f' then some '\x0c'
  else if c = 'n' then some '\n'
  else if c = 'r' then some '\r'
  else if c = 't' then some '\t'
  else none

/-- What stands between the quotation marks: characters, and codes from escapes. -/
inductive Unit16 where
  | char (c : Char)
  | code (value : Nat)
  deriving Repr, DecidableEq

def readUnits : List Char → Option (List Unit16 × List Char)
  | [] => none
  | '"' :: rest => some ([], rest)
  | '\\' :: 'u' :: a :: b :: c :: d :: rest =>
      match hexValue? a, hexValue? b, hexValue? c, hexValue? d with
      | some w, some x, some y, some z =>
          (readUnits rest).map fun (units, behind) =>
            (.code (((w * 16 + x) * 16 + y) * 16 + z) :: units, behind)
      | _, _, _, _ => none
  | '\\' :: c :: rest =>
      match shortEscape? c with
      | some plain => (readUnits rest).map fun (units, behind) => (.char plain :: units, behind)
      | none => none
  | c :: rest =>
      if c.toNat < 32 || c = '\\' then none
      else (readUnits rest).map fun (units, behind) => (.char c :: units, behind)

def isLeading (code : Nat) : Bool := 0xD800 ≤ code && code < 0xDC00

def isTrailing (code : Nat) : Bool := 0xDC00 ≤ code && code < 0xE000

/-- The characters of the units; `none` when half of a pair stands alone. -/
def charsOfUnits : List Unit16 → Option (List Char)
  | [] => some []
  | .char c :: rest => (charsOfUnits rest).map (c :: ·)
  | .code high :: .code low :: rest =>
      if isLeading high && isTrailing low then
        (charsOfUnits rest).map
          (Char.ofNat (0x10000 + (high - 0xD800) * 0x400 + (low - 0xDC00)) :: ·)
      else if isLeading high || isTrailing high then none
      else (charsOfUnits (.code low :: rest)).map (Char.ofNat high :: ·)
  | .code code :: rest =>
      if isLeading code || isTrailing code then none
      else (charsOfUnits rest).map (Char.ofNat code :: ·)

end RemoteQuery.Json
