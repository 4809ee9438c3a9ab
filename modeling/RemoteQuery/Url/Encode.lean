import RemoteQuery.Json.Quoted
import RemoteQuery.Text.Letter
import RemoteQuery.Text.Utf8
set_option autoImplicit false

/-! Percent-encoding.  A character that a part of a URL cannot hold is written as the
bytes of its UTF-8 form, each as a percent sign and two hexadecimal digits. -/

namespace RemoteQuery.Url

def upperHexDigit (value : Nat) : Char := (Json.hexDigit value).toUpper

def encodeByte (byte : UInt8) : List Char :=
  ['%', upperHexDigit (byte.toNat / 16), upperHexDigit (byte.toNat % 16)]

/-- Encode the characters that are marked; controls and everything beyond ASCII always. -/
def encodeChar (marked : Char → Bool) (c : Char) : List Char :=
  if c.toNat < 32 || 126 < c.toNat || marked c then
    (Text.encode (String.singleton c)).flatMap encodeByte
  else [c]

def encode (marked : Char → Bool) (text : List Char) : List Char :=
  text.flatMap (encodeChar marked)

def inFragment (c : Char) : Bool := [' ', '"', '<', '>', '\x60'].contains c

def inQuery (c : Char) : Bool := [' ', '"', '#', '<', '>', '\''].contains c

def inPath (c : Char) : Bool := inFragment c || ['#', '?', '\x7b', '\x7d'].contains c

def inSegment (c : Char) : Bool := inPath c || ['/', '%', '\\'].contains c

def inUserInfo (c : Char) : Bool :=
  inPath c || ['/', ':', ';', '=', '@', '[', '\\', ']', '^', '|'].contains c

/-- The bytes that a text stands for, with every percent sign before two hexadecimal
digits read as a byte; `skip` characters are passed over first. -/
def decodeAfter : Nat → List Char → List UInt8
  | _, [] => []
  | skip + 1, _ :: rest => decodeAfter skip rest
  | 0, c :: rest =>
      let plain := Text.encode (String.singleton c) ++ decodeAfter 0 rest
      if c = '%' then
        match rest with
        | high :: low :: _ =>
            match Json.hexValue? high, Json.hexValue? low with
            | some high, some low => UInt8.ofNat (high * 16 + low) :: decodeAfter 2 rest
            | _, _ => plain
        | _ => plain
      else plain

def decode (text : List Char) : List UInt8 := decodeAfter 0 text

end RemoteQuery.Url
