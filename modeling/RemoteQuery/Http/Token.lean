import RemoteQuery.Json.Quoted
set_option autoImplicit false

/-! Tokens that mark submissions, so that one which is sent again is not run again.  A
token is a universally unique identifier of the random kind: 128 bits, of which six are
fixed, as hexadecimal digits in five groups. -/

namespace RemoteQuery.Http

def markRandom (bytes : List UInt8) : List UInt8 :=
  bytes.mapIdx fun place byte =>
    if place = 6 then byte % 16 + 0x40 else if place = 8 then byte % 64 + 0x80 else byte

def hexPair (byte : UInt8) : List Char :=
  [Json.hexDigit (byte.toNat / 16), Json.hexDigit (byte.toNat % 16)]

def tokenOfBytes (bytes : List UInt8) : String :=
  let digits := (markRandom bytes).flatMap hexPair
  let group (start size : Nat) : String := String.ofList ((digits.drop start).take size)
  "-".intercalate [group 0 8, group 8 4, group 12 4, group 16 4, group 20 12]

end RemoteQuery.Http
