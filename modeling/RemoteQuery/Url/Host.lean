import RemoteQuery.Decimal.Read
import RemoteQuery.Decimal.Written
import RemoteQuery.Url.Domain
import RemoteQuery.Url.Encode
set_option autoImplicit false

/-! Hosts of URLs: domain names, and addresses of four bytes or of eight 16-bit pieces.
A name whose last label is a number is an address of four bytes. -/

namespace RemoteQuery.Url

inductive Fault where
  | relative
  | emptyHost
  | port
  | domain
  | domainCharacter
  | fourByteAddress
  | pieceAddress
  deriving Repr, DecidableEq, Inhabited

def Fault.message : Fault → String
  | .relative => "relative URL without a base"
  | .emptyHost => "empty host"
  | .port => "invalid port number"
  | .domain => "invalid international domain name"
  | .domainCharacter => "invalid domain character"
  | .fourByteAddress => "invalid IPv4 address"
  | .pieceAddress => "invalid IPv6 address"

def numberInBase (radix : Nat) (digits : List Char) : Option Nat :=
  digits.foldl (fun value digit => do
    let digit ← Json.hexValue? digit
    if digit < radix then some ((← value) * radix + digit) else none) (some 0)

/-- A part of an address of four bytes: decimal, octal behind a zero, or hexadecimal behind
`0x`. -/
def addressPart (part : List Char) : Option Nat :=
  match part with
  | [] => none
  | '0' :: 'x' :: digits => numberInBase 16 digits
  | '0' :: 'X' :: digits => numberInBase 16 digits
  | '0' :: digit :: digits => numberInBase 8 (digit :: digits)
  | digits => numberInBase 10 digits

/-- The parts between full stops; a full stop at the end stands for nothing. -/
def addressParts (domain : List Char) : List (List Char) :=
  let parts := Text.splitAt '.' domain
  if parts.getLast? = some [] then parts.dropLast else parts

def endsInNumber (domain : List Char) : Bool :=
  match (addressParts domain).getLast? with
  | none => false
  | some last =>
      (!last.isEmpty && last.all Text.isAsciiDigit) || (addressPart last).isSome

/-- The value of an address of four bytes.  The last part fills all bytes that the parts
before it leave. -/
def fourByteAddress (domain : List Char) : Option Nat := do
  let numbers ← (addressParts domain).mapM addressPart
  let last ← numbers.getLast?
  let first := numbers.dropLast
  let room := Nat.pow 256 (4 - first.length)
  if 3 < first.length || room ≤ last || first.any fun n => 255 < n then none
  else
    some (first.zipIdx.foldl (fun value part => value + part.1 * Nat.pow 256 (3 - part.2)) last)

def dottedBytes (address : Nat) : List Char :=
  ['.'].intercalate
    ([address / 0x1000000, address / 0x10000 % 256, address / 256 % 256, address % 256].map
      Decimal.digitsOf)

/-- Four decimal bytes without leading zeros, as two 16-bit pieces. -/
def dottedPieces (text : List Char) : Option (List Nat) := do
  let parts := Text.splitAt '.' text
  let numbers ← parts.mapM fun part =>
    if part.isEmpty || !part.all Text.isAsciiDigit || (part.head? = some '0' && 1 < part.length)
    then none
    else
      let number := Decimal.natOfDigits part
      if number ≤ 255 then some number else none
  match numbers with
  | [a, b, c, d] => some [a * 256 + b, c * 256 + d]
  | _ => none

/-- Pieces of one to four hexadecimal digits; the last may be four decimal bytes. -/
def piecesOf (mayEndDotted : Bool) : List (List Char) → Option (List Nat)
  | [] => some []
  | [last] =>
      if mayEndDotted && last.contains '.' then dottedPieces last
      else if last.isEmpty || 4 < last.length then none
      else (numberInBase 16 last).map fun piece => [piece]
  | piece :: rest => do
      if piece.isEmpty || 4 < piece.length then none
      else
        let number ← numberInBase 16 piece
        (piecesOf mayEndDotted rest).map (number :: ·)

def splitPieces (text : List Char) : List (List Char) :=
  if text.isEmpty then [] else Text.splitAt ':' text

def cutAtGap : List Char → Option (List Char × List Char)
  | [] => none
  | ':' :: ':' :: rest => some ([], rest)
  | c :: rest => (cutAtGap rest).map fun cut => (c :: cut.1, cut.2)

/-- The eight pieces of an address.  Two colons in a row stand for at least one zero. -/
def eightPieces (text : List Char) : Option (List Nat) :=
  match cutAtGap text with
  | none => do
      let pieces ← piecesOf true (splitPieces text)
      if pieces.length = 8 then some pieces else none
  | some (before, behind) => do
      let first ← piecesOf false (splitPieces before)
      let last ← piecesOf true (splitPieces behind)
      if first.length + last.length ≤ 7 then
        some (first ++ List.replicate (8 - first.length - last.length) 0 ++ last)
      else none

def longestZeros (pieces : List Nat) : Option (Nat × Nat) :=
  let runAt (place : Nat) : Nat := ((pieces.drop place).takeWhile fun piece => piece = 0).length
  (List.range pieces.length).foldl (fun best place =>
    let run := runAt place
    match best with
    | some (_, longest) => if longest < run then some (place, run) else best
    | none => if 2 ≤ run then some (place, run) else none) none

def hexPieces (pieces : List Nat) : List Char :=
  [':'].intercalate (pieces.map (Nat.toDigits 16))

def writtenPieces (pieces : List Nat) : List Char :=
  match longestZeros pieces with
  | none => hexPieces pieces
  | some (place, run) =>
      hexPieces (pieces.take place) ++ ':' :: ':' :: hexPieces (pieces.drop (place + run))

def bracketed (text : List Char) : Except Fault (List Char) :=
  if text.getLast? ≠ some ']' then .error .pieceAddress
  else match eightPieces text.dropLast with
    | some pieces => .ok ('[' :: (writtenPieces pieces ++ [']']))
    | none => .error .pieceAddress

def readHost (text : List Char) : Except Fault (List Char) :=
  match text with
  | '[' :: rest => bracketed rest
  | _ =>
      match Text.decode? (decode text) with
      | none => .error .domain
      | some decoded =>
          match domainToAscii decoded.toList with
          | none => .error .domain
          | some domain =>
              if domain.any isForbiddenInDomain then .error .domain
              else if domain.isEmpty then .error .emptyHost
              else if endsInNumber domain then
                match fourByteAddress domain with
                | some address => .ok (dottedBytes address)
                | none => .error .fourByteAddress
              else .ok domain

def isForbiddenInHost (c : Char) : Bool :=
  c.toNat = 0 || ['\t', '\n', '\r', ' ', '#', '/', ':', '<', '>', '?', '@', '[', '\\', ']', '^',
    '|'].contains c

def readOpaqueHost (text : List Char) : Except Fault (List Char) :=
  match text with
  | '[' :: rest => bracketed rest
  | _ =>
      if text.any isForbiddenInHost then .error .domainCharacter
      else .ok (encode (fun _ => false) text)

end RemoteQuery.Url
