import RemoteQuery.Url.Host
import RemoteQuery.Url.Path
set_option autoImplicit false

/-! Absolute URLs.  Only URLs of the web are kept in parts; of any other only the scheme
matters.  Blanks and controls around a URL are left out, tabs and line ends everywhere. -/

namespace RemoteQuery

/-- The parts of a URL with the scheme `http` or `https`.  All are kept as they are
written, and a port only when it is not the one of the scheme. -/
structure Url where
  scheme : List Char
  userInfo : List Char
  host : List Char
  port : Option Nat
  segments : Url.Segments
  query : Option (List Char)
  fragment : Option (List Char)
  deriving Repr, DecidableEq, Inhabited

namespace Url

inductive Reference where
  | web (url : Url)
  | other
  deriving Repr, DecidableEq, Inhabited

def isEdge (c : Char) : Bool := c.toNat ≤ 32

def isIgnored (c : Char) : Bool := c == '\t' || c == '\n' || c == '\r'

def isSchemeChar (c : Char) : Bool :=
  Text.isAsciiLetter c || Text.isAsciiDigit c || c == '+' || c == '-' || c == '.'

def readScheme (text : List Char) : Option (List Char × List Char) :=
  let scheme := text.takeWhile isSchemeChar
  match scheme, text.dropWhile isSchemeChar with
  | first :: _, ':' :: rest =>
      if Text.isAsciiLetter first then some (scheme.map Char.toLower, rest) else none
  | _, _ => none

/-- The port that a scheme goes without; nothing for schemes that are not known. -/
def defaultPort? (scheme : List Char) : Option Nat :=
  match String.ofList scheme with
  | "http" | "ws" => some 80
  | "https" | "wss" => some 443
  | "ftp" => some 21
  | _ => none

def endsAuthority (special : Bool) (c : Char) : Bool :=
  c == '/' || c == '?' || c == '#' || (special && c == '\\')

def cutAtLastAt (text : List Char) : Option (List Char × List Char) :=
  let behind := (text.reverse.takeWhile fun c => c != '@').reverse
  if behind.length = text.length then none
  else some (text.take (text.length - behind.length - 1), behind)

/-- Name and password as they are written, with the closing `@`; nothing when both are
empty. -/
def userInfoText (text : List Char) : List Char :=
  let name := text.takeWhile fun c => c != ':'
  let password := (text.dropWhile fun c => c != ':').drop 1
  let written := encode inUserInfo name
    ++ (if password.isEmpty then [] else ':' :: encode inUserInfo password)
  if written.isEmpty then [] else written ++ ['@']

def cutHost : Bool → List Char → List Char × List Char
  | _, [] => ([], [])
  | inBrackets, c :: rest =>
      if c = ':' && !inBrackets then ([], c :: rest)
      else
        let inside := if c = '[' then true else if c = ']' then false else inBrackets
        let (host, behind) := cutHost inside rest
        (c :: host, behind)

def greatestPort : Nat := 65535

/-- The port behind a colon: decimal digits, or nothing.  A backslash ends it. -/
def readPort : List Char → Except Fault (Option Nat)
  | ':' :: text =>
      let digits := text.takeWhile fun c => c != '\\'
      if digits.isEmpty then .ok none
      else if !digits.all Text.isAsciiDigit || greatestPort < Decimal.natOfDigits digits then
        .error .port
      else .ok (some (Decimal.natOfDigits digits))
  | _ => .ok none

structure Authority where
  userInfo : List Char
  host : List Char
  port : Option Nat

/-- Read user, host and port; `followed` tells whether more of the URL stands behind. -/
def readAuthority (special followed : Bool) (text : List Char) : Except Fault Authority := do
  let (userInfo, address) ← match cutAtLastAt text with
    | none => .ok ([], text)
    | some (before, behind) =>
        if before.isEmpty && behind.isEmpty && (special || followed) then .error .emptyHost
        else .ok (userInfoText before, behind)
  let (hostText, portText) := cutHost false address
  if special && hostText.isEmpty then throw Fault.emptyHost
  let host ← if special then readHost hostText else readOpaqueHost hostText
  if host.isEmpty && (!portText.isEmpty || !userInfo.isEmpty) then throw Fault.emptyHost
  return { userInfo := userInfo, host := host, port := ← readPort portText }

structure Tail where
  segments : Segments
  query : Option (List Char)
  fragment : Option (List Char)

def rawSegments (path : List Char) : List (List Char) :=
  Text.splitAt '/' (path.map fun c => if c = '\\' then '/' else c)

def readTail (text : List Char) : Tail :=
  let beforeFragment := text.takeWhile fun c => c != '#'
  let fragment := match text.dropWhile fun c => c != '#' with
    | [] => none
    | _ :: rest => some (encode inFragment rest)
  let path := beforeFragment.takeWhile fun c => c != '?'
  let query := match beforeFragment.dropWhile fun c => c != '?' with
    | [] => none
    | _ :: rest => some (encode inQuery rest)
  let behindSlash := match path with
    | '/' :: rest => rest
    | '\\' :: rest => rest
    | other => other
  { segments := segmentsOf [] (rawSegments behindSlash), query := query, fragment := fragment }

def fileHost (text : List Char) : Except Fault Unit :=
  match text with
  | first :: second :: rest =>
      if endsAuthority true first && first != '?' && first != '#'
          && endsAuthority true second && second != '?' && second != '#' then
        let host := rest.takeWhile fun c => !endsAuthority true c
        if host.isEmpty || isDriveLetter host then .ok ()
        else (readHost host).map fun _ => ()
      else .ok ()
  | _ => .ok ()

def read (text : String) : Except Fault Reference := do
  let inner := (text.toList.dropWhile isEdge).reverse.dropWhile isEdge
  let kept := inner.reverse.filter fun c => !isIgnored c
  match readScheme kept with
  | none => throw Fault.relative
  | some (scheme, rest) =>
      let name := String.ofList scheme
      match defaultPort? scheme with
      | some usual =>
          let behind := rest.dropWhile fun c => c == '/' || c == '\\'
          let rest := behind.dropWhile fun c => !endsAuthority true c
          let authority ← readAuthority true (!rest.isEmpty)
            (behind.takeWhile fun c => !endsAuthority true c)
          let tail := readTail rest
          if name = "http" || name = "https" then
            return .web {
              scheme := scheme
              userInfo := authority.userInfo
              host := authority.host
              port := if authority.port = some usual then none else authority.port
              segments := tail.segments
              query := tail.query
              fragment := tail.fragment }
          else return .other
      | none =>
          if name = "file" then
            fileHost rest
            return .other
          else match rest with
            | '/' :: '/' :: behind =>
                let followed := behind.any fun c => endsAuthority false c
                discard <| readAuthority false followed
                  (behind.takeWhile fun c => !endsAuthority false c)
                return .other
            | _ => return .other

def optionalPart (mark : Char) : Option (List Char) → List Char
  | none => []
  | some part => mark :: part

def portText : Option Nat → List Char
  | none => []
  | some port => ':' :: Decimal.digitsOf port

def text (url : Url) : List Char :=
  url.scheme ++ "://".toList ++ url.userInfo ++ url.host ++ portText url.port
    ++ pathText url.segments ++ optionalPart '?' url.query ++ optionalPart '#' url.fragment

def written (url : Url) : String := String.ofList url.text

/-- The URL without name and password, as it is told in messages. -/
def withoutUser (url : Url) : Url := { url with userInfo := [] }

def onWire (url : Url) : Url := { url with userInfo := [], fragment := none }

end Url

end RemoteQuery
