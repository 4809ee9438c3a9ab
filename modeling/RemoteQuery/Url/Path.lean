import RemoteQuery.Url.Encode
set_option autoImplicit false

/-! Paths of URLs as lists of encoded segments.  The text of a path writes a slash before
each segment, so the root has one empty segment.  A segment of two dots takes the segment
before it away, and one of a single dot stands for nothing. -/

namespace RemoteQuery.Url

abbrev Segments := List (List Char)

def pathText (segments : Segments) : List Char := segments.flatMap ('/' :: ·)

def isSingleDot (segment : List Char) : Bool :=
  [".", "%2e", "%2E"].any fun dot => dot.toList == segment

def isDoubleDot (segment : List Char) : Bool :=
  ["..", "%2e%2e", "%2e%2E", "%2E%2e", "%2E%2E", "%2e.", "%2E.", ".%2e", ".%2E"].any
    fun dots => dots.toList == segment

/-- A letter with a colon or a bar, which two dots do not take away. -/
def isDriveLetter : List Char → Bool
  | [letter, mark] => Text.isAsciiLetter letter && (mark == ':' || mark == '|')
  | _ => false

def dropLastSegment (segments : Segments) : Segments :=
  match segments.getLast? with
  | some last => if isDriveLetter last then segments else segments.dropLast
  | none => []

/-- Add an encoded segment; `final` tells that no slash follows it. -/
def addSegment (segments : Segments) (segment : List Char) (final : Bool) : Segments :=
  let close (left : Segments) : Segments := if final then left ++ [[]] else left
  if isDoubleDot segment then close (dropLastSegment segments)
  else if isSingleDot segment then close segments
  else segments ++ [segment]

def segmentsOf (segments : Segments) : List (List Char) → Segments
  | [] => segments
  | [last] => addSegment segments (encode inPath last) true
  | segment :: rest => segmentsOf (addSegment segments (encode inPath segment) false) rest

/-- A segment at the end of a path; the empty segment of the root gives way to it. -/
def pushSegment (segments : Segments) (segment : List Char) : Segments :=
  if segment = ['.'] || segment = ['.', '.'] then segments
  else
    let kept := segment.filter fun c => !(c == '\t' || c == '\n' || c == '\r')
    addSegment (if segments = [[]] then [] else segments) (encode inSegment kept) true

/-- The path without an empty segment at its end, the root apart. -/
def popIfEmpty (segments : Segments) : Segments :=
  if 1 < segments.length && segments.getLast? = some [] then segments.dropLast else segments

end RemoteQuery.Url
