import RemoteQuery.Error
import RemoteQuery.Text.Blank
import RemoteQuery.Text.Search
set_option autoImplicit false

/-! Where the result of an execution is found.  The service reports a URI; its last
segment names the file, and the file is expected in the configured folder of the
bucket. -/

namespace RemoteQuery

/-- A result file as it is addressed in the bucket and on the local disk. -/
structure Artifact where
  objectPath : String
  fileName : String
  deriving Repr, DecidableEq, Inhabited

namespace Artifact

def isSlash (c : Char) : Bool := c == '/'

/-- The text behind the last slash, trailing slashes apart. -/
def lastSegment (uri : List Char) : List Char :=
  ((Text.dropEndWhile isSlash uri).reverse.takeWhile fun c => !isSlash c).reverse

def pathIn (folder fileName : List Char) : List Char :=
  let inner := Text.dropAroundWhile isSlash folder
  if inner.isEmpty then '/' :: fileName else '/' :: (inner ++ '/' :: fileName)

def ofUri (uri folder : String) : Except QueryError Artifact :=
  let fileName := lastSegment uri.toList
  if fileName.isEmpty || fileName.contains ':' then
    .error (.internal s!"Result location {uri} has no file name")
  else .ok { objectPath := String.ofList (pathIn folder.toList fileName)
             fileName := String.ofList fileName }

def ofDescriptor (descriptor : Descriptor) (folder : String) : Except QueryError Artifact :=
  match descriptor.resultLocation with
  | none => .error (.internal
      (s!"Query {descriptor.executionId} ({descriptor.state.name}) "
        ++ "reported no result location"))
  | some uri => ofUri uri folder

end Artifact

end RemoteQuery
