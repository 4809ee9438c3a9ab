import RemoteQuery.Http.Peer
import RemoteQuery.Service
import RemoteQuery.Text.Search
set_option autoImplicit false

/-! The object store over HTTP.  An object is a GET away, under the endpoint, the bucket
and the segments of its path.  Its chunks go to a destination one by one. -/

namespace RemoteQuery.Http

structure Store where
  endpoint : Url
  bucket : String
  deriving Inhabited

/-- Where a download goes.  It may refuse a chunk after it has taken some, and it may
refuse to be flushed. -/
structure Destination where
  refusesAfter : Option (Nat × String)
  refusesFlush : Option String
  /-- The number of bytes that it still takes of the chunk that it refuses. -/
  takesOfRefused : Nat := 0
  deriving Repr, Inhabited

def Destination.willing : Destination := { refusesAfter := none, refusesFlush := none }

def Destination.refusal? (destination : Destination) (taken : Nat) : Option String :=
  match destination.refusesAfter with
  | some (limit, fault) => if limit ≤ taken then some fault else none
  | none => none

namespace Store

def ofText (text bucket : String) : Except QueryError Store :=
  match readEndpoint "S3" text with
  | .error reason => .error (.configuration reason)
  | .ok url =>
      if bucket.isEmpty then .error (.configuration "S3 bucket must not be empty")
      else .ok { endpoint := url, bucket := bucket }

def pathSegments (path : String) : List (List Char) :=
  (Text.splitAt '/' path.toList).filter fun segment => !segment.isEmpty

def objectUrl (store : Store) (path : String) : Url :=
  let base := Url.popIfEmpty store.endpoint.segments
  { store.endpoint with
    segments := (store.bucket.toList :: pathSegments path).foldl Url.pushSegment base }

/-- Bytes that reached a destination, and whether all of an object did. -/
structure Transfer where
  received : List UInt8
  result : Except QueryError Nat

/-- Pass the chunks on, where `taken` of them have been passed on already.  An empty chunk
is not handed over at all. -/
def passOn (destination : Destination) : Nat → List (List UInt8) → List UInt8 × Option String
  | _, [] => ([], none)
  | taken, [] :: rest => passOn destination taken rest
  | taken, (byte :: bytes) :: rest =>
      match destination.refusal? taken with
      | some fault => ((byte :: bytes).take destination.takesOfRefused, some fault)
      | none =>
          let (received, fault) := passOn destination (taken + 1) rest
          (byte :: bytes ++ received, fault)

def copy (url : Url) (path : String) (destination : Destination) (body : Body) : Transfer :=
  let writingFailed (fault : String) : QueryError := .storage s!"Writing {path} failed: {fault}"
  match passOn destination 0 body.chunks with
  | (received, some fault) => { received := received, result := .error (writingFailed fault) }
  | (received, none) =>
      if !body.complete then
        { received := received
          result := .error (.storage s!"Reading {url.written} failed: {bodyFailed}") }
      else
        match destination.refusesFlush with
        | some fault => { received := received, result := .error (writingFailed fault) }
        | none => { received := received, result := .ok received.length }

def readAnswer (store : Store) (url : Url) (path : String) (destination : Destination)
    (status : Nat) (body : Body) : Transfer :=
  if isSuccess status then copy url path destination body
  else if status = 404 then
    { received := []
      result := .error (.storage s!"Object {path} not found in bucket {store.bucket}") }
  else
    { received := []
      result := .error (.storage
        s!"GET {url.written} failed ({statusText status}): {errorText body}") }

/-- Download an object; nothing when the caller gave up before an answer came. -/
def download (store : Store) (destination : Destination) (path : String) (peer : Peer) :
    Option Transfer × Peer :=
  let url := store.objectUrl path
  let request : Request :=
    { method := .get, url := url, contentType := none, target := none, body := none }
  let (response, after) := peer.exchange request
  match response with
  | .answered status body =>
      (some (store.readAnswer url path destination status body), after)
  | .dropped =>
      (some {
        received := []
        result := .error (.storage s!"GET {url.written} failed: {sendingFailed url}") }, after)
  | .interrupted => (none, after)

end Store

end RemoteQuery.Http
