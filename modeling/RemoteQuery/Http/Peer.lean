import RemoteQuery.Http.Status
import RemoteQuery.Json.Printer
import RemoteQuery.Text.Charset
import RemoteQuery.Url.Basic
set_option autoImplicit false

/-! Exchanges over HTTP.  A peer answers each request with the next of its answers; one
that has none left closes the connection.  The body of an answer comes in chunks, and may
break off before its end.  No limit of time is kept here: an answer that comes too
late is one that was dropped, or a body that broke off. -/

namespace RemoteQuery.Http

inductive Method where
  | get
  | post
  deriving Repr, DecidableEq, Inhabited

structure Request where
  method : Method
  url : Url
  contentType : Option String
  target : Option String
  body : Option Json.Value
  deriving Inhabited

structure Body where
  chunks : List (List UInt8)
  /-- Whether the body came to its end. -/
  complete : Bool
  deriving Repr, Inhabited

inductive Response where
  | answered (status : Nat) (body : Body)
  /-- The connection was closed without an answer. -/
  | dropped
  /-- No answer came, and the caller cancelled. -/
  | interrupted
  deriving Repr, Inhabited

/-- A peer, the requests it has received, and the token that marks submissions. -/
structure Peer where
  responses : List Response
  requests : List Request
  token : String
  deriving Inhabited

def Body.empty : Body := { chunks := [], complete := true }

def Body.bytes (body : Body) : List UInt8 := body.chunks.flatten

/-- The bytes of a body that came to its end. -/
def Body.bytes? (body : Body) : Option (List UInt8) :=
  if body.complete then some body.bytes else none

def Response.received : Response → Response
  | .answered status body => .answered status (if isBodiless status then .empty else body)
  | other => other

def Peer.exchange (peer : Peer) (request : Request) : Response × Peer :=
  match peer.responses with
  | [] => (.dropped, { peer with requests := peer.requests ++ [request] })
  | response :: rest =>
      (response.received,
        { peer with responses := rest, requests := peer.requests ++ [request] })

def sendingFailed (url : Url) : String :=
  s!"error sending request for url ({url.withoutUser.written})"

def bodyFailed : String := "error decoding response body"

def errorText (body : Body) : String :=
  match body.bytes? with
  | none => "Unknown error"
  | some bytes => Text.decodeMarked bytes

/-- An endpoint for HTTP: a web URL, or the reason why a text is none.  The subject names
the endpoint in the reason. -/
def readEndpoint (subject text : String) : Except String Url :=
  match Url.read text with
  | .error fault => .error s!"Invalid {subject} endpoint: {fault.message}"
  | .ok .other => .error (subject ++ " endpoint must use http:// or https://")
  | .ok (.web url) => .ok url

end RemoteQuery.Http
