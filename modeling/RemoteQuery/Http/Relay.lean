import RemoteQuery.Http.Peer
import RemoteQuery.Json.Reader
import RemoteQuery.Text.Utf8
set_option autoImplicit false

/-! Exchanges by a relay.  A relay sends requests over the network for a program that
does not: it is told each request in a line and tells the answer in a line. -/

namespace RemoteQuery.Http

def Method.name : Method → String
  | .get => "GET"
  | .post => "POST"

def Request.encode (request : Request) : Json.Value :=
  .object [
    ("method", .text request.method.name),
    ("url", .text request.url.onWire.written),
    ("content_type", Json.Value.ofOption .text request.contentType),
    ("target", Json.Value.ofOption .text request.target),
    ("body", Json.Value.ofOption id request.body)]

/-- An answer of the relay: a status and a body, or word that the caller cancelled.  In
every other case the connection counts as closed. -/
def Response.decode (value : Json.Value) : Response :=
  match value.field? "status", value.field? "interrupt" with
  | some (.number (.whole status)), _ =>
      let bytes := match value.field? "body" with
        | some (.text body) => Text.encode body
        | _ => []
      .answered status.toNat { chunks := if bytes.isEmpty then [] else [bytes], complete := true }
  | _, some (.bool true) => .interrupted
  | _, _ => .dropped

def Response.ofLine (line : String) : Response :=
  match Json.read? line with
  | some value => .decode value
  | none => .dropped

/-- The first request that the given answers leave without one. -/
def Peer.pending? (peer : Peer) (answered : Nat) : Option Request := peer.requests[answered]?

end RemoteQuery.Http
