import RemoteQuery.Connection
import RemoteQuery.Http.Engine
import RemoteQuery.Http.Store
set_option autoImplicit false

/-! The remote service over HTTP: an engine and a store that share a peer. -/

namespace RemoteQuery.Http

def downloadOf : Option Store.Transfer → Download
  | none => { written := [], reply := .interrupted }
  | some transfer =>
      { written := transfer.received
        reply := .answer { result := transfer.result.map fun _ => (), cancels := false } }

/-- The service whose downloads go to a destination. -/
def serviceTo (destination : Destination) (engine : Engine) (store : Store) : Service Peer :=
  { name := Engine.name
    start := fun submission peer => engine.start peer.token submission peer
    status := engine.status
    stop := engine.stop
    download := fun path peer =>
      let (transfer, after) := store.download destination path peer
      (downloadOf transfer, after) }

def service (engine : Engine) (store : Store) : Service Peer :=
  serviceTo Destination.willing engine store

def connect (settings : Settings) : Except QueryError (Service Peer) := do
  settings.validate
  let engine ← Engine.ofText (← settings.engineEndpoint)
  let store ← Store.ofText (← settings.storeEndpoint) settings.storage.bucket
  return service engine store

end RemoteQuery.Http
