import RemoteQuery.Artifact
import RemoteQuery.Csv
import RemoteQuery.Record
import RemoteQuery.Service
set_option autoImplicit false

/-! From a finished execution to rows.  The result file is downloaded into the staging
folder, read as comma-separated values, and removed again, whatever comes of it.

A file is staged once all of it has been written.  That the disk then fails to bring it to
rest, and that the task which reads it comes to grief, are failures without a counterpart
here: every file that has been filled is read. -/

namespace RemoteQuery

/-- The rows of a file as lists of fields.  The path is only named in the error. -/
def readRows (path : String) (content : Except FileFault (List UInt8)) :
    Except QueryError (List (List String)) :=
  match content with
  | .error fault => .error (.resultParse s!"{path}: {fault.message}")
  | .ok bytes =>
      match Csv.read bytes with
      | .error fault => .error (.resultParse s!"{path}: {fault.message}")
      | .ok rows => .ok rows

inductive Outcome (α : Type) where
  | finished (result : Except QueryError α)
  | interrupted

structure ResultFolders where
  /-- The folder in the bucket. -/
  outputFolder : String
  /-- The local folder, as it is named in errors. -/
  stagingPath : String
  deriving Repr, DecidableEq, Inhabited

def joinPath (folder fileName : String) : String :=
  if folder.isEmpty || folder.endsWith "/" then folder ++ fileName else s!"{folder}/{fileName}"

namespace Service

variable {σ : Type}

def unstage (artifact : Artifact) (world : World σ) : World σ :=
  { world with staging := world.staging.remove artifact.fileName }

/-- Download an artifact into its empty file.  The file stays when all of it is there;
after a download that the caller has given up nothing more is waited for. -/
def fill (service : Service σ) (artifact : Artifact) (world : World σ) :
    Outcome Unit × World σ :=
  let (download, world) := service.callDownload artifact.objectPath world
  let world := { world with staging := world.staging.append artifact.fileName download.written }
  match download.reply with
  | .interrupted => (.interrupted, unstage artifact world)
  | .answer { result := .error error, .. } =>
      (.finished (.error (.download artifact.objectPath (.error error))), unstage artifact world)
  | .answer { result := .ok (), cancels } =>
      if cancels then (.interrupted, unstage artifact world) else (.finished (.ok ()), world)

def fetchArtifact (service : Service σ) (artifact : Artifact) (world : World σ) :
    Outcome Unit × World σ :=
  let failed (fault : FileFault) : Outcome Unit :=
    .finished (.error (.download artifact.objectPath (.system fault.message)))
  match world.staging.ensure with
  | (some fault, staging) => (failed fault, { world with staging := staging })
  | (none, staging) =>
      match staging.create artifact.fileName with
      | .error fault => (failed fault, unstage artifact { world with staging := staging })
      | .ok staged => service.fill artifact { world with staging := staged }

def readStaged (folders : ResultFolders) (artifact : Artifact) (staging : Staging) :
    Except QueryError (List (List String)) :=
  let path := joinPath folders.stagingPath artifact.fileName
  match staging.content? artifact.fileName with
  | none => readRows path (.error .notFound)
  | some bytes => readRows path (.ok bytes)

def materialize (service : Service σ) (folders : ResultFolders) (descriptor : Descriptor)
    (world : World σ) : Outcome (List Record) × World σ :=
  match Artifact.ofDescriptor descriptor folders.outputFolder with
  | .error error => (.finished (.error error), world)
  | .ok artifact =>
      match service.fetchArtifact artifact world with
      | (.interrupted, world) => (.interrupted, world)
      | (.finished (.error error), world) => (.finished (.error error), world)
      | (.finished (.ok ()), world) =>
          (.finished ((readStaged folders artifact world.staging).map Record.ofRows),
            unstage artifact world)

end Service

end RemoteQuery
