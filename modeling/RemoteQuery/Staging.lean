import RemoteQuery.Disk
import RemoteQuery.Text.Search
set_option autoImplicit false

/-! The local folder for result files.  It may be missing, and another file may stand in
its place.  Inside it names are single path segments. -/

namespace RemoteQuery

/-- The place that a path names from the root.  Doubled slashes and the name of the
folder itself lead nowhere else. -/
def Place.ofText (path : String) : Place :=
  ((Text.splitAt '/' path.toList).map String.ofList).filter fun name => name != "" && name != "."

structure Staging where
  folder : Place
  disk : Disk
  deriving Repr, DecidableEq, Inhabited

namespace Staging

def fresh (folder : Place) : Staging := { folder := folder, disk := .empty }

def placeOf (staging : Staging) (name : String) : Place := staging.folder ++ [name]

/-- The entry of a name; the names of the folder itself and of the one around it are
folders. -/
def entryAt? (staging : Staging) (name : String) : Option Entry :=
  if name = "." || name = ".." then some .folder else staging.disk.entryAt? (staging.placeOf name)

def ensure (staging : Staging) : Option FileFault × Staging :=
  let (fault, disk) := staging.disk.makeFolders staging.folder
  (fault, { staging with disk := disk })

def put (staging : Staging) (name : String) (content : List UInt8) : Staging :=
  { staging with disk := staging.disk.put (staging.placeOf name) (.file content) }

/-- Create an empty file, or empty the one that is there. -/
def create (staging : Staging) (name : String) : Except FileFault Staging :=
  match Disk.nameFault? name with
  | some fault => .error fault
  | none =>
      match staging.disk.entryAt? staging.folder with
      | none => .error .notFound
      | some (.file _) => .error .notAFolder
      | some .folder =>
          match staging.entryAt? name with
          | some .folder => .error .isFolder
          | _ => .ok (staging.put name [])

def append (staging : Staging) (name : String) (bytes : List UInt8) : Staging :=
  match staging.entryAt? name with
  | some (.file content) => staging.put name (content ++ bytes)
  | _ => staging

def content? (staging : Staging) (name : String) : Option (List UInt8) :=
  match staging.entryAt? name with
  | some (.file content) => some content
  | _ => none

/-- Remove a file; a folder of the name stays. -/
def remove (staging : Staging) (name : String) : Staging :=
  match Disk.nameFault? name, staging.entryAt? name with
  | none, some (.file _) => { staging with disk := staging.disk.erase (staging.placeOf name) }
  | _, _ => staging

def names? (staging : Staging) : Option (List String) :=
  if staging.disk.entryAt? staging.folder = some .folder then
    some (staging.disk.names staging.folder)
  else none

end Staging

end RemoteQuery
