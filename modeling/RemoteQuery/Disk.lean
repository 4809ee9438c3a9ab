set_option autoImplicit false

/-! The local file system, as far as result files need it.  A place is either free, or a
file or a folder stands there; the root is always a folder. -/

namespace RemoteQuery

inductive FileFault where
  | notFound
  | alreadyExists
  | notAFolder
  | isFolder
  | nameTooLong
  | nulInName
  deriving Repr, DecidableEq, Inhabited

def FileFault.message : FileFault → String
  | .notFound => "No such file or directory (os error 2)"
  | .alreadyExists => "File exists (os error 17)"
  | .notAFolder => "Not a directory (os error 20)"
  | .isFolder => "Is a directory (os error 21)"
  | .nameTooLong => "File name too long (os error 36)"
  | .nulInName => "file name contained an unexpected NUL byte"

inductive Entry where
  | file (content : List UInt8)
  | folder
  deriving Repr, DecidableEq, Inhabited

/-- A place in the file system: the names on the way to it from the root. -/
abbrev Place := List String

/-- What stands at the places that are not free. -/
structure Disk where
  entries : List (Place × Entry)
  deriving Repr, DecidableEq, Inhabited

namespace Disk

def empty : Disk := { entries := [] }

def entryAt? (disk : Disk) (place : Place) : Option Entry :=
  if place = [] then some .folder
  else (disk.entries.find? fun item => item.1 == place).map (·.2)

def erase (disk : Disk) (place : Place) : Disk :=
  { entries := disk.entries.filter fun item => item.1 != place }

def put (disk : Disk) (place : Place) (entry : Entry) : Disk :=
  { entries := (place, entry) :: (disk.erase place).entries }

def names (disk : Disk) (folder : Place) : List String :=
  disk.entries.filterMap fun item =>
    if item.1.dropLast = folder then item.1.getLast? else none

/-! ### Names -/

def nameLimit : Nat := 255

def hasNul (name : String) : Bool := name.toList.contains '\x00'

def nameFault? (name : String) : Option FileFault :=
  if hasNul name then some .nulInName
  else if nameLimit < name.utf8ByteSize then some .nameTooLong
  else none

/-! ### Folders -/

/-- Make the folders that are missing on the way from a folder along further names.  A
file on the way is in the way. -/
def makeFoldersFrom (disk : Disk) (folder : Place) : List String → Option FileFault × Disk
  | [] => (none, disk)
  | name :: rest =>
      match disk.entryAt? (folder ++ [name]) with
      | some .folder => disk.makeFoldersFrom (folder ++ [name]) rest
      | some (.file _) => (some (if rest.isEmpty then .alreadyExists else .notAFolder), disk)
      | none =>
          match nameFault? name with
          | some fault => (some fault, disk)
          | none => (disk.put (folder ++ [name]) .folder).makeFoldersFrom (folder ++ [name]) rest

def makeFolders (disk : Disk) (folder : Place) : Option FileFault × Disk :=
  if folder.any hasNul then (some .nulInName, disk) else disk.makeFoldersFrom [] folder

end Disk

end RemoteQuery
