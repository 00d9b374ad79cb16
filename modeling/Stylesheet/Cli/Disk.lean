/-
  Stylesheet.Cli.Disk
  ───────────────────
  **FILES AND DIRECTORIES.**

  What a run of the command line sees of the file system: the bytes of some
  files, and some directories.  A run is a function from one disk to
  another, so what it changed can be read off the two.

  A file or directory is known by the names on the way to it; paths are
  resolved name by name.
-/
import Stylesheet.Table
import Stylesheet.Text.Utf8

namespace Stylesheet.Cli

/-! ## §1. Paths. -/

/-- The names on the way to a file or directory. -/
abbrev Location := List String

/-- The parts of a path between its slashes. -/
def partsOf (path : String) : List String :=
  (path.toList.splitOn '/').map String.ofList

/-- The names in a path, without those that lead nowhere else.  An absolute
path begins with the name of the root. -/
def namesOf (path : String) : List String :=
  let names := (partsOf path).filter fun name => !(name.isEmpty || name = ".")
  if path.toList.head? = some '/' then "/" :: names else names

/-- The last name in a path. -/
def baseName (path : String) : String :=
  match (namesOf path).getLast? with
  | some "/" | none => ""
  | some name => name

/-- Whether a path can only lead to a directory. -/
def endsInDirectory (path : String) : Bool :=
  match (partsOf path).getLast? with
  | some name => name.isEmpty || name = "."
  | none => true

/-! ## §2. Disks. -/

/-- The files and directories that a run can see. -/
structure Disk where
  /-- The bytes of the files. -/
  files : Table Location (List UInt8)
  /-- The directories that are known besides those that hold files. -/
  directories : List Location

namespace Disk

/-- Whether a location is a directory.  The place of the run is one, and so
are those around it and whatever holds a file or a directory. -/
def isDirectory (disk : Disk) (location : Location) : Bool :=
  (location.all fun name => name = "..") ||
    (disk.directories.any fun directory => location.isPrefixOf directory) ||
    (disk.files.keys.any fun file => location.isPrefixOf file && location ≠ file)

/-- Go from a location on to a name, if the location is a directory. -/
def enter (disk : Disk) (location : Location) (name : String) : Option Location :=
  if !disk.isDirectory location then none
  else if name = ".." && location.any fun name => name ≠ ".." then some location.dropLast
  else some (location ++ [name])

/-- The location that names lead to, if all on the way are directories. -/
def follow (disk : Disk) (names : List String) : Option Location :=
  names.foldlM disk.enter []

/-- What a path leads to. -/
inductive Node where
  /-- A file with these bytes. -/
  | file (bytes : List UInt8)
  /-- A directory. -/
  | directory
  /-- Nothing. -/
  | nothing

/-- What a path leads to. -/
def find (disk : Disk) (path : String) : Node :=
  if path.isEmpty then .nothing
  else
    match disk.follow (namesOf path) with
    | none => .nothing
    | some location =>
        if disk.isDirectory location then .directory
        else
          match disk.files.get? location with
          | some bytes => if endsInDirectory path then .nothing else .file bytes
          | none => .nothing

/-- The location of the file that a path names, there already or not; there
is none if the directory of the file does not exist. -/
def place? (disk : Disk) (path : String) : Option Location :=
  match disk.follow (namesOf path) with
  | none => none
  | some location => if disk.isDirectory location then none else some location

/-- The disk with bytes in the file at a location. -/
def put (disk : Disk) (location : Location) (bytes : List UInt8) : Disk :=
  { disk with files := disk.files.insert location bytes }

/-- The files that are new or have other bytes than before, by name. -/
def changes (before after : Disk) : List (String × List UInt8) :=
  let changed := after.files.entries.filter fun (location, bytes) =>
    before.files.get? location ≠ some bytes
  let named := changed.map fun (location, bytes) => (String.intercalate "/" location, bytes)
  named.mergeSort fun a b => a.1 ≤ b.1

end Disk

end Stylesheet.Cli
