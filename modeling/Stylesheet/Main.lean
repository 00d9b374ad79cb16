/-
  Stylesheet.Main
  ───────────────
  **THE PROGRAM.**

  Looks at the files that the arguments name, lets `Cli.run` decide what
  comes of it, and carries that out.  Inside, names are kept as texts are.
-/
import Stylesheet.Cli.Run

namespace Stylesheet.Cli

/-- The paths that a request reads from or writes to. -/
def Request.paths : Request → List String
  | .command _ (.normalize file) => [file]
  | .command _ (.render file output _) => file :: output.toList
  | _ => []

/-- A name of the file system as it is kept. -/
def kept (name : String) : String := String.ofList (Text.coded name.toList)

/-- The name of the file system that is kept so. -/
def named (name : String) : String :=
  String.ofList ((Text.decoded? name.toList).getD name.toList)

/-- Whether a path of the file system leads to a directory. -/
def leadsToDirectory (path : String) : IO Bool := do
  try (← IO.FS.realPath (named path)).isDir catch _ => return false

/-- The directories on the way to a location. -/
def directoriesOn (location : Location) : IO (List Location) := do
  let prefixes := (List.range (location.length + 1)).map location.take
  prefixes.filterM fun part => leadsToDirectory (String.intercalate "/" part)

/-- What the file system has at a path. -/
def look (path : String) : IO Disk := do
  let location := namesOf path
  let directories ← directoriesOn location
  try
    let bytes ← IO.FS.readBinFile (named path)
    return { files := (∅ : Table Location _).insert location bytes.toList, directories }
  catch _ =>
    return { files := ∅, directories }

/-- What the file system has at some paths. -/
def survey (paths : List String) : IO Disk := do
  let disks ← paths.mapM look
  return {
    files := Table.ofList (disks.flatMap fun disk => disk.files.entries)
    directories := disks.flatMap Disk.directories }

/-- What is told of a crash. -/
def Crash.message : Crash → String
  | .missingDirectory => "the directory of the output file does not exist"
  | .half => "half of a surrogate pair cannot be encoded"
  | .tooManyDigits => Text.tooManyDigits ""

/-- Carry out what changed on the disk. -/
def writeChanges (before after : Disk) : IO Unit := do
  for (file, bytes) in before.changes after do
    IO.FS.writeBinFile (named file) ⟨bytes.toArray⟩

/-- Carry an outcome out and give its exit code. -/
def carryOut (before : Disk) : Outcome → IO UInt32
  | .usage => do
      (← IO.getStderr).putStr helpText
      return 2
  | .crashed cause after => do
      writeChanges before after
      (← IO.getStderr).putStr ("Error: " ++ cause.message ++ "\n")
      return 1
  | .ended exit stdout stderr after => do
      writeChanges before after
      (← IO.getStdout).putStr stdout
      (← IO.getStderr).putStr stderr
      return exit.toUInt32

end Stylesheet.Cli

/-- Run the command line. -/
def main (arguments : List String) : IO UInt32 := do
  let arguments := arguments.map Stylesheet.Cli.kept
  let paths := ((Stylesheet.Cli.Request.read arguments).map (·.paths)).getD []
  let disk ← Stylesheet.Cli.survey paths
  Stylesheet.Cli.carryOut disk (Stylesheet.Cli.run disk arguments)
