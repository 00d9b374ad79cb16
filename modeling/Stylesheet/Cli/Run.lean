/-
  Stylesheet.Cli.Run
  ──────────────────
  **THE COMMAND LINE.**

      [-v] normalize FILE                       print the flattened tree
      [-v] render [-o FILE] [--indent N] FILE   print the sheet, or write it
      --version                                 print the version

  A run takes a disk and arguments to an outcome: a complaint about the
  arguments, a crash, or an exit code with two texts and the disk afterwards.
  The disk changes in one way only, at the output file of `render -o`.  That
  file is emptied before the sheet is turned into bytes, so that it is empty
  after a crash on a half of a pair, which has none.
-/
import Stylesheet.Cli.Arguments
import Stylesheet.Cli.Disk
import Stylesheet.Cli.Log
import Stylesheet.Cli.Input
import Stylesheet.Json.Writer
import Stylesheet.Layout
import Stylesheet.Text.Ansi
import Stylesheet.Text.Integer

namespace Stylesheet.Cli

/-! ## §1. Outcomes. -/

/-- What breaks a run off. -/
inductive Crash where
  /-- The directory of the output file does not exist. -/
  | missingDirectory
  /-- A text that is printed or written has half of a pair. -/
  | half
  /-- An integer has too many digits. -/
  | tooManyDigits
  deriving Repr, DecidableEq

/-- What comes of a run. -/
inductive Outcome where
  /-- The arguments make no sense. -/
  | usage
  /-- The run broke off and left a disk. -/
  | crashed (cause : Crash) (disk : Disk)
  /-- The run ended with an exit code, the characters on the two streams and
  a disk. -/
  | ended (exit : Nat) (stdout stderr : String) (disk : Disk)

/-- A text that goes to a stream, without terminal sequences. -/
def echo (s : String) : String :=
  String.ofList (Text.Ansi.plain s.toList)

/-- The end of a run that prints a text; the stream takes no halves. -/
def printing (disk : Disk) (log text : String) : Outcome :=
  match Text.decoded? (echo text).toList with
  | some characters => .ended 0 (String.ofList characters) log disk
  | none => .crashed .half disk

/-- The end of a run that prints nothing and tells something on the other
stream, which shows halves by their numbers. -/
def telling (exit : Nat) (disk : Disk) (log message : String) : Outcome :=
  .ended exit "" (log ++ Text.withoutHalves (echo (message ++ "\n"))) disk

/-- The end of a run that found something wrong. -/
def failed (disk : Disk) (log message : String) : Outcome :=
  telling 1 disk log ("Error: " ++ message)

/-! ## §2. Requests. -/

/-- A command with its arguments. -/
inductive Command where
  /-- Print the flattened tree of a file. -/
  | normalize (file : String)
  /-- Print the sheet of a file, or write it to another. -/
  | render (file : String) (output : Option String) (indent : Nat)
  deriving Repr, DecidableEq

/-- What a list of arguments asks for. -/
inductive Request where
  /-- The version. -/
  | version
  /-- Help. -/
  | help
  /-- A command, whose events are told if the run is verbose. -/
  | command (verbose : Bool) (command : Command)
  deriving Repr, DecidableEq

/-- The option that asks for help. -/
def helpSpec : OptionSpec := ⟨none, "help", false⟩

/-- The options before the command. -/
def groupSpecs : List OptionSpec :=
  [⟨none, "version", false⟩, ⟨some 'v', "verbose", false⟩, helpSpec]

/-- The options of `render`. -/
def renderSpecs : List OptionSpec :=
  [⟨some 'o', "output", true⟩, ⟨none, "indent", true⟩, helpSpec]

/-- The number of spaces that `--indent` asks for. -/
def indentOf (arguments : Arguments) : Option Nat :=
  match arguments.last? "indent" with
  | none => some 2
  | some text => (Text.integer? text).bind Int.toNat?

/-- Read the arguments of `normalize`. -/
def normalizeRequest (verbose : Bool) (arguments : List String) : Option Request := do
  let arguments ← readArguments [helpSpec] true arguments
  if arguments.has "help" then return .help
  let [file] := arguments.positional | none
  return .command verbose (.normalize file)

/-- Read the arguments of `render`. -/
def renderRequest (verbose : Bool) (arguments : List String) : Option Request := do
  let arguments ← readArguments renderSpecs true arguments
  if arguments.has "help" then return .help
  let [file] := arguments.positional | none
  return .command verbose (.render file (arguments.last? "output") (← indentOf arguments))

/-- The question for version or help that comes first among the options
before the command. -/
def question? (arguments : Arguments) : Option Request :=
  match arguments.settings.find? fun setting => setting.1 ≠ "verbose" with
  | some ("version", _) => some .version
  | some _ => some .help
  | none => none

/-- What a list of arguments asks for.  A question is answered before any
command.  It is also found where a command should stand, behind two hyphens:
what stands there and is no command is read as options once more, although
only a question among them makes sense. -/
def Request.read (arguments : List String) : Option Request := do
  let arguments ← readArguments groupSpecs false arguments
  if let some question := question? arguments then return question
  let verbose := arguments.has "verbose"
  match arguments.positional with
  | "normalize" :: rest => normalizeRequest verbose rest
  | "render" :: rest => renderRequest verbose rest
  | noCommand => question? (← readArguments groupSpecs false noCommand)

/-! ## §3. Commands. -/

/-- Go on with the tree of a file. -/
def withTree (disk : Disk) (file : String) (next : Value → Outcome) : Outcome :=
  match disk.find file with
  | .file bytes =>
      match treeOfBytes bytes with
      | .ok tree => next tree
      | .error error =>
          if error.isTold then failed disk "" (error.message (baseName file))
          else .crashed .tooManyDigits disk
  | _ => .usage

/-- Go on with the result of a computation and the log of its events.  Only
the faults of styles are told. -/
def withResult {α : Type} (disk : Disk) (verbose : Bool) (traced : Traced α)
    (next : (log : String) → α → Outcome) : Outcome :=
  let log := log verbose traced.events
  match traced.result with
  | .ok a => next log a
  | .error error =>
      if error.fault.family = .number then .crashed .tooManyDigits disk
      else failed disk log error.report.text

/-- The document of a flattened tree. -/
def flatDocument (tree : Value) : Traced String := do
  let sheet := (← flatten tree).toValue
  .ifWritable sheet.isWritable (String.ofList (Json.document sheet))

/-- Print the flattened tree of a file. -/
def runNormalize (disk : Disk) (verbose : Bool) (file : String) : Outcome :=
  withTree disk file fun tree =>
    withResult disk verbose (flatDocument tree) fun log document =>
      printing disk log (document ++ "\n")

/-- Write a sheet to a file and say so.  The file is emptied first. -/
def writeSheet (disk : Disk) (output log sheet : String) : Outcome :=
  match disk.place? output with
  | none => .crashed .missingDirectory disk
  | some location =>
      match Text.decoded? sheet.toList with
      | none => .crashed .half (disk.put location [])
      | some characters =>
          telling 0 (disk.put location (Text.Utf8.encode characters)) log
            ("Wrote " ++ baseName output)

/-- Print the sheet of a file, or write it to another. -/
def runRender (disk : Disk) (verbose : Bool) (file : String) (output : Option String)
    (indent : Nat) : Outcome :=
  let outputIsDirectory :=
    match output.map disk.find with
    | some .directory => true
    | _ => false
  if outputIsDirectory then .usage
  else
    withTree disk file fun tree =>
      withResult disk verbose (printTree tree (.spaces indent)) fun log sheet =>
        match output with
        | none => printing disk log sheet
        | some output => writeSheet disk output log sheet

/-! ## §4. Runs. -/

/-- The text that `--version` prints. -/
def versionText : String := "stylenest, version 0.1.0\n"

/-- The text that `--help` prints. -/
def helpText : String :=
  "Usage: stylenest [-v] normalize FILE\n" ++
  "       stylenest [-v] render [-o FILE] [--indent N] FILE\n" ++
  "       stylenest --version\n"

/-- **What comes of a run with the given disk and arguments.** -/
def run (disk : Disk) (arguments : List String) : Outcome :=
  match Request.read arguments with
  | none => .usage
  | some .version => .ended 0 versionText "" disk
  | some .help => .ended 0 helpText "" disk
  | some (.command verbose (.normalize file)) => runNormalize disk verbose file
  | some (.command verbose (.render file output indent)) =>
      runRender disk verbose file output indent

end Stylesheet.Cli
