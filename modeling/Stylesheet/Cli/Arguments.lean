/-
  Stylesheet.Cli.Arguments
  ────────────────────────
  **OPTIONS AND ARGUMENTS.**

  Long options are written out in full and take their value behind an equals
  sign or as the next argument.  Short options of one letter can be run
  together; the first that takes a value takes the rest of the run, or the
  next argument.  Two hyphens end the options.  A single hyphen is an
  argument.
-/

namespace Stylesheet.Cli

/-! ## §1. Options. -/

/-- An option that a command knows. -/
structure OptionSpec where
  /-- The letter behind one hyphen, if it has one. -/
  short : Option Char
  /-- The name behind two hyphens. -/
  long : String
  /-- Whether it takes a value. -/
  takesValue : Bool
  deriving Repr, DecidableEq

/-- An option in use, by its long name, and the value that it got. -/
abbrev Setting := String × Option String

/-- What a list of arguments says. -/
structure Arguments where
  /-- The options in use, in order. -/
  settings : List Setting
  /-- The other arguments, in order. -/
  positional : List String
  deriving Repr, DecidableEq

namespace Arguments

/-- Whether an option is in use. -/
def has (arguments : Arguments) (long : String) : Bool :=
  arguments.settings.any fun setting => setting.1 = long

/-- The value that an option got last. -/
def last? (arguments : Arguments) (long : String) : Option String :=
  (arguments.settings.reverse.lookup long).join

/-- Arguments with more settings before them. -/
def addSettings (settings : List Setting) (arguments : Arguments) : Arguments :=
  { arguments with settings := settings ++ arguments.settings }

/-- Arguments with one more before them. -/
def addPositional (argument : String) (arguments : Arguments) : Arguments :=
  { arguments with positional := argument :: arguments.positional }

end Arguments

/-! ## §2. One argument. -/

/-- The settings of an argument, and the option that still waits for its
value. -/
structure Reading where
  /-- The settings that are complete. -/
  settings : List Setting
  /-- The option that takes the next argument as its value. -/
  waiting : Option String

/-- Read a run of short options. -/
def readShort (specs : List OptionSpec) : List Char → Option Reading
  | [] => some ⟨[], none⟩
  | letter :: rest =>
      match specs.find? fun spec => spec.short = some letter with
      | none => none
      | some spec =>
          if spec.takesValue then
            if rest.isEmpty then some ⟨[], some spec.long⟩
            else some ⟨[(spec.long, some (String.ofList rest))], none⟩
          else
            (readShort specs rest).map fun reading =>
              { reading with settings := (spec.long, none) :: reading.settings }

/-- Read a long option, given without its hyphens. -/
def readLong (specs : List OptionSpec) (body : List Char) : Option Reading :=
  let name := String.ofList (body.takeWhile (· ≠ '='))
  match specs.find? fun spec => spec.long = name with
  | none => none
  | some spec =>
      match body.dropWhile (· ≠ '='), spec.takesValue with
      | [], true => some ⟨[], some spec.long⟩
      | [], false => some ⟨[(spec.long, none)], none⟩
      | _ :: value, true => some ⟨[(spec.long, some (String.ofList value))], none⟩
      | _ :: _, false => none

/-! ## §3. All arguments. -/

/-- What an argument is. -/
inductive ArgumentKind where
  /-- The end of the options. -/
  | endOfOptions
  /-- A long option, without its hyphens. -/
  | long (body : List Char)
  /-- Short options, without their hyphen. -/
  | short (letters : List Char)
  /-- Anything else. -/
  | positional

/-- The kind of an argument. -/
def ArgumentKind.of (argument : String) : ArgumentKind :=
  match argument.toList with
  | ['-', '-'] => .endOfOptions
  | '-' :: '-' :: body => .long body
  | '-' :: letter :: letters => .short (letter :: letters)
  | _ => .positional

/-- Read arguments; options behind the first other argument are read as such
only if they may be `interspersed`.  There is no result when an option is
unknown, lacks its value or has one that it does not take. -/
def readArguments (specs : List OptionSpec) (interspersed : Bool) :
    List String → Option Arguments
  | [] => some ⟨[], []⟩
  | argument :: rest =>
      let continueWith (reading : Option Reading) : Option Arguments :=
        match reading, rest with
        | none, _ => none
        | some ⟨settings, none⟩, rest =>
            (readArguments specs interspersed rest).map (.addSettings settings)
        | some ⟨_, some _⟩, [] => none
        | some ⟨settings, some long⟩, value :: rest =>
            (readArguments specs interspersed rest).map
              (.addSettings (settings ++ [(long, some value)]))
      match ArgumentKind.of argument with
      | .endOfOptions => some ⟨[], rest⟩
      | .long body => continueWith (readLong specs body)
      | .short letters => continueWith (readShort specs letters)
      | .positional =>
          if interspersed then
            (readArguments specs interspersed rest).map (.addPositional argument)
          else some ⟨[], argument :: rest⟩

end Stylesheet.Cli
