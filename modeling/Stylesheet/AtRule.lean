/-
  Stylesheet.AtRule
  ─────────────────
  **AT-RULES.**

  A key that begins with `@` is an at-rule: a name, and behind it a
  condition or another parameter.  Its name alone decides what its value has
  to be.
-/
import Stylesheet.Text.Casing
import Stylesheet.Text.Quoted
import Stylesheet.Text.Trim
import Stylesheet.Unicode.Word

namespace Stylesheet

open Stylesheet.Unicode

/-! ## §1. The parts of a key. -/

/-- An at-rule key taken apart. -/
structure AtRule where
  /-- The name, in lower case and without the `@`. -/
  name : String
  /-- The text behind the name, without the blanks around it. -/
  condition : String
  deriving Repr, DecidableEq

namespace AtRule

/-- Whether a character can stand in a name. -/
def isNameChar (c : Char) : Bool :=
  c = '-' || isWord c

/-- Take the text behind the `@` apart. -/
def ofBody (body : List Char) : AtRule where
  name := String.ofList (Text.lower (body.takeWhile isNameChar))
  condition := String.ofList (Text.trim (body.dropWhile isNameChar))

/-- Take a key apart, if an `@` is its first character that is not blank. -/
def parse? (key : String) : Option AtRule :=
  match Text.trim key.toList with
  | '@' :: body => some (ofBody body)
  | _ => none

/-- Whether a key begins with `@`. -/
def isKey (key : String) : Bool :=
  key.toList.head? = some '@'

/-- The key with the given parts. -/
def key (rule : AtRule) : String :=
  if rule.condition.isEmpty then "@" ++ rule.name
  else "@" ++ rule.name ++ " " ++ rule.condition

/-! ## §2. Kinds. -/

/-- What the value of an at-rule has to be. -/
inductive Kind where
  /-- A nested style block, which applies under a condition. -/
  | group
  /-- A block of declarations. -/
  | block
  /-- A single value. -/
  | statement
  deriving Repr, DecidableEq

/-- The word for a kind. -/
def Kind.word : Kind → String
  | .group => "grouping"
  | .block => "flat_declaration"
  | .statement => "flat_value"

/-- The kinds of the at-rules that are known by name. -/
def knownKinds : List (String × Kind) :=
  [("media", .group), ("supports", .group), ("document", .group),
   ("font-face", .block), ("page", .block),
   ("viewport", .block), ("counter-style", .block),
   ("charset", .statement), ("import", .statement), ("namespace", .statement)]

/-- The kind of an at-rule, if its name is known. -/
def known? (rule : AtRule) : Option Kind :=
  knownKinds.lookup rule.name

/-- The kind of an at-rule; one that is not known takes a single value. -/
def kind (rule : AtRule) : Kind :=
  rule.known?.getD .statement

end AtRule

/-! ## §3. Keys that are no at-rules. -/

/-- The complaint about a key that is taken for an at-rule and is none. -/
def AtRule.notAtRule (key : String) : String :=
  "Not an at-rule: " ++ Text.quote key

end Stylesheet
