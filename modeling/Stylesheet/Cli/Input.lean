/-
  Stylesheet.Cli.Input
  ────────────────────
  **READING A STYLE TREE FROM A FILE.**

  The bytes are characters in UTF-8, the text kept for these is a JSON
  document after its line ends have been made equal, and the document is the
  tree.
-/
import Stylesheet.Json.Reader
import Stylesheet.Text.Newline
import Stylesheet.Text.Utf8

namespace Stylesheet.Cli

/-- Why a file holds no tree. -/
inductive InputError where
  /-- The bytes are no text. -/
  | encoding (error : Text.Utf8.DecodeError)
  /-- The text is no document. -/
  | document (error : Json.SyntaxError)
  deriving DecidableEq

/-- Whether an error is one that is told; an integer that is too long is not
expected in a document, and ends the run. -/
def InputError.isTold : InputError → Bool
  | .document ⟨.tooManyDigits _, _, _⟩ => false
  | _ => true

/-- The wording of an error in the file of the given name. -/
def InputError.message (file : String) : InputError → String
  | .encoding error =>
      file ++ " is not valid UTF-8 (byte " ++ toString error.offset ++ ": " ++
        error.mistake.message ++ ")"
  | .document error => "invalid JSON in " ++ file ++ ": " ++ error.message

/-- The tree that bytes stand for. -/
def treeOfBytes (bytes : List UInt8) : Except InputError Value := do
  let text ← (Text.Utf8.decode bytes).mapError .encoding
  (Json.read (Text.Newline.unify (Text.coded text))).mapError .document

end Stylesheet.Cli
