/-
  Stylesheet.Json.Reader
  ──────────────────────
  **READING A JSON DOCUMENT.**

  The reader takes one word after the other.  It knows what may come next
  and which lists and mappings are still open.  The first word that is not
  what has to come is reported at its place, by line and column; so is the
  end of the text, if it comes too early.
-/
import Stylesheet.Json.Token
import Stylesheet.Value.Mapping

namespace Stylesheet.Json

/-! ## §1. States. -/

/-- A list or a mapping that is not closed yet. -/
inductive Frame where
  /-- A list with its items so far, the last one first. -/
  | list (items : List Value)
  /-- A mapping with its entries so far, the last one first, and the name
  that waits for its value. -/
  | map (entries : List (Value × Value)) (name : String)

/-- What may come next. -/
inductive Expectation where
  /-- A value. -/
  | value
  /-- A value or the end of the list that was just opened. -/
  | firstItem
  /-- A property name of the mapping with these entries. -/
  | name (entries : List (Value × Value))
  /-- A property name or the end of the mapping that was just opened. -/
  | firstName
  /-- The colon behind a property name. -/
  | colon (entries : List (Value × Value)) (name : String)
  /-- What may follow a value that is complete. -/
  | after (value : Value)

/-- The state of a reader. -/
structure State where
  /-- What is open, the innermost first. -/
  stack : List Frame
  /-- What may come next. -/
  next : Expectation

/-- The state before the first word. -/
def State.start : State := ⟨[], .value⟩

/-! ## §2. One word. -/

/-- The state after a value begins with a word. -/
def beginValue (stack : List Frame) (lexeme : Lexeme) : Except Problem State :=
  match lexeme.token with
  | .string s => .ok ⟨stack, .after (.text s)⟩
  | .scalar value => .ok ⟨stack, .after value⟩
  | .mark '[' => .ok ⟨stack, .firstItem⟩
  | .mark '\x7b' => .ok ⟨stack, .firstName⟩
  | .longInteger digits => .error ⟨.tooManyDigits digits, lexeme.text⟩
  | .broken problem => .error problem
  | _ => .error ⟨.value, lexeme.text⟩

/-- The state after a property name. -/
def beginName (stack : List Frame) (entries : List (Value × Value)) (lexeme : Lexeme) :
    Except Problem State :=
  match lexeme.token with
  | .string s => .ok ⟨stack, .colon entries s⟩
  | .broken problem => .error problem
  | _ => .error ⟨.propertyName, lexeme.text⟩

/-- The state after a word behind a complete value. -/
def afterValue (stack : List Frame) (value : Value) (lexeme : Lexeme) : Except Problem State :=
  match stack with
  | [] => .error ⟨.extraData, lexeme.text⟩
  | .list items :: outer =>
      match lexeme.token with
      | .mark ',' => .ok ⟨.list (value :: items) :: outer, .value⟩
      | .mark ']' => .ok ⟨outer, .after (.list (value :: items).reverse)⟩
      | _ => .error ⟨.comma, lexeme.text⟩
  | .map entries name :: outer =>
      let entries := (.text name, value) :: entries
      match lexeme.token with
      | .mark ',' => .ok ⟨outer, .name entries⟩
      | .mark '\x7d' => .ok ⟨outer, .after (.ofEntries entries.reverse)⟩
      | _ => .error ⟨.comma, lexeme.text⟩

/-- The state after a word. -/
def State.step (state : State) (lexeme : Lexeme) : Except Problem State :=
  match state.next, lexeme.token with
  | .value, _ => beginValue state.stack lexeme
  | .firstItem, .mark ']' => .ok ⟨state.stack, .after (.list [])⟩
  | .firstItem, _ => beginValue (.list [] :: state.stack) lexeme
  | .firstName, .mark '\x7d' => .ok ⟨state.stack, .after (.map [])⟩
  | .firstName, _ => beginName state.stack [] lexeme
  | .name entries, _ => beginName state.stack entries lexeme
  | .colon entries name, .mark ':' => .ok ⟨.map entries name :: state.stack, .value⟩
  | .colon .., _ => .error ⟨.colon, lexeme.text⟩
  | .after value, _ => afterValue state.stack value lexeme

/-- What a document that ends in a state stands for. -/
def State.finish (state : State) : Except Problem Value :=
  match state.next with
  | .value | .firstItem => .error ⟨.value, []⟩
  | .name _ | .firstName => .error ⟨.propertyName, []⟩
  | .colon .. => .error ⟨.colon, []⟩
  | .after value => if state.stack.isEmpty then .ok value else .error ⟨.comma, []⟩

/-! ## §3. Documents. -/

/-- A mistake and its place. -/
structure SyntaxError where
  /-- What is wrong. -/
  mistake : Mistake
  /-- The line of the place, from one on. -/
  line : Nat
  /-- The column of the place, from one on. -/
  column : Nat
  deriving Repr, DecidableEq

/-- The wording of an error. -/
def SyntaxError.message (error : SyntaxError) : String :=
  error.mistake.message ++ " (line " ++ toString error.line ++ ", column " ++
    toString error.column ++ ")"

/-- The problem at its place in a document. -/
def Problem.locate (document : List Char) (problem : Problem) : SyntaxError :=
  let before := document.take (document.length - problem.text.length)
  let line := (before.reverse.takeWhile (· ≠ '\n')).reverse
  { mistake := problem.mistake
    line := before.count '\n' + 1
    column := (Text.points line).length + 1 }

/-- The value that words stand for. -/
def readLexemes (words : List Lexeme) : Except Problem Value :=
  words.foldlM State.step State.start >>= State.finish

/-- **The value that a document stands for.** -/
def read (document : List Char) : Except SyntaxError Value :=
  let result :=
    if document.head? = some '\ufeff' then .error ⟨.byteOrderMark, document⟩
    else readLexemes (lexemes document)
  result.mapError (Problem.locate document)

end Stylesheet.Json
