/-
  Stylesheet.Proofs.Lines
  ───────────────────────
  **THE LINES OF A SHEET APART FROM THEIR LAYOUT.**

  Printing puts the indentation in front of every line as it goes.  Here the
  lines are made first, each with its depth and nothing in front, and are
  laid out afterwards.  A block whose declarations cannot all be written has
  no lines at all: whichever of them is the one to fail, the fault is the
  same.

  Main statements:
    * `printBlock_eq`, `printGrouped_eq`, `printEntry_eq` — what is printed
      is what is laid out, part by part;
    * `printSheet_eq` — so are whole sheets, the one without lines among
      them.
-/
import Stylesheet.Layout
import Stylesheet.Proofs.Visit

namespace Stylesheet

open AtRule

/-! ## §1. Lines. -/

/-- A line of a sheet before it is laid out. -/
structure Line where
  /-- How many blocks it stands in. -/
  depth : Nat
  /-- Its text. -/
  text : String
  deriving Repr, DecidableEq

/-- The line of a declaration. -/
def declarationLine (depth : Nat) (declaration : Value × Value) : Line where
  depth := depth
  text := Property.withoutMarker (Property.ofKey declaration.1.printed) ++ ": " ++
    declaration.2.printed ++ ";"

/-- The lines of a block: its head, its contents and its end. -/
def blockLines (depth : Nat) (head : String) (contents : List Line) : List Line :=
  ⟨depth, head ++ " \x7b"⟩ :: contents ++ [⟨depth, "\x7d"⟩]

/-- The lines of a block of declarations. -/
def declarationsLines (depth : Nat) (head : String) (declarations : List (Value × Value)) :
    List Line :=
  blockLines depth head (declarations.map (declarationLine (depth + 1)))

/-- Whether the values of all declarations can be written. -/
def areWritableDeclarations (declarations : List (Value × Value)) : Bool :=
  declarations.all fun declaration => declaration.2.isWritable

/-- The lines of a selector below a grouping rule. -/
def groupedLines (key : String) (selector value : Value) : Traced (List Line) := do
  let head ← .print selector
  match value with
  | .map declarations =>
      .ifWritable (areWritableDeclarations declarations) (declarationsLines 1 head declarations)
  | _ => .fail (some [key, head]) (.groupedSelector key)

/-- The lines of a top-level entry. -/
def entryLines (key : String) (value : Value) : Traced (List Line) :=
  match value with
  | .map entries => do
      match ← if isKey key then ruleKind key else pure .block with
      | .group =>
          let rules ← entries.mapM fun (selector, value) => groupedLines key selector value
          return blockLines 0 key rules.flatten
      | _ => .ifWritable (areWritableDeclarations entries) (declarationsLines 0 key entries)
  | value => do
      if isKey key then return [⟨0, key ++ " " ++ (← .print value) ++ ";"⟩]
      else .fail (some [key]) (.selectorNotBlock key value)

/-- The lines of a sheet that is given as a value. -/
def sheetLines : Value → Traced (List Line)
  | .map entries => do
      let lines ← entries.mapM fun (key, value) => entryLines key.printed value
      return lines.flatten
  | sheet => .fail none (.sheetNotMapping sheet)

/-! ## §2. Laying lines out. -/

namespace SheetLayout

variable (layout : SheetLayout)

/-- A line with its indentation. -/
def padded (line : Line) : String := layout.pad line.depth ++ line.text

/-- Lines as they are laid out. -/
def lines (lines : List Line) : String :=
  String.join (lines.map fun line => layout.padded line ++ layout.newline)

/-- Texts with ends between them and behind the last, if there is one, are
texts with an end behind each. -/
theorem ended_eq_join (newline : String) (texts : List String) :
    (if texts.isEmpty then "" else String.intercalate newline texts ++ newline)
      = String.join (texts.map (· ++ newline)) := by
  cases texts with
  | nil => rfl
  | cons text rest =>
      rw [List.isEmpty_cons, if_neg Bool.false_ne_true]
      induction rest generalizing text with
      | nil => simp
      | cons next rest ih =>
          rw [String.intercalate_cons_cons, String.append_assoc, String.append_assoc, ih next,
            List.map_cons (l := next :: rest), String.join_cons, String.append_assoc]

end SheetLayout

/-! ## §3. Runs that stop at what cannot be written. -/

namespace Traced

variable {α β γ : Type}

@[simp]
theorem fail_bind (path : Option (List String)) (fault : Fault) (f : α → Traced β) :
    (fail path fault >>= f) = fail path fault := rfl

@[simp]
theorem map_ifWritable (g : α → β) (isWritable : Bool) (a : α) :
    g <$> ifWritable isWritable a = ifWritable isWritable (g a) := by
  cases isWritable with
  | false => rfl
  | true => rw [ifWritable_true, map_pure, ifWritable_true]

/-- A run over a list stops if one of its steps does. -/
theorem mapM_ifWritable (isWritable : α → Bool) (g : α → β) (items : List α) :
    (items.mapM fun a => ifWritable (isWritable a) (g a))
      = ifWritable (items.all isWritable) (items.map g) := by
  induction items with
  | nil => rfl
  | cons a rest ih =>
      rw [List.mapM_cons, ih, List.all_cons]
      cases isWritable a with
      | false => rfl
      | true => simp

/-- A run over a list whose steps all change their result changes all of them
at the end. -/
theorem mapM_map_result (g : β → γ) (f : α → Traced β) (items : List α) :
    (items.mapM fun a => g <$> f a) = List.map g <$> items.mapM f := by
  induction items with
  | nil => rfl
  | cons a rest ih => simp [List.mapM_cons, ih]

end Traced

/-! ## §4. What is printed is what is laid out. -/

section Agreement

variable (layout : SheetLayout)

theorem printDeclaration_eq (depth : Nat) (declaration : Value × Value) :
    layout.printDeclaration depth declaration.1 declaration.2
      = .ifWritable declaration.2.isWritable
        (layout.padded (declarationLine depth declaration)) := by
  simp [SheetLayout.printDeclaration, Traced.print, SheetLayout.padded, declarationLine,
    String.append_assoc]

/-- **A block is printed as its lines.** -/
theorem printBlock_eq (depth : Nat) (head : Value) (declarations : List (Value × Value)) :
    layout.printBlock depth head declarations = (do
      let head ← .print head
      .ifWritable (areWritableDeclarations declarations)
        ((declarationsLines depth head declarations).map layout.padded)) := by
  simp [SheetLayout.printBlock, printDeclaration_eq, Traced.mapM_ifWritable,
    areWritableDeclarations, declarationsLines, blockLines, SheetLayout.padded,
    String.append_assoc, Function.comp_def]

/-- **So is a selector below a grouping rule.** -/
theorem printGrouped_eq (key : String) (selector value : Value) :
    layout.printGrouped key selector value
      = List.map layout.padded <$> groupedLines key selector value := by
  cases value with
  | map declarations =>
      rw [SheetLayout.printGrouped, printBlock_eq, groupedLines]
      simp
  | _ =>
      rw [SheetLayout.printGrouped, groupedLines, map_bind]
      · rfl
      · intro _ block
        cases block

/-- **So is every entry.** -/
theorem printEntry_eq (key : String) (value : Value) :
    layout.printEntry key value = List.map layout.padded <$> entryLines key value := by
  cases value with
  | map entries =>
      have block : layout.printBlock 0 (.text key) entries
          = List.map layout.padded
            <$> .ifWritable (areWritableDeclarations entries) (declarationsLines 0 key entries) := by
        rw [printBlock_eq]
        simp
      rw [SheetLayout.printEntry, entryLines]
      cases isKey key with
      | false => exact block
      | true =>
          -- asking for the kind of a rule can be an event, so both sides ask first
          rw [if_pos rfl, if_pos rfl, map_bind]
          refine bind_congr fun kind => ?_
          cases kind with
          | group =>
              simp only [printGrouped_eq, Traced.mapM_map_result]
              simp [blockLines, SheetLayout.padded, SheetLayout.pad, List.map_flatten]
          | block | statement => exact block
  | _ =>
      show (if isKey key then _ else _ : Traced _) = List.map layout.padded <$> (if isKey key then _
        else _ : Traced _)
      cases isKey key with
      | false => rfl
      | true => simp [SheetLayout.padded, SheetLayout.pad]

/-- **A sheet is printed as its lines, laid out.** -/
theorem printSheet_eq (sheet : Value) :
    printSheet sheet layout = layout.lines <$> sheetLines sheet := by
  cases sheet with
  | map entries =>
      rw [printSheet, sheetLines]
      simp only [printEntry_eq, Traced.mapM_map_result, map_bind, bind_map_left]
      refine bind_congr fun lines => ?_
      have ended := SheetLayout.ended_eq_join layout.newline (lines.flatten.map layout.padded)
      rw [List.map_map] at ended
      rw [map_pure, ← List.map_flatten]
      show _ = pure (String.join (lines.flatten.map ((· ++ layout.newline) ∘ layout.padded)))
      rw [← ended]
      split <;> rfl
  | _ => rfl

end Agreement

end Stylesheet
