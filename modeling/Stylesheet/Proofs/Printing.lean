/-
  Stylesheet.Proofs.Printing
  ──────────────────────────
  **THE LINES OF A REGULAR SHEET.**

  A sheet that flattening leaves has nothing that printing could complain of
  but its integers: one with too many digits cannot be written, wherever it
  stands.  Its lines are those of its items, one after the other.  The text
  of a sheet is as long as its lines are together, so that leaving out an
  item is seen in the text, whatever the layout.

  Main statements:
    * `result_sheetLines`, `result_printSheet` — a regular sheet is printed,
      item by item, if its integers can be written;
    * `result_printTree` — so is every tree that is accepted;
    * `length_lines_append`, `length_lines_block_pos` — lengths add up, and
      no block is without length.
-/
import Stylesheet.Proofs.Lines
import Stylesheet.Proofs.SecondPass

namespace Stylesheet

open AtRule Condition Property

/-! ## §1. What can be written. -/

/-- Whether all values of declarations can be written. -/
def Declarations.isWritable (declarations : Declarations) : Bool :=
  declarations.entries.all fun e => e.2.isWritable

/-- Whether all values of an item can be written. -/
def Item.isWritable : Item → Bool
  | .statement value => value.isWritable
  | .block declarations => declarations.isWritable
  | .group rules => rules.entries.all fun e => e.2.isWritable

/-- Whether all values of a sheet can be written. -/
def Sheet.isWritable (sheet : Sheet) : Bool :=
  sheet.entries.all fun e => e.2.isWritable

/-- A table with texts as keys can be written if its values can. -/
theorem Value.isWritable_ofTextTable (t : Table String Value) :
    (Value.ofTextTable t).isWritable = t.entries.all fun e => e.2.isWritable := by
  show haveWritable (t.entries.map fun e => (Value.text e.1, e.2)) = _
  rw [Bool.eq_iff_iff, haveWritable_iff, List.all_eq_true, List.forall_mem_map]
  exact forall₂_congr fun e _ => and_iff_right (isWritable_text e.1)

theorem Declarations.isWritable_toValue (declarations : Declarations) :
    declarations.toValue.isWritable = declarations.isWritable := by
  show (Value.ofTextTable _).isWritable = _
  rw [Value.isWritable_ofTextTable, Declarations.isWritable]
  exact List.all_map

/-- **A sheet can be written just when it can be as a mapping.** -/
theorem Sheet.isWritable_toValue (sheet : Sheet) :
    sheet.toValue.isWritable = sheet.isWritable := by
  have items : ∀ item : Item, item.toValue.isWritable = item.isWritable := by
    intro item
    cases item with
    | statement value => rfl
    | block declarations => exact declarations.isWritable_toValue
    | group rules =>
        show (Value.ofTextTable _).isWritable = _
        rw [Value.isWritable_ofTextTable, Item.isWritable]
        refine (List.all_map).trans (congrArg rules.entries.all (funext fun e => ?_))
        exact e.2.isWritable_toValue
  show (Value.ofTextTable _).isWritable = _
  rw [Value.isWritable_ofTextTable, Sheet.isWritable]
  exact (List.all_map).trans (congrArg sheet.entries.all (funext fun e => items e.2))

/-! ## §2. Lines of items. -/

/-- The lines of declarations with their head. -/
def Declarations.lines (depth : Nat) (head : String) (declarations : Declarations) : List Line :=
  declarationsLines depth head (declarations.entries.map fun e => (.text e.1, .scalar e.2))

/-- The lines of an item. -/
def Item.lines (key : String) : Item → List Line
  | .statement value => [⟨0, key ++ " " ++ value.printed ++ ";"⟩]
  | .block declarations => declarations.lines 0 key
  | .group rules => blockLines 0 key (rules.entries.flatMap fun e => e.2.lines 1 e.1)

/-- The lines of a sheet. -/
def Sheet.lines (sheet : Sheet) : List Line :=
  sheet.entries.flatMap fun e => e.2.lines e.1

/-- A run over a list has the results of its steps, if all of them can be
written. -/
theorem Traced.result_mapM_ifWritable {α β : Type} {f : α → Traced β} {isWritable : α → Bool}
    {g : α → β} {items : List α}
    (h : ∀ a ∈ items, (f a).result = (ifWritable (isWritable a) (g a)).result) :
    (items.mapM f).result = (ifWritable (items.all isWritable) (items.map g)).result := by
  rw [← mapM_ifWritable, result_mapM, result_mapM]
  induction items with
  | nil => rfl
  | cons a rest ih =>
      rw [List.mapM_cons, List.mapM_cons, h a List.mem_cons_self,
        ih fun b hb => h b (List.mem_cons_of_mem _ hb)]

theorem Traced.result_ifWritable_eq_ok_iff {α : Type} {isWritable : Bool} {a b : α} :
    (ifWritable isWritable a).result = .ok b ↔ isWritable = true ∧ a = b := by
  cases isWritable with
  | false => simp
  | true => simp

section Entries

variable {key : String} {value : Value} {entries : List (Value × Value)}

/-- An at-rule with anything but a mapping is one line. -/
theorem result_entryLines_line (h : isKey key = true) (hvalue : value.entries? = none) :
    (entryLines key value).result
      = (Traced.ifWritable value.isWritable
          [Line.mk 0 (key ++ " " ++ value.printed ++ ";")]).result := by
  cases value with
  | map entries => cases hvalue
  | _ =>
      show (if isKey key then _ else _ : Traced _).result = _
      rw [if_pos h, bind_pure_comp, Traced.print, Traced.map_ifWritable]

/-- A selector with anything but a mapping fails. -/
theorem result_entryLines_no_block (h : isKey key = false) (hvalue : value.entries? = none) :
    (entryLines key value).result = .error ⟨.selectorNotBlock key value, some [key]⟩ := by
  cases value with
  | map entries => cases hvalue
  | _ =>
      show (if isKey key then _ else _ : Traced _).result = _
      rw [h]
      rfl

/-- A mapping below a key that groups nothing is declarations. -/
theorem result_entryLines_block (h : ¬IsGroup key) :
    (entryLines key (.map entries)).result
      = (Traced.ifWritable (areWritableDeclarations entries)
          (declarationsLines 0 key entries)).result := by
  cases hkey : isKey key with
  | false =>
      rw [entryLines, hkey]
      rfl
  | true =>
      have kind : kindOf key ≠ .group := fun hkind => h ⟨hkey, hkind⟩
      rw [entryLines, hkey, if_pos rfl, Traced.result_bind_of_ok (result_ruleKind key)]
      cases hkind : kindOf key with
      | group => exact absurd hkind kind
      | block | statement => rfl

/-- A mapping below a grouping rule is selectors with declarations. -/
theorem result_entryLines_group (h : IsGroup key) :
    (entryLines key (.map entries)).result
      = ((entries.mapM fun e => groupedLines key e.1 e.2) >>= fun rules =>
        pure (blockLines 0 key rules.flatten)).result := by
  rw [entryLines, h.1, if_pos rfl, Traced.result_bind_of_ok (result_ruleKind key), h.2]

end Entries

theorem areWritableDeclarations_toValue (declarations : Declarations) :
    areWritableDeclarations (declarations.entries.map fun e => (.text e.1, .scalar e.2))
      = declarations.isWritable :=
  List.all_map

theorem groupedLines_toValue (key selector : String) (declarations : Declarations) :
    groupedLines key (.text selector) declarations.toValue
      = .ifWritable declarations.isWritable (declarations.lines 1 selector) := by
  rw [Declarations.toValue_eq, ← areWritableDeclarations_toValue]
  rfl

/-- The lines of a regular item. -/
theorem result_entryLines {key : String} {item : Item} (regular : item.Regular key) :
    (entryLines key item.toValue).result
      = (Traced.ifWritable item.isWritable (item.lines key)).result := by
  cases regular with
  | statement hkey hkind => exact result_entryLines_line hkey rfl
  | @flatBlock declarations hkey hkind =>
      show (entryLines key declarations.toValue).result = _
      rw [Declarations.toValue_eq,
        result_entryLines_block (not_isGroup_of_kind hkind (by decide)),
        areWritableDeclarations_toValue]
      rfl
  | @selector declarations rule =>
      show (entryLines key declarations.toValue).result = _
      rw [Declarations.toValue_eq, result_entryLines_block (not_isGroup_of_isKey rule.isKey),
        areWritableDeclarations_toValue]
      rfl
  | @group rules hkey hne hrules =>
      have run : (rules.entries.map fun e => (Value.text e.1, e.2.toValue)).mapM
          (fun e => groupedLines key e.1 e.2)
            = .ifWritable (Item.group rules).isWritable
              (rules.entries.map fun e => e.2.lines 1 e.1) := by
        rw [List.mapM_map, Item.isWritable, ← Traced.mapM_ifWritable]
        exact congrArg (rules.entries.mapM ·)
          (funext fun e => groupedLines_toValue key e.1 e.2)
      rw [Item.toValue_group, result_entryLines_group hkey, run, bind_pure_comp,
        Traced.map_ifWritable, ← List.flatMap_def]
      rfl

/-- **The lines of a regular sheet are those of its items.** -/
theorem result_sheetLines {sheet : Sheet} (regular : sheet.Regular) :
    (sheetLines sheet.toValue).result
      = (Traced.ifWritable sheet.isWritable sheet.lines).result := by
  have run : ((sheet.entries.map fun e => (Value.text e.1, e.2.toValue)).mapM
      fun e => entryLines e.1.printed e.2).result
        = (Traced.ifWritable sheet.isWritable (sheet.entries.map fun e => e.2.lines e.1)).result := by
    rw [List.mapM_map]
    exact Traced.result_mapM_ifWritable fun e he => result_entryLines (regular e he)
  rw [Sheet.toValue_eq]
  show ((sheet.entries.map fun e => (Value.text e.1, e.2.toValue)).mapM
    (fun e => entryLines e.1.printed e.2) >>= fun lines => pure lines.flatten : Traced _).result = _
  rw [Traced.result_bind, run, ← Traced.result_bind, bind_pure_comp, Traced.map_ifWritable,
    Sheet.lines, List.flatMap_def]

/-- **A regular sheet can be printed if its integers can be written.** -/
theorem result_printSheet {sheet : Sheet} (regular : sheet.Regular) (layout : SheetLayout) :
    (printSheet sheet.toValue layout).result
      = (Traced.ifWritable sheet.isWritable (layout.lines sheet.lines)).result := by
  rw [printSheet_eq, map_eq_pure_bind, Traced.result_bind, result_sheetLines regular,
    ← Traced.result_bind, ← map_eq_pure_bind, Traced.map_ifWritable]

/-- A tree that is accepted is printed, as the lines of its sheet. -/
theorem result_printTree {tree : Value} {sheet : Sheet} (h : (flatten tree).result = .ok sheet)
    (layout : SheetLayout) : (printTree tree layout).result
      = (Traced.ifWritable sheet.isWritable (layout.lines sheet.lines)).result := by
  rw [printTree, Traced.result_bind_of_ok h]
  exact result_printSheet (regular_of_flatten h) layout

/-- It is printed just when its integers can be written. -/
theorem result_printTree_eq_ok_iff {tree : Value} {sheet : Sheet}
    (h : (flatten tree).result = .ok sheet) (layout : SheetLayout) (text : String) :
    (printTree tree layout).result = .ok text
      ↔ sheet.isWritable = true ∧ layout.lines sheet.lines = text := by
  rw [result_printTree h, Traced.result_ifWritable_eq_ok_iff]

/-! ## §3. Lengths. -/

section Lengths

variable (layout : SheetLayout)

/-- Lengths of lines add up. -/
theorem length_lines_append (lines others : List Line) :
    (layout.lines (lines ++ others)).length
      = (layout.lines lines).length + (layout.lines others).length := by
  rw [SheetLayout.lines, List.map_append, String.join_append, String.length_append]
  rfl

theorem length_blockLines (depth : Nat) (head : String) (contents : List Line) :
    (layout.lines (blockLines depth head contents)).length
      = (layout.lines [⟨depth, head ++ " \x7b"⟩]).length + (layout.lines contents).length
        + (layout.lines [⟨depth, "\x7d"⟩]).length := by
  have parts : blockLines depth head contents
      = [⟨depth, head ++ " \x7b"⟩] ++ contents ++ [⟨depth, "\x7d"⟩] := rfl
  rw [parts, length_lines_append, length_lines_append]

/-- **No block is without length.** -/
theorem length_lines_block_pos (depth : Nat) (head : String) (contents : List Line) :
    0 < (layout.lines (blockLines depth head contents)).length := by
  -- the closing brace is a line in every layout
  have brace : 0 < (layout.lines [⟨depth, "\x7d"⟩]).length := by
    rw [SheetLayout.lines, List.map_singleton, String.length_join, List.map_singleton,
      List.sum_singleton, SheetLayout.padded, String.length_append, String.length_append]
    have one : (Line.mk depth "\x7d").text.length = 1 := by
      show "\x7d".length = 1
      decide
    omega
  rw [length_blockLines]
  omega

variable {α : Type} {few many : α → List Line} {items : List α}

/-- Lines that are not longer entry by entry are not longer together. -/
theorem length_flatMap_le
    (h : ∀ a ∈ items, (layout.lines (few a)).length ≤ (layout.lines (many a)).length) :
    (layout.lines (items.flatMap few)).length ≤ (layout.lines (items.flatMap many)).length := by
  induction items with
  | nil => exact Nat.le_refl _
  | cons a rest ih =>
      have here := h a List.mem_cons_self
      have others := ih fun b hb => h b (List.mem_cons_of_mem _ hb)
      rw [List.flatMap_cons, List.flatMap_cons, length_lines_append, length_lines_append]
      omega

/-- If they are as long together they are as long entry by entry. -/
theorem length_eq_of_flatMap
    (h : ∀ a ∈ items, (layout.lines (few a)).length ≤ (layout.lines (many a)).length)
    (total : (layout.lines (items.flatMap few)).length
      = (layout.lines (items.flatMap many)).length) :
    ∀ a ∈ items, (layout.lines (few a)).length = (layout.lines (many a)).length := by
  induction items with
  | nil =>
      intro a ha
      cases ha
  | cons a rest ih =>
      have here := h a List.mem_cons_self
      have below := fun b hb => h b (List.mem_cons_of_mem a hb)
      have others := length_flatMap_le layout below
      rw [List.flatMap_cons, List.flatMap_cons, length_lines_append, length_lines_append] at total
      intro b hb
      rcases List.mem_cons.mp hb with rfl | hb
      · omega
      · exact ih below (by omega) b hb

end Lengths

end Stylesheet
