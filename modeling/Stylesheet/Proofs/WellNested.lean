/-
  Stylesheet.Proofs.WellNested
  ────────────────────────────
  **THE LINES OF A PRINTED MAPPING ARE WELL NESTED.**

  What the lines of a mapping are is said here without printing it: they come
  apart into one passage for each entry, in order, and a passage is a single
  line or a block.  A block is a head, contents one step deeper and an end.
  Below a grouping rule the contents are the blocks of its selectors, below
  every other key one line for each declaration.  All of it has to be such that
  it can be written.  A mapping that is printed in one layout has such lines,
  and no others; every layout prints them.

  Main statements:
    * `result_sheetLines_eq_ok_iff` — the lines of a mapping are those that
      are well nested;
    * `printSheet_wellNested` — every layout prints the same lines.
-/
import Mathlib.Data.List.Forall2
import Stylesheet.Proofs.Printable

namespace Stylesheet

open AtRule Condition Property

/-! ## §1. Well-nested lines. -/

/-- The line of a declaration: its canonical name without the marker, and its
value, which can be written. -/
structure IsDeclarationLine (depth : Nat) (declaration : Value × Value) (line : Line) : Prop where
  isWritable : declaration.2.isWritable = true
  depth_eq : line.depth = depth
  text_eq : line.text
    = withoutMarker (ofKey declaration.1.printed) ++ ": " ++ declaration.2.printed ++ ";"

/-- Lines that come apart into one passage for each item, in order. -/
def InTurn {α : Type} (Passage : α → List Line → Prop) (items : List α) (lines : List Line) :
    Prop :=
  ∃ passages, List.Forall₂ Passage items passages ∧ lines = passages.flatten

/-- The lines of a block with a head and contents of some kind. -/
inductive IsBlock (depth : Nat) (head : String) (Contents : List Line → Prop) :
    List Line → Prop where
  | block {first contents last} (hfirst : first = ⟨depth, head ++ " \x7b"⟩)
      (hcontents : Contents contents) (hlast : last = ⟨depth, "\x7d"⟩) :
      IsBlock depth head Contents (first :: contents ++ [last])

/-- A block with exactly one line for each declaration, in order. -/
def IsDeclarationBlock (depth : Nat) (head : String) (declarations : List (Value × Value)) :
    List Line → Prop :=
  IsBlock depth head (List.Forall₂ (IsDeclarationLine (depth + 1)) declarations)

/-- The block of a selector below a grouping rule. -/
def IsRuleBlock (rule : Value × Value) (lines : List Line) : Prop :=
  rule.1.isWritable = true ∧ ∃ declarations, rule.2 = .map declarations
    ∧ IsDeclarationBlock 1 rule.1.printed declarations lines

/-- The passage of an entry. -/
inductive IsPassage (key : String) : Value → List Line → Prop where
  /-- An at-rule without a block. -/
  | line {value line} (hkey : isKey key = true) (hvalue : value.entries? = none)
      (hwritable : value.isWritable = true)
      (hline : line = ⟨0, key ++ " " ++ value.printed ++ ";"⟩) : IsPassage key value [line]
  /-- A block of declarations. -/
  | declarations {declarations lines} (hkey : ¬IsGroup key)
      (hlines : IsDeclarationBlock 0 key declarations lines) :
      IsPassage key (.map declarations) lines
  /-- A block of nothing but blocks, one for each selector of a grouping rule. -/
  | rules {rules lines} (hkey : IsGroup key)
      (hlines : IsBlock 0 key (InTurn IsRuleBlock rules) lines) :
      IsPassage key (.map rules) lines

/-- Lines that are well nested, as those of a mapping. -/
def WellNested (entries : List (Value × Value)) : List Line → Prop :=
  InTurn (fun e => IsPassage e.1.printed e.2) entries

/-! ## §2. Blocks. -/

theorem isBlock_iff {depth : Nat} {head : String} {Contents : List Line → Prop}
    {lines : List Line} :
    IsBlock depth head Contents lines
      ↔ ∃ contents, Contents contents ∧ lines = blockLines depth head contents := by
  constructor
  · intro h
    cases h with
    | block hfirst hcontents hlast =>
        subst hfirst hlast
        exact ⟨_, hcontents, rfl⟩
  · intro h
    obtain ⟨contents, hcontents, rfl⟩ := h
    exact .block rfl hcontents rfl

theorem isDeclarationLine_iff {depth : Nat} {declaration : Value × Value} {line : Line} :
    IsDeclarationLine depth declaration line
      ↔ declaration.2.isWritable = true ∧ line = declarationLine depth declaration := by
  constructor
  · intro h
    cases line with
    | mk d text =>
        obtain ⟨writable, rfl, rfl⟩ := h
        exact ⟨writable, rfl⟩
  · intro h
    obtain ⟨writable, rfl⟩ := h
    exact ⟨writable, rfl, rfl⟩

/-- One line for each declaration, in order. -/
theorem forall₂_isDeclarationLine_iff {depth : Nat} {declarations : List (Value × Value)}
    {lines : List Line} :
    List.Forall₂ (IsDeclarationLine depth) declarations lines
      ↔ areWritableDeclarations declarations = true
        ∧ lines = declarations.map (declarationLine depth) := by
  induction declarations generalizing lines with
  | nil =>
      rw [List.forall₂_nil_left_iff, List.map_nil]
      exact (and_iff_right rfl).symm
  | cons declaration rest ih =>
      rw [List.forall₂_cons_left_iff, List.map_cons, areWritableDeclarations, List.all_cons,
        Bool.and_eq_true]
      simp only [isDeclarationLine_iff, ih]
      constructor
      · rintro ⟨_, _, ⟨here, rfl⟩, ⟨after, rfl⟩, rfl⟩
        exact ⟨⟨here, after⟩, rfl⟩
      · rintro ⟨⟨here, after⟩, rfl⟩
        exact ⟨_, _, ⟨here, rfl⟩, ⟨after, rfl⟩, rfl⟩

/-- A block of declarations is there just when all of it can be written. -/
theorem isDeclarationBlock_iff {depth : Nat} {head : String}
    {declarations : List (Value × Value)} {lines : List Line} :
    IsDeclarationBlock depth head declarations lines
      ↔ (Traced.ifWritable (areWritableDeclarations declarations)
          (declarationsLines depth head declarations)).result = .ok lines := by
  rw [IsDeclarationBlock, isBlock_iff, Traced.result_ifWritable_eq_ok_iff]
  simp only [forall₂_isDeclarationLine_iff]
  constructor
  · rintro ⟨_, ⟨writable, rfl⟩, rfl⟩
    exact ⟨writable, rfl⟩
  · rintro ⟨writable, rfl⟩
    exact ⟨_, ⟨writable, rfl⟩, rfl⟩

/-! ## §3. The lines of a mapping. -/

namespace Traced

variable {α β γ : Type}

/-- A run over a list succeeds with what its steps leave, one by one. -/
theorem result_mapM_eq_ok_iff {f : α → Traced β} {items : List α} {bs : List β} :
    (items.mapM f).result = .ok bs
      ↔ List.Forall₂ (fun a b => (f a).result = .ok b) items bs := by
  induction items generalizing bs with
  | nil =>
      rw [List.forall₂_nil_left_iff]
      show Except.ok [] = Except.ok bs ↔ _
      rw [Except.ok.injEq, eq_comm]
  | cons a rest ih =>
      rw [List.mapM_cons, result_bind_eq_ok_iff, List.forall₂_cons_left_iff]
      simp only [result_bind_eq_ok_iff, ih, result_pure, Except.ok.injEq]
      constructor
      · rintro ⟨b, hb, bs, hbs, rfl⟩
        exact ⟨b, bs, hb, hbs, rfl⟩
      · rintro ⟨b, bs, hb, hbs, rfl⟩
        exact ⟨b, hb, bs, hbs, rfl⟩

end Traced

/-- When every step leaves a passage, a run over a list leaves passages that
come in turn. -/
theorem result_mapM_flatten_eq_ok_iff {α : Type} {f : α → Traced (List Line)}
    {Passage : α → List Line → Prop}
    (h : ∀ a passage, (f a).result = .ok passage ↔ Passage a passage) (items : List α)
    (enclose : List Line → List Line) {lines : List Line} :
    (items.mapM f >>= fun passages => pure (enclose passages.flatten) : Traced _).result = .ok lines
      ↔ ∃ contents, InTurn Passage items contents ∧ lines = enclose contents := by
  have same : (fun a passage => (f a).result = .ok passage) = Passage := by
    funext a passage
    exact propext (h a passage)
  rw [Traced.result_bind_eq_ok_iff]
  simp only [Traced.result_mapM_eq_ok_iff, same, Traced.result_pure, Except.ok.injEq]
  constructor
  · rintro ⟨passages, hpassages, rfl⟩
    exact ⟨_, ⟨passages, hpassages, rfl⟩, rfl⟩
  · rintro ⟨_, ⟨passages, hpassages, rfl⟩, rfl⟩
    exact ⟨passages, hpassages, rfl⟩

theorem result_groupedLines_eq_ok_iff (key : String) (rule : Value × Value) (lines : List Line) :
    (groupedLines key rule.1 rule.2).result = .ok lines ↔ IsRuleBlock rule lines := by
  obtain ⟨selector, value⟩ := rule
  show _ ↔ selector.isWritable = true ∧ ∃ declarations, value = .map declarations ∧ _
  cases hselector : selector.isWritable with
  | false =>
      rw [groupedLines, Traced.print, hselector]
      constructor
      · intro h
        cases h
      · rintro ⟨h, -⟩
        cases h
  | true =>
      rw [groupedLines_of_writable hselector]
      cases value with
      | map declarations =>
          rw [← isDeclarationBlock_iff, and_iff_right rfl]
          simp only [Value.map.injEq, exists_eq_left']
      | _ =>
          constructor
          · intro h
            cases h
          · rintro ⟨-, _, h, -⟩
            cases h

/-- **The lines of an entry are its passage.** -/
theorem result_entryLines_eq_ok_iff {key : String} {value : Value} {lines : List Line} :
    (entryLines key value).result = .ok lines ↔ IsPassage key value lines := by
  constructor
  · intro h
    have printable : Printable key value :=
      fault?_entryLines_eq_none_iff.mp (Traced.fault?_eq_none_iff.mpr ⟨lines, h⟩)
    cases printable with
    | line hkey hvalue hwritable =>
        rw [result_entryLines_line hkey hvalue, Traced.result_ifWritable_eq_ok_iff] at h
        obtain ⟨-, rfl⟩ := h
        exact .line hkey hvalue hwritable rfl
    | block hkey =>
        rw [result_entryLines_block hkey] at h
        exact .declarations hkey (isDeclarationBlock_iff.mpr h)
    | group hkey hrules =>
        rw [result_entryLines_group hkey,
          result_mapM_flatten_eq_ok_iff (result_groupedLines_eq_ok_iff key)] at h
        exact .rules hkey (isBlock_iff.mpr h)
  · intro h
    cases h with
    | line hkey hvalue hwritable hline =>
        rw [result_entryLines_line hkey hvalue, Traced.result_ifWritable_eq_ok_iff]
        exact ⟨hwritable, congrArg ([·]) hline.symm⟩
    | declarations hkey hlines =>
        rw [result_entryLines_block hkey]
        exact isDeclarationBlock_iff.mp hlines
    | rules hkey hlines =>
        rw [result_entryLines_group hkey,
          result_mapM_flatten_eq_ok_iff (result_groupedLines_eq_ok_iff key)]
        exact isBlock_iff.mp hlines

/-- **The lines of a mapping are those that are well nested.** -/
theorem result_sheetLines_eq_ok_iff {entries : List (Value × Value)} {lines : List Line} :
    (sheetLines (.map entries)).result = .ok lines ↔ WellNested entries lines := by
  show (entries.mapM (fun e => entryLines e.1.printed e.2) >>=
    fun lines => pure (id lines.flatten) : Traced _).result = _ ↔ _
  rw [result_mapM_flatten_eq_ok_iff fun _ _ => result_entryLines_eq_ok_iff]
  constructor
  · rintro ⟨_, hlines, rfl⟩
    exact hlines
  · intro h
    exact ⟨lines, h, rfl⟩

/-! ## §4. Layouts. -/

/-- Printing lays out the lines of the mapping. -/
theorem result_printSheet_eq_ok_iff {sheet : Value} {layout : SheetLayout} {text : String} :
    (printSheet sheet layout).result = .ok text
      ↔ ∃ lines, (sheetLines sheet).result = .ok lines ∧ layout.lines lines = text := by
  rw [printSheet_eq, map_eq_pure_bind, Traced.result_bind_eq_ok_iff]
  simp only [Traced.result_pure, Except.ok.injEq]

/-- **Layouts change the layout only.**  A mapping that is printed in some
layout has lines that are well nested.  A mapping with such lines has no
others, and every layout prints it as these lines, each with as many steps of
indentation as blocks that it stands in before it, and the end of a line
behind it. -/
theorem printSheet_wellNested (entries : List (Value × Value)) :
    (∀ layout text, (printSheet (.map entries) layout).result = .ok text →
      ∃ lines, WellNested entries lines)
    ∧ ∀ lines, WellNested entries lines →
      (∀ others, WellNested entries others → others = lines)
      ∧ ∀ layout : SheetLayout, (printSheet (.map entries) layout).result
        = .ok (String.join (lines.map fun line =>
          String.join (List.replicate line.depth layout.indent) ++ line.text
            ++ layout.newline)) := by
  constructor
  · intro layout text h
    obtain ⟨lines, hlines, -⟩ := result_printSheet_eq_ok_iff.mp h
    exact ⟨lines, result_sheetLines_eq_ok_iff.mp hlines⟩
  · intro lines nested
    have hlines := result_sheetLines_eq_ok_iff.mpr nested
    refine ⟨fun others hothers => ?_, fun layout => ?_⟩
    · have same := (result_sheetLines_eq_ok_iff.mpr hothers).symm.trans hlines
      exact Except.ok.inj same
    · exact result_printSheet_eq_ok_iff.mpr ⟨lines, hlines, rfl⟩

/-- A mapping with a single line, a block without declarations, one with a
name that is not canonical, and blocks in a block. -/
def fourPassages : List (Value × Value) :=
  [("@import", "x.css"), ("a", .map []), ("@font-face", .map [("fontSize/*0*/", "1px")]),
    ("@media print", .map [("b", .map [("top", "0"), ("left", "0")]), ("", .map [])])]

theorem printSheet_wellNested_fourPassages :
    ∃ text, (printSheet (.map fourPassages) {}).result = .ok text
      ∧ ∃ lines, WellNested fourPassages lines
        ∧ (∀ others, WellNested fourPassages others → others = lines)
        ∧ ∀ layout : SheetLayout, (printSheet (.map fourPassages) layout).result
          = .ok (String.join (lines.map fun line =>
            String.join (List.replicate line.depth layout.indent) ++ line.text
              ++ layout.newline)) := by
  have accepted : (printSheet (.map fourPassages) {}).result = .ok _ := rfl
  obtain ⟨nested, laid⟩ := printSheet_wellNested fourPassages
  obtain ⟨lines, hlines⟩ := nested _ _ accepted
  exact ⟨_, accepted, lines, hlines, laid lines hlines⟩

end Stylesheet
