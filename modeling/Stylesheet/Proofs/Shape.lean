/-
  Stylesheet.Proofs.Shape
  ───────────────────────
  **THE SHAPE OF A FLATTENED MAPPING.**

  Whatever a tree looks like, the mapping that it flattens to has entries of
  four kinds only: selectors with declarations, grouping rules with such
  selectors, and flat rules with declarations or with a single value.
  Printing takes any mapping and classifies its keys by itself once more.  It
  finds nothing amiss with a mapping of this shape, so that a tree is printed
  just when it is flattened.

  Main statements:
    * `isFlattened_toValue` — a regular sheet has this shape as a mapping;
    * `exists_printSheet_of_isFlattened` — a mapping of this shape is printed;
    * `flatten_shape_printable` — the shape of the sheet of a tree, and when
      printing a tree fails.
-/
import Stylesheet.Proofs.Printable

namespace Stylesheet

open AtRule Condition Property

/-! ## §1. The shape. -/

namespace Value

/-- A mapping from texts to scalars. -/
def IsBlock (value : Value) : Prop :=
  ∃ entries, value = .map entries ∧
    ∀ e ∈ entries, ∃ name scalar, e = (.text name, .scalar scalar)

/-- A mapping from canonical names, none of which is an at-rule, to scalars. -/
def IsDeclarations (value : Value) : Prop :=
  ∃ entries, value = .map entries ∧
    ∀ e ∈ entries, ∃ name scalar, e = (.text name, .scalar scalar)
      ∧ ofKey name = name ∧ isKey name = false

/-- A selector with declarations: it is not empty and no at-rule. -/
def IsRule (key value : Value) : Prop :=
  ∃ selector, key = .text selector ∧ selector ≠ "" ∧ isKey selector = false
    ∧ value.IsDeclarations

/-- What an entry of a flattened mapping is. -/
inductive IsEntry : Value → Value → Prop where
  /-- A selector with declarations. -/
  | selector {key value} (hrule : IsRule key value) : IsEntry key value
  /-- A grouping rule with at least one selector. -/
  | group {key rules} (hkey : IsGroup key) (hne : rules ≠ [])
      (hrules : ∀ rule ∈ rules, IsRule rule.1 rule.2) : IsEntry (.text key) (.map rules)
  /-- A flat rule with declarations, whatever their names; no list is left. -/
  | flatBlock {key value} (hkey : isKey key = true) (hkind : kindOf key = .block)
      (hvalue : value.IsBlock) : IsEntry (.text key) value
  /-- A flat rule with a single value. -/
  | statement {key scalar} (hkey : isKey key = true) (hkind : kindOf key = .statement) :
      IsEntry (.text key) (.scalar scalar)

/-- A mapping with such entries only. -/
def IsFlattened (sheet : Value) : Prop :=
  ∃ entries, sheet = .map entries ∧ ∀ e ∈ entries, IsEntry e.1 e.2

end Value

/-! ## §2. Regular sheets have it. -/

theorem Declarations.isBlock_toValue (declarations : Declarations) :
    declarations.toValue.IsBlock := by
  refine ⟨_, declarations.toValue_eq, ?_⟩
  intro e he
  obtain ⟨⟨name, scalar⟩, -, rfl⟩ := List.mem_map.mp he
  exact ⟨name, scalar, rfl⟩

theorem Declarations.isDeclarations_toValue {declarations : Declarations}
    (canonical : declarations.Canonical) : declarations.toValue.IsDeclarations := by
  refine ⟨_, declarations.toValue_eq, ?_⟩
  intro e he
  obtain ⟨⟨name, scalar⟩, hmem, rfl⟩ := List.mem_map.mp he
  have hname : name ∈ declarations.keys := List.mem_map_of_mem hmem
  exact ⟨name, scalar, rfl, (canonical name hname).1, (canonical name hname).2⟩

theorem RegularRule.isRule {selector : String} {declarations : Declarations}
    (h : RegularRule selector declarations) :
    Value.IsRule (.text selector) declarations.toValue :=
  ⟨selector, rfl, h.ne_empty, h.isKey, Declarations.isDeclarations_toValue h.canonical⟩

/-- A regular item has the shape of an entry. -/
theorem Item.Regular.isEntry {key : String} {item : Item} (h : item.Regular key) :
    Value.IsEntry (.text key) item.toValue := by
  cases h with
  | statement hkey hkind => exact .statement hkey hkind
  | @flatBlock declarations hkey hkind =>
      exact .flatBlock hkey hkind declarations.isBlock_toValue
  | selector hrule => exact .selector hrule.isRule
  | @group rules hkey hne hrules =>
      rw [Item.toValue_group]
      apply Value.IsEntry.group hkey
      · intro hnil
        exact hne (List.map_eq_nil_iff.mp hnil)
      · intro rule hmem
        obtain ⟨e, he, rfl⟩ := List.mem_map.mp hmem
        exact (hrules e he).isRule

/-- **A regular sheet has this shape as a mapping.** -/
theorem Sheet.isFlattened_toValue {sheet : Sheet} (regular : sheet.Regular) :
    sheet.toValue.IsFlattened := by
  refine ⟨_, Sheet.toValue_eq sheet, ?_⟩
  intro e he
  obtain ⟨⟨key, item⟩, hmem, rfl⟩ := List.mem_map.mp he
  exact (regular (key, item) hmem).isEntry

/-! ## §3. Printing a mapping of this shape. -/

theorem Value.isWritable_of_mem {entries : List (Value × Value)}
    (h : (Value.map entries).isWritable = true) {e : Value × Value} (he : e ∈ entries) :
    e.2.isWritable = true :=
  ((haveWritable_iff entries).mp h e he).2

/-- An entry of this shape that can be written can be printed. -/
theorem Value.IsEntry.printable {key value : Value} (h : Value.IsEntry key value)
    (writable : value.isWritable = true) : Printable key.printed value := by
  cases h with
  | selector hrule =>
      obtain ⟨selector, rfl, -, hkey, entries, rfl, -⟩ := hrule
      exact .block (not_isGroup_of_isKey hkey) fun d hd => isWritable_of_mem writable hd
  | group hkey hne hrules =>
      refine .group hkey fun rule hmem => ?_
      obtain ⟨selector, hselector, -, -, entries, hvalue, -⟩ := hrules rule hmem
      have inside := isWritable_of_mem writable hmem
      rw [hvalue] at inside
      refine ⟨?_, entries, hvalue, fun d hd => isWritable_of_mem inside hd⟩
      rw [hselector]
      rfl
  | flatBlock hkey hkind hvalue =>
      obtain ⟨entries, rfl, -⟩ := hvalue
      exact .block (not_isGroup_of_kind hkind (by decide)) fun d hd => isWritable_of_mem writable hd
  | statement hkey hkind => exact .line hkey rfl writable

/-- **A mapping of this shape is printed in every layout**, if it can be
written. -/
theorem exists_printSheet_of_isFlattened {sheet : Value} (h : sheet.IsFlattened)
    (writable : sheet.isWritable = true) (layout : SheetLayout) :
    ∃ text, (printSheet sheet layout).result = .ok text := by
  obtain ⟨entries, rfl, hentries⟩ := h
  exact (exists_printSheet_iff entries layout).mpr
    fun e he => (hentries e he).printable (Value.isWritable_of_mem writable he)

/-! ## §4. Trees. -/

/-- **The shape of a flattened tree, and when printing fails.**  The sheet of
a tree is a mapping of the shape above, and it is printed in every layout
just when none of its integers has too many digits.  So a tree, well formed
or not, is printed with a fault just when it is flattened with one, and the
fault and its place are the same; or else when it is flattened and its sheet
has such an integer, and then that is the fault. -/
theorem flatten_shape_printable (tree : Value) :
    (∀ sheet, (flatten tree).result = .ok sheet →
      sheet.toValue.IsFlattened
        ∧ ∀ layout, (∃ text, (printSheet sheet.toValue layout).result = .ok text)
          ↔ sheet.toValue.isWritable = true)
    ∧ ∀ layout error, (printTree tree layout).result = .error error
        ↔ (flatten tree).result = .error error
          ∨ error = ⟨.tooManyDigits, none⟩ ∧ ∃ sheet, (flatten tree).result = .ok sheet
            ∧ sheet.toValue.isWritable = false := by
  constructor
  · intro sheet h
    have regular := regular_of_flatten h
    have shape := Sheet.isFlattened_toValue regular
    refine ⟨shape, fun layout => ⟨?_, fun writable =>
      exists_printSheet_of_isFlattened shape writable layout⟩⟩
    rintro ⟨text, htext⟩
    rw [result_printSheet regular, Traced.result_ifWritable_eq_ok_iff] at htext
    rw [Sheet.isWritable_toValue]
    exact htext.1
  · intro layout error
    cases h : (flatten tree).result with
    | error e =>
        rw [printTree, Traced.result_bind_of_error h]
        simp
    | ok sheet =>
        -- the sheet is there, so that all depends on what can be written
        rw [result_printTree h]
        simp only [reduceCtorEq, false_or, Except.ok.injEq, exists_eq_left',
          Sheet.isWritable_toValue]
        cases sheet.isWritable with
        | true => simp
        | false => simp [eq_comm]

/-- A tree with an integer that cannot be written is flattened and not
printed. -/
theorem printTree_longInteger_fails :
    (∃ sheet, (flatten (.map [("a", .map [("b", longInteger)])])).result = .ok sheet)
      ∧ (printTree (.map [("a", .map [("b", longInteger)])]) {}).result
        = .error ⟨.tooManyDigits, none⟩ := by
  have accepted : (flatten (.map [("a", .map [("b", longInteger)])])).result
      = .ok (Sheet.ofPlacements [.declaration none "a" "b"
        (.single (.int (Int.ofNat (Nat.pow 10 maxDigits))))]) := rfl
  have long : (Sheet.ofPlacements [.declaration none "a" "b"
      (.single (.int (Int.ofNat (Nat.pow 10 maxDigits))))]).isWritable = false := by
    show ((longInteger.isWritable && true) && true) = false
    rw [isWritable_longInteger]
    rfl
  refine ⟨⟨_, accepted⟩, ?_⟩
  rw [result_printTree accepted, long]
  rfl

/-- A tree whose sheet has entries of all four kinds. -/
def fourKinds : Value :=
  .map [("@charset", "utf-8"), ("@font-face", .map [("src", .list ["u", "v"])]),
    ("@media print", .map [("a", .map [("minWidth", "1px")])]),
    ("p", .map [("a", .map [("color", .list [])])])]

theorem flatten_shape_fourKinds :
    ∃ sheet, (flatten fourKinds).result = .ok sheet ∧ sheet.toValue.IsFlattened
      ∧ ∀ layout, (∃ text, (printSheet sheet.toValue layout).result = .ok text)
        ↔ sheet.toValue.isWritable = true := by
  have accepted : (flatten fourKinds).result = .ok _ := rfl
  have shape := (flatten_shape_printable fourKinds).1 _ accepted
  exact ⟨_, accepted, shape.1, shape.2⟩

end Stylesheet
