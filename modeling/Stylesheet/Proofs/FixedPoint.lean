/-
  Stylesheet.Proofs.FixedPoint
  ────────────────────────────
  **WHICH SHEETS FLATTENING LEAVES AS THEY ARE.**

  Flattening the sheet of a tree again is always possible, but it returns
  the sheet only if every selector of it has declarations.  A selector is
  left without any when all that was set below it was taken away again, as
  by an empty list of values; the second pass has nothing to place there.
  The loss is seen in print, under every layout.

  Main statements:
    * `prune_eq_self_iff_full` — nothing is taken away from a sheet just when
      every selector has declarations;
    * `lines_prune_inj` — what is taken away is missing in print;
    * `flatten_fixed_iff` — when the second pass returns the sheet.
-/
import Stylesheet.Proofs.Printing

namespace Stylesheet

open AtRule Condition Property

/-! ## §1. Sheets whose selectors have declarations. -/

/-- Every selector has declarations, at the top level and below every
grouping rule. -/
def Sheet.Full (sheet : Sheet) : Prop :=
  ∀ condition selector declarations,
    sheet.declarations? condition selector = some declarations → declarations.entries ≠ []

namespace Sheet

/-- A selector below a grouping rule that loses none has declarations. -/
theorem entries_ne_nil_of_withoutEmpty {rules : Table String Declarations}
    (h : (Item.group rules).withoutEmpty = .group rules) {rule : String × Declarations}
    (hrule : rule ∈ rules.entries) : rule.2.entries ≠ [] := by
  have kept : rules.entries.filter (fun e => !e.2.entries.isEmpty) = rules.entries :=
    congrArg Table.entries (Item.group.inj h)
  simpa using List.filter_eq_self.mp kept rule hrule

theorem withoutEmpty_of_entries_ne_nil {rules : Table String Declarations}
    (h : ∀ rule ∈ rules.entries, rule.2.entries ≠ []) :
    (Item.group rules).withoutEmpty = .group rules := by
  refine congrArg Item.group (Table.ext ?_)
  show rules.entries.filter (fun e => !e.2.entries.isEmpty) = rules.entries
  rw [List.filter_eq_self]
  intro rule hrule
  simpa using h rule hrule

/-- **The selectors of a regular sheet have declarations when no item of it
changes or goes by pruning.** -/
theorem full_iff {sheet : Sheet} (regular : sheet.Regular) :
    sheet.Full ↔ ∀ e ∈ sheet.entries, e.2.withoutEmpty = e.2 ∧ e.2.isBare e.1 = false := by
  constructor
  · intro full e he
    obtain ⟨key, item⟩ := e
    have here : sheet.get? key = some item := (Table.get?_eq_some_iff sheet).mpr he
    cases regular (key, item) he with
    | statement hkey hkind => exact ⟨rfl, rfl⟩
    | flatBlock hkey hkind =>
        refine ⟨rfl, ?_⟩
        show (!isKey key && _) = false
        rw [hkey]
        rfl
    | @selector declarations rule =>
        have below : sheet.declarations? none key = some declarations := by
          rw [declarations?, here, rule.isKey]
          rfl
        have ne := full none key declarations below
        refine ⟨rfl, ?_⟩
        show (!isKey key && declarations.entries.isEmpty) = false
        rw [Bool.and_eq_false_iff]
        exact Or.inr (by simpa using ne)
    | @group rules hkey hne hrules =>
        have not_bare : (Item.group rules).isBare key = false := by simpa [Item.isBare] using hne
        refine ⟨withoutEmpty_of_entries_ne_nil fun rule hrule => ?_, not_bare⟩
        have below : sheet.declarations? (some key) rule.1 = some rule.2 := by
          rw [declarations?, here]
          exact (Table.get?_eq_some_iff rules).mpr hrule
        exact full (some key) rule.1 rule.2 below
  · intro h condition selector declarations hd
    cases condition with
    | none =>
        rw [declarations?, Option.ite_none_left_eq_some] at hd
        obtain ⟨hselector, hd⟩ := hd
        obtain ⟨item, hitem, hblock⟩ := Option.bind_eq_some_iff.mp hd
        cases item with
        | block d =>
            obtain rfl := Option.some.inj hblock
            have bare := (h _ ((Table.get?_eq_some_iff sheet).mp hitem)).2
            rw [Item.isBare, Bool.eq_false_iff.mpr hselector] at bare
            simpa using bare
        | statement | group => cases hblock
    | some c =>
        rw [declarations?] at hd
        cases hitem : sheet.get? c with
        | none =>
            rw [hitem] at hd
            cases hd
        | some item =>
            rw [hitem] at hd
            cases item with
            | group rules =>
                have kept := (h _ ((Table.get?_eq_some_iff sheet).mp hitem)).1
                exact entries_ne_nil_of_withoutEmpty kept ((Table.get?_eq_some_iff rules).mp hd)
            | statement | block => cases hd

/-- **Nothing is taken away from a sheet just when every selector has
declarations.** -/
theorem prune_eq_self_iff_full {sheet : Sheet} (regular : sheet.Regular) :
    sheet.prune = sheet ↔ sheet.Full := by
  rw [prune_eq_self_iff, full_iff regular]

end Sheet

/-! ## §2. What pruning does to the text. -/

/-- What is left of an item in print when its sheet is pruned. -/
def Item.linesLeft (key : String) (item : Item) : List Line :=
  if item.withoutEmpty.isBare key then [] else item.withoutEmpty.lines key

theorem Sheet.lines_prune (sheet : Sheet) :
    sheet.prune.lines = sheet.entries.flatMap fun e => e.2.linesLeft e.1 := by
  show ((sheet.entries.map fun e => (e.1, e.2.withoutEmpty)).filter _).flatMap _ = _
  rw [flatMap_filter, List.flatMap_map]
  refine List.flatMap_congr fun e _ => ?_
  show (if !e.2.withoutEmpty.isBare e.1 then e.2.withoutEmpty.lines e.1 else []) = _
  rw [Item.linesLeft]
  cases e.2.withoutEmpty.isBare e.1 <;> rfl

section Text

variable (layout : SheetLayout)

/-- The selectors with declarations are not longer than all selectors. -/
theorem length_kept_le (rule : String × Declarations) :
    (layout.lines (if !rule.2.entries.isEmpty then rule.2.lines 1 rule.1 else [])).length
      ≤ (layout.lines (rule.2.lines 1 rule.1)).length := by
  split
  · exact Nat.le_refl _
  · exact Nat.zero_le _

/-- What is left of an item is not longer than the item. -/
theorem length_linesLeft_le (key : String) (item : Item) :
    (layout.lines (item.linesLeft key)).length ≤ (layout.lines (item.lines key)).length := by
  rw [Item.linesLeft]
  split
  · exact Nat.zero_le _
  · cases item with
    | statement | block => exact Nat.le_refl _
    | group rules =>
        have kept := fun rule (_ : rule ∈ rules.entries) => length_kept_le layout rule
        have contents := length_flatMap_le layout kept
        rw [← flatMap_filter] at contents
        show (layout.lines (blockLines 0 key _)).length ≤ (layout.lines (blockLines 0 key _)).length
        rw [length_blockLines, length_blockLines]
        exact Nat.add_le_add_right (Nat.add_le_add_left contents _) _

/-- **An item that is as long as before has lost nothing.** -/
theorem eq_of_length_linesLeft {key : String} {item : Item}
    (h : (layout.lines (item.linesLeft key)).length = (layout.lines (item.lines key)).length) :
    item.withoutEmpty = item ∧ item.isBare key = false := by
  rw [Item.linesLeft] at h
  cases item with
  | statement => exact ⟨rfl, rfl⟩
  | block declarations =>
      refine ⟨rfl, ?_⟩
      cases bare : (Item.block declarations).isBare key with
      | false => rfl
      | true =>
          -- nothing would be left in print, but the braces of the block are there
          have left : (Item.block declarations).withoutEmpty.isBare key = true := bare
          rw [if_pos left] at h
          exact absurd h (Nat.ne_of_lt (length_lines_block_pos layout 0 key _))
  | group rules =>
      cases bare : (Item.group rules).withoutEmpty.isBare key with
      | true =>
          rw [if_pos bare] at h
          exact absurd h (Nat.ne_of_lt (length_lines_block_pos layout 0 key _))
      | false =>
          rw [bare] at h
          replace h : (layout.lines (blockLines 0 key
              ((rules.entries.filter fun rule => !rule.2.entries.isEmpty).flatMap
                fun rule => rule.2.lines 1 rule.1))).length
              = (layout.lines (blockLines 0 key
                  (rules.entries.flatMap fun rule => rule.2.lines 1 rule.1))).length := h
          rw [length_blockLines, length_blockLines, flatMap_filter] at h
          -- the braces around are the same, so no selector inside has lost a line
          have below := fun rule (_ : rule ∈ rules.entries) => length_kept_le layout rule
          have each := length_eq_of_flatMap layout below (by omega)
          have full : ∀ rule ∈ rules.entries, rule.2.entries ≠ [] := by
            intro rule hrule hempty
            have same := each rule hrule
            rw [hempty] at same
            exact absurd same (Nat.ne_of_lt (length_lines_block_pos layout 1 rule.1 _))
          have kept := Sheet.withoutEmpty_of_entries_ne_nil full
          rw [kept] at bare
          exact ⟨kept, bare⟩

/-- **What is taken away from a sheet is missing in print.** -/
theorem lines_prune_inj {sheet : Sheet}
    (h : layout.lines sheet.prune.lines = layout.lines sheet.lines) : sheet.prune = sheet := by
  have total := congrArg String.length h
  rw [Sheet.lines_prune, Sheet.lines] at total
  have below := fun e (_ : e ∈ sheet.entries) => length_linesLeft_le layout e.1 e.2
  have each := length_eq_of_flatMap layout below total
  rw [Sheet.prune_eq_self_iff]
  intro e he
  exact eq_of_length_linesLeft layout (each e he)

end Text

/-! ## §3. What pruning does to what can be written. -/

/-- An item that pruning takes away has nothing to write. -/
theorem Item.isWritable_of_isBare {key : String} {item : Item} (h : item.isBare key = true) :
    item.isWritable = true := by
  cases item with
  | statement value => cases h
  | block declarations =>
      have nothing : declarations.entries = [] := by
        simpa using (Bool.and_eq_true_iff.mp h).2
      rw [isWritable, Declarations.isWritable, nothing]
      rfl
  | group rules =>
      have nothing : rules.entries = [] := by simpa [isBare] using h
      rw [isWritable, nothing]
      rfl

theorem Item.isWritable_withoutEmpty (item : Item) :
    item.withoutEmpty.isWritable = item.isWritable := by
  cases item with
  | statement | block => rfl
  | group rules =>
      show (rules.entries.filter fun e => !e.2.entries.isEmpty).all (fun e => e.2.isWritable) = _
      rw [List.all_filter, isWritable]
      refine congrArg rules.entries.all (funext fun e => ?_)
      cases hempty : e.2.entries with
      | nil => simp [Declarations.isWritable, hempty]
      | cons => simp

/-- **Pruning takes away nothing that cannot be written.** -/
theorem Sheet.isWritable_prune (sheet : Sheet) : sheet.prune.isWritable = sheet.isWritable := by
  show ((sheet.entries.map fun e => (e.1, e.2.withoutEmpty)).filter
    fun e => !e.2.isBare e.1).all (fun e => e.2.isWritable) = _
  rw [List.all_filter, List.all_map, Sheet.isWritable]
  refine congrArg sheet.entries.all (funext fun e => ?_)
  show (!!e.2.withoutEmpty.isBare e.1 || e.2.withoutEmpty.isWritable) = e.2.isWritable
  rw [← Item.isWritable_withoutEmpty e.2]
  cases bare : e.2.withoutEmpty.isBare e.1 with
  | false => rfl
  | true => rw [Item.isWritable_of_isBare bare]; rfl

/-! ## §4. The second pass. -/

/-- **When the second pass returns the sheet.**  It always returns one, and
what is printed for a tree is its sheet.  But it returns the sheet of the
tree only if every selector of that sheet has declarations; and only then is
the same printed for both, unless the sheet has an integer that cannot be
written, and neither is printed. -/
theorem flatten_fixed_iff {tree : Value} {sheet : Sheet}
    (h : (flatten tree).result = .ok sheet) :
    (∃ again, (flatten sheet.toValue).result = .ok again)
      ∧ ((flatten sheet.toValue).result = .ok sheet ↔ sheet.Full)
      ∧ ∀ layout, (printTree tree layout).result = (printSheet sheet.toValue layout).result
        ∧ ((printTree sheet.toValue layout).result = (printTree tree layout).result
          ↔ sheet.Full ∨ sheet.isWritable = false) := by
  have regular := regular_of_flatten h
  have second := flatten_toValue regular
  have again := regular_of_flatten second
  refine ⟨⟨_, second⟩, ?_, fun layout => ?_⟩
  · rw [second, Except.ok.injEq]
    exact Sheet.prune_eq_self_iff_full regular
  · rw [result_printTree h, result_printTree second, result_printSheet regular,
      Sheet.isWritable_prune, ← Sheet.prune_eq_self_iff_full regular]
    refine ⟨rfl, ?_⟩
    cases sheet.isWritable with
    | false => exact iff_of_true rfl (Or.inr rfl)
    | true =>
        simp only [Bool.true_eq_false, or_false]
        refine ⟨fun same => lines_prune_inj layout (Except.ok.inj same), fun same => ?_⟩
        rw [same]

/-- A tree whose only selector has a property with an empty list of values. -/
def emptied : Value := .map [("a", .map [("b", .list [])])]

/-- The second pass over that tree takes its selector away. -/
theorem flatten_emptied_changes :
    ∃ sheet, (flatten emptied).result = .ok sheet
      ∧ (flatten sheet.toValue).result ≠ .ok sheet := by
  have accepted : (flatten emptied).result = .ok ⟨[("a", .block ∅)], by decide⟩ := rfl
  refine ⟨_, accepted, fun same => ?_⟩
  have second : (flatten (.map [("a", .map [])])).result = .ok ∅ := rfl
  have entries := congrArg Table.entries (Except.ok.inj (second.symm.trans same))
  cases entries

/-- A tree with declarations below a grouping rule and beside it. -/
def screenRule : Value :=
  .map [("@media screen", .map [("a", .map [("minWidth", .list ["1px", "2px"])])]),
    ("b", .map [("color", "red")])]

theorem flatten_fixed_screenRule :
    ∃ sheet, (flatten screenRule).result = .ok sheet
      ∧ (∃ again, (flatten sheet.toValue).result = .ok again)
      ∧ ((flatten sheet.toValue).result = .ok sheet ↔ sheet.Full)
      ∧ ∀ layout, (printTree screenRule layout).result = (printSheet sheet.toValue layout).result
        ∧ ((printTree sheet.toValue layout).result = (printTree screenRule layout).result
          ↔ sheet.Full ∨ sheet.isWritable = false) := by
  have accepted : (flatten screenRule).result = .ok _ := rfl
  exact ⟨_, accepted, flatten_fixed_iff accepted⟩

end Stylesheet
