/-
  Stylesheet.Proofs.NormalForm
  ────────────────────────────
  **WHICH TREES ARE THEIR OWN SHEETS.**

  A tree is in normal form when it has the shape of a flattened mapping and
  nothing in it would be taken away: every selector has declarations, and
  every grouping rule a selector.  Such a tree can be read as a sheet, whose
  items come back one by one when it is flattened.  Conversely a tree that
  flattens to itself is the mapping of a sheet, and of one that pruning leaves
  alone.

  Main statements:
    * `exists_sheet_of_isNormal` — a tree in normal form is the mapping of a
      sheet that a second pass leaves as it is;
    * `isNormal_toValue` — and such a sheet is in normal form as a mapping;
    * `flatten_eq_self_iff` — the trees that flatten to themselves.
-/
import Stylesheet.Proofs.FixedPoint
import Stylesheet.Proofs.Shape
import Stylesheet.Value.Mapping

namespace Stylesheet

open AtRule Condition Property

/-! ## §1. Normal forms. -/

namespace Value

/-- A selector with at least one declaration. -/
def IsFullRule (key value : Value) : Prop :=
  IsRule key value ∧ value ≠ .map []

/-- What an entry of a tree in normal form is. -/
inductive IsNormalEntry : Value → Value → Prop where
  /-- A selector with declarations. -/
  | selector {key value} (hrule : IsFullRule key value) : IsNormalEntry key value
  /-- A grouping rule with selectors, none of which is a grouping rule. -/
  | group {key rules} (hkey : IsGroup key) (hne : rules ≠ [])
      (hrules : ∀ rule ∈ rules, IsFullRule rule.1 rule.2) : IsNormalEntry (.text key) (.map rules)
  /-- A flat rule with declarations, maybe none, and whatever their names. -/
  | flatBlock {key value} (hkey : isKey key = true) (hkind : kindOf key = .block)
      (hvalue : value.IsBlock) : IsNormalEntry (.text key) value
  /-- A flat rule with a single value. -/
  | statement {key scalar} (hkey : isKey key = true) (hkind : kindOf key = .statement) :
      IsNormalEntry (.text key) (.scalar scalar)

/-- A mapping with such entries only. -/
def IsNormal (tree : Value) : Prop :=
  ∃ entries, tree = .map entries ∧ ∀ e ∈ entries, IsNormalEntry e.1 e.2

/-! ## §2. Mappings with texts as keys, and tables. -/

theorem distinctEntries_iff {entries : List (Value × Value)} :
    DistinctEntries entries ↔ ∀ e ∈ entries, e.2.Distinct := by
  induction entries with
  | nil => simp [DistinctEntries]
  | cons e rest ih => simp [DistinctEntries, ih]

section Tables

variable {α : Type} {f : α → Value}

/-- The keys of a table are distinct in the mapping that it is. -/
theorem distinct_ofTable {t : Table String α} (h : ∀ e ∈ t.entries, (f e.2).Distinct) :
    (Value.map (t.entries.map fun e => (.text e.1, f e.2))).Distinct := by
  constructor
  · exact (distinctKeys_texts f t.entries).mpr t.nodup
  · rw [distinctEntries_iff]
    intro e he
    obtain ⟨entry, hentry, rfl⟩ := List.mem_map.mp he
    exact h entry hentry

/-- **Entries with distinct texts as keys are those of a table**, when each
value stands for something. -/
theorem exists_table {P : String → α → Prop} {entries : List (Value × Value)}
    (distinct : DistinctKeys entries)
    (h : ∀ e ∈ entries, ∃ key a, e = (.text key, f a) ∧ P key a) :
    ∃ t : Table String α, t.entries.map (fun e => (.text e.1, f e.2)) = entries
      ∧ ∀ e ∈ t.entries, P e.1 e.2 := by
  have items : ∃ items : List (String × α),
      items.map (fun e => (.text e.1, f e.2)) = entries ∧ ∀ e ∈ items, P e.1 e.2 := by
    clear distinct
    induction entries with
    | nil => exact ⟨[], rfl, fun e he => absurd he List.not_mem_nil⟩
    | cons e rest ih =>
        obtain ⟨key, a, rfl, here⟩ := h e List.mem_cons_self
        obtain ⟨items, hitems, others⟩ := ih fun e he => h e (List.mem_cons_of_mem _ he)
        refine ⟨(key, a) :: items, ?_, List.forall_mem_cons.mpr ⟨here, others⟩⟩
        rw [List.map_cons, hitems]
  obtain ⟨items, rfl, hitems⟩ := items
  exact ⟨⟨items, (distinctKeys_texts f items).mp distinct⟩, rfl, hitems⟩

end Tables

end Value

/-! ## §3. Trees in normal form are sheets. -/

/-- A mapping from texts to scalars is that of declarations. -/
theorem Value.IsBlock.exists_declarations {value : Value} (h : value.IsBlock)
    (distinct : value.Distinct) : ∃ declarations : Declarations, declarations.toValue = value := by
  obtain ⟨entries, rfl, hentries⟩ := h
  -- names and values are free here, so the table need not keep anything of them
  obtain ⟨t, ht, -⟩ := Value.exists_table (P := fun _ _ => True) distinct.1 fun e he => by
    obtain ⟨name, scalar, same⟩ := hentries e he
    exact ⟨name, scalar, same, trivial⟩
  refine ⟨t, ?_⟩
  rw [Declarations.toValue_eq, ht]

/-- A selector with declarations is that of a regular rule. -/
theorem Value.IsFullRule.exists_rule {key value : Value} (h : Value.IsFullRule key value)
    (distinct : value.Distinct) :
    ∃ selector, ∃ declarations : Declarations, (key, value) = (.text selector, declarations.toValue)
      ∧ RegularRule selector declarations ∧ declarations.entries ≠ [] := by
  obtain ⟨⟨selector, rfl, hne, hkey, entries, rfl, hentries⟩, hfull⟩ := h
  have named : ∀ e ∈ entries, ∃ key scalar, e = (.text key, .scalar scalar)
      ∧ (ofKey key = key ∧ isKey key = false) := by
    intro e he
    obtain ⟨name, scalar, same, canonical⟩ := hentries e he
    exact ⟨name, scalar, same, canonical⟩
  obtain ⟨t, rfl, canonical⟩ := Value.exists_table distinct.1 named
  refine ⟨selector, t, ?_, ⟨hkey, hne, ?_⟩, ?_⟩
  · rw [Declarations.toValue_eq]
  · intro name hname
    obtain ⟨e, he, rfl⟩ := List.mem_map.mp hname
    exact canonical e he
  · intro nothing
    rw [nothing] at hfull
    exact hfull rfl

/-- A regular item of which a second pass takes nothing away. -/
structure Item.Settled (key : String) (item : Item) : Prop where
  /-- A walk can leave the item at its key. -/
  regular : item.Regular key
  /-- Its selectors have declarations. -/
  withoutEmpty : item.withoutEmpty = item
  /-- There is something in it to place. -/
  isBare : item.isBare key = false

/-- An entry in normal form is that of a settled item. -/
theorem Value.IsNormalEntry.exists_item {key value : Value} (h : Value.IsNormalEntry key value)
    (distinct : value.Distinct) :
    ∃ name, ∃ item : Item, (key, value) = (.text name, item.toValue) ∧ item.Settled name := by
  cases h with
  | selector hrule =>
      obtain ⟨selector, declarations, same, rule, hne⟩ := hrule.exists_rule distinct
      refine ⟨selector, .block declarations, same, .selector rule, rfl, ?_⟩
      show (!isKey selector && declarations.entries.isEmpty) = false
      rw [rule.isKey]
      simpa using hne
  | @group key rules hkey hne hrules =>
      have named : ∀ e ∈ rules, ∃ selector, ∃ declarations : Declarations,
          e = (.text selector, declarations.toValue)
            ∧ RegularRule selector declarations ∧ declarations.entries ≠ [] :=
        fun e he => (hrules e he).exists_rule (Value.distinctEntries_iff.mp distinct.2 e he)
      obtain ⟨t, rfl, rule⟩ := Value.exists_table distinct.1 named
      have some_rule : t.entries ≠ [] := fun nothing => hne (by rw [nothing]; rfl)
      refine ⟨key, .group t, ?_, .group hkey some_rule fun e he => (rule e he).1, ?_, ?_⟩
      · rw [Item.toValue_group]
      · exact Sheet.withoutEmpty_of_entries_ne_nil fun e he => (rule e he).2
      · simpa [Item.isBare] using some_rule
  | @flatBlock key _ hkey hkind hvalue =>
      obtain ⟨declarations, rfl⟩ := hvalue.exists_declarations distinct
      refine ⟨key, .block declarations, rfl, .flatBlock hkey hkind, rfl, ?_⟩
      show (!isKey key && _) = false
      rw [hkey]
      rfl
  | @statement key scalar hkey hkind =>
      exact ⟨key, .statement scalar, rfl, .statement hkey hkind, rfl, rfl⟩

/-- A sheet that a second pass leaves as it is. -/
def Sheet.Settled (sheet : Sheet) : Prop :=
  ∀ e ∈ sheet.entries, e.2.Settled e.1

/-- Settled sheets are the regular ones that pruning leaves alone. -/
theorem Sheet.settled_iff (sheet : Sheet) :
    sheet.Settled ↔ sheet.Regular ∧ sheet.prune = sheet := by
  rw [prune_eq_self_iff]
  constructor
  · intro h
    exact ⟨fun e he => (h e he).regular, fun e he => ⟨(h e he).withoutEmpty, (h e he).isBare⟩⟩
  · intro h e he
    exact ⟨h.1 e he, (h.2 e he).1, (h.2 e he).2⟩

/-- **A tree in normal form is the mapping of a settled sheet.** -/
theorem exists_sheet_of_isNormal {tree : Value} (distinct : tree.Distinct) (h : tree.IsNormal) :
    ∃ sheet : Sheet, sheet.toValue = tree ∧ sheet.Settled := by
  obtain ⟨entries, rfl, hentries⟩ := h
  have items : ∀ e ∈ entries, ∃ name, ∃ item : Item,
      e = (.text name, item.toValue) ∧ item.Settled name :=
    fun e he => (hentries e he).exists_item (Value.distinctEntries_iff.mp distinct.2 e he)
  obtain ⟨sheet, same, settled⟩ := Value.exists_table distinct.1 items
  refine ⟨sheet, ?_, settled⟩
  rw [Sheet.toValue_eq, same]

/-! ## §4. Settled sheets are in normal form. -/

theorem Declarations.distinct_toValue (declarations : Declarations) :
    declarations.toValue.Distinct := by
  rw [toValue_eq]
  exact Value.distinct_ofTable fun _ _ => trivial

theorem Item.distinct_toValue (item : Item) : item.toValue.Distinct := by
  cases item with
  | statement value => exact trivial
  | block declarations => exact declarations.distinct_toValue
  | group rules =>
      rw [toValue_group]
      exact Value.distinct_ofTable fun e _ => e.2.distinct_toValue

/-- No mapping of a sheet has a key twice. -/
theorem Sheet.distinct_toValue (sheet : Sheet) : sheet.toValue.Distinct := by
  rw [toValue_eq]
  exact Value.distinct_ofTable fun e _ => e.2.distinct_toValue

theorem RegularRule.isFullRule {selector : String} {declarations : Declarations}
    (h : RegularRule selector declarations) (hne : declarations.entries ≠ []) :
    Value.IsFullRule (.text selector) declarations.toValue := by
  refine ⟨h.isRule, ?_⟩
  rw [Declarations.toValue_eq]
  intro nothing
  exact hne (List.map_eq_nil_iff.mp (Value.map.inj nothing))

theorem Item.Settled.isNormalEntry {key : String} {item : Item} (h : item.Settled key) :
    Value.IsNormalEntry (.text key) item.toValue := by
  obtain ⟨regular, full, bare⟩ := h
  cases regular with
  | statement hkey hkind => exact .statement hkey hkind
  | @flatBlock declarations hkey hkind =>
      exact .flatBlock hkey hkind declarations.isBlock_toValue
  | @selector declarations rule =>
      have ne : declarations.entries ≠ [] := by
        rw [Item.isBare, rule.isKey] at bare
        simpa using bare
      exact .selector (rule.isFullRule ne)
  | @group rules hkey hne hrules =>
      rw [Item.toValue_group]
      refine .group hkey (fun nothing => hne (List.map_eq_nil_iff.mp nothing)) ?_
      intro rule hmem
      obtain ⟨e, he, rfl⟩ := List.mem_map.mp hmem
      exact (hrules e he).isFullRule (Sheet.entries_ne_nil_of_withoutEmpty full he)

/-- **A settled sheet is in normal form as a mapping.** -/
theorem Sheet.isNormal_toValue {sheet : Sheet} (h : sheet.Settled) : sheet.toValue.IsNormal := by
  refine ⟨_, Sheet.toValue_eq sheet, ?_⟩
  intro e he
  obtain ⟨⟨key, item⟩, hmem, rfl⟩ := List.mem_map.mp he
  exact (h (key, item) hmem).isNormalEntry

/-! ## §5. Trees. -/

/-- **The trees that are their own sheets.**  A tree is accepted and comes
back as it is, with the same values in the same order at every level, just
when its mappings have distinct keys and it is in normal form. -/
theorem flatten_eq_self_iff (tree : Value) :
    (∃ sheet, (flatten tree).result = .ok sheet ∧ sheet.toValue = tree)
      ↔ tree.Distinct ∧ tree.IsNormal := by
  constructor
  · intro given
    obtain ⟨sheet, accepted, rfl⟩ := given
    have regular := regular_of_flatten accepted
    -- flattening a regular sheet prunes it, so this one has nothing to be taken away
    have pruned : sheet.prune = sheet :=
      Except.ok.inj ((flatten_toValue regular).symm.trans accepted)
    have settled := sheet.settled_iff.mpr ⟨regular, pruned⟩
    exact ⟨sheet.distinct_toValue, Sheet.isNormal_toValue settled⟩
  · intro given
    obtain ⟨sheet, rfl, settled⟩ := exists_sheet_of_isNormal given.1 given.2
    obtain ⟨regular, pruned⟩ := sheet.settled_iff.mp settled
    refine ⟨sheet, ?_, rfl⟩
    rw [flatten_toValue regular, pruned]

end Stylesheet
