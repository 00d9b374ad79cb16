/-
  Stylesheet.Proofs.SecondPass
  ────────────────────────────
  **FLATTENING A SHEET AGAIN.**

  A sheet is a tree as well, and flattening it walks over declarations that
  are single values, below selectors that are not nested.  Each item makes
  its placements one after the other, at a key that nothing was placed at
  before, so it comes back as it was: unless it has nothing to place.  A
  selector whose declarations are empty makes no placement and is gone after
  the second pass, and a grouping rule goes with its last selector.  The
  empty block of a flat rule is a placement of its own and stays.

  Main statements:
    * `walk_toValue` — the placements of a second pass;
    * `ofPlacements_placements` — they leave the pruned sheet;
    * `flatten_again_eq_prune` — the second pass exactly, the third pass, and
      what is printed.
-/
import Stylesheet.Layout
import Stylesheet.Proofs.Meaning

namespace Stylesheet

open AtRule Condition Property

/-! ## §1. Pruning. -/

/-- The entries that pass the test. -/
def Table.filter {α β : Type} (p : α → β → Bool) (t : Table α β) : Table α β where
  entries := t.entries.filter fun e => p e.1 e.2
  nodup := t.nodup.sublist (List.filter_sublist.map _)

namespace Item

/-- An item without the selectors of a grouping rule that have no
declarations. -/
def withoutEmpty : Item → Item
  | .group rules => .group (rules.filter fun _ declarations => !declarations.entries.isEmpty)
  | item => item

/-- Nothing would be left of an item: it is a selector without declarations
or a grouping rule without selectors. -/
def isBare (key : String) : Item → Bool
  | .statement _ => false
  | .block declarations => !isKey key && declarations.entries.isEmpty
  | .group rules => rules.entries.isEmpty

end Item

/-- **A sheet without the selectors that have no declarations**, at the top
level and below grouping rules, and without the grouping rules that have no
selector then. -/
def Sheet.prune (sheet : Sheet) : Sheet :=
  (sheet.mapValues Item.withoutEmpty).filter fun key item => !item.isBare key

/-! ## §2. The placements of a second pass. -/

/-- The placements that declarations below a selector make. -/
def Declarations.placements (condition : Option String) (selector : String)
    (declarations : Declarations) : List Placement :=
  declarations.entries.map fun e => .declaration condition selector e.1 (.single e.2)

/-- The placements that an item makes. -/
def Item.placements (key : String) : Item → List Placement
  | .statement value => [.flatRule key (.statement value)]
  | .block declarations =>
      if isKey key then [.flatRule key (.block declarations)]
      else declarations.placements none key
  | .group rules => rules.entries.flatMap fun e => e.2.placements (some key) e.1

theorem Declarations.toValue_eq (declarations : Declarations) :
    declarations.toValue = .map (declarations.entries.map fun e => (.text e.1, .scalar e.2)) := by
  rw [toValue, Value.ofTextTable, Table.mapValues, List.map_map]
  rfl

theorem Item.toValue_group (rules : Table String Declarations) :
    (Item.group rules).toValue = .map (rules.entries.map fun e => (.text e.1, e.2.toValue)) := by
  rw [toValue, Value.ofTextTable, Table.mapValues, List.map_map]
  rfl

theorem Sheet.toValue_eq (sheet : Sheet) :
    sheet.toValue = .map (sheet.entries.map fun e => (.text e.1, e.2.toValue)) := by
  rw [toValue, Value.ofTextTable, Table.mapValues, List.map_map]
  rfl

/-- A walk leaves, entry by entry, what its entries leave. -/
theorem result_walk_map {α : Type} {scope : Scope} {items : List α} {entry : α → Value × Value}
    {out : α → List Placement}
    (h : ∀ a ∈ items, (walkEntry scope (entry a).1 (entry a).2).result = .ok (out a)) :
    (walk scope (items.map entry)).result = .ok (items.flatMap out) := by
  induction items with
  | nil => rfl
  | cons a rest ih =>
      rw [List.map_cons, List.flatMap_cons]
      have others := ih fun b hb => h b (List.mem_cons_of_mem _ hb)
      exact result_walk_cons (h a List.mem_cons_self) others

/-- Canonical declarations are placed one by one below their selector. -/
theorem walk_declarations (scope : Scope) (hselector : scope.selector ≠ "")
    {declarations : Declarations} (canonical : declarations.Canonical) :
    (walk scope (declarations.entries.map fun e => (.text e.1, .scalar e.2))).result
      = .ok (declarations.placements scope.condition scope.selector) := by
  have run : (walk scope (declarations.entries.map fun e => (.text e.1, .scalar e.2))).result
      = .ok (declarations.entries.flatMap fun e =>
          [.declaration scope.condition scope.selector e.1 (.single e.2)]) := by
    refine result_walk_map fun e he => ?_
    obtain ⟨hname, hkey⟩ := canonical e.1 (List.mem_map_of_mem he)
    have fits : Fits scope (.text e.1) (.scalar e.2)
        (.places (.declaration scope.condition scope.selector (ofKey e.1) (.single e.2))) :=
      .property hkey rfl hselector rfl
    rw [hname] at fits
    exact result_walkEntry_of_places fits
  rw [run, Declarations.placements, List.map_eq_flatMap]

/-- A regular selector with its declarations opens one block. -/
theorem walkEntry_rule {scope : Scope} (htop : scope.selector = "") {selector : String}
    {declarations : Declarations} (rule : RegularRule selector declarations) :
    (walkEntry scope (.text selector) declarations.toValue).result
      = .ok (declarations.placements scope.condition selector) := by
  have joined : (scope.below selector).selector = selector := by
    show Scope.selectorBelow scope.selector selector = selector
    rw [htop]
    rfl
  have named : (scope.below selector).selector ≠ "" := by
    rw [joined]
    exact rule.ne_empty
  rw [Declarations.toValue_eq, result_walkEntry_of_opens (.selector rule.isKey),
    walk_declarations _ named rule.canonical, joined]
  rfl

/-- The entries of declarations set them again. -/
theorem ofList_declarationsIn (declarations : Declarations) :
    Declarations.ofList (declarationsIn
      (declarations.entries.map fun e => (.text e.1, .scalar e.2))) = declarations := by
  have sets : declarationsIn (declarations.entries.map fun e => (.text e.1, .scalar e.2))
      = declarations.entries.map fun e => (e.1, .single e.2) := by
    rw [declarationsIn, List.filterMap_map, ← List.filterMap_eq_map]
    rfl
  rw [sets, Declarations.ofList, List.foldl_map]
  exact Table.ofList_entries declarations

/-- **A regular item is walked into its placements.** -/
theorem walkEntry_item {key : String} {item : Item} (regular : item.Regular key) :
    (walkEntry .root (.text key) item.toValue).result = .ok (item.placements key) := by
  cases regular with
  | statement hkey hkind => exact result_walkEntry_of_places (.statement hkey hkind rfl)
  | @flatBlock declarations hkey hkind =>
      show (walkEntry .root (.text key) declarations.toValue).result = _
      have declares : ∀ e ∈ declarations.entries.map
          fun e => (Value.text e.1, Value.scalar e.2), e.1.Declares e.2 := by
        intro e he
        obtain ⟨⟨name, value⟩, -, rfl⟩ := List.mem_map.mp he
        exact ⟨⟨name, rfl⟩, trivial⟩
      rw [Item.placements, if_pos hkey, Declarations.toValue_eq,
        result_walkEntry_of_places (.declarations hkey hkind rfl declares),
        ofList_declarationsIn]
  | @selector declarations rule =>
      show (walkEntry .root (.text key) declarations.toValue).result = _
      rw [Item.placements, rule.isKey]
      exact walkEntry_rule rfl rule
  | @group rules hkey hne hrules =>
      rw [Item.toValue_group, result_walkEntry_of_opens (.group hkey (merge_none key))]
      exact result_walk_map fun e he => walkEntry_rule rfl (hrules e he)

/-- **The placements of a second pass.** -/
theorem walk_toValue {sheet : Sheet} (regular : sheet.Regular) :
    (walk .root (sheet.entries.map fun e => (.text e.1, e.2.toValue))).result
      = .ok (sheet.entries.flatMap fun e => e.2.placements e.1) :=
  result_walk_map fun e he => walkEntry_item (regular e he)

/-- A selection of items leaves what those that it keeps leave. -/
theorem flatMap_filter {α β : Type} (p : α → Bool) (f : α → List β) (items : List α) :
    (items.filter p).flatMap f = items.flatMap fun a => if p a then f a else [] := by
  induction items with
  | nil => rfl
  | cons a rest ih =>
      rw [List.flatMap_cons, ← ih]
      cases h : p a with
      | true =>
          rw [List.filter_cons_of_pos h, List.flatMap_cons]
          rfl
      | false =>
          rw [List.filter_cons_of_neg (by simp [h])]
          rfl

/-! ## §3. Placements at one key. -/

namespace Sheet

/-- Declarations at one selector are one write. -/
theorem foldl_place_direct (selector : String) {sets : List (String × PropertyValue)}
    (hne : sets ≠ []) (sheet : Sheet) :
    (sets.map fun e => Placement.declaration none selector e.1 e.2).foldl place sheet
      = sheet.write selector fun item? => .block
          (sets.foldl (fun d e => Declarations.set d e.1 e.2) (item?.elim ∅ Item.declarations)) := by
  induction sets generalizing sheet with
  | nil => exact absurd rfl hne
  | cons e rest ih =>
      rw [List.map_cons, List.foldl_cons]
      cases rest with
      | nil => rfl
      | cons next others =>
          -- the writes that follow see this one, so all are one
          rw [ih (List.cons_ne_nil _ _), place, Table.write_write]
          rfl

/-- Set the declarations of a selector below a grouping rule, one after the
other. -/
def writeRule (rules : Table String Declarations) (rule : String × Declarations) :
    Table String Declarations :=
  rules.write rule.1 fun declarations? =>
    Table.insertAll (declarations?.getD ∅) rule.2.entries

/-- Declarations at one selector below a grouping rule are one write. -/
theorem foldl_place_grouped (condition : String) (rule : String × Declarations)
    (hne : rule.2.entries ≠ []) (sheet : Sheet) :
    (rule.2.placements (some condition) rule.1).foldl place sheet
      = sheet.write condition fun item? =>
          .group (writeRule (item?.elim ∅ Item.rules) rule) := by
  obtain ⟨selector, declarations⟩ := rule
  show (List.map _ declarations.entries).foldl place sheet
    = sheet.write condition fun item? => .group (Table.write _ selector fun declarations? =>
        Table.insertAll (declarations?.getD ∅) declarations.entries)
  generalize declarations.entries = entries at hne
  induction entries generalizing sheet with
  | nil => exact absurd rfl hne
  | cons e rest ih =>
      rw [List.map_cons, List.foldl_cons]
      cases rest with
      | nil => rfl
      | cons next others =>
          rw [ih _ (List.cons_ne_nil _ _), place, Table.write_write]
          refine congrArg (Table.write sheet condition) (funext fun item? => ?_)
          -- the same once more one level down, at the selector
          show Item.group (Table.write (Table.write _ _ _) _ _) = _
          rw [Table.write_write]
          rfl

/-- The declarations of several selectors below a grouping rule are one write. -/
theorem foldl_place_rules (condition : String) {rules : List (String × Declarations)}
    (hne : rules ≠ []) (full : ∀ rule ∈ rules, rule.2.entries ≠ []) (sheet : Sheet) :
    (rules.flatMap fun rule => rule.2.placements (some condition) rule.1).foldl place sheet
      = sheet.write condition fun item? =>
          .group (rules.foldl writeRule (item?.elim ∅ Item.rules)) := by
  induction rules generalizing sheet with
  | nil => exact absurd rfl hne
  | cons rule rest ih =>
      have first := foldl_place_grouped condition rule (full rule List.mem_cons_self) sheet
      rw [List.flatMap_cons, List.foldl_append, first]
      cases rest with
      | nil => rfl
      | cons next others =>
          have others_full := fun r hr => full r (List.mem_cons_of_mem _ hr)
          rw [ih (List.cons_ne_nil _ _) others_full, Table.write_write]
          rfl

/-- A selector without declarations makes no placement. -/
theorem flatMap_placements_filter (condition : Option String)
    (rules : List (String × Declarations)) :
    (rules.flatMap fun rule => rule.2.placements condition rule.1)
      = (rules.filter fun rule => !rule.2.entries.isEmpty).flatMap
          fun rule => rule.2.placements condition rule.1 := by
  rw [flatMap_filter]
  refine List.flatMap_congr fun rule _ => ?_
  cases hempty : rule.2.entries with
  | nil =>
      show List.map _ rule.2.entries = []
      rw [hempty]
      rfl
  | cons e others => rfl

theorem writeRule_of_not_mem {rules : Table String Declarations} {rule : String × Declarations}
    (h : rule.1 ∉ rules.keys) : writeRule rules rule = rules.insert rule.1 rule.2 := by
  rw [writeRule, Table.write_of_not_mem h]
  exact congrArg (rules.insert rule.1) (Table.ofList_entries rule.2)

/-- New selectors with their declarations come last, in their order. -/
theorem foldl_writeRule {rules : Table String Declarations} {news : List (String × Declarations)}
    (h : (rules.keys ++ news.map Prod.fst).Nodup) :
    news.foldl writeRule rules = rules.insertAll news := by
  induction news generalizing rules with
  | nil => rfl
  | cons rule rest ih =>
      obtain ⟨selector, declarations⟩ := rule
      obtain ⟨fresh, others⟩ := Table.new_keys_cons h declarations
      rw [List.foldl_cons, writeRule_of_not_mem fresh, ih others]
      rfl

/-! ## §4. The second pass. -/

/-- **At a new key an item comes back, unless nothing of it is placed.** -/
theorem foldl_placements {key : String} {item : Item} (regular : item.Regular key) {sheet : Sheet}
    (fresh : key ∉ sheet.keys) :
    (item.placements key).foldl place sheet
      = if item.withoutEmpty.isBare key then sheet else sheet.insert key item.withoutEmpty := by
  cases regular with
  | statement hkey hkind => rfl
  | @flatBlock declarations hkey hkind =>
      have kept : (Item.block declarations).withoutEmpty.isBare key = false := by
        show (!isKey key && _) = false
        rw [hkey]
        rfl
      rw [Item.placements, if_pos hkey, kept]
      rfl
  | @selector declarations rule =>
      have bare : (Item.block declarations).withoutEmpty.isBare key
          = declarations.entries.isEmpty := by
        show (!isKey key && _) = _
        rw [rule.isKey]
        rfl
      rw [Item.placements, rule.isKey, bare, if_neg Bool.false_ne_true]
      by_cases hempty : declarations.entries = []
      · rw [Declarations.placements, hempty]
        rfl
      · have sets : declarations.placements none key
            = (declarations.entries.map fun e => (e.1, PropertyValue.single e.2)).map
                fun e => .declaration none key e.1 e.2 := by
          rw [List.map_map]
          rfl
        rw [if_neg (by simpa using hempty), sets,
          foldl_place_direct key (by simpa using hempty), Table.write_of_not_mem fresh,
          List.foldl_map]
        exact congrArg (fun d => sheet.insert key (.block d)) (Table.ofList_entries declarations)
  | @group rules hkey hne hrules =>
      rw [Item.placements, flatMap_placements_filter]
      -- from here on only the selectors with declarations play a part
      generalize hkept : rules.filter (fun _ declarations => !declarations.entries.isEmpty) = kept
      have entries : rules.entries.filter (fun rule => !rule.2.entries.isEmpty) = kept.entries := by
        rw [← hkept]
        rfl
      have left : (Item.group rules).withoutEmpty = .group kept := by
        rw [Item.withoutEmpty, hkept]
      rw [entries, left]
      by_cases hempty : kept.entries = []
      · rw [hempty, Item.isBare, hempty]
        rfl
      · have full : ∀ rule ∈ kept.entries, rule.2.entries ≠ [] := by
          intro rule hrule
          rw [← entries] at hrule
          simpa using (List.mem_filter.mp hrule).2
        have again : kept.entries.foldl writeRule ∅ = kept := by
          rw [foldl_writeRule (by simpa using kept.nodup)]
          exact Table.ofList_entries kept
        rw [foldl_place_rules key hempty full, Table.write_of_not_mem fresh, Item.isBare,
          if_neg (by simpa using hempty)]
        exact congrArg (fun r => sheet.insert key (.group r)) again

/-- Items at new keys come last, in their order, those that leave anything. -/
theorem entries_foldl_placements {items : List (String × Item)}
    (regular : ∀ e ∈ items, e.2.Regular e.1) {sheet : Sheet}
    (h : (sheet.keys ++ items.map Prod.fst).Nodup) :
    ((items.flatMap fun e => e.2.placements e.1).foldl place sheet).entries
      = sheet.entries ++ (items.map fun e => (e.1, e.2.withoutEmpty)).filter
          fun e => !e.2.isBare e.1 := by
  -- the sheet grows at its end, so the induction is over what is still to come
  induction items generalizing sheet with
  | nil => exact (List.append_nil _).symm
  | cons e rest ih =>
      obtain ⟨key, item⟩ := e
      obtain ⟨fresh, new⟩ := Table.new_keys_cons h item.withoutEmpty
      have others := fun r hr => regular r (List.mem_cons_of_mem _ hr)
      rw [List.flatMap_cons, List.foldl_append,
        foldl_placements (regular (key, item) List.mem_cons_self) fresh, List.map_cons]
      by_cases bare : item.withoutEmpty.isBare key = true
      · have nodup : (sheet.keys ++ rest.map Prod.fst).Nodup :=
          h.sublist (List.Sublist.append_left (List.sublist_cons_self key _) _)
        rw [if_pos bare, ih others nodup, List.filter_cons_of_neg (by simp [bare])]
      · have entries : (sheet.insert key item.withoutEmpty).entries
            = sheet.entries ++ [(key, item.withoutEmpty)] :=
          Table.entries_write_of_not_mem fresh _
        rw [if_neg bare, ih others new, entries,
          List.filter_cons_of_pos (by simp [bare]), List.append_assoc]
        rfl

/-- **The placements of a second pass leave the pruned sheet.** -/
theorem ofPlacements_placements {sheet : Sheet} (regular : sheet.Regular) :
    ofPlacements (sheet.entries.flatMap fun e => e.2.placements e.1) = sheet.prune := by
  refine Table.ext ?_
  rw [ofPlacements, entries_foldl_placements regular (by simpa using sheet.nodup)]
  rfl

end Sheet

/-- **A regular sheet flattens to itself, pruned.** -/
theorem flatten_toValue {sheet : Sheet} (regular : sheet.Regular) :
    (flatten sheet.toValue).result = .ok sheet.prune := by
  rw [Sheet.toValue_eq, result_flatten_map, walk_toValue regular]
  exact congrArg Except.ok (Sheet.ofPlacements_placements regular)

/-! ## §5. Pruned sheets. -/

theorem Item.withoutEmpty_withoutEmpty (item : Item) :
    item.withoutEmpty.withoutEmpty = item.withoutEmpty := by
  cases item with
  | statement | block => rfl
  | group rules =>
      refine congrArg Item.group (Table.ext ?_)
      show List.filter _ (List.filter _ _) = List.filter _ _
      rw [List.filter_filter]
      simp only [Bool.and_self]

namespace Sheet

/-- **A sheet is pruned when nothing in it is to be taken away.** -/
theorem prune_eq_self_iff (sheet : Sheet) :
    sheet.prune = sheet
      ↔ ∀ e ∈ sheet.entries, e.2.withoutEmpty = e.2 ∧ e.2.isBare e.1 = false := by
  have entries : sheet.prune.entries = (sheet.entries.map fun e => (e.1, e.2.withoutEmpty)).filter
      fun e => !e.2.isBare e.1 := rfl
  constructor
  · intro h
    rw [h] at entries
    -- no entry is filtered out, since the number of entries is the same
    have all : (sheet.entries.map fun e => (e.1, e.2.withoutEmpty)).filter
        (fun e => !e.2.isBare e.1) = sheet.entries.map fun e => (e.1, e.2.withoutEmpty) := by
      rw [List.filter_eq_self, ← List.length_filter_eq_length_iff, ← entries, List.length_map]
    rw [all] at entries
    intro e he
    have same : (e.1, e.2.withoutEmpty) = e := by
      have maps : sheet.entries.map (fun e => (e.1, e.2.withoutEmpty))
          = sheet.entries.map id := by
        rw [← entries, List.map_id]
      exact List.map_inj_left.mp maps e he
    have kept := List.filter_eq_self.mp all e (by rw [← entries]; exact he)
    exact ⟨congrArg Prod.snd same, by simpa using kept⟩
  · intro h
    have same : sheet.entries.map (fun e => (e.1, e.2.withoutEmpty)) = sheet.entries := by
      rw [List.map_congr_left fun e he => by rw [(h e he).1], List.map_id']
    refine Table.ext ?_
    rw [entries, same, List.filter_eq_self]
    intro e he
    rw [(h e he).2]
    rfl

/-- **Pruning twice is pruning once.** -/
theorem prune_prune (sheet : Sheet) : sheet.prune.prune = sheet.prune := by
  rw [prune_eq_self_iff]
  intro e he
  obtain ⟨hmap, kept⟩ := List.mem_filter.mp he
  obtain ⟨before, -, rfl⟩ := List.mem_map.mp hmap
  exact ⟨before.2.withoutEmpty_withoutEmpty, by simpa using kept⟩

end Sheet

/-- **The second pass exactly.**  The sheet of a tree is accepted as a tree,
and its sheet is that one, pruned.  A third pass changes nothing more, and
what is printed for a sheet as a tree is the pruned sheet. -/
theorem flatten_again_eq_prune {tree : Value} {sheet : Sheet}
    (h : (flatten tree).result = .ok sheet) :
    (flatten sheet.toValue).result = .ok sheet.prune
      ∧ (flatten sheet.prune.toValue).result = .ok sheet.prune
      ∧ ∀ layout, (printTree sheet.toValue layout).result
        = (printSheet sheet.prune.toValue layout).result := by
  have second := flatten_toValue (regular_of_flatten h)
  have third := flatten_toValue (regular_of_flatten second)
  rw [Sheet.prune_prune] at third
  refine ⟨second, third, fun layout => ?_⟩
  rw [printTree, Traced.result_bind_of_ok second]

/-- A tree with a grouping rule that goes with its only selector, and with
an empty block that stays. -/
def bareRule : Value :=
  .map [("@media print", .map [("a", .map [("color", .list [])])]),
    ("@font-face", .map []),
    ("b", .map [("color", "red")])]

theorem flatten_again_bareRule :
    ∃ sheet, (flatten bareRule).result = .ok sheet
      ∧ (flatten sheet.toValue).result = .ok sheet.prune
      ∧ (flatten sheet.prune.toValue).result = .ok sheet.prune
      ∧ ∀ layout, (printTree sheet.toValue layout).result
        = (printSheet sheet.prune.toValue layout).result := by
  have accepted : (flatten bareRule).result = .ok _ := rfl
  exact ⟨_, accepted, flatten_again_eq_prune accepted⟩

end Stylesheet
