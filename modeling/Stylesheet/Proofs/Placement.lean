/-
  Stylesheet.Proofs.Placement
  ───────────────────────────
  **THE SHEET THAT PLACEMENTS LEAVE.**

  A regular placement is one that a walk can make: its condition is the key
  of a grouping rule, its selector and its name are no at-rules, the name is
  canonical, and a flat rule has an item of its kind.  Regular placements
  stay out of each other's way: a declaration is seen at its own condition
  and selector and nowhere else, a flat rule at its own key.  What they
  leave is a regular sheet, which is what the second pass over a sheet works
  on.

  Main statements:
    * `declarations?_ofPlacements` — the declarations of a selector are what
      the settings for it leave, made one after the other;
    * `get?_ofPlacements` — of the placements of a flat rule the last counts;
    * `mem_keys_ofPlacements` — the keys are those that placements write to;
    * `regular_ofPlacements` — regular placements leave a regular sheet.
-/
import Stylesheet.Placement
import Stylesheet.Proofs.Declarations
import Stylesheet.Proofs.Rule

namespace Stylesheet

open AtRule Condition Property

/-! ## §1. Regular placements. -/

/-- A placement that a walk can make. -/
inductive Placement.Regular : Placement → Prop where
  /-- A flat rule with a single value. -/
  | statement {key value} (hkey : isKey key = true) (hkind : kindOf key = .statement) :
      Regular (.flatRule key (.statement value))
  /-- A flat rule with declarations, whatever their names. -/
  | block {key declarations} (hkey : isKey key = true) (hkind : kindOf key = .block) :
      Regular (.flatRule key (.block declarations))
  /-- A declaration. -/
  | declaration {condition selector name value}
      (hcondition : ∀ c, condition = some c → IsGroup c) (hselector : isKey selector = false)
      (hne : selector ≠ "") (hname : ofKey name = name) (hkey : isKey name = false) :
      Regular (.declaration condition selector name value)

/-- A flat rule that is placed is an at-rule and does not group. -/
theorem Placement.Regular.flatRule {key : String} {item : Item}
    (h : (Placement.flatRule key item).Regular) : isKey key = true ∧ kindOf key ≠ .group := by
  cases h with
  | statement hkey hkind => exact ⟨hkey, by rw [hkind]; decide⟩
  | block hkey hkind => exact ⟨hkey, by rw [hkind]; decide⟩

/-- A key that is an at-rule is none that is not. -/
theorem ne_of_isKey {key other : String} (hkey : isKey key = true) (h : isKey other = false) :
    other ≠ key := by
  intro same
  subst same
  rw [hkey] at h
  cases h

/-- The key of a grouping rule is none of another kind. -/
theorem ne_of_isGroup {key other : String} (hkey : IsGroup key) (h : kindOf other ≠ .group) :
    other ≠ key := by
  intro same
  subst same
  exact h hkey.2

/-! ## §2. Declarations of a sheet. -/

/-- The declarations of an item, if it is a block. -/
def Item.block? : Item → Option Declarations
  | .block declarations => some declarations
  | _ => none

theorem Item.getD_block? (item : Item) : item.block?.getD ∅ = item.declarations := by
  cases item <;> rfl

/-- What a placement sets for a selector under a condition. -/
def Placement.set? (condition : Option String) (selector : String) :
    Placement → Option (String × PropertyValue)
  | .flatRule .. => none
  | .declaration c s name value => if c = condition ∧ s = selector then some (name, value) else none

namespace Sheet

/-- The declarations of a selector, under a condition or under none.  An
at-rule is no selector. -/
def declarations? (sheet : Sheet) : Option String → String → Option Declarations
  | none, selector =>
      if isKey selector then none else (sheet.get? selector).bind Item.block?
  | some condition, selector => ((sheet.get? condition).elim ∅ Item.rules).get? selector

theorem declarations?_none_of_get?_eq {sheet other : Sheet} {selector : String}
    (h : sheet.get? selector = other.get? selector) :
    sheet.declarations? none selector = other.declarations? none selector := by
  rw [declarations?, declarations?, h]

theorem declarations?_some_of_get?_eq {sheet other : Sheet} {condition : String}
    (h : sheet.get? condition = other.get? condition) (selector : String) :
    sheet.declarations? (some condition) selector
      = other.declarations? (some condition) selector := by
  rw [declarations?, declarations?, h]

/-- What stands at a key that a placement does not write to is left alone. -/
theorem get?_place_flatRule_of_ne {key other : String} (h : other ≠ key) (sheet : Sheet)
    (item : Item) : (sheet.place (.flatRule key item)).get? other = sheet.get? other :=
  Table.get?_write_of_ne h sheet _

theorem get?_place_direct_of_ne {selector other : String} (h : other ≠ selector) (sheet : Sheet)
    (name : String) (value : PropertyValue) :
    (sheet.place (.declaration none selector name value)).get? other = sheet.get? other :=
  Table.get?_write_of_ne h sheet _

theorem get?_place_grouped_of_ne {condition other : String} (h : other ≠ condition)
    (sheet : Sheet) (selector name : String) (value : PropertyValue) :
    (sheet.place (.declaration (some condition) selector name value)).get? other
      = sheet.get? other :=
  Table.get?_write_of_ne h sheet _

/-- A declaration without a condition is seen at its selector. -/
theorem declarations?_place_direct (sheet : Sheet) {selector : String}
    (hselector : isKey selector = false) (name : String) (value : PropertyValue) :
    (sheet.place (.declaration none selector name value)).declarations? none selector
      = some (((sheet.declarations? none selector).getD ∅).set name value) := by
  rw [declarations?, declarations?, place, Table.get?_write_self, hselector,
    if_neg Bool.false_ne_true, if_neg Bool.false_ne_true]
  cases sheet.get? selector with
  | none => rfl
  | some item =>
      show some (Declarations.set item.declarations name value) = _
      rw [← Item.getD_block?]
      rfl

/-- A declaration under a condition is seen at its selector below it. -/
theorem declarations?_place_grouped (sheet : Sheet) (condition selector other name : String)
    (value : PropertyValue) :
    (sheet.place (.declaration (some condition) selector name value)).declarations?
        (some condition) other
      = if other = selector then
          some (((sheet.declarations? (some condition) selector).getD ∅).set name value)
        else sheet.declarations? (some condition) other := by
  rw [declarations?, declarations?, declarations?, place, Table.get?_write_self]
  exact Table.get?_write _ selector other _

/-- **A regular placement is seen where it is made and nowhere else.** -/
theorem declarations?_place {placement : Placement} (h : placement.Regular)
    {condition : Option String} (hcondition : ∀ c, condition = some c → IsGroup c)
    {selector : String} (hselector : isKey selector = false) (sheet : Sheet) :
    (sheet.place placement).declarations? condition selector
      = match placement.set? condition selector with
        | some (name, value) =>
            some (((sheet.declarations? condition selector).getD ∅).set name value)
        | none => sheet.declarations? condition selector := by
  -- flat rules, grouping rules and selectors never have a key in common, so
  -- a write of one kind is not seen by a look-up of another
  cases placement with
  | flatRule key item =>
      obtain ⟨hkey, hkind⟩ := h.flatRule
      cases condition with
      | none =>
          exact declarations?_none_of_get?_eq
            (get?_place_flatRule_of_ne (ne_of_isKey hkey hselector) sheet item)
      | some c =>
          have hne : c ≠ key := (ne_of_isGroup (hcondition c rfl) hkind).symm
          exact declarations?_some_of_get?_eq (get?_place_flatRule_of_ne hne sheet item) selector
  | declaration placed s name value =>
      rw [Placement.set?]
      cases h with
      | declaration hplaced hs hne hname hkey =>
      cases placed with
      | none =>
          cases condition with
          | none =>
              by_cases same : s = selector
              · rw [if_pos ⟨rfl, same⟩, ← same]
                exact declarations?_place_direct sheet hs name value
              · rw [if_neg fun h => same h.2]
                exact declarations?_none_of_get?_eq
                  (get?_place_direct_of_ne (Ne.symm same) sheet name value)
          | some c =>
              rw [if_neg (by simp)]
              have hc : c ≠ s := (ne_of_isKey (hcondition c rfl).1 hs).symm
              exact declarations?_some_of_get?_eq
                (get?_place_direct_of_ne hc sheet name value) selector
      | some p =>
          cases condition with
          | none =>
              rw [if_neg (by simp)]
              have hp : selector ≠ p := ne_of_isKey (hplaced p rfl).1 hselector
              exact declarations?_none_of_get?_eq
                (get?_place_grouped_of_ne hp sheet s name value)
          | some c =>
              by_cases same : p = c
              · subst same
                rw [declarations?_place_grouped]
                by_cases hs' : s = selector
                · rw [if_pos hs'.symm, if_pos ⟨rfl, hs'⟩, hs']
                · rw [if_neg (Ne.symm hs'), if_neg fun h => hs' h.2]
              · rw [if_neg (by simp [same])]
                exact declarations?_some_of_get?_eq
                  (get?_place_grouped_of_ne (Ne.symm same) sheet s name value) selector

theorem ofPlacements_concat (placements : List Placement) (placement : Placement) :
    ofPlacements (placements ++ [placement]) = (ofPlacements placements).place placement := by
  rw [ofPlacements, List.foldl_append]
  rfl

/-- **The declarations of a selector are what the settings for it leave.** -/
theorem declarations?_ofPlacements {placements : List Placement}
    (h : ∀ placement ∈ placements, placement.Regular) {condition : Option String}
    (hcondition : ∀ c, condition = some c → IsGroup c) {selector : String}
    (hselector : isKey selector = false) :
    (ofPlacements placements).declarations? condition selector
      = match placements.filterMap (Placement.set? condition selector) with
        | [] => none
        | sets => some (Declarations.ofList sets) := by
  induction placements using List.reverseRecOn with
  | nil =>
      cases condition with
      | none =>
          rw [declarations?, hselector]
          rfl
      | some c => rfl
  | append_singleton front placement ih =>
      have regular := h placement (by simp)
      have ih := ih fun p hp => h p (by simp [hp])
      rw [ofPlacements_concat, declarations?_place regular hcondition hselector, ih,
        List.filterMap_append, List.filterMap_cons, List.filterMap_nil]
      cases placement.set? condition selector with
      | none =>
          show _ = match _ ++ [] with
            | [] => none
            | sets => some (Declarations.ofList sets)
          rw [List.append_nil]
      | some e =>
          -- the first setting starts from no declarations, as `ofList` does
          show some (Declarations.set _ e.1 e.2) = match _ ++ [e] with
            | [] => none
            | sets => some (Declarations.ofList sets)
          cases hsets : front.filterMap (Placement.set? condition selector) with
          | nil => rfl
          | cons first rest =>
              show some (Declarations.set _ e.1 e.2)
                = some (Declarations.ofList ((first :: rest) ++ [e]))
              rw [Declarations.ofList_concat]
              rfl

end Sheet

/-! ## §3. Flat rules of a sheet. -/

/-- What a placement sets the flat rule of a key to. -/
def Placement.flat? (key : String) : Placement → Option Item
  | .flatRule k item => if k = key then some item else none
  | .declaration .. => none

namespace Sheet

/-- A flat rule is seen at its key, a declaration at no flat rule. -/
theorem get?_place {placement : Placement} (h : placement.Regular) {key : String}
    (hkey : isKey key = true) (hkind : kindOf key ≠ .group) (sheet : Sheet) :
    (sheet.place placement).get? key = (placement.flat? key).or (sheet.get? key) := by
  cases h with
  | statement hkey' hkind' | block hkey' hkind' =>
      rw [place, Table.get?_insert, Placement.flat?]
      split
      · next same => rw [if_pos same.symm, Option.some_or]
      · next other => rw [if_neg (Ne.symm other), Option.none_or]
  | @declaration condition selector name value hcondition hselector hne hname hkey' =>
      show _ = sheet.get? key
      cases condition with
      | none => exact get?_place_direct_of_ne (ne_of_isKey hkey hselector).symm sheet name value
      | some c =>
          have hc : key ≠ c := ne_of_isGroup (hcondition c rfl) hkind
          exact get?_place_grouped_of_ne hc sheet selector name value

/-- **Of the placements of a flat rule the last counts.** -/
theorem get?_ofPlacements {placements : List Placement}
    (h : ∀ placement ∈ placements, placement.Regular) {key : String}
    (hkey : isKey key = true) (hkind : kindOf key ≠ .group) :
    (ofPlacements placements).get? key = (placements.filterMap (Placement.flat? key)).getLast? := by
  induction placements using List.reverseRecOn with
  | nil => rfl
  | append_singleton front placement ih =>
      have regular := h placement (by simp)
      have ih := ih fun p hp => h p (by simp [hp])
      rw [ofPlacements_concat, get?_place regular hkey hkind, ih, List.filterMap_append,
        List.filterMap_cons, List.filterMap_nil, List.getLast?_append]
      cases placement.flat? key <;> rfl

end Sheet

/-! ## §4. Keys of a sheet. -/

/-- The top-level key that a placement writes to. -/
def Placement.top : Placement → String
  | .flatRule key _ => key
  | .declaration condition selector _ _ => condition.getD selector

namespace Sheet

theorem mem_keys_place (sheet : Sheet) (placement : Placement) (key : String) :
    key ∈ (sheet.place placement).keys ↔ key ∈ sheet.keys ∨ key = placement.top := by
  cases placement with
  | flatRule k item => exact Table.mem_keys_write sheet k key _
  | declaration condition selector name value =>
      cases condition with
      | none => exact Table.mem_keys_write sheet selector key _
      | some c => exact Table.mem_keys_write sheet c key _

/-- **The keys are those that placements write to.** -/
theorem mem_keys_ofPlacements (placements : List Placement) (key : String) :
    key ∈ (ofPlacements placements).keys ↔ ∃ placement ∈ placements, key = placement.top := by
  induction placements using List.reverseRecOn with
  | nil => simp [ofPlacements]
  | append_singleton front placement ih =>
      rw [ofPlacements_concat, mem_keys_place, ih]
      simp [or_and_right, exists_or]

end Sheet

/-! ## §5. Regular sheets. -/

/-- A selector with declarations as a walk can leave it. -/
structure RegularRule (selector : String) (declarations : Declarations) : Prop where
  /-- The selector is no at-rule. -/
  isKey : isKey selector = false
  /-- The selector is not empty. -/
  ne_empty : selector ≠ ""
  /-- The names are canonical. -/
  canonical : declarations.Canonical

/-- An item that a walk can leave at a key. -/
inductive Item.Regular (key : String) : Item → Prop where
  /-- A flat rule with a single value. -/
  | statement {value} (hkey : isKey key = true) (hkind : kindOf key = .statement) :
      Regular key (.statement value)
  /-- A flat rule with declarations, whatever their names. -/
  | flatBlock {declarations} (hkey : isKey key = true) (hkind : kindOf key = .block) :
      Regular key (.block declarations)
  /-- A selector with declarations. -/
  | selector {declarations} (hrule : RegularRule key declarations) :
      Regular key (.block declarations)
  /-- A grouping rule with at least one selector. -/
  | group {rules} (hkey : IsGroup key) (hne : rules.entries ≠ [])
      (hrules : ∀ e ∈ rules.entries, RegularRule e.1 e.2) : Regular key (.group rules)

/-- A sheet that a walk can leave. -/
def Sheet.Regular (sheet : Sheet) : Prop :=
  ∀ e ∈ sheet.entries, e.2.Regular e.1

namespace Item

/-- What stands at a selector has canonical names. -/
theorem Regular.canonical {key : String} {item : Item} (h : item.Regular key)
    (hkey : isKey key = false) : item.declarations.Canonical := by
  cases h with
  | selector hrule => exact hrule.canonical
  | statement | group => exact Declarations.canonical_empty
  | flatBlock hkey' =>
      rw [hkey] at hkey'
      cases hkey'

/-- What stands at a grouping rule has regular selectors. -/
theorem Regular.rules {key : String} {item : Item} (h : item.Regular key) :
    ∀ e ∈ item.rules.entries, RegularRule e.1 e.2 := by
  cases h with
  | group hkey hne hrules => exact hrules
  | statement | flatBlock | selector =>
      intro e he
      cases he

/-- A declaration below a selector of a grouping rule keeps the rule
regular. -/
theorem regular_group_write {key : String} (hgroup : IsGroup key)
    {rules : Table String Declarations} (old : ∀ e ∈ rules.entries, RegularRule e.1 e.2)
    {selector : String} (hselector : isKey selector = false) (hne : selector ≠ "")
    {name : String} (hname : ofKey name = name) (hkey : isKey name = false)
    (value : PropertyValue) :
    Item.Regular key (.group (rules.write selector fun declarations? =>
      Declarations.set (declarations?.getD ∅) name value)) := by
  have canonical : ((rules.get? selector).getD ∅).Canonical := by
    cases hd : rules.get? selector with
    | none => exact Declarations.canonical_empty
    | some d => exact (old _ ((Table.get?_eq_some_iff rules).mp hd)).canonical
  refine .group hgroup ?_ ?_
  · intro nothing
    have mem := (Table.mem_keys_write rules selector selector
      fun d? => Declarations.set (d?.getD ∅) name value).mpr (Or.inr rfl)
    rw [Table.keys, nothing] at mem
    cases mem
  · intro e he
    rcases Table.mem_entries_write he with hold | rfl
    · exact old e hold
    · exact ⟨hselector, hne, Declarations.canonical_set canonical hname hkey value⟩

end Item

namespace Sheet

theorem regular_empty : Regular ∅ := by
  intro e he
  cases he

/-- A write of a regular item keeps a sheet regular. -/
theorem regular_write {sheet : Sheet} (h : sheet.Regular) {key : String}
    {f : Option Item → Item} (hf : (f (sheet.get? key)).Regular key) :
    Regular (sheet.write key f) := by
  intro e he
  rcases Table.mem_entries_write he with hold | rfl
  · exact h e hold
  · exact hf

theorem regular_of_get? {sheet : Sheet} (h : sheet.Regular) {key : String} {item : Item}
    (hitem : sheet.get? key = some item) : item.Regular key :=
  h (key, item) ((Table.get?_eq_some_iff sheet).mp hitem)

/-- **A regular placement keeps a sheet regular.** -/
theorem regular_place {sheet : Sheet} (h : sheet.Regular) {placement : Placement}
    (regular : placement.Regular) : (sheet.place placement).Regular := by
  cases regular with
  | statement hkey hkind => exact regular_write h (.statement hkey hkind)
  | block hkey hkind => exact regular_write h (.flatBlock hkey hkind)
  | @declaration condition selector name value hcondition hselector hne hname hkey =>
      cases condition with
      | none =>
          refine regular_write h (.selector ⟨hselector, hne, ?_⟩)
          refine Declarations.canonical_set ?_ hname hkey value
          cases hitem : sheet.get? selector with
          | none => exact Declarations.canonical_empty
          | some item => exact (regular_of_get? h hitem).canonical hselector
      | some c =>
          -- the selectors that are there already are regular, whatever stands at the key
          have old : ∀ e ∈ ((sheet.get? c).elim ∅ Item.rules).entries, RegularRule e.1 e.2 := by
            cases hitem : sheet.get? c with
            | none =>
                intro e he
                cases he
            | some item => exact (regular_of_get? h hitem).rules
          exact regular_write h
            (Item.regular_group_write (hcondition c rfl) old hselector hne hname hkey value)

/-- **Regular placements leave a regular sheet.** -/
theorem regular_ofPlacements {placements : List Placement}
    (h : ∀ placement ∈ placements, placement.Regular) : (ofPlacements placements).Regular := by
  induction placements using List.reverseRecOn with
  | nil => exact regular_empty
  | append_singleton front placement ih =>
      rw [ofPlacements_concat]
      exact regular_place (ih fun p hp => h p (by simp [hp])) (h placement (by simp))

/-- In a regular sheet no at-rule stands where selectors do. -/
theorem declarations?_of_isKey {sheet : Sheet} (h : sheet.Regular) (condition : Option String)
    {selector : String} (hselector : isKey selector = true) :
    sheet.declarations? condition selector = none := by
  cases condition with
  | none => rw [declarations?, if_pos hselector]
  | some c =>
      rw [declarations?]
      cases hitem : sheet.get? c with
      | none => rfl
      | some item =>
          rw [Option.eq_none_iff_forall_ne_some]
          intro d hd
          have mem := (Table.get?_eq_some_iff item.rules).mp hd
          have rule := (regular_of_get? h hitem).rules (selector, d) mem
          exact absurd (rule.isKey.symm.trans hselector) Bool.false_ne_true

/-- In a regular sheet only grouping rules have conditions of their own. -/
theorem declarations?_of_not_isGroup {sheet : Sheet} (h : sheet.Regular) {condition : String}
    (hcondition : ¬IsGroup condition) (selector : String) :
    sheet.declarations? (some condition) selector = none := by
  rw [declarations?]
  cases hitem : sheet.get? condition with
  | none => rfl
  | some item =>
      cases regular_of_get? h hitem with
      | group hkey => exact absurd hkey hcondition
      | statement | flatBlock | selector => rfl

end Sheet

end Stylesheet
