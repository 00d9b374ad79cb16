/-
  Stylesheet.Proofs.Meaning
  ─────────────────────────
  **WHAT A SHEET SAYS ABOUT ITS TREE.**

  A sheet is described by the leaves of its tree alone, without the walk:
  which selectors it has, what stands at each name below them, what its flat
  rules are, and that it has no other keys.  A leaf is asked only for the
  condition and the selector that it targets and for the property that it
  sets.

  Main statement: `flatten_means_leaves`, the sheet of a tree says what the
  leaves of the tree say.
-/
import Stylesheet.Proofs.Leaf

namespace Stylesheet

open AtRule Condition Property

/-! ## §1. A leaf and its placement. -/

namespace Leaf

/-- The item that a flat rule is. -/
def item? (leaf : Leaf) : Option Item :=
  match kindOf leaf.key, leaf.value with
  | .statement, .scalar value => some (.statement value)
  | .block, .map entries => some (.block (.ofList (declarationsIn entries)))
  | _, _ => none

/-- What a leaf sets the flat rule of a key to. -/
def flat? (key : String) (leaf : Leaf) : Option Item :=
  if IsFlat leaf.key ∧ leaf.key = key then leaf.item? else none

variable {leaf : Leaf} {placement : Placement}

/-- A flat rule targets no selector. -/
theorem not_targets_of_isKey (leaf : Leaf) (hkey : isKey leaf.key = true)
    (condition : Option String) (selector : String) : ¬leaf.Targets condition selector := by
  intro targets
  exact Bool.false_ne_true (targets.1.symm.trans hkey)

theorem set?_of_isKey (leaf : Leaf) (hkey : isKey leaf.key = true) (condition : Option String)
    (selector : String) : leaf.set? condition selector = none := by
  rw [Leaf.set?, if_neg (not_targets_of_isKey leaf hkey condition selector)]

/-- **A leaf makes a regular placement.** -/
theorem Makes.regular (h : leaf.Makes placement) : placement.Regular := by
  cases h with
  | statement hkey hkind => exact .statement hkey hkind
  | block hkey hkind hentries => exact .block hkey hkind
  | @property path key value condition set hkey hcondition hselector hset =>
      refine .declaration ?_ (isKey_selectorOf path) hselector (ofKey_ofKey key) ?_
      · intro c same
        subst same
        exact isGroup_of_conditionOf hcondition
      · rw [isKey_ofKey]
        exact hkey

/-- A leaf and its placement set the same below a selector. -/
theorem Makes.set? (h : leaf.Makes placement) (condition : Option String) (selector : String) :
    placement.set? condition selector = leaf.set? condition selector := by
  cases h with
  | @statement path key value hkey hkind =>
      rw [set?_of_isKey ⟨path, key, .scalar value⟩ hkey]
      rfl
  | @block path key entries hkey hkind hentries =>
      rw [set?_of_isKey ⟨path, key, .map entries⟩ hkey]
      rfl
  | @property path key value c set hkey hcondition hselector hset =>
      rw [Leaf.set?, hset, Placement.set?]
      by_cases same : c = condition ∧ selectorOf path = selector
      · obtain ⟨rfl, rfl⟩ := same
        have targets : Targets ⟨path, key, value⟩ c (selectorOf path) := ⟨hkey, hcondition, rfl⟩
        rw [if_pos ⟨rfl, rfl⟩, if_pos targets]
        rfl
      · have not_targets : ¬Targets ⟨path, key, value⟩ condition selector := by
          intro given
          obtain ⟨-, hother, hselector⟩ := given
          exact same ⟨Except.ok.inj (hcondition.symm.trans hother), hselector⟩
        rw [if_neg same, if_neg not_targets]

/-- A leaf and its placement set the same flat rule. -/
theorem Makes.flat? (h : leaf.Makes placement) (key : String) :
    placement.flat? key = leaf.flat? key := by
  cases h with
  | @statement path k value hkey hkind =>
      have flat := isFlat_of_kind hkey hkind (by decide)
      have item : item? ⟨path, k, .scalar value⟩ = some (.statement value) := by
        simp only [item?, hkind]
      rw [Leaf.flat?, item, Placement.flat?]
      simp only [flat, true_and]
  | @block path k entries hkey hkind hentries =>
      have flat := isFlat_of_kind hkey hkind (by decide)
      have item : item? ⟨path, k, .map entries⟩
          = some (.block (.ofList (declarationsIn entries))) := by
        simp only [item?, hkind]
      rw [Leaf.flat?, item, Placement.flat?]
      simp only [flat, true_and]
  | property hkey hcondition hselector hset =>
      rw [Leaf.flat?, if_neg fun flat => not_isFlat_of_isKey hkey flat.1]
      rfl

/-- A flat rule stands at its own key only. -/
theorem standsAt_iff_of_isFlat (leaf : Leaf) (flat : IsFlat leaf.key) (key : String) :
    leaf.StandsAt key ↔ leaf.key = key := by
  constructor
  · intro given
    rcases given with ⟨-, same⟩ | ⟨condition, selector, targets, -⟩
    · exact same
    · exact absurd targets (not_targets_of_isKey leaf flat.1 condition selector)
  · intro same
    exact Or.inl ⟨flat, same⟩

/-- A leaf stands at the key that its placement writes to, and nowhere
else. -/
theorem Makes.standsAt_iff (h : leaf.Makes placement) (key : String) :
    leaf.StandsAt key ↔ key = placement.top := by
  cases h with
  | @statement path k value hkey hkind =>
      have flat := isFlat_of_kind hkey hkind (by decide)
      rw [standsAt_iff_of_isFlat ⟨path, k, .scalar value⟩ flat]
      exact eq_comm
  | @block path k entries hkey hkind hentries =>
      have flat := isFlat_of_kind hkey hkind (by decide)
      rw [standsAt_iff_of_isFlat ⟨path, k, .map entries⟩ flat]
      exact eq_comm
  | @property path k value c set hkey hcondition hselector hset =>
      constructor
      · intro given
        rcases given with ⟨flat, -⟩ | ⟨condition, selector, targets, rfl⟩
        · exact absurd flat (not_isFlat_of_isKey hkey)
        · rw [Placement.top, ← targets.2.2,
            Except.ok.inj (hcondition.symm.trans targets.2.1)]
      · intro same
        subst same
        exact Or.inr ⟨c, selectorOf path, ⟨hkey, hcondition, rfl⟩, rfl⟩

end Leaf

/-! ## §2. Leaves and their placements. -/

section Lists

variable {leaves : List Leaf} {placements : List Placement}

/-- What is selected of the placements can be selected of the leaves. -/
theorem filterMap_of_makes {α : Type} {f : Leaf → Option α} {g : Placement → Option α}
    (hfg : ∀ leaf placement, leaf.Makes placement → g placement = f leaf)
    (h : List.Forall₂ Leaf.Makes leaves placements) :
    placements.filterMap g = leaves.filterMap f := by
  induction h with
  | nil => rfl
  | cons makes _ ih => rw [List.filterMap_cons, List.filterMap_cons, hfg _ _ makes, ih]

theorem exists_placement_of_makes (h : List.Forall₂ Leaf.Makes leaves placements)
    {leaf : Leaf} (hmem : leaf ∈ leaves) : ∃ placement ∈ placements, leaf.Makes placement :=
  exists_of_mem_forall₂ h hmem

theorem exists_leaf_of_makes (h : List.Forall₂ Leaf.Makes leaves placements)
    {placement : Placement} (hmem : placement ∈ placements) :
    ∃ leaf ∈ leaves, leaf.Makes placement := by
  have flipped : List.Forall₂ (flip Leaf.Makes) placements leaves := List.Forall₂.flip h
  exact exists_of_mem_forall₂ flipped hmem

theorem regular_of_makes (h : List.Forall₂ Leaf.Makes leaves placements) :
    ∀ placement ∈ placements, placement.Regular := by
  intro placement hmem
  obtain ⟨leaf, -, makes⟩ := exists_leaf_of_makes h hmem
  exact makes.regular

end Lists

/-- **The sheet of a tree is regular.** -/
theorem regular_of_flatten {tree : Value} {sheet : Sheet}
    (h : (flatten tree).result = .ok sheet) : sheet.Regular := by
  obtain ⟨placements, makes, rfl⟩ := exists_makes_of_flatten h
  exact Sheet.regular_ofPlacements (regular_of_makes makes)

/-! ## §3. Meaning. -/

/-- What leaves say about a sheet. -/
structure Sheet.Means (sheet : Sheet) (leaves : List Leaf) : Prop where
  /-- Each leaf is a flat rule, or it targets one selector under one condition
  or under none and sets its property to something. -/
  leaf : ∀ leaf ∈ leaves, IsFlat leaf.key ∨
    ∃ condition value, leaf.Targets condition (selectorOf leaf.path)
      ∧ PropertyValue.ofValue? leaf.value = some value
  /-- A selector has declarations under a condition, or under none, just when
  some leaf targets it there. -/
  bucket : ∀ condition selector, (∃ d, sheet.declarations? condition selector = some d)
    ↔ ∃ leaf ∈ leaves, leaf.Targets condition selector
  /-- Its declarations read as what the leaves that target it set, one after
  the other. -/
  reads : ∀ condition selector d, sheet.declarations? condition selector = some d →
    Declarations.Reads (leaves.filterMap (Leaf.set? condition selector)) d
  /-- A flat rule with a single value has that of the last leaf with its key. -/
  statement : ∀ before leaf after, leaves = before ++ leaf :: after →
    isKey leaf.key = true → kindOf leaf.key = .statement →
    (∀ later ∈ after, later.key ≠ leaf.key) →
      ∃ value, leaf.value = .scalar value ∧ sheet.get? leaf.key = some (.statement value)
  /-- A flat rule with declarations has those of the last leaf with its key,
  which read as what its entries set, one after the other, with the names as
  they are. -/
  block : ∀ before leaf after, leaves = before ++ leaf :: after →
    isKey leaf.key = true → kindOf leaf.key = .block →
    (∀ later ∈ after, later.key ≠ leaf.key) →
      ∃ entries d, leaf.value = .map entries ∧ (∀ e ∈ entries, e.1.Declares e.2)
        ∧ sheet.get? leaf.key = some (.block d) ∧ Declarations.Reads (declarationsIn entries) d
  /-- The keys are those at which a leaf stands. -/
  keys : ∀ key, key ∈ sheet.keys ↔ ∃ leaf ∈ leaves, leaf.StandsAt key

section Meaning

variable {leaves : List Leaf} {placements : List Placement}

/-- The settings of the placements below a selector are those of the leaves
that target it. -/
theorem filterMap_set?_of_makes (h : List.Forall₂ Leaf.Makes leaves placements)
    (condition : Option String) (selector : String) :
    placements.filterMap (Placement.set? condition selector)
      = leaves.filterMap (Leaf.set? condition selector) :=
  filterMap_of_makes (fun _ _ makes => makes.set? condition selector) h

/-- A leaf that is made into a placement sets something where it targets. -/
theorem Leaf.Makes.isSome_set?_iff {leaf : Leaf} {placement : Placement}
    (h : leaf.Makes placement) (condition : Option String) (selector : String) :
    (leaf.set? condition selector).isSome = true ↔ leaf.Targets condition selector := by
  rw [Leaf.set?]
  split
  · next targets =>
    refine ⟨fun _ => targets, fun _ => ?_⟩
    cases h with
    | statement hkey hkind => exact absurd (targets.1.symm.trans hkey) Bool.false_ne_true
    | block hkey hkind hentries => exact absurd (targets.1.symm.trans hkey) Bool.false_ne_true
    | property hkey hcondition hselector hset =>
        rw [hset]
        rfl
  · next not_targets => simp [not_targets]

theorem filterMap_set?_eq_nil_iff (h : List.Forall₂ Leaf.Makes leaves placements)
    (condition : Option String) (selector : String) :
    leaves.filterMap (Leaf.set? condition selector) = []
      ↔ ¬∃ leaf ∈ leaves, leaf.Targets condition selector := by
  rw [List.filterMap_eq_nil_iff]
  constructor
  · intro hnone given
    obtain ⟨leaf, hmem, targets⟩ := given
    obtain ⟨placement, -, makes⟩ := exists_placement_of_makes h hmem
    have some := (makes.isSome_set?_iff condition selector).mpr targets
    rw [hnone leaf hmem] at some
    cases some
  · intro hnone leaf hmem
    obtain ⟨placement, -, makes⟩ := exists_placement_of_makes h hmem
    rw [← Option.not_isSome_iff_eq_none, makes.isSome_set?_iff]
    exact fun targets => hnone ⟨leaf, hmem, targets⟩

/-- The declarations of a selector are what the leaves that target it leave,
and there are none when no leaf does. -/
theorem declarations?_of_makes (h : List.Forall₂ Leaf.Makes leaves placements)
    (condition : Option String) (selector : String) :
    (Sheet.ofPlacements placements).declarations? condition selector
      = match leaves.filterMap (Leaf.set? condition selector) with
        | [] => none
        | sets => some (Declarations.ofList sets) := by
  have placed := regular_of_makes h
  have regular := Sheet.regular_ofPlacements placed
  have none_iff := filterMap_set?_eq_nil_iff h condition selector
  cases hselector : isKey selector with
  | true =>
      -- an at-rule is the selector of no leaf
      have nothing : ¬∃ leaf ∈ leaves, leaf.Targets condition selector := by
        intro given
        obtain ⟨leaf, -, -, -, rfl⟩ := given
        exact Bool.false_ne_true ((isKey_selectorOf leaf.path).symm.trans hselector)
      rw [none_iff.mpr nothing]
      exact Sheet.declarations?_of_isKey regular condition hselector
  | false =>
      by_cases hcondition : ∀ c, condition = some c → IsGroup c
      · rw [← filterMap_set?_of_makes h]
        exact Sheet.declarations?_ofPlacements placed hcondition hselector
      · -- a condition that is no grouping rule is not that of any leaf
        push Not at hcondition
        obtain ⟨c, rfl, hc⟩ := hcondition
        have nothing : ¬∃ leaf ∈ leaves, leaf.Targets (some c) selector := by
          intro given
          obtain ⟨leaf, -, targets⟩ := given
          exact hc (isGroup_of_conditionOf targets.2.1)
        rw [none_iff.mpr nothing]
        exact Sheet.declarations?_of_not_isGroup regular hc selector

/-- A flat rule is what the last leaf with its key is. -/
theorem get?_of_makes (h : List.Forall₂ Leaf.Makes leaves placements) {before after : List Leaf}
    {leaf : Leaf} (hsplit : leaves = before ++ leaf :: after) (hflat : IsFlat leaf.key)
    (hlast : ∀ later ∈ after, later.key ≠ leaf.key) {item : Item} (hitem : leaf.item? = some item) :
    (Sheet.ofPlacements placements).get? leaf.key = some item := by
  have here : leaf.flat? leaf.key = some item := by
    rw [Leaf.flat?, if_pos ⟨hflat, rfl⟩, hitem]
  -- behind the leaf nothing is set at its key, so it is the last that counts
  have later : after.filterMap (Leaf.flat? leaf.key) = [] := by
    rw [List.filterMap_eq_nil_iff]
    intro other hother
    rw [Leaf.flat?, if_neg fun same => hlast other hother same.2]
  rw [Sheet.get?_ofPlacements (regular_of_makes h) hflat.1 hflat.2,
    filterMap_of_makes (fun _ _ makes => makes.flat? leaf.key) h, hsplit, List.filterMap_append,
    List.filterMap_cons, here, later]
  exact List.getLast?_concat

theorem standsAt_of_makes (h : List.Forall₂ Leaf.Makes leaves placements) (key : String) :
    key ∈ (Sheet.ofPlacements placements).keys ↔ ∃ leaf ∈ leaves, leaf.StandsAt key := by
  rw [Sheet.mem_keys_ofPlacements]
  constructor
  · intro ⟨placement, hmem, htop⟩
    obtain ⟨leaf, hleaf, makes⟩ := exists_leaf_of_makes h hmem
    exact ⟨leaf, hleaf, (makes.standsAt_iff key).mpr htop⟩
  · intro ⟨leaf, hmem, stands⟩
    obtain ⟨placement, hplacement, makes⟩ := exists_placement_of_makes h hmem
    exact ⟨placement, hplacement, (makes.standsAt_iff key).mp stands⟩

/-- **Placements that leaves make leave what the leaves say.** -/
theorem means_of_makes (h : List.Forall₂ Leaf.Makes leaves placements) :
    (Sheet.ofPlacements placements).Means leaves where
  leaf := by
    intro leaf hmem
    obtain ⟨placement, -, makes⟩ := exists_placement_of_makes h hmem
    cases makes with
    | statement hkey hkind => exact Or.inl (isFlat_of_kind hkey hkind (by decide))
    | block hkey hkind _ => exact Or.inl (isFlat_of_kind hkey hkind (by decide))
    | property hkey hcondition hselector hset =>
        exact Or.inr ⟨_, _, ⟨hkey, hcondition, rfl⟩, hset⟩
  bucket := by
    intro condition selector
    -- there are declarations just when there is a setting, and that is when a leaf targets
    have none_iff := filterMap_set?_eq_nil_iff h condition selector
    rw [declarations?_of_makes h]
    cases hsets : leaves.filterMap (Leaf.set? condition selector) with
    | nil => simp [none_iff.mp hsets]
    | cons first rest =>
        have targeted : ∃ leaf ∈ leaves, leaf.Targets condition selector := by
          by_contra hnone
          have nothing := none_iff.mpr hnone
          rw [hsets] at nothing
          cases nothing
        exact ⟨fun _ => targeted, fun _ => ⟨_, rfl⟩⟩
  reads := by
    intro condition selector d hd
    rw [declarations?_of_makes h] at hd
    cases hsets : leaves.filterMap (Leaf.set? condition selector) with
    | nil =>
        rw [hsets] at hd
        cases hd
    | cons first rest =>
        rw [hsets] at hd
        obtain rfl := Option.some.inj hd
        exact Declarations.reads_ofList _
  statement := by
    intro before leaf after hsplit hkey hkind hlast
    have hmem : leaf ∈ leaves := by simp [hsplit]
    have flat := isFlat_of_kind hkey hkind (by decide)
    obtain ⟨placement, -, makes⟩ := exists_placement_of_makes h hmem
    cases makes with
    | @statement path key value _ _ =>
        refine ⟨value, rfl, get?_of_makes h hsplit flat hlast ?_⟩
        simp only [Leaf.item?, hkind]
    | block _ hother _ => exact absurd (hkind.symm.trans hother) (by decide)
    | property hother _ _ _ => exact absurd flat (not_isFlat_of_isKey hother)
  block := by
    intro before leaf after hsplit hkey hkind hlast
    have hmem : leaf ∈ leaves := by simp [hsplit]
    have flat := isFlat_of_kind hkey hkind (by decide)
    obtain ⟨placement, -, makes⟩ := exists_placement_of_makes h hmem
    cases makes with
    | statement _ hother => exact absurd (hkind.symm.trans hother) (by decide)
    | @block path key entries _ _ hentries =>
        refine ⟨entries, _, rfl, hentries, get?_of_makes h hsplit flat hlast ?_,
          Declarations.reads_ofList _⟩
        simp only [Leaf.item?, hkind]
    | property hother _ _ _ => exact absurd flat (not_isFlat_of_isKey hother)
  keys := standsAt_of_makes h

end Meaning

/-- **The sheet of a tree says what the leaves of the tree say.** -/
theorem flatten_means_leaves {tree : Value} {sheet : Sheet}
    (h : (flatten tree).result = .ok sheet) : sheet.Means (leavesOf tree) := by
  obtain ⟨placements, makes, rfl⟩ := exists_makes_of_flatten h
  exact means_of_makes makes

/-- A tree with a selector that two paths lead to, and a grouping rule. -/
def twoPaths : Value :=
  .map [("div", .map [("a", .map [("color", "red")])]),
    ("div a", .map [("color", .list ["blue"])]),
    ("@media print", .map [("a", .map [("minWidth", .list [])])])]

theorem flatten_means_twoPaths :
    ∃ sheet, (flatten twoPaths).result = .ok sheet ∧ sheet.Means (leavesOf twoPaths) := by
  have accepted : (flatten twoPaths).result = .ok _ := rfl
  exact ⟨_, accepted, flatten_means_leaves accepted⟩

end Stylesheet
