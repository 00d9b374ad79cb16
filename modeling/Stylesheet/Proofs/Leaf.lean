/-
  Stylesheet.Proofs.Leaf
  ──────────────────────
  **A SHEET READ OFF THE LEAVES OF ITS TREE.**

  The leaves of a tree are listed depth first, each with the keys above it,
  and without a scope: the condition and the selector of a leaf are folds
  over those keys.  A leaf makes the one placement that a walk makes of it,
  so what a sheet says can be read off the list of leaves.

  Main statements:
    * `forall₂_leavesIn` — a walk makes one placement of each leaf, and what
      holds of each single one holds of all;
    * `makes_walk` — a walk makes the placements of the leaves, in order;
    * `exists_makes_of_flatten` — the sheet of a tree is what those
      placements leave.
-/
import Mathlib.Data.List.Forall2
import Stylesheet.Proofs.Acceptance
import Stylesheet.Proofs.Placement

namespace Stylesheet

open AtRule Condition Property

/-! ## §1. Folds over the keys above a leaf. -/

/-- The condition that the grouping rules among the keys merge into, from
the root down. -/
def conditionOf (path : List String) : Except MergeError (Option String) :=
  (path.filter fun key => IsGroup key).foldlM
    (fun active key => (merge active key).map some) none

/-- The selector that the keys which are no at-rules join to. -/
def selectorOf (path : List String) : String :=
  (path.filter fun key => !isKey key).foldl Scope.selectorBelow ""

theorem conditionOf_concat_of_isGroup {key : String} (hkey : IsGroup key)
    {path : List String} {active : Option String} (h : conditionOf path = .ok active) :
    conditionOf (path ++ [key]) = (merge active key).map some := by
  rw [conditionOf] at h ⊢
  rw [List.filter_append, List.filter_cons_of_pos (by simpa using hkey), List.filter_nil,
    List.foldlM_append, h]
  show (merge active key).map some >>= pure = _
  exact bind_pure _

theorem conditionOf_concat_of_not_isGroup {key : String} (hkey : ¬IsGroup key)
    (path : List String) : conditionOf (path ++ [key]) = conditionOf path := by
  rw [conditionOf, conditionOf, List.filter_append,
    List.filter_cons_of_neg (by simpa using hkey), List.filter_nil, List.append_nil]

theorem selectorOf_concat_of_isKey {key : String} (hkey : isKey key = true)
    (path : List String) : selectorOf (path ++ [key]) = selectorOf path := by
  rw [selectorOf, selectorOf, List.filter_append, List.filter_cons_of_neg (by simp [hkey]),
    List.filter_nil, List.append_nil]

theorem selectorOf_concat_of_not_isKey {key : String} (hkey : isKey key = false)
    (path : List String) :
    selectorOf (path ++ [key]) = Scope.selectorBelow (selectorOf path) key := by
  rw [selectorOf, selectorOf, List.filter_append, List.filter_cons_of_pos (by simp [hkey]),
    List.filter_nil, List.foldl_append]
  rfl

/-- **The condition above a leaf is the key of a grouping rule.** -/
theorem isGroup_of_conditionOf {path : List String} {condition : String}
    (h : conditionOf path = .ok (some condition)) : IsGroup condition := by
  induction path using List.reverseRecOn generalizing condition with
  | nil => cases h
  | append_singleton front key ih =>
      by_cases hkey : IsGroup key
      · cases hfront : conditionOf front with
        | error e =>
            -- a key that does not merge further up leaves no condition at all
            rw [conditionOf, List.filter_append, List.foldlM_append] at h
            rw [conditionOf] at hfront
            rw [hfront] at h
            cases h
        | ok active =>
            rw [conditionOf_concat_of_isGroup hkey hfront] at h
            cases hmerge : merge active key with
            | error e =>
                rw [hmerge] at h
                cases h
            | ok merged =>
                rw [hmerge] at h
                obtain rfl := Option.some.inj (Except.ok.inj h)
                exact isGroup_of_merge hkey hmerge
      · rw [conditionOf_concat_of_not_isGroup hkey] at h
        exact ih h

/-- **The selector above a leaf is no at-rule.** -/
theorem isKey_selectorOf (path : List String) : isKey (selectorOf path) = false := by
  -- the last key is joined last, so the induction takes it off
  induction path using List.reverseRecOn with
  | nil => rfl
  | append_singleton front key ih =>
      cases hkey : isKey key with
      | true =>
          rw [selectorOf_concat_of_isKey hkey]
          exact ih
      | false =>
          rw [selectorOf_concat_of_not_isKey hkey]
          exact Scope.isKey_selectorBelow ih hkey

/-! ## §2. Scopes that follow their path. -/

/-- The condition and the selector of a scope are the folds over its path. -/
structure Scope.Follows (scope : Scope) : Prop where
  /-- The active key is what the grouping rules merge into. -/
  condition : conditionOf scope.path = .ok scope.condition
  /-- The selector is what the other keys join to. -/
  selector : selectorOf scope.path = scope.selector

namespace Scope

theorem follows_root : root.Follows := ⟨rfl, rfl⟩

theorem follows_below {scope : Scope} (h : scope.Follows) {key : String}
    (hkey : isKey key = false) : (scope.below key).Follows where
  condition := by
    show conditionOf (scope.path ++ [key]) = .ok scope.condition
    rw [conditionOf_concat_of_not_isGroup (not_isGroup_of_isKey hkey)]
    exact h.condition
  selector := by
    show selectorOf (scope.path ++ [key]) = selectorBelow scope.selector key
    rw [selectorOf_concat_of_not_isKey hkey, h.selector]

theorem follows_under {scope : Scope} (h : scope.Follows) {key merged : String}
    (hkey : IsGroup key) (hmerge : merge scope.condition key = .ok merged) :
    (scope.under key merged).Follows where
  condition := by
    show conditionOf (scope.path ++ [key]) = .ok (some merged)
    rw [conditionOf_concat_of_isGroup hkey h.condition, hmerge]
    rfl
  selector := by
    show selectorOf (scope.path ++ [key]) = scope.selector
    rw [selectorOf_concat_of_isKey hkey.1, h.selector]

/-- A scope that follows its path is one that walks meet. -/
theorem Follows.valid {scope : Scope} (h : scope.Follows) : scope.Valid where
  condition := by
    intro active hactive
    have condition := h.condition
    rw [hactive] at condition
    exact isGroup_of_conditionOf condition
  selector := by
    rw [← h.selector]
    exact isKey_selectorOf scope.path

end Scope

/-! ## §3. Leaves. -/

/-- A flat rule: an at-rule that groups nothing. -/
def IsFlat (key : String) : Prop := isKey key = true ∧ kindOf key ≠ .group

instance (key : String) : Decidable (IsFlat key) := inferInstanceAs (Decidable (_ ∧ _))

theorem isFlat_of_kind {key : String} {kind : Kind} (hkey : isKey key = true)
    (hkind : kindOf key = kind) (hne : kind ≠ .group) : IsFlat key :=
  ⟨hkey, by rw [hkind]; exact hne⟩

theorem not_isFlat_of_isKey {key : String} (hkey : isKey key = false) : ¬IsFlat key := by
  intro flat
  rw [flat.1] at hkey
  cases hkey

/-- A leaf of a tree. -/
structure Leaf where
  /-- The keys above it, from the root down. -/
  path : List String
  /-- Its key. -/
  key : String
  /-- Its value. -/
  value : Value

mutual

/-- The leaves of an entry.  A flat rule is a leaf with all it holds, and so
is what is no mapping; any other key stands above the leaves of its
block. -/
def leavesAt (path : List String) (key : Value) : Value → List Leaf
  | .map entries =>
      match key.text? with
      | none => []
      | some key =>
          if IsFlat key then [⟨path, key, .map entries⟩] else leavesIn (path ++ [key]) entries
  | value => (key.text?.map fun key => ⟨path, key, value⟩).toList

/-- The leaves of entries, in order. -/
def leavesIn (path : List String) : List (Value × Value) → List Leaf
  | [] => []
  | (key, value) :: rest => leavesAt path key value ++ leavesIn path rest

end

/-- The leaves of a tree, depth first and in the order of its entries. -/
def leavesOf (tree : Value) : List Leaf :=
  match tree.entries? with
  | some entries => leavesIn [] entries
  | none => []

namespace Leaf

/-- A leaf declares a property for a selector, under a condition or under
none. -/
def Targets (leaf : Leaf) (condition : Option String) (selector : String) : Prop :=
  isKey leaf.key = false ∧ conditionOf leaf.path = .ok condition ∧ selectorOf leaf.path = selector

instance (leaf : Leaf) (condition : Option String) (selector : String) :
    Decidable (leaf.Targets condition selector) :=
  inferInstanceAs (Decidable (_ ∧ _ ∧ _))

/-- What a leaf sets for a selector under a condition. -/
def set? (condition : Option String) (selector : String) (leaf : Leaf) :
    Option (String × PropertyValue) :=
  if leaf.Targets condition selector then
    (PropertyValue.ofValue? leaf.value).map fun value => (ofKey leaf.key, value)
  else none

/-- Something of a leaf stands at a top-level key: a flat rule at its own, a
declaration at its condition, or at its selector when there is none. -/
def StandsAt (leaf : Leaf) (key : String) : Prop :=
  IsFlat leaf.key ∧ leaf.key = key
    ∨ ∃ condition selector, leaf.Targets condition selector ∧ condition.getD selector = key

/-- The placement that a leaf makes. -/
inductive Makes : Leaf → Placement → Prop where
  /-- A flat rule with a single value. -/
  | statement {path key value} (hkey : isKey key = true) (hkind : kindOf key = .statement) :
      Makes ⟨path, key, .scalar value⟩ (.flatRule key (.statement value))
  /-- A flat rule with declarations. -/
  | block {path key entries} (hkey : isKey key = true) (hkind : kindOf key = .block)
      (hentries : ∀ e ∈ entries, e.1.Declares e.2) :
      Makes ⟨path, key, .map entries⟩
        (.flatRule key (.block (.ofList (declarationsIn entries))))
  /-- A property below a selector. -/
  | property {path key value condition set} (hkey : isKey key = false)
      (hcondition : conditionOf path = .ok condition) (hselector : selectorOf path ≠ "")
      (hset : PropertyValue.ofValue? value = some set) :
      Makes ⟨path, key, value⟩ (.declaration condition (selectorOf path) (ofKey key) set)

end Leaf

/-! ## §4. A walk makes the placements of the leaves. -/

/-- The leaves of an entry that opens a block are those of the block. -/
theorem leavesAt_of_opens {scope inner : Scope} {key : Value} {entries : List (Value × Value)}
    (h : Fits scope key (.map entries) (.opens inner)) :
    leavesAt scope.path key (.map entries) = leavesIn inner.path entries := by
  cases h with
  | @selector key _ hkey =>
      show (if IsFlat key then _ else leavesIn (scope.path ++ [key]) entries) = _
      rw [if_neg (not_isFlat_of_isKey hkey)]
      rfl
  | @group key _ merged hkey hmerge =>
      have not_flat : ¬IsFlat key := fun flat => flat.2 hkey.2
      show (if IsFlat key then _ else leavesIn (scope.path ++ [key]) entries) = _
      rw [if_neg not_flat]
      rfl

/-- An entry that makes a placement is a leaf. -/
theorem leavesAt_of_places {scope : Scope} {key value : Value} {placement : Placement}
    (h : Fits scope key value (.places placement)) :
    ∃ name, key = .text name ∧ leavesAt scope.path key value = [⟨scope.path, name, value⟩] := by
  cases h with
  | statement hkey hkind htop => exact ⟨_, rfl, rfl⟩
  | @declarations key entries hkey hkind htop hentries =>
      refine ⟨key, rfl, ?_⟩
      show (if IsFlat key then _ else leavesIn (scope.path ++ [key]) entries) = _
      rw [if_pos (isFlat_of_kind hkey hkind (by decide))]
  | @property key value set hkey hvalue hselector hset =>
      refine ⟨key, rfl, ?_⟩
      cases value with
      | map entries => cases hvalue
      | _ => rfl

section Walks

variable {S : Scope → Prop} {R : Leaf → Placement → Prop}

mutual

theorem forall₂_leavesAt (hvalid : ∀ scope, S scope → scope.Valid)
    (hopens : ∀ {scope key value inner}, S scope → Fits scope key value (.opens inner) → S inner)
    (hplaces : ∀ {scope key value placement}, S scope →
      Fits scope (.text key) value (.places placement) → R ⟨scope.path, key, value⟩ placement)
    {scope : Scope} (h : S scope) (key : Value) : ∀ (value : Value) (placements : List Placement),
      (walkEntry scope key value).result = .ok placements →
        List.Forall₂ R (leavesAt scope.path key value) placements
  | .map entries, placements, hwalk => by
      -- the walk goes into the block in the larger scope, where the invariant holds too
      rcases result_walkEntry_eq_ok (hvalid scope h) hwalk with
        ⟨inner, _, hblock, fits, hwalk⟩ | leaf
      · obtain rfl := Value.map.inj hblock
        rw [leavesAt_of_opens fits]
        exact forall₂_leavesIn hvalid hopens hplaces (hopens h fits) entries placements hwalk
      · obtain ⟨placement, fits, rfl⟩ := leaf
        obtain ⟨name, rfl, hleaf⟩ := leavesAt_of_places fits
        rw [hleaf]
        exact .cons (hplaces h fits) .nil
  | .null, placements, hwalk | .bool _, placements, hwalk | .scalar _, placements, hwalk
  | .list _, placements, hwalk | .tuple _, placements, hwalk => by
      rcases result_walkEntry_eq_ok (hvalid scope h) hwalk with ⟨_, _, hblock, _⟩ | leaf
      · cases hblock
      · obtain ⟨placement, fits, rfl⟩ := leaf
        obtain ⟨name, rfl, hleaf⟩ := leavesAt_of_places fits
        rw [hleaf]
        exact .cons (hplaces h fits) .nil

/-- **A walk makes one placement of each leaf, in order.**  What holds of
every leaf and its placement in scopes of some kind holds of all of them,
when blocks are opened in scopes of that kind only. -/
theorem forall₂_leavesIn (hvalid : ∀ scope, S scope → scope.Valid)
    (hopens : ∀ {scope key value inner}, S scope → Fits scope key value (.opens inner) → S inner)
    (hplaces : ∀ {scope key value placement}, S scope →
      Fits scope (.text key) value (.places placement) → R ⟨scope.path, key, value⟩ placement)
    {scope : Scope} (h : S scope) :
    ∀ (entries : List (Value × Value)) (placements : List Placement),
      (walk scope entries).result = .ok placements →
        List.Forall₂ R (leavesIn scope.path entries) placements
  | [], placements, hwalk => by
      obtain rfl := Except.ok.inj hwalk
      exact .nil
  | (key, value) :: rest, placements, hwalk => by
      obtain ⟨here, after, hhere, hafter, rfl⟩ := result_walk_cons_eq_ok hwalk
      have first := forall₂_leavesAt hvalid hopens hplaces h key value here hhere
      have others := forall₂_leavesIn hvalid hopens hplaces h rest after hafter
      exact List.rel_append first others

end

end Walks

/-- Each member of a list has a partner in a related list. -/
theorem exists_of_mem_forall₂ {α β : Type} {r : α → β → Prop} {as : List α} {bs : List β}
    (h : List.Forall₂ r as bs) {a : α} (hmem : a ∈ as) : ∃ b ∈ bs, r a b := by
  induction h with
  | nil => cases hmem
  | @cons first b _ _ related _ ih =>
      rcases List.mem_cons.mp hmem with rfl | hmem
      · exact ⟨b, List.mem_cons_self, related⟩
      · obtain ⟨other, hother, related'⟩ := ih hmem
        exact ⟨other, List.mem_cons_of_mem _ hother, related'⟩

theorem Fits.follows_of_opens {scope inner : Scope} (hscope : scope.Follows) {key value : Value}
    (h : Fits scope key value (.opens inner)) : inner.Follows := by
  cases h with
  | selector hkey => exact Scope.follows_below hscope hkey
  | group hkey hmerge => exact Scope.follows_under hscope hkey hmerge

/-- In a scope that follows its path a leaf makes the placement. -/
theorem Fits.makes_of_places {scope : Scope} (hscope : scope.Follows) {key : String}
    {value : Value} {placement : Placement}
    (h : Fits scope (.text key) value (.places placement)) :
    Leaf.Makes ⟨scope.path, key, value⟩ placement := by
  cases h with
  | statement hkey hkind htop => exact .statement hkey hkind
  | declarations hkey hkind htop hentries => exact .block hkey hkind hentries
  | property hkey hvalue hselector hset =>
      rw [← hscope.selector] at hselector ⊢
      exact .property hkey hscope.condition hselector hset

/-- **A walk makes the placements of the leaves, in order.** -/
theorem makes_walk {scope : Scope} (hscope : scope.Follows) (entries : List (Value × Value))
    (placements : List Placement) (h : (walk scope entries).result = .ok placements) :
    List.Forall₂ Leaf.Makes (leavesIn scope.path entries) placements :=
  forall₂_leavesIn (fun _ follows => follows.valid)
    (fun follows fits => fits.follows_of_opens follows)
    (fun follows fits => fits.makes_of_places follows) hscope entries placements h

/-- The sheet of a tree is what the placements of its leaves leave. -/
theorem exists_makes_of_flatten {tree : Value} {sheet : Sheet}
    (h : (flatten tree).result = .ok sheet) :
    ∃ placements, List.Forall₂ Leaf.Makes (leavesOf tree) placements
      ∧ sheet = Sheet.ofPlacements placements := by
  cases tree with
  | map entries =>
      obtain ⟨placements, hwalk, rfl⟩ := result_flatten_eq_ok_iff.mp h
      exact ⟨placements, makes_walk Scope.follows_root entries placements hwalk, rfl⟩
  | _ => cases h

end Stylesheet
