/-
  Stylesheet.Proofs.TopLevel
  ──────────────────────────
  **WHERE A FLAT RULE MAY STAND.**

  A walk does not count levels.  It takes an entry for one of the top level
  when no selector and no condition have been collected above it, and an
  empty key adds nothing to a selector that is empty.  So a flat rule fails
  below every key but the empty one, and below empty keys alone it is placed
  as if it stood in the root itself, where it may take the place of another.

  Main statements:
    * `tracksTop_of_opens` — the top is where all keys above are empty, and
      opening a block keeps this true;
    * `onlyEmpty_of_walk` — a walk that succeeds met flat rules there only;
    * `told_walk_emptyKey` — the block of an empty key at the top is read as
      if its entries stood in its place;
    * `flatten_flatRules_top` — flat rules of trees.
-/
import Mathlib.Data.List.Pairwise
import Stylesheet.Proofs.Meaning
import Stylesheet.Proofs.Nesting
import Stylesheet.Value.Mapping

namespace Stylesheet

open AtRule Condition

/-! ## §1. The top and the keys above. -/

namespace Scope

theorem selectorBelow_eq_empty_iff {outer inner : String} :
    selectorBelow outer inner = "" ↔ outer = "" ∧ inner = "" := by
  by_cases houter : outer = ""
  · subst houter
    show inner = "" ↔ _
    simp
  · rw [selectorBelow_of_ne houter]
    simp [houter]

/-- A scope is taken for the top just when all keys above are empty. -/
def TracksTop (scope : Scope) : Prop :=
  scope.isTop = true ↔ ∀ key ∈ scope.path, key = ""

theorem tracksTop_root : root.TracksTop := by
  constructor
  · intro _ key hmem
    cases hmem
  · intro _
    rfl

theorem tracksTop_below {scope : Scope} (h : scope.TracksTop) (key : String) :
    (scope.below key).TracksTop := by
  have above : scope.isTop = true ↔ ∀ k ∈ scope.path, k = "" := h
  show (scope.below key).isTop = true ↔ ∀ k ∈ scope.path ++ [key], k = ""
  rw [List.forall_mem_append, List.forall_mem_singleton, ← above, isTop_iff, isTop_iff]
  show selectorBelow scope.selector key = "" ∧ scope.condition = none ↔ _
  rw [selectorBelow_eq_empty_iff, and_right_comm]

theorem tracksTop_under (scope : Scope) {key : String} (hkey : isKey key = true) (merged : String) :
    (scope.under key merged).TracksTop := by
  constructor
  · intro top
    cases (isTop_iff.mp top).2
  · intro empty
    -- the key of a rule begins with an `@`, so it is not empty
    have none : key = "" := empty key (List.mem_append_right _ List.mem_cons_self)
    subst none
    cases hkey

end Scope

/-- **Opening a block keeps track of the top.** -/
theorem Fits.tracksTop_of_opens {scope inner : Scope} (h : scope.TracksTop) {key value : Value}
    (fits : Fits scope key value (.opens inner)) : inner.TracksTop := by
  cases fits with
  | selector hkey => exact Scope.tracksTop_below h _
  | group hkey hmerge => exact Scope.tracksTop_under scope hkey.1 _

/-! ## §2. Flat rules that a walk meets. -/

/-- No key above a leaf, or only empty ones. -/
def Leaf.OnlyEmpty (leaf : Leaf) : Prop := ∀ key ∈ leaf.path, key = ""

instance (leaf : Leaf) : Decidable leaf.OnlyEmpty :=
  inferInstanceAs (Decidable (∀ key ∈ leaf.path, key = ""))

/-- A flat rule that is placed is taken for one at the top. -/
theorem Fits.onlyEmpty_of_places {scope : Scope} (h : scope.TracksTop) {key : String}
    {value : Value} {placement : Placement}
    (fits : Fits scope (.text key) value (.places placement)) (flat : IsFlat key) :
    Leaf.OnlyEmpty ⟨scope.path, key, value⟩ := by
  cases fits with
  | statement hkey hkind htop => exact h.mp htop
  | declarations hkey hkind htop hentries => exact h.mp htop
  | property hkey hvalue hselector hset => exact absurd flat (not_isFlat_of_isKey hkey)

/-- **A walk that succeeds met flat rules below empty keys only.** -/
theorem onlyEmpty_of_walk {scope : Scope} (hscope : scope.Valid) (h : scope.TracksTop)
    {entries : List (Value × Value)} {placements : List Placement}
    (hwalk : (walk scope entries).result = .ok placements) :
    ∀ leaf ∈ leavesIn scope.path entries, IsFlat leaf.key → leaf.OnlyEmpty := by
  have all : List.Forall₂ (fun leaf _ => IsFlat leaf.key → leaf.OnlyEmpty)
      (leavesIn scope.path entries) placements :=
    forall₂_leavesIn (S := fun scope => scope.Valid ∧ scope.TracksTop) (fun scope h => h.1)
      (fun h fits => ⟨fits.valid_of_opens h.1, fits.tracksTop_of_opens h.2⟩)
      (fun h fits => fits.onlyEmpty_of_places h.2) ⟨hscope, h⟩ entries placements hwalk
  intro leaf hmem
  obtain ⟨_, -, empty⟩ := exists_of_mem_forall₂ all hmem
  exact empty

/-! ## §3. Flat rules of the root. -/

mutual

theorem length_path_of_mem_leavesAt (path : List String) (key : Value) :
    ∀ value : Value, ∀ leaf ∈ leavesAt path key value, path.length ≤ leaf.path.length
  | .map entries => by
      intro leaf hmem
      unfold leavesAt at hmem
      split at hmem
      · cases hmem
      · split at hmem
        · rw [List.mem_singleton.mp hmem]
        · next name _ _ =>
          have below := length_path_of_mem_leavesIn (path ++ [name]) entries leaf hmem
          rw [List.length_append] at below
          omega
  | .null | .bool _ | .scalar _ | .list _ | .tuple _ => by
      intro leaf hmem
      obtain ⟨name, -, rfl⟩ := Option.map_eq_some_iff.mp (Option.mem_toList.mp hmem)
      exact Nat.le_refl _

/-- No leaf of a block stands above the block. -/
theorem length_path_of_mem_leavesIn (path : List String) :
    ∀ entries : List (Value × Value), ∀ leaf ∈ leavesIn path entries,
      path.length ≤ leaf.path.length
  | [] => by
      intro leaf hmem
      cases hmem
  | (key, value) :: rest => by
      intro leaf hmem
      rw [leavesIn, List.mem_append] at hmem
      rcases hmem with hmem | hmem
      · exact length_path_of_mem_leavesAt path key value leaf hmem
      · exact length_path_of_mem_leavesIn path rest leaf hmem

end

/-- A leaf that stands right at the path is the entry itself. -/
theorem eq_of_mem_leavesAt {path : List String} {key value : Value} {leaf : Leaf}
    (hmem : leaf ∈ leavesAt path key value) (hpath : leaf.path = path) :
    (key, value) = (.text leaf.key, leaf.value) := by
  cases value with
  | map entries =>
      unfold leavesAt at hmem
      split at hmem
      · cases hmem
      · next name hname =>
        obtain rfl := Value.text?_eq_some_iff.mp hname
        split at hmem
        · rw [List.mem_singleton.mp hmem]
        · -- below the key the path is longer
          have below := length_path_of_mem_leavesIn _ _ leaf hmem
          rw [hpath, List.length_append, List.length_singleton] at below
          omega
  | _ =>
      obtain ⟨name, hname, rfl⟩ := Option.map_eq_some_iff.mp (Option.mem_toList.mp hmem)
      rw [Value.text?_eq_some_iff.mp hname]

theorem mem_of_mem_leavesIn {path : List String} {entries : List (Value × Value)} {leaf : Leaf}
    (hmem : leaf ∈ leavesIn path entries) (hpath : leaf.path = path) :
    (.text leaf.key, leaf.value) ∈ entries := by
  induction entries with
  | nil => cases hmem
  | cons e rest ih =>
      obtain ⟨key, value⟩ := e
      rw [leavesIn, List.mem_append] at hmem
      rcases hmem with hmem | hmem
      · rw [eq_of_mem_leavesAt hmem hpath]
        exact List.mem_cons_self
      · exact List.mem_cons_of_mem _ (ih hmem)

/-- A flat rule is a leaf, whatever its value. -/
theorem mem_leavesIn_of_isFlat (path : List String) {key : String} {value : Value}
    {entries : List (Value × Value)} (hmem : (.text key, value) ∈ entries) (flat : IsFlat key) :
    ⟨path, key, value⟩ ∈ leavesIn path entries := by
  induction entries with
  | nil => cases hmem
  | cons e rest ih =>
      rw [leavesIn, List.mem_append]
      rcases List.mem_cons.mp hmem with rfl | hmem
      · left
        cases value with
        | map entries =>
            show _ ∈ (if IsFlat key then _ else leavesIn (path ++ [key]) entries)
            rw [if_pos flat]
            exact List.mem_cons_self
        | _ => exact List.mem_cons_self
      · exact Or.inr (ih hmem)

/-- Entries with distinct keys have one value at a text. -/
theorem Value.DistinctKeys.value_unique {entries : List (Value × Value)}
    (distinct : Value.DistinctKeys entries) {key : String} {value other : Value}
    (h : (.text key, value) ∈ entries) (hother : (.text key, other) ∈ entries) : value = other := by
  have apart : entries.Pairwise fun a b => a.1.sameKey b.1 = false := List.pairwise_map.mp distinct
  have symmetric : Std.Symm fun a b : Value × Value => a.1.sameKey b.1 = false :=
    ⟨fun a b hab => (sameKey_comm b.1 a.1).trans hab⟩
  by_contra hne
  have new := apart.forall h hother fun same => hne (congrArg Prod.snd same)
  rw [sameKey_text, decide_eq_false_iff_not] at new
  exact new rfl

/-- **A flat rule of the root that stands nowhere else keeps its value.** -/
theorem get?_of_isFlat {entries : List (Value × Value)} (distinct : Value.DistinctKeys entries)
    {sheet : Sheet} (accepted : (flatten (.map entries)).result = .ok sheet) {key : String}
    {value : Value} (hmem : (.text key, value) ∈ entries) (flat : IsFlat key)
    (alone : ∀ leaf ∈ leavesIn [] entries, leaf.key = key → leaf.path = []) :
    ∃ item, Leaf.item? ⟨[], key, value⟩ = some item ∧ sheet.get? key = some item := by
  obtain ⟨placements, makes, rfl⟩ := exists_makes_of_flatten accepted
  replace makes : List.Forall₂ Leaf.Makes (leavesIn [] entries) placements := makes
  have here := mem_leavesIn_of_isFlat [] hmem flat
  have placed : ∃ item, Leaf.item? ⟨[], key, value⟩ = some item := by
    obtain ⟨placement, -, made⟩ := exists_placement_of_makes makes here
    cases made with
    | @statement _ _ value _ hkind => exact ⟨.statement value, by simp only [Leaf.item?, hkind]⟩
    | @block _ _ declarations _ hkind _ =>
        exact ⟨.block (.ofList (declarationsIn declarations)), by simp only [Leaf.item?, hkind]⟩
    | property hkey hcondition hselector hset => exact absurd flat (not_isFlat_of_isKey hkey)
  obtain ⟨item, hitem⟩ := placed
  refine ⟨item, hitem, ?_⟩
  -- every leaf with this key is this one, so all that is set at the key is its item
  have only : ∀ set ∈ (leavesIn [] entries).filterMap (Leaf.flat? key), set = item := by
    intro set hset
    obtain ⟨leaf, hleaf, hflat⟩ := List.mem_filterMap.mp hset
    rw [Leaf.flat?, Option.ite_none_right_eq_some] at hflat
    obtain ⟨⟨-, rfl⟩, hleafItem⟩ := hflat
    have hpath := alone leaf hleaf rfl
    have hvalue := distinct.value_unique (mem_of_mem_leavesIn hleaf hpath) hmem
    have same : leaf = ⟨[], leaf.key, value⟩ := by rw [← hpath, ← hvalue]
    rw [same] at hleafItem
    exact Option.some.inj (hleafItem.symm.trans hitem)
  have set : item ∈ (leavesIn [] entries).filterMap (Leaf.flat? key) := by
    refine List.mem_filterMap.mpr ⟨_, here, ?_⟩
    rw [Leaf.flat?, if_pos ⟨flat, rfl⟩, hitem]
  rw [Sheet.get?_ofPlacements (regular_of_makes makes) flat.1 flat.2,
    filterMap_of_makes (fun _ _ made => made.flat? key) makes,
    List.getLast?_eq_some_getLast (List.ne_nil_of_mem set)]
  exact congrArg some (only _ (List.getLast_mem _))

/-! ## §4. Empty keys at the top. -/

/-- **The block of an empty key at the top is read as if its entries stood in
its place**, but for the places of faults. -/
theorem told_walk_emptyKey (front block back : List (Value × Value)) :
    (walk .root (front ++ (.text "", .map block) :: back)).told LocatedFault.fault
      = (walk .root (front ++ (block ++ back))).told LocatedFault.fault := by
  have alike : Scope.root.Alike (Scope.root.below "") := ⟨rfl, rfl⟩
  have opened : (walkEntry .root (.text "") (.map block)).told LocatedFault.fault
      = (walk .root block).told LocatedFault.fault := by
    rw [told_walkEntry_of_opens _ (.selector (by decide))]
    exact fault_walk_of_alike Scope.valid_root alike block
  rw [told_walk_append, told_walk_append, told_walk_cons, told_walk_append, opened]

/-! ## §5. Trees. -/

/-- **Flat rules of trees.**  A tree with a flat rule in a style block below
a key that is not empty fails, so that in a tree that is accepted flat rules
stand in the root, or below empty keys alone.  One that stands in the root
has its value in the sheet, unless its key stands below empty keys as well.
For below an empty key of the root it would be placed as if it stood in the
root: the block of such a key comes to the same as its entries. -/
theorem flatten_flatRules_top (entries : List (Value × Value)) :
    ((∃ leaf ∈ leavesIn [] entries, IsFlat leaf.key ∧ ∃ key ∈ leaf.path, key ≠ "") →
        ∃ error, (flatten (.map entries)).result = .error error)
    ∧ (∀ sheet, (flatten (.map entries)).result = .ok sheet →
        (∀ leaf ∈ leavesIn [] entries, IsFlat leaf.key → leaf.OnlyEmpty)
        ∧ (Value.DistinctKeys entries →
          ∀ key value, (.text key, value) ∈ entries → IsFlat key →
            (∀ leaf ∈ leavesIn [] entries, leaf.key = key → leaf.OnlyEmpty → leaf.path = []) →
              ∃ item, Leaf.item? ⟨[], key, value⟩ = some item ∧ sheet.get? key = some item))
    ∧ ∀ front block back, entries = front ++ (.text "", .map block) :: back →
        ∀ sheet, (flatten (.map entries)).result = .ok sheet
          ↔ (flatten (.map (front ++ (block ++ back)))).result = .ok sheet := by
  have met : ∀ sheet, (flatten (.map entries)).result = .ok sheet →
      ∀ leaf ∈ leavesIn [] entries, IsFlat leaf.key → leaf.OnlyEmpty := by
    intro sheet accepted
    obtain ⟨placements, hwalk, -⟩ := result_flatten_eq_ok_iff.mp accepted
    exact onlyEmpty_of_walk Scope.valid_root Scope.tracksTop_root hwalk
  refine ⟨?_, fun sheet accepted => ⟨met sheet accepted, ?_⟩, ?_⟩
  · intro given
    obtain ⟨leaf, hmem, flat, key, hkey, hne⟩ := given
    cases h : (flatten (.map entries)).result with
    | error error => exact ⟨error, rfl⟩
    | ok sheet => exact absurd (met sheet h leaf hmem flat key hkey) hne
  · intro distinct key value hmem flat alone
    refine get?_of_isFlat distinct accepted hmem flat fun leaf hleaf hkey => ?_
    subst hkey
    exact alone leaf hleaf rfl (met sheet accepted leaf hleaf flat)
  · intro front block back same sheet
    rw [← Traced.told_eq_ok_iff LocatedFault.fault, ← Traced.told_eq_ok_iff LocatedFault.fault,
      told_flatten_map, told_flatten_map, same, told_walk_emptyKey]

/-- A flat rule with two keys above, one of which is not empty. -/
def importBelow : List (Value × Value) :=
  [("", .map [("nav", .map [("@import", "x.css")])])]

/-- A flat rule before a selector that stands below an empty key. -/
def charsetFirst : List (Value × Value) :=
  [("@charset", "utf-8"), ("", .map [("a", .map [("color", "red")])])]

theorem flatten_flatRules_top_charsetFirst :
    (∃ error, (flatten (.map importBelow)).result = .error error)
    ∧ ∃ sheet, (flatten (.map charsetFirst)).result = .ok sheet
      ∧ (∀ leaf ∈ leavesIn [] charsetFirst, IsFlat leaf.key → leaf.OnlyEmpty)
      ∧ Value.DistinctKeys charsetFirst
      ∧ (∃ item, Leaf.item? ⟨[], "@charset", "utf-8"⟩ = some item
        ∧ sheet.get? "@charset" = some item)
      ∧ (flatten (.map [("@charset", "utf-8"), ("a", .map [("color", "red")])])).result
        = .ok sheet := by
  have below := (flatten_flatRules_top importBelow).1
    ⟨⟨["", "nav"], "@import", "x.css"⟩, .head _, by decide, "nav", by decide, by decide⟩
  have accepted : (flatten (.map charsetFirst)).result = .ok _ := rfl
  have distinct : Value.DistinctKeys charsetFirst := by decide
  obtain ⟨-, met, opened⟩ := flatten_flatRules_top charsetFirst
  obtain ⟨empty, kept⟩ := met _ accepted
  have alone : ∀ leaf ∈ leavesIn [] charsetFirst,
      leaf.key = "@charset" → leaf.OnlyEmpty → leaf.path = [] := by decide
  exact ⟨below, _, accepted, empty, distinct,
    kept distinct "@charset" "utf-8" (.head _) (by decide) alone,
    (opened [("@charset", "utf-8")] _ [] rfl _).mp accepted⟩

/-- A flat rule in the root and again below an empty key. -/
def charsetTwice : List (Value × Value) :=
  [("@charset", "utf-8"), ("", .map [("@charset", "latin1")])]

/-- The one below is accepted, and takes the place of the one in the root. -/
theorem flatten_charsetTwice_overwritten :
    IsFlat "@charset"
      ∧ ⟨[""], "@charset", "latin1"⟩ ∈ leavesIn [] charsetTwice
      ∧ ∃ sheet, (flatten (.map charsetTwice)).result = .ok sheet
        ∧ sheet.entries = [("@charset", .statement (.text "latin1"))] := by
  have accepted : (flatten (.map charsetTwice)).result = .ok _ := rfl
  exact ⟨by decide, .tail _ (.head _), _, accepted, by decide⟩

end Stylesheet
