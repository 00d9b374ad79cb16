/-
  Stylesheet.Proofs.Wrapped
  ─────────────────────────
  **A TREE BELOW A SELECTOR.**

  A tree can be put below a selector as a whole.  Every selector of its sheet
  then has that selector and a space before it, and nothing else changes:
  grouping rules keep their keys, declarations their names and values, and
  everything its place.  No two selectors fall together, since what is put
  before them is the same for all.

  Only a tree with a flat rule, which would not be at the top any more, or
  with an empty key, which joins to nothing at the top, behaves otherwise.

  Main statements:
    * `Table.mapKeys_write` — a write to a table whose keys are renamed;
    * `Sheet.below_ofPlacements` — placements below a selector leave the
      sheet below that selector;
    * `result_walk_within` — a walk below a selector;
    * `flatten_below_selector` — a tree below a selector.
-/
import Stylesheet.Proofs.Meaning
import Stylesheet.Proofs.Nesting
import Stylesheet.Proofs.Revalued

namespace Stylesheet

open AtRule Condition

/-! ## §1. Tables with other keys. -/

namespace Table

variable {α β γ : Type}

/-- The entries with `f` applied to each key. -/
def mapKeys (f : α → γ) (inj : Function.Injective f) (t : Table α β) : Table γ β where
  entries := t.entries.map fun e => (f e.1, e.2)
  nodup := by
    have keys : (t.entries.map fun e => (f e.1, e.2)).map Prod.fst
        = (t.entries.map Prod.fst).map f := by
      rw [List.map_map, List.map_map]
      rfl
    rw [keys]
    exact t.nodup.map inj

variable [DecidableEq α] [DecidableEq γ]

/-- **A write to a table whose keys are renamed.** -/
theorem mapKeys_write (f : α → γ) (inj : Function.Injective f) (t : Table α β) (key : α)
    (w : Option β → β) :
    (t.write key w).mapKeys f inj = (t.mapKeys f inj).write (f key) w :=
  Table.ext (Entries.map_write w fun _ _ same => inj same)

end Table

/-! ## §2. Sheets below a selector. -/

/-- A selector below another one. -/
def selectorWithin (outer selector : String) : String :=
  outer ++ " " ++ selector

/-- A top-level key when the sheet is put below a selector: at-rules stay. -/
def keyWithin (outer key : String) : String :=
  if isKey key then key else selectorWithin outer key

theorem selectorWithin_injective (outer : String) : Function.Injective (selectorWithin outer) := by
  intro s t same
  exact String.append_right_inj (outer ++ " ") |>.mp same

/-- What is below a selector is a selector. -/
theorem isKey_selectorWithin {outer : String} (houter : isKey outer = false) (selector : String) :
    isKey (selectorWithin outer selector) = false := by
  rw [Bool.eq_false_iff, Ne, Property.isKey_iff] at houter ⊢
  rw [selectorWithin, String.toList_append, String.toList_append]
  cases hs : outer.toList with
  | nil =>
      -- the space is the first character then
      intro h
      cases h
  | cons c rest =>
      rw [hs] at houter
      exact houter

/-- Neither two selectors fall together nor a selector and an at-rule. -/
theorem keyWithin_injective {outer : String} (houter : isKey outer = false) :
    Function.Injective (keyWithin outer) := by
  intro s t same
  have apart : ∀ {key other : String}, isKey key = true → key ≠ selectorWithin outer other := by
    intro key other hkey h
    rw [h, isKey_selectorWithin houter] at hkey
    cases hkey
  unfold keyWithin at same
  split at same <;> split at same
  · exact same
  · next hs _ => exact absurd same (apart hs)
  · next _ ht => exact absurd same.symm (apart ht)
  · exact selectorWithin_injective outer same

/-- An item below a selector: the selectors of a grouping rule go below it. -/
def Item.below (outer : String) : Item → Item
  | .group rules => .group (rules.mapKeys (selectorWithin outer) (selectorWithin_injective outer))
  | item => item

/-- A placement below a selector. -/
def Placement.below (outer : String) : Placement → Placement
  | .flatRule key item => .flatRule key item
  | .declaration condition selector name value =>
      .declaration condition (selectorWithin outer selector) name value

namespace Sheet

/-- A sheet with all its selectors below one selector. -/
def below (outer : String) (houter : isKey outer = false) (sheet : Sheet) : Sheet :=
  (sheet.mapKeys (keyWithin outer) (keyWithin_injective houter)).mapValues (Item.below outer)

variable {outer : String} (houter : isKey outer = false)

/-- A write to a sheet below a selector. -/
theorem below_write {key key' : String} (hkey : keyWithin outer key = key')
    {w w' : Option Item → Item}
    (h : ∀ item?, (w item?).below outer = w' (item?.map (Item.below outer))) (sheet : Sheet) :
    below outer houter (sheet.write key w) = (sheet.below outer houter).write key' w' := by
  rw [below, Table.mapKeys_write, Table.mapValues_write h, hkey]
  rfl

theorem below_flatRule {key : String} {item : Item} (h : (Placement.flatRule key item).Regular)
    (sheet : Sheet) :
    (sheet.place (.flatRule key item)).below outer houter
      = (sheet.below outer houter).place (.flatRule key item) := by
  have same : item.below outer = item := by cases h <;> rfl
  have stays : keyWithin outer key = key := if_pos h.flatRule.1
  exact below_write houter stays (fun _ => same) sheet

/-- The declarations of a block stay the same. -/
theorem below_block (outer : String) (item? : Option Item) (name : String) (value : PropertyValue) :
    Item.below outer (.block (Declarations.set (item?.elim ∅ Item.declarations) name value))
      = .block (Declarations.set ((item?.map (Item.below outer)).elim ∅ Item.declarations) name
          value) := by
  cases item? with
  | none => rfl
  | some item => cases item <;> rfl

/-- In a grouping rule the write goes to the selector below. -/
theorem below_group (outer : String) (item? : Option Item) (selector : String)
    (w : Option Declarations → Declarations) :
    Item.below outer (.group ((item?.elim ∅ Item.rules).write selector w))
      = .group (((item?.map (Item.below outer)).elim ∅ Item.rules).write
          (selectorWithin outer selector) w) := by
  refine congrArg Item.group ?_
  rw [Table.mapKeys_write]
  cases item? with
  | none => rfl
  | some item => cases item <;> rfl

/-- **A regular placement below a selector.** -/
theorem below_place {placement : Placement} (h : placement.Regular) (sheet : Sheet) :
    (sheet.place placement).below outer houter
      = (sheet.below outer houter).place (placement.below outer) := by
  cases placement with
  | flatRule key item => exact below_flatRule houter h sheet
  | declaration condition selector name value =>
      cases h with
      | declaration hcondition hselector hne hname hkey =>
      cases condition with
      | none =>
          have goes : keyWithin outer selector = selectorWithin outer selector :=
            if_neg (by rw [hselector]; exact Bool.false_ne_true)
          exact below_write houter goes (fun item? => below_block outer item? name value) sheet
      | some c =>
          have stays : keyWithin outer c = c := if_pos (hcondition c rfl).1
          exact below_write houter stays (fun item? => below_group outer item? selector _) sheet

/-- **So do placements leave the sheet below it.** -/
theorem below_ofPlacements {placements : List Placement}
    (h : ∀ placement ∈ placements, placement.Regular) :
    (ofPlacements placements).below outer houter
      = ofPlacements (placements.map (Placement.below outer)) := by
  induction placements using List.reverseRecOn with
  | nil => rfl
  | append_singleton front placement ih =>
      have regular := h placement (by simp)
      have ih := ih fun p hp => h p (by simp [hp])
      rw [ofPlacements_concat, below_place houter regular, ih, List.map_append, List.map_singleton,
        ofPlacements_concat]

end Sheet

/-! ## §3. Walks below a selector. -/

mutual

/-- No key at any level is empty or a flat rule. -/
def Value.Nestable : Value → Prop
  | .map entries => NestableIn entries
  | _ => True

/-- No key of the entries, at any level, is empty or a flat rule. -/
def NestableIn : List (Value × Value) → Prop
  | [] => True
  | (key, value) :: rest =>
      (∀ name, key = .text name → name ≠ "" ∧ ¬IsFlat name) ∧ value.Nestable ∧ NestableIn rest

end

/-- The other scope is this one below a selector, paths apart. -/
structure Scope.Within (outer : String) (scope other : Scope) : Prop where
  /-- The selector is below the outer one, or is the outer one. -/
  selector : other.selector
    = if scope.selector = "" then outer else selectorWithin outer scope.selector
  /-- The conditions are the same. -/
  condition : other.condition = scope.condition

namespace Scope.Within

variable {outer : String} {scope other : Scope}

theorem selector_ne_empty (h : scope.Within outer other) (hne : outer ≠ "") :
    other.selector ≠ "" := by
  rw [h.selector]
  split
  · exact hne
  · simp [selectorWithin]

theorem below (h : scope.Within outer other) (hne : outer ≠ "") {key : String} (hkey : key ≠ "") :
    (scope.below key).Within outer (other.below key) where
  selector := by
    show selectorBelow other.selector key
      = if selectorBelow scope.selector key = "" then outer
        else selectorWithin outer (selectorBelow scope.selector key)
    rw [selectorBelow_of_ne (h.selector_ne_empty hne), h.selector]
    by_cases hs : scope.selector = ""
    · have first : selectorBelow "" key = key := rfl
      rw [if_pos hs, hs, first, if_neg hkey]
      rfl
    · have joined : scope.selector ++ " " ++ key ≠ "" := by simp [hkey]
      rw [if_neg hs, selectorBelow_of_ne hs, if_neg joined]
      simp only [selectorWithin, String.append_assoc]
  condition := h.condition

theorem under (h : scope.Within outer other) (key merged : String) :
    (scope.under key merged).Within outer (other.under key merged) where
  selector := h.selector
  condition := rfl

/-- A block is opened below the selector as well. -/
theorem fits_opens (h : scope.Within outer other) (hne : outer ≠ "") {name : String}
    (hname : name ≠ "") {value : Value} {inner : Scope}
    (fits : Fits scope (.text name) value (.opens inner)) :
    ∃ inner', Fits other (.text name) value (.opens inner') ∧ inner.Within outer inner' := by
  cases fits with
  | selector hkey => exact ⟨_, .selector hkey, h.below hne hname⟩
  | group hkey hmerge =>
      rw [← h.condition] at hmerge
      exact ⟨_, .group hkey hmerge, h.under _ _⟩

/-- A declaration is made below the selector. -/
theorem fits_places (h : scope.Within outer other) (hne : outer ≠ "") {name : String}
    (hname : ¬IsFlat name) {value : Value} {placement : Placement}
    (fits : Fits scope (.text name) value (.places placement)) :
    Fits other (.text name) value (.places (placement.below outer)) := by
  cases fits with
  | statement hkey hkind htop => exact absurd (isFlat_of_kind hkey hkind (by decide)) hname
  | declarations hkey hkind htop hentries =>
      exact absurd (isFlat_of_kind hkey hkind (by decide)) hname
  | property hkey hvalue hselector hset =>
      have selector := h.selector
      rw [if_neg hselector] at selector
      show Fits other _ _ (.places (.declaration scope.condition
        (selectorWithin outer scope.selector) _ _))
      rw [← selector, ← h.condition]
      exact .property hkey hvalue (h.selector_ne_empty hne) hset

end Scope.Within

/-- An entry that is accepted has a text for a key. -/
theorem Fits.exists_text {scope : Scope} {key value : Value} {visited : Visit}
    (h : Fits scope key value visited) : ∃ name, key = .text name := by
  cases h <;> exact ⟨_, rfl⟩

section Walks

variable {outer : String}

mutual

theorem result_walkEntry_within (hne : outer ≠ "") {scope other : Scope} (hscope : scope.Valid)
    (h : scope.Within outer other) {name : String} (hname : name ≠ "" ∧ ¬IsFlat name) :
    ∀ (value : Value) (placements : List Placement), value.Nestable →
      (walkEntry scope (.text name) value).result = .ok placements →
        (walkEntry other (.text name) value).result = .ok (placements.map (Placement.below outer))
  | .map entries, placements, nestable, hwalk => by
      rcases result_walkEntry_eq_ok hscope hwalk with ⟨inner, _, hblock, fits, hwalk⟩ | leaf
      · obtain rfl := Value.map.inj hblock
        obtain ⟨inner', fits', within⟩ := h.fits_opens hne hname.1 fits
        rw [result_walkEntry_of_opens fits']
        exact result_walk_within hne (Fits.valid_of_opens hscope fits) within entries placements
          nestable hwalk
      · obtain ⟨placement, fits, rfl⟩ := leaf
        exact result_walkEntry_of_places (h.fits_places hne hname.2 fits)
  | .null, placements, _, hwalk | .bool _, placements, _, hwalk | .scalar _, placements, _, hwalk
  | .list _, placements, _, hwalk | .tuple _, placements, _, hwalk => by
      rcases result_walkEntry_eq_ok hscope hwalk with ⟨_, _, hblock, _⟩ | leaf
      · cases hblock
      · obtain ⟨placement, fits, rfl⟩ := leaf
        exact result_walkEntry_of_places (h.fits_places hne hname.2 fits)

/-- **A walk below a selector** makes the same placements, below it. -/
theorem result_walk_within (hne : outer ≠ "") {scope other : Scope} (hscope : scope.Valid)
    (h : scope.Within outer other) :
    ∀ (entries : List (Value × Value)) (placements : List Placement), NestableIn entries →
      (walk scope entries).result = .ok placements →
        (walk other entries).result = .ok (placements.map (Placement.below outer))
  | [], placements, _, hwalk => by
      obtain rfl := Except.ok.inj hwalk
      rfl
  | (key, value) :: rest, placements, nestable, hwalk => by
      obtain ⟨here, after, hhere, hafter, rfl⟩ := result_walk_cons_eq_ok hwalk
      obtain ⟨name, rfl⟩ : ∃ name, key = .text name := by
        rcases result_walkEntry_eq_ok hscope hhere with ⟨_, _, _, fits, _⟩ | ⟨_, fits, _⟩
        · exact fits.exists_text
        · exact fits.exists_text
      rw [List.map_append]
      exact result_walk_cons
        (result_walkEntry_within hne hscope h (nestable.1 name rfl) value here nestable.2.1 hhere)
        (result_walk_within hne hscope h rest after nestable.2.2 hafter)

end

end Walks

/-! ## §4. Trees. -/

/-- The placements of a tree that is accepted are regular. -/
theorem regular_of_result_walk {entries : List (Value × Value)} {placements : List Placement}
    (h : (walk .root entries).result = .ok placements) :
    ∀ placement ∈ placements, placement.Regular :=
  regular_of_makes (makes_walk Scope.follows_root entries placements h)

/-- **A tree below a selector.**  When a tree is accepted and has neither an
empty key nor a flat rule, then it is accepted below any selector.  Its sheet
has each of its selectors below that one, at the top and in grouping rules,
and is otherwise the same. -/
theorem flatten_below_selector {outer : String} (houter : isKey outer = false) (hne : outer ≠ "")
    {tree : Value} (nestable : tree.Nestable) {sheet : Sheet}
    (h : (flatten tree).result = .ok sheet) :
    (flatten (.map [(.text outer, tree)])).result = .ok (sheet.below outer houter) := by
  cases tree with
  | map entries =>
      obtain ⟨placements, hwalk, rfl⟩ := result_flatten_eq_ok_iff.mp h
      rw [Sheet.below_ofPlacements houter (regular_of_result_walk hwalk)]
      refine result_flatten_eq_ok_iff.mpr ⟨_, ?_, rfl⟩
      have within : Scope.root.Within outer (Scope.root.below outer) := ⟨rfl, rfl⟩
      rw [result_walk_singleton]
      show (walkEntry .root (.text outer) (.map entries)).result = _
      rw [result_walkEntry_of_opens (.selector houter)]
      exact result_walk_within hne Scope.valid_root within entries placements nestable hwalk
  | _ => cases h

/-- A tree with selectors at the top and below grouping rules. -/
def twoLevels : Value :=
  .map [("a", .map [("color", .list ["red", "blue"]), ("b", .map [("top", "1px")])]),
    ("@media print", .map [("a", .map [("@media (color)", .map [("zIndex", .scalar (.int 1))]),
      ("color", "black")])]),
    ("a b", .map [("color", "green")])]

theorem flatten_below_selector_twoLevels :
    ∃ sheet, (flatten twoLevels).result = .ok sheet
      ∧ (flatten (.map [("main", twoLevels)])).result = .ok (sheet.below "main" (by decide)) := by
  have nestable : twoLevels.Nestable := by
    simp only [twoLevels, Value.Nestable, NestableIn, Value.text, Value.scalar.injEq,
      Scalar.text.injEq, forall_eq', and_true]
    decide +kernel
  obtain ⟨sheet, accepted⟩ := Traced.exists_result_of_isSome (x := flatten twoLevels)
    (by decide +kernel)
  exact ⟨sheet, accepted, flatten_below_selector (by decide) (by decide) nestable accepted⟩

end Stylesheet
