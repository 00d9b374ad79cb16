/-
  Stylesheet.Proofs.Separation
  ────────────────────────────
  **DIRECT AND GROUPED DECLARATIONS STAY APART.**

  A tree has two parts: what stands below grouping rules, and what does not.
  The two are written to the same sheet in one walk, maybe to the same
  selectors and properties, and still each part alone leaves what it leaves
  in the whole.  For the keys that it writes to are of its own kind: merged
  keys are grouping rules, selectors and flat rules are not.

  Main statements:
    * `Sheet.filterKeys_ofPlacements` — what stands at some of the keys is
      left by the placements at these keys;
    * `result_walk_partIn` — a part of a block makes the placements of its
      kind, in their order;
    * `flatten_parts` — both parts of a tree.
-/
import Stylesheet.Proofs.Leaf
import Stylesheet.Proofs.Outcome

namespace Stylesheet

open AtRule Condition

/-! ## §1. Placements at some of the keys. -/

section Keys

variable {α β : Type} [DecidableEq α]

/-- A write is seen among the keys that pass when its own does. -/
theorem Table.filterKeys_write (p : α → Bool) (t : Table α β) (key : α) (f : Option β → β) :
    (t.write key f).filterKeys p
      = if p key then (t.filterKeys p).write key f else t.filterKeys p := by
  cases h : p key with
  | true => exact Table.ext (Entries.filter_write_of_pos h f t.entries)
  | false => exact Table.ext (Entries.filter_write_of_neg h f t.entries)

end Keys

namespace Sheet

variable (p : String → Bool)

theorem filterKeys_place (sheet : Sheet) (placement : Placement) :
    (sheet.place placement).filterKeys p
      = if p placement.top then place (sheet.filterKeys p) placement else sheet.filterKeys p := by
  cases placement with
  | flatRule key item => exact Table.filterKeys_write p sheet key _
  | declaration condition selector name value =>
      cases condition with
      | none => exact Table.filterKeys_write p sheet selector _
      | some c => exact Table.filterKeys_write p sheet c _

/-- **What stands at some of the keys is left by the placements at these
keys.** -/
theorem filterKeys_ofPlacements (placements : List Placement) :
    (ofPlacements placements).filterKeys p
      = ofPlacements (placements.filter fun placement => p placement.top) := by
  induction placements using List.reverseRecOn with
  | nil => rfl
  | append_singleton front placement ih =>
      rw [ofPlacements_concat, filterKeys_place, ih, List.filter_append, List.filter_singleton]
      cases p placement.top with
      | true => exact (ofPlacements_concat _ placement).symm
      | false => exact congrArg ofPlacements (List.append_nil _).symm

end Sheet

/-! ## §2. Walks. -/

/-- Entries in two lists are walked one list after the other. -/
theorem result_walk_append {scope : Scope} {first others : List (Value × Value)}
    {here after : List Placement} (hfirst : (walk scope first).result = .ok here)
    (hothers : (walk scope others).result = .ok after) :
    (walk scope (first ++ others)).result = .ok (here ++ after) := by
  induction first generalizing here with
  | nil =>
      obtain rfl := Except.ok.inj hfirst
      exact hothers
  | cons e rest ih =>
      obtain ⟨front, back, hfront, hback, rfl⟩ := result_walk_cons_eq_ok hfirst
      rw [List.append_assoc]
      exact result_walk_cons hfront (ih hback)

/-- Below a grouping rule every placement is made at a grouping rule. -/
theorem isGroup_top_of_result_walk {scope : Scope} (hscope : scope.Valid)
    (hcondition : scope.condition ≠ none) {entries : List (Value × Value)}
    {placements : List Placement} (h : (walk scope entries).result = .ok placements) :
    ∀ placement ∈ placements, IsGroup placement.top := by
  have all : List.Forall₂ (fun _ placement => IsGroup placement.top)
      (leavesIn scope.path entries) placements := by
    refine forall₂_leavesIn (S := fun scope => scope.Valid ∧ scope.condition ≠ none)
      (fun scope h => h.1) ?_ ?_ ⟨hscope, hcondition⟩ entries placements h
    · intro scope key value inner h fits
      refine ⟨Fits.valid_of_opens h.1 fits, ?_⟩
      cases fits with
      | selector hkey => exact h.2
      | group hkey hmerge => exact Option.some_ne_none _
    · intro scope key value placement h fits
      cases fits with
      | statement hkey hkind htop => exact absurd (Scope.isTop_iff.mp htop).2 h.2
      | declarations hkey hkind htop hentries => exact absurd (Scope.isTop_iff.mp htop).2 h.2
      | property hkey hvalue hselector hset =>
          obtain ⟨c, hc⟩ := Option.ne_none_iff_exists'.mp h.2
          rw [hc]
          exact h.1.condition c hc
  intro placement hmem
  obtain ⟨_, -, group⟩ := exists_of_mem_forall₂ all.flip hmem
  exact group

/-- Outside of grouping rules no placement is made at one. -/
theorem Fits.not_isGroup_top {scope : Scope} (hscope : scope.Valid) (hnone : scope.condition = none)
    {key value : Value} {placement : Placement} (h : Fits scope key value (.places placement)) :
    ¬IsGroup placement.top := by
  cases h with
  | statement hkey hkind htop => exact not_isGroup_of_kind hkind (by decide)
  | declarations hkey hkind htop hentries => exact not_isGroup_of_kind hkind (by decide)
  | property hkey hvalue hselector hset =>
      rw [hnone]
      exact not_isGroup_of_isKey hscope.selector

/-! ## §3. The two parts of a tree. -/

mutual

/-- What an entry has below grouping rules, if `grouped` is set, or else what
it has outside of them.  A grouping rule is in the one part with all it
holds, a flat rule or a property in the other; a selector is in both, with
what each has of its block.  The block of a flat rule holds declarations,
whatever their names, and is not divided.  What has no text for a key is in
no tree that is accepted, and stays. -/
def partAt (grouped : Bool) (key : Value) : Value → List (Value × Value)
  | .map entries =>
      match key.text? with
      | none => [(key, .map entries)]
      | some name =>
          if isKey name then if decide (IsGroup name) = grouped then [(key, .map entries)] else []
          else [(key, .map (partIn grouped entries))]
  | value =>
      match key.text? with
      | none => [(key, value)]
      | some name => if decide (IsGroup name) = grouped then [(key, value)] else []

/-- What entries have below grouping rules, or outside of them. -/
def partIn (grouped : Bool) : List (Value × Value) → List (Value × Value)
  | [] => []
  | (key, value) :: rest => partAt grouped key value ++ partIn grouped rest

end

namespace Value

/-- A tree without its grouping rules, at every level. -/
def withoutGroups : Value → Value
  | .map entries => .map (partIn false entries)
  | tree => tree

/-- A tree without the flat rules and the properties that no grouping rule
stands above. -/
def onlyGroups : Value → Value
  | .map entries => .map (partIn true entries)
  | tree => tree

end Value

/-! ## §4. Walks over a part. -/

/-- The part of the placements that are made at grouping rules, or of those
that are not. -/
def placementsAt (grouped : Bool) (placements : List Placement) : List Placement :=
  placements.filter fun placement => decide (IsGroup placement.top) == grouped

theorem placementsAt_append (grouped : Bool) (here after : List Placement) :
    placementsAt grouped (here ++ after)
      = placementsAt grouped here ++ placementsAt grouped after :=
  List.filter_append here after

/-- Placements at grouping rules are all in the one part, and none in the
other. -/
theorem placementsAt_of_isGroup {placements : List Placement}
    (h : ∀ placement ∈ placements, IsGroup placement.top) (grouped : Bool) :
    placementsAt grouped placements = if grouped then placements else [] := by
  rw [placementsAt]
  cases grouped with
  | true =>
      rw [if_pos rfl, List.filter_eq_self]
      intro placement hmem
      simp [h placement hmem]
  | false =>
      rw [if_neg Bool.false_ne_true, List.filter_eq_nil_iff]
      intro placement hmem
      simp [h placement hmem]

theorem placementsAt_singleton_of_not_isGroup {placement : Placement}
    (h : ¬IsGroup placement.top) (grouped : Bool) :
    placementsAt grouped [placement] = if grouped then [] else [placement] := by
  cases grouped <;> simp [placementsAt, h]

section Parts

variable {scope : Scope} {key value : Value} {entries : List (Value × Value)} (grouped : Bool)

/-- An entry that makes a placement is in the part outside of grouping rules. -/
theorem partAt_of_places {placement : Placement} (h : Fits scope key value (.places placement)) :
    partAt grouped key value = if grouped then [] else [(key, value)] := by
  have split : ∀ {name : String} {value : Value}, ¬IsGroup name →
      (if decide (IsGroup name) = grouped then [(Value.text name, value)] else [])
        = if grouped then [] else [(Value.text name, value)] := by
    intro name value hname
    cases grouped <;> simp [hname]
  cases h with
  | statement hkey hkind htop => exact split (not_isGroup_of_kind hkind (by decide))
  | @declarations name entries hkey hkind htop hentries =>
      show (if isKey name then _ else _) = _
      rw [if_pos hkey]
      exact split (not_isGroup_of_kind hkind (by decide))
  | property hkey hvalue hselector hset =>
      cases value with
      | map entries => cases hvalue
      | _ => exact split (not_isGroup_of_isKey hkey)

theorem partAt_selector {name : String} (hkey : isKey name = false) :
    partAt grouped (.text name) (.map entries) = [(.text name, .map (partIn grouped entries))] := by
  show (if isKey name then _ else _) = _
  rw [hkey]
  rfl

theorem partAt_group {name : String} (hkey : IsGroup name) :
    partAt grouped (.text name) (.map entries)
      = if grouped then [(.text name, .map entries)] else [] := by
  show (if isKey name then _ else _) = _
  rw [if_pos hkey.1]
  cases grouped <;> simp [hkey]

/-- A part of an entry that opens no block. -/
theorem result_walk_partAt_of_places (hscope : scope.Valid) (hnone : scope.condition = none)
    {placement : Placement} (h : Fits scope key value (.places placement)) :
    (walk scope (partAt grouped key value)).result = .ok (placementsAt grouped [placement]) := by
  rw [partAt_of_places grouped h,
    placementsAt_singleton_of_not_isGroup (h.not_isGroup_top hscope hnone)]
  cases grouped with
  | true => rfl
  | false =>
      show (walk scope [(key, value)]).result = .ok [placement]
      rw [result_walk_singleton]
      exact result_walkEntry_of_places h

end Parts

mutual

theorem result_walk_partAt (grouped : Bool) {scope : Scope} (hscope : scope.Valid)
    (hnone : scope.condition = none) (key : Value) :
    ∀ (value : Value) (placements : List Placement),
      (walkEntry scope key value).result = .ok placements →
        (walk scope (partAt grouped key value)).result = .ok (placementsAt grouped placements)
  | .map entries, placements, h => by
      rcases result_walkEntry_eq_ok hscope h with ⟨inner, _, hblock, fits, hwalk⟩ | leaf
      · obtain rfl := Value.map.inj hblock
        have valid := Fits.valid_of_opens hscope fits
        cases fits with
        | @selector name _ hkey =>
            have below := result_walk_partIn grouped valid hnone entries placements hwalk
            rw [partAt_selector grouped hkey, result_walk_singleton,
              result_walkEntry_of_opens (.selector hkey), below]
        | @group name _ merged hkey hmerge =>
            -- all that stands below the rule is of one kind, so the rule goes or stays whole
            have all := isGroup_top_of_result_walk valid (Option.some_ne_none merged) hwalk
            rw [partAt_group grouped hkey, placementsAt_of_isGroup all]
            cases grouped with
            | true =>
                show (walk scope [(.text name, .map entries)]).result = .ok placements
                rw [result_walk_singleton, result_walkEntry_of_opens (.group hkey hmerge), hwalk]
            | false => rfl
      · obtain ⟨placement, fits, rfl⟩ := leaf
        exact result_walk_partAt_of_places grouped hscope hnone fits
  | .null, placements, h | .bool _, placements, h | .scalar _, placements, h
  | .list _, placements, h | .tuple _, placements, h => by
      rcases result_walkEntry_eq_ok hscope h with ⟨_, _, hblock, _⟩ | leaf
      · cases hblock
      · obtain ⟨placement, fits, rfl⟩ := leaf
        exact result_walk_partAt_of_places grouped hscope hnone fits

/-- **A part of a block makes the placements of its kind**, in their order. -/
theorem result_walk_partIn (grouped : Bool) {scope : Scope} (hscope : scope.Valid)
    (hnone : scope.condition = none) :
    ∀ (entries : List (Value × Value)) (placements : List Placement),
      (walk scope entries).result = .ok placements →
        (walk scope (partIn grouped entries)).result = .ok (placementsAt grouped placements)
  | [], placements, h => by
      obtain rfl := Except.ok.inj h
      rfl
  | (key, value) :: rest, placements, h => by
      obtain ⟨here, after, hhere, hafter, rfl⟩ := result_walk_cons_eq_ok h
      rw [partIn, placementsAt_append]
      exact result_walk_append (result_walk_partAt grouped hscope hnone key value here hhere)
        (result_walk_partIn grouped hscope hnone rest after hafter)

end

/-! ## §5. Trees. -/

theorem result_flatten_partIn (grouped : Bool) {entries : List (Value × Value)} {sheet : Sheet}
    (h : (flatten (.map entries)).result = .ok sheet) :
    (flatten (.map (partIn grouped entries))).result
      = .ok (sheet.filterKeys fun key => decide (IsGroup key) == grouped) := by
  obtain ⟨placements, hwalk, rfl⟩ := result_flatten_eq_ok_iff.mp h
  rw [Sheet.filterKeys_ofPlacements]
  exact result_flatten_eq_ok_iff.mpr
    ⟨_, result_walk_partIn grouped Scope.valid_root rfl entries placements hwalk, rfl⟩

/-- **Direct and grouped declarations stay apart.**  Of a tree that is
accepted both parts are accepted.  Without its grouping rules the tree leaves
what stands in its sheet at other keys, and without what no grouping rule
stands above it leaves what stands there at grouping rules: the same values,
in the same order. -/
theorem flatten_parts {tree : Value} {sheet : Sheet} (h : (flatten tree).result = .ok sheet) :
    (flatten tree.withoutGroups).result = .ok (sheet.filterKeys fun key => !decide (IsGroup key))
      ∧ (flatten tree.onlyGroups).result = .ok (sheet.filterKeys fun key => decide (IsGroup key)) := by
  cases tree with
  | map entries =>
      have direct := result_flatten_partIn false h
      have grouped := result_flatten_partIn true h
      simp only [beq_false] at direct
      simp only [beq_true] at grouped
      exact ⟨direct, grouped⟩
  | _ => cases h

/-- A tree with one selector that is given the same property at the top level
and below a grouping rule. -/
def bothKinds : Value :=
  .map [("@charset", "utf-8"),
    ("p", .map [("color", "red"), ("@media print", .map [("color", "blue"), ("a", .map
      [("top", "1px")])]), ("a", .map [("color", "green")])]),
    ("@media print", .map [("p", .map [("color", .list ["black"])])])]

theorem flatten_parts_bothKinds :
    ∃ sheet, (flatten bothKinds).result = .ok sheet
      ∧ (flatten bothKinds.withoutGroups).result
          = .ok (sheet.filterKeys fun key => !decide (IsGroup key))
      ∧ (flatten bothKinds.onlyGroups).result
          = .ok (sheet.filterKeys fun key => decide (IsGroup key)) := by
  obtain ⟨sheet, accepted⟩ := Traced.exists_result_of_isSome (x := flatten bothKinds)
    (by decide +kernel)
  exact ⟨sheet, accepted, flatten_parts accepted⟩

end Stylesheet
