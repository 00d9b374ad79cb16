/-
  Stylesheet.Proofs.Body
  ──────────────────────
  **TREES THAT ARE ONE BODY.**

  A body is a mapping from names that are no at-rules to values of
  properties.  Below a selector it makes one placement for each entry, under
  the canonical name; as the block of a flat rule it is one placement, and
  keeps its names.  Either way the sheet has one key, and its declarations
  are what the entries set, one after the other.

  Main statements:
    * `result_flatten_selector`, `result_flatten_selector_empty`,
      `exists_flatten_selector` — a body below a selector;
    * `result_flatten_flatRule` — a body as the block of a flat rule;
    * `overlay_append` — bodies without a common name are merged by putting
      one behind the other.
-/
import Stylesheet.Overlay
import Stylesheet.Proofs.Mapping
import Stylesheet.Proofs.Outcome
import Stylesheet.Proofs.Printing

namespace Stylesheet

open AtRule Property

/-! ## §1. Bodies and what they set. -/

/-- The mapping with these entries. -/
def Value.ofTexts (entries : List (String × Value)) : Value :=
  .map (entries.map fun e => (.text e.1, e.2))

/-- The entries of a body: no name is an at-rule, and every value sets a
property. -/
def IsBody (entries : List (String × Value)) : Prop :=
  ∀ e ∈ entries, isKey e.1 = false ∧ e.2.SetsProperty

instance (entries : List (String × Value)) : Decidable (IsBody entries) :=
  decidable_of_iff
    (∀ e ∈ entries, isKey e.1 = false ∧ (PropertyValue.ofValue? e.2).isSome = true)
    (by simp only [IsBody, PropertyValue.isSome_ofValue?])

/-- What the entries of a body set, with the names as they are. -/
def settings (entries : List (String × Value)) : List (String × PropertyValue) :=
  entries.filterMap fun e => (PropertyValue.ofValue? e.2).map fun value => (e.1, value)

/-- Settings under the canonical names. -/
def canonical (sets : List (String × PropertyValue)) : List (String × PropertyValue) :=
  sets.map fun e => (ofKey e.1, e.2)

/-- A body with more behind it is a body. -/
theorem IsBody.append {front back : List (String × Value)} (hfront : IsBody front)
    (hback : IsBody back) : IsBody (front ++ back) := by
  intro e he
  rcases List.mem_append.mp he with he | he
  · exact hfront e he
  · exact hback e he

theorem settings_append (front back : List (String × Value)) :
    settings (front ++ back) = settings front ++ settings back :=
  List.filterMap_append

theorem canonical_append (front back : List (String × PropertyValue)) :
    canonical (front ++ back) = canonical front ++ canonical back :=
  List.map_append

/-- Every setting comes from an entry with its name. -/
theorem mem_keys_of_mem_settings {entries : List (String × Value)} {e : String × PropertyValue}
    (h : e ∈ settings entries) : e.1 ∈ entries.map Prod.fst := by
  obtain ⟨entry, hentry, hset⟩ := List.mem_filterMap.mp h
  obtain ⟨value, -, rfl⟩ := Option.map_eq_some_iff.mp hset
  exact List.mem_map_of_mem hentry

/-- A body that has an entry sets something. -/
theorem settings_ne_nil {entries : List (String × Value)} (body : IsBody entries)
    (hne : entries ≠ []) : settings entries ≠ [] := by
  obtain ⟨e, rest, rfl⟩ := List.exists_cons_of_ne_nil hne
  obtain ⟨value, hvalue⟩ := Option.isSome_iff_exists.mp
    ((PropertyValue.isSome_ofValue? e.2).mpr (body e List.mem_cons_self).2)
  rw [settings, List.filterMap_cons, hvalue]
  exact List.cons_ne_nil _ _

/-! ## §2. Their sheets. -/

/-- A body below a selector makes one placement for each of its settings. -/
theorem result_walkEntry_body {selector : String} (hkey : isKey selector = false)
    (hne : selector ≠ "") {entries : List (String × Value)} (body : IsBody entries) :
    (walkEntry .root (.text selector) (.ofTexts entries)).result
      = .ok ((canonical (settings entries)).map
          fun e => .declaration none selector e.1 e.2) := by
  have placed : ∀ e ∈ entries,
      (walkEntry (Scope.root.below selector) (.text e.1) e.2).result
        = .ok ((PropertyValue.ofValue? e.2).map
            fun value => Placement.declaration none selector (ofKey e.1) value).toList := by
    intro e he
    obtain ⟨hname, hsets⟩ := body e he
    obtain ⟨value, hvalue⟩ := Option.isSome_iff_exists.mp
      ((PropertyValue.isSome_ofValue? e.2).mpr hsets)
    have plain : e.2.entries? = none := by
      cases hv : e.2 with
      | map entries =>
          rw [hv] at hsets
          exact hsets.elim
      | _ => rfl
    rw [hvalue]
    exact result_walkEntry_of_places (.property hname plain hne hvalue)
  rw [Value.ofTexts, result_walkEntry_of_opens (.selector hkey), result_walk_map placed,
    ← List.filterMap_eq_flatMap_toList, canonical, settings, List.map_map, List.map_filterMap]
  refine congrArg (fun f => Except.ok (entries.filterMap f)) (funext fun e => ?_)
  cases PropertyValue.ofValue? e.2 <;> rfl

/-- **The sheet of a body below a selector.** -/
theorem result_flatten_selector {selector : String} (hkey : isKey selector = false)
    (hne : selector ≠ "") {entries : List (String × Value)} (body : IsBody entries)
    (hentries : entries ≠ []) :
    (flatten (.map [(.text selector, .ofTexts entries)])).result
      = .ok (.ofList [(selector, .block (.ofList (canonical (settings entries))))]) := by
  have sets : canonical (settings entries) ≠ [] := by
    simpa [canonical] using settings_ne_nil body hentries
  rw [result_flatten_map, result_walk_singleton, result_walkEntry_body hkey hne body]
  exact congrArg Except.ok (Sheet.foldl_place_direct selector sets ∅)

/-- A selector with an empty body leaves nothing. -/
theorem result_flatten_selector_empty {selector : String} (hkey : isKey selector = false) :
    (flatten (.map [(.text selector, .ofTexts [])])).result = .ok ∅ := by
  rw [result_flatten_map, result_walk_singleton, Value.ofTexts,
    result_walkEntry_of_opens (.selector hkey)]
  rfl

/-- A body below a selector leaves a sheet, whether it has an entry or not. -/
theorem exists_flatten_selector {selector : String} (hkey : isKey selector = false)
    (hne : selector ≠ "") {entries : List (String × Value)} (body : IsBody entries) :
    ∃ sheet, (flatten (.map [(.text selector, .ofTexts entries)])).result = .ok sheet
      ∧ (entries = [] ∧ sheet = ∅
        ∨ sheet = .ofList [(selector, .block (.ofList (canonical (settings entries))))]) := by
  by_cases hentries : entries = []
  · subst hentries
    exact ⟨∅, result_flatten_selector_empty hkey, Or.inl ⟨rfl, rfl⟩⟩
  · exact ⟨_, result_flatten_selector hkey hne body hentries, Or.inr rfl⟩

/-- **The sheet of a body that is the block of a flat rule.** -/
theorem result_flatten_flatRule {rule : String} (hkey : isKey rule = true)
    (hkind : kindOf rule = .block) {entries : List (String × Value)} (body : IsBody entries) :
    (flatten (.map [(.text rule, .ofTexts entries)])).result
      = .ok (.ofList [(rule, .block (.ofList (settings entries)))]) := by
  have declares : ∀ e ∈ entries.map fun e => (Value.text e.1, e.2), e.1.Declares e.2 := by
    intro e he
    obtain ⟨⟨name, value⟩, hmem, rfl⟩ := List.mem_map.mp he
    exact ⟨⟨name, rfl⟩, (body _ hmem).2⟩
  have sets : declarationsIn (entries.map fun e => (.text e.1, e.2)) = settings entries := by
    rw [declarationsIn, settings, List.filterMap_map]
    refine congrArg (fun f => entries.filterMap f) (funext fun e => ?_)
    show ((PropertyValue.ofValue? e.2).bind fun value => some (e.1, value)) = _
    cases PropertyValue.ofValue? e.2 <;> rfl
  rw [result_flatten_map, result_walk_singleton, Value.ofTexts,
    result_walkEntry_of_places (.declarations hkey hkind rfl declares), sets]
  rfl

/-- The lines of a sheet that is one block. -/
theorem lines_singleton (key : String) (declarations : Declarations) :
    Sheet.lines (.ofList [(key, .block declarations)]) = declarations.lines 0 key :=
  List.append_nil _

theorem isWritable_singleton (key : String) (declarations : Declarations) :
    Sheet.isWritable (.ofList [(key, .block declarations)]) = declarations.isWritable :=
  Bool.and_true _

/-! ## §3. Merged bodies. -/

/-- **Bodies without a common name are merged by putting one behind the
other.** -/
theorem overlay_append {front back : List (String × Value)}
    (h : (front.map Prod.fst ++ back.map Prod.fst).Nodup) :
    overlay [.ofTexts front, .ofTexts back] = .ofTexts (front ++ back) := by
  have distinct : Value.DistinctKeys
      ((front ++ back).map fun e => (Value.text e.1, e.2)) := by
    rw [Value.distinctKeys_texts (fun value => value), List.map_append]
    exact h
  rw [List.map_append] at distinct
  have first : Value.setEntries [] (front.map fun e => (Value.text e.1, e.2))
      = front.map fun e => (Value.text e.1, e.2) := by
    refine Value.setEntries_of_distinctKeys [] _ ?_
    rw [List.nil_append, Value.distinctKeys_texts (fun value => value)]
    exact (List.nodup_append.mp h).1
  show Value.map (Value.setEntries (Value.setEntries [] _) _) = _
  rw [first, Value.setEntries_of_distinctKeys _ _ distinct, Value.ofTexts, List.map_append]

end Stylesheet
