/-
  Stylesheet.Proofs.Declarations
  ──────────────────────────────
  **WHICH SETTING OF A PROPERTY COUNTS.**

  Declarations are what settings leave that are made one after the other.
  A single value touches its own name; several values touch every numbered
  name of their property, those that they do not give included, since they
  take all earlier ones away.  At each name the last setting that touches it
  counts, and nothing else does.

  Main statements:
    * `get?_set` — one setting, read at any name;
    * `get?_ofList` — a run of settings, read at any name;
    * `reads_ofList` — the same in terms of the run alone;
    * `canonical_set` — canonical names stay canonical.
-/
import Stylesheet.Proofs.Marker
import Stylesheet.Proofs.Table

namespace Stylesheet

open AtRule Property

/-! ## §1. One setting. -/

namespace PropertyValue

/-- Whether setting the property `name` decides what stands at `other`. -/
def touches (name : String) : PropertyValue → String → Bool
  | .single _, other => other = name
  | .repeated _, other => Declarations.isNumberedOf name other

/-- What setting the property `name` leaves at a name that it touches. -/
def given (name : String) : PropertyValue → String → Option Scalar
  | .single value, _ => some value
  | .repeated values, other => (numberAll name values).lookup other

end PropertyValue

namespace Declarations

theorem isNumberedOf_iff {name other : String} :
    isNumberedOf name other = true ↔ other ≠ name ∧ withoutMarker other = name := by
  simp [isNumberedOf]

/-- **One setting, read at any name.** -/
theorem get?_set (d : Declarations) (name : String) (value : PropertyValue) (other : String) :
    (d.set name value).get? other
      = if value.touches name other then value.given name other else d.get? other := by
  cases value with
  | single v =>
      rw [set, Table.get?_insert]
      simp only [PropertyValue.touches, PropertyValue.given, decide_eq_true_eq]
  | repeated values =>
      rw [set, Table.get?_insertAll, Table.get?_filterKeys]
      simp only [PropertyValue.touches, PropertyValue.given]
      -- no name is numbered twice, so the last value at a name is the first
      have nodup := nodup_numberAll name values
      have same : (numberAll name values).reverse.lookup other
          = (numberAll name values).lookup other := by
        refine Option.ext fun v => ?_
        rw [Entries.lookup_eq_some_iff_mem nodup, Entries.lookup_eq_some_iff_mem]
        · exact List.mem_reverse
        · rw [List.map_reverse]
          exact List.nodup_reverse.mpr nodup
      rw [same]
      -- what the filter takes away is exactly what the setting touches
      by_cases hn : isNumberedOf name other = true
      · simp [hn]
      · have absent : (numberAll name values).lookup other = none := by
          refine lookup_numberAll_eq_none fun i _ => ?_
          intro same
          subst same
          exact hn (isNumberedOf_numbered name i)
        simp [hn, absent]

/-- The names after a setting are old ones, the set one, and its numbered
ones. -/
theorem mem_keys_set {d : Declarations} {name other : String} {value : PropertyValue}
    (h : other ∈ (d.set name value).keys) :
    other ∈ d.keys ∨ other = name ∨ ∃ i : Nat, other = numbered name i := by
  obtain ⟨v, hv⟩ := (Table.mem_keys_iff _).mp h
  rw [get?_set] at hv
  split at hv
  · next touched =>
    right
    cases value with
    | single w => exact Or.inl (by simpa [PropertyValue.touches] using touched)
    | repeated values =>
        obtain ⟨i, -, hi⟩ := mem_numberAll.mp
          ((Entries.lookup_eq_some_iff_mem (nodup_numberAll name values)).mp hv)
        exact Or.inr ⟨i, hi⟩
  · exact Or.inl ((Table.mem_keys_iff _).mpr ⟨v, hv⟩)

/-! ## §2. Canonical names. -/

/-- All names are canonical and none is an at-rule. -/
def Canonical (d : Declarations) : Prop :=
  ∀ name ∈ d.keys, ofKey name = name ∧ isKey name = false

theorem canonical_empty : Canonical ∅ := by
  intro name h
  cases h

/-- **Canonical names stay canonical.** -/
theorem canonical_set {d : Declarations} (h : d.Canonical) {name : String}
    (hname : ofKey name = name) (hkey : isKey name = false) (value : PropertyValue) :
    (d.set name value).Canonical := by
  intro other hother
  rcases mem_keys_set hother with hold | rfl | ⟨i, rfl⟩
  · exact h other hold
  · exact ⟨hname, hkey⟩
  · exact ⟨by rw [ofKey_numbered, hname], by rw [isKey_numbered, hkey]⟩

/-! ## §3. Runs of settings. -/

/-- The last setting that touches a name. -/
def lastTouching (sets : List (String × PropertyValue)) (name : String) :
    Option (String × PropertyValue) :=
  (sets.filter fun e => e.2.touches e.1 name).getLast?

theorem ofList_concat (sets : List (String × PropertyValue)) (e : String × PropertyValue) :
    ofList (sets ++ [e]) = (ofList sets).set e.1 e.2 := by
  rw [ofList, List.foldl_append]
  rfl

/-- Every name comes from a setting: it is set, or one of its numbered
names is. -/
theorem exists_of_mem_keys_ofList {sets : List (String × PropertyValue)} {other : String}
    (h : other ∈ (ofList sets).keys) :
    ∃ e ∈ sets, other = e.1 ∨ ∃ i : Nat, other = numbered e.1 i := by
  induction sets using List.reverseRecOn with
  | nil => cases h
  | append_singleton front e ih =>
      rw [ofList_concat] at h
      rcases mem_keys_set h with old | new
      · obtain ⟨first, hfirst, hother⟩ := ih old
        exact ⟨first, List.mem_append_left _ hfirst, hother⟩
      · exact ⟨e, List.mem_append_right _ List.mem_cons_self, new⟩

/-- **A run of settings, read at any name.** -/
theorem get?_ofList (sets : List (String × PropertyValue)) (name : String) :
    (ofList sets).get? name = (lastTouching sets name).bind fun e => e.2.given e.1 name := by
  induction sets using List.reverseRecOn with
  | nil => rfl
  | append_singleton front e ih =>
      rw [ofList_concat, get?_set, ih, lastTouching, lastTouching, List.filter_append,
        List.getLast?_append, List.filter_singleton]
      by_cases touched : e.2.touches e.1 name = true
      · rw [if_pos touched, touched]
        rfl
      · rw [if_neg touched, Bool.eq_false_iff.mpr touched]
        rfl

/-- In a run that ends, behind a setting that touches a name, with settings
that do not, that setting counts. -/
theorem get?_ofList_split {before after : List (String × PropertyValue)} {name : String}
    {value : PropertyValue} {other : String} (touched : value.touches name other = true)
    (last : ∀ e ∈ after, e.2.touches e.1 other = false) :
    (ofList (before ++ (name, value) :: after)).get? other = value.given name other := by
  have none_after : after.filter (fun e => e.2.touches e.1 other) = [] := by
    rw [List.filter_eq_nil_iff]
    intro e he
    rw [last e he]
    exact Bool.false_ne_true
  rw [get?_ofList, lastTouching, List.filter_append, List.filter_cons, if_pos touched, none_after,
    List.getLast?_concat]
  rfl

/-- What a run of settings says about the declarations that it leaves. -/
structure Reads (sets : List (String × PropertyValue)) (d : Declarations) : Prop where
  /-- A name that no setting touches has no value. -/
  untouched : ∀ name, (∀ e ∈ sets, e.2.touches e.1 name = false) → d.get? name = none
  /-- A single value stands at its name unless a later setting touches it. -/
  single : ∀ before name value after, sets = before ++ (name, .single value) :: after →
    (∀ e ∈ after, e.2.touches e.1 name = false) → d.get? name = some value
  /-- Of several values the one with index `i` stands at the name with marker
  `i` unless a later setting touches it. -/
  repeated : ∀ before name values after (i : Nat),
    sets = before ++ (name, .repeated values) :: after →
    (∀ e ∈ after, e.2.touches e.1 (numbered name i) = false) →
      d.get? (numbered name i) = values[i]?
  /-- Several values leave nothing at other names with a marker of their
  property unless a later setting touches them. -/
  gone : ∀ before name values after other,
    sets = before ++ (name, .repeated values) :: after →
    other ≠ name → withoutMarker other = name →
    (∀ i : Nat, i < values.length → other ≠ numbered name i) →
    (∀ e ∈ after, e.2.touches e.1 other = false) → d.get? other = none

/-- **Declarations read as the run of settings that leaves them.** -/
theorem reads_ofList (sets : List (String × PropertyValue)) : Reads sets (ofList sets) where
  untouched := by
    intro name h
    have nothing : sets.filter (fun e => e.2.touches e.1 name) = [] := by
      rw [List.filter_eq_nil_iff]
      intro e he
      rw [h e he]
      exact Bool.false_ne_true
    rw [get?_ofList, lastTouching, nothing]
    rfl
  single := by
    intro before name value after same last
    subst same
    rw [get?_ofList_split (by simp [PropertyValue.touches]) last]
    rfl
  repeated := by
    intro before name values after i same last
    subst same
    have touched : (PropertyValue.repeated values).touches name (numbered name i) = true :=
      isNumberedOf_numbered name i
    rw [get?_ofList_split touched last]
    exact lookup_numberAll name values i
  gone := by
    intro before name values after other same hne hmarker hother last
    subst same
    have touched : (PropertyValue.repeated values).touches name other = true :=
      isNumberedOf_iff.mpr ⟨hne, hmarker⟩
    rw [get?_ofList_split touched last]
    exact lookup_numberAll_eq_none hother

/-- A shorter list takes away the whole of a longer one. -/
example : (ofList [("src", .repeated [.text "a", .text "b"]),
    ("src", .repeated [.text "c"])]).keys = ["src/*0*/"] := rfl

end Declarations

end Stylesheet
