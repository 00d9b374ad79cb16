/-
  Stylesheet.Proofs.Order
  ───────────────────────
  **IN WHICH ORDER A SHEET LISTS WHAT IT HOLDS.**

  The keys of a sheet, and the selectors below a grouping rule, are never
  taken away, so they stand in the order in which leaves come to them first.
  The names below a selector do come and go: several values take the numbered
  names of their property away before they set their own.  A name that is
  there at the end has stayed since some setting, and the names stand in the
  order of these settings; those that one setting gives stand as it lists
  them.

  Main statements:
    * `entries_set_repeated`, `keys_set` — one setting and the order of names;
    * `pairwise_keys_ofList` — the order of names after a run of settings;
    * `keys_ofPlacements`, `keys_rulesAt_ofPlacements` — the order of keys
      and of the selectors below a grouping rule;
    * `flatten_ordered_leaves` — the order of a sheet, read off the leaves of
      its tree.
-/
import Stylesheet.Proofs.Meaning

namespace Stylesheet

open AtRule Condition Property

/-! ## §1. Lists and tables. -/

section Lists

variable {α β : Type} [DecidableEq α]

/-- An element counts where it occurs first. -/
theorem eraseDups_concat (l : List α) (a : α) :
    (l ++ [a]).eraseDups = if a ∈ l then l.eraseDups else l.eraseDups ++ [a] := by
  rw [List.eraseDups_append]
  by_cases h : a ∈ l
  · simp [List.removeAll, h]
  · simp [List.removeAll, h, List.eraseDups_cons]

/-- In a list without repetitions places grow from left to right. -/
theorem pairwise_idxOf {l : List α} (h : l.Nodup) :
    l.Pairwise fun a b => l.idxOf a < l.idxOf b := by
  rw [List.pairwise_iff_getElem]
  intro i j hi hj hij
  rw [h.idxOf_getElem i hi, h.idxOf_getElem j hj]
  exact hij

omit [DecidableEq α] in
theorem Table.keys_filterKeys (p : α → Bool) (t : Table α β) :
    (t.filterKeys p).keys = t.keys.filter p := by
  show (t.entries.filter fun e => p e.1).map Prod.fst = (t.entries.map Prod.fst).filter p
  rw [List.filter_map]
  rfl

end Lists

/-! ## §2. One setting. -/

namespace PropertyValue

/-- The names that setting the property `name` gives a value, in order. -/
def names (name : String) : PropertyValue → List String
  | .single _ => [name]
  | .repeated values => (numberAll name values).map Prod.fst

/-- Whether setting the property `name` takes away what stood at `other`. -/
def removes (name : String) : PropertyValue → String → Bool
  | .single _, _ => false
  | .repeated _, other => Declarations.isNumberedOf name other

theorem nodup_names (name : String) (value : PropertyValue) : (value.names name).Nodup := by
  cases value with
  | single v => exact List.nodup_singleton name
  | repeated values => exact nodup_numberAll name values

/-- Several values take away all that they give themselves. -/
theorem removes_of_mem_names {name other : String} {values : List Scalar}
    (h : other ∈ (PropertyValue.repeated values).names name) :
    (PropertyValue.repeated values).removes name other = true := by
  obtain ⟨⟨n, v⟩, hmem, rfl⟩ := List.mem_map.mp h
  obtain ⟨i, -, rfl⟩ := mem_numberAll.mp hmem
  exact isNumberedOf_numbered name i

end PropertyValue

namespace Declarations

/-- Several values come last, behind what they do not take away. -/
theorem entries_set_repeated (d : Declarations) (name : String) (values : List Scalar) :
    (d.set name (.repeated values)).entries
      = (d.filterKeys fun other => !isNumberedOf name other).entries ++ numberAll name values := by
  refine Table.entries_insertAll_of_nodup _ (numberAll name values) ?_
  -- the names that are left are none of those that are numbered anew
  rw [Table.keys_filterKeys, List.nodup_append]
  refine ⟨List.Nodup.filter _ d.nodup, nodup_numberAll name values, ?_⟩
  intro a ha b hb same
  subst same
  have gone : (PropertyValue.repeated values).removes name a = true :=
    PropertyValue.removes_of_mem_names hb
  rw [PropertyValue.removes] at gone
  simp [gone] at ha

/-- **One setting and the order of names.**  What it takes away goes, and
what it gives anew comes last. -/
theorem keys_set (d : Declarations) (name : String) (value : PropertyValue) :
    (d.set name value).keys
      = d.keys.filter (fun other => !value.removes name other)
        ++ (value.names name).filter
            fun other => value.removes name other || decide (other ∉ d.keys) := by
  cases value with
  | single v =>
      rw [keys_set_single]
      by_cases h : name ∈ d.keys
      · simp [PropertyValue.removes, PropertyValue.names, h]
      · simp [PropertyValue.removes, PropertyValue.names, h]
  | repeated values =>
      have given : (PropertyValue.names name (.repeated values)).filter
          (fun other => PropertyValue.removes name (.repeated values) other
            || decide (other ∉ d.keys)) = PropertyValue.names name (.repeated values) := by
        rw [List.filter_eq_self]
        intro other hother
        rw [PropertyValue.removes_of_mem_names hother]
        rfl
      have keys := congrArg (List.map Prod.fst) (entries_set_repeated d name values)
      rw [List.map_append] at keys
      rw [given]
      exact keys.trans (congrArg (· ++ _) (Table.keys_filterKeys _ d))

/-- The names after a setting are those that it leaves and those that it
gives. -/
theorem mem_keys_set_iff (d : Declarations) (name other : String) (value : PropertyValue) :
    other ∈ (d.set name value).keys
      ↔ other ∈ d.keys ∧ value.removes name other = false ∨ other ∈ value.names name := by
  rw [keys_set, List.mem_append, List.mem_filter, List.mem_filter]
  by_cases removed : value.removes name other = true
  · simp [removed]
  · simp only [Bool.eq_false_iff.mpr removed]
    by_cases present : other ∈ d.keys
    · simp [present]
    · simp [present]

/-! ## §3. Runs of settings. -/

/-- A setting gives a name a value, and no setting behind it takes the name
away. -/
def Holds (name : String) (e : String × PropertyValue) (behind : List (String × PropertyValue)) :
    Prop :=
  name ∈ e.2.names e.1 ∧ ∀ later ∈ behind, later.2.removes later.1 name = false

instance (name : String) (e : String × PropertyValue) (behind : List (String × PropertyValue)) :
    Decidable (Holds name e behind) :=
  inferInstanceAs (Decidable (_ ∧ _))

theorem holds_concat {name : String} {first e : String × PropertyValue}
    {behind : List (String × PropertyValue)} :
    Holds name first (behind ++ [e])
      ↔ Holds name first behind ∧ e.2.removes e.1 name = false := by
  unfold Holds
  rw [List.forall_mem_append, List.forall_mem_singleton, and_assoc]

/-- Where the present stay of a name began: the place of the setting, and the
place of the name among those that the setting gives.  It is the first of the
settings that give the name a value which nothing takes away again. -/
def began (name : String) : List (String × PropertyValue) → Nat × Nat
  | [] => (0, 0)
  | e :: rest =>
      if Holds name e rest then (0, (e.2.names e.1).idxOf name)
      else ((began name rest).1 + 1, (began name rest).2)

/-- One more setting leaves the stay of a name alone; or else the stay begins
with that setting, if it gives the name, and has not begun otherwise. -/
theorem began_concat (name : String) (sets : List (String × PropertyValue))
    (e : String × PropertyValue) :
    began name (sets ++ [e])
      = if (began name sets).1 < sets.length ∧ e.2.removes e.1 name = false then began name sets
        else if name ∈ e.2.names e.1 then (sets.length, (e.2.names e.1).idxOf name)
        else (sets.length + 1, 0) := by
  induction sets with
  | nil => by_cases h : name ∈ e.2.names e.1 <;> simp [began, Holds, h]
  | cons first rest ih =>
      rw [List.cons_append, began, began, ih, List.length_cons]
      by_cases here : Holds name first rest
      · rw [if_pos here]
        cases removed : e.2.removes e.1 name with
        | false => rw [if_pos (holds_concat.mpr ⟨here, removed⟩), if_pos ⟨Nat.succ_pos _, rfl⟩]
        | true =>
            -- the new setting ends the stay, so whatever began it does not count any more
            have ended : ¬Holds name first (rest ++ [e]) := by
              intro both
              exact Bool.false_ne_true ((holds_concat.mp both).2.symm.trans removed)
            rw [if_neg ended]
            simp only [Bool.true_eq_false, and_false, if_false]
            split <;> rfl
      · rw [if_neg here, if_neg fun both => here (holds_concat.mp both).1]
        have shifted : (began name rest).1 + 1 < rest.length + 1
            ↔ (began name rest).1 < rest.length := by omega
        simp only [shifted]
        split
        · rfl
        · split <;> rfl

/-- A name is there at the end just when some setting began its stay. -/
theorem mem_keys_ofList_iff (name : String) (sets : List (String × PropertyValue)) :
    name ∈ (ofList sets).keys ↔ (began name sets).1 < sets.length := by
  induction sets using List.reverseRecOn with
  | nil => simp [ofList]
  | append_singleton front e ih =>
      rw [ofList_concat, mem_keys_set_iff, ih, began_concat, List.length_append,
        List.length_singleton]
      by_cases stays : (began name front).1 < front.length ∧ e.2.removes e.1 name = false
      · rw [if_pos stays]
        constructor
        · intro _
          omega
        · intro _
          exact Or.inl stays
      · rw [if_neg stays]
        by_cases given : name ∈ e.2.names e.1
        · simp [given]
        · simp [given, stays]

/-- A name that one more setting leaves alone stays since when it did. -/
theorem began_concat_of_kept {name : String} {sets : List (String × PropertyValue)}
    {e : String × PropertyValue} (present : name ∈ (ofList sets).keys)
    (kept : e.2.removes e.1 name = false) : began name (sets ++ [e]) = began name sets := by
  rw [began_concat, if_pos ⟨(mem_keys_ofList_iff name sets).mp present, kept⟩]

/-- A name that one more setting takes away or finds missing, and gives, stays
since that setting. -/
theorem began_concat_of_new {name : String} {sets : List (String × PropertyValue)}
    {e : String × PropertyValue} (given : name ∈ e.2.names e.1)
    (h : (e.2.removes e.1 name || decide (name ∉ (ofList sets).keys)) = true) :
    began name (sets ++ [e]) = (sets.length, (e.2.names e.1).idxOf name) := by
  rw [began_concat, if_neg, if_pos given]
  intro stays
  rw [← mem_keys_ofList_iff] at stays
  simp [stays.1, stays.2] at h

/-- Of two names, the stay of the first began before that of the second: with
an earlier setting, or with the same one, which gives the first one first. -/
def BeganBefore (sets : List (String × PropertyValue)) (a b : String) : Prop :=
  (began a sets).1 < (began b sets).1
    ∨ (began a sets).1 = (began b sets).1 ∧ (began a sets).2 < (began b sets).2

/-- **The order of names after a run of settings.** -/
theorem pairwise_keys_ofList (sets : List (String × PropertyValue)) :
    (ofList sets).keys.Pairwise (BeganBefore sets) := by
  -- the run grows at its end, where one setting drops some names and appends others
  induction sets using List.reverseRecOn with
  | nil => exact List.Pairwise.nil
  | append_singleton front e ih =>
      rw [ofList_concat, keys_set, List.pairwise_append]
      have old : ∀ a ∈ (ofList front).keys.filter (fun other => !e.2.removes e.1 other),
          began a (front ++ [e]) = began a front ∧ (began a front).1 < front.length := by
        intro a ha
        obtain ⟨hmem, kept⟩ := List.mem_filter.mp ha
        have before := (mem_keys_ofList_iff a front).mp hmem
        exact ⟨began_concat_of_kept hmem (by simpa using kept), before⟩
      have new : ∀ b ∈ (e.2.names e.1).filter
            (fun other => e.2.removes e.1 other || decide (other ∉ (ofList front).keys)),
          began b (front ++ [e]) = (front.length, (e.2.names e.1).idxOf b) := by
        intro b hb
        obtain ⟨hmem, fresh⟩ := List.mem_filter.mp hb
        exact began_concat_of_new hmem fresh
      refine ⟨?_, ?_, ?_⟩
      · apply (ih.sublist List.filter_sublist).imp_of_mem
        intro a b ha hb before
        unfold BeganBefore at before ⊢
        rw [(old a ha).1, (old b hb).1]
        exact before
      · have inside := pairwise_idxOf (e.2.nodup_names e.1)
        apply (inside.sublist List.filter_sublist).imp_of_mem
        intro a b ha hb before
        unfold BeganBefore
        rw [new a ha, new b hb]
        exact Or.inr ⟨rfl, before⟩
      · intro a ha b hb
        unfold BeganBefore
        rw [(old a ha).1, new b hb]
        exact Or.inl (old a ha).2

/-- A single value keeps its place, several values come last. -/
example : (ofList [("src", .repeated [.text "a", .text "b"]), ("top", .single (.text "1px")),
    ("src", .repeated [.text "c"]), ("top", .single (.text "2px"))]).keys
      = ["top", "src/*0*/"] := rfl

end Declarations

/-! ## §4. Runs of placements. -/

/-- The selector that a placement sets something for under a condition. -/
def Placement.selector? (condition : String) : Placement → Option String
  | .flatRule .. => none
  | .declaration c selector _ _ => if c = some condition then some selector else none

namespace Sheet

/-- The selectors with declarations below a key. -/
def rulesAt (sheet : Sheet) (key : String) : Table String Declarations :=
  (sheet.get? key).elim ∅ Item.rules

/-- A key that is new comes last, the others keep their places. -/
theorem keys_place (sheet : Sheet) (placement : Placement) :
    (sheet.place placement).keys
      = if placement.top ∈ sheet.keys then sheet.keys else sheet.keys ++ [placement.top] := by
  cases placement with
  | flatRule key item => exact Table.keys_write sheet key _
  | declaration condition selector name value =>
      cases condition with
      | none => exact Table.keys_write sheet selector _
      | some c => exact Table.keys_write sheet c _

/-- **The keys stand in the order in which placements write to them first.** -/
theorem keys_ofPlacements (placements : List Placement) :
    (ofPlacements placements).keys = (placements.map Placement.top).eraseDups := by
  induction placements using List.reverseRecOn with
  | nil => rfl
  | append_singleton front placement ih =>
      rw [ofPlacements_concat, keys_place, ih, List.map_append, List.map_singleton,
        eraseDups_concat]
      simp only [List.mem_eraseDups]

theorem rulesAt_of_get?_eq {sheet other : Sheet} {key : String}
    (h : sheet.get? key = other.get? key) : sheet.rulesAt key = other.rulesAt key := by
  rw [rulesAt, rulesAt, h]

/-- A selector that is new below a grouping rule comes last. -/
theorem keys_rulesAt_place {placement : Placement} (h : placement.Regular) {condition : String}
    (hcondition : IsGroup condition) (sheet : Sheet) :
    ((sheet.place placement).rulesAt condition).keys
      = match placement.selector? condition with
        | some selector =>
            if selector ∈ (sheet.rulesAt condition).keys then (sheet.rulesAt condition).keys
            else (sheet.rulesAt condition).keys ++ [selector]
        | none => (sheet.rulesAt condition).keys := by
  cases placement with
  | flatRule key item =>
      have hne : condition ≠ key := (ne_of_isGroup hcondition h.flatRule.2).symm
      rw [rulesAt_of_get?_eq (get?_place_flatRule_of_ne hne sheet item)]
      rfl
  | declaration c selector name value =>
      cases h with
      | declaration hc hselector hne hname hkey =>
      cases c with
      | none =>
          have hne : condition ≠ selector := (ne_of_isKey hcondition.1 hselector).symm
          rw [rulesAt_of_get?_eq (get?_place_direct_of_ne hne sheet name value)]
          rfl
      | some c =>
          rw [Placement.selector?]
          by_cases same : c = condition
          · subst same
            rw [if_pos rfl]
            have here : (sheet.place (.declaration (some c) selector name value)).rulesAt c
                = (sheet.rulesAt c).write selector fun declarations? =>
                    Declarations.set (declarations?.getD ∅) name value := by
              rw [rulesAt, place, Table.get?_write_self]
              rfl
            rw [here]
            exact Table.keys_write _ selector _
          · rw [if_neg (by simpa using same),
              rulesAt_of_get?_eq (get?_place_grouped_of_ne (Ne.symm same) sheet selector name value)]

/-- **The selectors below a grouping rule stand in the order in which
placements write to them first.** -/
theorem keys_rulesAt_ofPlacements {placements : List Placement}
    (h : ∀ placement ∈ placements, placement.Regular) {condition : String}
    (hcondition : IsGroup condition) :
    ((ofPlacements placements).rulesAt condition).keys
      = (placements.filterMap (Placement.selector? condition)).eraseDups := by
  induction placements using List.reverseRecOn with
  | nil => rfl
  | append_singleton front placement ih =>
      have regular := h placement (by simp)
      have ih := ih fun p hp => h p (by simp [hp])
      rw [ofPlacements_concat, keys_rulesAt_place regular hcondition, ih, List.filterMap_append]
      cases hselector : placement.selector? condition with
      | none => simp [hselector]
      | some selector =>
          rw [List.filterMap_cons, hselector, List.filterMap_nil, eraseDups_concat]
          simp only [List.mem_eraseDups]

end Sheet

/-! ## §5. Leaves. -/

namespace Leaf

/-- The top-level key at which something of a leaf stands: a flat rule's own,
otherwise the condition above the leaf, or its selector when there is none. -/
def top? (leaf : Leaf) : Option String :=
  if isKey leaf.key then some leaf.key
  else (conditionOf leaf.path).toOption.map fun condition =>
    condition.getD (selectorOf leaf.path)

/-- The selector of a leaf, if it stands under the given condition. -/
def selector? (condition : String) (leaf : Leaf) : Option String :=
  if leaf.Targets (some condition) (selectorOf leaf.path) then some (selectorOf leaf.path)
  else none

variable {leaf : Leaf} {placement : Placement}

/-- A leaf stands at the key that its placement writes to. -/
theorem Makes.top? (h : leaf.Makes placement) : leaf.top? = some placement.top := by
  unfold Leaf.top?
  cases h with
  | statement hkey hkind => exact if_pos hkey
  | block hkey hkind hentries => exact if_pos hkey
  | property hkey hcondition hselector hset =>
      rw [hkey, hcondition]
      rfl

/-- A leaf and its placement have the same selector under a condition. -/
theorem Makes.selector? (h : leaf.Makes placement) (condition : String) :
    placement.selector? condition = leaf.selector? condition := by
  unfold Leaf.selector?
  cases h with
  | @statement path key value hkey hkind =>
      rw [if_neg (not_targets_of_isKey ⟨path, key, .scalar value⟩ hkey _ _)]
      rfl
  | @block path key entries hkey hkind hentries =>
      rw [if_neg (not_targets_of_isKey ⟨path, key, .map entries⟩ hkey _ _)]
      rfl
  | @property path key value c set hkey hcondition hselector hset =>
      have targets : Leaf.Targets ⟨path, key, value⟩ (some condition) (selectorOf path)
          ↔ c = some condition := by
        unfold Leaf.Targets
        simp [hkey, hcondition]
      rw [Placement.selector?]
      by_cases same : c = some condition
      · rw [if_pos same, if_pos (targets.mpr same)]
      · rw [if_neg same, if_neg fun given => same (targets.mp given)]

end Leaf

/-! ## §6. The order of a sheet. -/

/-- How leaves order a sheet. -/
structure Sheet.Ordered (sheet : Sheet) (leaves : List Leaf) : Prop where
  /-- The keys stand in the order of the first leaves at them. -/
  keys : sheet.keys = (leaves.filterMap Leaf.top?).eraseDups
  /-- The selectors of a grouping rule stand in the order of their first leaves
  under its key. -/
  selectors : ∀ condition rules, sheet.get? condition = some (.group rules) →
    rules.keys = (leaves.filterMap (Leaf.selector? condition)).eraseDups
  /-- The stay of each name below a selector began with some leaf that targets
  the selector. -/
  began : ∀ condition selector d, sheet.declarations? condition selector = some d →
    ∀ name ∈ d.keys, (Declarations.began name (leaves.filterMap
      (Leaf.set? condition selector))).1 < (leaves.filterMap (Leaf.set? condition selector)).length
  /-- The names stand in the order in which their stays began. -/
  names : ∀ condition selector d, sheet.declarations? condition selector = some d →
    d.keys.Pairwise (Declarations.BeganBefore (leaves.filterMap (Leaf.set? condition selector)))

section Ordered

variable {leaves : List Leaf} {placements : List Placement}

/-- What is left below a selector is what the leaves that target it leave. -/
theorem eq_ofList_of_makes (h : List.Forall₂ Leaf.Makes leaves placements)
    {condition : Option String} {selector : String} {d : Declarations}
    (hd : (Sheet.ofPlacements placements).declarations? condition selector = some d) :
    d = Declarations.ofList (leaves.filterMap (Leaf.set? condition selector)) := by
  rw [declarations?_of_makes h] at hd
  cases hsets : leaves.filterMap (Leaf.set? condition selector) with
  | nil =>
      rw [hsets] at hd
      cases hd
  | cons first rest =>
      rw [hsets] at hd
      exact (Option.some.inj hd).symm

/-- **Placements that leaves make are ordered as the leaves are.** -/
theorem ordered_of_makes (h : List.Forall₂ Leaf.Makes leaves placements) :
    (Sheet.ofPlacements placements).Ordered leaves where
  keys := by
    have tops : placements.map Placement.top = leaves.filterMap Leaf.top? := by
      rw [← filterMap_of_makes (g := fun placement => some placement.top)
        (fun _ _ makes => makes.top?.symm) h]
      rw [← List.filterMap_eq_map]
      rfl
    rw [Sheet.keys_ofPlacements, tops]
  selectors := by
    intro condition rules hrules
    have placed := regular_of_makes h
    have regular := Sheet.regular_of_get? (Sheet.regular_ofPlacements placed) hrules
    cases regular with
    | group hkey hne _ =>
        have below : (Sheet.ofPlacements placements).rulesAt condition = rules := by
          rw [Sheet.rulesAt, hrules]
          rfl
        rw [← below, Sheet.keys_rulesAt_ofPlacements placed hkey,
          filterMap_of_makes (fun _ _ makes => makes.selector? condition) h]
  began := by
    intro condition selector d hd name hname
    rw [eq_ofList_of_makes h hd] at hname
    exact (Declarations.mem_keys_ofList_iff name _).mp hname
  names := by
    intro condition selector d hd
    rw [eq_ofList_of_makes h hd]
    exact Declarations.pairwise_keys_ofList _

end Ordered

/-- **The order of a sheet, read off the leaves of its tree.** -/
theorem flatten_ordered_leaves {tree : Value} {sheet : Sheet}
    (h : (flatten tree).result = .ok sheet) : sheet.Ordered (leavesOf tree) := by
  obtain ⟨placements, makes, rfl⟩ := exists_makes_of_flatten h
  exact ordered_of_makes makes

/-- A tree that comes back to a selector and to a grouping rule, with several
values for a property that has some already. -/
def comesBack : Value :=
  .map [("ul", .map [("li", .map [("src", .list ["a", "b"]), ("top", "1px")])]),
    ("@media print", .map [("p", .map [("color", "red")])]),
    ("ul li", .map [("src", .list ["c"]), ("top", "2px")]),
    ("@charset", "utf-8"),
    ("p", .map [("@media print", .map [("color", "blue"), ("b", .map [("top", "3px")])])])]

theorem flatten_ordered_comesBack :
    ∃ sheet, (flatten comesBack).result = .ok sheet ∧ sheet.Ordered (leavesOf comesBack) := by
  have accepted : (flatten comesBack).result = .ok _ := rfl
  exact ⟨_, accepted, flatten_ordered_leaves accepted⟩

end Stylesheet
