/-
  Stylesheet.Proofs.Rearranged
  ────────────────────────────
  **WHICH ENTRIES MAY CHANGE PLACES.**

  Two leaves interfere when what one of them writes the other may write
  over or take away.  When the entries of a tree are put into another order,
  in as many of its style blocks as one likes, and every two leaves that
  interfere keep their order, then the sheet is the same but for the order
  of its keys.

  No writes are exchanged step by step.  What stands at a name depends on
  the leaves that touch the name, of which every two interfere; and a list
  in which every two members keep their order is the same list.

  Main statements:
    * `eq_of_occurrences_eq` — a list is known by the order of every two of
      its members;
    * `Leaf.interferes_of_touches` — leaves that touch one name interfere;
    * `agree_of_makes` — leaves of which those that interfere keep their
      order leave sheets that agree;
    * `flatten_rearranged` — the same of trees.
-/
import Stylesheet.Proofs.Meaning
import Stylesheet.Proofs.Outcome

namespace Stylesheet

open AtRule Condition Property

/-! ## §1. Lists and the order of two members. -/

section Lists

variable {α β : Type} [DecidableEq α]

/-- Where two members stand in a list: what is left of it when all others are
taken away. -/
def occurrences (a b : α) (l : List α) : List α :=
  l.filter fun x => x = a ∨ x = b

/-- **A list is known by its members and by the order of every two.** -/
theorem eq_of_occurrences_eq {l l' : List α} (hperm : l.Perm l')
    (h : ∀ a ∈ l, ∀ b ∈ l, occurrences a b l' = occurrences a b l) : l' = l := by
  induction l generalizing l' with
  | nil => exact hperm.nil_eq.symm
  | cons x l ih =>
      cases l' with
      | nil => exact absurd hperm List.not_perm_cons_nil
      | cons y l' =>
          -- the first members are seen by their own order
          have first : y = x := by
            have pair := h x List.mem_cons_self y (hperm.mem_iff.mpr List.mem_cons_self)
            rw [occurrences, occurrences, List.filter_cons_of_pos (by simp),
              List.filter_cons_of_pos (by simp)] at pair
            exact (List.cons.inj pair).1
          subst first
          have rest : l' = l := by
            refine ih hperm.cons_inv fun a ha b hb => ?_
            have pair := h a (List.mem_cons_of_mem _ ha) b (List.mem_cons_of_mem _ hb)
            rw [occurrences, occurrences, List.filter_cons, List.filter_cons] at pair
            split at pair
            · exact (List.cons.inj pair).2
            · exact pair
          rw [rest]

theorem occurrences_filter {p : α → Bool} {a b : α} (ha : p a = true) (hb : p b = true)
    (l : List α) : occurrences a b (l.filter p) = occurrences a b l := by
  rw [occurrences, occurrences, List.filter_filter]
  refine List.filter_congr fun x _ => ?_
  by_cases hx : x = a ∨ x = b
  · have passes : p x = true := by
      rcases hx with rfl | rfl
      · exact ha
      · exact hb
    simp [hx, passes]
  · simp [hx]

/-- Members of which every two keep their order stay as they are. -/
theorem filter_eq_of_occurrences_eq {l l' : List α} (hperm : l.Perm l') (p : α → Bool)
    (h : ∀ a ∈ l, ∀ b ∈ l, p a = true → p b = true → occurrences a b l' = occurrences a b l) :
    l'.filter p = l.filter p := by
  refine eq_of_occurrences_eq (hperm.filter p) fun a ha b hb => ?_
  rw [List.mem_filter] at ha hb
  rw [occurrences_filter ha.2 hb.2, occurrences_filter ha.2 hb.2]
  exact h a ha.1 b hb.1 ha.2 hb.2

omit [DecidableEq α] in
/-- What passes of a selection is selected of the members that lead to it. -/
theorem filter_filterMap_eq (f : α → Option β) (p : β → Bool) (l : List α) :
    (l.filterMap f).filter p = (l.filter fun a => (f a).any p).filterMap f := by
  rw [List.filter_filterMap, List.filterMap_filter]
  refine List.filterMap_congr fun a _ => ?_
  cases f a with
  | none => rfl
  | some b => simp [Option.filter]

end Lists

/-! ## §2. Agreement but for the order. -/

section Tables

variable {α β : Type} [DecidableEq α]

/-- Two tables have the same keys, in whatever order, and related values at
each. -/
def Table.Agree (r : β → β → Prop) (s t : Table α β) : Prop :=
  ∀ key, Option.Rel r (s.get? key) (t.get? key)

theorem Table.agree_refl {r : β → β → Prop} (h : ∀ b, r b b) (t : Table α β) : t.Agree r t := by
  intro key
  cases t.get? key with
  | none => exact .none
  | some b => exact .some (h b)

theorem Table.agree_of_get? {s t : Table α β} (h : ∀ key, s.get? key = t.get? key) :
    s.Agree Eq t := by
  intro key
  rw [h key]
  exact agree_refl (fun _ => rfl) t key

end Tables

/-- Two items are the same but for the order of selectors and names. -/
inductive Item.Agree : Item → Item → Prop where
  /-- A single value. -/
  | statement (value : Scalar) : Agree (.statement value) (.statement value)
  /-- Declarations with the same value for each name. -/
  | block {d d' : Declarations} (h : d.Agree Eq d') : Agree (.block d) (.block d')
  /-- Selectors with such declarations. -/
  | group {rules rules' : Table String Declarations}
      (h : rules.Agree (Table.Agree Eq) rules') : Agree (.group rules) (.group rules')

theorem Item.agree_refl (item : Item) : item.Agree item := by
  cases item with
  | statement value => exact .statement value
  | block d => exact .block (d.agree_refl fun _ => rfl)
  | group rules => exact .group (rules.agree_refl fun d => d.agree_refl fun _ => rfl)

/-- What stands at a selector is a block. -/
theorem Item.Regular.exists_block {key : String} {item : Item} (h : item.Regular key)
    (hkey : isKey key = false) : ∃ d, item = .block d := by
  cases h with
  | selector hrule => exact ⟨_, rfl⟩
  | statement hat | flatBlock hat => exact absurd (hkey.symm.trans hat) Bool.false_ne_true
  | group hat => exact absurd hat (not_isGroup_of_isKey hkey)

/-- What stands at a grouping rule is a group. -/
theorem Item.Regular.exists_group {key : String} {item : Item} (h : item.Regular key)
    (hkey : IsGroup key) : ∃ rules, item = .group rules := by
  cases h with
  | statement _ hkind | flatBlock _ hkind => exact absurd hkey (not_isGroup_of_kind hkind (by decide))
  | selector hrule => exact absurd hkey (not_isGroup_of_isKey hrule.isKey)
  | group => exact ⟨_, rfl⟩

namespace Sheet

variable {sheet sheet' : Sheet}

/-- Two sheets are the same mapping at every level: they have the same keys,
selectors and names, with the same values, in whatever order. -/
def Agree (sheet sheet' : Sheet) : Prop := Table.Agree Item.Agree sheet sheet'

/-- A regular sheet has declarations at a selector, or nothing. -/
theorem get?_selector (regular : sheet.Regular) {key : String} (hkey : isKey key = false) :
    sheet.get? key = (sheet.declarations? none key).map .block := by
  rw [declarations?, hkey, if_neg Bool.false_ne_true]
  cases hitem : sheet.get? key with
  | none => rfl
  | some item =>
      obtain ⟨d, rfl⟩ := (regular_of_get? regular hitem).exists_block hkey
      rfl

/-- Regular sheets agree when they have the same keys and the same flat rules
and their declarations agree below every selector. -/
theorem agree_of_declarations? (regular : sheet.Regular) (regular' : sheet'.Regular)
    (keys : ∀ key, key ∈ sheet.keys ↔ key ∈ sheet'.keys)
    (flat : ∀ key, IsFlat key → sheet.get? key = sheet'.get? key)
    (declarations : ∀ condition selector, Option.Rel (Table.Agree Eq)
      (sheet.declarations? condition selector) (sheet'.declarations? condition selector)) :
    sheet.Agree sheet' := by
  intro key
  cases hkey : isKey key with
  | false =>
      have direct := declarations none key
      rw [get?_selector regular hkey, get?_selector regular' hkey]
      generalize sheet.declarations? none key = d, sheet'.declarations? none key = d' at direct ⊢
      cases direct with
      | none => exact .none
      | some h => exact .some (.block h)
  | true =>
      by_cases hkind : kindOf key = .group
      · have present := keys key
        rw [Table.mem_keys_iff, Table.mem_keys_iff] at present
        cases hitem : sheet.get? key with
        | none =>
            cases hitem' : sheet'.get? key with
            | none => exact .none
            | some item' =>
                obtain ⟨item, again⟩ := present.mpr ⟨item', hitem'⟩
                cases hitem.symm.trans again
        | some item =>
            obtain ⟨item', hitem'⟩ := present.mp ⟨item, hitem⟩
            obtain ⟨rules, rfl⟩ := (regular_of_get? regular hitem).exists_group ⟨hkey, hkind⟩
            obtain ⟨rules', rfl⟩ := (regular_of_get? regular' hitem').exists_group ⟨hkey, hkind⟩
            rw [hitem']
            refine .some (.group fun selector => ?_)
            have below := declarations (some key) selector
            rw [declarations?, declarations?, hitem, hitem'] at below
            exact below
      · rw [flat key ⟨hkey, hkind⟩]
        exact Table.agree_refl Item.agree_refl sheet' key

end Sheet

/-! ## §3. Interference. -/

/-- Whether a value is a list or a tuple. -/
def Value.isSeveral : Value → Bool
  | .list _ | .tuple _ => true
  | _ => false

theorem PropertyValue.isSome_scalar?_of_single {value : Value} {s : Scalar}
    (h : ofValue? value = some (.single s)) : value.scalar?.isSome = true := by
  cases value with
  | scalar => rfl
  | list items | tuple items =>
      rw [ofValue?, Option.map_eq_some_iff] at h
      obtain ⟨_, _, other⟩ := h
      cases other
  | _ => cases h

theorem PropertyValue.isSeveral_of_repeated {value : Value} {values : List Scalar}
    (h : ofValue? value = some (.repeated values)) : value.isSeveral = true := by
  cases value with
  | list | tuple => rfl
  | _ => cases h

deriving instance DecidableEq for Leaf

namespace Leaf

/-- Two leaves declare something for one selector under one condition. -/
def Meets (a b : Leaf) : Prop :=
  isKey a.key = false ∧ isKey b.key = false
    ∧ conditionOf a.path = conditionOf b.path ∧ selectorOf a.path = selectorOf b.path

/-- A leaf with several values of a property, and one with a single value of
a name that is the property's but for an ordinal marker. -/
def Numbers (a b : Leaf) : Prop :=
  a.value.isSeveral = true ∧ b.value.scalar?.isSome = true
    ∧ Declarations.isNumberedOf (ofKey a.key) (ofKey b.key) = true

/-- Two leaves interfere: they declare the same property at the same place,
or one several values of a property and the other one of these by its
numbered name; or they are one flat rule. -/
def Interferes (a b : Leaf) : Prop :=
  a.Meets b ∧ (ofKey a.key = ofKey b.key ∨ a.Numbers b ∨ b.Numbers a)
    ∨ IsFlat a.key ∧ a.key = b.key

instance (a b : Leaf) : Decidable (a.Meets b) := inferInstanceAs (Decidable (_ ∧ _ ∧ _ ∧ _))

instance (a b : Leaf) : Decidable (a.Numbers b) := inferInstanceAs (Decidable (_ ∧ _ ∧ _))

instance (a b : Leaf) : Decidable (a.Interferes b) := inferInstanceAs (Decidable (_ ∨ _))

/-- Whether a leaf decides what stands at a name below a selector. -/
def touches (condition : Option String) (selector name : String) (leaf : Leaf) : Bool :=
  (leaf.set? condition selector).any fun e => e.2.touches e.1 name

theorem touches_iff {condition : Option String} {selector name : String} {leaf : Leaf} :
    leaf.touches condition selector name = true ↔ leaf.Targets condition selector
      ∧ ∃ value, PropertyValue.ofValue? leaf.value = some value
        ∧ value.touches (ofKey leaf.key) name = true := by
  rw [touches, set?]
  split
  · next targets => cases PropertyValue.ofValue? leaf.value <;> simp [targets]
  · next not_targets => simp [not_targets]

/-- **Leaves that touch one name interfere.** -/
theorem interferes_of_touches {condition : Option String} {selector name : String} {a b : Leaf}
    (ha : a.touches condition selector name = true)
    (hb : b.touches condition selector name = true) : a.Interferes b := by
  obtain ⟨targets, value, hvalue, touched⟩ := touches_iff.mp ha
  obtain ⟨targets', value', hvalue', touched'⟩ := touches_iff.mp hb
  refine .inl ⟨⟨targets.1, targets'.1, targets.2.1.trans targets'.2.1.symm,
    targets.2.2.trans targets'.2.2.symm⟩, ?_⟩
  -- the name is the property of a single value, or a numbered name of that of several
  cases value with
  | single s =>
      have same : name = ofKey a.key := of_decide_eq_true touched
      cases value' with
      | single s' =>
          have same' : name = ofKey b.key := of_decide_eq_true touched'
          exact .inl (same.symm.trans same')
      | repeated values' =>
          rw [same] at touched'
          exact .inr (.inr ⟨PropertyValue.isSeveral_of_repeated hvalue',
            PropertyValue.isSome_scalar?_of_single hvalue, touched'⟩)
  | repeated values =>
      cases value' with
      | single s' =>
          have same' : name = ofKey b.key := of_decide_eq_true touched'
          rw [same'] at touched
          exact .inr (.inl ⟨PropertyValue.isSeveral_of_repeated hvalue,
            PropertyValue.isSome_scalar?_of_single hvalue', touched⟩)
      | repeated values' =>
          have base := (Declarations.isNumberedOf_iff.mp touched).2
          have base' := (Declarations.isNumberedOf_iff.mp touched').2
          exact .inl (base.symm.trans base')

end Leaf

/-! ## §4. Sheets of leaves in another order. -/

/-- Every two leaves that interfere stand in one list as they stand in the
other. -/
def KeepsOrder (leaves leaves' : List Leaf) : Prop :=
  ∀ a ∈ leaves, ∀ b ∈ leaves, a.Interferes b → occurrences a b leaves' = occurrences a b leaves

instance (leaves leaves' : List Leaf) : Decidable (KeepsOrder leaves leaves') :=
  inferInstanceAs (Decidable (∀ a ∈ leaves, ∀ b ∈ leaves, _ → _))

section Leaves

variable {leaves leaves' : List Leaf} {placements placements' : List Placement}

/-- The same setting of a name counts. -/
theorem lastTouching_eq_of_keepsOrder (hperm : leaves.Perm leaves')
    (order : KeepsOrder leaves leaves') (condition : Option String) (selector name : String) :
    Declarations.lastTouching (leaves'.filterMap (Leaf.set? condition selector)) name
      = Declarations.lastTouching (leaves.filterMap (Leaf.set? condition selector)) name := by
  have touching : leaves'.filter (Leaf.touches condition selector name)
      = leaves.filter (Leaf.touches condition selector name) :=
    filter_eq_of_occurrences_eq hperm _ fun a ha b hb touched touched' =>
      order a ha b hb (Leaf.interferes_of_touches touched touched')
  rw [Declarations.lastTouching, Declarations.lastTouching, filter_filterMap_eq,
    filter_filterMap_eq]
  exact congrArg (fun l => (l.filterMap (Leaf.set? condition selector)).getLast?) touching

/-- The same leaf of a flat rule counts. -/
theorem filterMap_flat?_eq_of_keepsOrder (hperm : leaves.Perm leaves')
    (order : KeepsOrder leaves leaves') (key : String) :
    leaves'.filterMap (Leaf.flat? key) = leaves.filterMap (Leaf.flat? key) := by
  have ruled : ∀ leaves : List Leaf, leaves.filterMap (Leaf.flat? key)
      = (leaves.filter fun leaf => IsFlat leaf.key ∧ leaf.key = key).filterMap Leaf.item? := by
    intro leaves
    rw [List.filterMap_filter]
    simp only [decide_eq_true_eq]
    rfl
  rw [ruled, ruled]
  refine congrArg _ (filter_eq_of_occurrences_eq hperm _ fun a ha b hb rule rule' => ?_)
  have rule := of_decide_eq_true rule
  have rule' := of_decide_eq_true rule'
  exact order a ha b hb (.inr ⟨rule.1, rule.2.trans rule'.2.symm⟩)

/-- The declarations of a selector agree, or there are none in either sheet. -/
theorem declarations?_agree_of_keepsOrder (h : List.Forall₂ Leaf.Makes leaves placements)
    (h' : List.Forall₂ Leaf.Makes leaves' placements') (hperm : leaves.Perm leaves')
    (order : KeepsOrder leaves leaves') (condition : Option String) (selector : String) :
    Option.Rel (Table.Agree Eq)
      ((Sheet.ofPlacements placements).declarations? condition selector)
      ((Sheet.ofPlacements placements').declarations? condition selector) := by
  rw [declarations?_of_makes h, declarations?_of_makes h']
  have same := lastTouching_eq_of_keepsOrder hperm order condition selector
  have perm := hperm.filterMap (Leaf.set? condition selector)
  -- there are settings in the one list just when there are some in the other
  cases hsets : leaves.filterMap (Leaf.set? condition selector) with
  | nil =>
      rw [hsets] at perm
      rw [← perm.nil_eq]
      exact .none
  | cons first rest =>
      cases hsets' : leaves'.filterMap (Leaf.set? condition selector) with
      | nil =>
          rw [hsets, hsets'] at perm
          exact absurd perm List.not_perm_cons_nil
      | cons first' rest' =>
          refine .some (Table.agree_of_get? fun name => ?_)
          rw [Declarations.get?_ofList, Declarations.get?_ofList, ← hsets, ← hsets', same]

/-- **Leaves in another order leave sheets that agree**, when those that
interfere keep their order. -/
theorem agree_of_makes (h : List.Forall₂ Leaf.Makes leaves placements)
    (h' : List.Forall₂ Leaf.Makes leaves' placements') (hperm : leaves.Perm leaves')
    (order : KeepsOrder leaves leaves') :
    (Sheet.ofPlacements placements).Agree (Sheet.ofPlacements placements') := by
  have placed := regular_of_makes h
  have placed' := regular_of_makes h'
  refine Sheet.agree_of_declarations? (Sheet.regular_ofPlacements placed)
    (Sheet.regular_ofPlacements placed') ?_ ?_ (declarations?_agree_of_keepsOrder h h' hperm order)
  · intro key
    rw [standsAt_of_makes h, standsAt_of_makes h']
    simp only [hperm.mem_iff]
  · intro key hflat
    rw [Sheet.get?_ofPlacements placed hflat.1 hflat.2,
      Sheet.get?_ofPlacements placed' hflat.1 hflat.2,
      filterMap_of_makes (fun _ _ makes => makes.flat? key) h,
      filterMap_of_makes (fun _ _ makes => makes.flat? key) h',
      filterMap_flat?_eq_of_keepsOrder hperm order key]

end Leaves

/-! ## §5. Entries in another order. -/

/-- The entries of a style block in another order, there or in style blocks
further down.  A key opens a style block unless it is a flat rule. -/
inductive Rearranged : List (Value × Value) → List (Value × Value) → Prop where
  /-- No entries. -/
  | nil : Rearranged [] []
  /-- Entries after the first. -/
  | cons (e : Value × Value) {rest rest'} (h : Rearranged rest rest') :
      Rearranged (e :: rest) (e :: rest')
  /-- Entries of the block that the first opens, and entries after it. -/
  | block {key : String} {block block' rest rest'} (hkey : ¬IsFlat key)
      (hblock : Rearranged block block') (hrest : Rearranged rest rest') :
      Rearranged ((.text key, .map block) :: rest) ((.text key, .map block') :: rest')
  /-- The first two entries change places. -/
  | swap (e e' : Value × Value) (rest) : Rearranged (e :: e' :: rest) (e' :: e :: rest)
  /-- One after the other. -/
  | trans {first second third} (h : Rearranged first second) (h' : Rearranged second third) :
      Rearranged first third

section Entries

variable {entries entries' : List (Value × Value)}

/-- The entries of one block may come in any order. -/
theorem Rearranged.of_perm (h : entries.Perm entries') : Rearranged entries entries' := by
  induction h with
  | nil => exact .nil
  | cons e _ ih => exact .cons e ih
  | swap e e' rest => exact .swap e' e rest
  | trans _ _ ih ih' => exact .trans ih ih'

/-- Leaves are rearranged with the entries above them. -/
theorem perm_leavesIn (h : Rearranged entries entries') :
    ∀ path, (leavesIn path entries).Perm (leavesIn path entries') := by
  induction h with
  | nil => exact fun path => .refl _
  | cons e h ih => exact fun path => (ih path).append_left _
  | @block key block block' rest rest' hkey _ _ ihblock ihrest =>
      intro path
      have inside : ∀ block, leavesAt path (.text key) (.map block)
          = leavesIn (path ++ [key]) block := by
        intro block
        show (if IsFlat key then _ else _) = _
        rw [if_neg hkey]
      show (leavesAt path _ _ ++ _).Perm (leavesAt path _ _ ++ _)
      rw [inside, inside]
      exact (ihblock _).append (ihrest path)
  | swap e e' rest => exact fun path => List.perm_append_comm_assoc _ _ _
  | trans _ _ ih ih' => exact fun path => (ih path).trans (ih' path)

/-- **A walk that succeeds does so in any order of the entries.** -/
theorem exists_result_walk_of_rearranged (h : Rearranged entries entries') :
    ∀ scope : Scope, scope.Valid → (∃ placements, (walk scope entries).result = .ok placements) →
      ∃ placements, (walk scope entries').result = .ok placements := by
  induction h with
  | nil => exact fun scope _ accepted => accepted
  | cons e _ ih =>
      intro scope hscope accepted
      obtain ⟨_, accepted⟩ := accepted
      obtain ⟨here, after, hhere, hafter, -⟩ := result_walk_cons_eq_ok accepted
      obtain ⟨after', hafter'⟩ := ih scope hscope ⟨after, hafter⟩
      exact ⟨_, result_walk_cons hhere hafter'⟩
  | @block key block block' rest rest' hkey _ _ ihblock ihrest =>
      intro scope hscope accepted
      obtain ⟨_, accepted⟩ := accepted
      obtain ⟨here, after, hhere, hafter, -⟩ := result_walk_cons_eq_ok accepted
      obtain ⟨after', hafter'⟩ := ihrest scope hscope ⟨after, hafter⟩
      rcases result_walkEntry_eq_ok hscope hhere with ⟨inner, _, hblock, fits, hwalk⟩ | leaf
      · obtain rfl := Value.map.inj hblock
        obtain ⟨here', hhere'⟩ := ihblock inner (fits.valid_of_opens hscope) ⟨here, hwalk⟩
        have entry : (walkEntry scope (.text key) (.map block')).result = .ok here' := by
          rw [result_walkEntry_of_opens (fits.opens_block block'), hhere']
        exact ⟨_, result_walk_cons entry hafter'⟩
      · -- a block that is a leaf is that of a flat rule
        obtain ⟨placement, fits, -⟩ := leaf
        cases fits with
        | declarations hat hkind _ _ => exact absurd (isFlat_of_kind hat hkind (by decide)) hkey
        | property _ hvalue _ _ => cases hvalue
  | swap e e' rest =>
      intro scope _ accepted
      obtain ⟨_, accepted⟩ := accepted
      obtain ⟨here, _, hhere, hafter, -⟩ := result_walk_cons_eq_ok accepted
      obtain ⟨here', after, hhere', hafter, -⟩ := result_walk_cons_eq_ok hafter
      exact ⟨_, result_walk_cons hhere' (result_walk_cons hhere hafter)⟩
  | trans _ _ ih ih' => exact fun scope hscope accepted => ih' scope hscope (ih scope hscope accepted)

end Entries

/-! ## §6. Trees. -/

/-- **Entries that do not interfere may change places.**  When the entries of
a tree that has a sheet are rearranged, in any of its style blocks, so that
every two leaves that interfere keep their order, then the tree has a sheet
again, and the two are the same mapping at every level. -/
theorem flatten_rearranged {entries entries' : List (Value × Value)} {sheet : Sheet}
    (h : (flatten (.map entries)).result = .ok sheet) (rearranged : Rearranged entries entries')
    (order : KeepsOrder (leavesOf (.map entries)) (leavesOf (.map entries'))) :
    ∃ sheet', (flatten (.map entries')).result = .ok sheet' ∧ sheet.Agree sheet' := by
  obtain ⟨placements, hwalk, rfl⟩ := result_flatten_eq_ok_iff.mp h
  obtain ⟨placements', hwalk'⟩ :=
    exists_result_walk_of_rearranged rearranged .root Scope.valid_root ⟨placements, hwalk⟩
  refine ⟨_, result_flatten_eq_ok_iff.mpr ⟨placements', hwalk', rfl⟩, ?_⟩
  exact agree_of_makes (makes_walk Scope.follows_root entries placements hwalk)
    (makes_walk Scope.follows_root entries' placements' hwalk') (perm_leavesIn rearranged []) order

/-- A selector with several values of a property, one of them written again,
and a property that is set twice under one condition. -/
def severalPlaces : List (Value × Value) :=
  [("@charset", "utf-8"),
    ("div", .map [("color", "red"), ("src", .list ["a", "b"]), ("src/*1*/", "c"),
      ("@media print", .map [("color", "blue"), ("top", "1px")])]),
    ("@media print", .map [("div", .map [("color", "green")])])]

/-- The same in another order, but for the two pairs of leaves that
interfere. -/
def otherPlaces : List (Value × Value) :=
  [("div", .map [("@media print", .map [("top", "1px"), ("color", "blue")]),
      ("src", .list ["a", "b"]), ("color", "red"), ("src/*1*/", "c")]),
    ("@media print", .map [("div", .map [("color", "green")])]), ("@charset", "utf-8")]

theorem flatten_rearranged_severalPlaces :
    ∃ sheet sheet', (flatten (.map severalPlaces)).result = .ok sheet
      ∧ Rearranged severalPlaces otherPlaces
      ∧ KeepsOrder (leavesOf (.map severalPlaces)) (leavesOf (.map otherPlaces))
      ∧ (flatten (.map otherPlaces)).result = .ok sheet' ∧ sheet.Agree sheet' := by
  obtain ⟨sheet, accepted⟩ :=
    Traced.exists_result_of_isSome (x := flatten (.map severalPlaces)) (by decide +kernel)
  have order : KeepsOrder (leavesOf (.map severalPlaces)) (leavesOf (.map otherPlaces)) := by
    decide +kernel
  -- the grouping rule goes first in the block of the selector, and then its own two entries
  -- change places; at last the entries of the tree do
  have front : Rearranged
      [("color", "red"), ("src", .list ["a", "b"]), ("src/*1*/", "c"),
        ("@media print", .map [("color", "blue"), ("top", "1px")])]
      [("@media print", .map [("color", "blue"), ("top", "1px")]), ("src", .list ["a", "b"]),
        ("color", "red"), ("src/*1*/", "c")] :=
    .of_perm (by decide +kernel)
  have inside : Rearranged
      [("@media print", .map [("color", "blue"), ("top", "1px")]), ("src", .list ["a", "b"]),
        ("color", "red"), ("src/*1*/", "c")]
      [("@media print", .map [("top", "1px"), ("color", "blue")]), ("src", .list ["a", "b"]),
        ("color", "red"), ("src/*1*/", "c")] :=
    .block (by decide) (.swap _ _ _) (.of_perm (.refl _))
  have rearranged : Rearranged severalPlaces otherPlaces :=
    .trans (.cons _ (.block (by decide) (.trans front inside) (.of_perm (.refl _))))
      (.of_perm (by decide +kernel))
  obtain ⟨sheet', accepted', agree⟩ := flatten_rearranged accepted rearranged order
  exact ⟨sheet, sheet', accepted, rearranged, order, accepted', agree⟩

end Stylesheet
