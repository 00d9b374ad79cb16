/-
  Stylesheet.Proofs.Revalued
  ──────────────────────────
  **VALUES PASS THROUGH UNTOUCHED.**

  Flattening never looks at what a scalar is, only at where it stands.  So
  another scalar may be put in the place of every scalar of a tree, keys
  left alone, and flattening keeps step: the sheet has the new scalars in the
  places of the old ones, under the same keys in the same order, and a fault
  is of the same family and has the same place.

  Main statements:
    * `Declarations.mapValues_set`, `Sheet.mapScalars_ofPlacements` — one
      setting, and all placements, with other scalars;
    * `Fits.places_mapScalars`, `Violation.mapScalars` — one visit;
    * `told_walk_mapScalars` — a walk;
    * `flatten_mapScalars` — a tree.
-/
import Stylesheet.Proofs.Outcome
import Stylesheet.Proofs.SecondPass

namespace Stylesheet

open AtRule Condition Property

/-! ## §1. Other scalars in the place of those that are there. -/

namespace Value

mutual

/-- A value with `f` applied to every scalar in it that is no key. -/
def mapScalars (f : Scalar → Scalar) : Value → Value
  | .null => .null
  | .bool b => .bool b
  | .scalar s => .scalar (f s)
  | .list items => .list (mapScalarsOf f items)
  | .tuple items => .tuple (mapScalarsOf f items)
  | .map entries => .map (mapScalarsIn f entries)

/-- Items with `f` applied to every scalar. -/
def mapScalarsOf (f : Scalar → Scalar) : List Value → List Value
  | [] => []
  | v :: rest => v.mapScalars f :: mapScalarsOf f rest

/-- Entries with `f` applied to every scalar in their values. -/
def mapScalarsIn (f : Scalar → Scalar) : List (Value × Value) → List (Value × Value)
  | [] => []
  | (k, v) :: rest => (k, v.mapScalars f) :: mapScalarsIn f rest

end

theorem mapScalarsIn_eq_map (f : Scalar → Scalar) (entries : List (Value × Value)) :
    mapScalarsIn f entries = entries.map fun e => (e.1, e.2.mapScalars f) := by
  induction entries with
  | nil => rfl
  | cons e rest ih =>
      obtain ⟨k, v⟩ := e
      rw [mapScalarsIn, List.map_cons, ih]

end Value

/-- What a property is set to, with `f` applied to every scalar. -/
def PropertyValue.map (f : Scalar → Scalar) : PropertyValue → PropertyValue
  | .single value => .single (f value)
  | .repeated values => .repeated (values.map f)

/-- An item with `f` applied to every scalar. -/
def Item.mapScalars (f : Scalar → Scalar) : Item → Item
  | .statement value => .statement (f value)
  | .block declarations => .block (declarations.mapValues f)
  | .group rules => .group (rules.mapValues fun declarations => declarations.mapValues f)

/-- A sheet with `f` applied to every scalar.  Its keys are the same, in the
same order. -/
def Sheet.mapScalars (f : Scalar → Scalar) (sheet : Sheet) : Sheet :=
  sheet.mapValues (Item.mapScalars f)

/-- A placement with `f` applied to every scalar. -/
def Placement.mapScalars (f : Scalar → Scalar) : Placement → Placement
  | .flatRule key item => .flatRule key (item.mapScalars f)
  | .declaration condition selector name value =>
      .declaration condition selector name (value.map f)

variable (f : Scalar → Scalar)

/-! ## §2. Tables. -/

namespace Table

variable {α β γ : Type} [DecidableEq α]

/-- A write goes through a change of all values, when what it writes does. -/
theorem mapValues_write {g : β → γ} {w : Option β → β} {w' : Option γ → γ}
    (h : ∀ b?, g (w b?) = w' (b?.map g)) (t : Table α β) (key : α) :
    (t.write key w).mapValues g = (t.mapValues g).write key w' := by
  refine Table.ext ?_
  show (Entries.write key w t.entries).map (fun e => (e.1, g e.2))
    = Entries.write key w' (t.entries.map fun e => (e.1, g e.2))
  induction t.entries with
  | nil => simp [Entries.write, h]
  | cons e rest ih =>
      obtain ⟨k, b⟩ := e
      by_cases here : k = key
      · simp [Entries.write, here, h]
      · simp [Entries.write, here, ih]

theorem mapValues_insert (g : β → γ) (t : Table α β) (key : α) (b : β) :
    (t.insert key b).mapValues g = (t.mapValues g).insert key (g b) := by
  show (t.write key fun _ => b).mapValues g = (t.mapValues g).write key fun _ => g b
  refine mapValues_write ?_ t key
  intro b?
  rfl

theorem mapValues_insertAll (g : β → γ) (t : Table α β) (entries : List (α × β)) :
    (t.insertAll entries).mapValues g
      = (t.mapValues g).insertAll (entries.map fun e => (e.1, g e.2)) := by
  induction entries generalizing t with
  | nil => rfl
  | cons e rest ih =>
      have step : (t.insertAll (e :: rest)) = (t.insert e.1 e.2).insertAll rest := rfl
      rw [step, ih, mapValues_insert]
      rfl

omit [DecidableEq α] in
theorem mapValues_mapValues {δ : Type} (g : β → γ) (h : γ → δ) (t : Table α β) :
    (t.mapValues g).mapValues h = t.mapValues fun b => h (g b) :=
  Table.ext List.map_map

omit [DecidableEq α] in
theorem mapValues_filterKeys (g : β → γ) (p : α → Bool) (t : Table α β) :
    (t.filterKeys p).mapValues g = (t.mapValues g).filterKeys p := by
  refine Table.ext ?_
  show (t.entries.filter fun e => p e.1).map (fun e => (e.1, g e.2))
    = (t.entries.map fun e => (e.1, g e.2)).filter fun e => p e.1
  rw [List.filter_map]
  rfl

end Table

/-! ## §3. Settings and placements. -/

/-- **One setting with other scalars.**  What it takes away hangs on names
alone. -/
theorem Declarations.mapValues_set (d : Declarations) (name : String) (value : PropertyValue) :
    (d.set name value).mapValues f = Declarations.set (d.mapValues f) name (value.map f) := by
  cases value with
  | single v => exact Table.mapValues_insert f d name v
  | repeated values =>
      show ((d.filterKeys _).insertAll _).mapValues f
        = ((d.mapValues f).filterKeys _).insertAll (numberAll name (values.map f))
      rw [Table.mapValues_insertAll, Table.mapValues_filterKeys, numberAll_map]

theorem Declarations.mapValues_ofList (sets : List (String × PropertyValue)) :
    (ofList sets).mapValues f = ofList (sets.map fun e => (e.1, e.2.map f)) := by
  induction sets using List.reverseRecOn with
  | nil => rfl
  | append_singleton front e ih =>
      rw [ofList_concat, mapValues_set, ih, List.map_append, List.map_singleton, ofList_concat]

namespace Sheet

/-- What a declaration makes of an item with other scalars. -/
theorem mapScalars_block (item? : Option Item) (name : String) (value : PropertyValue) :
    Item.mapScalars f (.block (Declarations.set (item?.elim ∅ Item.declarations) name value))
      = .block (Declarations.set ((item?.map (Item.mapScalars f)).elim ∅ Item.declarations) name
          (value.map f)) := by
  have present : Table.mapValues f (item?.elim ∅ Item.declarations)
      = (item?.map (Item.mapScalars f)).elim ∅ Item.declarations := by
    cases item? with
    | none => rfl
    | some item => cases item <;> rfl
  rw [← present, ← Declarations.mapValues_set]
  rfl

/-- The same below a selector of a grouping rule. -/
theorem mapScalars_group (item? : Option Item) (selector name : String) (value : PropertyValue) :
    Item.mapScalars f (.group ((item?.elim ∅ Item.rules).write selector fun declarations? =>
        Declarations.set (declarations?.getD ∅) name value))
      = .group (((item?.map (Item.mapScalars f)).elim ∅ Item.rules).write selector
          fun declarations? => Declarations.set (declarations?.getD ∅) name (value.map f)) := by
  have present : Table.mapValues (fun declarations : Declarations => declarations.mapValues f)
      (item?.elim ∅ Item.rules) = (item?.map (Item.mapScalars f)).elim ∅ Item.rules := by
    cases item? with
    | none => rfl
    | some item => cases item <;> rfl
  rw [← present]
  refine congrArg Item.group (Table.mapValues_write ?_ _ selector)
  intro declarations?
  rw [Declarations.mapValues_set]
  cases declarations? <;> rfl

/-- **A placement with other scalars.** -/
theorem mapScalars_place (sheet : Sheet) (placement : Placement) :
    (sheet.place placement).mapScalars f
      = (sheet.mapScalars f).place (placement.mapScalars f) := by
  cases placement with
  | flatRule key item => exact Table.mapValues_insert (Item.mapScalars f) sheet key item
  | declaration condition selector name value =>
      cases condition with
      | none =>
          exact Table.mapValues_write (fun item? => mapScalars_block f item? name value) sheet
            selector
      | some c =>
          exact Table.mapValues_write (fun item? => mapScalars_group f item? selector name value)
            sheet c

theorem mapScalars_ofPlacements (placements : List Placement) :
    (ofPlacements placements).mapScalars f
      = ofPlacements (placements.map (Placement.mapScalars f)) := by
  induction placements using List.reverseRecOn with
  | nil => rfl
  | append_singleton front placement ih =>
      rw [ofPlacements_concat, mapScalars_place, ih, List.map_append, List.map_singleton,
        ofPlacements_concat]

end Sheet

/-! ## §4. Values of properties and flat rules. -/

theorem Value.scalar?_mapScalars (value : Value) :
    (value.mapScalars f).scalar? = value.scalar?.map f := by
  cases value <;> rfl

theorem Value.scalars?_mapScalarsOf (items : List Value) :
    Value.scalars? (Value.mapScalarsOf f items) = (Value.scalars? items).map (List.map f) := by
  unfold Value.scalars?
  induction items with
  | nil => rfl
  | cons item rest ih =>
      rw [Value.mapScalarsOf, List.mapM_cons, List.mapM_cons, Value.scalar?_mapScalars, ih]
      cases item.scalar? with
      | none => rfl
      | some s => cases rest.mapM Value.scalar? <;> rfl

/-- What a value sets a property to, with other scalars. -/
theorem PropertyValue.ofValue?_mapScalars (value : Value) :
    PropertyValue.ofValue? (value.mapScalars f) = (PropertyValue.ofValue? value).map (.map f) := by
  cases value with
  | list items | tuple items =>
      show (Value.scalars? (Value.mapScalarsOf f items)).map PropertyValue.repeated = _
      rw [Value.scalars?_mapScalarsOf]
      show _ = ((Value.scalars? items).map PropertyValue.repeated).map _
      cases Value.scalars? items <;> rfl
  | _ => rfl

theorem Value.setsProperty_mapScalars (value : Value) :
    (value.mapScalars f).SetsProperty ↔ value.SetsProperty := by
  rw [← PropertyValue.isSome_ofValue?, ← PropertyValue.isSome_ofValue?,
    PropertyValue.ofValue?_mapScalars, Option.isSome_map]

theorem Value.entries?_mapScalars (value : Value) :
    (value.mapScalars f).entries? = value.entries?.map (Value.mapScalarsIn f) := by
  cases value <;> rfl

/-- What the entries of a flat rule's block set, with other scalars. -/
theorem declarationsIn_mapScalarsIn (entries : List (Value × Value)) :
    declarationsIn (Value.mapScalarsIn f entries)
      = (declarationsIn entries).map fun e => (e.1, e.2.map f) := by
  rw [Value.mapScalarsIn_eq_map, declarationsIn, declarationsIn, List.filterMap_map,
    List.map_filterMap]
  refine List.filterMap_congr fun e _ => ?_
  show (e.1.text?.bind fun name =>
    (PropertyValue.ofValue? (e.2.mapScalars f)).bind fun value => some (name, value)) = _
  rw [PropertyValue.ofValue?_mapScalars]
  cases e.1.text? with
  | none => rfl
  | some name => cases PropertyValue.ofValue? e.2 <;> rfl

theorem Value.declares_mapScalars (name value : Value) :
    name.Declares (value.mapScalars f) ↔ name.Declares value :=
  and_congr_right fun _ => Value.setsProperty_mapScalars f value

/-- The declarations of a flat rule with other scalars are declarations. -/
theorem declares_mapScalarsIn {entries : List (Value × Value)}
    (h : ∀ e ∈ entries, e.1.Declares e.2) :
    ∀ e ∈ Value.mapScalarsIn f entries, e.1.Declares e.2 := by
  intro e he
  rw [Value.mapScalarsIn_eq_map] at he
  obtain ⟨old, hold, rfl⟩ := List.mem_map.mp he
  exact (Value.declares_mapScalars f old.1 old.2).mpr (h old hold)

/-! ## §5. One visit. -/

section Visits

variable {f} {scope : Scope} {key value : Value}

/-- **An entry that makes a placement makes it with other scalars.** -/
theorem Fits.places_mapScalars {placement : Placement} (h : Fits scope key value (.places placement)) :
    Fits scope key (value.mapScalars f) (.places (placement.mapScalars f)) := by
  cases h with
  | statement hkey hkind htop => exact .statement hkey hkind htop
  | @declarations key entries hkey hkind htop hentries =>
      have fits : Fits scope (.text key) (.map (Value.mapScalarsIn f entries)) _ :=
        .declarations hkey hkind htop (declares_mapScalarsIn f hentries)
      rw [declarationsIn_mapScalarsIn, ← Declarations.mapValues_ofList] at fits
      exact fits
  | @property key value set hkey hvalue hselector hset =>
      refine .property hkey ?_ hselector ?_
      · rw [Value.entries?_mapScalars, hvalue]
        rfl
      · rw [PropertyValue.ofValue?_mapScalars, hset]
        rfl

/-- An entry inside a mapping stands where it stood. -/
theorem Value.mapScalars_split (f : Scalar → Scalar) (before after : List (Value × Value))
    (name value : Value) :
    (Value.map (before ++ (name, value) :: after)).mapScalars f
      = .map (Value.mapScalarsIn f before
          ++ (name, value.mapScalars f) :: Value.mapScalarsIn f after) := by
  rw [Value.mapScalars, Value.mapScalarsIn_eq_map, List.map_append, List.map_cons,
    ← Value.mapScalarsIn_eq_map, ← Value.mapScalarsIn_eq_map]

/-- **A violation is one with other scalars**, of the same family and with the
same place. -/
theorem Violation.mapScalars {family : Family} {path : Option (List String)} {fault : Fault}
    (h : Violation scope key value family path fault) :
    ∃ other, Violation scope key (value.mapScalars f) family path other := by
  have no_block : ∀ value : Value, value.entries? = none → (value.mapScalars f).entries? = none := by
    intro value hvalue
    rw [Value.entries?_mapScalars, hvalue]
    rfl
  cases h with
  | keyNotText hkey hwritable => exact ⟨_, .keyNotText hkey hwritable⟩
  | keyTooLong hkey hlong => exact ⟨_, .keyTooLong hkey hlong⟩
  | groupNotBlock hkey hvalue => exact ⟨_, .groupNotBlock hkey (no_block _ hvalue)⟩
  | differentNames hkey hactive houter hinner hne =>
      exact ⟨_, .differentNames hkey hactive houter hinner hne⟩
  | nestedFlatRule hkey hkind hnested => exact ⟨_, .nestedFlatRule hkey hkind hnested⟩
  | notSingleValue hkey hkind htop hvalue =>
      refine ⟨_, .notSingleValue hkey hkind htop ?_⟩
      rw [Value.scalar?_mapScalars, hvalue]
      rfl
  | notDeclarationBlock hkey hkind htop hvalue =>
      exact ⟨_, .notDeclarationBlock hkey hkind htop (no_block _ hvalue)⟩
  | @flatDeclaration key before name value after hkey hkind htop hbefore hbad hwritable =>
      rw [Value.mapScalars_split]
      refine ⟨_, .flatDeclaration hkey hkind htop (declares_mapScalarsIn f hbefore) ?_ hwritable⟩
      rw [Value.declares_mapScalars]
      exact hbad
  | @nameTooLong key before name value after hkey hkind htop hbefore hbad hlong =>
      rw [Value.mapScalars_split]
      refine ⟨_, .nameTooLong hkey hkind htop (declares_mapScalarsIn f hbefore) ?_ hlong⟩
      rw [Value.declares_mapScalars]
      exact hbad
  | looseProperty hkey hvalue hselector =>
      exact ⟨_, .looseProperty hkey (no_block _ hvalue) hselector⟩
  | propertyValue hkey hvalue hselector hbad =>
      refine ⟨_, .propertyValue hkey (no_block _ hvalue) hselector ?_⟩
      rw [Value.setsProperty_mapScalars]
      exact hbad

end Visits

/-! ## §6. Walks. -/

/-- The family of a fault and its place, without the wording. -/
def LocatedFault.familyAndPath (error : LocatedFault) : Family × Option (List String) :=
  (error.fault.family, error.path)

/-- A walk over other scalars keeps step, in the same scopes. -/
theorem keepsStep_mapScalars :
    KeepsStep LocatedFault.familyAndPath Eq (Value.mapScalars f) (Placement.mapScalars f) where
  map := by
    intro entries
    rw [Value.mapScalars, Value.mapScalarsIn_eq_map]
  opens := by
    intro scope other inner key entries same fits
    subst same
    exact ⟨inner, fits.opens_block _, rfl⟩
  places := by
    intro scope other key value placement same fits
    subst same
    exact fits.places_mapScalars
  violation := by
    intro scope other key value family path fault same violation
    subst same
    obtain ⟨fault', violation'⟩ := violation.mapScalars (f := f)
    refine ⟨family, path, fault', violation', ?_⟩
    rw [LocatedFault.familyAndPath, LocatedFault.familyAndPath, family_of_violation violation,
      family_of_violation violation']

/-- **A walk keeps step when the scalars are others.** -/
theorem told_walk_mapScalars {scope : Scope} (hscope : scope.Valid)
    (entries : List (Value × Value)) :
    (walk scope (Value.mapScalarsIn f entries)).told LocatedFault.familyAndPath
      = ((walk scope entries).told LocatedFault.familyAndPath).map
          (List.map (Placement.mapScalars f)) := by
  rw [Value.mapScalarsIn_eq_map]
  exact (keepsStep_mapScalars f).told_walk hscope rfl entries

/-! ## §7. Trees. -/

theorem Value.mapScalars_ofTextTable (t : Table String Value) :
    (Value.ofTextTable t).mapScalars f = .ofTextTable (t.mapValues (Value.mapScalars f)) := by
  rw [Value.ofTextTable, Value.mapScalars, Value.mapScalarsIn_eq_map, Value.ofTextTable,
    Table.mapValues, List.map_map, List.map_map]
  rfl

theorem Declarations.toValue_mapValues (d : Declarations) :
    Declarations.toValue (d.mapValues f) = d.toValue.mapScalars f := by
  rw [toValue, toValue, Value.mapScalars_ofTextTable, Table.mapValues_mapValues,
    Table.mapValues_mapValues]
  rfl

theorem Item.toValue_mapScalars (item : Item) :
    (item.mapScalars f).toValue = item.toValue.mapScalars f := by
  cases item with
  | statement value => rfl
  | block d => exact Declarations.toValue_mapValues f d
  | group rules =>
      rw [mapScalars, toValue, toValue, Value.mapScalars_ofTextTable, Table.mapValues_mapValues,
        Table.mapValues_mapValues, funext (Declarations.toValue_mapValues f)]

/-- **A sheet with other scalars, as a mapping.** -/
theorem Sheet.toValue_mapScalars (sheet : Sheet) :
    (sheet.mapScalars f).toValue = sheet.toValue.mapScalars f := by
  rw [toValue, mapScalars, toValue, Value.mapScalars_ofTextTable, Table.mapValues_mapValues,
    Table.mapValues_mapValues, funext (Item.toValue_mapScalars f)]

/-- Flattening keeps step when the scalars are others. -/
theorem told_flatten_mapScalars (tree : Value) :
    (flatten (tree.mapScalars f)).told LocatedFault.familyAndPath
      = ((flatten tree).told LocatedFault.familyAndPath).map (Sheet.mapScalars f) := by
  cases tree with
  | map entries =>
      rw [Value.mapScalars, told_flatten_map, told_flatten_map,
        told_walk_mapScalars f Scope.valid_root]
      cases (walk .root entries).told LocatedFault.familyAndPath with
      | error e => rfl
      | ok placements => exact congrArg Except.ok (Sheet.mapScalars_ofPlacements f placements).symm
  | _ => rfl

/-- **Values pass through untouched.**  With other scalars in the place of
those that are there, a tree that is accepted is accepted still, and its
sheet is the same but for the new scalars, which stand at the same keys in
the same order.  A tree that is not accepted fails still, with a fault of the
same family at the same place. -/
theorem flatten_mapScalars (tree : Value) :
    (∀ sheet, (flatten tree).result = .ok sheet →
      (flatten (tree.mapScalars f)).result = .ok (sheet.mapScalars f)
        ∧ (sheet.mapScalars f).toValue = sheet.toValue.mapScalars f)
    ∧ ∀ error, (flatten tree).result = .error error →
      ∃ other, (flatten (tree.mapScalars f)).result = .error other
        ∧ other.fault.family = error.fault.family ∧ other.path = error.path := by
  have step := told_flatten_mapScalars f tree
  constructor
  · intro sheet h
    rw [Traced.told_of_ok _ h] at step
    exact ⟨(Traced.told_eq_ok_iff _).mp step, Sheet.toValue_mapScalars f sheet⟩
  · intro error h
    rw [Traced.told_of_error _ h] at step
    obtain ⟨other, hother, same⟩ := (Traced.told_eq_error_iff _).mp step
    exact ⟨other, hother, congrArg Prod.fst same, congrArg Prod.snd same⟩

/-- A tree with scalars wherever they can stand. -/
def scalarsEverywhere : Value :=
  .map [("@charset", "utf-8"), ("@font-face", .map [("src", .list ["u", "v"]), ("top", "1px")]),
    ("p", .map [("a", .map [("color", "red"), ("minWidth", .tuple [.scalar (.int 1)])]),
      ("@media print", .map [("color", .list ["red"]), ("top", "2px")])])]

theorem flatten_mapScalars_everywhere :
    ∃ sheet, (flatten scalarsEverywhere).result = .ok sheet
      ∧ (flatten (scalarsEverywhere.mapScalars fun _ => .int 0)).result
          = .ok (sheet.mapScalars fun _ => .int 0) := by
  have accepted : (flatten scalarsEverywhere).result = .ok _ := rfl
  have others := (flatten_mapScalars (fun _ => .int 0) scalarsEverywhere).1 _ accepted
  exact ⟨_, accepted, others.1⟩

end Stylesheet
