/-
  Stylesheet.Proofs.Visit
  ───────────────────────
  **WHAT A VISIT COMES TO.**

  An entry either fits into its scope, and then opens a block or makes a
  placement, or it has a violation.  Both sides are stated without regard to
  the order in which a visit checks things, so that what follows about walks
  never looks into `visit` again.  Events play no part: only results are
  compared.

  Main statements:
    * `result_mapM_flatDeclaration` — the block of a flat rule becomes the
      declarations that its entries set;
    * `result_visit_of_fits`, `result_visit_of_violation` — the two outcomes
      of a visit;
    * `fits_or_violation` — there is no third;
    * `result_walkEntry_eq_ok` — what a walk over one entry can leave.
-/
import Stylesheet.Proofs.Rule

namespace Stylesheet

open AtRule Condition

/-! ## §1. Results of runs. -/

namespace Traced

variable {α β : Type}

theorem result_bind_of_ok {x : Traced α} {a : α} (h : x.result = .ok a) (f : α → Traced β) :
    (x >>= f).result = (f a).result := by
  rw [result_bind, h]
  rfl

theorem result_bind_of_error {x : Traced α} {e : LocatedFault} (h : x.result = .error e)
    (f : α → Traced β) : (x >>= f).result = .error e := by
  rw [result_bind, h]
  rfl

theorem events_bind_of_ok {x : Traced α} {a : α} (h : x.result = .ok a) (f : α → Traced β) :
    (x >>= f).events = x.events ++ (f a).events := by
  show (Traced.bind x f).events = _
  rw [Traced.bind, h]

/-- A run in two steps succeeds when both do. -/
theorem result_bind_eq_ok_iff {x : Traced α} {f : α → Traced β} {b : β} :
    (x >>= f).result = .ok b ↔ ∃ a, x.result = .ok a ∧ (f a).result = .ok b := by
  cases hx : x.result with
  | error e =>
      rw [result_bind_of_error hx]
      simp
  | ok a =>
      rw [result_bind_of_ok hx]
      simp

/-- The result of a run over a list is the run of the results. -/
theorem result_mapM (f : α → Traced β) (items : List α) :
    (items.mapM f).result = items.mapM fun a => (f a).result := by
  induction items with
  | nil => rfl
  | cons a rest ih =>
      rw [List.mapM_cons, List.mapM_cons, result_bind]
      cases (f a).result with
      | error e => rfl
      | ok b =>
          show (rest.mapM f >>= fun bs => pure (b :: bs)).result = _
          rw [result_bind, ih]
          rfl

end Traced

/-! ## §2. Values of properties. -/

/-- The values that can stand behind a property: a scalar, or a list or a
tuple of scalars. -/
def Value.SetsProperty : Value → Prop
  | .scalar _ => True
  | .list items | .tuple items => ∀ item ∈ items, ∃ s, item = .scalar s
  | _ => False

theorem Value.scalars?_eq_some_iff {items : List Value} {scalars : List Scalar} :
    Value.scalars? items = some scalars ↔ items = scalars.map .scalar := by
  induction items generalizing scalars with
  | nil => cases scalars <;> simp [Value.scalars?]
  | cons item rest ih =>
      have step : Value.scalars? (item :: rest)
          = item.scalar?.bind fun s => (Value.scalars? rest).map (s :: ·) := by
        rw [Value.scalars?, List.mapM_cons]
        cases item.scalar? with
        | none => rfl
        | some s =>
            rw [Value.scalars?]
            cases rest.mapM Value.scalar? <;> rfl
      rw [step]
      cases item with
      | scalar s =>
          cases scalars with
          | nil => simp [Value.scalar?]
          | cons t ts => simp [Value.scalar?, ih, and_comm]
      | _ => cases scalars <;> simp [Value.scalar?]

theorem Value.scalars?_isSome_iff {items : List Value} :
    (Value.scalars? items).isSome = true ↔ ∀ item ∈ items, ∃ s, item = .scalar s := by
  rw [Option.isSome_iff_exists]
  constructor
  · intro ⟨scalars, h⟩ item hitem
    rw [Value.scalars?_eq_some_iff] at h
    rw [h] at hitem
    obtain ⟨s, -, rfl⟩ := List.mem_map.mp hitem
    exact ⟨s, rfl⟩
  · intro h
    induction items with
    | nil => exact ⟨[], rfl⟩
    | cons item rest ih =>
        obtain ⟨s, rfl⟩ := h item List.mem_cons_self
        obtain ⟨ss, hss⟩ := ih fun i hi => h i (List.mem_cons_of_mem _ hi)
        rw [Value.scalars?_eq_some_iff] at hss
        exact ⟨s :: ss, Value.scalars?_eq_some_iff.mpr (by rw [hss]; rfl)⟩

theorem PropertyValue.isSome_ofValue? (value : Value) :
    (PropertyValue.ofValue? value).isSome = true ↔ value.SetsProperty := by
  cases value with
  | list items =>
      show (Option.map _ (Value.scalars? items)).isSome = true ↔ _
      rw [Option.isSome_map]
      exact Value.scalars?_isSome_iff
  | tuple items =>
      show (Option.map _ (Value.scalars? items)).isSome = true ↔ _
      rw [Option.isSome_map]
      exact Value.scalars?_isSome_iff
  | _ => simp [PropertyValue.ofValue?, Value.SetsProperty]

theorem PropertyValue.ofValue?_eq_none {value : Value} (h : ¬value.SetsProperty) :
    PropertyValue.ofValue? value = none := by
  rw [← PropertyValue.isSome_ofValue?] at h
  simpa using h

/-! ## §3. Flat rules. -/

/-- Whether an entry of a flat rule's block is a declaration. -/
def Value.Declares (name value : Value) : Prop := (∃ n, name = .text n) ∧ value.SetsProperty

/-- What the entries of a flat rule's block set, those that are declarations. -/
def declarationsIn (entries : List (Value × Value)) : List (String × PropertyValue) :=
  entries.filterMap fun e => do return (← e.1.text?, ← PropertyValue.ofValue? e.2)

theorem Value.text?_eq_some_iff {value : Value} {s : String} :
    value.text? = some s ↔ value = .text s := by
  cases value with
  | scalar scalar => cases scalar <;> simp [Value.text?, Value.text]
  | _ => simp [Value.text?, Value.text]

/-- A declaration sets what `declarationsIn` says. -/
theorem result_flatDeclaration_of_declares {name value : Value} (h : name.Declares value)
    (key : String) (path : List String) :
    ∃ set, (flatDeclaration key path name value).result = .ok set
      ∧ ∀ rest, declarationsIn ((name, value) :: rest) = set :: declarationsIn rest := by
  obtain ⟨⟨n, rfl⟩, hv⟩ := h
  obtain ⟨set, hset⟩ := Option.isSome_iff_exists.mp
    ((PropertyValue.isSome_ofValue? value).mpr hv)
  refine ⟨(n, set), ?_, ?_⟩
  · rw [flatDeclaration, hset]
    rfl
  · intro rest
    rw [declarationsIn, List.filterMap_cons, hset]
    rfl

/-- Any other entry writes its name, which may not be possible. -/
theorem flatDeclaration_of_not {name value : Value} (h : ¬name.Declares value)
    (key : String) (path : List String) :
    flatDeclaration key path name value
      = (do .fail (some (path ++ [← .print name])) (.flatDeclaration key)) := by
  unfold flatDeclaration
  split
  · next n set hn hset =>
    refine absurd ⟨⟨n, Value.text?_eq_some_iff.mp hn⟩, ?_⟩ h
    rw [← PropertyValue.isSome_ofValue?, hset]
    rfl
  · rfl

/-- The fault of an entry that is no declaration: it has a place only if the
name can be written. -/
def flatDeclarationFault (key : String) (path : List String) (name : Value) : LocatedFault :=
  if name.isWritable then ⟨.flatDeclaration key, some (path ++ [name.printed])⟩
  else ⟨.tooManyDigits, none⟩

theorem result_flatDeclaration_of_not {name value : Value} (h : ¬name.Declares value)
    (key : String) (path : List String) :
    (flatDeclaration key path name value).result
      = .error (flatDeclarationFault key path name) := by
  rw [flatDeclaration_of_not h, flatDeclarationFault, Traced.print]
  cases name.isWritable <;> rfl

/-- **The block of a flat rule becomes the declarations that its entries
set.** -/
theorem result_mapM_flatDeclaration {entries : List (Value × Value)}
    (h : ∀ e ∈ entries, e.1.Declares e.2) (key : String) (path : List String) :
    (entries.mapM fun e => flatDeclaration key path e.1 e.2).result
      = .ok (declarationsIn entries) := by
  rw [Traced.result_mapM]
  induction entries with
  | nil => rfl
  | cons e rest ih =>
      obtain ⟨set, hresult, hset⟩ :=
        result_flatDeclaration_of_declares (h e List.mem_cons_self) key path
      rw [List.mapM_cons, hresult, ih fun b hb => h b (List.mem_cons_of_mem _ hb), hset]
      rfl

/-- The first entry that is no declaration fails. -/
theorem result_mapM_flatDeclaration_of_not {before after : List (Value × Value)}
    {name value : Value} (hbefore : ∀ e ∈ before, e.1.Declares e.2)
    (hbad : ¬name.Declares value) (key : String) (path : List String) :
    ((before ++ (name, value) :: after).mapM
        fun e => flatDeclaration key path e.1 e.2).result
      = .error (flatDeclarationFault key path name) := by
  rw [Traced.result_mapM]
  induction before with
  | nil =>
      rw [List.nil_append, List.mapM_cons, result_flatDeclaration_of_not hbad]
      rfl
  | cons e rest ih =>
      obtain ⟨set, hresult, -⟩ :=
        result_flatDeclaration_of_declares (hbefore e List.mem_cons_self) key path
      rw [List.cons_append, List.mapM_cons, hresult,
        ih fun b hb => hbefore b (List.mem_cons_of_mem _ hb)]
      rfl

/-! ## §4. The two sides of a visit. -/

namespace Scope

theorem isTop_iff {scope : Scope} :
    scope.isTop = true ↔ scope.selector = "" ∧ scope.condition = none := by
  simp [isTop]

/-- A scope as walks meet it: its condition is the key of a grouping rule,
its selector is no at-rule. -/
structure Valid (scope : Scope) : Prop where
  /-- The active key is that of a grouping rule. -/
  condition : ∀ active, scope.condition = some active → IsGroup active
  /-- The joined selectors do not begin with an `@`. -/
  selector : isKey scope.selector = false

theorem valid_root : root.Valid where
  condition := by
    intro active h
    cases h
  selector := by decide

/-- A selector below a selector is no at-rule when neither is. -/
theorem isKey_selectorBelow {selector key : String} (hselector : isKey selector = false)
    (hkey : isKey key = false) : isKey (selectorBelow selector key) = false := by
  unfold selectorBelow
  split
  · exact hkey
  · next hne =>
    rw [Bool.eq_false_iff, Ne, Property.isKey_iff] at hselector ⊢
    cases hs : selector.toList with
    | nil =>
        refine absurd ?_ hne
        rw [String.isEmpty_iff, ← String.toList_eq_nil_iff, hs]
    | cons c rest =>
        rw [hs] at hselector
        rw [String.toList_append, String.toList_append, hs]
        exact hselector

theorem valid_below {scope : Scope} (h : scope.Valid) {key : String} (hkey : isKey key = false) :
    (scope.below key).Valid where
  condition := h.condition
  selector := isKey_selectorBelow h.selector hkey

theorem valid_under {scope : Scope} (h : scope.Valid) {key merged : String} (hkey : IsGroup key)
    (hmerge : merge scope.condition key = .ok merged) : (scope.under key merged).Valid where
  condition := by
    intro active hactive
    obtain rfl := Option.some.inj hactive
    exact isGroup_of_merge hkey hmerge
  selector := h.selector

end Scope

/-- What an entry that fits comes to in a scope. -/
inductive Fits : Scope → Value → Value → Visit → Prop where
  /-- A selector opens a block. -/
  | selector {scope key entries} (hkey : isKey key = false) :
      Fits scope (.text key) (.map entries) (.opens (scope.below key))
  /-- A grouping rule opens a block under the merged condition. -/
  | group {scope key entries merged} (hkey : IsGroup key)
      (hmerge : merge scope.condition key = .ok merged) :
      Fits scope (.text key) (.map entries) (.opens (scope.under key merged))
  /-- A flat rule with a single value. -/
  | statement {scope key value} (hkey : isKey key = true) (hkind : kindOf key = .statement)
      (htop : scope.isTop = true) :
      Fits scope (.text key) (.scalar value) (.places (.flatRule key (.statement value)))
  /-- A flat rule with declarations. -/
  | declarations {scope key entries} (hkey : isKey key = true) (hkind : kindOf key = .block)
      (htop : scope.isTop = true) (hentries : ∀ e ∈ entries, e.1.Declares e.2) :
      Fits scope (.text key) (.map entries)
        (.places (.flatRule key (.block (.ofList (declarationsIn entries)))))
  /-- A property below a selector. -/
  | property {scope key value set} (hkey : isKey key = false) (hvalue : value.entries? = none)
      (hselector : scope.selector ≠ "") (hset : PropertyValue.ofValue? value = some set) :
      Fits scope (.text key) value
        (.places (.declaration scope.condition scope.selector (Property.ofKey key) set))

/-- What is wrong with an entry in a scope: the family of the fault, its
place, and the fault itself.  A text that has to be written into a message or
a place for that, and cannot be, is a fault instead, and has no place. -/
inductive Violation : Scope → Value → Value → Family → Option (List String) → Fault → Prop where
  /-- The key is no text; the place is that of the mapping around it. -/
  | keyNotText {scope key value} (hkey : key.text? = none) (hwritable : key.isWritable = true) :
      Violation scope key value .wrongType (some scope.path) (.keyNotText key)
  /-- The key is no text, and has too many digits for the message. -/
  | keyTooLong {scope key value} (hkey : key.text? = none) (hlong : key.isWritable = false) :
      Violation scope key value .number none .tooManyDigits
  /-- A grouping rule without a block. -/
  | groupNotBlock {scope key value} (hkey : IsGroup key) (hvalue : value.entries? = none) :
      Violation scope (.text key) value .ruleShape (some (scope.pathOf key))
        (.groupNotBlock key value)
  /-- A grouping rule inside one of another name. -/
  | differentNames {scope key entries active outer inner} (hkey : IsGroup key)
      (hactive : scope.condition = some active) (houter : parse? active = some outer)
      (hinner : parse? key = some inner) (hne : outer.name ≠ inner.name) :
      Violation scope (.text key) (.map entries) .nesting (some (scope.pathOf key))
        (.unmergeable (.differentNames inner.name outer.name))
  /-- A flat rule below a selector or a grouping rule. -/
  | nestedFlatRule {scope key value} (hkey : isKey key = true) (hkind : kindOf key ≠ .group)
      (hnested : scope.selector ≠ "" ∨ scope.condition ≠ none) :
      Violation scope (.text key) value .nesting (some (scope.pathOf key)) (.nestedFlatRule key)
  /-- A rule that takes a single value with something else. -/
  | notSingleValue {scope key value} (hkey : isKey key = true) (hkind : kindOf key = .statement)
      (htop : scope.selector = "" ∧ scope.condition = none) (hvalue : value.scalar? = none) :
      Violation scope (.text key) value .ruleShape (some (scope.pathOf key))
        (.notSingleValue key value)
  /-- A rule that takes declarations with something else. -/
  | notDeclarationBlock {scope key value} (hkey : isKey key = true)
      (hkind : kindOf key = .block) (htop : scope.selector = "" ∧ scope.condition = none)
      (hvalue : value.entries? = none) :
      Violation scope (.text key) value .ruleShape (some (scope.pathOf key))
        (.notDeclarationBlock key value)
  /-- The first entry of a flat rule's block that is no declaration; its
  name is the last step to the place. -/
  | flatDeclaration {scope key before name value after} (hkey : isKey key = true)
      (hkind : kindOf key = .block) (htop : scope.selector = "" ∧ scope.condition = none)
      (hbefore : ∀ e ∈ before, e.1.Declares e.2) (hbad : ¬name.Declares value)
      (hwritable : name.isWritable = true) :
      Violation scope (.text key) (.map (before ++ (name, value) :: after)) .ruleShape
        (some (scope.pathOf key ++ [name.printed])) (.flatDeclaration key)
  /-- The name of that entry has too many digits for the place. -/
  | nameTooLong {scope key before name value after} (hkey : isKey key = true)
      (hkind : kindOf key = .block) (htop : scope.selector = "" ∧ scope.condition = none)
      (hbefore : ∀ e ∈ before, e.1.Declares e.2) (hbad : ¬name.Declares value)
      (hlong : name.isWritable = false) :
      Violation scope (.text key) (.map (before ++ (name, value) :: after)) .number none
        .tooManyDigits
  /-- A property outside every selector. -/
  | looseProperty {scope key value} (hkey : isKey key = false) (hvalue : value.entries? = none)
      (hselector : scope.selector = "") :
      Violation scope (.text key) value .nesting (some (scope.pathOf key)) (.looseProperty key)
  /-- A property with neither a scalar nor several. -/
  | propertyValue {scope key value} (hkey : isKey key = false) (hvalue : value.entries? = none)
      (hselector : scope.selector ≠ "") (hbad : ¬value.SetsProperty) :
      Violation scope (.text key) value .wrongType (some (scope.pathOf key))
        (.ofPropertyValue key value)

/-! ## §5. The equations of a visit. -/

theorem result_ruleKind (key : String) : (ruleKind key).result = .ok (kindOf key) := by
  have known : (ruleKind key).result = .ok (((parse? key).bind known?).getD .statement) := by
    unfold ruleKind
    cases (parse? key).bind known? <;> rfl
  rw [known, kindOf]
  cases parse? key <;> rfl

theorem result_conditionBelow (scope : Scope) (key : String) :
    (conditionBelow scope key).result = match merge scope.condition key with
      | .ok merged => .ok merged
      | .error error => .error ⟨.unmergeable error, some (scope.pathOf key)⟩ := by
  unfold conditionBelow
  cases merge scope.condition key with
  | error error => rfl
  | ok merged => cases scope.condition <;> rfl

section AtRules

variable {scope : Scope} {key : String} {value : Value} {entries : List (Value × Value)}

theorem visit_atRule (hkey : isKey key = true) :
    visit scope (.text key) value = visitAtRule scope key value := by
  show (if isKey key then visitAtRule scope key value else _) = _
  rw [if_pos hkey]

theorem result_visitAtRule_block (hkind : kindOf key = .group) :
    (visitAtRule scope key (.map entries)).result = match merge scope.condition key with
      | .ok merged => .ok (.opens (scope.under key merged))
      | .error error => .error ⟨.unmergeable error, some (scope.pathOf key)⟩ := by
  unfold visitAtRule
  rw [Traced.result_bind_of_ok (result_ruleKind key), hkind]
  show (conditionBelow scope key >>= fun merged =>
    pure (Visit.opens (scope.under key merged))).result = _
  rw [Traced.result_bind, result_conditionBelow]
  cases merge scope.condition key <;> rfl

theorem result_visitAtRule_no_block (hkind : kindOf key = .group)
    (hvalue : value.entries? = none) :
    (visitAtRule scope key value).result
      = .error ⟨.groupNotBlock key value, some (scope.pathOf key)⟩ := by
  unfold visitAtRule
  rw [Traced.result_bind_of_ok (result_ruleKind key), hkind]
  cases value with
  | map entries => cases hvalue
  | _ => rfl

theorem result_visitAtRule_flat (hkind : kindOf key ≠ .group) :
    (visitAtRule scope key value).result
      = if scope.isTop then
          (flatItem key (scope.pathOf key) (kindOf key) value).result.map
            fun item => .places (.flatRule key item)
        else .error ⟨.nestedFlatRule key, some (scope.pathOf key)⟩ := by
  unfold visitAtRule
  rw [Traced.result_bind_of_ok (result_ruleKind key)]
  have flat : ∀ kind ≠ Kind.group, ∀ value : Value,
      (if scope.isTop then do
          return Visit.places (.flatRule key (← flatItem key (scope.pathOf key) kind value))
        else Traced.fail (some (scope.pathOf key)) (.nestedFlatRule key)).result
      = if scope.isTop then
          (flatItem key (scope.pathOf key) kind value).result.map
            fun item => .places (.flatRule key item)
        else .error ⟨.nestedFlatRule key, some (scope.pathOf key)⟩ := by
    intro kind _ value
    cases scope.isTop with
    | false => rfl
    | true =>
        rw [if_pos rfl, if_pos rfl, Traced.result_bind]
        cases (flatItem key (scope.pathOf key) kind value).result <;> rfl
  cases hk : kindOf key with
  | group => exact absurd hk hkind
  | block => exact flat .block (by decide) value
  | statement => exact flat .statement (by decide) value

end AtRules

section OtherKeys

variable {scope : Scope} {key : String} {value : Value}

theorem visit_selector (hkey : isKey key = false) (entries : List (Value × Value)) :
    visit scope (.text key) (.map entries) = pure (.opens (scope.below key)) := by
  show (if isKey key then _ else pure (Visit.opens (scope.below key))) = _
  rw [hkey]
  rfl

theorem visit_property (hkey : isKey key = false) (hvalue : value.entries? = none) :
    visit scope (.text key) value = visitProperty scope key value := by
  cases value with
  | map entries => cases hvalue
  | _ =>
      show (if isKey key then _ else visitProperty scope key _) = _
      rw [hkey]
      rfl

theorem result_visitProperty_loose (h : scope.selector = "") :
    (visitProperty scope key value).result
      = .error ⟨.looseProperty key, some (scope.pathOf key)⟩ := by
  have loose : scope.selector.isEmpty = true := by simp [h]
  unfold visitProperty
  exact congrArg Traced.result (if_pos loose)

theorem visitProperty_below (h : scope.selector ≠ "") :
    visitProperty scope key value = match PropertyValue.ofValue? value with
      | some set =>
          pure (.places (.declaration scope.condition scope.selector (Property.ofKey key) set))
      | none => .fail (some (scope.pathOf key)) (.ofPropertyValue key value) := by
  have enclosed : ¬scope.selector.isEmpty = true := by simpa using h
  unfold visitProperty
  exact if_neg enclosed

end OtherKeys

/-! ## §6. A visit fits or is a violation. -/

/-- **An entry that fits comes to what it fits.** -/
theorem result_visit_of_fits {scope : Scope} {key value : Value} {visited : Visit}
    (h : Fits scope key value visited) : (visit scope key value).result = .ok visited := by
  cases h with
  | selector hkey =>
      rw [visit_selector hkey]
      rfl
  | group hkey hmerge => rw [visit_atRule hkey.1, result_visitAtRule_block hkey.2, hmerge]
  | statement hkey hkind htop =>
      rw [visit_atRule hkey, result_visitAtRule_flat (by rw [hkind]; decide), if_pos htop, hkind]
      rfl
  | declarations hkey hkind htop hentries =>
      rw [visit_atRule hkey, result_visitAtRule_flat (by rw [hkind]; decide), if_pos htop, hkind,
        flatItem, Traced.result_bind, result_mapM_flatDeclaration hentries]
      rfl
  | property hkey hvalue hselector hset =>
      rw [visit_property hkey hvalue, visitProperty_below hselector, hset]
      rfl

/-- A flat rule fails at the first entry of its block that is no
declaration. -/
theorem result_visit_of_not_declares {scope : Scope} {key : String} {name value : Value}
    {before after : List (Value × Value)} (hkey : isKey key = true) (hkind : kindOf key = .block)
    (htop : scope.selector = "" ∧ scope.condition = none)
    (hbefore : ∀ e ∈ before, e.1.Declares e.2) (hbad : ¬name.Declares value) :
    (visit scope (.text key) (.map (before ++ (name, value) :: after))).result
      = .error (flatDeclarationFault key (scope.pathOf key) name) := by
  rw [visit_atRule hkey, result_visitAtRule_flat (by rw [hkind]; decide),
    if_pos (Scope.isTop_iff.mpr htop), hkind, flatItem, Traced.result_bind,
    result_mapM_flatDeclaration_of_not hbefore hbad]
  rfl

/-- **An entry with a violation fails with it.** -/
theorem result_visit_of_violation {scope : Scope} {key value : Value} {family : Family}
    {path : Option (List String)} {fault : Fault}
    (h : Violation scope key value family path fault) :
    (visit scope key value).result = .error ⟨fault, path⟩ := by
  cases h with
  | keyNotText hkey hwritable =>
      unfold visit
      rw [hkey, hwritable]
      rfl
  | keyTooLong hkey hlong =>
      unfold visit
      rw [hkey, hlong]
      rfl
  | groupNotBlock hkey hvalue =>
      rw [visit_atRule hkey.1, result_visitAtRule_no_block hkey.2 hvalue]
  | differentNames hkey hactive houter hinner hne =>
      rw [visit_atRule hkey.1, result_visitAtRule_block hkey.2, hactive, merge, hinner, houter]
      simp only [if_neg hne]
  | nestedFlatRule hkey hkind hnested =>
      rw [visit_atRule hkey, result_visitAtRule_flat hkind, if_neg]
      rw [Scope.isTop_iff]
      intro htop
      rcases hnested with h | h
      · exact h htop.1
      · exact h htop.2
  | notSingleValue hkey hkind htop hvalue =>
      rw [visit_atRule hkey, result_visitAtRule_flat (by rw [hkind]; decide),
        if_pos (Scope.isTop_iff.mpr htop), hkind]
      cases value with
      | scalar s => cases hvalue
      | _ => rfl
  | notDeclarationBlock hkey hkind htop hvalue =>
      rw [visit_atRule hkey, result_visitAtRule_flat (by rw [hkind]; decide),
        if_pos (Scope.isTop_iff.mpr htop), hkind]
      cases value with
      | map entries => cases hvalue
      | _ => rfl
  | flatDeclaration hkey hkind htop hbefore hbad hwritable =>
      rw [result_visit_of_not_declares hkey hkind htop hbefore hbad, flatDeclarationFault,
        if_pos hwritable]
  | nameTooLong hkey hkind htop hbefore hbad hlong =>
      rw [result_visit_of_not_declares hkey hkind htop hbefore hbad, flatDeclarationFault, hlong]
      rfl
  | looseProperty hkey hvalue hselector =>
      rw [visit_property hkey hvalue, result_visitProperty_loose hselector]
  | propertyValue hkey hvalue hselector hbad =>
      rw [visit_property hkey hvalue, visitProperty_below hselector,
        PropertyValue.ofValue?_eq_none hbad]
      rfl

/-- All items of a list have a property, or there is a first that has not. -/
theorem forall_or_first {α : Type} (P : α → Prop) (items : List α) :
    (∀ a ∈ items, P a)
      ∨ ∃ before a after, items = before ++ a :: after ∧ (∀ b ∈ before, P b) ∧ ¬P a := by
  induction items with
  | nil => exact Or.inl fun a ha => absurd ha List.not_mem_nil
  | cons a rest ih =>
      by_cases ha : P a
      · rcases ih with hall | ⟨before, first, after, rfl, hbefore, hfirst⟩
        · exact Or.inl (List.forall_mem_cons.mpr ⟨ha, hall⟩)
        · exact Or.inr ⟨a :: before, first, after, rfl, List.forall_mem_cons.mpr ⟨ha, hbefore⟩,
            hfirst⟩
      · exact Or.inr ⟨[], a, rest, rfl, fun b hb => absurd hb List.not_mem_nil, ha⟩

theorem Value.map_or_not (value : Value) :
    (∃ entries, value = .map entries) ∨ value.entries? = none := by
  cases value with
  | map entries => exact Or.inl ⟨entries, rfl⟩
  | _ => exact Or.inr rfl

theorem Value.scalar_or_not (value : Value) :
    (∃ s, value = .scalar s) ∨ value.scalar? = none := by
  cases value with
  | scalar s => exact Or.inl ⟨s, rfl⟩
  | _ => exact Or.inr rfl

section Totality

variable {scope : Scope} {key : String}

theorem fits_or_violation_group (hscope : scope.Valid) (hkey : IsGroup key) (value : Value) :
    (∃ visited, Fits scope (.text key) value visited)
      ∨ ∃ family path fault, Violation scope (.text key) value family path fault := by
  rcases value.map_or_not with ⟨entries, rfl⟩ | hvalue
  · cases hmerge : merge scope.condition key with
    | ok merged => exact Or.inl ⟨_, .group hkey hmerge⟩
    | error error =>
        obtain ⟨active, outer, inner, hactive, houter, hinner, hne, rfl⟩ :=
          (merge_eq_error_iff hkey.1 fun a ha => (hscope.condition a ha).1).mp hmerge
        exact Or.inr ⟨_, _, _, .differentNames hkey hactive houter hinner hne⟩
  · exact Or.inr ⟨_, _, _, .groupNotBlock hkey hvalue⟩

theorem fits_or_violation_flat (hkey : isKey key = true) (hkind : kindOf key ≠ .group)
    (value : Value) :
    (∃ visited, Fits scope (.text key) value visited)
      ∨ ∃ family path fault, Violation scope (.text key) value family path fault := by
  cases top : scope.isTop with
  | false =>
      refine Or.inr ⟨_, _, _, .nestedFlatRule hkey hkind ?_⟩
      rw [Bool.eq_false_iff, Ne, Scope.isTop_iff] at top
      exact Classical.not_and_iff_not_or_not.mp top
  | true =>
      have htop := Scope.isTop_iff.mp top
      cases hk : kindOf key with
      | group => exact absurd hk hkind
      | statement =>
          rcases value.scalar_or_not with ⟨s, rfl⟩ | hvalue
          · exact Or.inl ⟨_, .statement hkey hk top⟩
          · exact Or.inr ⟨_, _, _, .notSingleValue hkey hk htop hvalue⟩
      | block =>
          rcases value.map_or_not with ⟨entries, rfl⟩ | hvalue
          · rcases forall_or_first (fun e => e.1.Declares e.2) entries with
              hall | ⟨_, e, _, rfl, hbefore, hbad⟩
            · exact Or.inl ⟨_, .declarations hkey hk top hall⟩
            · cases hname : e.1.isWritable with
              | true => exact Or.inr ⟨_, _, _, .flatDeclaration hkey hk htop hbefore hbad hname⟩
              | false => exact Or.inr ⟨_, _, _, .nameTooLong hkey hk htop hbefore hbad hname⟩
          · exact Or.inr ⟨_, _, _, .notDeclarationBlock hkey hk htop hvalue⟩

theorem fits_or_violation_other (hkey : isKey key = false) (value : Value) :
    (∃ visited, Fits scope (.text key) value visited)
      ∨ ∃ family path fault, Violation scope (.text key) value family path fault := by
  rcases value.map_or_not with ⟨entries, rfl⟩ | hvalue
  · exact Or.inl ⟨_, .selector hkey⟩
  · by_cases hselector : scope.selector = ""
    · exact Or.inr ⟨_, _, _, .looseProperty hkey hvalue hselector⟩
    · cases hset : PropertyValue.ofValue? value with
      | some set => exact Or.inl ⟨_, .property hkey hvalue hselector hset⟩
      | none =>
          refine Or.inr ⟨_, _, _, .propertyValue hkey hvalue hselector ?_⟩
          rw [← PropertyValue.isSome_ofValue?, hset]
          exact Bool.false_ne_true

end Totality

/-- **An entry fits or has a violation.** -/
theorem fits_or_violation {scope : Scope} (hscope : scope.Valid) (key value : Value) :
    (∃ visited, Fits scope key value visited)
      ∨ ∃ family path fault, Violation scope key value family path fault := by
  -- the cases are the order of a visit: text or not, at-rule or not, which kind
  cases ht : key.text? with
  | none =>
      cases hkey : key.isWritable with
      | true => exact Or.inr ⟨_, _, _, .keyNotText ht hkey⟩
      | false => exact Or.inr ⟨_, _, _, .keyTooLong ht hkey⟩
  | some k =>
      obtain rfl := Value.text?_eq_some_iff.mp ht
      cases hkey : isKey k with
      | false => exact fits_or_violation_other hkey value
      | true =>
          by_cases hkind : kindOf k = .group
          · exact fits_or_violation_group hscope ⟨hkey, hkind⟩ value
          · exact fits_or_violation_flat hkey hkind value

/-- The results that a visit has are those of entries that fit. -/
theorem result_visit_eq_ok_iff {scope : Scope} (hscope : scope.Valid) {key value : Value}
    {visited : Visit} :
    (visit scope key value).result = .ok visited ↔ Fits scope key value visited := by
  refine ⟨fun h => ?_, result_visit_of_fits⟩
  rcases fits_or_violation hscope key value with ⟨other, fits⟩ | ⟨_, _, _, violation⟩
  · rw [result_visit_of_fits fits, Except.ok.injEq] at h
    rw [← h]
    exact fits
  · rw [result_visit_of_violation violation] at h
    cases h

/-- The faults that a visit has are those of violations. -/
theorem result_visit_eq_error_iff {scope : Scope} (hscope : scope.Valid) {key value : Value}
    {error : LocatedFault} :
    (visit scope key value).result = .error error ↔
      ∃ family, Violation scope key value family error.path error.fault := by
  constructor
  · intro h
    rcases fits_or_violation hscope key value with ⟨_, fits⟩ | ⟨family, path, fault, violation⟩
    · rw [result_visit_of_fits fits] at h
      cases h
    · rw [result_visit_of_violation violation, Except.error.injEq] at h
      rw [← h]
      exact ⟨family, violation⟩
  · intro ⟨family, violation⟩
    rw [result_visit_of_violation violation]

/-- The family of a violation is that of its fault. -/
theorem family_of_violation {scope : Scope} {key value : Value} {family : Family}
    {path : Option (List String)} {fault : Fault} (h : Violation scope key value family path fault) :
    fault.family = family := by
  cases h with
  | propertyValue hkey hvalue hselector hbad => cases value <;> rfl
  | _ => rfl

/-! ## §7. Walks over one entry. -/

section Walks

variable {scope inner : Scope} {key value : Value} {entries : List (Value × Value)}

/-- A walk over an entry that is no mapping is its visit. -/
theorem walkEntry_of_not_map (h : value.entries? = none) :
    walkEntry scope key value = (do
      match ← visit scope key value with
      | .opens _ => return []
      | .places placement => return [placement]) := by
  cases value with
  | map entries => cases h
  | _ => rfl

theorem result_walkEntry_of_opens (h : Fits scope key (.map entries) (.opens inner)) :
    (walkEntry scope key (.map entries)).result = (walk inner entries).result := by
  rw [walkEntry, Traced.result_bind_of_ok (result_visit_of_fits h)]

theorem result_walkEntry_of_places {placement : Placement}
    (h : Fits scope key value (.places placement)) :
    (walkEntry scope key value).result = .ok [placement] := by
  rcases value.map_or_not with ⟨entries, rfl⟩ | hvalue
  · rw [walkEntry, Traced.result_bind_of_ok (result_visit_of_fits h)]
    rfl
  · rw [walkEntry_of_not_map hvalue, Traced.result_bind_of_ok (result_visit_of_fits h)]
    rfl

/-- **A walk over an entry leaves its placement, or goes into its block.** -/
theorem result_walkEntry_eq_ok (hscope : scope.Valid) {placements : List Placement}
    (h : (walkEntry scope key value).result = .ok placements) :
    (∃ inner entries, value = .map entries ∧ Fits scope key value (.opens inner)
        ∧ (walk inner entries).result = .ok placements)
      ∨ ∃ placement, Fits scope key value (.places placement) ∧ placements = [placement] := by
  cases hv : (visit scope key value).result with
  | error e =>
      exfalso
      rcases value.map_or_not with ⟨entries, rfl⟩ | hvalue
      · rw [walkEntry, Traced.result_bind_of_error hv] at h
        cases h
      · rw [walkEntry_of_not_map hvalue, Traced.result_bind_of_error hv] at h
        cases h
  | ok visited =>
      have fits := (result_visit_eq_ok_iff hscope).mp hv
      cases visited with
      | places placement =>
          rw [result_walkEntry_of_places fits, Except.ok.injEq] at h
          exact Or.inr ⟨placement, fits, h.symm⟩
      | opens inner =>
          -- only a mapping opens a block
          have ⟨entries, hvalue⟩ : ∃ entries, value = .map entries := by
            cases fits with
            | selector | group => exact ⟨_, rfl⟩
          subst hvalue
          rw [result_walkEntry_of_opens fits] at h
          exact Or.inl ⟨inner, entries, rfl, fits, h⟩

/-- A walk leaves what its first entry leaves and then what the others do. -/
theorem result_walk_cons_eq_ok {placements : List Placement}
    (h : (walk scope ((key, value) :: entries)).result = .ok placements) :
    ∃ here after, (walkEntry scope key value).result = .ok here
      ∧ (walk scope entries).result = .ok after ∧ placements = here ++ after := by
  rw [walk, Traced.result_bind_eq_ok_iff] at h
  obtain ⟨here, hhere, h⟩ := h
  rw [Traced.result_bind_eq_ok_iff] at h
  obtain ⟨after, hafter, h⟩ := h
  exact ⟨here, after, hhere, hafter, (Except.ok.inj h).symm⟩

theorem result_walk_cons {here after : List Placement}
    (hhere : (walkEntry scope key value).result = .ok here)
    (hafter : (walk scope entries).result = .ok after) :
    (walk scope ((key, value) :: entries)).result = .ok (here ++ after) := by
  rw [walk, Traced.result_bind_of_ok hhere, Traced.result_bind_of_ok hafter]
  rfl

end Walks

end Stylesheet
