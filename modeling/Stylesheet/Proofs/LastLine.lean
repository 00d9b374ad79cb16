/-
  Stylesheet.Proofs.LastLine
  ──────────────────────────
  **WHICH VALUE OF A PROPERTY IS PRINTED LAST.**

  A property may have several declarations in one block, and of these the
  last takes effect where the sheet is used.  Several values come behind all
  declarations of their property.  A single value is written where the
  property has a single value already, and only otherwise comes last.  So
  the value that was set last is printed last, but for one case: a single
  value, several values, and single values again.  The last of these is
  then printed before the several values, at the place of the first.

  Main statements:
    * `named_ofList` — the entries of one property after a run of settings;
    * `getLast?_run_of_overtakes`, `getLast?_run_single` — the last of them,
      in the one case and in all others;
    * `flatten_last_line_iff` — when the value that is set last is printed
      last;
    * `flatten_colorThrice_last_line` — a tree for which it is not.
-/
import Stylesheet.Proofs.Order
import Stylesheet.Proofs.Printing

namespace Stylesheet

open AtRule Condition Property

/-! ## §1. The entries of one property. -/

/-- The values that settings give a property. -/
def PropertyValue.ofName (name : String) (sets : List (String × PropertyValue)) :
    List PropertyValue :=
  sets.filterMap fun e => if e.1 = name then some e.2 else none

theorem PropertyValue.ofName_concat (name : String) (sets : List (String × PropertyValue))
    (e : String × PropertyValue) :
    ofName name (sets ++ [e])
      = if e.1 = name then ofName name sets ++ [e.2] else ofName name sets := by
  rw [ofName, List.filterMap_append]
  by_cases here : e.1 = name
  · simp [ofName, here]
  · simp [ofName, here]

namespace Declarations

/-- The entries that are printed under a name: its own and the numbered
ones. -/
def named (name : String) (d : Declarations) : List (String × Scalar) :=
  d.entries.filter fun e => withoutMarker e.1 = name

/-- What one more value of a property makes of its entries. -/
def setNamed (name : String) (entries : List (String × Scalar)) :
    PropertyValue → List (String × Scalar)
  | .single value => Entries.write name (fun _ => value) entries
  | .repeated values => entries.filter (fun e => e.1 = name) ++ numberAll name values

/-- The entries that a run of values leaves of a property. -/
def runNamed (name : String) (values : List PropertyValue) : List (String × Scalar) :=
  values.foldl (setNamed name) []

theorem runNamed_concat (name : String) (values : List PropertyValue) (value : PropertyValue) :
    runNamed name (values ++ [value]) = setNamed name (runNamed name values) value := by
  rw [runNamed, List.foldl_append]
  rfl

/-- The numbered entries of a property are printed under its name and under
no other. -/
theorem filter_numberAll (name other : String) (values : List Scalar) :
    (numberAll other values).filter (fun e => withoutMarker e.1 = name)
      = if other = name then numberAll other values else [] := by
  have printed : ∀ e ∈ numberAll other values, withoutMarker e.1 = other := by
    intro e he
    obtain ⟨i, -, hi⟩ := mem_numberAll.mp he
    rw [hi, withoutMarker_numbered]
  by_cases same : other = name
  · rw [if_pos same, List.filter_eq_self]
    intro e he
    rw [printed e he, same]
    exact decide_eq_true rfl
  · rw [if_neg same, List.filter_eq_nil_iff]
    intro e he
    rw [printed e he]
    simpa using same

/-- A property leaves the entries of another one alone. -/
theorem named_set_of_ne {name other : String} (hname : withoutMarker name = name)
    (h : withoutMarker other ≠ name) (d : Declarations) (value : PropertyValue) :
    (d.set other value).named name = d.named name := by
  have hne : other ≠ name := by
    intro same
    subst same
    exact h hname
  cases value with
  | single v =>
      exact Entries.filter_write_of_neg (p := fun k => decide (withoutMarker k = name))
        (decide_eq_false h) _ d.entries
  | repeated values =>
      rw [named, entries_set_repeated, List.filter_append, filter_numberAll, if_neg hne,
        List.append_nil]
      have kept : (d.entries.filter fun e => !isNumberedOf other e.1).filter
          (fun e => withoutMarker e.1 = name) = d.named name := by
        rw [List.filter_filter, named]
        apply List.filter_congr
        intro e _
        by_cases printed : withoutMarker e.1 = name
        · simp [isNumberedOf, printed, Ne.symm hne]
        · simp [printed]
      exact kept

/-- One more value of a property. -/
theorem named_set {name : String} (hname : withoutMarker name = name) (d : Declarations)
    (value : PropertyValue) : (d.set name value).named name = setNamed name (d.named name) value := by
  cases value with
  | single v =>
      exact Entries.filter_write_of_pos (p := fun k => decide (withoutMarker k = name))
        (decide_eq_true hname) _ d.entries
  | repeated values =>
      rw [named, entries_set_repeated, List.filter_append, filter_numberAll, if_pos rfl]
      -- of the entries that are there only the one at the name itself stays
      have kept : (d.entries.filter fun e => !isNumberedOf name e.1).filter
          (fun e => withoutMarker e.1 = name) = (d.named name).filter fun e => e.1 = name := by
        rw [List.filter_filter, named, List.filter_filter]
        apply List.filter_congr
        intro e _
        by_cases same : e.1 = name
        · simp [isNumberedOf, same, hname]
        · simp [isNumberedOf, same]
      exact congrArg (· ++ numberAll name values) kept

/-- **The entries of one property after a run of settings**, if no other name
is printed like it. -/
theorem named_ofList {name : String} (hname : withoutMarker name = name)
    {sets : List (String × PropertyValue)}
    (alone : ∀ e ∈ sets, withoutMarker e.1 = name → e.1 = name) :
    (ofList sets).named name = runNamed name (PropertyValue.ofName name sets) := by
  induction sets using List.reverseRecOn with
  | nil => rfl
  | append_singleton front e ih =>
      have ih := ih fun other hother => alone other (List.mem_append_left _ hother)
      rw [ofList_concat, PropertyValue.ofName_concat]
      by_cases here : e.1 = name
      · rw [if_pos here, runNamed_concat, ← ih, here]
        exact named_set hname _ e.2
      · have other : withoutMarker e.1 ≠ name := by
          intro printed
          exact here (alone e (by simp) printed)
        rw [if_neg here, ← ih]
        exact named_set_of_ne hname other _ e.2

end Declarations

/-! ## §2. The last entry of a property. -/

/-- Among the values of a property several values come behind a single one,
and only single values come behind them. -/
def PropertyValue.Overtakes (values : List PropertyValue) (list : List Scalar) : Prop :=
  ∃ front back, values = front ++ .repeated list :: back ∧ (∃ v, .single v ∈ front)
    ∧ ∀ value ∈ back, ∃ v, value = .single v

/-- They stay overtaking when one more single value comes behind them. -/
theorem PropertyValue.overtakes_concat_single {values : List PropertyValue} {list : List Scalar}
    (h : Overtakes values list) (v : Scalar) : Overtakes (values ++ [.single v]) list := by
  obtain ⟨front, back, rfl, placed, singles⟩ := h
  refine ⟨front, back ++ [.single v], by simp, placed, ?_⟩
  intro value hvalue
  rcases List.mem_append.mp hvalue with hvalue | hvalue
  · exact singles value hvalue
  · exact ⟨v, List.mem_singleton.mp hvalue⟩

namespace Declarations

variable {name : String}

/-- Several values neither give nor take away the entry at the name itself. -/
theorem mem_setNamed_repeated_iff (entries : List (String × Scalar)) (list : List Scalar) :
    name ∈ (setNamed name entries (.repeated list)).map Prod.fst ↔ name ∈ entries.map Prod.fst := by
  have others : name ∉ (numberAll name list).map Prod.fst := by
    intro given
    obtain ⟨e, he, same⟩ := List.mem_map.mp given
    obtain ⟨i, -, hi⟩ := mem_numberAll.mp he
    exact numbered_ne name i (hi.symm.trans same)
  have kept : name ∈ (entries.filter fun e => e.1 = name).map Prod.fst
      ↔ name ∈ entries.map Prod.fst := by
    simp [List.mem_map]
  rw [setNamed, List.map_append, List.mem_append, kept]
  simp [others]

/-- A property has an entry at its own name once a single value is set. -/
theorem mem_runNamed_iff (name : String) (values : List PropertyValue) :
    name ∈ (runNamed name values).map Prod.fst ↔ ∃ v, PropertyValue.single v ∈ values := by
  induction values using List.reverseRecOn with
  | nil => simp [runNamed]
  | append_singleton front value ih =>
      rw [runNamed_concat]
      cases value with
      | single v =>
          rw [setNamed, Entries.mem_map_fst_write]
          simp
      | repeated list =>
          rw [mem_setNamed_repeated_iff, ih]
          simp

theorem numberAll_concat (name : String) (list : List Scalar) (v : Scalar) :
    numberAll name (list ++ [v]) = numberAll name list ++ [(numbered name list.length, v)] := by
  simp [numberAll, List.zipIdx_append]

/-- Several values come last. -/
theorem getLast?_setNamed_repeated (entries : List (String × Scalar)) {list : List Scalar}
    (h : list ≠ []) :
    ((setNamed name entries (.repeated list)).getLast?).map Prod.snd = list.getLast? := by
  obtain ⟨front, v, rfl⟩ := (List.eq_nil_or_concat' list).resolve_left h
  rw [setNamed, numberAll_concat, ← List.append_assoc, List.getLast?_concat, List.getLast?_concat]
  rfl

/-- Several values that a single one comes before stay last, whatever single
values come behind them. -/
theorem exists_runNamed_of_overtakes (name : String) {values : List PropertyValue}
    {list : List Scalar} (h : PropertyValue.Overtakes values list) (hne : list ≠ []) :
    ∃ front last, runNamed name values = front ++ [last] ∧ name ∈ front.map Prod.fst
      ∧ list.getLast? = some last.2 := by
  obtain ⟨front, back, rfl, placed, singles⟩ := h
  -- every single value behind the list is written before its last entry
  induction back using List.reverseRecOn with
  | nil =>
      have present := (mem_runNamed_iff name front).mpr placed
      obtain ⟨others, v, rfl⟩ := (List.eq_nil_or_concat' list).resolve_left hne
      refine ⟨setNamed name (runNamed name front) (.repeated others),
        (numbered name others.length, v), ?_, ?_, List.getLast?_concat⟩
      · rw [runNamed_concat, setNamed, setNamed, numberAll_concat, List.append_assoc]
      · exact (mem_setNamed_repeated_iff _ others).mpr present
  | append_singleton back value ih =>
      obtain ⟨start, last, hrun, hmem, hlast⟩ := ih fun w hw => singles w (List.mem_append_left _ hw)
      obtain ⟨v, rfl⟩ := singles value (by simp)
      refine ⟨Entries.write name (fun _ => v) start, last, ?_, ?_, hlast⟩
      · rw [← List.cons_append, ← List.append_assoc, runNamed_concat, hrun, setNamed,
          Entries.write_append_of_mem hmem]
      · exact (Entries.mem_map_fst_write name name _ start).mpr (Or.inl hmem)

/-- **A single value behind an overtaking list is not written last.** -/
theorem getLast?_run_of_overtakes {values : List PropertyValue} {list : List Scalar}
    (h : PropertyValue.Overtakes values list) (hne : list ≠ []) (v : Scalar) :
    ((runNamed name (values ++ [.single v])).getLast?).map Prod.snd = list.getLast? := by
  obtain ⟨front, last, hrun, hmem, hlast⟩ := exists_runNamed_of_overtakes name h hne
  rw [runNamed_concat, hrun, setNamed, Entries.write_append_of_mem hmem, List.getLast?_concat, hlast]
  rfl

/-- **Any other single value is.** -/
theorem getLast?_run_single {values : List PropertyValue}
    (h : ∀ list, ¬PropertyValue.Overtakes values list) (v : Scalar) :
    (runNamed name (values ++ [.single v])).getLast? = some (name, v) := by
  rw [runNamed_concat, setNamed]
  induction values using List.reverseRecOn with
  | nil => rfl
  | append_singleton front value ih =>
      rw [runNamed_concat]
      cases value with
      | single w =>
          rw [setNamed, Entries.write_write]
          exact ih fun list given => h list (PropertyValue.overtakes_concat_single given w)
      | repeated list =>
          -- no single value came before, so there is no entry to write to
          have nothing : ¬∃ w, PropertyValue.single w ∈ front := fun placed =>
            h list ⟨front, [], rfl, placed, by simp⟩
          have absent : name ∉ (setNamed name (runNamed name front) (.repeated list)).map Prod.fst := by
            rw [mem_setNamed_repeated_iff, mem_runNamed_iff]
            exact nothing
          have last := Entries.write_append absent (fun _ => v) []
          rw [List.append_nil] at last
          rw [last]
          exact List.getLast?_concat

end Declarations

namespace PropertyValue

/-- The last of the values that a property is set to. -/
def last? : PropertyValue → Option Scalar
  | .single value => some value
  | .repeated values => values.getLast?

/-- A value that is set after others comes last: several values always, a
single one unless it is written before several values that end with
another one. -/
def ComesLast (before : List PropertyValue) : PropertyValue → Prop
  | .single value => ∀ list, Overtakes before list →
      list.getLast?.map Scalar.printed = some value.printed
  | .repeated _ => True

end PropertyValue

/-- **The last entry of a property** is printed with the last of the values
that are set last just when these come last. -/
theorem Declarations.printed_last_iff (name : String) {before : List PropertyValue}
    {value : PropertyValue} (full : ∀ v ∈ before ++ [value], v ≠ .repeated []) :
    ∃ last, value.last? = some last
      ∧ (((runNamed name (before ++ [value])).getLast?.map Prod.snd).map Scalar.printed
          = some last.printed ↔ value.ComesLast before) := by
  cases value with
  | repeated values =>
      have hne : values ≠ [] := fun empty => full (.repeated values) (by simp) (by rw [empty])
      have hlast := List.getLast?_eq_some_getLast hne
      refine ⟨values.getLast hne, hlast, ?_⟩
      rw [runNamed_concat, getLast?_setNamed_repeated _ hne, hlast]
      simp [PropertyValue.ComesLast]
  | single w =>
      refine ⟨w, rfl, ?_⟩
      have list_full : ∀ list, PropertyValue.Overtakes before list → list ≠ [] := by
        rintro list ⟨front, back, rfl, -⟩ empty
        exact full (.repeated list) (by simp) (by rw [empty])
      constructor
      · intro printed list given
        rw [getLast?_run_of_overtakes given (list_full list given)] at printed
        exact printed
      · intro comes
        by_cases overtaken : ∃ list, PropertyValue.Overtakes before list
        · obtain ⟨list, given⟩ := overtaken
          rw [getLast?_run_of_overtakes given (list_full list given)]
          exact comes list given
        · rw [getLast?_run_single (not_exists.mp overtaken)]
          rfl

/-! ## §3. The block of a selector. -/

/-- Lines hold those of a block: by themselves, or inside the block of the
grouping rule that is its condition. -/
def HoldsBlock (lines block : List Line) : Option String → Prop
  | none => block <:+: lines
  | some condition =>
      ∃ contents, blockLines 0 condition contents <:+: lines ∧ block <:+: contents

/-- How deep the block of a selector stands. -/
def blockDepth (condition : Option String) : Nat :=
  if condition.isSome then 1 else 0

theorem infix_flatMap_of_mem {α β : Type} {a : α} {items : List α} (h : a ∈ items)
    (f : α → List β) : f a <:+: items.flatMap f := by
  rw [List.flatMap_def]
  exact List.infix_of_mem_flatten (List.mem_map_of_mem h)

namespace Sheet

variable {sheet : Sheet} {selector : String} {d : Declarations}

/-- Declarations without a condition are an entry of the sheet. -/
theorem mem_entries_of_direct (h : sheet.declarations? none selector = some d) :
    isKey selector = false ∧ (selector, Item.block d) ∈ sheet.entries := by
  rw [declarations?, Option.ite_none_left_eq_some] at h
  obtain ⟨item, hitem, hblock⟩ := Option.bind_eq_some_iff.mp h.2
  cases item with
  | block own =>
      obtain rfl := Option.some.inj hblock
      exact ⟨Bool.eq_false_iff.mpr h.1, (Table.get?_eq_some_iff sheet).mp hitem⟩
  | statement | group => cases hblock

/-- Declarations under a condition are an entry of a grouping rule. -/
theorem mem_entries_of_grouped {condition : String}
    (h : sheet.declarations? (some condition) selector = some d) :
    ∃ rules, (condition, Item.group rules) ∈ sheet.entries ∧ (selector, d) ∈ rules.entries := by
  rw [declarations?] at h
  cases hitem : sheet.get? condition with
  | none =>
      rw [hitem] at h
      cases h
  | some item =>
      rw [hitem] at h
      cases item with
      | group rules =>
          exact ⟨rules, (Table.get?_eq_some_iff sheet).mp hitem,
            (Table.get?_eq_some_iff rules).mp h⟩
      | statement | block => cases h

/-- **The declarations of a selector are printed as a block.** -/
theorem holdsBlock_of_declarations? {condition : Option String}
    (h : sheet.declarations? condition selector = some d) :
    HoldsBlock sheet.lines (d.lines (blockDepth condition) selector) condition := by
  cases condition with
  | none => exact infix_flatMap_of_mem (mem_entries_of_direct h).2 fun e => e.2.lines e.1
  | some c =>
      obtain ⟨rules, hentry, hrule⟩ := mem_entries_of_grouped h
      exact ⟨_, infix_flatMap_of_mem hentry fun e => e.2.lines e.1,
        infix_flatMap_of_mem hrule fun e => e.2.lines 1 e.1⟩

/-- In a regular sheet the names below a selector are canonical. -/
theorem canonical_of_declarations? (regular : sheet.Regular) {condition : Option String}
    (h : sheet.declarations? condition selector = some d) : d.Canonical := by
  cases condition with
  | none =>
      obtain ⟨hselector, hentry⟩ := mem_entries_of_direct h
      exact (regular _ hentry).canonical hselector
  | some c =>
      obtain ⟨rules, hentry, hrule⟩ := mem_entries_of_grouped h
      exact ((regular _ hentry).rules _ hrule).canonical

end Sheet

namespace Declarations

/-- The lines that declarations print under a name. -/
def linesOf (depth : Nat) (name : String) (d : Declarations) : List Line :=
  (d.entries.filter fun e => withoutMarker (ofKey e.1) = name).map
    fun e => declarationLine depth (.text e.1, .scalar e.2)

/-- They are those of the entries that are printed under it. -/
theorem linesOf_of_canonical {d : Declarations} (h : d.Canonical) (depth : Nat) (name : String) :
    d.linesOf depth name
      = (d.named name).map fun e => ⟨depth, name ++ ": " ++ e.2.printed ++ ";"⟩ := by
  have same : d.entries.filter (fun e => withoutMarker (ofKey e.1) = name) = d.named name := by
    apply List.filter_congr
    intro e he
    rw [(h e.1 (List.mem_map_of_mem he)).1]
  rw [linesOf, same]
  apply List.map_congr_left
  intro e he
  have canonical := h e.1 (List.mem_map_of_mem (List.mem_of_mem_filter he))
  have printed : withoutMarker e.1 = name := by simpa using (List.mem_filter.mp he).2
  show Line.mk depth (withoutMarker (ofKey e.1) ++ ": " ++ e.2.printed ++ ";") = _
  rw [canonical.1, printed]

end Declarations

/-! ## §4. What is printed last. -/

/-- **When the value that is set last is printed last.**  A property has one
name in its block and no empty list of values.  Then, where the sheet is
printed, the declaration that is printed last for it has the last of the
values that are set last, unless that is a single one behind several values
behind a single one. -/
theorem flatten_last_line_iff {tree : Value} {sheet : Sheet}
    (h : (flatten tree).result = .ok sheet) {condition : Option String} {selector name : String}
    (hname : withoutMarker name = name)
    (alone : ∀ e ∈ (leavesOf tree).filterMap (Leaf.set? condition selector),
      withoutMarker e.1 = name → e.1 = name ∧ e.2 ≠ .repeated [])
    {before : List PropertyValue} {value : PropertyValue}
    (given : PropertyValue.ofName name ((leavesOf tree).filterMap (Leaf.set? condition selector))
      = before ++ [value]) :
    ∃ d last, sheet.declarations? condition selector = some d
      ∧ (∀ layout text, (printTree tree layout).result = .ok text
        ↔ sheet.isWritable = true ∧ layout.lines sheet.lines = text)
      ∧ HoldsBlock sheet.lines (d.lines (blockDepth condition) selector) condition
      ∧ value.last? = some last
      ∧ ((d.linesOf (blockDepth condition + 1) name).getLast?
            = some ⟨blockDepth condition + 1, name ++ ": " ++ last.printed ++ ";"⟩
          ↔ value.ComesLast before) := by
  have regular := regular_of_flatten h
  obtain ⟨placements, makes, rfl⟩ := exists_makes_of_flatten h
  have declared := declarations?_of_makes makes condition selector
  -- the settings are not without the one that is given last, so there are declarations
  generalize (leavesOf tree).filterMap (Leaf.set? condition selector) = sets at alone given declared
  have hd : (Sheet.ofPlacements placements).declarations? condition selector
      = some (Declarations.ofList sets) := by
    cases sets with
    | nil => simp [PropertyValue.ofName] at given
    | cons first rest => exact declared
  have full : ∀ v ∈ before ++ [value], v ≠ .repeated [] := by
    intro v hv
    rw [← given] at hv
    obtain ⟨e, he, same⟩ := List.mem_filterMap.mp hv
    rw [Option.ite_none_right_eq_some, Option.some.injEq] at same
    obtain ⟨here, rfl⟩ := same
    exact (alone e he (by rw [here, hname])).2
  obtain ⟨last, hlast, printed⟩ := Declarations.printed_last_iff name full
  refine ⟨Declarations.ofList sets, last, hd, result_printTree_eq_ok_iff h,
    Sheet.holdsBlock_of_declarations? hd, hlast, ?_⟩
  · have entries := Declarations.named_ofList hname fun e he printed => (alone e he printed).1
    rw [given] at entries
    rw [Declarations.linesOf_of_canonical (Sheet.canonical_of_declarations? regular hd), entries,
      List.getLast?_map, ← printed]
    cases (Declarations.runNamed name (before ++ [value])).getLast? with
    | none => simp
    | some e => simp

/-- A tree that gives a property below a grouping rule several values and
then a single one. -/
def printTwice : Value :=
  .map [("@media print", .map [("a", .map [("src", .list ["u", "v"]), ("top", "1px")])]),
    ("a", .map [("@media print", .map [("src", "w")])])]

theorem flatten_last_line_printTwice :
    ∃ sheet, (flatten printTwice).result = .ok sheet
      ∧ PropertyValue.ofName "src"
          ((leavesOf printTwice).filterMap (Leaf.set? (some "@media print") "a"))
        = [.repeated [.text "u", .text "v"]] ++ [.single (.text "w")]
      ∧ ∃ d last, sheet.declarations? (some "@media print") "a" = some d
        ∧ (∀ layout text, (printTree printTwice layout).result = .ok text
          ↔ sheet.isWritable = true ∧ layout.lines sheet.lines = text)
        ∧ HoldsBlock sheet.lines (d.lines (blockDepth (some "@media print")) "a")
            (some "@media print")
        ∧ (PropertyValue.single (.text "w")).last? = some last
        ∧ ((d.linesOf (blockDepth (some "@media print") + 1) "src").getLast?
              = some ⟨blockDepth (some "@media print") + 1, "src" ++ ": " ++ last.printed ++ ";"⟩
            ↔ (PropertyValue.single (.text "w")).ComesLast [.repeated [.text "u", .text "v"]]) := by
  have accepted : (flatten printTwice).result = .ok _ := rfl
  have given : PropertyValue.ofName "src"
      ((leavesOf printTwice).filterMap (Leaf.set? (some "@media print") "a"))
        = [.repeated [.text "u", .text "v"]] ++ [.single (.text "w")] := by decide
  exact ⟨_, accepted, given, flatten_last_line_iff accepted (by decide) (by decide) given⟩

/-- A tree that sets a property to a value, to several, and to a value
again. -/
def colorThrice : Value :=
  .map [("a b c", .map [("color", "red")]),
    ("a", .map [("b c", .map [("color", .list ["green"])])]),
    ("a b", .map [("c", .map [("color", "blue")])])]

/-- The last value of that tree is not printed last. -/
theorem flatten_colorThrice_last_line :
    ∃ sheet d, (flatten colorThrice).result = .ok sheet
      ∧ sheet.declarations? none "a b c" = some d
      ∧ (leavesOf colorThrice).filterMap (Leaf.set? none "a b c")
        = [("color", .single (.text "red")), ("color", .repeated [.text "green"]),
          ("color", .single (.text "blue"))]
      ∧ (d.linesOf 1 "color").getLast? = some ⟨1, "color: green;"⟩
      ∧ (printTree colorThrice {}).result
        = .ok "a b c \x7b\n  color: blue;\n  color: green;\n\x7d\n" := by
  have accepted : (flatten colorThrice).result = .ok _ := rfl
  exact ⟨_, _, accepted, rfl, by decide, by decide, by decide⟩

end Stylesheet
