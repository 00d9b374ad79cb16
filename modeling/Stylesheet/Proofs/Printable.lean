/-
  Stylesheet.Proofs.Printable
  ───────────────────────────
  **WHICH MAPPINGS ARE PRINTED, AND WHAT THE OTHERS ARE FAULTED FOR.**

  Any mapping can be given as a sheet.  Its entries are printed one after the
  other, and so are the rules below a grouping rule, so that of several
  faults the first is told.  An entry is first asked for a block and then for
  its key.  Without a block it is a fault of a selector, but one line for
  every at-rule; that an at-rule groups is seen only when it has a block.
  Besides these faults there is that of a number which cannot be written; it
  ends the printing at the place where it stands.

  Main statements:
    * `Traced.fault?_mapM` — of a run over a list the first fault counts;
    * `printable_or_unprintable` — an entry is printed, or has one of the
      faults;
    * `printSheet_first_unprintable` — when printing a mapping fails, and
      with which fault.
-/
import Stylesheet.Proofs.Printing

namespace Stylesheet

open AtRule Condition

/-! ## §1. Faults of runs over lists. -/

namespace Traced

variable {α β : Type}

theorem fault?_map (f : α → β) (x : Traced α) : (f <$> x).fault? = x.fault? := by
  rw [map_eq_pure_bind]
  cases h : x.result with
  | error e => rw [fault?_bind_of_error h, fault?_eq_some_iff.mpr h]
  | ok a =>
      rw [fault?_bind_of_ok h, fault?_eq_none_iff.mpr ⟨a, h⟩]
      rfl

/-- **Of a run over a list the first fault counts.** -/
theorem fault?_mapM (f : α → Traced β) (items : List α) :
    (items.mapM f).fault? = items.findSome? fun a => (f a).fault? := by
  induction items with
  | nil => rfl
  | cons a rest ih =>
      rw [List.mapM_cons, fault?_seq, ih, List.findSome?_cons]
      cases (f a).fault? <;> rfl

end Traced

/-! ## §2. Entries that are printed, and entries that are not. -/

theorem areWritableDeclarations_iff {declarations : List (Value × Value)} :
    areWritableDeclarations declarations = true ↔ ∀ d ∈ declarations, d.2.isWritable = true :=
  List.all_eq_true

theorem areWritableDeclarations_eq_false_iff {declarations : List (Value × Value)} :
    areWritableDeclarations declarations = false ↔ ∃ d ∈ declarations, d.2.isWritable = false := by
  rw [areWritableDeclarations, List.all_eq_false]
  simp only [Bool.not_eq_true]

/-- A selector below a grouping rule that is printed has a block, and nothing
that cannot be written. -/
def PrintableRule (rule : Value × Value) : Prop :=
  rule.1.isWritable = true ∧ ∃ declarations, rule.2 = .map declarations
    ∧ ∀ d ∈ declarations, d.2.isWritable = true

/-- Another one has something that cannot be written, itself or inside its
block, if it does not lack the block. -/
def RuleTooLong (rule : Value × Value) : Prop :=
  rule.1.isWritable = false ∨ ∃ declarations, rule.2 = .map declarations
    ∧ ∃ d ∈ declarations, d.2.isWritable = false

/-- What an entry of a sheet that is printed is. -/
inductive Printable (key : String) : Value → Prop where
  /-- An at-rule without a block, a grouping rule among them. -/
  | line {value} (hkey : isKey key = true) (hvalue : value.entries? = none)
      (hwritable : value.isWritable = true) : Printable key value
  /-- A block of a key that groups nothing. -/
  | block {declarations} (hkey : ¬IsGroup key)
      (hwritable : ∀ d ∈ declarations, d.2.isWritable = true) : Printable key (.map declarations)
  /-- A grouping rule with a block for every selector. -/
  | group {rules} (hkey : IsGroup key) (hrules : ∀ rule ∈ rules, PrintableRule rule) :
      Printable key (.map rules)

/-- What is wrong with another entry: the family of the fault, its place and
the fault itself.  Two faults are those of a sheet; the others are that of a
number which has to be written on the way and cannot be. -/
inductive Unprintable (key : String) :
    Value → Family → Option (List String) → Fault → Prop where
  /-- A selector without a block. -/
  | selector {value} (hkey : isKey key = false) (hvalue : value.entries? = none) :
      Unprintable key value .wrongType (some [key]) (.selectorNotBlock key value)
  /-- The first selector without a block below a grouping rule. -/
  | rule {before selector value after} (hkey : IsGroup key)
      (hbefore : ∀ rule ∈ before, PrintableRule rule) (hselector : selector.isWritable = true)
      (hvalue : value.entries? = none) :
      Unprintable key (.map (before ++ (selector, value) :: after)) .ruleShape
        (some [key, selector.printed]) (.groupedSelector key)
  /-- An at-rule without a block whose value is too long. -/
  | lineTooLong {value} (hkey : isKey key = true) (hvalue : value.entries? = none)
      (hlong : value.isWritable = false) : Unprintable key value .number none .tooManyDigits
  /-- A declaration of a block that is too long. -/
  | blockTooLong {declarations} (hkey : ¬IsGroup key)
      (hlong : ∃ d ∈ declarations, d.2.isWritable = false) :
      Unprintable key (.map declarations) .number none .tooManyDigits
  /-- The first selector below a grouping rule that is too long. -/
  | ruleTooLong {before rule after} (hkey : IsGroup key)
      (hbefore : ∀ rule ∈ before, PrintableRule rule) (hlong : RuleTooLong rule) :
      Unprintable key (.map (before ++ rule :: after)) .number none .tooManyDigits

theorem family_of_unprintable {key : String} {value : Value} {family : Family}
    {path : Option (List String)} {fault : Fault} (h : Unprintable key value family path fault) :
    fault.family = family := by
  cases h <;> rfl

theorem path_of_unprintable {key : String} {value : Value} {family : Family}
    {path : Option (List String)} {fault : Fault} (h : Unprintable key value family path fault) :
    path = none ↔ fault = .tooManyDigits := by
  cases h with
  | selector | rule => exact iff_of_false (Option.some_ne_none _) Fault.noConfusion
  | lineTooLong | blockTooLong | ruleTooLong => exact iff_of_true rfl rfl

/-- A selector below a grouping rule is printed, lacks its block, or is too
long. -/
theorem printableRule_or (rule : Value × Value) :
    PrintableRule rule ∨ RuleTooLong rule
      ∨ rule.1.isWritable = true ∧ rule.2.entries? = none := by
  cases hselector : rule.1.isWritable with
  | false => exact Or.inr (Or.inl (Or.inl hselector))
  | true =>
      rcases rule.2.map_or_not with ⟨declarations, hblock⟩ | hvalue
      · cases hwritable : areWritableDeclarations declarations with
        | true =>
            exact Or.inl ⟨hselector, declarations, hblock,
              areWritableDeclarations_iff.mp hwritable⟩
        | false =>
            exact Or.inr (Or.inl (Or.inr ⟨declarations, hblock,
              areWritableDeclarations_eq_false_iff.mp hwritable⟩))
      · exact Or.inr (Or.inr ⟨rfl, hvalue⟩)

/-- **An entry can be printed or has one of the faults.** -/
theorem printable_or_unprintable (key : String) (value : Value) :
    Printable key value ∨ ∃ family path fault, Unprintable key value family path fault := by
  rcases value.map_or_not with ⟨entries, rfl⟩ | hvalue
  · by_cases hgroup : IsGroup key
    · rcases forall_or_first PrintableRule entries with
        hall | ⟨_, rule, _, rfl, hbefore, hfirst⟩
      · exact Or.inl (.group hgroup hall)
      · rcases (printableRule_or rule).resolve_left hfirst with hlong | ⟨hselector, hvalue⟩
        · exact Or.inr ⟨_, _, _, .ruleTooLong hgroup hbefore hlong⟩
        · exact Or.inr ⟨_, _, _, .rule hgroup hbefore hselector hvalue⟩
    · cases hwritable : areWritableDeclarations entries with
      | true => exact Or.inl (.block hgroup (areWritableDeclarations_iff.mp hwritable))
      | false =>
          have hlong := areWritableDeclarations_eq_false_iff.mp hwritable
          exact Or.inr ⟨_, _, _, .blockTooLong hgroup hlong⟩
  · cases hkey : isKey key with
    | true =>
        cases hwritable : value.isWritable with
        | true => exact Or.inl (.line hkey hvalue hwritable)
        | false => exact Or.inr ⟨_, _, _, .lineTooLong hkey hvalue hwritable⟩
    | false => exact Or.inr ⟨_, _, _, .selector hkey hvalue⟩

/-! ## §3. Faults of entries. -/

namespace Traced

variable {α : Type} (a : α)

theorem fault?_ifWritable_of_writable {isWritable : Bool} (h : isWritable = true) :
    (ifWritable isWritable a).fault? = none := by
  rw [h]
  rfl

theorem fault?_ifWritable_of_not {isWritable : Bool} (h : isWritable = false) :
    (ifWritable isWritable a).fault? = some ⟨.tooManyDigits, none⟩ := by
  rw [h]
  rfl

theorem fault?_of_result_eq {x y : Traced α} (h : x.result = y.result) : x.fault? = y.fault? := by
  rw [fault?, fault?, h]

end Traced

section Entries

variable {key : String} {value : Value} {rule : Value × Value}

/-- A selector that can be written goes on to its block. -/
theorem groupedLines_of_writable (h : rule.1.isWritable = true) :
    groupedLines key rule.1 rule.2 = match rule.2 with
      | .map declarations =>
          .ifWritable (areWritableDeclarations declarations)
            (declarationsLines 1 rule.1.printed declarations)
      | _ => .fail (some [key, rule.1.printed]) (.groupedSelector key) := by
  rw [groupedLines, Traced.print, h]
  cases rule.2 <;> rfl

theorem fault?_groupedLines_of_printable (h : PrintableRule rule) :
    (groupedLines key rule.1 rule.2).fault? = none := by
  obtain ⟨hselector, declarations, hblock, hwritable⟩ := h
  rw [groupedLines_of_writable hselector, hblock]
  exact Traced.fault?_ifWritable_of_writable _ (areWritableDeclarations_iff.mpr hwritable)

theorem fault?_groupedLines_no_block (hselector : rule.1.isWritable = true)
    (hvalue : rule.2.entries? = none) :
    (groupedLines key rule.1 rule.2).fault?
      = some ⟨.groupedSelector key, some [key, rule.1.printed]⟩ := by
  rw [groupedLines_of_writable hselector]
  cases hblock : rule.2 with
  | map entries =>
      rw [hblock] at hvalue
      cases hvalue
  | _ => rfl

theorem fault?_groupedLines_of_tooLong (h : RuleTooLong rule) :
    (groupedLines key rule.1 rule.2).fault? = some ⟨.tooManyDigits, none⟩ := by
  rcases h with hselector | ⟨declarations, hblock, hlong⟩
  · rw [groupedLines, Traced.print, hselector]
    rfl
  · cases hselector : rule.1.isWritable with
    | false =>
        rw [groupedLines, Traced.print, hselector]
        rfl
    | true =>
        rw [groupedLines_of_writable hselector, hblock]
        exact Traced.fault?_ifWritable_of_not _ (areWritableDeclarations_eq_false_iff.mpr hlong)

/-- Below a grouping rule the first fault of its rules counts. -/
theorem fault?_entryLines_group (hkey : IsGroup key) (rules : List (Value × Value)) :
    (entryLines key (.map rules)).fault?
      = rules.findSome? fun rule => (groupedLines key rule.1 rule.2).fault? := by
  rw [Traced.fault?, result_entryLines_group hkey, ← map_eq_pure_bind, ← Traced.fault?_mapM]
  exact Traced.fault?_map _ _

/-- The first rule with a fault is behind rules that are printed. -/
theorem fault?_entryLines_rule (hkey : IsGroup key) {before after : List (Value × Value)}
    (hbefore : ∀ rule ∈ before, PrintableRule rule) {error : LocatedFault}
    (hrule : (groupedLines key rule.1 rule.2).fault? = some error) :
    (entryLines key (.map (before ++ rule :: after))).fault? = some error := by
  rw [fault?_entryLines_group hkey, List.findSome?_eq_some_iff]
  exact ⟨before, rule, after, rfl, hrule,
    fun other hother => fault?_groupedLines_of_printable (hbefore other hother)⟩

theorem fault?_of_printable (h : Printable key value) : (entryLines key value).fault? = none := by
  cases h with
  | line hkey hvalue hwritable =>
      rw [Traced.fault?_of_result_eq (result_entryLines_line hkey hvalue)]
      exact Traced.fault?_ifWritable_of_writable _ hwritable
  | block hkey hwritable =>
      rw [Traced.fault?_of_result_eq (result_entryLines_block hkey)]
      exact Traced.fault?_ifWritable_of_writable _ (areWritableDeclarations_iff.mpr hwritable)
  | group hkey hrules =>
      rw [fault?_entryLines_group hkey, List.findSome?_eq_none_iff]
      exact fun rule hrule => fault?_groupedLines_of_printable (hrules rule hrule)

theorem fault?_of_unprintable {family : Family} {path : Option (List String)} {fault : Fault}
    (h : Unprintable key value family path fault) :
    (entryLines key value).fault? = some ⟨fault, path⟩ := by
  cases h with
  | selector hkey hvalue =>
      exact Traced.fault?_eq_some_iff.mpr (result_entryLines_no_block hkey hvalue)
  | rule hkey hbefore hselector hvalue =>
      exact fault?_entryLines_rule hkey hbefore (fault?_groupedLines_no_block hselector hvalue)
  | lineTooLong hkey hvalue hlong =>
      rw [Traced.fault?_of_result_eq (result_entryLines_line hkey hvalue)]
      exact Traced.fault?_ifWritable_of_not _ hlong
  | blockTooLong hkey hlong =>
      rw [Traced.fault?_of_result_eq (result_entryLines_block hkey)]
      exact Traced.fault?_ifWritable_of_not _ (areWritableDeclarations_eq_false_iff.mpr hlong)
  | ruleTooLong hkey hbefore hlong =>
      exact fault?_entryLines_rule hkey hbefore (fault?_groupedLines_of_tooLong hlong)

theorem fault?_entryLines_eq_none_iff :
    (entryLines key value).fault? = none ↔ Printable key value := by
  constructor
  · intro h
    rcases printable_or_unprintable key value with printable | ⟨_, _, _, unprintable⟩
    · exact printable
    · rw [fault?_of_unprintable unprintable] at h
      cases h
  · exact fault?_of_printable

/-- The faults of entries are those that there are. -/
theorem fault?_entryLines_eq_some_iff {error : LocatedFault} :
    (entryLines key value).fault? = some error
      ↔ ∃ family, Unprintable key value family error.path error.fault := by
  constructor
  · intro h
    rcases printable_or_unprintable key value with printable | ⟨family, path, fault, unprintable⟩
    · rw [fault?_of_printable printable] at h
      cases h
    · rw [fault?_of_unprintable unprintable] at h
      obtain rfl := Option.some.inj h
      exact ⟨family, unprintable⟩
  · intro h
    obtain ⟨family, unprintable⟩ := h
    exact fault?_of_unprintable unprintable

/-- No entry is both. -/
theorem not_unprintable_iff :
    (¬∃ family path fault, Unprintable key value family path fault) ↔ Printable key value := by
  constructor
  · exact (printable_or_unprintable key value).resolve_right
  · intro printable h
    obtain ⟨_, _, _, unprintable⟩ := h
    have none := fault?_of_printable printable
    rw [fault?_of_unprintable unprintable] at none
    cases none

end Entries

/-! ## §4. Faults of sheets. -/

section Sheets

variable (entries : List (Value × Value)) (layout : SheetLayout)

/-- **Of a sheet the first fault of its entries counts**, whatever the
layout. -/
theorem fault?_printSheet :
    (printSheet (.map entries) layout).fault?
      = entries.findSome? fun e => (entryLines e.1.printed e.2).fault? := by
  rw [← Traced.fault?_mapM, printSheet_eq, Traced.fault?_map, sheetLines, ← map_eq_pure_bind,
    Traced.fault?_map]

theorem exists_printSheet_iff :
    (∃ text, (printSheet (.map entries) layout).result = .ok text)
      ↔ ∀ e ∈ entries, Printable e.1.printed e.2 := by
  rw [← Traced.fault?_eq_none_iff, fault?_printSheet, List.findSome?_eq_none_iff]
  exact forall₂_congr fun e _ => fault?_entryLines_eq_none_iff

theorem result_printSheet_eq_error_iff (error : LocatedFault) :
    (printSheet (.map entries) layout).result = .error error
      ↔ ∃ before key value after, entries = before ++ (key, value) :: after
        ∧ (∀ e ∈ before, Printable e.1.printed e.2)
        ∧ ∃ family, Unprintable key.printed value family error.path error.fault := by
  rw [← Traced.fault?_eq_some_iff, fault?_printSheet, List.findSome?_eq_some_iff]
  constructor
  · intro h
    obtain ⟨before, e, after, hsplit, hfault, hbefore⟩ := h
    exact ⟨before, e.1, e.2, after, hsplit,
      fun b hb => fault?_entryLines_eq_none_iff.mp (hbefore b hb),
      fault?_entryLines_eq_some_iff.mp hfault⟩
  · intro h
    obtain ⟨before, key, value, after, hsplit, hbefore, unprintable⟩ := h
    exact ⟨before, (key, value), after, hsplit, fault?_entryLines_eq_some_iff.mpr unprintable,
      fun b hb => fault?_entryLines_eq_none_iff.mpr (hbefore b hb)⟩

/-- An at-rule alone, without a block. -/
theorem result_printSheet_line {key : String} {value : Value} (hkey : isKey key = true)
    (hvalue : value.entries? = none) :
    (printSheet (.map [(.text key, value)]) layout).result
      = (Traced.ifWritable value.isWritable
          (key ++ " " ++ value.printed ++ ";" ++ layout.newline)).result := by
  have alone : sheetLines (.map [(.text key, value)])
      = (fun lines => [lines].flatten) <$> entryLines key value := by
    simp [sheetLines]
  rw [printSheet_eq, alone, ← comp_map, map_eq_pure_bind, Traced.result_bind,
    result_entryLines_line hkey hvalue, ← Traced.result_bind, ← map_eq_pure_bind,
    Traced.map_ifWritable]
  simp [SheetLayout.lines, SheetLayout.padded, SheetLayout.pad]

end Sheets

/-- **What printing rejects.**  Printing a mapping fails just when an entry
is one of those that cannot be printed, in every layout; then the fault is
that of the first such entry, of the family and with the place that go with
it.  Only a number that is too long to be written has no place.  A grouping
rule that has no block at all is not among them: it is printed as one line,
if its value can be written. -/
theorem printSheet_first_unprintable (entries : List (Value × Value)) (layout : SheetLayout) :
    ((∃ error, (printSheet (.map entries) layout).result = .error error)
        ↔ ∃ e ∈ entries, ∃ family path fault, Unprintable e.1.printed e.2 family path fault)
    ∧ (∀ family path fault,
        (printSheet (.map entries) layout).result = .error ⟨fault, path⟩ ∧ fault.family = family
          ↔ ∃ before key value after, entries = before ++ (key, value) :: after
            ∧ (∀ e ∈ before,
              ¬∃ family path fault, Unprintable e.1.printed e.2 family path fault)
            ∧ Unprintable key.printed value family path fault)
    ∧ (∀ error, (printSheet (.map entries) layout).result = .error error →
        (error.path = none ↔ error.fault = .tooManyDigits))
    ∧ ∀ key value, IsGroup key → value.entries? = none → value.isWritable = true →
        (printSheet (.map [(.text key, value)]) layout).result
          = .ok (key ++ " " ++ value.printed ++ ";" ++ layout.newline) := by
  refine ⟨?_, ?_, ?_, ?_⟩
  · constructor
    · intro given
      obtain ⟨error, herror⟩ := given
      obtain ⟨_, key, value, _, rfl, -, family, unprintable⟩ :=
        (result_printSheet_eq_error_iff entries layout error).mp herror
      exact ⟨(key, value), List.mem_append_right _ List.mem_cons_self, family, _, _,
        unprintable⟩
    · intro given
      obtain ⟨e, he, unprintable⟩ := given
      cases h : (printSheet (.map entries) layout).result with
      | error error => exact ⟨error, rfl⟩
      | ok text =>
          have printable := (exists_printSheet_iff entries layout).mp ⟨text, h⟩ e he
          exact absurd unprintable (not_unprintable_iff.mpr printable)
  · intro family path fault
    rw [result_printSheet_eq_error_iff]
    constructor
    · intro given
      obtain ⟨⟨before, key, value, after, hsplit, hbefore, _, unprintable⟩, rfl⟩ := given
      rw [family_of_unprintable unprintable]
      exact ⟨before, key, value, after, hsplit,
        fun e he => not_unprintable_iff.mpr (hbefore e he), unprintable⟩
    · intro given
      obtain ⟨before, key, value, after, hsplit, hbefore, unprintable⟩ := given
      exact ⟨⟨before, key, value, after, hsplit,
        fun e he => not_unprintable_iff.mp (hbefore e he), family, unprintable⟩,
        family_of_unprintable unprintable⟩
  · intro error herror
    obtain ⟨_, _, _, _, -, -, _, unprintable⟩ :=
      (result_printSheet_eq_error_iff entries layout error).mp herror
    exact path_of_unprintable unprintable
  · intro key value hgroup hvalue hwritable
    rw [result_printSheet_line layout hgroup.1 hvalue, hwritable]
    rfl

/-- A grouping rule whose second selector has no block, before a selector
without one. -/
def secondRule : List (Value × Value) :=
  [("@charset", "utf-8"), ("@media print", .map [("a", .map []), ("b", "red"), ("c", .null)]),
    ("d", "blue")]

theorem printSheet_first_unprintable_secondRule :
    (printSheet (.map secondRule) { indent := "", newline := "\r\n" }).result
        = .error ⟨.groupedSelector "@media print", some ["@media print", "b"]⟩
      ∧ (printSheet (.map [("@Supports (a: b)", .list [])])
          { indent := "", newline := "\r\n" }).result = .ok "@Supports (a: b) [];\r\n" := by
  have bad : Unprintable "@media print" (.map [("a", .map []), ("b", "red"), ("c", .null)])
      .ruleShape (some ["@media print", "b"]) (.groupedSelector "@media print") := by
    refine @Unprintable.rule _ [("a", .map [])] "b" "red" [("c", .null)] (by decide) ?_ rfl rfl
    intro rule hmem
    rw [List.mem_singleton.mp hmem]
    exact ⟨rfl, [], rfl, nofun⟩
  obtain ⟨-, first, -, line⟩ :=
    printSheet_first_unprintable secondRule { indent := "", newline := "\r\n" }
  constructor
  · refine ((first .ruleShape (some ["@media print", "b"])
      (.groupedSelector "@media print")).mpr ?_).1
    refine ⟨[("@charset", "utf-8")], "@media print", _, [("d", "blue")], rfl, ?_, bad⟩
    intro e he
    rw [List.mem_singleton.mp he]
    exact not_unprintable_iff.mpr (.line (by decide) rfl rfl)
  · exact line "@Supports (a: b)" (.list []) (by decide) rfl rfl

/-- A grouping rule with nothing at all is printed all the same. -/
theorem printSheet_mediaScreen_line :
    IsGroup "@media screen"
      ∧ (printSheet (.map [("@media screen", .null)]) {}).result
        = .ok "@media screen None;\n" :=
  ⟨by decide, by decide⟩

end Stylesheet
