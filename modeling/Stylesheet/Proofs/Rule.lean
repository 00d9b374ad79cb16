/-
  Stylesheet.Proofs.Rule
  ──────────────────────
  **AT-RULE KEYS AND THEIR KINDS.**

  Every key that begins with an `@` comes apart, so classifying it never
  fails, and the kind of a rule is the kind of its name.  A rule of a known
  name is put together into a key of the same name; that is why a merged
  key is a grouping rule again.

  Main statements:
    * `parse?_isSome_of_isKey` — a key that begins with an `@` comes apart;
    * `parse?_key` — a rule of a known name comes back from its key;
    * `isGroup_of_merge` — grouping rules merge into grouping rules;
    * `merge_eq_error_iff` — grouping rules do not merge when their names
      differ, and for no other reason.
-/
import Mathlib.Data.List.TakeWhile
import Stylesheet.Flatten
import Stylesheet.Proofs.Name

namespace Stylesheet.Text

open Stylesheet.Unicode

/-! ## §1. Trimming behind a character that stays. -/

theorem trimRight_cons_of_not_blank {c : Char} (h : isBlank c = false) (s : List Char) :
    trimRight (c :: s) = c :: trimRight s := by
  unfold trimRight
  rw [List.reverse_cons, List.dropWhile_append]
  split
  · next blank =>
    rw [List.isEmpty_iff] at blank
    rw [blank, List.dropWhile_cons, h]
    rfl
  · rw [List.reverse_append]
    rfl

theorem trimRight_append_of_not_blank {front : List Char} (h : ∀ c ∈ front, isBlank c = false)
    (s : List Char) : trimRight (front ++ s) = front ++ trimRight s := by
  induction front with
  | nil => rfl
  | cons c rest ih =>
      rw [List.cons_append, trimRight_cons_of_not_blank (h c List.mem_cons_self),
        ih fun d hd => h d (List.mem_cons_of_mem _ hd), List.cons_append]

/-- What trimming leaves of a text is its beginning. -/
theorem trimRight_prefix (s : List Char) : trimRight s <+: s := by
  have suffix := List.dropWhile_suffix isBlank (l := s.reverse)
  rw [← List.reverse_prefix, List.reverse_reverse] at suffix
  exact suffix

/-- Blanks at the end make no difference. -/
theorem trim_append_blank (s : List Char) {blanks : List Char}
    (h : ∀ c ∈ blanks, isBlank c = true) : trim (s ++ blanks) = trim s := by
  rw [trim, trim, List.dropWhile_append]
  split
  · next nothing =>
    -- the text is blank throughout, and so is the longer one
    rw [List.isEmpty_iff] at nothing
    have all : blanks.dropWhile isBlank = [] := List.dropWhile_eq_nil_iff.mpr h
    rw [all, nothing]
  · exact trimRight_append_blank _ blanks h

theorem trim_trimRight (s : List Char) : trim (trimRight s) = trim s := by
  have parts := List.takeWhile_append_dropWhile (p := isBlank) (l := s.reverse)
  have blank : ∀ c ∈ (s.reverse.takeWhile isBlank).reverse, isBlank c = true := by
    intro c hc
    exact List.all_eq_true.mp List.all_takeWhile c (List.mem_reverse.mp hc)
  have same : trimRight s ++ (s.reverse.takeWhile isBlank).reverse = s := by
    rw [trimRight, ← List.reverse_append, parts, List.reverse_reverse]
  rw [← trim_append_blank (trimRight s) blank, same]

/-- A blank at the beginning makes no difference. -/
theorem trim_cons_blank {c : Char} (h : isBlank c = true) (s : List Char) :
    trim (c :: s) = trim s := by
  rw [trim, List.dropWhile_cons, if_pos h]
  rfl

end Stylesheet.Text

namespace Stylesheet.AtRule

open Stylesheet.Unicode Stylesheet.Text Stylesheet.Property

/-! ## §2. Taking a key apart. -/

/-- The kind of the at-rule that a key is; one that is not known takes a
single value. -/
def kindOf (key : String) : Kind :=
  match parse? key with
  | some rule => rule.kind
  | none => .statement

/-- A key that begins with an `@` is trimmed behind it only. -/
theorem parse?_of_toList {key : String} {body : List Char} (h : key.toList = '@' :: body) :
    parse? key = some (ofBody (trimRight body)) := by
  have trimmed : trim key.toList = '@' :: trimRight body := by
    rw [h, trim, List.dropWhile_cons, show isBlank '@' = false by decide]
    exact trimRight_cons_of_not_blank (by decide) body
  rw [parse?, trimmed]
  rfl

theorem exists_body {key : String} (h : isKey key = true) : ∃ body, key.toList = '@' :: body := by
  rw [isKey_iff] at h
  cases hs : key.toList with
  | nil =>
      rw [hs] at h
      cases h
  | cons c body =>
      rw [hs, List.head?_cons, Option.some.injEq] at h
      exact ⟨body, by rw [h]⟩

/-- **A key that begins with an `@` comes apart.** -/
theorem parse?_isSome_of_isKey {key : String} (h : isKey key = true) :
    ∃ rule, parse? key = some rule := by
  obtain ⟨body, hbody⟩ := exists_body h
  exact ⟨_, parse?_of_toList hbody⟩

theorem kindOf_of_parse? {key : String} {rule : AtRule} (h : parse? key = some rule) :
    kindOf key = rule.kind := by
  rw [kindOf, h]

/-! ## §3. Putting a rule of a known name together. -/

/-- A character of a name in lower case. -/
def isPlain (c : Char) : Bool := isNameChar c && !isBlank c && lowerChar c == [c]

/-- The known names are made of name characters in lower case. -/
theorem knownKinds_plain : (knownKinds.all fun e => e.1.toList.all isPlain) = true := by
  decide +kernel

theorem isPlain_of_mem {e : String × Kind} (he : e ∈ knownKinds) {c : Char}
    (hc : c ∈ e.1.toList) : isNameChar c = true ∧ isBlank c = false ∧ lowerChar c = [c] := by
  have plain := List.all_eq_true.mp (List.all_eq_true.mp knownKinds_plain e he) c hc
  simpa [isPlain, and_assoc] using plain

theorem mem_knownKinds {rule : AtRule} {kind : Kind} (h : rule.known? = some kind) :
    (rule.name, kind) ∈ knownKinds := by
  rw [known?, List.lookup_eq_some_iff] at h
  obtain ⟨front, back, happ, -⟩ := h
  rw [happ]
  simp

theorem toList_key (rule : AtRule) :
    rule.key.toList
      = '@' :: (rule.name.toList
          ++ if rule.condition.isEmpty then [] else ' ' :: rule.condition.toList) := by
  unfold key
  split
  · simp
  · simp

theorem isKey_key (rule : AtRule) : isKey rule.key = true := by
  rw [isKey_iff, toList_key, List.head?_cons]

/-- A space ends the name that stands before it. -/
theorem head?_trimRight_space (s : List Char) :
    ∀ c ∈ (trimRight (' ' :: s)).head?, isNameChar c = false := by
  intro c hc
  obtain ⟨rest, hrest⟩ := trimRight_prefix (' ' :: s)
  cases ht : trimRight (' ' :: s) with
  | nil =>
      rw [ht] at hc
      cases hc
  | cons d front =>
      rw [ht, List.head?_cons, Option.mem_some_iff] at hc
      rw [ht, List.cons_append, List.cons.injEq] at hrest
      rw [← hc, hrest.1]
      rfl

/-- **A rule of a known name comes back from its key**, but for blanks around
its condition. -/
theorem parse?_key {rule : AtRule} {kind : Kind} (h : rule.known? = some kind) :
    parse? rule.key = some ⟨rule.name, String.ofList (trim rule.condition.toList)⟩ := by
  rw [parse?_of_toList (toList_key rule)]
  have chars : ∀ c ∈ rule.name.toList, isNameChar c = true ∧ isBlank c = false
      ∧ lowerChar c = [c] := fun c hc => isPlain_of_mem (mem_knownKinds h) hc
  have lowered := lower_of_settled fun c hc => (chars c hc).2.2
  rw [trimRight_append_of_not_blank fun c hc => (chars c hc).2.1, ofBody]
  -- what follows the name is nothing or begins with a space, which ends the name
  generalize htail : (if rule.condition.isEmpty then [] else ' ' :: rule.condition.toList) = tail
  have stop : ∀ c ∈ (trimRight tail).head?, isNameChar c = false := by
    rw [← htail]
    split
    · exact nofun
    · exact head?_trimRight_space _
  have condition : trim tail = trim rule.condition.toList := by
    rw [← htail]
    split
    · next nothing => rw [String.isEmpty_iff.mp nothing]; rfl
    · exact trim_cons_blank (by decide) _
  have name : ∀ c ∈ rule.name.toList, isNameChar c = true := fun c hc => (chars c hc).1
  rw [takeWhile_append_stop name stop, dropWhile_append_stop name stop, lowered,
    String.ofList_toList, trim_trimRight, condition]

theorem known?_of_name_eq {rule other : AtRule} (h : rule.name = other.name) :
    rule.known? = other.known? := by
  rw [known?, known?, h]

theorem known?_of_kind {rule : AtRule} {k : Kind} (h : rule.kind = k) (hk : k ≠ .statement) :
    rule.known? = some k := by
  rw [kind] at h
  cases hr : rule.known? with
  | none =>
      rw [hr] at h
      exact absurd h.symm hk
  | some other =>
      rw [hr] at h
      rw [← h]
      rfl

theorem kindOf_key {rule : AtRule} {kind : Kind} (h : rule.known? = some kind) :
    kindOf rule.key = kind := by
  have again : (⟨rule.name, String.ofList (trim rule.condition.toList)⟩ : AtRule).known? = some kind :=
    h
  rw [kindOf_of_parse? (parse?_key h), AtRule.kind, again]
  rfl

end Stylesheet.AtRule

namespace Stylesheet.Condition

open Stylesheet.AtRule

/-! ## §4. Merging grouping rules. -/

/-- A key of a grouping rule. -/
def IsGroup (key : String) : Prop := isKey key = true ∧ kindOf key = .group

instance (key : String) : Decidable (IsGroup key) := inferInstanceAs (Decidable (_ ∧ _))

theorem not_isGroup_of_isKey {key : String} (hkey : isKey key = false) : ¬IsGroup key := by
  intro group
  rw [group.1] at hkey
  cases hkey

/-- A rule of another kind does not group. -/
theorem not_isGroup_of_kind {key : String} {kind : Kind} (hkind : kindOf key = kind)
    (hne : kind ≠ .group) : ¬IsGroup key := by
  intro group
  exact hne (hkind.symm.trans group.2)

/-- **Grouping rules merge into grouping rules.** -/
theorem isGroup_of_merge {active : Option String} {key merged : String} (hkey : IsGroup key)
    (h : merge active key = .ok merged) : IsGroup merged := by
  cases active with
  | none =>
      rw [merge_none, Except.ok.injEq] at h
      rw [← h]
      exact hkey
  | some active =>
      obtain ⟨outer, inner, -, hinner, -, rfl⟩ := merge_some_eq_ok_iff.mp h
      have kind : inner.kind = .group := by
        rw [← kindOf_of_parse? hinner]
        exact hkey.2
      have known := known?_of_kind kind (by decide)
      refine ⟨isKey_key _, kindOf_key ?_⟩
      rw [← known]
      exact known?_of_name_eq rfl

/-- **At-rules do not merge when their names differ, and for no other
reason.** -/
theorem merge_eq_error_iff {active : Option String} {key : String} {error : MergeError}
    (hkey : isKey key = true) (hactive : ∀ a, active = some a → isKey a = true) :
    merge active key = .error error ↔
      ∃ a outer inner, active = some a ∧ parse? a = some outer ∧ parse? key = some inner ∧
        outer.name ≠ inner.name ∧ error = .differentNames inner.name outer.name := by
  obtain ⟨inner, hinner⟩ := parse?_isSome_of_isKey hkey
  cases active with
  | none => simp [merge_none]
  | some a =>
      obtain ⟨outer, houter⟩ := parse?_isSome_of_isKey (hactive a rfl)
      simp only [merge, hinner, houter, Option.some.injEq]
      by_cases h : outer.name = inner.name
      · rw [if_pos h]
        constructor
        · intro h'
          cases h'
        · intro given
          obtain ⟨_, o, i, rfl, ho, rfl, hne, -⟩ := given
          rw [houter, Option.some.injEq] at ho
          exact absurd (ho ▸ h) hne
      · rw [if_neg h, Except.error.injEq]
        constructor
        · intro same
          subst same
          exact ⟨a, outer, inner, rfl, houter, rfl, h, rfl⟩
        · intro given
          obtain ⟨_, o, i, rfl, ho, rfl, -, rfl⟩ := given
          rw [houter, Option.some.injEq] at ho
          rw [ho]

end Stylesheet.Condition
