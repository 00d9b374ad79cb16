/-
  Stylesheet.Proofs.Merging
  ─────────────────────────
  **MERGED KEYS MERGE LIKE THE KEYS THEY CAME FROM.**

  A merged key is taken apart again when it is merged further.  Nothing is
  lost on the way: what comes apart has no blanks around its condition, what
  is joined has none either, and so the rule that was put together comes
  back.  Hence it makes no difference in which order three keys are merged.

  Main statements:
    * `conjunction_assoc` — conditions are joined in any order;
    * `parse?_key_both` — the rule that two rules merge into comes back from
      its key;
    * `merge_merge` — a key that two keys merge into merges with a third as
      these two do one after the other, and fails as they do.
-/
import Stylesheet.Proofs.Rule

namespace Stylesheet.Text

open Stylesheet.Unicode

/-! ## §1. Texts without blanks at their ends. -/

/-- Neither the first nor the last character of a text is blank. -/
structure Trimmed (s : List Char) : Prop where
  /-- The first character, if there is one, is not blank. -/
  first : ∀ c ∈ s.head?, isBlank c = false
  /-- The last character, if there is one, is not blank. -/
  last : ∀ c ∈ s.getLast?, isBlank c = false

theorem dropWhile_eq_self {s : List Char} (h : ∀ c ∈ s.head?, isBlank c = false) :
    s.dropWhile isBlank = s := by
  cases s with
  | nil => rfl
  | cons c rest =>
      rw [List.dropWhile_cons, h c rfl]
      rfl

/-- **Trimming leaves no blanks at the ends.** -/
theorem trimmed_trim (s : List Char) : Trimmed (trim s) where
  first := by
    intro c hc
    rw [trim] at hc
    cases hs : s.dropWhile isBlank with
    | nil =>
        rw [hs] at hc
        cases hc
    | cons d rest =>
        -- the first character stays, since it is not blank
        have hd : isBlank d = false := head?_dropWhile_stop isBlank s d (by rw [hs]; rfl)
        rw [hs, trimRight_cons_of_not_blank hd] at hc
        rw [← Option.some.inj hc]
        exact hd
  last := by
    intro c hc
    rw [trim, trimRight, List.getLast?_reverse] at hc
    exact head?_dropWhile_stop isBlank _ c hc

theorem Trimmed.trim_eq {s : List Char} (h : Trimmed s) : trim s = s := by
  have back : s.reverse.dropWhile isBlank = s.reverse := by
    refine dropWhile_eq_self fun c hc => h.last c ?_
    rw [← List.head?_reverse]
    exact hc
  rw [trim, dropWhile_eq_self h.first, trimRight, back, List.reverse_reverse]

/-- Two trimmed texts stay trimmed with whatever is put between them. -/
theorem Trimmed.append {front back : List Char} (hfront : Trimmed front) (hback : Trimmed back)
    (hne : front ≠ []) (hne' : back ≠ []) (between : List Char) :
    Trimmed (front ++ between ++ back) where
  first := by
    intro c hc
    cases front with
    | nil => exact absurd rfl hne
    | cons d rest => exact hfront.first c hc
  last := by
    intro c hc
    rw [List.getLast?_append_of_ne_nil _ hne'] at hc
    exact hback.last c hc

end Stylesheet.Text

namespace Stylesheet.Condition

open Stylesheet.AtRule Stylesheet.Text

/-! ## §2. Joining conditions. -/

theorem conjunction_pair (a b : String) :
    conjunction [a, b] = if a = "" then b else if b = "" then a else a ++ " and " ++ b := by
  unfold conjunction
  by_cases ha : a = ""
  · by_cases hb : b = "" <;> simp [ha, hb]
  · by_cases hb : b = "" <;> simp [ha, hb]

/-- **Conditions are joined in any order.** -/
theorem conjunction_assoc (a b c : String) :
    conjunction [conjunction [a, b], c] = conjunction [a, conjunction [b, c]] := by
  simp only [conjunction_pair]
  by_cases ha : a = ""
  · simp [ha]
  · by_cases hb : b = ""
    · simp [ha, hb]
    · by_cases hc : c = ""
      · simp [ha, hb, hc]
      · simp [ha, hb, hc, String.append_assoc]

theorem both_assoc (outer middle inner : AtRule) :
    both (both outer middle) inner = both outer (both middle inner) := by
  unfold both
  rw [conjunction_assoc]

/-- The condition that two trimmed ones join to is trimmed. -/
theorem trimmed_conjunction {a b : String} (ha : Trimmed a.toList) (hb : Trimmed b.toList) :
    Trimmed (conjunction [a, b]).toList := by
  rw [conjunction_pair]
  split
  · exact hb
  · next hne =>
    split
    · exact ha
    · next hne' =>
      rw [String.toList_append, String.toList_append]
      exact ha.append hb (by simpa using hne) (by simpa using hne') _

/-! ## §3. Merging keys. -/

/-- What comes apart has no blanks around its condition. -/
theorem trimmed_of_parse? {key : String} {rule : AtRule} (h : parse? key = some rule) :
    Trimmed rule.condition.toList := by
  unfold parse? at h
  split at h
  · obtain rfl := Option.some.inj h
    rw [ofBody, String.toList_ofList]
    exact trimmed_trim _
  · cases h

/-- A grouping rule has a known name. -/
theorem known?_of_isGroup {key : String} {rule : AtRule} (hkey : IsGroup key)
    (h : parse? key = some rule) : rule.known? = some .group := by
  refine known?_of_kind ?_ (by decide)
  rw [← kindOf_of_parse? h]
  exact hkey.2

/-- **The rule that two grouping rules merge into comes back from its key.** -/
theorem parse?_key_both {outer inner : AtRule} (houter : Trimmed outer.condition.toList)
    (hinner : Trimmed inner.condition.toList) {kind : Kind} (hkind : inner.known? = some kind) :
    parse? (both outer inner).key = some (both outer inner) := by
  have known : (both outer inner).known? = some kind := by
    rw [← hkind]
    exact known?_of_name_eq rfl
  rw [parse?_key known]
  show some (AtRule.mk _ (String.ofList (trim (conjunction _).toList))) = _
  rw [(trimmed_conjunction houter hinner).trim_eq, String.ofList_toList]
  rfl

/-- **A key that two grouping keys merge into merges as these two do one after
the other**, whatever is active around them. -/
theorem merge_merge {active : Option String} (hactive : ∀ a, active = some a → IsGroup a)
    {outer inner key : String} (houter : IsGroup outer) (hinner : IsGroup inner)
    (h : merge (some outer) inner = .ok key) :
    merge active key = merge active outer >>= fun merged => merge (some merged) inner := by
  obtain ⟨o, i, ho, hi, hname, rfl⟩ := merge_some_eq_ok_iff.mp h
  cases active with
  | none => exact h.symm
  | some a =>
      obtain ⟨rule, hrule⟩ := parse?_isSome_of_isKey (hactive a rfl).1
      have known := known?_of_isGroup houter ho
      have back : parse? (both o i).key = some (both o i) :=
        parse?_key_both (trimmed_of_parse? ho) (trimmed_of_parse? hi) (known?_of_isGroup hinner hi)
      have again : parse? (both rule o).key = some (both rule o) :=
        parse?_key_both (trimmed_of_parse? hrule) (trimmed_of_parse? ho) known
      -- the names of all three are compared, in one order or in the other
      by_cases same : rule.name = o.name
      · have first : merge (some a) outer = .ok (both rule o).key :=
          merge_some_eq_ok_iff.mpr ⟨rule, o, hrule, ho, same, rfl⟩
        have second : merge (some (both rule o).key) inner = .ok (both (both rule o) i).key :=
          merge_some_eq_ok_iff.mpr ⟨both rule o, i, again, hi, hname, rfl⟩
        have joined : merge (some a) (both o i).key = .ok (both rule (both o i)).key :=
          merge_some_eq_ok_iff.mpr ⟨rule, both o i, hrule, back, same.trans hname, rfl⟩
        rw [joined, first, ← both_assoc]
        exact second.symm
      · have differs : rule.name ≠ (both o i).name := fun e => same (e.trans hname.symm)
        simp only [merge, hrule, back, ho, if_neg same, if_neg differs]
        show Except.error (MergeError.differentNames i.name rule.name)
          = Except.error (.differentNames o.name rule.name)
        rw [hname]

end Stylesheet.Condition
