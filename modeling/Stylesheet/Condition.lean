/-
  Stylesheet.Condition
  ────────────────────
  **MERGING THE CONDITIONS OF NESTED GROUPING RULES.**

  A grouping rule inside another of the same name applies when both
  conditions hold, so the two keys become one whose condition joins theirs
  with `and`; an empty condition adds nothing.  Rules of different names
  have no common key.

  Main statements: `merge_none`, a key that is not nested keeps its text,
  and `merge_some_eq_ok_iff`, which keys merge and into what.
-/
import Stylesheet.AtRule

namespace Stylesheet.Condition

/-! ## §1. Merging. -/

/-- Why two keys do not merge. -/
inductive MergeError where
  /-- A key is no at-rule. -/
  | notAtRule (key : String)
  /-- The rule of the given name stands inside a rule of another name. -/
  | differentNames (name active : String)
  deriving Repr, DecidableEq

/-- The wording of a merge error. -/
def MergeError.message : MergeError → String
  | .notAtRule key => AtRule.notAtRule key
  | .differentNames name active =>
      "Cannot nest @" ++ name ++ " inside @" ++ active ++
        ": only at-rules of the same name can be merged"

/-- Conditions with `and` between them, empty ones left out. -/
def conjunction (conditions : List String) : String :=
  String.intercalate " and " (conditions.filter fun c => !c.isEmpty)

/-- The rule that applies when an outer and an inner rule of one name do. -/
def both (outer inner : AtRule) : AtRule where
  name := inner.name
  condition := conjunction [outer.condition, inner.condition]

/-- The key of a rule inside the active one. -/
def merge : (active : Option String) → (key : String) → Except MergeError String
  | none, key => .ok key
  | some active, key =>
      match AtRule.parse? key, AtRule.parse? active with
      | none, _ => .error (.notAtRule key)
      | some _, none => .error (.notAtRule active)
      | some inner, some outer =>
          if outer.name = inner.name then .ok (both outer inner).key
          else .error (.differentNames inner.name outer.name)

/-! ## §2. Laws. -/

/-- **A key that is not nested keeps its text.** -/
theorem merge_none (key : String) : merge none key = .ok key := rfl

/-- **Two keys merge when both are at-rules of one name, and then into the
key of the rule that applies when both do.** -/
theorem merge_some_eq_ok_iff {active key merged : String} :
    merge (some active) key = .ok merged ↔
      ∃ outer inner, AtRule.parse? active = some outer ∧ AtRule.parse? key = some inner ∧
        outer.name = inner.name ∧ merged = (both outer inner).key := by
  simp only [merge]
  cases hkey : AtRule.parse? key with
  | none => simp
  | some inner =>
    cases hactive : AtRule.parse? active with
    | none => simp
    | some outer =>
      by_cases h : outer.name = inner.name
      · simp [h, eq_comm]
      · simp [h]

end Stylesheet.Condition
