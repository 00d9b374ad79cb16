/-
  Stylesheet.Proofs.Chain
  ───────────────────────
  **CHAINS OF GROUPING RULES.**

  Grouping rules that stand one inside the other merge from the outermost on
  into a single key.  The key does not show where it was put together: it has
  the common name and all conditions that are not empty, in their order.  So
  the rules may be merged in any bracketing.  Where the names are not all the
  same, the first one that differs from the outermost ends the chain.

  Main statements:
    * `conjunction_append` — the conditions of two chains join to those of
      both;
    * `Bracketing.merged_eq_ok` — what a bracketing merges into, and what its
      key comes apart as;
    * `nest_joins_or_fails` — chains of one name, and chains of several.
-/
import Stylesheet.Proofs.Merging

namespace Stylesheet.Condition

open Stylesheet.AtRule

/-! ## §1. Many conditions. -/

theorem conjunction_singleton (c : String) : conjunction [c] = c := by
  by_cases h : c = "" <;> simp [conjunction, h]

/-- Conditions join to nothing when all of them are empty. -/
theorem conjunction_eq_empty_iff (conditions : List String) :
    conjunction conditions = "" ↔ ∀ c ∈ conditions, c = "" := by
  induction conditions with
  | nil => simp [conjunction]
  | cons c rest ih =>
      rw [List.forall_mem_cons, ← ih]
      by_cases hc : c = ""
      · simp [conjunction, hc]
      · have kept : (c :: rest).filter (fun c => !c.isEmpty)
            = c :: rest.filter fun c => !c.isEmpty :=
          List.filter_cons_of_pos (by simpa using hc)
        have text : conjunction (c :: rest) ≠ "" := by
          rw [conjunction, kept]
          cases rest.filter fun c => !c.isEmpty with
          | nil => simpa using hc
          | cons d others => simp [hc]
        simp [text, hc]

/-- Conditions join to nothing when none is kept. -/
theorem filter_eq_nil_iff_conjunction (conditions : List String) :
    conditions.filter (fun c => !c.isEmpty) = [] ↔ conjunction conditions = "" := by
  rw [conjunction_eq_empty_iff, List.filter_eq_nil_iff]
  refine forall₂_congr fun c _ => ?_
  simp

/-- **The conditions of two chains join to those of both.** -/
theorem conjunction_append (outer inner : List String) :
    conjunction (outer ++ inner) = conjunction [conjunction outer, conjunction inner] := by
  have joined : conjunction (outer ++ inner)
      = " and ".intercalate (outer.filter (fun c => !c.isEmpty)
          ++ inner.filter fun c => !c.isEmpty) := by
    rw [conjunction, List.filter_append]
  rw [joined, conjunction_pair]
  split
  · next h =>
    rw [(filter_eq_nil_iff_conjunction outer).mpr h, List.nil_append]
    rfl
  · next houter =>
    split
    · next h =>
      rw [(filter_eq_nil_iff_conjunction inner).mpr h, List.append_nil]
      rfl
    · next hinner =>
      rw [← filter_eq_nil_iff_conjunction] at houter hinner
      exact String.intercalate_append_of_ne_nil houter hinner

/-! ## §2. Bracketings. -/

/-- The parts of a key; of a key that is no at-rule, nothing. -/
def ruleOf (key : String) : AtRule :=
  (parse? key).getD ⟨"", ""⟩

theorem parse?_eq_ruleOf {key : String} (h : IsGroup key) : parse? key = some (ruleOf key) := by
  obtain ⟨rule, hrule⟩ := parse?_isSome_of_isKey h.1
  rw [ruleOf, hrule]
  rfl

/-- The rule of the given name under which the conditions of all keys hold. -/
def allOf (name : String) (keys : List String) : AtRule where
  name := name
  condition := conjunction (keys.map fun key => (ruleOf key).condition)

@[simp] theorem allOf_name (name : String) (keys : List String) :
    (allOf name keys).name = name := rfl

theorem allOf_condition (name : String) (keys : List String) :
    (allOf name keys).condition = conjunction (keys.map fun key => (ruleOf key).condition) := rfl

theorem allOf_singleton (key : String) : allOf (ruleOf key).name [key] = ruleOf key := by
  rw [allOf, List.map_singleton, conjunction_singleton]

theorem both_allOf (name : String) (outer inner : List String) :
    both (allOf name outer) (allOf name inner) = allOf name (outer ++ inner) := by
  rw [both, allOf, allOf, allOf, List.map_append, conjunction_append]

/-- An order in which keys are merged: a bracket merges what stands in it on
the right into what stands in it on the left. -/
inductive Bracketing where
  /-- One key. -/
  | single (key : String)
  /-- An outer and an inner group of keys. -/
  | bracket (outer inner : Bracketing)
  deriving DecidableEq

namespace Bracketing

/-- The keys, from the outermost on. -/
def keys : Bracketing → List String
  | .single key => [key]
  | .bracket outer inner => outer.keys ++ inner.keys

/-- What the keys merge into in this order. -/
def merged : Bracketing → Except MergeError String
  | .single key => merge none key
  | .bracket outer inner => do merge (some (← outer.merged)) (← inner.merged)

theorem merged_bracket {outer inner : Bracketing} {o i : String} (ho : outer.merged = .ok o)
    (hi : inner.merged = .ok i) : (bracket outer inner).merged = merge (some o) i := by
  rw [merged, ho, hi]
  rfl

/-- **What a bracketing merges into.**  Grouping rules of one name merge in
every bracketing, into a grouping rule that comes apart as the one of that
name with all their conditions.  Two keys or more merge into the key of that
rule; a single key keeps its text. -/
theorem merged_eq_ok {name : String} (b : Bracketing)
    (h : ∀ key ∈ b.keys, IsGroup key ∧ (ruleOf key).name = name) :
    ∃ key, b.merged = .ok key ∧ IsGroup key ∧ parse? key = some (allOf name b.keys)
      ∧ (1 < b.keys.length → key = (allOf name b.keys).key) := by
  induction b with
  | single key =>
      obtain ⟨hgroup, rfl⟩ := List.forall_mem_singleton.mp h
      refine ⟨key, rfl, hgroup, ?_, ?_⟩
      · rw [keys, allOf_singleton]
        exact parse?_eq_ruleOf hgroup
      · intro long
        exact absurd long (Nat.lt_irrefl 1)
  | bracket outer inner ihouter ihinner =>
      obtain ⟨houter, hinner⟩ := List.forall_mem_append.mp h
      obtain ⟨o, ho, -, hparse, -⟩ := ihouter houter
      obtain ⟨i, hi, hgroup, hparse', -⟩ := ihinner hinner
      -- what the two groups merged into comes apart again, so nothing of it is lost
      have hmerge : merge (some o) i = .ok (allOf name (outer.keys ++ inner.keys)).key := by
        rw [← both_allOf]
        exact merge_some_eq_ok_iff.mpr ⟨_, _, hparse, hparse', rfl, rfl⟩
      refine ⟨_, (merged_bracket ho hi).trans hmerge, isGroup_of_merge hgroup hmerge, ?_,
        fun _ => rfl⟩
      rw [keys, ← both_allOf]
      exact parse?_key_both (trimmed_of_parse? hparse) (trimmed_of_parse? hparse')
        (known?_of_isGroup hgroup hparse')

end Bracketing

/-! ## §3. Chains. -/

/-- The key that is active below grouping rules that stand one inside the
other, given from the outermost on. -/
def nest (keys : List String) : Except MergeError (Option String) :=
  keys.foldlM (fun active key => (merge active key).map some) none

theorem nest_concat (keys : List String) (key : String) :
    nest (keys ++ [key]) = nest keys >>= fun active => (merge active key).map some := by
  rw [nest, List.foldlM_append]
  refine congrArg _ (funext fun active => ?_)
  exact bind_pure _

/-- Further keys do not mend a chain that fails. -/
theorem nest_append_of_error {keys : List String} {error : MergeError}
    (h : nest keys = .error error) (others : List String) :
    nest (keys ++ others) = .error error := by
  rw [nest] at h
  rw [nest, List.foldlM_append, h]
  rfl

/-- The bracketing of a chain: every key is merged into all that stand before
it. -/
def chained (first : String) (rest : List String) : Bracketing :=
  rest.foldl (fun outer key => .bracket outer (.single key)) (.single first)

theorem chained_concat (first : String) (rest : List String) (key : String) :
    chained first (rest ++ [key]) = .bracket (chained first rest) (.single key) := by
  rw [chained, List.foldl_append]
  rfl

theorem keys_chained (first : String) (rest : List String) :
    (chained first rest).keys = first :: rest := by
  induction rest using List.reverseRecOn with
  | nil => rfl
  | append_singleton front key ih =>
      rw [chained_concat, Bracketing.keys, ih]
      rfl

/-- **A chain is one of the bracketings.** -/
theorem nest_eq_merged (first : String) (rest : List String) :
    nest (first :: rest) = (chained first rest).merged.map some := by
  induction rest using List.reverseRecOn with
  | nil => rfl
  | append_singleton front key ih =>
      rw [← List.cons_append, nest_concat, ih, chained_concat, Bracketing.merged]
      cases (chained first front).merged with
      | error error => rfl
      | ok active => rfl

/-- A chain of one name is active as the rule with all conditions. -/
theorem nest_eq_ok {name first : String} {rest : List String}
    (h : ∀ key ∈ first :: rest, IsGroup key ∧ (ruleOf key).name = name) :
    ∃ active, nest (first :: rest) = .ok (some active)
      ∧ parse? active = some (allOf name (first :: rest)) := by
  rw [← keys_chained] at h
  obtain ⟨active, hmerged, -, hparse, -⟩ := (chained first rest).merged_eq_ok h
  rw [keys_chained] at hparse
  refine ⟨active, ?_, hparse⟩
  rw [nest_eq_merged, hmerged]
  rfl

/-- Two at-rules of different names do not merge. -/
theorem merge_of_names_ne {active key : String} {outer inner : AtRule}
    (houter : parse? active = some outer) (hinner : parse? key = some inner)
    (hne : outer.name ≠ inner.name) :
    merge (some active) key = .error (.differentNames inner.name outer.name) := by
  simp only [merge, houter, hinner, if_neg hne]

/-- **A name that differs ends the chain.** -/
theorem nest_eq_error {first key : String} {before : List String}
    (hbefore : ∀ k ∈ first :: before, IsGroup k ∧ (ruleOf k).name = (ruleOf first).name)
    (hkey : IsGroup key) (hne : (ruleOf key).name ≠ (ruleOf first).name) (after : List String) :
    ∃ active, nest (first :: before) = .ok (some active)
      ∧ merge (some active) key
          = .error (.differentNames (ruleOf key).name (ruleOf first).name)
      ∧ nest (first :: before ++ key :: after)
          = .error (.differentNames (ruleOf key).name (ruleOf first).name) := by
  obtain ⟨active, hactive, hparse⟩ := nest_eq_ok hbefore
  have fails : merge (some active) key
      = .error (.differentNames (ruleOf key).name (ruleOf first).name) := by
    have names : (allOf (ruleOf first).name (first :: before)).name ≠ (ruleOf key).name := by
      rw [allOf_name]
      exact hne.symm
    rw [merge_of_names_ne hparse (parse?_eq_ruleOf hkey) names, allOf_name]
  refine ⟨active, hactive, fails, ?_⟩
  have here : nest (first :: before ++ [key])
      = .error (.differentNames (ruleOf key).name (ruleOf first).name) := by
    rw [nest_concat, hactive]
    show (merge (some active) key).map some = _
    rw [fails]
    rfl
  rw [List.append_cons]
  exact nest_append_of_error here after

/-- Of names that are not all the same there is a first that differs. -/
theorem exists_first_of_ne {name : String} {keys : List String}
    (h : ∃ key ∈ keys, (ruleOf key).name ≠ name) :
    ∃ before key after, keys = before ++ key :: after
      ∧ (∀ k ∈ before, (ruleOf k).name = name) ∧ (ruleOf key).name ≠ name := by
  have found : (keys.find? fun key => (ruleOf key).name ≠ name).isSome = true := by
    simpa using h
  obtain ⟨key, hkey⟩ := Option.isSome_iff_exists.mp found
  obtain ⟨hne, before, after, hsplit, hbefore⟩ := List.find?_eq_some_iff_append.mp hkey
  exact ⟨before, key, after, hsplit, fun k hk => by simpa using hbefore k hk, by simpa using hne⟩

/-- **Chains of grouping rules.**  Two or more grouping rules of one name merge,
one inside the other, into the key of that name with all conditions that are
not empty, joined in their order.  That key is a grouping rule, it comes
apart as the name and the joined conditions, and every other bracketing
merges into the same key.  If the names are not all the same, the chain fails
at the first key whose name is not that of the outermost. -/
theorem nest_joins_or_fails (first : String) (rest : List String) (hrest : rest ≠ [])
    (hkeys : ∀ key ∈ first :: rest, IsGroup key) :
    (∀ name joined key, (∀ k ∈ first :: rest, (ruleOf k).name = name) →
      joined = " and ".intercalate
        (((first :: rest).map fun k => (ruleOf k).condition).filter fun c => !c.isEmpty) →
      key = (if ∀ k ∈ first :: rest, (ruleOf k).condition = "" then "@" ++ name
        else "@" ++ name ++ " " ++ joined) →
      nest (first :: rest) = .ok (some key) ∧ IsGroup key ∧ parse? key = some ⟨name, joined⟩
        ∧ ∀ b : Bracketing, b.keys = first :: rest → b.merged = .ok key)
    ∧ ((∃ key ∈ rest, (ruleOf key).name ≠ (ruleOf first).name) →
      ∃ before key after active, rest = before ++ key :: after
        ∧ (∀ k ∈ before, (ruleOf k).name = (ruleOf first).name)
        ∧ (ruleOf key).name ≠ (ruleOf first).name
        ∧ nest (first :: before) = .ok (some active)
        ∧ merge (some active) key
            = .error (.differentNames (ruleOf key).name (ruleOf first).name)
        ∧ nest (first :: rest)
            = .error (.differentNames (ruleOf key).name (ruleOf first).name)) := by
  constructor
  · intro name joined key hname hjoined hkey
    have long : 1 < (first :: rest).length := Nat.succ_lt_succ (List.length_pos_iff.mpr hrest)
    have text : (allOf name (first :: rest)).key = key := by
      have nothing : (allOf name (first :: rest)).condition.isEmpty = true
          ↔ ∀ k ∈ first :: rest, (ruleOf k).condition = "" := by
        rw [String.isEmpty_iff, allOf_condition, conjunction_eq_empty_iff, List.forall_mem_map]
      rw [hkey, AtRule.key, allOf_name, if_congr nothing rfl rfl, allOf_condition, hjoined,
        conjunction]
    -- every bracketing of two keys or more merges into the key of the common rule
    have every : ∀ b : Bracketing, b.keys = first :: rest →
        b.merged = .ok key ∧ IsGroup key ∧ parse? key = some ⟨name, joined⟩ := by
      intro b hb
      have one : ∀ k ∈ b.keys, IsGroup k ∧ (ruleOf k).name = name := by
        rw [hb]
        exact fun k hk => ⟨hkeys k hk, hname k hk⟩
      obtain ⟨merged, hmerged, hgroup, hparse, hlong⟩ := b.merged_eq_ok one
      rw [hb] at hparse hlong
      obtain rfl := (hlong long).trans text
      rw [hjoined]
      exact ⟨hmerged, hgroup, hparse⟩
    obtain ⟨hmerged, hgroup, hparse⟩ := every (chained first rest) (keys_chained first rest)
    refine ⟨?_, hgroup, hparse, fun b hb => (every b hb).1⟩
    rw [nest_eq_merged, hmerged]
    rfl
  · intro differs
    obtain ⟨before, key, after, rfl, hbefore, hne⟩ := exists_first_of_ne differs
    have alike : ∀ k ∈ first :: before, IsGroup k ∧ (ruleOf k).name = (ruleOf first).name := by
      rw [List.forall_mem_cons]
      refine ⟨⟨hkeys first List.mem_cons_self, rfl⟩, fun k hk => ⟨hkeys k ?_, hbefore k hk⟩⟩
      exact List.mem_cons_of_mem _ (List.mem_append_left _ hk)
    have group : IsGroup key := hkeys key (by simp)
    obtain ⟨active, hactive, hmerge, hnest⟩ := nest_eq_error alike group hne after
    exact ⟨before, key, after, active, rfl, hbefore, hne, hactive, hmerge, hnest⟩

/-- Three spellings of one name, with a condition missing in the middle. -/
def mixedCase : List String :=
  ["@MEDIA", "@Media\n(min-width: 1px) "]

/-- A rule of another name inside two of one name. -/
def otherName : List String :=
  ["@media print", "@supports (top: 0)"]

theorem nest_joins_mixedCase :
    nest ("@media screen" :: mixedCase) = .ok (some "@media screen and (min-width: 1px)")
      ∧ (∀ b : Bracketing, b.keys = "@media screen" :: mixedCase →
          b.merged = .ok "@media screen and (min-width: 1px)")
      ∧ ∃ key ∈ otherName, (ruleOf key).name ≠ "media"
        ∧ nest ("@media screen" :: otherName)
            = .error (.differentNames (ruleOf key).name "media") := by
  have joins := (nest_joins_or_fails "@media screen" mixedCase (by decide)
    (by decide +kernel)).1
  obtain ⟨hnest, -, -, hevery⟩ := joins "media" "screen and (min-width: 1px)"
    "@media screen and (min-width: 1px)" (by decide +kernel) (by decide +kernel)
    (by decide +kernel)
  have fails := (nest_joins_or_fails "@media screen" otherName (by decide)
    (by decide +kernel)).2
  obtain ⟨before, key, after, _, hsplit, -, hne, -, -, hfails⟩ := fails (by decide +kernel)
  have media : (ruleOf "@media screen").name = "media" := by decide +kernel
  rw [media] at hne hfails
  exact ⟨hnest, hevery, key, by simp [hsplit], hne, hfails⟩

end Stylesheet.Condition
