/-
  Stylesheet.Proofs.Overlaid
  ──────────────────────────
  **MAPPINGS LAID OVER ONE ANOTHER.**

  A key takes its place from the first mapping that has it and its value from
  the last.  Neither depends on how the mappings are grouped: a group that is
  merged first has its keys in the order in which they would have come, each
  with the value that would have counted.  Candidates that are no mappings,
  and mappings without entries, bring nothing.

  Main statements:
    * `layOver_overlay` — a merge that is merged further is its candidates;
    * `MergeTree.layOver_value` — so is any tree of merges;
    * `foldl_setEntries_eq` — the entries of a merge, one mapping after the
      other;
    * `overlay_regrouped` — all of this about merges.
-/
import Mathlib.Data.List.Basic
import Mathlib.Data.List.Induction
import Stylesheet.Overlay
import Stylesheet.Proofs.Mapping

namespace Stylesheet

open Value

/-! ## §1. The mappings among the candidates. -/

/-- The mappings among candidates, as their entries. -/
def mappings (candidates : List Value) : List (List (Value × Value)) :=
  candidates.filterMap entries?

/-- Whether a candidate is a mapping with entries. -/
def brings : Value → Bool
  | .map entries => !entries.isEmpty
  | _ => false

/-- Candidates are merged by setting the entries of the mappings among them. -/
theorem foldl_layOver (entries : List (Value × Value)) (candidates : List Value) :
    candidates.foldl layOver entries = (mappings candidates).foldl setEntries entries := by
  induction candidates generalizing entries with
  | nil => rfl
  | cons candidate rest ih =>
      rw [List.foldl_cons, ih]
      cases candidate <;> rfl

theorem overlay_eq (candidates : List Value) :
    overlay candidates = .map ((mappings candidates).foldl setEntries []) := by
  rw [overlay, foldl_layOver]

/-- Candidates that bring nothing can be left out. -/
theorem foldl_layOver_filter (entries : List (Value × Value)) (candidates : List Value) :
    (candidates.filter brings).foldl layOver entries = candidates.foldl layOver entries := by
  induction candidates generalizing entries with
  | nil => rfl
  | cons candidate rest ih =>
      cases hb : brings candidate with
      | true => rw [List.filter_cons_of_pos hb, List.foldl_cons, List.foldl_cons, ih]
      | false =>
          have nothing : layOver entries candidate = entries := by
            cases candidate with
            | map more =>
                have empty : more = [] := by simpa [brings] using hb
                rw [empty]
                rfl
            | _ => rfl
          rw [List.filter_cons_of_neg (by rw [hb]; exact Bool.false_ne_true), List.foldl_cons,
            nothing, ih]

/-! ## §2. Merges of merges. -/

theorem distinctKeys_foldl_setEntries {entries : List (Value × Value)}
    (distinct : DistinctKeys entries) (maps : List (List (Value × Value))) :
    DistinctKeys (maps.foldl setEntries entries) := by
  induction maps generalizing entries with
  | nil => exact distinct
  | cons more rest ih => exact ih (distinctKeys_setEntries distinct more)

/-- Mappings that are merged first are set over others as they would be one
after the other. -/
theorem setEntries_foldl {group : List (Value × Value)} (distinct : DistinctKeys group)
    (entries : List (Value × Value)) (maps : List (List (Value × Value))) :
    setEntries entries (maps.foldl setEntries group)
      = maps.foldl setEntries (setEntries entries group) := by
  induction maps generalizing group with
  | nil => rfl
  | cons more rest ih =>
      rw [List.foldl_cons, List.foldl_cons, ih (distinctKeys_setEntries distinct more),
        setEntries_setEntries distinct]

/-- **A merge that is merged further is its candidates.** -/
theorem layOver_overlay (entries : List (Value × Value)) (candidates : List Value) :
    layOver entries (overlay candidates) = candidates.foldl layOver entries := by
  rw [overlay_eq, foldl_layOver]
  exact setEntries_foldl distinctKeys_nil entries (mappings candidates)

/-- Merges of candidates and of other merges. -/
inductive MergeTree where
  /-- One candidate. -/
  | leaf (candidate : Value)
  /-- The merge of what the parts come to. -/
  | merge (parts : List MergeTree)

namespace MergeTree

mutual

/-- The candidates at the leaves, in order. -/
def candidates : MergeTree → List Value
  | .leaf candidate => [candidate]
  | .merge parts => candidatesOf parts

/-- The candidates of several trees, in order. -/
def candidatesOf : List MergeTree → List Value
  | [] => []
  | part :: rest => part.candidates ++ candidatesOf rest

end

mutual

/-- What a tree comes to: a candidate is itself, and parts are merged. -/
def value : MergeTree → Value
  | .leaf candidate => candidate
  | .merge parts => overlay (values parts)

/-- What several trees come to. -/
def values : List MergeTree → List Value
  | [] => []
  | part :: rest => part.value :: values rest

end

mutual

/-- **A tree of merges that is merged further is its candidates.** -/
theorem layOver_value : ∀ (tree : MergeTree) (entries : List (Value × Value)),
    layOver entries tree.value = tree.candidates.foldl layOver entries
  | .leaf _, _ => rfl
  | .merge parts, entries => by
    -- the merge starts from nothing, but its parts are laid over what is there
    rw [value, candidates, layOver_overlay, foldl_layOver_values parts]

/-- So are several of them. -/
theorem foldl_layOver_values : ∀ (parts : List MergeTree) (entries : List (Value × Value)),
    (values parts).foldl layOver entries = (candidatesOf parts).foldl layOver entries
  | [], _ => rfl
  | part :: rest, entries => by
    rw [values, candidatesOf, List.foldl_cons, List.foldl_append, layOver_value part,
      foldl_layOver_values rest]

end

/-- A tree of merges comes to the merge of its candidates. -/
theorem value_merge (parts : List MergeTree) :
    (merge parts).value = overlay (merge parts).candidates := by
  rw [value, candidates, overlay, overlay, foldl_layOver_values]

end MergeTree

/-! ## §3. Places and values. -/

/-- The value of an entry when other mappings come later: that of the last one
that has the key. -/
def lastValue (later : List (List (Value × Value))) (e : Value × Value) : Value :=
  (later.reverse.findSome? (valueAt? e.1)).getD e.2

/-- One mapping after the other, its entries whose keys no earlier mapping has,
with the values of the last mapping that has the key. -/
def firstPlaces (maps : List (List (Value × Value))) : List (Value × Value) :=
  maps.zipIdx.flatMap fun (entries, i) =>
    (entries.filter fun e => !(maps.take i).any (hasKey e.1)).map fun e =>
      (e.1, lastValue (maps.drop (i + 1)) e)

theorem lastValue_concat (later : List (List (Value × Value))) (last : List (Value × Value))
    (e : Value × Value) :
    lastValue (later ++ [last]) e = (valueAt? e.1 last).getD (lastValue later e) := by
  rw [lastValue, List.reverse_concat, List.findSome?_cons]
  cases valueAt? e.1 last <;> rfl

/-- One more mapping behind the others. -/
theorem firstPlaces_concat (front : List (List (Value × Value))) (last : List (Value × Value)) :
    firstPlaces (front ++ [last])
      = (firstPlaces front).map (fun e => (e.1, (valueAt? e.1 last).getD e.2))
        ++ last.filter fun e => !front.any (hasKey e.1) := by
  rw [firstPlaces, List.zipIdx_append, List.flatMap_append, firstPlaces, List.map_flatMap]
  congr 1
  · refine List.flatMap_congr fun p hp => ?_
    obtain ⟨entries, i⟩ := p
    have hi : i < front.length := (List.mem_zipIdx' hp).1
    -- the earlier mappings are the same, and of the later ones there is one more
    have earlier : (front ++ [last]).take i = front.take i :=
      List.take_append_of_le_length (Nat.le_of_lt hi)
    have later : (front ++ [last]).drop (i + 1) = front.drop (i + 1) ++ [last] :=
      List.drop_append_of_le_length hi
    rw [List.map_map]
    simp only [earlier, later, lastValue_concat]
    rfl
  · have earlier : (front ++ [last]).take front.length = front := List.take_left
    have later : (front ++ [last]).drop (front.length + 1) = [] := by simp
    simp only [List.zipIdx_singleton, Nat.zero_add, List.flatMap_singleton, earlier, later]
    exact List.map_id _

/-- The keys of a merge are those of the mappings. -/
theorem hasKey_foldl_setEntries (key : Value) (maps : List (List (Value × Value))) :
    hasKey key (maps.foldl setEntries []) = maps.any (hasKey key) := by
  induction maps using List.reverseRecOn with
  | nil => rfl
  | append_singleton front last ih =>
      rw [List.foldl_concat, hasKey_setEntries, ih,
        List.any_append, List.any_cons, List.any_nil, Bool.or_false]

/-- **The entries of a merge**: every key in the place that the first mapping
gives it, with the value of the last. -/
theorem foldl_setEntries_eq (maps : List (List (Value × Value)))
    (h : ∀ entries ∈ maps, DistinctKeys entries) :
    maps.foldl setEntries [] = firstPlaces maps := by
  induction maps using List.reverseRecOn with
  | nil => rfl
  | append_singleton front last ih =>
      rw [List.forall_mem_append, List.forall_mem_singleton] at h
      have distinct : DistinctKeys (front.foldl setEntries []) :=
        distinctKeys_foldl_setEntries distinctKeys_nil front
      rw [List.foldl_concat, setEntries_eq_append distinct h.2,
        firstPlaces_concat, ← ih h.1]
      simp only [hasKey_foldl_setEntries]

/-- **The values of a merge**: at every key that of the last mapping that has
it. -/
theorem valueAt?_foldl_setEntries (key : Value) (maps : List (List (Value × Value)))
    (h : ∀ entries ∈ maps, DistinctKeys entries) :
    valueAt? key (maps.foldl setEntries []) = maps.reverse.findSome? (valueAt? key) := by
  induction maps using List.reverseRecOn with
  | nil => rfl
  | append_singleton front last ih =>
      rw [List.forall_mem_append, List.forall_mem_singleton] at h
      rw [List.foldl_concat, valueAt?_setEntries key _ h.2,
        ih h.1, List.reverse_concat, List.findSome?_cons]
      cases valueAt? key last <;> rfl

/-! ## §4. Merges. -/

theorem distinctKeys_of_mem_mappings {candidates : List Value}
    (h : ∀ entries, .map entries ∈ candidates → DistinctKeys entries) :
    ∀ entries ∈ mappings candidates, DistinctKeys entries := by
  intro entries hentries
  obtain ⟨candidate, hmem, hcandidate⟩ := List.mem_filterMap.mp hentries
  cases candidate with
  | map own =>
      obtain rfl := Option.some.inj hcandidate
      exact h _ hmem
  | _ => cases hcandidate

/-- A merge of two lists of candidates is the merge of their merges. -/
theorem overlay_overlay (xs ys : List Value) :
    overlay [overlay xs, overlay ys] = overlay (xs ++ ys) := by
  have both : [overlay xs, overlay ys].foldl layOver [] = (xs ++ ys).foldl layOver [] := by
    rw [List.foldl_cons, List.foldl_cons, List.foldl_nil, layOver_overlay, layOver_overlay,
      List.foldl_append]
  exact congrArg Value.map both

/-- **Merges of mappings.**  Two lists of candidates are merged together or each
by itself first, and so are the candidates of any tree of merges; candidates
that are no mappings make no difference, nor do empty mappings.  The merge
has the entries of the mappings in `firstPlaces`: at every key there is the
value of the last mapping that has it, and every key of a mapping is there
exactly once. -/
theorem overlay_regrouped (xs ys : List Value)
    (h : ∀ entries, .map entries ∈ xs → DistinctKeys entries) :
    overlay (xs ++ ys) = overlay [overlay xs, overlay ys]
    ∧ (∀ parts : List MergeTree, (MergeTree.merge parts).candidates = xs →
        (MergeTree.merge parts).value = overlay xs)
    ∧ (∀ zs : List Value, zs.filter brings = xs.filter brings → overlay zs = overlay xs)
    ∧ ∃ merged, overlay xs = .map merged
      ∧ merged = firstPlaces (mappings xs)
      ∧ (∀ key, valueAt? key merged = (mappings xs).reverse.findSome? (valueAt? key))
      ∧ ∀ key, (mappings xs).any (hasKey key) = true →
          merged.countP (fun e => e.1.sameKey key) = 1 := by
  have distinct := distinctKeys_of_mem_mappings h
  refine ⟨(overlay_overlay xs ys).symm, ?_, ?_, _, overlay_eq xs,
    foldl_setEntries_eq _ distinct, ?_, ?_⟩
  · intro parts hparts
    rw [MergeTree.value_merge, hparts]
  · intro zs hzs
    rw [overlay, overlay, ← foldl_layOver_filter, hzs, foldl_layOver_filter]
  · intro key
    exact valueAt?_foldl_setEntries key _ distinct
  · intro key hkey
    -- a key of a mapping is a key of the merge, whose keys are distinct
    rw [← hasKey_foldl_setEntries] at hkey
    exact countP_sameKey (distinctKeys_foldl_setEntries distinctKeys_nil _) hkey

/-- Parts of a button: two mappings share keys with the first, one argument is
absent and one mapping is empty. -/
def buttonParts : List Value :=
  [.map [("color", "red"), ("margin", "1px")], .null, .map [("padding", "2px"), ("color", "blue")],
    .map [], .map [("margin", "3px")]]

/-- The parts in merges, one of them inside another and one without parts. -/
def buttonTree : List MergeTree :=
  [.merge [.leaf (.map [("color", "red"), ("margin", "1px")]),
      .merge [.leaf .null, .leaf (.map [("padding", "2px"), ("color", "blue")])]],
    .merge [], .leaf (.map []), .leaf (.map [("margin", "3px")])]

theorem overlay_regrouped_button :
    overlay (buttonParts ++ [.map [("padding", "4px"), ("top", "0")]])
        = overlay [overlay buttonParts, overlay [.map [("padding", "4px"), ("top", "0")]]]
      ∧ (MergeTree.merge buttonTree).value
          = .map [("color", "blue"), ("margin", "3px"), ("padding", "2px")] := by
  have distinct : ∀ entries, .map entries ∈ buttonParts → DistinctKeys entries := by
    have all : ∀ v ∈ buttonParts, ∀ entries ∈ v.entries?, DistinctKeys entries := by decide
    exact fun entries hmem => all _ hmem entries rfl
  obtain ⟨pair, groups, -, merged, hmerged, places, -, -⟩ :=
    overlay_regrouped buttonParts [.map [("padding", "4px"), ("top", "0")]] distinct
  refine ⟨pair, ?_⟩
  rw [groups buttonTree rfl, hmerged, places]
  decide +kernel

end Stylesheet
