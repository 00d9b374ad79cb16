/-
  Stylesheet.Value.Mapping
  ────────────────────────
  **MAPPINGS WITH ANY VALUES AS KEYS.**

  Two keys of a mapping can be written differently and still be the same:
  numbers go by what they are worth, so the two zeros are one key.  A double
  that is no number is worth nothing and is the same key as no other, not
  even as itself.  What a key counts as is `asKey?`, and two keys are the
  same when they count as the same value.

  An entry whose key is present already changes the value and leaves the
  key as it was written first, in its place.

  Main statements:
    * `sameKey_comm`, `sameKey_trans` — being the same key is symmetric and
      transitive, although not reflexive;
    * `map_fst_setEntry` — setting an entry appends its key if no key is the
      same, and otherwise leaves the list of keys alone;
    * `distinctKeys_setEntries` — entries that are set one after the other
      have distinct keys.
-/
import Stylesheet.Decimal.Shortest
import Stylesheet.Value

namespace Stylesheet

/-! ## §1. What a key counts as. -/

/-- What a scalar counts as when it is a key; a double that is no number
counts as nothing. -/
def Scalar.asKey? : Scalar → Option Scalar
  | .float x =>
      match Decimal.Binary64.ofFloat x with
      | .nan => none
      | number => some ((number.integer?.map Scalar.int).getD (.float x))
  | scalar => some scalar

namespace Value

mutual

/-- What a value counts as when it is a key: a number is the integer that it
equals, a truth value is one or zero, and a tuple goes by its items. -/
def asKey? : Value → Option Value
  | .bool b => some (.scalar (.int b.toInt))
  | .scalar s => s.asKey?.map .scalar
  | .tuple items => (itemsAsKey? items).map .tuple
  | .null => some .null
  | .list items => some (.list items)
  | .map entries => some (.map entries)

/-- What the items of a tuple count as when the tuple is a key. -/
def itemsAsKey? : List Value → Option (List Value)
  | [] => some []
  | v :: rest => do return (← asKey? v) :: (← itemsAsKey? rest)

end

/-- Whether two keys are the same. -/
def sameKey (a b : Value) : Bool :=
  a.asKey?.isSome && decide (a.asKey? = b.asKey?)

theorem sameKey_iff {a b : Value} :
    a.sameKey b = true ↔ ∃ k, a.asKey? = some k ∧ b.asKey? = some k := by
  unfold sameKey
  rw [Bool.and_eq_true, Option.isSome_iff_exists, decide_eq_true_iff]
  constructor
  · intro ⟨⟨k, hk⟩, h⟩
    exact ⟨k, hk, h ▸ hk⟩
  · intro ⟨k, ha, hb⟩
    exact ⟨⟨k, ha⟩, ha.trans hb.symm⟩

/-- **Being the same key is symmetric.** -/
theorem sameKey_comm (a b : Value) : a.sameKey b = b.sameKey a := by
  rw [Bool.eq_iff_iff, sameKey_iff, sameKey_iff]
  constructor
  · intro ⟨k, ha, hb⟩
    exact ⟨k, hb, ha⟩
  · intro ⟨k, hb, ha⟩
    exact ⟨k, ha, hb⟩

/-- **Being the same key is transitive.** -/
theorem sameKey_trans {a b c : Value} (hab : a.sameKey b = true) (hbc : b.sameKey c = true) :
    a.sameKey c = true := by
  obtain ⟨k, ha, hb⟩ := sameKey_iff.mp hab
  obtain ⟨l, hb', hc⟩ := sameKey_iff.mp hbc
  have hkl : k = l := Option.some.inj (hb.symm.trans hb')
  exact sameKey_iff.mpr ⟨k, ha, hkl ▸ hc⟩

/-- Texts are the same key when they are the same text. -/
@[simp]
theorem sameKey_text (s t : String) : (text s).sameKey (text t) = decide (s = t) := by
  simp [sameKey, asKey?, Scalar.asKey?, text]

/-! ## §2. Setting entries. -/

/-- Set the value at a key: in the entry whose key is the same, or else in a
new entry at the end. -/
def setEntry (key value : Value) : List (Value × Value) → List (Value × Value)
  | [] => [(key, value)]
  | (k, v) :: rest =>
      if k.sameKey key then (k, value) :: rest else (k, v) :: setEntry key value rest

/-- Set entries one after the other. -/
def setEntries (entries more : List (Value × Value)) : List (Value × Value) :=
  more.foldl (fun entries e => setEntry e.1 e.2 entries) entries

/-- The mapping of a list of entries: a repeated key keeps its first place
and takes its last value. -/
def ofEntries (entries : List (Value × Value)) : Value :=
  .map (setEntries [] entries)

/-- **Setting an entry appends a new key and leaves the other keys alone.** -/
theorem map_fst_setEntry (key value : Value) (entries : List (Value × Value)) :
    (setEntry key value entries).map Prod.fst =
      if entries.any fun e => e.1.sameKey key then entries.map Prod.fst
      else entries.map Prod.fst ++ [key] := by
  induction entries with
  | nil => simp [setEntry]
  | cons e rest ih =>
    obtain ⟨k, v⟩ := e
    cases h : k.sameKey key with
    | true => simp [setEntry, h]
    | false =>
      rw [setEntry, h, if_neg Bool.false_ne_true, List.map_cons, ih, List.any_cons, h,
        Bool.false_or]
      split <;> rfl

/-! ## §3. Distinct keys. -/

/-- No two keys of the entries are the same. -/
def DistinctKeys (entries : List (Value × Value)) : Prop :=
  (entries.map Prod.fst).Pairwise fun k l => k.sameKey l = false

instance (entries : List (Value × Value)) : Decidable (DistinctKeys entries) :=
  inferInstanceAs (Decidable ((entries.map Prod.fst).Pairwise fun k l => k.sameKey l = false))

theorem distinctKeys_setEntry (key value : Value) {entries : List (Value × Value)}
    (h : DistinctKeys entries) : DistinctKeys (setEntry key value entries) := by
  unfold DistinctKeys
  rw [map_fst_setEntry]
  split
  · exact h
  · rename_i new
    refine List.pairwise_append.mpr ⟨h, List.pairwise_singleton _ _, fun k hk l hl => ?_⟩
    obtain ⟨e, he, rfl⟩ := List.mem_map.mp hk
    rw [List.mem_singleton.mp hl]
    cases hs : e.1.sameKey key with
    | false => rfl
    | true => exact absurd (List.any_eq_true.mpr ⟨e, he, hs⟩) new

/-- **Entries that are set one after the other have distinct keys.** -/
theorem distinctKeys_setEntries {entries : List (Value × Value)} (h : DistinctKeys entries)
    (more : List (Value × Value)) : DistinctKeys (setEntries entries more) := by
  induction more generalizing entries with
  | nil => exact h
  | cons e rest ih => exact ih (distinctKeys_setEntry e.1 e.2 h)

/-- Texts are distinct keys when they are distinct. -/
theorem distinctKeys_texts {α : Type} (f : α → Value) (entries : List (String × α)) :
    DistinctKeys (entries.map fun e => (text e.1, f e.2)) ↔ (entries.map Prod.fst).Nodup := by
  rw [DistinctKeys, List.map_map, List.Nodup, List.pairwise_map, List.pairwise_map]
  refine List.Pairwise.iff fun {a b} => ?_
  show (text a.1).sameKey (text b.1) = false ↔ a.1 ≠ b.1
  rw [sameKey_text, decide_eq_false_iff_not]

mutual

/-- The keys of every mapping inside a value are distinct. -/
def Distinct : Value → Prop
  | .list items | .tuple items => DistinctItems items
  | .map entries => DistinctKeys entries ∧ DistinctEntries entries
  | _ => True

/-- The items have distinct keys throughout. -/
def DistinctItems : List Value → Prop
  | [] => True
  | v :: rest => v.Distinct ∧ DistinctItems rest

/-- The values of the entries have distinct keys throughout. -/
def DistinctEntries : List (Value × Value) → Prop
  | [] => True
  | (_, v) :: rest => v.Distinct ∧ DistinctEntries rest

end

end Value

end Stylesheet
