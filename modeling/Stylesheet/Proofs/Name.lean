/-
  Stylesheet.Proofs.Name
  ──────────────────────
  **CANONICAL AND NUMBERED NAMES.**

  A name is canonical when it is the property that it names itself.  The
  name of every property is canonical, and whether it begins with an `@` is
  decided by the key that it comes from.

  Main statements:
    * `ofKey_ofKey` — naming a property twice is naming it once;
    * `isKey_ofKey`, `isKey_numbered` — neither makes or unmakes an at-rule;
    * `numbered_inj` — a numbered name tells its property and its index;
    * `lookup_numberAll`, `lookup_numberAll_eq_none` — what stands at a name
      when several values are numbered.
-/
import Mathlib.Data.List.Nodup
import Stylesheet.AtRule
import Stylesheet.Proofs.Casing
import Stylesheet.Proofs.Table
import Stylesheet.Sheet

namespace Stylesheet.Property

open Stylesheet.Unicode Stylesheet.Text

/-! ## §1. Canonical names. -/

theorem dashed_of_settled {s : List Char} (h : Settled s) : dashed s = s := by
  induction s with
  | nil => rfl
  | cons c rest ih =>
      have hc := isUpper_of_lowerChar_self (h c List.mem_cons_self)
      have step : dashed (c :: rest) = (if c.isUpper then ['-', c] else [c]) ++ dashed rest :=
        List.flatMap_cons
      rw [step, hc, ih fun d hd => h d (List.mem_cons_of_mem _ hd)]
      rfl

/-- A name of settled characters is the property that it names. -/
theorem ofKey_of_settled {name : String} (h : Settled name.toList) : ofKey name = name := by
  rw [ofKey, dashed_of_settled h, lower_of_settled h, String.ofList_toList]

theorem settled_ofKey (key : String) : Settled (ofKey key).toList := by
  rw [ofKey, String.toList_ofList]
  exact settled_lower _

/-- **Naming a property twice is naming it once.** -/
theorem ofKey_ofKey (key : String) : ofKey (ofKey key) = ofKey key :=
  ofKey_of_settled (settled_ofKey key)

/-! ## §2. Numbered names. -/

theorem toList_numbered (name : String) (index : Nat) :
    (numbered name index).toList
      = name.toList ++ '/' :: '*' :: Nat.toDigits 10 index ++ ['*', '/'] := by
  have digits : (toString (index : Int)).toList = Nat.toDigits 10 index := Nat.toList_repr
  simp only [numbered, String.toList_append, digits]
  simp

/-- **A numbered name tells its property and its index.** -/
theorem numbered_inj {name other : String} {i j : Nat} :
    numbered name i = numbered other j ↔ name = other ∧ i = j := by
  constructor
  · intro h
    have names : name = other := by
      rw [← withoutMarker_numbered name i, h, withoutMarker_numbered]
    refine ⟨names, ?_⟩
    have texts := congrArg String.toList h
    rw [toList_numbered, toList_numbered, names] at texts
    simp only [List.append_cancel_right_eq, List.append_cancel_left_eq, List.cons.injEq,
      true_and] at texts
    have values := congrArg (fun digits => Nat.ofDigitChars 10 digits 0) texts
    simpa using values
  · intro given
    obtain ⟨rfl, rfl⟩ := given
    rfl

theorem numbered_ne (name : String) (index : Nat) : numbered name index ≠ name := by
  intro h
  have lengths := congrArg (fun s : String => s.toList.length) h
  simp only [toList_numbered, List.length_append, List.length_cons] at lengths
  omega

theorem isNumberedOf_numbered (name : String) (index : Nat) :
    Declarations.isNumberedOf name (numbered name index) = true := by
  simp [Declarations.isNumberedOf, numbered_ne, withoutMarker_numbered]

/-! ## §3. At-rules among the names. -/

theorem isKey_iff {key : String} : AtRule.isKey key = true ↔ key.toList.head? = some '@' := by
  simp [AtRule.isKey]

/-- **A name begins with an `@` just when its key does.** -/
theorem isKey_ofKey (key : String) : AtRule.isKey (ofKey key) = AtRule.isKey key := by
  rw [Bool.eq_iff_iff, isKey_iff, isKey_iff, ofKey, String.toList_ofList,
    head?_lower (by decide) (by decide)]
  cases key.toList with
  | nil => rfl
  | cons c rest =>
      have step : dashed (c :: rest) = (if c.isUpper then ['-', c] else [c]) ++ dashed rest :=
        List.flatMap_cons
      rw [step]
      split
      · next upper =>
        -- a capital is no `@`, nor is the hyphen before it
        have hc : c ≠ '@' := by
          intro same
          subst same
          exact absurd upper (by decide)
        simp [hc]
      · rfl

theorem isKey_numbered (name : String) (index : Nat) :
    AtRule.isKey (numbered name index) = AtRule.isKey name := by
  rw [Bool.eq_iff_iff, isKey_iff, isKey_iff, toList_numbered]
  cases name.toList with
  | nil => simp
  | cons c rest => rfl

/-! ## §4. Several values. -/

variable {α : Type}

theorem numberAll_map {β : Type} (g : α → β) (name : String) (values : List α) :
    numberAll name (values.map g) = (numberAll name values).map fun e => (e.1, g e.2) := by
  rw [numberAll, numberAll, List.zipIdx_map, List.map_map, List.map_map]
  rfl

theorem mem_numberAll {name other : String} {values : List α} {v : α} :
    (other, v) ∈ numberAll name values
      ↔ ∃ i : Nat, values[i]? = some v ∧ other = numbered name i := by
  rw [numberAll, List.mem_map]
  constructor
  · intro ⟨⟨w, i⟩, hmem, heq⟩
    obtain ⟨rfl, rfl⟩ := Prod.mk.inj heq
    exact ⟨i, List.mk_mem_zipIdx_iff_getElem?.mp hmem, rfl⟩
  · intro ⟨i, hv, hi⟩
    exact ⟨(v, i), List.mk_mem_zipIdx_iff_getElem?.mpr hv, by rw [hi]⟩

theorem nodup_numberAll (name : String) (values : List α) :
    ((numberAll name values).map Prod.fst).Nodup := by
  have keys : (numberAll name values).map Prod.fst
      = (values.zipIdx.map Prod.snd).map fun i : Nat => numbered name i := by
    simp only [numberAll, List.map_map]
    rfl
  rw [keys, List.zipIdx_map_snd]
  exact List.Nodup.map (fun i j h => (numbered_inj.mp h).2) List.nodup_range'

/-- The value at a numbered name is the one with its index. -/
theorem lookup_numberAll (name : String) (values : List α) (index : Nat) :
    (numberAll name values).lookup (numbered name index) = values[index]? := by
  refine Option.ext fun v => ?_
  rw [Entries.lookup_eq_some_iff_mem (nodup_numberAll name values), mem_numberAll]
  constructor
  · intro ⟨i, hv, hi⟩
    rw [(numbered_inj.mp hi).2]
    exact hv
  · intro hv
    exact ⟨index, hv, rfl⟩

/-- There is no value at any other name. -/
theorem lookup_numberAll_eq_none {name other : String} {values : List α}
    (h : ∀ i : Nat, i < values.length → other ≠ numbered name i) :
    (numberAll name values).lookup other = none := by
  refine Option.eq_none_iff_forall_ne_some.mpr fun v hv => ?_
  rw [Entries.lookup_eq_some_iff_mem (nodup_numberAll name values), mem_numberAll] at hv
  obtain ⟨i, hi, rfl⟩ := hv
  exact h i (List.getElem?_eq_some_iff.mp hi).1 rfl

end Stylesheet.Property
