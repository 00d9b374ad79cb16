/-
  Stylesheet.Property
  ───────────────────
  **PROPERTY NAMES.**

  A key such as `minWidth` names the property `min-width`: a hyphen goes
  before every capital of the Latin alphabet and the whole is lowered.  A
  property that is given several times keeps its values apart by ordinal
  markers behind its name, as in `src/*1*/`, which printing takes off.

  Main statements: `markerBase?_eq_some_iff`, which texts end with a marker,
  and `withoutMarker_numbered`, the marker that was put on comes off.
-/
import Stylesheet.Text.Casing
import Stylesheet.Unicode.Digit

namespace Stylesheet.Property

open Stylesheet.Unicode

/-! ## §1. The name that a key stands for. -/

/-- A text with a hyphen before every Latin capital. -/
def dashed (key : List Char) : List Char :=
  key.flatMap fun c => if c.isUpper then ['-', c] else [c]

/-- The property that a key names. -/
def ofKey (key : String) : String :=
  String.ofList (Text.lower (dashed key.toList))

/-! ## §2. Ordinal markers. -/

/-- The name of the value with the given index of a property with several
values. -/
def numbered (name : String) (index : Int) : String :=
  name ++ "/*" ++ toString index ++ "*/"

/-- Values with the names that they have as the values of one property. -/
def numberAll {α : Type} (name : String) (values : List α) : List (String × α) :=
  values.zipIdx.map fun (value, index) => (numbered name index, value)

/-- What stands before the ordinal marker that a text ends with. -/
def markerBase? (s : List Char) : Option (List Char) :=
  match s.reverse with
  | '/' :: '*' :: rest =>
      if (rest.takeWhile isDigit).isEmpty then none
      else
        match rest.dropWhile isDigit with
        | '*' :: '/' :: base => some base.reverse
        | _ => none
  | _ => none

/-- A text without the ordinal marker at its end; a line feed may follow
the marker, and stays. -/
def withoutMarkerFrom (s : List Char) : List Char :=
  match markerBase? s with
  | some base => base
  | none =>
      match s.reverse with
      | '\n' :: rest =>
          match markerBase? rest.reverse with
          | some base => base ++ ['\n']
          | none => s
      | _ => s

/-- A name without the ordinal marker at its end. -/
def withoutMarker (name : String) : String :=
  String.ofList (withoutMarkerFrom name.toList)

/-! ## §3. Laws. -/

theorem isDigit_star : isDigit '*' = false := by decide

/-- **The texts with a marker are those that end with digits between `/*`
and `*/`.** -/
theorem markerBase?_eq_some_iff {s base : List Char} :
    markerBase? s = some base ↔
      ∃ digits, digits ≠ [] ∧ (∀ c ∈ digits, isDigit c = true) ∧
        s = base ++ '/' :: '*' :: digits ++ ['*', '/'] := by
  constructor
  · intro h
    unfold markerBase? at h
    split at h
    · rename_i rest hs
      split at h
      · simp at h
      · rename_i hd
        split at h
        · rename_i base' hrest
          obtain rfl := Option.some.inj h
          have parts := List.takeWhile_append_dropWhile (p := isDigit) (l := rest)
          have all : ∀ c ∈ rest.takeWhile isDigit, isDigit c = true :=
            List.all_eq_true.mp List.all_takeWhile
          rw [hrest] at parts
          generalize rest.takeWhile isDigit = digits at hd all parts
          refine ⟨digits.reverse, by simpa using hd, by simpa using all, ?_⟩
          rw [← List.reverse_reverse s, hs, ← parts]
          simp
        · simp at h
    · simp at h
  · rintro ⟨digits, hne, hall, rfl⟩
    have hrev : (base ++ '/' :: '*' :: digits ++ ['*', '/']).reverse =
        '/' :: '*' :: (digits.reverse ++ '*' :: '/' :: base.reverse) := by simp
    have hall' : ∀ c ∈ digits.reverse, isDigit c = true := by simpa using hall
    unfold markerBase?
    rw [hrev]
    simp only [List.takeWhile_append_of_pos hall', List.dropWhile_append_of_pos hall',
      List.takeWhile_cons, List.dropWhile_cons, isDigit_star]
    simp [hne]

/-- **The marker that was put on comes off.** -/
theorem withoutMarker_numbered (name : String) (index : Nat) :
    withoutMarker (numbered name index) = name := by
  have h : markerBase? (numbered name index).toList = some name.toList :=
    markerBase?_eq_some_iff.mpr ⟨Nat.toDigits 10 index, Nat.toDigits_ne_nil,
      fun c hc => isDigit_of_isDigit (Nat.isDigit_of_mem_toDigits (by decide) (by decide) hc),
      by
        have : (toString (index : Int)).toList = Nat.toDigits 10 index := Nat.toList_repr
        simp only [numbered, String.toList_append, this]
        simp⟩
  simp [withoutMarker, withoutMarkerFrom, h]

end Stylesheet.Property
