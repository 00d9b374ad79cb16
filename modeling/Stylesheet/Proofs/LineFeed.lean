/-
  Stylesheet.Proofs.LineFeed
  ──────────────────────────
  **TEXTS WITHOUT LINE FEEDS.**

  A line feed in a printed sheet that does not end a line comes from a key,
  a name or a text value.  Numbers are written without one, lowering a name
  makes none of other characters, and taking a marker off takes no more than
  it says.

  Main statements:
    * `oneLine_printed` — a scalar is printed on one line, if it is no text
      or a text on one line;
    * `oneLine_ofKey`, `oneLine_withoutMarker` — a name on one line stays on
      one line.
-/
import Stylesheet.Proofs.Casing
import Stylesheet.Property
import Stylesheet.Value.Text

namespace Stylesheet

open Unicode

/-- A text without line feeds. -/
def OneLine (s : List Char) : Prop := '\n' ∉ s

instance (s : List Char) : Decidable (OneLine s) := inferInstanceAs (Decidable ('\n' ∉ s))

theorem oneLine_append {s t : List Char} : OneLine (s ++ t) ↔ OneLine s ∧ OneLine t := by
  unfold OneLine
  rw [List.mem_append, not_or]

theorem oneLine_cons {c : Char} {s : List Char} : OneLine (c :: s) ↔ c ≠ '\n' ∧ OneLine s := by
  unfold OneLine
  rw [List.mem_cons, not_or, ne_comm]

/-- A part of a text on one line is on one line. -/
theorem OneLine.of_subset {s t : List Char} (h : OneLine t) (below : ∀ c ∈ s, c ∈ t) : OneLine s :=
  fun feed => h (below _ feed)

/-! ## §1. Numbers. -/

theorem oneLine_replicate {c : Char} (h : c ≠ '\n') (n : Nat) : OneLine (List.replicate n c) :=
  fun feed => h (List.eq_of_mem_replicate feed).symm

theorem oneLine_toDigits (n : Nat) : OneLine (Nat.toDigits 10 n) := by
  intro feed
  have digit := Nat.isDigit_of_mem_toDigits (by decide) (by decide) feed
  exact absurd digit (by decide)

theorem oneLine_int (n : Int) : OneLine (toString n).toList := by
  intro feed
  rcases Text.mem_toString_int feed with minus | digit
  · exact absurd minus (by decide)
  · exact absurd digit (by decide)

namespace Decimal

variable {digits : List Char}

theorem oneLine_positional (h : OneLine digits) (point : Int) :
    OneLine (positional digits point) := by
  unfold positional
  split
  · rw [List.cons_append, List.cons_append, oneLine_cons, oneLine_cons, oneLine_append]
    exact ⟨by decide, by decide, oneLine_replicate (by decide) _, h⟩
  · show OneLine (if _ then _ else _)
    split
    · rw [oneLine_append, oneLine_append]
      exact ⟨⟨h, oneLine_replicate (by decide) _⟩, by decide⟩
    · rw [oneLine_append, oneLine_cons]
      exact ⟨h.of_subset fun _ => List.mem_of_mem_take, by decide,
        h.of_subset fun _ => List.mem_of_mem_drop⟩

theorem oneLine_exponentPart (least : Nat) (exponent : Int) :
    OneLine (exponentPart least exponent) := by
  unfold exponentPart
  rw [List.cons_append, List.cons_append, oneLine_cons, oneLine_cons, oneLine_append]
  refine ⟨by decide, ?_, oneLine_replicate (by decide) _, oneLine_toDigits _⟩
  split <;> decide

theorem oneLine_scientific (layout : Layout) (h : OneLine digits) (exponent : Int) :
    OneLine (scientific layout digits exponent) := by
  have power := oneLine_exponentPart layout.exponentDigits exponent
  unfold scientific
  split
  · exact h
  · rw [oneLine_cons] at h ⊢
    exact ⟨h.1, power⟩
  · rw [oneLine_cons] at h
    rw [List.cons_append, List.cons_append, oneLine_cons, oneLine_cons, oneLine_append]
    exact ⟨h.1, by decide, h.2, power⟩

theorem oneLine_magnitude (layout : Layout) (number : Nat) (exponent : Int) :
    OneLine (layout.magnitude number exponent) := by
  -- the digits without the zeros at their end
  have digits : OneLine ((Nat.toDigits 10 number).reverse.dropWhile (· = '0')).reverse := by
    refine (oneLine_toDigits number).of_subset fun c hc => ?_
    exact List.mem_reverse.mp (List.dropWhile_subset _ (List.mem_reverse.mp hc))
  unfold Layout.magnitude
  show OneLine (if _ then _ else _)
  split
  · exact oneLine_positional digits _
  · exact oneLine_scientific layout digits _

/-- **A double is written on one line**, if the words for what is no number
are. -/
theorem oneLine_text (layout : Layout) (nan : OneLine layout.nan.toList)
    (infinity : OneLine layout.infinity.toList) (x : Float) : OneLine (layout.text x).toList := by
  have signed : ∀ (negative : Bool) (s : List Char), OneLine s →
      OneLine (String.ofList (if negative then '-' :: s else s)).toList := by
    intro negative s h
    rw [String.toList_ofList]
    split
    · exact oneLine_cons.mpr ⟨by decide, h⟩
    · exact h
  unfold Layout.text
  split
  · exact nan
  · exact signed _ _ infinity
  · split
    · exact signed _ _ (by decide)
    · exact signed _ _ (oneLine_magnitude layout _ _)

end Decimal

/-- The text that a scalar is. -/
def Scalar.text? : Scalar → Option String
  | .text s => some s
  | _ => none

/-- **A scalar is printed on one line**, if it is no text or a text on one
line. -/
theorem Scalar.oneLine_printed {value : Scalar} (h : ∀ s ∈ value.text?, OneLine s.toList) :
    OneLine value.printed.toList := by
  cases value with
  | text s => exact h s rfl
  | int n => exact oneLine_int n
  | float x => exact Decimal.oneLine_text .plain (by decide) (by decide) x

/-! ## §2. Names. -/

/-- Lowering makes no line feed. -/
theorem Text.oneLine_lowerFrom {s : List Char} (h : OneLine s) (inWord : Bool) :
    OneLine (lowerFrom inWord s) := by
  induction s generalizing inWord with
  | nil => exact h
  | cons c rest ih =>
      rw [oneLine_cons] at h
      rw [lowerFrom, oneLine_append]
      refine ⟨?_, ih h.2 _⟩
      intro feed
      rw [lowerAt] at feed
      split at feed
      · -- neither form of the small sigma is a line feed
        rw [List.mem_singleton] at feed
        split at feed <;> exact absurd feed (by decide)
      · exact h.1 (eq_of_mem_lowerChar feed (by decide)).symm

namespace Property

theorem oneLine_dashed {s : List Char} (h : OneLine s) : OneLine (dashed s) := by
  intro feed
  obtain ⟨c, hc, hmem⟩ := List.mem_flatMap.mp feed
  split at hmem
  · rw [List.mem_cons, List.mem_singleton] at hmem
    rcases hmem with hyphen | same
    · exact absurd hyphen (by decide)
    · exact h (same ▸ hc)
  · exact h (List.mem_singleton.mp hmem ▸ hc)

/-- **The name of a property is on one line if its key is.** -/
theorem oneLine_ofKey {key : String} (h : OneLine key.toList) : OneLine (ofKey key).toList := by
  rw [ofKey, String.toList_ofList]
  exact Text.oneLine_lowerFrom (oneLine_dashed h) false

/-- **A name on one line is so without its marker.** -/
theorem oneLine_withoutMarker {name : String} (h : OneLine name.toList) :
    OneLine (withoutMarker name).toList := by
  rw [withoutMarker, String.toList_ofList]
  unfold withoutMarkerFrom
  split
  · next base hbase =>
    obtain ⟨digits, -, -, hs⟩ := markerBase?_eq_some_iff.mp hbase
    rw [hs, oneLine_append, oneLine_append] at h
    exact h.1.1
  · split
    · next rest hrest =>
      -- there is no line feed to stand behind a marker
      have last : '\n' ∈ name.toList := by
        rw [← List.mem_reverse, hrest]
        exact List.mem_cons_self
      exact absurd last h
    · exact h

end Property

end Stylesheet
