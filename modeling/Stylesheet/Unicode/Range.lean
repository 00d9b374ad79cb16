/-
  Stylesheet.Unicode.Range
  ────────────────────────
  **RANGES OF CODE POINTS.**

  The shape of the tables of character properties: ascending lists of
  closed ranges, and ascending runs of characters whose case images lie at
  the same distance from each other as they do.

  Main statement: `exists_of_inRanges`, a character that a table claims lies
  between the ends of one of its ranges.
-/

namespace Stylesheet.Unicode

/-! ## §1. Membership. -/

/-- Whether a code point lies in one of the ranges, which ascend. -/
def inRanges : List (Nat × Nat) → Nat → Bool
  | [], _ => false
  | (first, last) :: rest, n =>
      if n < first then false else if n ≤ last then true else inRanges rest n

/-- **A claimed code point lies in a range of the table.** -/
theorem exists_of_inRanges {ranges : List (Nat × Nat)} {n : Nat}
    (h : inRanges ranges n = true) : ∃ r ∈ ranges, r.1 ≤ n ∧ n ≤ r.2 := by
  induction ranges with
  | nil => simp [inRanges] at h
  | cons r rest ih =>
    obtain ⟨first, last⟩ := r
    rw [inRanges] at h
    split at h
    · simp at h
    · split at h
      · exact ⟨(first, last), List.mem_cons_self, by simpa using ‹¬n < first›, ‹_›⟩
      · obtain ⟨r, hr, hb⟩ := ih h
        exact ⟨r, List.mem_cons_of_mem _ hr, hb⟩

/-! ## §2. Case images. -/

/-- The characters `first`, `first + step`, … up to `last`, which have the
images `image`, `image + step`, … -/
structure CaseRun where
  /-- The first character of the run. -/
  first : Nat
  /-- The last character of the run. -/
  last : Nat
  /-- The distance from one character of the run to the next. -/
  step : Nat
  /-- The image of the first character. -/
  image : Nat

namespace CaseRun

/-- The image of a character under ascending runs; a character that is in no
run is its own image. -/
def imageIn : List CaseRun → Char → Char
  | [], c => c
  | run :: rest, c =>
      if c.toNat < run.first then c
      else if c.toNat ≤ run.last then
        if (c.toNat - run.first) % run.step = 0 then
          Char.ofNat (run.image + (c.toNat - run.first))
        else c
      else imageIn rest c

end CaseRun

end Stylesheet.Unicode
