/-
  Stylesheet.Proofs.Sign
  ──────────────────────
  **SIGNS: CHARACTERS THAT STAY OUT OF CASING.**

  The slashes, stars and digits of a marker have no case, are the images of
  no other characters, and end the word before them.  So signs at the end of
  a text are there before and after it is lowered, and what stands before
  them is lowered as if they were not there.

  Main statements:
    * `isSign_of_lt`, `isSign_of_isDigit` — characters before the capitals
      are signs, and so are the digits of all scripts;
    * `lower_append_of_signs` — signs at the end stay, whatever word they end;
    * `exists_front_of_lower` — signs at the end of a lowered text were there.
-/
import Mathlib.Data.List.Induction
import Stylesheet.Proofs.Casing
import Stylesheet.Unicode.Digit

namespace Stylesheet.Unicode

/-! ## §1. Characters. -/

/-- A character that lowering takes no notice of. -/
structure IsSign (c : Char) : Prop where
  /-- It is its own image. -/
  own : lowerChar c = [c]
  /-- It is the image of no other. -/
  only : ∀ d, c ∈ lowerChar d → d = c
  /-- It belongs to no word. -/
  cased : isCased c = false

/-- **The characters before the Latin capitals are signs.** -/
theorem isSign_of_lt {c : Char} (h : c.toNat < 0x41) : IsSign c where
  own := by
    have undotted : c ≠ '\u0130' := by
      intro same
      subst same
      exact absurd h (by decide)
    rw [lowerChar, if_neg undotted, lowerRuns, CaseRun.imageIn, if_pos h]
  only := by
    intro d hd
    exact (eq_of_mem_lowerChar hd (by omega)).symm
  cased := by rw [isCased, casedRanges, inRanges, if_pos h]

/-- A run of digits lies apart from all characters with an image, from the
images, and from the cased characters. -/
theorem digitZeros_apart :
    (digitZeros.all fun first =>
      (lowerRuns.all fun run =>
        (run.last.blt first || (first + 9).blt run.first)
          && (run.lastImage.blt first || (first + 9).blt run.image))
      && casedRanges.all fun range => range.2.blt first || (first + 9).blt range.1) = true := by
  decide +kernel

/-- **The digits of all scripts are signs.** -/
theorem isSign_of_isDigit {c : Char} (h : isDigit c = true) : IsSign c := by
  obtain ⟨first, hfirst, hc⟩ := List.any_eq_true.mp h
  rw [Bool.and_eq_true, decide_eq_true_eq, decide_eq_true_eq] at hc
  have apart := List.all_eq_true.mp digitZeros_apart first hfirst
  simp only [Bool.and_eq_true, List.all_eq_true, Bool.or_eq_true, Nat.blt_eq] at apart
  obtain ⟨runs, ranges⟩ := apart
  refine ⟨?_, ?_, ?_⟩
  · have undotted : c ≠ '\u0130' := by
      intro same
      subst same
      exact absurd h (by decide)
    rw [lowerChar, if_neg undotted, CaseRun.imageIn_of_not_covers]
    intro run hrun
    rw [Bool.eq_false_iff, Ne, CaseRun.covers_iff]
    intro covers
    have := (runs run hrun).1
    omega
  · intro d hd
    by_cases dotted : d = '\u0130'
    · rw [lowerChar, if_pos dotted] at hd
      simp only [List.mem_cons, List.not_mem_nil, or_false] at hd
      rcases hd with rfl | rfl <;> exact absurd h (by decide)
    · rw [lowerChar, if_neg dotted, List.mem_singleton] at hd
      rcases CaseRun.imageIn_cases lowerRuns d with same | ⟨run, hrun, covers, image⟩
      · rw [hd, same]
      · -- the image would lie on the run of digits
        have checked := List.all_eq_true.mp lowerRuns_avoid run hrun
        simp only [Bool.and_eq_true] at checked
        have place := congrArg Char.toNat (hd.trans image)
        rw [toNat_ofNat_image checked.1.1 covers] at place
        rw [CaseRun.covers_iff] at covers
        have := (runs run hrun).2
        unfold CaseRun.lastImage at this
        omega
  · rw [Bool.eq_false_iff]
    intro cased
    obtain ⟨range, hrange, low, high⟩ := exists_of_inRanges cased
    have := ranges range hrange
    omega

/-- No sign is a Latin capital. -/
theorem IsSign.isUpper {c : Char} (h : IsSign c) : c.isUpper = false :=
  isUpper_of_lowerChar_self h.own

end Stylesheet.Unicode

/-! ## §2. Texts that end with signs. -/

namespace Stylesheet.Text

open Stylesheet.Unicode

variable {tail : List Char}

/-- Signs are left as they are. -/
theorem settled_of_signs (h : ∀ c ∈ tail, IsSign c) : Settled tail :=
  fun c hc => (h c hc).own

/-- Signs go on with no word. -/
theorem meetsCased_of_signs (h : ∀ c ∈ tail, IsSign c) : meetsCased tail = false := by
  induction tail with
  | nil => rfl
  | cons c rest ih =>
      rw [meetsCased]
      split
      · exact ih fun d hd => h d (List.mem_cons_of_mem _ hd)
      · exact (h c List.mem_cons_self).cased

/-- **Signs at the end of a text stay, and what stands before them is lowered
by itself.** -/
theorem lower_append_of_signs (s : List Char) (h : ∀ c ∈ tail, IsSign c) :
    lower (s ++ tail) = lower s ++ tail := by
  rw [lower, lowerFrom_append_of_not_meetsCased (meetsCased_of_signs h),
    lowerFrom_of_settled (settled_of_signs h)]
  rfl

/-- A lowered text ends with the image of its last character. -/
theorem lowerFrom_concat (s : List Char) (c : Char) (inWord : Bool) :
    ∃ front before, lowerFrom inWord (s ++ [c]) = front ++ lowerAt before c [] := by
  induction s generalizing inWord with
  | nil => exact ⟨[], inWord, List.append_nil _⟩
  | cons d rest ih =>
      obtain ⟨front, before, h⟩ := ih (wordAfter inWord d)
      refine ⟨lowerAt inWord d (rest ++ [c]) ++ front, before, ?_⟩
      rw [List.cons_append, lowerFrom, h, List.append_assoc]

/-- A sign is the image of itself alone, the sigmas included. -/
theorem eq_of_mem_lowerAt {inWord : Bool} {c d : Char} {rest : List Char} (hc : IsSign c)
    (h : c ∈ lowerAt inWord d rest) : d = c := by
  rw [lowerAt] at h
  split at h
  · -- both small sigmas are cased
    rw [List.mem_singleton] at h
    split at h <;> subst h <;> exact absurd hc.cased (by decide)
  · exact hc.only d h

/-- A sign at the end of a lowered text was there. -/
theorem exists_front_of_lower_concat {s t : List Char} {c : Char} (hc : IsSign c)
    (h : lower s = t ++ [c]) : ∃ front, s = front ++ [c] ∧ lower front = t := by
  rcases List.eq_nil_or_concat s with rfl | ⟨front, d, rfl⟩
  · exact absurd h.symm (List.append_ne_nil_of_right_ne_nil _ (List.cons_ne_nil _ _))
  · rw [List.concat_eq_append] at h ⊢
    obtain ⟨image, before, himage⟩ := lowerFrom_concat front d false
    have last : c ∈ lowerAt before d [] := by
      have ends := congrArg List.getLast? (himage.symm.trans h)
      rw [List.getLast?_append, List.getLast?_concat,
        List.getLast?_eq_some_getLast (lowerAt_ne_nil before d []), Option.some_or] at ends
      rw [← Option.some.inj ends]
      exact List.getLast_mem _
    obtain rfl := eq_of_mem_lowerAt hc last
    rw [lower_append_of_signs front (by simpa using hc), List.append_cancel_right_eq] at h
    exact ⟨front, rfl, h⟩

/-- **Signs at the end of a lowered text were there, and what stands before
them is what was lowered.** -/
theorem exists_front_of_lower {s t : List Char} (h : ∀ c ∈ tail, IsSign c)
    (hs : lower s = t ++ tail) : ∃ front, s = front ++ tail ∧ lower front = t := by
  induction tail using List.reverseRecOn generalizing s with
  | nil => exact ⟨s, (List.append_nil s).symm, by rw [hs, List.append_nil]⟩
  | append_singleton signs c ih =>
      rw [List.forall_mem_append, List.forall_mem_singleton] at h
      rw [← List.append_assoc] at hs
      obtain ⟨longer, rfl, hlonger⟩ := exists_front_of_lower_concat h.2 hs
      obtain ⟨front, rfl, hfront⟩ := ih h.1 hlonger
      exact ⟨front, List.append_assoc _ _ _, hfront⟩

end Stylesheet.Text
