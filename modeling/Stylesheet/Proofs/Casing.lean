/-
  Stylesheet.Proofs.Casing
  ────────────────────────
  **LOWERED TEXT IS LOWER CASE.**

  The table of lower-case images is a list of runs, and no image of a run
  lies on a run again.  This is a finite check on pairs of runs; all that
  follows is about single characters and then about texts.

  Main statements:
    * `lowerChar_of_mem_lowerChar` — an image is its own image;
    * `lower_of_settled` — a text of characters that are their own images is
      left as it is, whatever words it is made of;
    * `settled_lower` — lowering leaves only such characters;
    * `head?_lower` — a sign at the head is there before and after.
-/
import Stylesheet.Text.Casing

namespace Stylesheet.Unicode

/-! ## §1. Runs. -/

namespace CaseRun

/-- Whether a code point is one of the characters of a run. -/
def covers (run : CaseRun) (n : Nat) : Bool :=
  run.first ≤ n && n ≤ run.last && (n - run.first) % run.step = 0

/-- The last image of a run. -/
def lastImage (run : CaseRun) : Nat := run.image + (run.last - run.first)

/-- A reason, to be seen from the ends of the runs, why no image of a run is
covered by another run: they lie apart, or they take turns.  The comparisons
are those that evaluate fast. -/
def avoids (run other : CaseRun) : Bool :=
  run.lastImage.blt other.first || (other.last.blt run.image ||
    other.step.beq 2 && (run.step.beq 2 || run.first.beq run.last) &&
      ((run.image + other.first) % 2).beq 1)

/-- Whether all images of a run are code points of characters. -/
def imagesValid (run : CaseRun) : Bool :=
  run.lastImage < 0xd800 || (0xdfff < run.image && run.lastImage < 0x110000)

theorem covers_iff {run : CaseRun} {n : Nat} :
    run.covers n = true ↔ run.first ≤ n ∧ n ≤ run.last ∧ (n - run.first) % run.step = 0 := by
  simp [covers, and_assoc]

/-- The reason is a reason. -/
theorem covers_image_of_avoids {run other : CaseRun} (h : run.avoids other = true) {n : Nat}
    (hn : run.covers n = true) : other.covers (run.image + (n - run.first)) = false := by
  rw [covers_iff] at hn
  obtain ⟨hfirst, hlast, hstep⟩ := hn
  rw [Bool.eq_false_iff, Ne, covers_iff]
  intro ⟨ofirst, olast, ostep⟩
  simp only [avoids, Bool.or_eq_true, Bool.and_eq_true, Nat.blt_eq, Nat.beq_eq] at h
  unfold lastImage at h
  rcases h with h | h | ⟨⟨h2, hrun | hrun⟩, hodd⟩
  · omega
  · omega
  · rw [h2] at ostep
    rw [hrun] at hstep
    omega
  · rw [h2] at ostep
    omega

/-- A character on no run is left alone. -/
theorem imageIn_of_not_covers {runs : List CaseRun} {c : Char}
    (h : ∀ run ∈ runs, run.covers c.toNat = false) : imageIn runs c = c := by
  induction runs with
  | nil => rfl
  | cons run rest ih =>
      have hrun := h run List.mem_cons_self
      have hrest := ih fun r hr => h r (List.mem_cons_of_mem _ hr)
      rw [Bool.eq_false_iff, Ne, covers_iff] at hrun
      rw [imageIn]
      split
      · rfl
      · split
        · rw [if_neg]
          intro hm
          exact hrun ⟨by omega, by omega, hm⟩
        · exact hrest

/-- A character is left alone or gets its image on the run that covers it. -/
theorem imageIn_cases (runs : List CaseRun) (c : Char) :
    imageIn runs c = c ∨ ∃ run ∈ runs, run.covers c.toNat = true ∧
      imageIn runs c = Char.ofNat (run.image + (c.toNat - run.first)) := by
  induction runs with
  | nil => exact Or.inl rfl
  | cons run rest ih =>
      rw [imageIn]
      split
      · exact Or.inl rfl
      · split
        · split
          · next hm =>
            right
            exact ⟨run, List.mem_cons_self, covers_iff.mpr ⟨by omega, by omega, hm⟩, rfl⟩
          · exact Or.inl rfl
        · rcases ih with h | ⟨r, hr, hc, himage⟩
          · exact Or.inl h
          · exact Or.inr ⟨r, List.mem_cons_of_mem _ hr, hc, himage⟩

end CaseRun

/-! ## §2. Characters. -/

/-- The character that alone has an image of two. -/
def dottedRun : CaseRun := ⟨0x130, 0x130, 1, 0x69⟩

/-- No image lies on a run. -/
theorem lowerRuns_avoid :
    (lowerRuns.all fun run => run.imagesValid && run.avoids dottedRun
      && lowerRuns.all fun other => run.avoids other) = true := by
  decide +kernel

theorem toNat_ofNat_image {run : CaseRun} (h : run.imagesValid = true) {n : Nat}
    (hn : run.covers n = true) :
    (Char.ofNat (run.image + (n - run.first))).toNat = run.image + (n - run.first) := by
  rw [CaseRun.covers_iff] at hn
  simp only [CaseRun.imagesValid, Bool.or_eq_true, Bool.and_eq_true, decide_eq_true_eq] at h
  unfold CaseRun.lastImage at h
  have valid : Nat.isValidChar (run.image + (n - run.first)) := by
    unfold Nat.isValidChar
    omega
  rw [Char.ofNat, dif_pos valid]
  rfl

/-- **An image is its own image.** -/
theorem lowerChar_of_mem_lowerChar {c d : Char} (h : d ∈ lowerChar c) : lowerChar d = [d] := by
  by_cases hc : c = '\u0130'
  · rw [lowerChar, if_pos hc] at h
    simp only [List.mem_cons, List.not_mem_nil, or_false] at h
    rcases h with rfl | rfl <;> decide
  · rw [lowerChar, if_neg hc, List.mem_singleton] at h
    rcases CaseRun.imageIn_cases lowerRuns c with same | ⟨run, hrun, covers, image⟩
    · rw [same] at h
      rw [h, lowerChar, if_neg hc, same]
    · rw [image] at h
      have checked := List.all_eq_true.mp lowerRuns_avoid run hrun
      simp only [Bool.and_eq_true, List.all_eq_true] at checked
      obtain ⟨⟨valid, dotted⟩, others⟩ := checked
      have hd : d.toNat = run.image + (c.toNat - run.first) := by
        rw [h]
        exact toNat_ofNat_image valid covers
      have undotted : d ≠ '\u0130' := by
        intro same
        subst same
        have := CaseRun.covers_image_of_avoids dotted covers
        rw [← hd] at this
        exact absurd this (by decide)
      rw [lowerChar, if_neg undotted, CaseRun.imageIn_of_not_covers]
      intro other hother
      rw [hd]
      exact CaseRun.covers_image_of_avoids (others other hother) covers

/-- The images of the runs lie between the small Latin letters and the last
small letter of all. -/
theorem lowerRuns_image_range :
    (lowerRuns.all fun run => Nat.ble 0x61 run.image && Nat.ble run.lastImage 0x1e943) = true := by
  decide

/-- An image that is another character lies there too. -/
theorem mem_lowerChar_cases {c d : Char} (h : d ∈ lowerChar c) :
    d = c ∨ 0x61 ≤ d.toNat ∧ d.toNat ≤ 0x1e943 := by
  by_cases hc : c = '\u0130'
  · rw [lowerChar, if_pos hc] at h
    simp only [List.mem_cons, List.not_mem_nil, or_false] at h
    rcases h with rfl | rfl <;> exact Or.inr (by decide)
  · rw [lowerChar, if_neg hc, List.mem_singleton] at h
    rcases CaseRun.imageIn_cases lowerRuns c with same | ⟨run, hrun, covers, image⟩
    · exact Or.inl (h.trans same)
    · have checked := List.all_eq_true.mp lowerRuns_avoid run hrun
      simp only [Bool.and_eq_true] at checked
      have range := List.all_eq_true.mp lowerRuns_image_range run hrun
      simp only [Bool.and_eq_true, Nat.ble_eq, CaseRun.lastImage] at range
      have inside := (CaseRun.covers_iff.mp covers).2.1
      rw [h, image, toNat_ofNat_image checked.1.1 covers]
      omega

/-- A character before the small Latin letters is the image of no other. -/
theorem eq_of_mem_lowerChar {c d : Char} (h : d ∈ lowerChar c) (hd : d.toNat < 0x61) : d = c :=
  (mem_lowerChar_cases h).resolve_right fun range => absurd range.1 (Nat.not_le.mpr hd)

/-- What is its own image is no Latin capital. -/
theorem isUpper_of_lowerChar_self {c : Char} (h : lowerChar c = [c]) : c.isUpper = false := by
  rw [Bool.eq_false_iff]
  intro upper
  have bounds : 0x41 ≤ c.toNat ∧ c.toNat ≤ 0x5a := by
    have both : c.val ≥ 'A'.val ∧ c.val ≤ 'Z'.val := of_decide_eq_true upper
    simpa [UInt32.le_iff_toNat_le] using both
  have image : CaseRun.imageIn lowerRuns c = Char.ofNat (0x61 + (c.toNat - 0x41)) := by
    rw [lowerRuns, CaseRun.imageIn, if_neg (by simp only; omega), if_pos bounds.2,
      if_pos (by simp only [Nat.mod_one])]
  have undotted : c ≠ '\u0130' := by
    intro same
    subst same
    exact absurd bounds.2 (by decide)
  rw [lowerChar, if_neg undotted, image, List.cons.injEq] at h
  have twice := congrArg Char.toNat h.1
  rw [Char.ofNat, dif_pos (by unfold Nat.isValidChar; omega)] at twice
  have : 0x61 + (c.toNat - 0x41) = c.toNat := twice
  omega

/-- What is its own image is no capital sigma. -/
theorem ne_sigma_of_lowerChar_self {c : Char} (h : lowerChar c = [c]) : c ≠ 'Σ' := by
  intro same
  subst same
  exact absurd h (by decide)

end Stylesheet.Unicode

/-! ## §3. Texts. -/

namespace Stylesheet.Text

open Stylesheet.Unicode

/-- All characters of a text are their own images. -/
def Settled (s : List Char) : Prop := ∀ c ∈ s, lowerChar c = [c]

theorem settled_append {s t : List Char} : Settled (s ++ t) ↔ Settled s ∧ Settled t := by
  simp only [Settled, List.mem_append, or_imp, forall_and]

theorem lowerFrom_of_settled {s : List Char} (h : Settled s) (inWord : Bool) :
    lowerFrom inWord s = s := by
  induction s generalizing inWord with
  | nil => rfl
  | cons c rest ih =>
      have hc := h c List.mem_cons_self
      rw [lowerFrom, lowerAt, if_neg (ne_sigma_of_lowerChar_self hc), hc,
        ih fun d hd => h d (List.mem_cons_of_mem _ hd)]
      rfl

/-- **A settled text is left as it is.** -/
theorem lower_of_settled {s : List Char} (h : Settled s) : lower s = s :=
  lowerFrom_of_settled h false

/-- **Lowering leaves a settled text.** -/
theorem settled_lowerFrom (inWord : Bool) (s : List Char) : Settled (lowerFrom inWord s) := by
  induction s generalizing inWord with
  | nil => intro c hc; cases hc
  | cons c rest ih =>
      rw [lowerFrom, settled_append]
      refine ⟨?_, ih _⟩
      intro d hd
      rw [lowerAt] at hd
      split at hd
      · -- the two forms of the small sigma
        rw [List.mem_singleton] at hd
        split at hd <;> subst hd <;> decide
      · exact lowerChar_of_mem_lowerChar hd

theorem settled_lower (s : List Char) : Settled (lower s) := settled_lowerFrom false s

theorem lowerAt_ne_nil (inWord : Bool) (c : Char) (rest : List Char) :
    lowerAt inWord c rest ≠ [] := by
  unfold lowerAt lowerChar
  repeat' split
  all_goals simp

/-- Lowering keeps a sign at the head of a text, and makes none. -/
theorem head?_lower {a : Char} (self : lowerChar a = [a]) (low : a.toNat < 0x61) (s : List Char) :
    (lower s).head? = some a ↔ s.head? = some a := by
  cases s with
  | nil => rfl
  | cons c rest =>
      have whole : (lower (c :: rest)).head? = (lowerAt false c rest).head? := by
        rw [lower, lowerFrom, List.head?_append]
        cases h : lowerAt false c rest with
        | nil => exact absurd h (lowerAt_ne_nil false c rest)
        | cons d ds => rfl
      rw [whole, List.head?_cons, Option.some.injEq]
      constructor
      · intro h
        have first := List.mem_of_head? h
        rw [lowerAt] at first
        split at first
        · simp only [Bool.false_and, Bool.false_eq_true, if_false, List.mem_singleton] at first
          exact absurd low (by rw [first]; decide)
        · exact (eq_of_mem_lowerChar first low).symm
      · intro same
        subst same
        rw [lowerAt, if_neg (ne_sigma_of_lowerChar_self self), self]
        rfl

end Stylesheet.Text
