/-
  Stylesheet.Proofs.Whole
  ───────────────────────
  **TEXTS WITHOUT HALVES ARE NOT TORN.**

  A whole text is one that is kept for characters alone.  In it the mark of
  halves stands only twice in a row, for itself.  Keys, names and printed
  texts are joined of others, lowered, and cut beside blanks, signs and
  letters.  None of these is the mark, and no other character is lowered to
  it, so that what is made of whole texts is whole.

  Main statements:
    * `Whole.append`, `Whole.of_append` — joining and cutting;
    * `Ansi.whole_plain` — taking terminal sequences away;
    * `whole_lowerFrom` — lowering;
    * `whole_ofKey`, `whole_withoutMarker`, `whole_merge` — what is done to
      names and keys.
-/
import Mathlib.Data.List.Induction
import Stylesheet.Flatten
import Stylesheet.Proofs.Casing
import Stylesheet.Text.Ansi
import Stylesheet.Text.Integer

namespace Stylesheet

namespace Text

open Unicode

/-! ## §1. Whole texts. -/

/-- A text in which the mark stands only twice in a row. -/
inductive Whole : List Char → Prop where
  /-- Nothing. -/
  | nil : Whole []
  /-- A character that is no mark, and more. -/
  | cons {c rest} (hc : c ≠ halfMark) (hrest : Whole rest) : Whole (c :: rest)
  /-- The mark for itself, and more. -/
  | mark {rest} (hrest : Whole rest) : Whole (halfMark :: halfMark :: rest)

theorem whole_coded (characters : List Char) : Whole (coded characters) := by
  induction characters with
  | nil => exact .nil
  | cons c rest ih =>
      rw [coded_cons]
      by_cases hc : c = halfMark
      · subst hc
        exact .mark ih
      · rw [coded_character hc]
        exact .cons hc ih

/-- **Whole texts are those that can be turned into characters.** -/
theorem whole_iff {s : List Char} : Whole s ↔ ∃ characters, decoded? s = some characters := by
  constructor
  · intro h
    suffices ∃ characters, coded characters = s by
      obtain ⟨characters, rfl⟩ := this
      exact ⟨characters, decoded?_coded characters⟩
    induction h with
    | nil => exact ⟨[], rfl⟩
    | @cons c _ hc _ ih =>
        obtain ⟨characters, rfl⟩ := ih
        exact ⟨c :: characters, by rw [coded_cons, coded_character hc]; rfl⟩
    | mark _ ih =>
        obtain ⟨characters, rfl⟩ := ih
        exact ⟨halfMark :: characters, rfl⟩
  · rintro ⟨characters, h⟩
    rw [← coded_of_decoded? h]
    exact whole_coded characters

instance (s : List Char) : Decidable (Whole s) :=
  decidable_of_iff ((decoded? s).isSome = true) (Option.isSome_iff_exists.trans whole_iff.symm)

/-- A text without marks is whole. -/
theorem whole_of_not_mem {s : List Char} (h : halfMark ∉ s) : Whole s := by
  induction s with
  | nil => exact .nil
  | cons c rest ih =>
      rw [List.mem_cons, not_or] at h
      exact .cons (Ne.symm h.1) (ih h.2)

/-- **Whole texts are joined to a whole text.** -/
theorem Whole.append {s t : List Char} (hs : Whole s) (ht : Whole t) : Whole (s ++ t) := by
  induction hs with
  | nil => exact ht
  | cons hc _ ih => exact .cons hc ih
  | mark _ ih => exact .mark ih

/-- **So are they as strings.** -/
theorem whole_append {s t : String} (hs : Whole s.toList) (ht : Whole t.toList) :
    Whole (s ++ t).toList := by
  rw [String.toList_append]
  exact hs.append ht

/-- **A whole text is cut into whole texts** at a character that is no
mark. -/
theorem Whole.of_append {s t : List Char} {c : Char} (h : Whole (s ++ c :: t))
    (hc : c ≠ halfMark) : Whole s ∧ Whole t := by
  generalize hu : s ++ c :: t = u at h
  induction h generalizing s with
  | nil => exact absurd hu (by simp)
  | @cons d rest hd hrest ih =>
      cases s with
      | nil =>
          obtain rfl := (List.cons.inj hu).2
          exact ⟨.nil, hrest⟩
      | cons e s =>
          obtain ⟨rfl, hs⟩ := List.cons.inj hu
          obtain ⟨before, behind⟩ := ih hs
          exact ⟨.cons hd before, behind⟩
  | @mark rest hrest ih =>
      -- the cut is not between the two marks, since neither is the character
      match s with
      | [] => exact absurd (List.cons.inj hu).1 hc
      | [e] => exact absurd (List.cons.inj (List.cons.inj hu).2).1 hc
      | e :: f :: s =>
          obtain ⟨rfl, hfs⟩ := List.cons.inj hu
          obtain ⟨rfl, hs⟩ := List.cons.inj hfs
          obtain ⟨before, behind⟩ := ih hs
          exact ⟨.mark before, behind⟩

/-! ## §2. Cutting. -/

section Cutting

variable {p : Char → Bool} {s : List Char}

theorem ne_halfMark_of (hp : p halfMark = false) {c : Char} (hc : p c = true) : c ≠ halfMark := by
  rintro rfl
  rw [hp] at hc
  cases hc

theorem Whole.dropWhile (h : Whole s) (hp : p halfMark = false) : Whole (s.dropWhile p) := by
  induction s with
  | nil => exact .nil
  | cons c rest ih =>
      rw [List.dropWhile_cons]
      split
      · next hc => exact ih (h.of_append (s := []) (ne_halfMark_of hp hc)).2
      · exact h

theorem whole_takeWhile (hp : p halfMark = false) (s : List Char) : Whole (s.takeWhile p) :=
  whole_of_not_mem fun mem =>
    ne_halfMark_of hp (List.all_eq_true.mp List.all_takeWhile _ mem) rfl

theorem Whole.trimRight (h : Whole s) : Whole (trimRight s) := by
  induction s using List.reverseRecOn with
  | nil => exact .nil
  | append_singleton s c ih =>
      rw [Text.trimRight, List.reverse_append, List.reverse_singleton, List.singleton_append,
        List.dropWhile_cons]
      split
      · next hc => exact ih (h.of_append (ne_halfMark_of (by decide) hc)).1
      · rw [List.reverse_cons, List.reverse_reverse]
        exact h

theorem Whole.trim (h : Whole s) : Whole (trim s) :=
  (h.dropWhile (by decide)).trimRight

end Cutting

namespace Ansi

/-- A sequence ends with a letter. -/
theorem exists_of_afterSequence? {s tail : List Char} (h : afterSequence? s = some tail) :
    ∃ front letter, s = front ++ letter :: tail ∧ letter.isAlpha = true := by
  unfold afterSequence? at h
  split at h
  · next c rest =>
    split at h
    · split at h
      · next letter more found =>
        split at h
        · next alpha =>
          obtain rfl := Option.some.inj h
          refine ⟨c :: '[' :: rest.takeWhile isParameter, letter, ?_, alpha⟩
          rw [List.cons_append, List.cons_append, ← found, List.takeWhile_append_dropWhile]
        · cases h
      · cases h
    · cases h
  · cases h

/-- No sequence begins with a mark. -/
theorem afterSequence?_mark (rest : List Char) : afterSequence? (halfMark :: rest) = none := by
  unfold afterSequence?
  split
  · next c tail same =>
    rw [if_neg]
    rw [← (List.cons.inj same).1]
    decide
  · rfl

theorem plain_mark (rest : List Char) : plain (halfMark :: rest) = halfMark :: plain rest := by
  rw [plain]
  split
  · next tail found =>
    rw [afterSequence?_mark] at found
    cases found
  · rfl

/-- **A whole text is whole without its terminal sequences.** -/
theorem whole_plain {s : List Char} (h : Whole s) : Whole (plain s) := by
  induction hn : s.length using Nat.strongRecOn generalizing s with
  | ind n ih =>
      cases h with
      | nil =>
          rw [plain]
          exact .nil
      | @cons c rest hc hrest =>
          rw [plain]
          split
          · next tail found =>
            obtain ⟨front, letter, hfront, alpha⟩ := exists_of_afterSequence? found
            have whole : Whole (front ++ letter :: tail) := hfront ▸ .cons hc hrest
            -- the cut is behind the letter that ends the sequence
            have letter_ne : letter ≠ halfMark := by
              rintro rfl
              exact absurd alpha (by decide)
            refine ih tail.length ?_ (whole.of_append letter_ne).2 rfl
            exact hn ▸ length_afterSequence? found
          · exact .cons hc (ih rest.length (hn ▸ Nat.lt_succ_self _) hrest rfl)
      | @mark rest hrest =>
          rw [plain_mark, plain_mark]
          refine .mark (ih rest.length ?_ hrest rfl)
          rw [← hn, List.length_cons, List.length_cons]
          omega

end Ansi

/-! ## §3. Lowering. -/

theorem lowerAt_mark (inWord : Bool) (rest : List Char) :
    lowerAt inWord halfMark rest = [halfMark] := by
  rw [lowerAt, if_neg (by decide)]
  decide +kernel

/-- No other character is lowered to a mark. -/
theorem halfMark_not_mem_lowerAt {c : Char} (hc : c ≠ halfMark) (inWord : Bool)
    (rest : List Char) : halfMark ∉ lowerAt inWord c rest := by
  intro mem
  rw [lowerAt] at mem
  split at mem
  · rw [List.mem_singleton] at mem
    split at mem <;> exact absurd mem (by decide)
  · rcases mem_lowerChar_cases mem with same | ⟨-, small⟩
    · exact hc same.symm
    · exact absurd small (by decide)

/-- **A whole text is lowered to a whole text.** -/
theorem whole_lowerFrom {s : List Char} (h : Whole s) (inWord : Bool) :
    Whole (lowerFrom inWord s) := by
  induction h generalizing inWord with
  | nil => exact .nil
  | cons hc _ ih =>
      exact (whole_of_not_mem (halfMark_not_mem_lowerAt hc inWord _)).append (ih _)
  | mark _ ih =>
      rw [lowerFrom, lowerFrom, lowerAt_mark, lowerAt_mark]
      exact .mark (ih _)

end Text

open Text

/-! ## §4. Names. -/

namespace Property

theorem whole_dashed {s : List Char} (h : Whole s) : Whole (dashed s) := by
  induction h with
  | nil => exact .nil
  | @cons c _ hc _ ih =>
      rw [dashed, List.flatMap_cons]
      refine Whole.append (whole_of_not_mem ?_) ih
      split
      · simpa using ⟨by decide, Ne.symm hc⟩
      · simpa using Ne.symm hc
  | mark _ ih => exact .mark ih

/-- **The name of a property is whole if its key is.** -/
theorem whole_ofKey {key : String} (h : Whole key.toList) : Whole (ofKey key).toList := by
  rw [ofKey, String.toList_ofList]
  exact whole_lowerFrom (whole_dashed h) false

/-- **A whole name is whole with a marker**, and without. -/
theorem whole_numbered {name : String} (h : Whole name.toList) (index : Int) :
    Whole (numbered name index).toList := by
  have number : Whole (toString index).toList := by
    refine whole_of_not_mem fun mem => ?_
    rcases mem_toString_int mem with minus | digit
    · exact absurd minus (by decide)
    · exact absurd digit (by decide)
  have opening := whole_append h (t := "/*") (whole_of_not_mem (by decide))
  exact whole_append (whole_append opening number) (whole_of_not_mem (by decide))

/-- A whole text is whole up to its marker. -/
theorem whole_markerBase {s base : List Char} (h : Whole s) (hbase : markerBase? s = some base) :
    Whole base := by
  obtain ⟨digits, -, -, rfl⟩ := markerBase?_eq_some_iff.mp hbase
  rw [List.append_assoc, List.cons_append] at h
  exact (h.of_append (by decide)).1

theorem whole_withoutMarker {name : String} (h : Whole name.toList) :
    Whole (withoutMarker name).toList := by
  rw [withoutMarker, String.toList_ofList]
  unfold withoutMarkerFrom
  split
  · next base hbase => exact whole_markerBase h hbase
  · split
    · next rest hrest =>
      split
      · next base hbase =>
        have feed : name.toList = rest.reverse ++ ['\n'] := by
          rw [← List.reverse_reverse name.toList, hrest, List.reverse_cons]
        rw [feed] at h
        have front := (h.of_append (by decide)).1
        exact (whole_markerBase front hbase).append (whole_of_not_mem (by decide))
      · exact h
    · exact h

end Property

/-! ## §5. Keys. -/

/-- A text with a blank between two whole ones is whole. -/
theorem whole_selectorBelow {selector key : String} (hselector : Whole selector.toList)
    (hkey : Whole key.toList) : Whole (Scope.selectorBelow selector key).toList := by
  unfold Scope.selectorBelow
  split
  · exact hkey
  · exact whole_append (whole_append hselector (whole_of_not_mem (by decide))) hkey

namespace AtRule

/-- **A whole key comes apart into a whole name and a whole condition.** -/
theorem whole_parse? {key : String} (h : Whole key.toList) {rule : AtRule}
    (hrule : parse? key = some rule) : Whole rule.name.toList ∧ Whole rule.condition.toList := by
  unfold parse? at hrule
  split at hrule
  · next body trimmed =>
    obtain rfl := Option.some.inj hrule
    have whole := h.trim
    rw [trimmed] at whole
    have behind : Whole body := (whole.of_append (s := []) (by decide)).2
    rw [ofBody, String.toList_ofList, String.toList_ofList]
    have sign : isNameChar halfMark = false := by decide +kernel
    exact ⟨whole_lowerFrom (whole_takeWhile sign body) false, (behind.dropWhile sign).trim⟩
  · cases hrule

/-- **And is put together of them.** -/
theorem whole_key {rule : AtRule} (hname : Whole rule.name.toList)
    (hcondition : Whole rule.condition.toList) : Whole rule.key.toList := by
  unfold key
  have at_name : Whole ("@" ++ rule.name).toList :=
    whole_append (whole_of_not_mem (by decide)) hname
  split
  · exact at_name
  · exact whole_append (whole_append at_name (whole_of_not_mem (by decide))) hcondition

end AtRule

namespace Condition

theorem whole_conjunction {conditions : List String} (h : ∀ c ∈ conditions, Whole c.toList) :
    Whole (conjunction conditions).toList := by
  have inside : ∀ c ∈ conditions.filter fun c => !c.isEmpty, Whole c.toList :=
    fun c hc => h c (List.mem_filter.mp hc).1
  rw [conjunction]
  generalize (conditions.filter fun c => !c.isEmpty) = parts at inside
  induction parts with
  | nil => exact .nil
  | cons first rest ih =>
      have begins := inside first List.mem_cons_self
      have goesOn := ih fun c hc => inside c (List.mem_cons_of_mem _ hc)
      cases rest with
      | nil =>
          rw [String.intercalate_singleton]
          exact begins
      | cons next rest =>
          rw [String.intercalate_cons_cons]
          exact whole_append (whole_append begins (whole_of_not_mem (by decide))) goesOn

/-- **A condition that is merged of whole keys is whole.** -/
theorem whole_merge {active : Option String} {key merged : String}
    (hactive : ∀ c, active = some c → Whole c.toList) (hkey : Whole key.toList)
    (hmerge : merge active key = .ok merged) : Whole merged.toList := by
  cases active with
  | none =>
      obtain rfl := Except.ok.inj hmerge
      exact hkey
  | some outerKey =>
      obtain ⟨outer, inner, houter, hinner, -, rfl⟩ := merge_some_eq_ok_iff.mp hmerge
      obtain ⟨-, outside⟩ := AtRule.whole_parse? (hactive outerKey rfl) houter
      obtain ⟨name, inside⟩ := AtRule.whole_parse? hkey hinner
      refine AtRule.whole_key name (whole_conjunction ?_)
      intro c hc
      rw [List.mem_cons, List.mem_singleton] at hc
      rcases hc with rfl | rfl
      · exact outside
      · exact inside

end Condition

end Stylesheet
