/-
  Stylesheet.Text.Half
  ────────────────────
  **HALVES OF PAIRS INSIDE TEXTS.**

  A document can write a character as a pair of numbers.  Half of a pair
  alone is no character and has no bytes, but the texts of a style tree can
  hold it all the same.  Texts are lists of characters here, so that a half
  is kept as two of them: the last of all characters, and the half moved up
  to where there are characters.  The last character itself stands twice;
  every other one stands for itself.

  Where a text is counted, shown or turned into bytes it is taken apart into
  its points.  Everywhere else a point is as good as its characters, none of
  which is a blank, a letter or a digit.

  Main statements: `decoded?_coded` and `coded_of_decoded?`, the texts that
  have no halves are those kept for characters alone.
-/
import Stylesheet.Text.Hex

namespace Stylesheet.Text

/-! ## §1. Points. -/

/-- What a text is made of. -/
inductive Point where
  /-- A character. -/
  | character (c : Char)
  /-- Half of a pair, by its number. -/
  | half (code : Nat)
  deriving Repr, DecidableEq

/-- The character that begins a half, and stands twice for itself. -/
def halfMark : Char := Char.ofNat 0x10ffff

namespace Point

/-- The characters that a point is kept as. -/
def coded : Point → List Char
  | character c => if c = halfMark then [c, c] else [c]
  | half code => [halfMark, Char.ofNat (code + 0x800)]

/-- The character that a point is. -/
def character? : Point → Option Char
  | character c => some c
  | half _ => none

/-- A point as a stream shows it that takes no halves: by its number. -/
def escaped : Point → List Char
  | character c => [c]
  | half code => '\\' :: 'u' :: hex 4 code

end Point

/-- The points of a text. -/
def points : List Char → List Point
  | [] => []
  | [c] => [if c = halfMark then .half 0 else .character c]
  | c :: d :: rest =>
      if c = halfMark then
        (if d = halfMark then .character d else .half (d.toNat - 0x800)) :: points rest
      else .character c :: points (d :: rest)

/-! ## §2. Texts of characters alone. -/

/-- The text that is kept for characters. -/
def coded (s : List Char) : List Char :=
  s.flatMap fun c => (Point.character c).coded

/-- The characters that a text is kept for, if there are no halves. -/
def decoded? (s : List Char) : Option (List Char) :=
  (points s).mapM Point.character?

/-- A text in which halves are shown by their numbers. -/
def withoutHalves (s : String) : String :=
  String.ofList ((points s.toList).flatMap Point.escaped)

/-! ## §3. Laws. -/

theorem points_cons {c : Char} (hc : c ≠ halfMark) (rest : List Char) :
    points (c :: rest) = .character c :: points rest := by
  cases rest with
  | nil => simp [points, hc]
  | cons d rest => rw [points, if_neg hc]

theorem points_mark (rest : List Char) :
    points (halfMark :: halfMark :: rest) = .character halfMark :: points rest := by
  rw [points, if_pos rfl, if_pos rfl]

theorem coded_cons (c : Char) (rest : List Char) :
    coded (c :: rest) = (Point.character c).coded ++ coded rest :=
  List.flatMap_cons

theorem coded_character {c : Char} (hc : c ≠ halfMark) : (Point.character c).coded = [c] :=
  if_neg hc

theorem points_coded (s : List Char) : points (coded s) = s.map .character := by
  induction s with
  | nil => rfl
  | cons c rest ih =>
      rw [coded_cons, List.map_cons, ← ih]
      by_cases hc : c = halfMark
      · subst hc
        exact points_mark (coded rest)
      · rw [coded_character hc]
        exact points_cons hc (coded rest)

/-- **Characters are found again in the text that is kept for them.** -/
theorem decoded?_coded (s : List Char) : decoded? (coded s) = some s := by
  rw [decoded?, points_coded, List.mapM_map]
  induction s with
  | nil => rfl
  | cons c rest ih =>
      rw [List.mapM_cons, ih]
      rfl

/-- A text has characters alone when its first point and the rest have. -/
theorem mapM_points_cons {point : Point} {rest : List Point} {t : List Char}
    (h : (point :: rest).mapM Point.character? = some t) :
    ∃ c u, point = .character c ∧ rest.mapM Point.character? = some u ∧ t = c :: u := by
  rw [List.mapM_cons] at h
  cases point with
  | half code => exact nomatch h
  | character c =>
      cases hrest : rest.mapM Point.character? with
      | none =>
          rw [hrest] at h
          exact nomatch h
      | some u =>
          rw [hrest] at h
          exact ⟨c, u, rfl, rfl, (Option.some.inj h).symm⟩

/-- **Only that text is kept for them.** -/
theorem coded_of_decoded? {s t : List Char} (h : decoded? s = some t) : coded t = s := by
  unfold decoded? at h
  fun_induction points s generalizing t with
  | case1 =>
      obtain rfl := Option.some.inj h
      rfl
  | case2 c =>
      obtain ⟨e, u, hpoint, hrest, rfl⟩ := mapM_points_cons h
      obtain rfl := Option.some.inj hrest
      split at hpoint
      · cases hpoint
      · next hc =>
          obtain rfl := Point.character.inj hpoint
          rw [coded_cons, coded_character hc]
          rfl
  | case3 d rest ih =>
      -- behind a mark, a second mark makes a character and all else a half
      obtain ⟨e, u, hpoint, hrest, rfl⟩ := mapM_points_cons h
      split at hpoint
      · next hd =>
          obtain rfl := Point.character.inj hpoint
          subst hd
          rw [coded_cons, ih hrest]
          rfl
      · cases hpoint
  | case4 c d rest hc ih =>
      obtain ⟨e, u, hpoint, hrest, rfl⟩ := mapM_points_cons h
      obtain rfl := Point.character.inj hpoint
      rw [coded_cons, coded_character hc, ih hrest]
      rfl

end Stylesheet.Text
