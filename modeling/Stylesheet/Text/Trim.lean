/-
  Stylesheet.Text.Trim
  ────────────────────
  **TRIMMING.**

  Removes the blanks around a text.

  Main statements: `trimRight_append_blank`, blanks at the end make no
  difference, and `takeWhile_append_stop`, `dropWhile_append_stop`, where a
  run of characters of one kind stops.
-/
import Stylesheet.Unicode.Blank

namespace Stylesheet.Text

open Stylesheet.Unicode

/-- A text without the blanks at its end. -/
def trimRight (s : List Char) : List Char :=
  (s.reverse.dropWhile isBlank).reverse

/-- A text without the blanks at its ends. -/
def trim (s : List Char) : List Char :=
  trimRight (s.dropWhile isBlank)

/-! ## §1. Runs of characters. -/

section Runs

variable {p : Char → Bool} {run rest : List Char}

/-- A run stops where a character does not belong to it. -/
theorem takeWhile_append_stop (hrun : ∀ c ∈ run, p c = true)
    (stop : ∀ c ∈ rest.head?, p c = false) :
    (run ++ rest).takeWhile p = run := by
  have nothing : rest.takeWhile p = [] := by
    cases rest with
    | nil => rfl
    | cons c more => rw [List.takeWhile_cons, stop c rfl, if_neg Bool.false_ne_true]
  rw [List.takeWhile_append_of_pos hrun, nothing, List.append_nil]

/-- What stands behind a run. -/
theorem dropWhile_append_stop (hrun : ∀ c ∈ run, p c = true)
    (stop : ∀ c ∈ rest.head?, p c = false) :
    (run ++ rest).dropWhile p = rest := by
  rw [List.dropWhile_append_of_pos hrun]
  cases rest with
  | nil => rfl
  | cons c more => rw [List.dropWhile_cons, stop c rfl, if_neg Bool.false_ne_true]

/-- Behind the longest run stands a character that does not belong to it. -/
theorem head?_dropWhile_stop (p : Char → Bool) (s : List Char) :
    ∀ c ∈ (s.dropWhile p).head?, p c = false := by
  intro c hc
  have stop := List.head?_dropWhile_not p s
  rw [hc] at stop
  exact stop

/-- A text begins with a longest run. -/
theorem exists_run (p : Char → Bool) (s : List Char) :
    ∃ run rest, s = run ++ rest ∧ (∀ c ∈ run, p c = true) ∧ ∀ c ∈ rest.head?, p c = false :=
  ⟨s.takeWhile p, s.dropWhile p, List.takeWhile_append_dropWhile.symm,
    List.all_eq_true.mp List.all_takeWhile, head?_dropWhile_stop p s⟩

end Runs

/-! ## §2. Laws. -/

theorem trimRight_append_blank (s blanks : List Char) (h : ∀ c ∈ blanks, isBlank c = true) :
    trimRight (s ++ blanks) = trimRight s := by
  rw [trimRight, trimRight, List.reverse_append,
    List.dropWhile_append_of_pos (by simpa using h)]

end Stylesheet.Text
