/-
  Stylesheet.Text.Newline
  ───────────────────────
  **LINE ENDS.**

  A carriage return, alone or before a line feed, ends a line as a line
  feed does.

  Main statement: `unify_eq_self`, a text without carriage returns stays
  as it is.
-/

namespace Stylesheet.Text.Newline

/-- A text in which every line ends with a line feed. -/
def unify : List Char → List Char
  | '\r' :: '\n' :: rest => '\n' :: unify rest
  | '\r' :: rest => '\n' :: unify rest
  | c :: rest => c :: unify rest
  | [] => []

/-- **A text without carriage returns stays as it is.** -/
theorem unify_eq_self {s : List Char} (h : '\r' ∉ s) : unify s = s := by
  fun_induction unify s with
  | case1 => simp at h
  | case2 => simp at h
  | case3 c rest _ _ ih => rw [ih fun m => h (List.mem_cons_of_mem _ m)]
  | case4 => rfl

end Stylesheet.Text.Newline
