/-
  Stylesheet.Text.Ansi
  ────────────────────
  **TERMINAL SEQUENCES.**

  Text that goes to a stream which is no terminal loses its terminal
  sequences: an escape character and an opening bracket, any number of
  digits, semicolons and question marks, and one letter.

  Main statement: `plain_eq_self`, a text without the escape character
  stays as it is.
-/

namespace Stylesheet.Text.Ansi

/-- The escape character. -/
def escape : Char := '\x1b'

/-- Whether a character is a parameter of a sequence. -/
def isParameter (c : Char) : Bool :=
  c.isDigit || c = ';' || c = '?'

/-- What follows the sequence that a text begins with. -/
def afterSequence? : List Char → Option (List Char)
  | c :: '[' :: rest =>
      if c = escape then
        match rest.dropWhile isParameter with
        | letter :: tail => if letter.isAlpha then some tail else none
        | [] => none
      else none
  | _ => none

theorem length_afterSequence? {s tail : List Char} (h : afterSequence? s = some tail) :
    tail.length < s.length := by
  unfold afterSequence? at h
  split at h
  · rename_i c rest
    split at h
    · split at h
      · rename_i letter tail' found
        split at h
        · have := (List.dropWhile_sublist isParameter (l := rest)).length_le
          simp_all
          omega
        · simp at h
      · simp at h
    · simp at h
  · simp at h

/-- A text without its terminal sequences. -/
def plain : List Char → List Char
  | [] => []
  | c :: rest =>
      match _h : afterSequence? (c :: rest) with
      | some tail => plain tail
      | none => c :: plain rest
termination_by s => s.length
decreasing_by
  · exact length_afterSequence? _h
  · simp

/-- **A text without the escape character stays as it is.** -/
theorem plain_eq_self {s : List Char} (h : escape ∉ s) : plain s = s := by
  induction s with
  | nil => simp [plain]
  | cons c rest ih =>
    have hc : c ≠ escape := fun e => h (e ▸ List.mem_cons_self)
    have none_here : afterSequence? (c :: rest) = none := by
      unfold afterSequence?
      split
      · rename_i c' rest' e
        rw [if_neg]
        exact fun e' => hc ((List.cons.inj e).1.trans e')
      · rfl
    rw [plain]
    split
    · rename_i tail found
      rw [none_here] at found
      simp at found
    · rw [ih fun m => h (List.mem_cons_of_mem _ m)]

end Stylesheet.Text.Ansi
