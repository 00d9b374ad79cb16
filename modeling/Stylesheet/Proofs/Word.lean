/-
  Stylesheet.Proofs.Word
  ──────────────────────
  **THE WORDS OF A DOCUMENT ARE READ BACK.**

  A string or an integer that is written is the first word that is found in
  what was written, whatever follows it.  Behind an integer no digit may
  follow, and nothing that begins a fraction or an exponent, and its digits
  must not be too many; a string has an end of its own.

  Main statements:
    * `hexNumber?_hex` — hexadecimal digits are read back;
    * `stringCodes_escaped`, `begins_writeString` — so are strings;
    * `wholePart?_toDigits`, `begins_toString` — and integers.
-/
import Mathlib.Algebra.Group.Nat.Defs
import Stylesheet.Json.Token
import Stylesheet.Json.Writer
import Stylesheet.Text.Trim

namespace Stylesheet

/-! ## §1. Hexadecimal digits. -/

/-- **Hexadecimal digits are read back**, if they are enough. -/
theorem Text.hexNumber?_hex (width : Nat) {n : Nat} (h : n < 16 ^ width) :
    hexNumber? (hex width n) = some n := by
  induction width generalizing n with
  | zero =>
      obtain rfl : n = 0 := by simpa using h
      rfl
  | succ width ih =>
      have front : n / 16 < 16 ^ width := by
        rw [Nat.pow_succ] at h
        omega
      have last := hexValue?_digitChar (n % 16) (Nat.mod_lt n (by decide))
      have before := ih front
      rw [hexNumber?] at before
      rw [hex, hexNumber?, List.foldlM_append, before, Option.bind_eq_bind, Option.bind_some,
        List.foldlM_cons, last]
      show some (16 * (n / 16) + n % 16) = some n
      rw [Nat.div_add_mod]

namespace Json

/-! ## §2. Strings. -/

/-- **A character inside a string is read back.**  Something has to follow it,
which the closing quote does. -/
theorem stringCodes_escaped (opening : List Char) (c : Char) {rest : List Char}
    (hrest : rest ≠ []) :
    stringCodes opening (escaped c ++ rest) = pushCode c.toNat <$> stringCodes opening rest := by
  obtain ⟨next, more, rfl⟩ := List.exists_cons_of_ne_nil hrest
  unfold escaped
  split
  case h_1 | h_2 | h_3 | h_4 | h_5 | h_6 | h_7 => rfl
  case h_8 hquote hbackslash _ _ _ _ _ =>
    split
    · next control =>
        -- a control character without a letter of its own has two digits
        have digits := Text.hexNumber?_hex 4 (n := c.toNat) (by omega)
        rw [Text.hex, Text.hex, Text.hex, Text.hex, Text.hex] at digits ⊢
        simp only [List.nil_append, List.cons_append] at digits ⊢
        rw [stringCodes, digits]
    · next visible =>
        -- neither the closing quote nor the start of an escape
        rw [List.singleton_append, stringCodes, if_neg visible]
        · exact hquote
        all_goals
          intros
          exact hbackslash ‹_›

/-- The characters of a string are read back up to its closing quote. -/
theorem stringCodes_flatMap (opening s rest : List Char) :
    stringCodes opening (s.flatMap escaped ++ '"' :: rest) = .ok (s.map Char.toNat, rest) := by
  induction s with
  | nil => rfl
  | cons c s ih =>
      have follows : s.flatMap escaped ++ '"' :: rest ≠ [] := by simp
      rw [List.flatMap_cons, List.append_assoc, stringCodes_escaped opening c follows, ih]
      rfl

/-- A character is no half of a pair. -/
theorem not_isHighSurrogate (c : Char) : isHighSurrogate c.toNat = false := by
  have valid : c.toNat < 0xd800 ∨ 0xdfff < c.toNat ∧ c.toNat < 0x110000 := c.valid
  simp only [isHighSurrogate, Bool.and_eq_false_iff, decide_eq_false_iff_not]
  omega

theorem charsOfCode_toNat (c : Char) : charsOfCode c.toNat = [c] := by
  have valid : c.toNat < 0xd800 ∨ 0xdfff < c.toNat ∧ c.toNat < 0x110000 := c.valid
  have second : isLowSurrogate c.toNat = false := by
    simp only [isLowSurrogate, Bool.and_eq_false_iff, decide_eq_false_iff_not]
    omega
  rw [charsOfCode, not_isHighSurrogate, second]
  exact congrArg ([·]) (Char.ofNat_toNat c)

/-- The codes of characters make the same characters again. -/
theorem joinCodes_map_toNat (s : List Char) : joinCodes (s.map Char.toNat) = s := by
  induction s with
  | nil => rfl
  | cons c rest ih =>
      cases rest with
      | nil => exact charsOfCode_toNat c
      | cons d rest =>
          show (if isHighSurrogate c.toNat && isLowSurrogate d.toNat then _
            else charsOfCode c.toNat ++ joinCodes ((d :: rest).map Char.toNat)) = _
          rw [not_isHighSurrogate, ih, charsOfCode_toNat]
          rfl

/-! ## §3. Integers. -/

/-- What can follow a number: no digit, and nothing that begins a fraction or
an exponent. -/
def EndsNumber (rest : List Char) : Prop :=
  ∀ c ∈ rest.head?, c.isDigit = false ∧ c ≠ '.' ∧ c ≠ 'e' ∧ c ≠ 'E'

/-- The digits of a number that is not zero begin with no zero. -/
theorem exists_toDigits_eq_cons {n : Nat} (hn : n ≠ 0) :
    ∃ c rest, Nat.toDigits 10 n = c :: rest ∧ c ≠ '0' := by
  induction n using Nat.strongRecOn with
  | ind n ih =>
      by_cases small : n < 10
      · refine ⟨n.digitChar, [], Nat.toDigits_of_lt_base small, ?_⟩
        intro zero
        exact hn (Nat.digitChar_eq_zero.mp zero)
      · obtain ⟨c, rest, hfront, hc⟩ := ih (n / 10) (by omega) (by omega)
        refine ⟨c, rest ++ [(n % 10).digitChar], ?_, hc⟩
        rw [Nat.toDigits_of_base_le (by decide) (by omega), hfront]
        rfl

/-- The digits of a number are its whole part. -/
theorem wholePart?_toDigits (n : Nat) {rest : List Char} (hrest : EndsNumber rest) :
    wholePart? (Nat.toDigits 10 n ++ rest) = some (Nat.toDigits 10 n, rest) := by
  by_cases hn : n = 0
  · subst hn
    rfl
  obtain ⟨c, more, hdigits, hc⟩ := exists_toDigits_eq_cons hn
  have digit : ∀ d ∈ c :: more, d.isDigit = true := by
    intro d hd
    exact Nat.isDigit_of_mem_toDigits (by decide) (by decide) (hdigits ▸ hd)
  have tail : ∀ d ∈ more, d.isDigit = true := fun d hd => digit d (List.mem_cons_of_mem c hd)
  -- the digits end where the rest begins
  have ends : ∀ d ∈ rest.head?, d.isDigit = false := fun d hd => (hrest d hd).1
  rw [hdigits, List.cons_append, wholePart?, if_pos (digit c List.mem_cons_self),
    Text.takeWhile_append_stop tail ends, Text.dropWhile_append_stop tail ends]
  exact hc

theorem fractionPart_of_endsNumber {rest : List Char} (h : EndsNumber rest) :
    fractionPart rest = ([], rest) := by
  unfold fractionPart
  split
  · exact absurd rfl (h '.' rfl).2.1
  · rfl

theorem exponentPart_of_endsNumber {rest : List Char} (h : EndsNumber rest) :
    exponentPart rest = (none, rest) := by
  cases rest with
  | nil => rfl
  | cons c rest =>
      obtain ⟨-, -, he, hE⟩ := h c rfl
      simp [exponentPart, he, hE]

theorem digitsValue_toDigits (n : Nat) : Decimal.digitsValue (Nat.toDigits 10 n) = n :=
  Nat.ofDigitChars_ten_toDigits

/-- Digits are read back as a number with a sign, if they are not too
many. -/
theorem unsigned?_toDigits (negative : Bool) {n : Nat}
    (short : (Nat.toDigits 10 n).length ≤ maxDigits) {rest : List Char}
    (hrest : EndsNumber rest) :
    unsigned? negative (Nat.toDigits 10 n ++ rest)
      = some (.scalar (.scalar (.int (if negative then -(n : Int) else n))), rest) := by
  rw [unsigned?, wholePart?_toDigits n hrest]
  simp only [fractionPart_of_endsNumber hrest, exponentPart_of_endsNumber hrest, integerWord,
    if_pos short, Decimal.signedValue, digitsValue_toDigits]
  rfl

/-- A digit is no character that is none. -/
theorem ne_of_isDigit {c d : Char} (hc : c.isDigit = true) (hd : d.isDigit = false) : d ≠ c := by
  intro same
  rw [same, hc] at hd
  cases hd

/-- The text of an integer is a digit and more, behind a minus if the integer
is negative. -/
theorem toString_int_cases (n : Int) :
    ∃ c more, c.isDigit = true ∧ Nat.toDigits 10 n.natAbs = c :: more
      ∧ (0 ≤ n ∧ (toString n).toList = c :: more
        ∨ n < 0 ∧ (toString n).toList = '-' :: c :: more) := by
  obtain ⟨c, more, hdigits⟩ :=
    List.exists_cons_of_ne_nil (Nat.toDigits_ne_nil (n := n.natAbs) (b := 10))
  have digit : c.isDigit = true :=
    Nat.isDigit_of_mem_toDigits (by decide) (by decide) (hdigits ▸ List.mem_cons_self)
  refine ⟨c, more, digit, hdigits, ?_⟩
  rw [Text.toList_toString_int, hdigits]
  by_cases negative : n < 0
  · exact Or.inr ⟨negative, by rw [if_pos negative]; rfl⟩
  · exact Or.inl ⟨Int.not_lt.mp negative, by rw [if_neg negative]; rfl⟩

/-- An integer is no literal. -/
theorem literal?_toString (n : Int) (rest : List Char) :
    literal? ((toString n).toList ++ rest) = none := by
  obtain ⟨c, more, digit, -, ⟨-, htext⟩ | ⟨-, htext⟩⟩ := toString_int_cases n
  · have other : ∀ d : Char, d.isDigit = false → d ≠ c := fun _ => ne_of_isDigit digit
    rw [htext, List.cons_append]
    simp [literal?, literals, after?, other 'n' rfl, other 't' rfl, other 'f' rfl, other 'N' rfl,
      other 'I' rfl, other '-' rfl]
  · have other : 'I' ≠ c := ne_of_isDigit digit rfl
    rw [htext, List.cons_append, List.cons_append]
    simp [literal?, literals, after?, other]

/-- **An integer is read back as a number.** -/
theorem number?_toString {n : Int} (writable : (Scalar.int n).isWritable = true)
    {rest : List Char} (hrest : EndsNumber rest) :
    number? ((toString n).toList ++ rest) = some (.scalar (.scalar (.int n)), rest) := by
  have short : (Nat.toDigits 10 n.natAbs).length ≤ maxDigits := of_decide_eq_true writable
  obtain ⟨c, more, digit, hdigits, ⟨sign, htext⟩ | ⟨sign, htext⟩⟩ := toString_int_cases n
  · have value : (n.natAbs : Int) = n := by omega
    have number := unsigned?_toDigits false short hrest
    rw [if_neg Bool.false_ne_true, value, hdigits] at number
    rw [htext, List.cons_append, number?]
    · exact number
    · intro tail minus
      exact ne_of_isDigit digit (d := '-') rfl (List.cons.inj minus).1.symm
  · have value : -(n.natAbs : Int) = n := by omega
    have number := unsigned?_toDigits true short hrest
    rw [if_pos rfl, value, hdigits] at number
    rw [htext]
    exact number

/-! ## §4. Words. -/

/-- A text begins with a word, and `rest` follows. -/
def Begins (s : List Char) (token : Token) (rest : List Char) : Prop :=
  ∃ c more, s = c :: more ∧ isSpace c = false ∧ scan c more = (token, rest)

theorem begins_mark {c : Char} (h : c ∈ ['\x7b', '\x7d', '[', ']', ',', ':']) (rest : List Char) :
    Begins (c :: rest) (.mark c) rest := by
  refine ⟨c, rest, rfl, ?_, ?_⟩
  · have visible : (['\x7b', '\x7d', '[', ']', ',', ':'].all fun d => !isSpace d) = true := by decide
    simpa using List.all_eq_true.mp visible c h
  · rw [scan, if_pos h]

/-- **A string is read back.** -/
theorem begins_writeString (s : String) (rest : List Char) :
    Begins (writeString s ++ rest) (.string s) rest := by
  refine ⟨'"', s.toList.flatMap escaped ++ '"' :: rest, by simp [writeString], by decide, ?_⟩
  have mark : ('"' : Char) ∉ ['\x7b', '\x7d', '[', ']', ',', ':'] := by decide
  rw [scan, if_neg mark, if_pos rfl, stringCodes_flatMap]
  show (Token.string (String.ofList (joinCodes (s.toList.map Char.toNat))), rest) = _
  rw [joinCodes_map_toNat, String.ofList_toList]

/-- **An integer is read back.** -/
theorem begins_toString {n : Int} (writable : (Scalar.int n).isWritable = true)
    {rest : List Char} (hrest : EndsNumber rest) :
    Begins ((toString n).toList ++ rest) (.scalar (.scalar (.int n))) rest := by
  have literal := literal?_toString n rest
  have number := number?_toString writable hrest
  have ⟨c, more, htext, first⟩ : ∃ c more, (toString n).toList = c :: more
      ∧ (c.isDigit = true ∨ c = '-') := by
    obtain ⟨c, more, digit, -, ⟨-, htext⟩ | ⟨-, htext⟩⟩ := toString_int_cases n
    · exact ⟨c, more, htext, Or.inl digit⟩
    · exact ⟨'-', c :: more, htext, Or.inr rfl⟩
  rw [htext, List.cons_append] at literal number ⊢
  have other : ∀ d : Char, d.isDigit = false → d ≠ '-' → c ≠ d := by
    intro d hd hminus same
    rcases first with digit | minus
    · exact ne_of_isDigit digit hd same.symm
    · exact hminus (same.symm.trans minus)
  refine ⟨c, more ++ rest, rfl, ?_, ?_⟩
  · simp [isSpace, other ' ' rfl (by decide), other '\t' rfl (by decide),
      other '\n' rfl (by decide), other '\r' rfl (by decide)]
  · have mark : c ∉ ['\x7b', '\x7d', '[', ']', ',', ':'] := by
      intro h
      have noFirst : (['\x7b', '\x7d', '[', ']', ',', ':'].all fun d =>
          d.isDigit = false && d ≠ '-') = true := by
        decide
      obtain ⟨digit, sign⟩ := Bool.and_eq_true_iff.mp (List.all_eq_true.mp noFirst c h)
      exact other c (of_decide_eq_true digit) (of_decide_eq_true sign) rfl
    rw [scan, if_neg mark, if_neg (other '"' rfl (by decide)), literal]
    simp only [number]

theorem begins_null (rest : List Char) :
    Begins ("null".toList ++ rest) (.scalar .null) rest :=
  ⟨'n', _, rfl, rfl, rfl⟩

theorem begins_bool (b : Bool) (rest : List Char) :
    Begins ((if b then "true".toList else "false".toList) ++ rest) (.scalar (.bool b)) rest := by
  cases b
  · exact ⟨'f', _, rfl, rfl, rfl⟩
  · exact ⟨'t', _, rfl, rfl, rfl⟩

end Json

end Stylesheet
