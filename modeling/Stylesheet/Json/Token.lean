/-
  Stylesheet.Json.Token
  ─────────────────────
  **THE WORDS OF A JSON DOCUMENT.**

  A document is cut into words: brackets, commas and colons, strings, and
  scalars.  Every word keeps the text from its first character on, which is
  its place.  A text that cannot be cut any further ends in a word that says
  why; whether that is the mistake to report is for the reader to say, who
  may have expected something else at that place.

  Main statement: `length_scan_lt`, a word takes at least one character.
-/
import Stylesheet.Decimal.Reading
import Stylesheet.Text.Integer
import Stylesheet.Value

namespace Stylesheet.Json

/-! ## §1. Mistakes. -/

/-- What can be wrong with a document. -/
inductive Mistake where
  /-- No value where one has to start. -/
  | value
  /-- No property name where one has to start. -/
  | propertyName
  /-- No colon behind a property name. -/
  | colon
  /-- No comma behind an item. -/
  | comma
  /-- Something behind the document. -/
  | extraData
  /-- A string without an end. -/
  | unterminatedString
  /-- A control character inside a string. -/
  | controlCharacter
  /-- An escape that does not exist. -/
  | escape
  /-- A numeric escape without its four digits. -/
  | unicodeEscape
  /-- A byte order mark before the document. -/
  | byteOrderMark
  /-- An integer with so many digits that it is not read. -/
  | tooManyDigits (digits : Nat)
  deriving Repr, DecidableEq

/-- The wording of a mistake. -/
def Mistake.message : Mistake → String
  | .value => "Expecting value"
  | .propertyName => "Expecting property name enclosed in double quotes"
  | .colon => "Expecting ':' delimiter"
  | .comma => "Expecting ',' delimiter"
  | .extraData => "Extra data"
  | .unterminatedString => "Unterminated string starting at"
  | .controlCharacter => "Invalid control character at"
  | .escape => "Invalid \\escape"
  | .unicodeEscape => "Invalid \\uXXXX escape"
  | .byteOrderMark => "Unexpected UTF-8 BOM (decode using utf-8-sig)"
  | .tooManyDigits digits => Text.tooManyDigits (": value has " ++ toString digits ++ " digits")

/-- A mistake and the text from its place on. -/
structure Problem where
  /-- What is wrong. -/
  mistake : Mistake
  /-- The text from the place of the mistake to the end. -/
  text : List Char
  deriving Repr, DecidableEq

/-! ## §2. Strings. -/

/-- The character that a letter behind a backslash stands for. -/
def shortEscape? : Char → Option Char
  | '"' => some '"'
  | '\\' => some '\\'
  | '/' => some '/'
  | 'b' => some '\x08'
  | 'f' => some '\x0c'
  | 'n' => some '\n'
  | 'r' => some '\r'
  | 't' => some '\t'
  | _ => none

/-- Add a code to the codes of the rest of a string. -/
def pushCode (code : Nat) (rest : List Nat × List Char) : List Nat × List Char :=
  (code :: rest.1, rest.2)

/-- The codes of a string up to its closing quote, and what follows it; the
text from the opening quote on is `opening`.  A numeric escape is never the
last thing of a document, so a character has to follow its digits. -/
def stringCodes (opening : List Char) : List Char → Except Problem (List Nat × List Char)
  | [] => .error ⟨.unterminatedString, opening⟩
  | '"' :: rest => .ok ([], rest)
  | ['\\'] => .error ⟨.unterminatedString, opening⟩
  | '\\' :: 'u' :: a :: b :: c :: d :: next :: rest =>
      match Text.hexNumber? [a, b, c, d] with
      | some code => pushCode code <$> stringCodes opening (next :: rest)
      | none => .error ⟨.unicodeEscape, 'u' :: a :: b :: c :: d :: next :: rest⟩
  | '\\' :: 'u' :: rest => .error ⟨.unicodeEscape, 'u' :: rest⟩
  | '\\' :: c :: rest =>
      match shortEscape? c with
      | some character => pushCode character.toNat <$> stringCodes opening rest
      | none => .error ⟨.escape, '\\' :: c :: rest⟩
  | c :: rest =>
      if c.toNat < 0x20 then .error ⟨.controlCharacter, c :: rest⟩
      else pushCode c.toNat <$> stringCodes opening rest

/-- Whether a code is the first half of a pair. -/
def isHighSurrogate (code : Nat) : Bool := 0xd800 ≤ code && code < 0xdc00

/-- Whether a code is the second half of a pair. -/
def isLowSurrogate (code : Nat) : Bool := 0xdc00 ≤ code && code < 0xe000

/-- What is kept for a code that is not joined with another. -/
def charsOfCode (code : Nat) : List Char :=
  if isHighSurrogate code || isLowSurrogate code then (Text.Point.half code).coded
  else [Char.ofNat code]

/-- The text with the given codes, two halves of a pair making one
character. -/
def joinCodes : List Nat → List Char
  | [] => []
  | [code] => charsOfCode code
  | high :: low :: rest =>
      if isHighSurrogate high && isLowSurrogate low then
        let code := 0x10000 + (high - 0xd800) * 0x400 + (low - 0xdc00)
        (Text.Point.character (Char.ofNat code)).coded ++ joinCodes rest
      else charsOfCode high ++ joinCodes (low :: rest)

/-! ## §3. Words and numbers. -/

/-- A word of a document. -/
inductive Token where
  /-- A bracket, a comma or a colon. -/
  | mark (c : Char)
  /-- A string. -/
  | string (s : String)
  /-- A number or one of the words that stand for values. -/
  | scalar (value : Value)
  /-- An integer with so many digits that it is not read. -/
  | longInteger (digits : Nat)
  /-- A string that breaks off. -/
  | broken (problem : Problem)
  /-- A text that begins with no word. -/
  | unknown

/-- The digits before the point and what follows them; a zero stands
alone. -/
def wholePart? : List Char → Option (List Char × List Char)
  | '0' :: rest => some (['0'], rest)
  | c :: rest =>
      if c.isDigit then some (c :: rest.takeWhile Char.isDigit, rest.dropWhile Char.isDigit)
      else none
  | [] => none

/-- The digits behind the point, if there are any, and what follows them. -/
def fractionPart (s : List Char) : List Char × List Char :=
  match s with
  | '.' :: rest =>
      let digits := rest.takeWhile Char.isDigit
      if digits.isEmpty then ([], s) else (digits, rest.dropWhile Char.isDigit)
  | _ => ([], s)

/-- The exponent, if there is one, and what follows it. -/
def exponentPart (s : List Char) : Option Int × List Char :=
  match s with
  | c :: rest =>
      let (negative, rest) := Decimal.takeSign rest
      let digits := rest.takeWhile Char.isDigit
      if (c = 'e' ∨ c = 'E') ∧ !digits.isEmpty then
        (some (Decimal.signedValue negative digits), rest.dropWhile Char.isDigit)
      else (none, s)
  | [] => (none, s)

/-- The word that the digits of an integer make. -/
def integerWord (negative : Bool) (digits : List Char) : Token :=
  if digits.length ≤ maxDigits then .scalar (.scalar (.int (Decimal.signedValue negative digits)))
  else .longInteger digits.length

/-- The number behind a sign. -/
def unsigned? (negative : Bool) (s : List Char) : Option (Token × List Char) :=
  match wholePart? s with
  | none => none
  | some (whole, afterWhole) =>
      let (fraction, afterFraction) := fractionPart afterWhole
      let (exponent, rest) := exponentPart afterFraction
      if fraction.isEmpty && exponent.isNone then
        some (integerWord negative whole, rest)
      else
        some (.scalar (.scalar (.float (Decimal.toDouble negative
          (Decimal.digitsValue (whole ++ fraction)) (exponent.getD 0 - fraction.length)))), rest)

/-- The number that a text begins with, and what follows it. -/
def number? : List Char → Option (Token × List Char)
  | '-' :: rest => unsigned? true rest
  | s => unsigned? false s

/-! ## §4. The next word. -/

/-- Whether a character may stand between words. -/
def isSpace (c : Char) : Bool :=
  c = ' ' || c = '\t' || c = '\n' || c = '\r'

/-- The words that stand for values. -/
def literals : List (List Char × Value) :=
  [("null".toList, .null), ("true".toList, .bool true), ("false".toList, .bool false),
   ("NaN".toList, .scalar (.float (0.0 / 0.0))),
   ("Infinity".toList, .scalar (.float (1.0 / 0.0))),
   ("-Infinity".toList, .scalar (.float (-1.0 / 0.0)))]

/-- What follows a word that a text begins with. -/
def after? : (word : List Char) → List Char → Option (List Char)
  | [], s => some s
  | _ :: _, [] => none
  | w :: word, c :: s => if w = c then after? word s else none

/-- The literal that a text begins with, and what follows it. -/
def literal? (s : List Char) : Option (Value × List Char) :=
  literals.findSome? fun (word, value) => (after? word s).map (value, ·)

/-- The word that a text begins with, and what follows it. -/
def scan (c : Char) (rest : List Char) : Token × List Char :=
  if c ∈ ['\x7b', '\x7d', '[', ']', ',', ':'] then (.mark c, rest)
  else if c = '"' then
    match stringCodes (c :: rest) rest with
    | .ok (codes, rest) => (.string (String.ofList (joinCodes codes)), rest)
    | .error problem => (.broken problem, [])
  else
    match literal? (c :: rest) with
    | some (value, rest) => (.scalar value, rest)
    | none =>
        match number? (c :: rest) with
        | some (word, rest) => (word, rest)
        | none => (.unknown, [])

/-! ## §5. A word takes at least one character. -/

theorem exists_of_pushCode {code : Nat} {codes : List Nat} {rest : List Char}
    {x : Except Problem (List Nat × List Char)} (h : pushCode code <$> x = .ok (codes, rest)) :
    ∃ codes', x = .ok (codes', rest) := by
  cases x with
  | error problem => exact nomatch h
  | ok pair => exact ⟨pair.1, congrArg Except.ok (Prod.ext rfl (Prod.mk.inj (Except.ok.inj h)).2)⟩

theorem length_stringCodes {opening s rest : List Char} {codes : List Nat}
    (h : stringCodes opening s = .ok (codes, rest)) : rest.length < s.length := by
  fun_induction stringCodes opening s generalizing codes with
  | case1 => simp at h
  | case2 => simp_all
  | case3 => simp at h
  | case4 =>
    rename_i ih
    obtain ⟨_, found⟩ := exists_of_pushCode h
    have := ih found
    simp only [List.length_cons] at this ⊢
    omega
  | case5 => simp at h
  | case6 => simp at h
  | case7 =>
    rename_i ih
    obtain ⟨_, found⟩ := exists_of_pushCode h
    have := ih found
    simp only [List.length_cons] at this ⊢
    omega
  | case8 => simp at h
  | case9 => simp at h
  | case10 =>
    rename_i ih
    obtain ⟨_, found⟩ := exists_of_pushCode h
    have := ih found
    simp only [List.length_cons] at this ⊢
    omega

theorem length_dropWhile_le (p : Char → Bool) (s : List Char) :
    (s.dropWhile p).length ≤ s.length :=
  (List.dropWhile_sublist p).length_le

theorem length_wholePart? {s digits rest : List Char} (h : wholePart? s = some (digits, rest)) :
    rest.length < s.length := by
  unfold wholePart? at h
  split at h
  · obtain ⟨-, rfl⟩ := Prod.mk.inj (Option.some.inj h)
    simp
  · rename_i c tail _
    split at h
    · obtain ⟨-, rfl⟩ := Prod.mk.inj (Option.some.inj h)
      have := length_dropWhile_le Char.isDigit tail
      simp only [List.length_cons]
      omega
    · simp at h
  · simp at h

theorem length_fractionPart (s : List Char) : (fractionPart s).2.length ≤ s.length := by
  unfold fractionPart
  split
  · rename_i tail
    dsimp only
    split
    · exact Nat.le_refl _
    · exact Nat.le_succ_of_le (length_dropWhile_le Char.isDigit tail)
  · exact Nat.le_refl _

theorem length_takeSign (s : List Char) : (Decimal.takeSign s).2.length ≤ s.length := by
  unfold Decimal.takeSign
  split <;> simp

theorem length_exponentPart (s : List Char) : (exponentPart s).2.length ≤ s.length := by
  unfold exponentPart
  split
  · rename_i c tail
    dsimp only
    split
    · exact Nat.le_succ_of_le
        (Nat.le_trans (length_dropWhile_le Char.isDigit _) (length_takeSign tail))
    · exact Nat.le_refl _
  · exact Nat.le_refl _

theorem length_unsigned? {negative : Bool} {s rest : List Char} {word : Token}
    (h : unsigned? negative s = some (word, rest)) : rest.length < s.length := by
  unfold unsigned? at h
  split at h
  · simp at h
  · rename_i whole afterWhole found
    have whole_lt := length_wholePart? found
    have fraction_le := length_fractionPart afterWhole
    have exponent_le := length_exponentPart (fractionPart afterWhole).2
    have rest_eq : (exponentPart (fractionPart afterWhole).2).2 = rest := by
      dsimp only at h
      split at h <;> exact (Prod.mk.inj (Option.some.inj h)).2
    rw [rest_eq] at exponent_le
    omega

theorem length_number? {s rest : List Char} {word : Token}
    (h : number? s = some (word, rest)) : rest.length < s.length := by
  unfold number? at h
  split at h
  · exact Nat.lt_succ_of_lt (length_unsigned? h)
  · exact length_unsigned? h

theorem length_after? {word s rest : List Char} (h : after? word s = some rest) :
    rest.length + word.length = s.length := by
  induction word generalizing s with
  | nil => simp_all [after?]
  | cons w word ih =>
    cases s with
    | nil => simp [after?] at h
    | cons c s =>
      rw [after?] at h
      split at h
      · have := ih h
        simp only [List.length_cons]
        omega
      · simp at h

theorem length_literal? {s rest : List Char} {value : Value}
    (h : literal? s = some (value, rest)) : rest.length < s.length := by
  obtain ⟨⟨word, value'⟩, mem, found⟩ := List.exists_of_findSome?_eq_some h
  obtain ⟨rest', after, e⟩ := Option.map_eq_some_iff.mp found
  have := length_after? after
  have positive : ∀ e ∈ literals, 0 < e.1.length := by
    simp [literals]
  have := positive _ mem
  cases e
  dsimp only at *
  omega

/-- **A word takes at least one character.** -/
theorem length_scan_lt (c : Char) (rest : List Char) :
    (scan c rest).2.length < (c :: rest).length := by
  unfold scan
  split
  · simp
  · split
    · split
      · rename_i codes tail found
        exact Nat.lt_succ_of_lt (length_stringCodes found)
      · simp
    · split
      · exact length_literal? ‹_›
      · split
        · exact length_number? ‹_›
        · simp

/-! ## §6. All words. -/

/-- A word and the text from its first character on. -/
structure Lexeme where
  /-- The word. -/
  token : Token
  /-- The text from the word on. -/
  text : List Char

/-- The words of a text. -/
def lexemes : List Char → List Lexeme
  | [] => []
  | c :: rest =>
      if isSpace c then lexemes rest
      else ⟨(scan c rest).1, c :: rest⟩ :: lexemes (scan c rest).2
termination_by s => s.length
decreasing_by
  · simp
  · exact length_scan_lt c rest

end Stylesheet.Json
