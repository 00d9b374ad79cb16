/-
  Stylesheet.Proofs.KeyParts
  ──────────────────────────
  **THE GRAMMAR OF AT-RULE KEYS.**

  Without the blanks around it an at-rule key is an `@`, name characters,
  blanks, and a rest.  Each run goes as far as it can: behind the name stands
  no name character, and the rest does not begin with a blank.  That leaves
  one way to tell the parts apart, since where a run of characters of a kind
  has to stop is seen from the next character.

  Main statements:
    * `KeyParts.unique` — the parts of a key;
    * `exists_keyParts` — that there are such parts, and what the key comes
      apart as;
    * `parse?_exactly` — which keys come apart, and into what.
-/
import Stylesheet.Proofs.Merging

namespace Stylesheet.AtRule

open Stylesheet.Unicode Stylesheet.Text Stylesheet.Condition

/-! ## §1. The parts of a key. -/

/-- The parts of a key that is trimmed. -/
structure KeyParts (s name gap rest : List Char) : Prop where
  /-- They stand behind an `@`. -/
  parts : s = '@' :: (name ++ (gap ++ rest))
  /-- The name is made of name characters, -/
  name : ∀ c ∈ name, isNameChar c = true
  /-- of as many as there are. -/
  name_stops : ∀ c ∈ (gap ++ rest).head?, isNameChar c = false
  /-- The gap is made of blanks, -/
  gap : ∀ c ∈ gap, isBlank c = true
  /-- of as many as there are, since the rest has none at its ends. -/
  rest : Trimmed rest

/-- **There is one way to tell the parts of a key apart.** -/
theorem KeyParts.unique {s name gap rest name' gap' rest' : List Char}
    (h : KeyParts s name gap rest) (h' : KeyParts s name' gap' rest') :
    name = name' ∧ gap = gap' ∧ rest = rest' := by
  have body : name ++ (gap ++ rest) = name' ++ (gap' ++ rest') :=
    (List.cons.inj (h.parts.symm.trans h'.parts)).2
  obtain rfl : name = name' := by
    rw [← takeWhile_append_stop h.name h.name_stops, body,
      takeWhile_append_stop h'.name h'.name_stops]
  have behind : gap ++ rest = gap' ++ rest' := List.append_cancel_left body
  obtain rfl : gap = gap' := by
    rw [← takeWhile_append_stop h.gap h.rest.first, behind,
      takeWhile_append_stop h'.gap h'.rest.first]
  exact ⟨rfl, rfl, List.append_cancel_left behind⟩

/-- **The parts of a key that is trimmed and begins with an `@`.** -/
theorem exists_keyParts {body : List Char} (trimmed : Trimmed ('@' :: body)) :
    ∃ name gap rest, KeyParts ('@' :: body) name gap rest
      ∧ ofBody body = ⟨String.ofList (lower name), String.ofList rest⟩ := by
  obtain ⟨name, more, rfl, hname, stop⟩ := exists_run isNameChar body
  obtain ⟨gap, rest, rfl, hgap, first⟩ := exists_run isBlank more
  have rest_trimmed : Trimmed rest := by
    refine ⟨first, fun c hc => trimmed.last c ?_⟩
    -- the rest is not empty, so the key ends as it does
    have ne : rest ≠ [] := by
      intro empty
      rw [empty] at hc
      cases hc
    rw [← List.append_assoc, ← List.cons_append, List.getLast?_append_of_ne_nil _ ne]
    exact hc
  have condition : trim (gap ++ rest) = rest := by
    have whole := rest_trimmed.trim_eq
    rw [trim, dropWhile_eq_self first] at whole
    rw [trim, dropWhile_append_stop hgap first, whole]
  refine ⟨name, gap, rest, ⟨rfl, hname, stop, hgap, rest_trimmed⟩, ?_⟩
  rw [ofBody, takeWhile_append_stop hname stop, dropWhile_append_stop hname stop, condition]

/-! ## §2. Which keys come apart. -/

/-- A key comes apart when an `@` is its first character that is not blank. -/
theorem parse?_eq_none_iff {key : String} :
    parse? key = none ↔ (trim key.toList).head? ≠ some '@' := by
  unfold parse?
  split
  · next h => simp [h]
  · next h =>
    constructor
    · intro _ first
      obtain ⟨body, hbody⟩ := List.head?_eq_some_iff.mp first
      exact h body hbody
    · exact fun _ => rfl

/-- Blanks behind a key make no difference. -/
theorem parse?_append_blank (key : String) {blanks : String}
    (h : ∀ c ∈ blanks.toList, isBlank c = true) : parse? (key ++ blanks) = parse? key := by
  rw [parse?, parse?, String.toList_append, trim_append_blank _ h]

/-- A rule that groups comes back from its key. -/
theorem parse?_key_of_group {key : String} {rule : AtRule} (h : parse? key = some rule)
    (hkind : rule.kind = .group) : parse? rule.key = some rule := by
  rw [parse?_key (known?_of_kind hkind (by decide)), (trimmed_of_parse? h).trim_eq,
    String.ofList_toList]

/-- **Which keys come apart, and into what.**  A key comes apart when an `@` is
its first character that is not blank.  Then it has, without the blanks
around it, the parts of the grammar in one way, and comes apart as the name
in lower case and the rest.  So every key that begins with an `@` comes
apart, blanks behind a key make no difference, and a rule that groups comes
back from the key that is put together from it. -/
theorem parse?_exactly (key : String) :
    (parse? key = none ↔ (trim key.toList).head? ≠ some '@')
    ∧ ((trim key.toList).head? = some '@' →
        ∃ name gap rest, KeyParts (trim key.toList) name gap rest
          ∧ (∀ name' gap' rest', KeyParts (trim key.toList) name' gap' rest' →
              name' = name ∧ gap' = gap ∧ rest' = rest)
          ∧ parse? key = some ⟨String.ofList (lower name), String.ofList rest⟩)
    ∧ (isKey key = true → ∃ rule, parse? key = some rule)
    ∧ (∀ blanks : String, (∀ c ∈ blanks.toList, isBlank c = true) →
        parse? (key ++ blanks) = parse? key)
    ∧ ∀ rule, parse? key = some rule → rule.kind = .group → parse? rule.key = some rule := by
  refine ⟨parse?_eq_none_iff, ?_, parse?_isSome_of_isKey, fun _ => parse?_append_blank key,
    fun _ => parse?_key_of_group⟩
  intro first
  obtain ⟨body, hbody⟩ := List.head?_eq_some_iff.mp first
  have trimmed := trimmed_trim key.toList
  rw [hbody] at trimmed
  obtain ⟨name, gap, rest, parts, hrule⟩ := exists_keyParts trimmed
  rw [hbody]
  refine ⟨name, gap, rest, parts, fun _ _ _ other => other.unique parts, ?_⟩
  rw [parse?, hbody, ← hrule]
  rfl

/-- A name in capitals, a line feed and a wide space behind it, and a condition
of two lines. -/
theorem parse?_exactly_twoLines :
    KeyParts "@MEDIA\n\u3000screen\nprint".toList "MEDIA".toList "\n\u3000".toList
        "screen\nprint".toList
      ∧ parse? " @MEDIA\n\u3000screen\nprint\t" = some ⟨"media", "screen\nprint"⟩
      ∧ parse? "@media screen\nprint" = some ⟨"media", "screen\nprint"⟩ := by
  have parts : KeyParts "@MEDIA\n\u3000screen\nprint".toList "MEDIA".toList "\n\u3000".toList
      "screen\nprint".toList := by
    refine ⟨by decide, List.all_eq_true.mp (by decide), ?_, List.all_eq_true.mp (by decide), ?_, ?_⟩
    · exact fun c hc => Option.some.inj hc ▸ by decide
    · exact fun c hc => Option.some.inj hc ▸ by decide
    · exact fun c hc => Option.some.inj hc ▸ by decide
  obtain ⟨-, splits, -, -, back⟩ := parse?_exactly " @MEDIA\n\u3000screen\nprint\t"
  have trimmed : trim " @MEDIA\n\u3000screen\nprint\t".toList
      = "@MEDIA\n\u3000screen\nprint".toList := by decide +kernel
  rw [trimmed] at splits
  obtain ⟨name, gap, rest, -, unique, result⟩ := splits (by decide)
  obtain ⟨rfl, rfl, rfl⟩ := unique _ _ _ parts
  have lowered : lower "MEDIA".toList = "media".toList := by decide +kernel
  rw [lowered, String.ofList_toList, String.ofList_toList] at result
  exact ⟨parts, result, back _ result (by decide)⟩

end Stylesheet.AtRule
