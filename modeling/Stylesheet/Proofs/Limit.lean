/-
  Stylesheet.Proofs.Limit
  ───────────────────────
  **WHAT IS READ CAN BE WRITTEN.**

  An integer with too many digits is not read, so that a tree that was read
  has none.  Words keep to the limit, the reader puts values together of
  words, and a mapping has no other keys and values than its entries.

  Main statements:
    * `isWritable_of_mem_lexemes` — words;
    * `State.Writable.step`, `State.Writable.run` — what one word leaves as it
      is, and what any number of words do;
    * `isWritable_of_treeOfBytes` — the tree of a file.
-/
import Mathlib.Data.List.Induction
import Stylesheet.Cli.Input
import Stylesheet.Value.Text

namespace Stylesheet

/-! ## §1. Numbers and mappings. -/

/-- Digits stand for a number with no more digits. -/
theorem Decimal.digitsValue_lt {digits : List Char} (h : ∀ c ∈ digits, c.isDigit = true) {m : Nat}
    (short : digits.length ≤ m) : digitsValue digits < Nat.pow 10 m := by
  suffices digitsValue digits < Nat.pow 10 digits.length from
    Nat.lt_of_lt_of_le this (Nat.pow_le_pow_right (by decide) short)
  clear short
  -- from the right: a digit more is ten times what was there, and less than ten
  induction digits using List.reverseRecOn with
  | nil => decide
  | append_singleton front c ih =>
      have before := ih fun d hd => h d (List.mem_append_left _ hd)
      have digit : c.toNat - '0'.toNat < 10 := by
        have range := Char.isDigit_iff_toNat.mp (h c (List.mem_append_right _ (by simp)))
        have bounds : '0'.toNat = 0x30 ∧ '9'.toNat = 0x39 := by decide
        omega
      have value : digitsValue (front ++ [c]) = 10 * digitsValue front + (c.toNat - '0'.toNat) := by
        rw [digitsValue, List.foldl_append]
        rfl
      have power : Nat.pow 10 (front.length + 1) = Nat.pow 10 front.length * 10 := rfl
      rw [value, List.length_append, List.length_singleton, power]
      omega

namespace Value

theorem haveWritable_setEntry {key value : Value} (hkey : key.isWritable = true)
    (hvalue : value.isWritable = true) {entries : List (Value × Value)}
    (h : haveWritable entries = true) : haveWritable (setEntry key value entries) = true := by
  induction entries with
  | nil => simp [setEntry, haveWritable, hkey, hvalue]
  | cons e rest ih =>
      obtain ⟨k, v⟩ := e
      simp only [haveWritable, Bool.and_eq_true] at h
      obtain ⟨⟨hk, hv⟩, hrest⟩ := h
      rw [setEntry]
      split
      · simp [haveWritable, hk, hvalue, hrest]
      · simp [haveWritable, hk, hv, ih hrest]

/-- **A mapping can be written if its entries can.** -/
theorem isWritable_ofEntries {entries : List (Value × Value)} (h : haveWritable entries = true) :
    (ofEntries entries).isWritable = true := by
  suffices ∀ more front, haveWritable more = true → haveWritable front = true →
      haveWritable (setEntries front more) = true from this entries [] h rfl
  intro more
  induction more with
  | nil => exact fun _ _ hfront => hfront
  | cons e rest ih =>
      intro front hmore hfront
      simp only [haveWritable, Bool.and_eq_true] at hmore
      exact ih _ hmore.2 (haveWritable_setEntry hmore.1.1 hmore.1.2 hfront)

end Value

namespace Json

open Value

/-! ## §2. Words. -/

/-- Whether the value that a word stands for can be written, if it is a word
that stands for one. -/
def Token.isWritable : Token → Bool
  | .scalar value => value.isWritable
  | _ => true

theorem isDigit_of_wholePart? {s digits rest : List Char}
    (h : wholePart? s = some (digits, rest)) : ∀ c ∈ digits, c.isDigit = true := by
  unfold wholePart? at h
  split at h
  · obtain ⟨rfl, -⟩ := Prod.mk.inj (Option.some.inj h)
    simp
  · next c tail _ =>
    split at h
    · next first =>
      obtain ⟨rfl, -⟩ := Prod.mk.inj (Option.some.inj h)
      exact List.forall_mem_cons.mpr ⟨first, List.all_eq_true.mp List.all_takeWhile⟩
    · cases h
  · cases h

/-- **An integer that is read can be written.** -/
theorem isWritable_integerWord (negative : Bool) {digits : List Char}
    (h : ∀ c ∈ digits, c.isDigit = true) : (integerWord negative digits).isWritable = true := by
  unfold integerWord
  split
  · next short =>
    -- the sign has no part in the limit, neither here nor where a number is read
    have magnitude : (Decimal.signedValue negative digits).natAbs = Decimal.digitsValue digits := by
      cases negative <;> simp [Decimal.signedValue]
    show (Scalar.int (Decimal.signedValue negative digits)).isWritable = true
    rw [Scalar.isWritable_int_iff, magnitude]
    exact Decimal.digitsValue_lt h short
  · rfl

theorem isWritable_of_unsigned? {negative : Bool} {s rest : List Char} {word : Token}
    (h : unsigned? negative s = some (word, rest)) : word.isWritable = true := by
  unfold unsigned? at h
  split at h
  · cases h
  · next found =>
    dsimp only at h
    split at h
    · obtain ⟨rfl, -⟩ := Prod.mk.inj (Option.some.inj h)
      exact isWritable_integerWord negative (isDigit_of_wholePart? found)
    · obtain ⟨rfl, -⟩ := Prod.mk.inj (Option.some.inj h)
      rfl

theorem isWritable_of_literal? {s rest : List Char} {value : Value}
    (h : literal? s = some (value, rest)) : value.isWritable = true := by
  obtain ⟨⟨word, value'⟩, mem, found⟩ := List.exists_of_findSome?_eq_some h
  obtain ⟨_, -, same⟩ := Option.map_eq_some_iff.mp found
  obtain ⟨rfl, -⟩ := Prod.mk.inj same
  have all : ∀ e ∈ literals, e.2.isWritable = true := by
    simp [literals, Value.isWritable, Scalar.isWritable]
  exact all _ mem

theorem isWritable_scan (c : Char) (rest : List Char) : (scan c rest).1.isWritable = true := by
  unfold scan
  split
  · rfl
  · split
    · split <;> rfl
    · split
      · next found => exact isWritable_of_literal? found
      · split
        · next found =>
          unfold number? at found
          split at found <;> exact isWritable_of_unsigned? found
        · rfl

/-- **The words of a document can be written.** -/
theorem isWritable_of_mem_lexemes {s : List Char} :
    ∀ lexeme ∈ lexemes s, lexeme.token.isWritable = true := by
  fun_induction lexemes s with
  | case1 => exact nofun
  | case2 c rest _ ih => exact ih
  | case3 c rest _ ih => exact List.forall_mem_cons.mpr ⟨isWritable_scan c rest, ih⟩

/-! ## §3. The reader. -/

/-- Whether what an open list or mapping has so far can be written. -/
def Frame.isWritable : Frame → Bool
  | .list items => areWritable items
  | .map entries _ => haveWritable entries

/-- Whether what was read last can be written. -/
def Expectation.isWritable : Expectation → Bool
  | .name entries | .colon entries _ => haveWritable entries
  | .after found => found.isWritable
  | _ => true

/-- All that a reader holds can be written. -/
structure State.Writable (state : State) : Prop where
  /-- What is open. -/
  stack : ∀ frame ∈ state.stack, frame.isWritable = true
  /-- What was read last. -/
  next : state.next.isWritable = true

section Steps

variable {stack : List Frame} {lexeme : Lexeme} {next : State}

theorem writable_of_beginValue (hstack : ∀ frame ∈ stack, frame.isWritable = true)
    (hlexeme : lexeme.token.isWritable = true) (h : beginValue stack lexeme = .ok next) :
    next.Writable := by
  unfold beginValue at h
  split at h
  case h_2 value same =>
    obtain rfl := Except.ok.inj h
    rw [same] at hlexeme
    exact ⟨hstack, hlexeme⟩
  case h_1 | h_3 | h_4 =>
    obtain rfl := Except.ok.inj h
    exact ⟨hstack, rfl⟩
  all_goals cases h

theorem writable_of_beginName (hstack : ∀ frame ∈ stack, frame.isWritable = true)
    {entries : List (Value × Value)} (hentries : haveWritable entries = true)
    (h : beginName stack entries lexeme = .ok next) : next.Writable := by
  unfold beginName at h
  split at h
  · obtain rfl := Except.ok.inj h
    exact ⟨hstack, hentries⟩
  all_goals cases h

theorem writable_of_afterValue (hstack : ∀ frame ∈ stack, frame.isWritable = true) {value : Value}
    (hvalue : value.isWritable = true) (h : afterValue stack value lexeme = .ok next) :
    next.Writable := by
  cases stack with
  | nil => cases h
  | cons frame outer =>
      obtain ⟨hframe, houter⟩ := List.forall_mem_cons.mp hstack
      cases frame with
      | list items =>
          have hitems : areWritable (value :: items) = true :=
            Bool.and_eq_true_iff.mpr ⟨hvalue, hframe⟩
          unfold afterValue at h
          dsimp only at h
          split at h
          · obtain rfl := Except.ok.inj h
            exact ⟨List.forall_mem_cons.mpr ⟨hitems, houter⟩, rfl⟩
          · obtain rfl := Except.ok.inj h
            refine ⟨houter, ?_⟩
            show areWritable (value :: items).reverse = true
            rw [areWritable_iff] at hitems ⊢
            exact fun v hv => hitems v (List.mem_reverse.mp hv)
          · cases h
      | map entries name =>
          have hentries : haveWritable ((.text name, value) :: entries) = true := by
            simp [haveWritable, hvalue, show haveWritable entries = true from hframe]
          unfold afterValue at h
          dsimp only at h
          split at h
          · obtain rfl := Except.ok.inj h
            exact ⟨houter, hentries⟩
          · obtain rfl := Except.ok.inj h
            refine ⟨houter, isWritable_ofEntries ?_⟩
            rw [haveWritable_iff] at hentries ⊢
            exact fun e he => hentries e (List.mem_reverse.mp he)
          · cases h

end Steps

/-- **A word that can be written leaves a reader with what can be
written.** -/
theorem State.Writable.step {state next : State} (h : state.Writable) {lexeme : Lexeme}
    (hlexeme : lexeme.token.isWritable = true) (hstep : state.step lexeme = .ok next) :
    next.Writable := by
  obtain ⟨hstack, hnext⟩ := h
  -- one case for each thing that may be expected next
  unfold State.step at hstep
  split at hstep
  case h_1 => exact writable_of_beginValue hstack hlexeme hstep
  case h_2 =>
    obtain rfl := Except.ok.inj hstep
    exact ⟨hstack, rfl⟩
  case h_3 =>
    exact writable_of_beginValue (List.forall_mem_cons.mpr ⟨rfl, hstack⟩) hlexeme hstep
  case h_4 =>
    obtain rfl := Except.ok.inj hstep
    exact ⟨hstack, rfl⟩
  case h_5 => exact writable_of_beginName hstack rfl hstep
  case h_6 entries hnext' =>
    rw [hnext'] at hnext
    exact writable_of_beginName hstack hnext hstep
  case h_7 entries name hnext' _ =>
    obtain rfl := Except.ok.inj hstep
    rw [hnext'] at hnext
    exact ⟨List.forall_mem_cons.mpr ⟨hnext, hstack⟩, rfl⟩
  case h_8 => cases hstep
  case h_9 value hnext' =>
    rw [hnext'] at hnext
    exact writable_of_afterValue hstack hnext hstep

/-- **So do any number of words.** -/
theorem State.Writable.run {words : List Lexeme}
    (hwords : ∀ lexeme ∈ words, lexeme.token.isWritable = true) {state last : State}
    (h : state.Writable) (hrun : words.foldlM State.step state = .ok last) : last.Writable := by
  induction words generalizing state with
  | nil =>
      obtain rfl := Except.ok.inj hrun
      exact h
  | cons lexeme rest ih =>
      obtain ⟨hlexeme, hrest⟩ := List.forall_mem_cons.mp hwords
      rw [List.foldlM_cons] at hrun
      cases hstep : state.step lexeme with
      | error problem =>
          rw [hstep] at hrun
          cases hrun
      | ok next =>
          rw [hstep] at hrun
          exact ih hrest (h.step hlexeme hstep) hrun

/-- **What a document stands for can be written.** -/
theorem isWritable_of_readLexemes {s : List Char} {value : Value}
    (h : readLexemes (lexemes s) = .ok value) : value.isWritable = true := by
  unfold readLexemes at h
  cases hrun : (lexemes s).foldlM State.step State.start with
  | error problem =>
      rw [hrun] at h
      cases h
  | ok last =>
      rw [hrun] at h
      have finish : last.finish = .ok value := h
      have start : State.start.Writable := ⟨nofun, rfl⟩
      have writable := start.run isWritable_of_mem_lexemes hrun
      unfold State.finish at finish
      split at finish
      case h_6 found same =>
        split at finish
        · obtain rfl := Except.ok.inj finish
          have next := writable.next
          rw [same] at next
          exact next
        · cases finish
      all_goals cases finish

end Json

namespace Cli

/-- **The tree of a file can be written.** -/
theorem isWritable_of_treeOfBytes {bytes : List UInt8} {tree : Value}
    (h : treeOfBytes bytes = .ok tree) : tree.isWritable = true := by
  unfold treeOfBytes at h
  cases htext : Text.Utf8.decode bytes with
  | error error =>
      rw [htext] at h
      cases h
  | ok text =>
      rw [htext] at h
      change (Json.read (Text.Newline.unify (Text.coded text))).mapError InputError.document
        = .ok tree at h
      generalize Text.Newline.unify (Text.coded text) = document at h
      unfold Json.read at h
      split at h
      · cases h
      · cases hread : Json.readLexemes (Json.lexemes document) with
        | error problem =>
            rw [hread] at h
            cases h
        | ok value =>
            rw [hread] at h
            obtain rfl := Except.ok.inj h
            exact Json.isWritable_of_readLexemes hread

end Cli

end Stylesheet
