/-
  Stylesheet.Proofs.Document
  ──────────────────────────
  **A DOCUMENT IS READ BACK.**

  The value of a document that was written is the value that was written,
  with the same keys in the same order.  The reader is a machine over words:
  where it expects a value and finds one that was written, it goes on behind
  it as if the value had been one word.

  What is left out are doubles, whose text is not followed here, tuples,
  which are written as lists, mappings that have keys other than texts or a
  key twice, which are not written as such, integers that are too long, and
  texts with halves, which have no bytes.

  Main statements:
    * `run_write` — one value;
    * `read_document` — a document;
    * `Composed.write` — what holds of the pieces of a document holds of it;
    * `exists_printed_document` — a document has bytes, and they are read back.
-/
import Stylesheet.Cli.Input
import Stylesheet.Proofs.Mapping
import Stylesheet.Proofs.Utf8
import Stylesheet.Proofs.Whole
import Stylesheet.Proofs.Word

namespace Stylesheet

/-! ## §1. Values that documents keep. -/

namespace Value

mutual

/-- A value that is read back from its document: it has no doubles and no
tuples, its integers can be written, its texts are whole, and its mappings
have distinct texts as keys. -/
def Kept : Value → Prop
  | .scalar (.float _) | .tuple _ => False
  | .scalar (.int n) => (Scalar.int n).isWritable = true
  | .scalar (.text s) => Text.Whole s.toList
  | .list items => KeptItems items
  | .map entries => DistinctKeys entries ∧ KeptEntries entries
  | _ => True

/-- Items that are read back from their document. -/
def KeptItems : List Value → Prop
  | [] => True
  | item :: rest => item.Kept ∧ KeptItems rest

/-- Entries that are read back from their document. -/
def KeptEntries : List (Value × Value) → Prop
  | [] => True
  | (key, value) :: rest =>
      (∃ name, key = .text name ∧ Text.Whole name.toList) ∧ value.Kept ∧ KeptEntries rest

end

end Value

namespace Json

open Value

/-! ## §2. Steps of a reader. -/

/-- The state that a text leads to. -/
def State.run (state : State) (s : List Char) : Except Problem State :=
  (lexemes s).foldlM State.step state

section Steps

variable {s rest : List Char} {token : Token} {stack : List Frame}

/-- A word takes one step. -/
theorem run_begins (h : Begins s token rest) (state : State) :
    state.run s = state.step ⟨token, s⟩ >>= fun next => next.run rest := by
  obtain ⟨c, more, rfl, hspace, hscan⟩ := h
  rw [State.run, lexemes, hspace, if_neg Bool.false_ne_true, hscan, List.foldlM_cons]
  rfl

/-- A blank takes none. -/
theorem run_isSpace {c : Char} (h : isSpace c = true) (state : State) (rest : List Char) :
    state.run (c :: rest) = state.run rest := by
  rw [State.run, lexemes, h, if_pos rfl]
  rfl

/-- Nor does the start of a line. -/
theorem run_lineStart (depth : Nat) (state : State) (rest : List Char) :
    state.run (lineStart depth ++ rest) = state.run rest := by
  have blanks : ∀ n, state.run (List.replicate n ' ' ++ rest) = state.run rest := by
    intro n
    induction n with
    | zero => rfl
    | succ n ih => rw [List.replicate_succ, List.cons_append, run_isSpace rfl, ih]
  rw [lineStart, List.cons_append, run_isSpace rfl, blanks]

/-- A list that was opened begins with a value, unless it ends. -/
theorem run_firstItem (h : Begins s token rest) (hne : token ≠ .mark ']') (stack : List Frame) :
    State.run ⟨stack, .firstItem⟩ s = State.run ⟨.list [] :: stack, .value⟩ s := by
  have same : State.step ⟨stack, .firstItem⟩ ⟨token, s⟩
      = beginValue (.list [] :: stack) ⟨token, s⟩ := by
    unfold State.step
    split
    case h_2 close => exact absurd close hne
    case h_3 => rfl
    all_goals contradiction
  rw [run_begins h, run_begins h, same]
  rfl

/-- The name of an entry, the colon behind it and the space behind that. -/
theorem run_colon (entries : List (Value × Value)) (name : String) (stack : List Frame)
    (rest : List Char) :
    State.run ⟨stack, .colon entries name⟩ (':' :: ' ' :: rest)
      = State.run ⟨.map entries name :: stack, .value⟩ rest := by
  rw [run_begins (begins_mark (by decide) _)]
  exact run_isSpace rfl _ rest

end Steps

/-! ## §3. Values. -/

theorem endsNumber_cons {c : Char} (h : c = ',' ∨ c = '\n') (rest : List Char) :
    EndsNumber (c :: rest) := by
  intro d hd
  obtain rfl := Option.some.inj hd
  rcases h with rfl | rfl <;> decide

/-- What follows an item of a list, up to the end of the list. -/
theorem endsNumber_writeItems (depth outer : Nat) (more : List Value) (rest : List Char) :
    EndsNumber (writeItems depth false more ++ (lineStart outer ++ rest)) := by
  cases more with
  | nil => exact endsNumber_cons (Or.inr rfl) _
  | cons item more => exact endsNumber_cons (Or.inl rfl) _

theorem endsNumber_writeEntries (depth outer : Nat) (more : List (Value × Value))
    (rest : List Char) :
    EndsNumber (writeEntries depth false more ++ (lineStart outer ++ rest)) := by
  cases more with
  | nil => exact endsNumber_cons (Or.inr rfl) _
  | cons e more => exact endsNumber_cons (Or.inl rfl) _

/-- A value that is written begins with a word, and not with one that ends a
list. -/
theorem begins_write (depth : Nat) {value : Value} (kept : value.Kept) {rest : List Char}
    (hrest : EndsNumber rest) :
    ∃ token after, Begins (write depth value ++ rest) token after ∧ token ≠ .mark ']'
      ∧ token ≠ .unknown := by
  cases value with
  | null => exact ⟨_, _, begins_null rest, nofun, nofun⟩
  | bool b => exact ⟨_, _, begins_bool b rest, nofun, nofun⟩
  | scalar scalar =>
      cases scalar with
      | text s => exact ⟨_, _, begins_writeString s rest, nofun, nofun⟩
      | int n => exact ⟨_, _, begins_toString kept hrest, nofun, nofun⟩
      | float x => exact kept.elim
  | list items => exact ⟨_, _, begins_mark (by decide) _, by simp, nofun⟩
  | tuple items => exact kept.elim
  | map entries => exact ⟨_, _, begins_mark (by decide) _, by simp, nofun⟩

mutual

/-- **A value that is written is read back**, whatever is open around it and
whatever follows it. -/
theorem run_write : ∀ (value : Value), value.Kept → ∀ (depth : Nat) (stack : List Frame)
    (rest : List Char), EndsNumber rest →
      State.run ⟨stack, .value⟩ (write depth value ++ rest) = State.run ⟨stack, .after value⟩ rest
  | .null, _, depth, stack, rest, _ => by
      show State.run _ ("null".toList ++ rest) = _
      rw [run_begins (begins_null rest)]
      rfl
  | .bool b, _, depth, stack, rest, _ => by
      show State.run _ ((if b then "true".toList else "false".toList) ++ rest) = _
      rw [run_begins (begins_bool b rest)]
      rfl
  | .scalar (.text s), _, depth, stack, rest, _ => by
      show State.run _ (writeString s ++ rest) = _
      rw [run_begins (begins_writeString s rest)]
      rfl
  | .scalar (.int n), kept, depth, stack, rest, hrest => by
      show State.run _ ((toString n).toList ++ rest) = _
      rw [run_begins (begins_toString kept hrest)]
      rfl
  | .scalar (.float _), kept, _, _, _, _ | .tuple _, kept, _, _, _, _ => kept.elim
  | .list [], _, depth, stack, rest, _ => by
      show State.run _ ('[' :: ']' :: rest) = _
      rw [run_begins (begins_mark (by decide) _)]
      show State.run ⟨stack, .firstItem⟩ (']' :: rest) = _
      rw [run_begins (begins_mark (by decide) _)]
      rfl
  | .list (item :: more), kept, depth, stack, rest, _ => by
      have shape : write depth (.list (item :: more)) ++ rest
          = '[' :: (lineStart (depth + 1) ++ (write (depth + 1) item
            ++ (writeItems (depth + 1) false more ++ (lineStart depth ++ ']' :: rest)))) := by
        simp [write, writeItems, separator, closing]
      have ends := endsNumber_writeItems (depth + 1) depth more (']' :: rest)
      obtain ⟨token, after, begins, hne, -⟩ := begins_write (depth + 1) kept.1 ends
      rw [shape, run_begins (begins_mark (by decide) _)]
      show State.run ⟨stack, .firstItem⟩ _ = _
      rw [run_lineStart, run_firstItem begins hne,
        run_write item kept.1 (depth + 1) (.list [] :: stack) _ ends,
        run_writeItems more kept.2 (depth + 1) depth [] item stack rest]
      rfl
  | .map [], _, depth, stack, rest, _ => by
      show State.run _ ('\x7b' :: '\x7d' :: rest) = _
      rw [run_begins (begins_mark (by decide) _)]
      show State.run ⟨stack, .firstName⟩ ('\x7d' :: rest) = _
      rw [run_begins (begins_mark (by decide) _)]
      rfl
  | .map ((key, value) :: more), kept, depth, stack, rest, _ => by
      obtain ⟨distinct, ⟨name, rfl, -⟩, hvalue, hmore⟩ := kept
      have shape : write depth (.map ((.text name, value) :: more)) ++ rest
          = '\x7b' :: (lineStart (depth + 1) ++ (writeString name ++ (':' :: ' '
            :: (write (depth + 1) value ++ (writeEntries (depth + 1) false more
              ++ (lineStart depth ++ '\x7d' :: rest)))))) := by
        simp [write, writeEntries, separator, closing, text, printed, Scalar.printed]
      have ends := endsNumber_writeEntries (depth + 1) depth more ('\x7d' :: rest)
      have whole : ofEntries ([(.text name, value)].reverse ++ more)
          = .map ((.text name, value) :: more) :=
        congrArg Value.map (setEntries_of_distinctKeys [] _ distinct)
      rw [shape, run_begins (begins_mark (by decide) _)]
      show State.run ⟨stack, .firstName⟩ _ = _
      rw [run_lineStart, run_begins (begins_writeString name _)]
      show State.run ⟨stack, .colon [] name⟩ _ = _
      rw [run_colon, run_write value hvalue (depth + 1) (.map [] name :: stack) _ ends,
        run_writeEntries more hmore (depth + 1) depth [] name value stack rest, whole]

/-- The items behind the first one, and the end of the list. -/
theorem run_writeItems : ∀ (more : List Value), KeptItems more → ∀ (depth outer : Nat)
    (items : List Value) (value : Value) (stack : List Frame) (rest : List Char),
      State.run ⟨.list items :: stack, .after value⟩
          (writeItems depth false more ++ (lineStart outer ++ ']' :: rest))
        = State.run ⟨stack, .after (.list ((value :: items).reverse ++ more))⟩ rest
  | [], _, depth, outer, items, value, stack, rest => by
      show State.run _ (lineStart outer ++ ']' :: rest) = _
      rw [run_lineStart, run_begins (begins_mark (by decide) _), List.append_nil]
      rfl
  | item :: more, kept, depth, outer, items, value, stack, rest => by
      have shape : writeItems depth false (item :: more) ++ (lineStart outer ++ ']' :: rest)
          = ',' :: (lineStart depth ++ (write depth item
            ++ (writeItems depth false more ++ (lineStart outer ++ ']' :: rest)))) := by
        simp [writeItems, separator]
      have ends := endsNumber_writeItems depth outer more (']' :: rest)
      rw [shape, run_begins (begins_mark (by decide) _)]
      show State.run ⟨.list (value :: items) :: stack, .value⟩ _ = _
      rw [run_lineStart, run_write item kept.1 depth (.list (value :: items) :: stack) _ ends,
        run_writeItems more kept.2 depth outer (value :: items) item stack rest,
        List.reverse_cons, List.append_assoc]
      rfl

/-- The entries behind the first one, and the end of the mapping. -/
theorem run_writeEntries : ∀ (more : List (Value × Value)), KeptEntries more →
    ∀ (depth outer : Nat) (entries : List (Value × Value)) (name : String) (value : Value)
      (stack : List Frame) (rest : List Char),
      State.run ⟨.map entries name :: stack, .after value⟩
          (writeEntries depth false more ++ (lineStart outer ++ '\x7d' :: rest))
        = State.run ⟨stack, .after (.ofEntries (((.text name, value) :: entries).reverse ++ more))⟩
            rest
  | [], _, depth, outer, entries, name, value, stack, rest => by
      show State.run _ (lineStart outer ++ '\x7d' :: rest) = _
      rw [run_lineStart, run_begins (begins_mark (by decide) _), List.append_nil]
      rfl
  | (key, item) :: more, kept, depth, outer, entries, name, value, stack, rest => by
      obtain ⟨⟨next, rfl, -⟩, hitem, hmore⟩ := kept
      have shape : writeEntries depth false ((.text next, item) :: more)
            ++ (lineStart outer ++ '\x7d' :: rest)
          = ',' :: (lineStart depth ++ (writeString next ++ (':' :: ' ' :: (write depth item
            ++ (writeEntries depth false more ++ (lineStart outer ++ '\x7d' :: rest)))))) := by
        simp [writeEntries, separator, text, printed, Scalar.printed]
      have ends := endsNumber_writeEntries depth outer more ('\x7d' :: rest)
      rw [shape, run_begins (begins_mark (by decide) _)]
      show State.run ⟨stack, .name ((.text name, value) :: entries)⟩ _ = _
      rw [run_lineStart, run_begins (begins_writeString next _)]
      show State.run ⟨stack, .colon ((.text name, value) :: entries) next⟩ _ = _
      rw [run_colon, run_write item hitem depth _ _ ends,
        run_writeEntries more hmore depth outer _ next item stack rest, List.reverse_cons,
        List.append_assoc]
      rfl

end

/-! ## §4. Documents. -/

/-- **A document is read back**, with a line end behind it. -/
theorem read_document {value : Value} (kept : value.Kept) :
    read (document value ++ ['\n']) = .ok value := by
  have ends : EndsNumber ['\n'] := endsNumber_cons (Or.inr rfl) []
  have words : (lexemes (document value ++ ['\n'])).foldlM State.step State.start
      = .ok ⟨[], .after value⟩ := by
    show State.run ⟨[], .value⟩ (write 0 value ++ ['\n']) = _
    rw [run_write value kept 0 [] ['\n'] ends, run_isSpace rfl, State.run, lexemes]
    rfl
  -- a byte order mark is no word, so no document begins with one
  have mark : (document value ++ ['\n']).head? ≠ some '\ufeff' := by
    obtain ⟨token, after, ⟨c, more, hdocument, -, hscan⟩, -, known⟩ := begins_write 0 kept ends
    intro head
    rw [document, hdocument] at head
    obtain rfl := Option.some.inj head
    exact known (congrArg Prod.fst hscan).symm
  rw [read, if_neg mark, readLexemes, words]
  rfl

/-! ## §5. The characters of a document. -/

/-- A text of line feeds and characters that a typewriter has. -/
def Visible (s : List Char) : Prop :=
  ∀ c ∈ s, c = '\n' ∨ 0x20 ≤ c.toNat ∧ c.toNat < 0x7f

instance (s : List Char) : Decidable (Visible s) :=
  List.decidableBAll _ s

theorem visible_append {s t : List Char} : Visible (s ++ t) ↔ Visible s ∧ Visible t :=
  List.forall_mem_append

theorem visible_cons {c : Char} (hc : c = '\n' ∨ 0x20 ≤ c.toNat ∧ c.toNat < 0x7f) {s : List Char}
    (hs : Visible s) : Visible (c :: s) :=
  List.forall_mem_cons.mpr ⟨hc, hs⟩

theorem visible_hex (width n : Nat) : Visible (Text.hex width n) := by
  induction width generalizing n with
  | zero => exact fun _ h => nomatch h
  | succ width ih =>
      have digits : ∀ d < 16, Visible [Nat.digitChar d] := by decide
      exact visible_append.mpr ⟨ih (n / 16), digits _ (Nat.mod_lt n (by decide))⟩

theorem visible_toString (n : Int) : Visible (toString n).toList := by
  intro c hc
  rcases Text.mem_toString_int hc with rfl | digit
  · exact Or.inr (by decide)
  · have range := Char.isDigit_iff_toNat.mp digit
    have bounds : '0'.toNat = 0x30 ∧ '9'.toNat = 0x39 := by decide
    omega

theorem visible_lineStart (depth : Nat) : Visible (lineStart depth) := by
  refine visible_cons (Or.inl rfl) fun c hc => ?_
  rw [List.eq_of_mem_replicate hc]
  exact Or.inr (by decide)

theorem visible_separator (depth : Nat) (isFirst : Bool) : Visible (separator depth isFirst) := by
  cases isFirst with
  | true => exact visible_lineStart depth
  | false => exact visible_cons (by decide) (visible_lineStart depth)

theorem visible_closing (depth : Nat) (isEmpty : Bool) (bracket : Char)
    (h : Visible [bracket]) : Visible (closing depth isEmpty bracket) := by
  cases isEmpty with
  | true => exact h
  | false => exact visible_append.mpr ⟨visible_lineStart depth, h⟩

/-- A character inside a string is written with visible ones, or as itself. -/
theorem escaped_cases (c : Char) :
    Visible (escaped c) ∨ escaped c = [c] ∧ 0x20 ≤ c.toNat := by
  unfold escaped
  split
  case h_8 =>
    split
    · exact Or.inl (visible_cons (by decide) (visible_cons (by decide) (visible_hex 4 c.toNat)))
    · next visible => exact Or.inr ⟨rfl, Nat.not_lt.mp visible⟩
  all_goals exact Or.inl (by decide)

/-- A visible text has no marks. -/
theorem Visible.whole {s : List Char} (h : Visible s) : Text.Whole s := by
  refine Text.whole_of_not_mem fun mem => ?_
  rcases h _ mem with feed | ⟨-, small⟩
  · exact absurd feed (by decide)
  · exact absurd small (by decide)

/-- What holds of visible texts, of strings that are written, and of texts
that are joined of texts of which it holds. -/
structure Composed (P : List Char → Prop) : Prop where
  /-- It holds of visible texts. -/
  visible : ∀ {s}, Visible s → P s
  /-- It holds of strings. -/
  string : ∀ {s : String}, Text.Whole s.toList → P (writeString s)
  /-- It holds of what is joined. -/
  append : ∀ {s t}, P s → P t → P (s ++ t)

namespace Composed

variable {P : List Char → Prop} (composed : Composed P)

include composed

theorem cons {c : Char} (hc : Visible [c]) {s : List Char} (hs : P s) : P (c :: s) :=
  composed.append (s := [c]) (composed.visible hc) hs

mutual

/-- **It holds of documents.** -/
theorem write : ∀ (value : Value), value.Kept → ∀ depth, P (write depth value)
  | .null, _, _ => composed.visible (s := "null".toList) (by decide)
  | .bool true, _, _ => composed.visible (s := "true".toList) (by decide)
  | .bool false, _, _ => composed.visible (s := "false".toList) (by decide)
  | .scalar (.text _), kept, _ => composed.string kept
  | .scalar (.int n), _, _ => composed.visible (visible_toString n)
  | .scalar (.float _), kept, _ | .tuple _, kept, _ => kept.elim
  | .list items, kept, depth => by
      have inside := writeItems items kept (depth + 1) true
      have ends := visible_closing depth items.isEmpty ']' (by decide)
      exact composed.append (composed.cons (by decide) inside) (composed.visible ends)
  | .map entries, kept, depth => by
      have inside := writeEntries entries kept.2 (depth + 1) true
      have ends := visible_closing depth entries.isEmpty '\x7d' (by decide)
      exact composed.append (composed.cons (by decide) inside) (composed.visible ends)

theorem writeItems : ∀ (items : List Value), KeptItems items → ∀ depth isFirst,
    P (Json.writeItems depth isFirst items)
  | [], _, _, _ => composed.visible (s := []) (by decide)
  | item :: more, kept, depth, isFirst => by
      have first := composed.append (composed.visible (visible_separator depth isFirst))
        (write item kept.1 depth)
      exact composed.append first (writeItems more kept.2 depth false)

theorem writeEntries : ∀ (entries : List (Value × Value)), KeptEntries entries →
    ∀ depth isFirst, P (Json.writeEntries depth isFirst entries)
  | [], _, _, _ => composed.visible (s := []) (by decide)
  | (key, value) :: more, kept, depth, isFirst => by
      obtain ⟨⟨name, rfl, whole⟩, hvalue, hmore⟩ := kept
      have first := composed.append (composed.visible (visible_separator depth isFirst))
        (composed.string whole)
      have colon := composed.cons (c := ':') (by decide)
        (composed.cons (c := ' ') (by decide) (write value hvalue depth))
      exact composed.append (composed.append first colon) (writeEntries more hmore depth false)

end

end Composed

/-- A text without control characters, line feeds apart. -/
def Plain (s : List Char) : Prop :=
  ∀ c ∈ s, c = '\n' ∨ 0x20 ≤ c.toNat

/-- **A document has no control characters but line feeds.** -/
theorem composed_plain : Composed Plain where
  visible := fun visible c hc => (visible c hc).imp_right And.left
  append := fun hs ht => List.forall_mem_append.mpr ⟨hs, ht⟩
  string := by
    intro s _
    have inside : ∀ d ∈ s.toList.flatMap escaped, d = '\n' ∨ 0x20 ≤ d.toNat := by
      intro d hd
      obtain ⟨c, -, hd⟩ := List.mem_flatMap.mp hd
      rcases escaped_cases c with visible | ⟨same, hc⟩
      · exact (visible d hd).imp_right And.left
      · rw [same, List.mem_singleton] at hd
        exact hd ▸ Or.inr hc
    have quote : '"' = '\n' ∨ 0x20 ≤ '"'.toNat := by decide
    exact List.forall_mem_append.mpr
      ⟨List.forall_mem_cons.mpr ⟨quote, inside⟩, List.forall_mem_singleton.mpr quote⟩

/-- **A document of whole texts is whole.** -/
theorem composed_whole : Composed Text.Whole where
  visible := Visible.whole
  append := Text.Whole.append
  string := by
    intro s whole
    have inside : Text.Whole (s.toList.flatMap escaped) := by
      generalize s.toList = characters at whole
      induction whole with
      | nil => exact .nil
      | @cons c _ hc _ ih =>
          rw [List.flatMap_cons]
          rcases escaped_cases c with visible | ⟨same, -⟩
          · exact visible.whole.append ih
          · rw [same]
            exact .cons hc ih
      | mark _ ih => exact .mark ih
    have quote : Visible ['"'] := by decide
    exact (Text.Whole.cons (by decide) inside).append quote.whole

/-- A text without control characters passes through streams and line ends as
it is. -/
theorem Plain.not_mem {s : List Char} (h : Plain s) {c : Char} (hc : c.toNat < 0x20)
    (hne : c ≠ '\n') : c ∉ s := by
  intro mem
  rcases h c mem with same | visible
  · exact hne same
  · omega

/-! ## §6. Files. -/

/-- The text of a document, with a line end behind it. -/
def documentLine (value : Value) : String :=
  String.ofList (document value) ++ "\n"

theorem toList_documentLine (value : Value) :
    (documentLine value).toList = document value ++ ['\n'] := by
  rw [documentLine, String.toList_append, String.toList_ofList]
  rfl

theorem Composed.documentLine {P : List Char → Prop} (composed : Composed P) {value : Value}
    (kept : value.Kept) : P (documentLine value).toList := by
  rw [toList_documentLine]
  exact composed.append (composed.write value kept 0) (composed.visible (by decide))

end Json

namespace Cli

open Json Text

/-- **A document has bytes, which stand for its value.** -/
theorem exists_printed_document {value : Value} (kept : value.Kept) :
    ∃ printed : String, decoded? (documentLine value).toList = some printed.toList
      ∧ treeOfBytes (Utf8.encode printed.toList) = .ok value := by
  have plain := composed_plain.documentLine kept
  obtain ⟨characters, hprinted⟩ := whole_iff.mp (composed_whole.documentLine kept)
  refine ⟨String.ofList characters, by rw [String.toList_ofList]; exact hprinted, ?_⟩
  rw [treeOfBytes, String.toList_ofList, Utf8.decode_encode]
  show (read (Newline.unify (coded characters))).mapError InputError.document = _
  rw [coded_of_decoded? hprinted, Newline.unify_eq_self (plain.not_mem (by decide) (by decide)),
    toList_documentLine, read_document kept]
  rfl

end Cli

end Stylesheet
