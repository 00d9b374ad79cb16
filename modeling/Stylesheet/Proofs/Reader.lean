/-
  Stylesheet.Proofs.Reader
  ────────────────────────
  **READING A PRINTED SHEET BACK.**

  The text of a sheet tells its keys and selectors, the names of its
  declarations without their markers, and the values as they are printed; it
  does not tell a number from its text.  A reader that goes over the lines
  from the first to the last finds all this again.  It needs no escapes: what
  a line is follows from where it stands and how it ends, and only line feeds
  inside a text, and a colon before a blank inside a name, could mislead it.

  Main statements:
    * `readLines_of_legible` — the reader finds the parts of a sheet again,
      one line at a time;
    * `readSheet_lines` — the same on the text of a sheet;
    * `print_eq_iff_passages_eq` — two sheets print the same just when their
      texts tell the same.
-/
import Mathlib.Data.List.Infix
import Stylesheet.Proofs.LineFeed
import Stylesheet.Proofs.Printing

namespace Stylesheet

open AtRule Condition Property

/-! ## §1. What the text of a sheet tells. -/

/-- A part of a sheet as its text tells it. -/
inductive Passage where
  /-- A flat rule with a single value. -/
  | statement (text : String)
  /-- A selector or a flat rule with declarations. -/
  | block (head : String) (declarations : List (String × String))
  /-- A grouping rule with its selectors. -/
  | group (head : String) (rules : List (String × List (String × String)))

/-- Declarations as their text tells them. -/
def Declarations.told (d : Declarations) : List (String × String) :=
  d.entries.map fun e => (withoutMarker (ofKey e.1), e.2.printed)

/-- An item as its text tells it. -/
def Item.passage (key : String) : Item → Passage
  | .statement value => .statement (key ++ " " ++ value.printed)
  | .block declarations => .block key declarations.told
  | .group rules => .group key (rules.entries.map fun e => (e.1, e.2.told))

/-- A sheet as its text tells it. -/
def Sheet.passages (sheet : Sheet) : List Passage :=
  sheet.entries.map fun e => e.2.passage e.1

/-- The line of a declaration that is told. -/
def toldLine (depth : Nat) (declaration : String × String) : Line :=
  ⟨depth, declaration.1 ++ ": " ++ declaration.2 ++ ";"⟩

/-- The lines of told declarations with their head. -/
def toldLines (depth : Nat) (head : String) (declarations : List (String × String)) : List Line :=
  blockLines depth head (declarations.map (toldLine (depth + 1)))

/-- The lines of a passage. -/
def Passage.lines : Passage → List Line
  | .statement text => [⟨0, text ++ ";"⟩]
  | .block head declarations => toldLines 0 head declarations
  | .group head rules => blockLines 0 head (rules.flatMap fun rule => toldLines 1 rule.1 rule.2)

theorem Declarations.lines_eq_told (depth : Nat) (head : String) (d : Declarations) :
    d.lines depth head = toldLines depth head d.told := by
  rw [lines, declarationsLines, toldLines, told, List.map_map, List.map_map]
  rfl

/-- The lines of a sheet are those of what it tells. -/
theorem Sheet.lines_eq_passages (sheet : Sheet) :
    sheet.lines = sheet.passages.flatMap Passage.lines := by
  rw [lines, passages, List.flatMap_map]
  apply List.flatMap_congr
  intro e _
  cases e.2 with
  | statement value => rfl
  | block d => exact d.lines_eq_told 0 e.1
  | group rules =>
      show blockLines 0 e.1 _ = blockLines 0 e.1 _
      rw [List.flatMap_map]
      congr 1
      apply List.flatMap_congr
      intro rule _
      exact rule.2.lines_eq_told 1 rule.1

/-! ## §2. Legible texts. -/

/-- A colon before a blank, as it stands between a name and a value. -/
def separator : List Char := [':', ' ']

/-- A declaration on one line whose name has no separator. -/
def LegibleDeclaration (declaration : String × String) : Prop :=
  OneLine declaration.1.toList ∧ OneLine declaration.2.toList
    ∧ ¬separator <:+: declaration.1.toList

/-- A passage whose texts are on one line each, and whose head tells whether
it groups. -/
def Passage.Legible : Passage → Prop
  | .statement text => OneLine text.toList
  | .block head declarations =>
      OneLine head.toList ∧ ¬IsGroup head ∧ ∀ d ∈ declarations, LegibleDeclaration d
  | .group head rules =>
      OneLine head.toList ∧ IsGroup head
        ∧ ∀ rule ∈ rules, OneLine rule.1.toList ∧ ∀ d ∈ rule.2, LegibleDeclaration d

/-- No name and no text value has a line feed, and no name has a separator
when it is printed. -/
def Declarations.Legible (d : Declarations) : Prop :=
  ∀ e ∈ d.entries, OneLine e.1.toList ∧ (∀ s ∈ e.2.text?, OneLine s.toList)
    ∧ ¬separator <:+: (withoutMarker (ofKey e.1)).toList

/-- An item without line feeds in its texts and separators in its names. -/
def Item.Legible : Item → Prop
  | .statement value => ∀ s ∈ value.text?, OneLine s.toList
  | .block declarations => declarations.Legible
  | .group rules => ∀ e ∈ rules.entries, OneLine e.1.toList ∧ e.2.Legible

/-- No key, no name and no text value of a sheet has a line feed, and no name
has a separator when it is printed. -/
def Sheet.Legible (sheet : Sheet) : Prop :=
  ∀ e ∈ sheet.entries, OneLine e.1.toList ∧ e.2.Legible

instance (d : Declarations) : Decidable d.Legible := inferInstanceAs (Decidable (∀ e ∈ _, _))

instance (item : Item) : Decidable item.Legible :=
  match item with
  | .statement value => inferInstanceAs (Decidable (∀ s ∈ value.text?, _))
  | .block declarations => inferInstanceAs (Decidable declarations.Legible)
  | .group rules => inferInstanceAs (Decidable (∀ e ∈ rules.entries, _))

instance (sheet : Sheet) : Decidable sheet.Legible := inferInstanceAs (Decidable (∀ e ∈ _, _))

theorem Declarations.Legible.told {d : Declarations} (h : d.Legible) :
    ∀ declaration ∈ d.told, LegibleDeclaration declaration := by
  intro declaration hmem
  obtain ⟨e, he, rfl⟩ := List.mem_map.mp hmem
  obtain ⟨name, value, printed⟩ := h e he
  exact ⟨oneLine_withoutMarker (oneLine_ofKey name), Scalar.oneLine_printed value, printed⟩

/-- **A legible item of a regular sheet is a legible passage.** -/
theorem Item.Legible.passage {key : String} {item : Item} (regular : item.Regular key)
    (hkey : OneLine key.toList) (h : item.Legible) : (item.passage key).Legible := by
  cases regular with
  | @statement value =>
      show OneLine (key ++ " " ++ value.printed).toList
      rw [String.toList_append, String.toList_append, oneLine_append, oneLine_append]
      exact ⟨⟨hkey, by decide⟩, Scalar.oneLine_printed h⟩
  | flatBlock hat hkind =>
      exact ⟨hkey, not_isGroup_of_kind hkind (by decide), Declarations.Legible.told h⟩
  | selector rule => exact ⟨hkey, not_isGroup_of_isKey rule.isKey, Declarations.Legible.told h⟩
  | @group rules hgroup hne hrules =>
      refine ⟨hkey, hgroup, ?_⟩
      intro rule hrule
      obtain ⟨e, he, rfl⟩ := List.mem_map.mp hrule
      exact ⟨(h e he).1, (h e he).2.told⟩

theorem Sheet.Legible.passages {sheet : Sheet} (regular : sheet.Regular) (h : sheet.Legible) :
    ∀ passage ∈ sheet.passages, passage.Legible := by
  intro passage hmem
  obtain ⟨e, he, rfl⟩ := List.mem_map.mp hmem
  exact (h e he).2.passage (regular e he) (h e he).1

/-! ## §3. A reader. -/

/-- A text parted at its first separator. -/
def partAtSeparator : List Char → List Char × List Char
  | [] => ([], [])
  | c :: rest =>
      if c = ':' ∧ rest.head? = some ' ' then ([], rest.tail)
      else (c :: (partAtSeparator rest).1, (partAtSeparator rest).2)

/-- What stands before the first separator is a text that has none. -/
theorem partAtSeparator_append {name : List Char} (h : ¬separator <:+: name) (value : List Char) :
    partAtSeparator (name ++ (separator ++ value)) = (name, value) := by
  induction name with
  | nil => simp [partAtSeparator, separator]
  | cons c rest ih =>
      have below : ¬separator <:+: rest := by
        intro inside
        exact h (inside.trans (List.suffix_cons c rest).isInfix)
      -- a colon at the end of the name is followed by a colon, not by a blank
      have here : ¬(c = ':' ∧ (rest ++ (separator ++ value)).head? = some ' ') := by
        intro given
        obtain ⟨rfl, hblank⟩ := given
        cases rest with
        | nil => exact absurd hblank (by simp [separator])
        | cons d others =>
            obtain rfl : d = ' ' := by simpa using hblank
            exact h ⟨[], others, rfl⟩
      rw [List.cons_append, partAtSeparator, if_neg here, ih below]

/-- The declaration that a line tells. -/
def readDeclaration (line : List Char) : String × String :=
  let parts := partAtSeparator line.dropLast
  (String.ofList parts.1, String.ofList parts.2)

theorem readDeclaration_toldLine {declaration : String × String}
    (h : LegibleDeclaration declaration) (depth : Nat) :
    readDeclaration (toldLine depth declaration).text.toList = declaration := by
  have text : (toldLine depth declaration).text.toList
      = declaration.1.toList ++ (separator ++ declaration.2.toList) ++ [';'] := by
    simp [toldLine, separator]
  rw [text, readDeclaration, List.dropLast_concat, partAtSeparator_append h.2.2]
  simp

/-- The head that a line tells which opens a block. -/
def readHead (line : List Char) : String := String.ofList line.dropLast.dropLast

theorem readHead_head (head : String) : readHead (head ++ " \x7b").toList = head := by
  have text : (head ++ " \x7b").toList = head.toList ++ [' '] ++ ['\x7b'] := by simp
  rw [text, readHead, List.dropLast_concat, List.dropLast_concat, String.ofList_toList]

/-- What a reader is inside of. -/
inductive Inside where
  /-- Nothing: the next line is at the top level. -/
  | nothing
  /-- A block of declarations. -/
  | block (head : String) (declarations : List (String × String))
  /-- A grouping rule, between its selectors. -/
  | group (head : String) (rules : List (String × List (String × String)))
  /-- A selector of a grouping rule. -/
  | rule (head : String) (rules : List (String × List (String × String))) (selector : String)
      (declarations : List (String × String))

/-- What a reader has read: passages from the first to the last, and what it
is inside of. -/
structure Reading where
  /-- The passages that are complete. -/
  passages : List Passage
  /-- What is not complete. -/
  inside : Inside

namespace Reading

/-- Read a line. -/
def step (reading : Reading) (line : List Char) : Reading :=
  match reading.inside with
  | .nothing =>
      if line.getLast? = some ';' then
        ⟨reading.passages ++ [.statement (String.ofList line.dropLast)], .nothing⟩
      else if IsGroup (readHead line) then ⟨reading.passages, .group (readHead line) []⟩
      else ⟨reading.passages, .block (readHead line) []⟩
  | .block head declarations =>
      if line = ['\x7d'] then ⟨reading.passages ++ [.block head declarations], .nothing⟩
      else ⟨reading.passages, .block head (declarations ++ [readDeclaration (line.drop 2)])⟩
  | .group head rules =>
      if line = ['\x7d'] then ⟨reading.passages ++ [.group head rules], .nothing⟩
      else ⟨reading.passages, .rule head rules (readHead (line.drop 2)) []⟩
  | .rule head rules selector declarations =>
      if line = [' ', ' ', '\x7d'] then
        ⟨reading.passages, .group head (rules ++ [(selector, declarations)])⟩
      else
        ⟨reading.passages,
          .rule head rules selector (declarations ++ [readDeclaration (line.drop 4)])⟩

end Reading

/-- Read lines one after the other. -/
def readLines (reading : Reading) (lines : List (List Char)) : Reading :=
  lines.foldl Reading.step reading

/-- A line as the default layout writes it, without its end. -/
def Line.written (line : Line) : List Char :=
  List.replicate (2 * line.depth) ' ' ++ line.text.toList

/-- The passages that a text tells. -/
def readSheet (text : String) : List Passage :=
  (readLines ⟨[], .nothing⟩ (text.toList.splitOn '\n').dropLast).passages

/-! ## §4. The reader finds what is told. -/

namespace Reading

variable (passages : List Passage) (head : String) (rules : List (String × List (String × String)))
  (selector : String) (declarations : List (String × String))

theorem step_statement (text : String) :
    step ⟨passages, .nothing⟩ (Line.written ⟨0, text ++ ";"⟩)
      = ⟨passages ++ [.statement text], .nothing⟩ := by
  have line : Line.written ⟨0, text ++ ";"⟩ = text.toList ++ [';'] := by simp [Line.written]
  simp only [step]
  rw [line, List.getLast?_concat, if_pos rfl, List.dropLast_concat, String.ofList_toList]

/-- A head does not end like a statement. -/
theorem step_head :
    step ⟨passages, .nothing⟩ (Line.written ⟨0, head ++ " \x7b"⟩)
      = if IsGroup head then ⟨passages, .group head []⟩ else ⟨passages, .block head []⟩ := by
  have line : Line.written ⟨0, head ++ " \x7b"⟩ = (head ++ " \x7b").toList := by simp [Line.written]
  have last : (head ++ " \x7b").toList.getLast? = some '\x7b' := by simp
  simp only [step]
  rw [line, last, if_neg (by decide), readHead_head]

/-- A declaration is indented, so it does not close the block. -/
theorem step_declaration {declaration : String × String} (h : LegibleDeclaration declaration) :
    step ⟨passages, .block head declarations⟩ (toldLine 1 declaration).written
      = ⟨passages, .block head (declarations ++ [declaration])⟩ := by
  have line : (toldLine 1 declaration).written
      = ' ' :: ' ' :: (toldLine 1 declaration).text.toList := rfl
  simp only [step]
  rw [line, if_neg (by simp), List.drop_succ_cons, List.drop_succ_cons, List.drop_zero,
    readDeclaration_toldLine h]

theorem step_close_block :
    step ⟨passages, .block head declarations⟩ (Line.written ⟨0, "\x7d"⟩)
      = ⟨passages ++ [.block head declarations], .nothing⟩ := rfl

/-- A selector of a grouping rule is indented, so it does not close the
rule. -/
theorem step_selector :
    step ⟨passages, .group head rules⟩ (Line.written ⟨1, selector ++ " \x7b"⟩)
      = ⟨passages, .rule head rules selector []⟩ := by
  have line : Line.written ⟨1, selector ++ " \x7b"⟩
      = ' ' :: ' ' :: (selector ++ " \x7b").toList := rfl
  simp only [step]
  rw [line, if_neg (by simp), List.drop_succ_cons, List.drop_succ_cons, List.drop_zero,
    readHead_head]

/-- A declaration below it is indented once more. -/
theorem step_grouped_declaration {declaration : String × String}
    (h : LegibleDeclaration declaration) :
    step ⟨passages, .rule head rules selector declarations⟩ (toldLine 2 declaration).written
      = ⟨passages, .rule head rules selector (declarations ++ [declaration])⟩ := by
  have line : (toldLine 2 declaration).written
      = ' ' :: ' ' :: ' ' :: ' ' :: (toldLine 2 declaration).text.toList := rfl
  simp only [step]
  rw [line, if_neg (by simp), List.drop_succ_cons, List.drop_succ_cons, List.drop_succ_cons,
    List.drop_succ_cons, List.drop_zero, readDeclaration_toldLine h]

theorem step_close_selector :
    step ⟨passages, .rule head rules selector declarations⟩ (Line.written ⟨1, "\x7d"⟩)
      = ⟨passages, .group head (rules ++ [(selector, declarations)])⟩ := rfl

theorem step_close_group :
    step ⟨passages, .group head rules⟩ (Line.written ⟨0, "\x7d"⟩)
      = ⟨passages ++ [.group head rules], .nothing⟩ := rfl

end Reading

theorem readLines_cons (reading : Reading) (line : List Char) (lines : List (List Char)) :
    readLines reading (line :: lines) = readLines (reading.step line) lines := rfl

theorem readLines_append (reading : Reading) (lines others : List (List Char)) :
    readLines reading (lines ++ others) = readLines (readLines reading lines) others := by
  rw [readLines, List.foldl_append]
  rfl

/-- Lines that add their item to a state, item by item, add all items. -/
theorem readLines_flatMap {α : Type} {lines : α → List (List Char)} {items : List α}
    (state : List α → Reading)
    (h : ∀ done, ∀ a ∈ items, readLines (state done) (lines a) = state (done ++ [a])) :
    readLines (state []) (items.flatMap lines) = state items := by
  -- what is done grows at its end while the items go from the front
  have all : ∀ done, readLines (state done) (items.flatMap lines) = state (done ++ items) := by
    induction items with
    | nil =>
        intro done
        rw [List.append_nil]
        rfl
    | cons a rest ih =>
        intro done
        have others := ih fun done b hb => h done b (List.mem_cons_of_mem _ hb)
        rw [List.flatMap_cons, readLines_append, h done a List.mem_cons_self, others,
          List.append_assoc]
        rfl
  exact all []

/-- The lines of a block as they are written. -/
theorem written_blockLines (depth : Nat) (head : String) (contents : List Line) :
    (blockLines depth head contents).map Line.written
      = Line.written ⟨depth, head ++ " \x7b"⟩ :: (contents.map Line.written
        ++ [Line.written ⟨depth, "\x7d"⟩]) := by
  rw [blockLines, List.map_append]
  rfl

/-- The selector of a grouping rule is read with its declarations. -/
theorem readLines_selector {passages : List Passage} {head : String}
    {rules : List (String × List (String × String))} {rule : String × List (String × String)}
    (h : ∀ d ∈ rule.2, LegibleDeclaration d) :
    readLines ⟨passages, .group head rules⟩ ((toldLines 1 rule.1 rule.2).map Line.written)
      = ⟨passages, .group head (rules ++ [rule])⟩ := by
  have contents : readLines ⟨passages, .rule head rules rule.1 []⟩
      ((rule.2.map (toldLine 2)).map Line.written) = ⟨passages, .rule head rules rule.1 rule.2⟩ := by
    rw [List.map_map, List.map_eq_flatMap]
    exact readLines_flatMap (fun done => ⟨passages, .rule head rules rule.1 done⟩)
      fun done d hd => Reading.step_grouped_declaration passages head rules rule.1 done (h d hd)
  rw [toldLines, written_blockLines, readLines_cons, Reading.step_selector, readLines_append,
    contents, readLines_cons, Reading.step_close_selector]
  rfl

/-- **A passage is read from the first line to the last.** -/
theorem readLines_passage {passages : List Passage} {passage : Passage} (h : passage.Legible) :
    readLines ⟨passages, .nothing⟩ (passage.lines.map Line.written)
      = ⟨passages ++ [passage], .nothing⟩ := by
  cases passage with
  | statement text => exact Reading.step_statement passages text
  | block head declarations =>
      obtain ⟨-, not_group, legible⟩ := h
      have contents : readLines ⟨passages, .block head []⟩
          ((declarations.map (toldLine 1)).map Line.written)
            = ⟨passages, .block head declarations⟩ := by
        rw [List.map_map, List.map_eq_flatMap]
        exact readLines_flatMap (fun done => ⟨passages, .block head done⟩)
          fun done d hd => Reading.step_declaration passages head done (legible d hd)
      rw [Passage.lines, toldLines, written_blockLines, readLines_cons,
        Reading.step_head, if_neg not_group, readLines_append, contents, readLines_cons,
        Reading.step_close_block]
      rfl
  | group head rules =>
      obtain ⟨-, group, legible⟩ := h
      have contents : readLines ⟨passages, .group head []⟩
          ((rules.flatMap fun rule => toldLines 1 rule.1 rule.2).map Line.written)
            = ⟨passages, .group head rules⟩ := by
        rw [List.map_flatMap]
        exact readLines_flatMap (fun done => ⟨passages, .group head done⟩)
          fun done rule hrule => readLines_selector (legible rule hrule).2
      rw [Passage.lines, written_blockLines, readLines_cons, Reading.step_head, if_pos group,
        readLines_append, contents, readLines_cons, Reading.step_close_group]
      rfl

/-- **The reader finds legible passages again.** -/
theorem readLines_of_legible {passages : List Passage} (h : ∀ p ∈ passages, p.Legible) :
    readLines ⟨[], .nothing⟩ ((passages.flatMap Passage.lines).map Line.written)
      = ⟨passages, .nothing⟩ := by
  rw [List.map_flatMap]
  exact readLines_flatMap (fun done => ⟨done, .nothing⟩)
    fun done passage hp => readLines_passage (h passage hp)

/-! ## §5. From the text to its lines. -/

/-- A step of indentation in the default layout is two blanks. -/
theorem toList_padded (line : Line) : (({} : SheetLayout).padded line).toList = line.written := by
  have indent : ∀ depth : Nat, (String.join (List.replicate depth "  ")).toList
      = List.replicate (2 * depth) ' ' := by
    intro depth
    rw [String.toList_join]
    induction depth with
    | zero => rfl
    | succ n ih =>
        rw [List.replicate_succ, List.flatMap_cons, ih, Nat.mul_succ, Nat.add_comm,
          List.replicate_add]
        rfl
  rw [SheetLayout.padded, String.toList_append, SheetLayout.pad, indent]
  rfl

theorem toList_lines (lines : List Line) :
    (({} : SheetLayout).lines lines).toList
      = lines.flatMap fun line => line.written ++ ['\n'] := by
  rw [SheetLayout.lines, String.toList_join, List.flatMap_map]
  refine List.flatMap_congr fun line _ => ?_
  rw [String.toList_append, toList_padded]
  rfl

/-- Lines that have no line feed inside are parted at those at their ends;
nothing stands behind the last. -/
theorem splitOn_lines {lines : List Line} (h : ∀ line ∈ lines, OneLine line.written) :
    (({} : SheetLayout).lines lines).toList.splitOn '\n' = lines.map Line.written ++ [[]] := by
  rw [toList_lines]
  induction lines with
  | nil => rfl
  | cons line rest ih =>
      rw [List.flatMap_cons, List.append_assoc, List.singleton_append,
        List.splitOn_append_cons_self_of_not_mem (h line List.mem_cons_self),
        ih fun other hother => h other (List.mem_cons_of_mem _ hother)]
      rfl

theorem oneLine_written {line : Line} (h : OneLine line.text.toList) : OneLine line.written :=
  oneLine_append.mpr ⟨oneLine_replicate (by decide) _, h⟩

theorem oneLine_blockLines {depth : Nat} {head : String} {contents : List Line}
    (hhead : OneLine head.toList) (h : ∀ line ∈ contents, OneLine line.written) :
    ∀ line ∈ blockLines depth head contents, OneLine line.written := by
  intro line hline
  rw [blockLines, List.mem_append, List.mem_cons, List.mem_singleton] at hline
  rcases hline with (rfl | inside) | rfl
  · refine oneLine_written ?_
    rw [String.toList_append, oneLine_append]
    exact ⟨hhead, by decide⟩
  · exact h line inside
  · exact oneLine_written (by show OneLine "\x7d".toList; decide)

theorem oneLine_toldLines {depth : Nat} {head : String} {declarations : List (String × String)}
    (hhead : OneLine head.toList) (h : ∀ d ∈ declarations, LegibleDeclaration d) :
    ∀ line ∈ toldLines depth head declarations, OneLine line.written := by
  refine oneLine_blockLines hhead fun line hline => ?_
  obtain ⟨d, hd, rfl⟩ := List.mem_map.mp hline
  obtain ⟨name, value, -⟩ := h d hd
  refine oneLine_written ?_
  rw [toldLine, String.toList_append, String.toList_append, String.toList_append, oneLine_append,
    oneLine_append, oneLine_append]
  exact ⟨⟨⟨name, by decide⟩, value⟩, by decide⟩

/-- The lines of a legible passage have no line feed inside. -/
theorem Passage.Legible.oneLine {passage : Passage} (h : passage.Legible) :
    ∀ line ∈ passage.lines, OneLine line.written := by
  cases passage with
  | statement text =>
      intro line hline
      obtain rfl := List.mem_singleton.mp hline
      refine oneLine_written ?_
      rw [String.toList_append, oneLine_append]
      exact ⟨h, by decide⟩
  | block head declarations => exact oneLine_toldLines h.1 h.2.2
  | group head rules =>
      refine oneLine_blockLines h.1 fun line hline => ?_
      obtain ⟨rule, hrule, inside⟩ := List.mem_flatMap.mp hline
      exact oneLine_toldLines (h.2.2 rule hrule).1 (h.2.2 rule hrule).2 line inside

/-- **The reader finds on the text of a sheet what it tells.** -/
theorem readSheet_lines {sheet : Sheet} (regular : sheet.Regular) (h : sheet.Legible) :
    readSheet (({} : SheetLayout).lines sheet.lines) = sheet.passages := by
  have legible := Sheet.Legible.passages regular h
  have inside : ∀ line ∈ sheet.passages.flatMap Passage.lines, OneLine line.written := by
    intro line hline
    obtain ⟨passage, hp, hmem⟩ := List.mem_flatMap.mp hline
    exact (legible passage hp).oneLine line hmem
  rw [readSheet, sheet.lines_eq_passages, splitOn_lines inside, List.dropLast_concat,
    readLines_of_legible legible]

/-- A brace and a semicolon inside a value do not end anything. -/
example : readSheet "a \x7b\n  b: \x7d; c;\n\x7d\n" = [.block "a" [("b", "\x7d; c")]] := rfl

/-! ## §6. Sheets that print the same. -/

/-- **Two sheets print the same just when their texts tell the same**: keys,
selectors, names without markers, and values as they are printed, in their
order; provided that either is printed at all, for which all its values have
to be such as can be written. -/
theorem print_eq_iff_passages_eq {tree other : Value} {sheet second : Sheet}
    (h : (flatten tree).result = .ok sheet) (hother : (flatten other).result = .ok second)
    (legible : sheet.Legible) (legible' : second.Legible) :
    (∃ text, (printSheet sheet.toValue {}).result = .ok text
        ∧ (printSheet second.toValue {}).result = .ok text)
      ↔ sheet.isWritable = true ∧ second.isWritable = true ∧ sheet.passages = second.passages := by
  have regular := regular_of_flatten h
  have regular' := regular_of_flatten hother
  simp only [result_printSheet regular, result_printSheet regular',
    Traced.result_ifWritable_eq_ok_iff]
  constructor
  · -- one text has one reading
    rintro ⟨text, ⟨writable, first⟩, writable', same⟩
    refine ⟨writable, writable', ?_⟩
    rw [← readSheet_lines regular legible, ← readSheet_lines regular' legible', first, same]
  · rintro ⟨writable, writable', same⟩
    refine ⟨_, ⟨writable, rfl⟩, writable', ?_⟩
    rw [sheet.lines_eq_passages, second.lines_eq_passages, same]

/-- A tree with several values for two properties, all of them texts. -/
def numberedSheet : Value :=
  .map [("@charset", "utf-8"),
    ("@media print", .map [("a", .map [("minWidth", .list ["1px", "2"])])]),
    ("@font-face", .map [("src", .list ["u"])])]

/-- A tree with other markers, and with a number for one of the texts. -/
def otherwiseNumberedSheet : Value :=
  .map [("@charset", "utf-8"),
    ("@media print", .map [("a", .map [("min-width", "1px"),
      ("min-width/*4*/", .scalar (.int 2))])]),
    ("@font-face", .map [("src/*3*/", "u")])]

theorem print_eq_iff_passages_eq_numberedSheet :
    ∃ sheet second, (flatten numberedSheet).result = .ok sheet
      ∧ (flatten otherwiseNumberedSheet).result = .ok second
      ∧ sheet.Legible ∧ second.Legible ∧ sheet ≠ second
      ∧ ((∃ text, (printSheet sheet.toValue {}).result = .ok text
          ∧ (printSheet second.toValue {}).result = .ok text)
        ↔ sheet.isWritable = true ∧ second.isWritable = true
          ∧ sheet.passages = second.passages) := by
  have accepted : (flatten numberedSheet).result = .ok _ := rfl
  have accepted' : (flatten otherwiseNumberedSheet).result = .ok _ := rfl
  exact ⟨_, _, accepted, accepted', by decide, by decide, by decide,
    print_eq_iff_passages_eq accepted accepted' (by decide) (by decide)⟩

end Stylesheet
