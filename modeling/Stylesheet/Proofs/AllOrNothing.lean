/-
  Stylesheet.Proofs.AllOrNothing
  ──────────────────────────────
  **A SHEET IS WRITTEN WHOLE OR NOT AT ALL, UNLESS IT HAS HALVES.**

  A run of `render` looks at its file, reads it, flattens the tree and lays
  the sheet out before it writes anything.  Whatever goes wrong on the way,
  the disk stays as it was and nothing is printed; and once there is a sheet,
  all of it goes to one place, the output file or the stream.

  There is one way for a run to fail later.  The output file is opened, and
  so emptied, before the sheet is turned into bytes, and a text with half of
  a pair has none.  Such a run fails and leaves an empty file where there may
  have been an older sheet.

  Main statements:
    * `withTree_cases`, `withResult_cases`, `writeSheet_ends` — one step
      after the other either goes on or ends the run;
    * `runRender_cases` — a run comes to its sheet or fails;
    * `render_all_or_nothing_iff` — for every disk and every command line,
      which runs write all or nothing;
    * `render_halfFiles_empties` — one that does not.
-/
import Stylesheet.Proofs.CommandLine
import Stylesheet.Proofs.Pipeline

namespace Stylesheet.Cli

open Text

/-! ## §1. What can be seen of a run. -/

namespace Outcome

/-- The exit code. -/
def exitCode : Outcome → Nat
  | usage => 2
  | crashed .. => 1
  | ended exit .. => exit

/-- The text on the standard stream. -/
def printed : Outcome → String
  | ended _ stdout .. => stdout
  | _ => ""

/-- The disk after a run that began with the given one. -/
def diskAfter (before : Disk) : Outcome → Disk
  | usage => before
  | crashed _ disk | ended _ _ _ disk => disk

/-- A run that fails and leaves nothing behind. -/
structure Fails (before : Disk) (outcome : Outcome) : Prop where
  /-- The exit code tells of the failure. -/
  exitCode : outcome.exitCode ≠ 0
  /-- Nothing is printed. -/
  printed : outcome.printed = ""
  /-- The disk stays as it was. -/
  disk : outcome.diskAfter before = before

/-- A run that fails and leaves an empty file behind. -/
structure Empties (before : Disk) (location : Location) (outcome : Outcome) : Prop where
  /-- The exit code tells of the failure. -/
  exitCode : outcome.exitCode ≠ 0
  /-- Nothing is printed. -/
  printed : outcome.printed = ""
  /-- There is nothing in the file at the location. -/
  disk : outcome.diskAfter before = before.put location []

end Outcome

namespace Disk

/-- One disk has a text in one of its files, and is otherwise another. -/
structure Wrote (before after : Disk) (location : Location) (text : String) : Prop where
  /-- The file holds the text. -/
  text : ∃ bytes characters, after.files.get? location = some bytes
    ∧ Utf8.decode bytes = .ok characters ∧ coded characters = text.toList
  /-- The other files are the same. -/
  others : ∀ other ≠ location, after.files.get? other = before.files.get? other
  /-- So are the directories. -/
  directories : after.directories = before.directories

/-- The sheet of a file, laid out. -/
def HasSheet (disk : Disk) (file : String) (indent : Nat) (text : String) : Prop :=
  ∃ bytes tree, disk.find file = .file bytes ∧ treeOfBytes bytes = .ok tree
    ∧ (printTree tree (.spaces indent)).result = .ok text

/-- A file has one sheet. -/
theorem HasSheet.unique {disk : Disk} {file text other : String} {indent : Nat}
    (h : disk.HasSheet file indent text) (h' : disk.HasSheet file indent other) : other = text := by
  obtain ⟨bytes, tree, hfile, htree, htext⟩ := h
  obtain ⟨bytes', tree', hfile', htree', hother⟩ := h'
  obtain rfl := Node.file.inj (hfile.symm.trans hfile')
  obtain rfl := Except.ok.inj (htree.symm.trans htree')
  exact Except.ok.inj (hother.symm.trans htext)

/-- The output file can be written, if there is one. -/
def HasPlace (disk : Disk) (output : Option String) : Prop :=
  ∀ path, output = some path → ∃ location, disk.place? path = some location

theorem hasPlace_of_place? {disk : Disk} {path : String} {location : Location}
    (h : disk.place? path = some location) : disk.HasPlace (some path) :=
  fun _ same => ⟨location, Option.some.inj same ▸ h⟩

/-- Arguments ask for a sheet that their file has, to be printed or to be
written to a file. -/
def IsAskedFor (disk : Disk) (arguments : List String) (output : Option String) (text : String) :
    Prop :=
  ∃ verbose file indent,
    Request.read arguments = some (.command verbose (.render file output indent))
      ∧ disk.HasSheet file indent text

theorem IsAskedFor.unique {disk : Disk} {arguments : List String} {output output' : Option String}
    {text text' : String} (h : disk.IsAskedFor arguments output text)
    (h' : disk.IsAskedFor arguments output' text') : output' = output ∧ text' = text := by
  obtain ⟨verbose, file, indent, hread, hasSheet⟩ := h
  obtain ⟨_, _, _, hread', hasSheet'⟩ := h'
  cases hread.symm.trans hread'
  exact ⟨rfl, hasSheet.unique hasSheet'⟩

end Disk

/-- The text that goes to a file, or to the stream if there is none. -/
def delivered (output : Option String) (text : String) : String :=
  match output with
  | none => echo text
  | some _ => text

/-- A run that delivers a text to a file, or to the stream if there is none. -/
def Outcome.Delivers (before : Disk) (output : Option String) (text : String) (outcome : Outcome) :
    Prop :=
  outcome.exitCode = 0 ∧ match output with
    | none => coded outcome.printed.toList = (echo text).toList ∧ outcome.diskAfter before = before
    | some path => outcome.printed = "" ∧ ∃ location, before.place? path = some location
        ∧ before.Wrote (outcome.diskAfter before) location text

/-- A run writes all or nothing: when it does not succeed, nothing is printed
and no file has changed; when it does, it delivers the sheet that it was asked
for. -/
structure Disk.AllOrNothing (disk : Disk) (arguments : List String) : Prop where
  /-- A run that does not succeed. -/
  nothing : (run disk arguments).exitCode ≠ 0 →
    (run disk arguments).printed = "" ∧ (run disk arguments).diskAfter disk = disk
  /-- A run that succeeds. -/
  all : (run disk arguments).exitCode = 0 → ∃ output text,
    disk.IsAskedFor arguments output text ∧ (run disk arguments).Delivers disk output text

/-- A run that fails and leaves nothing behind writes nothing. -/
theorem Outcome.Fails.allOrNothing {disk : Disk} {arguments : List String}
    (h : (run disk arguments).Fails disk) : disk.AllOrNothing arguments :=
  ⟨fun _ => ⟨h.printed, h.disk⟩, fun exit => absurd exit h.exitCode⟩

/-- How a run ends that has a text to deliver. -/
inductive Ends (disk : Disk) (output : Option String) (text : String) (outcome : Outcome) :
    Prop where
  /-- The text is delivered. -/
  | delivered (place : disk.HasPlace output) (whole : Whole (delivered output text).toList)
      (delivers : outcome.Delivers disk output text)
  /-- There is no place for the text, or it has halves and is not printed. -/
  | refused (fails : outcome.Fails disk)
      (reason : disk.HasPlace output → output = none ∧ ¬Whole (echo text).toList)
  /-- The text has halves, and its file is empty. -/
  | emptied {path : String} {location : Location} (file : output = some path)
      (place : disk.place? path = some location) (torn : ¬Whole text.toList)
      (empties : outcome.Empties disk location)

/-! ## §2. Step by step. -/

section Steps

variable {disk : Disk}

theorem fails_usage : Outcome.usage.Fails disk := ⟨by decide, rfl, rfl⟩

theorem fails_crashed (cause : Crash) : (Outcome.crashed cause disk).Fails disk :=
  ⟨Nat.one_ne_zero, rfl, rfl⟩

theorem fails_failed (log message : String) : (failed disk log message).Fails disk :=
  ⟨Nat.one_ne_zero, rfl, rfl⟩

/-- A file has a tree to go on with, or the run fails. -/
theorem withTree_cases (disk : Disk) (file : String) (next : Value → Outcome) :
    (∃ bytes tree, disk.find file = .file bytes ∧ treeOfBytes bytes = .ok tree
        ∧ withTree disk file next = next tree)
      ∨ (withTree disk file next).Fails disk
        ∧ ∀ bytes tree, disk.find file = .file bytes → treeOfBytes bytes ≠ .ok tree := by
  cases hfile : disk.find file with
  | file bytes =>
      cases htree : treeOfBytes bytes with
      | ok tree => exact Or.inl ⟨bytes, tree, rfl, htree, withTree_of_ok hfile htree next⟩
      | error error =>
          refine Or.inr ⟨?_, ?_⟩
          · simp only [withTree, hfile, htree]
            split
            · exact fails_failed _ _
            · exact fails_crashed _
          · intro bytes' tree same found
            obtain rfl := Disk.Node.file.inj same
            rw [htree] at found
            cases found
  | directory | nothing =>
      refine Or.inr ⟨?_, ?_⟩
      · simp only [withTree, hfile]
        exact fails_usage
      · intro _ _ found
        cases found

/-- A computation has a result to go on with, or the run fails. -/
theorem withResult_cases {α : Type} (disk : Disk) (verbose : Bool) (traced : Traced α)
    (next : String → α → Outcome) :
    (∃ a, traced.result = .ok a
        ∧ withResult disk verbose traced next = next (log verbose traced.events) a)
      ∨ (withResult disk verbose traced next).Fails disk ∧ ∀ a, traced.result ≠ .ok a := by
  cases h : traced.result with
  | ok a => exact Or.inl ⟨a, rfl, withResult_of_ok h next⟩
  | error error =>
      refine Or.inr ⟨?_, nofun⟩
      simp only [withResult, h]
      split
      · exact fails_crashed _
      · exact fails_failed _ _

/-- What is put into a file is there, and nothing else has changed. -/
theorem wrote_put (disk : Disk) (location : Location) {text : String} {characters : List Char}
    (h : decoded? text.toList = some characters) :
    disk.Wrote (disk.put location (Utf8.encode characters)) location text where
  text := ⟨_, characters, Table.get?_write_self _ location _, Utf8.decode_encode characters,
    coded_of_decoded? h⟩
  others := fun _ hne => Table.get?_write_of_ne hne _ _
  directories := rfl

/-- A text that is not whole cannot be turned into characters. -/
theorem not_whole_of_decoded? {s : List Char} (h : decoded? s = none) : ¬Whole s := by
  intro whole
  obtain ⟨characters, some⟩ := whole_iff.mp whole
  rw [h] at some
  cases some

/-- **A sheet is written, or its file is empty, or the path takes none.** -/
theorem writeSheet_ends (disk : Disk) (path log text : String) :
    Ends disk (some path) text (writeSheet disk path log text) := by
  unfold writeSheet
  cases hplace : disk.place? path with
  | none =>
      refine .refused (fails_crashed _) fun place => ?_
      obtain ⟨location, found⟩ := place path rfl
      rw [hplace] at found
      cases found
  | some location =>
      cases htext : decoded? text.toList with
      | none =>
          exact .emptied rfl hplace (not_whole_of_decoded? htext) ⟨Nat.one_ne_zero, rfl, rfl⟩
      | some characters =>
          exact .delivered (Disk.hasPlace_of_place? hplace) (whole_iff.mpr ⟨characters, htext⟩)
            ⟨rfl, rfl, location, hplace, wrote_put disk location htext⟩

/-- **A sheet is printed, or has halves.** -/
theorem printing_ends (disk : Disk) (log text : String) :
    Ends disk none text (printing disk log text) := by
  unfold printing
  cases htext : decoded? (echo text).toList with
  | none => exact .refused (fails_crashed _) fun _ => ⟨rfl, not_whole_of_decoded? htext⟩
  | some characters =>
      refine .delivered nofun (whole_iff.mpr ⟨characters, htext⟩) ⟨rfl, ?_, rfl⟩
      show coded (String.ofList characters).toList = _
      rw [String.toList_ofList]
      exact coded_of_decoded? htext

/-- The last step of a run: a sheet goes to its file or to the stream. -/
def deliver (disk : Disk) (output : Option String) (log text : String) : Outcome :=
  match output with
  | none => printing disk log text
  | some output => writeSheet disk output log text

theorem deliver_ends (disk : Disk) (output : Option String) (log text : String) :
    Ends disk output text (deliver disk output log text) := by
  cases output with
  | none => exact printing_ends disk log text
  | some path => exact writeSheet_ends disk path log text

/-- A path that leads to a directory takes no file. -/
theorem place?_of_find {path : String} (h : disk.find path = .directory) :
    disk.place? path = none := by
  unfold Disk.find at h
  unfold Disk.place?
  split at h
  · cases h
  · split at h
    · rfl
    · split at h
      · next isDirectory => rw [if_pos isDirectory]
      · split at h
        · split at h <;> cases h
        · cases h

/-- From the file on, a run comes to its sheet or fails. -/
theorem withSheet_cases (disk : Disk) (verbose : Bool) (file : String) (output : Option String)
    (indent : Nat) {outcome : Outcome}
    (h : outcome = withTree disk file fun tree =>
      withResult disk verbose (printTree tree (.spaces indent)) (deliver disk output)) :
    (∃ text, disk.HasSheet file indent text ∧ Ends disk output text outcome)
      ∨ outcome.Fails disk ∧ ∀ text, ¬disk.HasSheet file indent text := by
  subst h
  rcases withTree_cases disk file fun tree =>
    withResult disk verbose (printTree tree (.spaces indent)) (deliver disk output) with
    ⟨bytes, tree, hfile, htree, goesOn⟩ | ⟨fails, noTree⟩
  · rw [goesOn]
    rcases withResult_cases disk verbose (printTree tree (.spaces indent))
      (deliver disk output) with ⟨text, htext, goesOn⟩ | ⟨fails, noText⟩
    · rw [goesOn]
      exact Or.inl ⟨text, ⟨bytes, tree, hfile, htree, htext⟩, deliver_ends disk output _ text⟩
    · refine Or.inr ⟨fails, ?_⟩
      rintro text ⟨_, _, hfile', htree', htext⟩
      obtain rfl := Disk.Node.file.inj (hfile.symm.trans hfile')
      obtain rfl := Except.ok.inj (htree.symm.trans htree')
      exact noText text htext
  · refine Or.inr ⟨fails, ?_⟩
    rintro _ ⟨bytes, tree, hfile, htree, -⟩
    exact noTree bytes tree hfile htree

end Steps

/-! ## §3. Runs. -/

/-- **A run of `render` comes to its sheet or fails.**  It fails before that
only when the file has no sheet or there is no place for it. -/
theorem runRender_cases (disk : Disk) (verbose : Bool) (file : String) (output : Option String)
    (indent : Nat) :
    (∃ text, disk.HasSheet file indent text
        ∧ Ends disk output text (runRender disk verbose file output indent))
      ∨ (runRender disk verbose file output indent).Fails disk
        ∧ ∀ text, disk.HasSheet file indent text → ¬disk.HasPlace output := by
  cases output with
  | none =>
      rcases withSheet_cases disk verbose file none indent rfl with comes | ⟨fails, noSheet⟩
      · exact Or.inl comes
      · exact Or.inr ⟨fails, fun text hasSheet => absurd hasSheet (noSheet text)⟩
  | some path =>
      cases hnode : disk.find path with
      | directory =>
          refine Or.inr ⟨?_, ?_⟩
          · simp only [runRender, Option.map_some, hnode, if_pos]
            exact fails_usage
          · intro _ _ place
            obtain ⟨location, found⟩ := place path rfl
            rw [place?_of_find hnode] at found
            cases found
      | file _ | nothing =>
          have same : runRender disk verbose file (some path) indent
              = withTree disk file fun tree => withResult disk verbose
                (printTree tree (.spaces indent)) (deliver disk (some path)) := by
            simp only [runRender, Option.map_some, hnode, if_neg Bool.false_ne_true]
            rfl
          rcases withSheet_cases disk verbose file (some path) indent same with
            comes | ⟨fails, noSheet⟩
          · exact Or.inl comes
          · exact Or.inr ⟨fails, fun text hasSheet => absurd hasSheet (noSheet text)⟩

/-- **So does a run of any command line for `render`.** -/
theorem run_cases (disk : Disk) {arguments : List String}
    (h : ∀ request, Request.read arguments = some request → request.IsRender) :
    (∃ output text, disk.IsAskedFor arguments output text
        ∧ Ends disk output text (run disk arguments))
      ∨ (run disk arguments).Fails disk
        ∧ ∀ output text, disk.IsAskedFor arguments output text → ¬disk.HasPlace output := by
  cases hread : Request.read arguments with
  | none =>
      refine Or.inr ⟨by rw [run, hread]; exact fails_usage, ?_⟩
      rintro _ _ ⟨_, _, _, asked, -⟩
      rw [hread] at asked
      cases asked
  | some request =>
      have isRender := h request hread
      cases request with
      | version | help => exact isRender.elim
      | command verbose command =>
          cases command with
          | normalize file => exact isRender.elim
          | render file output indent =>
              have same : run disk arguments = runRender disk verbose file output indent := by
                rw [run, hread]
              rw [same]
              rcases runRender_cases disk verbose file output indent with
                ⟨text, hasSheet, ends⟩ | ⟨fails, noPlace⟩
              · exact Or.inl ⟨output, text, ⟨verbose, file, indent, hread, hasSheet⟩, ends⟩
              · refine Or.inr ⟨fails, ?_⟩
                rintro _ text ⟨_, _, _, asked, hasSheet⟩
                cases hread.symm.trans asked
                exact noPlace text hasSheet

section Runs

variable {disk : Disk} {arguments : List String}
  (h : ∀ request, Request.read arguments = some request → request.IsRender)

include h

/-- A run that is asked to write a sheet with halves leaves an empty file. -/
theorem empties_of_torn {path text : String} {location : Location}
    (asked : disk.IsAskedFor arguments (some path) text) (place : disk.place? path = some location)
    (torn : ¬Whole text.toList) : (run disk arguments).Empties disk location := by
  have hasPlace := Disk.hasPlace_of_place? place
  rcases run_cases disk h with ⟨output, text', asked', ends⟩ | ⟨-, noPlace⟩
  · obtain ⟨rfl, rfl⟩ := asked.unique asked'
    cases ends with
    | delivered _ whole _ => exact absurd whole torn
    | refused _ reason => exact nomatch (reason hasPlace).1
    | emptied file place' _ empties =>
        obtain rfl := Option.some.inj file
        obtain rfl := Option.some.inj (place.symm.trans place')
        exact empties
  · exact absurd hasPlace (noPlace _ _ asked)

/-- **When a run succeeds.** -/
theorem exitCode_eq_zero_iff : (run disk arguments).exitCode = 0 ↔ ∃ output text,
    disk.IsAskedFor arguments output text ∧ disk.HasPlace output
      ∧ Whole (delivered output text).toList := by
  constructor
  · intro exit
    rcases run_cases disk h with ⟨output, text, asked, ends⟩ | ⟨fails, -⟩
    · cases ends with
      | delivered place whole _ => exact ⟨output, text, asked, place, whole⟩
      | refused fails _ => exact absurd exit fails.exitCode
      | emptied _ _ _ empties => exact absurd exit empties.exitCode
    · exact absurd exit fails.exitCode
  · rintro ⟨output, text, asked, place, whole⟩
    rcases run_cases disk h with ⟨output', text', asked', ends⟩ | ⟨-, noPlace⟩
    · obtain ⟨rfl, rfl⟩ := asked.unique asked'
      cases ends with
      | delivered _ _ delivers => exact delivers.1
      | refused _ reason =>
          obtain ⟨rfl, torn⟩ := reason place
          exact absurd whole torn
      | emptied file _ torn _ =>
          subst file
          exact absurd whole torn
    · exact absurd place (noPlace output text asked)

/-- **When a run writes all or nothing.** -/
theorem allOrNothing_iff : disk.AllOrNothing arguments ↔ ∀ path text location,
    disk.IsAskedFor arguments (some path) text → disk.place? path = some location →
      Whole text.toList ∨ disk.files.get? location = some [] := by
  constructor
  · intro allOrNothing path text location asked place
    by_cases whole : Whole text.toList
    · exact Or.inl whole
    · -- the run leaves the file empty, and no file has changed
      have empties := empties_of_torn h asked place whole
      have same := (allOrNothing.nothing empties.exitCode).2
      rw [empties.disk] at same
      rw [← same]
      exact Or.inr (Table.get?_write_self _ _ _)
  · intro harmless
    rcases run_cases disk h with ⟨output, text, asked, ends⟩ | ⟨fails, -⟩
    · cases ends with
      | delivered _ _ delivers =>
          exact ⟨fun exit => absurd delivers.1 exit, fun _ => ⟨output, text, asked, delivers⟩⟩
      | refused fails _ => exact fails.allOrNothing
      | emptied file place torn empties =>
          -- a file that is empty already is not changed by being emptied
          subst file
          have empty := (harmless _ text _ asked place).resolve_left torn
          have same := empties.disk
          rw [Disk.put, Table.insert_of_get? empty] at same
          exact Outcome.Fails.allOrNothing ⟨empties.exitCode, empties.printed, same⟩
    · exact fails.allOrNothing

end Runs

/-- **Which runs of `render` write all or nothing.**  All do but those that
are asked to write a sheet with halves to a file that is not empty already;
these fail and leave the file empty.  A run succeeds just when its file has a
sheet, there is a place for that, and what goes there has no halves. -/
theorem render_all_or_nothing_iff (disk : Disk) {arguments : List String}
    (h : ∀ request, Request.read arguments = some request → request.IsRender) :
    (disk.AllOrNothing arguments ↔ ∀ path text location,
        disk.IsAskedFor arguments (some path) text → disk.place? path = some location →
          Whole text.toList ∨ disk.files.get? location = some [])
      ∧ (∀ path text location,
          disk.IsAskedFor arguments (some path) text → disk.place? path = some location →
            ¬Whole text.toList → (run disk arguments).Empties disk location)
      ∧ ((run disk arguments).exitCode = 0 ↔ ∃ output text,
          disk.IsAskedFor arguments output text ∧ disk.HasPlace output
            ∧ Whole (delivered output text).toList) :=
  ⟨allOrNothing_iff h, fun _ _ _ => empties_of_torn h, exitCode_eq_zero_iff h⟩

/-- The bytes of a text. -/
def bytesOf (text : String) : List UInt8 := Utf8.encode text.toList

/-- A document. -/
def numberedText : String := "\x7b\"a\": \x7b\"zIndex\": [1, \"\\u001b[1m\"]\x7d\x7d"

/-- The tree of that document. -/
def numberedTree : Value := .map [("a", .map [("zIndex", .list [.scalar (.int 1), "\x1b[1m"])])]

/-- The sheet of that tree, laid out. -/
def numberedSheetText : String := "a \x7b\n    z-index: 1;\n    z-index: \x1b[1m;\n\x7d\n"

/-- A disk with a document, with one that ends too early and with an older
sheet. -/
def threeFiles : Disk where
  files := (((∅ : Table Location _).insert ["tree.json"] (bytesOf numberedText)).insert
    ["broken.json"] (bytesOf "\x7b\"a\": ")).insert ["out.css"] (bytesOf "old\n")
  directories := []

/-- A name at the place of the run takes a file, if it is no directory. -/
theorem Disk.place?_single {disk : Disk} {name : String} (names : namesOf name = [name])
    (hname : name ≠ "..") (file : disk.isDirectory [name] = false) :
    disk.place? name = some [name] := by
  rw [place?, names, follow_single _ hname]
  simp only [file, if_neg Bool.false_ne_true]

theorem render_all_or_nothing_iff_threeFiles :
    ∃ written refused,
      written = run threeFiles ["-v", "render", "tree.json", "-o", "out.css", "--indent=4"]
        ∧ written.exitCode = 0 ∧ written.printed = ""
        ∧ threeFiles.Wrote (written.diskAfter threeFiles) ["out.css"] numberedSheetText
        ∧ refused = run threeFiles ["render", "-o", "out.css", "broken.json"]
        ∧ refused.exitCode ≠ 0 ∧ refused.printed = ""
        ∧ refused.diskAfter threeFiles = threeFiles := by
  have place : threeFiles.place? "out.css" = some ["out.css"] :=
    Disk.place?_single (by decide +kernel) (by decide) (by decide +kernel)
  have sheet : threeFiles.HasSheet "tree.json" 4 numberedSheetText := by
    refine ⟨bytesOf numberedText, numberedTree, ?_, by decide +kernel, by decide +kernel⟩
    exact Disk.find_single (by decide +kernel) (by decide +kernel) (by decide) (by decide +kernel)
      (by decide +kernel)
  have noSheet : ∀ indent text, ¬threeFiles.HasSheet "broken.json" indent text := by
    rintro indent text ⟨bytes, tree, hfile, htree, -⟩
    have found : threeFiles.find "broken.json" = .file (bytesOf "\x7b\"a\": ") :=
      Disk.find_single (by decide +kernel) (by decide +kernel) (by decide) (by decide +kernel)
        (by decide +kernel)
    obtain rfl := Disk.Node.file.inj (found.symm.trans hfile)
    have broken : (treeOfBytes (bytesOf "\x7b\"a\": ")).isOk = false := by decide +kernel
    rw [htree] at broken
    cases broken
  have asked : Request.read ["-v", "render", "tree.json", "-o", "out.css", "--indent=4"]
      = some (.command true (.render "tree.json" (some "out.css") 4)) := by decide +kernel
  have askedToo : Request.read ["render", "-o", "out.css", "broken.json"]
      = some (.command false (.render "broken.json" (some "out.css") 2)) := by decide +kernel
  have whole : Whole numberedSheetText.toList := by decide +kernel
  have asksFor : threeFiles.IsAskedFor
      ["-v", "render", "tree.json", "-o", "out.css", "--indent=4"] (some "out.css")
      numberedSheetText :=
    ⟨true, "tree.json", 4, asked, sheet⟩
  have asksForNothing : ∀ output text,
      ¬threeFiles.IsAskedFor ["render", "-o", "out.css", "broken.json"] output text := by
    rintro output text ⟨_, _, _, asked', hasSheet⟩
    cases askedToo.symm.trans asked'
    exact noSheet _ _ hasSheet
  have isRender : ∀ request,
      Request.read ["-v", "render", "tree.json", "-o", "out.css", "--indent=4"] = some request →
        request.IsRender := fun _ =>
    isRender_of_read (by decide) (by decide) (by rw [asked]; nofun)
  have isRenderToo : ∀ request,
      Request.read ["render", "-o", "out.css", "broken.json"] = some request →
        request.IsRender := fun _ =>
    isRender_of_read (by decide) (by decide) (by rw [askedToo]; nofun)
  obtain ⟨harmless, -, succeeds⟩ := render_all_or_nothing_iff threeFiles isRender
  obtain ⟨harmlessToo, -, possible⟩ := render_all_or_nothing_iff threeFiles isRenderToo
  have all : threeFiles.AllOrNothing
      ["-v", "render", "tree.json", "-o", "out.css", "--indent=4"] := by
    refine harmless.mpr fun path text location asked' _ => Or.inl ?_
    obtain ⟨-, rfl⟩ := asksFor.unique asked'
    exact whole
  have nothing : threeFiles.AllOrNothing ["render", "-o", "out.css", "broken.json"] :=
    harmlessToo.mpr fun path text location asked' _ => absurd asked' (asksForNothing _ _)
  have written := succeeds.mpr ⟨_, _, asksFor, Disk.hasPlace_of_place? place, whole⟩
  have refused : (run threeFiles ["render", "-o", "out.css", "broken.json"]).exitCode ≠ 0 := by
    intro exit
    obtain ⟨output, text, asked', -⟩ := possible.mp exit
    exact asksForNothing output text asked'
  obtain ⟨output, text, asked', delivers⟩ := all.all written
  obtain ⟨rfl, rfl⟩ := asksFor.unique asked'
  obtain ⟨-, quiet, location, found, wrote⟩ := delivers
  obtain rfl := Option.some.inj (place.symm.trans found)
  exact ⟨_, _, rfl, written, quiet, wrote, rfl, refused, nothing.nothing refused⟩

/-- A document with half of a pair. -/
def halfText : String := "\x7b\"a\": \x7b\"b\": \"\\ud800\"\x7d\x7d"

/-- The tree of that document. -/
def halfTree : Value :=
  .map [("a", .map [("b", .text (String.ofList (Point.half 0xd800).coded))])]

/-- The sheet of that tree, laid out. -/
def halfSheetText : String :=
  "a \x7b\n  b: " ++ String.ofList (Point.half 0xd800).coded ++ ";\n\x7d\n"

/-- A disk with that document and an older sheet. -/
def halfFiles : Disk where
  files := ((∅ : Table Location _).insert ["in.json"] (bytesOf halfText)).insert
    ["out.css"] (bytesOf "old\n")
  directories := []

/-- **A run that fails and leaves an empty file.** -/
theorem render_halfFiles_empties :
    ¬halfFiles.AllOrNothing ["render", "-o", "out.css", "in.json"] := by
  have asked : Request.read ["render", "-o", "out.css", "in.json"]
      = some (.command false (.render "in.json" (some "out.css") 2)) := by decide +kernel
  have file : halfFiles.find "in.json" = .file (bytesOf halfText) :=
    Disk.find_single (by decide +kernel) (by decide +kernel) (by decide) (by decide +kernel)
      (by decide +kernel)
  have sheet : (printTree halfTree (.spaces 2)).result = .ok halfSheetText := by decide +kernel
  have hasSheet : halfFiles.HasSheet "in.json" 2 halfSheetText :=
    ⟨bytesOf halfText, halfTree, file, by decide +kernel, sheet⟩
  have place : halfFiles.place? "out.css" = some ["out.css"] :=
    Disk.place?_single (by decide +kernel) (by decide) (by decide +kernel)
  have isRender : ∀ request,
      Request.read ["render", "-o", "out.css", "in.json"] = some request → request.IsRender :=
    fun _ => isRender_of_read (by decide) (by decide) (by rw [asked]; nofun)
  intro allOrNothing
  rcases (allOrNothing_iff isRender).mp allOrNothing "out.css" halfSheetText ["out.css"]
    ⟨false, "in.json", 2, asked, hasSheet⟩ place with whole | empty
  · exact absurd whole (by decide +kernel)
  · exact absurd empty (by decide +kernel)

end Stylesheet.Cli
