/-
  Stylesheet.Proofs.Pipeline
  ──────────────────────────
  **THE FLATTENED TREE IN THE PLACE OF ITS FILE.**

  What `normalize` prints can be read again.  It is the document of the
  sheet, which no stream changes, since a document has no escape characters
  and no carriage returns; and the tree that it holds is the sheet.  A sheet
  without empty selectors flattens to itself, so `render` prints the same
  from that document as from the file it was made of.

  The tree must have no doubles, whose text is not followed here, and no
  halves, which are not printed.  Of integers nothing is asked: those that
  cannot be written are not read either.

  Main statements:
    * `run_normalize`, `run_render` — runs that succeed;
    * `normalize_into_render` — one after the other.
-/
import Stylesheet.Proofs.CommandLine
import Stylesheet.Proofs.FixedPoint
import Stylesheet.Proofs.Kept
import Stylesheet.Proofs.Limit

namespace Stylesheet.Cli

open Json Text

/-! ## §1. Runs that succeed. -/

/-- A text without control characters goes to a stream as it is. -/
theorem echo_of_plain {s : String} (h : Plain s.toList) : echo s = s := by
  rw [echo, Ansi.plain_eq_self (h.not_mem (by decide) (by decide)), String.ofList_toList]

/-- A text without halves is shown in characters. -/
theorem exists_shown {text : String} (whole : Whole text.toList) :
    ∃ shown : String, decoded? (echo text).toList = some shown.toList := by
  have inside : Whole (echo text).toList := by
    rw [echo, String.toList_ofList]
    exact Ansi.whole_plain whole
  obtain ⟨characters, h⟩ := whole_iff.mp inside
  exact ⟨String.ofList characters, by rw [String.toList_ofList]; exact h⟩

section Runs

variable {disk : Disk} {file : String} {bytes : List UInt8} {tree : Value} {arguments : List String}
  {verbose : Bool}

theorem withTree_of_ok (hfile : disk.find file = .file bytes) (htree : treeOfBytes bytes = .ok tree)
    (next : Value → Outcome) : withTree disk file next = next tree := by
  rw [withTree, hfile]
  simp only [htree]

theorem withResult_of_ok {α : Type} {traced : Traced α} {a : α} (h : traced.result = .ok a)
    (next : String → α → Outcome) :
    withResult disk verbose traced next = next (log verbose traced.events) a := by
  rw [withResult, h]

theorem printing_of_decoded? {log text shown : String}
    (h : decoded? (echo text).toList = some shown.toList) :
    printing disk log text = .ended 0 shown log disk := by
  rw [printing, h]
  show Outcome.ended 0 (String.ofList shown.toList) log disk = _
  rw [String.ofList_toList]

/-- A sheet that can be written has a document, and making it is no event. -/
theorem flatDocument_of_isWritable {sheet : Sheet} (hsheet : (flatten tree).result = .ok sheet)
    (writable : sheet.isWritable = true) :
    (flatDocument tree).result = .ok (String.ofList (document sheet.toValue))
      ∧ (flatDocument tree).events = (flatten tree).events := by
  rw [← Sheet.isWritable_toValue] at writable
  have made : (Traced.ifWritable sheet.toValue.isWritable
      (String.ofList (document sheet.toValue)))
        = pure (String.ofList (document sheet.toValue)) := by
    rw [writable]
    rfl
  constructor
  · rw [flatDocument, Traced.result_bind_of_ok hsheet, made]
    rfl
  · rw [flatDocument, Traced.events_bind_of_ok hsheet, made]
    exact List.append_nil _

/-- **A run that prints the flattened tree of a file.** -/
theorem run_normalize (hread : Request.read arguments = some (.command verbose (.normalize file)))
    (hfile : disk.find file = .file bytes) (htree : treeOfBytes bytes = .ok tree) {sheet : Sheet}
    (hsheet : (flatten tree).result = .ok sheet) (writable : sheet.isWritable = true)
    {printed : String}
    (hprinted : decoded? (echo (documentLine sheet.toValue)).toList = some printed.toList) :
    run disk arguments = .ended 0 printed (log verbose (flatten tree).events) disk := by
  obtain ⟨result, events⟩ := flatDocument_of_isWritable hsheet writable
  rw [run, hread]
  show runNormalize disk verbose file = _
  rw [runNormalize, withTree_of_ok hfile htree, withResult_of_ok result, events]
  exact printing_of_decoded? hprinted

/-- **A run that prints the sheet of a file.** -/
theorem run_render {indent : Nat}
    (hread : Request.read arguments = some (.command verbose (.render file none indent)))
    (hfile : disk.find file = .file bytes) (htree : treeOfBytes bytes = .ok tree)
    {text shown : String} (htext : (printTree tree (.spaces indent)).result = .ok text)
    (hshown : decoded? (echo text).toList = some shown.toList) :
    run disk arguments
      = .ended 0 shown (log verbose (printTree tree (.spaces indent)).events) disk := by
  rw [run, hread]
  show runRender disk verbose file none indent = _
  rw [runRender]
  show withTree disk file _ = _
  rw [withTree_of_ok hfile htree, withResult_of_ok htext]
  exact printing_of_decoded? hshown

end Runs

/-! ## §2. One run after the other. -/

/-- **The flattened tree can take the place of its file.**  When a file holds
a tree without doubles and without halves that is accepted, and no selector
of its sheet is without declarations, then `normalize` prints the document of
the sheet, which is read back as the sheet; and `render` prints the same from
a file that holds what `normalize` printed as from the file itself, with any
indent.  Command lines that ask for this are there for every file
(`read_normalize`), and for every indent that can be read (`read_render`). -/
theorem normalize_into_render {disk : Disk} {file : String} {bytes : List UInt8} {tree : Value}
    {sheet : Sheet} (hfile : disk.find file = .file bytes) (htree : treeOfBytes bytes = .ok tree)
    (noFloat : tree.NoFloat) (whole : tree.Whole) (hsheet : (flatten tree).result = .ok sheet)
    (full : sheet.Full) :
    ∃ printed : String, decoded? (documentLine sheet.toValue).toList = some printed.toList
      ∧ (∀ arguments verbose, Request.read arguments = some (.command verbose (.normalize file)) →
          run disk arguments = .ended 0 printed (log verbose (flatten tree).events) disk)
      ∧ treeOfBytes (Utf8.encode printed.toList) = .ok sheet.toValue
      ∧ ∀ indent : Nat, ∃ text shown : String, (printTree tree (.spaces indent)).result = .ok text
        ∧ decoded? (echo text).toList = some shown.toList
        ∧ (∀ arguments verbose,
            Request.read arguments = some (.command verbose (.render file none indent)) →
            run disk arguments
              = .ended 0 shown (log verbose (printTree tree (.spaces indent)).events) disk)
        ∧ ∀ (later : Disk) (copy : String),
            later.find copy = .file (Utf8.encode printed.toList) →
            ∀ arguments verbose,
              Request.read arguments = some (.command verbose (.render copy none indent)) →
              run later arguments
                = .ended 0 shown
                    (log verbose (printTree sheet.toValue (.spaces indent)).events) later := by
  have kept := Sheet.kept_of_flatten ⟨noFloat, isWritable_of_treeOfBytes htree, whole⟩ hsheet
  have again : (flatten sheet.toValue).result = .ok sheet := by
    have regular := regular_of_flatten hsheet
    rw [flatten_toValue regular, (Sheet.prune_eq_self_iff_full regular).mpr full]
  obtain ⟨printed, hprinted, readBack⟩ := exists_printed_document kept.toValue
  have plain := composed_plain.documentLine kept.toValue
  refine ⟨printed, hprinted, ?_, readBack, fun indent => ?_⟩
  · intro arguments verbose hread
    have echoed := hprinted
    rw [← echo_of_plain plain] at echoed
    exact run_normalize hread hfile htree hsheet kept.isWritable echoed
  · obtain ⟨shown, hshown⟩ := exists_shown (SheetLayout.whole_lines indent kept.whole_lines)
    have laidOut := fun {tree} (h : (flatten tree).result = .ok sheet) =>
      (result_printTree_eq_ok_iff h (.spaces indent) _).mpr ⟨kept.isWritable, rfl⟩
    refine ⟨_, shown, laidOut hsheet, hshown, ?_, ?_⟩
    · intro arguments verbose hread
      exact run_render hread hfile htree (laidOut hsheet) hshown
    · intro later copy hcopy arguments verbose hread
      exact run_render hread hcopy readBack (laidOut again) hshown

/-- A document with line ends of two kinds, a name that comes twice, and
characters that strings escape. -/
def quotedText : String :=
  "\x7b\"@charset\": \"x\",\r\n \"p\": \x7b\"content\": \"\\\"\\\\\\u001b[1m\\r\\u00e9\"," ++
  "\n \"zIndex\": -10, \"@media print\": \x7b\"a\": \x7b\"top\": [0, \"0\"]\x7d\x7d\x7d," ++
  " \"@charset\": \"utf-8\"\x7d"

/-- The tree of that document. -/
def quotedTree : Value :=
  .map [("@charset", "utf-8"),
    ("p", .map [("content", "\"\\\x1b[1m\r\u00e9"), ("zIndex", .scalar (.int (-10))),
      ("@media print", .map [("a", .map [("top", .list [.scalar (.int 0), "0"])])])])]

/-- The sheet of that tree. -/
def quotedSheet : Sheet :=
  ⟨[("@charset", .statement (.text "utf-8")),
    ("p", .block ⟨[("content", .text "\"\\\x1b[1m\r\u00e9"), ("z-index", .int (-10))], by decide⟩),
    ("@media print", .group
      ⟨[("p a", ⟨[("top/*0*/", .int 0), ("top/*1*/", .text "0")], by decide⟩)], by decide⟩)],
    by decide⟩

/-- A name leads from the place of the run to itself. -/
theorem Disk.follow_single (disk : Disk) {name : String} (hname : name ≠ "..") :
    disk.follow [name] = some [name] := by
  simp [Disk.follow, Disk.enter, Disk.isDirectory, hname]

/-- The file with this name at the place of the run. -/
theorem Disk.find_single {disk : Disk} {name : String} {bytes : List UInt8}
    (names : namesOf name = [name]) (ends : endsInDirectory name = false)
    (hname : name ≠ "" ∧ name ≠ "..") (file : disk.isDirectory [name] = false)
    (content : disk.files.get? [name] = some bytes) : disk.find name = .file bytes := by
  have named : name.isEmpty = false := by simpa using hname.1
  simp only [Disk.find, named, names, disk.follow_single hname.2, file, content, ends]
  rfl

/-- A disk with one file. -/
def oneFile (name : String) (bytes : List UInt8) : Disk where
  files := (∅ : Table Location _).insert [name] bytes
  directories := []

theorem find_oneFile {name : String} (names : namesOf name = [name])
    (ends : endsInDirectory name = false) (hname : name ≠ "" ∧ name ≠ "..") (bytes : List UInt8) :
    (oneFile name bytes).find name = .file bytes := by
  have file : (oneFile name bytes).isDirectory [name] = false := by
    simp [Disk.isDirectory, hname.2, oneFile, Table.keys, Table.insert, Table.write, Entries.write]
  exact Disk.find_single names ends hname file (Table.get?_write_self _ [name] _)

theorem normalize_into_render_quoted :
    treeOfBytes (Utf8.encode quotedText.toList) = .ok quotedTree ∧ quotedTree.NoFloat
      ∧ quotedTree.Whole ∧ (flatten quotedTree).result = .ok quotedSheet ∧ quotedSheet.Full
      ∧ ∃ disk later printed text,
        disk = oneFile "tree.json" (Utf8.encode quotedText.toList)
        ∧ run disk ["normalize", "tree.json"] = .ended 0 printed "" disk
        ∧ later = oneFile "flat.json" (Utf8.encode printed.toList)
        ∧ treeOfBytes (Utf8.encode printed.toList) = .ok quotedSheet.toValue
        ∧ run disk ["render", "--indent", "4", "tree.json"] = .ended 0 text "" disk
        ∧ run later ["render", "flat.json", "--indent=4"] = .ended 0 text "" later := by
  have source : treeOfBytes (Utf8.encode quotedText.toList) = .ok quotedTree := by decide +kernel
  have noFloat : quotedTree.NoFloat := by
    simp [quotedTree, Value.NoFloat, Value.NoFloatEntries, Value.NoFloatItems, Value.text]
  have whole : quotedTree.Whole := by
    simp only [quotedTree, Value.Whole, Value.WholeEntries, Value.WholeItems, Value.text]
    decide
  have accepted : (flatten quotedTree).result = .ok quotedSheet := by decide +kernel
  have full : quotedSheet.Full :=
    (Sheet.prune_eq_self_iff_full (regular_of_flatten accepted)).mp (by decide +kernel)
  have found : (oneFile "tree.json" (Utf8.encode quotedText.toList)).find "tree.json"
      = .file (Utf8.encode quotedText.toList) :=
    find_oneFile (by decide +kernel) (by decide +kernel) (by decide) _
  obtain ⟨printed, -, normalized, readBack, rendered⟩ :=
    normalize_into_render found source noFloat whole accepted full
  obtain ⟨_, shown, -, -, here, later⟩ := rendered 4
  refine ⟨source, noFloat, whole, accepted, full, _, _, printed, shown, rfl, ?_, rfl, readBack, ?_,
    ?_⟩
  · exact normalized _ false (by decide +kernel)
  · exact here _ false (by decide +kernel)
  · have foundLater : ∀ bytes, (oneFile "flat.json" bytes).find "flat.json" = .file bytes :=
      find_oneFile (by decide +kernel) (by decide +kernel) (by decide)
    exact later _ "flat.json" (foundLater _) _ false (by decide +kernel)

end Stylesheet.Cli
