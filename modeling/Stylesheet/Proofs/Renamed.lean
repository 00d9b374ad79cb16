/-
  Stylesheet.Proofs.Renamed
  ─────────────────────────
  **ONE BODY, WITH ITS NAMES AND WITH CANONICAL NAMES.**

  The block of a flat rule keeps the names of its body, a selector sets the
  same values under the canonical names.  A setting takes away what has a
  marker of its property, so the two go on side by side as long as canonical
  names are told apart just when the names are, with markers and without.
  Names with a marker need no more than that: a key that stands for a
  numbered name is numbered itself, and a marker comes off before or after.

  Main statements:
    * `Renames.set` — one setting, with its name and with the canonical one;
    * `renames_ofList` — a run of settings;
    * `flatten_flatRule_agrees` — the block of a flat rule and the block of
      a selector with the same body, and their lines.
-/
import Stylesheet.Proofs.Body
import Stylesheet.Proofs.Order

namespace Stylesheet

open AtRule Property

/-! ## §1. Names that are told apart. -/

/-- Names, as they stand and without their markers. -/
def formsOf (names : List String) : List String :=
  names ++ names.map withoutMarker

/-- The canonical names tell the names apart, as they stand and without their
markers. -/
def ToldApart (names : List String) : Prop :=
  ∀ a ∈ formsOf names, ∀ b ∈ formsOf names, ofKey a = ofKey b → a = b

instance (names : List String) : Decidable (ToldApart names) :=
  inferInstanceAs (Decidable (∀ a ∈ formsOf names, ∀ b ∈ formsOf names, _ → _))

/-- What settings of the names can give a value: the names and their numbered
names. -/
def CanBeGiven (names : List String) (other : String) : Prop :=
  other ∈ names ∨ ∃ name ∈ names, ∃ i : Nat, other = numbered name i

section ToldApart

variable {names : List String} {name other : String}

theorem mem_formsOf (h : name ∈ names) : name ∈ formsOf names :=
  List.mem_append_left _ h

theorem withoutMarker_mem_formsOf (h : name ∈ names) : withoutMarker name ∈ formsOf names :=
  List.mem_append_right _ (List.mem_map_of_mem h)

/-- Without its marker a name that can be given is a form of one of the
names. -/
theorem CanBeGiven.withoutMarker_mem (h : CanBeGiven names other) :
    withoutMarker other ∈ formsOf names := by
  rcases h with h | ⟨base, hbase, i, rfl⟩
  · exact withoutMarker_mem_formsOf h
  · rw [withoutMarker_numbered]
    exact mem_formsOf hbase

/-- A name that can be given has the canonical form of one of the names only
if it is that name. -/
theorem ToldApart.eq_of_ofKey (apart : ToldApart names) (h : CanBeGiven names other)
    (hname : name ∈ names) (same : ofKey other = ofKey name) : other = name := by
  rcases h with h | ⟨base, hbase, i, rfl⟩
  · exact apart other (mem_formsOf h) name (mem_formsOf hname) same
  · -- the name stands for a numbered one, so it has the same marker
    rw [ofKey_numbered] at same
    obtain ⟨front, rfl, hfront⟩ := exists_numbered_of_ofKey same.symm
    have bare := withoutMarker_mem_formsOf hname
    rw [withoutMarker_numbered] at bare
    rw [apart base (mem_formsOf hbase) front bare hfront.symm]

/-- Canonical names are numbered just when the names are. -/
theorem ToldApart.isNumberedOf_ofKey (apart : ToldApart names) (h : CanBeGiven names other)
    (hname : name ∈ names) :
    Declarations.isNumberedOf (ofKey name) (ofKey other) = Declarations.isNumberedOf name other := by
  rw [Bool.eq_iff_iff, Declarations.isNumberedOf_iff, Declarations.isNumberedOf_iff,
    withoutMarker_ofKey]
  refine and_congr (not_congr ⟨apart.eq_of_ofKey h hname, congrArg ofKey⟩) ⟨?_, congrArg ofKey⟩
  exact apart _ h.withoutMarker_mem name (mem_formsOf hname)

end ToldApart

/-! ## §2. Settings side by side. -/

namespace Declarations

/-- The second declarations are the first under canonical names. -/
def Renames (raw named : Declarations) : Prop :=
  named.entries = raw.entries.map fun e => (ofKey e.1, e.2)

variable {raw named : Declarations} {name : String}

/-- **One setting, with its name and with the canonical one.** -/
theorem Renames.set (h : Renames raw named)
    (same : ∀ other ∈ raw.keys, ofKey other = ofKey name → other = name)
    (marked : ∀ other ∈ raw.keys,
      isNumberedOf (ofKey name) (ofKey other) = isNumberedOf name other)
    (value : PropertyValue) : Renames (raw.set name value) (named.set (ofKey name) value) := by
  cases value with
  | single v =>
      have write : (Entries.write name (fun _ => v) raw.entries).map (fun e => (ofKey e.1, e.2))
          = Entries.write (ofKey name) (fun _ => v)
              (raw.entries.map fun e => (ofKey e.1, e.2)) :=
        Entries.map_write _ fun e he => same e.1 (List.mem_map_of_mem he)
      rw [← h] at write
      exact write.symm
  | repeated values =>
      -- the same entries are taken away, and the new ones are numbered alike
      have left : (named.filterKeys fun other => !isNumberedOf (ofKey name) other).entries
          = (raw.filterKeys fun other => !isNumberedOf name other).entries.map
              fun e => (ofKey e.1, e.2) := by
        show named.entries.filter (fun e => !isNumberedOf (ofKey name) e.1)
          = (raw.entries.filter fun e => !isNumberedOf name e.1).map fun e => (ofKey e.1, e.2)
        rw [h, List.filter_map]
        refine congrArg _ (List.filter_congr fun e he => ?_)
        exact congrArg not (marked e.1 (List.mem_map_of_mem he))
      rw [Renames, entries_set_repeated, entries_set_repeated, left, numberAll_ofKey,
        List.map_append]

/-- **A run of settings, with the names and with the canonical ones.** -/
theorem renames_ofList {names : List String} (apart : ToldApart names)
    {sets : List (String × PropertyValue)} (h : ∀ e ∈ sets, e.1 ∈ names) :
    Renames (ofList sets) (ofList (canonical sets)) := by
  induction sets using List.reverseRecOn with
  | nil => rfl
  | append_singleton front e ih =>
      rw [List.forall_mem_append, List.forall_mem_singleton] at h
      -- what stands there was given by a setting before the last one
      have given : ∀ other ∈ (ofList front).keys, CanBeGiven names other := by
        intro other hother
        obtain ⟨first, hfirst, rfl | numbered⟩ := exists_of_mem_keys_ofList hother
        · exact Or.inl (h.1 first hfirst)
        · exact Or.inr ⟨first.1, h.1 first hfirst, numbered⟩
      have last : canonical (front ++ [e]) = canonical front ++ [(ofKey e.1, e.2)] :=
        canonical_append front [e]
      rw [last, ofList_concat, ofList_concat]
      exact (ih h.1).set (fun other hother => apart.eq_of_ofKey (given other hother) h.2)
        (fun other hother => apart.isNumberedOf_ofKey (given other hother) h.2) e.2

/-! ## §3. Lines. -/

/-- The lines of declarations inside their block. -/
def inner (declarations : Declarations) : List Line :=
  declarations.entries.map fun e => declarationLine 1 (.text e.1, .scalar e.2)

theorem lines_eq_inner (head : String) (declarations : Declarations) :
    declarations.lines 0 head = blockLines 0 head declarations.inner := by
  rw [lines, declarationsLines, List.map_map]
  rfl

/-- Names are printed in their canonical form, so the lines are the same. -/
theorem Renames.inner_eq (h : Renames raw named) : named.inner = raw.inner := by
  rw [inner, inner, h, List.map_map]
  refine List.map_congr_left fun e _ => ?_
  show Line.mk 1 (withoutMarker (ofKey (ofKey e.1)) ++ _ ++ _ ++ _) = _
  rw [ofKey_ofKey]
  rfl

/-- The values are the same, so as many can be written. -/
theorem Renames.isWritable_eq (h : Renames raw named) : named.isWritable = raw.isWritable := by
  rw [isWritable, h, List.all_map]
  rfl

end Declarations

/-! ## §4. Trees. -/

section Trees

variable {body : Table String Value} {rule selector : String}

/-- A flat rule and a selector make the same of a body.  With its names made
canonical the block of the rule is that of the selector, or nothing when the
selector is not there, with the same values in the same order; where both are
there, both are printed if the values can be written, and their lines are the
same. -/
def BlocksAgree (body : Table String Value) (rule selector : String) : Prop :=
  ∃ (flat nested : Sheet) (raw named : Declarations),
    (flatten (.map [(.text rule, .ofTextTable body)])).result = .ok flat
    ∧ (flatten (.map [(.text selector, .ofTextTable body)])).result = .ok nested
    ∧ flat.get? rule = some (.block raw)
    ∧ (nested.get? selector = some (.block named) ∨ nested.get? selector = none ∧ named = ∅)
    ∧ named.entries = raw.entries.map (fun e => (ofKey e.1, e.2))
    ∧ named.inner = raw.inner
    ∧ ∀ layout text,
      ((printTree (.map [(.text rule, .ofTextTable body)]) layout).result = .ok text
        ↔ raw.isWritable = true ∧ layout.lines (blockLines 0 rule raw.inner) = text)
      ∧ (selector ∈ nested.keys →
        ((printTree (.map [(.text selector, .ofTextTable body)]) layout).result = .ok text
          ↔ raw.isWritable = true ∧ layout.lines (blockLines 0 selector named.inner) = text))

/-- **The block of a flat rule agrees with the block of a selector with the
same body.** -/
theorem flatten_flatRule_agrees (hbody : IsBody body.entries) (apart : ToldApart body.keys)
    (hrule : isKey rule = true) (hkind : kindOf rule = .block)
    (hselector : isKey selector = false) (hne : selector ≠ "") :
    BlocksAgree body rule selector := by
  have flat := result_flatten_flatRule hrule hkind hbody
  obtain ⟨nested, hnested, found⟩ := exists_flatten_selector hselector hne hbody
  have renames : Declarations.Renames (.ofList (settings body.entries))
      (.ofList (canonical (settings body.entries))) :=
    Declarations.renames_ofList apart fun e he => mem_keys_of_mem_settings he
  refine ⟨_, nested, _, _, flat, hnested, Table.get?_write_self _ _ _, ?_, renames,
    renames.inner_eq, fun layout text => ⟨?_, ?_⟩⟩
  · rcases found with ⟨nothing, rfl⟩ | rfl
    · exact Or.inr ⟨rfl, by rw [nothing]; rfl⟩
    · exact Or.inl (Table.get?_write_self _ _ _)
  · rw [← Declarations.lines_eq_inner, ← lines_singleton, ← isWritable_singleton rule]
    exact result_printTree_eq_ok_iff flat layout text
  · intro present
    rcases found with ⟨-, rfl⟩ | rfl
    · cases present
    · rw [← Declarations.lines_eq_inner, ← lines_singleton, ← renames.isWritable_eq,
        ← isWritable_singleton selector]
      exact result_printTree_eq_ok_iff hnested layout text

end Trees

/-- A body with numbered names before and behind the lists of their
properties, one of which ends with a sigma. -/
def remarked : Table String Value :=
  .ofList [("src/*7*/", .text "old"), ("borderTop", .text "1px"),
    ("src", .list [.text "a", .text "b"]), ("ΑΣ/*1*/", .scalar (.int 3)), ("ΑΣ", .tuple [.text "c"]),
    ("src/*1*/", .text "late")]

theorem flatten_flatRule_agrees_remarked : BlocksAgree remarked "@font-face" "ul li" :=
  flatten_flatRule_agrees (by decide) (by decide +kernel) (by decide) (by decide +kernel)
    (by decide) (by decide)

end Stylesheet
