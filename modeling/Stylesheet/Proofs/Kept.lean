/-
  Stylesheet.Proofs.Kept
  ──────────────────────
  **SHEETS THAT DOCUMENTS KEEP.**

  A tree is sound when it has no doubles, its integers can be written and its
  texts are whole.  Flattening joins, merges and lowers its keys and takes
  its scalars over as they are.  So every placement that a walk makes of a
  sound tree can be kept in a document, every placement leaves a sheet that
  can, and the sheet is read back from its document.  Its lines are whole as
  well.

  Main statements:
    * `kept_walk` — the placements of a sound tree;
    * `Sheet.Kept.place` — one placement;
    * `Sheet.kept_of_flatten` — the sheet of a sound tree;
    * `Sheet.Kept.toValue`, `Sheet.Kept.whole_lines` — as a mapping and as
      lines.
-/
import Stylesheet.Proofs.Document
import Stylesheet.Proofs.Leaf
import Stylesheet.Proofs.Printing

namespace Stylesheet

open AtRule Condition Property

/-! ## §1. Sound trees. -/

namespace Value

mutual

/-- No scalar in the value is a double, keys apart. -/
def NoFloat : Value → Prop
  | .scalar (.float _) => False
  | .list items | .tuple items => NoFloatItems items
  | .map entries => NoFloatEntries entries
  | _ => True

/-- No scalar in the items is a double. -/
def NoFloatItems : List Value → Prop
  | [] => True
  | item :: rest => item.NoFloat ∧ NoFloatItems rest

/-- No scalar in the values of the entries is a double. -/
def NoFloatEntries : List (Value × Value) → Prop
  | [] => True
  | (_, value) :: rest => value.NoFloat ∧ NoFloatEntries rest

end

mutual

/-- All texts in the value are whole, and so are those in its keys. -/
def Whole : Value → Prop
  | .scalar (.text s) => Text.Whole s.toList
  | .list items | .tuple items => WholeItems items
  | .map entries => WholeEntries entries
  | _ => True

/-- All texts in the items are whole. -/
def WholeItems : List Value → Prop
  | [] => True
  | item :: rest => item.Whole ∧ WholeItems rest

/-- All texts in the keys and values of the entries are whole. -/
def WholeEntries : List (Value × Value) → Prop
  | [] => True
  | (key, value) :: rest => key.Whole ∧ value.Whole ∧ WholeEntries rest

end

/-- A value whose scalars all can be kept in a document. -/
structure Sound (value : Value) : Prop where
  /-- There are no doubles. -/
  noFloat : value.NoFloat
  /-- There are no integers with too many digits. -/
  isWritable : value.isWritable = true
  /-- There are no halves. -/
  whole : value.Whole

theorem Sound.scalar {scalar : Scalar} (h : (Value.scalar scalar).Sound) :
    (Value.scalar scalar).Kept := by
  cases scalar with
  | text s => exact h.whole
  | int n => exact h.isWritable
  | float x => exact h.noFloat.elim

theorem Sound.items : ∀ {items : List Value}, (Value.list items).Sound →
    ∀ item ∈ items, item.Sound
  | [], _ => nofun
  | _ :: _, ⟨noFloat, writable, whole⟩ => by
      obtain ⟨first, rest⟩ := Bool.and_eq_true_iff.mp writable
      have more : (Value.list _).Sound := ⟨noFloat.2, rest, whole.2⟩
      exact List.forall_mem_cons.mpr ⟨⟨noFloat.1, first, whole.1⟩, more.items⟩

theorem Sound.entries : ∀ {entries : List (Value × Value)}, (Value.map entries).Sound →
    ∀ e ∈ entries, e.1.Whole ∧ e.2.Sound
  | [], _ => nofun
  | _ :: _, ⟨noFloat, writable, whole⟩ => by
      obtain ⟨first, rest⟩ := Bool.and_eq_true_iff.mp writable
      have value := (Bool.and_eq_true_iff.mp first).2
      have more : (Value.map _).Sound := ⟨noFloat.2, rest, whole.2.2⟩
      exact List.forall_mem_cons.mpr ⟨⟨whole.1, noFloat.1, value, whole.2.1⟩, more.entries⟩

end Value

/-! ## §2. Tables that are kept. -/

/-- The keys of a table are whole, and its values are such as they should
be. -/
def Table.Keeps {β : Type} (P : β → Prop) (t : Table String β) : Prop :=
  ∀ e ∈ t.entries, Text.Whole e.1.toList ∧ P e.2

namespace Table

variable {β : Type} {P : β → Prop} {t : Table String β}

theorem keeps_empty : (∅ : Table String β).Keeps P := nofun

theorem Keeps.of_get? (h : t.Keeps P) {key : String} {b : β} (hb : t.get? key = some b) : P b :=
  (h (key, b) ((get?_eq_some_iff t).mp hb)).2

/-- A table inside the value of a key is kept, and so is the empty one in its
place. -/
theorem Keeps.elim_get? {γ : Type} {Q : γ → Prop} (h : t.Keeps P) (key : String)
    {f : β → Table String γ} (hf : ∀ b, P b → (f b).Keeps Q) :
    ((t.get? key).elim ∅ f).Keeps Q := by
  cases hb : t.get? key with
  | none => exact keeps_empty
  | some b => exact hf b (h.of_get? hb)

/-- **A write of what should be there to a whole key.** -/
theorem Keeps.write (h : t.Keeps P) {key : String} (hkey : Text.Whole key.toList)
    {f : Option β → β} (hf : P (f (t.get? key))) : (t.write key f).Keeps P := by
  intro e he
  rcases mem_entries_write he with old | rfl
  · exact h e old
  · exact ⟨hkey, hf⟩

theorem Keeps.filterKeys (h : t.Keeps P) (p : String → Bool) : (t.filterKeys p).Keeps P :=
  fun e he => h e (List.mem_filter.mp he).1

theorem Keeps.insertAll {entries : List (String × β)} {t : Table String β} (h : t.Keeps P)
    (hentries : ∀ e ∈ entries, Text.Whole e.1.toList ∧ P e.2) : (t.insertAll entries).Keeps P := by
  induction entries generalizing t with
  | nil => exact h
  | cons e rest ih =>
      obtain ⟨first, others⟩ := List.forall_mem_cons.mp hentries
      exact ih (h.write first.1 first.2) others

end Table

/-! ## §3. Sheets that are kept. -/

/-- Declarations with whole names and scalars that documents keep. -/
def Declarations.Kept (declarations : Declarations) : Prop :=
  declarations.Keeps fun value => (Value.scalar value).Kept

/-- An item that documents keep. -/
def Item.Kept : Item → Prop
  | .statement value => (Value.scalar value).Kept
  | .block declarations => declarations.Kept
  | .group rules => rules.Keeps Declarations.Kept

/-- A sheet that documents keep. -/
def Sheet.Kept (sheet : Sheet) : Prop :=
  Table.Keeps Item.Kept sheet

/-- What a property is set to is kept. -/
def PropertyValue.Kept : PropertyValue → Prop
  | .single value => (Value.scalar value).Kept
  | .repeated values => ∀ value ∈ values, (Value.scalar value).Kept

/-- A placement that leaves what documents keep. -/
def Placement.Kept : Placement → Prop
  | .flatRule key item => Text.Whole key.toList ∧ item.Kept
  | .declaration condition selector name value =>
      (∀ c, condition = some c → Text.Whole c.toList) ∧ Text.Whole selector.toList
        ∧ Text.Whole name.toList ∧ value.Kept

theorem Declarations.Kept.set {declarations : Declarations} (h : declarations.Kept) {name : String}
    (hname : Text.Whole name.toList) {value : PropertyValue} (hvalue : value.Kept) :
    (declarations.set name value).Kept := by
  cases value with
  | single value => exact Table.Keeps.write h hname hvalue
  | repeated values =>
      refine Table.Keeps.insertAll (Table.Keeps.filterKeys h _) fun e he => ?_
      obtain ⟨⟨value, index⟩, mem, rfl⟩ := List.mem_map.mp he
      exact ⟨whole_numbered hname index, hvalue value (List.fst_mem_of_mem_zipIdx mem)⟩

theorem Declarations.kept_ofList {entries : List (String × PropertyValue)}
    (h : ∀ e ∈ entries, Text.Whole e.1.toList ∧ e.2.Kept) : (ofList entries).Kept := by
  suffices ∀ declarations : Declarations, declarations.Kept →
      (entries.foldl (fun d e => Declarations.set d e.1 e.2) declarations).Kept from
    this ∅ Table.keeps_empty
  induction entries with
  | nil => exact fun _ kept => kept
  | cons e rest ih =>
      obtain ⟨first, others⟩ := List.forall_mem_cons.mp h
      exact fun _ kept => ih others _ (kept.set first.1 first.2)

namespace Item

theorem Kept.declarations {item : Item} (h : item.Kept) : item.declarations.Kept := by
  cases item with
  | block declarations => exact h
  | statement _ | group _ => exact Table.keeps_empty

theorem Kept.rules {item : Item} (h : item.Kept) : item.rules.Keeps Declarations.Kept := by
  cases item with
  | group rules => exact h
  | statement _ | block _ => exact Table.keeps_empty

end Item

namespace Sheet

/-- **A placement that is kept leaves a sheet that is kept.** -/
theorem Kept.place {sheet : Sheet} (h : sheet.Kept) {placement : Placement}
    (hplacement : placement.Kept) : (sheet.place placement).Kept := by
  match placement, hplacement with
  | .flatRule key item, ⟨hkey, hitem⟩ => exact Table.Keeps.write h hkey hitem
  | .declaration none selector name value, ⟨_, hselector, hname, hvalue⟩ =>
      have old : Declarations.Kept ((Table.get? sheet selector).elim ∅ Item.declarations) :=
        Table.Keeps.elim_get? h selector fun _ kept => kept.declarations
      exact Table.Keeps.write h hselector (old.set hname hvalue)
  | .declaration (some condition) selector name value, ⟨hcondition, hselector, hname, hvalue⟩ =>
      -- the declarations so far are two tables deep
      have rules : ((Table.get? sheet condition).elim ∅ Item.rules).Keeps Declarations.Kept :=
        Table.Keeps.elim_get? h condition fun _ kept => kept.rules
      refine Table.Keeps.write h (hcondition condition rfl)
        (rules.write hselector (Declarations.Kept.set ?_ hname hvalue))
      cases hrule : ((Table.get? sheet condition).elim ∅ Item.rules).get? selector with
      | none => exact Table.keeps_empty
      | some declarations => exact rules.of_get? hrule

theorem kept_ofPlacements {placements : List Placement}
    (h : ∀ placement ∈ placements, placement.Kept) : (ofPlacements placements).Kept := by
  induction placements using List.reverseRecOn with
  | nil => exact Table.keeps_empty
  | append_singleton front placement ih =>
      rw [ofPlacements_concat]
      exact (ih fun p hp => h p (by simp [hp])).place (h placement (by simp))

end Sheet

/-! ## §4. Walks. -/

/-- The selector and the condition of a scope are whole. -/
structure Scope.Whole (scope : Scope) : Prop where
  /-- The joined selectors. -/
  selector : Text.Whole scope.selector.toList
  /-- The merged key of the grouping rules. -/
  condition : ∀ c, scope.condition = some c → Text.Whole c.toList

theorem Scope.whole_root : root.Whole := ⟨.nil, nofun⟩

theorem PropertyValue.kept_of_ofValue? {value : Value} (h : value.Sound) {set : PropertyValue}
    (hset : ofValue? value = some set) : set.Kept := by
  have several : ∀ {items}, (Value.list items).Sound → ∀ {scalars},
      Value.scalars? items = some scalars → (repeated scalars).Kept := by
    intro items sound scalars hscalars scalar mem
    obtain rfl := Value.scalars?_eq_some_iff.mp hscalars
    exact (sound.items _ (List.mem_map_of_mem mem)).scalar
  cases value with
  | scalar scalar =>
      obtain rfl := Option.some.inj hset
      exact h.scalar
  | list items =>
      obtain ⟨scalars, hscalars, rfl⟩ := Option.map_eq_some_iff.mp hset
      exact several h hscalars
  | tuple items =>
      obtain ⟨scalars, hscalars, rfl⟩ := Option.map_eq_some_iff.mp hset
      exact several ⟨h.noFloat, h.isWritable, h.whole⟩ hscalars
  | null | bool _ | map _ => cases hset

theorem kept_declarationsIn {entries : List (Value × Value)} (h : (Value.map entries).Sound) :
    ∀ e ∈ declarationsIn entries, Text.Whole e.1.toList ∧ e.2.Kept := by
  intro e he
  obtain ⟨⟨key, value⟩, mem, hset⟩ := List.mem_filterMap.mp he
  obtain ⟨hkey, hvalue⟩ := h.entries _ mem
  obtain ⟨name, hname, hset⟩ := Option.bind_eq_some_iff.mp hset
  obtain ⟨set, hofValue, hpure⟩ := Option.bind_eq_some_iff.mp hset
  obtain rfl := Option.some.inj hpure
  obtain rfl := Value.text?_eq_some_iff.mp hname
  exact ⟨hkey, PropertyValue.kept_of_ofValue? hvalue hofValue⟩

namespace Fits

/-- **What a block is opened in is whole.** -/
theorem whole_of_opens {scope inner : Scope} (hscope : scope.Whole) {key value : Value}
    (hkey : key.Whole) (h : Fits scope key value (.opens inner)) : inner.Whole := by
  cases h with
  | selector _ => exact ⟨whole_selectorBelow hscope.selector hkey, hscope.condition⟩
  | group _ hmerge =>
      refine ⟨hscope.selector, fun c hc => ?_⟩
      obtain rfl := Option.some.inj hc
      exact whole_merge hscope.condition hkey hmerge

/-- **What a sound leaf places is kept.** -/
theorem kept_of_places {scope : Scope} (hscope : scope.Whole) {key value : Value}
    (hkey : key.Whole) (hvalue : value.Sound) {placement : Placement}
    (h : Fits scope key value (.places placement)) : placement.Kept := by
  cases h with
  | statement _ _ _ => exact ⟨hkey, hvalue.scalar⟩
  | declarations _ _ _ _ => exact ⟨hkey, Declarations.kept_ofList (kept_declarationsIn hvalue)⟩
  | property _ _ _ hset =>
      exact ⟨hscope.condition, hscope.selector, whole_ofKey hkey,
        PropertyValue.kept_of_ofValue? hvalue hset⟩

end Fits

mutual

theorem kept_walkEntry {scope : Scope} (hvalid : scope.Valid) (hscope : scope.Whole) {key : Value}
    (hkey : key.Whole) : ∀ (value : Value), value.Sound → ∀ (placements : List Placement),
      (walkEntry scope key value).result = .ok placements → ∀ p ∈ placements, p.Kept
  | .map entries, sound, placements, h => by
      -- a mapping is a block to go into, or the body of a flat rule and so a leaf
      rcases result_walkEntry_eq_ok hvalid h with ⟨inner, _, hblock, fits, hwalk⟩ | leaf
      · obtain rfl := Value.map.inj hblock
        exact kept_walk (fits.valid_of_opens hvalid) (fits.whole_of_opens hscope hkey) entries sound
          placements hwalk
      · obtain ⟨placement, fits, rfl⟩ := leaf
        exact List.forall_mem_singleton.mpr (fits.kept_of_places hscope hkey sound)
  | .null, sound, placements, h | .bool _, sound, placements, h | .scalar _, sound, placements, h
  | .list _, sound, placements, h | .tuple _, sound, placements, h => by
      rcases result_walkEntry_eq_ok hvalid h with ⟨_, _, hblock, _⟩ | leaf
      · cases hblock
      · obtain ⟨placement, fits, rfl⟩ := leaf
        exact List.forall_mem_singleton.mpr (fits.kept_of_places hscope hkey sound)

/-- **The placements of sound entries are kept.** -/
theorem kept_walk {scope : Scope} (hvalid : scope.Valid) (hscope : scope.Whole) :
    ∀ (entries : List (Value × Value)), (Value.map entries).Sound →
      ∀ (placements : List Placement), (walk scope entries).result = .ok placements →
        ∀ p ∈ placements, p.Kept
  | [], _, placements, h => by
      obtain rfl := Except.ok.inj h
      exact nofun
  | (key, value) :: rest, sound, placements, h => by
      obtain ⟨here, after, hhere, hafter, rfl⟩ := result_walk_cons_eq_ok h
      obtain ⟨first, others⟩ := List.forall_mem_cons.mp sound.entries
      have more : (Value.map rest).Sound :=
        ⟨sound.noFloat.2, (Bool.and_eq_true_iff.mp sound.isWritable).2, sound.whole.2.2⟩
      exact List.forall_mem_append.mpr
        ⟨kept_walkEntry hvalid hscope first.1 value first.2 here hhere,
          kept_walk hvalid hscope rest more after hafter⟩

end

/-- **The sheet of a sound tree is kept.** -/
theorem Sheet.kept_of_flatten {tree : Value} (sound : tree.Sound) {sheet : Sheet}
    (h : (flatten tree).result = .ok sheet) : sheet.Kept := by
  cases tree with
  | map entries =>
      obtain ⟨placements, hwalk, rfl⟩ := result_flatten_eq_ok_iff.mp h
      exact kept_ofPlacements
        (kept_walk Scope.valid_root Scope.whole_root entries sound placements hwalk)
  | _ => cases h

/-! ## §5. Sheets as mappings. -/

/-- A table that is kept is a mapping that is kept. -/
theorem Table.Keeps.toValue {α : Type} {P : α → Prop} {f : α → Value} {t : Table String α}
    (h : t.Keeps P) (hf : ∀ a, P a → (f a).Kept) : (Value.ofTextTable (t.mapValues f)).Kept := by
  have entries : Value.ofTextTable (t.mapValues f)
      = .map (t.entries.map fun e => (Value.text e.1, f e.2)) := by
    rw [Value.ofTextTable, Table.mapValues, List.map_map]
    rfl
  rw [entries]
  constructor
  · exact (Value.distinctKeys_texts f t.entries).mpr t.nodup
  · unfold Keeps at h
    generalize t.entries = entries at h
    induction entries with
    | nil => exact trivial
    | cons e rest ih =>
        obtain ⟨first, others⟩ := List.forall_mem_cons.mp h
        exact ⟨⟨e.1, rfl, first.1⟩, hf e.2 first.2, ih others⟩

theorem Declarations.Kept.toValue {declarations : Declarations} (h : declarations.Kept) :
    declarations.toValue.Kept :=
  Table.Keeps.toValue h fun _ kept => kept

/-- **A sheet that is kept is read back from its document.** -/
theorem Sheet.Kept.toValue {sheet : Sheet} (h : sheet.Kept) : sheet.toValue.Kept := by
  refine Table.Keeps.toValue h fun item kept => ?_
  cases item with
  | statement value => exact kept
  | block declarations => exact Declarations.Kept.toValue kept
  | group rules => exact Table.Keeps.toValue kept fun _ => Declarations.Kept.toValue

/-! ## §6. Sheets as lines. -/

theorem Scalar.isWritable_of_kept {scalar : Scalar} (h : (Value.scalar scalar).Kept) :
    scalar.isWritable = true := by
  cases scalar with
  | text s => rfl
  | int n => exact h
  | float x => exact h.elim

theorem Declarations.Kept.isWritable {declarations : Declarations} (h : declarations.Kept) :
    declarations.isWritable = true :=
  List.all_eq_true.mpr fun e he => Scalar.isWritable_of_kept (h e he).2

/-- **A sheet that is kept can be written.** -/
theorem Sheet.Kept.isWritable {sheet : Sheet} (h : sheet.Kept) : sheet.isWritable = true := by
  refine List.all_eq_true.mpr fun e he => ?_
  obtain ⟨-, kept⟩ := h e he
  match e.2, kept with
  | .statement value, kept => exact Scalar.isWritable_of_kept kept
  | .block declarations, kept => exact Declarations.Kept.isWritable kept
  | .group rules, kept =>
      exact List.all_eq_true.mpr fun rule hrule => (kept rule hrule).2.isWritable

theorem Scalar.whole_printed {scalar : Scalar} (h : (Value.scalar scalar).Kept) :
    Text.Whole scalar.printed.toList := by
  cases scalar with
  | text s => exact h
  | int n => exact (Json.visible_toString n).whole
  | float x => exact h.elim

theorem whole_declarationLine (depth : Nat) {name : String} {value : Scalar}
    (hname : Text.Whole name.toList) (hvalue : (Value.scalar value).Kept) :
    Text.Whole (declarationLine depth (.text name, .scalar value)).text.toList := by
  have printed := whole_withoutMarker (whole_ofKey hname)
  have colon := Text.whole_append printed (t := ": ") (Text.whole_of_not_mem (by decide))
  exact Text.whole_append (Text.whole_append colon (Scalar.whole_printed hvalue))
    (Text.whole_of_not_mem (by decide))

/-- The lines of a block are whole if its head and its contents are. -/
theorem whole_blockLines (depth : Nat) {head : String} (hhead : Text.Whole head.toList)
    {contents : List Line} (h : ∀ line ∈ contents, Text.Whole line.text.toList) :
    ∀ line ∈ blockLines depth head contents, Text.Whole line.text.toList := by
  have opening := Text.whole_append hhead (t := " \x7b") (Text.whole_of_not_mem (by decide))
  have closing : Text.Whole "\x7d".toList := Text.whole_of_not_mem (by decide)
  exact List.forall_mem_cons.mpr
    ⟨opening, List.forall_mem_append.mpr ⟨h, List.forall_mem_singleton.mpr closing⟩⟩

theorem Declarations.Kept.whole_lines {declarations : Declarations} (h : declarations.Kept)
    (depth : Nat) {head : String} (hhead : Text.Whole head.toList) :
    ∀ line ∈ declarations.lines depth head, Text.Whole line.text.toList := by
  refine whole_blockLines depth hhead ?_
  rw [List.map_map, List.forall_mem_map]
  exact fun e he => whole_declarationLine _ (h e he).1 (h e he).2

/-- **The lines of a sheet that is kept are whole.** -/
theorem Sheet.Kept.whole_lines {sheet : Sheet} (h : sheet.Kept) :
    ∀ line ∈ sheet.lines, Text.Whole line.text.toList := by
  intro line hline
  obtain ⟨⟨key, item⟩, mem, inside⟩ := List.mem_flatMap.mp hline
  obtain ⟨hkey, hitem⟩ := h _ mem
  cases item with
  | statement value =>
      obtain rfl := List.mem_singleton.mp inside
      have blank := Text.whole_append hkey (t := " ") (Text.whole_of_not_mem (by decide))
      exact Text.whole_append (Text.whole_append blank (Scalar.whole_printed hitem))
        (Text.whole_of_not_mem (by decide))
  | block declarations => exact Declarations.Kept.whole_lines hitem 0 hkey line inside
  | group rules =>
      refine whole_blockLines 0 hkey (fun line hline => ?_) line inside
      obtain ⟨rule, mem, inside⟩ := List.mem_flatMap.mp hline
      obtain ⟨hselector, hrule⟩ := hitem rule mem
      exact Declarations.Kept.whole_lines hrule 1 hselector line inside

theorem whole_join {texts : List String} (h : ∀ text ∈ texts, Text.Whole text.toList) :
    Text.Whole (String.join texts).toList := by
  induction texts with
  | nil => exact .nil
  | cons text rest ih =>
      obtain ⟨first, others⟩ := List.forall_mem_cons.mp h
      rw [String.join_cons]
      exact Text.whole_append first (ih others)

/-- **Whole lines are laid out as a whole text**, with spaces before them and
line feeds behind them. -/
theorem SheetLayout.whole_lines (width : Int) {lines : List Line}
    (h : ∀ line ∈ lines, Text.Whole line.text.toList) :
    Text.Whole ((spaces width).lines lines).toList := by
  have indent : Text.Whole (spaces width).indent.toList := by
    rw [spaces, String.toList_ofList]
    exact Text.whole_of_not_mem fun mem => absurd (List.eq_of_mem_replicate mem) (by decide)
  have pad : ∀ depth, Text.Whole ((spaces width).pad depth).toList := fun depth =>
    whole_join fun text mem => by rw [List.eq_of_mem_replicate mem]; exact indent
  have feed : Text.Whole "\n".toList := Text.whole_of_not_mem (by decide)
  exact whole_join (List.forall_mem_map.mpr fun line hline =>
    Text.whole_append (Text.whole_append (pad line.depth) (h line hline)) feed)

end Stylesheet
