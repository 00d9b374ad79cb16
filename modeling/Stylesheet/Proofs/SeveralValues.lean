/-
  Stylesheet.Proofs.SeveralValues
  ───────────────────────────────
  **SETTING SEVERAL VALUES.**

  Several values of a property take away what has a marker of it and leave
  everything else where it is, the plain entry of the property included; their
  own names are numbered, so none of them is there any more when they come
  last.  If there was none to begin with, they only come last, as they do when
  each is set by itself under its numbered name.  So a list in a body is the
  same as the numbered entries in its place: below a selector, where the
  names become canonical after they were numbered, and in the block of a flat
  rule, where they stay as they are.

  Main statements:
    * `set_repeated_exactly` — the entries after several values are set;
    * `ofList_append_numbered` — several values at once, or one by one under
      their numbered names;
    * `flatten_list_eq_numbered` — the same for trees.
-/
import Stylesheet.Proofs.Body
import Stylesheet.Proofs.Order

namespace Stylesheet

open AtRule Property

/-! ## §1. One setting. -/

namespace Declarations

/-- **The entries after several values are set**: those that have no marker
of the property, the plain one among them, with their values and in their
order; behind them the values, under their numbered names.  No name comes
twice, and whatever is plain or belongs to another property is there just
when it was there before. -/
theorem set_repeated_exactly (d : Declarations) (name : String) (values : List Scalar) :
    (d.set name (.repeated values)).entries
        = d.entries.filter (fun e => ¬(e.1 ≠ name ∧ withoutMarker e.1 = name))
          ++ values.mapIdx (fun index value => (numbered name index, value))
      ∧ (d.set name (.repeated values)).keys.Nodup
      ∧ ∀ e : String × Scalar, e.1 = name ∨ withoutMarker e.1 ≠ name →
          (e ∈ (d.set name (.repeated values)).entries ↔ e ∈ d.entries) := by
  refine ⟨?_, (d.set name (.repeated values)).nodup, ?_⟩
  · rw [entries_set_repeated, numberAll, List.mapIdx_eq_zipIdx_map]
    refine congrArg (· ++ _) (List.filter_congr fun e _ => ?_)
    rw [Bool.eq_iff_iff, decide_eq_true_iff, ← isNumberedOf_iff]
    simp
  · intro e kept
    obtain ⟨other, value⟩ := e
    have untouched : (PropertyValue.repeated values).touches name other = false := by
      rw [PropertyValue.touches, Bool.eq_false_iff, Ne, isNumberedOf_iff]
      intro given
      obtain ⟨hne, hmarker⟩ := given
      rcases kept with same | different
      · exact hne same
      · exact different hmarker
    rw [← Table.get?_eq_some_iff, ← Table.get?_eq_some_iff, get?_set, untouched,
      if_neg Bool.false_ne_true]

/-- Declarations of a property whose name ends with a marker itself, with
numbered values of it and of the property without that marker. -/
def markedTwice : Declarations :=
  .ofList [("src/*1*/", .single (.text "plain")), ("src/*1*//*10*/", .single (.text "gone")),
    ("src/*12*/", .single (.text "other")), ("src", .single (.text "bare"))]

theorem set_repeated_markedTwice :
    (markedTwice.set "src/*1*/" (.repeated [.text "a", .text "b"])).entries
        = [("src/*1*/", .text "plain"), ("src/*12*/", .text "other"), ("src", .text "bare"),
          ("src/*1*//*0*/", .text "a"), ("src/*1*//*1*/", .text "b")]
      ∧ ("src/*12*/", Scalar.text "other") ∈ markedTwice.entries
      ∧ ("src/*12*/", Scalar.text "other")
          ∈ (markedTwice.set "src/*1*/" (.repeated [.text "a", .text "b"])).entries := by
  obtain ⟨entries, -, kept⟩ :=
    set_repeated_exactly markedTwice "src/*1*/" [.text "a", .text "b"]
  have other : ("src/*12*/", Scalar.text "other") ∈ markedTwice.entries := by decide
  exact ⟨entries.trans (by decide), other, (kept _ (Or.inr (by decide))).mpr other⟩

/-- Without a numbered name of the property nothing is taken away. -/
theorem set_repeated_of_free {d : Declarations} {name : String}
    (free : ∀ other ∈ d.keys, isNumberedOf name other = false) (values : List Scalar) :
    d.set name (.repeated values) = d.insertAll (numberAll name values) := by
  have all : d.filterKeys (fun other => !isNumberedOf name other) = d := by
    refine Table.ext (List.filter_eq_self.mpr fun e he => ?_)
    show (!isNumberedOf name e.1) = true
    rw [free e.1 (List.mem_map_of_mem he)]
    rfl
  rw [set, all]

/-! ## §2. Runs of settings. -/

/-- **Several values at once are the same as one by one**, behind settings
that have nothing to do with their property. -/
theorem ofList_append_numbered {sets : List (String × PropertyValue)} {name : String}
    (apart : ∀ e ∈ sets, e.1 ≠ name ∧ withoutMarker e.1 ≠ name) (values : List Scalar) :
    ofList (sets ++ [(name, .repeated values)])
      = ofList (sets ++ (numberAll name values).map fun e => (e.1, .single e.2)) := by
  have free : ∀ other ∈ (ofList sets).keys, isNumberedOf name other = false := by
    intro other hother
    rw [Bool.eq_false_iff, Ne, isNumberedOf_iff]
    intro given
    obtain ⟨-, hmarker⟩ := given
    -- a name there was set, or is a numbered name of one that was
    obtain ⟨e, he, rfl | ⟨i, rfl⟩⟩ := exists_of_mem_keys_ofList hother
    · exact (apart e he).2 hmarker
    · rw [withoutMarker_numbered] at hmarker
      exact (apart e he).1 hmarker
  rw [ofList_concat, set_repeated_of_free free, ofList, ofList, List.foldl_append, List.foldl_map]
  rfl

end Declarations

/-! ## §3. Trees. -/

/-- A list sets its property to several values. -/
theorem settings_list (property : String) (values : List Scalar) :
    settings [(property, .list (values.map .scalar))] = [(property, .repeated values)] := by
  have several : PropertyValue.ofValue? (.list (values.map .scalar)) = some (.repeated values) := by
    rw [PropertyValue.ofValue?, Value.scalars?_eq_some_iff.mpr rfl]
    rfl
  rw [settings, List.filterMap_cons, several]
  rfl

/-- Numbered entries are those values, each set under its numbered name. -/
theorem settings_numbered (property : String) (values : List Scalar) :
    settings (numberAll property (values.map .scalar))
      = (numberAll property values).map fun e => (e.1, .single e.2) := by
  rw [numberAll_map, settings, List.filterMap_map, ← List.filterMap_eq_map]
  rfl

theorem entries_numberedEntries (property : String) (values : List Value) :
    (numberedEntries property values).entries = numberAll property values :=
  Table.entries_ofList_of_nodup (nodup_numberAll property values)

/-- Under canonical names numbered entries are numbered entries of the
canonical name. -/
theorem canonical_numbered (property : String) (values : List Scalar) :
    canonical ((numberAll property values).map fun e => (e.1, .single e.2))
      = (numberAll (ofKey property) values).map fun e => (e.1, .single e.2) := by
  rw [numberAll_ofKey, canonical, List.map_map, List.map_map]
  rfl

/-- Two trees have one sheet and are printed alike: with one text, unless the
sheet has a value that cannot be written. -/
def Value.SameSheet (tree other : Value) : Prop :=
  ∃ sheet, (flatten tree).result = .ok sheet ∧ (flatten other).result = .ok sheet
    ∧ ∀ layout, (printTree tree layout).result = (printTree other layout).result
      ∧ (sheet.isWritable = true → ∃ text, (printTree tree layout).result = .ok text)

theorem sameSheet_of_ok {tree other : Value} {sheet : Sheet}
    (h : (flatten tree).result = .ok sheet) (hother : (flatten other).result = .ok sheet) :
    tree.SameSheet other :=
  ⟨sheet, h, hother, fun layout =>
    ⟨(result_printTree h layout).trans (result_printTree hother layout).symm,
      fun writable => ⟨_, (result_printTree_eq_ok_iff h layout _).mpr ⟨writable, rfl⟩⟩⟩⟩

section Trees

variable {property : String} {values : List Scalar} {body : Table String Value}

/-- A body with a list merged into it. -/
def withList (body : Table String Value) (property : String) (values : List Scalar) : Value :=
  overlay [.ofTextTable body, .map [(.text property, .list (values.map .scalar))]]

/-- A body with the numbered entries of that list merged into it. -/
def withNumbered (body : Table String Value) (property : String) (values : List Scalar) : Value :=
  overlay [.ofTextTable body, .ofTextTable (numberedEntries property (values.map .scalar))]

/-- No name of the body stands for the property or for a numbered name of
it. -/
def Apart (body : Table String Value) (property : String) : Prop :=
  ∀ name ∈ body.keys, ofKey name ≠ ofKey property ∧ withoutMarker (ofKey name) ≠ ofKey property

instance (body : Table String Value) (property : String) : Decidable (Apart body property) :=
  inferInstanceAs (Decidable (∀ name ∈ body.keys, _))

/-- As they stand the names are apart too, since a marker comes off before or
after a name becomes canonical. -/
theorem Apart.in_settings (apart : Apart body property) :
    ∀ e ∈ settings body.entries, e.1 ≠ property ∧ withoutMarker e.1 ≠ property := by
  intro e he
  obtain ⟨names, bases⟩ := apart e.1 (mem_keys_of_mem_settings he)
  refine ⟨fun same => names (by rw [same]), fun same => bases ?_⟩
  rw [withoutMarker_ofKey, same]

theorem Apart.in_canonical (apart : Apart body property) :
    ∀ e ∈ canonical (settings body.entries),
      e.1 ≠ ofKey property ∧ withoutMarker e.1 ≠ ofKey property := by
  intro e he
  obtain ⟨set, hset, rfl⟩ := List.mem_map.mp he
  exact apart set.1 (mem_keys_of_mem_settings hset)

theorem Apart.withList_eq (apart : Apart body property) (values : List Scalar) :
    withList body property values
      = .ofTexts (body.entries ++ [(property, .list (values.map .scalar))]) := by
  show overlay [.ofTexts body.entries, .ofTexts [(property, .list (values.map .scalar))]] = _
  refine overlay_append (List.nodup_append.mpr ⟨body.nodup, List.nodup_singleton _, ?_⟩)
  intro name hname other hother same
  exact (apart name hname).1 (by rw [same, List.mem_singleton.mp hother])

theorem Apart.withNumbered_eq (apart : Apart body property) (values : List Scalar) :
    withNumbered body property values
      = .ofTexts (body.entries ++ numberAll property (values.map .scalar)) := by
  have merged : withNumbered body property values
      = overlay [.ofTexts body.entries, .ofTexts (numberAll property (values.map .scalar))] := by
    rw [← entries_numberedEntries]
    rfl
  rw [merged]
  refine overlay_append (List.nodup_append.mpr ⟨body.nodup, nodup_numberAll _ _, ?_⟩)
  intro name hname other hother same
  obtain ⟨⟨_, value⟩, hmem, rfl⟩ := List.mem_map.mp hother
  obtain ⟨i, -, rfl⟩ := mem_numberAll.mp hmem
  refine (apart name hname).2 ?_
  rw [same, ofKey_numbered, withoutMarker_numbered]

theorem isBody_list (hproperty : isKey property = false) (values : List Scalar) :
    IsBody [(property, .list (values.map .scalar))] := by
  intro e he
  obtain rfl := List.mem_singleton.mp he
  refine ⟨hproperty, fun item hitem => ?_⟩
  obtain ⟨value, -, rfl⟩ := List.mem_map.mp hitem
  exact ⟨value, rfl⟩

theorem isBody_numbered (hproperty : isKey property = false) (values : List Scalar) :
    IsBody (numberAll property (values.map .scalar)) := by
  intro ⟨name, value⟩ he
  obtain ⟨i, hvalue, rfl⟩ := mem_numberAll.mp he
  obtain ⟨scalar, -, rfl⟩ := List.mem_map.mp (List.mem_of_getElem? hvalue)
  exact ⟨by rw [isKey_numbered, hproperty], trivial⟩

/-- **A list is the same as its numbered entries**, in a body below a selector
and in the block of a flat rule: the trees have one sheet, in one order, and
are printed alike. -/
theorem flatten_list_eq_numbered (hproperty : isKey property = false) (hvalues : values ≠ [])
    (hbody : IsBody body.entries) (apart : Apart body property) {selector : String}
    (hselector : isKey selector = false) (hne : selector ≠ "") {rule : String}
    (hrule : isKey rule = true) (hkind : kindOf rule = .block) :
    Value.SameSheet (.map [(.text selector, withList body property values)])
        (.map [(.text selector, withNumbered body property values)])
      ∧ Value.SameSheet (.map [(.text rule, withList body property values)])
          (.map [(.text rule, withNumbered body property values)]) := by
  have hlist := hbody.append (isBody_list hproperty values)
  have hnumbered := hbody.append (isBody_numbered hproperty values)
  have several : numberAll property (values.map Value.scalar) ≠ [] := by
    simpa [numberAll] using hvalues
  rw [apart.withList_eq, apart.withNumbered_eq]
  constructor
  · refine sameSheet_of_ok (result_flatten_selector hselector hne hlist (by simp)) ?_
    rw [result_flatten_selector hselector hne hnumbered (by simp [several]), settings_append,
      settings_append, settings_list, settings_numbered, canonical_append, canonical_append,
      canonical_numbered, ← Declarations.ofList_append_numbered apart.in_canonical values]
    rfl
  · refine sameSheet_of_ok (result_flatten_flatRule hrule hkind hlist) ?_
    rw [result_flatten_flatRule hrule hkind hnumbered, settings_append, settings_append,
      settings_list, settings_numbered, ← Declarations.ofList_append_numbered apart.in_settings values]

end Trees

/-- A body with camel-cased names, a marker of its own and a list. -/
def cameled : Table String Value :=
  .ofList [("borderTop", .text "1px"), ("src/*7*/", .text "old"),
    ("Src", .list [.text "a", .text "b"])]

/-- The property of the list ends with a capital sigma, whose small letter is
the one for the end of a word, before a marker as well. -/
theorem flatten_list_eq_numbered_cameled :
    Value.SameSheet (.map [(.text "p", withList cameled "fontΑΣ" [.text "x", .int 2])])
        (.map [(.text "p", withNumbered cameled "fontΑΣ" [.text "x", .int 2])])
      ∧ Value.SameSheet (.map [(.text "@Page", withList cameled "fontΑΣ" [.text "x", .int 2])])
          (.map [(.text "@Page", withNumbered cameled "fontΑΣ" [.text "x", .int 2])]) :=
  flatten_list_eq_numbered (by decide) (List.cons_ne_nil _ _) (by decide) (by decide +kernel)
    (by decide) (by decide) (by decide) (by decide +kernel)

end Stylesheet
