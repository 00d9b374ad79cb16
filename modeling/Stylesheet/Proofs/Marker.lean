/-
  Stylesheet.Proofs.Marker
  ────────────────────────
  **MARKERS AND CANONICAL NAMES.**

  A marker is made of signs, and so is the line feed that may follow it.
  Neither hyphens nor lowering touch signs, so that the name that a key
  stands for has a marker just when the key has one, and the same marker:
  it comes off before or after the key is brought into its canonical form.

  Main statements:
    * `withoutMarkerFrom_of_marked`, `withoutMarkerFrom_of_not_marked` — what
      taking a marker off does to a text with one and to a text without;
    * `ofKey_numbered` — a marker goes on before or after;
    * `withoutMarker_ofKey` — a marker comes off before or after;
    * `withoutMarker_exactly` — which names lose a marker, and what is left;
    * `ofKey_settles` — what the canonical form of a name is.
-/
import Stylesheet.Proofs.Name
import Stylesheet.Proofs.Sign

namespace Stylesheet.Property

open Stylesheet.Unicode Stylesheet.Text

/-! ## §1. Texts with a marker. -/

/-- A text that is an ordinal marker. -/
def IsMarker (marker : List Char) : Prop :=
  ∃ digits, digits ≠ [] ∧ (∀ c ∈ digits, isDigit c = true) ∧
    marker = '/' :: '*' :: digits ++ ['*', '/']

/-- A text that ends with a marker, or with a marker and a line feed. -/
structure Marked (s base marker behind : List Char) : Prop where
  /-- The parts of the text. -/
  parts : s = base ++ (marker ++ behind)
  /-- The marker. -/
  marker : IsMarker marker
  /-- What may stand behind it. -/
  behind : behind = [] ∨ behind = ['\n']

theorem markerBase?_eq_some_iff_isMarker {s base : List Char} :
    markerBase? s = some base ↔ ∃ marker, IsMarker marker ∧ s = base ++ marker := by
  rw [markerBase?_eq_some_iff]
  constructor
  · intro ⟨digits, hne, hall, hs⟩
    exact ⟨_, ⟨digits, hne, hall, rfl⟩, by rw [hs, List.append_assoc]⟩
  · intro ⟨marker, ⟨digits, hne, hall, hmarker⟩, hs⟩
    exact ⟨digits, hne, hall, by rw [hs, hmarker, List.append_assoc]⟩

/-- A text that ends with a line feed has no marker at its very end. -/
theorem markerBase?_concat_lineFeed (s : List Char) : markerBase? (s ++ ['\n']) = none := by
  rw [markerBase?, List.reverse_concat]
  rfl

/-- **From a text with a marker the marker is taken off.** -/
theorem withoutMarkerFrom_of_marked {s base marker behind : List Char}
    (h : Marked s base marker behind) : withoutMarkerFrom s = base ++ behind := by
  obtain ⟨rfl, hmarker, hbehind⟩ := h
  have found : markerBase? (base ++ marker) = some base :=
    markerBase?_eq_some_iff_isMarker.mpr ⟨marker, hmarker, rfl⟩
  rcases hbehind with rfl | rfl
  · rw [List.append_nil, List.append_nil, withoutMarkerFrom, found]
  · rw [← List.append_assoc, withoutMarkerFrom, markerBase?_concat_lineFeed, List.reverse_concat]
    simp only [List.reverse_reverse, found]

/-- **A text without a marker is left as it is.** -/
theorem withoutMarkerFrom_of_not_marked {s : List Char}
    (h : ∀ base marker behind, ¬Marked s base marker behind) : withoutMarkerFrom s = s := by
  have plain : ∀ base, markerBase? s ≠ some base := by
    intro base found
    obtain ⟨marker, hmarker, hs⟩ := markerBase?_eq_some_iff_isMarker.mp found
    exact h base marker [] ⟨by rw [hs, List.append_nil], hmarker, Or.inl rfl⟩
  rw [withoutMarkerFrom, Option.eq_none_iff_forall_ne_some.mpr plain]
  dsimp only
  split
  · next rest hrest =>
    have hs : s = rest.reverse ++ ['\n'] := by
      rw [← List.reverse_reverse s, hrest, List.reverse_cons]
    split
    · next base found =>
      obtain ⟨marker, hmarker, hfront⟩ := markerBase?_eq_some_iff_isMarker.mp found
      exact absurd ⟨by rw [hs, hfront, List.append_assoc], hmarker, Or.inr rfl⟩
        (h base marker ['\n'])
    · rfl
  · rfl

/-- A marker is made of signs. -/
theorem IsMarker.signs {marker : List Char} (h : IsMarker marker) : ∀ c ∈ marker, IsSign c := by
  obtain ⟨digits, -, hall, rfl⟩ := h
  simp only [List.mem_append, List.mem_cons, List.not_mem_nil, or_false]
  intro c hc
  rcases hc with (rfl | rfl | hc) | rfl | rfl
  · exact isSign_of_lt (by decide)
  · exact isSign_of_lt (by decide)
  · exact isSign_of_isDigit (hall c hc)
  · exact isSign_of_lt (by decide)
  · exact isSign_of_lt (by decide)

/-- So is a marker with what may follow it. -/
theorem Marked.signs {s base marker behind : List Char} (h : Marked s base marker behind) :
    ∀ c ∈ marker ++ behind, IsSign c := by
  rw [List.forall_mem_append]
  refine ⟨h.marker.signs, fun c hc => ?_⟩
  rcases h.behind with nothing | lineFeed
  · rw [nothing] at hc
    cases hc
  · rw [lineFeed, List.mem_singleton] at hc
    rw [hc]
    exact isSign_of_lt (by decide)

/-- What numbering puts behind a name is a marker. -/
theorem isMarker_toDigits (index : Nat) :
    IsMarker ('/' :: '*' :: Nat.toDigits 10 index ++ ['*', '/']) :=
  ⟨_, Nat.toDigits_ne_nil, fun _ hc =>
    isDigit_of_isDigit (Nat.isDigit_of_mem_toDigits (by decide) (by decide) hc), rfl⟩

/-! ## §2. Canonical texts that end with signs. -/

section Signs

variable {tail : List Char}

theorem dashed_append (s t : List Char) : dashed (s ++ t) = dashed s ++ dashed t :=
  List.flatMap_append

/-- Signs at the end stay, and what stands before them is brought into its
canonical form by itself. -/
theorem lower_dashed_append_of_signs (s : List Char) (h : ∀ c ∈ tail, IsSign c) :
    lower (dashed (s ++ tail)) = lower (dashed s) ++ tail := by
  rw [dashed_append, dashed_of_settled (settled_of_signs h), lower_append_of_signs _ h]

/-- A sign at the end of a text with hyphens was there. -/
theorem exists_front_of_dashed_concat {s t : List Char} {c : Char} (hc : IsSign c)
    (h : dashed s = t ++ [c]) : ∃ front, s = front ++ [c] ∧ dashed front = t := by
  rcases List.eq_nil_or_concat s with rfl | ⟨front, d, rfl⟩
  · exact absurd h.symm (List.append_ne_nil_of_right_ne_nil _ (List.cons_ne_nil _ _))
  · rw [List.concat_eq_append] at h ⊢
    have split : dashed (front ++ [d]) = dashed front ++ if d.isUpper then ['-', d] else [d] := by
      rw [dashed_append]
      exact congrArg (dashed front ++ ·) (List.append_nil _)
    rw [split] at h
    -- a hyphen is put before a character, so the last one is still the last
    have same : d = c := by
      have ends := congrArg List.getLast? h
      rw [List.getLast?_append, List.getLast?_concat] at ends
      cases hd : d.isUpper <;> simpa [hd] using ends
    subst same
    rw [hc.isUpper, if_neg Bool.false_ne_true, List.append_cancel_right_eq] at h
    exact ⟨front, rfl, h⟩

/-- Signs at the end of a canonical text were there. -/
theorem exists_front_of_lower_dashed {s t : List Char} (h : ∀ c ∈ tail, IsSign c)
    (hs : lower (dashed s) = t ++ tail) :
    ∃ front, s = front ++ tail ∧ lower (dashed front) = t := by
  obtain ⟨middle, hmiddle, hlower⟩ := exists_front_of_lower h hs
  clear hs
  induction tail using List.reverseRecOn generalizing s with
  | nil => exact ⟨s, (List.append_nil s).symm, by rw [hmiddle, List.append_nil, hlower]⟩
  | append_singleton signs c ih =>
      rw [List.forall_mem_append, List.forall_mem_singleton] at h
      rw [← List.append_assoc] at hmiddle
      obtain ⟨longer, rfl, hlonger⟩ := exists_front_of_dashed_concat h.2 hmiddle
      obtain ⟨front, rfl, hfront⟩ := ih h.1 hlonger
      exact ⟨front, List.append_assoc _ _ _, hfront⟩

end Signs

/-! ## §3. Markers before and after. -/

/-- A text with a marker has it in its canonical form. -/
theorem Marked.lower_dashed {s base marker behind : List Char} (h : Marked s base marker behind) :
    Marked (lower (dashed s)) (lower (dashed base)) marker behind where
  parts := by rw [h.parts, lower_dashed_append_of_signs _ h.signs]
  marker := h.marker
  behind := h.behind

/-- A text whose canonical form has a marker has that marker itself. -/
theorem exists_marked_of_lower_dashed {s base marker behind : List Char}
    (h : Marked (lower (dashed s)) base marker behind) :
    ∃ front, Marked s front marker behind := by
  obtain ⟨front, hs, -⟩ := exists_front_of_lower_dashed h.signs h.parts
  exact ⟨front, hs, h.marker, h.behind⟩

/-- **A marker goes on before or after a name becomes canonical.** -/
theorem ofKey_numbered (name : String) (index : Nat) :
    ofKey (numbered name index) = numbered (ofKey name) index := by
  rw [← String.toList_inj, toList_numbered, ofKey, ofKey, String.toList_ofList,
    String.toList_ofList, toList_numbered, List.append_assoc,
    lower_dashed_append_of_signs _ (isMarker_toDigits index).signs, List.append_assoc]

/-- A key that stands for a numbered name is numbered itself. -/
theorem exists_numbered_of_ofKey {key name : String} {index : Nat}
    (h : ofKey key = numbered name index) : ∃ base, key = numbered base index ∧ ofKey base = name := by
  rw [← String.toList_inj, ofKey, String.toList_ofList, toList_numbered, List.append_assoc] at h
  obtain ⟨front, hkey, hname⟩ := exists_front_of_lower_dashed (isMarker_toDigits index).signs h
  refine ⟨String.ofList front, ?_, ?_⟩
  · rw [← String.toList_inj, toList_numbered, String.toList_ofList, List.append_assoc, hkey]
  · rw [ofKey, String.toList_ofList, hname, String.ofList_toList]

/-- Values are numbered before or after their name becomes canonical. -/
theorem numberAll_ofKey {α : Type} (name : String) (values : List α) :
    numberAll (ofKey name) values = (numberAll name values).map fun e => (ofKey e.1, e.2) := by
  rw [numberAll, numberAll, List.map_map]
  refine List.map_congr_left fun e _ => ?_
  show (numbered (ofKey name) e.2, _) = (ofKey (numbered name e.2), _)
  rw [ofKey_numbered]

/-- **A marker comes off before or after a name becomes canonical.** -/
theorem withoutMarker_ofKey (key : String) :
    withoutMarker (ofKey key) = ofKey (withoutMarker key) := by
  rw [withoutMarker, withoutMarker, ofKey, ofKey, String.toList_ofList, String.toList_ofList]
  refine congrArg String.ofList ?_
  by_cases h : ∃ base marker behind, Marked key.toList base marker behind
  · obtain ⟨base, marker, behind, marked⟩ := h
    have signs : ∀ c ∈ behind, IsSign c := fun c hc => marked.signs c (List.mem_append_right _ hc)
    rw [withoutMarkerFrom_of_marked marked, withoutMarkerFrom_of_marked marked.lower_dashed,
      lower_dashed_append_of_signs _ signs]
  · have plain : ∀ base marker behind, ¬Marked key.toList base marker behind :=
      fun base marker behind marked => h ⟨base, marker, behind, marked⟩
    have canonical : ∀ base marker behind,
        ¬Marked (lower (dashed key.toList)) base marker behind := by
      intro base marker behind marked
      obtain ⟨front, marked⟩ := exists_marked_of_lower_dashed marked
      exact plain front marker behind marked
    rw [withoutMarkerFrom_of_not_marked plain, withoutMarkerFrom_of_not_marked canonical]

/-- A sigma before a marker ends its word, as it does at the end of the name. -/
example : withoutMarker (ofKey "ΑΣ/*0*/") = "ας" := by decide +kernel

/-! ## §4. Markers in names. -/

/-- A marker ends with a slash. -/
theorem IsMarker.getLast? {marker : List Char} (h : IsMarker marker) :
    marker.getLast? = some '/' := by
  obtain ⟨digits, -, -, rfl⟩ := h
  have whole : '/' :: '*' :: digits ++ ['*', '/'] = ('/' :: '*' :: digits ++ ['*']) ++ ['/'] := by
    simp
  rw [whole, List.getLast?_concat]

/-- The last character of a text with a marker shows whether a line feed follows
the marker. -/
theorem Marked.getLast? {s base marker behind : List Char} (h : Marked s base marker behind) :
    s.getLast? = some (if behind = [] then '/' else '\n') := by
  rw [h.parts]
  rcases h.behind with rfl | rfl
  · rw [List.append_nil, List.getLast?_append, h.marker.getLast?]
    rfl
  · rw [← List.append_assoc, List.getLast?_concat]
    rfl

/-- A text is told apart into base, marker and what follows in one way. -/
theorem Marked.unique {s base marker behind base' marker' behind' : List Char}
    (h : Marked s base marker behind) (h' : Marked s base' marker' behind') :
    base = base' ∧ marker = marker' ∧ behind = behind' := by
  have same : behind = behind' := by
    have last := h.getLast?.symm.trans h'.getLast?
    rcases h.behind with rfl | rfl <;> rcases h'.behind with rfl | rfl <;> simp at last ⊢
  subst same
  have front : base ++ marker = base' ++ marker' := by
    have whole := h.parts.symm.trans h'.parts
    rw [← List.append_assoc, ← List.append_assoc] at whole
    exact List.append_cancel_right whole
  -- both bases are what stands before the marker that is found
  have found : markerBase? (base ++ marker) = some base :=
    markerBase?_eq_some_iff_isMarker.mpr ⟨marker, h.marker, rfl⟩
  have found' : markerBase? (base ++ marker) = some base' :=
    markerBase?_eq_some_iff_isMarker.mpr ⟨marker', h'.marker, front⟩
  obtain rfl : base = base' := Option.some.inj (found.symm.trans found')
  exact ⟨rfl, List.append_cancel_left front, rfl⟩

/-- A name that ends with digits between `/*` and `*/`, or with these and a
line feed. -/
structure EndsNumbered (name base digits behind : String) : Prop where
  /-- The parts of the name. -/
  parts : name = base ++ "/*" ++ digits ++ "*/" ++ behind
  /-- There is a digit. -/
  ne_empty : digits ≠ ""
  /-- There is nothing but digits, of whatever script. -/
  digits : ∀ c ∈ digits.toList, isDigit c = true
  /-- What may stand behind the marker. -/
  behind : behind = "" ∨ behind = "\n"

/-- A marker as a text. -/
def markerOf (digits : List Char) : List Char :=
  '/' :: '*' :: digits ++ ['*', '/']

theorem EndsNumbered.marked {name base digits behind : String}
    (h : EndsNumbered name base digits behind) :
    Marked name.toList base.toList (markerOf digits.toList) behind.toList where
  parts := by
    rw [h.parts]
    simp [markerOf]
  marker := ⟨digits.toList, by simpa using h.ne_empty, h.digits, rfl⟩
  behind := by
    rcases h.behind with rfl | rfl
    · exact Or.inl rfl
    · exact Or.inr rfl

theorem exists_endsNumbered_of_marked {name : String} {base marker behind : List Char}
    (h : Marked name.toList base marker behind) :
    ∃ base digits behind, EndsNumbered name base digits behind := by
  obtain ⟨digits, hne, hall, hmarker⟩ := h.marker
  refine ⟨.ofList base, .ofList digits, .ofList behind, ?_, ?_, ?_, ?_⟩
  · rw [← String.toList_inj, h.parts, hmarker]
    simp
  · simpa [← String.toList_inj] using hne
  · rw [String.toList_ofList]
    exact hall
  · rcases h.behind with rfl | rfl
    · exact Or.inl rfl
    · exact Or.inr rfl

/-- **Which names lose a marker, and what is left.**  A name that ends with
digits between `/*` and `*/`, or with these and a line feed, loses all from
the `/*` to the `*/`, and there is one way to read it so; any other name is
left as it is.  So what numbering puts behind a name comes off, and a
numbered name tells its property and its index. -/
theorem withoutMarker_exactly (name : String) :
    (∀ base digits behind, EndsNumbered name base digits behind →
      withoutMarker name = base ++ behind
      ∧ ∀ base' digits' behind', EndsNumbered name base' digits' behind' →
          base' = base ∧ digits' = digits ∧ behind' = behind)
    ∧ ((¬∃ base digits behind, EndsNumbered name base digits behind) →
        withoutMarker name = name)
    ∧ (∀ index : Nat, withoutMarker (numbered name index) = name)
    ∧ ∀ (other : String) (i j : Nat), numbered name i = numbered other j →
        name = other ∧ i = j := by
  refine ⟨?_, ?_, withoutMarker_numbered name, fun other i j => numbered_inj.mp⟩
  · intro base digits behind h
    constructor
    · rw [withoutMarker, withoutMarkerFrom_of_marked h.marked, String.ofList_append,
        String.ofList_toList, String.ofList_toList]
    · intro base' digits' behind' h'
      obtain ⟨hbase, hmarker, hbehind⟩ := h'.marked.unique h.marked
      simp only [markerOf, List.cons_append, List.cons.injEq, List.append_cancel_right_eq,
        true_and] at hmarker
      exact ⟨String.toList_inj.mp hbase, String.toList_inj.mp hmarker, String.toList_inj.mp hbehind⟩
  · intro plain
    rw [withoutMarker, withoutMarkerFrom_of_not_marked, String.ofList_toList]
    intro base marker behind h
    exact plain (exists_endsNumbered_of_marked h)

/-- Of two markers the last one goes, Arabic digits count, and the line feed
stays. -/
theorem withoutMarker_exactly_twice :
    EndsNumbered "a/*0*//*٣4*/\n" "a/*0*/" "٣4" "\n"
      ∧ withoutMarker "a/*0*//*٣4*/\n" = "a/*0*/\n"
      ∧ withoutMarker (numbered "a/*0*//*٣4*/\n" 10) = "a/*0*//*٣4*/\n" := by
  have ends : EndsNumbered "a/*0*//*٣4*/\n" "a/*0*/" "٣4" "\n" :=
    ⟨by decide, by decide, List.all_eq_true.mp (by decide), Or.inr rfl⟩
  obtain ⟨reads, -, back, -⟩ := withoutMarker_exactly "a/*0*//*٣4*/\n"
  exact ⟨ends, (reads _ _ _ ends).1, back 10⟩

/-! ## §5. Canonical names. -/

/-- **The canonical form of a name** is canonical and has no Latin capital.  It
begins with an `@` just when the name does, and markers go on and come off
before or after. -/
theorem ofKey_settles (key : String) :
    ofKey (ofKey key) = ofKey key
    ∧ (∀ c ∈ (ofKey key).toList, c.isUpper = false)
    ∧ (AtRule.isKey (ofKey key) = true ↔ AtRule.isKey key = true)
    ∧ (∀ index : Nat, ofKey (numbered key index) = numbered (ofKey key) index)
    ∧ withoutMarker (ofKey key) = ofKey (withoutMarker key) := by
  refine ⟨ofKey_ofKey key, ?_, ?_, ofKey_numbered key, withoutMarker_ofKey key⟩
  · intro c hc
    exact isUpper_of_lowerChar_self (settled_ofKey key c hc)
  · rw [isKey_ofKey]

end Stylesheet.Property
