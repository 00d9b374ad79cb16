/-
  Stylesheet.Proofs.Vendors
  ─────────────────────────
  **A PROPERTY FANNED OUT OVER VENDORS.**

  The key of a property for a vendor has a capital for the first letter of
  either name, so two hyphens go into it.  A hyphen ends the word before it
  and begins none, and a small letter is in its word what its capital was: the
  canonical key is made of the canonical names.  Keys that are the same, or
  come to the same, have one value, so the first of them makes the place and
  the others change nothing.

  Main statements:
    * `lower_append_hyphen` — a hyphen parts a text for lowering;
    * `ofKey_vendorKey` — the canonical key of a property for a vendor;
    * `entries_ofList_const` — a run of insertions of one value;
    * `flatten_vendorFan` — the sheet of a fan below a selector.
-/
import Mathlib.Tactic.MkIffOfInductiveProp
import Stylesheet.Proofs.Body
import Stylesheet.Proofs.Order

namespace Stylesheet

open AtRule Property Text Unicode

/-! ## §1. Hyphens. -/

namespace Text

/-- No word goes on at a hyphen. -/
theorem meetsCased_hyphen (t : List Char) : meetsCased ('-' :: t) = false := by
  rw [meetsCased, if_neg (by decide)]
  decide

/-- A text behind a hyphen is lowered by itself. -/
theorem lowerFrom_hyphen (inWord : Bool) (t : List Char) :
    lowerFrom inWord ('-' :: t) = '-' :: lower t := by
  have ends : wordAfter inWord '-' = false := by
    rw [wordAfter, if_neg (by decide)]
    decide
  have own : lowerAt inWord '-' t = ['-'] := by
    rw [lowerAt, if_neg (by decide)]
    decide
  rw [lowerFrom, ends, own]
  rfl

/-- **A hyphen parts a text for lowering.** -/
theorem lower_append_hyphen (s t : List Char) :
    lower (s ++ '-' :: t) = lower s ++ '-' :: lower t := by
  rw [lower, lowerFrom_append_of_not_meetsCased (meetsCased_hyphen t), lowerFrom_hyphen]
  rfl

end Text

/-! ## §2. Capitals. -/

namespace Unicode

/-- What a capital has to be for its small letter. -/
@[mk_iff]
structure IsCapital (capital c : Char) : Prop where
  /-- It is the image of the small letter. -/
  upper : upperChar c = [capital]
  /-- A hyphen goes before it. -/
  isUpper : capital.isUpper = true
  /-- The small letter is its image. -/
  lower : lowerChar capital = [c]
  /-- The small letter is its own image. -/
  own : lowerChar c = [c]
  /-- Both begin a word or neither. -/
  words : wordAfter false capital = wordAfter false c

/-- The Latin letters, one by one. -/
theorem isCapital_latin :
    ∀ i : Fin 26, IsCapital (Char.ofNat (0x41 + i)) (Char.ofNat (0x61 + i)) := by
  simp only [isCapital_iff]
  decide +kernel

/-- Every small Latin letter has a capital. -/
theorem exists_isCapital {c : Char} (h : c.isLower = true) :
    ∃ capital, IsCapital capital c := by
  have bounds : 0x61 ≤ c.toNat ∧ c.toNat ≤ 0x7a := by
    have both : c.val ≥ 'a'.val ∧ c.val ≤ 'z'.val := by
      have test : (decide (c.val ≥ 'a'.val) && decide (c.val ≤ 'z'.val)) = true := h
      simpa using test
    simpa [UInt32.le_iff_toNat_le] using both
  have latin := isCapital_latin ⟨c.toNat - 0x61, by omega⟩
  have place : 0x61 + (c.toNat - 0x61) = c.toNat := by omega
  simp only [place, Char.ofNat_toNat] at latin
  exact ⟨_, latin⟩

end Unicode

/-- A name begins with a small Latin letter. -/
def StartsSmall (name : String) : Prop :=
  name.toList.head?.any Char.isLower = true

instance (name : String) : Decidable (StartsSmall name) :=
  inferInstanceAs (Decidable (_ = true))

/-- With a capital a name gets a hyphen at its head, and is lowered to the same
behind it. -/
theorem exists_dashed_capitalize {name : String} (h : StartsSmall name) :
    ∃ word, dashed (capitalize name.toList) = '-' :: word
      ∧ lower word = lower (dashed name.toList) := by
  unfold StartsSmall at h
  cases hname : name.toList with
  | nil =>
      rw [hname] at h
      cases h
  | cons c rest =>
      rw [hname] at h
      obtain ⟨capital, hc⟩ := exists_isCapital (show c.isLower = true from h)
      refine ⟨capital :: dashed rest, ?_, ?_⟩
      · rw [capitalize, hc.upper]
        show (if capital.isUpper then ['-', capital] else [capital]) ++ dashed rest = _
        rw [hc.isUpper]
        rfl
      · have small : dashed (c :: rest) = c :: dashed rest := by
          show (if c.isUpper then ['-', c] else [c]) ++ dashed rest = _
          rw [isUpper_of_lowerChar_self hc.own]
          rfl
        have capitalImage : lowerAt false capital (dashed rest) = [c] := by
          rw [lowerAt, if_neg, hc.lower]
          intro same
          exact absurd hc.isUpper (by rw [same]; decide)
        have smallImage : lowerAt false c (dashed rest) = [c] := by
          rw [lowerAt, if_neg (ne_sigma_of_lowerChar_self hc.own), hc.own]
        rw [small, lower, lower, lowerFrom, lowerFrom, capitalImage, smallImage, hc.words]

/-- **The canonical key of a property for a vendor.** -/
theorem ofKey_vendorKey {vendor property : String} (hvendor : StartsSmall vendor)
    (hproperty : StartsSmall property) :
    ofKey (vendorKey vendor property) = "-" ++ ofKey vendor ++ "-" ++ ofKey property := by
  obtain ⟨first, hfirst, lowerFirst⟩ := exists_dashed_capitalize hvendor
  obtain ⟨second, hsecond, lowerSecond⟩ := exists_dashed_capitalize hproperty
  have front : lower ('-' :: first) = '-' :: lower first := lower_append_hyphen [] first
  rw [← String.toList_inj, ofKey, vendorKey, String.toList_ofList, String.toList_ofList,
    dashed_append, hfirst, hsecond, lower_append_hyphen, front, lowerFirst, lowerSecond]
  simp [ofKey]

/-- No such key is an at-rule. -/
theorem isKey_vendorKey {vendor property : String} (hvendor : StartsSmall vendor)
    (hproperty : StartsSmall property) : isKey (vendorKey vendor property) = false := by
  rw [← isKey_ofKey, ofKey_vendorKey hvendor hproperty, Bool.eq_false_iff, Ne, isKey_iff]
  simp

/-! ## §3. One value at many keys. -/

section OneValue

variable {α β : Type} [DecidableEq α]

/-- **A run of insertions of one value** makes an entry where a key occurs
first. -/
theorem Table.entries_ofList_const (keys : List α) (b : β) :
    (ofList (keys.map fun key => (key, b))).entries = keys.eraseDups.map fun key => (key, b) := by
  induction keys using List.reverseRecOn with
  | nil => rfl
  | append_singleton front key ih =>
      have last : ofList ((front ++ [key]).map fun key => (key, b))
          = (ofList (front.map fun key => (key, b))).insert key b := by
        rw [List.map_append]
        exact insertAll_concat ∅ _ key b
      rw [last, eraseDups_concat]
      by_cases h : key ∈ front
      · -- the key has this value already
        have present : (ofList (front.map fun key => (key, b))).get? key = some b := by
          rw [get?_eq_some_iff, ih]
          exact List.mem_map_of_mem (List.mem_eraseDups.mpr h)
        rw [if_pos h, insert_of_get? present, ih]
      · have absent : key ∉ (ofList (front.map fun key => (key, b))).keys := by
          rw [keys, ih, List.map_map]
          simpa [Function.comp_def] using h
        rw [if_neg h, insert, entries_write_of_not_mem absent, ih, List.map_append]
        rfl

/-- What counts where it occurs first counts there after a map, whether or not
it is sorted out before. -/
theorem eraseDups_map_eraseDups [DecidableEq β] (f : α → β) (l : List α) :
    (l.eraseDups.map f).eraseDups = (l.map f).eraseDups := by
  induction l using List.reverseRecOn with
  | nil => rfl
  | append_singleton front a ih =>
      rw [List.map_append, List.map_singleton, eraseDups_concat, eraseDups_concat, ← ih]
      by_cases h : a ∈ front
      · rw [if_pos h, if_pos (List.mem_map_of_mem h)]
      · rw [if_neg h, List.map_append, List.map_singleton, eraseDups_concat]
        simp only [List.mem_map, List.mem_eraseDups]

end OneValue

/-! ## §4. Fans. -/

/-- A fan has the keys of its vendors, each where it occurs first. -/
theorem entries_vendorFan (property : String) (value : Value) (vendors : List String) :
    (vendorFan property value vendors).entries
      = (vendors.map fun vendor => vendorKey vendor property).eraseDups.map
          fun key => (key, value) := by
  rw [← Table.entries_ofList_const, List.map_map]
  rfl

/-- One value at many keys sets each of them to it. -/
theorem settings_const (keys : List String) (value : Scalar) :
    settings (keys.map fun key => (key, .scalar value))
      = keys.map fun key => (key, .single value) := by
  rw [settings, List.filterMap_map, ← List.filterMap_eq_map]
  rfl

/-- Single settings to one value make an entry where a name occurs first. -/
theorem Declarations.entries_ofList_const (names : List String) (value : Scalar) :
    (ofList (names.map fun name => (name, .single value))).entries
      = names.eraseDups.map fun name => (name, value) := by
  rw [← Table.entries_ofList_const, ofList, Table.ofList, Table.insertAll, List.foldl_map,
    List.foldl_map]
  rfl

section Fan

variable {property selector : String} {vendors : List String}

/-- A fan is a body. -/
theorem isBody_vendorFan (hproperty : StartsSmall property)
    (hvendors : ∀ vendor ∈ vendors, StartsSmall vendor) (value : Scalar) :
    IsBody (vendorFan property (.scalar value) vendors).entries := by
  intro e he
  rw [entries_vendorFan] at he
  obtain ⟨key, hkey, rfl⟩ := List.mem_map.mp he
  obtain ⟨vendor, hvendor, rfl⟩ := List.mem_map.mp (List.mem_eraseDups.mp hkey)
  exact ⟨isKey_vendorKey (hvendors vendor hvendor) hproperty, trivial⟩

theorem entries_vendorFan_ne_nil (hne : vendors ≠ []) (value : Value) :
    (vendorFan property value vendors).entries ≠ [] := by
  obtain ⟨vendor, hvendor⟩ := List.exists_mem_of_ne_nil _ hne
  rw [entries_vendorFan]
  exact List.ne_nil_of_mem (List.mem_map_of_mem
    (List.mem_eraseDups.mpr (List.mem_map_of_mem hvendor)))

/-- What a fan leaves below a selector: the value at the canonical key for each
vendor, where it occurs first. -/
theorem entries_ofList_vendorFan (hproperty : StartsSmall property)
    (hvendors : ∀ vendor ∈ vendors, StartsSmall vendor) (value : Scalar) :
    (Declarations.ofList
        (canonical (settings (vendorFan property (.scalar value) vendors).entries))).entries
      = (vendors.map fun vendor => "-" ++ ofKey vendor ++ "-" ++ ofKey property).eraseDups.map
          fun name => (name, value) := by
  have names : (vendors.map fun vendor => vendorKey vendor property).map ofKey
      = vendors.map fun vendor => "-" ++ ofKey vendor ++ "-" ++ ofKey property := by
    rw [List.map_map]
    exact List.map_congr_left fun vendor hvendor =>
      ofKey_vendorKey (hvendors vendor hvendor) hproperty
  have sets : canonical (settings (vendorFan property (.scalar value) vendors).entries)
      = ((vendors.map fun vendor => vendorKey vendor property).eraseDups.map ofKey).map
          fun name => (name, .single value) := by
    rw [entries_vendorFan, settings_const, canonical, List.map_map, List.map_map]
    rfl
  -- keys are sorted out twice: as they are in the fan, and canonical in the block
  rw [sets, Declarations.entries_ofList_const, eraseDups_map_eraseDups, names]

/-- **The sheet of a fan below a selector**: the value at the canonical key for
each vendor, once for each such key, where it occurs first. -/
theorem flatten_vendorFan (hproperty : StartsSmall property)
    (hvendors : ∀ vendor ∈ vendors, StartsSmall vendor) (hne : vendors ≠ []) (value : Scalar)
    (hkey : isKey selector = false) (hselector : selector ≠ "") :
    ∃ d : Declarations,
      (flatten (.map [(.text selector,
          .ofTextTable (vendorFan property (.scalar value) vendors))])).result
        = .ok (.ofList [(selector, .block d)])
      ∧ d.entries
        = (vendors.map fun vendor => "-" ++ ofKey vendor ++ "-" ++ ofKey property).eraseDups.map
            fun name => (name, value) := by
  have body := isBody_vendorFan hproperty hvendors value
  exact ⟨_, result_flatten_selector hkey hselector body (entries_vendorFan_ne_nil hne _),
    entries_ofList_vendorFan hproperty hvendors value⟩

end Fan

/-- The usual vendors are names of this kind. -/
example : ∀ vendor ∈ usualVendors, StartsSmall vendor := by decide

/-- Vendors that are named twice or come to the same key, one of them ending
with a capital sigma. -/
theorem flatten_vendorFan_equivalent :
    ∃ d : Declarations,
      (flatten (.map [(.text "ul li", .ofTextTable (vendorFan "borderRadius" (.scalar (.int 10))
          ["aΣ", "webkitX", "aς", "aΣ", "webkit-x"]))])).result
        = .ok (.ofList [("ul li", .block d)])
      ∧ d.entries = [("-aς-border-radius", .int 10), ("-webkit-x-border-radius", .int 10)] := by
  obtain ⟨d, sheet, entries⟩ := flatten_vendorFan (by decide : StartsSmall "borderRadius")
    (by decide : ∀ vendor ∈ ["aΣ", "webkitX", "aς", "aΣ", "webkit-x"], StartsSmall vendor)
    (List.cons_ne_nil _ _) (.int 10) (by decide : isKey "ul li" = false) (by decide)
  exact ⟨d, sheet, entries.trans (by decide +kernel)⟩

end Stylesheet
