/-
  Stylesheet.Proofs.Mapping
  ─────────────────────────
  **WHAT A MAPPING HOLDS AFTER MANY SETTINGS.**

  Setting an entry moves no key: a key that is there keeps its place and its
  writing, and a new one comes last.  So a setting may be made before the
  settings of other keys or behind them, once its own key has a place; and
  entries may be set into one another first, and the outcome over others.

  Main statements:
    * `setEntries_setEntries` — settings that are made in two groups, in
      either bracketing;
    * `setEntries_eq_append` — what distinct entries leave over others: new
      values in the old places, and the new keys behind them;
    * `setEntries_of_distinctKeys` — entries with new keys are set as they are;
    * `hasKey_setEntries`, `valueAt?_setEntries` — which keys are there in the
      end, and with which values.
-/
import Stylesheet.Value.Mapping

namespace Stylesheet.Value

/-! ## §1. Looking up. -/

/-- Whether one of the entries has the given key. -/
def hasKey (key : Value) (entries : List (Value × Value)) : Bool :=
  entries.any fun e => e.1.sameKey key

/-- The value of the first entry that has the given key. -/
def valueAt? (key : Value) (entries : List (Value × Value)) : Option Value :=
  (entries.find? fun e => e.1.sameKey key).map Prod.snd

section Lookup

variable {key other value : Value} {e : Value × Value} {rest entries : List (Value × Value)}

/-- Keys that are the same are the same as the same keys. -/
theorem sameKey_congr (h : key.sameKey other = true) (k : Value) :
    k.sameKey key = k.sameKey other := by
  rw [Bool.eq_iff_iff]
  constructor
  · intro hk
    exact sameKey_trans hk h
  · intro hk
    rw [sameKey_comm] at h
    exact sameKey_trans hk h

theorem sameKey_congr_left (h : key.sameKey other = true) (k : Value) :
    key.sameKey k = other.sameKey k := by
  rw [sameKey_comm, sameKey_congr h, sameKey_comm]

theorem hasKey_cons : hasKey key (e :: rest) = (e.1.sameKey key || hasKey key rest) :=
  List.any_cons

theorem hasKey_congr (h : key.sameKey other = true) :
    hasKey key entries = hasKey other entries := by
  unfold hasKey
  refine congrArg entries.any (funext fun e => ?_)
  exact sameKey_congr h e.1

theorem hasKey_eq_false_iff :
    hasKey key entries = false ↔ ∀ e ∈ entries, e.1.sameKey key = false := by
  rw [hasKey, List.any_eq_false]
  refine forall₂_congr fun e _ => ?_
  rw [Bool.not_eq_true]

theorem valueAt?_cons_of_same (h : e.1.sameKey key = true) :
    valueAt? key (e :: rest) = some e.2 := by
  rw [valueAt?, List.find?_cons, h]
  rfl

theorem valueAt?_cons_of_apart (h : e.1.sameKey key = false) :
    valueAt? key (e :: rest) = valueAt? key rest := by
  rw [valueAt?, List.find?_cons, h]
  rfl

theorem valueAt?_of_not_hasKey (h : hasKey key entries = false) : valueAt? key entries = none := by
  rw [valueAt?, List.find?_eq_none.mpr]
  · rfl
  · intro e he
    rw [hasKey_eq_false_iff.mp h e he]
    exact Bool.false_ne_true

/-- The value at a key among entries the first of which has a key of its own: if
this is the key, its value stands in for the one that there would be. -/
theorem getD_valueAt?_cons (new : hasKey e.1 rest = false) (key own : Value) :
    (valueAt? key (e :: rest)).getD own
      = (valueAt? key rest).getD (if key.sameKey e.1 then e.2 else own) := by
  have back : e.1.sameKey key = key.sameKey e.1 := sameKey_comm e.1 key
  cases same : key.sameKey e.1 with
  | true =>
      rw [valueAt?_cons_of_same (back.trans same),
        valueAt?_of_not_hasKey ((hasKey_congr same).trans new)]
      rfl
  | false =>
      rw [valueAt?_cons_of_apart (back.trans same)]
      rfl

theorem distinctKeys_nil : DistinctKeys [] := List.Pairwise.nil

theorem distinctKeys_cons :
    DistinctKeys (e :: rest) ↔ hasKey e.1 rest = false ∧ DistinctKeys rest := by
  rw [DistinctKeys, List.map_cons, List.pairwise_cons, List.forall_mem_map, hasKey_eq_false_iff]
  refine and_congr_left fun _ => forall₂_congr fun f _ => ?_
  rw [sameKey_comm]

/-- Of distinct keys one that is there is there once. -/
theorem countP_sameKey (distinct : DistinctKeys entries) (h : hasKey key entries = true) :
    entries.countP (fun e => e.1.sameKey key) = 1 := by
  induction entries with
  | nil => cases h
  | cons e rest ih =>
      obtain ⟨new, distinct⟩ := distinctKeys_cons.mp distinct
      rw [List.countP_cons]
      cases same : e.1.sameKey key with
      | true =>
          have others : rest.countP (fun e => e.1.sameKey key) = 0 := by
            rw [hasKey_congr same, hasKey_eq_false_iff] at new
            rw [List.countP_eq_zero]
            intro f hf
            rw [new f hf]
            exact Bool.false_ne_true
          rw [others]
          rfl
      | false =>
          rw [hasKey_cons, same, Bool.false_or] at h
          rw [ih distinct h]
          rfl

end Lookup

/-! ## §2. One setting. -/

section Setting

variable {key other : Value} {entries : List (Value × Value)}

theorem setEntry_cons_of_same {e : Value × Value} (h : e.1.sameKey key = true) (value : Value)
    (rest : List (Value × Value)) :
    setEntry key value (e :: rest) = (e.1, value) :: rest := by
  rw [setEntry, if_pos h]

theorem setEntry_cons_of_apart {e : Value × Value} (h : e.1.sameKey key = false) (value : Value)
    (rest : List (Value × Value)) :
    setEntry key value (e :: rest) = e :: setEntry key value rest := by
  rw [setEntry, h, if_neg Bool.false_ne_true]

/-- A new key is set at the end. -/
theorem setEntry_of_new (value : Value) (h : ∀ e ∈ entries, e.1.sameKey key = false) :
    setEntry key value entries = entries ++ [(key, value)] := by
  induction entries with
  | nil => rfl
  | cons e rest ih =>
      rw [setEntry_cons_of_apart (h e List.mem_cons_self),
        ih fun e he => h e (List.mem_cons_of_mem _ he)]
      rfl

/-- A key that is there is set in its place. -/
theorem setEntry_of_hasKey (distinct : DistinctKeys entries) (h : hasKey key entries = true)
    (value : Value) :
    setEntry key value entries
      = entries.map fun e => (e.1, if e.1.sameKey key then value else e.2) := by
  induction entries with
  | nil => cases h
  | cons e rest ih =>
      obtain ⟨new, distinct⟩ := distinctKeys_cons.mp distinct
      cases same : e.1.sameKey key with
      | true =>
          -- no other entry has the key, so the others stay
          have others :
              rest.map (fun e => (e.1, if e.1.sameKey key then value else e.2)) = rest := by
            rw [hasKey_congr same, hasKey_eq_false_iff] at new
            refine (List.map_congr_left fun f hf => ?_).trans (List.map_id rest)
            rw [new f hf]
            rfl
          rw [setEntry_cons_of_same same, List.map_cons, others, same]
          rfl
      | false =>
          rw [hasKey_cons, same, Bool.false_or] at h
          rw [setEntry_cons_of_apart same, ih distinct h, List.map_cons, same]
          rfl

/-- The second of two settings of one key is the one that counts. -/
theorem setEntry_setEntry_of_same (h : other.sameKey key = true) (value old : Value)
    (entries : List (Value × Value)) :
    setEntry key value (setEntry other old entries) = setEntry other value entries := by
  induction entries with
  | nil => exact setEntry_cons_of_same h value []
  | cons e rest ih =>
      have both : e.1.sameKey other = e.1.sameKey key := sameKey_congr h e.1
      cases same : e.1.sameKey other with
      | true =>
          have here : e.1.sameKey key = true := both.symm.trans same
          rw [setEntry_cons_of_same same, setEntry_cons_of_same same,
            setEntry_cons_of_same (e := (e.1, old)) here]
      | false =>
          rw [setEntry_cons_of_apart same, setEntry_cons_of_apart same,
            setEntry_cons_of_apart (both.symm.trans same), ih]

/-- A key that has a place is set before another key or behind it. -/
theorem setEntry_comm (apart : other.sameKey key = false) (h : hasKey key entries = true)
    (value otherValue : Value) :
    setEntry other otherValue (setEntry key value entries)
      = setEntry key value (setEntry other otherValue entries) := by
  induction entries with
  | nil => cases h
  | cons e rest ih =>
      -- an entry has one of the two keys at most
      cases same : e.1.sameKey key with
      | true =>
          have different : e.1.sameKey other = false := by
            rw [sameKey_congr_left same, sameKey_comm, apart]
          rw [setEntry_cons_of_same same, setEntry_cons_of_apart different,
            setEntry_cons_of_apart (e := (e.1, value)) different, setEntry_cons_of_same same]
      | false =>
          rw [hasKey_cons, same, Bool.false_or] at h
          rw [setEntry_cons_of_apart same]
          cases sameOther : e.1.sameKey other with
          | true =>
              rw [setEntry_cons_of_same sameOther, setEntry_cons_of_same sameOther,
                setEntry_cons_of_apart (e := (e.1, otherValue)) same]
          | false =>
              rw [setEntry_cons_of_apart sameOther, setEntry_cons_of_apart sameOther,
                setEntry_cons_of_apart same, ih h]

/-- The keys after a setting are those before it and the one that is set. -/
theorem hasKey_setEntry (key other value : Value) (entries : List (Value × Value)) :
    hasKey key (setEntry other value entries) = (hasKey key entries || other.sameKey key) := by
  induction entries with
  | nil => rw [setEntry, hasKey_cons, Bool.or_comm]
  | cons e rest ih =>
      cases same : e.1.sameKey other with
      | true =>
          rw [setEntry_cons_of_same same, hasKey_cons, hasKey_cons, sameKey_congr_left same,
            Bool.or_right_comm, Bool.or_self]
      | false => rw [setEntry_cons_of_apart same, hasKey_cons, hasKey_cons, ih, Bool.or_assoc]

/-- A setting is seen at its key and at no other. -/
theorem valueAt?_setEntry (key other value : Value) (entries : List (Value × Value)) :
    valueAt? key (setEntry other value entries)
      = if other.sameKey key then some value else valueAt? key entries := by
  induction entries with
  | nil =>
      rw [setEntry]
      cases same : other.sameKey key with
      | true => exact valueAt?_cons_of_same same
      | false => exact valueAt?_cons_of_apart same
  | cons e rest ih =>
      cases here : e.1.sameKey other with
      | true =>
          rw [setEntry_cons_of_same here, ← sameKey_congr_left here]
          cases same : e.1.sameKey key with
          | true => exact valueAt?_cons_of_same same
          | false =>
              rw [valueAt?_cons_of_apart same]
              exact valueAt?_cons_of_apart same
      | false =>
          rw [setEntry_cons_of_apart here]
          cases same : e.1.sameKey key with
          | true =>
              have apart : other.sameKey key = false := by
                rw [← sameKey_congr same, sameKey_comm, here]
              rw [valueAt?_cons_of_same same, valueAt?_cons_of_same same, apart]
              rfl
          | false => rw [valueAt?_cons_of_apart same, valueAt?_cons_of_apart same, ih]

end Setting

/-! ## §3. Many settings. -/

section Settings

variable {entries more : List (Value × Value)}

/-- **The keys after many settings.** -/
theorem hasKey_setEntries (key : Value) (entries more : List (Value × Value)) :
    hasKey key (setEntries entries more) = (hasKey key entries || hasKey key more) := by
  induction more generalizing entries with
  | nil => exact (Bool.or_false _).symm
  | cons e rest ih =>
      show hasKey key (setEntries (setEntry e.1 e.2 entries) rest) = _
      rw [ih, hasKey_setEntry, hasKey_cons, Bool.or_assoc]

/-- **The values after many settings**: of distinct entries the one that has the
key counts. -/
theorem valueAt?_setEntries (key : Value) (entries : List (Value × Value))
    (distinct : DistinctKeys more) :
    valueAt? key (setEntries entries more) = (valueAt? key more).or (valueAt? key entries) := by
  induction more generalizing entries with
  | nil => rfl
  | cons e rest ih =>
      obtain ⟨new, distinct⟩ := distinctKeys_cons.mp distinct
      show valueAt? key (setEntries (setEntry e.1 e.2 entries) rest) = _
      rw [ih _ distinct, valueAt?_setEntry]
      cases same : e.1.sameKey key with
      | true =>
          rw [hasKey_congr same] at new
          rw [valueAt?_of_not_hasKey new, valueAt?_cons_of_same same]
          rfl
      | false =>
          rw [valueAt?_cons_of_apart same]
          rfl

/-- **Entries with new keys are set as they are.** -/
theorem setEntries_of_distinctKeys (entries more : List (Value × Value))
    (h : DistinctKeys (entries ++ more)) : setEntries entries more = entries ++ more := by
  induction more generalizing entries with
  | nil => exact (List.append_nil entries).symm
  | cons e rest ih =>
      obtain ⟨key, value⟩ := e
      have new : ∀ e ∈ entries, e.1.sameKey key = false := by
        intro e he
        unfold DistinctKeys at h
        rw [List.map_append, List.map_cons] at h
        exact (List.pairwise_append.mp h).2.2 e.1 (List.mem_map_of_mem he) key List.mem_cons_self
      rw [List.append_cons] at h ⊢
      rw [← ih _ h, ← setEntry_of_new value new]
      rfl

/-- A key that has a place is set before all others or behind them. -/
theorem setEntries_setEntry_comm {key : Value} (apart : hasKey key more = false)
    (h : hasKey key entries = true) (value : Value) :
    setEntries (setEntry key value entries) more
      = setEntry key value (setEntries entries more) := by
  induction more generalizing entries with
  | nil => rfl
  | cons e rest ih =>
      rw [hasKey_cons, Bool.or_eq_false_iff] at apart
      -- the place that the key has is not lost
      have present : hasKey key (setEntry e.1 e.2 entries) = true := by
        rw [hasKey_setEntry, h, Bool.true_or]
      show setEntries (setEntry e.1 e.2 (setEntry key value entries)) rest
        = setEntry key value (setEntries (setEntry e.1 e.2 entries) rest)
      rw [setEntry_comm apart.1 h, ih apart.2 present]

/-- An entry is set into others before these are set, or behind them. -/
theorem setEntries_setEntry (distinct : DistinctKeys more) (entries : List (Value × Value))
    (key value : Value) :
    setEntries entries (setEntry key value more)
      = setEntry key value (setEntries entries more) := by
  induction more generalizing entries with
  | nil => rfl
  | cons e rest ih =>
      obtain ⟨new, distinct⟩ := distinctKeys_cons.mp distinct
      cases same : e.1.sameKey key with
      | true =>
          -- the entry gives the key its place, and no later one has it
          have place : hasKey key (setEntry e.1 e.2 entries) = true := by
            rw [hasKey_setEntry, same, Bool.or_true]
          rw [hasKey_congr same] at new
          rw [setEntry_cons_of_same same]
          show setEntries (setEntry e.1 value entries) rest
            = setEntry key value (setEntries (setEntry e.1 e.2 entries) rest)
          rw [← setEntries_setEntry_comm new place, setEntry_setEntry_of_same same]
      | false =>
          rw [setEntry_cons_of_apart same]
          exact ih distinct (setEntry e.1 e.2 entries)

/-- **Settings in two groups**: the second group is set over the first and both
over the rest, or one after the other. -/
theorem setEntries_setEntries (distinct : DistinctKeys more) (entries last : List (Value × Value)) :
    setEntries entries (setEntries more last) = setEntries (setEntries entries more) last := by
  induction last generalizing more with
  | nil => rfl
  | cons e rest ih =>
      show setEntries entries (setEntries (setEntry e.1 e.2 more) rest)
        = setEntries (setEntry e.1 e.2 (setEntries entries more)) rest
      rw [ih (distinctKeys_setEntry e.1 e.2 distinct), setEntries_setEntry distinct]

/-- **What distinct entries leave over others**: new values in the old places,
and behind them the entries with new keys. -/
theorem setEntries_eq_append (distinct : DistinctKeys entries) (distinctMore : DistinctKeys more) :
    setEntries entries more
      = entries.map (fun e => (e.1, (valueAt? e.1 more).getD e.2))
        ++ more.filter fun e => !hasKey e.1 entries := by
  induction more generalizing entries with
  | nil =>
      have same : entries.map (fun e => (e.1, (valueAt? e.1 []).getD e.2)) = entries :=
        List.map_id entries
      rw [same, List.filter_nil, List.append_nil]
      rfl
  | cons e rest ih =>
      obtain ⟨new, distinctRest⟩ := distinctKeys_cons.mp distinctMore
      have step : setEntries entries (e :: rest) = setEntries (setEntry e.1 e.2 entries) rest := rfl
      rw [step, ih (distinctKeys_setEntry e.1 e.2 distinct) distinctRest]
      -- the other entries are new after the setting when they are before it
      have behind : rest.filter (fun f => !hasKey f.1 (setEntry e.1 e.2 entries))
          = rest.filter fun f => !hasKey f.1 entries := by
        refine List.filter_congr fun f hf => ?_
        rw [hasKey_setEntry, sameKey_comm, hasKey_eq_false_iff.mp new f hf, Bool.or_false]
      rw [behind]
      cases present : hasKey e.1 entries with
      | true =>
          have front : (setEntry e.1 e.2 entries).map (fun f => (f.1, (valueAt? f.1 rest).getD f.2))
              = entries.map fun f => (f.1, (valueAt? f.1 (e :: rest)).getD f.2) := by
            rw [setEntry_of_hasKey distinct present, List.map_map]
            refine List.map_congr_left fun f _ => ?_
            rw [getD_valueAt?_cons new]
            rfl
          rw [front, List.filter_cons_of_neg (by rw [present]; exact Bool.false_ne_true)]
      | false =>
          have front : entries.map (fun f => (f.1, (valueAt? f.1 rest).getD f.2))
              = entries.map fun f => (f.1, (valueAt? f.1 (e :: rest)).getD f.2) := by
            refine List.map_congr_left fun f hf => ?_
            rw [getD_valueAt?_cons new, hasKey_eq_false_iff.mp present f hf]
            rfl
          rw [setEntry_of_new e.2 (hasKey_eq_false_iff.mp present), List.map_append, front,
            List.map_singleton, valueAt?_of_not_hasKey new, List.append_assoc,
            List.filter_cons_of_pos (by rw [present]; rfl)]
          rfl

end Settings

end Stylesheet.Value
