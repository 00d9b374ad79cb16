/-
  Stylesheet.Proofs.Table
  ───────────────────────
  **WHAT A TABLE HOLDS AFTER MANY WRITES.**

  A single write is described beside its definition.  Here two writes to
  one key become one, a write to a new key becomes an entry at the end, and
  a run of insertions is read off its list of entries.

  Main statements:
    * `write_write` — the second of two writes to a key sees the first;
    * `entries_write_of_not_mem` — a new key comes last;
    * `get?_insertAll` — of a run of insertions the last at a key counts;
    * `ofList_entries` — the entries of a table make that table again.
-/
import Mathlib.Data.List.Induction
import Stylesheet.Table

namespace Stylesheet

/-! ## §1. Lists of entries. -/

namespace Entries

variable {α β : Type} [DecidableEq α]

/-- A write goes past the entries of other keys. -/
theorem write_append {key : α} {front : List (α × β)} (h : key ∉ front.map Prod.fst)
    (f : Option β → β) (back : List (α × β)) :
    write key f (front ++ back) = front ++ write key f back := by
  induction front with
  | nil => rfl
  | cons e rest ih =>
      obtain ⟨k, b⟩ := e
      simp only [List.map_cons, List.mem_cons, not_or] at h
      have hk : ¬k = key := fun e => h.1 e.symm
      rw [List.cons_append, write, if_neg hk, ih h.2, List.cons_append]

/-- A write to a key that passes is seen among the entries that pass. -/
theorem filter_write_of_pos {p : α → Bool} {key : α} (h : p key = true) (f : Option β → β)
    (entries : List (α × β)) :
    (write key f entries).filter (fun e => p e.1)
      = write key f (entries.filter fun e => p e.1) := by
  induction entries with
  | nil => simp [write, h]
  | cons e rest ih =>
      obtain ⟨k, b⟩ := e
      by_cases here : k = key
      · subst here
        simp [write, h]
      · rw [write, if_neg here, List.filter_cons, List.filter_cons, ih]
        split
        · rw [write, if_neg here]
        · rfl

/-- A write to a key that does not pass is not seen there. -/
theorem filter_write_of_neg {p : α → Bool} {key : α} (h : p key = false) (f : Option β → β)
    (entries : List (α × β)) :
    (write key f entries).filter (fun e => p e.1) = entries.filter fun e => p e.1 := by
  induction entries with
  | nil => simp [write, h]
  | cons e rest ih =>
      obtain ⟨k, b⟩ := e
      by_cases here : k = key
      · subst here
        simp [write, h]
      · rw [write, if_neg here, List.filter_cons, List.filter_cons, ih]

/-- A write commutes with a renaming that takes no other key there is to the
one written to. -/
theorem map_write {γ : Type} [DecidableEq γ] {f : α → γ} {key : α} (g : Option β → β)
    {entries : List (α × β)} (apart : ∀ e ∈ entries, f e.1 = f key → e.1 = key) :
    (write key g entries).map (fun e => (f e.1, e.2))
      = write (f key) g (entries.map fun e => (f e.1, e.2)) := by
  induction entries with
  | nil => rfl
  | cons e rest ih =>
      obtain ⟨k, b⟩ := e
      by_cases here : k = key
      · simp [write, here]
      · have other : f k ≠ f key := fun same => here (apart _ List.mem_cons_self same)
        simp [write, here, other, ih fun e he => apart e (List.mem_cons_of_mem _ he)]

/-- A write to a key that is there leaves what stands behind it alone. -/
theorem write_append_of_mem {key : α} {front : List (α × β)} (h : key ∈ front.map Prod.fst)
    (f : Option β → β) (back : List (α × β)) :
    write key f (front ++ back) = write key f front ++ back := by
  induction front with
  | nil => cases h
  | cons e rest ih =>
      obtain ⟨k, b⟩ := e
      by_cases here : k = key
      · simp [write, here]
      · have below : key ∈ rest.map Prod.fst := by
          rcases List.mem_cons.mp h with same | below
          · exact absurd same.symm here
          · exact below
        rw [List.cons_append, write, if_neg here, ih below, write, if_neg here, List.cons_append]

/-- A write that leaves the present value changes nothing. -/
theorem write_of_lookup {key : α} {f : Option β → β} {entries : List (α × β)} {b : β}
    (h : entries.lookup key = some b) (hf : f (some b) = b) : write key f entries = entries := by
  induction entries with
  | nil => cases h
  | cons e rest ih =>
      obtain ⟨k, c⟩ := e
      by_cases here : k = key
      · subst here
        rw [List.lookup_cons_self] at h
        rw [write, if_pos rfl, Option.some.inj h, hf]
      · have hk : (key == k) = false := by simpa using Ne.symm here
        rw [List.lookup_cons, hk] at h
        rw [write, if_neg here, ih h]

theorem mem_map_fst_write (key other : α) (f : Option β → β) (entries : List (α × β)) :
    other ∈ (write key f entries).map Prod.fst ↔ other ∈ entries.map Prod.fst ∨ other = key := by
  rw [fst_write]
  split
  · next present =>
    constructor
    · exact Or.inl
    · intro given
      rcases given with h | rfl
      · exact h
      · exact present
  · simp

/-- **The second of two writes to a key sees the first.** -/
theorem write_write (key : α) (f g : Option β → β) (entries : List (α × β)) :
    write key f (write key g entries) = write key (fun b? => f (some (g b?))) entries := by
  induction entries with
  | nil => simp [write]
  | cons e rest ih =>
      obtain ⟨k, b⟩ := e
      by_cases h : k = key
      · simp [write, h]
      · simp [write, h, ih]

/-- Under distinct keys an entry is what the look-up of its key finds. -/
theorem lookup_eq_some_iff_mem {entries : List (α × β)}
    (nodup : (entries.map Prod.fst).Nodup) {key : α} {b : β} :
    entries.lookup key = some b ↔ (key, b) ∈ entries := by
  induction entries with
  | nil => simp
  | cons e rest ih =>
      obtain ⟨k, c⟩ := e
      rw [List.map_cons, List.nodup_cons] at nodup
      rw [List.lookup_cons, List.mem_cons, Prod.mk.injEq]
      by_cases h : key = k
      · subst h
        have fresh : (key, b) ∉ rest := fun hm =>
          nodup.1 (List.mem_map.mpr ⟨_, hm, rfl⟩)
        simp [fresh, eq_comm]
      · have hb : (key == k) = false := by simpa using h
        rw [hb, ih nodup.2]
        simp [h]

end Entries

/-! ## §2. Single writes. -/

namespace Table

variable {α β : Type} [DecidableEq α]

theorem get?_eq_some_iff (t : Table α β) {key : α} {b : β} :
    t.get? key = some b ↔ (key, b) ∈ t.entries :=
  Entries.lookup_eq_some_iff_mem t.nodup

/-- The keys are where something is found. -/
theorem mem_keys_iff (t : Table α β) {key : α} : key ∈ t.keys ↔ ∃ b, t.get? key = some b := by
  simp only [get?_eq_some_iff]
  constructor
  · intro h
    obtain ⟨⟨k, b⟩, he, rfl⟩ := List.mem_map.mp h
    exact ⟨b, he⟩
  · intro ⟨b, he⟩
    exact List.mem_map_of_mem he

theorem get?_write (t : Table α β) (key other : α) (f : Option β → β) :
    (t.write key f).get? other = if other = key then some (f (t.get? key)) else t.get? other := by
  by_cases h : other = key
  · rw [if_pos h, h, get?_write_self]
  · rw [if_neg h, get?_write_of_ne h]

theorem get?_insert (t : Table α β) (key other : α) (b : β) :
    (t.insert key b).get? other = if other = key then some b else t.get? other :=
  get?_write t key other _

/-- The keys after a write are those before it and the written one. -/
theorem mem_keys_write (t : Table α β) (key other : α) (f : Option β → β) :
    other ∈ (t.write key f).keys ↔ other ∈ t.keys ∨ other = key :=
  Entries.mem_map_fst_write key other f t.entries

/-- Each entry after a write was there before it or is the written one. -/
theorem mem_entries_write {t : Table α β} {key : α} {f : Option β → β} {e : α × β}
    (h : e ∈ (t.write key f).entries) : e ∈ t.entries ∨ e = (key, f (t.get? key)) := by
  obtain ⟨k, b⟩ := e
  rw [← get?_eq_some_iff, get?_write] at h
  split at h
  · next hk =>
    right
    rw [hk, Option.some.inj h]
  · exact Or.inl ((get?_eq_some_iff t).mp h)

theorem write_write (t : Table α β) (key : α) (f g : Option β → β) :
    (t.write key g).write key f = t.write key fun b? => f (some (g b?)) :=
  Table.ext (Entries.write_write key f g t.entries)

/-- **A new key comes last.** -/
theorem entries_write_of_not_mem {t : Table α β} {key : α} (h : key ∉ t.keys)
    (f : Option β → β) : (t.write key f).entries = t.entries ++ [(key, f none)] := by
  have past := Entries.write_append h f []
  rw [List.append_nil] at past
  exact past

/-- A write to a new key is an insertion. -/
theorem write_of_not_mem {t : Table α β} {key : α} (h : key ∉ t.keys) (f : Option β → β) :
    t.write key f = t.insert key (f none) := by
  refine Table.ext ?_
  rw [insert, entries_write_of_not_mem h, entries_write_of_not_mem h]

/-- Inserting what is there changes nothing. -/
theorem insert_of_get? {t : Table α β} {key : α} {b : β} (h : t.get? key = some b) :
    t.insert key b = t :=
  Table.ext (Entries.write_of_lookup h rfl)

/-! ## §3. Runs of insertions. -/

theorem insertAll_concat (t : Table α β) (front : List (α × β)) (key : α) (b : β) :
    t.insertAll (front ++ [(key, b)]) = (t.insertAll front).insert key b := by
  rw [insertAll, List.foldl_append]
  rfl

/-- **Of a run of insertions the last at a key counts.** -/
theorem get?_insertAll (t : Table α β) (entries : List (α × β)) (key : α) :
    (t.insertAll entries).get? key = (entries.reverse.lookup key).or (t.get? key) := by
  induction entries using List.reverseRecOn with
  | nil => rfl
  | append_singleton front e ih =>
      obtain ⟨k, b⟩ := e
      rw [insertAll_concat, get?_insert, ih, List.reverse_append, List.reverse_singleton,
        List.singleton_append, List.lookup_cons]
      by_cases h : key = k
      · simp [h]
      · have hb : (key == k) = false := by simpa using h
        rw [if_neg h, hb]

/-- Of new and distinct keys the first is new, and the others are new and
distinct once it is there. -/
theorem new_keys_cons {t : Table α β} {key : α} {others : List α}
    (h : (t.keys ++ key :: others).Nodup) (b : β) :
    key ∉ t.keys ∧ ((t.insert key b).keys ++ others).Nodup := by
  have fresh : key ∉ t.keys := by
    intro present
    exact (List.nodup_append.mp h).2.2 key present key List.mem_cons_self rfl
  refine ⟨fresh, ?_⟩
  rw [insert, keys_write, if_neg fresh, List.append_assoc]
  exact h

/-- Entries with new and distinct keys come last, in their order. -/
theorem entries_insertAll_of_nodup (t : Table α β) (entries : List (α × β))
    (h : (t.keys ++ entries.map Prod.fst).Nodup) :
    (t.insertAll entries).entries = t.entries ++ entries := by
  induction entries generalizing t with
  | nil => simp [insertAll]
  | cons e rest ih =>
      obtain ⟨k, b⟩ := e
      obtain ⟨fresh, others⟩ := new_keys_cons h b
      have step : t.insertAll ((k, b) :: rest) = (t.insert k b).insertAll rest := rfl
      rw [step, ih (t.insert k b) others, insert, entries_write_of_not_mem fresh]
      simp

/-- Entries with distinct keys are the entries of their table. -/
theorem entries_ofList_of_nodup {entries : List (α × β)} (h : (entries.map Prod.fst).Nodup) :
    (ofList entries).entries = entries := by
  have all := entries_insertAll_of_nodup ∅ entries (by simpa using h)
  rw [entries_empty, List.nil_append] at all
  exact all

/-- **The entries of a table make that table again.** -/
theorem ofList_entries (t : Table α β) : ofList t.entries = t :=
  Table.ext (entries_ofList_of_nodup t.nodup)

/-! ## §4. Selections of keys. -/

theorem get?_filterKeys (p : α → Bool) (t : Table α β) (key : α) :
    (t.filterKeys p).get? key = if p key then t.get? key else none := by
  refine Option.ext fun b => ?_
  rw [get?_eq_some_iff, filterKeys, List.mem_filter]
  by_cases h : p key = true
  · rw [if_pos h, get?_eq_some_iff]
    simp [h]
  · simp [h]

end Table

end Stylesheet
