/-
  Stylesheet.Table
  ────────────────
  **TABLES THAT REMEMBER THEIR ORDER.**

  A table maps keys to values and lists its entries in the order in which
  the keys arrived.  Writing to a key that is present keeps its place;
  a key that was removed and comes back stands last.

  Main statements:
    * `keys_write` — a write appends the key if it is new and otherwise
      leaves the list of keys alone;
    * `get?_write_self`, `get?_write_of_ne` — a write is seen at its own
      key and nowhere else.
  The first is what makes "no key occurs twice" a field of the type.
-/

namespace Stylesheet

/-! ## §1. Lists of entries. -/

namespace Entries

variable {α β : Type} [DecidableEq α]

/-- Write `f` of the present value to the entry of `key`, or append an
entry when there is none. -/
def write (key : α) (f : Option β → β) : List (α × β) → List (α × β)
  | [] => [(key, f none)]
  | (k, b) :: rest => if k = key then (k, f (some b)) :: rest else (k, b) :: write key f rest

theorem fst_write (key : α) (f : Option β → β) (entries : List (α × β)) :
    (write key f entries).map Prod.fst =
      if key ∈ entries.map Prod.fst then entries.map Prod.fst
      else entries.map Prod.fst ++ [key] := by
  induction entries with
  | nil => simp [write]
  | cons e rest ih =>
    obtain ⟨k, b⟩ := e
    by_cases h : k = key
    · simp [write, h]
    · have h' : ¬key = k := fun e => h e.symm
      rw [write, if_neg h, List.map_cons, ih]
      by_cases hm : key ∈ rest.map Prod.fst <;> simp [h', hm]

theorem nodup_write (key : α) (f : Option β → β) {entries : List (α × β)}
    (h : (entries.map Prod.fst).Nodup) : ((write key f entries).map Prod.fst).Nodup := by
  rw [fst_write]
  split
  · exact h
  · rename_i new
    refine List.nodup_append.mpr ⟨h, by simp, fun a ha b hb => ?_⟩
    rw [List.mem_singleton.mp hb]
    exact fun e => new (e ▸ ha)

theorem lookup_write_self (key : α) (f : Option β → β) (entries : List (α × β)) :
    (write key f entries).lookup key = some (f (entries.lookup key)) := by
  induction entries with
  | nil => simp [write]
  | cons e rest ih =>
    obtain ⟨k, b⟩ := e
    by_cases h : k = key
    · simp [write, h]
    · have h' : (key == k) = false := by simpa using fun e => h e.symm
      simp [write, h, List.lookup_cons, h', ih]

theorem lookup_write_of_ne {key other : α} (h : other ≠ key) (f : Option β → β)
    (entries : List (α × β)) : (write key f entries).lookup other = entries.lookup other := by
  induction entries with
  | nil => simp [write, h]
  | cons e rest ih =>
    obtain ⟨k, b⟩ := e
    by_cases hk : k = key
    · have h' : (other == key) = false := by simpa using h
      simp [write, hk, List.lookup_cons, h']
    · simp [write, hk, List.lookup_cons, ih]

end Entries

/-! ## §2. The type. -/

/-- A finite map whose entries stand in order of arrival. -/
structure Table (α β : Type) where
  /-- The entries, in order. -/
  entries : List (α × β)
  /-- No key occurs twice. -/
  nodup : (entries.map Prod.fst).Nodup
  deriving DecidableEq

namespace Table

variable {α β γ : Type}

@[ext]
theorem ext {s t : Table α β} (h : s.entries = t.entries) : s = t := by
  cases s; cases t; simp_all

/-- The table without entries. -/
def empty : Table α β := ⟨[], List.nodup_nil⟩

instance : EmptyCollection (Table α β) := ⟨empty⟩

instance : Inhabited (Table α β) := ⟨∅⟩

/-- The keys, in order. -/
def keys (t : Table α β) : List α := t.entries.map Prod.fst

/-- The number of entries. -/
def size (t : Table α β) : Nat := t.entries.length

/-- The entries with `f` applied to each value. -/
def mapValues (f : β → γ) (t : Table α β) : Table α γ where
  entries := t.entries.map fun e => (e.1, f e.2)
  nodup := by simpa [Function.comp_def] using t.nodup

/-- The entries whose key passes the test. -/
def filterKeys (p : α → Bool) (t : Table α β) : Table α β where
  entries := t.entries.filter fun e => p e.1
  nodup := t.nodup.sublist (List.filter_sublist.map _)

variable [DecidableEq α]

/-- The value at a key. -/
def get? (t : Table α β) (key : α) : Option β := t.entries.lookup key

/-- Write `f` of the present value to a key. -/
def write (t : Table α β) (key : α) (f : Option β → β) : Table α β where
  entries := Entries.write key f t.entries
  nodup := Entries.nodup_write key f t.nodup

/-- Set the value at a key. -/
def insert (t : Table α β) (key : α) (value : β) : Table α β :=
  t.write key fun _ => value

/-- Insert entries one after the other. -/
def insertAll (t : Table α β) (entries : List (α × β)) : Table α β :=
  entries.foldl (fun t e => t.insert e.1 e.2) t

/-- The table of a list of entries: a repeated key keeps its first place and
takes its last value. -/
def ofList (entries : List (α × β)) : Table α β :=
  insertAll ∅ entries

/-! ## §3. Laws. -/

omit [DecidableEq α] in
@[simp]
theorem entries_empty : (∅ : Table α β).entries = [] := rfl

omit [DecidableEq α] in
@[simp]
theorem keys_empty : (∅ : Table α β).keys = [] := rfl

/-- **A write appends a new key and leaves the order of the others alone.** -/
theorem keys_write (t : Table α β) (key : α) (f : Option β → β) :
    (t.write key f).keys = if key ∈ t.keys then t.keys else t.keys ++ [key] :=
  Entries.fst_write key f t.entries

/-- **A write is seen at its key.** -/
@[simp]
theorem get?_write_self (t : Table α β) (key : α) (f : Option β → β) :
    (t.write key f).get? key = some (f (t.get? key)) :=
  Entries.lookup_write_self key f t.entries

/-- **A write is not seen at another key.** -/
theorem get?_write_of_ne {key other : α} (h : other ≠ key) (t : Table α β)
    (f : Option β → β) : (t.write key f).get? other = t.get? other :=
  Entries.lookup_write_of_ne h f t.entries

@[simp]
theorem get?_empty (key : α) : (∅ : Table α β).get? key = none := rfl

end Table

end Stylesheet
