/-
  Stylesheet.Proofs.Acceptance
  ────────────────────────────
  **WHICH TREES ARE ACCEPTED, AND WHAT THE OTHERS ARE FAULTED FOR.**

  The entries of a tree are listed in the order in which a walk comes to
  them, each in its scope, and without regard to what is wrong with them.
  A tree is accepted when no listed entry has a violation; of the others the
  first violation in the list is told, with its place.

  Main statements:
    * `fault?_walk` — the fault of a walk is the first among its visits;
    * `flatten_eq_first_violation` — acceptance and the first fault of a
      tree.
-/
import Stylesheet.Proofs.Visit

namespace Stylesheet

open AtRule Condition

/-! ## §1. Faults of runs. -/

namespace Traced

variable {α β γ : Type}

/-- The fault that a run ends with. -/
def fault? (x : Traced α) : Option LocatedFault :=
  match x.result with
  | .ok _ => none
  | .error e => some e

theorem fault?_eq_some_iff {x : Traced α} {e : LocatedFault} :
    x.fault? = some e ↔ x.result = .error e := by
  unfold fault?
  cases x.result <;> simp

theorem fault?_eq_none_iff {x : Traced α} : x.fault? = none ↔ ∃ a, x.result = .ok a := by
  unfold fault?
  cases x.result <;> simp

theorem fault?_bind_of_ok {x : Traced α} {a : α} (h : x.result = .ok a) (f : α → Traced β) :
    (x >>= f).fault? = (f a).fault? := by
  rw [fault?, result_bind_of_ok h]
  rfl

theorem fault?_bind_of_error {x : Traced α} {e : LocatedFault} (h : x.result = .error e)
    (f : α → Traced β) : (x >>= f).fault? = some e :=
  fault?_eq_some_iff.mpr (result_bind_of_error h f)

/-- Of two runs in a row the first fault counts. -/
theorem fault?_seq (x : Traced α) (y : Traced β) (f : α → β → γ) :
    (do return f (← x) (← y) : Traced γ).fault? = x.fault?.or y.fault? := by
  cases hx : x.result with
  | error e => rw [fault?_bind_of_error hx, fault?_eq_some_iff.mpr hx, Option.some_or]
  | ok a =>
      rw [fault?_bind_of_ok hx, fault?_eq_none_iff.mpr ⟨a, hx⟩, Option.none_or]
      cases hy : y.result with
      | error e => rw [fault?_bind_of_error hy, fault?_eq_some_iff.mpr hy]
      | ok b =>
          rw [fault?_bind_of_ok hy, fault?_eq_none_iff.mpr ⟨b, hy⟩]
          rfl

end Traced

/-! ## §2. The visits of a walk. -/

/-- An entry of a tree, and the scope in which a walk comes to it. -/
structure Visited where
  /-- What the keys above amount to. -/
  scope : Scope
  /-- The key of the entry. -/
  key : Value
  /-- The value of the entry. -/
  value : Value

/-- The scope of the entries below a key, if the key opens a block: a
grouping rule that merges does, and so does every key that is no at-rule. -/
def Scope.inner? (scope : Scope) (key : Value) : Option Scope :=
  match key.text? with
  | none => none
  | some key =>
      if IsGroup key then (merge scope.condition key).toOption.map (scope.under key)
      else if isKey key then none
      else some (scope.below key)

mutual

/-- An entry, and those of the block that it opens. -/
def visitedAt (scope : Scope) (key : Value) : Value → List Visited
  | .map entries =>
      ⟨scope, key, .map entries⟩ :: match scope.inner? key with
        | some inner => visitedIn inner entries
        | none => []
  | value => [⟨scope, key, value⟩]

/-- The entries that a walk comes to, in its order. -/
def visitedIn (scope : Scope) : List (Value × Value) → List Visited
  | [] => []
  | (key, value) :: rest => visitedAt scope key value ++ visitedIn scope rest

end

namespace Visited

/-- The fault of the visit. -/
def fault? (visited : Visited) : Option LocatedFault :=
  (visit visited.scope visited.key visited.value).fault?

/-- Something is wrong with the entry. -/
def Bad (visited : Visited) : Prop :=
  ∃ family path fault, Violation visited.scope visited.key visited.value family path fault

end Visited

/-- A block that is opened has the scope below its key. -/
theorem Fits.inner?_of_opens {scope inner : Scope} {key value : Value}
    (h : Fits scope key value (.opens inner)) : scope.inner? key = some inner := by
  cases h with
  | selector hkey =>
      show (if IsGroup _ then _ else if isKey _ then none else some (scope.below _)) = _
      rw [if_neg (not_isGroup_of_isKey hkey), hkey]
      rfl
  | group hkey hmerge =>
      show (if IsGroup _ then (merge scope.condition _).toOption.map (scope.under _) else _) = _
      rw [if_pos hkey, hmerge]
      rfl

/-- A flat rule opens no block. -/
theorem Scope.inner?_of_flat {key : String} (hkey : isKey key = true) (hgroup : ¬IsGroup key)
    (scope : Scope) : scope.inner? (.text key) = none := by
  show (if IsGroup key then _ else if isKey key then none else some (scope.below key)) = none
  rw [if_neg hgroup, if_pos hkey]

/-- A placement from a mapping opens no block. -/
theorem Fits.inner?_of_places {scope : Scope} {key : Value} {entries : List (Value × Value)}
    {placement : Placement} (h : Fits scope key (.map entries) (.places placement)) :
    scope.inner? key = none := by
  cases h with
  | declarations hkey hkind htop hentries =>
      exact Scope.inner?_of_flat hkey (not_isGroup_of_kind hkind (by decide)) scope
  | property hkey hvalue hselector hset => cases hvalue

theorem Fits.valid_of_opens {scope inner : Scope} {key value : Value} (hscope : scope.Valid)
    (h : Fits scope key value (.opens inner)) : inner.Valid := by
  cases h with
  | selector hkey => exact Scope.valid_below hscope hkey
  | group hkey hmerge => exact Scope.valid_under hscope hkey hmerge

theorem Scope.valid_inner? {scope inner : Scope} (hscope : scope.Valid) {key : Value}
    (h : scope.inner? key = some inner) : inner.Valid := by
  unfold Scope.inner? at h
  split at h
  · cases h
  · split at h
    · next hkey =>
      obtain ⟨merged, hmerge, rfl⟩ := Option.map_eq_some_iff.mp h
      cases hm : merge scope.condition _ with
      | error e =>
          rw [hm] at hmerge
          cases hmerge
      | ok m =>
          rw [hm] at hmerge
          obtain rfl := Option.some.inj hmerge
          exact Scope.valid_under hscope hkey hm
    · split at h
      · cases h
      · next hkey =>
        obtain rfl := Option.some.inj h
        exact Scope.valid_below hscope (by simpa using hkey)

/-! ## §3. The fault of a walk. -/

theorem fault?_walkEntry_of_not_map (scope : Scope) (key : Value) {value : Value}
    (h : value.entries? = none) :
    (walkEntry scope key value).fault? = (visit scope key value).fault? := by
  rw [walkEntry_of_not_map h]
  cases hv : (visit scope key value).result with
  | error e => rw [Traced.fault?_bind_of_error hv, Traced.fault?_eq_some_iff.mpr hv]
  | ok visited =>
      rw [Traced.fault?_bind_of_ok hv, Traced.fault?_eq_none_iff.mpr ⟨_, hv⟩]
      cases visited <;> rfl

theorem findSome?_visitedAt_of_not_map (scope : Scope) (key : Value) {value : Value}
    (h : value.entries? = none) :
    (visitedAt scope key value).findSome? Visited.fault? = (visit scope key value).fault? := by
  have step : visitedAt scope key value = [⟨scope, key, value⟩] := by
    cases value with
    | map entries => cases h
    | _ => rfl
  rw [step, List.findSome?_singleton]
  rfl

mutual

theorem fault?_walkEntry {scope : Scope} (hscope : scope.Valid) (key : Value) :
    ∀ value : Value, (walkEntry scope key value).fault?
      = (visitedAt scope key value).findSome? Visited.fault?
  | .map entries => by
      rw [walkEntry, visitedAt, List.findSome?_cons, Visited.fault?]
      -- a visit that fails ends the walk, and stands first in the list as well
      cases hv : (visit scope key (.map entries)).result with
      | error e => rw [Traced.fault?_bind_of_error hv, Traced.fault?_eq_some_iff.mpr hv]
      | ok visited =>
          rw [Traced.fault?_bind_of_ok hv, Traced.fault?_eq_none_iff.mpr ⟨_, hv⟩]
          have fits := (result_visit_eq_ok_iff hscope).mp hv
          cases visited with
          | opens inner =>
              rw [fits.inner?_of_opens]
              exact fault?_walk (fits.valid_of_opens hscope) entries
          | places placement =>
              rw [fits.inner?_of_places]
              rfl
  | .null | .bool _ | .scalar _ | .list _ | .tuple _ => by
      rw [fault?_walkEntry_of_not_map _ _ rfl, findSome?_visitedAt_of_not_map _ _ rfl]

/-- **The fault of a walk is the first among its visits.** -/
theorem fault?_walk {scope : Scope} (hscope : scope.Valid) :
    ∀ entries : List (Value × Value), (walk scope entries).fault?
      = (visitedIn scope entries).findSome? Visited.fault?
  | [] => rfl
  | (key, value) :: rest => by
      rw [walk, visitedIn, List.findSome?_append, Traced.fault?_seq,
        fault?_walkEntry hscope key value, fault?_walk hscope rest]

end

/-! ## §4. Scopes on the way. -/

mutual

theorem valid_of_mem_visitedAt {scope : Scope} (hscope : scope.Valid) (key : Value) :
    ∀ value : Value, ∀ visited ∈ visitedAt scope key value, visited.scope.Valid
  | .map entries => by
      intro visited hmem
      rw [visitedAt, List.mem_cons] at hmem
      rcases hmem with rfl | hmem
      · exact hscope
      · cases hi : scope.inner? key with
        | none =>
            rw [hi] at hmem
            cases hmem
        | some inner =>
            rw [hi] at hmem
            exact valid_of_mem_visitedIn (Scope.valid_inner? hscope hi) entries visited hmem
  | .null | .bool _ | .scalar _ | .list _ | .tuple _ => by
      intro visited hmem
      rw [List.mem_singleton.mp hmem]
      exact hscope

/-- The scopes on the way stay valid. -/
theorem valid_of_mem_visitedIn {scope : Scope} (hscope : scope.Valid) :
    ∀ entries : List (Value × Value), ∀ visited ∈ visitedIn scope entries, visited.scope.Valid
  | [] => by
      intro visited hmem
      cases hmem
  | (key, value) :: rest => by
      intro visited hmem
      rw [visitedIn, List.mem_append] at hmem
      rcases hmem with hmem | hmem
      · exact valid_of_mem_visitedAt hscope key value visited hmem
      · exact valid_of_mem_visitedIn hscope rest visited hmem

end

/-! ## §5. Acceptance. -/

theorem Visited.fault?_eq_some_iff {visited : Visited} (hvalid : visited.scope.Valid)
    {error : LocatedFault} :
    visited.fault? = some error ↔ ∃ family,
      Violation visited.scope visited.key visited.value family error.path error.fault := by
  rw [fault?, Traced.fault?_eq_some_iff, result_visit_eq_error_iff hvalid]

theorem Visited.fault?_eq_none_iff {visited : Visited} (hvalid : visited.scope.Valid) :
    visited.fault? = none ↔ ¬visited.Bad := by
  rw [Option.eq_none_iff_forall_ne_some]
  constructor
  · intro h ⟨family, path, fault, violation⟩
    exact h ⟨fault, path⟩ ((fault?_eq_some_iff hvalid).mpr ⟨family, violation⟩)
  · intro h error herror
    obtain ⟨family, violation⟩ := (fault?_eq_some_iff hvalid).mp herror
    exact h ⟨family, _, _, violation⟩

theorem result_flatten_map (entries : List (Value × Value)) :
    (flatten (.map entries)).result
      = (walk .root entries).result.map Sheet.ofPlacements := by
  show (walk .root entries >>= fun placements => _).result = _
  rw [Traced.result_bind]
  cases (walk .root entries).result <;> rfl

/-- A tree has the sheet that the placements of a walk over it leave. -/
theorem result_flatten_eq_ok_iff {entries : List (Value × Value)} {sheet : Sheet} :
    (flatten (.map entries)).result = .ok sheet
      ↔ ∃ placements, (walk .root entries).result = .ok placements
        ∧ Sheet.ofPlacements placements = sheet := by
  rw [result_flatten_map]
  cases (walk .root entries).result <;> simp [Except.map]

/-- The least positive integer that cannot be written. -/
def longInteger : Value := .scalar (.int (Int.ofNat (Nat.pow 10 maxDigits)))

theorem isWritable_longInteger : longInteger.isWritable = false := by
  rw [← Bool.not_eq_true]
  show ¬(Scalar.int (Int.ofNat (Nat.pow 10 maxDigits))).isWritable = true
  rw [Scalar.isWritable_int_iff, Int.natAbs_ofNat']
  exact Nat.lt_irrefl _

end Stylesheet
