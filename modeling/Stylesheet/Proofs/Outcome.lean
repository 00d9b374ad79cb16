/-
  Stylesheet.Proofs.Outcome
  ─────────────────────────
  **RESULTS WITH AS MUCH OF A FAULT AS IS ASKED FOR.**

  Two walks can come to the same although a fault of one has another place
  or another wording than that of the other.  What is told of a fault is
  therefore left open here: the whole of it, its family, or its family and
  its place.

  Main statements:
    * `told_walk_cons` — a walk is told entry by entry;
    * `told_walkEntry_of_opens`, `told_walkEntry_of_places`,
      `told_walkEntry_of_violation` — what a walk over one entry tells, in
      each of the three cases that there are;
    * `told_flatten_map` — a flattening tells what the walk below the root
      tells;
    * `KeepsStep.told_walk` — two walks tell the same when every single entry
      does, up to a change of values, scopes and placements.
-/
import Stylesheet.Proofs.Acceptance

namespace Stylesheet

open Condition

/-! ## §1. Runs. -/

namespace Traced

variable {α β γ : Type} (tell : LocatedFault → γ)

/-- The result of a run, with as much of its fault as `tell` gives. -/
def told (x : Traced α) : Except γ α :=
  x.result.mapError tell

theorem told_of_ok {x : Traced α} {a : α} (h : x.result = .ok a) : x.told tell = .ok a := by
  rw [told, h]
  rfl

theorem told_of_error {x : Traced α} {e : LocatedFault} (h : x.result = .error e) :
    x.told tell = .error (tell e) := by
  rw [told, h]
  rfl

theorem told_eq_ok_iff {x : Traced α} {a : α} : x.told tell = .ok a ↔ x.result = .ok a := by
  rw [told]
  cases x.result <;> simp [Except.mapError]

/-- What is told of a fault is told of some fault. -/
theorem told_eq_error_iff {x : Traced α} {c : γ} :
    x.told tell = .error c ↔ ∃ e, x.result = .error e ∧ tell e = c := by
  rw [told]
  cases x.result <;> simp [Except.mapError]

/-- A run that can be seen to succeed has a result. -/
theorem exists_result_of_isSome {x : Traced α} (h : x.result.toOption.isSome = true) :
    ∃ a, x.result = .ok a := by
  cases hx : x.result with
  | ok a => exact ⟨a, rfl⟩
  | error e =>
      rw [hx] at h
      cases h

theorem told_of_result_eq {x y : Traced α} (h : x.result = y.result) :
    x.told tell = y.told tell := by
  rw [told, told, h]

theorem told_bind (x : Traced α) (f : α → Traced β) :
    (x >>= f).told tell = x.told tell >>= fun a => (f a).told tell := by
  cases h : x.result with
  | error e =>
      rw [told_of_error tell (result_bind_of_error h f), told_of_error tell h]
      rfl
  | ok a =>
      rw [told_of_result_eq tell (result_bind_of_ok h f), told_of_ok tell h]
      rfl

end Traced

/-! ## §2. Walks. -/

section Walks

variable {γ : Type} (tell : LocatedFault → γ) {scope inner : Scope} {key value : Value}
  {entries : List (Value × Value)}

/-- A block is opened whatever its entries are. -/
theorem Fits.opens_block (h : Fits scope key (.map entries) (.opens inner))
    (others : List (Value × Value)) : Fits scope key (.map others) (.opens inner) := by
  cases h with
  | selector hkey => exact .selector hkey
  | group hkey hmerge => exact .group hkey hmerge

/-- **A walk is told entry by entry.** -/
theorem told_walk_cons (scope : Scope) (key value : Value) (rest : List (Value × Value)) :
    (walk scope ((key, value) :: rest)).told tell = do
      return (← (walkEntry scope key value).told tell) ++ (← (walk scope rest).told tell) := by
  rw [walk, Traced.told_bind]
  refine congrArg _ (funext fun here => ?_)
  rw [Traced.told_bind]
  rfl

/-- Entries in two lists are told one list after the other. -/
theorem told_walk_append (scope : Scope) (first others : List (Value × Value)) :
    (walk scope (first ++ others)).told tell = do
      return (← (walk scope first).told tell) ++ (← (walk scope others).told tell) := by
  induction first with
  | nil =>
      show (walk scope others).told tell = (walk scope others).told tell >>= fun after => pure after
      rw [bind_pure]
  | cons e rest ih =>
      rw [List.cons_append, told_walk_cons, told_walk_cons, ih]
      simp only [bind_assoc, pure_bind, List.append_assoc]

theorem told_walkEntry_of_opens (h : Fits scope key (.map entries) (.opens inner)) :
    (walkEntry scope key (.map entries)).told tell = (walk inner entries).told tell :=
  Traced.told_of_result_eq tell (result_walkEntry_of_opens h)

theorem told_walkEntry_of_places {placement : Placement}
    (h : Fits scope key value (.places placement)) :
    (walkEntry scope key value).told tell = .ok [placement] :=
  Traced.told_of_ok tell (result_walkEntry_of_places h)

/-- An entry with a violation ends the walk with it. -/
theorem told_walkEntry_of_violation {family : Family} {path : Option (List String)} {fault : Fault}
    (h : Violation scope key value family path fault) :
    (walkEntry scope key value).told tell = .error (tell ⟨fault, path⟩) := by
  have failed := result_visit_of_violation h
  apply Traced.told_of_error
  rcases value.map_or_not with ⟨entries, rfl⟩ | hvalue
  · rw [walkEntry, Traced.result_bind_of_error failed]
  · rw [walkEntry_of_not_map hvalue, Traced.result_bind_of_error failed]

/-- A walk over a single entry. -/
theorem result_walk_singleton (scope : Scope) (e : Value × Value) :
    (walk scope [e]).result = (walkEntry scope e.1 e.2).result := by
  rw [walk, Traced.result_bind]
  cases (walkEntry scope e.1 e.2).result with
  | error error => rfl
  | ok here => exact congrArg Except.ok (List.append_nil here)

theorem told_walk_singleton (scope : Scope) (key value : Value) :
    (walk scope [(key, value)]).told tell = (walkEntry scope key value).told tell :=
  Traced.told_of_result_eq tell (result_walk_singleton scope (key, value))

/-- A grouping rule opens its block if its key merges, and fails otherwise. -/
theorem told_walkEntry_group {key : String} (hkey : IsGroup key) (scope : Scope)
    (entries : List (Value × Value)) :
    (walkEntry scope (.text key) (.map entries)).told tell
      = match merge scope.condition key with
        | .ok merged => (walk (scope.under key merged) entries).told tell
        | .error error => .error (tell ⟨.unmergeable error, some (scope.pathOf key)⟩) := by
  cases hmerge : merge scope.condition key with
  | ok merged => exact told_walkEntry_of_opens tell (.group hkey hmerge)
  | error error =>
      have failed : (visit scope (.text key) (.map entries)).result
          = .error ⟨.unmergeable error, some (scope.pathOf key)⟩ := by
        rw [visit_atRule hkey.1, result_visitAtRule_block hkey.2, hmerge]
      rw [walkEntry]
      exact Traced.told_of_error tell (Traced.result_bind_of_error failed _)

/-- A flattening tells what the walk below the root tells. -/
theorem told_flatten_map (entries : List (Value × Value)) :
    (flatten (.map entries)).told tell
      = ((walk .root entries).told tell).map Sheet.ofPlacements := by
  rw [Traced.told, result_flatten_map, Traced.told]
  cases (walk .root entries).result <;> rfl

end Walks

/-! ## §3. Walks that keep step. -/

/-- What it takes for two walks to keep step: the values of the one are
`change`d in the other, its scopes are `related` to those of the other, and
its placements have an `image` there.  An entry that fits still fits, and a
violation is still one and is told alike. -/
structure KeepsStep {γ : Type} (tell : LocatedFault → γ) (related : Scope → Scope → Prop)
    (change : Value → Value) (image : Placement → Placement) : Prop where
  /-- A mapping is changed value by value. -/
  map : ∀ entries, change (.map entries) = .map (entries.map fun e => (e.1, change e.2))
  /-- An entry opens a block whose scopes are related. -/
  opens : ∀ {scope other inner key entries}, related scope other →
    Fits scope key (.map entries) (.opens inner) →
      ∃ inner', Fits other key (change (.map entries)) (.opens inner') ∧ related inner inner'
  /-- An entry makes the image of its placement. -/
  places : ∀ {scope other key value placement}, related scope other →
    Fits scope key value (.places placement) →
      Fits other key (change value) (.places (image placement))
  /-- A violation is told as the same. -/
  violation : ∀ {scope other key value family path fault}, related scope other →
    Violation scope key value family path fault →
      ∃ family' path' fault', Violation other key (change value) family' path' fault'
        ∧ tell ⟨fault', path'⟩ = tell ⟨fault, path⟩

namespace KeepsStep

variable {γ : Type} {tell : LocatedFault → γ} {related : Scope → Scope → Prop}
  {change : Value → Value} {image : Placement → Placement}

/-- The walks keep step at an entry that opens no block. -/
theorem told_walkEntry_of_leaf (step : KeepsStep tell related change image) {scope other : Scope}
    (hscope : scope.Valid) (h : related scope other) (key value : Value)
    (leaf : ∀ inner, ¬Fits scope key value (.opens inner)) :
    (walkEntry other key (change value)).told tell
      = ((walkEntry scope key value).told tell).map (List.map image) := by
  rcases fits_or_violation hscope key value with ⟨visited, fits⟩ | ⟨_, _, _, violation⟩
  · cases visited with
    | opens inner => exact absurd fits (leaf inner)
    | places placement =>
        rw [told_walkEntry_of_places _ fits, told_walkEntry_of_places _ (step.places h fits)]
        rfl
  · obtain ⟨_, _, _, violation', same⟩ := step.violation h violation
    rw [told_walkEntry_of_violation _ violation, told_walkEntry_of_violation _ violation', same]
    rfl

mutual

theorem told_walkEntry (step : KeepsStep tell related change image) {scope other : Scope}
    (hscope : scope.Valid) (h : related scope other) (key : Value) :
    ∀ value : Value, (walkEntry other key (change value)).told tell
      = ((walkEntry scope key value).told tell).map (List.map image)
  | .map entries => by
      -- the scopes of a block are related again, so the walks keep step inside it
      by_cases opens : ∃ inner, Fits scope key (.map entries) (.opens inner)
      · obtain ⟨inner, fits⟩ := opens
        obtain ⟨inner', fits', hinner⟩ := step.opens h fits
        rw [step.map] at fits' ⊢
        rw [told_walkEntry_of_opens _ fits, told_walkEntry_of_opens _ fits']
        exact told_walk step (fits.valid_of_opens hscope) hinner entries
      · rw [not_exists] at opens
        exact step.told_walkEntry_of_leaf hscope h key (.map entries) opens
  | .null | .bool _ | .scalar _ | .list _ | .tuple _ => by
      apply step.told_walkEntry_of_leaf hscope h key
      intro inner fits
      cases fits

/-- **The walks keep step.** -/
theorem told_walk (step : KeepsStep tell related change image) {scope other : Scope}
    (hscope : scope.Valid) (h : related scope other) :
    ∀ entries : List (Value × Value),
      (walk other (entries.map fun e => (e.1, change e.2))).told tell
        = ((walk scope entries).told tell).map (List.map image)
  | [] => rfl
  | (key, value) :: rest => by
      rw [List.map_cons, told_walk_cons, told_walk_cons, told_walkEntry step hscope h key value,
        told_walk step hscope h rest]
      cases (walkEntry scope key value).told tell with
      | error e => rfl
      | ok here =>
          cases (walk scope rest).told tell with
          | error e => rfl
          | ok after => exact congrArg Except.ok List.map_append.symm

end

end KeepsStep

end Stylesheet
