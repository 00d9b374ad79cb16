/-
  Stylesheet.Traced
  ─────────────────
  **COMPUTATIONS THAT TELL WHAT THEY DO.**

  Flattening and printing note events on their way: an at-rule of an
  unknown name, a merge of two conditions, the end of a flattening.  A
  traced computation is the list of its events and its result; a failure
  ends it and keeps the events noted before.

  Main statement: `result_bind`, the events have no influence on the
  result.
-/
import Stylesheet.Fault

namespace Stylesheet

/-- Something worth noting. -/
inductive Event where
  /-- An at-rule of an unknown name was taken for one with a single value. -/
  | unknownAtRule (key : String)
  /-- Two conditions were merged. -/
  | mergedCondition (active key merged : String)
  /-- A tree was flattened into so many top-level entries. -/
  | flattened (size : Nat)
  deriving Repr, DecidableEq

/-- A result together with the events on the way to it. -/
structure Traced (α : Type) where
  /-- The events, in order. -/
  events : List Event
  /-- The result. -/
  result : Except LocatedFault α

namespace Traced

variable {α β : Type}

@[ext]
theorem ext {x y : Traced α} (events : x.events = y.events) (result : x.result = y.result) :
    x = y := by
  cases x; cases y; simp_all

/-- A result without events. -/
protected def pure (a : α) : Traced α := ⟨[], .ok a⟩

/-- Go on with the result; a failure stays what it is. -/
protected def bind (x : Traced α) (f : α → Traced β) : Traced β :=
  match x.result with
  | .ok a => ⟨x.events ++ (f a).events, (f a).result⟩
  | .error e => ⟨x.events, .error e⟩

instance : Monad Traced where
  pure := Traced.pure
  bind := Traced.bind

/-- Note an event. -/
def note (event : Event) : Traced Unit := ⟨[event], .ok ()⟩

/-- Fail at a place. -/
def fail (path : Option (List String)) (fault : Fault) : Traced α :=
  ⟨[], .error ⟨fault, path⟩⟩

/-- A result that is there only if something can be written. -/
def ifWritable (isWritable : Bool) (a : α) : Traced α :=
  if isWritable then pure a else fail none .tooManyDigits

/-- The text of a value in a sheet, if the value can be written. -/
def print (value : Value) : Traced String :=
  ifWritable value.isWritable value.printed

/-! ## §1. Laws. -/

@[simp]
theorem result_pure (a : α) : (pure a : Traced α).result = .ok a := rfl

/-- **The events have no influence on the result.** -/
@[simp]
theorem result_bind (x : Traced α) (f : α → Traced β) :
    (x >>= f).result = x.result >>= fun a => (f a).result := by
  change (Traced.bind x f).result = _
  unfold Traced.bind
  cases x.result <;> rfl

@[simp]
theorem result_note (event : Event) : (note event).result = .ok () := rfl

@[simp]
theorem result_fail (path : Option (List String)) (fault : Fault) :
    (fail path fault : Traced α).result = .error ⟨fault, path⟩ := rfl

@[simp]
theorem ifWritable_true (a : α) : ifWritable true a = pure a := rfl

@[simp]
theorem ifWritable_false (a : α) : ifWritable false a = fail none .tooManyDigits := rfl

@[simp]
theorem print_text (s : String) : print (.text s) = pure s := rfl

instance : LawfulMonad Traced :=
  LawfulMonad.mk' Traced
    (fun x => by
      change Traced.bind x _ = x
      unfold Traced.bind
      split <;> ext <;> simp_all [Traced.pure])
    (fun a f => by
      change Traced.bind (Traced.pure a) f = f a
      simp [Traced.bind, Traced.pure])
    (fun x f g => by
      change Traced.bind (Traced.bind x f) g = Traced.bind x fun a => Traced.bind (f a) g
      unfold Traced.bind
      cases x.result with
      | error e => rfl
      | ok a => cases h : (f a).result <;> simp [h])

end Traced

end Stylesheet
