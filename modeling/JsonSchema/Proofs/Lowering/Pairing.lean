import JsonSchema.Schema.Lowering
import Mathlib.Data.List.Forall2

/-!
# Two runs of lowering side by side

A `Pairing` is a relation between runs that goes along with sequences of steps and with steps that do
not concern the procedures: that both refuse alike, that the one succeeds where the other does, or that
they do the same.  It goes along with traversals too (`Pairing.mapM`).
-/

set_option autoImplicit false

namespace JsonSchema

/-- A relation between two runs that goes along with sequences of steps.  The numbers that the two have
    for procedures are compared by what they stand for. -/
structure Pairing where
  /-- The runs compare, and their answers are related. -/
  Runs : {α β : Type} → (α → β → Prop) → LowerM α → LowerM β → Prop
  /-- What a number on the left stands for. -/
  left : Nat → Nat
  /-- What a number on the right stands for. -/
  right : Nat → Nat
  pure : ∀ {α β : Type} {R : α → β → Prop} {a : α} {b : β}, R a b → Runs R (Pure.pure a) (Pure.pure b)
  bind : ∀ {α β γ δ : Type} {R : α → β → Prop} {S : γ → δ → Prop} {m : LowerM α} {m' : LowerM β}
    {f : α → LowerM γ} {f' : β → LowerM δ}, Runs R m m' → (∀ a b, R a b → Runs S (f a) (f' b)) →
    Runs S (m >>= f) (m' >>= f')
  /-- What does not concern the procedures is the same in both. -/
  lifted : ∀ {α : Type} (x : Except SchemaError α), Runs Eq (liftExcept x) (liftExcept x)

/-- How often the data is entered on the way to the schemas that a keyword applies. -/
def BuiltinKeyword.descents : BuiltinKeyword → Nat
  | .items | .contains | .propertyNames | .properties => 1
  | _ => 0

/-- The same position at another base, where the data has been entered another number of times. -/
def Position.moved (position : Position) (base : Uri) (descents : Nat) : Position :=
  { position with base, descents }

namespace Pairing

variable {P : Pairing} {α β γ δ : Type} {R S : α → β → Prop} {m : LowerM α} {m' : LowerM β}

theorem weaken (h : P.Runs R m m') (hRS : ∀ a b, R a b → S a b) : P.Runs S m m' := by
  have hpure := P.bind h fun a b hab => P.pure (hRS a b hab)
  rwa [bind_pure, bind_pure] at hpure

theorem refused (e : SchemaError) : P.Runs R (refuse e) (refuse e) :=
  @Pairing.bind P _ _ _ _ Eq R _ _ Empty.elim Empty.elim
    (P.lifted (.error e : Except SchemaError Empty)) fun a => a.elim

/-- What does not concern the procedures, whose answer stands for the same on both sides. -/
theorem liftedAs {R : α → α → Prop} {x : Except SchemaError α} (h : ∀ a, x = .ok a → R a a) :
    P.Runs R (liftExcept x) (liftExcept x) := by
  cases x with
  | error e => exact refused e
  | ok a => exact P.pure (h a rfl)

theorem mapM {xs : List γ} {f : γ → LowerM α} {f' : γ → LowerM β}
    (h : ∀ x ∈ xs, P.Runs R (f x) (f' x)) :
    P.Runs (List.Forall₂ R) (xs.mapM f) (xs.mapM f') := by
  induction xs with
  | nil =>
    rw [List.mapM_nil, List.mapM_nil]
    exact P.pure .nil
  | cons x rest ih =>
    obtain ⟨hx, hrest⟩ := List.forall_mem_cons.mp h
    rw [List.mapM_cons, List.mapM_cons]
    exact P.bind hx fun y y' hy => P.bind (ih hrest) fun ys ys' hys => P.pure (.cons hy hys)

/-- A test in front of the rest, which refuses both or none. -/
theorem guarded {c : Prop} [Decidable c] {e : SchemaError} {g : γ → LowerM α} {g' : γ → LowerM β}
    (h : P.Runs R m m') : P.Runs R (if c then refuse e >>= g else m) (if c then refuse e >>= g' else m') := by
  by_cases hc : c
  · rw [if_pos hc, if_pos hc]
    exact refused e
  · rw [if_neg hc, if_neg hc]
    exact h

end Pairing

end JsonSchema
