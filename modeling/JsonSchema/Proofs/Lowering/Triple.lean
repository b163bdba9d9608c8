import JsonSchema.Schema.Lowering
import Mathlib.Data.List.Forall2

/-!
# A triple for lowering

`LowerM.Ensures I m Q`: if `I` holds of the procedures so far and `m` succeeds, then `I` holds again, the
old procedures are still there in their places (`<+:`), and `Q` holds of the answer.

**`Q` speaks of every later list of procedures**, and not of the list at the moment `m` ends.  A node is
made of parts that were lowered one after the other, and what is known of the first part has to hold when
the last one is done; with later lists built into the triple, a bind passes the knowledge on as an
implication (`Ensures.bind`) and no postcondition has to be shown stable.
-/

set_option autoImplicit false

namespace JsonSchema

/-! ## Results that are known -/

theorem eq_ok_of_toOption {ε α : Type} {x : Except ε α} {a : α} (h : x.toOption = some a) : x = .ok a := by
  cases x with
  | error e => cases h
  | ok b => exact congrArg _ (Option.some.inj h)

theorem exists_ok_of_any {ε α : Type} {x : Except ε α} {p : α → Bool} (h : x.toOption.any p = true) :
    ∃ a, x = .ok a ∧ p a = true := by
  cases x with
  | error e => cases h
  | ok a => exact ⟨a, rfl, h⟩

namespace LowerM

/-- Under `I`, success keeps `I` and the old procedures, and gives an answer with `Q` for good. -/
def Ensures {α : Type} (I : List Procedure → Prop) (m : LowerM α) (Q : List Procedure → α → Prop) :
    Prop :=
  ∀ procedures a after, I procedures → m procedures = .ok (a, after) →
    I after ∧ procedures <+: after ∧ ∀ later, after <+: later → Q later a

variable {α β : Type} {I : List Procedure → Prop}

/-! ## What success of a step says -/

theorem bind_eq_ok {m : LowerM α} {f : α → LowerM β} {procedures after : List Procedure} {b : β} :
    (m >>= f) procedures = .ok (b, after) ↔
      ∃ a mid, m procedures = .ok (a, mid) ∧ f a mid = .ok (b, after) := by
  show (m procedures >>= fun r => f r.1 r.2) = _ ↔ _
  cases m procedures with
  | error e => simp [bind, Except.bind]
  | ok r =>
    obtain ⟨a, mid⟩ := r
    simp [bind, Except.bind]

theorem pure_eq_ok {a b : α} {procedures after : List Procedure} :
    (pure a : LowerM α) procedures = .ok (b, after) ↔ b = a ∧ after = procedures := by
  show Except.ok (a, procedures) = .ok (b, after) ↔ _
  simp [eq_comm]

theorem refuse_ne_ok {e : SchemaError} {a : α} {procedures after : List Procedure} :
    (refuse e : LowerM α) procedures ≠ .ok (a, after) := by
  show Except.error e ≠ .ok (a, after)
  simp

theorem liftExcept_eq_ok {x : Except SchemaError α} {a : α} {procedures after : List Procedure} :
    liftExcept x procedures = .ok (a, after) ↔ x = .ok a ∧ after = procedures := by
  cases x with
  | error e => simp [liftExcept, Except.map]
  | ok b => simp [liftExcept, Except.map, eq_comm]

theorem get_eq_ok {seen procedures after : List Procedure} :
    (get : LowerM (List Procedure)) procedures = .ok (seen, after) ↔
      seen = procedures ∧ after = procedures := by
  show Except.ok (procedures, procedures) = .ok (seen, after) ↔ _
  simp [eq_comm]

theorem set_eq_ok {new procedures after : List Procedure} {u : PUnit} :
    (set new : LowerM PUnit) procedures = .ok (u, after) ↔ after = new := by
  show Except.ok (PUnit.unit, new) = .ok (u, after) ↔ _
  simp [eq_comm]

theorem modify_eq_ok {f : List Procedure → List Procedure} {procedures after : List Procedure}
    {u : PUnit} : (modify f : LowerM PUnit) procedures = .ok (u, after) ↔ after = f procedures := by
  show Except.ok (PUnit.unit, f procedures) = .ok (u, after) ↔ _
  simp [eq_comm]

/-! ## Rules -/

theorem Ensures.weaken {m : LowerM α} {Q R : List Procedure → α → Prop} (h : Ensures I m Q)
    (hqr : ∀ later a, Q later a → R later a) : Ensures I m R := fun procedures a after hi hm =>
  let ⟨hi', hle, hq⟩ := h procedures a after hi hm
  ⟨hi', hle, fun later hl => hqr later a (hq later hl)⟩

theorem Ensures.pure {a : α} {Q : List Procedure → α → Prop} (h : ∀ later, Q later a) :
    Ensures I (Pure.pure a) Q := by
  intro procedures b after hi hm
  obtain ⟨rfl, rfl⟩ := pure_eq_ok.mp hm
  exact ⟨hi, List.prefix_rfl, fun later _ => h later⟩

theorem Ensures.refuse {e : SchemaError} {Q : List Procedure → α → Prop} : Ensures I (refuse e) Q :=
  fun _ _ _ _ hm => absurd hm refuse_ne_ok

/-- What does not concern the procedures answers with what it says by itself. -/
theorem Ensures.liftExcept (x : Except SchemaError α) :
    Ensures I (liftExcept x) fun _ a => x = .ok a := by
  intro procedures a after hi hm
  obtain ⟨hx, rfl⟩ := liftExcept_eq_ok.mp hm
  exact ⟨hi, List.prefix_rfl, fun _ _ => hx⟩

/-- The second part may use what the first answered with, also where the first speaks of later lists. -/
theorem Ensures.bind {m : LowerM α} {f : α → LowerM β} {Q : List Procedure → α → Prop}
    {R : List Procedure → β → Prop} (hm : Ensures I m Q)
    (hf : ∀ a, Ensures I (f a) fun later b => Q later a → R later b) : Ensures I (m >>= f) R := by
  intro procedures b after hi hmf
  obtain ⟨a, mid, h₁, h₂⟩ := bind_eq_ok.mp hmf
  obtain ⟨himid, hle₁, hq⟩ := hm procedures a mid hi h₁
  obtain ⟨hi', hle₂, hr⟩ := hf a mid b after himid h₂
  exact ⟨hi', hle₁.trans hle₂, fun later hl => hr later hl (hq later (hle₂.trans hl))⟩

/-- A test in front of the rest, which may use that the test did not refuse. -/
theorem Ensures.guard {c : Prop} [Decidable c] {e : SchemaError} {f : β → LowerM α} {m : LowerM α}
    {Q : List Procedure → α → Prop} (h : ¬ c → Ensures I m Q) :
    Ensures I (if c then JsonSchema.refuse e >>= f else m) Q := by
  by_cases hc : c
  · rw [if_pos hc]
    intro procedures a after _ hm
    obtain ⟨_, _, hr, _⟩ := bind_eq_ok.mp hm
    exact absurd hr refuse_ne_ok
  · rw [if_neg hc]
    exact h hc

/-- A traversal answers entry by entry, each with what its own step says. -/
theorem Ensures.mapM {f : α → LowerM β} {Q : α → List Procedure → β → Prop} {xs : List α}
    (h : ∀ x ∈ xs, Ensures I (f x) (Q x)) :
    Ensures I (xs.mapM f) fun later ys => List.Forall₂ (fun x y => Q x later y) xs ys := by
  induction xs with
  | nil =>
    rw [List.mapM_nil]
    exact .pure fun _ => .nil
  | cons x rest ih =>
    rw [List.mapM_cons]
    refine .bind (h x List.mem_cons_self) fun y => ?_
    refine .bind (ih fun z hz => h z (List.mem_cons_of_mem x hz)) fun ys => ?_
    exact .pure fun later hys hy => .cons hy hys

end LowerM

/-- Traversals whose steps are the same on the entries are the same. -/
theorem mapM_congr {α β : Type} {f g : α → LowerM β} {xs : List α} (h : ∀ x ∈ xs, f x = g x) :
    xs.mapM f = xs.mapM g := by
  induction xs with
  | nil => rw [List.mapM_nil, List.mapM_nil]
  | cons x rest ih =>
    obtain ⟨hx, hrest⟩ := List.forall_mem_cons.mp h
    rw [List.mapM_cons, List.mapM_cons, hx, ih hrest]

end JsonSchema
