import JsonSchema.Proofs.Evaluation.Records

/-!
# Modes and budgets do not change a verdict

Two runs of one node can differ in the mode, in the violations recorded before, and in the budget of
calls inside each other.  None of these changes whether the node passes.

The three are not alike.  Earlier violations change nothing at all (`Run.Faithful`).  A larger budget
only gives answers where there were none (`Run.Extends`).  **The mode changes which runs end**: a
conjunction that fails fast skips what comes after its first failure, and with it a call that would not
come back.  So the relation between the modes is one-sided: where all violations are collected and the
run ends, failing fast ends too, with the same verdict (`Run.Agrees`).
-/

set_option autoImplicit false

namespace JsonSchema

namespace Run

/-- `f'` answers what `f` answers, and possibly where `f` does not end. -/
def Extends {α : Type} (f f' : List Violation → Option (α × List Violation)) : Prop :=
  ∀ errors, f errors = none ∨ f' errors = f errors

/-- Where `f'` ends, `f` ends with the same answer, whatever was recorded before either. -/
def Agrees {α : Type} (f f' : List Violation → Option (α × List Violation)) : Prop :=
  ∀ errors' a after', f' errors' = some (a, after') → ∀ errors, ∃ after, f errors = some (a, after)

/-! ## Budgets -/

theorem Extends.untilPass {rs rs' : List Run} (h : List.Forall₂ Extends rs rs') :
    Extends (untilPass rs) (untilPass rs') := by
  induction h with
  | nil => exact fun errors => Or.inr rfl
  | cons h _ ih =>
    intro errors
    rcases h errors with hr | hr
    · exact Or.inl (by simp [Run.untilPass, hr])
    · simp only [Run.untilPass, hr]
      split
      · exact Or.inl rfl
      · exact Or.inr rfl
      · exact ih _

theorem Extends.passing {rs rs' : List Run} (h : List.Forall₂ Extends rs rs') :
    ∀ found number, Extends (passing found number rs) (passing found number rs') := by
  induction h with
  | nil => exact fun _ _ errors => Or.inr rfl
  | cons h _ ih =>
    intro found number errors
    rcases h errors with hr | hr
    · exact Or.inl (by simp [Run.passing, hr])
    · simp only [Run.passing, hr]
      split
      · exact Or.inl rfl
      · split
        · exact ih _ _ _
        · exact Or.inr rfl
      · exact ih _ _ _

theorem Extends.every {failFast : Bool} {rs rs' : List Run} (h : List.Forall₂ Extends rs rs') :
    Extends (every failFast rs) (every failFast rs') := by
  induction h with
  | nil => exact fun errors => Or.inr rfl
  | cons h _ ih =>
    intro errors
    rcases h errors with hr | hr
    · exact Or.inl (by simp [Run.every, hr])
    · simp only [Run.every, hr]
      split
      · exact Or.inl rfl
      · exact ih _
      · next after _ =>
        cases failFast with
        | true => exact Or.inr rfl
        | false =>
          rcases ih after with hs | hs
          · exact Or.inl (by simp [hs])
          · exact Or.inr (by simp [hs])

/-- Every combinator keeps `Extends`; each asks its parts first and answers nothing if they do not. -/
theorem extends_congruence (failFast : Bool) : Congruence Extends failFast failFast where
  pass errors := Or.inr rfl
  reject e errors := Or.inr rfl
  noting h e errors := by
    rcases h errors with hr | hr
    · exact Or.inl (by simp [noting, hr])
    · exact Or.inr (by simp [noting, hr])
  every := .every
  negate h e errors := by
    rcases h errors with hr | hr
    · exact Or.inl (by simp [negate, hr])
    · exact Or.inr (by simp [negate, hr])
  someOf h e errors := by
    rcases Extends.untilPass h errors with hr | hr
    · exact Or.inl (by simp [someOf, hr])
    · exact Or.inr (by simp [someOf, hr])
  anyOf h e errors := by
    rcases Extends.untilPass h errors with hr | hr
    · exact Or.inl (by simp [anyOf, hr])
    · exact Or.inr (by simp [anyOf, hr])
  oneOf h e errors := by
    rcases Extends.passing h [] 0 errors with hr | hr
    · exact Or.inl (by simp [oneOf, hr])
    · exact Or.inr (by simp [oneOf, hr])
  branch hc ht he errors := by
    rcases hc errors with hr | hr
    · exact Or.inl (by simp [branch, hr])
    · simp only [branch, hr]
      split
      · exact Or.inl rfl
      · split
        · exact ht _
        · exact he _

/-! ## Modes -/

theorem Agrees.untilPass {rs rs' : List Run} (h : List.Forall₂ Agrees rs rs') :
    Agrees (untilPass rs) (untilPass rs') := by
  induction h with
  | nil =>
    intro errors' a after' hr errors
    simp only [Run.untilPass, Option.some.injEq, Prod.mk.injEq] at hr
    obtain ⟨rfl, -⟩ := hr
    exact ⟨errors, rfl⟩
  | cons h _ ih =>
    intro errors' a after' hr errors
    simp only [Run.untilPass] at hr
    split at hr
    · exact absurd hr (by simp)
    · next hpass =>
      obtain ⟨after, hs⟩ := h _ _ _ hpass errors
      simp only [Option.some.injEq, Prod.mk.injEq] at hr
      obtain ⟨rfl, -⟩ := hr
      exact ⟨after, by simp [Run.untilPass, hs]⟩
    · next hfail =>
      obtain ⟨after, hs⟩ := h _ _ _ hfail errors
      simp only [Run.untilPass, hs]
      exact ih _ _ _ hr after

theorem Agrees.passing {rs rs' : List Run} (h : List.Forall₂ Agrees rs rs') :
    ∀ found number, Agrees (passing found number rs) (passing found number rs') := by
  induction h with
  | nil =>
    intro found number errors' a after' hr errors
    simp only [Run.passing, Option.some.injEq, Prod.mk.injEq] at hr
    obtain ⟨rfl, -⟩ := hr
    exact ⟨errors, rfl⟩
  | cons h _ ih =>
    intro found number errors' a after' hr errors
    simp only [Run.passing] at hr
    split at hr
    · exact absurd hr (by simp)
    · next hpass =>
      obtain ⟨after, hs⟩ := h _ _ _ hpass errors
      simp only [Run.passing, hs]
      split at hr
      · next he =>
        rw [if_pos he]
        exact ih _ _ _ _ _ hr after
      · next he =>
        simp only [Option.some.injEq, Prod.mk.injEq] at hr
        obtain ⟨rfl, -⟩ := hr
        exact ⟨after, by simp [he]⟩
    · next hfail =>
      obtain ⟨after, hs⟩ := h _ _ _ hfail errors
      simp only [Run.passing, hs]
      exact ih _ _ _ _ _ hr after

/-- The one combinator where the modes part: after a failure the one stops and the other goes on, but
    only to fail in the end. -/
theorem Agrees.every {rs rs' : List Run} (h : List.Forall₂ Agrees rs rs') :
    Agrees (every true rs) (every false rs') := by
  induction h with
  | nil =>
    intro errors' a after' hr errors
    simp only [Run.every, Option.some.injEq, Prod.mk.injEq] at hr
    obtain ⟨rfl, -⟩ := hr
    exact ⟨errors, rfl⟩
  | cons h _ ih =>
    intro errors' a after' hr errors
    simp only [Run.every] at hr
    split at hr
    · exact absurd hr (by simp)
    · next hpass =>
      obtain ⟨after, hs⟩ := h _ _ _ hpass errors
      simp only [Run.every, hs]
      exact ih _ _ _ hr after
    · next hfail =>
      obtain ⟨after, hs⟩ := h _ _ _ hfail errors
      simp only [Bool.false_eq_true, if_false, Option.map_eq_some_iff, Prod.mk.injEq] at hr
      obtain ⟨_, _, rfl, _⟩ := hr
      exact ⟨after, by simp [Run.every, hs]⟩

/-- The combinators keep `Agrees` between failing fast and collecting everything. -/
theorem agrees_congruence : Congruence Agrees true false where
  pass errors' a after' hr errors := by
    simp only [done, Option.some.injEq, Prod.mk.injEq] at hr
    obtain ⟨rfl, -⟩ := hr
    exact ⟨errors, rfl⟩
  reject e errors' a after' hr errors := by
    simp only [reject, Option.some.injEq, Prod.mk.injEq] at hr
    obtain ⟨rfl, -⟩ := hr
    exact ⟨errors ++ [e], rfl⟩
  noting h e errors' a after' hr errors := by
    simp only [noting] at hr
    split at hr
    · exact absurd hr (by simp)
    all_goals
      next hpart =>
      obtain ⟨after, hs⟩ := h _ _ _ hpart errors
      simp only [Option.some.injEq, Prod.mk.injEq] at hr
      obtain ⟨rfl, -⟩ := hr
      simp [noting, hs]
  every := .every
  negate h e errors' a after' hr errors := by
    simp only [negate] at hr
    split at hr
    · exact absurd hr (by simp)
    · next matched _ hpart =>
      obtain ⟨after, hs⟩ := h _ _ _ hpart errors
      cases matched
      all_goals
        simp only [reject, Bool.false_eq_true, if_true, if_false, Option.some.injEq,
          Prod.mk.injEq] at hr
        obtain ⟨rfl, -⟩ := hr
        simp [negate, reject, hs]
  someOf h e errors' a after' hr errors := by
    simp only [someOf] at hr
    split at hr
    · exact absurd hr (by simp)
    · next found _ hpart =>
      obtain ⟨after, hs⟩ := Agrees.untilPass h _ _ _ hpart errors
      cases found
      all_goals
        simp only [reject, Bool.false_eq_true, if_true, if_false, Option.some.injEq,
          Prod.mk.injEq] at hr
        obtain ⟨rfl, -⟩ := hr
        simp [someOf, reject, hs]
  anyOf h e errors' a after' hr errors := by
    simp only [anyOf] at hr
    split at hr
    · exact absurd hr (by simp)
    all_goals
      next hpart =>
      obtain ⟨after, hs⟩ := Agrees.untilPass h _ _ _ hpart errors
      simp only [reject, Option.some.injEq, Prod.mk.injEq] at hr
      obtain ⟨rfl, -⟩ := hr
      simp [anyOf, reject, hs]
  oneOf h e errors' a after' hr errors := by
    simp only [oneOf] at hr
    split at hr
    · exact absurd hr (by simp)
    · next hpart =>
      obtain ⟨after, hs⟩ := Agrees.passing h _ _ _ _ _ hpart errors
      simp only [Option.some.injEq, Prod.mk.injEq] at hr
      obtain ⟨rfl, -⟩ := hr
      simp [oneOf, hs]
    · next found _ hone hpart =>
      obtain ⟨after, hs⟩ := Agrees.passing h _ _ _ _ _ hpart errors
      simp only [reject, Option.some.injEq, Prod.mk.injEq] at hr
      obtain ⟨rfl, -⟩ := hr
      rcases found with _ | ⟨i, _ | ⟨j, rest⟩⟩
      · simp [oneOf, reject, hs]
      · exact absurd rfl (hone i)
      · simp [oneOf, reject, hs]
  branch hc ht he errors' a after' hr errors := by
    simp only [branch] at hr
    split at hr
    · exact absurd hr (by simp)
    · next matched _ hpart =>
      obtain ⟨after, hs⟩ := hc _ _ _ hpart errors
      simp only [branch, hs]
      cases matched
      · exact he _ _ _ hr _
      · exact ht _ _ _ hr _

end Run

/-! ## Programs -/

/-- One more call inside the others only adds answers. -/
theorem Program.call_extends_succ (p : Program) (failFast : Bool) : ∀ budget i l,
    Run.Extends (p.call failFast budget i l) (p.call failFast (budget + 1) i l) := by
  intro budget
  induction budget with
  | zero => exact fun i l errors => Or.inl rfl
  | succ budget ih =>
    intro i l
    rw [call, call]
    cases p.procedures[i]? with
    | none => exact fun errors => Or.inr rfl
    | some body => exact body.run_congr (Run.extends_congruence failFast) l fun i l' _ => ih i l'

/-- An answer under one budget is the answer under every larger one. -/
theorem Node.run_mono {p : Program} {failFast : Bool} {n : Node} {l : Location}
    {errors after : List Violation} {valid : Bool} {budget budget' : Nat} (hle : budget ≤ budget')
    (h : n.run (p.call failFast budget) failFast l errors = some (valid, after)) :
    n.run (p.call failFast budget') failFast l errors = some (valid, after) := by
  induction hle with
  | refl => exact h
  | step _ ih =>
    rcases n.run_congr (Run.extends_congruence failFast) l
      (fun i l' _ => p.call_extends_succ failFast _ i l') errors with hr | hr
    · exact absurd (hr.symm.trans ih) (by simp)
    · exact hr.trans ih

/-- Where collecting everything ends, failing fast ends with the same verdict. -/
theorem Node.run_agrees (p : Program) (budget : Nat) (n : Node) (l : Location) :
    Run.Agrees (n.run (p.call true budget) true l) (n.run (p.call false budget) false l) :=
  n.run_congr Run.agrees_congruence l fun i l' _ =>
    p.call_congr Run.agrees_congruence (fun _ _ _ h => absurd h (by simp [Run.stuck])) budget i l'

/-- Runs that end in one mode have one verdict, whatever was recorded before. -/
theorem Node.run_same_mode {p : Program} {failFast : Bool} {budget : Nat} {n : Node} {l : Location}
    {errors errors' after after' : List Violation} {valid valid' : Bool}
    (h : n.run (p.call failFast budget) failFast l errors = some (valid, after))
    (h' : n.run (p.call failFast budget) failFast l errors' = some (valid', after')) :
    valid = valid' := by
  have ha := (n.run_faithful p failFast budget l).appends
  obtain ⟨_, hr, _⟩ := (ha.eq_some errors).mp h
  obtain ⟨_, hr', _⟩ := (ha.eq_some errors').mp h'
  exact (Prod.mk.inj (Option.some.inj (hr.symm.trans hr'))).1

/-- **One verdict for a node and a location.**  Two runs that end give the same verdict, whatever the
    modes, the budgets and the violations recorded before; so where validation ends, it accepts exactly
    the data that the quick test accepts, whether it was asked for all violations or for one. -/
theorem verdict_unique :
    (∀ (p : Program) (n : Node) (l : Location) (failFast failFast' : Bool) (budget budget' : Nat)
      (errors errors' after after' : List Violation) (valid valid' : Bool),
      n.run (p.call failFast budget) failFast l errors = some (valid, after) →
      n.run (p.call failFast' budget') failFast' l errors' = some (valid', after') →
      valid = valid') ∧
    ∀ (v : Validator) (data : Json), v.validate data ≠ .endless →
      (v.validate data = .valid ↔ v.isValid data = true) := by
  have modes : ∀ (p : Program) (n : Node) (l : Location) (budget : Nat)
      (errors errors' after after' : List Violation) (valid valid' : Bool),
      n.run (p.call true budget) true l errors = some (valid, after) →
      n.run (p.call false budget) false l errors' = some (valid', after') → valid = valid' := by
    intro p n l budget errors errors' after after' valid valid' h h'
    obtain ⟨_, hfast⟩ := n.run_agrees p budget l _ _ _ h' errors
    exact Node.run_same_mode h hfast
  refine ⟨?_, ?_⟩
  · intro p n l failFast failFast' budget budget' errors errors' after after' valid valid' h h'
    -- under the larger budget both runs still end, so that one budget is enough
    have h := Node.run_mono (Nat.le_max_left budget budget') h
    have h' := Node.run_mono (Nat.le_max_right budget budget') h'
    cases failFast <;> cases failFast'
    · exact Node.run_same_mode h h'
    · exact (modes _ _ _ _ _ _ _ _ _ _ h' h).symm
    · exact modes _ _ _ _ _ _ _ _ _ _ h h'
    · exact Node.run_same_mode h h'
  · intro v data hends
    -- In either mode the validator's own run decides, so the quick test has to end with its verdict.
    have hfast : ∀ valid errors, v.program.run (!v.allErrors) data = some (valid, errors) →
        v.isValid data = valid := by
      intro valid errors hrun
      have : ∃ after, v.program.run true data = some (valid, after) := by
        cases hall : v.allErrors with
        | false => exact ⟨errors, by simpa [hall] using hrun⟩
        | true =>
          rw [hall] at hrun
          exact v.program.root.run_agrees v.program _ _ _ _ _ hrun []
      obtain ⟨after, hafter⟩ := this
      simp [Validator.isValid, hafter]
    cases hrun : v.program.run (!v.allErrors) data with
    | none => exact absurd (by simp [Validator.validate, hrun]) hends
    | some result =>
      obtain ⟨valid, errors⟩ := result
      rw [hfast valid errors hrun]
      cases valid <;> simp [Validator.validate, hrun]

end JsonSchema
