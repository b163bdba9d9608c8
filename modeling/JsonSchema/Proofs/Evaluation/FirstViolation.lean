import JsonSchema.Proofs.Evaluation.Modes

/-!
# What failing fast leaves out

`Modes` compares the verdicts of the two modes; this file compares what they record.  **Failing fast
records a subsequence of what collecting everything records, and both lists start with the same
violation** (`Node.run_abridged`).

A conjunction that fails fast keeps the violations of its first failing part, which come first in the
other mode too.  Everything else runs the same parts in the same order and adds the same violation
behind them, so that order and first entry carry over.  The two lists may still differ in more than
their length: what a search recorded is kept or cut back as a whole, and inside it the conjunctions of
each branch have been cut short, one by one.
-/

set_option autoImplicit false

namespace JsonSchema

namespace Run

variable {α : Type} {f f' : List Violation → Option (α × List Violation)} {r r' : Run}
  {rs rs' : List Run}

/-- Where `f'` ends `f` ends with the same answer; it leaves out some of what `f'` records, but not the
    first violation. -/
def Abridges (f f' : List Violation → Option (α × List Violation)) : Prop :=
  ∀ a new', f' [] = some (a, new') →
    ∃ new, f [] = some (a, new) ∧ new.Sublist new' ∧ new.head? = new'.head?

/-- Two faithful runs, the first of which abridges the second. -/
structure Abridged (r r' : Run) : Prop where
  faithful : Faithful r
  faithful' : Faithful r'
  abridges : Abridges r r'

/-- What two such runs can do: the second does not end, both pass, or both fail with one violation and
    more behind it. -/
theorem Abridged.cases (h : Abridged r r') :
    (∀ errors, r' errors = none) ∨
      ((∀ errors, r errors = some (true, errors)) ∧ ∀ errors, r' errors = some (true, errors)) ∨
      ∃ e rest rest', rest.Sublist rest' ∧ (∀ errors, r errors = some (false, errors ++ e :: rest)) ∧
        ∀ errors, r' errors = some (false, errors ++ e :: rest') := by
  rcases h.faithful'.cases with hr' | hr' | ⟨new', hne, hr'⟩
  · exact Or.inl hr'
  · obtain ⟨new, hr, hsub, -⟩ := h.abridges true [] (hr' [])
    obtain rfl := List.sublist_nil.mp hsub
    exact Or.inr (Or.inl ⟨fun errors => (h.faithful.appends.eq_some errors).mpr ⟨[], hr, by simp⟩, hr'⟩)
  · obtain ⟨new, hr, hsub, hhead⟩ := h.abridges false new' (hr' [])
    obtain ⟨e, rest', rfl⟩ := List.exists_cons_of_ne_nil hne
    obtain ⟨rest, rfl⟩ : ∃ rest, new = e :: rest := by
      cases new with
      | nil => simp at hhead
      | cons d rest =>
        obtain rfl : d = e := by simpa using hhead
        exact ⟨rest, rfl⟩
    refine Or.inr (Or.inr ⟨e, rest, rest', List.cons_sublist_cons.mp hsub, fun errors => ?_, hr'⟩)
    exact (h.faithful.appends.eq_some errors).mpr ⟨e :: rest, hr, rfl⟩

/-! ## Searches -/

/-- The step of both searches: a part that failed, and a search that goes on behind it. -/
theorem Abridges.after_failure (hf : Appends f) (hf' : Appends f') (h : Abridges f f')
    {e : Violation} {rest rest' : List Violation} (hrest : rest.Sublist rest') :
    ∀ a new', f' (e :: rest') = some (a, new') →
      ∃ new, f (e :: rest) = some (a, new) ∧ new.Sublist new' ∧ new.head? = new'.head? := by
  intro a new' hr'
  obtain ⟨more', hmore', rfl⟩ := (hf'.eq_some _).mp hr'
  obtain ⟨more, hmore, hsub, -⟩ := h a more' hmore'
  refine ⟨e :: rest ++ more, (hf.eq_some _).mpr ⟨more, hmore, rfl⟩, ?_, rfl⟩
  exact (List.cons_sublist_cons.mpr hrest).append hsub

theorem Abridged.faithful_left (h : List.Forall₂ Abridged rs rs') : ∀ r ∈ rs, Faithful r :=
  forall_mem_of_forall₂ (h.imp fun _ _ h => h.faithful)

theorem Abridged.faithful_right (h : List.Forall₂ Abridged rs rs') : ∀ r ∈ rs', Faithful r :=
  forall_mem_of_forall₂ (h.flip.imp fun _ _ h => h.faithful')

theorem Abridges.untilPass (h : List.Forall₂ Abridged rs rs') :
    Abridges (untilPass rs) (untilPass rs') := by
  induction h with
  | nil =>
    intro a new' hr
    simp only [Run.untilPass, Option.some.injEq, Prod.mk.injEq] at hr
    obtain ⟨rfl, rfl⟩ := hr
    exact ⟨[], rfl, List.Sublist.refl [], rfl⟩
  | cons h hrest ih =>
    intro a new' hr'
    rcases h.cases with hs | ⟨hs, hs'⟩ | ⟨e, rest, rest', hsub, hs, hs'⟩
    · simp [Run.untilPass, hs] at hr'
    · simp only [Run.untilPass, hs', Option.some.injEq, Prod.mk.injEq] at hr'
      obtain ⟨rfl, rfl⟩ := hr'
      exact ⟨[], by simp [Run.untilPass, hs]⟩
    · simp only [Run.untilPass, hs', List.nil_append] at hr'
      simp only [Run.untilPass, hs, List.nil_append]
      refine ih.after_failure (untilPass_appends fun r hr => ?_) (untilPass_appends fun r hr => ?_) hsub
        a new' hr'
      · exact (Abridged.faithful_left hrest r hr).appends
      · exact (Abridged.faithful_right hrest r hr).appends

theorem Abridges.passing (h : List.Forall₂ Abridged rs rs') :
    ∀ found number, Abridges (passing found number rs) (passing found number rs') := by
  induction h with
  | nil =>
    intro found number a new' hr
    simp only [Run.passing, Option.some.injEq, Prod.mk.injEq] at hr
    obtain ⟨rfl, rfl⟩ := hr
    exact ⟨[], rfl, List.Sublist.refl [], rfl⟩
  | cons h hrest ih =>
    intro found number a new' hr'
    rcases h.cases with hs | ⟨hs, hs'⟩ | ⟨e, rest, rest', hsub, hs, hs'⟩
    · simp [Run.passing, hs] at hr'
    · simp only [Run.passing, hs'] at hr'
      simp only [Run.passing, hs]
      split at hr'
      · next hempty =>
        rw [if_pos hempty]
        exact ih _ _ a new' hr'
      · next hempty =>
        simp only [Option.some.injEq, Prod.mk.injEq] at hr'
        obtain ⟨rfl, rfl⟩ := hr'
        exact ⟨[], by simp [hempty]⟩
    · simp only [Run.passing, hs', List.nil_append] at hr'
      simp only [Run.passing, hs, List.nil_append]
      refine (ih found _).after_failure (passing_appends _ _ fun r hr => ?_)
        (passing_appends _ _ fun r hr => ?_) hsub a new' hr'
      · exact (Abridged.faithful_left hrest r hr).appends
      · exact (Abridged.faithful_right hrest r hr).appends

/-! ## Combinators -/

/-- A run that does the same in both modes. -/
theorem Abridged.refl (h : Faithful r) : Abridged r r :=
  ⟨h, h, fun _ new' hr => ⟨new', hr, List.Sublist.refl new', rfl⟩⟩

/-- The one combinator where the modes part: failing fast keeps the violations of the first part that
    fails, and the other mode records more behind them. -/
theorem Abridged.every (h : List.Forall₂ Abridged rs rs') :
    Abridged (every true rs) (every false rs') := by
  refine ⟨.every (faithful_left h), .every (faithful_right h), ?_⟩
  induction h with
  | nil => exact (Abridged.refl (.every (by simp))).abridges
  | cons h hrest ih =>
    intro a new' hr'
    rcases h.cases with hs' | ⟨hs, hs'⟩ | ⟨e, rest, rest', hsub, hs, hs'⟩
    · simp [Run.every, hs'] at hr'
    · simp only [Run.every, hs'] at hr'
      simp only [Run.every, hs]
      exact ih a new' hr'
    · simp only [Run.every, hs', List.nil_append, Bool.false_eq_true, if_false,
        Option.map_eq_some_iff, Prod.mk.injEq] at hr'
      obtain ⟨⟨_, after⟩, hmore, rfl, rfl⟩ := hr'
      -- what the other mode records after this part is behind `e :: rest'`
      have hfaithful : Faithful (Run.every false _) := .every (faithful_right hrest)
      obtain ⟨more, -, rfl⟩ := (hfaithful.appends.eq_some _).mp hmore
      refine ⟨e :: rest, by simp [Run.every, hs], ?_, rfl⟩
      exact (List.cons_sublist_cons.mpr hsub).trans (List.sublist_append_left _ more)

theorem Abridged.noting (h : Abridged r r') (e : Violation) : Abridged (noting e r) (noting e r') := by
  refine ⟨h.faithful.noting e, h.faithful'.noting e, fun a new' hr' => ?_⟩
  rcases h.cases with hs' | ⟨hs, hs'⟩ | ⟨d, rest, rest', hsub, hs, hs'⟩
  · simp [Run.noting, hs'] at hr'
  · simp only [Run.noting, hs', Option.some.injEq, Prod.mk.injEq] at hr'
    obtain ⟨rfl, rfl⟩ := hr'
    exact ⟨[], by simp [Run.noting, hs]⟩
  · simp only [Run.noting, hs', Option.some.injEq, Prod.mk.injEq] at hr'
    obtain ⟨rfl, rfl⟩ := hr'
    refine ⟨d :: rest ++ [e], by simp [Run.noting, hs], ?_, rfl⟩
    exact (List.cons_sublist_cons.mpr hsub).append (List.Sublist.refl [e])

/-- What the part recorded is cut back, so that nothing is left of the difference. -/
theorem Abridged.negate (h : Abridged r r') (e : Violation) : Abridged (negate e r) (negate e r') := by
  refine ⟨h.faithful.negate e, h.faithful'.negate e, fun a new' hr' => ?_⟩
  rcases h.cases with hs' | ⟨hs, hs'⟩ | ⟨d, rest, rest', hsub, hs, hs'⟩
  · simp [Run.negate, hs'] at hr'
  · refine ⟨new', ?_, List.Sublist.refl new', rfl⟩
    simpa [Run.negate, hs, hs'] using hr'
  · refine ⟨new', ?_, List.Sublist.refl new', rfl⟩
    simpa [Run.negate, hs, hs'] using hr'

theorem Abridged.someOf (h : List.Forall₂ Abridged rs rs') (e : Violation) :
    Abridged (someOf e rs) (someOf e rs') := by
  refine ⟨.someOf (faithful_left h) e, .someOf (faithful_right h) e, fun a new' hr' => ?_⟩
  simp only [Run.someOf] at hr'
  split at hr'
  · exact absurd hr' (by simp)
  · next found after hs' =>
    obtain ⟨new, hs, -, -⟩ := Abridges.untilPass h found after hs'
    refine ⟨new', ?_, List.Sublist.refl new', rfl⟩
    simpa [Run.someOf, hs] using hr'

theorem Abridged.anyOf (h : List.Forall₂ Abridged rs rs') (e : Violation) :
    Abridged (anyOf e rs) (anyOf e rs') := by
  refine ⟨.anyOf (faithful_left h) e, .anyOf (faithful_right h) e, fun a new' hr' => ?_⟩
  simp only [Run.anyOf] at hr'
  split at hr'
  · exact absurd hr' (by simp)
  · next after hs' =>
    obtain ⟨new, hs, -, -⟩ := Abridges.untilPass h true after hs'
    refine ⟨new', ?_, List.Sublist.refl new', rfl⟩
    simpa [Run.anyOf, hs] using hr'
  · next after hs' =>
    obtain ⟨new, hs, hsub, hhead⟩ := Abridges.untilPass h false after hs'
    simp only [Run.reject, Option.some.injEq, Prod.mk.injEq] at hr'
    obtain ⟨rfl, rfl⟩ := hr'
    refine ⟨new ++ [e], by simp [Run.anyOf, Run.reject, hs], hsub.append (List.Sublist.refl [e]), ?_⟩
    rw [List.head?_append, List.head?_append, hhead]

theorem Abridged.oneOf (h : List.Forall₂ Abridged rs rs') (e : List Nat → Violation) :
    Abridged (oneOf e rs) (oneOf e rs') := by
  refine ⟨.oneOf (faithful_left h) e, .oneOf (faithful_right h) e, fun a new' hr' => ?_⟩
  simp only [Run.oneOf] at hr'
  split at hr'
  · exact absurd hr' (by simp)
  · next i after hs' =>
    obtain ⟨new, hs, -, -⟩ := Abridges.passing h [] 0 [i] after hs'
    refine ⟨new', ?_, List.Sublist.refl new', rfl⟩
    simpa [Run.oneOf, hs] using hr'
  · next found after hone hs' =>
    obtain ⟨new, hs, hsub, hhead⟩ := Abridges.passing h [] 0 found after hs'
    simp only [Run.reject, Option.some.injEq, Prod.mk.injEq] at hr'
    obtain ⟨rfl, rfl⟩ := hr'
    refine ⟨new ++ [e found], ?_, hsub.append (List.Sublist.refl _), ?_⟩
    · -- the numbers of the branches that passed are the same, and they are not one
      simp only [Run.oneOf, hs]
      rfl
    · rw [List.head?_append, List.head?_append, hhead]

theorem Abridged.branch {c c' t t' e e' : Run} (hc : Abridged c c') (ht : Abridged t t')
    (he : Abridged e e') : Abridged (branch c t e) (branch c' t' e') := by
  refine ⟨.branch hc.faithful ht.faithful he.faithful, .branch hc.faithful' ht.faithful' he.faithful',
    fun a new' hr' => ?_⟩
  rcases hc.cases with hs' | ⟨hs, hs'⟩ | ⟨d, rest, rest', -, hs, hs'⟩
  · simp [Run.branch, hs'] at hr'
  · simp only [Run.branch, hs', List.take_nil, if_true] at hr'
    simp only [Run.branch, hs, List.take_nil, if_true]
    exact ht.abridges a new' hr'
  · simp only [Run.branch, hs', List.length_nil, List.take_zero, Bool.false_eq_true, if_false] at hr'
    simp only [Run.branch, hs, List.length_nil, List.take_zero, Bool.false_eq_true, if_false]
    exact he.abridges a new' hr'

/-- The combinators keep `Abridged` between failing fast and collecting everything. -/
theorem abridged_congruence : Congruence Abridged true false where
  pass := .refl .pass
  reject e := .refl (.reject e)
  noting h e := h.noting e
  every := .every
  negate h e := h.negate e
  someOf h e := .someOf h e
  anyOf h e := .anyOf h e
  oneOf h e := .oneOf h e
  branch := .branch

end Run

/-! ## Programs -/

/-- **What failing fast leaves out.**  A node that fails fast leaves a subsequence of what it leaves
    when it collects everything, with the same first violation. -/
theorem Node.run_abridged (p : Program) (budget : Nat) (n : Node) (l : Location) :
    Run.Abridged (n.run (p.call true budget) true l) (n.run (p.call false budget) false l) :=
  n.run_congr Run.abridged_congruence l fun i l' _ =>
    p.call_congr Run.abridged_congruence (.refl .stuck) budget i l'

/-- The two modes of a program on one value: collecting everything does not end, or both pass, or both
    fail with one violation, behind which failing fast leaves out some of the others. -/
theorem Program.run_modes (p : Program) (data : Json) :
    p.run false data = none ∨
      (p.run true data = some (true, []) ∧ p.run false data = some (true, [])) ∨
      ∃ first rest rest', rest.Sublist rest' ∧ p.run true data = some (false, first :: rest) ∧
        p.run false data = some (false, first :: rest') := by
  rcases (p.root.run_abridged p (p.callBudget data) (.root data)).cases with
    h | ⟨h, h'⟩ | ⟨first, rest, rest', hsub, h, h'⟩
  · exact Or.inl (h [])
  · exact Or.inr (Or.inl ⟨h [], h' []⟩)
  · exact Or.inr (Or.inr ⟨first, rest, rest', hsub, h [], h' []⟩)

/-- What validation and the quick test say of one value: validation does not end, or both accept it, or both
    refuse it, and then there is a violation to show. -/
theorem Validator.validate_cases (v : Validator) (data : Json) :
    v.validate data = .endless ∨ (v.validate data = .valid ∧ v.isValid data = true) ∨
      ∃ violations, violations ≠ [] ∧ v.validate data = .invalid violations ∧ v.isValid data = false := by
  unfold validate isValid
  cases v.allErrors with
  | true =>
    rcases v.program.run_modes data with h | ⟨hfast, hall⟩ | ⟨first, rest, rest', -, hfast, hall⟩
    · exact .inl (by simp [h])
    · exact .inr (.inl (by simp [hfast, hall]))
    · exact .inr (.inr ⟨first :: rest', by simp [hfast, hall]⟩)
  | false =>
    cases hrun : v.program.run true data with
    | none => exact .inl (by simp [hrun])
    | some result =>
      obtain ⟨ok, errors⟩ := result
      cases ok with
      | true => exact .inr (.inl (by simp [hrun]))
      | false =>
        obtain ⟨_, hne, rfl⟩ := (Node.run_records hrun).2 rfl
        exact .inr (.inr ⟨errors, hne, by simp [hrun]⟩)

/-- The violations that a verdict lists. -/
def Verdict.violations : Verdict → List Violation
  | .invalid violations => violations
  | .valid | .endless => []

/-- Where validation ends, it lists no violations exactly if the quick test accepts. -/
theorem Validator.violations_eq_nil_iff {v : Validator} {data : Json} (hends : v.validate data ≠ .endless) :
    (v.validate data).violations = [] ↔ v.isValid data = true := by
  rcases v.validate_cases data with h | ⟨h, hvalid⟩ | ⟨violations, hne, h, hvalid⟩
  · exact absurd h hends
  · simp [h, hvalid, Verdict.violations]
  · simp [h, hvalid, hne, Verdict.violations]

end JsonSchema
