import JsonSchema.Proofs.Evaluation.Congruence

/-!
# What a run leaves behind

The list of violations is shared by everything that runs, and five combinators cut it back.  This file
proves that nobody can tell: a run answers and appends the same whatever was recorded before
(`Run.Appends`), and it appends nothing exactly when it passes (`Run.Faithful`).

`Appends` is stated for any answer and not only for `Bool`, because the two searches inside `anyOf`,
`contains` and `oneOf` (`untilPass`, `passing`) have it as well, and **they are not faithful**: a search
that succeeds still holds the violations of the branches it tried.  Cutting back to the mark is what
makes the combinator around it faithful again; the mark is right at any depth because what was recorded
before is still a prefix when the search is over.
-/

set_option autoImplicit false

namespace JsonSchema

namespace Run

/-- What `f` answers and appends does not depend on the violations recorded before. -/
def Appends {α : Type} (f : List Violation → Option (α × List Violation)) : Prop :=
  ∀ errors, f errors = (f []).map fun result => (result.1, errors ++ result.2)

/-- The run appends, and it appends nothing exactly when it passes. -/
structure Faithful (r : Run) : Prop where
  appends : Appends r
  honest : ∀ {valid new}, r [] = some (valid, new) → (valid = true ↔ new = [])

/-! ## Appending -/

/-- An answer of something that appends is its answer without earlier violations, moved behind them. -/
theorem Appends.eq_some {α : Type} {f : List Violation → Option (α × List Violation)} (h : Appends f)
    (errors : List Violation) {after : List Violation} {a : α} :
    f errors = some (a, after) ↔ ∃ new, f [] = some (a, new) ∧ after = errors ++ new := by
  rw [h errors]
  cases f [] with
  | none => simp
  | some result =>
    obtain ⟨b, new⟩ := result
    simp only [Option.map_some, Option.some.injEq, Prod.mk.injEq]
    constructor
    · rintro ⟨rfl, rfl⟩
      exact ⟨new, ⟨rfl, rfl⟩, rfl⟩
    · rintro ⟨_, ⟨rfl, rfl⟩, rfl⟩
      exact ⟨rfl, rfl⟩

/-- Something that appends does not end after earlier violations exactly if it does not without. -/
theorem Appends.eq_none {α : Type} {f : List Violation → Option (α × List Violation)} (h : Appends f)
    (errors : List Violation) : f errors = none ↔ f [] = none := by
  rw [h errors, Option.map_eq_none_iff]

theorem untilPass_appends : ∀ {rs : List Run}, (∀ r ∈ rs, Appends r) → Appends (untilPass rs)
  | [], _ => fun errors => by simp [untilPass]
  | r :: rest, h => by
    intro errors
    have hrest := untilPass_appends fun r hr => h r (List.mem_cons_of_mem _ hr)
    simp only [untilPass, h r List.mem_cons_self errors]
    rcases r [] with _ | ⟨_ | _, new⟩
    · rfl
    -- only a run that failed has recorded something for the rest to start with
    · simp only [Option.map_some]
      rw [hrest (errors ++ new), hrest new]
      cases untilPass rest [] <;> simp
    · rfl

theorem passing_appends : ∀ {rs : List Run} (found : List Nat) (number : Nat),
    (∀ r ∈ rs, Appends r) → Appends (passing found number rs)
  | [], _, _, _ => fun errors => by simp [passing]
  | r :: rest, found, number, h => by
    intro errors
    have hrest := fun found => passing_appends found (number + 1) fun r hr =>
      h r (List.mem_cons_of_mem _ hr)
    simp only [passing, h r List.mem_cons_self errors]
    rcases r [] with _ | ⟨_ | _, new⟩
    · rfl
    · simp only [Option.map_some]
      rw [hrest found (errors ++ new), hrest found new]
      cases passing found (number + 1) rest [] <;> simp
    · simp only [Option.map_some]
      split
      · rw [hrest [number] (errors ++ new), hrest [number] new]
        cases passing [number] (number + 1) rest [] <;> simp
      · rfl

/-! ## Faithful combinators -/

theorem Faithful.stuck : Faithful stuck := ⟨fun _ => rfl, fun h => absurd h (by simp [Run.stuck])⟩

theorem Faithful.pass : Faithful (done true) where
  appends errors := by simp [done]
  honest h := by
    simp only [done, Option.some.injEq, Prod.mk.injEq] at h
    simp [← h.1, ← h.2]

theorem Faithful.reject (e : Violation) : Faithful (reject e) where
  appends errors := by simp [Run.reject]
  honest h := by
    simp only [Run.reject, Option.some.injEq, Prod.mk.injEq] at h
    simp [← h.1, ← h.2]

/-- A faithful run does not end, passes and leaves the list alone, or fails and adds to it. -/
theorem Faithful.cases {r : Run} (h : Faithful r) :
    (∀ errors, r errors = none) ∨ (∀ errors, r errors = some (true, errors)) ∨
      ∃ new, new ≠ [] ∧ ∀ errors, r errors = some (false, errors ++ new) := by
  cases hr : r [] with
  | none => exact Or.inl fun errors => (h.appends.eq_none errors).mpr hr
  | some result =>
    obtain ⟨valid, new⟩ := result
    have hnew := h.honest hr
    cases valid with
    | true =>
      obtain rfl : new = [] := hnew.mp rfl
      exact Or.inr (Or.inl fun errors => (h.appends.eq_some errors).mpr ⟨[], hr, by simp⟩)
    | false =>
      refine Or.inr (Or.inr ⟨new, fun hn => ?_, fun errors =>
        (h.appends.eq_some errors).mpr ⟨new, hr, rfl⟩⟩)
      exact absurd (hnew.mpr hn) (by simp)

/-- The converse of `Faithful.cases`, by which a combinator is shown faithful. -/
theorem Faithful.of_cases {r : Run}
    (h : (∀ errors, r errors = none) ∨ (∀ errors, r errors = some (true, errors)) ∨
      ∃ new, new ≠ [] ∧ ∀ errors, r errors = some (false, errors ++ new)) : Faithful r := by
  rcases h with h | h | ⟨new, hne, h⟩
  · exact ⟨fun errors => by simp [h], fun hr => by simp [h] at hr⟩
  · refine ⟨fun errors => by simp [h], fun hr => ?_⟩
    simp only [h, Option.some.injEq, Prod.mk.injEq] at hr
    simp [← hr.1, ← hr.2]
  · refine ⟨fun errors => by simp [h], fun hr => ?_⟩
    simp only [h, Option.some.injEq, Prod.mk.injEq, List.nil_append] at hr
    simp [← hr.1, ← hr.2, hne]

theorem Faithful.noting {r : Run} (h : Faithful r) (e : Violation) : Faithful (noting e r) := by
  refine .of_cases ?_
  rcases h.cases with hr | hr | ⟨new, _, hr⟩
  · exact Or.inl fun errors => by simp [Run.noting, hr]
  · exact Or.inr (Or.inl fun errors => by simp [Run.noting, hr])
  · exact Or.inr (Or.inr ⟨new ++ [e], by simp, fun errors => by simp [Run.noting, hr]⟩)

theorem Faithful.negate {r : Run} (h : Faithful r) (e : Violation) : Faithful (negate e r) := by
  refine .of_cases ?_
  rcases h.cases with hr | hr | ⟨new, _, hr⟩
  · exact Or.inl fun errors => by simp [Run.negate, hr]
  · exact Or.inr (Or.inr ⟨[e], by simp, fun errors => by simp [Run.negate, Run.reject, hr]⟩)
  · exact Or.inr (Or.inl fun errors => by simp [Run.negate, hr])

theorem Faithful.branch {c t e : Run} (hc : Faithful c) (ht : Faithful t) (he : Faithful e) :
    Faithful (branch c t e) := by
  rcases hc.cases with hr | hr | ⟨new, _, hr⟩
  · exact .of_cases (Or.inl fun errors => by simp [Run.branch, hr])
  · have heq : Run.branch c t e = t := by funext errors; simp [Run.branch, hr]
    rw [heq]
    exact ht
  · have heq : Run.branch c t e = e := by funext errors; simp [Run.branch, hr]
    rw [heq]
    exact he

/-- In order: a run that passes leaves nothing to the next, one that fails leaves what it recorded. -/
theorem Faithful.every {failFast : Bool} : ∀ {rs : List Run}, (∀ r ∈ rs, Faithful r) →
    Faithful (every failFast rs)
  | [], _ => .of_cases (Or.inr (Or.inl fun errors => rfl))
  | r :: rest, h => by
    have hrest : Faithful (Run.every failFast rest) := every fun r hr => h r (List.mem_cons_of_mem _ hr)
    rcases (h r List.mem_cons_self).cases with hr | hr | ⟨new, hne, hr⟩
    · exact .of_cases (Or.inl fun errors => by simp [Run.every, hr])
    · have heq : Run.every failFast (r :: rest) = Run.every failFast rest := by
        funext errors
        simp [Run.every, hr]
      rw [heq]
      exact hrest
    · refine .of_cases ?_
      cases failFast with
      -- failing fast leaves `new`, going on leaves `new` and what the rest adds
      | true => exact Or.inr (Or.inr ⟨new, hne, fun errors => by simp [Run.every, hr]⟩)
      | false =>
        rcases hrest.cases with hs | hs | ⟨more, _, hs⟩
        · exact Or.inl fun errors => by simp [Run.every, hr, hs]
        · exact Or.inr (Or.inr ⟨new, hne, fun errors => by simp [Run.every, hr, hs]⟩)
        · exact Or.inr (Or.inr ⟨new ++ more, by simp [hne], fun errors => by
            simp [Run.every, hr, hs]⟩)

theorem Faithful.someOf {rs : List Run} (h : ∀ r ∈ rs, Faithful r) (e : Violation) :
    Faithful (someOf e rs) := by
  have ha := untilPass_appends fun r hr => (h r hr).appends
  refine .of_cases ?_
  cases hu : untilPass rs [] with
  | none => exact Or.inl fun errors => by simp [Run.someOf, (ha.eq_none errors).mpr hu]
  | some result =>
    obtain ⟨found, new⟩ := result
    have hs := fun errors => (ha.eq_some errors).mpr ⟨new, hu, rfl⟩
    cases found with
    | true => exact Or.inr (Or.inl fun errors => by simp [Run.someOf, hs])
    | false =>
      exact Or.inr (Or.inr ⟨[e], by simp, fun errors => by simp [Run.someOf, Run.reject, hs]⟩)

theorem Faithful.anyOf {rs : List Run} (h : ∀ r ∈ rs, Faithful r) (e : Violation) :
    Faithful (anyOf e rs) := by
  have ha := untilPass_appends fun r hr => (h r hr).appends
  refine .of_cases ?_
  cases hu : untilPass rs [] with
  | none => exact Or.inl fun errors => by simp [Run.anyOf, (ha.eq_none errors).mpr hu]
  | some result =>
    obtain ⟨found, new⟩ := result
    have hs := fun errors => (ha.eq_some errors).mpr ⟨new, hu, rfl⟩
    cases found with
    | true => exact Or.inr (Or.inl fun errors => by simp [Run.anyOf, hs])
    | false =>
      exact Or.inr (Or.inr ⟨new ++ [e], by simp, fun errors => by simp [Run.anyOf, Run.reject, hs]⟩)

theorem Faithful.oneOf {rs : List Run} (h : ∀ r ∈ rs, Faithful r) (e : List Nat → Violation) :
    Faithful (oneOf e rs) := by
  have ha := passing_appends [] 0 fun r hr => (h r hr).appends
  refine .of_cases ?_
  cases hp : passing [] 0 rs [] with
  | none => exact Or.inl fun errors => by simp [Run.oneOf, (ha.eq_none errors).mpr hp]
  | some result =>
    obtain ⟨found, new⟩ := result
    have hs := fun errors => (ha.eq_some errors).mpr ⟨new, hp, rfl⟩
    -- the middle case is the one that passes
    rcases found with _ | ⟨i, _ | ⟨j, rest⟩⟩
    · exact Or.inr (Or.inr ⟨new ++ [e []], by simp, fun errors => by
        simp [Run.oneOf, Run.reject, hs]⟩)
    · exact Or.inr (Or.inl fun errors => by simp [Run.oneOf, hs])
    · exact Or.inr (Or.inr ⟨new ++ [e (i :: j :: rest)], by simp, fun errors => by
        simp [Run.oneOf, Run.reject, hs]⟩)

/-- Every combinator keeps faithfulness, in either mode. -/
theorem faithful_congruence (failFast : Bool) :
    Congruence (fun r _ => Faithful r) failFast failFast where
  pass := .pass
  reject := .reject
  noting h e := h.noting e
  every h := .every (forall_mem_of_forall₂ h)
  negate h e := h.negate e
  someOf h e := .someOf (forall_mem_of_forall₂ h) e
  anyOf h e := .anyOf (forall_mem_of_forall₂ h) e
  oneOf h e := .oneOf (forall_mem_of_forall₂ h) e
  branch hc ht he := .branch hc ht he

end Run

/-! ## Programs -/

/-- Every node of every program is a faithful run, whatever the budget of its calls. -/
theorem Node.run_faithful (p : Program) (failFast : Bool) (budget : Nat) (n : Node) (l : Location) :
    (n.run (p.call failFast budget) failFast l).Faithful :=
  n.run_keeps (Run.faithful_congruence failFast) l fun i l' _ =>
    p.call_keeps (Run.faithful_congruence failFast) .stuck budget i l'

variable {p : Program} {failFast : Bool} {budget : Nat} {l : Location} {errors after : List Violation}

/-- `Node.run_faithful`, read off one answer. -/
theorem Node.run_records {n : Node} {valid : Bool}
    (h : n.run (p.call failFast budget) failFast l errors = some (valid, after)) :
    (valid = true ↔ after = errors) ∧ (valid = false → ∃ new, new ≠ [] ∧ after = errors ++ new) := by
  rcases (n.run_faithful p failFast budget l).cases with hr | hr | ⟨new, hne, hr⟩ <;> rw [hr] at h
  · exact absurd h (by simp)
  · simp only [Option.some.injEq, Prod.mk.injEq] at h
    simp [← h.1, h.2]
  · simp only [Option.some.injEq, Prod.mk.injEq] at h
    obtain ⟨rfl, rfl⟩ := h
    exact ⟨by simp [hne], fun _ => ⟨new, hne, rfl⟩⟩

/-- A failing `not` leaves its own violation and nothing of the schema that matched. -/
theorem Node.not_records {body : Node} {site : ErrorSite}
    (h : (Node.not body site).run (p.call failFast budget) failFast l errors = some (false, after)) :
    after = errors ++ [site.about l l.value] := by
  rw [run_not] at h
  rcases (body.run_faithful p failFast budget l).cases with hr | hr | ⟨new, _, hr⟩
  · simp [Run.negate, hr] at h
  · simpa [Run.negate, Run.reject, hr, eq_comm] using h
  · simp [Run.negate, hr] at h

/-- A failing `contains` leaves its own violation and nothing of the elements that were tried. -/
theorem Node.contains_records {body : Node} {site : ErrorSite}
    (h : (Node.contains body site).run (p.call failFast budget) failFast l errors =
      some (false, after)) : after = errors ++ [site.about l l.value] := by
  have ha : Run.Appends (Run.untilPass
      ((elementsFrom l 0).map (body.run (p.call failFast budget) failFast))) := by
    refine Run.untilPass_appends fun r hr => ?_
    obtain ⟨e, _, rfl⟩ := List.mem_map.mp hr
    exact (body.run_faithful p failFast budget e).appends
  rw [run_contains] at h
  split at h
  -- what is not an array passes, so that the data is one
  · simp only [Run.someOf] at h
    split at h
    · exact absurd h (by simp)
    · next found rest hu =>
      obtain ⟨new, _, rfl⟩ := (ha.eq_some errors).mp hu
      cases found <;> simp [Run.reject] at h
      exact h.symm
  · simp [Run.done] at h

/-- A failing `if` leaves what the branch that counts recorded and its own violation; what the
    condition recorded is gone, whether or not it matched. -/
theorem Node.ifThenElse_records {condition thenBranch elseBranch : Node} {site : ErrorSite}
    (h : (Node.ifThenElse condition thenBranch elseBranch site).run (p.call failFast budget) failFast l
      errors = some (false, after)) :
    ∃ branch keyword recorded,
      ((branch = thenBranch ∧ keyword = "then") ∨ (branch = elseBranch ∧ keyword = "else")) ∧
      branch.run (p.call failFast budget) failFast l errors = some (false, recorded) ∧
      after = recorded ++ [branchViolation site l keyword] := by
  have hnote : ∀ (n : Node) (e : Violation),
      Run.noting e (n.run (p.call failFast budget) failFast l) errors = some (false, after) →
      ∃ recorded, n.run (p.call failFast budget) failFast l errors = some (false, recorded) ∧
        after = recorded ++ [e] := by
    intro n e hn
    simp only [Run.noting] at hn
    split at hn
    · exact absurd hn (by simp)
    · exact absurd hn (by simp)
    · next recorded hr =>
      simp only [Option.some.injEq, Prod.mk.injEq, true_and] at hn
      exact ⟨recorded, hr, hn.symm⟩
  rw [run_ifThenElse] at h
  rcases (condition.run_faithful p failFast budget l).cases with hr | hr | ⟨new, _, hr⟩
  · simp [Run.branch, hr] at h
  · simp only [Run.branch, hr, if_true, List.take_length] at h
    obtain ⟨recorded, hrun, hafter⟩ := hnote _ _ h
    exact ⟨thenBranch, "then", recorded, Or.inl ⟨rfl, rfl⟩, hrun, hafter⟩
  · simp only [Run.branch, hr, Bool.false_eq_true, if_false, List.take_left] at h
    obtain ⟨recorded, hrun, hafter⟩ := hnote _ _ h
    exact ⟨elseBranch, "else", recorded, Or.inr ⟨rfl, rfl⟩, hrun, hafter⟩

/-- **The list of violations tells the verdict.**  A run that ends leaves the list as it was exactly if
    it passes, and appends to it exactly if it fails; so a refusal always has a violation to show.
    Whatever `not`, `contains` and `if` try on the way leaves nothing behind. -/
theorem violations_recorded_iff_failed :
    (∀ (p : Program) (failFast : Bool) (budget : Nat) (n : Node) (l : Location)
      (errors after : List Violation) (valid : Bool),
      n.run (p.call failFast budget) failFast l errors = some (valid, after) →
      (valid = true ↔ after = errors) ∧
        (valid = false → ∃ new, new ≠ [] ∧ after = errors ++ new)) ∧
    (∀ (p : Program) (failFast : Bool) (budget : Nat) (l : Location) (errors after : List Violation)
      (body condition thenBranch elseBranch : Node) (site : ErrorSite),
      ((Node.not body site).run (p.call failFast budget) failFast l errors = some (false, after) →
        after = errors ++ [site.about l l.value]) ∧
      ((Node.contains body site).run (p.call failFast budget) failFast l errors = some (false, after) →
        after = errors ++ [site.about l l.value]) ∧
      ((Node.ifThenElse condition thenBranch elseBranch site).run (p.call failFast budget) failFast l
          errors = some (false, after) →
        ∃ branch keyword recorded,
          ((branch = thenBranch ∧ keyword = "then") ∨ (branch = elseBranch ∧ keyword = "else")) ∧
          branch.run (p.call failFast budget) failFast l errors = some (false, recorded) ∧
          after = recorded ++ [Node.branchViolation site l keyword])) ∧
    ∀ (v : Validator) (data : Json), v.validate data ≠ .invalid [] := by
  refine ⟨fun p failFast budget n l errors after valid h => Node.run_records h,
    fun p failFast budget l errors after body condition thenBranch elseBranch site =>
      ⟨Node.not_records, Node.contains_records, Node.ifThenElse_records⟩, fun v data h => ?_⟩
  simp only [Validator.validate] at h
  split at h
  · exact absurd h (by simp)
  · next errors hrun =>
    obtain ⟨new, hne, hnew⟩ := (Node.run_records hrun).2 rfl
    simp only [Verdict.invalid.injEq] at h
    exact hne (by simpa [h] using hnew.symm)
  · exact absurd h (by simp)

/-- How many violations a verdict lists, if it is one that lists them. -/
def Verdict.count? : Verdict → Option Nat
  | .invalid violations => some violations.length
  | _ => none

/-- Of a validator that can be made, what it lists is known from how much it lists. -/
theorem exists_invalid {ε : Type} {made : Except ε Validator} {data : Json} {n : Nat}
    (h : (made.toOption.bind fun v => (v.validate data).count?) = some n) :
    ∃ validator violations, made = .ok validator ∧ validator.validate data = .invalid violations ∧
      violations.length = n := by
  obtain ⟨validator, hmade, hcount⟩ := Option.bind_eq_some_iff.mp h
  cases made with
  | error e => cases hmade
  | ok v =>
    obtain rfl := Option.some.inj hmade
    cases hverdict : v.validate data with
    | invalid violations =>
      rw [hverdict] at hcount
      exact ⟨v, violations, rfl, hverdict, Option.some.inj hcount⟩
    | _ =>
      rw [hverdict] at hcount
      cases hcount

end JsonSchema
