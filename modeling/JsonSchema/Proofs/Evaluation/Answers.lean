import JsonSchema.Proofs.Evaluation.Interchange

/-!
# Runs with the same answer

Two runs have the same answer if neither ends, or both end with the same verdict, whatever was recorded
before in the one and in the other (`Run.SameAnswer`).  Every call of a program has the same answer as
itself, also one that does not end, so that a node can be compared with another that calls the same
procedures.

**A node answers the same wherever its violations are reported** (`Node.SameAnswer`): the relation asks
nothing of sites, and what keywords build of nodes keeps it.  So do programs with such roots over the same
procedures (`Program.run_sameAnswer`).
-/

set_option autoImplicit false

namespace JsonSchema

/-! ## Runs -/

namespace Run

/-- Neither run ends, or both end with the same verdict, whatever was recorded before. -/
def SameAnswer (r r' : Run) : Prop :=
  ∀ errors errors', (r errors).map Prod.fst = (r' errors').map Prod.fst

namespace SameAnswer

variable {r r' c c' t t' e e' : Run} {rs rs' : List Run} {failFast : Bool}

theorem cases (h : SameAnswer r r') (errors errors' : List Violation) :
    (r errors = none ∧ r' errors' = none) ∨
      ∃ valid after after', r errors = some (valid, after) ∧ r' errors' = some (valid, after') := by
  have hsame := h errors errors'
  cases hr : r errors with
  | none =>
    rw [hr] at hsame
    exact .inl ⟨rfl, Option.map_eq_none_iff.mp hsame.symm⟩
  | some result =>
    obtain ⟨valid, after⟩ := result
    rw [hr, Option.map_some] at hsame
    obtain ⟨⟨valid', after'⟩, hr', rfl⟩ := Option.map_eq_some_iff.mp hsame.symm
    exact .inr ⟨valid', after, after', rfl, hr'⟩

theorem stuck : SameAnswer Run.stuck Run.stuck := fun _ _ => rfl

theorem done (valid : Bool) : SameAnswer (Run.done valid) (Run.done valid) := fun _ _ => rfl

theorem reject (v v' : Violation) : SameAnswer (Run.reject v) (Run.reject v') := fun _ _ => rfl

theorem noting (h : SameAnswer r r') (v v' : Violation) : SameAnswer (noting v r) (noting v' r') := by
  intro errors errors'
  unfold Run.noting
  rcases h.cases errors errors' with ⟨hr, hr'⟩ | ⟨valid, after, after', hr, hr'⟩
  · rw [hr, hr']
  · rw [hr, hr']
    cases valid <;> rfl

theorem negate (h : SameAnswer r r') (v v' : Violation) : SameAnswer (negate v r) (negate v' r') := by
  intro errors errors'
  unfold Run.negate
  rcases h.cases errors errors' with ⟨hr, hr'⟩ | ⟨valid, after, after', hr, hr'⟩
  · rw [hr, hr']
  · rw [hr, hr']
    cases valid <;> rfl

theorem branch (hc : SameAnswer c c') (ht : SameAnswer t t') (he : SameAnswer e e') :
    SameAnswer (branch c t e) (branch c' t' e') := by
  intro errors errors'
  unfold Run.branch
  rcases hc.cases errors errors' with ⟨hr, hr'⟩ | ⟨valid, after, after', hr, hr'⟩
  · rw [hr, hr']
  · rw [hr, hr']
    cases valid with
    | true => exact ht _ _
    | false => exact he _ _

/-! ### Lists of runs -/

theorem every (h : List.Forall₂ SameAnswer rs rs') :
    SameAnswer (every failFast rs) (every failFast rs') := by
  induction h with
  | nil => exact fun _ _ => rfl
  | @cons r r' rest rest' h _ ih =>
    intro errors errors'
    rw [Run.every, Run.every]
    rcases h.cases errors errors' with ⟨hr, hr'⟩ | ⟨valid, after, after', hr, hr'⟩
    · rw [hr, hr']
    · rw [hr, hr']
      cases valid with
      | true => exact ih after after'
      | false =>
        dsimp only
        cases failFast with
        | true => rfl
        | false =>
          rcases ih.cases after after' with ⟨hrest, hrest'⟩ | ⟨_, _, _, hrest, hrest'⟩ <;> simp [hrest, hrest']

theorem untilPass (h : List.Forall₂ SameAnswer rs rs') : SameAnswer (untilPass rs) (untilPass rs') := by
  induction h with
  | nil => exact fun _ _ => rfl
  | @cons r r' rest rest' h _ ih =>
    intro errors errors'
    rw [Run.untilPass, Run.untilPass]
    rcases h.cases errors errors' with ⟨hr, hr'⟩ | ⟨valid, after, after', hr, hr'⟩
    · rw [hr, hr']
    · rw [hr, hr']
      cases valid with
      | true => rfl
      | false => exact ih after after'

theorem someOf (h : List.Forall₂ SameAnswer rs rs') (v v' : Violation) :
    SameAnswer (someOf v rs) (someOf v' rs') := by
  intro errors errors'
  unfold Run.someOf
  rcases (untilPass h).cases errors errors' with ⟨hr, hr'⟩ | ⟨valid, after, after', hr, hr'⟩
  · rw [hr, hr']
  · rw [hr, hr']
    cases valid <;> rfl

theorem anyOf (h : List.Forall₂ SameAnswer rs rs') (v v' : Violation) :
    SameAnswer (anyOf v rs) (anyOf v' rs') := by
  intro errors errors'
  unfold Run.anyOf
  rcases (untilPass h).cases errors errors' with ⟨hr, hr'⟩ | ⟨valid, after, after', hr, hr'⟩
  · rw [hr, hr']
  · rw [hr, hr']
    cases valid <;> rfl

/-- The runs that pass have the same numbers. -/
theorem passing (h : List.Forall₂ SameAnswer rs rs') : ∀ found number errors errors',
    (passing found number rs errors).map Prod.fst = (Run.passing found number rs' errors').map Prod.fst := by
  induction h with
  | nil => exact fun _ _ _ _ => rfl
  | @cons r r' rest rest' h _ ih =>
    intro found number errors errors'
    rw [Run.passing, Run.passing]
    rcases h.cases errors errors' with ⟨hr, hr'⟩ | ⟨valid, after, after', hr, hr'⟩
    · rw [hr, hr']
    · rw [hr, hr']
      cases valid with
      | true =>
        dsimp only
        split
        · exact ih _ _ _ _
        · rfl
      | false => exact ih _ _ _ _

theorem oneOf (h : List.Forall₂ SameAnswer rs rs') (v v' : List Nat → Violation) :
    SameAnswer (oneOf v rs) (oneOf v' rs') := by
  intro errors errors'
  have hpassing := passing h [] 0 errors errors'
  unfold Run.oneOf
  revert hpassing
  cases Run.passing [] 0 rs errors with
  | none =>
    intro hpassing
    rw [Option.map_eq_none_iff.mp hpassing.symm]
  | some result =>
    obtain ⟨found, after⟩ := result
    intro hpassing
    obtain ⟨⟨found', after'⟩, hr', hfound⟩ := Option.map_eq_some_iff.mp hpassing.symm
    obtain rfl : found' = found := hfound
    rw [hr']
    -- one run passes, or none, or a second one as well
    rcases found' with _ | ⟨i, _ | ⟨j, rest⟩⟩ <;> rfl

/-- The combinators keep it. -/
theorem congruence (failFast : Bool) : Run.Congruence SameAnswer failFast failFast where
  pass := .done true
  reject v := .reject v v
  noting h v := h.noting v v
  every h := every h
  negate h v := h.negate v v
  someOf h v := someOf h v v
  anyOf h v := anyOf h v v
  oneOf h v := oneOf h v v
  branch hc ht he := hc.branch ht he

end SameAnswer

/-! ### Runs that pass -/

/-- The run can pass, from whatever was recorded before. -/
def Passes (r : Run) : Prop := ∃ errors after, r errors = some (true, after)

variable {r r' : Run} {rs : List Run} {failFast : Bool}

/-- What passes as a whole passes in each of its parts. -/
theorem Passes.of_every (h : (Run.every failFast rs).Passes) : ∀ r ∈ rs, r.Passes := by
  induction rs with
  | nil => exact fun _ hr => absurd hr List.not_mem_nil
  | cons r rest ih =>
    obtain ⟨errors, after, h⟩ := h
    rw [Run.every] at h
    cases hr : r errors with
    | none =>
      rw [hr] at h
      cases h
    | some result =>
      obtain ⟨valid, mid⟩ := result
      rw [hr] at h
      cases valid with
      | true => exact List.forall_mem_cons.mpr ⟨⟨errors, mid, hr⟩, ih ⟨mid, after, h⟩⟩
      | false =>
        -- a part that failed fails the whole, in either mode
        dsimp only at h
        split at h
        · cases h
        · obtain ⟨_, -, heq⟩ := Option.map_eq_some_iff.mp h
          cases heq

/-- A second way that cannot pass makes no difference to whether there is one. -/
theorem anyOf_pair_passes (v : Violation) (h : ¬ r'.Passes) (errors : List Violation) :
    (Run.anyOf v [r, r'] errors).map Prod.fst = some true ↔ (r errors).map Prod.fst = some true := by
  unfold Run.anyOf
  simp only [Run.untilPass]
  cases hr : r errors with
  | none => simp
  | some result =>
    obtain ⟨valid, mid⟩ := result
    cases valid with
    | true => simp
    | false =>
      dsimp only
      cases hr' : r' mid with
      | none => simp
      | some result =>
        obtain ⟨valid', after⟩ := result
        cases valid' with
        | true => exact absurd ⟨mid, after, hr'⟩ h
        | false => simp [Run.reject]

end Run

/-- A call answers the same whatever was recorded before. -/
theorem Program.call_sameAnswer (p : Program) (failFast : Bool) (budget i : Nat) (l : Location) :
    (p.call failFast budget i l).SameAnswer (p.call failFast budget i l) :=
  p.call_congr (Run.SameAnswer.congruence failFast) .stuck budget i l

/-! ## Nodes -/

/-- Wherever the nodes run, they have the same answer, if what they call does not depend on what was
    recorded; and they always pass alike. -/
structure Node.SameAnswer (n n' : Node) : Prop where
  isPass : n'.isPass = n.isPass
  run : ∀ (call : Nat → Location → Run) (failFast : Bool), (∀ i l, (call i l).SameAnswer (call i l)) →
    ∀ l, (Node.run call failFast n l).SameAnswer (Node.run call failFast n' l)

namespace Node.SameAnswer

variable {n n' : Node} {ns ns' : List Node} {call : Nat → Location → Run} {failFast : Bool}

theorem refl (n : Node) : n.SameAnswer n :=
  ⟨rfl, fun _ failFast hcall l => n.run_congr (Run.SameAnswer.congruence failFast) l fun i l' _ => hcall i l'⟩

theorem reject (site site' : ErrorSite) : SameAnswer (.reject site) (.reject site') :=
  ⟨rfl, fun _ _ _ _ => .reject _ _⟩

theorem type (types : List DataType) (site site' : ErrorSite) :
    SameAnswer (.type types site) (.type types site') := by
  refine ⟨rfl, fun call failFast _ l => ?_⟩
  rw [run_type, run_type]
  split
  · exact .done true
  · exact .reject _ _

/-- Checks that differ in their sites only. -/
theorem check (value : SchemaValue) (expects : List DataType) (fails : Json → Json → Bool)
    (site site' : ErrorSite) :
    SameAnswer (.check ⟨value, expects, fails, site⟩) (.check ⟨value, expects, fails, site'⟩) := by
  refine ⟨rfl, fun call failFast _ l errors errors' => ?_⟩
  have htest : ∀ v, ((Check.mk value expects fails site).test l v errors).map Prod.fst =
      ((Check.mk value expects fails site').test l v errors').map Prod.fst := by
    intro v
    unfold Check.test
    dsimp only
    split <;> rfl
  rw [Node.run, Node.run, Check.run, Check.run]
  cases value with
  | literal v => exact htest v
  | data r =>
    dsimp only
    cases r.resolve? l with
    | none => rfl
    | some v =>
      dsimp only
      split
      · exact htest v
      · rfl

theorem noProperties (filter : PropertyFilter) (site site' : ErrorSite) :
    SameAnswer (.noProperties filter site) (.noProperties filter site') := by
  refine ⟨rfl, fun call failFast _ l => ?_⟩
  rw [run_noProperties, run_noProperties]
  exact .every (forall₂_map fun m _ => .reject _ _)

/-- Lists of nodes with the same answers, one by one, have runs with the same answers. -/
theorem runs (h : List.Forall₂ SameAnswer ns ns') (hcall : ∀ i l, (call i l).SameAnswer (call i l))
    (l : Location) : List.Forall₂ Run.SameAnswer (ns.map (Node.run call failFast · l))
      (ns'.map (Node.run call failFast · l)) := by
  rw [List.forall₂_map_left_iff, List.forall₂_map_right_iff]
  exact h.imp fun _ _ h => h.run call failFast hcall l

/-- **Nodes that are built of nodes with the same answers answer the same**, whatever their sites are. -/
theorem congruence : Node.Congruence SameAnswer fun _ _ => True where
  isPass h := h.isPass
  constant _ := refl _
  guard h type := by
    refine ⟨rfl, fun call failFast hcall l => ?_⟩
    rw [run_guard, run_guard]
    split
    · exact h.run call failFast hcall l
    · exact .done true
  descend h step := by
    refine ⟨rfl, fun call failFast hcall l => ?_⟩
    rw [run_descend, run_descend]
    split
    · exact h.run call failFast hcall _
    · exact .done true
  items h start := by
    refine ⟨rfl, fun call failFast hcall l => ?_⟩
    rw [run_items, run_items]
    exact .every (forall₂_map fun e _ => h.run call failFast hcall e)
  properties h filter := by
    refine ⟨rfl, fun call failFast hcall l => ?_⟩
    rw [run_properties, run_properties]
    exact .every (forall₂_map fun m _ => h.run call failFast hcall m.2)
  propertyNames h _ := by
    refine ⟨rfl, fun call failFast hcall l => ?_⟩
    rw [run_propertyNames, run_propertyNames]
    exact .every (forall₂_map fun name _ => (h.run call failFast hcall name).noting _ _)
  ifPresent h name := by
    refine ⟨rfl, fun call failFast hcall l => ?_⟩
    rw [run_ifPresent, run_ifPresent]
    split
    · exact h.run call failFast hcall l
    · exact .done true
  contains h _ := by
    refine ⟨rfl, fun call failFast hcall l => ?_⟩
    rw [run_contains, run_contains]
    split
    · exact .someOf (forall₂_map fun e _ => h.run call failFast hcall e) _ _
    · exact .done true
  not h _ := by
    refine ⟨rfl, fun call failFast hcall l => ?_⟩
    rw [run_not, run_not]
    exact (h.run call failFast hcall l).negate _ _
  all h := by
    refine ⟨rfl, fun call failFast hcall l => ?_⟩
    rw [run_all, run_all]
    exact .every (runs h hcall l)
  anyOf h _ := by
    refine ⟨rfl, fun call failFast hcall l => ?_⟩
    rw [run_anyOf, run_anyOf]
    exact .anyOf (runs h hcall l) _ _
  oneOf h _ := by
    refine ⟨rfl, fun call failFast hcall l => ?_⟩
    rw [run_oneOf, run_oneOf]
    exact .oneOf (runs h hcall l) _ _
  ifThenElse hc ht he _ := by
    refine ⟨rfl, fun call failFast hcall l => ?_⟩
    rw [run_ifThenElse, run_ifThenElse]
    exact .branch (hc.run call failFast hcall l) ((ht.run call failFast hcall l).noting _ _)
      ((he.run call failFast hcall l).noting _ _)

end Node.SameAnswer

/-- **Programs whose roots answer the same, over the same procedures, answer the same.** -/
theorem Program.run_sameAnswer {p p' : Program} (hroot : p.root.SameAnswer p'.root)
    (hprocedures : p'.procedures = p.procedures) (failFast : Bool) (data : Json) :
    (p.run failFast data).map Prod.fst = (p'.run failFast data).map Prod.fst := by
  have hcall : p'.call failFast = p.call failFast := by
    funext budget i l
    induction budget generalizing i l with
    | zero => rfl
    | succ budget ih =>
      have hinner : p'.call failFast budget = p.call failFast budget := funext fun i => funext fun l => ih i l
      rw [Program.call, Program.call, hprocedures, hinner]
  have hbudget : p'.callBudget data = p.callBudget data := by
    unfold Program.callBudget
    rw [hprocedures]
  unfold Program.run
  rw [hcall, hbudget]
  exact hroot.run _ failFast (p.call_sameAnswer failFast _) (.root data) [] []

end JsonSchema
