import JsonSchema.Proofs.Evaluation.Combinators

/-!
# One induction for all programs

`Run.Congruence R m m'` says that the combinators keep the relation `R` between a run in mode `m` and a
run in mode `m'`.  `Node.run_congr` then lifts `R` from the calls of a node to the node, and
`Program.call_congr` from a budget of nothing to every budget.

The hypothesis about calls is as weak as the node allows: `Node.Calls` lists the calls that a node can
make at a location, whatever the checks on the way decide, so a user who knows something of *those*
calls only can still use the lemma.
-/

set_option autoImplicit false

namespace JsonSchema

/-! ## Induction on nodes -/

/-- Induction on a node with its lists of branches read as sets of parts. -/
@[elab_as_elim]
theorem Node.induct {motive : Node → Prop}
    (pass : motive .pass)
    (all : ∀ nodes, (∀ n ∈ nodes, motive n) → motive (.all nodes))
    (reject : ∀ site, motive (.reject site))
    (guard : ∀ group body, motive body → motive (.guard group body))
    (type : ∀ types site, motive (.type types site))
    (check : ∀ c, motive (.check c))
    (call : ∀ procedure, motive (.call procedure))
    (descend : ∀ step body, motive body → motive (.descend step body))
    (items : ∀ start body, motive body → motive (.items start body))
    (properties : ∀ filter body, motive body → motive (.properties filter body))
    (noProperties : ∀ filter site, motive (.noProperties filter site))
    (propertyNames : ∀ body site, motive body → motive (.propertyNames body site))
    (ifPresent : ∀ name body, motive body → motive (.ifPresent name body))
    (contains : ∀ body site, motive body → motive (.contains body site))
    (anyOf : ∀ branches site, (∀ n ∈ branches, motive n) → motive (.anyOf branches site))
    (oneOf : ∀ branches site, (∀ n ∈ branches, motive n) → motive (.oneOf branches site))
    (not : ∀ body site, motive body → motive (.not body site))
    (ifThenElse : ∀ condition thenBranch elseBranch site, motive condition → motive thenBranch →
      motive elseBranch → motive (.ifThenElse condition thenBranch elseBranch site))
    (n : Node) : motive n :=
  @Node.rec motive (fun nodes => ∀ n ∈ nodes, motive n)
    pass all reject guard type check call descend items properties noProperties propertyNames
    ifPresent contains anyOf oneOf not ifThenElse
    (fun _ hn => absurd hn List.not_mem_nil)
    (fun _ _ hhead hrest n hn => by
      rcases List.mem_cons.mp hn with rfl | hn
      · exact hhead
      · exact hrest n hn)
    n

/-! ## The calls a node can make -/

/-- `n.Calls l i l'`: run at `l`, the node can call procedure `i` at `l'`. -/
inductive Node.Calls : Node → Location → Nat → Location → Prop where
  | call (i : Nat) (l : Location) : Calls (.call i) l i l
  | all {nodes n l i l'} : n ∈ nodes → Calls n l i l' → Calls (.all nodes) l i l'
  | guard {group body l i l'} : group.accepts l.value = true → Calls body l i l' →
      Calls (.guard group body) l i l'
  | descend {step body l v i l'} : step.child? l.value = some v → Calls body (.child l step v) i l' →
      Calls (.descend step body) l i l'
  | items {start body l e i l'} : e ∈ Node.elementsFrom l start → Calls body e i l' →
      Calls (.items start body) l i l'
  | properties {filter body l m i l'} : m ∈ l.selected filter → Calls body m.2 i l' →
      Calls (.properties filter body) l i l'
  | propertyNames {body site l name i l'} : name ∈ Node.namesOf l → Calls body name i l' →
      Calls (.propertyNames body site) l i l'
  | ifPresent {name body l i l'} : Calls body l i l' → Calls (.ifPresent name body) l i l'
  | contains {body site l e i l'} : e ∈ Node.elementsFrom l 0 → Calls body e i l' →
      Calls (.contains body site) l i l'
  | anyOf {branches site n l i l'} : n ∈ branches → Calls n l i l' →
      Calls (.anyOf branches site) l i l'
  | oneOf {branches site n l i l'} : n ∈ branches → Calls n l i l' →
      Calls (.oneOf branches site) l i l'
  | not {body site l i l'} : Calls body l i l' → Calls (.not body site) l i l'
  | condition {c t e site l i l'} : Calls c l i l' → Calls (.ifThenElse c t e site) l i l'
  | thenBranch {c t e site l i l'} : Calls t l i l' → Calls (.ifThenElse c t e site) l i l'
  | elseBranch {c t e site l i l'} : Calls e l i l' → Calls (.ifThenElse c t e site) l i l'

/-! ## Relations that the combinators keep -/

/-- The combinators keep `R`, on the left in mode `m` and on the right in mode `m'`. -/
structure Run.Congruence (R : Run → Run → Prop) (m m' : Bool) : Prop where
  pass : R (done true) (done true)
  reject : ∀ e, R (reject e) (reject e)
  noting : ∀ {r r'}, R r r' → ∀ e, R (noting e r) (noting e r')
  every : ∀ {rs rs'}, List.Forall₂ R rs rs' → R (every m rs) (every m' rs')
  negate : ∀ {r r'}, R r r' → ∀ e, R (negate e r) (negate e r')
  someOf : ∀ {rs rs'}, List.Forall₂ R rs rs' → ∀ e, R (someOf e rs) (someOf e rs')
  anyOf : ∀ {rs rs'}, List.Forall₂ R rs rs' → ∀ e, R (anyOf e rs) (anyOf e rs')
  oneOf : ∀ {rs rs'}, List.Forall₂ R rs rs' → ∀ e, R (oneOf e rs) (oneOf e rs')
  branch : ∀ {c c' t t' e e'}, R c c' → R t t' → R e e' → R (branch c t e) (branch c' t' e')

/-- Two readings of one list are related when the readings of each entry are. -/
theorem forall₂_map {α β : Type} {R : β → β → Prop} {f g : α → β} {xs : List α}
    (h : ∀ x ∈ xs, R (f x) (g x)) : List.Forall₂ R (xs.map f) (xs.map g) := by
  rw [List.forall₂_map_left_iff, List.forall₂_map_right_iff, List.forall₂_same]
  exact h

/-- The members on the left of related lists have what the relation says of its left side. -/
theorem forall_mem_of_forall₂ {α β : Type} {P : α → Prop} {xs : List α} {ys : List β}
    (h : List.Forall₂ (fun x _ => P x) xs ys) : ∀ x ∈ xs, P x := by
  induction h with
  | nil => exact fun _ hx => absurd hx List.not_mem_nil
  | cons h _ ih => exact List.forall_mem_cons.mpr ⟨h, ih⟩

variable {R : Run → Run → Prop} {m m' : Bool} {call call' : Nat → Location → Run}

/-- **The induction over nodes.**  A relation that the combinators keep holds between the runs of a
    node if it holds between the calls the node can make. -/
theorem Node.run_congr (C : Run.Congruence R m m') (n : Node) :
    ∀ l, (∀ i l', n.Calls l i l' → R (call i l') (call' i l')) →
      R (n.run call m l) (n.run call' m' l) := by
  induction n using Node.induct with
  | pass =>
    intro l _
    rw [run_pass, run_pass]
    exact C.pass
  | all nodes ih =>
    intro l h
    rw [run_all, run_all]
    exact C.every (forall₂_map fun n hn => ih n hn l fun i l' hc => h i l' (.all hn hc))
  | reject site =>
    intro l _
    rw [run_reject, run_reject]
    exact C.reject _
  | guard group body ih =>
    intro l h
    rw [run_guard, run_guard]
    by_cases hg : group.accepts l.value
    · rw [if_pos hg, if_pos hg]
      exact ih l fun i l' hc => h i l' (.guard hg hc)
    · rw [if_neg hg, if_neg hg]
      exact C.pass
  | type types site =>
    intro l _
    rw [run_type, run_type]
    split
    · exact C.pass
    · exact C.reject _
  | check c =>
    intro l _
    have heq : ∀ call m, run call m (.check c) l = c.run l := fun _ _ => by rw [run]
    rw [heq, heq]
    -- a check runs nothing, in either mode
    rcases c.run_cases l with hc | ⟨params, message, hc⟩ <;> rw [hc]
    · exact C.pass
    · exact C.reject _
  | call procedure =>
    intro l h
    have heq : ∀ call m, run call m (.call procedure) l = call procedure l := fun _ _ => by rw [run]
    rw [heq, heq]
    exact h procedure l (.call procedure l)
  | descend step body ih =>
    intro l h
    rw [run_descend, run_descend]
    cases hv : step.child? l.value with
    | none => exact C.pass
    | some v => exact ih _ fun i l' hc => h i l' (.descend hv hc)
  | items start body ih =>
    intro l h
    rw [run_items, run_items]
    exact C.every (forall₂_map fun e he => ih e fun i l' hc => h i l' (.items he hc))
  | properties filter body ih =>
    intro l h
    rw [run_properties, run_properties]
    exact C.every (forall₂_map fun m hm => ih m.2 fun i l' hc => h i l' (.properties hm hc))
  | noProperties filter site =>
    intro l _
    rw [run_noProperties, run_noProperties]
    exact C.every (forall₂_map fun m _ => C.reject _)
  | propertyNames body site ih =>
    intro l h
    rw [run_propertyNames, run_propertyNames]
    exact C.every (forall₂_map fun name hn =>
      C.noting (ih name fun i l' hc => h i l' (.propertyNames hn hc)) _)
  | ifPresent name body ih =>
    intro l h
    rw [run_ifPresent, run_ifPresent]
    split
    · exact ih l fun i l' hc => h i l' (.ifPresent hc)
    · exact C.pass
  | contains body site ih =>
    intro l h
    rw [run_contains, run_contains]
    split
    · exact C.someOf (forall₂_map fun e he => ih e fun i l' hc => h i l' (.contains he hc)) _
    · exact C.pass
  | anyOf branches site ih =>
    intro l h
    rw [run_anyOf, run_anyOf]
    exact C.anyOf (forall₂_map fun n hn => ih n hn l fun i l' hc => h i l' (.anyOf hn hc)) _
  | oneOf branches site ih =>
    intro l h
    rw [run_oneOf, run_oneOf]
    exact C.oneOf (forall₂_map fun n hn => ih n hn l fun i l' hc => h i l' (.oneOf hn hc)) _
  | not body site ih =>
    intro l h
    rw [run_not, run_not]
    exact C.negate (ih l fun i l' hc => h i l' (.not hc)) _
  | ifThenElse condition thenBranch elseBranch site ihc iht ihe =>
    intro l h
    rw [run_ifThenElse, run_ifThenElse]
    exact C.branch (ihc l fun i l' hc => h i l' (.condition hc))
      (C.noting (iht l fun i l' hc => h i l' (.thenBranch hc)) _)
      (C.noting (ihe l fun i l' hc => h i l' (.elseBranch hc)) _)

/-- The calls of one program in two modes, under one budget, are related if nothing is related to
    nothing: a call without budget does not end. -/
theorem Program.call_congr (C : Run.Congruence R m m') (hstuck : R Run.stuck Run.stuck) (p : Program) :
    ∀ budget i l, R (p.call m budget i l) (p.call m' budget i l) := by
  intro budget
  induction budget with
  | zero =>
    intro i l
    rw [call, call]
    exact hstuck
  | succ budget ih =>
    intro i l
    rw [call, call]
    cases p.procedures[i]? with
    | none => exact C.pass
    -- the calls of the body have one call less to go
    | some body => exact body.run_congr C l fun i l' _ => ih i l'

/-! ## Properties that the combinators keep -/

variable {P : Run → Prop}

/-- `Node.run_congr` for a property of one run. -/
theorem Node.run_keeps (C : Run.Congruence (fun r _ => P r) m m) (n : Node) (l : Location)
    (h : ∀ i l', n.Calls l i l' → P (call i l')) : P (n.run call m l) :=
  @run_congr _ m m call call C n l h

/-- `Program.call_congr` for a property of one run. -/
theorem Program.call_keeps (C : Run.Congruence (fun r _ => P r) m m) (hstuck : P Run.stuck)
    (p : Program) (budget i : Nat) (l : Location) : P (p.call m budget i l) :=
  p.call_congr C hstuck budget i l

end JsonSchema
