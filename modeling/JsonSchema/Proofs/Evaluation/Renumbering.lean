import JsonSchema.Proofs.Evaluation.Termination

/-!
# Other numbers for procedures

A node does not know what its calls mean, so with other numbers it runs as it does with these numbers
called (`Node.run_renumber`).  **A program runs like another if its procedures are among the other's,
under other numbers** (`Program.Renumbered.call_eq`); several of them may be the same one there.
-/

set_option autoImplicit false

namespace JsonSchema

/-! ## Nodes -/

namespace Node

mutual

/-- A node with other numbers for the procedures that it calls. -/
def renumber (f : Nat → Nat) : Node → Node
  | pass => pass
  | all nodes => all (renumberEach f nodes)
  | reject site => reject site
  | guard group body => guard group (renumber f body)
  | type types site => type types site
  | check c => check c
  | call procedure => call (f procedure)
  | descend step body => descend step (renumber f body)
  | items start body => items start (renumber f body)
  | properties filter body => properties filter (renumber f body)
  | noProperties filter site => noProperties filter site
  | propertyNames body site => propertyNames (renumber f body) site
  | ifPresent name body => ifPresent name (renumber f body)
  | contains body site => contains (renumber f body) site
  | anyOf branches site => anyOf (renumberEach f branches) site
  | oneOf branches site => oneOf (renumberEach f branches) site
  | not body site => not (renumber f body) site
  | ifThenElse condition thenBranch elseBranch site =>
    ifThenElse (renumber f condition) (renumber f thenBranch) (renumber f elseBranch) site

def renumberEach (f : Nat → Nat) : List Node → List Node
  | [] => []
  | n :: rest => renumber f n :: renumberEach f rest

end

variable (f : Nat → Nat)

theorem renumberEach_eq_map (nodes : List Node) : renumberEach f nodes = nodes.map (renumber f) := by
  induction nodes with
  | nil => rfl
  | cons n rest ih => exact congrArg (renumber f n :: ·) ih

@[simp] theorem isPass_renumber (n : Node) : (n.renumber f).isPass = n.isPass := by
  cases n <;> rfl

theorem renumber_id (n : Node) : n.renumber id = n := by
  induction n using Node.induct with
  | all nodes ih =>
    rw [renumber, renumberEach_eq_map, List.map_congr_left ih, List.map_id']
  | anyOf branches site ih =>
    rw [renumber, renumberEach_eq_map, List.map_congr_left ih, List.map_id']
  | oneOf branches site ih =>
    rw [renumber, renumberEach_eq_map, List.map_congr_left ih, List.map_id']
  | _ => simp_all [renumber]

end Node

/-! ## Runs -/

/-- Runs that are made of the same runs are the same. -/
theorem Run.eq_congruence (failFast : Bool) : Run.Congruence Eq failFast failFast where
  pass := rfl
  reject _ := rfl
  noting h e := congrArg (noting e) h
  every h := congrArg (every failFast) (List.forall₂_eq_eq_eq ▸ h)
  negate h e := congrArg (negate e) h
  someOf h e := congrArg (someOf e) (List.forall₂_eq_eq_eq ▸ h)
  anyOf h e := congrArg (anyOf e) (List.forall₂_eq_eq_eq ▸ h)
  oneOf h e := congrArg (oneOf e) (List.forall₂_eq_eq_eq ▸ h)
  branch hc ht he := by rw [hc, ht, he]

/-- A node with other numbers runs as the node does with these numbers called. -/
theorem Node.run_renumber (call : Nat → Location → Run) (failFast : Bool) (f : Nat → Nat) (n : Node) :
    ∀ l, (n.renumber f).run call failFast l = n.run (fun i => call (f i)) failFast l := by
  have hmap : ∀ {ns : List Node} {l : Location},
      (∀ n ∈ ns, ∀ l, (n.renumber f).run call failFast l = n.run (fun i => call (f i)) failFast l) →
      (ns.map (renumber f)).map (run call failFast · l) = ns.map (run (fun i => call (f i)) failFast · l) := by
    intro ns l h
    rw [List.map_map]
    exact List.map_congr_left fun n hn => h n hn l
  induction n using Node.induct with
  | all nodes ih =>
    intro l
    rw [renumber, run_all, run_all, renumberEach_eq_map, hmap ih]
  | anyOf branches site ih =>
    intro l
    rw [renumber, run_anyOf, run_anyOf, renumberEach_eq_map, hmap ih]
  | oneOf branches site ih =>
    intro l
    rw [renumber, run_oneOf, run_oneOf, renumberEach_eq_map, hmap ih]
  | guard group body ih =>
    intro l
    rw [renumber, run_guard, run_guard, ih]
  | descend step body ih =>
    intro l
    rw [renumber, run_descend, run_descend]
    simp only [ih]
  | items start body ih =>
    intro l
    rw [renumber, run_items, run_items]
    simp only [funext ih]
  | properties filter body ih =>
    intro l
    rw [renumber, run_properties, run_properties]
    simp only [ih]
  | propertyNames body site ih =>
    intro l
    rw [renumber, run_propertyNames, run_propertyNames]
    simp only [ih]
  | ifPresent name body ih =>
    intro l
    rw [renumber, run_ifPresent, run_ifPresent, ih]
  | contains body site ih =>
    intro l
    rw [renumber, run_contains, run_contains]
    simp only [funext ih]
  | not body site ih =>
    intro l
    rw [renumber, run_not, run_not, ih]
  | ifThenElse condition thenBranch elseBranch site ihc iht ihe =>
    intro l
    rw [renumber, run_ifThenElse, run_ifThenElse, ihc, iht, ihe]
  | _ => exact fun _ => by rw [renumber, run, run]

namespace Program

/-- Every procedure of the first program is one of the second, under the number that `f` gives. -/
def Renumbered (p q : Program) (f : Nat → Nat) : Prop :=
  ∀ i body, p.procedures[i]? = some body → q.procedures[f i]? = some (body.renumber f)

/-- **Under other numbers, procedures do the same.** -/
theorem Renumbered.call_eq {p q : Program} {f : Nat → Nat} (h : p.Renumbered q f) (closed : p.Closed)
    (failFast : Bool) : ∀ budget i l, i < p.procedures.length →
      q.call failFast budget (f i) l = p.call failFast budget i l := by
  intro budget
  induction budget with
  | zero => exact fun _ _ _ => rfl
  | succ budget ih =>
    intro i l hi
    have hbody := List.getElem?_eq_getElem hi
    rw [call, call, h i _ hbody, hbody]
    dsimp only
    rw [Node.run_renumber]
    refine Node.run_congr (Run.eq_congruence failFast) _ l fun j l' hcall => ih j l' ?_
    rcases hcall.reachesFrom with ⟨hr, -⟩ | ⟨hr, -⟩
    · exact closed.bodies (List.getElem_mem hi) hr
    · exact closed.bodies (List.getElem_mem hi) hr

end Program

end JsonSchema
