import JsonSchema.Program.Evaluation
import Mathlib.Data.List.Forall2

/-!
# Evaluation, combinator by combinator

`Node.run` writes what a node does to the violations of its parts as nested matches.  This file gives
those matches names: nine combinators on runs, which know nothing of nodes, locations or schemas, and
one equation for each node that says which of them it is.

What pays for the names is `Node.run_congr`.  A relation between two runs that every combinator keeps
(`Run.Congruence`) holds between the runs of one node under two ways of calling procedures, in two
modes, as soon as it holds between the calls the node can make.  **Every statement about all programs
is an instance of it**: what a run records, what the mode changes, what a larger budget changes, and
when a run ends.  The induction over the node tree is done here and nowhere else.
-/

set_option autoImplicit false

namespace JsonSchema

/-! ## The combinators -/

namespace Run

/-- A run that does not end. -/
def stuck : Run := fun _ => none

/-- Fails with one violation. -/
def reject (e : Violation) : Run := fun errors => some (false, errors ++ [e])

/-- Adds a violation of its own when `r` fails. -/
def noting (e : Violation) (r : Run) : Run := fun errors =>
  match r errors with
  | none => none
  | some (true, errors) => some (true, errors)
  | some (false, errors) => some (false, errors ++ [e])

/-- Fails with one violation when `r` passes; what `r` recorded is taken back. -/
def negate (e : Violation) (r : Run) : Run := fun errors =>
  match r errors with
  | none => none
  | some (matched, after) =>
    if matched then reject e (after.take errors.length) else some (true, after.take errors.length)

/-- Fails with one violation when no run passes; what they recorded is taken back. -/
def someOf (e : Violation) (rs : List Run) : Run := fun errors =>
  match untilPass rs errors with
  | none => none
  | some (found, after) =>
    if found then some (true, after.take errors.length) else reject e (after.take errors.length)

/-- Fails when no run passes, with all that they recorded and one violation more. -/
def anyOf (e : Violation) (rs : List Run) : Run := fun errors =>
  match untilPass rs errors with
  | none => none
  | some (true, after) => some (true, after.take errors.length)
  | some (false, after) => reject e after

/-- Passes when exactly one run does; else the violation lists the runs that passed. -/
def oneOf (e : List Nat → Violation) (rs : List Run) : Run := fun errors =>
  match passing [] 0 rs errors with
  | none => none
  | some ([_], after) => some (true, after.take errors.length)
  | some (found, after) => reject (e found) after

/-- Goes on with one of two runs; what the condition recorded is taken back. -/
def branch (c t e : Run) : Run := fun errors =>
  match c errors with
  | none => none
  | some (matched, after) =>
    if matched then t (after.take errors.length) else e (after.take errors.length)

end Run

/-! ## What each node is -/

namespace ErrorSite

/-- The violation that `record` adds. -/
def violation (site : ErrorSite) (l : Location) (params : Json) (message : String) : Violation :=
  ⟨site.keyword, l.dataPath, site.schemaPath, params, message⟩

/-- The violation that `report` adds. -/
def about (site : ErrorSite) (l : Location) (data : Json) : Violation :=
  site.violation l (site.text.params site.schema data) (site.text.message site.schema data)

end ErrorSite

/-- A check passes or fails with one violation, reported at its site; its reference, if it has one, is
    read without running anything. -/
theorem Check.run_cases (c : Check) (l : Location) :
    c.run l = Run.done true ∨
      ∃ params message, c.run l = Run.reject (c.site.violation l params message) := by
  have htest : ∀ v, c.test l v = Run.done true ∨
      ∃ params message, c.test l v = Run.reject (c.site.violation l params message) := by
    intro v
    by_cases hf : c.fails l.value v
    · refine Or.inr ⟨c.site.text.params v l.value, c.site.text.message v l.value, ?_⟩
      funext errors
      simp only [test, hf, if_true]
      rfl
    · refine Or.inl ?_
      funext errors
      simp [test, hf, Run.done]
  cases hv : c.value with
  | literal v =>
    have heq : c.run l = c.test l v := by funext errors; simp only [Check.run, hv]
    rw [heq]
    exact htest v
  | data r =>
    cases hr : r.resolve? l with
    | none =>
      refine Or.inl ?_
      funext errors
      simp only [Check.run, hv, hr]
      rfl
    | some v =>
      by_cases ht : DataType.anyAccepts c.expects v
      · have heq : c.run l = c.test l v := by funext errors; simp only [Check.run, hv, hr, ht, if_true]
        rw [heq]
        exact htest v
      · refine Or.inr ⟨.obj [("$data", r.pointer)],
          s!"{c.site.keyword} value from $data should be {DataType.listText c.expects}", ?_⟩
        funext errors
        simp only [Check.run, hv, hr, ht]
        rfl

namespace Node

variable (call : Nat → Location → Run) (failFast : Bool)

theorem runs_eq_map (nodes : List Node) (l : Location) :
    runs call failFast nodes l = nodes.map (run call failFast · l) := by
  induction nodes with
  | nil => rfl
  | cons n rest ih => exact congrArg (run call failFast n l :: ·) ih

theorem run_pass (l : Location) : run call failFast .pass l = Run.done true := rfl

theorem run_all (nodes : List Node) (l : Location) :
    run call failFast (.all nodes) l =
      Run.every failFast (nodes.map (run call failFast · l)) :=
  congrArg (Run.every failFast) (runs_eq_map call failFast nodes l)

theorem run_reject (site : ErrorSite) (l : Location) :
    run call failFast (.reject site) l = Run.reject (site.about l l.value) :=
  rfl

theorem run_guard (group : DataType) (body : Node) (l : Location) :
    run call failFast (.guard group body) l =
      if group.accepts l.value then run call failFast body l else Run.done true :=
  rfl

theorem run_type (types : List DataType) (site : ErrorSite) (l : Location) :
    run call failFast (.type types site) l =
      if types.any (·.accepts l.value) then Run.done true
      else Run.reject (site.about l l.value) :=
  rfl

theorem run_descend (step : Step) (body : Node) (l : Location) :
    run call failFast (.descend step body) l =
      match step.child? l.value with
      | some v => run call failFast body (.child l step v)
      | none => Run.done true :=
  rfl

/-- The elements of the data from a number on, as locations; none if it is no array. -/
def elementsFrom (l : Location) (start : Nat) : List Location :=
  match l.value with
  | .arr vs => l.elements start (vs.drop start)
  | _ => []

/-- The names of the data's members, as locations in place of the data; none if it is no object. -/
def namesOf (l : Location) : List Location :=
  match l.value with
  | .obj members => members.map fun m => l.withValue (.str m.1)
  | _ => []

theorem run_items (start : Nat) (body : Node) (l : Location) :
    run call failFast (.items start body) l =
      Run.every failFast ((elementsFrom l start).map (run call failFast body)) := by
  show (match l.value with
    | .arr vs => Run.every failFast ((l.elements start (vs.drop start)).map (run call failFast body))
    | _ => Run.done true) = Run.every failFast (List.map _ (match l.value with | .arr vs => _ | _ => []))
  cases l.value <;> rfl

theorem run_properties (filter : PropertyFilter) (body : Node) (l : Location) :
    run call failFast (.properties filter body) l =
      Run.every failFast ((l.selected filter).map fun m => run call failFast body m.2) :=
  rfl

theorem run_noProperties (filter : PropertyFilter) (site : ErrorSite) (l : Location) :
    run call failFast (.noProperties filter site) l =
      Run.every failFast ((l.selected filter).map fun m => Run.reject (site.about l (.str m.1))) :=
  rfl

theorem run_propertyNames (body : Node) (site : ErrorSite) (l : Location) :
    run call failFast (.propertyNames body site) l =
      Run.every failFast ((namesOf l).map fun name =>
        Run.noting (site.about l name.value) (run call failFast body name)) := by
  have hv : ∀ v, (l.withValue v).value = v := fun v => by cases l <;> rfl
  rw [run, namesOf]
  cases l.value with
  | obj members =>
    simp only [List.map_map]
    congr 1
    refine List.map_congr_left fun m _ => ?_
    funext errors
    simp only [Function.comp_apply, Run.noting, hv]
    rfl
  | _ => rfl

theorem run_ifPresent (name : String) (body : Node) (l : Location) :
    run call failFast (.ifPresent name body) l =
      if (l.value.get? name).isSome then run call failFast body l else Run.done true :=
  rfl

theorem run_contains (body : Node) (site : ErrorSite) (l : Location) :
    run call failFast (.contains body site) l =
      if l.value.arr?.isSome then
        Run.someOf (site.about l l.value) ((elementsFrom l 0).map (run call failFast body))
      else Run.done true := by
  rw [run, elementsFrom]
  cases hv : l.value with
  | arr vs =>
    simp only [Json.arr?, Option.isSome_some, if_true, List.drop_zero]
    rw [← hv]
    rfl
  | _ => rfl

theorem run_anyOf (branches : List Node) (site : ErrorSite) (l : Location) :
    run call failFast (.anyOf branches site) l =
      Run.anyOf (site.about l l.value) (branches.map (run call failFast · l)) :=
  congrArg (Run.anyOf (site.about l l.value)) (runs_eq_map call failFast branches l)

/-- The violation of `oneOf`, which lists the branches that passed. -/
def oneOfViolation (site : ErrorSite) (l : Location) (found : List Nat) : Violation :=
  site.violation l
    (.obj [("passingSchemas",
      if found.isEmpty then .null else .arr (found.map fun i => .num (.ofNat i)))])
    (site.text.message site.schema l.value)

theorem run_oneOf (branches : List Node) (site : ErrorSite) (l : Location) :
    run call failFast (.oneOf branches site) l =
      Run.oneOf (oneOfViolation site l) (branches.map (run call failFast · l)) :=
  congrArg (Run.oneOf (oneOfViolation site l)) (runs_eq_map call failFast branches l)

theorem run_not (body : Node) (site : ErrorSite) (l : Location) :
    run call failFast (.not body site) l =
      Run.negate (site.about l l.value) (run call failFast body l) :=
  rfl

/-- The violation that names the branch of `if` that failed. -/
def branchViolation (site : ErrorSite) (l : Location) (keyword : String) : Violation :=
  site.violation l (.obj [("failingKeyword", keyword)]) s!"should match \"{keyword}\" schema"

theorem run_ifThenElse (condition thenBranch elseBranch : Node) (site : ErrorSite) (l : Location) :
    run call failFast (.ifThenElse condition thenBranch elseBranch site) l =
      Run.branch (run call failFast condition l)
        (Run.noting (branchViolation site l "then") (run call failFast thenBranch l))
        (Run.noting (branchViolation site l "else") (run call failFast elseBranch l)) := by
  rw [run]
  funext errors
  simp only [Run.branch]
  cases run call failFast condition l errors with
  | none => rfl
  | some result =>
    obtain ⟨matched, after⟩ := result
    cases matched <;> rfl

end Node

end JsonSchema
