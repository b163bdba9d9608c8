import JsonSchema.Proofs.Evaluation.CallBudget
import JsonSchema.Proofs.Evaluation.Interchange

/-!
# Programs with procedures that match

Two programs can have procedures in different orders, and each can have some that the other lacks.  The
first **matches** the second under numbers `f` if its root and the procedures that both have run alike once
the calls on the right are numbered by `f`, and the rest of the right one's procedures are numbered behind
the left one's (`Program.Matches`).

Then both do the same, in the mode in which the parts run alike (`Program.Matches.run_eq`).  The parts are
compared for every way of calling procedures, and the one that both programs share is `Program.callEither`:
the calls of the left one, followed by those of the right one.
-/

set_option autoImplicit false

namespace JsonSchema

/-- The first program has a root and procedures that run like those of the second in one mode, with the
    second one's calls numbered by `f`; what the second has beside is numbered behind. -/
structure Program.Matches (failFast : Bool) (f : Nat → Nat) (p q : Program) : Prop where
  root : p.root.SameIn failFast (q.root.renumber f)
  procedures : ∀ (j : Nat) (body' : Node), q.procedures[j]? = some body' →
    (∃ body, p.procedures[f j]? = some body ∧ body.SameIn failFast (body'.renumber f)) ∨
      f j = p.procedures.length + j

namespace Program

variable {failFast : Bool} {f : Nat → Nat} {p q : Program}

/-- Closed programs whose roots run alike under every budget of calls do the same. -/
theorem run_eq_of_budgets (hp : p.Closed) (hq : q.Closed) {data : Json}
    (h : ∀ budget, p.root.run (p.call failFast budget) failFast (.root data) [] =
      q.root.run (q.call failFast budget) failFast (.root data) []) :
    p.run failFast data = q.run failFast data := by
  refine Option.ext fun result => ⟨fun hresult => ?_, fun hresult => ?_⟩
  · exact q.run_eq_of_ends hq ((h (p.callBudget data)).symm.trans hresult)
  · exact p.run_eq_of_ends hp ((h (q.callBudget data)).trans hresult)

/-- The calls of both programs, those of the second behind those of the first. -/
def callEither (p q : Program) (failFast : Bool) (budget : Nat) : Nat → Location → Run := fun i =>
  if i < p.procedures.length then p.call failFast budget i
  else q.call failFast budget (i - p.procedures.length)

namespace Matches

/-- Nodes of the two programs run alike if the calls on the right are matched. -/
theorem node_run_eq {budget : Nat} {n n' : Node} (hsame : n.SameIn failFast (n'.renumber f))
    (hn : ∀ {entered i}, n.Reaches entered i → i < p.procedures.length)
    (hn' : ∀ {entered j}, n'.Reaches entered j → j < q.procedures.length)
    (hcalls : ∀ j l, j < q.procedures.length →
      p.callEither q failFast budget (f j) l = q.call failFast budget j l) (l : Location) :
    n.run (p.call failFast budget) failFast l = n'.run (q.call failFast budget) failFast l := by
  have hleft : n.run (p.call failFast budget) failFast l =
      n.run (p.callEither q failFast budget) failFast l := by
    refine n.run_congr (Run.eq_congruence failFast) l fun i l' hcall => ?_
    unfold callEither
    rw [if_pos (hcall.reachesFrom.elim (fun hr => hn hr.1) fun hr => hn hr.1)]
  have hright : n'.run (fun j => p.callEither q failFast budget (f j)) failFast l =
      n'.run (q.call failFast budget) failFast l := by
    refine n'.run_congr (Run.eq_congruence failFast) l fun j l' hcall => hcalls j l' ?_
    exact hcall.reachesFrom.elim (fun hr => hn' hr.1) fun hr => hn' hr.1
  rw [hleft, ← hsame.run, Node.run_renumber, hright]

/-- **Each procedure on the right does what the one on the left does that it is numbered for.** -/
theorem call_eq (h : p.Matches failFast f q) (hp : p.Closed) (hq : q.Closed) : ∀ budget j l,
    j < q.procedures.length → p.callEither q failFast budget (f j) l = q.call failFast budget j l := by
  intro budget
  induction budget with
  | zero =>
    intro j l _
    unfold callEither
    split <;> rfl
  | succ budget ih =>
    intro j l hj
    have hbody' := List.getElem?_eq_getElem hj
    unfold callEither
    rcases h.procedures j _ hbody' with ⟨body, hbody, hsame⟩ | hbehind
    · obtain ⟨hlt, -⟩ := List.getElem?_eq_some_iff.mp hbody
      rw [if_pos hlt, call, call, hbody, hbody']
      exact node_run_eq hsame (hp.bodies (List.mem_of_getElem? hbody)) (hq.bodies (List.getElem_mem hj)) ih l
    · rw [hbehind, if_neg (Nat.not_lt.mpr (Nat.le_add_right _ _)), Nat.add_sub_cancel_left]

/-- **Programs that match do the same.** -/
theorem run_eq (h : p.Matches failFast f q) (hp : p.Closed) (hq : q.Closed) (data : Json) :
    p.run failFast data = q.run failFast data :=
  run_eq_of_budgets hp hq fun budget =>
    congrFun (node_run_eq h.root hp.root hq.root (h.call_eq hp hq budget) _) []

end Matches

end Program

end JsonSchema
