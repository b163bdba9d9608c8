import JsonSchema.Proofs.Evaluation.Modes
import JsonSchema.Proofs.Evaluation.Renumbering

/-!
# The budget of calls is enough

A program that is not cyclic ends within `Program.callBudget` (`Program.run_ends`).  A cyclic one may
still end on the data at hand, and then it does so within the same budget: **no budget gives an answer
where `callBudget` gives none** (`Program.run_eq_of_ends`).

The reason is in which budgets are needed.  If a call needs `k + 1` calls inside each other, one of the
calls that it makes needs exactly `k` (`Program.Needs.inner`), so along such a chain no call comes back to
its procedure at its location.  As long as the location stays, the procedures differ; when it changes,
the data gets shallower (`Program.Needs.bound`).
-/

set_option autoImplicit false

namespace JsonSchema

/-! ## What a larger budget changes -/

theorem Run.Faithful.stuck_or_ends {r : Run} (h : r.Faithful) : r = Run.stuck ∨ Run.Ends r := by
  rcases h.cases with hr | hr | ⟨new, -, hr⟩
  · exact .inl (funext hr)
  · exact .inr fun errors => ⟨true, errors, hr errors⟩
  · exact .inr fun errors => ⟨false, errors ++ new, hr errors⟩

theorem Run.Ends.ne_stuck {r : Run} (h : Run.Ends r) : r ≠ Run.stuck := by
  rintro rfl
  obtain ⟨_, _, hr⟩ := h []
  cases hr

namespace Program

variable {p : Program} {failFast : Bool} {i : Nat} {l : Location} {budget budget' : Nat}

theorem call_stuck_or_ends (p : Program) (failFast : Bool) (budget i : Nat) (l : Location) :
    p.call failFast budget i l = Run.stuck ∨ Run.Ends (p.call failFast budget i l) :=
  (p.call_keeps (Run.faithful_congruence failFast) .stuck budget i l).stuck_or_ends

/-- A call that ends does the same under every larger budget. -/
theorem call_eq_of_le (hle : budget ≤ budget') (h : p.call failFast budget i l ≠ Run.stuck) :
    p.call failFast budget' i l = p.call failFast budget i l := by
  induction hle with
  | refl => rfl
  | @step budget'' _ ih =>
    rw [← ih]
    have hends := (p.call_stuck_or_ends failFast budget'' i l).resolve_left (ih ▸ h)
    funext errors
    rcases p.call_extends_succ failFast budget'' i l errors with hnone | heq
    · obtain ⟨_, _, hsome⟩ := hends errors
      rw [hnone] at hsome
      cases hsome
    · exact heq

/-! ## What a call needs -/

/-- The call ends with `k` calls inside it, and with no fewer. -/
def Needs (p : Program) (failFast : Bool) (i : Nat) (l : Location) (k : Nat) : Prop :=
  p.call failFast k i l = Run.stuck ∧ p.call failFast (k + 1) i l ≠ Run.stuck

theorem exists_needs (h : p.call failFast budget i l ≠ Run.stuck) :
    ∃ k < budget, p.Needs failFast i l k := by
  induction budget with
  | zero => exact absurd rfl h
  | succ budget ih =>
    by_cases hstuck : p.call failFast budget i l = Run.stuck
    · exact ⟨budget, Nat.lt_succ_self _, hstuck, h⟩
    · obtain ⟨k, hk, hneeds⟩ := ih hstuck
      exact ⟨k, Nat.lt_succ_of_lt hk, hneeds⟩

/-- **One of the calls that a call makes needs one call less.** -/
theorem Needs.inner {k : Nat} (h : p.Needs failFast i l (k + 1)) :
    ∃ body, p.procedures[i]? = some body ∧ ∃ j l', body.Calls l j l' ∧ p.Needs failFast j l' k := by
  obtain ⟨hstuck, hends⟩ := h
  rw [call] at hstuck hends
  cases hbody : p.procedures[i]? with
  | none =>
    rw [hbody] at hstuck
    exact absurd hstuck (Run.Ends.ne_stuck fun errors => ⟨true, errors, rfl⟩)
  | some body =>
    rw [hbody] at hstuck hends
    refine ⟨body, rfl, ?_⟩
    -- if none did, a budget of `k` would give what a budget of `k + 1` gives
    by_contra hnone
    refine hends ?_
    rw [← show body.run (p.call failFast k) failFast l = Run.stuck from hstuck]
    refine (body.run_congr (Run.eq_congruence failFast) l fun j l' hcall => ?_).symm
    by_cases hinner : p.call failFast k j l' = Run.stuck
    · by_contra hne
      exact hnone ⟨j, l', hcall, hinner, fun hstuck' => hne (hinner.trans hstuck'.symm)⟩
    · exact (call_eq_of_le (Nat.le_succ k) hinner).symm

open Classical in
/-- The procedures that end at a location with at most `k` calls inside. -/
noncomputable def endingWithin (p : Program) (failFast : Bool) (l : Location) (k : Nat) : Finset Nat :=
  (Finset.range p.procedures.length).filter fun i => p.call failFast (k + 1) i l ≠ Run.stuck

theorem mem_endingWithin {k : Nat} : i ∈ p.endingWithin failFast l k ↔
    i < p.procedures.length ∧ p.call failFast (k + 1) i l ≠ Run.stuck := by
  classical
  unfold endingWithin
  rw [Finset.mem_filter, Finset.mem_range]

theorem card_endingWithin_le (k : Nat) : (p.endingWithin failFast l k).card ≤ p.procedures.length := by
  have hsub : p.endingWithin failFast l k ⊆ Finset.range p.procedures.length := fun _ hi =>
    Finset.mem_range.mpr (mem_endingWithin.mp hi).1
  have hcard := Finset.card_le_card hsub
  rwa [Finset.card_range] at hcard

/-- **What a call needs**: a call of each procedure for each level of the data left, and where the data is
    not entered, of what else ends there. -/
theorem Needs.bound (closed : p.Closed) : ∀ k i l, i < p.procedures.length → p.Needs failFast i l k →
    k + 1 ≤ p.procedures.length * l.value.depth + (p.endingWithin failFast l k).card := by
  intro k
  induction k with
  | zero =>
    intro i l hi h
    have hpos : 0 < (p.endingWithin failFast l 0).card :=
      Finset.card_pos.mpr ⟨i, mem_endingWithin.mpr ⟨hi, h.2⟩⟩
    omega
  | succ k ih =>
    intro i l hi h
    obtain ⟨body, hbody, j, l', hcall, hinner⟩ := h.inner
    have hmem : i ∈ p.endingWithin failFast l (k + 1) := mem_endingWithin.mpr ⟨hi, h.2⟩
    rcases hcall.reachesFrom with ⟨hreaches, rfl⟩ | ⟨hreaches, hlt⟩
    -- at the same location the caller comes in addition to all that needs less
    · have hj := closed.bodies (List.mem_of_getElem? hbody) hreaches
      have hbound := ih j l' hj hinner
      have hnew : i ∉ p.endingWithin failFast l' k := fun hi => (mem_endingWithin.mp hi).2 h.1
      have hsub : insert i (p.endingWithin failFast l' k) ⊆ p.endingWithin failFast l' (k + 1) := by
        refine Finset.insert_subset hmem fun m hm => ?_
        obtain ⟨hm, hends⟩ := mem_endingWithin.mp hm
        exact mem_endingWithin.mpr ⟨hm, call_eq_of_le (Nat.le_succ _) hends ▸ hends⟩
      have hcard := Finset.card_le_card hsub
      rw [Finset.card_insert_of_notMem hnew] at hcard
      omega
    -- inside the data one level of it pays for all procedures
    · have hj := closed.bodies (List.mem_of_getElem? hbody) hreaches
      have hbound := ih j l' hj hinner
      have hall := @card_endingWithin_le p failFast l' k
      have hpos : 0 < (p.endingWithin failFast l (k + 1)).card := Finset.card_pos.mpr ⟨i, hmem⟩
      have hlevel : p.procedures.length * (l'.value.depth + 1) ≤ p.procedures.length * l.value.depth :=
        Nat.mul_le_mul_left _ hlt
      rw [Nat.mul_add, Nat.mul_one] at hlevel
      omega

/-- A call at or below the data does under every larger budget what it does under the one for the data. -/
theorem call_eq_callBudget (closed : p.Closed) {data : Json} (hi : i < p.procedures.length)
    (hl : l.value.depth ≤ data.depth) (hle : p.callBudget data ≤ budget) :
    p.call failFast budget i l = p.call failFast (p.callBudget data) i l := by
  by_cases hends : p.call failFast budget i l = Run.stuck
  · by_contra hne
    refine hne (hends.trans ?_)
    by_contra hstuck
    exact hne (call_eq_of_le hle fun h => hstuck h.symm)
  · obtain ⟨k, -, hneeds⟩ := exists_needs hends
    have hbound := hneeds.bound closed k i l hi
    have hall := @card_endingWithin_le p failFast l k
    have hdepth : p.procedures.length * l.value.depth ≤ p.procedures.length * data.depth :=
      Nat.mul_le_mul_left _ hl
    have hk : k + 1 ≤ p.callBudget data := by
      rw [callBudget, Nat.mul_add]
      omega
    rw [call_eq_of_le hk hneeds.2, call_eq_of_le (hk.trans hle) hneeds.2]

/-- **The budget for the data is enough**: where a run of a program ends under some budget, it ends so
    under its own. -/
theorem run_eq_of_ends (closed : p.Closed) {data : Json} {result : Bool × List Violation}
    (h : p.root.run (p.call failFast budget) failFast (.root data) [] = some result) :
    p.run failFast data = some result := by
  obtain ⟨valid, after⟩ := result
  have hlarger := Node.run_mono (Nat.le_max_left budget (p.callBudget data)) h
  rw [run, ← hlarger]
  refine congrFun (p.root.run_congr (Run.eq_congruence failFast) _ fun i l' hcall => ?_) []
  have hreaches := hcall.reachesFrom
  refine (call_eq_callBudget closed ?_ hreaches.depth_le (Nat.le_max_right _ _)).symm
  rcases hreaches with ⟨hr, -⟩ | ⟨hr, -⟩
  · exact closed.root hr
  · exact closed.root hr

/-- The first program is the first procedure of the second, which does nothing but call it. -/
def StandsBehind (p q : Program) : Prop :=
  q.root = .call 0 ∧ ∃ f, p.Renumbered q f ∧ q.procedures[0]? = some (p.root.renumber f)

/-- **A program that stands behind a call does the same**: all that it takes is one call more. -/
theorem StandsBehind.run_eq {p q : Program} (h : p.StandsBehind q) (hp : p.Closed) (hq : q.Closed)
    (failFast : Bool) (data : Json) : q.run failFast data = p.run failFast data := by
  obtain ⟨hroot, f, h, hbody⟩ := h
  have hshift : ∀ budget, q.root.run (q.call failFast (budget + 1)) failFast (.root data) [] =
      p.root.run (p.call failFast budget) failFast (.root data) [] := by
    intro budget
    rw [hroot, Node.run, call, hbody]
    dsimp only
    rw [Node.run_renumber]
    refine congrFun (p.root.run_congr (Run.eq_congruence failFast) _ fun i l' hcall => ?_) []
    refine h.call_eq hp failFast budget i l' ?_
    rcases hcall.reachesFrom with ⟨hr, -⟩ | ⟨hr, -⟩
    · exact hp.root hr
    · exact hp.root hr
  refine Option.ext fun result => ⟨fun hresult => ?_, fun hresult => ?_⟩
  · have hmore := Node.run_mono (Nat.le_succ (q.callBudget data)) hresult
    rw [hshift] at hmore
    exact p.run_eq_of_ends hp hmore
  · have hless : p.root.run (p.call failFast (p.callBudget data)) failFast (.root data) [] = some result :=
      hresult
    rw [← hshift] at hless
    exact q.run_eq_of_ends hq hless

end Program

end JsonSchema
