import JsonSchema.Proofs.Evaluation.Congruence
import Mathlib.Data.Finset.Card
import Mathlib.Data.Finset.Filter
import Mathlib.Data.Finset.Range
import Mathlib.Logic.Relation

/-!
# When a program ends

A run ends if no call comes back to its procedure at its location.  Locations are infinite in number
and calls depend on the data, so this file reads the calls off the *text* of the program instead:
`Node.Reaches` says which procedures a node calls and whether the data is entered on the way, and
`Program.Cyclic` that some procedure leads back to itself without entering it.

**A program that is not cyclic ends on every value within `Program.callBudget`**
(`Program.run_ends`).  Entering the data makes it shallower; a call that does not makes the number of
procedures that can still follow smaller (`Program.rank`).  The budget is what the two allow together.
-/

set_option autoImplicit false

namespace JsonSchema

/-! ## Entering the data -/

theorem Json.depth_lt_of_mem_arr {v : Json} {items : List Json} (h : v ∈ items) :
    v.depth < (Json.arr items).depth := by
  rw [depth]
  induction items with
  | nil => exact absurd h List.not_mem_nil
  | cons first rest ih =>
    rw [depthItems]
    rcases List.mem_cons.mp h with rfl | h
    · omega
    · have := ih h
      omega

theorem Json.depth_lt_of_mem_obj {m : String × Json} {members : List (String × Json)}
    (h : m ∈ members) : m.2.depth < (Json.obj members).depth := by
  rw [depth]
  induction members with
  | nil => exact absurd h List.not_mem_nil
  | cons first rest ih =>
    rw [depthMembers]
    rcases List.mem_cons.mp h with rfl | h
    · omega
    · have := ih h
      omega

theorem Step.depth_child?_lt {step : Step} {v w : Json} (h : step.child? v = some w) :
    w.depth < v.depth := by
  cases step with
  | key name =>
    cases v with
    | obj members =>
      obtain ⟨_, _, hm, _⟩ := List.lookup_eq_some_iff.mp h
      exact Json.depth_lt_of_mem_obj (m := (name, w)) (hm ▸ by simp)
    | _ => simp [Step.child?, Json.get?] at h
  | index i =>
    cases v with
    | arr items => exact Json.depth_lt_of_mem_arr (List.mem_of_getElem? h)
    | _ => simp [Step.child?, Json.item?] at h

theorem Location.value_mem_of_mem_elements {l e : Location} {vs : List Json} :
    ∀ {start}, e ∈ l.elements start vs → e.value ∈ vs := by
  induction vs with
  | nil => exact fun h => absurd h List.not_mem_nil
  | cons v rest ih =>
    intro start h
    rcases List.mem_cons.mp h with rfl | h
    · exact List.mem_cons_self
    · exact List.mem_cons_of_mem v (ih h)

theorem Node.depth_lt_of_mem_elementsFrom {l e : Location} {start : Nat}
    (h : e ∈ elementsFrom l start) : e.value.depth < l.value.depth := by
  rw [elementsFrom] at h
  split at h
  · next vs hv =>
    rw [hv]
    exact Json.depth_lt_of_mem_arr
      (List.mem_of_mem_drop (Location.value_mem_of_mem_elements h))
  · exact absurd h List.not_mem_nil

theorem Node.depth_lt_of_mem_namesOf {l name : Location} (h : name ∈ namesOf l) :
    name.value.depth < l.value.depth := by
  rw [namesOf] at h
  split at h
  · next members hv =>
    obtain ⟨m, _, rfl⟩ := List.mem_map.mp h
    rw [hv, Json.depth]
    have : (l.withValue (.str m.1)).value.depth = 0 := by cases l <;> rfl
    omega
  · exact absurd h List.not_mem_nil

theorem Location.depth_lt_of_mem_selected {l : Location} {filter : PropertyFilter}
    {m : String × Location} (h : m ∈ l.selected filter) : m.2.value.depth < l.value.depth := by
  rw [selected] at h
  split at h
  · next members hv =>
    obtain ⟨m', hm', rfl⟩ := List.mem_map.mp h
    rw [hv]
    exact Json.depth_lt_of_mem_obj (List.mem_of_mem_filter hm')
  · exact absurd h List.not_mem_nil

/-! ## Calls in the text of a program -/

/-- The nodes inside a node, each with whether the data is entered on the way to it. -/
def Node.parts : Node → List (Bool × Node)
  | all nodes => nodes.map (false, ·)
  | guard _ body | ifPresent _ body | not body _ => [(false, body)]
  | descend _ body | items _ body | properties _ body | propertyNames body _ | contains body _ =>
    [(true, body)]
  | anyOf branches _ | oneOf branches _ => branches.map (false, ·)
  | ifThenElse c t e _ => [(false, c), (false, t), (false, e)]
  | pass | reject _ | type _ _ | check _ | call _ | noProperties _ _ => []

/-- `n.Reaches entered i`: procedure `i` is called somewhere in the node, and `entered` says whether the
    data is entered on the way there. -/
inductive Node.Reaches : Node → Bool → Nat → Prop where
  | call (i : Nat) : Reaches (.call i) false i
  | part {n body : Node} {entered below : Bool} {i : Nat} :
      (entered, body) ∈ n.parts → Reaches body below i → Reaches n (entered || below) i

/-- A node that reaches a procedure is a call of it or has a part that does. -/
theorem Node.Reaches.cases_parts {n : Node} {entered : Bool} {i : Nat} (h : n.Reaches entered i) :
    (n = .call i ∧ entered = false) ∨
      ∃ first body below, (first, body) ∈ n.parts ∧ body.Reaches below i ∧ entered = (first || below) := by
  cases h with
  | call => exact Or.inl ⟨rfl, rfl⟩
  | part hp hr => exact Or.inr ⟨_, _, _, hp, hr, rfl⟩

theorem Node.not_reaches_pass {entered : Bool} {i : Nat} : ¬ Node.pass.Reaches entered i := by
  rintro ⟨⟩
  next hp _ => exact absurd hp List.not_mem_nil

/-- A call to `i` at `l'` that a run of the node at `l` makes: at the same location if the data is not
    entered on the way to it, and else at a shallower value. -/
def Node.ReachesFrom (n : Node) (l : Location) (i : Nat) (l' : Location) : Prop :=
  (n.Reaches false i ∧ l' = l) ∨ (n.Reaches true i ∧ l'.value.depth < l.value.depth)

namespace Node.ReachesFrom

variable {n body : Node} {l e l' : Location} {i : Nat}

theorem here (hp : (false, body) ∈ n.parts) (h : body.ReachesFrom l i l') : n.ReachesFrom l i l' :=
  h.imp (fun ⟨hr, hl⟩ => ⟨.part hp hr, hl⟩) (fun ⟨hr, hl⟩ => ⟨.part hp hr, hl⟩)

theorem inside (hp : (true, body) ∈ n.parts) (hlt : e.value.depth < l.value.depth)
    (h : body.ReachesFrom e i l') : n.ReachesFrom l i l' := by
  rcases h with ⟨hr, rfl⟩ | ⟨hr, hl⟩
  · exact Or.inr ⟨.part hp hr, hlt⟩
  · exact Or.inr ⟨.part hp hr, hl.trans hlt⟩

theorem depth_le (h : n.ReachesFrom l i l') : l'.value.depth ≤ l.value.depth := by
  rcases h with ⟨_, rfl⟩ | ⟨_, hlt⟩
  · exact Nat.le_refl _
  · exact Nat.le_of_lt hlt

end Node.ReachesFrom

/-- Every call of a run is one in the text. -/
theorem Node.Calls.reachesFrom {n : Node} {l l' : Location} {i : Nat} (h : n.Calls l i l') :
    n.ReachesFrom l i l' := by
  induction h with
  | call i l => exact Or.inl ⟨.call i, rfl⟩
  | all hn _ ih => exact .here (List.mem_map_of_mem hn) ih
  | guard _ _ ih => exact .here List.mem_cons_self ih
  | descend hv _ ih => exact .inside List.mem_cons_self (Step.depth_child?_lt hv) ih
  | items he _ ih => exact .inside List.mem_cons_self (depth_lt_of_mem_elementsFrom he) ih
  | properties hm _ ih => exact .inside List.mem_cons_self (Location.depth_lt_of_mem_selected hm) ih
  | propertyNames hn _ ih => exact .inside List.mem_cons_self (depth_lt_of_mem_namesOf hn) ih
  | ifPresent _ ih => exact .here List.mem_cons_self ih
  | contains he _ ih => exact .inside List.mem_cons_self (depth_lt_of_mem_elementsFrom he) ih
  | anyOf hn _ ih => exact .here (List.mem_map_of_mem hn) ih
  | oneOf hn _ ih => exact .here (List.mem_map_of_mem hn) ih
  | not _ ih => exact .here List.mem_cons_self ih
  | condition _ ih => exact .here (by simp [parts]) ih
  | thenBranch _ ih => exact .here (by simp [parts]) ih
  | elseBranch _ ih => exact .here (by simp [parts]) ih

/-! ## Runs that end -/

namespace Run

/-- The run ends, whatever was recorded before. -/
def Ends {α : Type} (f : List Violation → Option (α × List Violation)) : Prop :=
  ∀ errors, ∃ a after, f errors = some (a, after)

variable {failFast : Bool}

theorem Ends.untilPass {rs : List Run} (h : ∀ r ∈ rs, Ends r) : Ends (untilPass rs) := by
  induction rs with
  | nil => exact fun errors => ⟨false, errors, rfl⟩
  | cons r rest ih =>
    intro errors
    obtain ⟨valid, after, hr⟩ := h r List.mem_cons_self errors
    cases valid with
    | true => exact ⟨true, after, by simp [Run.untilPass, hr]⟩
    | false =>
      simp only [Run.untilPass, hr]
      exact ih (fun r hr => h r (List.mem_cons_of_mem _ hr)) after

theorem Ends.passing {rs : List Run} (h : ∀ r ∈ rs, Ends r) :
    ∀ found number, Ends (passing found number rs) := by
  induction rs with
  | nil => exact fun found _ errors => ⟨found, errors, rfl⟩
  | cons r rest ih =>
    intro found number errors
    have ih := ih fun r hr => h r (List.mem_cons_of_mem _ hr)
    obtain ⟨valid, after, hr⟩ := h r List.mem_cons_self errors
    simp only [Run.passing, hr]
    cases valid with
    | false => exact ih found (number + 1) after
    | true =>
      dsimp only
      split
      · exact ih [number] (number + 1) after
      · exact ⟨found ++ [number], after, rfl⟩

theorem Ends.every {rs : List Run} (h : ∀ r ∈ rs, Ends r) : Ends (every failFast rs) := by
  induction rs with
  | nil => exact fun errors => ⟨true, errors, rfl⟩
  | cons r rest ih =>
    intro errors
    have ih := ih fun r hr => h r (List.mem_cons_of_mem _ hr)
    obtain ⟨valid, after, hr⟩ := h r List.mem_cons_self errors
    simp only [Run.every, hr]
    cases valid with
    | true => exact ih after
    | false =>
      dsimp only
      split
      · exact ⟨false, after, rfl⟩
      · obtain ⟨_, after', hrest⟩ := ih after
        exact ⟨false, after', by rw [hrest]; rfl⟩

/-- No combinator adds a run that does not end. -/
theorem ends_congruence : Congruence (fun r _ => Ends r) failFast failFast where
  pass := fun errors => ⟨true, errors, rfl⟩
  reject := fun e errors => ⟨false, errors ++ [e], rfl⟩
  noting := fun {r _} h e errors => by
    obtain ⟨valid, after, hr⟩ := h errors
    cases valid with
    | true => exact ⟨true, after, by simp [noting, hr]⟩
    | false => exact ⟨false, after ++ [e], by simp [noting, hr]⟩
  every := fun h => Ends.every (forall_mem_of_forall₂ h)
  negate := fun {r _} h e errors => by
    obtain ⟨matched, after, hr⟩ := h errors
    simp only [negate, hr]
    split
    · exact ⟨_, _, rfl⟩
    · exact ⟨_, _, rfl⟩
  someOf := fun {rs _} h e errors => by
    obtain ⟨found, after, hr⟩ := Ends.untilPass (forall_mem_of_forall₂ h) errors
    simp only [someOf, hr]
    split
    · exact ⟨_, _, rfl⟩
    · exact ⟨_, _, rfl⟩
  anyOf := fun {rs _} h e errors => by
    obtain ⟨found, after, hr⟩ := Ends.untilPass (forall_mem_of_forall₂ h) errors
    cases found with
    | true => exact ⟨true, after.take errors.length, by simp [anyOf, hr]⟩
    | false => exact ⟨false, after ++ [e], by simp [anyOf, hr, reject]⟩
  oneOf := fun {rs _} h e errors => by
    obtain ⟨found, after, hr⟩ := Ends.passing (forall_mem_of_forall₂ h) [] 0 errors
    simp only [oneOf, hr]
    split
    · next heq => cases heq
    · exact ⟨_, _, rfl⟩
    · exact ⟨_, _, rfl⟩
  branch := fun {c _ t _ e _} hc ht he errors => by
    obtain ⟨matched, after, hr⟩ := hc errors
    simp only [branch, hr]
    split
    · exact ht _
    · exact he _

end Run

/-! ## Cycles -/

namespace Program

variable (p : Program)

/-- Procedure `i` calls procedure `j` without entering the data. -/
def CallsHere (i j : Nat) : Prop := ∃ body, p.procedures[i]? = some body ∧ body.Reaches false j

/-- Some procedure leads back to itself without entering the data. -/
def Cyclic : Prop := ∃ i, Relation.TransGen p.CallsHere i i

/-- Every call in the program is one of its procedures. -/
structure Closed : Prop where
  root : ∀ {entered i}, p.root.Reaches entered i → i < p.procedures.length
  bodies : ∀ {body entered i}, body ∈ p.procedures → body.Reaches entered i → i < p.procedures.length

open Classical in
/-- The number of procedures that can follow a procedure without entering the data. -/
noncomputable def rank (i : Nat) : Nat :=
  ((Finset.range p.procedures.length).filter (Relation.TransGen p.CallsHere i)).card

variable {p}

theorem rank_lt_of_callsHere (acyclic : ¬ p.Cyclic) {i j : Nat} (h : p.CallsHere i j)
    (hj : j < p.procedures.length) : p.rank j < p.rank i := by
  classical
  refine Finset.card_lt_card ⟨fun k hk => ?_, fun hsub => ?_⟩
  · simp only [Finset.mem_filter] at hk ⊢
    exact ⟨hk.1, .head h hk.2⟩
  -- `j` follows `i` but, without a cycle, not itself
  · have hmem := hsub (Finset.mem_filter.mpr ⟨Finset.mem_range.mpr hj, .single h⟩)
    exact acyclic ⟨j, (Finset.mem_filter.mp hmem).2⟩

theorem rank_lt_length (acyclic : ¬ p.Cyclic) {i : Nat} (hi : i < p.procedures.length) :
    p.rank i < p.procedures.length := by
  classical
  have hlt : p.rank i < (Finset.range p.procedures.length).card := by
    refine Finset.card_lt_card ⟨Finset.filter_subset _ _, fun hsub => ?_⟩
    exact acyclic ⟨i, (Finset.mem_filter.mp (hsub (Finset.mem_range.mpr hi))).2⟩
  rwa [Finset.card_range] at hlt

/-- The induction step of `call_ends`: from a node to the calls it makes, with a budget of `procedures`
    for each level of the data left and, where the data is not entered, of what may still follow. -/
theorem call_ends (acyclic : ¬ p.Cyclic) (closed : p.Closed) (failFast : Bool) :
    ∀ budget i l, i < p.procedures.length →
      p.procedures.length * l.value.depth + p.rank i < budget → Run.Ends (p.call failFast budget i l) := by
  intro budget
  induction budget with
  | zero => exact fun i l _ h => absurd h (Nat.not_lt_zero _)
  | succ budget ih =>
    intro i l hi hb
    have hbody : p.procedures[i]? = some p.procedures[i] := List.getElem?_eq_getElem hi
    rw [call, hbody]
    refine Node.run_keeps Run.ends_congruence _ l fun j l' hc => ?_
    rcases hc.reachesFrom with ⟨hr, rfl⟩ | ⟨hr, hlt⟩
    -- at the same location the rank goes down
    · have hj := closed.bodies (List.getElem_mem hi) hr
      have := rank_lt_of_callsHere acyclic ⟨_, hbody, hr⟩ hj
      exact ih j l' hj (by omega)
    -- inside the data the rank starts anew, and one level of the data pays for it
    · have hj := closed.bodies (List.getElem_mem hi) hr
      have := rank_lt_length acyclic hj
      have hle : p.procedures.length * (l'.value.depth + 1) ≤ p.procedures.length * l.value.depth :=
        Nat.mul_le_mul_left _ hlt
      rw [Nat.mul_add, Nat.mul_one] at hle
      exact ih j l' hj (by omega)

/-- **A program without cycles ends on every value**, within the budget that a run is given. -/
theorem run_ends (acyclic : ¬ p.Cyclic) (closed : p.Closed) (failFast : Bool) (data : Json) :
    (p.run failFast data).isSome := by
  have hends : Run.Ends
      (p.root.run (p.call failFast (p.callBudget data)) failFast (.root data)) := by
    refine Node.run_keeps Run.ends_congruence _ _ fun i l' hc => ?_
    have hi : i < p.procedures.length := by
      rcases hc.reachesFrom with ⟨hr, _⟩ | ⟨hr, _⟩
      · exact closed.root hr
      · exact closed.root hr
    have := rank_lt_length acyclic hi
    have hmul : p.procedures.length * l'.value.depth ≤ p.procedures.length * data.depth :=
      Nat.mul_le_mul_left _ hc.reachesFrom.depth_le
    exact call_ends acyclic closed failFast _ i l' hi (by rw [callBudget, Nat.mul_add]; omega)
  obtain ⟨valid, errors, hrun⟩ := hends []
  rw [run, hrun]
  rfl

end Program

end JsonSchema
