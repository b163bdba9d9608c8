import JsonSchema.Proofs.Evaluation.Meaning

/-!
# Nodes with the same verdict

Two nodes are alike (`Node.Alike`) if wherever they run both end, with the same verdict.  They may have
different violations to report and different ways of calling procedures.  The relation is kept by every
node that can stand around others, and a conjunction only cares for what its nodes say together
(`AllAlike`), so that it may be made of other nodes.
-/

set_option autoImplicit false

namespace JsonSchema

/-! ## Runs -/

namespace Run

/-- Both runs end, with the same verdict whatever was recorded before. -/
def SameVerdict (r r' : Run) : Prop := ∃ φ : Prop, r.Decides φ ∧ r'.Decides φ

/-- What a run decides is whether it passes. -/
theorem Decides.iff_passes {r : Run} {φ : Prop} (h : r.Decides φ) : r.Decides True ↔ φ := by
  constructor
  · intro htrue
    obtain ⟨valid, after, hr, hv⟩ := h []
    obtain ⟨valid', after', hr', hv'⟩ := htrue []
    obtain ⟨rfl, -⟩ := Prod.mk.inj (Option.some.inj (hr.symm.trans hr'))
    exact hv.mp (hv'.mpr trivial)
  · intro hφ
    exact h.congr (iff_true_intro hφ)

namespace SameVerdict

variable {r r' c c' t t' e e' : Run} {failFast : Bool}

theorem trans {r'' : Run} (h : SameVerdict r r') (h' : SameVerdict r' r'') : SameVerdict r r'' := by
  obtain ⟨φ, hr, hr'⟩ := h
  obtain ⟨ψ, hψ, hr''⟩ := h'
  exact ⟨φ, hr, hr''.congr (hψ.iff_passes.symm.trans hr'.iff_passes)⟩

theorem pass : SameVerdict (done true) (done true) := ⟨True, .pass trivial, .pass trivial⟩

theorem reject (v v' : Violation) : SameVerdict (reject v) (reject v') :=
  ⟨False, .reject id v, .reject id v'⟩

theorem noting (h : SameVerdict r r') (v v' : Violation) : SameVerdict (noting v r) (noting v' r') :=
  let ⟨φ, hr, hr'⟩ := h
  ⟨φ, hr.noting v, hr'.noting v'⟩

theorem negate (h : SameVerdict r r') (v v' : Violation) : SameVerdict (negate v r) (negate v' r') :=
  let ⟨φ, hr, hr'⟩ := h
  ⟨¬ φ, hr.negate v, hr'.negate v'⟩

theorem branch (hc : SameVerdict c c') (ht : SameVerdict t t') (he : SameVerdict e e') :
    SameVerdict (branch c t e) (branch c' t' e') :=
  let ⟨φ, hc, hc'⟩ := hc
  let ⟨ψ, ht, ht'⟩ := ht
  let ⟨χ, he, he'⟩ := he
  ⟨(φ → ψ) ∧ (¬ φ → χ), hc.branch ht he, hc'.branch ht' he'⟩

/-! ### Runs over a list -/

section

variable {α : Type} {f g : α → Run} {xs : List α}

/-- What the entries decide is whether the runs on the left pass. -/
theorem decides_passes (h : ∀ x ∈ xs, SameVerdict (f x) (g x)) :
    (∀ x ∈ xs, (f x).Decides ((f x).Decides True)) ∧ ∀ x ∈ xs, (g x).Decides ((f x).Decides True) := by
  refine ⟨fun x hx => ?_, fun x hx => ?_⟩
  · obtain ⟨φ, hf, -⟩ := h x hx
    exact hf.congr hf.iff_passes.symm
  · obtain ⟨φ, hf, hg⟩ := h x hx
    exact hg.congr hf.iff_passes.symm

theorem every (h : ∀ x ∈ xs, SameVerdict (f x) (g x)) :
    SameVerdict (every failFast (xs.map f)) (every failFast (xs.map g)) :=
  let ⟨hf, hg⟩ := decides_passes h
  ⟨_, .every hf, .every hg⟩

theorem someOf (h : ∀ x ∈ xs, SameVerdict (f x) (g x)) (v v' : Violation) :
    SameVerdict (someOf v (xs.map f)) (someOf v' (xs.map g)) :=
  let ⟨hf, hg⟩ := decides_passes h
  ⟨_, .someOf hf v, .someOf hg v'⟩

theorem anyOf (h : ∀ x ∈ xs, SameVerdict (f x) (g x)) (v v' : Violation) :
    SameVerdict (anyOf v (xs.map f)) (anyOf v' (xs.map g)) :=
  let ⟨hf, hg⟩ := decides_passes h
  ⟨_, .anyOf hf v, .anyOf hg v'⟩

theorem oneOf (h : ∀ x ∈ xs, SameVerdict (f x) (g x)) (v v' : List Nat → Violation) :
    SameVerdict (oneOf v (xs.map f)) (oneOf v' (xs.map g)) :=
  let ⟨hf, hg⟩ := decides_passes h
  ⟨_, .oneOf hf v, .oneOf hg v'⟩

end

end SameVerdict

/-! ### Conjunctions as they run -/

theorem every_single (failFast : Bool) (r : Run) : every failFast [r] = r := by
  funext errors
  simp only [every]
  cases r errors with
  | none => rfl
  | some result =>
    obtain ⟨valid, after⟩ := result
    cases valid with
    | true => rfl
    | false => cases failFast <;> rfl

/-- The second run starts where the first has passed, and else if all violations are asked for. -/
theorem every_pair (failFast : Bool) (r r' : Run) (errors : List Violation) :
    every failFast [r, r'] errors =
      match r errors with
      | none => none
      | some (true, after) => r' after
      | some (false, after) =>
        if failFast then some (false, after) else (r' after).map fun result => (false, result.2) := by
  rw [every]
  cases hr : r errors with
  | none => rfl
  | some result =>
    obtain ⟨valid, after⟩ := result
    have hrest : every failFast [r'] after = r' after := by rw [every_single]
    cases valid <;> simp only [hrest]

/-- A list in two parts runs like the pair of its parts. -/
theorem every_append (failFast : Bool) (rs ss : List Run) (errors : List Violation) :
    every failFast (rs ++ ss) errors = every failFast [every failFast rs, every failFast ss] errors := by
  rw [every_pair]
  induction rs generalizing errors with
  | nil => rfl
  | cons r rest ih =>
    rw [List.cons_append, every, every]
    cases r errors with
    | none => rfl
    | some result =>
      obtain ⟨valid, after⟩ := result
      cases valid with
      | true => exact ih after
      | false =>
        cases failFast with
        | true => rfl
        | false =>
          dsimp only
          rw [ih after]
          rcases every false rest after with _ | ⟨_ | _, _⟩
          · rfl
          · exact Option.map_map ..
          · rfl

end Run

/-- A conjunction runs as its nodes do one after the other. -/
theorem Node.run_conj (call : Nat → Location → Run) (failFast : Bool) (nodes : List Node) (l : Location) :
    (conj nodes).run call failFast l = Run.every failFast (nodes.map (run call failFast · l)) := by
  have hkept : Run.every failFast (nodes.map (run call failFast · l)) =
      Run.every failFast ((nodes.filter (!·.isPass)).map (run call failFast · l)) := by
    induction nodes with
    | nil => rfl
    | cons n rest ih =>
      cases n with
      | pass => exact ih
      | _ =>
        funext errors
        simp only [List.map_cons, List.filter_cons_of_pos, isPass, Bool.not_false, Run.every, ih]
  rw [hkept]
  unfold conj
  split
  · next heq => rw [heq]; rfl
  · next n heq => rw [heq, List.map_singleton, Run.every_single]
  · rw [run_all]

/-! ## Nodes -/

namespace Node

/-- Wherever the nodes run, in the given mode and with the given ways of calling procedures, they have
    the same verdict. -/
def Alike (call call' : Nat → Location → Run) (failFast : Bool) (n n' : Node) : Prop :=
  ∀ l, (n.run call failFast l).SameVerdict (n'.run call' failFast l)

/-- All of the nodes together have the verdict of all of the others. -/
def AllAlike (call call' : Nat → Location → Run) (failFast : Bool) (ns ns' : List Node) : Prop :=
  ∀ l, (Run.every failFast (ns.map (run call failFast · l))).SameVerdict
    (Run.every failFast (ns'.map (run call' failFast · l)))

section

variable {call call' : Nat → Location → Run} {failFast : Bool} {n n' body body' : Node}
  {ns ns' ms ms' : List Node}

theorem AllAlike.nil : AllAlike call call' failFast [] [] := fun _ => .pass

theorem AllAlike.append (h : AllAlike call call' failFast ns ns')
    (h' : AllAlike call call' failFast ms ms') :
    AllAlike call call' failFast (ns ++ ms) (ns' ++ ms') := by
  intro l
  obtain ⟨φ, hn, hn'⟩ := h l
  obtain ⟨ψ, hm, hm'⟩ := h' l
  rw [List.map_append, List.map_append, funext (Run.every_append _ _ _),
    funext (Run.every_append _ _ _)]
  exact ⟨_, .every_cons hn (.every_cons hm (.every_nil trivial)),
    .every_cons hn' (.every_cons hm' (.every_nil trivial))⟩

/-- The order of two parts does not matter. -/
theorem AllAlike.append_comm (h : AllAlike call call' failFast ns ns')
    (h' : AllAlike call call' failFast ms ms') :
    AllAlike call call' failFast (ns ++ ms) (ms' ++ ns') := by
  intro l
  obtain ⟨φ, hn, hn'⟩ := h l
  obtain ⟨ψ, hm, hm'⟩ := h' l
  rw [List.map_append, List.map_append, funext (Run.every_append _ _ _),
    funext (Run.every_append _ _ _)]
  refine ⟨_, .every_cons hn (.every_cons hm (.every_nil trivial)), ?_⟩
  refine (Run.Decides.every_cons hm' (.every_cons hn' (.every_nil trivial))).congr ?_
  rw [and_true, and_true]
  exact and_comm

theorem Alike.trans {call'' : Nat → Location → Run} {n'' : Node} (h : Alike call call' failFast n n')
    (h' : Alike call' call'' failFast n' n'') : Alike call call'' failFast n n'' :=
  fun l => (h l).trans (h' l)

/-- Nodes with the same meaning. -/
theorem Means.alike {φ : Json → Prop} (h : n.Means φ) (h' : n'.Means φ) :
    Alike call call' failFast n n' := fun l => ⟨φ l.value, h call failFast l, h' call' failFast l⟩

theorem Alike.single (h : Alike call call' failFast n n') : AllAlike call call' failFast [n] [n'] := by
  intro l
  rw [List.map_singleton, List.map_singleton, Run.every_single, Run.every_single]
  exact h l

theorem AllAlike.of_forall₂ (h : List.Forall₂ (Alike call call' failFast) ns ns') :
    AllAlike call call' failFast ns ns' := by
  induction h with
  | nil => exact .nil
  | cons hn _ ih => exact hn.single.append ih

theorem AllAlike.conj (h : AllAlike call call' failFast ns ns') :
    Alike call call' failFast (conj ns) (Node.conj ns') := by
  intro l
  rw [run_conj, run_conj]
  exact h l

/-- A conjunction of nodes that are each like one node, or always pass, is like that node. -/
theorem Alike.conj_of_each (h : ∀ n ∈ ns, Alike call call' failFast n n' ∨ n = .pass)
    (hone : ∃ n ∈ ns, Alike call call' failFast n n') :
    Alike call call' failFast (Node.conj ns) n' := by
  intro l
  obtain ⟨first, hfirst, hsame⟩ := hone
  obtain ⟨φ, hφ, hn'⟩ := hsame l
  refine ⟨φ, ?_, hn'⟩
  have heach : ∀ n ∈ ns, (run call failFast n l).Decides (n = .pass ∨ φ) := by
    intro n hn
    rcases h n hn with halike | rfl
    · obtain ⟨ψ, hψ, hn''⟩ := halike l
      have hψφ : ψ ↔ φ := hn''.iff_passes.symm.trans hn'.iff_passes
      refine (hψ.congr hψφ).congr ⟨.inr, ?_⟩
      rintro (rfl | h)
      · exact hψφ.mp (hψ.iff_passes.mp (.pass trivial))
      · exact h
    · exact .pass (.inl rfl)
  rw [run_conj]
  refine (Run.Decides.every heach).congr ⟨fun hall => ?_, fun hφ _ _ => .inr hφ⟩
  rcases hall first hfirst with rfl | h
  · exact hφ.iff_passes.mp (.pass trivial)
  · exact h

theorem Alike.pass : Alike call call' failFast .pass .pass := fun _ => .pass

theorem Alike.reject (site site' : ErrorSite) :
    Alike call call' failFast (.reject site) (.reject site') := fun _ => .reject _ _

theorem Alike.type (types : List DataType) (site site' : ErrorSite) :
    Alike call call' failFast (.type types site) (.type types site') := by
  intro l
  rw [run_type, run_type]
  split
  · exact .pass
  · exact .reject _ _

/-- A check decides what its test does, if its value can be found and may be used. -/
theorem check_decides (c : Check) (l : Location) :
    (c.run l).Decides (match c.value with
      | .literal v => c.fails l.value v = false
      | .data r => ∀ v, r.resolve? l = some v →
          DataType.anyAccepts c.expects v = true ∧ c.fails l.value v = false) := by
  have htest : ∀ v, (c.test l v).Decides (c.fails l.value v = false) := by
    intro v errors
    unfold Check.test
    split
    · next hf => exact ⟨false, _, rfl, by simp [hf]⟩
    · next hf => exact ⟨true, errors, rfl, by simpa using hf⟩
  intro errors
  simp only [Check.run]
  cases c.value with
  | literal v => exact htest v errors
  | data r =>
    dsimp only
    cases r.resolve? l with
    | none => exact ⟨true, errors, rfl, by simp⟩
    | some v =>
      dsimp only
      split
      · next ht =>
        obtain ⟨valid, after, hrun, hv⟩ := htest v errors
        exact ⟨valid, after, hrun, hv.trans (by simp [ht])⟩
      · next ht => exact ⟨false, _, rfl, by simp [ht]⟩

/-- Checks that differ in nothing but what they report. -/
theorem Alike.check {c c' : Check} (hvalue : c'.value = c.value) (hexpects : c'.expects = c.expects)
    (hfails : c'.fails = c.fails) : Alike call call' failFast (.check c) (.check c') := by
  intro l
  have hc' := check_decides c' l
  rw [hvalue, hexpects, hfails] at hc'
  exact ⟨_, check_decides c l, hc'⟩

theorem Alike.descend (step : Step) (h : Alike call call' failFast body body') :
    Alike call call' failFast (.descend step body) (.descend step body') := by
  intro l
  rw [run_descend, run_descend]
  cases step.child? l.value with
  | none => exact .pass
  | some v => exact h _

theorem Alike.items (start : Nat) (h : Alike call call' failFast body body') :
    Alike call call' failFast (.items start body) (.items start body') := by
  intro l
  rw [run_items, run_items]
  exact .every fun e _ => h e

theorem Alike.properties (filter : PropertyFilter) (h : Alike call call' failFast body body') :
    Alike call call' failFast (.properties filter body) (.properties filter body') := by
  intro l
  rw [run_properties, run_properties]
  exact .every fun m _ => h m.2

theorem Alike.noProperties (filter : PropertyFilter) (site site' : ErrorSite) :
    Alike call call' failFast (.noProperties filter site) (.noProperties filter site') := by
  intro l
  rw [run_noProperties, run_noProperties]
  exact .every fun m _ => .reject _ _

theorem Alike.propertyNames (site site' : ErrorSite) (h : Alike call call' failFast body body') :
    Alike call call' failFast (.propertyNames body site) (.propertyNames body' site') := by
  intro l
  rw [run_propertyNames, run_propertyNames]
  exact .every fun name _ => (h name).noting _ _

theorem Alike.ifPresent (name : String) (h : Alike call call' failFast body body') :
    Alike call call' failFast (.ifPresent name body) (.ifPresent name body') := by
  intro l
  rw [run_ifPresent, run_ifPresent]
  split
  · exact h l
  · exact .pass

theorem Alike.contains (site site' : ErrorSite) (h : Alike call call' failFast body body') :
    Alike call call' failFast (.contains body site) (.contains body' site') := by
  intro l
  rw [run_contains, run_contains]
  split
  · exact .someOf (fun e _ => h e) _ _
  · exact .pass

theorem Alike.not (site site' : ErrorSite) (h : Alike call call' failFast body body') :
    Alike call call' failFast (.not body site) (.not body' site') := by
  intro l
  rw [run_not, run_not]
  exact (h l).negate _ _

theorem Alike.ifThenElse {c c' t t' e e' : Node} (site site' : ErrorSite)
    (hc : Alike call call' failFast c c') (ht : Alike call call' failFast t t')
    (he : Alike call call' failFast e e') :
    Alike call call' failFast (.ifThenElse c t e site) (.ifThenElse c' t' e' site') := by
  intro l
  rw [run_ifThenElse, run_ifThenElse]
  exact .branch (hc l) ((ht l).noting _ _) ((he l).noting _ _)

theorem Alike.anyOf (site site' : ErrorSite) (h : List.Forall₂ (Alike call call' failFast) ns ns') :
    Alike call call' failFast (.anyOf ns site) (.anyOf ns' site') := by
  intro l
  obtain ⟨pairs, rfl, rfl, hpairs⟩ := exists_pairs_of_forall₂ h
  rw [run_anyOf, run_anyOf, List.map_map, List.map_map]
  exact .anyOf (fun pair hp => hpairs pair hp l) _ _

theorem Alike.oneOf (site site' : ErrorSite) (h : List.Forall₂ (Alike call call' failFast) ns ns') :
    Alike call call' failFast (.oneOf ns site) (.oneOf ns' site') := by
  intro l
  obtain ⟨pairs, rfl, rfl, hpairs⟩ := exists_pairs_of_forall₂ h
  rw [run_oneOf, run_oneOf, List.map_map, List.map_map]
  exact .oneOf (fun pair hp => hpairs pair hp l) _ _

end

end Node

/-- Validators whose roots are alike on a value agree about it. -/
theorem Validator.isValid_eq_of_alike {v v' : Validator} {data : Json}
    (h : Node.Alike (v.program.call true (v.program.callBudget data))
      (v'.program.call true (v'.program.callBudget data)) true v.program.root v'.program.root) :
    v'.isValid data = v.isValid data := by
  obtain ⟨φ, hφ, hφ'⟩ := h (.root data)
  obtain ⟨valid, after, hrun, hvalid⟩ := hφ []
  obtain ⟨valid', after', hrun', hvalid'⟩ := hφ' []
  unfold isValid Program.run
  rw [hrun, hrun']
  exact Bool.eq_iff_iff.mpr (hvalid'.trans hvalid.symm)

end JsonSchema
