import JsonSchema.Proofs.Evaluation.SameVerdict

/-!
# Nodes that bound each other

A node is an upper bound of another if it passes wherever the other does, and a lower bound the other way
round (`Node.Bounds`).  Every node that can stand around others keeps bounds of the one kind or turns
them into bounds of the other: **`not` and the condition before a `then` turn them around**, and `oneOf`
keeps neither, so that its branches have to be bounded from both sides.
-/

set_option autoImplicit false

namespace JsonSchema

/-- The first proposition is an upper or a lower bound of the second. -/
def Bounds (upper : Bool) (φ φ' : Prop) : Prop :=
  match upper with
  | true => φ' → φ
  | false => φ → φ'

namespace Bounds

variable {upper : Bool} {φ φ' ψ ψ' : Prop}

theorem of_iff (h : φ ↔ φ') : Bounds upper φ φ' := by
  cases upper
  · exact h.mp
  · exact h.mpr

theorem congr {χ χ' : Prop} (h : Bounds upper φ φ') (hφ : φ ↔ χ) (hφ' : φ' ↔ χ') : Bounds upper χ χ' := by
  cases upper
  · exact fun hχ => hφ'.mp (h (hφ.mpr hχ))
  · exact fun hχ' => hφ.mp (h (hφ'.mpr hχ'))

theorem and (h : Bounds upper φ φ') (h' : Bounds upper ψ ψ') : Bounds upper (φ ∧ ψ) (φ' ∧ ψ') := by
  cases upper
  · exact And.imp h h'
  · exact And.imp h h'

theorem not (h : Bounds (!upper) φ φ') : Bounds upper (¬ φ) (¬ φ') := by
  cases upper
  · exact mt h
  · exact mt h

theorem imp (h : Bounds (!upper) φ φ') (h' : Bounds upper ψ ψ') : Bounds upper (φ → ψ) (φ' → ψ') := by
  cases upper
  · exact fun hφψ hφ' => h' (hφψ (h hφ'))
  · exact fun hφψ hφ => h' (hφψ (h hφ))

section

variable {α : Type} {xs : List α} {P P' : α → Prop}

theorem forall_mem (h : ∀ x ∈ xs, Bounds upper (P x) (P' x)) :
    Bounds upper (∀ x ∈ xs, P x) (∀ x ∈ xs, P' x) := by
  cases upper
  · exact fun hall x hx => h x hx (hall x hx)
  · exact fun hall x hx => h x hx (hall x hx)

theorem exists_mem (h : ∀ x ∈ xs, Bounds upper (P x) (P' x)) :
    Bounds upper (∃ x ∈ xs, P x) (∃ x ∈ xs, P' x) := by
  cases upper
  · exact fun ⟨x, hx, hP⟩ => ⟨x, hx, h x hx hP⟩
  · exact fun ⟨x, hx, hP⟩ => ⟨x, hx, h x hx hP⟩

end

end Bounds

/-! ## Runs -/

namespace Run

/-- Both runs end, and whether the first passes bounds whether the second does. -/
def Bounds (upper : Bool) (r r' : Run) : Prop :=
  ∃ φ φ', r.Decides φ ∧ r'.Decides φ' ∧ JsonSchema.Bounds upper φ φ'

theorem SameVerdict.bounds {r r' : Run} {upper : Bool} (h : SameVerdict r r') : Bounds upper r r' :=
  let ⟨φ, hr, hr'⟩ := h
  ⟨φ, φ, hr, hr', .of_iff Iff.rfl⟩

namespace Bounds

variable {upper failFast : Bool} {r r' c c' t t' e e' : Run}

theorem refl {φ : Prop} (h : r.Decides φ) : Bounds upper r r := ⟨φ, φ, h, h, .of_iff Iff.rfl⟩

theorem pass : Bounds upper (done true) (done true) := .refl (.pass trivial)

theorem passes (h : Bounds upper r r') :
    r.Decides (r.Decides True) ∧ r'.Decides (r'.Decides True) ∧
      JsonSchema.Bounds upper (r.Decides True) (r'.Decides True) :=
  let ⟨_, _, hr, hr', hle⟩ := h
  ⟨hr.congr hr.iff_passes.symm, hr'.congr hr'.iff_passes.symm,
    hle.congr hr.iff_passes.symm hr'.iff_passes.symm⟩

/-- Bounds from both sides leave one verdict. -/
theorem sameVerdict (hupper : Bounds true r r') (hlower : Bounds false r r') : SameVerdict r r' := by
  obtain ⟨hr, hr', hle⟩ := hupper.passes
  obtain ⟨-, -, hge⟩ := hlower.passes
  exact ⟨_, hr, hr'.congr ⟨hle, hge⟩⟩

theorem noting (h : Bounds upper r r') (v v' : Violation) : Bounds upper (noting v r) (noting v' r') :=
  let ⟨φ, φ', hr, hr', hle⟩ := h
  ⟨φ, φ', hr.noting v, hr'.noting v', hle⟩

theorem negate (h : Bounds (!upper) r r') (v v' : Violation) :
    Bounds upper (negate v r) (negate v' r') :=
  let ⟨_, _, hr, hr', hle⟩ := h
  ⟨_, _, hr.negate v, hr'.negate v', hle.not⟩

/-- A condition is turned around before its first branch and kept before its second; it does not matter
    to a branch that always passes. -/
theorem branch (hc : ∃ φ φ', c.Decides φ ∧ c'.Decides φ')
    (hthen : Bounds (!upper) c c' ∨ t.Decides True ∧ t'.Decides True)
    (helse : Bounds upper c c' ∨ e.Decides True ∧ e'.Decides True)
    (ht : Bounds upper t t') (he : Bounds upper e e') :
    Bounds upper (branch c t e) (branch c' t' e') := by
  obtain ⟨φ, φ', hφ, hφ'⟩ := hc
  obtain ⟨ψ, ψ', hψ, hψ', hψle⟩ := ht
  obtain ⟨χ, χ', hχ, hχ', hχle⟩ := he
  refine ⟨_, _, hφ.branch hψ hχ, hφ'.branch hψ' hχ', .and ?_ ?_⟩
  · rcases hthen with hle | ⟨htrue, htrue'⟩
    · exact (hle.passes.2.2.congr hφ.iff_passes hφ'.iff_passes).imp hψle
    · have hψtrue := hψ.iff_passes.mp htrue
      have hψtrue' := hψ'.iff_passes.mp htrue'
      exact .of_iff (by simp [hψtrue, hψtrue'])
  · rcases helse with hle | ⟨htrue, htrue'⟩
    · refine .imp (.not ?_) hχle
      rw [Bool.not_not]
      exact hle.passes.2.2.congr hφ.iff_passes hφ'.iff_passes
    · have hχtrue := hχ.iff_passes.mp htrue
      have hχtrue' := hχ'.iff_passes.mp htrue'
      exact .of_iff (by simp [hχtrue, hχtrue'])

/-! ### Runs over a list -/

section

variable {α : Type} {f g : α → Run} {xs : List α}

theorem every (h : ∀ x ∈ xs, Bounds upper (f x) (g x)) :
    Bounds upper (every failFast (xs.map f)) (every failFast (xs.map g)) :=
  ⟨_, _, .every fun x hx => (h x hx).passes.1, .every fun x hx => (h x hx).passes.2.1,
    .forall_mem fun x hx => (h x hx).passes.2.2⟩

theorem someOf (h : ∀ x ∈ xs, Bounds upper (f x) (g x)) (v v' : Violation) :
    Bounds upper (someOf v (xs.map f)) (someOf v' (xs.map g)) :=
  ⟨_, _, .someOf (fun x hx => (h x hx).passes.1) v, .someOf (fun x hx => (h x hx).passes.2.1) v',
    .exists_mem fun x hx => (h x hx).passes.2.2⟩

theorem anyOf (h : ∀ x ∈ xs, Bounds upper (f x) (g x)) (v v' : Violation) :
    Bounds upper (anyOf v (xs.map f)) (anyOf v' (xs.map g)) :=
  ⟨_, _, .anyOf (fun x hx => (h x hx).passes.1) v, .anyOf (fun x hx => (h x hx).passes.2.1) v',
    .exists_mem fun x hx => (h x hx).passes.2.2⟩

theorem oneOf (h : ∀ x ∈ xs, ∀ upper, Bounds upper (f x) (g x)) (v v' : List Nat → Violation) :
    Bounds upper (oneOf v (xs.map f)) (oneOf v' (xs.map g)) :=
  (SameVerdict.oneOf (fun x hx => (h x hx true).sameVerdict (h x hx false)) v v').bounds

end

end Bounds

end Run

/-! ## Nodes -/

namespace Node

/-- Wherever the nodes run, and whatever calls would do, the one bounds the other. -/
def Bounds (upper : Bool) (n n' : Node) : Prop :=
  ∀ call call' failFast l, (n.run call failFast l).Bounds upper (n'.run call' failFast l)

/-- All of the nodes together bound all of the others. -/
def AllBound (upper : Bool) (ns ns' : List Node) : Prop :=
  ∀ call call' failFast l, (Run.every failFast (ns.map (run call failFast · l))).Bounds upper
    (Run.every failFast (ns'.map (run call' failFast · l)))

section

variable {upper : Bool} {n n' body body' : Node} {ns ns' ms ms' : List Node}

theorem AllBound.nil : AllBound upper [] [] := fun _ _ _ _ => .pass

/-- No nodes are an upper bound of all. -/
theorem AllBound.nil_left (h : AllBound true ns ns') : AllBound true [] ns' := fun call call' failFast l =>
  let ⟨_, φ', _, hr', _⟩ := h call call' failFast l
  ⟨True, φ', .every_nil trivial, hr', fun _ => trivial⟩

theorem AllBound.append (h : AllBound upper ns ns') (h' : AllBound upper ms ms') :
    AllBound upper (ns ++ ms) (ns' ++ ms') := by
  intro call call' failFast l
  obtain ⟨φ, φ', hn, hn', hle⟩ := h call call' failFast l
  obtain ⟨ψ, ψ', hm, hm', hle'⟩ := h' call call' failFast l
  rw [List.map_append, List.map_append, funext (Run.every_append _ _ _),
    funext (Run.every_append _ _ _)]
  exact ⟨_, _, .every_cons hn (.every_cons hm (.every_nil trivial)),
    .every_cons hn' (.every_cons hm' (.every_nil trivial)), hle.and (hle'.and (.of_iff Iff.rfl))⟩

theorem Bounds.single (h : Bounds upper n n') : AllBound upper [n] [n'] := by
  intro call call' failFast l
  rw [List.map_singleton, List.map_singleton, Run.every_single, Run.every_single]
  exact h call call' failFast l

theorem AllBound.of_forall₂ (h : List.Forall₂ (Bounds upper) ns ns') : AllBound upper ns ns' := by
  induction h with
  | nil => exact .nil
  | cons hn _ ih => exact hn.single.append ih

theorem AllBound.conj (h : AllBound upper ns ns') : Bounds upper (conj ns) (Node.conj ns') := by
  intro call call' failFast l
  rw [run_conj, run_conj]
  exact h call call' failFast l

theorem Bounds.of_alike (h : ∀ call call' failFast, Alike call call' failFast n n') : Bounds upper n n' :=
  fun call call' failFast l => (h call call' failFast l).bounds

theorem Bounds.descend (step : Step) (h : Bounds upper body body') :
    Bounds upper (.descend step body) (.descend step body') := by
  intro call call' failFast l
  rw [run_descend, run_descend]
  cases step.child? l.value with
  | none => exact .pass
  | some v => exact h call call' failFast _

theorem Bounds.items (start : Nat) (h : Bounds upper body body') :
    Bounds upper (.items start body) (.items start body') := by
  intro call call' failFast l
  rw [run_items, run_items]
  exact .every fun e _ => h call call' failFast e

theorem Bounds.properties (filter : PropertyFilter) (h : Bounds upper body body') :
    Bounds upper (.properties filter body) (.properties filter body') := by
  intro call call' failFast l
  rw [run_properties, run_properties]
  exact .every fun m _ => h call call' failFast m.2

theorem Bounds.propertyNames (site site' : ErrorSite) (h : Bounds upper body body') :
    Bounds upper (.propertyNames body site) (.propertyNames body' site') := by
  intro call call' failFast l
  rw [run_propertyNames, run_propertyNames]
  exact .every fun name _ => (h call call' failFast name).noting _ _

theorem Bounds.ifPresent (name : String) (h : Bounds upper body body') :
    Bounds upper (.ifPresent name body) (.ifPresent name body') := by
  intro call call' failFast l
  rw [run_ifPresent, run_ifPresent]
  split
  · exact h call call' failFast l
  · exact .pass

theorem Bounds.contains (site site' : ErrorSite) (h : Bounds upper body body') :
    Bounds upper (.contains body site) (.contains body' site') := by
  intro call call' failFast l
  rw [run_contains, run_contains]
  split
  · exact .someOf (fun e _ => h call call' failFast e) _ _
  · exact .pass

/-- **A negation turns bounds around.** -/
theorem Bounds.not (site site' : ErrorSite) (h : Bounds (!upper) body body') :
    Bounds upper (.not body site) (.not body' site') := by
  intro call call' failFast l
  rw [run_not, run_not]
  exact (h call call' failFast l).negate _ _

theorem Bounds.ifThenElse {c c' t t' e e' : Node} (site site' : ErrorSite)
    (hc : ∃ upper, Bounds upper c c') (hthen : Bounds (!upper) c c' ∨ t = .pass ∧ t' = .pass)
    (helse : Bounds upper c c' ∨ e = .pass ∧ e' = .pass)
    (ht : Bounds upper t t') (he : Bounds upper e e') :
    Bounds upper (.ifThenElse c t e site) (.ifThenElse c' t' e' site') := by
  intro call call' failFast l
  have hpass : ∀ {n : Node} (call : Nat → Location → Run) (v : Violation), n = .pass →
      (Run.noting v (n.run call failFast l)).Decides True := by
    rintro _ call v rfl
    rw [run_pass]
    exact (Run.Decides.pass trivial).noting v
  rw [run_ifThenElse, run_ifThenElse]
  refine .branch ?_ ?_ ?_ ((ht call call' failFast l).noting _ _) ((he call call' failFast l).noting _ _)
  · obtain ⟨upper, hc⟩ := hc
    obtain ⟨φ, φ', hφ, hφ', -⟩ := hc call call' failFast l
    exact ⟨φ, φ', hφ, hφ'⟩
  · exact hthen.imp (fun h => h call call' failFast l) fun ⟨ht, ht'⟩ => ⟨hpass _ _ ht, hpass _ _ ht'⟩
  · exact helse.imp (fun h => h call call' failFast l) fun ⟨he, he'⟩ => ⟨hpass _ _ he, hpass _ _ he'⟩

theorem Bounds.anyOf (site site' : ErrorSite) (h : List.Forall₂ (Bounds upper) ns ns') :
    Bounds upper (.anyOf ns site) (.anyOf ns' site') := by
  intro call call' failFast l
  obtain ⟨pairs, rfl, rfl, hpairs⟩ := exists_pairs_of_forall₂ h
  rw [run_anyOf, run_anyOf, List.map_map, List.map_map]
  exact .anyOf (fun pair hp => hpairs pair hp call call' failFast l) _ _

/-- Branches of which one has to pass are bounded from both sides. -/
theorem Bounds.oneOf (site site' : ErrorSite)
    (h : List.Forall₂ (fun n n' => ∀ upper, Bounds upper n n') ns ns') :
    Bounds upper (.oneOf ns site) (.oneOf ns' site') := by
  intro call call' failFast l
  obtain ⟨pairs, rfl, rfl, hpairs⟩ := exists_pairs_of_forall₂ h
  rw [run_oneOf, run_oneOf, List.map_map, List.map_map]
  exact .oneOf (fun pair hp upper => hpairs pair hp upper call call' failFast l) _ _

end

end Node

end JsonSchema
