import JsonSchema.Proofs.Evaluation.Combinators

/-!
# What a node means

`n.Means φ`: wherever the node runs, the run ends and passes exactly on the values with `φ` — in both
modes, whatever was recorded before, and **whatever calls would do**, which only a node without calls
can promise.

There is one rule for each node.  `all` takes its meaning from the list of its parts (`AllMean`), and
`Node.conj`, which leaves out parts that always pass and may leave out `all` itself, means the same as
the list it was made from (`AllMean.conj`).
-/

set_option autoImplicit false

namespace JsonSchema

/-- One entry of a list has the property and no other. -/
def ExactlyOne {α : Type} (P : α → Prop) (xs : List α) : Prop :=
  ∃ i, ∃ _ : i < xs.length, P xs[i] ∧ ∀ j, ∀ _ : j < xs.length, j ≠ i → ¬ P xs[j]

theorem exactlyOne_cons {α : Type} {P : α → Prop} {x : α} {rest : List α} :
    ExactlyOne P (x :: rest) ↔ (P x ∧ ∀ y ∈ rest, ¬ P y) ∨ (¬ P x ∧ ExactlyOne P rest) := by
  constructor
  · rintro ⟨i, hi, hP, hother⟩
    cases i with
    | zero =>
      refine Or.inl ⟨hP, fun y hy => ?_⟩
      obtain ⟨j, hj, rfl⟩ := List.getElem_of_mem hy
      exact hother (j + 1) (Nat.succ_lt_succ hj) (Nat.succ_ne_zero j)
    | succ i =>
      refine Or.inr ⟨hother 0 (Nat.zero_lt_succ _) (Nat.succ_ne_zero i).symm, i,
        Nat.lt_of_succ_lt_succ hi, hP, fun j hj hji => ?_⟩
      exact hother (j + 1) (Nat.succ_lt_succ hj) (fun heq => hji (Nat.succ.inj heq))
  · rintro (⟨hP, hrest⟩ | ⟨hP, i, hi, hPi, hother⟩)
    · refine ⟨0, Nat.zero_lt_succ _, hP, fun j hj hj0 => ?_⟩
      cases j with
      | zero => exact absurd rfl hj0
      | succ j => exact hrest _ (List.getElem_mem (Nat.lt_of_succ_lt_succ hj))
    · refine ⟨i + 1, Nat.succ_lt_succ hi, hPi, fun j hj hji => ?_⟩
      cases j with
      | zero => exact hP
      | succ j => exact hother j (Nat.lt_of_succ_lt_succ hj) fun heq => hji (congrArg _ heq)

/-! ## Runs that decide a question -/

namespace Run

/-- The run ends, and passes exactly if `φ`. -/
def Decides (r : Run) (φ : Prop) : Prop :=
  ∀ errors, ∃ valid after, r errors = some (valid, after) ∧ (valid = true ↔ φ)

namespace Decides

variable {r c t e : Run} {φ ψ χ : Prop} {failFast : Bool}

theorem congr (h : Decides r φ) (heq : φ ↔ ψ) : Decides r ψ := fun errors =>
  let ⟨valid, after, hr, hv⟩ := h errors
  ⟨valid, after, hr, hv.trans heq⟩

theorem pass (h : φ) : Decides (done true) φ := fun errors => ⟨true, errors, rfl, by simp [h]⟩

theorem reject (h : ¬ φ) (v : Violation) : Decides (reject v) φ := fun errors =>
  ⟨false, errors ++ [v], rfl, by simp [h]⟩

theorem noting (h : Decides r φ) (v : Violation) : Decides (noting v r) φ := by
  intro errors
  obtain ⟨valid, after, hr, hv⟩ := h errors
  cases valid with
  | true => exact ⟨true, after, by simp [Run.noting, hr], hv⟩
  | false => exact ⟨false, after ++ [v], by simp [Run.noting, hr], hv⟩

theorem every_nil (h : φ) : Decides (every failFast []) φ := pass h

theorem every_cons {rs : List Run} (hr : Decides r φ) (hrs : Decides (every failFast rs) ψ) :
    Decides (every failFast (r :: rs)) (φ ∧ ψ) := by
  intro errors
  obtain ⟨valid, after, hr, hv⟩ := hr errors
  obtain ⟨valid', after', hrs, hv'⟩ := hrs after
  simp only [every, hr]
  cases valid with
  | true => exact ⟨valid', after', hrs, by simp [← hv, hv']⟩
  | false =>
    -- the rest can still record violations, but not change the verdict
    have hφ : ¬ (φ ∧ ψ) := fun h => absurd (hv.mpr h.1) (by simp)
    dsimp only
    split
    · exact ⟨false, after, rfl, by simp [hφ]⟩
    · exact ⟨false, after', by rw [hrs]; rfl, by simp [hφ]⟩

theorem negate (h : Decides r φ) (v : Violation) : Decides (negate v r) (¬ φ) := by
  intro errors
  obtain ⟨valid, after, hr, hv⟩ := h errors
  simp only [Run.negate, hr]
  cases valid with
  | true => exact ⟨_, _, rfl, by simpa using hv⟩
  | false => exact ⟨_, _, rfl, by simpa using hv⟩

theorem branch (hc : Decides c φ) (ht : Decides t ψ) (he : Decides e χ) :
    Decides (branch c t e) ((φ → ψ) ∧ (¬ φ → χ)) := by
  intro errors
  obtain ⟨matched, after, hr, hv⟩ := hc errors
  simp only [Run.branch, hr]
  cases matched with
  | true =>
    obtain ⟨valid, after', hr', hv'⟩ := ht (after.take errors.length)
    exact ⟨valid, after', hr', by simp [hv', hv.mp rfl]⟩
  | false =>
    have hφ : ¬ φ := fun h => absurd (hv.mpr h) (by simp)
    obtain ⟨valid, after', hr', hv'⟩ := he (after.take errors.length)
    exact ⟨valid, after', hr', by simp [hv', hφ]⟩

/-! ### Runs over a list -/

section

variable {α : Type} {f : α → Run} {P : α → Prop} {xs : List α}

theorem every (h : ∀ x ∈ xs, Decides (f x) (P x)) :
    Decides (every failFast (xs.map f)) (∀ x ∈ xs, P x) := by
  induction xs with
  | nil => exact every_nil fun _ hx => absurd hx List.not_mem_nil
  | cons x rest ih =>
    obtain ⟨hx, hrest⟩ := List.forall_mem_cons.mp h
    exact (every_cons hx (ih hrest)).congr List.forall_mem_cons.symm

theorem untilPass (h : ∀ x ∈ xs, Decides (f x) (P x)) :
    Decides (untilPass (xs.map f)) (∃ x ∈ xs, P x) := by
  induction xs with
  | nil => exact fun errors => ⟨false, errors, rfl, by simp⟩
  | cons x rest ih =>
    intro errors
    obtain ⟨hx, hrest⟩ := List.forall_mem_cons.mp h
    obtain ⟨valid, after, hr, hv⟩ := hx errors
    simp only [List.map_cons, Run.untilPass, hr]
    cases valid with
    | true => exact ⟨true, after, rfl, by simp [hv.mp rfl]⟩
    | false =>
      have hP : ¬ P x := fun hP => absurd (hv.mpr hP) (by simp)
      obtain ⟨found, after', hr', hv'⟩ := ih hrest after
      exact ⟨found, after', hr', by simp [hv', hP]⟩

theorem someOf (h : ∀ x ∈ xs, Decides (f x) (P x)) (v : Violation) :
    Decides (someOf v (xs.map f)) (∃ x ∈ xs, P x) := by
  intro errors
  obtain ⟨found, after, hr, hv⟩ := untilPass h errors
  simp only [Run.someOf, hr]
  cases found with
  | true => exact ⟨_, _, rfl, hv⟩
  | false => exact ⟨_, _, rfl, hv⟩

theorem anyOf (h : ∀ x ∈ xs, Decides (f x) (P x)) (v : Violation) :
    Decides (anyOf v (xs.map f)) (∃ x ∈ xs, P x) := by
  intro errors
  obtain ⟨found, after, hr, hv⟩ := untilPass h errors
  simp only [Run.anyOf, hr]
  cases found with
  | true => exact ⟨_, _, rfl, hv⟩
  | false => exact ⟨_, _, rfl, hv⟩

/-- After one run has passed, the list stays at one exactly if no other passes. -/
theorem passing_one (h : ∀ x ∈ xs, Decides (f x) (P x)) (k : Nat) : ∀ number errors,
    ∃ found after, passing [k] number (xs.map f) errors = some (found, after) ∧
      ((∃ i, found = [i]) ↔ ∀ x ∈ xs, ¬ P x) := by
  induction xs with
  | nil => exact fun _ errors => ⟨[k], errors, rfl, by simp⟩
  | cons x rest ih =>
    intro number errors
    obtain ⟨hx, hrest⟩ := List.forall_mem_cons.mp h
    obtain ⟨valid, after, hr, hv⟩ := hx errors
    simp only [List.map_cons, passing, hr]
    cases valid with
    | true =>
      -- the second that passes ends the search
      refine ⟨[k] ++ [number], after, rfl, ?_⟩
      simp [hv.mp rfl]
    | false =>
      have hP : ¬ P x := fun hP => absurd (hv.mpr hP) (by simp)
      obtain ⟨found, after', hr', hv'⟩ := ih hrest (number + 1) after
      exact ⟨found, after', hr', by simp [hv', hP]⟩

theorem passing_none (h : ∀ x ∈ xs, Decides (f x) (P x)) : ∀ number errors,
    ∃ found after, passing [] number (xs.map f) errors = some (found, after) ∧
      ((∃ i, found = [i]) ↔ ExactlyOne P xs) := by
  induction xs with
  | nil => exact fun _ errors => ⟨[], errors, rfl, by simp [ExactlyOne]⟩
  | cons x rest ih =>
    intro number errors
    obtain ⟨hx, hrest⟩ := List.forall_mem_cons.mp h
    obtain ⟨valid, after, hr, hv⟩ := hx errors
    simp only [List.map_cons, passing, hr]
    cases valid with
    | true =>
      obtain ⟨found, after', hr', hv'⟩ := passing_one hrest number (number + 1) after
      exact ⟨found, after', hr', by simp [hv', exactlyOne_cons, hv.mp rfl]⟩
    | false =>
      have hP : ¬ P x := fun hP => absurd (hv.mpr hP) (by simp)
      obtain ⟨found, after', hr', hv'⟩ := ih hrest (number + 1) after
      exact ⟨found, after', hr', by simp [hv', exactlyOne_cons, hP]⟩

theorem oneOf (h : ∀ x ∈ xs, Decides (f x) (P x)) (v : List Nat → Violation) :
    Decides (oneOf v (xs.map f)) (ExactlyOne P xs) := by
  intro errors
  obtain ⟨found, after, hr, hv⟩ := passing_none h 0 errors
  simp only [Run.oneOf, hr]
  split
  · next heq => cases heq
  · next heq =>
    obtain ⟨rfl, rfl⟩ := Prod.mk.inj (Option.some.inj heq)
    exact ⟨_, _, rfl, by simp [← hv]⟩
  -- none passed, or two
  · next hnot heq =>
    obtain ⟨rfl, rfl⟩ := Prod.mk.inj (Option.some.inj heq)
    refine ⟨_, _, rfl, ?_⟩
    have : ¬ ∃ i, found = [i] := fun ⟨i, hi⟩ => hnot i hi
    simp [← hv, this]

end

end Decides

end Run

/-! ## Nodes that mean something -/

/-- Wherever the node runs, and whatever calls would do, it passes exactly on the values with `φ`. -/
def Node.Means (n : Node) (φ : Json → Prop) : Prop :=
  ∀ call failFast l, (n.run call failFast l).Decides (φ l.value)

/-- All of the nodes together pass exactly on the values with `φ`. -/
inductive AllMean : List Node → (Json → Prop) → Prop where
  | nil {φ : Json → Prop} : (∀ v, φ v) → AllMean [] φ
  | cons {n : Node} {rest : List Node} {φ ψ χ : Json → Prop} :
      n.Means φ → AllMean rest ψ → (∀ v, χ v ↔ φ v ∧ ψ v) → AllMean (n :: rest) χ

namespace AllMean

variable {ms ns : List Node} {n : Node} {φ ψ : Json → Prop}

theorem congr (h : AllMean ns φ) (heq : ∀ v, ψ v ↔ φ v) : AllMean ns ψ := by
  cases h with
  | nil hφ => exact .nil fun v => (heq v).mpr (hφ v)
  | cons hn hrest hχ => exact .cons hn hrest fun v => (heq v).trans (hχ v)

theorem single (h : n.Means φ) : AllMean [n] φ := .cons h (.nil fun _ => trivial) (by simp)

theorem append (hm : AllMean ms φ) (hn : AllMean ns ψ) : AllMean (ms ++ ns) (fun v => φ v ∧ ψ v) := by
  induction hm with
  | nil hφ => exact hn.congr (by simp [hφ])
  | cons h _ hχ ih => exact .cons h ih (by simp [hχ, and_assoc])

/-- What stands between other nodes has its say as well. -/
theorem insert (hm : AllMean ms ψ) : ∀ {before after : List Node} {φ : Json → Prop},
    AllMean (before ++ after) φ → AllMean (before ++ (ms ++ after)) (fun v => φ v ∧ ψ v) := by
  intro before
  induction before with
  | nil => exact fun hn => (hm.append hn).congr fun _ => and_comm
  | cons n rest ih =>
    intro after φ hn
    cases hn with
    | cons h hrest hχ => exact .cons h (ih hrest) fun v => by rw [hχ, and_assoc]

theorem map {α : Type} {g : α → Node} {P : α → Json → Prop} {xs : List α}
    (h : ∀ x ∈ xs, (g x).Means (P x)) : AllMean (xs.map g) (fun v => ∀ x ∈ xs, P x v) := by
  induction xs with
  | nil => exact .nil (by simp)
  | cons x rest ih =>
    obtain ⟨hx, hrest⟩ := List.forall_mem_cons.mp h
    exact .cons hx (ih hrest) fun _ => List.forall_mem_cons

/-- Lists of nodes that come one from each entry. -/
theorem of_forall₂ {α : Type} {P : α → Json → Prop} {xs : List α}
    (h : List.Forall₂ (fun x n => n.Means (P x)) xs ns) : AllMean ns (fun v => ∀ x ∈ xs, P x v) := by
  induction h with
  | nil => exact .nil (by simp)
  | cons hx _ ih => exact .cons hx ih fun _ => List.forall_mem_cons

theorem every (h : AllMean ns φ) (call : Nat → Location → Run) (failFast : Bool) (l : Location) :
    (Run.every failFast (ns.map (Node.run call failFast · l))).Decides (φ l.value) := by
  induction h with
  | nil hφ => exact .every_nil (hφ l.value)
  | cons hn _ hχ ih => exact (Run.Decides.every_cons (hn call failFast l) ih).congr (hχ l.value).symm

end AllMean

namespace Node

variable {body : Node} {φ : Json → Prop}

theorem Means.congr {n : Node} {ψ : Json → Prop} (h : n.Means φ) (heq : ∀ v, ψ v ↔ φ v) : n.Means ψ :=
  fun call failFast l => (h call failFast l).congr (heq l.value).symm

theorem pass_means (h : ∀ v, φ v) : pass.Means φ := fun call failFast l => by
  rw [run_pass]
  exact .pass (h l.value)

/-- Nothing but the truth is meant by `pass`. -/
theorem of_pass_means (h : pass.Means φ) (v : Json) : φ v := by
  obtain ⟨valid, after, hr, hv⟩ := h (fun _ _ => Run.stuck) true (.root v) []
  rw [run_pass] at hr
  obtain ⟨rfl, rfl⟩ := Prod.mk.inj (Option.some.inj hr)
  exact hv.mp rfl

theorem of_isPass_means {n : Node} (hn : n.isPass = true) (h : n.Means φ) (v : Json) : φ v := by
  cases n with
  | pass => exact of_pass_means h v
  | _ => cases hn

theorem all_means {nodes : List Node} (h : AllMean nodes φ) : (all nodes).Means φ :=
  fun call failFast l => by
    rw [run_all]
    exact h.every call failFast l

theorem reject_means (site : ErrorSite) (h : ∀ v, ¬ φ v) : (reject site).Means φ :=
  fun call failFast l => by
    rw [run_reject]
    exact .reject (h l.value) _

theorem guard_means {group : DataType} (h : body.Means φ) :
    (guard group body).Means fun v => group.accepts v = true → φ v := fun call failFast l => by
  rw [run_guard]
  split
  · next hg => exact (h call failFast l).congr (by simp [hg])
  · next hg => exact .pass (by simp [hg])

theorem type_means (types : List DataType) (site : ErrorSite) :
    (type types site).Means fun v => ∃ t ∈ types, t.accepts v = true := fun call failFast l => by
  rw [run_type]
  split
  · next ht => exact .pass (by simpa using ht)
  · next ht => exact .reject (by simpa using ht) _

/-- A check against a value that stands in the schema. -/
theorem check_means {c : Check} {w : Json} (h : c.value = .literal w) :
    (check c).Means fun v => c.fails v w = false := fun call failFast l => by
  have hrun : run call failFast (check c) l = c.test l w := by
    rw [run]
    funext errors
    simp only [Check.run, h]
  intro errors
  rw [hrun, Check.test]
  split
  · next hf => exact ⟨false, _, rfl, by simp [hf]⟩
  · next hf => exact ⟨true, errors, rfl, by simpa using hf⟩

theorem descend_means {step : Step} (h : body.Means φ) :
    (descend step body).Means fun v => ∀ w, step.child? v = some w → φ w := fun call failFast l => by
  rw [run_descend]
  split
  · next w hw =>
    refine (h call failFast (.child l step w)).congr ?_
    show φ w ↔ _
    simp [hw]
  · next hw => exact .pass (by simp [hw])

theorem map_value_elements (l : Location) (vs : List Json) :
    ∀ start, (l.elements start vs).map Location.value = vs := by
  induction vs with
  | nil => exact fun _ => rfl
  | cons v rest ih => exact fun start => congrArg (v :: ·) (ih (start + 1))

/-- The elements as values: those of the array from a number on, or none. -/
theorem map_value_elementsFrom (l : Location) (start : Nat) :
    (elementsFrom l start).map Location.value = (l.value.arr?.getD []).drop start := by
  unfold elementsFrom
  split
  · next vs hv => rw [map_value_elements, hv]; rfl
  · next hv =>
    have : l.value.arr? = none := by
      cases hl : l.value with
      | arr vs => exact absurd hl (hv vs)
      | _ => rfl
    simp [this]

theorem forall_elementsFrom {l : Location} {start : Nat} :
    (∀ e ∈ elementsFrom l start, φ e.value) ↔
      ∀ vs, l.value = .arr vs → ∀ e ∈ vs.drop start, φ e := by
  have hvalues : (∀ e ∈ elementsFrom l start, φ e.value) ↔
      ∀ w ∈ (l.value.arr?.getD []).drop start, φ w := by
    rw [← map_value_elementsFrom, List.forall_mem_map]
  rw [hvalues]
  cases l.value <;> simp [Json.arr?]

theorem exists_elementsFrom {l : Location} {start : Nat} :
    (∃ e ∈ elementsFrom l start, φ e.value) ↔ ∃ w ∈ (l.value.arr?.getD []).drop start, φ w := by
  rw [← map_value_elementsFrom]
  simp

theorem items_means {start : Nat} (h : body.Means φ) :
    (items start body).Means fun v => ∀ vs, v = .arr vs → ∀ e ∈ vs.drop start, φ e :=
  fun call failFast l => by
    rw [run_items]
    exact (Run.Decides.every fun e _ => h call failFast e).congr forall_elementsFrom

theorem contains_means {site : ErrorSite} (h : body.Means φ) :
    (contains body site).Means fun v => ∀ vs, v = .arr vs → ∃ e ∈ vs, φ e := fun call failFast l => by
  rw [run_contains]
  split
  · next harr =>
    refine (Run.Decides.someOf (fun e _ => h call failFast e) _).congr ?_
    rw [exists_elementsFrom]
    cases hv : l.value with
    | arr vs => simp [Json.arr?]
    | _ => simp [hv, Json.arr?] at harr
  · next harr =>
    refine .pass fun vs hv => ?_
    simp [hv, Json.arr?] at harr

theorem forall_selected {l : Location} {filter : PropertyFilter} {P : String → Json → Prop} :
    (∀ m ∈ l.selected filter, P m.1 m.2.value) ↔
      ∀ ms, l.value = .obj ms → ∀ m ∈ ms, filter.selects m.1 = true → P m.1 m.2 := by
  unfold Location.selected
  cases l.value with
  | obj ms =>
    rw [List.forall_mem_map]
    constructor
    · rintro h _ ⟨⟩ m hm hs
      exact h m (List.mem_filter.mpr ⟨hm, hs⟩)
    · intro h m hm
      obtain ⟨hm, hs⟩ := List.mem_filter.mp hm
      exact h ms rfl m hm hs
  | _ => simp

theorem properties_means {filter : PropertyFilter} (h : body.Means φ) :
    (properties filter body).Means fun v =>
      ∀ ms, v = .obj ms → ∀ m ∈ ms, filter.selects m.1 = true → φ m.2 := fun call failFast l => by
  rw [run_properties]
  exact (Run.Decides.every fun m _ => h call failFast m.2).congr
    (forall_selected (P := fun _ w => φ w))

theorem noProperties_means (filter : PropertyFilter) (site : ErrorSite) :
    (noProperties filter site).Means fun v =>
      ∀ ms, v = .obj ms → ∀ m ∈ ms, ¬ filter.selects m.1 = true := fun call failFast l => by
  rw [run_noProperties]
  exact (Run.Decides.every fun m _ => .reject (show ¬ False from id) _).congr
    (forall_selected (P := fun _ _ => False))

theorem forall_namesOf {l : Location} :
    (∀ name ∈ namesOf l, φ name.value) ↔ ∀ ms, l.value = .obj ms → ∀ m ∈ ms, φ (.str m.1) := by
  have hv : ∀ v, (l.withValue v).value = v := fun v => by cases l <;> rfl
  unfold namesOf
  cases l.value with
  | obj ms =>
    rw [List.forall_mem_map]
    simp [hv]
  | _ => simp

theorem propertyNames_means {site : ErrorSite} (h : body.Means φ) :
    (propertyNames body site).Means fun v => ∀ ms, v = .obj ms → ∀ m ∈ ms, φ (.str m.1) :=
  fun call failFast l => by
    rw [run_propertyNames]
    exact (Run.Decides.every fun name _ => (h call failFast name).noting _).congr forall_namesOf

theorem ifPresent_means {name : String} (h : body.Means φ) :
    (ifPresent name body).Means fun v => (v.get? name).isSome → φ v := fun call failFast l => by
  rw [run_ifPresent]
  split
  · next hp => exact (h call failFast l).congr (by simp [hp])
  · next hp => exact .pass (by simp [hp])

theorem not_means {site : ErrorSite} (h : body.Means φ) :
    (not body site).Means fun v => ¬ φ v := fun call failFast l => by
  rw [run_not]
  exact (h call failFast l).negate _

theorem ifThenElse_means {c t e : Node} {ψ χ : Json → Prop} {site : ErrorSite} (hc : c.Means φ)
    (ht : t.Means ψ) (he : e.Means χ) :
    (ifThenElse c t e site).Means fun v => (φ v → ψ v) ∧ (¬ φ v → χ v) := fun call failFast l => by
  rw [run_ifThenElse]
  exact .branch (hc call failFast l) ((ht call failFast l).noting _) ((he call failFast l).noting _)

/-! ### Branches, each with the schema it came from -/

section

variable {α : Type} {P : α → Json → Prop} {xs : List α} {branches : List Node}

/-- Related lists are the two sides of one list of pairs. -/
theorem exists_pairs_of_forall₂ {R : α → Node → Prop} (h : List.Forall₂ R xs branches) :
    ∃ pairs : List (α × Node), xs = pairs.map Prod.fst ∧ branches = pairs.map Prod.snd ∧
      ∀ pair ∈ pairs, R pair.1 pair.2 := by
  induction h with
  | nil => exact ⟨[], rfl, rfl, fun _ h => absurd h List.not_mem_nil⟩
  | @cons x n _ _ hx _ ih =>
    obtain ⟨pairs, rfl, rfl, hpairs⟩ := ih
    exact ⟨(x, n) :: pairs, rfl, rfl, List.forall_mem_cons.mpr ⟨hx, hpairs⟩⟩

theorem anyOf_means {site : ErrorSite}
    (h : List.Forall₂ (fun x n => n.Means (P x)) xs branches) :
    (anyOf branches site).Means fun v => ∃ x ∈ xs, P x v := fun call failFast l => by
  obtain ⟨pairs, rfl, rfl, hpairs⟩ := exists_pairs_of_forall₂ h
  rw [run_anyOf, List.map_map]
  refine (Run.Decides.anyOf (fun pair hp => hpairs pair hp call failFast l) _).congr ?_
  simp

theorem oneOf_means {site : ErrorSite}
    (h : List.Forall₂ (fun x n => n.Means (P x)) xs branches) :
    (oneOf branches site).Means fun v => ExactlyOne (P · v) xs := fun call failFast l => by
  obtain ⟨pairs, rfl, rfl, hpairs⟩ := exists_pairs_of_forall₂ h
  rw [run_oneOf, List.map_map]
  refine (Run.Decides.oneOf (fun pair hp => hpairs pair hp call failFast l) _).congr ?_
  simp [ExactlyOne]

end

end Node

/-! ## Conjunctions -/

namespace AllMean

variable {ns : List Node} {n : Node} {φ : Json → Prop}

/-- Leaving out the nodes that always pass changes nothing. -/
theorem kept (h : AllMean ns φ) : AllMean (ns.filter (!·.isPass)) φ := by
  induction h with
  | nil hφ => exact .nil hφ
  | @cons n rest φ ψ χ hn _ hχ ih =>
    by_cases hpass : n.isPass = true
    -- what always passes means the truth, so that the rest means as much without it
    · rw [List.filter_cons_of_neg (by simp [hpass])]
      exact ih.congr fun v => (hχ v).trans (by simp [Node.of_isPass_means hpass hn v])
    · rw [List.filter_cons_of_pos (by simpa using hpass)]
      exact .cons hn ih hχ

theorem means_of_single (h : AllMean [n] φ) : n.Means φ := by
  cases h with
  | cons hn hrest hχ =>
    cases hrest with
    | nil hψ => exact hn.congr fun v => (hχ v).trans (by simp [hψ v])

/-- **A conjunction means what its nodes mean together.** -/
theorem conj (h : AllMean ns φ) : (Node.conj ns).Means φ := by
  have hkept := h.kept
  unfold Node.conj
  split
  · next heq =>
    rw [heq] at hkept
    cases hkept with
    | nil hφ => exact Node.pass_means hφ
  · next n heq =>
    rw [heq] at hkept
    exact hkept.means_of_single
  · exact Node.all_means hkept

end AllMean

/-- A validator passes what the root of its program means. -/
theorem Validator.isValid_iff_of_means {validator : Validator} {φ : Json → Prop}
    (h : validator.program.root.Means φ) (data : Json) : validator.isValid data = true ↔ φ data := by
  obtain ⟨valid, errors, hrun, hvalid⟩ := h (validator.program.call true _) true (.root data) []
  rw [isValid, Program.run, hrun]
  exact hvalid

end JsonSchema
