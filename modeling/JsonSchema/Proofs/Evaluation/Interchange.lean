import JsonSchema.Proofs.Evaluation.Renumbering

/-!
# Nodes that can stand for each other

A relation of nodes can go along with all that is built of nodes (`Node.Congruence`).  One that does is to be
the same to an observer (`Node.Same`): two nodes run alike everywhere, with the same violations in the same
order, and lowering leaves out both or neither.  A node may keep another value of its keyword than the
other, as long as what it reports does not show it (`ErrorSite.Same`).  **A program may have its root
replaced by one that is the same** (`Program.run_same`).
-/

set_option autoImplicit false

namespace JsonSchema

/-! ## Relations of nodes -/

/-- Relations of nodes and of the sites of their violations that go along with what is built of nodes. -/
structure Node.Congruence (R : Node → Node → Prop) (S : ErrorSite → ErrorSite → Prop) : Prop where
  isPass : ∀ {n n'}, R n n' → n'.isPass = n.isPass
  /-- Nodes that call nothing are related to themselves. -/
  constant : ∀ {n : Node}, (∀ f, n.renumber f = n) → R n n
  guard : ∀ {n n'}, R n n' → ∀ type, R (guard type n) (guard type n')
  descend : ∀ {n n'}, R n n' → ∀ step, R (descend step n) (descend step n')
  items : ∀ {n n'}, R n n' → ∀ start, R (items start n) (items start n')
  properties : ∀ {n n'}, R n n' → ∀ filter, R (properties filter n) (properties filter n')
  propertyNames : ∀ {n n' site site'}, R n n' → S site site' → R (propertyNames n site) (propertyNames n' site')
  ifPresent : ∀ {n n'}, R n n' → ∀ name, R (ifPresent name n) (ifPresent name n')
  contains : ∀ {n n' site site'}, R n n' → S site site' → R (contains n site) (contains n' site')
  not : ∀ {n n' site site'}, R n n' → S site site' → R (.not n site) (.not n' site')
  all : ∀ {ns ns'}, List.Forall₂ R ns ns' → R (all ns) (all ns')
  anyOf : ∀ {ns ns' site site'}, List.Forall₂ R ns ns' → S site site' → R (anyOf ns site) (anyOf ns' site')
  oneOf : ∀ {ns ns' site site'}, List.Forall₂ R ns ns' → S site site' → R (oneOf ns site) (oneOf ns' site')
  ifThenElse : ∀ {c c' t t' e e' site site'}, R c c' → R t t' → R e e' → S site site' →
    R (ifThenElse c t e site) (ifThenElse c' t' e' site')

/-- What always passes is left out of both conjunctions, if it is related only to what always passes. -/
theorem Node.conj_related {R : Node → Node → Prop} (isPass : ∀ {n n'}, R n n' → n'.isPass = n.isPass)
    (pass : R .pass .pass) (all : ∀ {ns ns'}, List.Forall₂ R ns ns' → R (.all ns) (.all ns'))
    {ns ns' : List Node} (h : List.Forall₂ R ns ns') : R (conj ns) (conj ns') := by
  have hkept : List.Forall₂ R (ns.filter (!·.isPass)) (ns'.filter (!·.isPass)) := by
    induction h with
    | nil => exact .nil
    | cons h _ ih =>
      rw [List.filter_cons, List.filter_cons, isPass h]
      split
      · exact .cons h ih
      · exact ih
  unfold Node.conj
  revert hkept
  generalize ns.filter (!·.isPass) = kept
  generalize ns'.filter (!·.isPass) = kept'
  rintro (_ | ⟨h, hrest⟩)
  · exact pass
  · cases hrest with
    | nil => exact h
    | cons h' hrest => exact all (.cons h (.cons h' hrest))

namespace Node.Congruence

variable {R : Node → Node → Prop} {S : ErrorSite → ErrorSite → Prop} {n n' : Node} {ns ns' : List Node}

theorem constants (C : Congruence R S) (h : ∀ n ∈ ns, ∀ f, n.renumber f = n) : List.Forall₂ R ns ns :=
  List.forall₂_same.mpr fun n hn => C.constant (h n hn)

/-- What always passes is left out of both conjunctions. -/
theorem conj (C : Congruence R S) (h : List.Forall₂ R ns ns') : R (conj ns) (conj ns') :=
  conj_related C.isPass (C.constant fun _ => rfl) C.all h

/-- Relations between nodes go along with other numbers on the right. -/
theorem renumbered (C : Congruence R S) (f : Nat → Nat) : Congruence (fun n n' => R n (n'.renumber f)) S where
  isPass h := (isPass_renumber f _).symm.trans (C.isPass h)
  constant h := (h f).symm ▸ C.constant h
  guard h := C.guard h
  descend h := C.descend h
  items h := C.items h
  properties h := C.properties h
  propertyNames h hsite := C.propertyNames h hsite
  ifPresent h := C.ifPresent h
  contains h hsite := C.contains h hsite
  not h hsite := C.not h hsite
  all h := C.all (renumberEach_eq_map f _ ▸ List.forall₂_map_right_iff.mpr h)
  anyOf h hsite := C.anyOf (renumberEach_eq_map f _ ▸ List.forall₂_map_right_iff.mpr h) hsite
  oneOf h hsite := C.oneOf (renumberEach_eq_map f _ ▸ List.forall₂_map_right_iff.mpr h) hsite
  ifThenElse hc ht he hsite := C.ifThenElse hc ht he hsite

end Node.Congruence

/-! ## Nodes that run alike -/

/-- The sites report the same, whatever value of the keyword they keep. -/
structure ErrorSite.Same (site site' : ErrorSite) : Prop where
  keyword : site'.keyword = site.keyword
  schemaPath : site'.schemaPath = site.schemaPath
  params : ∀ data, site'.text.params site'.schema data = site.text.params site.schema data
  message : ∀ data, site'.text.message site'.schema data = site.text.message site.schema data

/-- The nodes run alike, and always pass alike. -/
structure Node.Same (n n' : Node) : Prop where
  isPass : n'.isPass = n.isPass
  run : ∀ call failFast l, Node.run call failFast n' l = Node.run call failFast n l

/-- The nodes run alike in one mode, and always pass alike. -/
structure Node.SameIn (failFast : Bool) (n n' : Node) : Prop where
  isPass : n'.isPass = n.isPass
  run : ∀ call l, Node.run call failFast n' l = Node.run call failFast n l

namespace ErrorSite.Same

variable {site site' : ErrorSite}

theorem violation (h : site.Same site') (l : Location) (params : Json) (message : String) :
    site'.violation l params message = site.violation l params message := by
  unfold ErrorSite.violation
  rw [h.keyword, h.schemaPath]

theorem about (h : site.Same site') (l : Location) (data : Json) :
    site'.about l data = site.about l data := by
  unfold ErrorSite.about
  rw [h.violation, h.params, h.message]

end ErrorSite.Same

namespace Node.SameIn

variable {failFast : Bool} {ns ns' : List Node}

theorem refl (n : Node) : n.SameIn failFast n := ⟨rfl, fun _ _ => rfl⟩

/-- Lists of nodes that are the same, one by one, have the same runs. -/
theorem runs (h : List.Forall₂ (Node.SameIn failFast) ns ns') (call : Nat → Location → Run) (l : Location) :
    ns'.map (Node.run call failFast · l) = ns.map (Node.run call failFast · l) := by
  induction h with
  | nil => rfl
  | cons h _ ih => rw [List.map_cons, List.map_cons, h.run, ih]

/-- **Nodes that are built of nodes that run alike run alike.** -/
theorem congruence : Node.Congruence (Node.SameIn failFast) ErrorSite.Same where
  isPass h := h.isPass
  constant _ := refl _
  guard h type := ⟨rfl, fun _ _ => by rw [run_guard, run_guard, h.run]⟩
  descend h step := by
    refine ⟨rfl, fun call l => ?_⟩
    rw [run_descend, run_descend]
    split
    · exact h.run call _
    · rfl
  items h start := by
    refine ⟨rfl, fun call l => ?_⟩
    rw [run_items, run_items, funext (h.run call)]
  properties h filter := ⟨rfl, fun _ _ => by simp only [run_properties, h.run]⟩
  propertyNames h hsite := ⟨rfl, fun _ _ => by simp only [run_propertyNames, h.run, hsite.about]⟩
  ifPresent h name := ⟨rfl, fun _ _ => by rw [run_ifPresent, run_ifPresent, h.run]⟩
  contains h hsite := by
    refine ⟨rfl, fun call l => ?_⟩
    rw [run_contains, run_contains, funext (h.run call), hsite.about]
  not h hsite := ⟨rfl, fun _ _ => by rw [run_not, run_not, h.run, hsite.about]⟩
  all h := ⟨rfl, fun _ _ => by rw [run_all, run_all, runs h]⟩
  anyOf h hsite := ⟨rfl, fun _ _ => by rw [run_anyOf, run_anyOf, runs h, hsite.about]⟩
  oneOf {_ _ site site'} h hsite := by
    refine ⟨rfl, fun call l => ?_⟩
    have hviolation : oneOfViolation site' l = oneOfViolation site l := by
      funext found
      unfold oneOfViolation
      rw [hsite.violation, hsite.message]
    rw [run_oneOf, run_oneOf, runs h, hviolation]
  ifThenElse {_ _ _ _ _ _ site site'} hc ht he hsite := by
    refine ⟨rfl, fun call l => ?_⟩
    have hviolation : branchViolation site' l = branchViolation site l := by
      funext keyword
      exact hsite.violation l _ _
    rw [run_ifThenElse, run_ifThenElse, hc.run, ht.run, he.run, hviolation]

end Node.SameIn

namespace Node.Same

variable {n n' : Node} {ns ns' : List Node}

theorem refl (n : Node) : n.Same n := ⟨rfl, fun _ _ _ => rfl⟩

theorem sameIn (h : n.Same n') (failFast : Bool) : n.SameIn failFast n' :=
  ⟨h.isPass, fun call => h.run call failFast⟩

theorem of_sameIn (h : ∀ failFast, n.SameIn failFast n') : n.Same n' :=
  ⟨(h true).isPass, fun call failFast => (h failFast).run call⟩

theorem sameIn_each (h : List.Forall₂ Node.Same ns ns') (failFast : Bool) :
    List.Forall₂ (Node.SameIn failFast) ns ns' := h.imp fun _ _ h => h.sameIn failFast

/-- **Nodes that are built of the same nodes are the same.** -/
theorem congruence : Node.Congruence Node.Same ErrorSite.Same where
  isPass h := h.isPass
  constant h := .of_sameIn fun _ => SameIn.congruence.constant h
  guard h type := .of_sameIn fun failFast => SameIn.congruence.guard (h.sameIn failFast) type
  descend h step := .of_sameIn fun failFast => SameIn.congruence.descend (h.sameIn failFast) step
  items h start := .of_sameIn fun failFast => SameIn.congruence.items (h.sameIn failFast) start
  properties h filter := .of_sameIn fun failFast => SameIn.congruence.properties (h.sameIn failFast) filter
  propertyNames h hsite :=
    .of_sameIn fun failFast => SameIn.congruence.propertyNames (h.sameIn failFast) hsite
  ifPresent h name := .of_sameIn fun failFast => SameIn.congruence.ifPresent (h.sameIn failFast) name
  contains h hsite := .of_sameIn fun failFast => SameIn.congruence.contains (h.sameIn failFast) hsite
  not h hsite := .of_sameIn fun failFast => SameIn.congruence.not (h.sameIn failFast) hsite
  all h := .of_sameIn fun failFast => SameIn.congruence.all (sameIn_each h failFast)
  anyOf h hsite := .of_sameIn fun failFast => SameIn.congruence.anyOf (sameIn_each h failFast) hsite
  oneOf h hsite := .of_sameIn fun failFast => SameIn.congruence.oneOf (sameIn_each h failFast) hsite
  ifThenElse hc ht he hsite := .of_sameIn fun failFast =>
    SameIn.congruence.ifThenElse (hc.sameIn failFast) (ht.sameIn failFast) (he.sameIn failFast) hsite

end Node.Same

/-! ## Programs -/

namespace Program

/-- Calls do not depend on the root. -/
theorem call_root (root root' : Node) (procedures : List Node) (failFast : Bool) (budget : Nat) :
    (mk root' procedures).call failFast budget = (mk root procedures).call failFast budget := by
  induction budget with
  | zero => rfl
  | succ budget ih =>
    funext procedure l
    rw [call, call, ih]

/-- **A program does the same with another root that is the same.** -/
theorem run_same {root root' : Node} (h : root.Same root') (procedures : List Node) :
    (mk root' procedures).run = (mk root procedures).run := by
  funext failFast data
  unfold run
  rw [call_root root root', h.run]
  rfl

end Program

end JsonSchema
