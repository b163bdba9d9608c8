import JsonSchema.Proofs.Evaluation.Records
import JsonSchema.Proofs.Evaluation.Termination

/-!
# Where a violation comes from

A run returns a flat list of violations.  Here each of them gets its origin back: the node that worded
it, the location at which that node was run and failed, and the subject that it was worded about
(`Violation.Origin`).  The step lemma `Node.records_cases` says that what a node records it has worded
itself or one of its direct runs (`Node.runsAt`) has recorded; the run lemma `Program.records_origin` is
the induction over the tree and the budget of calls.

The subject is the value at the location, or the name of one of its members: `propertyNames` and
`additionalProperties` report names, **at the path of the object that has them**.
-/

set_option autoImplicit false

namespace JsonSchema

/-! ## What the combinators record -/

namespace Run

/-- Without earlier violations, the run records the violation. -/
def Records (r : Run) (e : Violation) : Prop := ∃ valid new, r [] = some (valid, new) ∧ e ∈ new

variable {r t f : Run} {rs : List Run} {e e' : Violation} {failFast : Bool}

theorem not_records_stuck : ¬ Records stuck e := by
  rintro ⟨valid, new, h, -⟩
  cases h

theorem not_records_done {valid : Bool} : ¬ Records (done valid) e := by
  rintro ⟨_, new, h, he⟩
  cases h
  exact List.not_mem_nil he

theorem records_reject (h : Records (reject e') e) : e = e' := by
  obtain ⟨valid, new, h, he⟩ := h
  cases h
  exact List.mem_singleton.mp he

theorem records_noting (h : Records (noting e' r) e) : e = e' ∨ r.Records e := by
  obtain ⟨valid, new, h, he⟩ := h
  simp only [noting] at h
  split at h
  · cases h
  · next hr =>
    cases h
    exact .inr ⟨true, new, hr, he⟩
  · next new hr =>
    cases h
    rcases List.mem_append.mp he with he | he
    · exact .inr ⟨false, new, hr, he⟩
    · exact .inl (List.mem_singleton.mp he)

theorem records_every (hrs : ∀ r ∈ rs, Faithful r) (h : Records (every failFast rs) e) :
    ∃ r ∈ rs, r.Records e := by
  induction rs with
  | nil => exact absurd h not_records_done
  | cons r rest ih =>
    obtain ⟨hr, hrest⟩ := List.forall_mem_cons.mp hrs
    have hlater : Records (every failFast rest) e → ∃ r' ∈ r :: rest, r'.Records e := fun h =>
      (ih hrest h).imp fun _ h => ⟨List.mem_cons_of_mem _ h.1, h.2⟩
    obtain ⟨valid, after, h, he⟩ := h
    simp only [every] at h
    split at h
    · cases h
    · next errors hpass =>
      obtain rfl : errors = [] := (hr.honest hpass).mp rfl
      exact hlater ⟨valid, after, h, he⟩
    · next new hfail =>
      have hfirst : e ∈ new → ∃ r' ∈ r :: rest, r'.Records e := fun he =>
        ⟨r, List.mem_cons_self, false, new, hfail, he⟩
      split at h
      · cases h
        exact hfirst he
      -- going on, the rest appends to what the first run has recorded
      · obtain ⟨⟨_, after'⟩, hrun, hresult⟩ := Option.map_eq_some_iff.mp h
        cases hresult
        obtain ⟨more, hmore, rfl⟩ := ((Faithful.every hrest).appends.eq_some new).mp hrun
        rcases List.mem_append.mp he with he | he
        · exact hfirst he
        · exact hlater ⟨_, more, hmore, he⟩

/-- What a search for the first passing run holds in the end, one of the runs has recorded. -/
theorem records_of_untilPass (hrs : ∀ r ∈ rs, Appends r) {found : Bool} {after : List Violation}
    (h : untilPass rs [] = some (found, after)) (he : e ∈ after) : ∃ r ∈ rs, r.Records e := by
  induction rs generalizing found after with
  | nil =>
    cases h
    exact absurd he List.not_mem_nil
  | cons r rest ih =>
    obtain ⟨-, hrest⟩ := List.forall_mem_cons.mp hrs
    simp only [untilPass] at h
    split at h
    · cases h
    · next hr =>
      cases h
      exact ⟨r, List.mem_cons_self, true, _, hr, he⟩
    · next new hr =>
      obtain ⟨more, hmore, rfl⟩ := ((untilPass_appends hrest).eq_some new).mp h
      rcases List.mem_append.mp he with he | he
      · exact ⟨r, List.mem_cons_self, false, new, hr, he⟩
      · exact (ih hrest hmore he).imp fun _ h => ⟨List.mem_cons_of_mem _ h.1, h.2⟩

/-- What a search for passing runs holds in the end, one of the runs has recorded. -/
theorem records_of_passing (hrs : ∀ r ∈ rs, Appends r) {found found' : List Nat} {number : Nat}
    {after : List Violation} (h : passing found number rs [] = some (found', after)) (he : e ∈ after) :
    ∃ r ∈ rs, r.Records e := by
  induction rs generalizing found number after with
  | nil =>
    cases h
    exact absurd he List.not_mem_nil
  | cons r rest ih =>
    obtain ⟨-, hrest⟩ := List.forall_mem_cons.mp hrs
    -- the rest starts behind what the first run has recorded
    have hgoOn : ∀ {valid new found}, r [] = some (valid, new) →
        passing found (number + 1) rest new = some (found', after) → ∃ r' ∈ r :: rest, r'.Records e := by
      intro valid new found hr h
      obtain ⟨more, hmore, rfl⟩ := ((passing_appends found (number + 1) hrest).eq_some new).mp h
      rcases List.mem_append.mp he with he | he
      · exact ⟨r, List.mem_cons_self, valid, new, hr, he⟩
      · exact (ih hrest hmore he).imp fun _ h => ⟨List.mem_cons_of_mem _ h.1, h.2⟩
    simp only [passing] at h
    split at h
    · cases h
    · next new hr =>
      split at h
      · exact hgoOn hr h
      · cases h
        exact ⟨r, List.mem_cons_self, true, _, hr, he⟩
    · next new hr => exact hgoOn hr h

theorem records_negate (h : Records (negate e' r) e) : e = e' := by
  obtain ⟨valid, new, h, he⟩ := h
  simp only [negate, List.length_nil, List.take_zero] at h
  split at h
  · cases h
  · split at h
    · exact records_reject ⟨valid, new, h, he⟩
    · cases h
      exact absurd he List.not_mem_nil

theorem records_someOf (h : Records (someOf e' rs) e) : e = e' := by
  obtain ⟨valid, new, h, he⟩ := h
  simp only [someOf, List.length_nil, List.take_zero] at h
  split at h
  · cases h
  · split at h
    · cases h
      exact absurd he List.not_mem_nil
    · exact records_reject ⟨valid, new, h, he⟩

theorem records_anyOf (hrs : ∀ r ∈ rs, Appends r) (h : Records (anyOf e' rs) e) :
    e = e' ∨ ∃ r ∈ rs, r.Records e := by
  obtain ⟨valid, new, h, he⟩ := h
  simp only [anyOf, List.length_nil, List.take_zero] at h
  split at h
  · cases h
  · cases h
    exact absurd he List.not_mem_nil
  · next after hsearch =>
    cases h
    rcases List.mem_append.mp he with he | he
    · exact .inr (records_of_untilPass hrs hsearch he)
    · exact .inl (List.mem_singleton.mp he)

theorem records_oneOf (hrs : ∀ r ∈ rs, Appends r) {e' : List Nat → Violation}
    (h : Records (oneOf e' rs) e) : (∃ found, e = e' found) ∨ ∃ r ∈ rs, r.Records e := by
  obtain ⟨valid, new, h, he⟩ := h
  simp only [oneOf, List.length_nil, List.take_zero] at h
  split at h
  · cases h
  · cases h
    exact absurd he List.not_mem_nil
  · next found after _ hsearch =>
    cases h
    rcases List.mem_append.mp he with he | he
    · exact .inr (records_of_passing hrs hsearch he)
    · exact .inl ⟨found, List.mem_singleton.mp he⟩

theorem records_branch (h : Records (branch r t f) e) : t.Records e ∨ f.Records e := by
  obtain ⟨valid, new, h, he⟩ := h
  simp only [branch, List.length_nil, List.take_zero] at h
  split at h
  · cases h
  · split at h
    · exact .inl ⟨valid, new, h, he⟩
    · exact .inr ⟨valid, new, h, he⟩

end Run

/-! ## Locations that a node runs its parts at -/

theorem Location.value_withValue (l : Location) (v : Json) : (l.withValue v).value = v := by
  cases l <;> rfl

/-- What is selected is a member with a name that the filter takes. -/
theorem Location.mem_selected (l : Location) {filter : PropertyFilter} {m : String × Location}
    (h : m ∈ l.selected filter) : ∃ members, l.value = .obj members ∧ m.1 ∈ members.map Prod.fst ∧
      filter.selects m.1 = true := by
  unfold selected at h
  split at h
  · next members hv =>
    obtain ⟨member, hmember, rfl⟩ := List.mem_map.mp h
    obtain ⟨hmem, hselects⟩ := List.mem_filter.mp hmember
    exact ⟨members, hv, List.mem_map_of_mem hmem, hselects⟩
  · exact absurd h List.not_mem_nil

/-- A name is that of a member, in place of the object. -/
theorem Node.mem_namesOf {l name : Location} (h : name ∈ namesOf l) :
    ∃ members text, l.value = .obj members ∧ text ∈ members.map Prod.fst ∧
      name = l.withValue (.str text) := by
  unfold namesOf at h
  split at h
  · next members hv =>
    obtain ⟨m, hm, rfl⟩ := List.mem_map.mp h
    exact ⟨members, m.1, hv, List.mem_map_of_mem hm, rfl⟩
  · exact absurd h List.not_mem_nil

/-! ## The direct runs of a node -/

namespace Node

/-- `n.Runs l m l'`: run at `l`, the node can run the node `m` at `l'` as a part of itself. -/
inductive Runs : Node → Location → Node → Location → Prop where
  | all {nodes n l} : n ∈ nodes → Runs (.all nodes) l n l
  | guard {group body l} : group.accepts l.value = true → Runs (.guard group body) l body l
  | descend {step body l v} : step.child? l.value = some v →
      Runs (.descend step body) l body (.child l step v)
  | items {start body l e} : e ∈ elementsFrom l start → Runs (.items start body) l body e
  | properties {filter body l m} : m ∈ l.selected filter → Runs (.properties filter body) l body m.2
  | propertyNames {body site l name} : name ∈ namesOf l → Runs (.propertyNames body site) l body name
  | ifPresent {name body l} : (l.value.get? name).isSome → Runs (.ifPresent name body) l body l
  | contains {body site l e} : e ∈ elementsFrom l 0 → Runs (.contains body site) l body e
  | anyOf {branches site n l} : n ∈ branches → Runs (.anyOf branches site) l n l
  | oneOf {branches site n l} : n ∈ branches → Runs (.oneOf branches site) l n l
  | not {body site l} : Runs (.not body site) l body l
  | condition {c t e site l} : Runs (.ifThenElse c t e site) l c l
  | thenBranch {c t e site l} : Runs (.ifThenElse c t e site) l t l
  | elseBranch {c t e site l} : Runs (.ifThenElse c t e site) l e l

/-- What a node runs is a part of it. -/
theorem Runs.mem_parts {n m : Node} {l l' : Location} (h : n.Runs l m l') :
    ∃ entered, (entered, m) ∈ n.parts := by
  cases h with
  | all hn | anyOf hn | oneOf hn => exact ⟨false, List.mem_map_of_mem hn⟩
  | guard | ifPresent | not => exact ⟨false, List.mem_cons_self⟩
  | descend | items | properties | propertyNames | contains => exact ⟨true, List.mem_cons_self⟩
  | condition | thenBranch | elseBranch => exact ⟨false, by simp [parts]⟩

/-- `Node.Runs` as a list. -/
def runsAt : Node → Location → List (Node × Location)
  | all nodes, l | anyOf nodes _, l | oneOf nodes _, l => nodes.map (·, l)
  | guard group body, l => if group.accepts l.value then [(body, l)] else []
  | ifPresent name body, l => if (l.value.get? name).isSome then [(body, l)] else []
  | not body _, l => [(body, l)]
  | descend step body, l => (step.child? l.value).toList.map fun v => (body, .child l step v)
  | items start body, l => (elementsFrom l start).map (body, ·)
  | contains body _, l => (elementsFrom l 0).map (body, ·)
  | properties filter body, l => (l.selected filter).map fun m => (body, m.2)
  | propertyNames body _, l => (namesOf l).map (body, ·)
  | ifThenElse c t e _, l => [(c, l), (t, l), (e, l)]
  | pass, _ | reject _, _ | type _ _, _ | check _, _ | call _, _ | noProperties _ _, _ => []

theorem runs_of_mem_runsAt {n m : Node} {l l' : Location} (h : (m, l') ∈ n.runsAt l) : n.Runs l m l' := by
  cases n with
  | all nodes =>
    obtain ⟨_, hm, heq⟩ := List.mem_map.mp h
    cases heq
    exact .all hm
  | anyOf nodes site =>
    obtain ⟨_, hm, heq⟩ := List.mem_map.mp h
    cases heq
    exact .anyOf hm
  | oneOf nodes site =>
    obtain ⟨_, hm, heq⟩ := List.mem_map.mp h
    cases heq
    exact .oneOf hm
  | guard group body =>
    rw [runsAt, List.mem_ite_nil_right] at h
    cases List.mem_singleton.mp h.2
    exact .guard h.1
  | ifPresent name body =>
    rw [runsAt, List.mem_ite_nil_right] at h
    cases List.mem_singleton.mp h.2
    exact .ifPresent h.1
  | not body site =>
    cases List.mem_singleton.mp h
    exact .not
  | descend step body =>
    obtain ⟨v, hv, heq⟩ := List.mem_map.mp h
    cases heq
    exact .descend (Option.mem_toList.mp hv)
  | items start body =>
    obtain ⟨_, he, heq⟩ := List.mem_map.mp h
    cases heq
    exact .items he
  | contains body site =>
    obtain ⟨_, he, heq⟩ := List.mem_map.mp h
    cases heq
    exact .contains he
  | properties filter body =>
    obtain ⟨_, hm, heq⟩ := List.mem_map.mp h
    cases heq
    exact .properties hm
  | propertyNames body site =>
    obtain ⟨_, hname, heq⟩ := List.mem_map.mp h
    cases heq
    exact .propertyNames hname
  | ifThenElse c t e site =>
    simp only [runsAt, List.mem_cons, Prod.mk.injEq, List.not_mem_nil, or_false] at h
    rcases h with ⟨rfl, rfl⟩ | ⟨rfl, rfl⟩ | ⟨rfl, rfl⟩
    · exact .condition
    · exact .thenBranch
    · exact .elseBranch
  | _ => cases h

/-- Induction on a node from its parts. -/
theorem induct_parts {motive : Node → Prop}
    (h : ∀ n : Node, (∀ entered m, (entered, m) ∈ n.parts → motive m) → motive n) (n : Node) :
    motive n := by
  have hlist : ∀ {nodes : List Node}, (∀ m ∈ nodes, motive m) →
      ∀ entered m, (entered, m) ∈ nodes.map (false, ·) → motive m := by
    intro nodes hnodes entered m hm
    obtain ⟨_, hmem, heq⟩ := List.mem_map.mp hm
    cases heq
    exact hnodes m hmem
  have hone : ∀ {inside : Bool} {body : Node}, motive body →
      ∀ entered m, (entered, m) ∈ [(inside, body)] → motive m := by
    intro inside body hbody entered m hm
    cases List.mem_singleton.mp hm
    exact hbody
  have hnone : ∀ entered m, (entered, m) ∈ ([] : List (Bool × Node)) → motive m :=
    fun _ _ hm => absurd hm List.not_mem_nil
  induction n using Node.induct with
  | all nodes ih | anyOf nodes _ ih | oneOf nodes _ ih => exact h _ (hlist ih)
  | guard _ _ ih | ifPresent _ _ ih | not _ _ ih | descend _ _ ih | items _ _ ih | properties _ _ ih
  | propertyNames _ _ ih | contains _ _ ih => exact h _ (hone ih)
  | ifThenElse c t e site ihc iht ihe =>
    refine h _ fun entered m hm => ?_
    simp only [parts, List.mem_cons, Prod.mk.injEq, List.not_mem_nil, or_false] at hm
    rcases hm with ⟨-, rfl⟩ | ⟨-, rfl⟩ | ⟨-, rfl⟩
    · exact ihc
    · exact iht
    · exact ihe
  | _ => exact h _ hnone

/-! ## The violations that a node words itself -/

/-- `n.Reports l subject e`: run at `l`, the node can record the violation `e` about the subject, which is
    a value or a name in its place. -/
inductive Reports : Node → Location → Location → Violation → Prop where
  | reject {site : ErrorSite} {l : Location} : Reports (.reject site) l l (site.about l l.value)
  | type {types : List DataType} {site : ErrorSite} {l : Location} :
      types.any (·.accepts l.value) = false → Reports (.type types site) l l (site.about l l.value)
  | check {c : Check} {l : Location} {params : Json} {message : String} :
      c.run l = Run.reject (c.site.violation l params message) →
      Reports (.check c) l l (c.site.violation l params message)
  | noProperties {filter : PropertyFilter} {site : ErrorSite} {l : Location}
      {members : List (String × Json)} {name : String} :
      l.value = .obj members → name ∈ members.map Prod.fst → filter.selects name = true →
      Reports (.noProperties filter site) l (l.withValue (.str name)) (site.about l (.str name))
  | propertyNames {body : Node} {site : ErrorSite} {l : Location} {members : List (String × Json)}
      {name : String} :
      l.value = .obj members → name ∈ members.map Prod.fst →
      Reports (.propertyNames body site) l (l.withValue (.str name)) (site.about l (.str name))
  | contains {body : Node} {site : ErrorSite} {l : Location} :
      Reports (.contains body site) l l (site.about l l.value)
  | anyOf {branches : List Node} {site : ErrorSite} {l : Location} :
      Reports (.anyOf branches site) l l (site.about l l.value)
  | oneOf {branches : List Node} {site : ErrorSite} {l : Location} {found : List Nat} :
      Reports (.oneOf branches site) l l (oneOfViolation site l found)
  | not {body : Node} {site : ErrorSite} {l : Location} :
      Reports (.not body site) l l (site.about l l.value)
  | ifThenElse {c t e : Node} {site : ErrorSite} {l : Location} {keyword : String} :
      Reports (.ifThenElse c t e site) l l (branchViolation site l keyword)

variable {n : Node} {l : Location} {call : Nat → Location → Run} {failFast : Bool} {e : Violation}

/-- **The step lemma**: what a node records it has worded itself, or one of its direct runs has recorded
    it, or the procedure that it calls has. -/
theorem records_cases (hcall : ∀ i l', (call i l').Faithful) (h : (n.run call failFast l).Records e) :
    (∃ subject, n.Reports l subject e) ∨
      (∃ m l', n.Runs l m l' ∧ (m.run call failFast l').Records e) ∨
      ∃ i, n = .call i ∧ (call i l).Records e := by
  have hfaithful : ∀ (m : Node) l', (m.run call failFast l').Faithful := fun m l' =>
    m.run_keeps (Run.faithful_congruence failFast) l' fun i l'' _ => hcall i l''
  -- a list of direct runs, read off an `every` or a search
  have hfind : ∀ {α : Type} {xs : List α} {f : α → Run}, (∃ r ∈ xs.map f, r.Records e) →
      ∃ x ∈ xs, (f x).Records e := by
    rintro α xs f ⟨_, hr, he⟩
    obtain ⟨x, hx, rfl⟩ := List.mem_map.mp hr
    exact ⟨x, hx, he⟩
  have hall : ∀ {α : Type} {xs : List α} {f : α → Run}, (∀ x, (f x).Faithful) →
      ∀ r ∈ xs.map f, r.Faithful := fun hf =>
    List.forall_mem_map.mpr fun x _ => hf x
  have happ : ∀ {α : Type} {xs : List α} {f : α → Run}, (∀ x, (f x).Faithful) →
      ∀ r ∈ xs.map f, Run.Appends r := fun hf r hr => (hall hf r hr).appends
  cases n with
  | pass =>
    rw [run_pass] at h
    exact absurd h Run.not_records_done
  | all nodes =>
    rw [run_all] at h
    obtain ⟨m, hm, he⟩ := hfind (Run.records_every (hall fun m => hfaithful m l) h)
    exact .inr (.inl ⟨m, l, .all hm, he⟩)
  | reject site =>
    rw [run_reject] at h
    obtain rfl := Run.records_reject h
    exact .inl ⟨l, .reject⟩
  | guard group body =>
    rw [run_guard] at h
    split at h
    · next hg => exact .inr (.inl ⟨body, l, .guard hg, h⟩)
    · exact absurd h Run.not_records_done
  | type types site =>
    rw [run_type] at h
    split at h
    · exact absurd h Run.not_records_done
    · next hnone =>
      obtain rfl := Run.records_reject h
      exact .inl ⟨l, .type (by simpa using hnone)⟩
  | check c =>
    rw [show run call failFast (.check c) l = c.run l by rw [run]] at h
    rcases c.run_cases l with hc | ⟨params, message, hc⟩ <;> rw [hc] at h
    · exact absurd h Run.not_records_done
    · obtain rfl := Run.records_reject h
      exact .inl ⟨l, .check hc⟩
  | call i =>
    rw [show run call failFast (.call i) l = call i l by rw [run]] at h
    exact .inr (.inr ⟨i, rfl, h⟩)
  | descend step body =>
    rw [run_descend] at h
    split at h
    · next v hv => exact .inr (.inl ⟨body, _, .descend hv, h⟩)
    · exact absurd h Run.not_records_done
  | items start body =>
    rw [run_items] at h
    obtain ⟨element, helement, he⟩ := hfind (Run.records_every (hall fun l' => hfaithful body l') h)
    exact .inr (.inl ⟨body, element, .items helement, he⟩)
  | properties filter body =>
    rw [run_properties] at h
    obtain ⟨m, hm, he⟩ := hfind (Run.records_every (hall fun m : String × Location => hfaithful body m.2) h)
    exact .inr (.inl ⟨body, m.2, .properties hm, he⟩)
  | noProperties filter site =>
    rw [run_noProperties] at h
    obtain ⟨m, hm, he⟩ := hfind (Run.records_every (hall fun _ => .reject _) h)
    obtain rfl := Run.records_reject he
    obtain ⟨members, hv, hmem, hselects⟩ := l.mem_selected hm
    exact .inl ⟨_, .noProperties hv hmem hselects⟩
  | propertyNames body site =>
    rw [run_propertyNames] at h
    obtain ⟨name, hname, he⟩ := hfind (Run.records_every (hall fun l' => (hfaithful body l').noting _) h)
    rcases Run.records_noting he with rfl | he
    · obtain ⟨members, text, hv, htext, rfl⟩ := mem_namesOf hname
      rw [l.value_withValue]
      exact .inl ⟨_, .propertyNames hv htext⟩
    · exact .inr (.inl ⟨body, name, .propertyNames hname, he⟩)
  | ifPresent name body =>
    rw [run_ifPresent] at h
    split at h
    · next hpresent => exact .inr (.inl ⟨body, l, .ifPresent hpresent, h⟩)
    · exact absurd h Run.not_records_done
  | contains body site =>
    rw [run_contains] at h
    split at h
    · obtain rfl := Run.records_someOf h
      exact .inl ⟨l, .contains⟩
    · exact absurd h Run.not_records_done
  | anyOf branches site =>
    rw [run_anyOf] at h
    rcases Run.records_anyOf (happ fun m => hfaithful m l) h with rfl | hbranch
    · exact .inl ⟨l, .anyOf⟩
    · obtain ⟨m, hm, he⟩ := hfind hbranch
      exact .inr (.inl ⟨m, l, .anyOf hm, he⟩)
  | oneOf branches site =>
    rw [run_oneOf] at h
    rcases Run.records_oneOf (happ fun m => hfaithful m l) h with ⟨found, rfl⟩ | hbranch
    · exact .inl ⟨l, .oneOf⟩
    · obtain ⟨m, hm, he⟩ := hfind hbranch
      exact .inr (.inl ⟨m, l, .oneOf hm, he⟩)
  | not body site =>
    rw [run_not] at h
    obtain rfl := Run.records_negate h
    exact .inl ⟨l, .not⟩
  | ifThenElse c t f site =>
    rw [run_ifThenElse] at h
    rcases Run.records_branch h with h | h <;> rcases Run.records_noting h with rfl | h
    · exact .inl ⟨l, .ifThenElse⟩
    · exact .inr (.inl ⟨t, l, .thenBranch, h⟩)
    · exact .inl ⟨l, .ifThenElse⟩
    · exact .inr (.inl ⟨f, l, .elseBranch, h⟩)

end Node

/-! ## Origins -/

/-- `p.Visits data n l`: running the program on the data can come to the node at the location. -/
inductive Program.Visits (p : Program) (data : Json) : Node → Location → Prop where
  | root : Visits p data p.root (.root data)
  | part {n m : Node} {l l' : Location} : Visits p data n l → n.Runs l m l' → Visits p data m l'
  | call {i : Nat} {body : Node} {l : Location} : Visits p data (.call i) l →
      p.procedures[i]? = some body → Visits p data body l

/-- What running the program on the data can come to in a number of steps. -/
def Program.visited (p : Program) (data : Json) : Nat → List (Node × Location)
  | 0 => [(p.root, .root data)]
  | steps + 1 => (p.visited data steps).flatMap fun (n, l) =>
    match n with
    | .call i => p.procedures[i]?.toList.map (·, l)
    | n => n.runsAt l

theorem Program.visits_of_mem_visited {p : Program} {data : Json} {steps : Nat} {n : Node} {l : Location}
    (h : (n, l) ∈ p.visited data steps) : p.Visits data n l := by
  induction steps generalizing n l with
  | zero =>
    cases List.mem_singleton.mp h
    exact .root
  | succ steps ih =>
    obtain ⟨⟨m, l'⟩, hm, hn⟩ := List.mem_flatMap.mp h
    dsimp only at hn
    split at hn
    · obtain ⟨body, hbody, heq⟩ := List.mem_map.mp hn
      cases heq
      exact .call (ih hm) (Option.mem_toList.mp hbody)
    · exact .part (ih hm) (Node.runs_of_mem_runsAt hn)

/-- Where a violation comes from: a node that running the program on the data comes to at a location,
    that fails there with this violation among others, and that has worded it about the subject. -/
structure Violation.Origin (e : Violation) (p : Program) (failFast : Bool) (data : Json) (n : Node)
    (l subject : Location) : Prop where
  visited : p.Visits data n l
  failed : ∃ budget new, n.run (p.call failFast budget) failFast l [] = some (false, new) ∧ e ∈ new
  reported : n.Reports l subject e

/-- What a run records it records in failing. -/
theorem Run.Faithful.fails {r : Run} (h : r.Faithful) {e : Violation} (he : r.Records e) :
    ∃ new, r [] = some (false, new) ∧ e ∈ new := by
  obtain ⟨valid, new, hr, he⟩ := he
  cases valid with
  | false => exact ⟨new, hr, he⟩
  | true =>
    obtain rfl := (h.honest hr).mp rfl
    exact absurd he List.not_mem_nil

namespace Program

variable {p : Program} {data : Json} {failFast : Bool} {e : Violation}

/-- From a node to the calls inside it: the induction over the tree. -/
theorem records_origin_of_calls {budget : Nat}
    (hcalls : ∀ {i l}, p.Visits data (.call i) l → (p.call failFast budget i l).Records e →
      ∃ n l subject, e.Origin p failFast data n l subject) {n : Node} {l : Location}
    (hvisits : p.Visits data n l) (h : (n.run (p.call failFast budget) failFast l).Records e) :
    ∃ n l subject, e.Origin p failFast data n l subject := by
  induction n using Node.induct_parts generalizing l with
  | h n ih =>
    have hfaithful : ∀ i l', (p.call failFast budget i l').Faithful := fun i l' =>
      Node.run_faithful p failFast budget (.call i) l'
    rcases Node.records_cases hfaithful h with ⟨subject, hreports⟩ | ⟨m, l', hruns, he⟩ | ⟨i, rfl, he⟩
    · obtain ⟨new, hfails⟩ := (n.run_faithful p failFast budget l).fails h
      exact ⟨n, l, subject, hvisits, ⟨budget, new, hfails⟩, hreports⟩
    · obtain ⟨entered, hm⟩ := hruns.mem_parts
      exact ih entered m hm (.part hvisits hruns) he
    · exact hcalls hvisits he

/-- **The run lemma**: what is recorded at a place that the program comes to has an origin, there or
    further on. -/
theorem records_origin {budget : Nat} {n : Node} {l : Location} (hvisits : p.Visits data n l)
    (h : (n.run (p.call failFast budget) failFast l).Records e) :
    ∃ n l subject, e.Origin p failFast data n l subject := by
  induction budget generalizing n l with
  | zero =>
    refine records_origin_of_calls (fun {i l} _ he => ?_) hvisits h
    rw [Program.call] at he
    exact absurd he Run.not_records_stuck
  | succ budget ih =>
    refine records_origin_of_calls (fun {i l} hcall he => ?_) hvisits h
    rw [Program.call] at he
    split at he
    · next body hbody => exact ih (.call hcall hbody) he
    · exact absurd he Run.not_records_done

end Program

/-- Every violation that a validator reports has an origin. -/
theorem Validator.exists_origin {v : Validator} {data : Json} {violations : List Violation}
    (h : v.validate data = .invalid violations) {e : Violation} (he : e ∈ violations) :
    ∃ n l subject, e.Origin v.program (!v.allErrors) data n l subject := by
  unfold Validator.validate at h
  split at h
  · cases h
  · next hrun =>
    cases h
    exact Program.records_origin .root ⟨false, _, hrun, he⟩
  · cases h

end JsonSchema
