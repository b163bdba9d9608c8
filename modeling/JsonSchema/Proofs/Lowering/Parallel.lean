import JsonSchema.Proofs.Lowering.Lockstep

/-!
# References that lead to the same schemas

A schema can be lowered among different documents and from different bases.  What it becomes depends on
these through its references only, so two lowerings of it run in parallel if **each reference that they
come to leads to the same schema in both, or in both nowhere** (`Environment.Parallel`).  This is a
bisimulation: what a reference leads to is lowered in parallel again.

Procedures are told apart by the keys of their targets, and these may differ between the two.
`KeysTell` says that the keys do tell the targets apart, on either side.
-/

set_option autoImplicit false

namespace JsonSchema

/-- A schema, and the two bases at which it is lowered. -/
abbrev Correspondence := Json → Uri → Uri → Prop

/-- The same schema, at bases that correspond. -/
structure Target.Matches (W : Correspondence) (target target' : Target) : Prop where
  schema : target'.schema = target.schema
  fragment : target'.fragment = target.fragment
  base : W target.schema target.base target'.base

/-- Targets that match are lowered alike, but for their bases. -/
theorem Target.Matches.lowerSchema_eq {W : Correspondence} {target target' : Target}
    (h : target.Matches W target') (env : Environment) (budget descents descents' : Nat) :
    lowerSchema env budget target.schema ((Position.ofTarget target descents).moved target'.base descents') =
      lowerSchema env budget target'.schema (.ofTarget target' descents') := by
  rw [h.schema, Position.ofTarget, Position.ofTarget, h.fragment]
  rfl

/-- Two answers to one reference: nowhere, or the same schema. -/
inductive Target.Correspond (W : Correspondence) :
    Except SchemaError Target → Except SchemaError Target → Prop where
  | missing {e e' : SchemaError} : Correspond W (.error e) (.error e')
  | found {target target' : Target} : target.Matches W target' → Correspond W (.ok target) (.ok target')

/-- The object is lowered in parallel, and its references have the two bases. -/
def Correspondence.Enters (W : Correspondence) (members : List (String × Json)) (inner inner' : Uri) : Prop :=
  ∃ base base', W (.obj members) base base' ∧ schemaBase (.obj members) base = .ok inner ∧
    schemaBase (.obj members) base' = .ok inner'

theorem Correspondence.Enters.swap {W : Correspondence} {members : List (String × Json)} {inner inner' : Uri}
    (h : W.Enters members inner inner') :
    Correspondence.Enters (fun s base base' => W s base' base) members inner' inner := by
  obtain ⟨base, base', hw, hinner, hinner'⟩ := h
  exact ⟨base', base, hw, hinner', hinner⟩

namespace Environment

variable (env : Environment) (documents : Documents) (W : Correspondence)

/-- **Schemas that correspond are lowered in parallel**, here and among the other documents. -/
structure Parallel : Prop where
  /-- A schema has an `$id` that is none on both sides or on neither. -/
  bases : ∀ members base base', W (.obj members) base base' →
    ((schemaBase (.obj members) base).isOk ↔ (schemaBase (.obj members) base').isOk)
  applied : ∀ members inner inner' rule k position data s, W.Enters members inner inner' →
    env.Reads members rule → rule.implementation = .builtin k →
    (rule.place env members position data).Applies k s → W s inner inner'
  expanded : ∀ members inner inner' rule d expand, W.Enters members inner inner' →
    env.Reads members rule → rule.implementation = .custom d → d.expand = some expand →
    W (expand ((members.lookup rule.keyword).getD .null) members) inner inner'
  referred : ∀ members inner inner' rule, W.Enters members inner inner' →
    env.Reads members rule → rule.implementation = .builtin .ref →
    Target.Correspond W (env.documents.resolve inner (rule.reference members))
      (documents.resolve inner' (rule.reference members))

/-- A reference that lowering comes to leads to the one target here and to the other there. -/
def Reaches (target target' : Target) : Prop :=
  ∃ members inner inner' rule, W.Enters members inner inner' ∧
    env.Reads members rule ∧ rule.implementation = .builtin .ref ∧
    env.documents.resolve inner (rule.reference members) = .ok target ∧
    documents.resolve inner' (rule.reference members) = .ok target'

/-- Keys tell targets apart: those reached here, and those reached there, with one more.  What has one key
    here has one key there. -/
structure KeysTell (start : Target) : Prop where
  left : ∀ {target₁ target₁' target₂ target₂'}, env.Reaches documents W target₁ target₁' →
    env.Reaches documents W target₂ target₂' → target₁.key = target₂.key → target₁ = target₂
  right : ∀ {target₁ target₁' target₂ target₂'}, env.Reaches documents W target₁ target₁' →
    env.Reaches documents W target₂ target₂' → target₁'.key = target₂'.key → target₁' = target₂'
  start : ∀ {target target'}, env.Reaches documents W target target' → target'.key = start.key →
    target' = start
  across : ∀ {target₁ target₁' target₂ target₂'}, env.Reaches documents W target₁ target₁' →
    env.Reaches documents W target₂ target₂' → target₁.key = target₂.key → target₁'.key = target₂'.key

variable {env documents W} {members : List (String × Json)} {inner inner' : Uri}

/-- Two answers to a reference that lowering comes to. -/
inductive Answers (env : Environment) (documents : Documents) (W : Correspondence) :
    Except SchemaError Target → Except SchemaError Target → Prop where
  | missing {e e' : SchemaError} : Answers env documents W (.error e) (.error e')
  | found {target target' : Target} : env.Reaches documents W target target' →
      target.Matches W target' → Answers env documents W (.ok target) (.ok target')

theorem Parallel.answers (h : env.Parallel documents W) {rule : Rule} (henters : W.Enters members inner inner')
    (hreads : env.Reads members rule) (hrule : rule.implementation = .builtin .ref) :
    env.Answers documents W (env.documents.resolve inner (rule.reference members))
      (documents.resolve inner' (rule.reference members)) := by
  have hreferred := h.referred members inner inner' rule henters hreads hrule
  cases htarget : env.documents.resolve inner (rule.reference members) with
  | error e =>
    rw [htarget] at hreferred
    cases htarget' : documents.resolve inner' (rule.reference members) with
    | error e' => exact .missing
    | ok target' =>
      rw [htarget'] at hreferred
      cases hreferred
  | ok target =>
    rw [htarget] at hreferred
    cases htarget' : documents.resolve inner' (rule.reference members) with
    | error e' =>
      rw [htarget'] at hreferred
      cases hreferred
    | ok target' =>
      rw [htarget'] at hreferred
      obtain _ | hmatches := hreferred
      exact .found ⟨members, inner, inner', rule, henters, hreads, hrule, htarget, htarget'⟩ hmatches

/-- What a reference leads to here, it leads to there. -/
theorem Answers.exists_right {target : Target} {found' : Except SchemaError Target}
    (h : env.Answers documents W (.ok target) found') :
    ∃ target', found' = .ok target' ∧ env.Reaches documents W target target' ∧ target.Matches W target' := by
  obtain _ | ⟨hreached, hmatches⟩ := h
  exact ⟨_, rfl, hreached, hmatches⟩

/-- What a reference leads to there, it leads to here. -/
theorem Answers.exists_left {target' : Target} {found : Except SchemaError Target}
    (h : env.Answers documents W found (.ok target')) :
    ∃ target, found = .ok target ∧ env.Reaches documents W target target' ∧ target.Matches W target' := by
  obtain _ | ⟨hreached, hmatches⟩ := h
  exact ⟨_, rfl, hreached, hmatches⟩

/-- Two lowerings of schemas that correspond are paired. -/
def ParallelRuns (env : Environment) (documents : Documents) (W : Correspondence) (P : Pairing)
    (budget budget' : Nat) : Prop :=
  ∀ s position base' descents', W s position.base base' →
    P.Runs P.Nodes (lowerSchema env budget s position)
      (lowerSchema (env.among documents) budget' s (position.moved base' descents'))

/-- **Lowerings in parallel are paired if refusals and references are.** -/
theorem Parallel.lowerSchema_paired (h : env.Parallel documents W) {P : Pairing} {budget budget' : Nat}
    (hrefused : ∀ e e', P.Runs P.Nodes (refuse e) (refuse e'))
    (hreferred : ∀ (p : KeywordPlace) reference inner' descents', p.env = env →
      env.Answers documents W (env.documents.resolve p.position.base reference)
        (documents.resolve inner' reference) →
      P.Runs P.Numbers (p.procedureOf (lowerSchema env budget) reference)
        ((p.elsewhere env.registry documents inner' descents').procedureOf
          (lowerSchema (env.among documents) budget') reference))
    (ih : env.ParallelRuns documents W P budget budget') :
    env.ParallelRuns documents W P (budget + 1) (budget' + 1) := by
  intro s position base' descents' hw
  cases s with
  | obj members =>
    have hok := h.bases _ _ _ hw
    cases hbase : schemaBase (.obj members) position.base with
    | error e =>
      cases hbase' : schemaBase (.obj members) base' with
      | error e' =>
        rw [lowerSchema, lowerSchema, hbase]
        show P.Runs _ _ (liftExcept (schemaBase (.obj members) base') >>= _)
        rw [hbase']
        exact hrefused e e'
      | ok inner' =>
        rw [hbase, hbase'] at hok
        cases hok.mpr rfl
    | ok inner =>
      cases hbase' : schemaBase (.obj members) base' with
      | error e' =>
        rw [hbase, hbase'] at hok
        cases hok.mp rfl
      | ok inner' =>
        have henters : W.Enters members inner inner' := ⟨position.base, base', hw, hbase, hbase'⟩
        have hright : lowerSchema (env.among documents) (budget' + 1) (.obj members)
            (position.moved base' descents') = _ := lowerSchema_obj hbase'
        rw [lowerSchema_obj hbase, hright]
        refine lowerObject_paired fun rule hreads => ⟨?_, fun data hrule => ?_, ?_⟩
        · rintro k data s' hrule happlies at' rfl -
          exact ih s' at' _ _ (h.applied _ _ _ _ _ _ _ _ henters hreads hrule happlies)
        · exact hreferred _ _ _ _ rfl (h.answers henters hreads hrule)
        · rintro d expand hrule hd at' rfl -
          exact ih _ at' _ _ (h.expanded _ _ _ _ _ _ henters hreads hrule hd)
  | bool allowed =>
    cases allowed with
    | true => exact P.pure rfl
    | false => exact P.pure rfl
  | _ => exact hrefused _ _

/-! ## The other way round -/

theorem Reaches.swap {target target' : Target} (h : env.Reaches documents W target target') :
    (env.among documents).Reaches env.documents (fun s base base' => W s base' base) target' target := by
  obtain ⟨members, inner, inner', rule, henters, hreads, hrule, htarget, htarget'⟩ := h
  exact ⟨members, inner', inner, rule, henters.swap, hreads, hrule, htarget', htarget⟩

theorem Parallel.swap (h : env.Parallel documents W) :
    (env.among documents).Parallel env.documents fun s base base' => W s base' base where
  bases members base base' hw := (h.bases members base' base hw).symm
  applied members inner inner' rule k position data s henters :=
    h.applied members inner' inner rule k position data s henters.swap
  expanded members inner inner' rule d expand henters :=
    h.expanded members inner' inner rule d expand henters.swap
  referred members inner inner' rule henters hreads hrule := by
    have hreferred := h.referred members inner' inner rule henters.swap hreads hrule
    show Target.Correspond _ (documents.resolve _ _) (env.documents.resolve _ _)
    revert hreferred
    generalize env.documents.resolve _ _ = found
    generalize documents.resolve _ _ = found'
    rintro (_ | ⟨hschema, hfragment, hw⟩)
    · exact .missing
    · exact .found ⟨hschema.symm, hfragment.symm, hschema ▸ hw⟩

/-! ## The same documents and bases -/

theorem enters_self (h : Correspondence.Enters (fun _ base base' => base' = base) members inner inner') :
    inner' = inner := by
  obtain ⟨base, base', rfl, hinner, hinner'⟩ := h
  exact Except.ok.inj (hinner'.symm.trans hinner)

/-- Every schema is lowered in parallel with itself. -/
theorem parallel_self (env : Environment) :
    env.Parallel env.documents fun _ base base' => base' = base where
  bases members base base' hw := hw ▸ Iff.rfl
  applied members inner inner' rule k position data s henters _ _ _ := enters_self henters
  expanded members inner inner' rule d expand henters _ _ _ := enters_self henters
  referred members inner inner' rule henters _ _ := by
    rw [enters_self henters]
    cases env.documents.resolve inner (rule.reference members) with
    | error e => exact .missing
    | ok target => exact .found ⟨rfl, rfl, rfl⟩

theorem Reaches.eq_self {target target' : Target}
    (h : env.Reaches env.documents (fun _ base base' => base' = base) target target') : target' = target := by
  obtain ⟨members, inner, inner', rule, henters, -, -, htarget, htarget'⟩ := h
  rw [enters_self henters] at htarget'
  exact Except.ok.inj (htarget'.symm.trans htarget)

end Environment

/-! ## The targets of procedures -/

/-- The keys of the procedures differ, and their targets have a property. -/
def TargetsAre (P : Target → Prop) (procedures : List Procedure) : Prop :=
  ((procedures.map Procedure.target).map Target.key).Nodup ∧
    ∀ target ∈ procedures.map Procedure.target, P target

variable {P : Target → Prop} {procedures : List Procedure} {env : Environment} {documents : Documents}
  {W : Correspondence}

theorem TargetsAre.nil : TargetsAre P [] := ⟨.nil, fun _ ht => absurd ht List.not_mem_nil⟩

theorem TargetsAre.fill (h : TargetsAre P procedures) (i : Nat) (body : Node) :
    TargetsAre P (procedures.modify i (·.fill body)) := by
  unfold TargetsAre at *
  rwa [map_target_fill]

theorem TargetsAre.opened (h : TargetsAre P procedures) {target : Target} (ht : P target)
    (hnew : ∀ q ∈ procedures, q.target.key ≠ target.key) (descents : Nat) :
    TargetsAre P (procedures ++ [⟨target, descents, none⟩]) := by
  obtain ⟨hdistinct, htargets⟩ := h
  unfold TargetsAre
  rw [List.map_append]
  refine ⟨?_, List.forall_mem_append.mpr ⟨htargets, List.forall_mem_singleton.mpr ht⟩⟩
  rw [List.map_append, List.nodup_append]
  refine ⟨hdistinct, List.nodup_singleton _, fun key hkey key' hkey' => ?_⟩
  obtain ⟨_, ht, rfl⟩ := List.mem_map.mp hkey
  obtain ⟨q, hq, rfl⟩ := List.mem_map.mp ht
  rw [List.mem_singleton.mp hkey']
  exact hnew q hq

/-- **Lowering opens procedures only for targets that are reached**, and never two under one key. -/
theorem Environment.Parallel.lowerSchema_targets (h : env.Parallel documents W)
    (hP : ∀ target target', env.Reaches documents W target target' → P target) (budget : Nat) (s : Json)
    (position : Position) (base' : Uri) (hw : W s position.base base') :
    LowerM.Ensures (TargetsAre P) (lowerSchema env budget s position) fun _ _ => True := by
  have henters : ∀ {members} {position : Position} {base}, (∃ base', W (.obj members) position.base base') →
      schemaBase (.obj members) position.base = .ok base → ∃ inner', W.Enters members base inner' := by
    intro members position base ⟨base', hw⟩ hbase
    cases hbase' : schemaBase (.obj members) base' with
    | error e =>
      have hok := h.bases _ _ _ hw
      rw [hbase, hbase'] at hok
      cases hok.mp rfl
    | ok inner' => exact ⟨inner', position.base, base', hw, hbase, hbase'⟩
  have hguarded : GuardedInvariant env (fun s position => ∃ base', W s position.base base') (TargetsAre P)
      fun _ _ _ _ => True := by
    refine ⟨fun {members position base} hw hbase s at' hhands => ?_, ?_, fun hi _ _ _ => hi.fill _ _,
      fun _ _ => trivial⟩
    · obtain ⟨inner', henters⟩ := henters hw hbase
      cases hhands with
      | applied hreads hrule happlies hbase =>
        exact ⟨inner', hbase ▸ h.applied _ _ _ _ _ _ _ _ henters hreads hrule happlies⟩
      | referred hreads hrule htarget =>
        obtain ⟨target', -, -, hmatches⟩ := (htarget ▸ h.answers henters hreads hrule).exists_right
        exact ⟨target'.base, hmatches.base⟩
      | expanded hreads hrule hd hbase =>
        exact ⟨inner', hbase ▸ h.expanded _ _ _ _ _ _ henters hreads hrule hd⟩
    · intro members position base rule target procedures hw hbase hreads hrule htarget hi hnew
      obtain ⟨inner', henters⟩ := henters hw hbase
      obtain ⟨target', -, hreached, -⟩ := (htarget ▸ h.answers henters hreads hrule).exists_right
      exact hi.opened (hP _ _ hreached) hnew _
  exact lowerSchema_made_of_guarded hguarded budget s position ⟨base', hw⟩

/-! ## In lockstep -/

section

open LowerM

variable {env : Environment} {documents : Documents} {W : Correspondence}

namespace Environment

/-- What has one key here has one key there, and the other way round. -/
def SameKeys (env : Environment) (documents : Documents) (W : Correspondence) : Prop :=
  ∀ {target₁ target₁' target₂ target₂'}, env.Reaches documents W target₁ target₁' →
    env.Reaches documents W target₂ target₂' → (target₁.key = target₂.key ↔ target₁'.key = target₂'.key)

/-- The mirror in which procedures are for targets that are reached here and there. -/
def reachedMirror (env : Environment) (documents : Documents) (W : Correspondence) : Mirror :=
  .behind [] (fun key key' => ∃ target target', env.Reaches documents W target target' ∧
    target.key = key ∧ target'.key = key') (fun _ _ => True) fun _ => trivial

/-- **Lowerings in parallel go in lockstep**, if they keep the same targets apart: both are refused, or both
    give the same node, and procedures with the same bodies. -/
theorem Parallel.lowerSchema_mirrors (h : env.Parallel documents W) (hkeys : env.SameKeys documents W) :
    ∀ budget s (position : Position) base', W s position.base base' →
      Mirrors (env.reachedMirror documents W) (Node.renumber (env.reachedMirror documents W).number)
        (lowerSchema env budget s position)
        (lowerSchema (env.among documents) budget s { position with base := base' }) := by
  have hrefused : ∀ e e', Mirrors (env.reachedMirror documents W)
      (Node.renumber (env.reachedMirror documents W).number) (refuse e) (refuse e') :=
    fun e e' _ _ _ => .refused trivial
  intro budget
  induction budget with
  | zero => exact fun _ _ _ _ => hrefused _ _
  | succ budget ih =>
    intro s position base' hw
    cases s with
    | obj members =>
      have hok := h.bases _ _ _ hw
      cases hbase : schemaBase (.obj members) position.base with
      | error e =>
        cases hbase' : schemaBase (.obj members) base' with
        | error e' =>
          rw [lowerSchema, lowerSchema, hbase]
          show Mirrors _ _ _ (liftExcept (schemaBase (.obj members) base') >>= _)
          rw [hbase']
          exact hrefused e e'
        | ok inner' =>
          rw [hbase, hbase'] at hok
          cases hok.mpr rfl
      | ok inner =>
        cases hbase' : schemaBase (.obj members) base' with
        | error e' =>
          rw [hbase, hbase'] at hok
          cases hok.mp rfl
        | ok inner' =>
          have henters : W.Enters members inner inner' := ⟨position.base, base', hw, hbase, hbase'⟩
          have hright : lowerSchema (env.among documents) (budget + 1) (.obj members)
              { position with base := base' } = _ := lowerSchema_obj hbase'
          rw [lowerSchema_obj hbase, hright]
          refine lowerObject_mirrors fun rule hreads => ⟨?_, fun data hrule => ?_, ?_⟩
          · rintro k data s hrule happlies at' rfl
            exact ih s at' inner' (h.applied _ _ _ _ _ _ _ _ henters hreads hrule happlies)
          · refine KeywordPlace.procedureOf_mirrors ?_ ?_
            · rintro a b a' b' ⟨_, _, hreached, rfl, rfl⟩ ⟨_, _, hreached', rfl, rfl⟩
              exact hkeys hreached hreached'
            · have hanswers := h.answers henters hreads hrule
              show Target.Mirrored _ _ _ _ _ _ _ (env.documents.resolve inner _) (documents.resolve inner' _)
              revert hanswers
              generalize env.documents.resolve inner _ = found
              generalize documents.resolve inner' _ = found'
              rintro (_ | ⟨hreached, hmatches⟩)
              · exact .missing trivial
              · refine .found ⟨_, _, hreached, rfl, rfl⟩ (fun _ hq => absurd hq List.not_mem_nil) ?_
                have htarget := ih _ (.ofTarget _ position.descents) _ hmatches.base
                rwa [← hmatches.lowerSchema_eq _ _ position.descents]
          · rintro d expand hrule hd at' rfl
            exact ih _ at' inner' (h.expanded _ _ _ _ _ _ henters hreads hrule hd)
    | bool allowed =>
      cases allowed with
      | true => exact .pure rfl
      | false => exact .pure rfl
    | _ => exact hrefused _ _

/-- What is lowered there is lowered here, to the same. -/
theorem Parallel.lowerSchema_ok (h : env.Parallel documents W) (hkeys : env.SameKeys documents W)
    {budget : Nat} {s : Json} {position : Position} {base' : Uri} {n : Node} {after' : List Procedure}
    (hw : W s position.base base')
    (hlower : lowerSchema (env.among documents) budget s { position with base := base' } [] =
      .ok (n, after')) :
    ∃ after, lowerSchema env budget s position [] = .ok (n, after) ∧
      after.map Procedure.body = after'.map Procedure.body := by
  have hmirrored := h.lowerSchema_mirrors hkeys budget s position base' hw [] [] ⟨[], rfl, .nil⟩
  rw [hlower] at hmirrored
  revert hmirrored
  generalize lowerSchema env budget s position [] = made
  intro hmirrored
  cases hmirrored with
  | @done n' _ after _ hn hafter =>
    obtain ⟨_, rfl, hprocedures⟩ := hafter
    refine ⟨after, ?_, (bodies_behind_nil hprocedures).symm⟩
    rw [hn, show (env.reachedMirror documents W).number = id from rfl, Node.renumber_id]

end Environment

end

end JsonSchema
