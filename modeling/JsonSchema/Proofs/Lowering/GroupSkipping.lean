import JsonSchema.Proofs.Draft7.Agreement
import JsonSchema.Proofs.Evaluation.FirstViolation
import JsonSchema.Proofs.Lowering.Across
import JsonSchema.Proofs.Lowering.KeywordCode

/-!
# Groups that are skipped

An object that declares types is lowered without the groups that cannot concern data of these types.  With
these groups lowered all the same, the program has more nodes, and more procedures if the groups have
references, which changes the numbers of all that are opened later.

**Both programs accept the same** (`skipping_groups_only_optimises`).  In front of the groups stands the check
of the declared types: data that fails it stops a run that wants one violation, and on data that passes it
a group that was skipped does nothing (`RuleGroup.around_idle`).  A run that wants all violations goes on
behind the check, and may report more with the skipped groups, but comes to the same verdict where it ends.
-/

set_option autoImplicit false

namespace JsonSchema

open LowerM

/-! ## Lists with further entries -/

/-- The second list is the first with further entries, which have a property. -/
inductive Interspersed {α β : Type} (R : α → β → Prop) (T : β → Prop) : List α → List β → Prop where
  | nil : Interspersed R T [] []
  | both {a : α} {b : β} {as : List α} {bs : List β} : R a b → Interspersed R T as bs →
      Interspersed R T (a :: as) (b :: bs)
  | further {b : β} {as : List α} {bs : List β} : T b → Interspersed R T as bs →
      Interspersed R T as (b :: bs)

section

variable {α β γ δ : Type} {R : α → β → Prop} {T : β → Prop}

theorem Interspersed.map {S : γ → δ → Prop} {U : δ → Prop} {f : α → γ} {g : β → δ} {as : List α} {bs : List β}
    (h : Interspersed R T as bs) (hR : ∀ a b, R a b → S (f a) (g b)) (hT : ∀ b, T b → U (g b)) :
    Interspersed S U (as.map f) (bs.map g) := by
  induction h with
  | nil => exact .nil
  | both hab _ ih => exact .both (hR _ _ hab) ih
  | further hb _ ih => exact .further (hT _ hb) ih

/-- A traversal on the left that leaves entries out. -/
theorem Pairing.mapM_interspersed {P : Pairing} {keep : γ → Bool} {f : γ → LowerM α} {f' : γ → LowerM β}
    {xs : List γ} (h : ∀ x ∈ xs, P.Runs R (f x) (f' x))
    (hskip : ∀ x ∈ xs, keep x = false → P.Runs (fun _ b => T b) (Pure.pure ()) (f' x)) :
    P.Runs (Interspersed R T) ((xs.filter keep).mapM f) (xs.mapM f') := by
  induction xs with
  | nil =>
    rw [List.filter_nil, List.mapM_nil, List.mapM_nil]
    exact P.pure .nil
  | cons x rest ih =>
    obtain ⟨hx, hrest⟩ := List.forall_mem_cons.mp h
    obtain ⟨hskipx, hskiprest⟩ := List.forall_mem_cons.mp hskip
    have ih := ih hrest hskiprest
    rw [List.mapM_cons]
    by_cases hkeep : keep x = true
    · rw [List.filter_cons_of_pos hkeep, List.mapM_cons]
      exact P.bind hx fun y y' hy => P.bind ih fun ys ys' hys => P.pure (.both hy hys)
    · rw [List.filter_cons_of_neg hkeep]
      have hfurther := P.bind (hskipx (Bool.eq_false_iff.mpr hkeep)) fun _ y' hy =>
        P.bind ih fun ys ys' hys => P.pure (Interspersed.further hy hys)
      rwa [pure_bind, bind_pure] at hfurther

/-- Runs that pass and record nothing make no difference. -/
theorem Run.every_interspersed (failFast : Bool) {rs rs' : List Run}
    (h : Interspersed Eq (· = Run.done true) rs rs') : every failFast rs' = every failFast rs := by
  induction h with
  | nil => rfl
  | both hsame _ ih =>
    subst hsame
    funext errors
    simp only [every, ih]
  | further hdone _ ih =>
    subst hdone
    exact ih

end

/-! ## Groups that cannot concern the declared types -/

/-- The node passes all data of the types. -/
def Node.IdleOn (types : List DataType) (n : Node) : Prop :=
  ∀ call failFast l, types.any (·.accepts l.value) = true → n.run call failFast l = Run.done true

/-- **A group that is skipped does nothing on data of the declared types.** -/
theorem RuleGroup.around_idle {group : RuleGroup} {types : List DataType}
    (h : group.concerns (some types) = false) (nodes : List Node) :
    (group.around (.conj nodes)).IdleOn types := by
  intro call failFast l hl
  obtain ⟨declared, hdeclared, haccepts⟩ := List.any_eq_true.mp hl
  rw [run_around_conj, if_neg]
  intro happlies
  unfold concerns at h
  cases htype : group.appliesTo with
  | none =>
    rw [htype] at h
    cases h
  | some type =>
    rw [htype] at h happlies
    -- data of the group's type that is of a declared type as well
    have hadmits := DataType.admits_of_accepts haccepts happlies
    exact Bool.false_ne_true (h.symm.trans (List.any_eq_true.mpr ⟨declared, hdeclared, hadmits⟩))

/-- Behind the check of the declared types, a run that wants one violation does not see what passes all data
    of these types. -/
theorem Node.conj_type_sameIn {f : Nat → Nat} {types : List DataType} {site : ErrorSite} {ns ns' : List Node}
    (h : Interspersed (fun n n' => n.SameIn true (n'.renumber f)) (Node.IdleOn types) ns ns') :
    (conj (.type types site :: ns)).SameIn true ((conj (.type types site :: ns')).renumber f) := by
  have hpass : ∀ ns : List Node, (conj (.type types site :: ns)).isPass = false := by
    intro ns
    unfold conj
    rw [List.filter_cons_of_pos rfl]
    cases ns.filter (!·.isPass) <;> rfl
  refine ⟨by rw [isPass_renumber, hpass, hpass], fun call l => ?_⟩
  rw [run_renumber, run_conj, run_conj, List.map_cons, List.map_cons, run_type, run_type]
  by_cases htypes : types.any (·.accepts l.value) = true
  · rw [if_pos htypes]
    refine Run.every_interspersed true (.both rfl (h.map (fun n n' hsame => ?_) fun n' hidle => ?_))
    · rw [← hsame.run, run_renumber]
    · exact hidle _ true l htypes
  · rw [if_neg htypes]
    rfl

/-! ## Lowering with all groups -/

section

variable {env : Environment} {left right : List Procedure} {members : List (String × Json)}
  {position : Position} {budget budget' : Nat}

/-- Lowered with and without skipping, the nodes run alike where one violation is wanted. -/
def Alike (left right : List Procedure) (n n' : Node) : Prop := n.SameIn true (n'.renumber (numberIn left right))

theorem Alike.congruence (left right : List Procedure) : Node.Congruence (Alike left right) ErrorSite.Same :=
  Node.SameIn.congruence.renumbered _

theorem exists_alike_left (n' : Node) : ∃ n, Alike left right n n' := ⟨_, .refl _⟩

theorem exists_alike_right (n : Node) : ∃ n', Alike left right n n' := by
  choose g hg using exists_numberIn left right
  refine ⟨n.renumber g, ?_, fun call l => ?_⟩
  · rw [Node.isPass_renumber, Node.isPass_renumber]
  · rw [Node.run_renumber, Node.run_renumber]
    simp only [← hg]

/-- Lowering a group that is skipped keeps the procedures that there were, and gives what is idle. -/
theorem RuleGroup.lower_skipped {types : List DataType} {group : RuleGroup}
    (h : group.concerns (some types) = false) (onlyRef : Bool) :
    (Pairing.across left right).Runs (fun _ n => n.IdleOn types) (Pure.pure ())
      (group.lower (lowerSchemaOf env.registry.everyGroup env budget) env members position onlyRef) := by
  have hl : ∀ s at', Ensures (fun _ => True) (lowerSchemaOf env.registry.everyGroup env budget s at')
      fun later n => (fun _ _ _ _ => True : List Procedure → BodyRel) later s at' n := fun s at' _ _ _ _ hm =>
    ⟨trivial, (lowerSchemaOf_keeps env.registry.everyGroup_within hm).1, fun _ _ => trivial⟩
  have hr : ∀ rule ∈ group.present members onlyRef, rule.RefersTo env members position (fun _ => True)
      (lowerSchemaOf env.registry.everyGroup env budget) fun _ _ _ _ => True := by
    intro rule _ data _ procedures i after _ hm
    have hgrows := KeywordPlace.procedureOf_growsOf env.registry.everyGroup_within (R := fun _ _ => True)
      (fun _ => ⟨0, trivial⟩) _ _ _ hm
    exact ⟨trivial, hgrows.1, fun _ _ => trivial⟩
  have hmade : Ensures (fun _ => True)
      (group.lower (lowerSchemaOf env.registry.everyGroup env budget) env members position onlyRef)
      fun _ n => n.IdleOn types :=
    (RuleGroup.lower_made hl hr).weaken fun _ _ ⟨nodes, _, hn⟩ => hn ▸ group.around_idle h nodes
  have hpass : Node.IdleOn types .pass := fun _ _ _ _ => rfl
  refine ⟨.pure hpass, fun procedures n after hm => ?_, ?_⟩
  · obtain ⟨-, hle, hidle⟩ := hmade _ _ _ trivial hm
    exact ⟨hle, (), hidle after List.prefix_rfl⟩
  · rintro _ n - ⟨before, after, hm, -⟩
    exact (hmade _ _ _ trivial hm).2.2 after List.prefix_rfl

/-- A reference calls the procedure of one target in both. -/
theorem KeywordPlace.procedureOf_across (hdistinct : ((left.map Procedure.target).map Target.key).Nodup)
    {p : KeywordPlace} (henv : p.env = env) (reference : String) (descents' : Nat) :
    (Pairing.across left right).Runs (fun i j => Alike left right (.call i) (.call j))
      (p.procedureOf (lowerSchemaOf env.registry.concernedGroups env budget) reference)
      ((p.elsewhere env.registry env.documents p.position.base descents').procedureOf
        (lowerSchemaOf env.registry.everyGroup env budget') reference) := by
  subst henv
  have hcall : ∀ i j, numberIn left right j = i → Alike left right (.call i) (.call j) := by
    rintro _ j rfl
    exact .refl _
  refine ⟨procedureOf_growsOf p.env.registry.concernedGroups_within fun i => ?_,
    procedureOf_growsOf p.env.registry.everyGroup_within fun j => ⟨_, hcall _ j rfl⟩, fun i j hi hj => ?_⟩
  · obtain ⟨j, hj⟩ := exists_numberIn left right i
    exact ⟨j, hcall i j hj.symm⟩
  · obtain ⟨target, q, htarget, hq, hkey⟩ := procedureOf_answersAmong p.env.registry.concernedGroups_within hi
    obtain ⟨target', q', htarget', hq', hkey'⟩ := procedureOf_answersAmong p.env.registry.everyGroup_within hj
    obtain rfl := Except.ok.inj (htarget.symm.trans htarget')
    exact hcall i j (numberIn_of_key_eq hdistinct hq hq' (hkey'.trans hkey.symm))

/-- **Lowered with and without skipping, a schema comes to nodes that run alike**, whatever the budgets and
    however deep in the data that was. -/
theorem lowerSchemaOf_alike (hdistinct : ((left.map Procedure.target).map Target.key).Nodup) :
    ∀ budget budget' s (position : Position) descents', (Pairing.across left right).Runs (Alike left right)
      (lowerSchemaOf env.registry.concernedGroups env budget s position)
      (lowerSchemaOf env.registry.everyGroup env budget' s (position.moved position.base descents')) := by
  have hrefl : ∀ site, ErrorSite.Same site site := fun _ => ⟨rfl, rfl, fun _ => rfl, fun _ => rfl⟩
  have C := Alike.congruence left right
  intro budget
  -- the right one may have another budget: the procedures of one target are opened at different depths
  induction budget with
  | zero =>
    intro budget' s position descents'
    refine ⟨.refused, fun _ _ _ hm => ⟨(lowerSchemaOf_keeps env.registry.everyGroup_within hm).1, ?_⟩, ?_⟩
    · exact exists_alike_left _
    · rintro n n' ⟨_, _, hm, -⟩
      exact absurd hm refuse_ne_ok
  | succ budget ih =>
    intro budget' s position descents'
    cases budget' with
    | zero =>
      refine ⟨fun _ _ _ hm => ⟨(lowerSchemaOf_keeps env.registry.concernedGroups_within hm).1, ?_⟩, .refused, ?_⟩
      · exact exists_alike_right _
      · rintro n n' - ⟨_, _, hm, -⟩
        exact absurd hm refuse_ne_ok
    | succ budget' =>
      cases s with
      | bool allowed =>
        cases allowed <;> exact (Pairing.across left right).pure (C.constant fun _ => rfl)
      | obj members =>
        refine (Pairing.across left right).bind ((Pairing.across left right).lifted _) fun base _ heq => ?_
        subst heq
        have hparts : ∀ rule, env.Reads members rule → rule.PartsRelated (.across left right) (Alike left right)
            env env.registry env.documents members { position with base } base descents'
            (lowerSchemaOf env.registry.concernedGroups env budget)
            (lowerSchemaOf env.registry.everyGroup env budget') := by
          refine fun rule _ => ⟨fun k data s _ _ => ?_, fun data _ => ?_, fun d expand _ _ => ?_⟩
          · refine Pairing.onUnchanged fun at' hbase _ => ?_
            rw [← show at'.base = base from hbase]
            exact ih budget' s at' _
          · exact KeywordPlace.procedureOf_across hdistinct rfl _ descents'
          · refine Pairing.onUnchanged fun at' hbase _ => ?_
            rw [← show at'.base = base from hbase]
            exact ih budget' _ at' _
        have hgroup : ∀ group ∈ env.registry.groups, (Pairing.across left right).Runs (Alike left right)
            (group.lower (lowerSchemaOf env.registry.concernedGroups env budget) env members
              { position with base } (env.onlyRef members))
            (group.lower (lowerSchemaOf env.registry.everyGroup env budget') env members
              { position with base, descents := descents' } (env.onlyRef members)) := fun group hgroup =>
          RuleGroup.lower_related C hrefl fun rule hrule => hparts rule ⟨group, hgroup, hrule⟩
        show (Pairing.across left right).Runs (Alike left right) (lowerObjectOf _ _ env members { position with base })
          (lowerObjectOf _ _ (env.among env.documents) members (Position.moved { position with base } base descents'))
        refine lowerObjectOf_related fun declared => ?_
        cases declared with
        | none =>
          have hall : env.registry.concernedGroups none = env.registry.groups :=
            List.filter_eq_self.mpr fun group _ => by cases hg : group.appliesTo <;> simp [RuleGroup.concerns, hg]
          rw [hall]
          exact Pairing.weaken (Pairing.mapM hgroup) fun _ _ hnodes => C.conj hnodes
        | some types =>
          refine Pairing.weaken (Pairing.mapM_interspersed hgroup fun group _ hskip => ?_) fun _ _ hnodes =>
            Node.conj_type_sameIn hnodes
          exact group.lower_skipped hskip _
      | _ => exact (Pairing.across left right).refused _

end

/-! ## Validators -/

/-- **Programs lowered with and without skipping do the same**, where one violation is wanted. -/
theorem lowered_run_eq {env : Environment} {schema : Json} {position : Position} {budget budget' : Nat}
    {root root' : Node} {left right : List Procedure} (hnormal : position.base.Normal)
    (hroot : position.descents = 0)
    (h : lowerSchemaOf env.registry.concernedGroups env budget schema position [] = .ok (root, left))
    (h' : lowerSchemaOf env.registry.everyGroup env budget' schema position [] = .ok (root', right))
    (data : Json) :
    (Program.ofLowered (root, left)).run true data = (Program.ofLowered (root', right)).run true data := by
  obtain ⟨hleft, -, hchecked⟩ := lowerSchemaOf_accounted env.registry.concernedGroups_within _ _ _ hnormal
    _ _ _ .nil h
  obtain ⟨hright, -, hchecked'⟩ := lowerSchemaOf_accounted env.registry.everyGroup_within _ _ _ hnormal
    _ _ _ .nil h'
  have hfinished : ∀ {procedures : List Procedure}, FilledFrom 0 procedures → Finished procedures := by
    intro procedures hfilled q hq
    obtain ⟨i, hi⟩ := List.mem_iff_getElem?.mp hq
    exact hfilled i q (Nat.zero_le i) hi
  have hcomplete := hfinished (lowerSchemaOf_keeps env.registry.concernedGroups_within h).2
  have hcomplete' := hfinished (lowerSchemaOf_keeps env.registry.everyGroup_within h').2
  have halike := @lowerSchemaOf_alike env left right hleft.targets.1
  have hmatches : (Program.ofLowered (root, left)).Matches true (numberIn left right)
      (.ofLowered (root', right)) := by
    refine hleft.matches hright hcomplete hcomplete' ?_ fun target b b' descents descents' body body' hb hb' => ?_
    · exact (halike budget budget' schema position position.descents).2.2 root root'
        ⟨[], left, h, List.prefix_rfl⟩ ⟨[], right, h', List.prefix_rfl⟩
    · exact (halike b b' target.schema (.ofTarget target descents) descents').2.2 body body' hb hb'
  rw [hroot] at hchecked hchecked'
  exact hmatches.run_eq (Program.ofLowered_closed hleft.ordered (hchecked left List.prefix_rfl))
    (Program.ofLowered_closed hright.ordered (hchecked' right List.prefix_rfl)) data

/-- Compiles a schema, with a choice of the groups that are lowered under declared types. -/
def compileSchemaOf (groups : GroupChoice) (s : Surroundings) (schema : Json) : Except SchemaError Validator := do
  let base ← schemaBase schema defaultBase
  let documents ← Documents.visibleFrom schema base s.cache
  let lowered ← lowerSchemaOf groups (s.among documents) (loweringBudget schema documents) schema
    ⟨"#", "", 0, base, 0⟩ []
  return ⟨.ofLowered lowered, s.options.allErrors⟩

theorem compileSchemaOf_eq_ok {groups : GroupChoice} {s : Surroundings} {schema : Json} {validator : Validator} :
    compileSchemaOf groups s schema = .ok validator ↔ ∃ base documents lowered,
      schemaBase schema defaultBase = .ok base ∧ Documents.visibleFrom schema base s.cache = .ok documents ∧
      lowerSchemaOf groups (s.among documents) (loweringBudget schema documents) schema
        ⟨"#", "", 0, base, 0⟩ [] = .ok lowered ∧ validator = ⟨.ofLowered lowered, s.options.allErrors⟩ := by
  unfold compileSchemaOf
  simp only [bind_eq_ok, pure, Except.pure, Except.ok.injEq, eq_comm (a := validator)]
  exact exists_congr fun base => by simp only [exists_and_left]

/-- Compiling skips the groups that cannot concern the declared types. -/
theorem compileSchemaOf_concerned (s : Surroundings) (schema : Json) :
    compileSchemaOf s.registry.concernedGroups s schema = compileSchema s schema := by
  have hlower : ∀ documents budget, lowerSchemaOf s.registry.concernedGroups (s.among documents) budget =
      lowerSchema (s.among documents) budget := fun documents => lowerSchemaOf_concerned (s.among documents)
  unfold compileSchemaOf
  rw [compileSchema_eq]
  unfold lowerProgram
  simp only [hlower]
  cases schemaBase schema defaultBase with
  | error e => rfl
  | ok base =>
    dsimp only [bind, Except.bind]
    cases Documents.visibleFrom schema base s.cache with
    | error e => rfl
    | ok documents =>
      show Except.bind (lowerSchema (s.among documents) _ _ _ _) _ =
        Except.map _ (lowerSchema (s.among documents) _ _ _ _)
      cases lowerSchema (s.among documents) _ _ _ _ <;> rfl

/-- **Skipping groups only optimises.**  A schema that compiles with and without skipping the groups that
    cannot concern the declared types has two validators that accept the same values.  Where one violation
    is wanted they say the same altogether; where all are wanted, the verdicts of runs that end agree. -/
theorem skipping_groups_only_optimises {s : Surroundings} {schema : Json} {skipping whole : Validator}
    (h : compileSchema s schema = .ok skipping) (h' : compileSchemaOf s.registry.everyGroup s schema = .ok whole) :
    (∀ data, whole.isValid data = skipping.isValid data) ∧
    (s.options.allErrors = false → ∀ data, whole.validate data = skipping.validate data) ∧
    ∀ data, whole.validate data ≠ .endless → skipping.validate data ≠ .endless →
      (whole.validate data = .valid ↔ skipping.validate data = .valid) := by
  rw [← compileSchemaOf_concerned] at h
  obtain ⟨base, documents, ⟨root, left⟩, hbase, hdocuments, hlowered, rfl⟩ := compileSchemaOf_eq_ok.mp h
  obtain ⟨base', documents', ⟨root', right⟩, hbase', hdocuments', hlowered', rfl⟩ := compileSchemaOf_eq_ok.mp h'
  obtain rfl := Except.ok.inj (hbase.symm.trans hbase')
  obtain rfl := Except.ok.inj (hdocuments.symm.trans hdocuments')
  have hnormal : base.Normal := schemaBase_normal defaultBase_normal hbase
  have hrun : ∀ data, (Program.ofLowered (root, left)).run true data =
      (Program.ofLowered (root', right)).run true data := fun data =>
    @lowered_run_eq (s.among documents) _ _ _ _ _ _ _ _ hnormal rfl hlowered hlowered' data
  have hvalid : ∀ data, (Validator.mk (.ofLowered (root', right)) s.options.allErrors).isValid data =
      (Validator.mk (.ofLowered (root, left)) s.options.allErrors).isValid data := by
    intro data
    unfold Validator.isValid
    rw [hrun]
  refine ⟨hvalid, fun hfast data => ?_, fun data hends hends' => ?_⟩
  · unfold Validator.validate
    rw [hfast, Bool.not_false, hrun]
  · have hverdict : ∀ v : Validator, v.validate data ≠ .endless →
        (v.validate data = .valid ↔ v.isValid data = true) := by
      intro v hv
      rcases v.validate_cases data with h | ⟨h, hpasses⟩ | ⟨violations, -, h, hfails⟩
      · exact absurd h hv
      · simp [h, hpasses]
      · simp [h, hfails]
    rw [hverdict _ hends, hverdict _ hends', hvalid]

/-- Texts that are not short, beside what arrays would have to hold. -/
def longText : Json := .obj [
  ("type", "string"),
  ("items", .obj [("$ref", "#/definitions/flag")]),
  ("not", .obj [("type", .arr ["string", "null"]), ("maxLength", (1 : Nat)), ("minimum", (2 : Nat))]),
  ("definitions", .obj [("flag", .obj [("type", "boolean")])])]

/-- Only without skipping does `longText` come to its reference, and still both validators say the same. -/
theorem longText_alike : ∃ skipping whole, compileSchema .plain longText = .ok skipping ∧
    compileSchemaOf Surroundings.plain.registry.everyGroup .plain longText = .ok whole ∧
    skipping.program.procedures.length = 0 ∧ whole.program.procedures.length = 1 ∧
    (whole.isValid "ab" = true ∧ whole.isValid "a" = false ∧ whole.isValid (.arr []) = false) ∧
    ∀ data, whole.validate data = skipping.validate data := by
  have hskips : (compileSchema .plain longText).toOption.any (fun v =>
      v.program.procedures.length == 0 && v.isValid "ab" && !v.isValid "a" && !v.isValid (.arr [])) = true := by
    decide +kernel
  have hlowers : (compileSchemaOf Surroundings.plain.registry.everyGroup .plain longText).toOption.any (fun v =>
      v.program.procedures.length == 1) = true := by decide +kernel
  obtain ⟨skipping, hskipping, hnone⟩ := exists_ok_of_any hskips
  obtain ⟨whole, hwhole, hone⟩ := exists_ok_of_any hlowers
  obtain ⟨hvalid, hsame, -⟩ := skipping_groups_only_optimises hskipping hwhole
  simp only [Bool.and_eq_true, beq_iff_eq, Bool.not_eq_eq_eq_not, Bool.not_true] at hnone hone
  obtain ⟨⟨⟨hlength, hlong⟩, hshort⟩, harray⟩ := hnone
  exact ⟨skipping, whole, hskipping, hwhole, hlength, hone,
    ⟨(hvalid _).trans hlong, (hvalid _).trans hshort, (hvalid _).trans harray⟩, hsame rfl⟩

end JsonSchema
