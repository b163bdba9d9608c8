import JsonSchema.Proofs.Evaluation.Matching
import JsonSchema.Proofs.Lowering.Counterparts
import JsonSchema.Proofs.Reference.Keys

/-!
# Two runs that end among different procedures

A schema can be lowered in two ways that come to different references, or to the same ones in another
order.  Each way ends among procedures of its own, and a procedure of one is one of the other if both are
for targets with the same key (`numberIn`).

`Pairing.across` relates the answers of two runs by what they say once both are done: whatever the runs
started with, **the numbers in the answers are those of the procedures in the end**, since procedures are
only ever added (`LowerM.AnswersAmong`).  So two bodies of one target can be compared although they were
lowered at different times.

Where the bodies that both have run alike, so do the programs (`Accounted.matches`).
-/

set_option autoImplicit false

namespace JsonSchema

open LowerM

/-! ## Answers among the procedures in the end -/

/-- The run can answer so, with procedures for what the first of the given ones are for. -/
def LowerM.AnswersAmong {α : Type} (procedures : List Procedure) (m : LowerM α) (a : α) : Prop :=
  ∃ before after, m before = .ok (a, after) ∧
    after.map Procedure.target <+: procedures.map Procedure.target

section

variable {α : Type} {m : LowerM α} {a : α} {procedures later : List Procedure}

theorem LowerM.AnswersAmong.mono (h : m.AnswersAmong procedures a)
    (hle : procedures.map Procedure.target <+: later.map Procedure.target) : m.AnswersAmong later a := by
  obtain ⟨before, after, hm, hafter⟩ := h
  exact ⟨before, after, hm, hafter.trans hle⟩

/-- What a run answers it answers among all procedures that are added later. -/
theorem LowerM.Ensures.answering {I : List Procedure → Prop} {Q : List Procedure → α → Prop}
    (h : Ensures I m Q) : Ensures I m fun later a => Q later a ∧ m.AnswersAmong later a := by
  intro before a after hi hm
  obtain ⟨hi', hle, hq⟩ := h before a after hi hm
  exact ⟨hi', hle, fun later hl => ⟨hq later hl, before, after, hm, hl.map _⟩⟩

/-- Procedures for the first of some targets have the same numbers there. -/
theorem exists_of_target_prefix {after : List Procedure} {i : Nat} {q : Procedure}
    (hle : after.map Procedure.target <+: procedures.map Procedure.target) (hq : after[i]? = some q) :
    ∃ q', procedures[i]? = some q' ∧ q'.target = q.target := by
  obtain ⟨rest, hrest⟩ := hle
  obtain ⟨hi, -⟩ := List.getElem?_eq_some_iff.mp hq
  have htarget : (procedures.map Procedure.target)[i]? = some q.target := by
    rw [← hrest, List.getElem?_append_left (by rwa [List.length_map]), List.getElem?_map, hq]
    rfl
  rw [List.getElem?_map] at htarget
  exact Option.map_eq_some_iff.mp htarget

/-- **A reference answers with the number of a procedure for its target.** -/
theorem KeywordPlace.procedureOf_answersAmong {groups : GroupChoice} {env : Environment}
    (hgroups : groups.Within env.registry) {p : KeywordPlace} {reference : String} {budget i : Nat}
    (h : (p.procedureOf (lowerSchemaOf groups env budget) reference).AnswersAmong procedures i) :
    ∃ target q, p.env.documents.resolve p.position.base reference = .ok target ∧ procedures[i]? = some q ∧
      q.target.key = target.key := by
  obtain ⟨before, after, hm, hle⟩ := h
  obtain ⟨target, htarget, hcases⟩ := procedureOf_cases hm
  rcases hcases with ⟨rfl, q, hq, hkey, -⟩ | ⟨-, rfl, body, mid, hbody, rfl⟩
  · obtain ⟨q', hq', hsame⟩ := exists_of_target_prefix hle hq
    exact ⟨target, q', htarget, hq', hsame ▸ hkey⟩
  · have hopened : mid[before.length]? = some ⟨target, p.position.descents, none⟩ :=
      getElem?_of_prefix (lowerSchemaOf_keeps hgroups hbody).1 (by simp)
    rw [map_target_fill] at hle
    obtain ⟨q', hq', hsame⟩ := exists_of_target_prefix hle hopened
    exact ⟨target, q', htarget, hq', congrArg Target.key hsame⟩

end

/-! ## Numbers on the left for procedures on the right -/

/-- The number that a procedure on the right has on the left: that of the procedure with its key, or one
    behind all procedures.  Every number is the number of something. -/
def numberIn (left right : List Procedure) (j : Nat) : Nat :=
  match right[j]? with
  | some q => (left.findIdx? (·.target.key = q.target.key)).getD (left.length + j)
  | none => j - right.length

section

variable {left right : List Procedure} {i j : Nat} {q q' : Procedure}

theorem exists_numberIn (left right : List Procedure) (i : Nat) : ∃ j, i = numberIn left right j := by
  refine ⟨right.length + i, ?_⟩
  unfold numberIn
  rw [List.getElem?_eq_none (Nat.le_add_right _ _), Nat.add_sub_cancel_left]

theorem numberIn_of_key_eq (hdistinct : ((left.map Procedure.target).map Target.key).Nodup)
    (hq : left[i]? = some q) (hq' : right[j]? = some q') (hkey : q'.target.key = q.target.key) :
    numberIn left right j = i := by
  unfold numberIn
  rw [hq']
  dsimp only
  rw [hkey, findIdx?_of_distinct hdistinct hq, Option.getD_some]

/-- A procedure on the right is one of those on the left, or stands behind them. -/
theorem numberIn_cases (left : List Procedure) (hq' : right[j]? = some q') :
    (∃ q, left[numberIn left right j]? = some q ∧ q.target.key = q'.target.key) ∨
      numberIn left right j = left.length + j := by
  unfold numberIn
  rw [hq']
  dsimp only
  cases hfound : left.findIdx? (·.target.key = q'.target.key) with
  | none => exact .inr rfl
  | some i =>
    obtain ⟨hi, hkey, -⟩ := List.findIdx?_eq_some_iff_getElem.mp hfound
    exact .inl ⟨_, List.getElem?_eq_getElem hi, by simpa using hkey⟩

end

/-- Both runs keep the procedures that there were, and their answers are related once they end among the
    given procedures. -/
def Pairing.across (left right : List Procedure) : Pairing where
  Runs R m m' := Grows R m ∧ Grows (flip R) m' ∧ ∀ a b, m.AnswersAmong left a → m'.AnswersAmong right b → R a b
  left := id
  right := numberIn left right
  pure h := by
    refine ⟨.pure h, .pure h, ?_⟩
    rintro a b ⟨_, _, hm, -⟩ ⟨_, _, hm', -⟩
    obtain ⟨rfl, -⟩ := pure_eq_ok.mp hm
    obtain ⟨rfl, -⟩ := pure_eq_ok.mp hm'
    exact h
  bind hm hf := by
    refine ⟨hm.1.bind fun a b hab => (hf a b hab).1, hm.2.1.bind fun b a hab => (hf a b hab).2.1, ?_⟩
    intro c d h h'
    obtain ⟨before, after, hmf, hle⟩ := h
    obtain ⟨before', after', hmf', hle'⟩ := h'
    obtain ⟨a, mid, ha, hc⟩ := LowerM.bind_eq_ok.mp hmf
    obtain ⟨b, mid', hb, hd⟩ := LowerM.bind_eq_ok.mp hmf'
    -- what comes after the first steps only adds procedures
    obtain ⟨-, b₀, hab₀⟩ := hm.1 _ _ _ ha
    obtain ⟨-, a₀, ha₀b⟩ := hm.2.1 _ _ _ hb
    have hmid := ((hf a b₀ hab₀).1 _ _ _ hc).1.map Procedure.target
    have hmid' := ((hf a₀ b ha₀b).2.1 _ _ _ hd).1.map Procedure.target
    have hab := hm.2.2 a b ⟨before, mid, ha, hmid.trans hle⟩ ⟨before', mid', hb, hmid'.trans hle'⟩
    exact (hf a b hab).2.2 c d ⟨mid, after, hc, hle⟩ ⟨mid', after', hd, hle'⟩
  lifted x := by
    have hgrows : ∀ {R : _ → _ → Prop}, (∀ a, R a a) → Grows R (liftExcept x) := by
      intro R hR procedures a after hm
      obtain ⟨-, rfl⟩ := liftExcept_eq_ok.mp hm
      exact ⟨List.prefix_rfl, a, hR a⟩
    refine ⟨hgrows fun _ => rfl, hgrows fun _ => rfl, ?_⟩
    rintro a b ⟨_, _, hm, -⟩ ⟨_, _, hm', -⟩
    exact Except.ok.inj ((liftExcept_eq_ok.mp hm).1.symm.trans (liftExcept_eq_ok.mp hm').1)

/-! ## Procedures that are accounted for -/

/-- Each procedure is for a target that a reference leads to, under a key of its own, and its body is what
    the target was lowered to with the groups of a choice. -/
structure Accounted (groups : GroupChoice) (env : Environment) (procedures : List Procedure) : Prop where
  ordered : Ordered procedures
  targets : TargetsAre env.documents.Reached procedures
  bodies : ∀ q ∈ procedures, ∀ body, q.body = some body → ∃ budget,
    (lowerSchemaOf groups env budget q.target.schema (.ofTarget q.target q.descents)).AnswersAmong procedures body

namespace Accounted

variable {groups : GroupChoice} {env : Environment} {procedures : List Procedure}

theorem nil : Accounted groups env [] := ⟨.nil, .nil, fun _ hq => absurd hq List.not_mem_nil⟩

theorem opened (h : Accounted groups env procedures) {target : Target} (htarget : env.documents.Reached target)
    (hnew : ∀ q ∈ procedures, q.target.key ≠ target.key) (descents : Nat) :
    Accounted groups env (procedures ++ [⟨target, descents, none⟩]) := by
  refine ⟨h.ordered.opened target descents, h.targets.opened htarget hnew descents, ?_⟩
  refine List.forall_mem_append.mpr ⟨fun q hq body hbody => ?_, List.forall_mem_singleton.mpr nofun⟩
  obtain ⟨budget, hmade⟩ := h.bodies q hq body hbody
  exact ⟨budget, hmade.mono ((List.prefix_append _ _).map _)⟩

theorem filled (h : Accounted groups env procedures) {i : Nat} {q : Procedure} {body : Node}
    (hq : procedures[i]? = some q) (hopen : q.body = none) (hchecked : body.Checked procedures q.descents)
    (hmade : ∃ budget, (lowerSchemaOf groups env budget q.target.schema
      (.ofTarget q.target q.descents)).AnswersAmong procedures body) :
    Accounted groups env (procedures.modify i (·.fill body)) := by
  refine ⟨h.ordered.filled hq hopen hchecked, h.targets.fill i body, fun q' hq' body' hbody' => ?_⟩
  have hsame : ∀ {m : LowerM Node}, m.AnswersAmong procedures body' →
      m.AnswersAmong (procedures.modify i (·.fill body)) body' := fun hm =>
    hm.mono (by rw [map_target_fill])
  obtain ⟨k, hk⟩ := List.mem_iff_getElem?.mp hq'
  rw [getElem?_fill] at hk
  obtain ⟨r, hr, rfl⟩ := Option.map_eq_some_iff.mp hk
  split at hbody'
  · next hik =>
    subst hik
    obtain rfl := Option.some.inj (hq.symm.trans hr)
    obtain rfl := Option.some.inj hbody'
    rw [if_pos rfl]
    exact hmade.imp fun _ => hsame
  · next hik =>
    rw [if_neg hik]
    exact (h.bodies r (List.mem_of_getElem? hr) body' hbody').imp fun _ => hsame

end Accounted

section

variable {groups : GroupChoice} {env : Environment}

/-- An object hands on bases in normal form. -/
theorem Environment.Hands.base_normal {members : List (String × Json)} {position at' : Position} {s : Json}
    (hnormal : position.base.Normal) (h : env.Hands members position s at') : at'.base.Normal := by
  cases h with
  | applied _ _ _ hbase => exact hbase ▸ hnormal
  | referred _ _ htarget => exact (Documents.reached_of_resolve hnormal htarget).base_normal
  | expanded _ _ _ hbase => exact hbase ▸ hnormal

theorem ObjectMakesOf.checked {procedures : List Procedure} {documents : Documents}
    {members : List (String × Json)} {position : Position} {n : Node}
    (h : ObjectMakesOf (checkedAt procedures) (Refers procedures documents) env members position groups n) :
    n.Checked procedures position.descents := by
  obtain ⟨declared, nodes, -, hmakes, rfl⟩ := h
  refine .conj (List.forall_mem_append.mpr ⟨fun n hn => ?_, ?_⟩)
  · obtain ⟨types, -, rfl⟩ := by simpa using hn
    exact .leaf (by simp [typeNode]) rfl
  · exact forall_mem_of_forall₂ (hmakes.flip.imp fun _ _ h => RuleGroup.Makes.checked h)

/-- **Procedures stay accounted for**, and what a schema is lowered to is checked. -/
theorem lowerSchemaOf_accounted (hgroups : groups.Within env.registry) (budget : Nat) :
    ∀ s (position : Position), position.base.Normal →
      Ensures (Accounted groups env) (lowerSchemaOf groups env budget s position)
        fun later n => n.Checked later position.descents := by
  induction budget with
  | zero => exact fun s position _ => .refuse
  | succ budget ih =>
    intro s position hnormal
    cases s with
    | bool allowed => cases allowed <;> exact .pure fun _ => .leaf (by simp) rfl
    | obj members =>
      cases hbase : schemaBase (.obj members) position.base with
      | error e =>
        intro procedures n after _ hm
        rw [lowerSchemaOf, hbase] at hm
        obtain ⟨_, _, hrefused, -⟩ := LowerM.bind_eq_ok.mp hm
        cases (liftExcept_eq_ok.mp hrefused).1
      | ok base =>
        have hinner := schemaBase_normal hnormal hbase
        have hl : ∀ s at', Ensures (Accounted groups env)
            ((lowerSchemaOf groups env budget).guarded (fun _ at' => at'.base.Normal) s at') fun later n =>
            n.Checked later at'.descents ∧ ∃ budget, (lowerSchemaOf groups env budget s at').AnswersAmong later n :=
          fun s at' => Lower.guarded_made fun hat =>
            (ih s at' hat).answering.weaken fun _ _ h => ⟨h.1, budget, h.2⟩
        have hr : ∀ rule, env.Reads members rule → rule.RefersTo env members { position with base }
            (Accounted groups env) ((lowerSchemaOf groups env budget).guarded fun _ at' => at'.base.Normal)
            fun later => Refers later env.documents := by
          intro rule _ data _
          refine procedureOf_made (B := fun later s at' n => n.Checked later at'.descents ∧
              ∃ budget, (lowerSchemaOf groups env budget s at').AnswersAmong later n)
            (fun target => hl _ _) ?_ fun hi hq hopen hb => hi.filled hq hopen hb.1 hb.2
          exact fun htarget hi hnew => hi.opened (Documents.reached_of_resolve hinner htarget) hnew _
        have hchecked : ∀ s at', Ensures (Accounted groups env)
            ((lowerSchemaOf groups env budget).guarded (fun _ at' => at'.base.Normal) s at') fun later n =>
            checkedAt later s at' n := fun s at' => (hl s at').weaken fun _ _ h => h.1
        have hobject := lowerObjectOf_made hchecked hgroups hr
        rw [lowerObjectOf_guarded hgroups fun s at' hhands => hhands.base_normal hinner] at hobject
        rw [lowerSchemaOf_obj hbase]
        exact hobject.weaken fun _ _ h => h.checked
    | _ => exact .refuse

/-- What a body of the program is, once all procedures have one. -/
theorem Program.getElem?_ofLowered {root body : Node} {procedures : List Procedure} {i : Nat}
    (hfinished : Finished procedures) :
    (Program.ofLowered (root, procedures)).procedures[i]? = some body ↔
      ∃ q, procedures[i]? = some q ∧ q.body = some body := by
  show (procedures.map _)[i]? = _ ↔ _
  rw [List.getElem?_map, Option.map_eq_some_iff]
  refine exists_congr fun q => and_congr_right fun hq => ?_
  obtain ⟨b, hb⟩ := Option.isSome_iff_exists.mp (hfinished q (List.mem_of_getElem? hq))
  rw [hb, Option.getD_some, Option.some.injEq]

/-- **Two lowered programs match if what both have of one target runs alike.** -/
theorem Accounted.matches {groups' : GroupChoice} {failFast : Bool} {left right : List Procedure}
    {root root' : Node} (h : Accounted groups env left) (h' : Accounted groups' env right)
    (hfinished : Finished left) (hfinished' : Finished right)
    (hroot : root.SameIn failFast (root'.renumber (numberIn left right)))
    (hbodies : ∀ (target : Target) (budget budget' descents descents' : Nat) (body body' : Node),
      (lowerSchemaOf groups env budget target.schema (.ofTarget target descents)).AnswersAmong left body →
      (lowerSchemaOf groups' env budget' target.schema (.ofTarget target descents')).AnswersAmong right body' →
      body.SameIn failFast (body'.renumber (numberIn left right))) :
    (Program.ofLowered (root, left)).Matches failFast (numberIn left right) (.ofLowered (root', right)) := by
  refine ⟨hroot, fun j body' hj => ?_⟩
  obtain ⟨q', hq', hbody'⟩ := (Program.getElem?_ofLowered hfinished').mp hj
  rcases numberIn_cases left hq' with ⟨q, hq, hkey⟩ | hbehind
  · have hmem := List.mem_of_getElem? hq
    have hmem' := List.mem_of_getElem? hq'
    obtain ⟨body, hbody⟩ := Option.isSome_iff_exists.mp (hfinished q hmem)
    refine .inl ⟨body, (Program.getElem?_ofLowered hfinished).mpr ⟨q, hq, hbody⟩, ?_⟩
    obtain ⟨budget, hmade⟩ := h.bodies q hmem body hbody
    obtain ⟨budget', hmade'⟩ := h'.bodies q' hmem' body' hbody'
    have hsame : q.target = q'.target :=
      (h.targets.2 _ (List.mem_map_of_mem hmem)).eq_of_key_eq (h'.targets.2 _ (List.mem_map_of_mem hmem')) hkey
    rw [hsame] at hmade
    exact hbodies q'.target budget budget' _ _ body body' hmade hmade'
  · refine .inr (hbehind.trans ?_)
    show left.length + j = (left.map _).length + j
    rw [List.length_map]

end

end JsonSchema
