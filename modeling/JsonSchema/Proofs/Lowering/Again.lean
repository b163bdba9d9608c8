import JsonSchema.Proofs.Lowering.Cycles
import JsonSchema.Proofs.Lowering.Parallel

/-!
# Lowering again among finished procedures

While lowering goes on, what a reference becomes depends on the procedures so far: it may find its
target, open or filled, or have to lower it.  **Among procedures that are finished nothing is opened or
refused**: a reference is looked up, and that is all.

`lowerSchema_again` connects the two: if a schema was lowered with certain procedures in the end, then it
and each of their targets can be lowered again among any finished procedures with these keys, to the
same bodies but for the numbers.  The order in which the procedures were opened, how deep in the data
that was, and the budget do not matter any more.
-/

set_option autoImplicit false

namespace JsonSchema

open LowerM

/-! ## Finished procedures -/

/-- All procedures have bodies. -/
def Finished (procedures : List Procedure) : Prop := ∀ q ∈ procedures, q.body.isSome

/-- Among finished procedures a reference is looked up. -/
theorem KeywordPlace.procedureOf_finished {lower : Lower} {p : KeywordPlace} {reference : String}
    {procedures : List Procedure} {target : Target} {i : Nat} (h : Finished procedures)
    (htarget : p.env.documents.resolve p.position.base reference = .ok target)
    (hfound : procedures.findIdx? (·.target.key = target.key) = some i) :
    p.procedureOf lower reference procedures = .ok (i, procedures) := by
  obtain ⟨hi, -, -⟩ := List.findIdx?_eq_some_iff_getElem.mp hfound
  have hbody := h _ (List.getElem_mem hi)
  rw [procedureOf_eq, htarget]
  dsimp only
  rw [hfound]
  dsimp only
  rw [if_neg]
  rw [List.getElem?_eq_getElem hi, Option.any_some]
  simp [Option.isSome_iff_ne_none.mp hbody]

/-- What succeeds keeps the procedures that there were, and has an answer that is related to some. -/
def LowerM.Grows {α β : Type} (R : α → β → Prop) (m : LowerM α) : Prop :=
  ∀ procedures a after, m procedures = .ok (a, after) → procedures <+: after ∧ ∃ b, R a b

namespace LowerM.Grows

variable {α β γ δ : Type} {R : α → β → Prop} {S : γ → δ → Prop}

theorem pure {a : α} {b : β} (h : R a b) : Grows R (Pure.pure a) := by
  intro procedures a' after hm
  obtain ⟨rfl, rfl⟩ := pure_eq_ok.mp hm
  exact ⟨List.prefix_rfl, b, h⟩

theorem bind {m : LowerM α} {f : α → LowerM γ} (hm : Grows R m) (hf : ∀ a b, R a b → Grows S (f a)) :
    Grows S (m >>= f) := by
  intro procedures c after hmf
  obtain ⟨a, mid, h, h'⟩ := bind_eq_ok.mp hmf
  obtain ⟨hle, b, hab⟩ := hm _ _ _ h
  obtain ⟨hle', hc⟩ := hf a b hab _ _ _ h'
  exact ⟨hle.trans hle', hc⟩

theorem lifted (x : Except SchemaError α) : Grows Eq (liftExcept x) := by
  intro procedures a after hm
  obtain ⟨-, rfl⟩ := liftExcept_eq_ok.mp hm
  exact ⟨List.prefix_rfl, a, rfl⟩

theorem refused {e : SchemaError} : Grows R (refuse e) := fun _ _ _ hm => absurd hm refuse_ne_ok

end LowerM.Grows

/-- Lowering keeps the procedures that there were, whatever groups are chosen. -/
theorem lowerSchemaOf_keeps {env : Environment} {groups : GroupChoice} (hgroups : groups.Within env.registry)
    {budget : Nat} {s : Json} {position : Position} {procedures after : List Procedure} {n : Node}
    (h : lowerSchemaOf groups env budget s position procedures = .ok (n, after)) :
    procedures <+: after ∧ FilledFrom procedures.length after := by
  have hnone : FilledFrom procedures.length procedures := by
    intro i q hi hq
    obtain ⟨hlt, -⟩ := List.getElem?_eq_some_iff.mp hq
    omega
  obtain ⟨hfilled, hle, -⟩ := lowerSchemaOf_fills hgroups budget _ _ _ _ _ _ hnone h
  exact ⟨hle, hfilled⟩

/-- Lowering keeps the procedures that there were. -/
theorem lowerSchema_keeps {env : Environment} {budget : Nat} {s : Json} {position : Position}
    {procedures after : List Procedure} {n : Node}
    (h : lowerSchema env budget s position procedures = .ok (n, after)) :
    procedures <+: after ∧ FilledFrom procedures.length after := by
  rw [← lowerSchemaOf_concerned] at h
  exact lowerSchemaOf_keeps env.registry.concernedGroups_within h

/-- A reference keeps the procedures that there were, whatever groups are chosen. -/
theorem KeywordPlace.procedureOf_growsOf {env : Environment} {groups : GroupChoice}
    (hgroups : groups.Within env.registry) {budget : Nat} {p : KeywordPlace} {reference : String} {β : Type}
    {R : Nat → β → Prop} (hR : ∀ i, ∃ b, R i b) :
    Grows R (p.procedureOf (lowerSchemaOf groups env budget) reference) := by
  intro procedures i after hm
  obtain ⟨target, -, ⟨rfl, -⟩ | ⟨-, rfl, body, mid, hbody, rfl⟩⟩ := procedureOf_cases hm
  · exact ⟨List.prefix_rfl, hR i⟩
  · exact ⟨prefix_modify (lowerSchemaOf_keeps hgroups hbody).1, hR _⟩

/-- A reference keeps the procedures that there were. -/
theorem KeywordPlace.procedureOf_grows {env : Environment} {budget : Nat} {p : KeywordPlace}
    {reference : String} {β : Type} {R : Nat → β → Prop} (hR : ∀ i, ∃ b, R i b) :
    Grows R (p.procedureOf (lowerSchema env budget) reference) := by
  rw [← lowerSchemaOf_concerned]
  exact procedureOf_growsOf env.registry.concernedGroups_within hR

/-! ## Replaying -/

section

variable {env : Environment} {documents : Documents} {W : Correspondence} {finished : List Procedure}
  {g : Nat → Nat}

variable (env documents W finished g)

/-- Where a target has the key of a procedure, its counterpart is found among the finished ones, under the
    number that `g` gives. -/
def Keyed (procedures : List Procedure) : Prop :=
  ∀ (i : Nat) (q : Procedure), procedures[i]? = some q →
    ∀ target target', env.Reaches documents W target target' → target.key = q.target.key →
      finished.findIdx? (·.target.key = target'.key) = some (g i)

/-- Lowered again among the finished procedures, counterparts of the target of the procedure have its body. -/
def Procedure.Settled (q : Procedure) : Prop :=
  ∀ body, q.body = some body → ∀ target', q.target.Matches W target' →
    ∃ budget, ∀ budget' ≥ budget, ∀ descents,
      lowerSchema (env.among documents) budget' target'.schema (.ofTarget target' descents) finished =
        .ok (body.renumber g, finished)

variable {env documents W finished g}

theorem Keyed.earlier {procedures later : List Procedure} (h : Keyed env documents W finished g later)
    (hle : procedures <+: later) : Keyed env documents W finished g procedures :=
  fun i q hq => h i q <| getElem?_of_prefix hle hq

theorem Keyed.of_fill {procedures : List Procedure} {i : Nat} {body : Node}
    (h : Keyed env documents W finished g (procedures.modify i (·.fill body))) :
    Keyed env documents W finished g procedures := by
  intro j q hq target target' hreached hkey
  refine h j (if i = j then q.fill body else q) ?_ target target' hreached ?_
  · rw [List.getElem?_modify, hq]
    rfl
  · rw [hkey]
    split <;> rfl

variable (env documents W finished g)

/-- What succeeds, with keys that are found, succeeds again among the finished procedures, and then the
    procedures are settled if they were before. -/
def Pairing.replaying : Pairing where
  Runs R m m' := Grows R m ∧ ∀ procedures a after, m procedures = .ok (a, after) →
    (∀ q ∈ procedures, q.Settled env documents W finished g) → Keyed env documents W finished g after →
    (∀ q ∈ after, q.Settled env documents W finished g) ∧ ∃ b, R a b ∧ m' finished = .ok (b, finished)
  left := g
  right := id
  pure h := by
    refine ⟨.pure h, fun procedures a after hm hsettled _ => ?_⟩
    obtain ⟨rfl, rfl⟩ := pure_eq_ok.mp hm
    exact ⟨hsettled, _, h, rfl⟩
  bind hm hf := by
    refine ⟨hm.1.bind fun a b hab => (hf a b hab).1, fun procedures c after hmf hsettled hkeyed => ?_⟩
    obtain ⟨a, mid, h, h'⟩ := bind_eq_ok.mp hmf
    obtain ⟨-, b, hab⟩ := hm.1 _ _ _ h
    have hkeyed' := hkeyed.earlier ((hf a b hab).1 _ _ _ h').1
    obtain ⟨hsettled', b', hab', hb'⟩ := hm.2 _ _ _ h hsettled hkeyed'
    obtain ⟨hsettled'', d, hcd, hd⟩ := (hf a b' hab').2 _ _ _ h' hsettled' hkeyed
    exact ⟨hsettled'', d, hcd, bind_eq_ok.mpr ⟨b', finished, hb', hd⟩⟩
  lifted x := by
    refine ⟨.lifted x, fun procedures a after hm hsettled _ => ?_⟩
    obtain ⟨rfl, rfl⟩ := liftExcept_eq_ok.mp hm
    exact ⟨hsettled, a, rfl, rfl⟩

variable {env documents W finished g}

/-- What is refused is not replayed. -/
theorem replaying_refused {e : SchemaError} {m' : LowerM Node} :
    (Pairing.replaying env documents W finished g).Runs
      (Pairing.replaying env documents W finished g).Nodes (refuse e) m' :=
  ⟨.refused, fun _ _ _ hm => absurd hm refuse_ne_ok⟩

/-- Procedures stay settled when one of them is filled with a body that it is settled with. -/
theorem settled_fill {procedures : List Procedure} {i : Nat} {q : Procedure} {body : Node}
    (hsettled : ∀ q ∈ procedures, q.Settled env documents W finished g) (hq : procedures[i]? = some q)
    (hfilled : (q.fill body).Settled env documents W finished g) :
    ∀ q ∈ procedures.modify i (·.fill body), q.Settled env documents W finished g := by
  intro q' hq'
  obtain ⟨j, hj⟩ := List.mem_iff_getElem?.mp hq'
  rw [getElem?_fill] at hj
  obtain ⟨r, hr, rfl⟩ := Option.map_eq_some_iff.mp hj
  by_cases hij : i = j
  · subst hij
    obtain rfl := Option.some.inj (hq.symm.trans hr)
    rwa [if_pos rfl]
  · rw [if_neg hij]
    exact hsettled r (List.mem_of_getElem? hr)

/-- A reference finds again the procedure that it found or opened. -/
theorem KeywordPlace.procedureOf_replayed {p : KeywordPlace} {reference : String} {budget budget' : Nat}
    {inner' : Uri} {descents' : Nat} (hfinished : Finished finished) (henv : p.env = env)
    (hanswers : env.Answers documents W (env.documents.resolve p.position.base reference)
      (documents.resolve inner' reference))
    (ih : ∀ budget' ≥ budget,
      env.ParallelRuns documents W (.replaying env documents W finished g) budget budget') :
    (Pairing.replaying env documents W finished g).Runs
      (Pairing.replaying env documents W finished g).Numbers
      (p.procedureOf (lowerSchema env budget) reference)
      ((p.elsewhere env.registry documents inner' descents').procedureOf
        (lowerSchema (env.among documents) budget') reference) := by
  subst henv
  refine ⟨procedureOf_grows fun i => ⟨g i, rfl⟩, fun procedures i after hm hsettled hkeyed => ?_⟩
  obtain ⟨target, htarget, h⟩ := procedureOf_cases hm
  obtain ⟨target', htarget', hreached, hmatches⟩ := (htarget ▸ hanswers).exists_right
  rcases h with ⟨rfl, q, hq, hkey, -⟩ | ⟨-, rfl, body, mid, hbody, rfl⟩
  · exact ⟨hsettled, g i, rfl, procedureOf_finished hfinished htarget'
      (hkeyed i q hq target target' hreached hkey.symm)⟩
  · obtain ⟨hle, -⟩ := lowerSchema_keeps hbody
    have hnew : mid[procedures.length]? = some ⟨target, p.position.descents, none⟩ :=
      getElem?_of_prefix hle (by simp)
    have hopened : ∀ q ∈ procedures ++ [⟨target, p.position.descents, none⟩],
        q.Settled p.env documents W finished g := by
      refine List.forall_mem_append.mpr ⟨hsettled, List.forall_mem_singleton.mpr ?_⟩
      intro body hbody
      cases hbody
    have hagain : ∀ target', target.Matches W target' → ∀ budget' ≥ budget, ∀ descents',
        (∀ q ∈ mid, q.Settled p.env documents W finished g) ∧
        lowerSchema (p.env.among documents) budget' target'.schema (.ofTarget target' descents') finished =
          .ok (body.renumber g, finished) := by
      intro target' hmatches budget' hbudget descents'
      obtain ⟨hmid, b, hb, hagain⟩ :=
        (ih budget' hbudget _ _ _ descents' hmatches.base).2 _ _ _ hbody hopened hkeyed.of_fill
      have hb : body.renumber g = b.renumber id := hb
      rw [Node.renumber_id] at hb
      refine ⟨hmid, ?_⟩
      rw [hb, ← hagain, hmatches.lowerSchema_eq]
    refine ⟨settled_fill (hagain target' hmatches budget (Nat.le_refl _) 0).1 hnew ?_, g procedures.length,
      rfl, procedureOf_finished hfinished htarget' (hkeyed.of_fill _ _ hnew target target' hreached rfl)⟩
    intro body' hbody' target' hmatches
    obtain rfl := Option.some.inj hbody'
    exact ⟨budget, fun budget' hbudget descents' => (hagain target' hmatches budget' hbudget descents').2⟩

/-- **Lowering succeeds again**, whatever the budget and the depth are, if they are large enough. -/
theorem lowerSchema_replayed (h : env.Parallel documents W) (hfinished : Finished finished) :
    ∀ budget, ∀ budget' ≥ budget,
      env.ParallelRuns documents W (.replaying env documents W finished g) budget budget' := by
  intro budget
  induction budget with
  | zero =>
    intro budget' _ s position base' descents' _
    rw [lowerSchema]
    exact replaying_refused
  | succ budget ih =>
    intro budget' hbudget
    obtain ⟨budget', rfl⟩ : ∃ b, budget' = b + 1 := Nat.exists_eq_succ_of_ne_zero (by omega)
    refine h.lowerSchema_paired (fun _ _ => replaying_refused) (fun p reference inner' descents' henv hanswers => ?_)
      (ih budget' (by omega))
    exact KeywordPlace.procedureOf_replayed hfinished henv hanswers ih

/-- **A lowered schema and the targets of its procedures can be lowered again** among any finished
    procedures that have their counterparts, to the same bodies but for the numbers. -/
theorem lowerSchema_again (h : env.Parallel documents W) (hfinished : Finished finished) {budget : Nat}
    {s : Json} {position : Position} {base' : Uri} {root : Node} {procedures after : List Procedure}
    (hw : W s position.base base')
    (hlower : lowerSchema env budget s position procedures = .ok (root, after))
    (hopen : ∀ q ∈ procedures, q.body = none) (hkeyed : Keyed env documents W finished g after) :
    (∀ budget' ≥ budget, ∀ descents,
      lowerSchema (env.among documents) budget' s (position.moved base' descents) finished =
        .ok (root.renumber g, finished)) ∧
      ∀ q ∈ after, q.Settled env documents W finished g := by
  have hsettled : ∀ q ∈ procedures, q.Settled env documents W finished g := by
    intro q hq body hbody
    rw [hopen q hq] at hbody
    cases hbody
  have hagain := fun budget' hbudget descents =>
    (lowerSchema_replayed h hfinished budget budget' hbudget s position base' descents hw).2
      _ _ _ hlower hsettled hkeyed
  refine ⟨fun budget' hbudget descents => ?_, (hagain budget (Nat.le_refl _) 0).1⟩
  obtain ⟨-, b, hb, hlower⟩ := hagain budget' hbudget descents
  have hb : root.renumber g = b.renumber id := hb
  rw [Node.renumber_id] at hb
  exact hb ▸ hlower

end

end JsonSchema
