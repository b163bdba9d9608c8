import JsonSchema.Proofs.Lowering.Again

/-!
# Lowering what can be lowered again

Among finished procedures a schema is lowered by looking its references up.  **A run that starts anywhere
follows this one**: if lowering the schema succeeds among finished procedures that can themselves be
lowered again (`Ready`), then lowering its counterpart succeeds among any procedures, but for two refusals
that are about the way and not about the schema (`SchemaError.Contextual`).

Main statement: `lowerSchema_follows`, which also says where the procedures come from that the run opens.
-/

set_option autoImplicit false

namespace JsonSchema

open LowerM

/-- The refusals of a schema that may be lowered elsewhere. -/
inductive SchemaError.Contextual : SchemaError → Prop where
  /-- The target is being lowered, and the data has not been entered since. -/
  | looped (path reference : String) : Contextual (.compilation "$ref" path
      s!"reference {reference} loops back without moving into the data")
  | tooDeep : Contextual .tooDeep

section

variable (env : Environment) (documents : Documents) (W : Correspondence) (finished : List Procedure)
  (F : Target → Prop)

/-- What the finished procedures were opened for can be lowered again among them. -/
def Ready : Prop :=
  ∀ target target', env.Reaches documents W target target' →
    (∃ q ∈ finished, q.target.key = target'.key) → ∃ budget body,
      lowerSchema (env.among documents) budget target'.schema (.ofTarget target' 0) finished =
        .ok (body, finished)

/-- Where the right run succeeds among the finished procedures, the left one does among any, and opens
    procedures only for targets with a property. -/
def Pairing.following : Pairing where
  Runs R m m' := Grows (flip R) m' ∧ ∀ b, m' finished = .ok (b, finished) →
    ∀ procedures : List Procedure, (∀ target ∈ procedures.map Procedure.target, F target) →
      (∃ e, m procedures = .error e ∧ e.Contextual) ∨
        ∃ a after, m procedures = .ok (a, after) ∧ R a b ∧ ∀ target ∈ after.map Procedure.target, F target
  left := fun _ => 0
  right := fun _ => 0
  pure h := by
    refine ⟨.pure h, fun b hm procedures hF => .inr ⟨_, procedures, rfl, ?_, hF⟩⟩
    rwa [(pure_eq_ok.mp hm).1]
  bind := by
    intro α β γ δ R S m m' f f' hm hf
    refine ⟨hm.1.bind fun b a hab => (hf a b hab).1, fun c hmf procedures hF => ?_⟩
    obtain ⟨b, mid, h, h'⟩ := bind_eq_ok.mp hmf
    -- the first step leaves the procedures alone, since the whole does and none are ever dropped
    obtain ⟨hle, a, hab⟩ := hm.1 _ _ _ h
    have hle' := ((hf a b hab).1 _ _ _ h').1
    obtain rfl : finished = mid := hle.eq_of_length_le hle'.length_le
    have hbind : (m >>= f) procedures = (m procedures >>= fun r => f r.1 r.2) := rfl
    rw [hbind]
    rcases hm.2 b h procedures hF with ⟨e, he, hcontextual⟩ | ⟨a', after, ha', hab', hF'⟩
    · rw [he]
      exact .inl ⟨e, rfl, hcontextual⟩
    · rw [ha']
      exact (hf a' b hab').2 c h' after hF'
  lifted x := by
    refine ⟨fun procedures b after hm => ?_, fun b hm procedures hF => ?_⟩
    · obtain ⟨-, rfl⟩ := liftExcept_eq_ok.mp hm
      exact ⟨List.prefix_rfl, b, rfl⟩
    · obtain ⟨rfl, -⟩ := liftExcept_eq_ok.mp hm
      exact .inr ⟨b, procedures, rfl, rfl, hF⟩

variable {env documents W finished F}

/-- Nothing follows what is refused. -/
theorem following_refused {m : LowerM Node} {e : SchemaError} :
    (Pairing.following finished F).Runs (Pairing.following finished F).Nodes m (refuse e) :=
  ⟨.refused, fun _ hm => absurd hm refuse_ne_ok⟩

/-- A reference that is looked up leads to a procedure anywhere, which is there or can be opened. -/
theorem KeywordPlace.procedureOf_followed {p : KeywordPlace} {reference : String} {budget budget' : Nat}
    {inner' : Uri} {descents' : Nat} (henv : p.env = env) (hready : Ready env documents W finished)
    (hF : ∀ target target', env.Reaches documents W target target' →
      (∃ q ∈ finished, q.target.key = target'.key) → F target)
    (hanswers : env.Answers documents W (env.documents.resolve p.position.base reference)
      (documents.resolve inner' reference))
    (ih : ∀ budget', env.ParallelRuns documents W (.following finished F) budget budget') :
    (Pairing.following finished F).Runs (Pairing.following finished F).Numbers
      (p.procedureOf (lowerSchema env budget) reference)
      ((p.elsewhere env.registry documents inner' descents').procedureOf
        (lowerSchema (env.among documents) budget') reference) := by
  subst henv
  refine ⟨procedureOf_grows fun i => ⟨0, rfl⟩, fun j hj procedures hprocedures => ?_⟩
  obtain ⟨target', htarget', h⟩ := procedureOf_cases hj
  have htarget' : documents.resolve inner' reference = .ok target' := htarget'
  rw [htarget'] at hanswers
  obtain ⟨target, htarget, hreached, hmatches⟩ := hanswers.exists_left
  have hfound : ∃ q ∈ finished, q.target.key = target'.key := by
    rcases h with ⟨-, q, hq, hkey, -⟩ | ⟨-, rfl, body, mid, hbody, hafter⟩
    · exact ⟨q, List.mem_of_getElem? hq, hkey⟩
    · have hle := (lowerSchema_keeps hbody).1.length_le
      rw [hafter, List.length_append, List.length_modify, List.length_singleton] at hle
      omega
  rw [procedureOf_eq, htarget]
  dsimp only
  cases hfind : procedures.findIdx? (·.target.key = target.key) with
  | some i =>
    dsimp only
    split
    · exact .inl ⟨_, rfl, .looped _ _⟩
    · exact .inr ⟨i, procedures, rfl, rfl, hprocedures⟩
  | none =>
    dsimp only
    obtain ⟨budget₁, body, hbody⟩ := hready target target' hreached hfound
    rw [← hmatches.lowerSchema_eq _ _ p.position.descents] at hbody
    have hopened : ∀ t ∈ List.map Procedure.target (procedures ++ [⟨target, p.position.descents, none⟩]),
        F t := by
      rw [List.map_append]
      exact List.forall_mem_append.mpr
        ⟨hprocedures, List.forall_mem_singleton.mpr (hF target target' hreached hfound)⟩
    rcases (ih budget₁ _ _ _ 0 hmatches.base).2 body hbody _ hopened with
      ⟨e, he, hcontextual⟩ | ⟨root, after, hroot, -, hafter⟩
    · exact .inl ⟨e, by rw [he]; rfl, hcontextual⟩
    · refine .inr ⟨procedures.length, after.modify procedures.length (·.fill root), ?_, rfl, ?_⟩
      · rw [hroot]
        rfl
      · rwa [map_target_fill]

theorem lowerSchema_followed (h : env.Parallel documents W) (hready : Ready env documents W finished)
    (hF : ∀ target target', env.Reaches documents W target target' →
      (∃ q ∈ finished, q.target.key = target'.key) → F target) :
    ∀ budget budget', env.ParallelRuns documents W (.following finished F) budget budget' := by
  intro budget
  induction budget with
  | zero =>
    intro budget' s position base' descents' _
    refine ⟨fun procedures b after hm => ⟨(lowerSchema_keeps hm).1, b, rfl⟩, fun _ _ _ _ => .inl ?_⟩
    exact ⟨.tooDeep, by rw [lowerSchema]; rfl, .tooDeep⟩
  | succ budget ih =>
    intro budget'
    cases budget' with
    | zero =>
      intro s position base' descents' _
      rw [lowerSchema]
      exact following_refused
    | succ budget' =>
      refine h.lowerSchema_paired (fun _ _ => following_refused)
        (fun p reference inner' descents' henv hanswers => ?_) (ih budget')
      exact KeywordPlace.procedureOf_followed henv hready hF hanswers ih

/-- **What can be lowered again can be lowered anywhere**, with procedures for counterparts only. -/
theorem lowerSchema_follows (h : env.Parallel documents W) (hready : Ready env documents W finished)
    (hF : ∀ target target', env.Reaches documents W target target' →
      (∃ q ∈ finished, q.target.key = target'.key) → F target)
    {budget budget' descents' : Nat} {s : Json} {position : Position} {base' : Uri} {body : Node}
    {procedures : List Procedure} (hw : W s position.base base')
    (hright : lowerSchema (env.among documents) budget' s (position.moved base' descents') finished =
      .ok (body, finished)) (hprocedures : ∀ target ∈ procedures.map Procedure.target, F target) :
    (∃ e, lowerSchema env budget s position procedures = .error e ∧ e.Contextual) ∨
      ∃ root after, lowerSchema env budget s position procedures = .ok (root, after) ∧
        ∀ target ∈ after.map Procedure.target, F target := by
  have hfollowed := lowerSchema_followed h hready hF budget budget' s position base' descents' hw
  rcases hfollowed.2 body hright procedures hprocedures with herror | ⟨root, after, hroot, -, hafter⟩
  · exact .inl herror
  · exact .inr ⟨root, after, hroot, hafter⟩

end

end JsonSchema
