import JsonSchema.Proofs.Lowering.Across
import JsonSchema.Proofs.Lowering.Everywhere

/-!
# Every call leads to its target

While a schema is lowered, calls get numbers of procedures that have no body yet, and a body that never
came would go unnoticed: it would accept everything.  In the end every procedure has the body that its
own target is lowered to, and every call the number of the procedure of the target that its reference
leads to (**`compiled_resolved`**).

What a body has to do with its target is said of the finished list alone: lowering the target once more,
with all procedures there, adds nothing and gives the body again (`LowersAmong`).
-/

set_option autoImplicit false

namespace JsonSchema

open LowerM

/-- With all procedures of the list there, the schema is lowered to the node, and no procedure is added. -/
def LowersAmong (env : Environment) (procedures : List Procedure) : BodyRel := fun schema position n =>
  position.base.Normal ∧ ∃ budget, lowerSchema env budget schema position procedures = .ok (n, procedures)

/-- Procedure `i` is for the very target that the reference leads to, and has a body. -/
def CallsTarget (env : Environment) (procedures : List Procedure) : RefRel := fun position reference i =>
  ∃ target q, env.documents.resolve position.base reference = .ok target ∧ procedures[i]? = some q ∧
    q.target = target ∧ q.body.isSome

/-- If the node is a call, some reference leads to the target that the called procedure is for. -/
def Node.CallsTarget (env : Environment) (procedures : List Procedure) (n : Node) : Prop :=
  ∀ i, n = .call i → ∃ position reference, JsonSchema.CallsTarget env procedures position reference i

/-! ## Lowering that adds nothing -/

section

variable {env : Environment} {finished procedures after : List Procedure} {n : Node} {schema : Json}
  {position : Position} {budget : Nat} {B : BodyRel}

/-- What starts with all procedures, and grows, and ends with them has not grown. -/
theorem eq_of_prefixes (h : finished <+: procedures) (h' : procedures <+: finished) : procedures = finished :=
  h'.eq_of_length (Nat.le_antisymm h'.length_le h.length_le)

/-- A reference that adds nothing has found the procedure of its target. -/
theorem KeywordPlace.procedureOf_callsTarget {lower : Lower} {p : KeywordPlace} {reference : String}
    (htargets : TargetsAre p.env.documents.Reached finished) (hfinished : Finished finished)
    (hnormal : p.position.base.Normal)
    (hlower : ∀ target, Ensures (finished <+: ·) (lower target.schema (.ofTarget target p.position.descents))
      fun _ _ => True) :
    Ensures (finished <+: ·) (p.procedureOf lower reference) fun later i =>
      later = finished → JsonSchema.CallsTarget p.env finished p.position reference i := by
  intro procedures i after hi hm
  obtain ⟨target, htarget, ⟨rfl, q, hq, hkey, -⟩ | ⟨-, rfl, body, mid, hbody, rfl⟩⟩ := procedureOf_cases hm
  · refine ⟨hi, List.prefix_rfl, fun later hle hlater => ?_⟩
    have hq := getElem?_of_prefix hle hq
    rw [hlater] at hq
    have hmem := List.mem_of_getElem? hq
    have hsame : q.target = target := (htargets.2 _ (List.mem_map_of_mem hmem)).eq_of_key_eq
      (Documents.reached_of_resolve hnormal htarget) hkey
    exact ⟨target, q, htarget, hq, hsame, hfinished q hmem⟩
  · obtain ⟨-, hle, -⟩ := hlower target _ _ _ (hi.trans (List.prefix_append _ _)) hbody
    refine ⟨hi.trans (prefix_modify hle), prefix_modify hle, fun later hlater heq => ?_⟩
    -- a procedure has been added, so that this is not the list in the end
    have hmore := hlater.length_le
    have hless := hi.length_le
    have hadded := hle.length_le
    simp only [List.length_modify, List.length_append, List.length_singleton, heq] at hmore hadded
    omega

/-- **What is lowered without adding a procedure is made of what its subschemas are lowered to so, and of
    calls of the procedures of the targets.** -/
theorem schemaMakes_of_lowered (htargets : TargetsAre env.documents.Reached finished)
    (hfinished : Finished finished)
    (hB : ∀ s (at' : Position) m, at'.base.Normal →
      lowerSchema env budget s at' finished = .ok (m, finished) → B s at' m)
    (hnormal : position.base.Normal)
    (h : lowerSchema env (budget + 1) schema position finished = .ok (n, finished)) :
    SchemaMakes B (CallsTarget env finished) env schema position n := by
  cases schema with
  | bool allowed =>
    cases allowed with
    | true =>
      obtain ⟨rfl, -⟩ := pure_eq_ok.mp h
      exact .always
    | false =>
      obtain ⟨rfl, -⟩ := pure_eq_ok.mp h
      exact .never
  | obj members =>
    cases hbase : schemaBase (.obj members) position.base with
    | error e =>
      rw [lowerSchema, hbase] at h
      obtain ⟨_, _, hrefused, -⟩ := LowerM.bind_eq_ok.mp h
      cases (liftExcept_eq_ok.mp hrefused).1
    | ok base =>
      have hinner := schemaBase_normal hnormal hbase
      have hl : ∀ s at', Ensures (finished <+: ·)
          ((lowerSchema env budget).guarded (fun _ at' => at'.base.Normal) s at') fun later m =>
          later = finished → B s at' m := by
        refine fun s at' => Lower.guarded_made fun hat procedures m after hi hm => ?_
        have hle := (lowerSchema_keeps hm).1
        refine ⟨hi.trans hle, hle, fun later hlater heq => hB s at' m hat ?_⟩
        rw [heq] at hlater
        rwa [eq_of_prefixes (hi.trans hle) hlater, eq_of_prefixes hi (hle.trans hlater)] at hm
      have hr : ∀ rule, env.Reads members rule → rule.RefersTo env members { position with base }
          (finished <+: ·) ((lowerSchema env budget).guarded fun _ at' => at'.base.Normal)
          fun later position reference i => later = finished → CallsTarget env finished position reference i :=
        fun rule _ data _ => KeywordPlace.procedureOf_callsTarget htargets hfinished hinner
          fun target => (hl _ _).weaken fun _ _ _ => trivial
      have hobject := lowerObject_made hl hr
      rw [lowerObject_guarded fun s at' hhands => hhands.base_normal hinner] at hobject
      rw [lowerSchema_obj hbase] at h
      obtain ⟨-, -, hmakes⟩ := hobject finished n finished List.prefix_rfl h
      refine .object hbase ?_
      simpa only [forall_const] using hmakes finished List.prefix_rfl
  | _ => exact absurd h refuse_ne_ok

theorem LowersAmong.made (htargets : TargetsAre env.documents.Reached finished) (hfinished : Finished finished)
    (h : LowersAmong env finished schema position n) :
    SchemaMakes (LowersAmong env finished) (CallsTarget env finished) env schema position n := by
  obtain ⟨hnormal, budget, hlower⟩ := h
  cases budget with
  | zero => exact absurd hlower refuse_ne_ok
  | succ budget =>
    exact schemaMakes_of_lowered htargets hfinished (fun _ _ _ hat hm => ⟨hat, budget, hm⟩) hnormal hlower

/-! ## Calls -/

/-- What holds of all nodes but calls, and of the calls of references, holds of every node. -/
theorem SchemaMakes.each_of_calls {M : Node → Prop} (hM : ∀ {m : Node}, (∀ i, m ≠ .call i) → M m)
    {R : RefRel} (hR : ∀ {position reference i}, R position reference i → M (.call i))
    (h : SchemaMakes (fun _ _ n => n.Each M) R env schema position n) : n.Each M := by
  have hsilent : ∀ {m : Node}, m.Silent → M m := fun hm => hM hm.2
  cases h with
  | always => exact .leaf (hM fun _ => Node.noConfusion) rfl
  | never => exact .leaf (hM fun _ => Node.noConfusion) rfl
  | object hbase hobject =>
    refine hobject.each hsilent (fun _ _ => hM fun _ => Node.noConfusion) ?_
    rintro rule _ - ⟨data, nodes, -, -, hnodes, rfl⟩
    refine .conj hsilent ?_
    cases himplementation : rule.implementation with
    | builtin k =>
      rw [himplementation] at hnodes
      by_cases hk : k = .ref
      · subst hk
        obtain ⟨i, hi, rfl⟩ := hnodes
        exact List.forall_mem_singleton.mpr (.leaf (hR hi) rfl)
      · refine KeywordPlace.Makes.each (k := k) ⟨hsilent, fun h => absurd h hk,
          fun _ _ _ _ => hM fun _ => Node.noConfusion, fun hsite _ _ _ _ => hM fun i hi => ?_⟩
          (fun _ _ _ _ _ _ hb => hb) hnodes
        rw [hi] at hsite
        cases hsite
    | custom d =>
      rw [himplementation] at hnodes
      intro m hm
      rcases hnodes m hm with ⟨text, fails, rfl⟩ | ⟨text, rfl⟩ | ⟨expand, -, hb⟩
      · exact .leaf (hM fun _ => Node.noConfusion) rfl
      · exact .leaf (hM fun _ => Node.noConfusion) rfl
      · exact hb

/-- Every call in what is lowered so is one of the procedure of a target. -/
theorem LowersAmong.calls (htargets : TargetsAre env.documents.Reached finished)
    (hfinished : Finished finished) (h : LowersAmong env finished schema position n) :
    n.Each (Node.CallsTarget env finished) := by
  obtain ⟨hnormal, budget, hlower⟩ := h
  induction budget generalizing schema position n with
  | zero => exact absurd hlower refuse_ne_ok
  | succ budget ih =>
    refine SchemaMakes.each_of_calls (fun hm i hi => absurd hi (hm i)) (fun hR i hi => ?_)
      (schemaMakes_of_lowered htargets hfinished (fun _ _ _ => ih) hnormal hlower)
    cases hi
    exact ⟨_, _, hR⟩

end

/-! ## Compiled programs -/

/-- What a program was lowered to has, for each procedure, the body that its target is lowered to. -/
theorem lowerProgram_settled {s : Surroundings} {schema : Json} {root : Node} {procedures : List Procedure}
    {base : Uri} {documents : Documents} (hbase : schemaBase schema defaultBase = .ok base)
    (hlower : lowerSchema (s.among documents) (loweringBudget schema documents) schema ⟨"#", "", 0, base, 0⟩ [] =
      .ok (root, procedures)) :
    TargetsAre documents.Reached procedures ∧ Reproduces (s.among documents) procedures ∧
      LowersAmong (s.among documents) procedures schema ⟨"#", "", 0, base, 0⟩ root := by
  have hnormal := schemaBase_normal defaultBase_normal hbase
  obtain ⟨haccounted, -, -⟩ := lowerSchemaOf_accounted (s.among documents).registry.concernedGroups_within _ schema
    ⟨"#", "", 0, base, 0⟩ hnormal [] root procedures .nil (by rwa [lowerSchemaOf_concerned])
  obtain ⟨hreproduces, hroot⟩ := reproduces_root hlower haccounted.targets.1
  exact ⟨haccounted.targets, hreproduces, hnormal, _, hroot _ (Nat.le_refl _) 0⟩

/-- **Every call of a compiled program leads to its target.**  Among the documents that are visible from the
    schema the program is the root and the procedures that lowering ends with.  Each procedure has a body,
    which is what its own target is lowered to among them all; so is the root.  Whatever is lowered among
    them is made of what its subschemas are lowered to and, for each reference, of a call of the procedure
    that is for the target of the reference.  Every call in the root and in the bodies is such a call, and
    the number of a procedure.  Procedures have different keys, and targets of one key are the same. -/
theorem compiled_resolved {s : Surroundings} {schema : Json} {program : Program}
    (h : compileProgram s schema = .ok program) :
    ∃ base documents root procedures, schemaBase schema defaultBase = .ok base ∧
      Documents.visibleFrom schema base s.cache = .ok documents ∧ program = .ofLowered (root, procedures) ∧
      (∀ (i : Nat) (q : Procedure), procedures[i]? = some q → ∃ body, q.body = some body ∧
        program.procedures[i]? = some body ∧
        LowersAmong (s.among documents) procedures q.target.schema (.ofTarget q.target q.descents) body) ∧
      LowersAmong (s.among documents) procedures schema ⟨"#", "", 0, base, 0⟩ root ∧
      (∀ schema position n, LowersAmong (s.among documents) procedures schema position n →
        SchemaMakes (LowersAmong (s.among documents) procedures) (CallsTarget (s.among documents) procedures)
          (s.among documents) schema position n) ∧
      (∀ n ∈ program.root :: program.procedures,
        n.Each (Node.CallsTarget (s.among documents) procedures)) ∧
      program.Closed ∧ ((procedures.map Procedure.target).map Target.key).Nodup ∧
      ∀ b b' reference reference' target target', b.Normal → b'.Normal →
        documents.resolve b reference = .ok target → documents.resolve b' reference' = .ok target' →
        target.key = target'.key → target = target' := by
  rw [compileProgram_eq] at h
  cases hlowered : lowerProgram s schema with
  | error e =>
    rw [hlowered] at h
    cases h
  | ok lowered =>
    obtain ⟨root, procedures⟩ := lowered
    rw [hlowered] at h
    obtain rfl := Except.ok.inj h
    obtain ⟨base, documents, hbase, hdocuments, hlower⟩ := lowerProgram_eq_ok.mp hlowered
    obtain ⟨htargets, hreproduces, hroot⟩ := lowerProgram_settled (s := s) hbase hlower
    obtain ⟨hordered, hchecked⟩ := lowerProgram_ordered hlowered
    have hfinished := hreproduces.finished
    have hbodies : ∀ q ∈ procedures, ∃ body, q.body = some body ∧
        LowersAmong (s.among documents) procedures q.target.schema (.ofTarget q.target q.descents) body := by
      intro q hq
      obtain ⟨body, hbody, budget, hagain⟩ := hreproduces q hq
      exact ⟨body, hbody, (htargets.2 _ (List.mem_map_of_mem hq)).base_normal, budget,
        hagain budget (Nat.le_refl _) _⟩
    refine ⟨base, documents, root, procedures, hbase, hdocuments, rfl, fun i q hq => ?_, hroot,
      fun _ _ _ hn => hn.made htargets hfinished, ?_, Program.ofLowered_closed hordered hchecked, htargets.1, ?_⟩
    · obtain ⟨body, hbody, hlowers⟩ := hbodies q (List.mem_of_getElem? hq)
      exact ⟨body, hbody, (Program.getElem?_ofLowered hfinished).mpr ⟨q, hq, hbody⟩, hlowers⟩
    · refine List.forall_mem_cons.mpr ⟨hroot.calls htargets hfinished, fun n hn => ?_⟩
      obtain ⟨i, hi⟩ := List.mem_iff_getElem?.mp hn
      obtain ⟨q, hq, hbody⟩ := (Program.getElem?_ofLowered hfinished).mp hi
      obtain ⟨body, hbody', hlowers⟩ := hbodies q (List.mem_of_getElem? hq)
      obtain rfl := Option.some.inj (hbody.symm.trans hbody')
      exact hlowers.calls htargets hfinished
    · intro b b' reference reference' target target' hb hb' htarget htarget' hkey
      exact (Documents.reached_of_resolve hb htarget).eq_of_key_eq (Documents.reached_of_resolve hb' htarget') hkey

/-- The call that `linkedList` makes below a member is one of the procedure of its target. -/
theorem linkedList_resolved : ∃ root procedures documents position reference,
    compileProgram .plain linkedList = .ok (.ofLowered (root, procedures)) ∧
      CallsTarget (Surroundings.plain.among documents) procedures position reference 0 := by
  have hshape : (compileProgram .plain linkedList).toOption.any Program.descendsToItself = true := by
    decide +kernel
  obtain ⟨program, hcompiled, hprogram⟩ := exists_ok_of_any hshape
  obtain ⟨base, documents, root, procedures, -, -, rfl, -, -, -, hcalls, -⟩ := compiled_resolved hcompiled
  unfold Program.descendsToItself at hprogram
  split at hprogram
  · next start step hbodies =>
    have hbody := hcalls (.guard .object (.descend step (.call 0))) (by simp [hbodies])
    have hcall := ((hbody.part (List.mem_singleton.mpr rfl)).part (List.mem_singleton.mpr rfl)).holds
    obtain ⟨position, reference, h⟩ := hcall 0 rfl
    exact ⟨root, procedures, documents, position, reference, hcompiled, h⟩
  · cases hprogram

end JsonSchema
