import JsonSchema.Proofs.Evaluation.Reordering
import JsonSchema.Proofs.Lowering.Visits
import JsonSchema.Proofs.Reference.RootId

/-!
# The order of members does not count

A schema that uses only keywords of draft-07, itself and wherever its references lead, is lowered to
nodes that make only draft-07's tests (`compileSchema_testsAsBuiltin`), and **its validator accepts data
exactly if it accepts the same data with the members of objects in another order**, wherever both
evaluations end (`isValid_reordered`).  The registry may have custom keywords, as long as lowering the
schema reads none of them.
-/

set_option autoImplicit false

namespace JsonSchema

/-! ## The keywords that a schema uses -/

/-- Lowering the schema at the position comes to the other schema. -/
inductive Environment.ComesTo (env : Environment) (schema : Json) (start : Position) :
    Json → Position → Prop where
  | here : ComesTo env schema start schema start
  | handed {members : List (String × Json)} {position at' : Position} {base : Uri} {s : Json} :
      ComesTo env schema start (.obj members) position →
      schemaBase (.obj members) position.base = .ok base →
      env.Hands members { position with base } s at' → ComesTo env schema start s at'

/-- Every rule that is read while the schema is compiled, in the schema or where its references lead, is
    one of draft-07. -/
def Surroundings.ReadsOnlyBuiltins (s : Surroundings) (schema : Json) : Prop :=
  ∀ base documents members position rule, schemaBase schema defaultBase = .ok base →
    Documents.visibleFrom schema base s.cache = .ok documents →
    (s.among documents).ComesTo schema ⟨"#", "", 0, base, 0⟩ (.obj members) position →
    (s.among documents).Reads members rule → ∃ k, rule.implementation = .builtin k

/-- Where there are no other rules, none is read. -/
theorem Registry.BuiltinOnly.readsOnlyBuiltins {s : Surroundings} (h : s.registry.BuiltinOnly)
    (schema : Json) : s.ReadsOnlyBuiltins schema := by
  intro base documents members position rule _ _ _ hreads
  have hbuiltin : (s.among documents).registry.BuiltinOnly := h
  obtain ⟨k, rfl⟩ := hbuiltin.reads hreads
  exact ⟨k, rfl⟩

/-! ## What their nodes test -/

section

variable {env : Environment} {members : List (String × Json)} {position : Position} {rule : Rule}
  {data : Option DataRef}

theorem Node.Silent.testsAsBuiltin {n : Node} (h : n.Silent) : n.TestsAsBuiltin :=
  Node.testsAsBuiltin_of_ne_check fun c hc => by
    rw [hc] at h
    cases h.1

theorem Rule.place_marks_testsAsBuiltin (k : BuiltinKeyword) :
    (rule.place env members position data).Marks k Node.TestsAsBuiltin where
  silent h := h.testsAsBuiltin
  call _ _ := Node.testsAsBuiltin_of_ne_check fun _ => Node.noConfusion
  check _ text fails htest := by
    intro c hc
    cases hc
    exact htest
  sited _ _ htests _ _ := htests

/-- A schema that reads only rules of draft-07 is lowered to nodes that make only draft-07's tests. -/
theorem SchemaMakes.testsAsBuiltin {R : RefRel} {schema : Json} {n : Node}
    (hbuiltin : ∀ members rule, schema = .obj members → env.Reads members rule →
      ∃ k, rule.implementation = .builtin k)
    (h : SchemaMakes (fun _ _ n => n.Each Node.TestsAsBuiltin) R env schema position n) :
    n.Each Node.TestsAsBuiltin := by
  cases h with
  | always => exact .leaf (Node.testsAsBuiltin_of_ne_check fun _ => Node.noConfusion) rfl
  | never => exact .leaf (Node.testsAsBuiltin_of_ne_check fun _ => Node.noConfusion) rfl
  | object hbase hobject =>
    refine hobject.each Node.Silent.testsAsBuiltin
      (fun _ _ => Node.testsAsBuiltin_of_ne_check fun _ => Node.noConfusion) ?_
    rintro rule _ hreads ⟨data, nodes, -, -, hnodes, rfl⟩
    obtain ⟨k, himplementation⟩ := hbuiltin _ rule rfl hreads
    rw [himplementation] at hnodes
    exact .conj Node.Silent.testsAsBuiltin
      (KeywordPlace.Makes.each (Rule.place_marks_testsAsBuiltin k) (fun _ _ _ _ _ _ hb => hb) hnodes)

/-- The schemas that lowering comes to hand on that it comes to them. -/
theorem reaching_guarded {P : Node → Prop} {schema : Json} {start : Position}
    (hmade : ∀ {R schema' position n}, env.ComesTo schema start schema' position →
      SchemaMakes (fun _ _ => P) R env schema' position n → P n) :
    GuardedInvariant env (env.ComesTo schema start) (EntriesHave P) fun _ _ _ => P where
  handed hreaches hbase _ _ hhands := hreaches.handed hbase hhands
  opened _ _ _ _ _ h _ := h.opened _ _
  filled h _ _ hb := h.filled hb
  schema hreaches h := hmade hreaches h

end

/-- **A schema that uses only keywords of draft-07 compiles to nodes that make only draft-07's tests.** -/
theorem compileSchema_testsAsBuiltin {s : Surroundings} {schema : Json}
    (hbuiltin : s.ReadsOnlyBuiltins schema) {validator : Validator}
    (h : compileSchema s schema = .ok validator) :
    validator.program.root.Each Node.TestsAsBuiltin ∧
      ∀ body ∈ validator.program.procedures, body.Each Node.TestsAsBuiltin := by
  obtain ⟨⟨root, procedures⟩, hlowered, rfl⟩ := compileSchema_eq_ok.mp h
  obtain ⟨base, documents, hbase, hdocuments, hroot⟩ := lowerProgram_eq_ok.mp hlowered
  have hguarded : GuardedInvariant (s.among documents) ((s.among documents).ComesTo schema ⟨"#", "", 0, base, 0⟩)
      (EntriesHave (Node.Each Node.TestsAsBuiltin)) fun _ _ _ n => n.Each Node.TestsAsBuiltin :=
    reaching_guarded fun hreaches hmakes => hmakes.testsAsBuiltin fun members rule hschema hreads =>
      hbuiltin base documents members _ rule hbase hdocuments (hschema ▸ hreaches) hreads
  obtain ⟨hentries, -, hmade⟩ := lowerSchema_made_of_guarded hguarded _ _ _ .here _ _ _
    (fun _ hq => absurd hq List.not_mem_nil) hroot
  refine ⟨hmade procedures List.prefix_rfl, fun body hbody => ?_⟩
  obtain ⟨q, hq, rfl⟩ := List.mem_map.mp hbody
  cases hfilled : q.body with
  -- an entry that stayed open became `pass`
  | none => exact .leaf (Node.testsAsBuiltin_of_ne_check fun _ => Node.noConfusion) rfl
  | some body => exact hentries q hq body hfilled

/-! ## The order of members -/

/-- **Data with the members of its objects in another order is accepted exactly if the data is**, by a
    schema that uses only keywords of draft-07, references and values from the data among them. -/
theorem isValid_reordered {s : Surroundings} {schema : Json} (hbuiltin : s.ReadsOnlyBuiltins schema)
    {validator : Validator} (h : compileSchema s schema = .ok validator) {data data' : Json}
    (hsound : data.Sound) (hreordered : data.Reordered data')
    (hends : (validator.program.run true data).isSome)
    (hends' : (validator.program.run true data').isSome) :
    validator.isValid data = validator.isValid data' := by
  obtain ⟨hroot, hbodies⟩ := compileSchema_testsAsBuiltin hbuiltin h
  obtain ⟨⟨ok, errors⟩, hrun⟩ := Option.isSome_iff_exists.mp hends
  obtain ⟨⟨ok', errors'⟩, hrun'⟩ := Option.isSome_iff_exists.mp hends'
  unfold Validator.isValid
  rw [hrun, hrun']
  exact Program.run_concur hroot hbodies hsound hreordered hrun hrun'

/-- Different intervals, each of which is at least as high as it is low. -/
def intervals : Json := .obj [
  ("definitions", .obj [("interval", .obj [
    ("properties", .obj [("high", .obj [("minimum", .obj [("$data", "1/low")])])])])]),
  ("items", .obj [("$ref", "#/definitions/interval")]),
  ("uniqueItems", true)]

/-- The interval twice, with its members in one order and in the other. -/
def intervalTwice : Json := .arr [
  .obj [("low", .num (.ofNat 1)), ("high", .num (.ofNat 2))],
  .obj [("high", .num (.ofNat 2)), ("low", .num (.ofNat 1))]]

/-- Both intervals the other way round. -/
def intervalTwiceReordered : Json := .arr [
  .obj [("high", .num (.ofNat 2)), ("low", .num (.ofNat 1))],
  .obj [("low", .num (.ofNat 1)), ("high", .num (.ofNat 2))]]

theorem intervalTwice_sound : intervalTwice.Sound := by
  refine .arr (by decide) (List.forall_mem_cons.mpr ⟨?_, List.forall_mem_singleton.mpr ?_⟩) <;>
  · refine .obj (by simp) (List.forall_mem_cons.mpr ⟨.leaf rfl rfl, ?_⟩)
    exact List.forall_mem_singleton.mpr (.leaf rfl rfl)

theorem intervalTwice_reordered : intervalTwice.Reordered intervalTwiceReordered := by
  have hswap : ∀ v w : Number, (Json.obj [("low", .num v), ("high", .num w)]).Reordered
      (.obj [("high", .num w), ("low", .num v)]) := by
    refine fun v w => .obj (List.Perm.swap _ _ _) fun m hm n hn hname => ?_
    simp only [List.mem_cons, List.not_mem_nil, or_false] at hm hn
    rcases hm with rfl | rfl <;> rcases hn with rfl | rfl
    · simp at hname
    · exact .leaf rfl rfl
    · exact .leaf rfl rfl
    · simp at hname
  refine .arr rfl fun i a b ha hb => ?_
  match i with
  | 0 =>
    cases ha
    cases hb
    exact hswap _ _
  | 1 =>
    cases ha
    cases hb
    exact (hswap _ _).symm
  | i + 2 => cases ha

theorem intervalTwice_isValid : ∃ validator,
    Surroundings.withData.ReadsOnlyBuiltins intervals ∧
    compileSchema .withData intervals = .ok validator ∧ intervalTwice.Sound ∧
    intervalTwice.Reordered intervalTwiceReordered ∧
    (validator.program.run true intervalTwice).isSome = true ∧
    (validator.program.run true intervalTwiceReordered).isSome = true ∧
    validator.isValid intervalTwice = false ∧ validator.isValid intervalTwiceReordered = false := by
  have hregistry : Surroundings.withData.registry.BuiltinOnly := Registry.withBuiltins_builtinOnly
  have hbuiltin := hregistry.readsOnlyBuiltins intervals
  have hruns : ((compileSchema .withData intervals).toOption.any fun v =>
      (v.program.run true intervalTwice).isSome && (v.program.run true intervalTwiceReordered).isSome &&
        !v.isValid intervalTwice) = true := by decide +kernel
  obtain ⟨validator, hcompiled, hruns⟩ := exists_ok_of_any hruns
  simp only [Bool.and_eq_true, Bool.not_eq_true'] at hruns
  obtain ⟨⟨hends, hends'⟩, hinvalid⟩ := hruns
  have hsame := isValid_reordered hbuiltin hcompiled intervalTwice_sound intervalTwice_reordered hends hends'
  exact ⟨validator, hbuiltin, hcompiled, intervalTwice_sound, intervalTwice_reordered, hends, hends', hinvalid,
    hsame ▸ hinvalid⟩

end JsonSchema
