import JsonSchema.Proofs.Compiler.Alternatives
import JsonSchema.Proofs.Compiler.CachedDocument
import JsonSchema.Proofs.Compiler.DataReferenceSchema
import JsonSchema.Proofs.Lowering.Alarm
import JsonSchema.Proofs.Lowering.Parallel
import JsonSchema.Proofs.Lowering.Relocation

/-!
# Meta-schemas of keywords that may take their values from the data

Values that are written in schemas are checked against the meta-schema of their keyword.  If the keyword may
take its value from the data, what is compiled is not the meta-schema but a schema around it, with the schema
of references into the data as an alternative.

**The check of other values says what the meta-schema says by itself** (`metaSchema_check_agrees`), where the
registry still reads the schema around it as draft-07 does, and references in the meta-schema lead to the same
schemas from there.  They need not: `#` is the schema around it (`surrounding_seen`).
-/

set_option autoImplicit false

namespace JsonSchema

open LowerM

namespace Compiler

variable {c c' : Compiler} {metaSchema : Json} {W : Correspondence} {base : Uri}
  {documents documents' : Documents}

/-- References in the meta-schema lead alike from the meta-schema as a root, and from inside the schema around
    it. -/
structure ReadsAlike (c : Compiler) (metaSchema : Json) (W : Correspondence) (base : Uri)
    (documents documents' : Documents) : Prop where
  root : schemaBase metaSchema defaultBase = .ok base
  filed : Documents.visibleFrom metaSchema base c.documents = .ok documents
  filed' : Documents.visibleFrom (either metaSchema dataReferenceSchema) defaultBase c.documents = .ok documents'
  start : W metaSchema base defaultBase
  parallel : (c.surroundings.among documents).Parallel documents' W
  keys : (c.surroundings.among documents).SameKeys documents' W

/-- What is lowered inside the schema around it compiles by itself, to a program that answers the same. -/
theorem ReadsAlike.compile_alone (h : c.ReadsAlike metaSchema W base documents documents')
    (hpaths : c.registry.IgnoresPath) {budget : Nat} {path : String} {n : Node} {mid : List Procedure}
    (hlower : lowerSchema (c.surroundings.among documents') budget metaSchema ⟨path, "", 0, defaultBase, 0⟩ [] =
      .ok (n, mid)) :
    c.compile metaSchema = .error .tooDeep ∨ ∃ n' after,
      c.compile metaSchema = .ok ⟨.ofLowered (n', after), c.options.allErrors⟩ ∧ n.SameAnswer n' ∧
      after.map Procedure.body = mid.map Procedure.body := by
  -- among its own documents and from its own base, still at the path inside
  obtain ⟨after, hmoved, hbodies⟩ := @Environment.Parallel.lowerSchema_ok _ _ _ h.parallel h.keys budget metaSchema
    ⟨path, "", 0, base, 0⟩ defaultBase n mid h.start hlower
  -- at the path of a root
  obtain ⟨n', hroot, hsame⟩ :=
    Pairing.refusing_ok (lowerSchema_relocated hpaths budget metaSchema ⟨path, "", 0, base, 0⟩ "#") hmoved
  have hroot : lowerSchema (c.surroundings.among documents) budget metaSchema ⟨"#", "", 0, base, 0⟩ [] =
      .ok (n', after) := hroot
  -- under its own budget
  have hcompile : c.compile metaSchema = (lowerProgram c.surroundings metaSchema).map fun lowered =>
      ⟨.ofLowered lowered, c.options.allErrors⟩ := compileSchema_eq _ _
  rw [@lowerProgram_of_visible c.surroundings _ _ _ h.root h.filed] at hcompile
  rcases lowerSchema_budget hroot (loweringBudget metaSchema documents) with hdeep | hmade
  · exact .inl (by rw [hcompile, hdeep]; rfl)
  · exact .inr ⟨n', after, by rw [hcompile, hmade]; rfl, hsame, hbodies⟩

/-- **A meta-schema without references and `$id`s is read alike**, where its keywords are draft-07's. -/
theorem ReadsAlike.of_no_references {cached : Documents} (hids : metaSchema.WithoutIds)
    (hr : c.registry.ReadsDraft7 metaSchema)
    (hfree : ∀ members, JsonSchema.Reached metaSchema (.obj members) → members.lookup "$ref" = none)
    (hcached : Documents.ofCache c.documents = .ok cached) :
    c.ReadsAlike metaSchema (Reached.under metaSchema defaultBase) defaultBase
      (cached.set defaultBase.text metaSchema)
      (cached.set defaultBase.text (either metaSchema dataReferenceSchema)) := by
  -- no rule for references is read
  have hnone : ∀ {documents : Documents} {members : List (String × Json)} {rule : Rule},
      JsonSchema.Reached metaSchema (.obj members) → (c.surroundings.among documents).Reads members rule →
      rule.implementation ≠ .builtin .ref := by
    intro documents members rule hmembers hreads hrule
    obtain ⟨k, rfl, -⟩ := @Environment.Reads.builtin (c.surroundings.among documents) _ _ _ hr hmembers hreads
    cases hrule
    obtain ⟨group, -, hmem⟩ := hreads
    have hpresent := (Bool.and_eq_true_iff.mp (List.mem_filter.mp hmem).2).1
    obtain ⟨name, hname, hsome⟩ := List.any_eq_true.mp hpresent
    obtain rfl : name = "$ref" := List.mem_singleton.mp hname
    rw [hfree members hmembers] at hsome
    cases hsome
  have hkept : (either metaSchema dataReferenceSchema).WithoutIds := by
    have href : dataReferenceSchema.WithoutIds := by
      simp [dataReferenceSchema, withoutIds_obj, withoutIds_arr, withoutIds_str, withoutIds_bool,
        List.lookup_cons]
    simp [either, withoutIds_obj, withoutIds_arr, hids, href, List.lookup_cons]
  refine ⟨schemaBase_of_withoutIds hids defaultBase, ?_, ?_, under_root _ _, ?_, ?_⟩
  · rw [Documents.visibleFrom_of_withoutIds hids, hcached]
    rfl
  · rw [Documents.visibleFrom_of_withoutIds hkept, hcached]
    rfl
  · refine ⟨?_, ?_, ?_, ?_⟩
    · rintro members _ _ ⟨rfl, rfl, -⟩
      exact Iff.rfl
    · intro members inner inner' rule k position data s h hreads hrule happlies
      obtain ⟨hmembers, rfl, rfl⟩ := enters_under hids h
      exact ⟨rfl, rfl, fun hs => hmembers.tail
        (@Environment.Reads.leads (c.surroundings.among _) _ _ _ _ _ _ _ hr hmembers hreads hrule happlies hs)⟩
    · intro members inner inner' rule d expand h hreads hrule
      obtain ⟨k, rfl, -⟩ := @Environment.Reads.builtin (c.surroundings.among _) _ _ _ hr
        (enters_under hids h).1 hreads
      cases hrule
    · intro members inner inner' rule h hreads hrule
      exact absurd hrule (hnone (enters_under hids h).1 hreads)
  · rintro target₁ target₁' target₂ target₂' ⟨members, inner, inner', rule, h, hreads, hrule, -⟩
    exact absurd hrule (hnone (enters_under hids h).1 hreads)

/-! ## The rule of the keyword -/

/-- A keyword that may take its value from the data is registered with the check of the schema around its
    meta-schema, under the registry of that moment. -/
theorem addKeyword_surrounded {name : String} {definition : KeywordDefinition} {checked : Bool}
    (h : c.addKeyword name definition checked = .ok c') (hdata : c.options.data = true)
    (hallows : definition.allowsData = true) (hmeta : definition.metaSchema = some metaSchema) :
    ∃ rule w, c'.registry.custom.get? name = some rule ∧ rule.schemaTypes = definition.schemaTypes ∧
      rule.metaValidator = some w ∧ c.compile (either metaSchema dataReferenceSchema) = .ok w := by
  obtain ⟨registry, hregistry, heq⟩ := JsonSchema.bind_eq_ok.mp h
  obtain rfl := Except.ok.inj heq
  obtain ⟨-, metaValidator, hvalidator, rfl⟩ := register_made hregistry
  have hsame : ∀ {definition' : KeywordDefinition}, definition'.allowsData = definition.allowsData →
      definition'.metaSchema = definition.metaSchema → c.metaValidator c.registry definition' =
        (c.compile (either metaSchema dataReferenceSchema)).map some := by
    intro definition' hallows' hmeta'
    unfold Compiler.metaValidator
    rw [hmeta', hmeta, hallows', hallows, hdata]
    rfl
  rw [hsame (by split <;> rfl) (by split <;> rfl)] at hvalidator
  cases hcompile : c.compile (either metaSchema dataReferenceSchema) with
  | error e =>
    rw [hcompile] at hvalidator
    cases hvalidator
  | ok w =>
    rw [hcompile] at hvalidator
    obtain rfl := Except.ok.inj hvalidator
    refine ⟨_, w, (Registry.get?_addCustom _ _ _ name).trans (if_pos rfl), ?_, rfl, rfl⟩
    show (if _ then _ else _ : KeywordDefinition).schemaTypes = _
    split <;> rfl

end Compiler

/-- A value passes the check of its rule if it is of the types for values, and valid by the meta-schema. -/
theorem Rule.checkValue_eq_ok_iff {rule : Rule} {w : Validator} (h : rule.metaValidator = some w)
    (path : String) (v : Json) :
    rule.checkValue path v = .ok () ↔ DataType.anyAccepts rule.schemaTypes v = true ∧ w.validate v = .valid := by
  unfold checkValue
  rw [h]
  cases DataType.anyAccepts rule.schemaTypes v with
  | false => simp [bind, Except.bind, throw, throwThe, MonadExceptOf.throw]
  | true =>
    cases hverdict : w.validate v with
    | _ => simp [hverdict, pure, Except.pure, throw, throwThe, MonadExceptOf.throw]

/-- **A schema of the keyword alone compiles only if its value passes the check.** -/
theorem Compiler.Reached.checkValue_of_compile {options : Options} {c : Compiler} (hc : c.Reached options)
    {name : String} {rule : Rule} (hrule : c.registry.custom.get? name = some rule) {v : Json}
    (hliteral : ∀ path, rule.dataRef c.options path (some v) = .ok none) {validator : Validator}
    (h : c.compile (.obj [(name, v)]) = .ok validator) : ∃ path, rule.checkValue path v = .ok () := by
  obtain ⟨-, rfl, place, group, hgroup, -, hmem⟩ := (hc.coherent.custom name rule).mp hrule
  have hengine := (hc.customSpread _ rule hrule).1
  obtain ⟨⟨root, procedures⟩, hlowered, -⟩ := compileSchema_eq_ok.mp h
  obtain ⟨base, documents, -, -, hroot⟩ := lowerProgram_eq_ok.mp hlowered
  obtain ⟨budget, hbudget⟩ : ∃ budget, loweringBudget (.obj [(rule.keyword, v)]) documents = budget + 1 :=
    Nat.exists_eq_succ_of_ne_zero (Nat.ne_of_gt (Nat.zero_lt_of_lt (size_lt_loweringBudget _ _)))
  rw [hbudget] at hroot
  have hlookup : ∀ name, List.lookup name [(rule.keyword, v)] = if name == rule.keyword then some v else none := by
    intro name
    rw [List.lookup_cons]
    cases name == rule.keyword <;> rfl
  have hpresent : rule ∈ group.present [(rule.keyword, v)]
      ((c.surroundings.among documents).onlyRef [(rule.keyword, v)]) := by
    refine List.mem_filter.mpr ⟨List.mem_map_of_mem hmem, ?_⟩
    simp only [Rule.isPresent, Environment.onlyRef, hlookup]
    by_cases href : "$ref" = rule.keyword
    · simp [← href]
    · simp [href]
  have hconcerned : ∀ types, (c.surroundings.among documents).onlyRef [(rule.keyword, v)] = false →
      declaredTypes "#" [(rule.keyword, v)] = .ok (some types) → group.concerns (some types) = true := by
    intro types _ htypes
    have hother : ("type" == rule.keyword) = false :=
      beq_eq_false_iff_ne.mpr fun heq => hengine (heq ▸ List.mem_cons_self)
    rw [declaredTypes, hlookup, hother] at htypes
    cases htypes
  obtain ⟨_, contributed, _, _, -, hcontributed, -⟩ :=
    @lowerSchema_around (c.surroundings.among documents) _ _ _ budget group rule ⟨[], procedures, hroot⟩ hgroup
      hpresent hconcerned
  obtain ⟨data, nodes, hdata, hchecked, -⟩ := Rule.makes_of_answers hcontributed
  rw [hlookup, beq_self_eq_true, if_pos rfl] at hdata hchecked
  obtain rfl := Except.ok.inj (hdata.symm.trans (hliteral _))
  exact ⟨_, hchecked v rfl rfl⟩

/-! ## The check, and the meta-schema by itself -/

/-- Validators whose programs answer the same say yes to the same data. -/
theorem Validator.valid_iff_of_sameAnswer {n n' : Node} {mid after : List Procedure} (hsame : n.SameAnswer n')
    (hbodies : after.map Procedure.body = mid.map Procedure.body) (allErrors : Bool) (data : Json) :
    (Validator.mk (.ofLowered (n, mid)) allErrors).validate data = .valid ↔
      (Validator.mk (.ofLowered (n', after)) allErrors).validate data = .valid := by
  have hprocedures : (Program.ofLowered (n', after)).procedures = (Program.ofLowered (n, mid)).procedures := by
    have hfilled := congrArg (List.map fun body : Option Node => body.getD .pass) hbodies
    rwa [List.map_map, List.map_map] at hfilled
  have hanswer := @Program.run_sameAnswer (.ofLowered (n, mid)) (.ofLowered (n', after)) hsame hprocedures
    (!allErrors) data
  rw [validate_eq_valid_iff, validate_eq_valid_iff, hanswer]

/-- **The check of a value that is no reference into the data says what the meta-schema says by itself**, compiled
    under the registry in which the keyword is registered, and a schema of the keyword and the value compiles
    only if the meta-schema says yes: where `anyOf`, `required` and `properties` are still draft-07's and no
    other keyword takes care of `anyOf`, references in the meta-schema lead alike, and no code looks at the path
    to its schema.  By itself the meta-schema may be too deep for the smaller budget that it has there. -/
theorem metaSchema_check_agrees {options : Options} {c c' : Compiler} (hc : c.Reached options)
    (hdata : c.options.data = true) {name : String} {definition : KeywordDefinition} {checked : Bool}
    (hadd : c.addKeyword name definition checked = .ok c') (hallows : definition.allowsData = true)
    {metaSchema : Json} (hmeta : definition.metaSchema = some metaSchema) (hanyOf : c.registry.Keeps .anyOf)
    (halone : ∀ place rule, c.registry.Holds place rule → "anyOf" ∈ rule.implements → rule.keyword = "anyOf")
    (hrequired : c.registry.Keeps .required) (hproperties : c.registry.Keeps .properties)
    (hpaths : c.registry.IgnoresPath) {W : Correspondence} {base : Uri} {documents documents' : Documents}
    (hreads : c.ReadsAlike metaSchema W base documents documents') :
    ∃ rule, c'.registry.custom.get? name = some rule ∧
      (c.compile metaSchema = .error .tooDeep ∨ ∃ m, c.compile metaSchema = .ok m ∧
        ∀ v : Json, v.Sound → DataRef.pointerOf? v = none →
          (∀ path, rule.checkValue path v = .ok () ↔
            DataType.anyAccepts definition.schemaTypes v = true ∧ m.validate v = .valid) ∧
          ∀ validator, c'.compile (.obj [(name, v)]) = .ok validator → m.validate v = .valid) := by
  obtain ⟨rule, w, hrule, htypes, hw, hsurrounded⟩ := Compiler.addKeyword_surrounded hadd hdata hallows hmeta
  obtain ⟨group, hgroup⟩ := hc.coherent.readsBuiltin hc.draft7_holds (by decide) hanyOf.hasRule hanyOf.custom
  obtain ⟨documents'', budget, n, never, mid, path, path', hfiled, hn, hnever, heither⟩ :=
    @compileSchema_either c.surroundings group _ _ w hgroup halone hsurrounded
  obtain rfl : documents'' = documents' := Except.ok.inj (hfiled.symm.trans hreads.filed')
  refine ⟨rule, hrule, (hreads.compile_alone hpaths hn).imp_right ?_⟩
  rintro ⟨n', after, hm, hsame, hbodies⟩
  refine ⟨_, hm, fun v hsound hliteral => ?_⟩
  have hfails : ∀ call failFast, ¬ (never.run call failFast (.root v)).Passes := by
    intro call failFast hpass
    have hreference := @isDataReference_of_passes (c.surroundings.among documents'') hc.coherent hc.draft7_holds
      hrequired hproperties budget _ never hnever call failFast (.root v) hsound hpass
    rw [show (Location.root v).value = v from rfl, hliteral] at hreference
    cases hreference
  have hvalid : w.validate v = .valid ↔
      (Validator.mk (.ofLowered (n', after)) c.options.allErrors).validate v = .valid :=
    (heither v hfails).trans (Validator.valid_iff_of_sameAnswer hsame hbodies _ v)
  have hcheck : ∀ path, rule.checkValue path v = .ok () ↔ DataType.anyAccepts definition.schemaTypes v = true ∧
      (Validator.mk (.ofLowered (n', after)) c.options.allErrors).validate v = .valid := by
    intro path
    rw [Rule.checkValue_eq_ok_iff hw, htypes, hvalid]
  refine ⟨hcheck, fun validator hcompiled => ?_⟩
  have hdataRef : ∀ path, rule.dataRef c'.options path (some v) = .ok none := by
    intro path
    rw [Rule.dataRef, Option.bind_some, hliteral]
  obtain ⟨path, hpassed⟩ := (hc.addKeyword hadd).checkValue_of_compile hrule hdataRef hcompiled
  exact ((hcheck path).mp hpassed).2

/-! ## A meta-schema without references -/

namespace Registry

theorem withBuiltins_ignoresPath : withBuiltins.IgnoresPath := by
  intro group hgroup rule hrule d hd
  obtain ⟨⟨number, _⟩, hmem, rfl⟩ := List.mem_map.mp hrule
  obtain ⟨_, -, -, k, -, heq⟩ :=
    @listed_of_withBuiltins_holds (group.appliesTo, number) _ ⟨group, hgroup, rfl, hmem⟩
  dsimp only at hd
  rw [heq] at hd
  cases hd

/-- In draft-07 no keyword takes care of `anyOf`. -/
theorem withBuiltins_anyOf_alone {place : Option DataType × Nat} {rule : Rule}
    (h : withBuiltins.Holds place rule) : "anyOf" ∉ rule.implements := by
  obtain ⟨_, -, -, k, -, rfl⟩ := listed_of_withBuiltins_holds h
  have hnone : ∀ k : BuiltinKeyword, "anyOf" ∉ k.implements := by
    intro k
    cases k <;> decide
  exact hnone k

end Registry

/-- A keyword whose values are numbers, or are taken from the data. -/
def bound : KeywordDefinition where
  keywords := ["bound"]
  allowsData := true
  metaSchema := some (.obj [("type", "number")])
  validate := some fun _ _ => true

/-- The meta-schema of bounds by itself refuses a text and passes a number. -/
theorem bound_by_itself : ∃ m, (Compiler.new { data := true }).compile (.obj [("type", "number")]) = .ok m ∧
    m.validate "x" ≠ .valid ∧ m.validate (1 : Nat) = .valid := by
  have hverdicts : ((Compiler.new { data := true }).compile (.obj [("type", "number")])).toOption.any
      (fun m => (m.program.run (!m.allErrors) "x").map Prod.fst != some true &&
        (m.program.run (!m.allErrors) (1 : Nat)).map Prod.fst == some true) = true := by decide +kernel
  obtain ⟨m, hm, hverdicts⟩ := exists_ok_of_any hverdicts
  obtain ⟨htext, hnumber⟩ := Bool.and_eq_true_iff.mp hverdicts
  exact ⟨m, hm, mt Validator.validate_eq_valid_iff.mp (bne_iff_ne.mp htext),
    Validator.validate_eq_valid_iff.mpr (eq_of_beq hnumber)⟩

/-- The check of a keyword for bounds refuses a text and passes a number as well. -/
theorem bound_checked : ∃ c' rule, (Compiler.new { data := true }).addKeyword "bound" bound true = .ok c' ∧
    c'.registry.custom.get? "bound" = some rule ∧ ∀ path,
      rule.checkValue path "x" ≠ .ok () ∧ rule.checkValue path (1 : Nat) = .ok () := by
  have hmade : ((Compiler.new { data := true }).addKeyword "bound" bound true).toOption.isSome = true := by
    decide +kernel
  obtain ⟨c', hadd⟩ := Option.isSome_iff_exists.mp hmade
  have hadd := eq_ok_of_toOption hadd
  have hkeeps : ∀ k ∈ [BuiltinKeyword.anyOf, .required, .properties], Registry.withBuiltins.Keeps k := by
    intro k hk
    have hall : [BuiltinKeyword.anyOf, .required, .properties].all (fun k =>
        Registry.withBuiltins.hasRule k.name && (Registry.withBuiltins.custom.get? k.name).isNone) = true := by
      decide +kernel
    obtain ⟨hhas, hcustom⟩ := Bool.and_eq_true_iff.mp (List.all_eq_true.mp hall k hk)
    exact ⟨hhas, Option.isNone_iff_eq_none.mp hcustom⟩
  have hids : (Json.obj [("type", "number")]).WithoutIds := by
    simp [withoutIds_obj, withoutIds_str, List.lookup_cons]
  have hfree : ∀ members, Reached (.obj [("type", "number")]) (.obj members) → members.lookup "$ref" = none := by
    intro members hmembers
    rcases hmembers.inside with _ | _ | ⟨hm, hinside⟩
    · rfl
    · obtain rfl := List.mem_singleton.mp hm
      cases hinside
  have hreads := Compiler.ReadsAlike.of_no_references (c := .new { data := true }) hids
    (Registry.withBuiltins_readsDraft7 _) hfree (Documents.ofCache_of_withoutIds fun _ h => nomatch h)
  obtain ⟨rule, hrule, hagree⟩ := metaSchema_check_agrees .new rfl hadd rfl rfl (hkeeps .anyOf (by simp))
    (fun _ _ hholds himplements => absurd himplements (Registry.withBuiltins_anyOf_alone hholds))
    (hkeeps .required (by simp)) (hkeeps .properties (by simp)) Registry.withBuiltins_ignoresPath hreads
  obtain ⟨m, hm, htext, hnumber⟩ := bound_by_itself
  rcases hagree with hdeep | ⟨m', hm', hagree⟩
  · cases hm.symm.trans hdeep
  · obtain rfl := Except.ok.inj (hm.symm.trans hm')
    refine ⟨c', rule, hadd, hrule, fun path => ⟨fun hpassed => ?_, ?_⟩⟩
    · exact htext (((hagree "x" (.leaf rfl rfl) rfl).1 path).mp hpassed).2
    · exact ((hagree (1 : Nat) (.leaf rfl rfl) rfl).1 path).mpr ⟨rfl, hnumber⟩

/-! ## Meta-schemas that see what is around them -/

/-- A keyword whose values are lists, with nothing in them that is such a list, or are taken from the data. -/
def flat : KeywordDefinition where
  keywords := ["flat"]
  allowsData := true
  metaSchema := some (.obj [("type", "array"), ("items", .obj [("not", .obj [("$ref", "#")])])])
  validate := some fun _ _ => true

/-- A list with a reference into the data in it, which is no such reference itself. -/
def listWithReference : Json := .arr [.obj [("$data", "")]]

/-- **A meta-schema that refers to itself refers to the schema around it**, which references into the data pass:
    a list that is flat by itself fails the check if such a reference is in it, and the schema does not compile.
    And where `anyOf` was removed, every value passes the check. -/
theorem surrounding_seen :
    (∃ c' rule m, (Compiler.new { data := true }).addKeyword "flat" flat true = .ok c' ∧
      c'.registry.custom.get? "flat" = some rule ∧ DataRef.pointerOf? listWithReference = none ∧
      (Compiler.new { data := true }).compile (flat.metaSchema.getD .null) = .ok m ∧
      m.validate listWithReference = .valid ∧ rule.checkValue "#/flat" listWithReference ≠ .ok () ∧
      (c'.compile (.obj [("flat", listWithReference)])).isOk = false) ∧
    ∃ c' rule m, ((Compiler.new { data := true }).removeKeyword "anyOf").addKeyword "bound" bound true = .ok c' ∧
      c'.registry.custom.get? "bound" = some rule ∧
      ((Compiler.new { data := true }).removeKeyword "anyOf").compile (bound.metaSchema.getD .null) = .ok m ∧
      m.validate "x" ≠ .valid ∧ rule.checkValue "#/bound" "x" = .ok () := by
  constructor
  · have hmade : ((Compiler.new { data := true }).addKeyword "flat" flat true).toOption.any (fun c' =>
        (c'.registry.custom.get? "flat").any fun rule =>
        ((Compiler.new { data := true }).compile (flat.metaSchema.getD .null)).toOption.any fun m =>
        ((m.program.run (!m.allErrors) listWithReference).map Prod.fst == some true &&
          (rule.checkValue "#/flat" listWithReference).toOption != some ()) &&
        !(c'.compile (.obj [("flat", listWithReference)])).isOk) = true := by
      decide +kernel
    obtain ⟨c', hadd, hmade⟩ := exists_ok_of_any hmade
    obtain ⟨rule, hrule, hmade⟩ := (Option.any_eq_true _ _).mp hmade
    obtain ⟨m, hm, hmade⟩ := exists_ok_of_any hmade
    obtain ⟨hmade, hfails⟩ := Bool.and_eq_true_iff.mp hmade
    obtain ⟨hvalid, hrefused⟩ := Bool.and_eq_true_iff.mp hmade
    refine ⟨c', rule, m, hadd, hrule, rfl, hm, Validator.validate_eq_valid_iff.mpr (eq_of_beq hvalid), ?_,
      by simpa using hfails⟩
    intro hpassed
    rw [hpassed] at hrefused
    cases hrefused
  · have hmade : (((Compiler.new { data := true }).removeKeyword "anyOf").addKeyword "bound" bound
        true).toOption.any (fun c' => (c'.registry.custom.get? "bound").any fun rule =>
        (((Compiler.new { data := true }).removeKeyword "anyOf").compile
          (bound.metaSchema.getD .null)).toOption.any fun m =>
        (m.program.run (!m.allErrors) "x").map Prod.fst != some true &&
        (rule.checkValue "#/bound" "x").toOption == some ()) = true := by
      decide +kernel
    obtain ⟨c', hadd, hmade⟩ := exists_ok_of_any hmade
    obtain ⟨rule, hrule, hmade⟩ := (Option.any_eq_true _ _).mp hmade
    obtain ⟨m, hm, hmade⟩ := exists_ok_of_any hmade
    obtain ⟨hinvalid, hpassed⟩ := Bool.and_eq_true_iff.mp hmade
    exact ⟨c', rule, m, hadd, hrule, hm, mt Validator.validate_eq_valid_iff.mp (bne_iff_ne.mp hinvalid),
      eq_ok_of_toOption (eq_of_beq hpassed)⟩

end JsonSchema
