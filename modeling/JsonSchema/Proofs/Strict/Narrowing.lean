import JsonSchema.Proofs.Reference.RootId
import JsonSchema.Proofs.Strict.Keywords

/-!
# Strict mode narrows where it closes on one side

A schema that refers to nothing is lowered twice: as it is, and closed.  If no object schema is closed
where it counts with the wrong sign, the one root bounds the other (`ClosesOneWay.bounds`), so that
**strict mode narrows what such a schema accepts** (`strict_narrows`).  Under a negation it does not:
there a schema that accepts less makes the whole accept more (`strict_widens_negation`).
-/

set_option autoImplicit false

namespace JsonSchema

open Node

/-! ## What lowering without references gives -/

/-- Lowering the schema at the position has given the node. -/
def LoweredTo (env : Environment) : BodyRel := fun schema position n =>
  ∃ budget procedures after, lowerSchema env budget schema position procedures = .ok (n, after)

section

open LowerM

variable {env : Environment} {members : List (String × Json)} {position : Position} {n : Node}

/-- Nothing is asked of the procedures. -/
theorem lowerSchema_lowered (budget : Nat) (schema : Json) (position : Position) :
    Ensures (fun _ => True) (lowerSchema env budget schema position)
      fun _ n => LoweredTo env schema position n := by
  intro procedures n after _ h
  have hnothing : LoweringInvariant env (fun _ => True) fun _ _ _ _ => True :=
    ⟨fun _ _ => trivial, fun _ _ _ _ => trivial, fun _ => trivial⟩
  obtain ⟨-, hprefix, -⟩ := lowerSchema_made hnothing budget schema position procedures n after trivial h
  exact ⟨trivial, hprefix, fun _ _ => ⟨budget, procedures, after, h⟩⟩

theorem LoweredTo.object (h : LoweredTo env (.obj members) position n) :
    ∃ base, schemaBase (.obj members) position.base = .ok base ∧
      ∃ R, ObjectMakes (LoweredTo env) R env members { position with base } n := by
  obtain ⟨budget, procedures, after, h⟩ := h
  cases budget with
  | zero => exact absurd h refuse_ne_ok
  | succ budget =>
    obtain ⟨base, procedures', hfirst, hobject⟩ := LowerM.bind_eq_ok.mp h
    obtain ⟨hbase, -⟩ := liftExcept_eq_ok.mp hfirst
    have hr : ∀ rule : Rule, rule.RefersTo env members { position with base } (fun _ => True)
        (lowerSchema env budget) fun later => Refers later env.documents := fun rule data _ =>
      procedureOf_made (fun target => lowerSchema_lowered budget target.schema _)
        (fun _ _ _ => trivial) fun _ _ _ _ => trivial
    obtain ⟨-, -, hmakes⟩ := lowerObject_made (lowerSchema_lowered budget) (fun rule _ => hr rule)
      _ _ _ trivial hobject
    exact ⟨base, hbase, _, hmakes after List.prefix_rfl⟩

/-- What is no object can be lowered only if it is a boolean. -/
theorem LoweredTo.leaf_cases {s : Json} (hs : s.obj? = none) (h : LoweredTo env s position n) :
    (s = .bool true ∧ n = .pass) ∨ (s = .bool false ∧ ∃ site, n = .reject site) := by
  obtain ⟨budget, procedures, after, h⟩ := h
  cases budget with
  | zero => exact absurd h refuse_ne_ok
  | succ budget =>
    cases s with
    | bool allowed =>
      cases allowed with
      | true => exact .inl ⟨rfl, (pure_eq_ok.mp h).1⟩
      | false => exact .inr ⟨rfl, _, (pure_eq_ok.mp h).1⟩
    | obj members => cases hs
    | _ => exact absurd h refuse_ne_ok

theorem not_loweredTo_null : ¬ LoweredTo env .null position n := fun h =>
  (h.leaf_cases rfl).elim (nomatch ·.1) (nomatch ·.1)

end

/-! ## Objects -/

theorem schemaBase_closed (schema : Json) (base : Uri) :
    schemaBase schema.closed base = schemaBase schema base := by
  rw [schemaBase, schemaBase, idOf?_closed]

section

variable {B B' : BodyRel} {R R' : RefRel} {env : Environment} {documents : Documents}
  {members : List (String × Json)} {upper : Bool} {k : BuiltinKeyword} {position : Position} {n n' : Node}

/-- The places of a rule for a keyword of draft-07. -/
theorem Closing.place (h : Closing B B' members upper) (data data' : Option DataRef) :
    ClosedPlace B B' members upper k ((Rule.ofBuiltin k).place env members position data)
      ((Rule.ofBuiltin k).place (env.among documents) (Json.closedObject members) position data') :=
  { h with
    parent := rfl
    parent' := rfl
    position := rfl
    keyword := rfl
    schema := rfl
    schema' := rfl }

/-- What makes a keyword present stays. -/
theorem Rule.isPresent_closed_of_isPresent {rule : Rule} (h : rule.isPresent members = true) :
    rule.isPresent (Json.closedObject members) = true := by
  obtain ⟨name, hname, hsome⟩ := List.any_eq_true.mp h
  refine List.any_eq_true.mpr ⟨name, hname, ?_⟩
  obtain ⟨v, hv⟩ := Option.isSome_iff_exists.mp hsome
  rw [Json.lookup_closedObject, hv]
  rfl

/-- Closing a schema adds nothing to other keywords than `properties`. -/
theorem Rule.isPresent_closed (hk : k ≠ .properties) :
    (Rule.ofBuiltin k).isPresent (Json.closedObject members) = (Rule.ofBuiltin k).isPresent members := by
  have hnames : ∀ name ∈ k.name :: k.implements, name ≠ "additionalProperties" := by
    cases k <;> first | exact absurd rfl hk | decide
  rw [Bool.eq_iff_iff, isPresent, isPresent, List.any_eq_true, List.any_eq_true]
  refine exists_congr fun name => and_congr_right fun hname => ?_
  rw [Json.lookup_closedObject_of_ne (hnames name hname), Option.isSome_map]

/-- **What a keyword contributes bounds what it contributes to the closed schema.** -/
theorem Closing.rule_bounds (h : Closing B B' members upper) (hk : k ≠ .ref)
    (hm : (Rule.ofBuiltin k).Makes B R env members position n)
    (hm' : (Rule.ofBuiltin k).Makes B' R' (env.among documents) (Json.closedObject members) position n') :
    n.Bounds upper n' := by
  obtain ⟨data, nodes, hdata, -, hmakes, rfl⟩ := hm
  obtain ⟨data', nodes', hdata', -, hmakes', rfl⟩ := hm'
  refine AllBound.conj ?_
  cases hassertion : k.isAssertion with
  | false => exact (h.place data data').applicator_bounds hassertion hk hmakes hmakes'
  | true =>
    -- the value of an assertion stays, and with it where in the data it is taken from
    have hunlisted : k.name ∉ schemaMapKeywords ∧ k.name ∉ schemaKeywords := by
      revert hassertion
      cases k <;> decide
    have hvalue : (Json.closedObject members).lookup k.name = members.lookup k.name :=
      Json.lookup_closedObject_of_unlisted hunlisted.1 hunlisted.2
    have hkeyword : (Rule.ofBuiltin k).keyword = k.name := rfl
    rw [hkeyword, hvalue] at hdata'
    rw [hkeyword] at hdata
    obtain rfl : data' = data := Except.ok.inj (hdata'.symm.trans hdata)
    unfold Rule.place at hmakes'
    rw [hkeyword, hvalue] at hmakes'
    obtain rfl := assertion_nodes_eq hassertion hmakes hmakes'
    exact .checks (assertion_checks hassertion hmakes)

/-- A schema without properties has nothing to say of them before it is closed. -/
theorem Closing.added_bounds (h : Closing B B' members upper)
    (habsent : (Rule.ofBuiltin .properties).isPresent members = false)
    (hm' : (Rule.ofBuiltin .properties).Makes B' R' (env.among documents) (Json.closedObject members)
      position n') : AllBound upper [] [n'] := by
  obtain ⟨data', nodes', -, -, hmakes', rfl⟩ := hm'
  have hnone : ∀ name ∈ ["properties", "additionalProperties", "patternProperties"],
      members.lookup name = none := fun name hname =>
    Option.not_isSome_iff_eq_none.mp (List.any_eq_false.mp habsent name hname)
  have hplace := @Closing.place _ _ env documents _ _ .properties position h none data'
  have hmakes : ((Rule.ofBuiltin .properties).place env members position none).MakesProperties B [] := by
    have hsibling : ∀ name ∈ ["properties", "additionalProperties", "patternProperties"],
        ((Rule.ofBuiltin .properties).place env members position none).sibling? name = none := hnone
    unfold KeywordPlace.MakesProperties KeywordPlace.MakesOthers KeywordPlace.siblingMembers
    rw [hsibling _ (by decide), hsibling _ (by decide), hsibling _ (by decide)]
    exact ⟨nofun, [], [], [], [], .nil, .nil, .nil, rfl, rfl⟩
  intro call call' failFast l
  rw [List.map_singleton, Run.every_single, run_conj]
  exact hplace.properties_bounds hmakes hmakes' call call' failFast l

/-- The rules of a group. -/
theorem Closing.rules_bounds (h : Closing B B' members upper) (href : members.lookup "$ref" = none) :
    ∀ {rules : List Rule} {nodes nodes' : List Node}, (∀ rule ∈ rules, ∃ k, rule = .ofBuiltin k) →
      List.Forall₂ (Rule.Makes B R env members position) (rules.filter (·.isPresent members)) nodes →
      List.Forall₂ (Rule.Makes B' R' (env.among documents) (Json.closedObject members) position)
        (rules.filter (·.isPresent (Json.closedObject members))) nodes' →
      AllBound upper nodes nodes' := by
  intro rules
  induction rules with
  | nil =>
    rintro _ _ - ⟨⟩ ⟨⟩
    exact .nil
  | cons rule rest ih =>
    intro nodes nodes' hbuiltin hmade hmade'
    obtain ⟨⟨k, rfl⟩, hrest⟩ := List.forall_mem_cons.mp hbuiltin
    by_cases hpresent : (Rule.ofBuiltin k).isPresent members = true
    · rw [List.filter_cons_of_pos (by exact hpresent)] at hmade
      rw [List.filter_cons_of_pos (by exact Rule.isPresent_closed_of_isPresent hpresent)] at hmade'
      have hk : k ≠ .ref := by
        rintro rfl
        simp [Rule.isPresent, Rule.ofBuiltin, BuiltinKeyword.name, BuiltinKeyword.implements, href] at hpresent
      cases hmade with
      | cons hfirst hothers =>
        cases hmade' with
        | cons hfirst' hothers' =>
          exact (h.rule_bounds hk hfirst hfirst').single.append (ih hrest hothers hothers')
    · rw [List.filter_cons_of_neg (by exact hpresent)] at hmade
      by_cases hpresent' : (Rule.ofBuiltin k).isPresent (Json.closedObject members) = true
      -- only the closed schema has the keyword, which is the one that closing adds
      · rw [List.filter_cons_of_pos (by exact hpresent')] at hmade'
        obtain rfl : k = .properties := by
          by_contra hk
          exact hpresent (Rule.isPresent_closed hk ▸ hpresent')
        cases hmade' with
        | cons hfirst' hothers' =>
          exact (h.added_bounds (Bool.eq_false_iff.mpr hpresent) hfirst').append (ih hrest hmade hothers')
      · rw [List.filter_cons_of_neg (by exact hpresent')] at hmade'
        exact ih hrest hmade hmade'

theorem RuleGroup.bounds_around (group : RuleGroup) {body body' : Node} (h : body.Bounds upper body') :
    (group.around body).Bounds upper (group.around body') := by
  intro call call' failFast l
  rw [RuleGroup.run_around, RuleGroup.run_around]
  cases group.appliesTo with
  | none => exact h call call' failFast l
  | some concerned =>
    dsimp only
    split
    · exact h call call' failFast l
    · exact .pass

/-- **What an object is lowered to bounds what it is lowered to once it is closed.** -/
theorem Closing.object_bounds (h : Closing B B' members upper) (hbuiltin : env.registry.BuiltinOnly)
    (href : members.lookup "$ref" = none) (hm : ObjectMakes B R env members position n)
    (hm' : ObjectMakes B' R' (env.among documents) (Json.closedObject members) position n') :
    n.Bounds upper n' := by
  obtain ⟨declared, nodes, hdeclared, hgroups, rfl⟩ := hm
  obtain ⟨declared', nodes', hdeclared', hgroups', rfl⟩ := hm'
  have hlookup : ∀ name ∈ ["$ref", "type"],
      (Json.closedObject members).lookup name = members.lookup name := by
    simp only [List.forall_mem_cons, List.not_mem_nil, false_implies, implies_true, and_true]
    exact ⟨Json.lookup_closedObject_of_unlisted (by decide) (by decide),
      Json.lookup_closedObject_of_unlisted (by decide) (by decide)⟩
  have honly : env.onlyRef members = false := by simp [Environment.onlyRef, href]
  have honly' : (env.among documents).onlyRef (Json.closedObject members) = false := by
    simp [Environment.onlyRef, hlookup, href]
  rw [honly, if_neg Bool.false_ne_true] at hdeclared
  rw [honly', if_neg Bool.false_ne_true] at hdeclared'
  rw [honly] at hgroups
  rw [honly'] at hgroups'
  have htypes : declaredTypes position.schemaPath (Json.closedObject members) =
      declaredTypes position.schemaPath members := by
    rw [declaredTypes, declaredTypes, hlookup _ (by decide)]
  obtain rfl : declared' = declared :=
    Except.ok.inj ((htypes ▸ hdeclared'.2).symm.trans hdeclared.2)
  have htype : typeNode position.schemaPath (Json.closedObject members) =
      typeNode position.schemaPath members := by
    funext types
    rw [typeNode, typeNode, hlookup _ (by decide)]
  rw [htype]
  refine AllBound.conj (.append ?_ (.of_forall₂ (forall₂_of_both hgroups hgroups' ?_)))
  · cases declared' with
    | none => exact .nil
    | some types => exact Node.Bounds.single (.of_alike fun _ _ _ => .type _ _ _)
  · rintro group hgroup _ _ ⟨bodies, hbodies, rfl⟩ ⟨bodies', hbodies', rfl⟩
    refine group.bounds_around (AllBound.conj ?_)
    unfold RuleGroup.present at hbodies hbodies'
    simp only [Bool.not_false, Bool.true_or, Bool.and_true] at hbodies hbodies'
    exact h.rules_bounds href (hbuiltin group (List.mem_of_mem_filter hgroup)) hbodies hbodies'

end

/-! ## Schemas -/

/-- What counts in a schema is a schema inside it. -/
theorem Json.Counts.hasSubschema {members : List (String × Json)} {sign : Bool} {s : Json}
    (h : Json.Counts members sign s) : Json.HasSubschema members s := by
  have hsingle : ∀ keyword ∈ narrowingKeywords, keyword ∈ schemaKeywords := by decide
  have hmap : ∀ keyword ∈ narrowingMapKeywords, keyword ∈ schemaMapKeywords := by decide
  cases h with
  | single hk hs => exact .single (hsingle _ hk) hs
  | listed hk hss hs => exact .listed (hsingle _ hk) hss hs
  | named hk hms hm => exact .named (hmap _ hk) hms hm
  | negated hs | beforeThen hs _ | beforeElse hs _ => exact .single (by decide) hs
  | either hss hs => exact .listed (by decide) hss hs

/-- **A schema that closes on one side bounds the closed schema.** -/
theorem ClosesOneWay.bounds {env : Environment} {documents : Documents} {positive : Bool} {schema : Json}
    (hbuiltin : env.registry.BuiltinOnly) (h : ClosesOneWay positive schema) (hfree : RefFree schema) :
    ClosingBounds (LoweredTo env) (LoweredTo (env.among documents)) positive schema := by
  induction h with
  | other hs =>
    intro position n n' hn hn'
    rcases hn.leaf_cases hs with ⟨rfl, rfl⟩ | ⟨rfl, site, rfl⟩
    · rw [Json.closed_leaf rfl rfl] at hn'
      rcases hn'.leaf_cases rfl with ⟨-, rfl⟩ | ⟨hne, -⟩
      · exact .of_alike fun _ _ _ => .pass
      · cases hne
    · rw [Json.closed_leaf rfl rfl] at hn'
      rcases hn'.leaf_cases rfl with ⟨hne, -⟩ | ⟨-, site', rfl⟩
      · cases hne
      · exact .of_alike fun _ _ _ => .reject _ _
  | @obj positive members hopened _ ih =>
    intro position n n' hn hn'
    obtain ⟨href, hinside⟩ : members.lookup "$ref" = none ∧
        ∀ s, Json.HasSubschema members s → RefFree s := by
      cases hfree with
      | obj href hinside => exact ⟨href, hinside⟩
      | other hnot => cases hnot
    rw [Json.closed_obj] at hn'
    obtain ⟨base, hbase, R, hmakes⟩ := hn.object
    obtain ⟨base', hbase', R', hmakes'⟩ := hn'.object
    rw [← Json.closed_obj, schemaBase_closed] at hbase'
    obtain rfl : base' = base := Except.ok.inj (hbase'.symm.trans hbase)
    have hclosing : Closing (LoweredTo env) (LoweredTo (env.among documents)) members positive :=
      ⟨hopened, fun sign s hs => ih sign s hs (hinside s hs.hasSubschema), fun _ _ => not_loweredTo_null⟩
    exact hclosing.object_bounds hbuiltin href hmakes hmakes'

/-! ## Validators -/

theorem Validator.bounds {upper : Bool} {v v' : Validator}
    (h : v.program.root.Bounds upper v'.program.root) (data : Json) :
    Bounds upper (v.isValid data = true) (v'.isValid data = true) := by
  obtain ⟨φ, φ', hφ, hφ', hle⟩ := h (v.program.call true (v.program.callBudget data))
    (v'.program.call true (v'.program.callBudget data)) true (.root data)
  obtain ⟨valid, after, hrun, hvalid⟩ := hφ []
  obtain ⟨valid', after', hrun', hvalid'⟩ := hφ' []
  unfold isValid Program.run
  rw [hrun, hrun']
  exact hle.congr hvalid.symm hvalid'.symm

/-- **Strict mode narrows**: if a schema without references closes no object schema where it counts with
    the negative sign, what its closed form accepts the schema accepts too. -/
theorem strict_narrows {s : Surroundings} {schema : Json} {validator strict : Validator}
    (hbuiltin : s.registry.BuiltinOnly) (hfree : RefFree schema) (hsides : ClosesOneWay true schema)
    (h : compileSchema s schema = .ok validator) (h' : compileSchema s schema.closed = .ok strict)
    (data : Json) (hvalid : strict.isValid data = true) : validator.isValid data = true := by
  obtain ⟨⟨root, procedures⟩, hlowered, rfl⟩ := compileSchema_eq_ok.mp h
  obtain ⟨⟨root', procedures'⟩, hlowered', rfl⟩ := compileSchema_eq_ok.mp h'
  obtain ⟨base, documents, hbase, -, hroot⟩ := lowerProgram_eq_ok.mp hlowered
  obtain ⟨base', documents', hbase', -, hroot'⟩ := lowerProgram_eq_ok.mp hlowered'
  rw [schemaBase_closed] at hbase'
  obtain rfl : base' = base := Except.ok.inj (hbase'.symm.trans hbase)
  have hroots := @ClosesOneWay.bounds ⟨s.registry, s.options, s.formats, documents⟩ documents' _ _
    hbuiltin hsides hfree _ root root' ⟨_, _, _, hroot⟩ ⟨_, _, _, hroot'⟩
  have hbounds : Bounds true
      (Validator.isValid ⟨.ofLowered (root, procedures), s.options.allErrors⟩ data = true)
      (Validator.isValid ⟨.ofLowered (root', procedures'), s.options.allErrors⟩ data = true) :=
    Validator.bounds hroots data
  exact hbounds hvalid

/-! ## Negations -/

/-- What does not satisfy a schema. -/
def negation (schema : Json) : Json := .obj [("not", schema)]

/-- Objects with any value under `b`. -/
def anyB : Json := .obj [("properties", .obj [("b", .bool true)])]

theorem negation_refFree {schema : Json} (h : RefFree schema) (harr : schema.arr? = none) :
    RefFree (negation schema) := by
  refine .of_members rfl ?_ (by simp [schemaMapKeywords])
  simp only [List.forall_mem_cons, List.not_mem_nil, false_implies, implies_true, and_true]
  exact fun _ => ⟨h, fun ss hss => by rw [hss] at harr; cases harr⟩

theorem anyB_refFree : RefFree anyB :=
  .of_members rfl (by simp [schemaKeywords]) (by simp [schemaMapKeywords, RefFree.other (s := .bool true) rfl])

theorem lookup_single {name keyword : String} {v w : Json} (h : [(name, v)].lookup keyword = some w) :
    keyword = name ∧ w = v := by
  rw [List.lookup_cons] at h
  split at h
  · next heq => exact ⟨eq_of_beq heq, (Option.some.inj h).symm⟩
  · cases h

/-- **A negation turns the sign around.** -/
theorem ClosesOneWay.negation {positive : Bool} {schema : Json} (h : ClosesOneWay (!positive) schema) :
    ClosesOneWay positive (negation schema) := by
  refine .obj (fun _ => rfl) fun sign s hs => ?_
  cases hs with
  | single hk hs | listed hk hs _ | named hk hs _ =>
    obtain ⟨rfl, -⟩ := lookup_single hs
    exact absurd hk (by decide)
  | negated hs =>
    obtain ⟨-, rfl⟩ := lookup_single hs
    rwa [show (positive == false) = !positive by cases positive <;> rfl]
  | beforeThen hs _ | beforeElse hs _ | either hs _ => exact absurd (lookup_single hs).1 (by decide)

theorem anyB_closesOneWay : ClosesOneWay true anyB := by
  refine .obj nofun fun sign s hs => ?_
  cases hs with
  | single hk hs | listed hk hs _ =>
    obtain ⟨rfl, -⟩ := lookup_single hs
    exact absurd hk (by decide)
  | named _ hs hm =>
    obtain ⟨-, hvalue⟩ := lookup_single hs
    obtain rfl := Json.obj.inj hvalue
    obtain rfl := List.mem_singleton.mp hm
    exact .other rfl
  | negated hs | beforeThen hs _ | beforeElse hs _ | either hs _ =>
    exact absurd (lookup_single hs).1 (by decide)

/-- Under two negations strict mode narrows again. -/
theorem doubleNegation_narrows : ∃ validator strict,
    compileSchema .plain (negation (negation anyB)) = .ok validator ∧
    compileSchema .plain (negation (negation anyB)).closed = .ok strict ∧
    RefFree (negation (negation anyB)) ∧ ClosesOneWay true (negation (negation anyB)) ∧
    ∀ data, strict.isValid data = true → validator.isValid data = true := by
  have hbuiltin : Surroundings.plain.registry.BuiltinOnly := Registry.withBuiltins_builtinOnly
  have hfree : RefFree (negation (negation anyB)) :=
    negation_refFree (negation_refFree anyB_refFree rfl) rfl
  have hsides : ClosesOneWay true (negation (negation anyB)) := .negation (.negation anyB_closesOneWay)
  have hcompiles : (compileSchema .plain (negation (negation anyB))).isOk = true := by decide +kernel
  have hcloses : (compileSchema .plain (negation (negation anyB)).closed).isOk = true := by decide +kernel
  cases hvalidator : compileSchema .plain (negation (negation anyB)) with
  | error e =>
    rw [hvalidator] at hcompiles
    cases hcompiles
  | ok validator =>
    cases hstrict : compileSchema .plain (negation (negation anyB)).closed with
    | error e =>
      rw [hstrict] at hcloses
      cases hcloses
    | ok strict =>
      exact ⟨validator, strict, rfl, rfl, hfree, hsides,
        strict_narrows hbuiltin hfree hsides hvalidator hstrict⟩

/-- **Under one negation strict mode widens**: an object without `b` is an object with any value under
    `b`, but no longer so in strict mode. -/
theorem strict_widens_negation : ∃ validator strict,
    RefFree (negation anyB) ∧ compileSchema .plain (negation anyB) = .ok validator ∧
    compileSchema .plain (negation anyB).closed = .ok strict ∧
    strict.isValid (.obj [("a", .num (.ofNat 1))]) = true ∧
    validator.isValid (.obj [("a", .num (.ofNat 1))]) = false := by
  have hrejects : (compileSchema .plain (negation anyB)).toOption.any
      (fun v => !v.isValid (.obj [("a", .num (.ofNat 1))])) = true := by decide +kernel
  have haccepts : (compileSchema .plain (negation anyB).closed).toOption.any
      (fun v => v.isValid (.obj [("a", .num (.ofNat 1))])) = true := by decide +kernel
  cases hvalidator : compileSchema .plain (negation anyB) with
  | error e =>
    rw [hvalidator] at hrejects
    cases hrejects
  | ok validator =>
    cases hstrict : compileSchema .plain (negation anyB).closed with
    | error e =>
      rw [hstrict] at haccepts
      cases haccepts
    | ok strict =>
      rw [hvalidator] at hrejects
      rw [hstrict] at haccepts
      exact ⟨validator, strict, negation_refFree anyB_refFree rfl, rfl, rfl, haccepts,
        Bool.not_eq_true' _ ▸ hrejects⟩

end JsonSchema
