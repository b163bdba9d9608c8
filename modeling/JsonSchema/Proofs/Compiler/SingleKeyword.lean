import JsonSchema.Proofs.Evaluation.Records
import JsonSchema.Proofs.Lowering.KeywordCode
import JsonSchema.Proofs.Lowering.Visits
import JsonSchema.Proofs.Registry.CustomRules

/-!
# Schemas of one custom keyword

The rule of a custom keyword stands once for each type that its definition lists, and the groups of two
types may both concern one value: a whole number is an instance of `number` and of `integer`.  So a value
that a `validate` function rejects is reported **once for each listed type that it is an instance of**, and
not once (`rejection_reported_for_each_type`).
-/

set_option autoImplicit false

namespace JsonSchema

open LowerM

/-! ## Runs that record what is known, one after the other -/

theorem Run.every_recording {α : Type} {failFast : Bool} {f : α → List Violation} {xs : List α}
    {rs : List Run} (h : List.Forall₂ (fun x r => r = recording failFast (f x)) xs rs) :
    every failFast rs = recording failFast (xs.flatMap f) := by
  induction h with
  | nil => exact recording_nil.symm
  | cons hr _ ih =>
    rw [hr, every_recording_cons ih, List.flatMap_cons]

/-! ## What a schema of one keyword is read for -/

section

variable {r : Registry} {keyword : String} {rule : Rule} {v : Json}

/-- If no other keyword takes care of the keyword, a schema of it alone is read for its own rule. -/
theorem Registry.present_single
    (halone : ∀ place rule', r.Holds place rule' → keyword ∈ rule'.implements → rule'.keyword = keyword)
    {env : Environment} {g : RuleGroup} (hg : g ∈ r.groups) :
    g.present [(keyword, v)] (env.onlyRef [(keyword, v)]) = g.rules.filter (·.keyword = keyword) := by
  unfold RuleGroup.present
  refine List.filter_congr fun rule' hrule' => ?_
  obtain ⟨e, he, rfl⟩ := List.mem_map.mp hrule'
  have hholds : r.Holds (g.appliesTo, e.1) e.2 := ⟨g, hg, rfl, he⟩
  have hlookup : ∀ name, (List.lookup name [(keyword, v)]).isSome = (name == keyword) := by
    intro name
    rw [List.lookup_cons]
    cases name == keyword <;> rfl
  have hpresent : e.2.isPresent [(keyword, v)] = decide (e.2.keyword = keyword) := by
    rw [Bool.eq_iff_iff, decide_eq_true_iff, Rule.isPresent, List.any_eq_true]
    simp only [hlookup, beq_iff_eq, exists_eq_right, List.mem_cons]
    exact ⟨fun h => h.elim Eq.symm (halone _ _ hholds), fun h => .inl h.symm⟩
  rw [hpresent, Environment.onlyRef, hlookup]
  by_cases hkeyword : e.2.keyword = keyword
  · rw [hkeyword]
    by_cases href : keyword = "$ref"
    · simp [href]
    · simp [beq_eq_false_iff_ne.mpr (Ne.symm href)]
  · simp [hkeyword]

/-! ## What a rejection is reported as -/

variable {env : Environment} {position : Position} {lower : Lower} {d : KeywordDefinition}
  {validate : (schema data : Json) → Bool} {node : Node}

/-- What a `validate` function gets for the keyword's value. -/
def KeywordDefinition.seen (d : KeywordDefinition) (schema : Json) : Json :=
  if d.schema = some false then .null else schema

/-- The violation of a keyword whose value is written at a place, if the `validate` function rejects. -/
def KeywordPlace.rejection (p : KeywordPlace) (d : KeywordDefinition)
    (validate : (schema data : Json) → Bool) (l : Location) : List Violation :=
  if validate (d.seen p.schema) l.value then [] else [p.failure (d.errorText p.keyword) l p.schema]

/-- A keyword with a `validate` function and without a fixed result adds one check. -/
theorem KeywordPlace.custom_validate_answers {p : KeywordPlace} {nodes : List Node} (hcode : d.code = none)
    (hvalidate : d.validate = some validate) (hvalid : d.valid = none) (h : (p.custom lower d).Answers nodes) :
    nodes = [p.check (d.errorText p.keyword) fun data schema => !validate (d.seen schema) data] := by
  obtain ⟨before, after, h⟩ := h
  unfold custom customLogic at h
  rw [hcode, hvalidate, hvalid] at h
  obtain ⟨_, mid, hlogic, h⟩ := LowerM.bind_eq_ok.mp h
  obtain ⟨rfl, -⟩ := pure_eq_ok.mp hlogic
  obtain ⟨rfl, -⟩ := pure_eq_ok.mp h
  simp [KeywordDefinition.seen]

/-- **A rule with a `validate` function records one violation if the function rejects.** -/
theorem Rule.validate_answers (hd : rule.definition? = some d) (hcode : d.code = none)
    (hvalidate : d.validate = some validate) (hvalid : d.valid = none) {members : List (String × Json)}
    (hliteral : ∀ path, rule.dataRef env.options path (members.lookup rule.keyword) = .ok none)
    (h : (rule.lower lower env members position).Answers node) (call : Nat → Location → Run)
    (failFast : Bool) (l : Location) :
    node.run call failFast l =
      Run.recording failFast ((rule.place env members position none).rejection d validate l) := by
  obtain ⟨data, nodes, hdata, hnodes, rfl⟩ := Rule.lower_custom_answers hd h
  rw [hliteral] at hdata
  obtain rfl := Except.ok.inj hdata
  obtain rfl := KeywordPlace.custom_validate_answers hcode hvalidate hvalid hnodes
  rw [Node.run_conj, List.map_singleton, Run.every_single, KeywordPlace.run_check]
  unfold KeywordPlace.recorded KeywordPlace.rejection
  show Run.recording failFast (if (!validate _ l.value) = true then _ else _) = _
  cases validate (d.seen _) l.value <;> rfl

/-- If all rules that a schema has in a group record the same, the group records it for each, on data that
    it concerns. -/
theorem RuleGroup.recording_answers {members : List (String × Json)} {onlyRef : Bool} {g : RuleGroup}
    {new : Location → List Violation} {call : Nat → Location → Run} {failFast : Bool}
    (hrule : ∀ rule ∈ g.present members onlyRef, ∀ n l,
      (rule.lower lower env members position).Answers n →
      n.run call failFast l = Run.recording failFast (new l))
    (h : (g.lower lower env members position onlyRef).Answers node) (l : Location) :
    node.run call failFast l = Run.recording failFast
      (if g.appliesTo.all (·.accepts l.value) then (g.present members onlyRef).flatMap fun _ => new l
      else []) := by
  obtain ⟨nodes, hnodes, rfl⟩ := RuleGroup.lower_answers h
  rw [RuleGroup.run_around_conj]
  by_cases hl : g.appliesTo.all (·.accepts l.value) = true
  · rw [if_pos hl, if_pos hl]
    apply Run.every_recording
    rw [List.forall₂_map_right_iff]
    have hboth := (List.forall₂_and_left _ _).mpr ⟨hrule, hnodes⟩
    exact hboth.imp fun rule n ⟨hrecords, hn⟩ => hrecords n l hn
  · rw [if_neg hl, if_neg hl, Run.recording_nil]

/-- How many of the types that the definition lists the data is an instance of; if it lists none, it
    concerns all data, once. -/
def KeywordDefinition.matchingTypes (d : KeywordDefinition) (data : Json) : Nat :=
  if d.types.isEmpty then 1 else d.types.countP (·.accepts data)

theorem KeywordDefinition.countP_placesOf (d : KeywordDefinition) (data : Json) :
    (Registry.placesOf d.types).countP (fun place => place.all (·.accepts data)) = d.matchingTypes data := by
  unfold Registry.placesOf matchingTypes
  cases d.types with
  | nil => rfl
  | cons type rest =>
    rw [if_neg (by simp), if_neg (by simp), List.countP_map]
    rfl

/-- The groups that concern the data have the rule as often between them. -/
theorem Registry.SpreadOver.sum_rules (h : r.SpreadOver keyword rule d.types) (hr : r.Indexed)
    (data : Json) :
    (r.groups.map fun g => if g.appliesTo.all (·.accepts data) then
      (g.rules.filter (·.keyword = keyword)).length else 0).sum = d.matchingTypes data := by
  rw [hr.sum_count_rules keyword fun place => place.all (·.accepts data), h.places, d.countP_placesOf]

/-- What the groups record together is as many times the same. -/
theorem Registry.SpreadOver.flatMap_rules (h : r.SpreadOver keyword rule d.types) (hr : r.Indexed)
    (data : Json) (violation : Violation) :
    (r.groups.flatMap fun g => if g.appliesTo.all (·.accepts data) then
      (g.rules.filter (·.keyword = keyword)).flatMap fun _ => [violation] else []) =
      List.replicate (d.matchingTypes data) violation := by
  refine List.eq_replicate_iff.mpr ⟨?_, ?_⟩
  · rw [List.length_flatMap, ← h.sum_rules hr]
    refine congrArg List.sum (List.map_congr_left fun g _ => ?_)
    split
    · simp
    · rfl
  · intro other hother
    obtain ⟨g, -, hg⟩ := List.mem_flatMap.mp hother
    split at hg
    · obtain ⟨-, -, hmem⟩ := List.mem_flatMap.mp hg
      exact List.mem_singleton.mp hmem
    · cases hg

/-- **A schema of one keyword records what its `validate` function rejects once for each listed type that
    the data is an instance of**, if no other keyword takes care of the keyword. -/
theorem lowerObject_validate_answers (hr : r.Indexed) (henv : env.registry = r)
    (hspread : r.SpreadOver keyword rule d.types) (hengine : keyword ∉ engineKeywords)
    (halone : ∀ place rule', r.Holds place rule' → keyword ∈ rule'.implements → rule'.keyword = keyword)
    (hd : rule.definition? = some d) (hkeyword : rule.keyword = keyword) (hcode : d.code = none)
    (hvalidate : d.validate = some validate) (hvalid : d.valid = none)
    (hliteral : ∀ path, rule.dataRef env.options path (some v) = .ok none)
    (h : (lowerObject lower env [(keyword, v)] position).Answers node) (call : Nat → Location → Run)
    (failFast : Bool) (l : Location) :
    node.run call failFast l = Run.recording failFast
      (if validate (d.seen v) l.value then []
      else List.replicate (d.matchingTypes l.value) ⟨keyword, l.dataPath, s!"{position.schemaPath}/{keyword}",
        (d.errorText keyword).params v l.value, (d.errorText keyword).message v l.value⟩) := by
  subst hkeyword
  have hlookup : List.lookup rule.keyword [(rule.keyword, v)] = some v := List.lookup_cons_self
  set p := rule.place env [(rule.keyword, v)] position none with hp
  have hschema : p.schema = v := by
    show (List.lookup rule.keyword [(rule.keyword, v)]).getD .null = v
    rw [hlookup]
    rfl
  obtain ⟨declared, nodes, hdeclared, hnodes, rfl⟩ := lowerObject_answers h
  have hnone : declared = none := by
    rcases hdeclared with ⟨-, hnone⟩ | ⟨-, hdeclared⟩
    · exact hnone
    · have htype : ("type" == rule.keyword) = false :=
        beq_eq_false_iff_ne.mpr fun heq => hengine (heq ▸ List.mem_cons_self)
      rw [declaredTypes, List.lookup_cons, htype] at hdeclared
      exact (Except.ok.inj hdeclared).symm
  subst hnone
  have hall : r.groups.filter (·.concerns none) = r.groups := by
    apply List.filter_eq_self.mpr
    intro g _
    unfold RuleGroup.concerns
    cases g.appliesTo <;> rfl
  rw [henv, hall] at hnodes
  -- each group records the violation for each time that it has the rule
  have hgroups : ∀ g ∈ r.groups, ∀ n, (g.lower lower env [(rule.keyword, v)] position
        (env.onlyRef [(rule.keyword, v)])).Answers n →
      n.run call failFast l = Run.recording failFast
        (if g.appliesTo.all (·.accepts l.value) then
          (g.rules.filter (·.keyword = rule.keyword)).flatMap fun _ => p.rejection d validate l
        else []) := by
    intro g hg n hn
    have hpresent := @Registry.present_single r rule.keyword v halone env g hg
    rw [← hpresent]
    apply @RuleGroup.recording_answers _ _ _ _ _ _ _ (p.rejection d validate) _ _ ?_ hn
    intro rule' hrule' n l hn
    rw [hpresent] at hrule'
    obtain ⟨hrule', hname⟩ := List.mem_filter.mp hrule'
    obtain ⟨e, he, rfl⟩ := List.mem_map.mp hrule'
    obtain rfl := hspread.only (g.appliesTo, e.1) e.2 ⟨g, hg, rfl, he⟩ (by simpa using hname)
    exact Rule.validate_answers hd hcode hvalidate hvalid (hlookup ▸ hliteral) hn call failFast l
  have hruns := (List.forall₂_and_left _ _).mpr ⟨hgroups, hnodes⟩
  show (Node.conj ([] ++ nodes)).run call failFast l = _
  rw [List.nil_append, Node.run_conj, Run.every_recording
    (List.forall₂_map_right_iff.mpr (hruns.imp fun g n ⟨hg, hn⟩ => hg n hn))]
  unfold KeywordPlace.rejection
  rw [hschema]
  by_cases haccepts : validate (d.seen v) l.value = true
  · simp only [haccepts, if_true]
    refine congrArg (Run.recording failFast) (List.flatMap_eq_nil_iff.mpr fun g _ => ?_)
    split <;> simp
  · simp only [haccepts, Bool.false_eq_true, if_false]
    rw [hspread.flatMap_rules hr]
    rfl

end

/-! ## Programs -/

/-- What a schema that is compiled was lowered to. -/
theorem compileSchema_answers {s : Surroundings} {members : List (String × Json)} {validator : Validator}
    (h : compileSchema s (.obj members) = .ok validator) :
    ∃ documents budget base,
      (lowerObject (lowerSchema (s.among documents) budget) (s.among documents) members
        ⟨"#", "", 0, base, 0⟩).Answers validator.program.root ∧
      validator.allErrors = s.options.allErrors := by
  obtain ⟨⟨root, procedures⟩, hlowered, rfl⟩ := compileSchema_eq_ok.mp h
  obtain ⟨base, documents, -, -, hroot⟩ := lowerProgram_eq_ok.mp hlowered
  obtain ⟨budget, hbudget⟩ : ∃ budget, loweringBudget (.obj members) documents = budget + 1 :=
    Nat.exists_eq_succ_of_ne_zero (Nat.ne_of_gt (Nat.zero_lt_of_lt (size_lt_loweringBudget _ _)))
  rw [hbudget] at hroot
  obtain ⟨base', mid, -, hobject⟩ := LowerM.bind_eq_ok.mp hroot
  exact ⟨documents, budget, base', ⟨mid, _, hobject⟩, rfl⟩

/-- **A value that a `validate` function rejects is reported once for each listed type that it is an
    instance of**, with the definition's wording, and a value that it accepts not at all, as long as no other
    keyword takes care of the keyword.  All violations are the same. -/
theorem rejection_reported_for_each_type {options : Options} {c : Compiler} (hc : c.Reached options)
    (hall : c.options.allErrors = true) {keyword : String} {d : KeywordDefinition}
    (hkeyword : c.getKeyword keyword = .custom d) (hcode : d.code = none)
    {validate : (schema data : Json) → Bool} (hvalidate : d.validate = some validate)
    (hvalid : d.valid = none)
    (halone : ∀ place rule, c.registry.Holds place rule → keyword ∈ rule.implements →
      rule.keyword = keyword)
    {v : Json} (hliteral : (d.allowsData && c.options.data) = true → DataRef.pointerOf? v = none)
    {validator : Validator} (hcompiled : c.compile (.obj [(keyword, v)]) = .ok validator) (data : Json) :
    let violation : Violation := ⟨keyword, "", "#/" ++ keyword, (d.errorText keyword).params v data,
      (d.errorText keyword).message v data⟩
    let reported :=
      if validate (d.seen v) data then [] else List.replicate (d.matchingTypes data) violation
    validator.validate data = if reported.isEmpty then .valid else .invalid reported := by
  intro violation reported
  obtain ⟨rule, hrule, hd⟩ := Compiler.getKeyword_eq_custom_iff.mp hkeyword
  obtain ⟨hengine, d', metaValidator, rfl, hspread⟩ := hc.customSpread keyword rule hrule
  obtain rfl : d' = d := Option.some.inj hd
  obtain ⟨documents, budget, base, hroot, hmode⟩ := compileSchema_answers hcompiled
  have hdata : ∀ path, (Rule.ofCustom keyword d' metaValidator).dataRef c.options path (some v) = .ok none := by
    intro path
    rw [Rule.dataRef, Option.bind_some]
    cases hpointer : DataRef.pointerOf? v with
    | none => rfl
    | some pointer =>
      dsimp only
      rw [if_neg]
      intro hallowed
      rw [hliteral hallowed] at hpointer
      cases hpointer
  have hrun := lowerObject_validate_answers hc.coherent.toIndexed rfl hspread hengine halone hd rfl hcode
    hvalidate hvalid hdata hroot (validator.program.call false (validator.program.callBudget data)) false
    (.root data)
  have hreported : validator.program.run false data = some (reported.isEmpty, reported) :=
    congrFun hrun []
  have hmode : validator.allErrors = true := hmode.trans hall
  unfold Validator.validate
  rw [hmode, Bool.not_true, hreported]
  cases reported.isEmpty <;> rfl

/-- A keyword that rejects all data of some types. -/
def refusing (types : List DataType) : KeywordDefinition where
  keywords := ["refusing"]
  types := types
  validate := some fun _ _ => false

/-- A keyword for strings and `null` reports `null` once, which is of one of these types. -/
theorem null_reported_once :
    ∃ c validator, (Compiler.new { allErrors := true }).addKeyword "refusing" (refusing [.string, .null]) true =
      .ok c ∧ c.compile (.obj [("refusing", true)]) = .ok validator ∧
      validator.validate .null = .invalid [⟨"refusing", "", "#/refusing", .obj [("keyword", "refusing")],
        "should pass \"refusing\" keyword validation"⟩] := by
  have hmade : ((Compiler.new { allErrors := true }).addKeyword "refusing" (refusing [.string, .null])
      true).toOption.any (fun c => c.options.allErrors && (c.compile (.obj [("refusing", true)])).toOption.isSome &&
        c.registry.groups.all fun g => g.rules.all fun rule => !rule.implements.contains "refusing") = true := by
    decide +kernel
  obtain ⟨c, hc, hmade⟩ := exists_ok_of_any hmade
  simp only [Bool.and_eq_true, List.all_eq_true, Bool.not_eq_true', List.contains_eq_mem,
    decide_eq_false_iff_not] at hmade
  obtain ⟨⟨hall, hcompiled⟩, hrules⟩ := hmade
  obtain ⟨validator, hvalidator⟩ := Option.isSome_iff_exists.mp hcompiled
  have hvalidator := eq_ok_of_toOption hvalidator
  have halone : ∀ place rule, c.registry.Holds place rule → "refusing" ∈ rule.implements →
      rule.keyword = "refusing" := by
    rintro place rule ⟨g, hg, -, hmem⟩ himplements
    exact absurd himplements (hrules g hg rule (List.mem_map_of_mem hmem))
  have hkeyword : c.getKeyword "refusing" = .custom (refusing [.string, .null]) :=
    Compiler.getKeyword_addKeyword hc
  have hnone : ((refusing [.string, .null]).allowsData && c.options.data) = true →
      DataRef.pointerOf? true = none := fun _ => rfl
  exact ⟨c, validator, hc, hvalidator, rejection_reported_for_each_type (Compiler.Reached.new.addKeyword hc) hall
    hkeyword rfl rfl rfl halone hnone hvalidator .null⟩

/-- **A whole number is reported twice** by a keyword for numbers and for integers; and data that is of one
    listed type is reported twice if another keyword takes care of the keyword and rejects it as well. -/
theorem rejections_reported_twice :
    (∃ c validator violations,
      (Compiler.new { allErrors := true }).addKeyword "refusing" (refusing [.number, .integer]) true = .ok c ∧
      c.compile (.obj [("refusing", true)]) = .ok validator ∧
      validator.validate (1 : Nat) = .invalid violations ∧ violations.length = 2) ∧
    ∃ c c' validator violations,
      (Compiler.new { allErrors := true }).addKeyword "refusing" (refusing [.string]) true = .ok c ∧
      c.addKeyword "caring" { refusing [.string] with keywords := ["caring"], implements := ["refusing"] } true =
        .ok c' ∧
      c'.compile (.obj [("refusing", true)]) = .ok validator ∧
      validator.validate "x" = .invalid violations ∧ violations.length = 2 := by
  constructor
  · have htwo : ((Compiler.new { allErrors := true }).addKeyword "refusing" (refusing [.number, .integer])
        true).toOption.any (fun c => ((c.compile (.obj [("refusing", true)])).toOption.bind fun v =>
          (v.validate (1 : Nat)).count?) == some 2) = true := by decide +kernel
    obtain ⟨c, hc, htwo⟩ := exists_ok_of_any htwo
    obtain ⟨validator, violations, hcompiled, hinvalid, hlength⟩ := exists_invalid (eq_of_beq htwo)
    exact ⟨c, validator, violations, hc, hcompiled, hinvalid, hlength⟩
  · have htwo : ((Compiler.new { allErrors := true }).addKeyword "refusing" (refusing [.string])
        true).toOption.any (fun c => (c.addKeyword "caring"
          { refusing [.string] with keywords := ["caring"], implements := ["refusing"] } true).toOption.any
          fun c' => ((c'.compile (.obj [("refusing", true)])).toOption.bind fun v =>
            (v.validate "x").count?) == some 2) = true := by decide +kernel
    obtain ⟨c, hc, htwo⟩ := exists_ok_of_any htwo
    obtain ⟨c', hc', htwo⟩ := exists_ok_of_any htwo
    obtain ⟨validator, violations, hcompiled, hinvalid, hlength⟩ := exists_invalid (eq_of_beq htwo)
    exact ⟨c, c', validator, violations, hc, hc', hcompiled, hinvalid, hlength⟩

end JsonSchema
