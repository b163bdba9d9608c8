import JsonSchema.Proofs.Draft7.Applicators
import JsonSchema.Proofs.Lowering.Schemas

/-!
# Compiled validators agree with the semantics

A validator compiled with the keywords of draft-07 passes a value exactly if the value satisfies the
schema (`isValid_iff_satisfies`).  The keywords are done (`keyword_means`); what is left is what the
compiler does around them.

**Groups that cannot matter are left out**, and the others are guarded by their type.  Both are
harmless for one reason: a keyword asks nothing of data that its groups do not concern
(`fulfils_of_unconcerned`).
-/

set_option autoImplicit false

namespace JsonSchema

/-! ## The registry of draft-07 -/

/-- The group holds the rules of the listed keywords. -/
def RuleGroup.Holds (group : RuleGroup) (listed : Option DataType × List BuiltinKeyword) : Prop :=
  group.appliesTo = listed.1 ∧ group.rules = listed.2.map Rule.ofBuiltin

namespace Registry

variable {appliesTo : Option DataType}

theorem insert_groups (r : Registry) (rule : Rule) {i : Nat} (h : r.byType.get? appliesTo = some i) :
    (r.insert appliesTo rule).groups = r.groups.modify i (·.addRule r.nextNumber rule) ∧
      (r.insert appliesTo rule).byType = r.byType := by
  simp [insert, withGroup, h]

/-- Rules that are inserted one after the other stand in this order in the last group. -/
theorem foldl_insert_groups {before : List RuleGroup} (keywords : List BuiltinKeyword) :
    ∀ {r : Registry} {group : RuleGroup}, r.byType.get? appliesTo = some before.length →
      r.groups = before ++ [group] → ∃ last,
        (keywords.foldl (fun r keyword => r.insert appliesTo (.ofBuiltin keyword)) r).groups =
          before ++ [last] ∧
        last.appliesTo = group.appliesTo ∧ last.rules = group.rules ++ keywords.map Rule.ofBuiltin := by
  induction keywords with
  | nil => exact fun {r group} _ hgroups => ⟨group, hgroups, rfl, by simp⟩
  | cons keyword rest ih =>
    intro r group hplace hgroups
    obtain ⟨hinsert, hbyType⟩ := r.insert_groups (.ofBuiltin keyword) hplace
    -- the group that gets the rule is still the last one
    have hadded : (r.insert appliesTo (.ofBuiltin keyword)).groups =
        before ++ [group.addRule r.nextNumber (.ofBuiltin keyword)] := by
      rw [hinsert, hgroups, List.modify_eq_take_cons_drop (by simp)]
      simp
    obtain ⟨last, hlast, htype, hrules⟩ := ih (hbyType ▸ hplace) hadded
    refine ⟨last, hlast, htype, ?_⟩
    rw [hrules]
    simp [RuleGroup.rules, RuleGroup.addRule]

theorem foldl_pushGroup_groups (listed : List (Option DataType × List BuiltinKeyword)) :
    ∀ r : Registry, ∃ more,
      (listed.foldl (fun r (appliesTo, keywords) =>
        keywords.foldl (fun r keyword => r.insert appliesTo (.ofBuiltin keyword))
          (r.pushGroup appliesTo true)) r).groups = r.groups ++ more ∧
      List.Forall₂ RuleGroup.Holds more listed := by
  induction listed with
  | nil => exact fun r => ⟨[], by simp, .nil⟩
  | cons entry rest ih =>
    intro r
    obtain ⟨appliesTo, keywords⟩ := entry
    have hplace : (r.pushGroup appliesTo true).byType.get? appliesTo = some r.groups.length := by
      simp [pushGroup, Table.get?_set]
    obtain ⟨last, hlast, htype, hrules⟩ := foldl_insert_groups keywords hplace rfl
    obtain ⟨more, hmore, hholds⟩ := ih _
    refine ⟨last :: more, ?_, .cons ⟨htype, by simpa [RuleGroup.rules] using hrules⟩ hholds⟩
    rw [List.foldl_cons, hmore, hlast, List.append_assoc]
    rfl

/-- **The registry of draft-07 holds the listed groups**, in their order. -/
theorem withBuiltins_groups :
    List.Forall₂ RuleGroup.Holds withBuiltins.groups BuiltinKeyword.groups := by
  obtain ⟨more, hmore, hholds⟩ := foldl_pushGroup_groups BuiltinKeyword.groups empty
  have hgroups : withBuiltins.groups = more := hmore
  rwa [hgroups]

end Registry

/-! ## What a keyword asks of data that it does not concern -/

variable {formats : Formats} {members : List (String × Json)} {k : BuiltinKeyword} {v : Json}

/-- The value is of the type that a group concerns. -/
def IsConcerned (appliesTo : Option DataType) (v : Json) : Prop :=
  ∀ t, appliesTo = some t → t.accepts v = true

/-- A format accepts what is neither a number nor a string. -/
theorem Format.accepts_of_other (format : Format) (hnum : DataType.number.accepts v = false)
    (hstr : DataType.string.accepts v = false) : format.accepts v = true := by
  cases v with
  | num n => cases hnum
  | str s => cases hstr
  | _ => cases format <;> rfl

/-- A keyword asks for nothing if none of its groups concerns the value. -/
theorem fulfils_of_unconcerned
    (h : ∀ listed ∈ BuiltinKeyword.groups, k ∈ listed.2 → ¬ IsConcerned listed.1 v) :
    Fulfils formats members k v := by
  rw [Fulfils.eq_def]
  cases k with
  | maximum | minimum | exclusiveMaximum | exclusiveMinimum | multipleOf =>
    have hv : DataType.number.accepts v = false := by
      simpa [BuiltinKeyword.groups, IsConcerned] using h
    have hnum : ∀ n, v ≠ .num n := by rintro n rfl; cases hv
    have hdouble : v.double? = none := by cases v <;> first | rfl | cases hv
    simp [Comparison.failsOn, hdouble, hnum]
  | format =>
    have hv : DataType.number.accepts v = false ∧ DataType.string.accepts v = false := by
      simpa [BuiltinKeyword.groups, IsConcerned] using h
    exact fun _ format _ _ => format.accepts_of_other hv.1 hv.2
  | maxLength | minLength | pattern =>
    have hv : DataType.string.accepts v = false := by
      simpa [BuiltinKeyword.groups, IsConcerned] using h
    have hstr : ∀ s, v ≠ .str s := by rintro s rfl; cases hv
    have hsize : Measure.length.size? v = none := by cases v <;> first | rfl | cases hv
    simp [Measure.exceeds, Measure.fallsShortOf, hsize, hstr]
  | maxItems | minItems | items | contains | uniqueItems =>
    have hv : DataType.array.accepts v = false := by
      simpa [BuiltinKeyword.groups, IsConcerned] using h
    have harr : ∀ vs, v ≠ .arr vs := by rintro vs rfl; cases hv
    have hsize : Measure.items.size? v = none := by cases v <;> first | rfl | cases hv
    simp [Measure.exceeds, Measure.fallsShortOf, hsize, harr]
  | maxProperties | minProperties | required | dependencies | propertyNames | properties =>
    have hv : DataType.object.accepts v = false := by
      simpa [BuiltinKeyword.groups, IsConcerned] using h
    have hobj : ∀ ms, v ≠ .obj ms := by rintro ms rfl; cases hv
    have hsize : Measure.properties.size? v = none := by cases v <;> first | rfl | cases hv
    simp [Measure.exceeds, Measure.fallsShortOf, hsize, hobj]
  -- the last group concerns everything
  | ref | const | enum | not | anyOf | oneOf | allOf | ifThenElse =>
    simp [BuiltinKeyword.groups, IsConcerned] at h

/-- A keyword asks for what it asks for in the groups that concern the value. -/
theorem fulfils_of_concerned
    (h : ∀ listed ∈ BuiltinKeyword.groups, k ∈ listed.2 → IsConcerned listed.1 v →
      Fulfils formats members k v) : Fulfils formats members k v := by
  by_cases hex : ∃ listed ∈ BuiltinKeyword.groups, k ∈ listed.2 ∧ IsConcerned listed.1 v
  · obtain ⟨listed, hlisted, hk, hv⟩ := hex
    exact h listed hlisted hk hv
  · exact fulfils_of_unconcerned fun listed hlisted hk hv => hex ⟨listed, hlisted, hk, hv⟩

/-- A keyword that the schema does not have asks for nothing. -/
theorem fulfils_of_absent (h : (Rule.ofBuiltin k).isPresent members = false) :
    Fulfils formats members k v := by
  have hnone : ∀ name ∈ k.name :: k.implements, members.lookup name = none := fun name hname =>
    Option.not_isSome_iff_eq_none.mp (List.any_eq_false.mp h name hname)
  rw [Fulfils.eq_def]
  cases k with
  | properties =>
    have hnamed : members.lookup "properties" = none := hnone _ (by decide)
    have hpatterns : members.lookup "patternProperties" = none := hnone _ (by decide)
    have hothers : members.lookup "additionalProperties" = none := hnone _ (by decide)
    simp [hnamed, hpatterns, hothers]
  | _ =>
    have hname := hnone _ (.head _)
    simp only [BuiltinKeyword.name] at hname
    simp [hname]

/-! ## The declared types -/

/-- Data of the declared types can be of the group's type. -/
def CanConcern (declared : Option (List DataType)) (appliesTo : Option DataType) : Prop :=
  ∀ types t, declared = some types → appliesTo = some t → ∃ type ∈ types, type.admits t = true

theorem RuleGroup.concerns_iff {group : RuleGroup} {declared : Option (List DataType)} :
    group.concerns declared = true ↔ CanConcern declared group.appliesTo := by
  unfold concerns CanConcern
  cases group.appliesTo <;> cases declared <;> simp

/-- Two types with a value in common admit each other's keywords. -/
theorem DataType.admits_of_accepts {t u : DataType} (ht : t.accepts v = true)
    (hu : u.accepts v = true) : t.admits u = true := by
  cases v <;> cases t <;> cases u <;> simp_all [accepts, admits]

theorem declaredTypes_means {path : String} {declared : Option (List DataType)}
    (h : declaredTypes path members = .ok declared) :
    AllMean (declared.map (typeNode path members)).toList (IsOfDeclaredType members) ∧
      ∀ v, IsOfDeclaredType members v → ∀ types, declared = some types →
        ∃ type ∈ types, type.accepts v = true := by
  unfold declaredTypes at h
  unfold IsOfDeclaredType
  cases hlookup : members.lookup "type" with
  | none =>
    rw [hlookup] at h
    obtain rfl := Except.ok.inj h
    exact ⟨.nil fun v t types ht => (nomatch ht), fun v _ types ht => nomatch ht⟩
  | some t =>
    rw [hlookup] at h
    dsimp only at h
    split at h
    · next types htypes =>
      obtain rfl := Except.ok.inj h
      refine ⟨(AllMean.single (Node.type_means types _)).congr fun v => ?_, fun v hv _ heq => ?_⟩
      · exact ⟨fun h => h t types rfl htypes, fun h _ _ ht hts => by
          obtain rfl := Option.some.inj ht
          obtain rfl := Option.some.inj (htypes.symm.trans hts)
          exact h⟩
      · exact Option.some.inj heq ▸ hv t types rfl htypes
    · cases h

/-! ## From keywords to schemas -/

section

variable {env : Environment} {position : Position} {R : RefRel} {node : Node}

/-- Without `$data`, a keyword's value is what stands in the schema. -/
theorem Rule.data_eq_none {rule : Rule} {path : String} {value : Option Json} {data : Option DataRef}
    (hdata : env.options.data = false) (h : rule.dataRef env.options path value = .ok data) :
    data = none := by
  unfold Rule.dataRef at h
  split at h
  · rw [hdata, Bool.and_false, if_neg Bool.false_ne_true] at h
    exact (Except.ok.inj h).symm
  · exact (Except.ok.inj h).symm

theorem Rule.anyAccepts_of_checkValue {path : String} {w : Json}
    (h : (Rule.ofBuiltin k).checkValue path w = .ok ()) :
    DataType.anyAccepts k.schemaTypes w = true := by
  by_contra hnot
  have hnot : DataType.anyAccepts (Rule.ofBuiltin k).schemaTypes w = false := by
    simpa [Rule.schemaTypes, Rule.ofBuiltin] using hnot
  simp [Rule.checkValue, hnot, bind, Except.bind, throw, throwThe, MonadExceptOf.throw] at h

section

variable (hdata : env.options.data = false) (href : members.lookup "$ref" = none)
  (hfree : ∀ s, Json.HasSubschema members s → RefFree s)

include hdata href hfree

/-- A rule that the schema has a keyword for means what the keyword says. -/
theorem Rule.ofBuiltin_means
    (hpresent : (Rule.ofBuiltin k).isPresent members = true)
    (h : (Rule.ofBuiltin k).Makes (satisfying env.formats) R env members position node) :
    node.Means (Fulfils env.formats members k) := by
  obtain ⟨data, nodes, hread, hcheck, hmakes, rfl⟩ := h
  obtain rfl := Rule.data_eq_none hdata hread
  have hk : k ≠ .ref := by
    rintro rfl
    simp [Rule.isPresent, Rule.ofBuiltin, BuiltinKeyword.name, BuiltinKeyword.implements, href] at hpresent
  have hplaced : Placed env.formats members k ((Rule.ofBuiltin k).place env members position none) :=
    { data := rfl
      parent := rfl
      schema := rfl
      formats := rfl
      typed := fun w hw => Rule.anyAccepts_of_checkValue (hcheck w rfl hw)
      present := hpresent
      refFree := hfree }
  exact (keyword_means hk hplaced hmakes).conj

/-- A group means what its keywords say of the values that it concerns. -/
theorem RuleGroup.Makes.means {group : RuleGroup} {listed : Option DataType × List BuiltinKeyword}
    (hholds : group.Holds listed)
    (h : group.Makes (satisfying env.formats) R env members position false node) :
    node.Means fun v => IsConcerned listed.1 v → ∀ k ∈ listed.2, Fulfils env.formats members k v := by
  obtain ⟨nodes, hrules, rfl⟩ := h
  have hpresent : group.present members false =
      (listed.2.filter fun k => (Rule.ofBuiltin k).isPresent members).map Rule.ofBuiltin := by
    rw [RuleGroup.present, hholds.2, List.filter_map]
    simp [Function.comp_def]
  rw [hpresent, List.forall₂_map_left_iff] at hrules
  have hmean := ((List.forall₂_and_left _ _).mpr ⟨fun k hk => (List.mem_filter.mp hk).2, hrules⟩).imp
    fun k n ⟨hk, hn⟩ => Rule.ofBuiltin_means hdata href hfree hk hn
  have hall : AllMean nodes fun v => ∀ k ∈ listed.2, Fulfils env.formats members k v := by
    refine (AllMean.of_forall₂ hmean).congr fun v => ⟨fun h k hk => h k (List.mem_of_mem_filter hk), ?_⟩
    intro h k hk
    cases hp : (Rule.ofBuiltin k).isPresent members with
    | true => exact h k (List.mem_filter.mpr ⟨hk, hp⟩)
    -- no rule was lowered for it, and none is needed
    | false => exact fulfils_of_absent hp
  rw [RuleGroup.around, hholds.1]
  cases listed.1 with
  | none => exact hall.conj.congr fun v => by simp [IsConcerned]
  | some t =>
    dsimp only
    split
    · next hpass => exact Node.pass_means fun v _ => Node.of_isPass_means hpass hall.conj v
    · exact (Node.guard_means hall.conj).congr fun v => by simp [IsConcerned]

/-- All of the groups that are not left out. -/
theorem groups_mean {groups : List RuleGroup} {listed : List (Option DataType × List BuiltinKeyword)}
    {declared : Option (List DataType)}
    (hholds : List.Forall₂ RuleGroup.Holds groups listed) : ∀ {nodes},
      List.Forall₂ (RuleGroup.Makes (satisfying env.formats) R env members position false)
        (groups.filter (·.concerns declared)) nodes →
      AllMean nodes fun v => ∀ l ∈ listed, CanConcern declared l.1 → IsConcerned l.1 v →
        ∀ k ∈ l.2, Fulfils env.formats members k v := by
  induction hholds with
  | nil =>
    rintro _ ⟨⟩
    exact .nil fun v l hl => absurd hl List.not_mem_nil
  | @cons group l _ _ hgroup _ ih =>
    intro nodes h
    have hconcerns : group.concerns declared = true ↔ CanConcern declared l.1 := by
      rw [RuleGroup.concerns_iff, hgroup.1]
    by_cases hc : group.concerns declared = true
    · rw [List.filter_cons_of_pos (by exact hc)] at h
      cases h with
      | cons hmakes hrest =>
        refine .cons (hmakes.means hdata href hfree hgroup) (ih hrest) fun v => ?_
        rw [List.forall_mem_cons]
        simp [← hconcerns, hc]
    -- the meaning asks nothing of a group that was left out, as `CanConcern` fails for it
    · rw [List.filter_cons_of_neg (by exact hc)] at h
      refine (ih h).congr fun v => ?_
      rw [List.forall_mem_cons]
      simp [← hconcerns, hc]

theorem ObjectMakes.means (hregistry : env.registry = .withBuiltins)
    (h : ObjectMakes (satisfying env.formats) R env members position node) :
    node.Means (Satisfies env.formats (.obj members)) := by
  obtain ⟨declared, nodes, hdeclared, hgroups, rfl⟩ := h
  have honly : env.onlyRef members = false := by simp [Environment.onlyRef, href]
  rw [honly, if_neg Bool.false_ne_true] at hdeclared
  rw [honly, hregistry] at hgroups
  obtain ⟨htypes, hdeclares⟩ := declaredTypes_means hdeclared.2
  have hall := htypes.append (groups_mean hdata href hfree Registry.withBuiltins_groups hgroups)
  refine hall.conj.congr fun v => ?_
  rw [Satisfies]
  constructor
  · rintro ⟨htype, hkeywords⟩
    exact ⟨htype, fun _ _ _ _ k _ => hkeywords k⟩
  · rintro ⟨htype, hkeywords⟩
    refine ⟨htype, fun k => fulfils_of_concerned fun listed hlisted hk hv => ?_⟩
    -- a group that concerns the value was not left out: the value is of a declared type
    refine hkeywords listed hlisted (fun types t hd ht => ?_) hv k hk
    obtain ⟨type, hmem, haccepts⟩ := hdeclares v htype types hd
    exact ⟨type, hmem, DataType.admits_of_accepts haccepts (hv t ht)⟩

end

/-- Every schema is lowered to a body that means it; procedures do not matter. -/
theorem satisfying_invariant (hregistry : env.registry = .withBuiltins)
    (hdata : env.options.data = false) :
    LoweringInvariant env (fun _ => True) (fun _ => satisfying env.formats) where
  opened _ _ := trivial
  filled _ _ _ _ := trivial
  schema h hfree := by
    cases h with
    | always => exact Node.pass_means fun v => satisfies_bool.mpr rfl
    | never => exact Node.reject_means _ fun v => by simp
    | object hbase h =>
      cases hfree with
      | obj href hinside => exact h.means hdata href hinside hregistry
      | other hnot => cases hnot

end

/-- **A validator passes exactly the values that satisfy its schema**, in either mode, for schemas
    without references and compilers that do not read keywords' values from the data. -/
theorem isValid_iff_satisfies {s : Surroundings} {schema : Json} {validator : Validator}
    (hregistry : s.registry = .withBuiltins) (hdata : s.options.data = false) (hfree : RefFree schema)
    (h : compileSchema s schema = .ok validator) (data : Json) :
    validator.isValid data = true ↔ Satisfies s.formats schema data := by
  unfold compileSchema at h
  rw [compileProgram_eq] at h
  cases hlowered : lowerProgram s schema with
  | error e => simp [hlowered, Except.map, bind, Except.bind] at h
  | ok lowered =>
    obtain ⟨root, procedures⟩ := lowered
    simp only [hlowered, Except.map, bind, Except.bind, pure, Except.pure, Except.ok.injEq] at h
    obtain ⟨-, base, hroot⟩ := lowerProgram_made (I := fun _ => True)
      (B := fun _ => satisfying s.formats) (fun _ => satisfying_invariant hregistry hdata) trivial hlowered
    subst h
    exact Validator.isValid_iff_of_means (hroot hfree) data

/-- Objects whose members are all strings but for a number under `n`. -/
def strings : Json :=
  .obj [
    ("properties", .obj [("n", .obj [("type", "number")])]),
    ("additionalProperties", .obj [("type", "string")])]

theorem strings_refFree : RefFree strings := by
  have hleaf : ∀ type : String, RefFree (.obj [("type", type)]) := fun type =>
    .of_members rfl (by simp [schemaKeywords]) (by simp [schemaMapKeywords])
  refine .of_members rfl ?_ ?_
  · simp [schemaKeywords, hleaf]
  · simp [schemaMapKeywords, hleaf]

theorem strings_isValid_iff :
    ∃ validator, compileSchema .plain strings = .ok validator ∧ RefFree strings ∧
      ∀ data, validator.isValid data = true ↔ Satisfies .builtin strings data := by
  have hcompiles : (compileSchema .plain strings).isOk = true := by decide +kernel
  cases hcompiled : compileSchema .plain strings with
  | error e =>
    rw [hcompiled] at hcompiles
    cases hcompiles
  | ok validator =>
    exact ⟨validator, rfl, strings_refFree,
      isValid_iff_satisfies (s := .plain) rfl rfl strings_refFree hcompiled⟩

end JsonSchema
