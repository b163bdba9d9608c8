import JsonSchema.Compiler.Keywords
import JsonSchema.Proofs.Draft7.Forms
import JsonSchema.Proofs.Evaluation.FirstViolation
import JsonSchema.Proofs.Reference.Meaning

/-!
# Which definitions of keywords are accepted

A definition is checked as a value: it is written as one, and the validator of a meta-schema with
references of its own says what is wrong with the value.  What the meta-schema cannot say is checked on
the definition.  **Together they find nothing exactly if the definition is well formed**
(`definitionViolations_eq_nil_iff`).
-/

set_option autoImplicit false

namespace JsonSchema

/-! ## Lists of names -/

namespace DataType

theorem mem_all (t : DataType) : t ∈ all := by cases t <;> decide

theorem ofName?_name (t : DataType) : ofName? t.name = some t := by cases t <;> rfl

theorem name_injective : Function.Injective name := fun t t' h =>
  Option.some.inj ((ofName?_name t).symm.trans ((congrArg ofName? h).trans (ofName?_name t')))

end DataType

namespace KeywordDefinition

/-- The schema of the names of types. -/
def typeNameSchema : Json :=
  .obj [("enum", .arr ["array", "boolean", "integer", "null", "number", "object", "string"])]

/-- The schema of lists of types: one type, or several different ones. -/
def typeListSchema : Json :=
  .obj [("anyOf", .arr [typeNameSchema,
    .obj [("type", "array"), ("items", typeNameSchema), ("minItems", (1 : Nat)), ("uniqueItems", true)]])]

/-- The schema of lists of names: one name, or any number of them but none. -/
def nameListSchema : Json :=
  .obj [("anyOf", .arr [.obj [("type", "string")],
    .obj [("type", "array"), ("items", .obj [("type", "string")]), ("minItems", (1 : Nat))]])]

section

variable {formats : Formats}

theorem namesToJson_cases (names : List String) :
    (∃ name, names = [name] ∧ namesToJson names = .str name) ∨
      namesToJson names = .arr (names.map Json.str) := by
  unfold namesToJson
  split
  · exact .inl ⟨_, rfl, rfl⟩
  · exact .inr rfl

theorem satisfies_typeName (t : DataType) : Satisfies formats typeNameSchema (.str t.name) := by
  refine satisfies_enum.mpr ⟨.str t.name, ?_, by rw [Json.equal, beq_self_eq_true]⟩
  cases t <;> simp [DataType.name]

theorem not_satisfies_typeName (vs : List Json) : ¬ Satisfies formats typeNameSchema (.arr vs) := by
  intro h
  obtain ⟨a, ha, hequal⟩ := satisfies_enum.mp h
  simp only [List.mem_cons, List.not_mem_nil, or_false] at ha
  rcases ha with rfl | rfl | rfl | rfl | rfl | rfl | rfl <;> simp [Json.equal] at hequal

/-- The names of the types are all different exactly if the types are. -/
theorem pairwise_typeNames {types : List DataType} :
    ((types.map DataType.name).map Json.str).Pairwise (fun earlier later => later.equal earlier = false) ↔
      types.Nodup := by
  rw [List.map_map, List.pairwise_map, List.Nodup]
  refine List.Pairwise.iff fun {t u} => ?_
  show Json.equal (.str u.name) (.str t.name) = false ↔ t ≠ u
  rw [Json.equal, beq_eq_false_iff_ne, ne_comm, DataType.name_injective.ne_iff]

/-- A list of types is written so that the meta-schema accepts it if the types are all different. -/
theorem satisfies_typeList {types : List DataType} (hsome : types ≠ []) :
    Satisfies formats typeListSchema (namesToJson (types.map DataType.name)) ↔ types.Nodup := by
  have hnames : ∀ v ∈ (types.map DataType.name).map Json.str, Satisfies formats typeNameSchema v := by
    intro v hv
    obtain ⟨_, hname, rfl⟩ := List.mem_map.mp hv
    obtain ⟨t, -, rfl⟩ := List.mem_map.mp hname
    exact satisfies_typeName t
  rw [typeListSchema, satisfies_anyOf]
  simp only [List.mem_cons, List.not_mem_nil, or_false, exists_eq_or_imp, exists_eq_left]
  rcases namesToJson_cases (types.map DataType.name) with ⟨name, hsingle, hjson⟩ | hjson
  · obtain ⟨t, rfl, rfl⟩ := List.map_eq_singleton_iff.mp hsingle
    rw [hjson]
    exact iff_of_true (.inl (satisfies_typeName t)) (List.nodup_singleton t)
  · have hpresent : presentKeywords [("type", "array"), ("items", typeNameSchema), ("minItems", (1 : Nat)),
      ("uniqueItems", true)] = [.minItems, .items, .uniqueItems] := rfl
    rw [hjson, or_iff_right (not_satisfies_typeName _), satisfies_arraySchema rfl, hpresent,
      List.forall_mem_cons, List.forall_mem_cons, List.forall_mem_singleton, fulfils_items rfl rfl,
      fulfils_uniqueItems rfl, pairwise_typeNames]
    refine ⟨fun h => h.2.2, fun hnodup => ⟨?_, hnames, hnodup⟩⟩
    -- there are seven types, so that counting different ones in doubles is exact
    have hfew : types.length ≤ DataType.all.length :=
      (hnodup.subperm fun t _ => t.mem_all).length_le
    refine (fulfils_minItems_one rfl ?_).mpr (by simpa using hsome)
    rw [List.length_map, List.length_map]
    exact hfew.trans (by decide)

theorem satisfies_nameList {names : List String} (hlength : names.length ≤ UInt64.size) :
    Satisfies formats nameListSchema (namesToJson names) ↔ names ≠ [] := by
  have hstring : ∀ name : String, Satisfies formats (.obj [("type", "string")]) (.str name) := fun name =>
    (satisfies_type .string).mpr rfl
  have harray : ∀ vs : List Json, ¬ Satisfies formats (.obj [("type", "string")]) (.arr vs) := fun vs h =>
    absurd ((satisfies_type .string).mp h) (by simp [DataType.accepts])
  rw [nameListSchema, satisfies_anyOf]
  simp only [List.mem_cons, List.not_mem_nil, or_false, exists_eq_or_imp, exists_eq_left]
  rcases namesToJson_cases names with ⟨name, rfl, hjson⟩ | hjson
  · simp [hjson, hstring]
  · rw [hjson, satisfies_filledArray rfl (by simpa using hlength)]
    simp [harray, hstring]

/-! ## The definition as a value -/

/-- What is written under a name if it is given. -/
def givenIf (given : Bool) (v : Json) : Option Json := if given then some v else none

/-- The members of a list that are there. -/
def given (parts : List (String × Option Json)) : List (String × Json) :=
  parts.flatMap fun p => (p.2.map (p.1, ·)).toList

/-- What a definition says under each name. -/
def parts (d : KeywordDefinition) : List (String × Option Json) := [
  ("keyword", some (namesToJson d.keywords)),
  ("type", givenIf (!d.types.isEmpty) (namesToJson (d.types.map DataType.name))),
  ("schemaType", givenIf (!d.schemaTypes.isEmpty) (namesToJson (d.schemaTypes.map DataType.name))),
  ("$data", givenIf d.allowsData true),
  ("metaSchema", d.metaSchema),
  ("implements", givenIf (!d.implements.isEmpty) (.arr (d.implements.map Json.str))),
  ("code", givenIf d.code.isSome true),
  ("validate", givenIf d.validate.isSome true),
  ("compile", givenIf d.compile.isSome true),
  ("macro", givenIf d.expand.isSome true),
  ("error", givenIf d.error.isSome true),
  ("async", givenIf d.isAsync true),
  ("schema", d.schema.map Json.bool),
  ("valid", d.valid.map Json.bool)]

theorem toList_givenIf (b : Bool) (name : String) (v : Json) :
    ((givenIf b v).map (name, ·)).toList = if b then [(name, v)] else [] := by
  cases b <;> rfl

theorem toJson_eq (d : KeywordDefinition) : d.toJson = .obj (given d.parts) := by
  simp only [parts, given, List.flatMap_cons, List.flatMap_nil, toList_givenIf, Option.map_map]
  simp only [← List.append_assoc, List.append_nil]
  rfl

theorem lookup_given {parts : List (String × Option Json)} (hnames : (parts.map Prod.fst).Nodup)
    (name : String) : (given parts).lookup name = (parts.lookup name).join := by
  induction parts with
  | nil => rfl
  | cons p rest ih =>
    obtain ⟨other, v⟩ := p
    obtain ⟨hother, hrest⟩ := List.nodup_cons.mp hnames
    have hgiven : given ((other, v) :: rest) = (v.map (other, ·)).toList ++ given rest := List.flatMap_cons
    rw [hgiven, List.lookup_append, ih hrest, List.lookup_cons]
    cases hname : name == other with
    | false => cases v <;> simp [List.lookup_cons, hname]
    | true =>
      obtain rfl := eq_of_beq hname
      have habsent : rest.lookup name = none := List.lookup_eq_none_iff.mpr fun p hp =>
        bne_iff_ne.mpr fun h => hother (List.mem_map.mpr ⟨p, hp, h.symm⟩)
      cases v <;> simp [habsent]

theorem lookup_toJson (d : KeywordDefinition) (name : String) :
    (given d.parts).lookup name = (d.parts.lookup name).join := by
  refine lookup_given ?_ name
  show List.Nodup ["keyword", "type", "schemaType", "$data", "metaSchema", "implements", "code", "validate",
    "compile", "macro", "error", "async", "schema", "valid"]
  decide

/-! ## What the meta-schema asks for -/

/-- What the meta-schema asks of the value of a definition, as far as definitions can miss it. -/
structure FitsMetaSchema (d : KeywordDefinition) : Prop where
  keywords : d.keywords ≠ []
  types : d.types.Nodup
  schemaTypes : d.schemaTypes.Nodup
  metaSchema : ∀ m, d.metaSchema = some m → ∃ members, m = .obj members
  data : d.allowsData = true → d.code.isSome ∨ d.validate.isSome
  schema : d.schema.isSome → d.validate.isSome
  valid : d.valid.isSome → d.expand.isSome = false

/-- What some members need of the others. -/
def needs : List (String × Json) :=
  let needs (name : String) : Json := .obj [("required", .arr [name])]
  [("schema", .arr ["validate"]),
    ("valid", .obj [("not", needs "macro")]),
    ("$data", .obj [("anyOf", .arr [needs "code", needs "validate"])])]

/-- The schemas of the members. -/
def properties : List (String × Json) :=
  let ofType (name : String) : Json := .obj [("type", name)]
  let ofTrue : Json := .obj [("const", true)]
  [("keyword", nameListSchema),
    ("type", typeListSchema),
    ("schemaType", typeListSchema),
    ("schema", ofType "boolean"),
    ("metaSchema", ofType "object"),
    ("implements", .obj [("type", "array"), ("items", ofType "string")]),
    ("valid", ofType "boolean"),
    ("$data", ofType "boolean"),
    ("async", ofType "boolean"),
    ("code", ofTrue),
    ("validate", ofTrue),
    ("compile", ofTrue),
    ("macro", ofTrue),
    ("error", ofTrue)]

/-- The meta-schema of definitions with its references replaced. -/
def resolvedMetaSchema : Json :=
  .obj [
    ("definitions", .obj [("simpleTypes", typeNameSchema), ("typeList", typeListSchema)]),
    ("type", "object"),
    ("required", .arr ["keyword"]),
    ("dependencies", .obj needs),
    ("properties", .obj properties)]

theorem inline?_metaSchema :
    Json.inline? metaSchemaOfDefinitions 6 metaSchemaOfDefinitions = some resolvedMetaSchema := by
  rfl

theorem isSome_givenIf {b : Bool} {v : Json} : (givenIf b v).isSome = b := by
  cases b <;> rfl

/-- What is asked of a value that is given under a condition. -/
theorem forall_givenIf {b : Bool} {v : Json} {P : Json → Prop} :
    (∀ w, givenIf b v = some w → P w) ↔ (b = true → P v) := by
  cases b <;> simp [givenIf]

/-- What the members of a definition need of each other. -/
theorem needs_met_iff (d : KeywordDefinition) :
    (∀ need ∈ needs, ((given d.parts).lookup need.1).isSome → NeedMet formats (given d.parts) need.2) ↔
      (d.schema.isSome → d.validate.isSome) ∧ (d.valid.isSome → d.expand.isSome = false) ∧
        (d.allowsData = true → d.code.isSome ∨ d.validate.isSome) := by
  rw [needs, List.forall_mem_cons, List.forall_mem_cons, List.forall_mem_singleton]
  simp only [needMet_name, needMet_schema, satisfies_not, satisfies_anyOf, satisfies_required,
    lookup_toJson, List.mem_cons, List.not_mem_nil, or_false, exists_eq_or_imp, exists_eq_left]
  simp only [parts, List.lookup_cons, String.reduceBEq, Option.join_some, isSome_givenIf, Option.isSome_map,
    Bool.not_eq_true]

/-- The members of a definition are written as their schemas ask, but for names, types and the schema of
    values. -/
theorem properties_satisfied_iff (d : KeywordDefinition) (hlength : d.keywords.length ≤ UInt64.size) :
    (∀ s ∈ properties, ∀ w, (given d.parts).lookup s.1 = some w → Satisfies formats s.2 w) ↔
      d.keywords ≠ [] ∧ d.types.Nodup ∧ d.schemaTypes.Nodup ∧
        (∀ m, d.metaSchema = some m → ∃ members, m = .obj members) := by
  have hbool : ∀ b : Bool, Satisfies formats (.obj [("type", "boolean")]) (.bool b) := fun b =>
    (satisfies_type .boolean).mpr rfl
  have htrue : Satisfies formats (.obj [("const", true)]) true := satisfies_const.mpr rfl
  have hobject : ∀ m : Json, Satisfies formats (.obj [("type", "object")]) m ↔ ∃ members, m = .obj members :=
    fun m => (satisfies_type .object).trans (by cases m <;> simp [DataType.accepts])
  have hnames : ∀ names : List String,
      Satisfies formats (.obj [("type", "array"), ("items", .obj [("type", "string")])])
        (.arr (names.map Json.str)) := fun names => by
    refine (satisfies_array rfl).mpr fun v hv => ?_
    obtain ⟨name, -, rfl⟩ := List.mem_map.mp hv
    exact (satisfies_type .string).mpr rfl
  have htypes : ∀ types : List DataType, ((!types.isEmpty) = true →
      Satisfies formats typeListSchema (namesToJson (types.map DataType.name))) ↔ types.Nodup := by
    intro types
    cases types with
    | nil => simp
    | cons t rest => simpa using satisfies_typeList (List.cons_ne_nil t rest)
  simp only [properties, List.forall_mem_cons, lookup_toJson]
  simp only [parts, List.lookup_cons, String.reduceBEq, Option.join_some, forall_givenIf, Option.some.injEq,
    forall_eq', Option.map_eq_some_iff, forall_exists_index, and_imp, forall_apply_eq_imp_iff₂,
    satisfies_nameList hlength, htypes, htrue, hbool, hobject, hnames, List.not_mem_nil, IsEmpty.forall_iff,
    implies_true, true_and, and_true]

/-- **What the meta-schema of definitions asks for.** -/
theorem satisfies_resolvedMetaSchema (d : KeywordDefinition) (hlength : d.keywords.length ≤ UInt64.size) :
    Satisfies formats resolvedMetaSchema d.toJson ↔ d.FitsMetaSchema := by
  have hobject : DataType.object.accepts (.obj (given d.parts)) = true := rfl
  have hkeyword : ((given d.parts).lookup "keyword").isSome = true := by
    rw [lookup_toJson]
    rfl
  have hpresent : presentKeywords [
      ("definitions", .obj [("simpleTypes", typeNameSchema), ("typeList", typeListSchema)]),
      ("type", "object"), ("required", .arr ["keyword"]), ("dependencies", .obj needs),
      ("properties", .obj properties)] = [.required, .dependencies, .properties] := rfl
  rw [toJson_eq, resolvedMetaSchema, satisfies_obj, isOfDeclaredType_name (t := .object) rfl,
    and_iff_right hobject, hpresent, List.forall_mem_cons, List.forall_mem_cons, List.forall_mem_singleton,
    fulfils_required rfl, fulfils_dependencies rfl, fulfils_properties rfl rfl rfl, needs_met_iff,
    properties_satisfied_iff d hlength, and_iff_right hkeyword]
  constructor
  · rintro ⟨⟨hschema, hvalid, hdata⟩, hkeywords, htypes, hschemaTypes, hmeta⟩
    exact ⟨hkeywords, htypes, hschemaTypes, hmeta, hdata, hschema, hvalid⟩
  · rintro ⟨hkeywords, htypes, hschemaTypes, hmeta, hdata, hschema, hvalid⟩
    exact ⟨⟨hschema, hvalid, hdata⟩, hkeywords, htypes, hschemaTypes, hmeta⟩

end

/-! ## What is checked beside the meta-schema -/

/-- The definition can be used for its keywords. -/
structure WellFormed (d : KeywordDefinition) : Prop extends d.FitsMetaSchema where
  names : ∀ name ∈ d.keywords, isIdentifier name = true
  logic : ExactlyOne (· = true) [d.code.isSome, d.validate.isSome, d.compile.isSome, d.expand.isSome]
  sync : d.isAsync = false
  implements : ∀ name ∈ d.implements, isIdentifier name = true

theorem logicViolations_eq_nil_iff (d : KeywordDefinition) : d.logicViolations = [] ↔
    ExactlyOne (· = true) [d.code.isSome, d.validate.isSome, d.compile.isSome, d.expand.isSome] := by
  have hnone : ¬ ExactlyOne (· = true) ([] : List Bool) := fun ⟨_, hi, _⟩ => absurd hi (Nat.not_lt_zero _)
  have hcount : d.logicViolations = [] ↔ d.logicCount = 1 := by
    unfold logicViolations
    split <;> simp_all
  rw [hcount, logicCount]
  cases d.code.isSome <;> cases d.validate.isSome <;> cases d.compile.isSome <;> cases d.expand.isSome <;>
    simp [exactlyOne_cons, hnone]

theorem implementsViolations_eq_nil_iff (d : KeywordDefinition) :
    d.implementsViolations = [] ↔ ∀ name ∈ d.implements, isIdentifier name = true := by
  unfold implementsViolations
  rw [List.filterMap_eq_nil_iff]
  constructor
  · intro h name hname
    obtain ⟨i, hi⟩ := List.getElem?_of_mem hname
    by_contra hbad
    have hnone := h (name, i) (List.mem_zipIdx_iff_getElem?.mpr hi)
    simp [hbad] at hnone
  · intro h p hp
    have hname : p.1 ∈ d.implements := List.mem_of_getElem? (List.mem_zipIdx_iff_getElem?.mp hp)
    simp [h _ hname]

theorem nameViolations_eq_nil_iff (d : KeywordDefinition) :
    d.nameViolations = [] ↔ ∀ name ∈ d.keywords, isIdentifier name = true := by
  unfold nameViolations
  cases hfind : d.keywords.find? (!isIdentifier ·) with
  | none => simpa using List.find?_eq_none.mp hfind
  | some name =>
    have hbad := List.find?_some hfind
    refine iff_of_false (List.cons_ne_nil _ _) fun h => ?_
    rw [h name (List.mem_of_find?_eq_some hfind)] at hbad
    cases hbad

theorem violations_eq_nil_iff (d : KeywordDefinition) :
    d.FitsMetaSchema ∧ d.violations = [] ↔ d.WellFormed := by
  have hasync : d.asyncViolations = [] ↔ d.isAsync = false := by simp [asyncViolations]
  simp only [violations, List.append_eq_nil_iff, logicViolations_eq_nil_iff, hasync,
    implementsViolations_eq_nil_iff, nameViolations_eq_nil_iff]
  constructor
  · rintro ⟨hfits, ⟨⟨hlogic, hsync⟩, himplements⟩, hnames⟩
    exact ⟨hfits, hnames, hlogic, hsync, himplements⟩
  · rintro ⟨hfits, hnames, hlogic, hsync, himplements⟩
    exact ⟨hfits, ⟨⟨hlogic, hsync⟩, himplements⟩, hnames⟩

end KeywordDefinition

/-! ## The check -/

/-- The validator of definitions passes the values that satisfy the meta-schema, and ends on all. -/
theorem definitionValidator_decides : ∃ validator, definitionValidator = .ok validator ∧
    ∀ data, validator.validate data ≠ .endless ∧
      (validator.isValid data = true ↔ Satisfies .builtin KeywordDefinition.resolvedMetaSchema data) := by
  have hcompiles : definitionValidator.isOk = true := by decide +kernel
  cases hcompiled : definitionValidator with
  | error e =>
    rw [hcompiled] at hcompiles
    cases hcompiles
  | ok validator =>
    have hdecides := compiled_decides (s := ⟨.withBuiltins, { allErrors := true }, .builtin, .empty⟩) rfl rfl
      (.of_insides (by decide +kernel)) (.of_insides (by decide +kernel))
      KeywordDefinition.inline?_metaSchema
      (.of_insides (by decide +kernel) _ (.here _)) hcompiled
    refine ⟨validator, rfl, fun data => ⟨?_, ?_⟩⟩
    · obtain ⟨valid, errors, hrun, -⟩ := hdecides (!validator.allErrors) data
      unfold Validator.validate
      rw [hrun]
      cases valid <;> simp
    · obtain ⟨valid, errors, hrun, hvalid⟩ := hdecides true data
      unfold Validator.isValid
      rw [hrun]
      exact hvalid

/-- What the check finds is what the validator finds, and what is wrong beside it. -/
theorem definitionViolations_eq (d : KeywordDefinition) (hlength : d.keywords.length ≤ UInt64.size) :
    ∃ found, definitionViolations d = .ok (found ++ d.violations) ∧ (found = [] ↔ d.FitsMetaSchema) := by
  obtain ⟨validator, hvalidator, hdecides⟩ := definitionValidator_decides
  obtain ⟨hends, hvalid⟩ := hdecides d.toJson
  refine ⟨(validator.validate d.toJson).violations, ?_, ?_⟩
  · unfold definitionViolations
    simp only [hvalidator, bind, Except.bind]
    cases hverdict : validator.validate d.toJson with
    | endless => exact absurd hverdict hends
    | valid => rfl
    | invalid violations => rfl
  · rw [Validator.violations_eq_nil_iff hends, hvalid,
      KeywordDefinition.satisfies_resolvedMetaSchema d hlength]

/-- **Which definitions are accepted.**  The check of a definition ends, finds nothing exactly if the
    definition is well formed, and is all that a checked registration does more than an unchecked one,
    whatever the compiler knows.  A list in memory has at most `2 ^ 64` entries; the number of names is
    compared with that of the meta-schema as a double, and larger ones need not be doubles. -/
theorem definitionViolations_eq_nil_iff (d : KeywordDefinition) (hlength : d.keywords.length ≤ UInt64.size) :
    ∃ violations, definitionViolations d = .ok violations ∧ (violations = [] ↔ d.WellFormed) ∧
      ∀ (c : Compiler) (r : Registry) (name : String), r.isKnown name = false → isIdentifier name = true →
        c.register r name d true =
          if violations.isEmpty then c.register r name d false
          else .error (.invalidDefinition name violations) := by
  obtain ⟨found, hfound, hfits⟩ := definitionViolations_eq d hlength
  refine ⟨found ++ d.violations, hfound, ?_, fun c r name hunknown hidentifier => ?_⟩
  · rw [List.append_eq_nil_iff, hfits, d.violations_eq_nil_iff]
  · unfold Compiler.register
    simp only [hunknown, hidentifier, hfound, bind, Except.bind]
    cases (found ++ d.violations).isEmpty <;> rfl

/-- A keyword of two names for numbers, which takes care of another and may be given its value by the data. -/
def rangeKeyword : KeywordDefinition where
  keywords := ["range", "x-range"]
  types := [.number, .integer]
  schemaTypes := [.array]
  allowsData := true
  metaSchema := some (.obj [("minItems", (2 : Nat)), ("maxItems", (2 : Nat))])
  implements := ["exclusiveRange"]
  validate := some fun _ _ => true
  schema := some true

theorem rangeKeyword_accepted :
    rangeKeyword.keywords.length ≤ UInt64.size ∧ definitionViolations rangeKeyword = .ok [] := by
  refine ⟨by decide, ?_⟩
  obtain ⟨violations, hfound, hempty, -⟩ := definitionViolations_eq_nil_iff rangeKeyword (by decide)
  rw [hfound, hempty.mpr]
  exact {
    keywords := List.cons_ne_nil _ _
    types := by decide
    schemaTypes := by decide
    metaSchema := fun m hm => ⟨_, (Option.some.inj hm).symm⟩
    data := fun _ => .inr rfl
    schema := fun _ => rfl
    valid := by decide
    names := by decide
    logic := ⟨1, by decide, rfl, by decide⟩
    sync := rfl
    implements := by decide }

end JsonSchema
