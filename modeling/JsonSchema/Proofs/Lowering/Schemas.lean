import JsonSchema.Proofs.Lowering.Contributions

/-!
# What lowering a schema gives

From keywords to rules, groups and schemas, each as a relation beside the code
(`Rule.Makes`, `RuleGroup.Makes`, `SchemaMakes`), and then one induction on the budget:
**a relation between schemas and bodies that `SchemaMakes` keeps holds of everything that lowering
gives** (`lowerSchema_made`).

What makes the induction more than one over a tree is the list of procedures.  A reference adds an entry
without a body, lowers the target and fills the entry in, and meanwhile other references see the open
entry.  `LoweringInvariant` asks for what it takes: the invariant survives an entry that is opened and
one that is filled.  All that a reference then promises is `Refers`, which is what the loop check of
`KeywordPlace.procedureOf` left: the entry is filled, **or it was opened elsewhere in the data**.

Of the groups of the registry an object reads those that can concern its data.  What is said of reading an
object is said for any choice among the groups (`lowerObjectOf`).
-/

set_option autoImplicit false

namespace JsonSchema

/-! ## Choices of groups -/

/-- Which groups are read for an object, given the types that it declares. -/
abbrev GroupChoice := Option (List DataType) → List RuleGroup

/-- The groups that can concern data of the declared types. -/
def Registry.concernedGroups (r : Registry) : GroupChoice := fun declared =>
  r.groups.filter (·.concerns declared)

/-- All groups, whatever types are declared. -/
def Registry.everyGroup (r : Registry) : GroupChoice := fun _ => r.groups

/-- The choice is one among the groups of the registry. -/
def GroupChoice.Within (groups : GroupChoice) (r : Registry) : Prop :=
  ∀ declared, ∀ group ∈ groups declared, group ∈ r.groups

theorem Registry.concernedGroups_within (r : Registry) : GroupChoice.Within r.concernedGroups r :=
  fun _ _ => List.mem_of_mem_filter

theorem Registry.everyGroup_within (r : Registry) : GroupChoice.Within r.everyGroup r := fun _ _ => id

/-- Whether a schema is read for its `$ref` alone. -/
def Environment.onlyRef (env : Environment) (members : List (String × Json)) : Bool :=
  (members.lookup "$ref").isSome && env.registry.hasRule "$ref"

/-- Lowers an object with the groups of a choice. -/
def lowerObjectOf (groups : GroupChoice) (lower : Lower) (env : Environment) (members : List (String × Json))
    (position : Position) : LowerM Node := do
  let declared ←
    if env.onlyRef members then pure none
    else do
      liftExcept (env.checkKeywords position.schemaPath members)
      liftExcept (declaredTypes position.schemaPath members)
  let nodes ← (groups declared).mapM (RuleGroup.lower lower env members position (env.onlyRef members))
  return .conj ((declared.map (typeNode position.schemaPath members)).toList ++ nodes)

/-- Lowers a schema, and all schemas in it, with the groups of a choice. -/
def lowerSchemaOf (groups : GroupChoice) (env : Environment) : (budget : Nat) → Lower
  | 0, _, _ => refuse .tooDeep
  | budget + 1, .obj members, position => do
    let base ← liftExcept (schemaBase (.obj members) position.base)
    lowerObjectOf groups (lowerSchemaOf groups env budget) env members { position with base }
  | budget + 1, schema, position => lowerSchema env (budget + 1) schema position

/-- A schema is lowered with the groups that can concern its data. -/
theorem lowerSchemaOf_concerned (env : Environment) (budget : Nat) :
    lowerSchemaOf env.registry.concernedGroups env budget = lowerSchema env budget := by
  induction budget with
  | zero => rfl
  | succ budget ih =>
    funext schema position
    cases schema with
    | obj members =>
      rw [lowerSchemaOf, lowerSchema, ih]
      rfl
    | _ => rfl

/-! ## Rules, groups and schemas -/

section

/-- A reference from a position leads to procedure `i`. -/
def Refers (procedures : List Procedure) (documents : Documents) (position : Position)
    (reference : String) (i : Nat) : Prop :=
  ∃ target q, documents.resolve position.base reference = .ok target ∧ procedures[i]? = some q ∧
    q.target.key = target.key ∧ (q.descents = position.descents → q.body.isSome)

/-- What is known of the references of a schema: from its position, the procedure of each. -/
abbrev RefRel := Position → String → Nat → Prop

variable (B : BodyRel) (R : RefRel) (env : Environment) (members : List (String × Json))
  (position : Position)

/-- The place of a rule's keyword in a schema. -/
def Rule.place (rule : Rule) (data : Option DataRef) : KeywordPlace where
  env := env
  parent := members
  position := position
  keyword := rule.keyword
  schema := (members.lookup rule.keyword).getD .null
  data := data
  expects := rule.schemaTypes

/-- What a rule can contribute to a schema. -/
def Rule.Makes (rule : Rule) (node : Node) : Prop :=
  let path := s!"{position.schemaPath}/{rule.keyword}"
  let value := members.lookup rule.keyword
  ∃ data nodes, rule.dataRef env.options path value = .ok data ∧
    (∀ v, data = none → value = some v → rule.checkValue path v = .ok ()) ∧
    (match rule.implementation with
      | .builtin k => (rule.place env members position data).Makes B (R position) k nodes
      | .custom d => (rule.place env members position data).MakesCustom B d nodes) ∧
    node = .conj nodes

/-- The rules of a group that a schema has keywords for; beside `$ref`, no other counts. -/
def RuleGroup.present (group : RuleGroup) (onlyRef : Bool) : List Rule :=
  group.rules.filter fun rule => rule.isPresent members && (!onlyRef || rule.keyword == "$ref")

/-- The body of a group, for data of the group's type only. -/
def RuleGroup.around (group : RuleGroup) (body : Node) : Node :=
  match group.appliesTo with
  | some type => if body.isPass then .pass else .guard type body
  | none => body

/-- What the rules of a group can contribute to a schema. -/
def RuleGroup.Makes (onlyRef : Bool) (group : RuleGroup) (node : Node) : Prop :=
  ∃ nodes, List.Forall₂ (Rule.Makes B R env members position) (group.present members onlyRef) nodes ∧
    node = group.around (.conj nodes)

/-- What an object can be lowered to with the groups of a choice. -/
def ObjectMakesOf (groups : GroupChoice) (node : Node) : Prop :=
  ∃ declared nodes,
    (if env.onlyRef members then declared = none
      else env.checkKeywords position.schemaPath members = .ok () ∧
        declaredTypes position.schemaPath members = .ok declared) ∧
    List.Forall₂ (RuleGroup.Makes B R env members position (env.onlyRef members)) (groups declared) nodes ∧
    node = .conj ((declared.map (typeNode position.schemaPath members)).toList ++ nodes)

/-- What an object can be lowered to. -/
def ObjectMakes (node : Node) : Prop :=
  ∃ declared nodes,
    (if env.onlyRef members then declared = none
      else env.checkKeywords position.schemaPath members = .ok () ∧
        declaredTypes position.schemaPath members = .ok declared) ∧
    List.Forall₂ (RuleGroup.Makes B R env members position (env.onlyRef members))
      (env.registry.groups.filter (·.concerns declared)) nodes ∧
    node = .conj ((declared.map (typeNode position.schemaPath members)).toList ++ nodes)

/-- What a schema can be lowered to. -/
inductive SchemaMakes : Json → Position → Node → Prop where
  | always {position : Position} : SchemaMakes (.bool true) position .pass
  | never {position : Position} : SchemaMakes (.bool false) position
      (.reject ⟨"false schema", position.schemaPath, .bool false,
        .fixed "boolean schema is false" (.obj [])⟩)
  | object {members : List (String × Json)} {position : Position} {base : Uri} {node : Node} :
      schemaBase (.obj members) position.base = .ok base →
      ObjectMakes B R env members { position with base } node →
      SchemaMakes (.obj members) position node

end

/-! ## Entries of the list of procedures -/

/-- An entry for a target, opened or filled. -/
def Procedure.fill (q : Procedure) (body : Node) : Procedure := { q with body := some body }

/-- Filling an entry that was opened behind a list leaves the list in front alone. -/
theorem prefix_modify {procedures mid : List Procedure} {q : Procedure} {f : Procedure → Procedure}
    (h : procedures ++ [q] <+: mid) : procedures <+: mid.modify procedures.length f := by
  obtain ⟨rest, rfl⟩ := h
  refine ⟨f q :: rest, ?_⟩
  rw [List.modify_eq_take_cons_drop (by simp)]
  simp

theorem getElem?_of_prefix {procedures later : List Procedure} {i : Nat} {q : Procedure}
    (h : procedures <+: later) (hq : procedures[i]? = some q) : later[i]? = some q := by
  obtain ⟨rest, rfl⟩ := h
  obtain ⟨hi, -⟩ := List.getElem?_eq_some_iff.mp hq
  rw [List.getElem?_append_left hi, hq]

theorem getElem?_fill (procedures : List Procedure) (i : Nat) (body : Node) (k : Nat) :
    (procedures.modify i (·.fill body))[k]? =
      (procedures[k]?).map fun r => if i = k then r.fill body else r :=
  List.getElem?_modify _ _ _ _

/-- Filling an entry leaves the targets alone. -/
theorem map_target_fill (procedures : List Procedure) (i : Nat) (body : Node) :
    (procedures.modify i (·.fill body)).map (·.target) = procedures.map (·.target) := by
  refine List.ext_getElem? fun j => ?_
  rw [List.getElem?_map, List.getElem?_map, List.getElem?_modify]
  cases procedures[j]? with
  | none => rfl
  | some q =>
    refine congrArg some ?_
    dsimp only
    split <;> rfl

/-- What an invariant of the procedures and a relation between schemas and bodies owe each other. -/
structure LoweringInvariant (env : Environment) (I : List Procedure → Prop)
    (B : List Procedure → BodyRel) : Prop where
  opened : ∀ {procedures target descents}, I procedures →
    (∀ q ∈ procedures, q.target.key ≠ target.key) → I (procedures ++ [⟨target, descents, none⟩])
  filled : ∀ {procedures i q body}, I procedures → procedures[i]? = some q → q.body = none →
    B procedures q.target.schema (.ofTarget q.target q.descents) body →
    I (procedures.modify i (·.fill body))
  schema : ∀ {procedures schema position node},
    SchemaMakes (B procedures) (Refers procedures env.documents) env schema position node →
    B procedures schema position node

section

open LowerM

variable {env : Environment} {members : List (String × Json)} {position : Position}
  {I : List Procedure → Prop} {B : List Procedure → BodyRel} {lower : Lower}

/-- All that a reference can do: find an entry, or open one and fill it. -/
theorem procedureOf_cases {p : KeywordPlace} {reference : String} {procedures after : List Procedure}
    {i : Nat} (h : p.procedureOf lower reference procedures = .ok (i, after)) :
    ∃ target, p.env.documents.resolve p.position.base reference = .ok target ∧
      ((after = procedures ∧ ∃ q, procedures[i]? = some q ∧ q.target.key = target.key ∧
          (q.descents = p.position.descents → q.body.isSome)) ∨
        ((∀ q ∈ procedures, q.target.key ≠ target.key) ∧ i = procedures.length ∧
          ∃ body mid,
            lower target.schema (.ofTarget target p.position.descents)
              (procedures ++ [⟨target, p.position.descents, none⟩]) = .ok (body, mid) ∧
            after = mid.modify i (·.fill body))) := by
  unfold KeywordPlace.procedureOf at h
  simp only [bind_eq_ok, liftExcept_eq_ok, get_eq_ok, and_assoc] at h
  obtain ⟨target, _, htarget, rfl, _, procedures, rfl, rfl, h⟩ := h
  refine ⟨target, htarget, ?_⟩
  cases hfound : procedures.findIdx? (·.target.key = target.key) with
  | some id =>
    obtain ⟨hid, hkey, -⟩ := List.findIdx?_eq_some_iff_getElem.mp hfound
    have hq := List.getElem?_eq_getElem hid
    simp only [hfound, hq] at h
    split at h
    -- an entry that is open at the same depth is refused
    · rw [bind_eq_ok] at h
      obtain ⟨_, _, hr, -⟩ := h
      exact absurd hr refuse_ne_ok
    · next hopen =>
      obtain ⟨rfl, hafter⟩ := pure_eq_ok.mp h
      refine Or.inl ⟨hafter, _, hq, by simpa using hkey, fun hd => ?_⟩
      simpa [hd, Option.isSome_iff_ne_none] using hopen
  | none =>
    simp only [hfound, bind_eq_ok, set_eq_ok, modify_eq_ok, pure_eq_ok] at h
    obtain ⟨_, _, rfl, body, mid, hbody, _, _, rfl, hi, hafter⟩ := h
    refine Or.inr ⟨by simpa using List.findIdx?_eq_none_iff.mp hfound, hi, body, mid, hbody, ?_⟩
    rw [hafter, hi]
    rfl

/-- **A reference leads to a procedure that is filled, or was opened elsewhere in the data**, if the
    invariant survives the entry that the reference opens and the body that fills it. -/
theorem procedureOf_made {p : KeywordPlace} {reference : String}
    (hl : ∀ target, Ensures I (lower target.schema (.ofTarget target p.position.descents))
      fun later n => B later target.schema (.ofTarget target p.position.descents) n)
    (hopened : ∀ {procedures target}, p.env.documents.resolve p.position.base reference = .ok target →
      I procedures → (∀ q ∈ procedures, q.target.key ≠ target.key) →
      I (procedures ++ [⟨target, p.position.descents, none⟩]))
    (hfilled : ∀ {procedures i q body}, I procedures → procedures[i]? = some q → q.body = none →
      B procedures q.target.schema (.ofTarget q.target q.descents) body →
      I (procedures.modify i (·.fill body))) :
    Ensures I (p.procedureOf lower reference) fun later i =>
      Refers later p.env.documents p.position reference i := by
  intro procedures i after hi hm
  obtain ⟨target, htarget, h⟩ := procedureOf_cases hm
  rcases h with ⟨rfl, q, hq, hkey, hd⟩ | ⟨hnew, rfl, body, mid, hbody, rfl⟩
  · exact ⟨hi, List.prefix_rfl, fun later hle =>
      ⟨target, q, htarget, getElem?_of_prefix hle hq, hkey, hd⟩⟩
  -- lowering the target keeps the open entry where it is, so that it can be filled
  · obtain ⟨hmid, hle, hB⟩ := hl target _ _ _ (hopened htarget hi hnew) hbody
    have hopen : mid[procedures.length]? = some ⟨target, p.position.descents, none⟩ :=
      getElem?_of_prefix hle (by simp)
    have hdone := hfilled hmid hopen rfl (hB mid List.prefix_rfl)
    refine ⟨hdone, prefix_modify hle, fun later hle' => ?_⟩
    refine ⟨target, Procedure.fill ⟨target, p.position.descents, none⟩ body, htarget,
      getElem?_of_prefix hle' ?_, rfl, fun _ => rfl⟩
    rw [List.getElem?_modify_eq, hopen]
    rfl

/-! ## Lowering a schema gives what the schema can be lowered to -/

/-- The registry has the rule for a schema, and the schema a keyword for the rule. -/
def Environment.Reads (env : Environment) (members : List (String × Json)) (rule : Rule) : Prop :=
  ∃ group ∈ env.registry.groups, rule ∈ group.present members (env.onlyRef members)

/-- The text that a rule for references takes as its reference. -/
def Rule.reference (rule : Rule) (members : List (String × Json)) : String :=
  ((members.lookup rule.keyword).getD .null).str?.getD ""

/-- The reference of a rule, if it is one for references, leads to what is known of procedures. -/
def Rule.RefersTo (rule : Rule) (env : Environment) (members : List (String × Json))
    (position : Position) (I : List Procedure → Prop) (lower : Lower) (R : List Procedure → RefRel) :
    Prop :=
  ∀ data, rule.implementation = .builtin .ref →
    Ensures I ((rule.place env members position data).procedureOf lower (rule.reference members))
      fun later i => R later position (rule.reference members) i

variable {R : List Procedure → RefRel}
  (hl : ∀ schema position, Ensures I (lower schema position) fun later n => B later schema position n)

include hl

theorem Rule.implementation_made {rule : Rule} (data : Option DataRef)
    (hr : rule.RefersTo env members position I lower R) :
    Ensures I
      (match rule.implementation with
        | .builtin k => do
          return Node.conj (← (rule.place env members position data).builtin lower k)
        | .custom d => do
          return Node.conj (← (rule.place env members position data).custom lower d))
      fun later n => ∃ nodes,
        (match rule.implementation with
          | .builtin k => (rule.place env members position data).Makes (B later)
              (R later position) k nodes
          | .custom d => (rule.place env members position data).MakesCustom (B later) d nodes) ∧
        n = Node.conj nodes := by
  cases hrule : rule.implementation with
  | builtin k =>
    have hk : k = .ref → _ := fun hk => hr data (hk ▸ hrule)
    refine .bind (KeywordPlace.builtin_made hl _ k hk) fun nodes => ?_
    exact .pure fun _ h => ⟨nodes, h, rfl⟩
  | custom d =>
    refine .bind (KeywordPlace.custom_made hl _ d) fun nodes => ?_
    exact .pure fun _ h => ⟨nodes, h, rfl⟩

omit hl in
/-- The check of a literal value, with what is done after it. -/
theorem Rule.checkValue_bind {rule : Rule} {path : String} {data : Option DataRef}
    {value : Option Json} {f : Unit → LowerM Node} {Q : List Procedure → Node → Prop}
    (hf : Ensures I (f ()) Q) :
    Ensures I
      (match (data, value) with
        | (none, some v) => liftExcept (rule.checkValue path v) >>= f
        | _ => f ())
      fun later n =>
        (∀ v, data = none → value = some v → rule.checkValue path v = .ok ()) ∧ Q later n := by
  cases data with
  | some r => exact hf.weaken fun _ _ hq => ⟨fun _ h => (nomatch h), hq⟩
  | none =>
    cases value with
    | none => exact hf.weaken fun _ _ hq => ⟨fun _ _ h => (nomatch h), hq⟩
    | some v =>
      refine .bind (.liftExcept _) fun _ => hf.weaken fun _ _ hq hcheck => ⟨fun v' _ hv => ?_, hq⟩
      cases hv
      exact hcheck

theorem Rule.lower_made {rule : Rule} (hr : rule.RefersTo env members position I lower R) :
    Ensures I (rule.lower lower env members position) fun later n =>
      rule.Makes (B later) (R later) env members position n := by
  unfold Rule.lower Rule.Makes
  refine .bind (.liftExcept _) fun data => ?_
  refine (Rule.checkValue_bind (Rule.implementation_made hl data hr)).weaken ?_
  rintro later n ⟨hcheck, nodes, hmakes, hn⟩ hdata
  exact ⟨data, nodes, hdata, hcheck, hmakes, hn⟩

theorem RuleGroup.lower_made {onlyRef : Bool} {group : RuleGroup}
    (hr : ∀ rule ∈ group.present members onlyRef, rule.RefersTo env members position I lower R) :
    Ensures I (group.lower lower env members position onlyRef) fun later n =>
      group.Makes (B later) (R later) env members position onlyRef n := by
  refine .bind (.mapM fun rule hrule => Rule.lower_made hl (hr rule hrule)) fun nodes => ?_
  exact .pure fun _ h => ⟨nodes, h, rfl⟩

theorem lowerObjectOf_made {groups : GroupChoice} (hgroups : groups.Within env.registry)
    (hr : ∀ rule, env.Reads members rule → rule.RefersTo env members position I lower R) :
    Ensures I (lowerObjectOf groups lower env members position) fun later n =>
      ObjectMakesOf (B later) (R later) env members position groups n := by
  have hmade : ∀ declared : Option (List DataType), Ensures I
      (do
        let nodes ← (groups declared).mapM (RuleGroup.lower lower env members position (env.onlyRef members))
        return Node.conj ((declared.map (typeNode position.schemaPath members)).toList ++ nodes))
      fun later n => ∃ nodes, List.Forall₂
        (RuleGroup.Makes (B later) (R later) env members position (env.onlyRef members))
          (groups declared) nodes ∧
        n = Node.conj ((declared.map (typeNode position.schemaPath members)).toList ++ nodes) := by
    intro declared
    refine .bind (.mapM fun group hgroup => RuleGroup.lower_made hl fun rule hrule => ?_) fun nodes =>
      .pure fun _ h => ⟨nodes, h, rfl⟩
    exact hr rule ⟨group, hgroups declared group hgroup, hrule⟩
  unfold lowerObjectOf ObjectMakesOf
  split
  · refine .bind (Q := fun _ declared => declared = none) (.pure fun _ => rfl) fun declared => ?_
    exact (hmade declared).weaken fun _ _ ⟨nodes, h, hn⟩ hdeclared =>
      ⟨declared, nodes, hdeclared, h, hn⟩
  · refine .bind (.liftExcept _) fun _ => .bind (.liftExcept _) fun declared => ?_
    exact (hmade declared).weaken fun _ _ ⟨nodes, h, hn⟩ hdeclared hkeywords =>
      ⟨declared, nodes, ⟨hkeywords, hdeclared⟩, h, hn⟩

theorem lowerObject_made
    (hr : ∀ rule, env.Reads members rule → rule.RefersTo env members position I lower R) :
    Ensures I (lowerObject lower env members position) fun later n =>
      ObjectMakes (B later) (R later) env members position n :=
  lowerObjectOf_made hl env.registry.concernedGroups_within hr

omit hl in
/-- **The induction over lowering.** -/
theorem lowerSchema_made (L : LoweringInvariant env I B) : ∀ budget schema position,
    Ensures I (lowerSchema env budget schema position) fun later n => B later schema position n := by
  intro budget
  induction budget with
  | zero => exact fun schema position => .refuse
  | succ budget ih =>
    intro schema position
    cases schema with
    | bool allowed =>
      cases allowed with
      | true => exact .pure fun _ => L.schema .always
      | false => exact .pure fun _ => L.schema .never
    | obj members =>
      refine .bind (.liftExcept _) fun base => ?_
      have hr : ∀ rule : Rule, rule.RefersTo env members { position with base } I
          (lowerSchema env budget) fun later => Refers later env.documents :=
        fun rule data _ => procedureOf_made (fun target => ih _ _) (fun _ => L.opened) L.filled
      exact (lowerObject_made ih fun rule _ => hr rule).weaken fun _ _ h hbase => L.schema (.object hbase h)
    | _ => exact .refuse

end

/-! ## Compiled programs -/

/-- The keywords and formats of draft-07, no options, no documents. -/
def Surroundings.plain : Surroundings := ⟨.withBuiltins, {}, .builtin, .empty⟩

/-- The same with values from the data. -/
def Surroundings.withData : Surroundings := { Surroundings.plain with options := { data := true } }

/-- What a compiler lends to lowering, among documents. -/
def Surroundings.among (s : Surroundings) (documents : Documents) : Environment :=
  ⟨s.registry, s.options, s.formats, documents⟩

/-- What compiling a schema knows before it forgets where the procedures were opened. -/
def lowerProgram (s : Surroundings) (schema : Json) : Except SchemaError (Node × List Procedure) := do
  let base ← schemaBase schema defaultBase
  let documents ← Documents.visibleFrom schema base s.cache
  lowerSchema ⟨s.registry, s.options, s.formats, documents⟩ (loweringBudget schema documents) schema
    ⟨"#", "", 0, base, 0⟩ []

/-- The program of a root and a list of procedures. -/
def Program.ofLowered (lowered : Node × List Procedure) : Program where
  root := lowered.1
  procedures := lowered.2.map (·.body.getD .pass)

theorem compileProgram_eq (s : Surroundings) (schema : Json) :
    compileProgram s schema = (lowerProgram s schema).map Program.ofLowered := by
  unfold compileProgram lowerProgram
  simp only [bind, Except.bind]
  cases schemaBase schema defaultBase with
  | error e => rfl
  | ok base =>
    dsimp only
    cases Documents.visibleFrom schema base s.cache with
    | error e => rfl
    | ok documents =>
      dsimp only
      cases lowerSchema _ _ _ _ _ <;> rfl

/-- All that success says: the documents can be filed, and the root can be lowered among them. -/
theorem lowerProgram_eq_ok {s : Surroundings} {schema : Json} {lowered : Node × List Procedure} :
    lowerProgram s schema = .ok lowered ↔ ∃ base documents, schemaBase schema defaultBase = .ok base ∧
      Documents.visibleFrom schema base s.cache = .ok documents ∧
      lowerSchema ⟨s.registry, s.options, s.formats, documents⟩ (loweringBudget schema documents) schema
        ⟨"#", "", 0, base, 0⟩ [] = .ok lowered := by
  unfold lowerProgram
  simp only [bind, Except.bind]
  cases schemaBase schema defaultBase with
  | error e => simp
  | ok base =>
    cases hdocuments : Documents.visibleFrom schema base s.cache with
    | error e => simp [hdocuments]
    | ok documents => simp [hdocuments]

theorem compileSchema_eq (s : Surroundings) (schema : Json) :
    compileSchema s schema =
      (lowerProgram s schema).map fun lowered => ⟨.ofLowered lowered, s.options.allErrors⟩ := by
  unfold compileSchema
  rw [compileProgram_eq]
  cases lowerProgram s schema <;> rfl

theorem compileSchema_eq_ok {s : Surroundings} {schema : Json} {validator : Validator} :
    compileSchema s schema = .ok validator ↔ ∃ lowered, lowerProgram s schema = .ok lowered ∧
      validator = ⟨.ofLowered lowered, s.options.allErrors⟩ := by
  rw [compileSchema_eq]
  cases lowerProgram s schema with
  | error e => simp [Except.map]
  | ok lowered => simp [Except.map, eq_comm]

theorem lowerProgram_made {I : List Procedure → Prop} {B : List Procedure → BodyRel}
    {s : Surroundings} {schema : Json} {root : Node} {procedures : List Procedure}
    (L : ∀ documents, LoweringInvariant ⟨s.registry, s.options, s.formats, documents⟩ I B) (hnil : I [])
    (h : lowerProgram s schema = .ok (root, procedures)) :
    I procedures ∧ ∃ base, B procedures schema ⟨"#", "", 0, base, 0⟩ root := by
  obtain ⟨base, documents, -, -, hlowered⟩ := lowerProgram_eq_ok.mp h
  obtain ⟨hi, -, hb⟩ := lowerSchema_made (L documents) _ _ _ _ _ _ hnil hlowered
  exact ⟨hi, base, hb procedures List.prefix_rfl⟩

/-! ## Properties of bodies -/

/-- Every entry that is filled has a body with `P`. -/
def EntriesHave (P : Node → Prop) (procedures : List Procedure) : Prop :=
  ∀ q ∈ procedures, ∀ body, q.body = some body → P body

theorem EntriesHave.opened {P : Node → Prop} {procedures : List Procedure} (h : EntriesHave P procedures)
    (target : Target) (descents : Nat) : EntriesHave P (procedures ++ [⟨target, descents, none⟩]) := by
  refine List.forall_mem_append.mpr ⟨h, List.forall_mem_singleton.mpr fun body hbody => ?_⟩
  cases hbody

theorem EntriesHave.filled {P : Node → Prop} {procedures : List Procedure} (h : EntriesHave P procedures)
    {i : Nat} {body : Node} (hb : P body) : EntriesHave P (procedures.modify i (·.fill body)) := by
  intro q hq other hother
  obtain ⟨k, hk⟩ := List.getElem?_of_mem hq
  rw [getElem?_fill] at hk
  obtain ⟨q₀, hq₀, rfl⟩ := Option.map_eq_some_iff.mp hk
  split at hother
  · cases hother
    exact hb
  · exact h q₀ (List.mem_of_getElem? hq₀) other hother

/-- What is known of all bodies alike asks nothing of where they stand. -/
theorem LoweringInvariant.of_bodies {env : Environment} {P : Node → Prop}
    (hmade : ∀ {R schema position n}, SchemaMakes (fun _ _ => P) R env schema position n → P n) :
    LoweringInvariant env (EntriesHave P) fun _ _ _ => P where
  opened h _ := h.opened _ _
  filled h _ _ hb := h.filled hb
  schema h := hmade h

/-- **What holds of everything that a schema is lowered to holds of a compiled program.** -/
theorem compileSchema_bodies {P : Node → Prop} (hpass : P .pass) {s : Surroundings}
    (hmade : ∀ {documents R schema position n},
      SchemaMakes (fun _ _ => P) R (s.among documents) schema position n → P n)
    {schema : Json} {validator : Validator} (h : compileSchema s schema = .ok validator) :
    P validator.program.root ∧ ∀ body ∈ validator.program.procedures, P body := by
  obtain ⟨⟨root, procedures⟩, hlowered, rfl⟩ := compileSchema_eq_ok.mp h
  obtain ⟨hentries, base, hroot⟩ := lowerProgram_made
    (fun _ => .of_bodies hmade)
    (fun _ hq => absurd hq List.not_mem_nil) hlowered
  refine ⟨hroot, fun body hbody => ?_⟩
  obtain ⟨q, hq, rfl⟩ := List.mem_map.mp hbody
  cases hfilled : q.body with
  -- an entry that stayed open became `pass`
  | none => exact hpass
  | some body => exact hentries q hq body hfilled

end JsonSchema
