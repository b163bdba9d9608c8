import JsonSchema.Proofs.Draft7.Agreement
import JsonSchema.Proofs.Lowering.Visits
import JsonSchema.Proofs.Reference.Transcription

/-!
# Objects with their references replaced

From keywords to rules, groups and objects.  An object without a reference is lowered rule by rule, on
both sides by the same rules, as replacing keeps the names of members (`ObjectMakes.transcribed`).  An
object with a reference is lowered to nothing but calls (`ObjectMakes.calls`), and is compared with what
the schema it refers to is lowered to.
-/

set_option autoImplicit false

namespace JsonSchema

open Node LowerM

/-! ## What is asked of a registry -/

/-- The registry reads `$ref` as draft-07 does, and the members of the document's schemas with keywords
of draft-07 only. -/
structure Registry.ReadsDraft7 (r : Registry) (root : Json) : Prop where
  hasRule : r.hasRule "$ref" = true
  reference : ∃ group ∈ r.groups, group.appliesTo = none ∧ Rule.ofBuiltin .ref ∈ group.rules
  builtin : ∀ members, Reached root (.obj members) → ∀ group ∈ r.groups, ∀ rule ∈ group.rules,
    rule.isPresent members = true → ∃ k, rule = .ofBuiltin k ∧ (k = .ref → group.appliesTo = none)

/-- The registry of draft-07 does so for every document. -/
theorem Registry.withBuiltins_readsDraft7 (root : Json) : withBuiltins.ReadsDraft7 root := by
  have hlast : ∀ listed ∈ BuiltinKeyword.groups, .ref ∈ listed.2 → listed.1 = none := by decide
  refine ⟨by decide +kernel, ?_, fun members _ group hgroup rule hrule _ => ?_⟩
  · have hlisted : ∃ listed ∈ BuiltinKeyword.groups, .ref ∈ listed.2 := by decide
    obtain ⟨listed, hmem, href⟩ := hlisted
    obtain ⟨group, hgroup, htype, hrules⟩ := exists_left_of_forall₂ withBuiltins_groups listed hmem
    refine ⟨group, hgroup, htype.trans (hlast listed hmem href), ?_⟩
    rw [hrules]
    exact List.mem_map_of_mem href
  · obtain ⟨listed, hmem, htype, hrules⟩ := exists_left_of_forall₂ withBuiltins_groups.flip group hgroup
    rw [hrules] at hrule
    obtain ⟨k, hk, rfl⟩ := List.mem_map.mp hrule
    refine ⟨k, rfl, ?_⟩
    rintro rfl
    exact htype.trans (hlast listed hmem hk)

/-! ## Members -/

section

variable {T : Json → Json → Prop} {members members' : List (String × Json)}

/-- Rules do not tell the members before and after apart. -/
theorem Rule.isPresent_replaced (h : MembersInlined T members members') (rule : Rule) :
    rule.isPresent members' = rule.isPresent members := by
  unfold Rule.isPresent
  congr 1
  funext name
  rcases h.lookup name with ⟨hnone, hnone'⟩ | ⟨v, v', hv, hv', -⟩
  · rw [hnone, hnone']
  · rw [hv, hv']
    rfl

theorem RuleGroup.present_replaced (h : MembersInlined T members members') (group : RuleGroup)
    (onlyRef : Bool) : group.present members' onlyRef = group.present members onlyRef := by
  unfold RuleGroup.present
  refine List.filter_congr fun rule _ => ?_
  rw [rule.isPresent_replaced h]

theorem checkKeywords_replaced (h : MembersInlined T members members') {env env' : Environment}
    {path path' : String} (hregistry : env'.registry = env.registry)
    (hoptions : env'.options = env.options) (hok : env.checkKeywords path members = .ok ()) :
    env'.checkKeywords path' members' = .ok () := by
  unfold Environment.checkKeywords at hok ⊢
  rw [hregistry, hoptions]
  induction h with
  | nil => rfl
  | @cons m m' rest rest' hm _ ih =>
    rw [List.find?_cons] at hok ⊢
    rw [hm.1]
    cases hknown : !env.registry.isKnown m.1 with
    | false =>
      rw [hknown] at hok
      exact ih hok
    | true =>
      rw [hknown] at hok
      dsimp only at hok ⊢
      split at hok
      · cases hok
      · next hstrict => rw [if_neg hstrict]

theorem declaredTypes_replaced (h : MembersInlined T members members') {path path' : String}
    {declared : Option (List DataType)} (hok : declaredTypes path members = .ok declared) :
    declaredTypes path' members' = .ok declared := by
  unfold declaredTypes at hok ⊢
  rw [h.lookup_eq (by decide) (by decide)]
  cases hlookup : members.lookup "type" with
  | none =>
    rw [hlookup] at hok
    exact hok
  | some value =>
    rw [hlookup] at hok
    dsimp only at hok ⊢
    cases htypes : DataType.ofJson? value with
    | none =>
      rw [htypes] at hok
      cases hok
    | some types =>
      rw [htypes] at hok
      exact hok

end

/-! ## Values of keywords -/

section

variable {T : Json → Json → Prop} {B : BodyRel} {lower : Lower}
  {call call' : Nat → Location → Run} {failFast : Bool} {k : BuiltinKeyword} {v v' : Json}

/-- A value that a keyword's type allows is replaced by one that it allows. -/
theorem ValueInlined.anyAccepts (t : Transcript T B lower call call' failFast)
    (h : ValueInlined T k.name v v') (hv : DataType.anyAccepts k.schemaTypes v = true) :
    DataType.anyAccepts k.schemaTypes v' = true := by
  unfold ValueInlined at h
  split at h
  · rcases h with ⟨ms, ms', rfl, rfl, -⟩ | ⟨-, rfl⟩
    · cases k <;> exact hv
    · exact hv
  · split at h
    · next hkeyword =>
      rcases h with ⟨ss, ss', rfl, rfl, -⟩ | ⟨-, ht⟩
      · cases k <;> exact hv
      · have hkind : v.isSchema = true → v'.isSchema = true := t.schema ht
        have hleaf : v.obj? = none → v' = v := t.leaf ht
        cases v with
        | obj ms =>
          have hschema := hkind rfl
          cases v' with
          | bool _ | obj _ => cases k <;> first | exact hv | exact absurd hkeyword (by decide)
          | _ => cases hschema
        | _ => exact hleaf rfl ▸ hv
    · exact h ▸ hv

/-- Where the value is taken from does not depend on the place in the schema. -/
theorem Rule.dataRef_eq_ok {rule : Rule} {options : Options} {path path' : String} {value : Option Json}
    {data : Option DataRef} (h : rule.dataRef options path value = .ok data) :
    rule.dataRef options path' value = .ok data := by
  unfold Rule.dataRef at h ⊢
  cases hpointer : value.bind DataRef.pointerOf? with
  | none =>
    rw [hpointer] at h
    exact h
  | some pointer =>
    rw [hpointer] at h
    dsimp only at h ⊢
    split
    · next hallowed =>
      rw [if_pos hallowed] at h
      cases hparse : DataRef.parse? pointer with
      | none =>
        rw [hparse] at h
        cases h
      | some r =>
        rw [hparse] at h
        exact h
    · next hallowed =>
      rw [if_neg hallowed] at h
      exact h

theorem Rule.dataRef_of_literal {options : Options} {path : String} {value : Option Json}
    (hk : k.allowsData = false) : (Rule.ofBuiltin k).dataRef options path value = .ok none := by
  have hallowed : (Rule.ofBuiltin k).allowsData = false := hk
  unfold Rule.dataRef
  rw [hallowed, Bool.false_and]
  cases value.bind DataRef.pointerOf? <;> rfl

/-- Schemas are never taken from the data. -/
theorem allowsData_of_schemas (hk : k.name ∈ schemaMapKeywords ∨ k.name ∈ schemaKeywords) :
    k.allowsData = false := by
  cases k <;> first | rfl | exact absurd hk (by decide)

theorem Rule.checkValue_of_anyAccepts {path : String}
    (h : DataType.anyAccepts k.schemaTypes v = true) : (Rule.ofBuiltin k).checkValue path v = .ok () := by
  have haccepts : DataType.anyAccepts (Rule.ofBuiltin k).schemaTypes v = true := h
  unfold Rule.checkValue
  rw [haccepts]
  rfl

/-! ## Rules -/

variable {env : Environment} {documents : Documents} {members members' : List (String × Json)}
  {position : Position} {R : RefRel} {node : Node}

theorem Rule.dataRef_replaced (h : MembersInlined T members members') {path path' : String}
    {data : Option DataRef}
    (hdata : (Rule.ofBuiltin k).dataRef env.options path (members.lookup k.name) = .ok data) :
    (Rule.ofBuiltin k).dataRef env.options path' (members'.lookup k.name) = .ok data := by
  by_cases hk : k.name ∈ schemaMapKeywords ∨ k.name ∈ schemaKeywords
  · rw [Rule.dataRef_of_literal (allowsData_of_schemas hk)] at hdata ⊢
    exact hdata
  · rw [not_or] at hk
    rw [h.lookup_eq hk.1 hk.2]
    exact Rule.dataRef_eq_ok hdata

theorem Rule.place_replaced (h : MembersInlined T members members') (data : Option DataRef)
    (position' : Position) :
    KeywordPlace.Replaced T k ((Rule.ofBuiltin k).place env members position data)
      ((Rule.ofBuiltin k).place (env.among documents) members' position' data) where
  parent := h
  schema := by
    show (((members.lookup k.name).getD .null) = .null ∧ ((members'.lookup k.name).getD .null) = .null) ∨
      ValueInlined T k.name ((members.lookup k.name).getD .null) ((members'.lookup k.name).getD .null)
    rcases h.lookup k.name with ⟨hnone, hnone'⟩ | ⟨v, v', hv, hv', hvalue⟩
    · rw [hnone, hnone']
      exact .inl ⟨rfl, rfl⟩
    · rw [hv, hv']
      exact .inr hvalue
  data := rfl
  expects := rfl
  options := rfl
  formats := rfl

/-- The check of a literal value that passes, with what is done after it. -/
theorem Rule.checkValue_gives {rule : Rule} {path : String} {data : Option DataRef}
    {value : Option Json} {f : Unit → LowerM Node} {Q : Node → Prop}
    (hcheck : ∀ v, data = none → value = some v → rule.checkValue path v = .ok ()) (hf : Gives (f ()) Q) :
    Gives
      (match (data, value) with
        | (none, some v) => liftExcept (rule.checkValue path v) >>= f
        | _ => f ()) Q := by
  cases data with
  | some r => exact hf
  | none =>
    cases value with
    | none => exact hf
    | some v => exact .bind (.liftExcept (Q := fun _ => True) (hcheck v rfl rfl) trivial) fun _ _ => hf

theorem Rule.Makes.transcribed (t : Transcript T B lower call call' failFast)
    (hm : MembersInlined T members members') (hk : k ≠ .ref)
    (h : (Rule.ofBuiltin k).Makes B R env members position node) (position' : Position) :
    Gives ((Rule.ofBuiltin k).lower lower (env.among documents) members' position')
      (Alike call call' failFast node) := by
  obtain ⟨data, nodes, hdata, hcheck, hmakes, rfl⟩ := h
  unfold Rule.lower
  refine .bind (.liftExcept (Q := (data = ·)) (Rule.dataRef_replaced hm hdata) rfl) ?_
  rintro _ rfl
  refine Rule.checkValue_gives (fun v' hnone hv' => ?_) ?_
  · rcases hm.lookup k.name with ⟨-, hnone'⟩ | ⟨v, w, hv, hw, hvalue⟩
    · cases hnone'.symm.trans hv'
    · obtain rfl := Option.some.inj (hw.symm.trans hv')
      have haccepts := Rule.anyAccepts_of_checkValue (hcheck v hnone hv)
      exact Rule.checkValue_of_anyAccepts (hvalue.anyAccepts t haccepts)
  · have hplace : KeywordPlace.Replaced T k ((Rule.ofBuiltin k).place env members position data)
        ((Rule.ofBuiltin k).place (env.among documents) members' position' data) :=
      Rule.place_replaced hm data position'
    exact .bind (KeywordPlace.Makes.transcribed t hk hplace hmakes) fun _ h => .pure h.conj

/-! ## Groups -/

theorem RuleGroup.alike_around (group : RuleGroup) {body body' : Node}
    (h : Alike call call' failFast body body') :
    Alike call call' failFast (group.around body) (group.around body') := by
  intro l
  rw [RuleGroup.run_around, RuleGroup.run_around]
  cases group.appliesTo with
  | none => exact h l
  | some concerned =>
    dsimp only
    split
    · exact h l
    · exact .pass

theorem RuleGroup.Makes.transcribed (t : Transcript T B lower call call' failFast)
    (hm : MembersInlined T members members') {group : RuleGroup} {onlyRef : Bool}
    (hbuiltin : ∀ rule ∈ group.present members onlyRef, ∃ k, rule = .ofBuiltin k ∧ k ≠ .ref)
    (h : group.Makes B R env members position onlyRef node) (position' : Position) :
    Gives (group.lower lower (env.among documents) members' position' onlyRef)
      (Alike call call' failFast node) := by
  obtain ⟨nodes, hrules, rfl⟩ := h
  have hlowered : List.Forall₂
      (fun rule n => Gives (rule.lower lower (env.among documents) members' position')
        (Alike call call' failFast n))
      (group.present members' onlyRef) nodes := by
    rw [group.present_replaced hm]
    generalize group.present members onlyRef = rules at hbuiltin hrules
    induction hrules with
    | nil => exact .nil
    | cons hmakes _ ih =>
      obtain ⟨⟨k, rfl, hk⟩, hrest⟩ := List.forall_mem_cons.mp hbuiltin
      exact .cons (hmakes.transcribed t hm hk position') (ih hrest)
  refine .bind (.mapM hlowered) fun nodes' hnodes => .pure ?_
  exact group.alike_around (AllAlike.of_forall₂ hnodes).conj

/-! ## Objects without a reference -/

/-- The rules that are read without a reference. -/
theorem Registry.ReadsDraft7.reads_builtin {root : Json} (hr : env.registry.ReadsDraft7 root)
    (hmembers : Reached root (.obj members)) (hnone : members.lookup "$ref" = none) :
    ∀ group ∈ env.registry.groups, ∀ rule ∈ group.present members false,
      ∃ k, rule = .ofBuiltin k ∧ k ≠ .ref := by
  intro group hgroup rule hrule
  obtain ⟨hrule, hpresent⟩ := List.mem_filter.mp hrule
  rw [Bool.and_eq_true] at hpresent
  obtain ⟨k, rfl, -⟩ := hr.builtin members hmembers group hgroup rule hrule hpresent.1
  refine ⟨k, rfl, ?_⟩
  rintro rfl
  simp [Rule.isPresent, Rule.ofBuiltin, BuiltinKeyword.name, BuiltinKeyword.implements, hnone] at hpresent

/-- **An object without a reference and its replacement are lowered to nodes that are alike**, if their
    subschemas are. -/
theorem ObjectMakes.transcribed {root : Json} (hr : env.registry.ReadsDraft7 root)
    (hmembers : Reached root (.obj members)) (hnone : members.lookup "$ref" = none)
    (t : Transcript T B lower call call' failFast) (hm : MembersInlined T members members')
    (h : ObjectMakes B R env members position node) (position' : Position) :
    Gives (lowerObject lower (env.among documents) members' position')
      (Alike call call' failFast node) := by
  obtain ⟨declared, nodes, hdeclared, hgroups, rfl⟩ := h
  have hnone' : members'.lookup "$ref" = none := by rw [hm.lookup_eq (by decide) (by decide), hnone]
  have honly : env.onlyRef members = false := by simp [Environment.onlyRef, hnone]
  rw [honly, if_neg Bool.false_ne_true] at hdeclared
  rw [honly] at hgroups
  unfold lowerObject
  rw [hnone']
  refine .bind (.liftExcept (Q := fun _ => True) (checkKeywords_replaced hm rfl rfl hdeclared.1) trivial)
    fun _ _ => ?_
  refine .bind (.liftExcept (Q := (declared = ·)) (declaredTypes_replaced hm hdeclared.2) rfl) ?_
  rintro _ rfl
  have hbuiltin := hr.reads_builtin hmembers hnone
  have hlowered : List.Forall₂
      (fun group n => Gives (RuleGroup.lower lower (env.among documents) members' position' false group)
        (Alike call call' failFast n))
      (env.registry.groups.filter (·.concerns declared)) nodes := by
    have hbuiltin : ∀ group ∈ env.registry.groups.filter (·.concerns declared), _ :=
      fun group hgroup => hbuiltin group (List.mem_of_mem_filter hgroup)
    generalize env.registry.groups.filter (·.concerns declared) = groups at hbuiltin hgroups
    induction hgroups with
    | nil => exact .nil
    | cons hmakes _ ih =>
      obtain ⟨hfirst, hrest⟩ := List.forall_mem_cons.mp hbuiltin
      exact .cons (hmakes.transcribed t hm hfirst position') (ih hrest)
  refine .bind (.mapM hlowered) fun nodes' hnodes => .pure ?_
  have htypes : AllAlike call call' failFast (declared.map (typeNode position.schemaPath members)).toList
      (declared.map (typeNode position'.schemaPath members')).toList := by
    cases declared with
    | none => exact .nil
    | some types => exact Alike.single (.type types _ _)
  exact (htypes.append (.of_forall₂ hnodes)).conj

/-! ## Objects with a reference -/

/-- The rule of `$ref` contributes a call. -/
theorem Rule.Makes.exists_call (hsome : (members.lookup "$ref").isSome)
    (h : (Rule.ofBuiltin .ref).Makes B R env members position node) :
    ∃ reference i, members.lookup "$ref" = some (.str reference) ∧ R position reference i ∧
      node = .call i := by
  obtain ⟨data, nodes, hdata, hcheck, hmakes, rfl⟩ := h
  obtain ⟨v, hv⟩ := Option.isSome_iff_exists.mp hsome
  rw [Rule.dataRef_of_literal rfl] at hdata
  obtain rfl := Except.ok.inj hdata
  have htext := Rule.anyAccepts_of_checkValue (hcheck v rfl hv)
  cases v with
  | str reference =>
    obtain ⟨i, hi, rfl⟩ := hmakes
    refine ⟨reference, i, hv, ?_, rfl⟩
    have hvalue : (((Rule.ofBuiltin .ref).place env members position none).schema.str?.getD "") =
        reference := by
      show (((members.lookup "$ref").getD .null).str?.getD "") = reference
      rw [hv]
      rfl
    rwa [hvalue] at hi
  | _ => cases htext

/-- The rules that are read beside a reference are rules for references, and concern all data. -/
theorem Registry.ReadsDraft7.reads_ref {root : Json} (hr : env.registry.ReadsDraft7 root)
    (hmembers : Reached root (.obj members)) : ∀ group ∈ env.registry.groups,
      ∀ rule ∈ group.present members true, rule = .ofBuiltin .ref ∧ group.appliesTo = none := by
  intro group hgroup rule hrule
  obtain ⟨hrule, hpresent⟩ := List.mem_filter.mp hrule
  rw [Bool.and_eq_true] at hpresent
  obtain ⟨k, rfl, htype⟩ := hr.builtin members hmembers group hgroup rule hrule hpresent.1
  have hname : k.name = "$ref" := by simpa [Rule.ofBuiltin] using hpresent.2
  have hk : k = .ref := by cases k <;> first | rfl | exact absurd hname (by decide)
  exact ⟨hk ▸ rfl, htype hk⟩

section

variable {reference : String} {n' : Node}

theorem RuleGroup.Makes.calls {group : RuleGroup} (href : members.lookup "$ref" = some (.str reference))
    (hrules : ∀ rule ∈ group.present members true, rule = .ofBuiltin .ref ∧ group.appliesTo = none)
    (hsame : ∀ i, R position reference i → Alike call call' failFast (.call i) n')
    (h : group.Makes B R env members position true node) :
    (group.present members true = [] → node = .pass) ∧
      (group.present members true ≠ [] → Alike call call' failFast node n') := by
  obtain ⟨nodes, hmade, rfl⟩ := h
  have hcalls : ∀ n ∈ nodes, Alike call call' failFast n n' := by
    intro n hn
    obtain ⟨rule, hrule, hmakes⟩ := exists_left_of_forall₂ hmade n hn
    obtain ⟨rfl, -⟩ := hrules rule hrule
    obtain ⟨reference', i, href', hi, rfl⟩ := hmakes.exists_call (by rw [href]; rfl)
    obtain rfl : reference = reference' := by
      rw [href] at href'
      exact Json.str.inj (Option.some.inj href')
    exact hsame i hi
  constructor
  · intro hempty
    rw [hempty] at hmade
    cases hmade
    unfold RuleGroup.around
    cases group.appliesTo <;> rfl
  · intro hne
    obtain ⟨rule, hrule⟩ := List.exists_mem_of_ne_nil _ hne
    obtain ⟨n, hn, -⟩ := exists_left_of_forall₂ hmade.flip rule hrule
    unfold RuleGroup.around
    rw [(hrules rule hrule).2]
    exact .conj_of_each (fun n hn => .inl (hcalls n hn)) ⟨n, hn, hcalls n hn⟩

/-- **An object with a reference is lowered to calls of the reference's procedures**: what these are
    like, the object is like. -/
theorem ObjectMakes.calls {root : Json} (hr : env.registry.ReadsDraft7 root)
    (hmembers : Reached root (.obj members)) (hsome : (members.lookup "$ref").isSome)
    (h : ObjectMakes B R env members position node) :
    ∃ reference i, members.lookup "$ref" = some (.str reference) ∧ R position reference i ∧
      ∀ (call call' : Nat → Location → Run) (failFast : Bool) (n' : Node),
        (∀ i, R position reference i → Alike call call' failFast (.call i) n') →
          Alike call call' failFast node n' := by
  obtain ⟨declared, nodes, hdeclared, hgroups, rfl⟩ := h
  have honly : env.onlyRef members = true := by rw [Environment.onlyRef, hsome, hr.hasRule]; rfl
  rw [honly, if_pos rfl] at hdeclared
  subst hdeclared
  rw [honly] at hgroups
  have hconcerns : ∀ group : RuleGroup, group.concerns none = true := by
    intro group
    unfold RuleGroup.concerns
    cases group.appliesTo <;> rfl
  rw [List.filter_eq_self.mpr fun group _ => hconcerns group] at hgroups
  -- the registry has a rule for references, and what it was lowered to names the procedure
  obtain ⟨group, hgroup, -, hrule⟩ := hr.reference
  have hpresent : Rule.ofBuiltin .ref ∈ group.present members true := by
    refine List.mem_filter.mpr ⟨hrule, ?_⟩
    simp [Rule.isPresent, Rule.ofBuiltin, BuiltinKeyword.name, hsome]
  obtain ⟨n, hn, hmakes⟩ := exists_left_of_forall₂ hgroups.flip group hgroup
  have hlowered := hmakes
  obtain ⟨rules, hrules, -⟩ := hlowered
  obtain ⟨_, -, hcall⟩ := exists_left_of_forall₂ hrules.flip _ hpresent
  obtain ⟨reference, i, href, hi, -⟩ := Rule.Makes.exists_call hsome hcall
  refine ⟨reference, i, href, hi, fun call call' failFast n' hsame => ?_⟩
  have heach : ∀ group ∈ env.registry.groups, ∀ n, group.Makes B R env members position true n →
      (group.present members true = [] → n = .pass) ∧
        (group.present members true ≠ [] → Alike call call' failFast n n') :=
    fun group hgroup n hmakes => hmakes.calls href (hr.reads_ref hmembers group hgroup) hsame
  refine .conj_of_each (fun n hn => ?_) ⟨n, by simpa using hn, ?_⟩
  · obtain ⟨group, hgroup, hmakes⟩ := exists_left_of_forall₂ hgroups n (by simpa using hn)
    obtain ⟨hempty, hcalls⟩ := heach group hgroup n hmakes
    by_cases hnone : group.present members true = []
    · exact .inr (hempty hnone)
    · exact .inl (hcalls hnone)
  · exact (heach group hgroup n hmakes).2 (List.ne_nil_of_mem hpresent)

end

end

end JsonSchema
