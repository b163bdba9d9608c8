import JsonSchema.Compiler.Keywords
import JsonSchema.Proofs.Evaluation.Answers
import JsonSchema.Proofs.Evaluation.Meaning
import JsonSchema.Proofs.Json.Pointers
import JsonSchema.Proofs.Lowering.Again
import JsonSchema.Proofs.Lowering.KeywordCode
import JsonSchema.Proofs.Registry.BuiltinRules

/-!
# What passes the schema of references into the data

A value that passes a schema is of the types that the schema declares, and passes what each rule contributes
whose group concerns it (`passes_contributed`), whatever other rules there are.  So if `required` and
`properties` are read as in draft-07, **nothing passes the schema of references into the data but the objects
whose only member is a text under `$data`** (`isDataReference_of_passes`), though custom keywords may refuse
some of these as well.
-/

set_option autoImplicit false

namespace JsonSchema

open LowerM

/-! ## What passes an object -/

theorem Run.Decides.of_passes {r : Run} {φ : Prop} (h : Run.Decides r φ) (hpass : r.Passes) : φ := by
  obtain ⟨errors, after, hr⟩ := hpass
  obtain ⟨valid, _, hvalid, hiff⟩ := h errors
  obtain ⟨rfl, -⟩ := Prod.mk.inj (Option.some.inj (hvalid.symm.trans hr))
  exact hiff.mp rfl

section

variable {env : Environment} {members : List (String × Json)} {position : Position} {budget : Nat}
  {node : Node} {group : RuleGroup} {rule : Rule} {call : Nat → Location → Run} {failFast : Bool}
  {l : Location}

/-- What passes a conjunction passes each of the nodes. -/
theorem Node.passes_of_conj {nodes : List Node} (h : ((conj nodes).run call failFast l).Passes) :
    ∀ n ∈ nodes, (n.run call failFast l).Passes := by
  intro n hn
  rw [run_conj] at h
  exact h.of_every _ (List.mem_map_of_mem hn)

/-- What passes an object is of the declared types. -/
theorem passes_declared (h : (lowerSchema env budget (.obj members) position).Answers node)
    (honly : env.onlyRef members = false) {types : List DataType}
    (htypes : ∀ path, declaredTypes path members = .ok (some types))
    (hpass : (node.run call failFast l).Passes) : ∃ type ∈ types, type.accepts l.value = true := by
  obtain ⟨before, after, h⟩ := h
  cases budget with
  | zero => exact absurd h refuse_ne_ok
  | succ budget =>
    obtain ⟨base, mid, -, h⟩ := LowerM.bind_eq_ok.mp h
    obtain ⟨declared, nodes, hdeclared, -, rfl⟩ := lowerObject_answers ⟨mid, after, h⟩
    obtain rfl : declared = some types := by
      rcases hdeclared with ⟨honly', -⟩ | ⟨-, hdeclared⟩
      · cases honly.symm.trans honly'
      · rw [htypes] at hdeclared
        exact (Except.ok.inj hdeclared).symm
    have htype := Node.passes_of_conj hpass _ (List.mem_append_left _ (List.mem_singleton_self _))
    exact (Node.type_means types _ call failFast l).of_passes htype

/-- **What passes an object passes what each of its rules contributes**, if the rule's group concerns it. -/
theorem passes_contributed (h : (lowerSchema env (budget + 1) (.obj members) position).Answers node)
    (hgroup : group ∈ env.registry.groups) (hrule : rule ∈ group.present members (env.onlyRef members))
    (hconcerned : ∀ types, env.onlyRef members = false →
      declaredTypes position.schemaPath members = .ok (some types) → group.concerns (some types) = true)
    (hl : group.appliesTo.all (·.accepts l.value) = true) (hpass : (node.run call failFast l).Passes) :
    ∃ base contributed,
      (rule.lower (lowerSchema env budget) env members { position with base }).Answers contributed ∧
      (contributed.run call failFast l).Passes := by
  obtain ⟨base, contributed, front, back, -, hcontributed, haround⟩ :=
    lowerSchema_around h hgroup hrule hconcerned
  rw [haround call failFast l hl] at hpass
  exact ⟨base, contributed, hcontributed, hpass.of_every _ (List.mem_map_of_mem (by simp))⟩

/-- What a rule contributes is made of what the subschemas are lowered to. -/
theorem Rule.makes_of_answers (h : (rule.lower (lowerSchema env budget) env members position).Answers node) :
    rule.Makes (fun s at' body => (lowerSchema env budget s at').Answers body) (fun _ _ _ => True) env
      members position node := by
  obtain ⟨before, after, h⟩ := h
  have hl : ∀ s at', Ensures (fun _ => True) (lowerSchema env budget s at') fun _ body =>
      (lowerSchema env budget s at').Answers body :=
    fun s at' procedures body after _ hbody =>
      ⟨trivial, (lowerSchema_keeps hbody).1, fun _ _ => ⟨procedures, after, hbody⟩⟩
  have hr : rule.RefersTo env members position (fun _ => True) (lowerSchema env budget)
      fun _ _ _ _ => True := by
    intro data _ procedures i after _ hi
    have hgrows := KeywordPlace.procedureOf_grows (R := fun _ _ => True) (fun _ => ⟨0, trivial⟩) _ _ _ hi
    exact ⟨trivial, hgrows.1, fun _ _ => trivial⟩
  obtain ⟨-, -, hmade⟩ := Rule.lower_made hl hr _ _ _ trivial h
  exact hmade after List.prefix_rfl

/-- **What passes an object passes each of its keywords** that is for data of one type in draft-07 and read as
    there. -/
theorem passes_builtin (hr : env.registry.Coherent) (hplaced : env.registry.Draft7Placed) {k : BuiltinKeyword}
    {type : DataType} (hlisted : ∀ listed ∈ BuiltinKeyword.groups, k ∈ listed.2 → listed.1 = some type)
    (hkeeps : env.registry.Keeps k)
    (h : (lowerSchema env (budget + 1) (.obj members) position).Answers node)
    (honly : env.onlyRef members = false) (hpresent : (Rule.ofBuiltin k).isPresent members = true)
    (hconcerned : ∀ path types, declaredTypes path members = .ok (some types) →
      types.any (·.admits type) = true)
    (hl : type.accepts l.value = true) (hpass : (node.run call failFast l).Passes) :
    ∃ base data nodes, ((Rule.ofBuiltin k).place env members { position with base } data).Makes
        (fun s at' body => (lowerSchema env budget s at').Answers body) (fun _ _ => True) k nodes ∧
      ∀ n ∈ nodes, (n.run call failFast l).Passes := by
  obtain ⟨group, hgroup, number, hmem, hdraft7⟩ := hr.exists_builtin hplaced hkeeps.hasRule hkeeps.custom
  obtain ⟨listed, hgroups, happlies, k', hk', hrule⟩ := Registry.listed_of_withBuiltins_holds hdraft7
  obtain rfl := BuiltinKeyword.ofBuiltin_injective hrule
  have happlies : group.appliesTo = some type := happlies.symm.trans (hlisted listed hgroups hk')
  have hrule : Rule.ofBuiltin k ∈ group.present members (env.onlyRef members) := by
    refine List.mem_filter.mpr ⟨List.mem_map_of_mem hmem, ?_⟩
    rw [hpresent, honly]
    rfl
  have hgroup' : ∀ types, env.onlyRef members = false →
      declaredTypes position.schemaPath members = .ok (some types) → group.concerns (some types) = true := by
    intro types _ htypes
    unfold RuleGroup.concerns
    rw [happlies]
    exact hconcerned _ types htypes
  obtain ⟨base, contributed, hcontributed, hpasses⟩ :=
    passes_contributed h hgroup hrule hgroup' (by rw [happlies]; exact hl) hpass
  obtain ⟨data, nodes, -, -, hmakes, rfl⟩ := Rule.makes_of_answers hcontributed
  exact ⟨base, data, nodes, hmakes, Node.passes_of_conj hpasses⟩

end

/-! ## What passes a keyword -/

/-- Of what parts assemble to, each part has its own share. -/
theorem Assembled.exists_made {parts : List Part} {nodes : List Node} (h : Assembled parts nodes) :
    ∀ part ∈ parts, ∃ body, part.Made body ∧ unlessPass body part.around ⊆ nodes := by
  induction h with
  | nil => exact fun part hpart => absurd hpart List.not_mem_nil
  | @cons first rest body nodes hmade _ ih =>
    refine List.forall_mem_cons.mpr ⟨⟨body, hmade, List.subset_append_left _ _⟩, fun part hpart => ?_⟩
    obtain ⟨body', hmade', hsub⟩ := ih part hpart
    exact ⟨body', hmade', List.subset_append_of_subset_right _ hsub⟩

namespace KeywordPlace

variable {p : KeywordPlace} {nodes : List Node} {call : Nat → Location → Run} {failFast : Bool} {l : Location}

/-- An object that passes `required` has what is listed. -/
theorem passes_required {names : List String} (h : p.required = .ok nodes)
    (hnames : p.schema = .arr (names.map Json.str)) (hpass : ∀ n ∈ nodes, (n.run call failFast l).Passes) :
    ∀ name ∈ names, lacks name l.value = false := by
  obtain ⟨listed, text, hlisted, rfl⟩ := required_cases h
  rw [hnames] at hlisted
  obtain rfl : names = listed :=
    List.map_injective_iff.mpr (fun _ _ => Json.str.inj) (eq_map_str_of_propertyNames hlisted)
  intro name hname
  have hchecked := hpass _ (List.mem_map_of_mem hname)
  exact (Node.check_means rfl call failFast l).of_passes hchecked

/-- An object that passes `properties` has no members but those listed, if no others are allowed, and each of
    these passes its own schema. -/
theorem passes_properties {B : BodyRel} (h : p.MakesProperties B nodes)
    (hpatterns : p.sibling? "patternProperties" = none)
    (hothers : p.sibling? "additionalProperties" = some (.bool false))
    (hpass : ∀ n ∈ nodes, (n.run call failFast l).Passes) :
    (∀ ms, l.value = .obj ms → ∀ m ∈ ms, m.1 ∈ (p.siblingMembers "properties").map Prod.fst) ∧
    ∀ m ∈ p.siblingMembers "properties", ∀ w, l.value.get? m.1 = some w → ∃ at' body, B m.2 at' body ∧
      (body.run call failFast (.child l (.key m.1) w)).Passes := by
  obtain ⟨-, patterns, named, matched, others, hregexes, hnamed, -, hrest, rfl⟩ := h
  constructor
  · intro ms hms m hm
    unfold MakesOthers at hrest
    rw [hothers] at hrest
    obtain ⟨text, rfl⟩ := hrest
    have hnone : patterns = [] := by
      unfold siblingMembers at hregexes
      rw [hpatterns] at hregexes
      exact List.forall₂_nil_left_iff.mp hregexes
    have hselected := (Node.noProperties_means _ _ call failFast l).of_passes
      (hpass _ (List.mem_append_right _ (List.mem_singleton_self _))) ms hms m hm
    rw [hnone] at hselected
    simpa [otherMembers, PropertyFilter.selects] using hselected
  · intro m hm w hw
    obtain ⟨body, hmade, hsub⟩ := hnamed.exists_made _ (List.mem_map_of_mem hm)
    refine ⟨_, body, hmade, ?_⟩
    by_cases hbody : body.isPass = true
    · cases body with
      | pass => exact ⟨[], [], rfl⟩
      | _ => cases hbody
    · have hmem : Node.descend (.key m.1) body ∈ named := by
        apply hsub
        unfold unlessPass
        rw [if_neg hbody]
        exact List.mem_singleton_self _
      have hdescend := hpass _ (List.mem_append_left _ (List.mem_append_left _ hmem))
      rw [Node.run_descend, show (Step.key m.1).child? l.value = some w from hw] at hdescend
      exact hdescend

end KeywordPlace

/-! ## References into the data -/

/-- An object whose members all have one name, which it has, has one member. -/
theorem eq_singleton_of_names {members : List (String × Json)} {name : String} {v : Json}
    (hnodup : (members.map Prod.fst).Nodup) (hnames : ∀ m ∈ members, m.1 = name)
    (hlookup : members.lookup name = some v) : members = [(name, v)] := by
  obtain ⟨front, back, rfl, -⟩ := List.lookup_eq_some_iff.mp hlookup
  refine List.eq_singleton_of_nodup hnodup.of_map (by simp) fun m hm => ?_
  exact List.inj_on_of_nodup_map hnodup hm (by simp) (hnames m hm)

/-- The members of the schema of references into the data. -/
def dataReferenceMembers : List (String × Json) := dataReferenceSchema.obj?.getD []

section

variable {env : Environment} {budget : Nat} {position : Position} {node : Node}
  {call : Nat → Location → Run} {failFast : Bool} {l : Location} (hr : env.registry.Coherent)
  (hplaced : env.registry.Draft7Placed)
  (h : (lowerSchema env (budget + 1) (.obj dataReferenceMembers) position).Answers node)
  (hpass : (node.run call failFast l).Passes)

include hr hplaced h hpass

/-- What passes it passes each of its keywords for objects. -/
theorem passes_dataReference {k : BuiltinKeyword}
    (hlisted : ∀ listed ∈ BuiltinKeyword.groups, k ∈ listed.2 → listed.1 = some .object)
    (hkeeps : env.registry.Keeps k) (hpresent : (Rule.ofBuiltin k).isPresent dataReferenceMembers = true) :
    ∃ base data nodes, ((Rule.ofBuiltin k).place env dataReferenceMembers { position with base } data).Makes
        (fun s at' body => (lowerSchema env budget s at').Answers body) (fun _ _ => True) k nodes ∧
      ∀ n ∈ nodes, (n.run call failFast l).Passes := by
  obtain ⟨type, htype, hobject⟩ :=
    @passes_declared env _ position _ node call failFast l h rfl [.object] (fun _ => rfl) hpass
  obtain rfl := List.mem_singleton.mp htype
  refine passes_builtin hr hplaced hlisted hkeeps h rfl hpresent ?_ hobject hpass
  rintro path types ⟨⟩
  rfl

/-- What passes it is an object with a member `$data`. -/
theorem dataReference_required (hrequired : env.registry.Keeps .required) :
    ∃ members w, l.value = .obj members ∧ members.lookup "$data" = some w := by
  obtain ⟨_, _, nodes, hnodes, hpassed⟩ :=
    passes_dataReference hr hplaced h hpass (k := .required) (by decide) hrequired rfl
  have hhas := @KeywordPlace.passes_required _ nodes call failFast l ["$data"] hnodes rfl hpassed "$data"
    (List.mem_singleton_self _)
  obtain ⟨type, htype, hobject⟩ :=
    @passes_declared env _ position _ node call failFast l h rfl [.object] (fun _ => rfl) hpass
  obtain rfl := List.mem_singleton.mp htype
  cases hv : l.value with
  | obj members =>
    rw [hv] at hhas
    cases hlookup : members.lookup "$data" with
    | some w => exact ⟨members, w, rfl, hlookup⟩
    | none => simp [KeywordPlace.lacks, Json.obj?, Json.get?, hlookup] at hhas
  | _ =>
    rw [hv] at hobject
    cases hobject

/-- It has no other members, and what stands there is a text. -/
theorem dataReference_properties (hproperties : env.registry.Keeps .properties) {members : List (String × Json)}
    (hv : l.value = .obj members) :
    (∀ m ∈ members, m.1 = "$data") ∧ ∀ w, members.lookup "$data" = some w → w.str?.isSome = true := by
  obtain ⟨_, _, nodes, hnodes, hpassed⟩ :=
    passes_dataReference hr hplaced h hpass (k := .properties) (by decide) hproperties rfl
  obtain ⟨hnames, hinner⟩ := KeywordPlace.passes_properties hnodes rfl rfl hpassed
  refine ⟨fun m hm => List.mem_singleton.mp (hnames members hv m hm), fun w hw => ?_⟩
  obtain ⟨at', body, hbody, hpasses⟩ := hinner _ (List.mem_singleton_self _) w (by rw [hv]; exact hw)
  obtain ⟨type, htype, hstring⟩ :=
    @passes_declared env _ at' budget body call failFast _ hbody rfl [.string] (fun _ => rfl) hpasses
  obtain rfl := List.mem_singleton.mp htype
  cases w with
  | str pointer => rfl
  | _ => cases hstring

end

/-- **Nothing passes the schema of references into the data but what reads like one.** -/
theorem isDataReference_of_passes {env : Environment} (hr : env.registry.Coherent)
    (hplaced : env.registry.Draft7Placed) (hrequired : env.registry.Keeps .required)
    (hproperties : env.registry.Keeps .properties) {budget : Nat} {position : Position} {node : Node}
    (h : (lowerSchema env budget dataReferenceSchema position).Answers node) {call : Nat → Location → Run}
    {failFast : Bool} {l : Location} (hsound : l.value.Sound) (hpass : (node.run call failFast l).Passes) :
    (DataRef.pointerOf? l.value).isSome = true := by
  cases budget with
  | zero =>
    obtain ⟨before, after, h⟩ := h
    exact absurd h refuse_ne_ok
  | succ budget =>
    obtain ⟨members, w, hv, hw⟩ := dataReference_required hr hplaced h hpass hrequired
    obtain ⟨hnames, hstring⟩ := dataReference_properties hr hplaced h hpass hproperties hv
    rw [hv] at hsound ⊢
    obtain rfl := eq_singleton_of_names hsound.nodup hnames hw
    have hstring := hstring w hw
    cases w with
    | str pointer => rfl
    | _ => cases hstring

end JsonSchema
