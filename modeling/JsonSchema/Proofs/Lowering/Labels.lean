import JsonSchema.Proofs.Evaluation.SingleViolation
import JsonSchema.Proofs.Lowering.Schemas
import JsonSchema.Proofs.Reference.RootId

/-!
# Whose violation it is

Every site in a compiled program has the keyword that the site belongs to (`compileSchema_labelled`), so
that a violation says whether it is one of those that stand behind others.  **Failing fast reports one
violation exactly if the last one that it reports stands alone** (`single_violation_iff`).
-/

set_option autoImplicit false

namespace JsonSchema

/-- The keywords that keep the violations of others are those of draft-07: a rule has the name of its
    keyword, and no custom rule has taken the name of one of them. -/
def Registry.KeepsNames (r : Registry) : Prop :=
  ∀ group ∈ r.groups, ∀ rule ∈ group.rules,
    match rule.implementation with
    | .builtin k => rule.keyword = k.name
    | .custom _ => rule.keyword ∉ keepingKeywords

theorem Registry.BuiltinOnly.keepsNames {r : Registry} (h : r.BuiltinOnly) : r.KeepsNames := by
  intro group hgroup rule hrule
  obtain ⟨k, rfl⟩ := h group hgroup rule hrule
  rfl

/-- What is known of the bodies of schemas. -/
def labelled : BodyRel := fun _ _ n => n.Labelled

theorem Node.Labelled.conj {nodes : List Node} (h : ∀ n ∈ nodes, n.Labelled) : (Node.conj nodes).Labelled :=
  Node.conj_cases .pass (fun _ h => .all h) h

namespace KeywordPlace

variable {p : KeywordPlace} {nodes : List Node} {k : BuiltinKeyword}

/-! ## Keywords -/

theorem tupleParts_labelled (start : Nat) (tuple : List Json) :
    ∀ part ∈ p.tupleParts labelled start tuple, ∀ body, part.Made body → (part.around body).Labelled := by
  intro part hpart body hb
  obtain ⟨⟨schema, i⟩, -, rfl⟩ := List.mem_map.mp hpart
  exact .descend hb

theorem additionalItemsParts_labelled (start : Nat) :
    ∀ part ∈ p.additionalItemsParts labelled start, ∀ body, part.Made body →
      (part.around body).Labelled := by
  unfold additionalItemsParts
  split
  · exact List.forall_mem_singleton.mpr fun _ hb => .items hb
  · exact fun _ h => absurd h List.not_mem_nil

theorem MakesItems.labelled (h : p.MakesItems labelled nodes) : ∀ n ∈ nodes, n.Labelled := by
  obtain ⟨-, h⟩ := h
  split at h
  · simp [h]
  · next tuple _ =>
    obtain ⟨others, hothers, rfl⟩ := h
    refine List.forall_mem_append.mpr ⟨?_, hothers.forall_mem (List.forall_mem_append.mpr
      ⟨tupleParts_labelled 0 tuple, additionalItemsParts_labelled tuple.length⟩)⟩
    split
    · refine List.forall_mem_singleton.mpr (.check ?_)
      simp [ErrorSite.Plain, siblingSite, keepingKeywords]
    · exact fun _ h => absurd h List.not_mem_nil
  · exact h.forall_mem (List.forall_mem_singleton.mpr fun _ hb => .items hb)

theorem dataChecks_labelled {names : List String} {site : String → ErrorSite}
    {fails : String → Json → Bool} (h : ∀ name, (site name).Plain) :
    ∀ n ∈ names.map fun name => dataCheck (site name) (fails name), n.Labelled := by
  intro n hn
  obtain ⟨name, -, rfl⟩ := List.mem_map.mp hn
  exact .check (h name)

theorem MakesDependencies.labelled (hp : p.keyword ∉ keepingKeywords)
    (h : p.MakesDependencies labelled nodes) : ∀ n ∈ nodes, n.Labelled := by
  refine Assembled.forall_mem h fun part hpart body hb => ?_
  obtain ⟨⟨property, needs⟩, -, rfl⟩ := List.mem_map.mp hpart
  refine .ifPresent ?_
  cases needs with
  | arr names =>
    obtain ⟨checks, hchecks, rfl⟩ := hb
    obtain ⟨needed, text, -, rfl⟩ := neededProperties_cases hchecks
    exact .conj (dataChecks_labelled fun _ => hp)
  | _ => exact hb

theorem MakesOthers.labelled {patterns : List Regex} (h : p.MakesOthers labelled patterns nodes) :
    ∀ n ∈ nodes, n.Labelled := by
  unfold MakesOthers at h
  split at h
  · simp [h]
  · simp [h]
  · obtain ⟨text, rfl⟩ := h
    refine List.forall_mem_singleton.mpr (.noProperties ?_)
    simp [ErrorSite.Plain, siblingSite, keepingKeywords]
  · exact h.forall_mem (List.forall_mem_singleton.mpr fun _ hb => .properties hb)

theorem MakesProperties.labelled (h : p.MakesProperties labelled nodes) : ∀ n ∈ nodes, n.Labelled := by
  obtain ⟨-, patterns, named, matched, others, -, hnamed, hmatched, hothers, rfl⟩ := h
  have hmembers : ∀ n ∈ named, n.Labelled := hnamed.forall_mem fun part hpart body hb => by
    obtain ⟨m, -, rfl⟩ := List.mem_map.mp hpart
    exact .descend hb
  have hpatterns : ∀ n ∈ matched, n.Labelled := hmatched.forall_mem fun part hpart body hb => by
    obtain ⟨m, -, rfl⟩ := List.mem_map.mp hpart
    exact .properties hb
  exact List.forall_mem_append.mpr ⟨List.forall_mem_append.mpr ⟨hmembers, hpatterns⟩, hothers.labelled⟩

theorem MakesBranches.ne_nil {B : BodyRel} (h : p.MakesBranches B nodes) : nodes ≠ [] := by
  obtain ⟨hne, h⟩ := h
  rintro rfl
  cases hschemas : p.schema.arr?.getD [] with
  | nil => exact hne hschemas
  | cons s rest =>
    rw [hschemas] at h
    cases h

theorem MakesIfThenElse.labelled (hp : p.keyword = "if") (h : p.MakesIfThenElse labelled nodes) :
    ∀ n ∈ nodes, n.Labelled := by
  unfold MakesIfThenElse at h
  split at h
  · simp [h]
  · simp [h]
  · obtain ⟨c, t, e, text, -, -, -, rfl⟩ := h
    exact List.forall_mem_singleton.mpr (.ifThenElse hp)

/-- A keyword of draft-07 under its own name. -/
theorem Makes.labelled {R : String → Nat → Prop} (hp : p.keyword = k.name)
    (h : p.Makes labelled R k nodes) : ∀ n ∈ nodes, n.Labelled := by
  have hplain : k.name ∉ keepingKeywords → p.keyword ∉ keepingKeywords := fun h => hp ▸ h
  cases k with
  | multipleOf =>
    obtain ⟨n, hn, rfl⟩ := h
    obtain ⟨-, text, rfl⟩ := multipleOf_cases hn
    exact List.forall_mem_singleton.mpr (.check (hplain (by decide)))
  | pattern =>
    obtain ⟨n, hn, rfl⟩ := h
    rcases pattern_cases hn with ⟨-, text, rfl⟩ | ⟨-, r, text, -, rfl⟩
    · exact List.forall_mem_singleton.mpr (.check (hplain (by decide)))
    · exact List.forall_mem_singleton.mpr (.check (hplain (by decide)))
  | format =>
    rcases format_cases h with ⟨found, text, -, rfl⟩ | ⟨-, rfl⟩
    · exact List.forall_mem_singleton.mpr (.check (hplain (by decide)))
    · exact fun _ hn => absurd hn List.not_mem_nil
  | required =>
    obtain ⟨names, text, -, rfl⟩ := required_cases h
    exact dataChecks_labelled fun _ => hplain (by decide)
  | items => exact MakesItems.labelled h
  | dependencies => exact MakesDependencies.labelled (hplain (by decide)) h
  | propertyNames =>
    obtain ⟨text, h⟩ := h
    exact h.forall_mem (List.forall_mem_singleton.mpr fun _ _ => .propertyNames hp)
  | properties => exact MakesProperties.labelled h
  | allOf => exact forall_mem_of_forall₂ h.2.flip
  | ifThenElse => exact MakesIfThenElse.labelled hp h
  | contains =>
    obtain ⟨body, text, hb, rfl⟩ := h
    exact List.forall_mem_singleton.mpr (.contains (hplain (by decide)))
  | not =>
    obtain ⟨body, text, hb, rfl⟩ := h
    exact List.forall_mem_singleton.mpr (.not (hplain (by decide)))
  | anyOf =>
    obtain ⟨branches, text, hb, rfl⟩ := h
    exact List.forall_mem_singleton.mpr (.anyOf hp hb.ne_nil)
  | oneOf =>
    obtain ⟨branches, text, hb, rfl⟩ := h
    exact List.forall_mem_singleton.mpr (.oneOf hp hb.ne_nil)
  | ref =>
    obtain ⟨i, -, rfl⟩ := h
    exact List.forall_mem_singleton.mpr .call
  -- the keywords that contribute one check, whatever stands beside them
  | _ =>
    obtain rfl := h
    exact List.forall_mem_singleton.mpr (.check (hplain (by decide)))

theorem MakesCustom.labelled {d : KeywordDefinition} (hp : p.keyword ∉ keepingKeywords)
    (h : p.MakesCustom labelled d nodes) : ∀ n ∈ nodes, n.Labelled := by
  intro n hn
  rcases h n hn with ⟨text, fails, rfl⟩ | ⟨text, rfl⟩ | ⟨expand, -, hb⟩
  · exact .check hp
  · exact .reject hp
  · exact hb

end KeywordPlace

/-! ## Schemas -/

section

variable {env : Environment} {members : List (String × Json)} {position : Position} {n : Node}
  {R : RefRel} (hnames : env.registry.KeepsNames)

include hnames

theorem RuleGroup.Makes.labelled {group : RuleGroup} (hgroup : group ∈ env.registry.groups)
    {onlyRef : Bool} (h : group.Makes labelled R env members position onlyRef n) : n.Labelled := by
  obtain ⟨nodes, hmakes, rfl⟩ := h
  have hrules : ∀ n ∈ nodes, n.Labelled := by
    intro n hn
    obtain ⟨rule, hrule, data, parts, -, -, hparts, rfl⟩ := exists_left_of_forall₂ hmakes n hn
    have hname := hnames group hgroup rule (List.mem_of_mem_filter hrule)
    refine .conj ?_
    cases himplementation : rule.implementation with
    | builtin k =>
      rw [himplementation] at hparts hname
      exact KeywordPlace.Makes.labelled hname hparts
    | custom d =>
      rw [himplementation] at hparts hname
      exact KeywordPlace.MakesCustom.labelled hname hparts
  unfold RuleGroup.around
  split
  · split
    · exact .pass
    · exact .guard (.conj hrules)
  · exact .conj hrules

theorem SchemaMakes.labelled {schema : Json}
    (h : SchemaMakes labelled R env schema position n) : n.Labelled := by
  cases h with
  | always => exact .pass
  | never => exact .reject (by simp [ErrorSite.Plain, keepingKeywords])
  | object hbase hobject =>
    obtain ⟨declared, nodes, -, hmakes, rfl⟩ := hobject
    refine .conj (List.forall_mem_append.mpr ⟨fun n hn => ?_, fun n hn => ?_⟩)
    · obtain ⟨types, -, rfl⟩ := by simpa using hn
      exact .type (by simp [ErrorSite.Plain, keepingKeywords])
    · obtain ⟨group, hgroup, hgroupMakes⟩ := exists_left_of_forall₂ hmakes n hn
      exact hgroupMakes.labelled hnames (List.mem_of_mem_filter hgroup)

end

/-! ## Compiled programs -/

/-- **The sites of a compiled program have the keywords that they belong to.** -/
theorem compileSchema_labelled {s : Surroundings} (hnames : s.registry.KeepsNames) {schema : Json}
    {validator : Validator} (h : compileSchema s schema = .ok validator) :
    validator.program.Labelled ∧ validator.allErrors = s.options.allErrors := by
  obtain ⟨hroot, hbodies⟩ := compileSchema_bodies .pass (fun h => h.labelled hnames) h
  obtain ⟨lowered, -, rfl⟩ := compileSchema_eq_ok.mp h
  exact ⟨⟨hroot, fun body hbody => hbodies body hbody⟩, rfl⟩

/-- **Failing fast reports a single violation exactly if its last one stands alone**: if it is not one of
    `anyOf`, `if` or `propertyNames`, nor one of `oneOf` that names other passing branches than the first
    two.  These come behind the violations of the schemas that the keyword has tried. -/
theorem single_violation_iff {s : Surroundings} (hnames : s.registry.KeepsNames)
    (hfast : s.options.allErrors = false) {schema : Json} {validator : Validator}
    (h : compileSchema s schema = .ok validator) {data : Json} {violations : List Violation}
    (hinvalid : validator.validate data = .invalid violations) :
    ∃ last, violations.getLast? = some last ∧ (violations.length ≤ 1 ↔ last.StandsAlone) := by
  obtain ⟨hlabelled, hmode⟩ := compileSchema_labelled hnames h
  have hrun : validator.program.run true data = some (false, violations) := by
    unfold Validator.validate at hinvalid
    rw [hmode, hfast, Bool.not_false] at hinvalid
    split at hinvalid
    · cases hinvalid
    · next hrun =>
      cases hinvalid
      exact hrun
    · cases hinvalid
  obtain ⟨front, last, rfl, halone⟩ := Program.last_violation_tells hlabelled hrun
  refine ⟨last, List.getLast?_concat, ?_⟩
  rw [← halone, List.length_append, List.length_singleton, ← List.length_eq_zero_iff]
  omega

/-- A schema of which `null` matches both branches. -/
def nullTwice : Json := .obj [("oneOf", .arr [.obj [("type", "null")], .bool true])]

/-- The violation of a `oneOf` whose first two branches pass is the only one. -/
theorem nullTwice_single : ∃ validator last, Surroundings.plain.registry.KeepsNames ∧
    compileSchema .plain nullTwice = .ok validator ∧ validator.validate .null = .invalid [last] ∧
    last.StandsAlone := by
  have hnames : Surroundings.plain.registry.KeepsNames := Registry.withBuiltins_builtinOnly.keepsNames
  have hone : ((compileSchema .plain nullTwice).toOption.bind fun v => (v.validate .null).count?) = some 1 := by
    decide +kernel
  obtain ⟨validator, violations, hcompiled, hinvalid, hlength⟩ := exists_invalid hone
  obtain ⟨only, rfl⟩ := List.length_eq_one_iff.mp hlength
  obtain ⟨last, hlast, hiff⟩ := single_violation_iff hnames rfl hcompiled hinvalid
  obtain rfl : only = last := Option.some.inj hlast
  exact ⟨validator, only, hnames, hcompiled, hinvalid, hiff.mp hlength.le⟩

/-- A string or a number. -/
def stringOrNumber : Json :=
  .obj [("anyOf", .arr [.obj [("type", "string")], .obj [("type", "number")]])]

/-- **Failing fast can report three violations**: one for each branch, and that of `anyOf`. -/
theorem stringOrNumber_three : ∃ validator violations,
    compileSchema .plain stringOrNumber = .ok validator ∧ validator.allErrors = false ∧
    validator.validate .null = .invalid violations ∧ violations.length = 3 := by
  have hthree : ((compileSchema .plain stringOrNumber).toOption.bind fun v => (v.validate .null).count?) =
      some 3 := by decide +kernel
  obtain ⟨validator, violations, hcompiled, hinvalid, hlength⟩ := exists_invalid hthree
  obtain ⟨lowered, -, rfl⟩ := compileSchema_eq_ok.mp hcompiled
  exact ⟨_, violations, hcompiled, rfl, hinvalid, hlength⟩

end JsonSchema
