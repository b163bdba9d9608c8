import JsonSchema.Proofs.Compiler.CachedDocument
import JsonSchema.Proofs.Omission.Keywords
import JsonSchema.Proofs.Reference.Interference
import JsonSchema.Proofs.Registry.Extension

/-!
# Removing a keyword, or not writing it

A compiler from which a keyword of draft-07 was removed reads a schema as the compiler with the keyword
reads the schema without it.  The two registries have the same groups left for every object
(`lowerGroups_without`), so an object is lowered to the same as far as the schemas inside are, and the
induction goes over the budget, which the two sides have in common (`lowerSchema_without`).

Main statement: `removeKeyword_is_omission`.
-/

set_option autoImplicit false

namespace JsonSchema

open LowerM

/-! ## Lowering an object -/

section

variable {P : Pairing} {lower lower' : Lower} {env : Environment} {registry registry' : Registry}
  {documents : Documents} {k : BuiltinKeyword} {members : List (String × Json)} {position : Position}

/-- Where the schema has no `$ref`, its groups contribute the same, whether a keyword is removed from them
    or left out of the schema. -/
theorem RuleGroup.lower_without {group : RuleGroup} {onlyRef : Bool}
    (hbuiltin : ∀ rule ∈ group.rules, ∃ k, rule = .ofBuiltin k) (href : members.lookup "$ref" = none)
    (h : ∀ s, s = .null ∨ Json.HasSubschema members s → P.SameOn k.names lower lower' s) :
    P.Runs Node.Same ((group.without k.name).lower lower (env.under registry) members position onlyRef)
      (group.lower lower' ((env.under registry').among documents) (Json.membersWithout k.names members)
        position onlyRef) := by
  rw [lower_eq, lower_eq, ← present_without hbuiltin]
  refine P.bind (Pairing.mapM (R := Node.Same) fun rule hrule => ?_) fun nodes nodes' hnodes => ?_
  · obtain ⟨hmem, hread⟩ := List.mem_filter.mp hrule
    rw [rules_without, List.mem_filter] at hmem
    obtain ⟨k', rfl⟩ := hbuiltin rule hmem.1
    refine Rule.lower_without ?_ ?_ h
    · rintro rfl
      simp [Rule.ofBuiltin] at hmem
    · rintro rfl
      simp [Rule.isPresent, Rule.ofBuiltin, BuiltinKeyword.name, BuiltinKeyword.implements, href] at hread
  · exact P.pure (around_congruent Node.Same.congruence group (Node.Same.congruence.conj hnodes))

/-- Which types are declared, and how they are checked, does not depend on a keyword. -/
theorem lookup_type_without (k : BuiltinKeyword) (members : List (String × Json)) :
    (Json.membersWithout k.names members).lookup "type" = members.lookup "type" := by
  rw [lookup_membersWithout_of_data (by decide) (by decide), if_neg k.type_notMem_names]

theorem lowerGroups_without {groups : List RuleGroup} {onlyRef : Bool} {declared : Option (List DataType)}
    (hbuiltin : ∀ group ∈ groups, ∀ rule ∈ group.rules, ∃ k, rule = .ofBuiltin k)
    (href : members.lookup "$ref" = none)
    (h : ∀ s, s = .null ∨ Json.HasSubschema members s → P.SameOn k.names lower lower' s) :
    P.Runs Node.Same
      (lowerGroups lower (env.under registry) members position onlyRef declared
        (Registry.groupsWithout k.name groups))
      (lowerGroups lower' ((env.under registry').among documents) (Json.membersWithout k.names members) position
        onlyRef declared groups) := by
  have htype : typeNode position.schemaPath (Json.membersWithout k.names members) =
      typeNode position.schemaPath members := by
    unfold typeNode
    rw [lookup_type_without]
  -- groups that a removal takes away have no rules left to contribute anything
  rw [Registry.groupsWithout, lowerGroups_filter]
  · unfold lowerGroups
    rw [List.filter_map, List.mapM_map, htype]
    refine P.bind (Pairing.mapM (R := Node.Same) fun group hgroup => RuleGroup.lower_without
      (hbuiltin group (List.mem_of_mem_filter hgroup)) href h) fun nodes nodes' hnodes => P.pure ?_
    exact Node.Same.congruence.conj (List.rel_append (List.forall₂_same.mpr fun n _ => .refl n) hnodes)
  · intro group _ hempty
    have hnone : group.numbered = [] := by
      rw [Bool.or_eq_false_iff] at hempty
      simpa using hempty.2
    unfold RuleGroup.present RuleGroup.rules
    rw [hnone]
    rfl

/-- Without strict keywords all keywords are let through. -/
theorem Environment.checkKeywords_of_lenient (env : Environment) (hstrict : env.options.strictKeywords = false)
    (path : String) (members : List (String × Json)) : env.checkKeywords path members = .ok () := by
  unfold checkKeywords
  rw [hstrict]
  cases members.find? _ <;> rfl

/-- **An object is lowered to the same**, whether a keyword is removed from the registry or left out of the
    object and of the schemas inside. -/
theorem lowerObject_without (hindexed : env.registry.Indexed) (hbuiltin : env.registry.BuiltinOnly)
    (hstrict : env.options.strictKeywords = false) (href : members.lookup "$ref" = none)
    (h : ∀ s, s = .null ∨ Json.HasSubschema members s → P.SameOn k.names lower lower' s) :
    P.Runs Node.Same (lowerObject lower (env.under (env.registry.remove k.name).1) members position)
      (lowerObject lower' (env.among documents) (Json.membersWithout k.names members) position) := by
  have honly : ∀ env : Environment, env.onlyRef members = false := fun env => by
    rw [Environment.onlyRef, href, Option.isSome_none, Bool.false_and]
  have honly' : ∀ env : Environment, env.onlyRef (Json.membersWithout k.names members) = false := fun env => by
    rw [Environment.onlyRef, lookup_membersWithout_of_data (by decide) (by decide), href, ite_self,
      Option.isSome_none, Bool.false_and]
  have hgroups : (env.registry.remove k.name).1.groups = Registry.groupsWithout k.name env.registry.groups :=
    congrArg (·.1.groups) (hindexed.remove_eq k.name)
  have hdeclared : declaredTypes position.schemaPath (Json.membersWithout k.names members) =
      declaredTypes position.schemaPath members := by
    unfold declaredTypes
    rw [lookup_type_without]
  have hchecked : (env.under (env.registry.remove k.name).1).checkKeywords position.schemaPath members = .ok () :=
    (env.under (env.registry.remove k.name).1).checkKeywords_of_lenient hstrict _ _
  have hchecked' : (env.among documents).checkKeywords position.schemaPath
      (Json.membersWithout k.names members) = .ok () := (env.among documents).checkKeywords_of_lenient hstrict _ _
  rw [lowerObject_eq, lowerObject_eq, honly, honly', hchecked, hchecked', hdeclared,
    show (env.under (env.registry.remove k.name).1).registry.groups =
      Registry.groupsWithout k.name env.registry.groups from hgroups]
  simp only [Bool.false_eq_true, if_false]
  refine P.bind (P.lifted _) fun _ _ _ => P.bind (P.lifted _) fun declared _ heq => heq ▸ ?_
  exact lowerGroups_without hbuiltin href h

/-- **A schema is lowered to the same**, whether a keyword is removed from the registry or left out of the
    schema. -/
theorem lowerSchema_without (hindexed : env.registry.Indexed) (hbuiltin : env.registry.BuiltinOnly)
    (hstrict : env.options.strictKeywords = false) (k : BuiltinKeyword) : ∀ (budget : Nat) (s : Json),
    RefFree s → s.WithoutIds →
    P.SameOn k.names (lowerSchema (env.under (env.registry.remove k.name).1) budget)
      (lowerSchema (env.among documents) budget) s := by
  intro budget
  induction budget with
  | zero => exact fun s _ _ s' _ position => Pairing.refused _
  | succ budget ih =>
    intro s hfree hids s' hstands position
    rcases hstands.schema_or_list with rfl | ⟨harr, harr'⟩
    · cases s with
      | obj members =>
        obtain ⟨href, hinside⟩ : members.lookup "$ref" = none ∧
            ∀ s, Json.HasSubschema members s → RefFree s := by
          cases hfree with
          | obj href hinside => exact ⟨href, hinside⟩
          | other hnot => cases hnot
        have hids' : (Json.without k.names (.obj members)).WithoutIds := hids.without
        have hchanged : (Rewriting.omitting k.names).schema (.obj members) =
            .obj (Json.membersWithout k.names members) := without_obj members
        rw [without_obj] at hids'
        rw [hchanged, lowerSchema_obj (schemaBase_of_withoutIds hids _),
          lowerSchema_obj (schemaBase_of_withoutIds hids' _)]
        refine lowerObject_without hindexed hbuiltin hstrict href ?_
        rintro s (rfl | hs)
        · exact ih .null (.other rfl) (by rintro w ⟨⟩; rfl)
        · exact ih s (hinside s hs) (hids.inside hs.inside)
      | bool allowed =>
        cases allowed <;> exact P.pure (.refl _)
      | _ => exact Pairing.refused _
    -- a list is no schema, on either side
    · cases s with
      | arr _ =>
        cases s' with
        | arr _ => exact Pairing.refused _
        | _ => cases harr'
      | _ => cases harr

end

/-! ## Compiling -/

/-- Both are refused with the same error, or both compile to validators that say the same of all data. -/
inductive SameOutcome : Except SchemaError Validator → Except SchemaError Validator → Prop where
  | refused (e : SchemaError) : SameOutcome (.error e) (.error e)
  | compiled {v v' : Validator} : v.SaysAs v' → SameOutcome (.ok v) (.ok v')

theorem Validator.saysAs_of_same {root root' : Node} (h : root.Same root') (procedures : List Procedure)
    (allErrors : Bool) :
    Validator.SaysAs ⟨.ofLowered (root, procedures), allErrors⟩ ⟨.ofLowered (root', procedures), allErrors⟩ := by
  have hrun := Program.run_same h (procedures.map (·.body.getD .pass))
  intro data
  unfold validate isValid Program.ofLowered
  dsimp only
  rw [hrun]
  exact ⟨rfl, rfl⟩

theorem Registry.BuiltinOnly.remove {r : Registry} (h : r.BuiltinOnly) (hindexed : r.Indexed)
    (keyword : String) : (r.remove keyword).1.BuiltinOnly := by
  rw [hindexed.remove_eq]
  intro group hgroup rule hrule
  obtain ⟨g, hg, rfl⟩ := List.mem_map.mp (List.mem_of_mem_filter hgroup)
  rw [RuleGroup.rules_without] at hrule
  exact h g hg rule (List.mem_of_mem_filter hrule)

/-- Where the documents cannot be filed nothing is lowered. -/
theorem lowerProgram_of_hidden {s : Surroundings} {schema : Json} {base : Uri} {e : SchemaError}
    (hbase : schemaBase schema defaultBase = .ok base)
    (hdocuments : Documents.visibleFrom schema base s.cache = .error e) : lowerProgram s schema = .error e := by
  unfold lowerProgram
  rw [hbase]
  simp only [bind, Except.bind]
  rw [hdocuments]

/-- The same surroundings without a keyword. -/
def Surroundings.removing (s : Surroundings) (keyword : String) : Surroundings :=
  { s with registry := (s.registry.remove keyword).1 }

section

variable {s : Surroundings} {schema : Json} (hindexed : s.registry.Indexed)
  (hbuiltin : s.registry.BuiltinOnly) (hstrict : s.options.strictKeywords = false) (k : BuiltinKeyword)
  (hfree : RefFree schema) (hids : schema.WithoutIds)

include hindexed hbuiltin hstrict hfree hids

/-- What is left of a schema is lowered to the same also among other documents and with another budget, as
    long as both budgets are larger than the schemas. -/
theorem lowerSchema_removing {documents documents' : Documents} {budget budget' : Nat} (position : Position)
    (hbudget : schema.size < budget) (hbudget' : (schema.without k.names).size < budget') :
    MirrorsBy .plain Node.Same (lowerSchema ((s.removing k.name).among documents) budget schema position)
      (lowerSchema (s.among documents') budget' (schema.without k.names) position) := by
  have hremoved : ((s.removing k.name).among documents).registry.BuiltinOnly := hbuiltin.remove hindexed _
  have hkept : (s.among documents').registry.BuiltinOnly := hbuiltin
  have hlarger : lowerSchema ((s.removing k.name).among documents) (max budget budget') schema position =
      lowerSchema ((s.removing k.name).among documents) budget schema position :=
    lowerSchema_refFree hremoved _ _ _ _ hbudget (by omega) hfree
  have hlarger' : lowerSchema (s.among documents') (max budget budget') (schema.without k.names) position =
      lowerSchema (s.among documents') budget' (schema.without k.names) position :=
    lowerSchema_refFree hkept _ _ _ _ hbudget' (by omega) hfree.without
  rw [← hlarger, ← hlarger']
  exact @lowerSchema_without Mirror.plain.pairing (s.among documents) documents' hindexed hbuiltin hstrict k
    (max budget budget') schema hfree hids _ (.inl rfl) position

theorem lowerProgram_without : Mirrored .plain Node.Same (lowerProgram (s.removing k.name) schema)
    (lowerProgram s (schema.without k.names)) := by
  have hids' : (schema.without k.names).WithoutIds := hids.without
  have hbase := schemaBase_of_withoutIds hids defaultBase
  have hbase' := schemaBase_of_withoutIds hids' defaultBase
  have hvisible : Documents.visibleFrom schema defaultBase (s.removing k.name).cache = _ :=
    Documents.visibleFrom_of_withoutIds hids
  have hvisible' : Documents.visibleFrom (schema.without k.names) defaultBase s.cache = _ :=
    Documents.visibleFrom_of_withoutIds hids'
  rw [show (s.removing k.name).cache = s.cache from rfl] at hvisible
  cases hcache : Documents.ofCache s.cache with
  | error e =>
    rw [hcache] at hvisible hvisible'
    rw [@lowerProgram_of_hidden (s.removing k.name) _ _ _ hbase hvisible, lowerProgram_of_hidden hbase' hvisible']
    exact .refused rfl
  | ok filed =>
    rw [hcache] at hvisible hvisible'
    rw [@lowerProgram_of_visible (s.removing k.name) _ _ _ hbase hvisible,
      lowerProgram_of_visible hbase' hvisible']
    exact lowerSchema_removing hindexed hbuiltin hstrict k hfree hids _ (size_lt_loweringBudget ..)
      (size_lt_loweringBudget ..) [] [] rfl

theorem compileSchema_without : SameOutcome (compileSchema (s.removing k.name) schema)
    (compileSchema s (schema.without k.names)) := by
  have hlowered := lowerProgram_without hindexed hbuiltin hstrict k hfree hids
  rw [compileSchema_eq, compileSchema_eq]
  revert hlowered
  generalize lowerProgram (s.removing k.name) schema = x
  generalize lowerProgram s (schema.without k.names) = x'
  rintro (he | ⟨hroot, hprocedures⟩)
  · obtain rfl : _ = _ := he
    exact .refused _
  · obtain rfl : _ = _ := hprocedures
    exact .compiled (Validator.saysAs_of_same hroot _ _)

end

/-- **Removing a keyword is not writing it**: a schema without `$ref` and `$id` compiles after the removal of
    a keyword of draft-07 to what it compiles to under all keywords once the keyword, and those that its rule
    takes care of, are left out of all schemas in it. -/
theorem removeKeyword_is_omission {c : Compiler} (hregistry : c.registry = .withBuiltins)
    (hstrict : c.options.strictKeywords = false) (k : BuiltinKeyword) {schema : Json} (hfree : RefFree schema)
    (hids : schema.WithoutIds) :
    SameOutcome ((c.removeKeyword k.name).compile schema)
      (c.compile (schema.without (k.name :: k.implements))) := by
  rw [Compiler.removeKeyword_eq]
  have hindexed : c.registry.Indexed := hregistry ▸ Registry.withBuiltins_coherent.toIndexed
  have hbuiltin : c.registry.BuiltinOnly := hregistry ▸ Registry.withBuiltins_builtinOnly
  exact @compileSchema_without c.surroundings schema hindexed hbuiltin hstrict k hfree hids

/-- A schema with properties in itself, in a schema inside and in a default value. -/
def tagged : Json := .obj [
  ("type", "object"),
  ("properties", .obj [("tag", .obj [("type", "string")])]),
  ("additionalProperties", .obj [("type", "integer")]),
  ("not", .obj [
    ("type", "null"),
    ("patternProperties", .obj [("^x", .obj [("type", "string")])])]),
  ("default", .obj [("properties", "none")])]

/-- `properties` goes from the schemas, with what it takes care of, and stays in the default value. -/
theorem tagged_omission :
    tagged.without (BuiltinKeyword.properties.name :: BuiltinKeyword.properties.implements) = .obj [
      ("type", "object"),
      ("not", .obj [("type", "null")]),
      ("default", .obj [("properties", "none")])] ∧
    (((Compiler.new {}).removeKeyword "properties").compile tagged).isOk = true ∧
    SameOutcome (((Compiler.new {}).removeKeyword "properties").compile tagged)
      ((Compiler.new {}).compile
        (tagged.without (BuiltinKeyword.properties.name :: BuiltinKeyword.properties.implements))) := by
  have htyped : ∀ type : String, RefFree (.obj [("type", type)]) := fun type =>
    .of_members rfl (by simp [schemaKeywords]) (by simp [schemaMapKeywords])
  have hinside : RefFree (.obj [("type", "null"), ("patternProperties", .obj [("^x", .obj [("type", "string")])])]) :=
    .of_members rfl (by simp [schemaKeywords]) (by simp [schemaMapKeywords, htyped])
  have hfree : RefFree tagged :=
    .of_members rfl (by simp [schemaKeywords, htyped, hinside]) (by simp [schemaMapKeywords, htyped])
  have hids : tagged.WithoutIds := by
    simp [tagged, withoutIds_obj, withoutIds_str, List.lookup_cons]
  have hcompiles : (((Compiler.new {}).removeKeyword "properties").compile tagged).isOk = true := by
    decide +kernel
  exact ⟨rfl, hcompiles, removeKeyword_is_omission (c := .new {}) rfl rfl .properties hfree hids⟩

end JsonSchema
