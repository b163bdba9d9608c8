import JsonSchema.Proofs.Registry.BuiltinRules

/-!
# The rule for references

A registry that reads `$ref` as draft-07 does has one rule for it, in the group for all data
(`Coherent.readsRef`), and no other rule counts beside it.

Main statement: `lowerSchema_reference`, what a schema comes to that is nothing but a reference.
-/

set_option autoImplicit false

namespace JsonSchema

namespace Registry

/-- The registry reads `$ref` as draft-07 does: by one rule, for all data. -/
structure ReadsRef (r : Registry) (group : RuleGroup) : Prop where
  refers : r.hasRule "$ref" = true
  groups : r.groups.filter (fun g => g.rules.any (·.keyword == "$ref")) = [group]
  appliesTo : group.appliesTo = none
  rules : group.rules.filter (·.keyword == "$ref") = [.ofBuiltin .ref]

/-- **A rule for `$ref` that is not custom is draft-07's.** -/
theorem Coherent.readsRef {r : Registry} (h : r.Coherent) (hplaced : r.Draft7Placed)
    (hrefers : r.hasRule "$ref" = true) (hcustom : r.custom.get? "$ref" = none) :
    ∃ group, r.ReadsRef group := by
  have hlast : ∀ listed ∈ BuiltinKeyword.groups, .ref ∈ listed.2 → listed.1 = none := by decide
  obtain ⟨group, hreads⟩ := @Coherent.readsBuiltin r .ref h hplaced (by decide) hrefers hcustom
  obtain ⟨listed, hlisted, htype, href⟩ := hreads.listed
  exact ⟨group, hrefers, hreads.groups, htype.symm.trans (hlast listed hlisted href), hreads.rules⟩

end Registry

/-! ## A schema that is a reference -/

section

variable {env : Environment} {group : RuleGroup} {position : Position}

/-- A schema that is nothing but a reference. -/
def refTo (reference : String) : Json := .obj [("$ref", .str reference)]

/-- The rule for references in it. -/
def referencePlace (env : Environment) (position : Position) (reference : String) : KeywordPlace :=
  (Rule.ofBuiltin .ref).place env [("$ref", .str reference)] position none

theorem Rule.lower_reference (lower : Lower) (reference : String) :
    (Rule.ofBuiltin .ref).lower lower env [("$ref", .str reference)] position = (do
      let i ← (referencePlace env position reference).procedureOf lower reference
      return .call i) := by
  show (do
    let nodes ← (do
      let i ← (referencePlace env position reference).procedureOf lower reference
      return [Node.call i])
    return Node.conj nodes) = _
  rw [bind_assoc]
  rfl

/-- **A schema that is nothing but a reference calls the procedure of the reference.** -/
theorem lowerSchema_reference (h : env.registry.ReadsRef group) (budget : Nat) (reference : String) :
    lowerSchema env (budget + 1) (refTo reference) position = (do
      let i ← (referencePlace env position reference).procedureOf (lowerSchema env budget) reference
      return .call i) := by
  have honly : env.onlyRef [("$ref", .str reference)] = true := by
    rw [Environment.onlyRef, h.refers]
    rfl
  have hpresent : ∀ g : RuleGroup, g.present [("$ref", .str reference)] true =
      g.rules.filter (·.keyword == "$ref") := by
    intro g
    refine List.filter_congr fun rule _ => ?_
    cases hkeyword : rule.keyword == "$ref" with
    | true => simp [Rule.isPresent, beq_iff_eq.mp hkeyword]
    | false => simp
  rw [refTo, lowerSchema_obj rfl, lowerObject_eq, honly]
  show (pure none >>= fun declared => lowerGroups _ _ _ _ _ declared _) = _
  rw [pure_bind, lowerGroups_only h.groups h.rules h.appliesTo fun g _ => hpresent g,
    Rule.lower_reference]

end

end JsonSchema
