import JsonSchema.Proofs.Draft7.Agreement
import JsonSchema.Proofs.Registry.Extension

/-!
# The rules of draft-07

Calls add and remove custom rules, and remove those of draft-07, but never put one of these elsewhere
(`Compiler.Reached.draft7_holds`).  So if a compiler has a rule for a keyword of draft-07 and it is not a
custom one, it is draft-07's, in its place (`Coherent.exists_builtin`).  All of these but `format` have one
place, and there such a rule is alone.

Main statement: `Coherent.readsBuiltin`.
-/

set_option autoImplicit false

namespace JsonSchema

theorem List.eq_singleton_of_nodup {α : Type} {xs : List α} {x : α} (hnodup : xs.Nodup) (hmem : x ∈ xs)
    (hall : ∀ y ∈ xs, y = x) : xs = [x] := by
  cases xs with
  | nil => cases hmem
  | cons y rest =>
    obtain rfl := hall y List.mem_cons_self
    cases rest with
    | nil => rfl
    | cons z rest =>
      obtain rfl := hall z (by simp)
      simp at hnodup

/-- A conjunction of one node is the node. -/
theorem Node.conj_singleton (n : Node) : conj [n] = n := by
  cases n <;> rfl

/-- **An object that is read for one rule of a group for all data comes to what the rule contributes.** -/
theorem lowerGroups_only {keyword : String} {rule : Rule} {group : RuleGroup} {groups : List RuleGroup}
    {lower : Lower} {env : Environment} {members : List (String × Json)} {position : Position}
    {onlyRef : Bool} (hgroups : groups.filter (fun g => g.rules.any (·.keyword == keyword)) = [group])
    (hrules : group.rules.filter (·.keyword == keyword) = [rule]) (happlies : group.appliesTo = none)
    (hpresent : ∀ g ∈ groups, g.present members onlyRef = g.rules.filter (·.keyword == keyword)) :
    lowerGroups lower env members position onlyRef none groups = rule.lower lower env members position := by
  have hgroup : group ∈ groups := List.mem_of_mem_filter (hgroups ▸ List.mem_singleton_self group)
  have hconcerns : group.concerns none = true := by
    unfold RuleGroup.concerns
    rw [happlies]
  rw [← lowerGroups_filter (p := fun g => g.rules.any (·.keyword == keyword)), hgroups]
  · unfold lowerGroups
    rw [List.filter_singleton, hconcerns, cond_true, List.mapM_cons, List.mapM_nil, RuleGroup.lower_eq,
      hpresent group hgroup, hrules, List.mapM_cons, List.mapM_nil]
    unfold RuleGroup.around
    rw [happlies]
    simp only [bind_assoc, pure_bind, Option.map_none, Option.toList_none, List.nil_append,
      Node.conj_singleton, bind_pure]
  · intro g hg hnone
    rw [hpresent g hg, List.filter_eq_nil_iff]
    simpa using hnone

namespace BuiltinKeyword

theorem name_injective : Function.Injective name := by
  have hfound : ∀ k : BuiltinKeyword, (groups.flatMap Prod.snd).find? (·.name == k.name) = some k := by
    intro k
    cases k <;> rfl
  intro k k' h
  have hfound' := hfound k
  rw [h, hfound k'] at hfound'
  exact (Option.some.inj hfound').symm

theorem ofBuiltin_injective : Function.Injective Rule.ofBuiltin := fun _ _ h =>
  Implementation.builtin.inj (congrArg Rule.implementation h)

/-- No group lists a keyword twice. -/
theorem groups_nodup : ∀ listed ∈ groups, listed.2.Nodup := by decide

/-- A keyword other than `format` is listed in one group. -/
theorem listed_once {k : BuiltinKeyword} (hk : k ≠ .format) :
    ∀ listed ∈ groups, ∀ listed' ∈ groups, k ∈ listed.2 → k ∈ listed'.2 → listed.1 = listed'.1 := by
  cases k <;> first | exact absurd rfl hk | decide

end BuiltinKeyword

namespace Registry

/-! ## Where draft-07 has its rules -/

section

variable {place place' : Option DataType × Nat} {rule : Rule} {k : BuiltinKeyword}

/-- A rule of draft-07 is that of a keyword which is listed in its group. -/
theorem listed_of_withBuiltins_holds (h : withBuiltins.Holds place rule) :
    ∃ listed ∈ BuiltinKeyword.groups, listed.1 = place.1 ∧ ∃ k ∈ listed.2, rule = .ofBuiltin k := by
  obtain ⟨g, hg, happlies, hmem⟩ := h
  obtain ⟨listed, hlisted, htype, hrules⟩ := exists_left_of_forall₂ withBuiltins_groups.flip g hg
  have hrule : rule ∈ g.rules := List.mem_map_of_mem hmem
  rw [hrules] at hrule
  obtain ⟨k, hk, rfl⟩ := List.mem_map.mp hrule
  exact ⟨listed, hlisted, htype.symm.trans happlies, k, hk, rfl⟩

/-- A keyword of draft-07 has its own rule. -/
theorem eq_ofBuiltin_of_withBuiltins_holds (h : withBuiltins.Holds place rule)
    (hkeyword : rule.keyword = k.name) : rule = .ofBuiltin k := by
  obtain ⟨_, -, -, k', -, rfl⟩ := listed_of_withBuiltins_holds h
  rw [BuiltinKeyword.name_injective hkeyword]

/-- It has the rule once, unless it is `format`. -/
theorem withBuiltins_place_unique (hk : k ≠ .format) (h : withBuiltins.Holds place (.ofBuiltin k))
    (h' : withBuiltins.Holds place' (.ofBuiltin k)) : place = place' := by
  obtain ⟨listed, hlisted, htype, k₁, hk₁, hrule⟩ := listed_of_withBuiltins_holds h
  obtain ⟨listed', hlisted', htype', k₂, hk₂, hrule'⟩ := listed_of_withBuiltins_holds h'
  obtain rfl := BuiltinKeyword.ofBuiltin_injective hrule
  obtain rfl := BuiltinKeyword.ofBuiltin_injective hrule'
  have happlies : place.1 = place'.1 := by
    rw [← htype, ← htype', BuiltinKeyword.listed_once hk listed hlisted listed' hlisted' hk₁ hk₂]
  obtain ⟨g, hg, hgroup, hmem⟩ := h
  obtain ⟨g', hg', hgroup', hmem'⟩ := h'
  obtain rfl := withBuiltins_coherent.placed.eq_of_appliesTo_eq hg hg' (by rw [hgroup, hgroup', happlies])
  have hnodup : (g.numbered.map Prod.snd).Nodup := by
    obtain ⟨listed, hlisted, -, hrules⟩ := exists_left_of_forall₂ withBuiltins_groups.flip g hg
    rw [show g.numbered.map Prod.snd = listed.2.map Rule.ofBuiltin from hrules]
    exact (BuiltinKeyword.groups_nodup listed hlisted).map BuiltinKeyword.ofBuiltin_injective
  have hentry : (place.2, Rule.ofBuiltin k) = (place'.2, Rule.ofBuiltin k) :=
    List.inj_on_of_nodup_map hnodup hmem hmem' rfl
  exact Prod.ext happlies (Prod.mk.inj hentry).1

end

/-- Rules that are not custom stand where draft-07 has them. -/
def Draft7Placed (r : Registry) : Prop :=
  ∀ place rule, r.Holds place rule → rule.isCustom = true ∨ withBuiltins.Holds place rule

theorem Draft7Placed.addCustom {r : Registry} (h : r.Draft7Placed) (hr : r.Placed) {rule : Rule}
    (hcustom : rule.isCustom = true) (types : List DataType) : (r.addCustom rule types).Draft7Placed := by
  have hinserted := @foldl_insert_induct (fun r => r.Placed ∧ r.Draft7Placed) rule ?_ (placesOf types) r
    ⟨hr, h⟩
  · exact fun place rule' hholds => hinserted.2 place rule' hholds
  · rintro r appliesTo ⟨hr, h⟩
    refine ⟨hr.insert appliesTo rule, fun place rule' hholds => ?_⟩
    rcases hr.holds_insert.mp hholds with hold | ⟨-, rfl⟩
    · exact h place rule' hold
    · exact .inl hcustom

end Registry

/-- **No call puts a rule of draft-07 elsewhere.** -/
theorem Compiler.Reached.draft7_holds {options : Options} {c : Compiler} (h : c.Reached options) :
    c.registry.Draft7Placed := by
  have hboth := h.registry_induct (P := fun r => r.Coherent ∧ r.Draft7Placed)
    ⟨Registry.withBuiltins_coherent, fun _ _ hholds => .inr hholds⟩
    (fun r name definition metaValidator hr hunknown =>
      ⟨hr.1.addCustom hunknown rfl definition.types, hr.2.addCustom hr.1.placed rfl definition.types⟩)
    (fun r name hr => ⟨hr.1.remove name, fun place rule hholds =>
      hr.2 place rule (hr.1.toIndexed.holds_remove.mp hholds).1⟩)
  exact hboth.2

namespace Registry

/-! ## Rules that are alone -/

section

variable {r : Registry} {keyword : String} {number : Nat} {rule : Rule} {group : RuleGroup}
  (honly : ∀ place rule', r.Holds place rule' → rule'.keyword = keyword →
    place = (group.appliesTo, number) ∧ rule' = rule)
  (hgroup : group ∈ r.groups) (hmem : (number, rule) ∈ group.numbered) (hkeyword : rule.keyword = keyword)

include honly hgroup hmem hkeyword

/-- The only place of a keyword is in the only group that has the keyword. -/
theorem Placed.groups_of_only (h : r.Placed) :
    r.groups.filter (fun g => g.rules.any (·.keyword == keyword)) = [group] := by
  have hsome : group.rules.any (·.keyword == keyword) = true :=
    List.any_eq_true.mpr ⟨_, List.mem_map_of_mem hmem, by simpa using hkeyword⟩
  refine List.eq_singleton_of_nodup (h.types_nodup.of_map.filter _)
    (List.mem_filter.mpr ⟨hgroup, hsome⟩) fun g hg => ?_
  obtain ⟨hg, hany⟩ := List.mem_filter.mp hg
  obtain ⟨rule', hrule', hkeyword'⟩ := List.any_eq_true.mp hany
  obtain ⟨⟨n, _⟩, hentry, rfl⟩ := List.mem_map.mp hrule'
  obtain ⟨hplace, -⟩ := honly (g.appliesTo, n) _ ⟨g, hg, rfl, hentry⟩ (by simpa using hkeyword')
  exact h.eq_of_appliesTo_eq hg hgroup (Prod.mk.inj hplace).1

/-- There it has the only rule. -/
theorem Numbered.rules_of_only (h : r.Numbered) : group.rules.filter (·.keyword == keyword) = [rule] := by
  have hnumbered : group.numbered.filter (·.2.keyword == keyword) = [(number, rule)] := by
    have hnodup : group.numbered.Nodup :=
      .of_map Prod.fst ((h.ascending group hgroup).imp fun hlt => Nat.ne_of_lt hlt)
    refine List.eq_singleton_of_nodup (hnodup.filter _)
      (List.mem_filter.mpr ⟨hmem, by simpa using hkeyword⟩) fun entry hentry => ?_
    obtain ⟨hentry, hkeyword'⟩ := List.mem_filter.mp hentry
    obtain ⟨hplace, hrule⟩ := honly (group.appliesTo, entry.1) entry.2 ⟨group, hgroup, rfl, hentry⟩
      (by simpa using hkeyword')
    exact Prod.ext (Prod.mk.inj hplace).2 hrule
  rw [RuleGroup.rules, List.filter_map]
  exact congrArg (List.map Prod.snd) hnumbered

end

/-! ## Keywords that are read as in draft-07 -/

section

variable {r : Registry} {k : BuiltinKeyword}

/-- A rule for a keyword of draft-07, in a registry without a custom one, is draft-07's, in its place. -/
theorem Coherent.withBuiltins_holds (h : r.Coherent) (hplaced : r.Draft7Placed)
    (hcustom : r.custom.get? k.name = none) {place : Option DataType × Nat} {rule : Rule}
    (hholds : r.Holds place rule) (hkeyword : rule.keyword = k.name) :
    withBuiltins.Holds place rule ∧ rule = .ofBuiltin k := by
  rcases hplaced place rule hholds with hrule | hdraft7
  · have hfound := (h.custom k.name rule).mpr ⟨hrule, hkeyword, place, hholds⟩
    rw [hcustom] at hfound
    cases hfound
  · exact ⟨hdraft7, eq_ofBuiltin_of_withBuiltins_holds hdraft7 hkeyword⟩

/-- **A rule for a keyword of draft-07 that is not custom is draft-07's**, in a group that lists it. -/
theorem Coherent.exists_builtin (h : r.Coherent) (hplaced : r.Draft7Placed) (hhas : r.hasRule k.name = true)
    (hcustom : r.custom.get? k.name = none) : ∃ group ∈ r.groups, ∃ number,
      (number, Rule.ofBuiltin k) ∈ group.numbered ∧
      withBuiltins.Holds (group.appliesTo, number) (.ofBuiltin k) := by
  obtain ⟨places, hplaces⟩ := (Table.mem_keys_iff _ _).mp ((Table.contains_iff _ _).mp hhas)
  obtain ⟨place, hplace⟩ :=
    List.exists_mem_of_ne_nil places fun hnil => h.listed.ne_nil k.name (hnil ▸ hplaces)
  obtain ⟨rule, hholds, hkeyword⟩ := (h.listed.mem_iff k.name place).mp (by rw [hplaces]; exact hplace)
  obtain ⟨hdraft7, rfl⟩ := h.withBuiltins_holds hplaced hcustom hholds hkeyword
  obtain ⟨group, hgroup, happlies, hmem⟩ := hholds
  exact ⟨group, hgroup, place.2, hmem, by rwa [happlies]⟩

/-- The registry still has a keyword of draft-07, and no custom keyword in its stead. -/
structure Keeps (r : Registry) (k : BuiltinKeyword) : Prop where
  hasRule : r.hasRule k.name = true
  custom : r.custom.get? k.name = none

/-- The registry reads a keyword as draft-07 does: by one rule, in one group that lists it. -/
structure ReadsBuiltin (r : Registry) (k : BuiltinKeyword) (group : RuleGroup) : Prop where
  hasRule : r.hasRule k.name = true
  groups : r.groups.filter (fun g => g.rules.any (·.keyword == k.name)) = [group]
  listed : ∃ listed ∈ BuiltinKeyword.groups, listed.1 = group.appliesTo ∧ k ∈ listed.2
  rules : group.rules.filter (·.keyword == k.name) = [.ofBuiltin k]

/-- **A keyword that is not custom is read as in draft-07.** -/
theorem Coherent.readsBuiltin (h : r.Coherent) (hplaced : r.Draft7Placed) (hk : k ≠ .format)
    (hhas : r.hasRule k.name = true) (hcustom : r.custom.get? k.name = none) :
    ∃ group, r.ReadsBuiltin k group := by
  obtain ⟨group, hgroup, number, hmem, hdraft7⟩ := h.exists_builtin hplaced hhas hcustom
  have honly : ∀ place rule, r.Holds place rule → rule.keyword = k.name →
      place = (group.appliesTo, number) ∧ rule = .ofBuiltin k := by
    intro place rule hholds hkeyword
    obtain ⟨hdraft7', rfl⟩ := h.withBuiltins_holds hplaced hcustom hholds hkeyword
    exact ⟨withBuiltins_place_unique hk hdraft7' hdraft7, rfl⟩
  obtain ⟨listed, hlisted, htype, k', hk', hrule⟩ := listed_of_withBuiltins_holds hdraft7
  obtain rfl := BuiltinKeyword.ofBuiltin_injective hrule
  exact ⟨group, hhas, h.placed.groups_of_only honly hgroup hmem rfl, ⟨listed, hlisted, htype, hk'⟩,
    h.numbered.rules_of_only honly hgroup hmem rfl⟩

end

end Registry

end JsonSchema
