import JsonSchema.Proofs.Registry.Runs
import Mathlib.Algebra.BigOperators.Group.Finset.Basic
import Mathlib.Algebra.GroupWithZero.Nat

/-!
# Where custom rules stand

A definition becomes one rule, which stands once in the group of each type that the definition lists, or in
that of all data (`Registry.SpreadOver`).  Whatever else is added and removed, it stays so as long as the
keyword is there (`Compiler.Reached.customSpread`).  How often a group has the rule can then be counted on
the list of types (`SpreadOver.count_rules`), and over all groups that concern some data as well
(`SpreadOver.sum_count_rules`).
-/

set_option autoImplicit false

namespace JsonSchema

namespace Registry

/-- All rules of the keyword are the one, which stands once for each of the types. -/
structure SpreadOver (r : Registry) (keyword : String) (rule : Rule) (types : List DataType) : Prop where
  only : ∀ place rule', r.Holds place rule' → rule'.keyword = keyword → rule' = rule
  places : ((r.membership.get? keyword).getD []).map Prod.fst = placesOf types

/-- Every custom keyword has one rule, which stands once for each type of its definition. -/
def CustomSpread (r : Registry) : Prop :=
  ∀ keyword rule, r.custom.get? keyword = some rule → keyword ∉ engineKeywords ∧
    ∃ definition metaValidator, rule = .ofCustom keyword definition metaValidator ∧
      r.SpreadOver keyword rule definition.types

section

variable {r : Registry}

/-! ## Adding and removing -/

/-- The places of a rule that is added to some groups stand behind those that there were. -/
theorem membership_foldl_insert (rule : Rule) (places : List (Option DataType)) (keyword : String) :
    ∀ r : Registry,
      (((places.foldl (fun r appliesTo => r.insert appliesTo rule) r).membership.get? keyword).getD []).map
          Prod.fst =
        ((r.membership.get? keyword).getD []).map Prod.fst ++ if keyword = rule.keyword then places else [] := by
  induction places with
  | nil =>
    intro r
    rw [ite_self, List.append_nil]
    rfl
  | cons appliesTo rest ih =>
    intro r
    rw [List.foldl_cons, ih, insert_eq, Table.get?_set]
    split
    · next heq => simp [heq]
    · rfl

/-- A custom rule that is added is the one under its keyword. -/
theorem get?_addCustom (r : Registry) (rule : Rule) (types : List DataType) (keyword : String) :
    (r.addCustom rule types).custom.get? keyword =
      if keyword = rule.keyword then some rule else r.custom.get? keyword := by
  have hsame := @foldl_insert_induct (fun r' => r'.custom = r.custom) rule
    (fun _ _ hr => by rw [insert_eq, hr]) (placesOf types) r rfl
  rw [addCustom_eq]
  show (Table.set _ _ _).get? keyword = _
  rw [hsame, Table.get?_set]

/-- **A keyword that is added stands once for each of its types**, and the others where they stood. -/
theorem CustomSpread.addCustom (h : r.CustomSpread) (hr : r.Coherent) {name : String}
    {definition : KeywordDefinition} {metaValidator : Option Validator} (hunknown : r.isKnown name = false) :
    (r.addCustom (.ofCustom name definition metaValidator) definition.types).CustomSpread := by
  obtain ⟨⟨⟨hmembership, -⟩, -⟩, hengine⟩ := (r.isKnown_eq_false_iff _).mp hunknown
  have hholds : ∀ {place rule'},
      (r.addCustom (.ofCustom name definition metaValidator) definition.types).Holds place rule' →
        (∃ place, r.Holds place rule') ∨ rule' = .ofCustom name definition metaValidator := by
    intro place rule' hplace
    exact ((holds_foldl_insert hr.placed (placesOf definition.types)).mp ⟨place, hplace⟩).imp_right And.right
  intro keyword rule hrule
  rw [get?_addCustom] at hrule
  change (if keyword = name then _ else _) = _ at hrule
  by_cases hkeyword : keyword = name
  · subst hkeyword
    rw [if_pos rfl] at hrule
    obtain rfl := Option.some.inj hrule
    refine ⟨hengine, definition, metaValidator, rfl, fun place rule' hplace hname => ?_, ?_⟩
    · rcases hholds hplace with ⟨place', hold⟩ | hnew
      · exact absurd hname (hr.listed.keyword_ne hmembership hold)
      · exact hnew
    · refine (membership_foldl_insert _ _ _ r).trans ?_
      rw [(r.membership.get?_eq_none_iff _).mpr hmembership]
      exact if_pos rfl
  · rw [if_neg hkeyword] at hrule
    obtain ⟨hother, definition', metaValidator', rfl, honly, hplaces⟩ := h keyword rule hrule
    refine ⟨hother, definition', metaValidator', rfl, fun place rule' hplace hname => ?_, ?_⟩
    · rcases hholds hplace with ⟨place', hold⟩ | rfl
      · exact honly place' rule' hold hname
      · exact absurd hname.symm hkeyword
    · refine (membership_foldl_insert _ _ _ r).trans ?_
      rw [if_neg (show keyword ≠ Rule.keyword _ from hkeyword), List.append_nil, hplaces]

theorem CustomSpread.remove (h : r.CustomSpread) (hr : r.Indexed) (name : String) :
    (r.remove name).1.CustomSpread := by
  intro keyword rule hrule
  have hremoved := hr.remove_eq name
  rw [hremoved] at hrule
  change (Table.erase _ _).get? keyword = _ at hrule
  rw [Table.get?_erase] at hrule
  split at hrule
  · cases hrule
  · next hkeyword =>
    obtain ⟨hengine, definition, metaValidator, heq, honly, hplaces⟩ := h keyword rule hrule
    refine ⟨hengine, definition, metaValidator, heq, fun place rule' hplace => ?_, ?_⟩
    · exact honly place rule' (hr.holds_remove.mp hplace).1
    · rw [hremoved]
      show ((Table.erase _ _).get? keyword |>.getD []).map Prod.fst = _
      rw [Table.get?_erase, if_neg hkeyword, hplaces]

theorem withBuiltins_customSpread : withBuiltins.CustomSpread := by
  have hnone : withBuiltins.custom.entries.isEmpty = true := by decide +kernel
  intro keyword rule hrule
  rw [← Table.mem_entries_iff, List.isEmpty_iff.mp hnone] at hrule
  cases hrule

/-! ## Counting rules -/

/-- The entries of a list with a property are counted entry by entry of a list that has them all once. -/
theorem sum_map_count {α : Type} [DecidableEq α] {all xs : List α} (hnodup : all.Nodup)
    (hall : ∀ x ∈ xs, x ∈ all) (p : α → Bool) :
    (all.map fun x => if p x then xs.countP (· = x) else 0).sum = xs.countP p := by
  have hfiltered : ∀ x, (if p x then xs.countP (· = x) else 0) = (xs.filter p : Multiset α).count x := by
    intro x
    rw [Multiset.coe_count]
    split
    · next hx => exact (List.count_filter hx).symm
    · next hx => exact (List.count_eq_zero.mpr fun hmem => hx (List.mem_filter.mp hmem).2).symm
  rw [List.map_congr_left fun x _ => hfiltered x, ← List.sum_toFinset _ hnodup,
    Multiset.sum_count_eq_card, Multiset.coe_card, List.countP_eq_length_filter]
  intro x hx
  exact List.mem_toFinset.mpr (hall x (List.mem_of_mem_filter hx))

/-- A group has as many rules of a keyword as the keyword has places of its type. -/
theorem Indexed.count_rules (h : r.Indexed) {g : RuleGroup} (hg : g ∈ r.groups) (keyword : String) :
    (g.rules.filter (·.keyword = keyword)).length =
      (((r.membership.get? keyword).getD []).map Prod.fst).countP (· = g.appliesTo) := by
  have hplaces : (g.numbered.filter (·.2.keyword = keyword)).map (fun e => (g.appliesTo, e.1)) |>.Perm
      (((r.membership.get? keyword).getD []).filter (·.1 = g.appliesTo)) := by
    refine (List.perm_ext_iff_of_nodup ?_ ((h.listed.nodup keyword).filter _)).mpr fun place => ?_
    · refine List.Nodup.of_map Prod.snd ?_
      rw [List.map_map]
      refine List.Nodup.sublist (List.filter_sublist.map _) ?_
      exact (h.numbered.ascending g hg).imp fun hlt => Nat.ne_of_lt hlt
    · rw [List.mem_filter, h.listed.mem_iff, List.mem_map]
      constructor
      · rintro ⟨e, he, rfl⟩
        obtain ⟨he, hkeyword⟩ := List.mem_filter.mp he
        exact ⟨⟨e.2, ⟨g, hg, rfl, he⟩, by simpa using hkeyword⟩, by simp⟩
      · rintro ⟨⟨rule, ⟨g', hg', htype, hmem⟩, hkeyword⟩, htype'⟩
        have htype' : place.1 = g.appliesTo := by simpa using htype'
        obtain rfl := h.placed.eq_of_appliesTo_eq hg' hg (htype.trans htype')
        exact ⟨(place.2, rule), List.mem_filter.mpr ⟨hmem, by simpa using hkeyword⟩,
          Prod.ext htype rfl⟩
  have hlength := hplaces.length_eq
  rw [List.length_map] at hlength
  rw [RuleGroup.rules, List.filter_map, List.length_map]
  refine hlength.trans ?_
  rw [List.countP_map, List.countP_eq_length_filter]
  rfl

/-- The groups have all places of a keyword between them. -/
theorem Indexed.sum_count_rules (h : r.Indexed) (keyword : String) (p : Option DataType → Bool) :
    (r.groups.map fun g => if p g.appliesTo then (g.rules.filter (·.keyword = keyword)).length else 0).sum =
      (((r.membership.get? keyword).getD []).map Prod.fst).countP p := by
  have hgroups : ∀ place ∈ ((r.membership.get? keyword).getD []).map Prod.fst,
      place ∈ r.groups.map RuleGroup.appliesTo := by
    intro place hplace
    obtain ⟨e, he, rfl⟩ := List.mem_map.mp hplace
    obtain ⟨rule, ⟨g, hg, htype, -⟩, -⟩ := (h.listed.mem_iff keyword e).mp he
    exact List.mem_map.mpr ⟨g, hg, htype⟩
  have hcount : (r.groups.map fun g =>
        if p g.appliesTo then (g.rules.filter (·.keyword = keyword)).length else 0) =
      (r.groups.map RuleGroup.appliesTo).map fun type =>
        if p type then (((r.membership.get? keyword).getD []).map Prod.fst).countP (· = type) else 0 := by
    rw [List.map_map]
    refine List.map_congr_left fun g hg => ?_
    rw [h.count_rules hg keyword]
    rfl
  rw [hcount]
  exact sum_map_count h.placed.types_nodup hgroups p

end

end Registry

/-- **A custom keyword has one rule, once for each type that its definition lists.** -/
theorem Compiler.Reached.customSpread {options : Options} {c : Compiler} (h : c.Reached options) :
    c.registry.CustomSpread := by
  have hboth := h.registry_induct (P := fun r => r.Coherent ∧ r.CustomSpread)
    ⟨Registry.withBuiltins_coherent, Registry.withBuiltins_customSpread⟩
    (fun r name definition metaValidator hr hunknown =>
      ⟨hr.1.addCustom hunknown rfl definition.types, hr.2.addCustom hr.1 hunknown⟩)
    (fun r name hr => ⟨hr.1.remove name, hr.2.remove hr.1.toIndexed name⟩)
  exact hboth.2

namespace Compiler

theorem getKeyword_eq_custom_iff {c : Compiler} {name : String} {definition : KeywordDefinition} :
    c.getKeyword name = .custom definition ↔
      ∃ rule, c.registry.custom.get? name = some rule ∧ rule.definition? = some definition := by
  rw [← Option.bind_eq_some_iff]
  unfold getKeyword
  cases (c.registry.custom.get? name).bind Rule.definition? with
  | some definition' => exact ⟨fun h => congrArg some (KeywordInfo.custom.inj h),
      fun h => congrArg KeywordInfo.custom (Option.some.inj h)⟩
  | none =>
    dsimp only
    cases c.registry.isKnown name with
    | true => exact ⟨nofun, nofun⟩
    | false => exact ⟨nofun, nofun⟩

/-- A keyword that was added is custom, with the definition that it was given; one without names has the
    keyword's. -/
theorem getKeyword_addKeyword {c c' : Compiler} {name : String} {definition : KeywordDefinition}
    {checked : Bool} (h : c.addKeyword name definition checked = .ok c') :
    c'.getKeyword name = .custom
      (if definition.keywords.isEmpty then { definition with keywords := [name] } else definition) := by
  obtain ⟨registry, hregistry, heq⟩ := bind_eq_ok.mp h
  obtain ⟨-, metaValidator, rfl⟩ := register_eq_ok hregistry
  obtain rfl := Except.ok.inj heq
  rw [getKeyword_eq_custom_iff]
  refine ⟨_, (Registry.get?_addCustom _ _ _ name).trans (if_pos rfl), rfl⟩

end Compiler

end JsonSchema
