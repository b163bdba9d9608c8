import JsonSchema.Proofs.Registry.Runs

/-!
# What removing a keyword leaves alone

Removing a keyword that a registry does not hold changes nothing (`Coherent.remove_of_not_holds`); one that
it holds goes without a trace, and of the other keywords only those are forgotten that stood and fell with
it (`Coherent.isKnown_remove`).

Main statement: `remove_frame`.
-/

set_option autoImplicit false

namespace JsonSchema

namespace RuleGroup

theorem rules_without (g : RuleGroup) (keyword : String) :
    (g.without keyword).rules = g.rules.filter (·.keyword ≠ keyword) := by
  unfold rules
  rw [List.filter_map]
  rfl

/-- A group that a removal takes away was not built in and had rules of no other keyword. -/
theorem keyword_of_without_empty (g : RuleGroup) {keyword : String}
    (h : (g.without keyword).isBuiltin = false ∧ (g.without keyword).numbered = []) :
    g.isBuiltin = false ∧ ∀ rule ∈ g.rules, rule.keyword = keyword := by
  refine ⟨h.1, fun rule hrule => ?_⟩
  by_contra hne
  have hmem : rule ∈ (g.without keyword).rules := by
    rw [rules_without]
    exact List.mem_filter.mpr ⟨hrule, by simpa using hne⟩
  rw [rules, h.2] at hmem
  cases hmem

end RuleGroup

namespace Registry

section

variable {r : Registry}

/-! ## Groups by their types -/

/-- A type leads to the group of that type. -/
theorem Placed.group?_eq_some_iff (h : r.Placed) (appliesTo : Option DataType) (g : RuleGroup) :
    r.group? appliesTo = some g ↔ g ∈ r.groups ∧ g.appliesTo = appliesTo := by
  unfold group?
  rw [Option.bind_eq_some_iff]
  constructor
  · rintro ⟨i, hi, hg⟩
    obtain ⟨g', hg', htype⟩ := (h.get?_iff _ _).mp hi
    obtain rfl := Option.some.inj (hg'.symm.trans hg)
    exact ⟨List.mem_of_getElem? hg, htype⟩
  · rintro ⟨hg, htype⟩
    obtain ⟨i, hi⟩ := List.mem_iff_getElem?.mp hg
    exact ⟨i, (h.get?_iff _ _).mpr ⟨g, hi, htype⟩, hi⟩

/-- The group of a type after a keyword was removed: what is left of it, unless nothing is and it may
    go. -/
theorem Indexed.group?_remove (h : r.Indexed) (keyword : String) (appliesTo : Option DataType) :
    (r.remove keyword).1.group? appliesTo =
      ((r.group? appliesTo).map (·.without keyword)).filter fun g =>
        g.isBuiltin || !g.numbered.isEmpty := by
  refine Option.ext fun g' => ?_
  rw [(h.remove_placed keyword).group?_eq_some_iff, h.remove_eq, Option.filter_eq_some_iff,
    Option.map_eq_some_iff]
  show g' ∈ groupsWithout keyword r.groups ∧ _ ↔ _
  unfold groupsWithout
  rw [List.mem_filter, List.mem_map]
  constructor
  · rintro ⟨⟨⟨g, hg, rfl⟩, hkept⟩, htype⟩
    exact ⟨⟨g, (h.placed.group?_eq_some_iff _ _).mpr ⟨hg, htype⟩, rfl⟩, hkept⟩
  · rintro ⟨⟨g, hg, rfl⟩, hkept⟩
    obtain ⟨hg, htype⟩ := (h.placed.group?_eq_some_iff _ _).mp hg
    exact ⟨⟨⟨g, hg, rfl⟩, hkept⟩, htype⟩

/-! ## Removing what is not there -/

theorem not_holds_iff (r : Registry) (keyword : String) :
    r.holds keyword = false ↔
      (((keyword ∉ r.nonValidating ∧ keyword ∉ r.custom.keys) ∧ keyword ∉ r.membership.keys) ∧
        keyword ∉ r.implied.keys) ∧ keyword ∉ r.fixedImplied := by
  simp only [Bool.eq_false_iff, ne_eq, holds, Bool.or_eq_true, Table.contains_iff,
    List.contains_iff_mem, not_or]

/-- **Removing a keyword that a registry does not hold changes nothing.** -/
theorem Coherent.remove_of_not_holds (h : r.Coherent) {keyword : String}
    (hnot : r.holds keyword = false) : r.remove keyword = (r, false) := by
  obtain ⟨⟨⟨⟨hvalidating, hcustom⟩, hmembership⟩, himplied⟩, hfixed⟩ := (r.not_holds_iff keyword).mp hnot
  have hplaced := h.toIndexed.remove_placed keyword
  have hremoved := h.toIndexed.remove_eq keyword
  rw [h.groupsWithout_eq hmembership, Table.erase_eq_self hmembership, List.erase_of_not_mem hfixed,
    h.forget_eq hmembership himplied, List.erase_of_not_mem hvalidating, Table.erase_eq_self hcustom,
    hnot] at hremoved
  have hbyType : (r.remove keyword).1.byType = r.byType := by
    apply Table.eq_of_entries
    rw [hplaced, hremoved, h.placed]
  rw [hremoved, hbyType]

/-- Nothing is held under a name once it was removed. -/
theorem Coherent.holds_remove_self (h : r.Coherent) (keyword : String) :
    (r.remove keyword).1.holds keyword = false := by
  rw [not_holds_iff, h.toIndexed.remove_eq]
  refine ⟨⟨⟨⟨h.nonValidating_nodup.not_mem_erase, ?_⟩, ?_⟩, ?_⟩, h.credited.fixed_nodup.not_mem_erase⟩
  · rw [← Table.get?_eq_none_iff, Table.get?_erase, if_pos rfl]
  · rw [← Table.get?_eq_none_iff, Table.get?_erase, if_pos rfl]
  · rw [← Table.get?_eq_none_iff]
    show (forget keyword _ r.implied).get? keyword = none
    rw [forget, Table.get?_filterMap, Table.get?_erase, if_pos rfl]
    rfl

/-! ## What is still known -/

/-- The keyword is known for nothing but that the other keyword takes care of it. -/
structure OnlyThrough (r : Registry) (keyword other : String) : Prop where
  noRule : r.hasRule keyword = false
  validating : keyword ∉ r.nonValidating
  notEngine : keyword ∉ engineKeywords
  notFixed : keyword ∉ r.fixedImplied
  implied : r.implied.get? keyword = some [other]

theorem onlyThrough_iff {keyword other : String} : r.OnlyThrough keyword other ↔
    keyword ∉ r.membership.keys ∧ keyword ∉ r.nonValidating ∧ keyword ∉ engineKeywords ∧
      keyword ∉ r.fixedImplied ∧ r.implied.get? keyword = some [other] := by
  rw [← Table.contains_iff, Bool.not_eq_true]
  exact ⟨fun h => ⟨h.1, h.2, h.3, h.4, h.5⟩, fun h => ⟨h.1, h.2.1, h.2.2.1, h.2.2.2.1, h.2.2.2.2⟩⟩

/-- An implied keyword stays implied unless the removed one was the only one to take care of it. -/
theorem Indexed.implied_remove (h : r.Indexed) {keyword other : String} (hne : other ≠ keyword) :
    other ∈ (r.remove keyword).1.implied.keys ↔ other ∈ r.implied.keys ∧
      (r.implied.get? other = some [keyword] → other ∈ r.fixedImplied) := by
  rw [Table.mem_keys_iff, Table.mem_keys_iff, h.remove_eq]
  dsimp only [forget]
  rw [Table.get?_filterMap, Table.get?_erase, if_neg hne]
  cases hnames : r.implied.get? other with
  | none => simp
  | some names =>
    have hkept : names = [] → other ∈ r.fixedImplied := fun heq => h.credited.kept (heq ▸ hnames)
    by_cases hfixed : other ∈ r.fixedImplied
    · simp [hfixed, hne, List.mem_erase_of_ne]
    · have hnone : names ≠ [] := fun heq => hfixed (hkept heq)
      simp [hfixed, List.mem_erase_of_ne hne, hnone]

theorem OnlyThrough.isKnown {keyword other : String} (h : r.OnlyThrough keyword other) :
    r.isKnown keyword = true := by
  have hmem : keyword ∈ r.implied.keys := (Table.mem_keys_iff _ _).mpr ⟨_, h.implied⟩
  simp [Registry.isKnown, Table.contains_iff, hmem]

/-- **Of the other keywords, exactly those that were known through the removed one alone are forgotten.** -/
theorem Coherent.isKnown_remove (h : r.Coherent) {keyword other : String} (hne : other ≠ keyword) :
    (r.remove keyword).1.isKnown other = true ↔
      r.isKnown other = true ∧ ¬r.OnlyThrough other keyword := by
  have hrule : other ∈ (r.remove keyword).1.membership.keys ↔ other ∈ r.membership.keys := by
    rw [h.toIndexed.remove_eq, Table.mem_keys_iff, Table.mem_keys_iff, Table.get?_erase, if_neg hne]
  have hvalidating : other ∈ (r.remove keyword).1.nonValidating ↔ other ∈ r.nonValidating := by
    rw [h.toIndexed.remove_eq]
    exact List.mem_erase_of_ne hne
  have himplied : r.implied.get? other = some [keyword] → other ∈ r.implied.keys := fun heq =>
    (Table.mem_keys_iff _ _).mpr ⟨_, heq⟩
  simp only [Registry.isKnown, Bool.or_eq_true, Table.contains_iff, List.contains_iff_mem, hrule, hvalidating,
    h.toIndexed.implied_remove hne]
  rw [onlyThrough_iff]
  grind

/-! ## The frame of a removal, part by part -/

/-- Nothing is left of the removed keyword, but that the engine may know its name. -/
theorem Coherent.remove_leaves_nothing (h : r.Coherent) (keyword : String) :
    (r.remove keyword).1.isKnown keyword = engineKeywords.contains keyword ∧
      (r.remove keyword).1.hasRule keyword = false ∧ (r.remove keyword).1.custom.get? keyword = none ∧
      ∀ g ∈ (r.remove keyword).1.groups, keyword ∉ g.keywords := by
  obtain ⟨⟨⟨⟨hvalidating, hcustom⟩, hrule⟩, himplied⟩, -⟩ :=
    (not_holds_iff _ keyword).mp (h.holds_remove_self keyword)
  refine ⟨?_, ?_, (Table.get?_eq_none_iff _ _).mpr hcustom, ?_⟩
  · rw [Bool.eq_iff_iff]
    simp [Registry.isKnown, Table.contains_iff, hvalidating, hrule, himplied]
  · rwa [Registry.hasRule, Bool.eq_false_iff, ne_eq, Table.contains_iff]
  · intro g hg hmem
    obtain ⟨rule, hrules, rfl⟩ := List.mem_map.mp hmem
    obtain ⟨e, he, rfl⟩ := List.mem_map.mp hrules
    exact @Listed.keyword_ne _ (h.remove _).listed _ hrule (g.appliesTo, e.1) _ ⟨g, hg, rfl, he⟩ rfl

/-- The rules for a type are those of the other keywords, in their order. -/
theorem Indexed.rules_remove (h : r.Indexed) (keyword : String) (appliesTo : Option DataType) :
    (((r.remove keyword).1.group? appliesTo).map RuleGroup.rules).getD [] =
      (((r.group? appliesTo).map RuleGroup.rules).getD []).filter (·.keyword ≠ keyword) := by
  rw [h.group?_remove keyword appliesTo]
  cases r.group? appliesTo with
  | none => rfl
  | some g =>
    rw [Option.map_some, Option.filter_some]
    split
    · exact g.rules_without keyword
    · next hgone =>
      obtain ⟨-, hempty⟩ : (g.without keyword).isBuiltin = false ∧
          (g.without keyword).numbered = [] := by simpa using hgone
      rw [Option.map_some, Option.getD_some, ← g.rules_without, RuleGroup.rules, hempty]
      rfl

/-- A group that goes was not built in and had no rules of other keywords. -/
theorem Indexed.group_gone (h : r.Indexed) {keyword : String} {g : RuleGroup} (hg : g ∈ r.groups)
    (hnone : (r.remove keyword).1.group? g.appliesTo = none) :
    g.isBuiltin = false ∧ ∀ rule ∈ g.rules, rule.keyword = keyword := by
  rw [h.group?_remove keyword, (h.placed.group?_eq_some_iff g.appliesTo g).mpr ⟨hg, rfl⟩,
    Option.map_some, Option.filter_some] at hnone
  split at hnone
  · cases hnone
  · next hgone => exact g.keyword_of_without_empty (by simpa using hgone)

/-- Another keyword keeps its rules, and is forgotten only if it was known through the removed one alone. -/
theorem Coherent.remove_spares (h : r.Coherent) {keyword other : String} (hne : other ≠ keyword) :
    (r.remove keyword).1.hasRule other = r.hasRule other ∧
      (r.remove keyword).1.custom.get? other = r.custom.get? other ∧
      ((r.remove keyword).1.isKnown other ≠ r.isKnown other ↔ r.OnlyThrough other keyword) := by
  refine ⟨?_, ?_, ?_⟩
  · rw [h.toIndexed.remove_eq, Registry.hasRule, Table.contains, Table.get?_erase, if_neg hne]
    rfl
  · rw [h.toIndexed.remove_eq, Table.get?_erase, if_neg hne]
  · rw [ne_eq, Bool.eq_iff_iff, h.isKnown_remove hne]
    have hknown := @OnlyThrough.isKnown r other keyword
    tauto

end

end Registry

/-! ## The frame of a removal -/

/-- **Removing a keyword takes away what is its own and nothing else**, from whatever registry:
    * nothing is left of it, but that the engine may know its name;
    * all other rules stay in their groups, in their order, and the groups in theirs;
    * a group goes only if it is not built in and has no other rules;
    * of the other keywords, exactly those are forgotten that have no rule, would check something, are not
      fixed and had no keyword to take care of them but this one;
    * to remove it once more changes nothing, and says so. -/
theorem remove_frame {options : Options} {c : Compiler} (h : c.Reached options) (keyword : String) :
    let r := c.registry
    let r' := (r.remove keyword).1
    (r'.isKnown keyword = engineKeywords.contains keyword ∧ r'.hasRule keyword = false ∧
      r'.custom.get? keyword = none ∧ ∀ g ∈ r'.groups, keyword ∉ g.keywords) ∧
    (r'.groups = Registry.groupsWithout keyword r.groups ∧
      ∀ appliesTo, ((r'.group? appliesTo).map RuleGroup.rules).getD [] =
        (((r.group? appliesTo).map RuleGroup.rules).getD []).filter (·.keyword ≠ keyword)) ∧
    (∀ g ∈ r.groups, r'.group? g.appliesTo = none →
      g.isBuiltin = false ∧ ∀ rule ∈ g.rules, rule.keyword = keyword) ∧
    (∀ other ≠ keyword, r'.hasRule other = r.hasRule other ∧
      r'.custom.get? other = r.custom.get? other ∧
      (r'.isKnown other ≠ r.isKnown other ↔ r.OnlyThrough other keyword)) ∧
    r'.remove keyword = (r', false) := by
  intro r r'
  have hr : r.Coherent := h.coherent
  have hgroups : r'.groups = Registry.groupsWithout keyword r.groups := by
    rw [show r' = _ from congrArg Prod.fst (hr.remove_eq keyword)]
  exact ⟨hr.remove_leaves_nothing keyword, ⟨hgroups, hr.rules_remove keyword⟩,
    fun g hg hnone => hr.group_gone hg hnone, fun other hne => hr.remove_spares hne,
    (hr.remove keyword).remove_of_not_holds (hr.holds_remove_self keyword)⟩

/-- A keyword that takes care of an unknown one takes it along, but not the one of draft-07; removing it
    once more changes nothing. -/
theorem blank_frame : ∃ c, (Compiler.new {}).addKeyword "blank" blank true = .ok c ∧ c.Reached {} ∧
    let r' := (c.registry.remove "blank").1
    c.registry.isKnown "nil" = true ∧ r'.isKnown "nil" = false ∧
      r'.isKnown "additionalItems" = c.registry.isKnown "additionalItems" ∧
      r'.remove "blank" = (r', false) := by
  have hnames : ((Compiler.new {}).addKeyword "blank" blank true).toOption.any (fun c =>
      c.registry.implied.get? "nil" == some ["blank"] && c.registry.fixedImplied == ["additionalItems",
        "additionalProperties", "patternProperties", "then", "else"] &&
      !c.registry.hasRule "nil" && !c.registry.nonValidating.contains "nil") = true := by decide +kernel
  cases hc : (Compiler.new {}).addKeyword "blank" blank true with
  | error e =>
    rw [hc] at hnames
    cases hnames
  | ok c =>
    rw [hc] at hnames
    simp only [Except.toOption, Option.any_some, Bool.and_eq_true, beq_iff_eq, Bool.not_eq_true'] at hnames
    obtain ⟨⟨⟨himplied, hfixed⟩, hrule⟩, hvalidating⟩ := hnames
    have hreached := Compiler.Reached.new.addKeyword hc
    obtain ⟨-, -, -, hothers, hagain⟩ := remove_frame hreached "blank"
    have honly : c.registry.OnlyThrough "nil" "blank" :=
      ⟨hrule, by simpa using hvalidating, by decide, by rw [hfixed]; decide, himplied⟩
    have hnot : ¬c.registry.OnlyThrough "additionalItems" "blank" := fun h => h.notFixed (by rw [hfixed]; decide)
    have hnil := (hothers "nil" (by decide)).2.2.mpr honly
    have hitems := not_imp_not.mpr (hothers "additionalItems" (by decide)).2.2.mp hnot
    rw [honly.isKnown] at hnil
    exact ⟨c, rfl, hreached, honly.isKnown, by simpa using hnil, not_not.mp hitems, hagain⟩

end JsonSchema
