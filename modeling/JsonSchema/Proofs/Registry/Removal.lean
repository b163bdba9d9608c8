import JsonSchema.Proofs.Registry.Coherence

/-!
# Removing keywords

Removing a keyword takes its rules out of the groups, drops the groups that have none left, and takes its
name out of all tables (`Indexed.remove_eq`).  A registry stays coherent (`Coherent.remove`).
-/

set_option autoImplicit false

namespace JsonSchema

namespace Registry

/-- What is left of the groups without a keyword. -/
def groupsWithout (keyword : String) (groups : List RuleGroup) : List RuleGroup :=
  (groups.map (·.without keyword)).filter fun g => g.isBuiltin || !g.numbered.isEmpty

/-- Takes a keyword out of a table of implied keywords; a keyword that no other takes care of any longer
    stays only if it is fixed. -/
def forget (keyword : String) (fixed : List String) (t : Table String (List String)) :
    Table String (List String) :=
  (t.erase keyword).filterMap fun name keywords =>
    if (keywords.erase keyword).isEmpty && !fixed.contains name then none
    else some (keywords.erase keyword)

section

variable {r : Registry}

/-! ## Removing a keyword -/

/-- Dropping what stands at some places, one after the other, drops it at once. -/
theorem Placed.foldl_dropRule (h : r.Placed) (places : List (Option DataType × Nat)) :
    ∀ groups : List RuleGroup, groups.map RuleGroup.appliesTo = r.groups.map RuleGroup.appliesTo →
      places.foldl (fun groups (appliesTo, number) =>
        match r.byType.get? appliesTo with
        | some i => groups.modify i (·.dropRule number)
        | none => groups) groups =
      groups.map fun g =>
        { g with numbered := g.numbered.filter fun e => decide ((g.appliesTo, e.1) ∉ places) } := by
  induction places with
  | nil =>
    intro groups _
    simp
  | cons place rest ih =>
    intro groups hgroups
    obtain ⟨appliesTo, number⟩ := place
    have htypes := map_appliesTo_changeOf (f := (·.dropRule number)) (fun _ => rfl) appliesTo groups
    refine (congrArg (List.foldl _ · rest) (h.change hgroups appliesTo (·.dropRule number))).trans ?_
    rw [ih _ (htypes.trans hgroups), List.map_map]
    refine List.map_congr_left fun g _ => ?_
    unfold RuleGroup.changeOf RuleGroup.dropRule
    by_cases heq : g.appliesTo = appliesTo
    · simp [heq, List.filter_filter, Bool.and_comm]
    · simp [heq]

/-- The rules at the places of a keyword are its rules. -/
theorem Indexed.dropRules_groups (h : r.Indexed) (keyword : String) :
    (r.dropRules keyword).groups = r.groups.map (·.without keyword) := by
  have hplaces : ∀ g ∈ r.groups, ∀ e ∈ g.numbered,
      (g.appliesTo, e.1) ∈ (r.membership.get? keyword).getD [] ↔ e.2.keyword = keyword := by
    intro g hg e he
    have hplace : r.Holds (g.appliesTo, e.1) e.2 := ⟨g, hg, rfl, he⟩
    rw [h.listed.mem_iff]
    constructor
    · rintro ⟨rule, hrule, rfl⟩
      rw [(h.numbered.unique hplace hrule rfl).2]
    · exact fun heq => ⟨e.2, hplace, heq⟩
  show List.foldl _ r.groups ((r.membership.get? keyword).getD []) = _
  refine (h.placed.foldl_dropRule _ _ rfl).trans (List.map_congr_left fun g hg => ?_)
  show RuleGroup.mk _ _ _ = RuleGroup.mk _ _ _
  congr 1
  refine List.filter_congr fun e he => ?_
  rw [decide_eq_decide, hplaces g hg e he]

theorem dropEmptyGroups_eq (r : Registry) :
    r.dropEmptyGroups =
      { r with
        groups := r.groups.filter fun g => g.isBuiltin || !g.numbered.isEmpty
        byType := r.dropEmptyGroups.byType } := by
  unfold dropEmptyGroups
  dsimp only
  split
  · next hlength =>
    have hall := List.filter_eq_self.mpr (List.length_filter_eq_length_iff.mp hlength)
    rw [hall]
  · rfl

theorem Placed.dropEmptyGroups (h : r.Placed) : r.dropEmptyGroups.Placed := by
  unfold Registry.dropEmptyGroups
  dsimp only
  split
  · exact h
  · have htypes := h.types_nodup.sublist
      ((List.filter_sublist (p := fun g => g.isBuiltin || !g.numbered.isEmpty)).map RuleGroup.appliesTo)
    rw [Placed, reindex, List.zipIdx_map]
    refine Table.entries_ofList ?_
    rw [List.map_map]
    rwa [← List.zipIdx_map_fst 0 (List.filter _ r.groups), List.map_map] at htypes

/-- **What removing a keyword does**: its rules go, and the groups that have none left; and it is no longer
    said to take care of others. -/
theorem Indexed.remove_eq (h : r.Indexed) (keyword : String) :
    r.remove keyword =
      ({ groups := groupsWithout keyword r.groups
         byType := (r.remove keyword).1.byType
         membership := r.membership.erase keyword
         implied := forget keyword (r.fixedImplied.erase keyword) r.implied
         fixedImplied := r.fixedImplied.erase keyword
         nonValidating := r.nonValidating.erase keyword
         custom := r.custom.erase keyword
         nextNumber := r.nextNumber }, r.holds keyword) := by
  unfold groupsWithout
  rw [← h.dropRules_groups keyword]
  unfold Registry.remove
  dsimp only
  rw [dropEmptyGroups_eq]
  rfl

theorem Placed.of_types {r r' : Registry} (h : r.Placed) (hbyType : r'.byType = r.byType)
    (htypes : r'.groups.map RuleGroup.appliesTo = r.groups.map RuleGroup.appliesTo) : r'.Placed := by
  rw [Placed, hbyType, htypes]
  exact h

theorem Indexed.remove_placed (h : r.Indexed) (keyword : String) : (r.remove keyword).1.Placed := by
  refine Placed.dropEmptyGroups (Placed.of_types h.placed rfl ?_)
  show (r.dropRules keyword).groups.map RuleGroup.appliesTo = _
  rw [h.dropRules_groups, List.map_map]
  rfl

/-- All other rules stay where they are. -/
theorem Indexed.holds_remove (h : r.Indexed) {keyword : String} {place : Option DataType × Nat}
    {rule : Rule} :
    (r.remove keyword).1.Holds place rule ↔ r.Holds place rule ∧ rule.keyword ≠ keyword := by
  rw [h.remove_eq]
  unfold Holds groupsWithout RuleGroup.without
  constructor
  · rintro ⟨g', hg', htype, hmem⟩
    obtain ⟨g, hg, rfl⟩ := List.mem_map.mp (List.mem_of_mem_filter hg')
    obtain ⟨hmem, hne⟩ := List.mem_filter.mp hmem
    exact ⟨⟨g, hg, htype, hmem⟩, by simpa using hne⟩
  · rintro ⟨⟨g, hg, htype, hmem⟩, hne⟩
    have hstays : (place.2, rule) ∈ g.numbered.filter (·.2.keyword ≠ keyword) :=
      List.mem_filter.mpr ⟨hmem, by simpa using hne⟩
    refine ⟨g.without keyword, List.mem_filter.mpr ⟨List.mem_map_of_mem hg, ?_⟩, htype, hstays⟩
    show (g.isBuiltin || !(g.numbered.filter (·.2.keyword ≠ keyword)).isEmpty) = true
    rw [List.isEmpty_eq_false_iff.mpr (List.ne_nil_of_mem hstays), Bool.not_false, Bool.or_true]

theorem Indexed.remove_numbered (h : r.Indexed) (keyword : String) : (r.remove keyword).1.Numbered := by
  refine ⟨fun g' hg' => ?_, fun {_ _ _ _} h₁ h₂ => ?_, fun {_ _} hplace => ?_⟩
  · rw [h.remove_eq] at hg'
    obtain ⟨g, hg, rfl⟩ := List.mem_map.mp (List.mem_of_mem_filter hg')
    exact (h.numbered.ascending g hg).sublist (List.filter_sublist.map _)
  · exact h.numbered.unique (h.holds_remove.mp h₁).1 (h.holds_remove.mp h₂).1
  · rw [h.remove_eq]
    exact h.numbered.below (h.holds_remove.mp hplace).1

theorem Indexed.remove_listed (h : r.Indexed) (keyword : String) : (r.remove keyword).1.Listed := by
  have hmembership : ∀ other, (r.remove keyword).1.membership.get? other =
      if other = keyword then none else r.membership.get? other := by
    intro other
    rw [h.remove_eq]
    exact Table.get?_erase ..
  refine ⟨fun other place => ?_, fun other => ?_, fun other => ?_⟩
  · rw [hmembership]
    simp only [h.holds_remove, and_assoc]
    by_cases heq : other = keyword
    · subst heq
      simp
    · rw [if_neg heq, h.listed.mem_iff]
      refine exists_congr fun rule => and_congr_right fun _ => ?_
      exact ⟨fun hname => ⟨hname ▸ heq, hname⟩, And.right⟩
  · rw [hmembership]
    split
    · exact List.nodup_nil
    · exact h.listed.nodup other
  · rw [hmembership]
    split
    · exact nofun
    · exact h.listed.ne_nil other

/-- What is left of the names that take care of an implied keyword. -/
theorem Indexed.implied_of_remove (h : r.Indexed) {keyword other : String} {names' : List String}
    (hnames' : (r.remove keyword).1.implied.get? other = some names') :
    other ≠ keyword ∧ ∃ names, r.implied.get? other = some names ∧ names' = names.erase keyword ∧
      (names' = [] → other ∈ r.fixedImplied.erase keyword) := by
  rw [h.remove_eq] at hnames'
  dsimp only [forget] at hnames'
  rw [Table.get?_filterMap, Table.get?_erase] at hnames'
  by_cases heq : other = keyword
  · rw [if_pos heq] at hnames'
    cases hnames'
  · rw [if_neg heq] at hnames'
    obtain ⟨names, hnames, hkept⟩ := Option.bind_eq_some_iff.mp hnames'
    split at hkept
    · cases hkept
    · next hstays =>
      obtain rfl := Option.some.inj hkept
      refine ⟨heq, names, hnames, rfl, fun hempty => ?_⟩
      simpa [hempty] using hstays

theorem Indexed.remove_credited (h : r.Indexed) (keyword : String) : (r.remove keyword).1.Credited := by
  have hfixed : (r.remove keyword).1.fixedImplied = r.fixedImplied.erase keyword := by
    rw [h.remove_eq]
  refine ⟨fun {other names'} hnames' name hname => ?_, fun {other names'} hnames' => ?_,
    fun {other} hnone => ?_, fun other hother => ?_, ?_⟩
  · obtain ⟨-, names, hnames, rfl, -⟩ := h.implied_of_remove hnames'
    obtain ⟨hne, hmem⟩ := (h.credited.nodup hnames).mem_erase_iff.mp hname
    obtain ⟨place, rule, hplace, rfl, himplements⟩ := h.credited.implements hnames name hmem
    exact ⟨place, rule, h.holds_remove.mpr ⟨hplace, hne⟩, rfl, himplements⟩
  · obtain ⟨-, names, hnames, rfl, -⟩ := h.implied_of_remove hnames'
    exact (h.credited.nodup hnames).erase _
  · obtain ⟨-, -, -, -, hkept⟩ := h.implied_of_remove hnone
    rw [hfixed]
    exact hkept rfl
  · rw [hfixed] at hother
    obtain ⟨hne, hmem⟩ := h.credited.fixed_nodup.mem_erase_iff.mp hother
    obtain ⟨names, hnames⟩ := (Table.mem_keys_iff _ _).mp (h.credited.fixed other hmem)
    rw [Table.mem_keys_iff, h.remove_eq]
    refine ⟨names.erase keyword, ?_⟩
    dsimp only [forget]
    rw [Table.get?_filterMap, Table.get?_erase, if_neg hne, hnames]
    simp [hne, hmem, List.mem_erase_of_ne]
  · rw [hfixed]
    exact h.credited.fixed_nodup.erase _

theorem Indexed.remove (h : r.Indexed) (keyword : String) : (r.remove keyword).1.Indexed where
  placed := h.remove_placed keyword
  numbered := h.remove_numbered keyword
  listed := h.remove_listed keyword
  credited := h.remove_credited keyword
  nonValidating_nodup := by
    rw [h.remove_eq]
    exact h.nonValidating_nodup.erase _
  occupied := by
    intro g hg hbuiltin
    rw [h.remove_eq] at hg
    have hkept := (List.mem_filter.mp hg).2
    rw [hbuiltin] at hkept
    simpa using hkept

/-- **Removing a keyword keeps a registry coherent.** -/
theorem Coherent.remove (h : r.Coherent) (keyword : String) : (r.remove keyword).1.Coherent := by
  refine ⟨h.toIndexed.remove keyword, fun other rule => ?_⟩
  simp only [h.toIndexed.holds_remove, exists_and_right]
  rw [h.toIndexed.remove_eq, Table.get?_erase]
  by_cases heq : other = keyword
  · subst heq
    rw [if_pos rfl]
    constructor
    · exact nofun
    · rintro ⟨-, rfl, -, hne⟩
      exact absurd rfl hne
  · rw [if_neg heq, h.custom]
    refine and_congr_right fun _ => and_congr_right fun hname => ?_
    exact (and_iff_left (hname ▸ heq)).symm

/-! ## Removing what was added -/

/-- Without its keyword, nothing is left of a rule that was added, nor of a group made for it. -/
theorem Placed.groupsWithout_insert (h : r.Placed) (appliesTo : Option DataType) (rule : Rule) :
    groupsWithout rule.keyword (r.insert appliesTo rule).groups = groupsWithout rule.keyword r.groups := by
  have hrule : (fun g : RuleGroup => g.without rule.keyword) ∘
      RuleGroup.changeOf appliesTo (·.addRule r.nextNumber rule) = fun g => g.without rule.keyword := by
    funext g
    show (if g.appliesTo = appliesTo then g.addRule r.nextNumber rule else g).without _ = _
    split
    · simp [RuleGroup.without, RuleGroup.addRule]
    · rfl
  unfold groupsWithout
  rw [h.insert_groups, List.map_map, hrule]
  rcases r.withGroup_cases appliesTo with ⟨heq, -⟩ | ⟨heq, -⟩
  · rw [heq]
  · rw [heq]
    simp [Registry.pushGroup, RuleGroup.without]

theorem Indexed.groupsWithout_eq (h : r.Indexed) {keyword : String}
    (hnone : keyword ∉ r.membership.keys) : groupsWithout keyword r.groups = r.groups := by
  have hsame : r.groups.map (·.without keyword) = r.groups := by
    refine (List.map_congr_left fun g hg => ?_).trans r.groups.map_id
    have hrules : g.numbered.filter (·.2.keyword ≠ keyword) = g.numbered := by
      refine List.filter_eq_self.mpr fun e he => ?_
      have hne := @Listed.keyword_ne r h.listed keyword hnone (g.appliesTo, e.1) _ ⟨g, hg, rfl, he⟩
      simpa using hne
    unfold RuleGroup.without
    rw [hrules, id]
  unfold groupsWithout
  rw [hsame]
  refine List.filter_eq_self.mpr fun g hg => ?_
  cases hbuiltin : g.isBuiltin with
  | true => rfl
  | false => simpa using h.occupied g hg hbuiltin

/-- A keyword that is forgotten may as well not have been put down. -/
theorem forget_set {keyword name : String} {fixed : List String} {t : Table String (List String)}
    (hfixed : ∀ other ∈ fixed, other ∈ t.keys) :
    forget keyword fixed (t.set name (((t.get? name).getD []).insert keyword)) =
      forget keyword fixed t := by
  have herase : ∀ names : List String, (names.insert keyword).erase keyword = names.erase keyword := by
    intro names
    by_cases hmem : keyword ∈ names
    · rw [List.insert_of_mem hmem]
    · rw [List.insert_of_not_mem hmem, List.erase_cons_head, List.erase_of_not_mem hmem]
  apply Table.eq_of_entries
  show ((t.set name _).entries.filter _).filterMap _ = (t.entries.filter _).filterMap _
  rw [List.filterMap_filter, List.filterMap_filter]
  by_cases hname : name ∈ t.keys
  · rw [Table.entries_set_of_mem hname, List.filterMap_map]
    refine List.filterMap_congr fun e he => ?_
    by_cases heq : e.1 = name
    · have hvalue : t.get? name = some e.2 := heq ▸ (t.mem_entries_iff e.1 e.2).mp he
      simp only [Function.comp_apply, heq, if_true, hvalue, Option.getD_some, herase]
    · simp [heq]
  · have hfree : name ∉ fixed := hname ∘ hfixed name
    rw [Table.entries_set_of_notMem hname, List.filterMap_append, (t.get?_eq_none_iff name).mpr hname]
    simp [List.insert, hfree]

theorem forget_credited {keyword : String} {fixed : List String} (names : List String)
    {t : Table String (List String)} (hfixed : ∀ other ∈ fixed, other ∈ t.keys) :
    forget keyword fixed
        (names.foldl (fun t name => t.set name (((t.get? name).getD []).insert keyword)) t) =
      forget keyword fixed t := by
  induction names generalizing t with
  | nil => rfl
  | cons name rest ih =>
    rw [List.foldl_cons, ih fun other hother => (t.mem_keys_set ..).mpr (.inr (hfixed other hother)),
      forget_set hfixed]

theorem Indexed.forget_eq (h : r.Indexed) {keyword : String} (hnone : keyword ∉ r.membership.keys)
    (hkey : keyword ∉ r.implied.keys) : forget keyword r.fixedImplied r.implied = r.implied := by
  unfold forget
  rw [Table.erase_eq_self hkey]
  apply Table.eq_of_entries
  show r.implied.entries.filterMap _ = _
  refine (List.filterMap_congr fun e he => ?_).trans List.filterMap_some
  have hnames := (r.implied.mem_entries_iff e.1 e.2).mp he
  have hfree : keyword ∉ e.2 := by
    intro hmem
    obtain ⟨place, rule, hplace, hname, -⟩ := h.credited.implements hnames keyword hmem
    exact h.listed.keyword_ne hnone hplace hname
  have hkept : (e.2.isEmpty && !r.fixedImplied.contains e.1) = false := by
    cases hempty : e.2 with
    | nil =>
      rw [hempty] at hnames
      simpa using h.credited.kept hnames
    | cons => rfl
  dsimp only
  rw [List.erase_of_not_mem hfree, hkept, if_neg Bool.false_ne_true]
  rfl

/-- The registry differs from another one by rules of one keyword alone. -/
structure SameBut (r : Registry) (keyword : String) (r' : Registry) : Prop where
  placed : r'.Placed
  groups : groupsWithout keyword r'.groups = groupsWithout keyword r.groups
  membership : r'.membership.erase keyword = r.membership.erase keyword
  keys : ∀ other ∈ r.fixedImplied, other ∈ r'.implied.keys
  implied : forget keyword r.fixedImplied r'.implied = forget keyword r.fixedImplied r.implied
  fixedImplied : r'.fixedImplied = r.fixedImplied
  nonValidating : r'.nonValidating = r.nonValidating
  custom : r'.custom = r.custom

theorem SameBut.insert {r' : Registry} {rule : Rule} (h : r.SameBut rule.keyword r')
    (appliesTo : Option DataType) : r.SameBut rule.keyword (r'.insert appliesTo rule) where
  placed := h.placed.insert appliesTo rule
  groups := (h.placed.groupsWithout_insert appliesTo rule).trans h.groups
  membership := by
    rw [insert_eq]
    exact (Table.erase_set ..).trans h.membership
  keys := by
    intro other hother
    rw [insert_eq, Table.mem_keys_iff, get?_credited]
    split
    · exact ⟨_, rfl⟩
    · exact (Table.mem_keys_iff _ _).mp (h.keys other hother)
  implied := by
    rw [insert_eq]
    exact (forget_credited _ h.keys).trans h.implied
  fixedImplied := by
    rw [insert_eq]
    exact h.fixedImplied
  nonValidating := by
    rw [insert_eq]
    exact h.nonValidating
  custom := by
    rw [insert_eq]
    exact h.custom

/-- The rules of a new keyword are all that is inserted. -/
theorem Indexed.sameBut_foldl_insert (h : r.Indexed) (rule : Rule) (places : List (Option DataType)) :
    r.SameBut rule.keyword (places.foldl (fun r appliesTo => r.insert appliesTo rule) r) :=
  foldl_insert_induct (fun _ appliesTo hsame => hsame.insert appliesTo) places r
    ⟨h.placed, rfl, rfl, h.credited.fixed, rfl, rfl, rfl, rfl⟩

/-- **Removing a custom keyword undoes adding it**, but for the number that the next rule gets. -/
theorem Coherent.remove_addCustom (h : r.Coherent) {rule : Rule}
    (hunknown : r.isKnown rule.keyword = false) (types : List DataType) :
    ((r.addCustom rule types).remove rule.keyword).1 =
      { r with nextNumber := (r.addCustom rule types).nextNumber } := by
  obtain ⟨⟨⟨hmembership, himplied⟩, hnonValidating⟩, -⟩ := (r.isKnown_eq_false_iff _).mp hunknown
  have hfixed : rule.keyword ∉ r.fixedImplied := himplied ∘ h.credited.fixed _
  have hcustom : rule.keyword ∉ r.custom.keys := by
    intro hmem
    obtain ⟨rule', hrule'⟩ := (Table.mem_keys_iff _ _).mp hmem
    obtain ⟨-, hname, place, hplace⟩ := (h.custom _ _).mp hrule'
    exact h.listed.keyword_ne hmembership hplace hname
  have hindexed : (r.addCustom rule types).Indexed :=
    (foldl_insert_induct (P := Indexed) (fun _ appliesTo hr => hr.insert appliesTo rule)
      (placesOf types) r h.toIndexed).withCustom _
  have hsame := h.sameBut_foldl_insert rule (placesOf types)
  have hgroups : groupsWithout rule.keyword (r.addCustom rule types).groups = r.groups :=
    hsame.groups.trans (h.groupsWithout_eq hmembership)
  have hplaces : (r.addCustom rule types).membership.erase rule.keyword = r.membership :=
    hsame.membership.trans (Table.erase_eq_self hmembership)
  have hfixedImplied : (r.addCustom rule types).fixedImplied.erase rule.keyword = r.fixedImplied := by
    rw [show (r.addCustom rule types).fixedImplied = r.fixedImplied from hsame.fixedImplied,
      List.erase_of_not_mem hfixed]
  have hforget : forget rule.keyword r.fixedImplied (r.addCustom rule types).implied = r.implied :=
    hsame.implied.trans (h.forget_eq hmembership himplied)
  have hvalidating : (r.addCustom rule types).nonValidating.erase rule.keyword = r.nonValidating := by
    rw [show (r.addCustom rule types).nonValidating = r.nonValidating from hsame.nonValidating,
      List.erase_of_not_mem hnonValidating]
  have hcustomTable : (r.addCustom rule types).custom.erase rule.keyword = r.custom := by
    rw [addCustom_eq]
    show (Table.set _ _ _).erase _ = _
    rw [Table.erase_set, hsame.custom, Table.erase_eq_self hcustom]
  have hremoved := congrArg Prod.fst (hindexed.remove_eq rule.keyword)
  rw [hgroups, hplaces, hfixedImplied, hforget, hvalidating, hcustomTable] at hremoved
  have hbyType : ((r.addCustom rule types).remove rule.keyword).1.byType = r.byType := by
    apply Table.eq_of_entries
    rw [hindexed.remove_placed rule.keyword, hremoved, h.placed]
  rw [hremoved, hbyType]

end

end Registry

end JsonSchema
