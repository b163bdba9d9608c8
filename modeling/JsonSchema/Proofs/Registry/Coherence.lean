import JsonSchema.Compiler.Keywords
import Mathlib.Data.List.Nodup

/-!
# Coherence of the registry

Beside its groups, a registry keeps tables of where things stand in them.  `Registry.Indexed` says how the
tables go with the groups; `Registry.Coherent` adds the table of custom rules, which lags behind while a
custom rule goes into one group after another.

One lemma says what adding a rule to a group does (`holds_insert`), one what removing a keyword does
(`remove_eq`); that both keep a registry coherent follows from these.  Main statement: every registry of a
compiler is coherent, whatever was added and removed (`indexes_agree_with_groups`).
-/

set_option autoImplicit false

namespace JsonSchema

namespace RuleGroup

/-- The group without the rules of a keyword. -/
def without (g : RuleGroup) (keyword : String) : RuleGroup :=
  { g with numbered := g.numbered.filter (·.2.keyword ≠ keyword) }

/-- The group, changed if it is the one of a type. -/
def changeOf (appliesTo : Option DataType) (f : RuleGroup → RuleGroup) (g : RuleGroup) : RuleGroup :=
  if g.appliesTo = appliesTo then f g else g

end RuleGroup

namespace Registry

/-- The rule stands in the group of a type, under a number. -/
def Holds (r : Registry) (place : Option DataType × Nat) (rule : Rule) : Prop :=
  ∃ g ∈ r.groups, g.appliesTo = place.1 ∧ (place.2, rule) ∈ g.numbered

/-- Each type leads to the position of its group, in the order of the groups. -/
def Placed (r : Registry) : Prop := r.byType.entries = (r.groups.map RuleGroup.appliesTo).zipIdx

/-- Every rule has a number of its own. -/
structure Numbered (r : Registry) : Prop where
  /-- Rules stand in the order of their numbers. -/
  ascending : ∀ g ∈ r.groups, (g.numbered.map Prod.fst).Pairwise (· < ·)
  unique : ∀ {place place' rule rule'}, r.Holds place rule → r.Holds place' rule' →
    place.2 = place'.2 → place = place' ∧ rule = rule'
  below : ∀ {place rule}, r.Holds place rule → place.2 < r.nextNumber

/-- The table of places has, under each keyword, the places of its rules. -/
structure Listed (r : Registry) : Prop where
  mem_iff : ∀ keyword place, place ∈ (r.membership.get? keyword).getD [] ↔
    ∃ rule, r.Holds place rule ∧ rule.keyword = keyword
  nodup : ∀ keyword, ((r.membership.get? keyword).getD []).Nodup
  ne_nil : ∀ keyword, r.membership.get? keyword ≠ some []

/-- The table of implied keywords has only such as a rule takes care of, and the fixed ones. -/
structure Credited (r : Registry) : Prop where
  implements : ∀ {keyword names}, r.implied.get? keyword = some names → ∀ name ∈ names,
    ∃ place rule, r.Holds place rule ∧ rule.keyword = name ∧ keyword ∈ rule.implements
  nodup : ∀ {keyword names}, r.implied.get? keyword = some names → names.Nodup
  kept : ∀ {keyword}, r.implied.get? keyword = some [] → keyword ∈ r.fixedImplied
  fixed : ∀ keyword ∈ r.fixedImplied, keyword ∈ r.implied.keys
  fixed_nodup : r.fixedImplied.Nodup

/-- The tables go with the groups, but for that of custom rules. -/
structure Indexed (r : Registry) : Prop where
  placed : r.Placed
  numbered : r.Numbered
  listed : r.Listed
  credited : r.Credited
  nonValidating_nodup : r.nonValidating.Nodup
  /-- Only groups of draft-07 can be empty. -/
  occupied : ∀ g ∈ r.groups, g.isBuiltin = false → g.numbered ≠ []

structure Coherent (r : Registry) : Prop extends r.Indexed where
  /-- The table of custom rules has those in the groups, under their keywords. -/
  custom : ∀ keyword rule, r.custom.get? keyword = some rule ↔
    rule.isCustom = true ∧ rule.keyword = keyword ∧ ∃ place, r.Holds place rule

/-! ## Where the groups stand -/

section

variable {r : Registry}

theorem Placed.get?_iff (h : r.Placed) (appliesTo : Option DataType) (i : Nat) :
    r.byType.get? appliesTo = some i ↔ ∃ g, r.groups[i]? = some g ∧ g.appliesTo = appliesTo := by
  rw [← Table.mem_entries_iff, h, List.mk_mem_zipIdx_iff_getElem?, List.getElem?_map,
    Option.map_eq_some_iff]

theorem Placed.types_nodup (h : r.Placed) : (r.groups.map RuleGroup.appliesTo).Nodup := by
  have hkeys := r.byType.nodup
  rwa [h, List.zipIdx_map_fst] at hkeys

theorem Placed.mem_keys_iff (h : r.Placed) (appliesTo : Option DataType) :
    appliesTo ∈ r.byType.keys ↔ appliesTo ∈ r.groups.map RuleGroup.appliesTo := by
  rw [Table.keys, h, List.zipIdx_map_fst]

/-- Only one group is of a type. -/
theorem Placed.eq_of_appliesTo_eq (h : r.Placed) {g g' : RuleGroup} (hg : g ∈ r.groups)
    (hg' : g' ∈ r.groups) (heq : g.appliesTo = g'.appliesTo) : g = g' :=
  List.inj_on_of_nodup_map h.types_nodup hg hg' heq

/-- Changing the group at the position that a type leads to is changing the group of that type. -/
theorem Placed.change (h : r.Placed) {groups : List RuleGroup}
    (hgroups : groups.map RuleGroup.appliesTo = r.groups.map RuleGroup.appliesTo)
    (appliesTo : Option DataType) (f : RuleGroup → RuleGroup) :
    (match r.byType.get? appliesTo with
      | some i => groups.modify i f
      | none => groups) = groups.map (RuleGroup.changeOf appliesTo f) := by
  have hat : ∀ i : Nat, r.byType.get? appliesTo = some i ↔
      ∃ g, groups[i]? = some g ∧ g.appliesTo = appliesTo := by
    intro i
    rw [h.get?_iff, ← Option.map_eq_some_iff, ← Option.map_eq_some_iff, ← List.getElem?_map,
      ← List.getElem?_map, hgroups]
  cases hplace : r.byType.get? appliesTo with
  | none =>
    symm
    refine (List.map_congr_left fun g hg => ?_).trans groups.map_id
    obtain ⟨i, hi⟩ := List.mem_iff_getElem?.mp hg
    have hne : g.appliesTo ≠ appliesTo := by
      intro heq
      have hfound := (hat i).mpr ⟨g, hi, heq⟩
      rw [hplace] at hfound
      cases hfound
    exact if_neg hne
  | some i =>
    refine List.ext_getElem? fun j => ?_
    rw [List.getElem?_modify, List.getElem?_map]
    cases hj : groups[j]? with
    | none => rfl
    | some g =>
      have hiff : i = j ↔ g.appliesTo = appliesTo := by
        constructor
        · rintro rfl
          obtain ⟨g', hg', heq⟩ := (hat i).mp hplace
          rw [hj] at hg'
          rw [Option.some.inj hg', heq]
        · intro heq
          have hfound := (hat j).mpr ⟨g, hj, heq⟩
          rw [hplace] at hfound
          exact Option.some.inj hfound
      show some (if i = j then f g else g) = some (if g.appliesTo = appliesTo then f g else g)
      simp only [hiff]

theorem map_appliesTo_changeOf {f : RuleGroup → RuleGroup} (hf : ∀ g, (f g).appliesTo = g.appliesTo)
    (appliesTo : Option DataType) (groups : List RuleGroup) :
    (groups.map (RuleGroup.changeOf appliesTo f)).map RuleGroup.appliesTo =
      groups.map RuleGroup.appliesTo := by
  rw [List.map_map]
  refine List.map_congr_left fun g _ => ?_
  show (if g.appliesTo = appliesTo then f g else g).appliesTo = g.appliesTo
  split
  · exact hf g
  · rfl

/-! ## Adding a group -/

/-- A group for a type that had none goes to the end. -/
theorem Placed.pushGroup (h : r.Placed) {appliesTo : Option DataType}
    (hnew : r.byType.get? appliesTo = none) (isBuiltin : Bool) :
    (r.pushGroup appliesTo isBuiltin).Placed := by
  unfold Placed Registry.pushGroup
  rw [Table.entries_set_of_notMem ((r.byType.get?_eq_none_iff appliesTo).mp hnew), h, List.map_append,
    List.zipIdx_append, List.length_map, Nat.zero_add]
  rfl

theorem holds_pushGroup {appliesTo : Option DataType} {isBuiltin : Bool}
    {place : Option DataType × Nat} {rule : Rule} :
    (r.pushGroup appliesTo isBuiltin).Holds place rule ↔ r.Holds place rule := by
  unfold Holds Registry.pushGroup
  simp [or_and_right, exists_or]

/-- The groups once there is one for the type. -/
theorem Placed.withGroup (h : r.Placed) (appliesTo : Option DataType) :
    (r.withGroup appliesTo).1.Placed ∧
      (r.withGroup appliesTo).1.byType.get? appliesTo = some (r.withGroup appliesTo).2 := by
  unfold Registry.withGroup
  cases hplace : r.byType.get? appliesTo with
  | some i => exact ⟨h, hplace⟩
  | none =>
    refine ⟨h.pushGroup hplace false, ?_⟩
    show (r.byType.set appliesTo r.groups.length).get? appliesTo = _
    rw [Table.get?_set, if_pos rfl]

theorem withGroup_cases (r : Registry) (appliesTo : Option DataType) :
    (r.withGroup appliesTo).1 = r ∧ (r.byType.get? appliesTo).isSome ∨
      (r.withGroup appliesTo).1 = r.pushGroup appliesTo false ∧ r.byType.get? appliesTo = none := by
  unfold withGroup
  cases hplace : r.byType.get? appliesTo with
  | some i => exact .inl ⟨rfl, rfl⟩
  | none => exact .inr ⟨rfl, rfl⟩

theorem holds_withGroup {appliesTo : Option DataType} {place : Option DataType × Nat} {rule : Rule} :
    (r.withGroup appliesTo).1.Holds place rule ↔ r.Holds place rule := by
  rcases r.withGroup_cases appliesTo with ⟨heq, -⟩ | ⟨heq, -⟩
  · rw [heq]
  · rw [heq]
    exact holds_pushGroup

/-! ## Adding a rule -/

/-- What adding a rule changes beside the groups. -/
theorem insert_eq (r : Registry) (appliesTo : Option DataType) (rule : Rule) :
    r.insert appliesTo rule =
      { r with
        groups := (r.insert appliesTo rule).groups
        byType := (r.withGroup appliesTo).1.byType
        membership := r.membership.set rule.keyword
          ((r.membership.get? rule.keyword).getD [] ++ [(appliesTo, r.nextNumber)])
        implied := rule.implements.foldl (fun t name =>
          t.set name (((t.get? name).getD []).insert rule.keyword)) r.implied
        nextNumber := r.nextNumber + 1 } := by
  unfold Registry.insert Registry.withGroup
  cases r.byType.get? appliesTo with
  | some i => rfl
  | none => rfl

/-- The rule goes to the end of the group of its type. -/
theorem Placed.insert_groups (h : r.Placed) (appliesTo : Option DataType) (rule : Rule) :
    (r.insert appliesTo rule).groups =
      (r.withGroup appliesTo).1.groups.map
        (RuleGroup.changeOf appliesTo (·.addRule r.nextNumber rule)) := by
  obtain ⟨hplaced, hplace⟩ := h.withGroup appliesTo
  have hchange := hplaced.change rfl appliesTo (·.addRule r.nextNumber rule)
  rw [hplace] at hchange
  have hnumber : (r.withGroup appliesTo).1.nextNumber = r.nextNumber := by
    rcases r.withGroup_cases appliesTo with ⟨heq, -⟩ | ⟨heq, -⟩
    · rw [heq]
    · rw [heq]
      rfl
  rw [← hchange, ← hnumber]
  rfl

theorem Placed.insert (h : r.Placed) (appliesTo : Option DataType) (rule : Rule) :
    (r.insert appliesTo rule).Placed := by
  obtain ⟨hplaced, -⟩ := h.withGroup appliesTo
  have htypes : (r.insert appliesTo rule).groups.map RuleGroup.appliesTo =
      (r.withGroup appliesTo).1.groups.map RuleGroup.appliesTo := by
    rw [h.insert_groups]
    exact map_appliesTo_changeOf (f := (·.addRule r.nextNumber rule)) (fun _ => rfl) _ _
  rw [Placed, htypes, insert_eq]
  exact hplaced

/-- **A rule that is added stands at the end of the group of its type**, and all others where they were. -/
theorem Placed.holds_insert (h : r.Placed) {appliesTo : Option DataType} {rule : Rule}
    {place : Option DataType × Nat} {rule' : Rule} :
    (r.insert appliesTo rule).Holds place rule' ↔
      r.Holds place rule' ∨ place = (appliesTo, r.nextNumber) ∧ rule' = rule := by
  obtain ⟨hplaced, hplace⟩ := h.withGroup appliesTo
  rw [← @holds_withGroup r appliesTo]
  unfold Holds
  rw [h.insert_groups]
  simp only [List.mem_map, exists_exists_and_eq_and]
  constructor
  · rintro ⟨g, hg, htype, hmem⟩
    unfold RuleGroup.changeOf at htype hmem
    by_cases heq : g.appliesTo = appliesTo
    · rw [if_pos heq] at htype hmem
      rcases List.mem_append.mp hmem with hold | hnew
      · exact .inl ⟨g, hg, htype, hold⟩
      · obtain ⟨hnumber, hrule⟩ := Prod.mk.inj (List.mem_singleton.mp hnew)
        have htype' : g.appliesTo = place.1 := htype
        exact .inr ⟨Prod.ext (htype'.symm.trans heq) hnumber, hrule⟩
    · rw [if_neg heq] at htype hmem
      exact .inl ⟨g, hg, htype, hmem⟩
  · rintro (⟨g, hg, htype, hmem⟩ | ⟨rfl, rfl⟩)
    · refine ⟨g, hg, ?_⟩
      unfold RuleGroup.changeOf
      split
      · exact ⟨htype, List.mem_append_left _ hmem⟩
      · exact ⟨htype, hmem⟩
    · obtain ⟨g, hg, htype⟩ := (hplaced.get?_iff _ _).mp hplace
      refine ⟨g, List.mem_of_getElem? hg, ?_⟩
      unfold RuleGroup.changeOf
      rw [if_pos htype]
      exact ⟨htype, List.mem_append_right _ (List.mem_singleton.mpr rfl)⟩

/-- A rule is put down as taking care of each of its keywords. -/
theorem get?_credited (keyword : String) (names : List String) (t : Table String (List String))
    (other : String) :
    (names.foldl (fun t name => t.set name (((t.get? name).getD []).insert keyword)) t).get? other =
      if other ∈ names then some (((t.get? other).getD []).insert keyword) else t.get? other := by
  induction names generalizing t with
  | nil => simp
  | cons name rest ih =>
    rw [List.foldl_cons, ih, Table.get?_set]
    by_cases hname : other = name
    · subst hname
      by_cases hrest : other ∈ rest
      · simp [hrest]
      · simp [hrest]
    · simp [hname]

/-- A group after a rule was added is one that there was, or one with the rule at its end. -/
theorem Placed.mem_insert_groups (h : r.Placed) {appliesTo : Option DataType} {rule : Rule}
    {g' : RuleGroup} (hg' : g' ∈ (r.insert appliesTo rule).groups) :
    g' ∈ r.groups ∨ ∃ g, (g ∈ r.groups ∨ g.numbered = []) ∧
      g'.numbered = g.numbered ++ [(r.nextNumber, rule)] := by
  have hold : ∀ g ∈ (r.withGroup appliesTo).1.groups, g ∈ r.groups ∨
      g.numbered = [] ∧ g.appliesTo = appliesTo := by
    intro g hg
    rcases r.withGroup_cases appliesTo with ⟨heq, -⟩ | ⟨heq, -⟩
    · rw [heq] at hg
      exact .inl hg
    · rw [heq] at hg
      rcases List.mem_append.mp hg with hg | hg
      · exact .inl hg
      · obtain rfl := List.mem_singleton.mp hg
        exact .inr ⟨rfl, rfl⟩
  rw [h.insert_groups] at hg'
  obtain ⟨g, hg, rfl⟩ := List.mem_map.mp hg'
  unfold RuleGroup.changeOf
  by_cases heq : g.appliesTo = appliesTo
  · rw [if_pos heq]
    exact .inr ⟨g, (hold g hg).imp_right And.left, rfl⟩
  · rw [if_neg heq]
    exact .inl ((hold g hg).resolve_right fun hnew => heq hnew.2)

section

variable (h : r.Placed) {appliesTo : Option DataType} {rule : Rule}

include h

theorem Numbered.insert (hr : r.Numbered) : (r.insert appliesTo rule).Numbered where
  ascending := by
    intro g' hg'
    rcases h.mem_insert_groups hg' with hg | ⟨g, hg, heq⟩
    · exact hr.ascending g' hg
    · rw [heq, List.map_append, List.pairwise_append]
      refine ⟨?_, List.pairwise_singleton .., ?_⟩
      · rcases hg with hg | hempty
        · exact hr.ascending g hg
        · rw [hempty]
          exact .nil
      · intro n hn m hm
        obtain rfl := List.mem_singleton.mp hm
        rcases hg with hg | hempty
        · obtain ⟨⟨n, rule'⟩, he, rfl⟩ := List.mem_map.mp hn
          exact @hr.below (g.appliesTo, n) _ ⟨g, hg, rfl, he⟩
        · rw [hempty] at hn
          cases hn
  unique := by
    intro place place' rule₁ rule₂ h₁ h₂ heq
    rcases h.holds_insert.mp h₁ with hold₁ | ⟨rfl, rfl⟩
    · rcases h.holds_insert.mp h₂ with hold₂ | ⟨rfl, -⟩
      · exact hr.unique hold₁ hold₂ heq
      · exact absurd heq (Nat.ne_of_lt (hr.below hold₁))
    · rcases h.holds_insert.mp h₂ with hold₂ | ⟨rfl, rfl⟩
      · exact absurd heq.symm (Nat.ne_of_lt (hr.below hold₂))
      · exact ⟨rfl, rfl⟩
  below := by
    intro place rule' hplace
    rw [insert_eq]
    rcases h.holds_insert.mp hplace with hold | ⟨rfl, -⟩
    · exact Nat.lt_succ_of_lt (hr.below hold)
    · exact Nat.lt_succ_self _

theorem Listed.insert (hr : r.Listed) (hnumbered : r.Numbered) : (r.insert appliesTo rule).Listed := by
  have hmembership : ∀ keyword, (r.insert appliesTo rule).membership.get? keyword =
      if keyword = rule.keyword then
        some ((r.membership.get? rule.keyword).getD [] ++ [(appliesTo, r.nextNumber)])
      else r.membership.get? keyword := by
    intro keyword
    rw [insert_eq]
    exact Table.get?_set ..
  refine ⟨fun keyword place => ?_, fun keyword => ?_, fun keyword => ?_⟩
  · rw [hmembership]
    simp only [h.holds_insert, or_and_right, exists_or, ← hr.mem_iff]
    by_cases heq : keyword = rule.keyword
    · subst heq
      rw [if_pos rfl]
      simp
    · rw [if_neg heq]
      refine (or_iff_left ?_).symm
      rintro ⟨_, ⟨-, rfl⟩, hkeyword⟩
      exact heq hkeyword.symm
  · rw [hmembership]
    split
    · refine List.Nodup.append (hr.nodup _) (List.nodup_singleton _) ?_
      refine List.disjoint_singleton.mpr fun hmem => ?_
      obtain ⟨rule', hplace, -⟩ := (hr.mem_iff _ _).mp hmem
      exact Nat.lt_irrefl _ (hnumbered.below hplace)
    · exact hr.nodup keyword
  · rw [hmembership]
    split
    · simp
    · exact hr.ne_nil keyword

theorem Credited.insert (hr : r.Credited) : (r.insert appliesTo rule).Credited := by
  have himplied : ∀ keyword, (r.insert appliesTo rule).implied.get? keyword =
      if keyword ∈ rule.implements then some (((r.implied.get? keyword).getD []).insert rule.keyword)
      else r.implied.get? keyword := by
    intro keyword
    rw [insert_eq]
    exact get?_credited ..
  have hfixed : (r.insert appliesTo rule).fixedImplied = r.fixedImplied := by
    rw [insert_eq]
  have hearlier : ∀ keyword names name, r.implied.get? keyword = some names → name ∈ names →
      ∃ place rule', (r.insert appliesTo rule).Holds place rule' ∧ rule'.keyword = name ∧
        keyword ∈ rule'.implements := by
    intro keyword names name hnames hname
    obtain ⟨place, rule', hplace, hrule⟩ := hr.implements hnames name hname
    exact ⟨place, rule', h.holds_insert.mpr (.inl hplace), hrule⟩
  refine ⟨fun {keyword names} hnames name hname => ?_, fun {keyword names} hnames => ?_,
    fun {keyword} hnone => ?_, fun keyword hkeyword => ?_, ?_⟩
  · rw [himplied] at hnames
    split at hnames
    · next himplements =>
      obtain rfl := Option.some.inj hnames
      rcases List.mem_insert_iff.mp hname with rfl | hname
      · exact ⟨_, rule, h.holds_insert.mpr (.inr ⟨rfl, rfl⟩), rfl, himplements⟩
      · cases hbefore : r.implied.get? keyword with
        | none =>
          rw [hbefore] at hname
          cases hname
        | some before =>
          rw [hbefore] at hname
          exact hearlier keyword before name hbefore hname
    · exact hearlier keyword names name hnames hname
  · rw [himplied] at hnames
    split at hnames
    · obtain rfl := Option.some.inj hnames
      refine List.Nodup.insert ?_
      cases hbefore : r.implied.get? keyword with
      | none => exact List.nodup_nil
      | some before => exact hr.nodup hbefore
    · exact hr.nodup hnames
  · rw [himplied] at hnone
    rw [hfixed]
    split at hnone
    · have hmem := List.mem_insert_self (a := rule.keyword) (l := (r.implied.get? keyword).getD [])
      rw [Option.some.inj hnone] at hmem
      cases hmem
    · exact hr.kept hnone
  · rw [hfixed] at hkeyword
    rw [Table.mem_keys_iff, himplied]
    split
    · exact ⟨_, rfl⟩
    · exact (Table.mem_keys_iff _ _).mp (hr.fixed keyword hkeyword)
  · rw [hfixed]
    exact hr.fixed_nodup

end

theorem Indexed.insert (h : r.Indexed) (appliesTo : Option DataType) (rule : Rule) :
    (r.insert appliesTo rule).Indexed where
  placed := h.placed.insert appliesTo rule
  numbered := h.numbered.insert h.placed
  listed := h.listed.insert h.placed h.numbered
  credited := h.credited.insert h.placed
  nonValidating_nodup := by
    rw [insert_eq]
    exact h.nonValidating_nodup
  occupied := by
    intro g' hg' hbuiltin
    rcases h.placed.mem_insert_groups hg' with hg | ⟨g, -, heq⟩
    · exact h.occupied g' hg hbuiltin
    · rw [heq]
      exact List.append_ne_nil_of_right_ne_nil _ (List.cons_ne_nil _ _)

/-! ## Adding a custom keyword -/

/-- The types of the groups that a custom rule goes to. -/
def placesOf (types : List DataType) : List (Option DataType) :=
  if types.isEmpty then [none] else types.map some

theorem placesOf_ne_nil (types : List DataType) : placesOf types ≠ [] := by
  unfold placesOf
  cases types with
  | nil => exact List.cons_ne_nil _ _
  | cons type rest => exact List.cons_ne_nil _ _

theorem addCustom_eq (r : Registry) (rule : Rule) (types : List DataType) :
    r.addCustom rule types =
      let r' := (placesOf types).foldl (fun r appliesTo => r.insert appliesTo rule) r
      { r' with custom := r'.custom.set rule.keyword rule } := rfl

/-- A property that adding a rule to a group keeps is kept by adding it to several. -/
theorem foldl_insert_induct {P : Registry → Prop} {rule : Rule}
    (hstep : ∀ r appliesTo, P r → P (r.insert appliesTo rule)) (places : List (Option DataType)) :
    ∀ r, P r → P (places.foldl (fun r appliesTo => r.insert appliesTo rule) r) := by
  induction places with
  | nil => exact fun r h => h
  | cons appliesTo rest ih => exact fun r h => ih _ (hstep r appliesTo h)

theorem holds_foldl_insert (h : r.Placed) {rule rule' : Rule} (places : List (Option DataType)) :
    (∃ place, (places.foldl (fun r appliesTo => r.insert appliesTo rule) r).Holds place rule') ↔
      (∃ place, r.Holds place rule') ∨ places ≠ [] ∧ rule' = rule := by
  induction places generalizing r with
  | nil => simp
  | cons appliesTo rest ih =>
    rw [List.foldl_cons, ih (h.insert appliesTo rule)]
    simp only [h.holds_insert, exists_or]
    constructor
    · rintro ((hold | ⟨_, -, heq⟩) | ⟨-, heq⟩)
      · exact .inl hold
      · exact .inr ⟨List.cons_ne_nil _ _, heq⟩
      · exact .inr ⟨List.cons_ne_nil _ _, heq⟩
    · rintro (hold | ⟨-, heq⟩)
      · exact .inl (.inl hold)
      · exact .inl (.inr ⟨_, rfl, heq⟩)

/-- A keyword without places is not that of a rule. -/
theorem Listed.keyword_ne (h : r.Listed) {keyword : String} (hnone : keyword ∉ r.membership.keys)
    {place : Option DataType × Nat} {rule : Rule} (hplace : r.Holds place rule) :
    rule.keyword ≠ keyword := by
  rintro rfl
  have hmem := (h.mem_iff rule.keyword place).mpr ⟨rule, hplace, rfl⟩
  rw [(r.membership.get?_eq_none_iff _).mpr hnone] at hmem
  cases hmem

theorem isKnown_eq_false_iff (r : Registry) (keyword : String) :
    r.isKnown keyword = false ↔
      ((keyword ∉ r.membership.keys ∧ keyword ∉ r.implied.keys) ∧ keyword ∉ r.nonValidating) ∧
        keyword ∉ engineKeywords := by
  simp only [Bool.eq_false_iff, ne_eq, isKnown, Bool.or_eq_true, Table.contains_iff,
    List.contains_iff_mem, not_or]

theorem Indexed.withCustom (h : r.Indexed) (custom : Table String Rule) :
    Indexed { r with custom } where
  placed := h.placed
  numbered := ⟨h.numbered.ascending, h.numbered.unique, h.numbered.below⟩
  listed := ⟨h.listed.mem_iff, h.listed.nodup, h.listed.ne_nil⟩
  credited := ⟨h.credited.implements, h.credited.nodup, h.credited.kept, h.credited.fixed,
    h.credited.fixed_nodup⟩
  nonValidating_nodup := h.nonValidating_nodup
  occupied := h.occupied

/-- **Adding a custom keyword that was not known keeps a registry coherent.** -/
theorem Coherent.addCustom (h : r.Coherent) {rule : Rule} (hunknown : r.isKnown rule.keyword = false)
    (hcustom : rule.isCustom = true) (types : List DataType) : (r.addCustom rule types).Coherent := by
  obtain ⟨⟨⟨hmembership, -⟩, -⟩, -⟩ := (r.isKnown_eq_false_iff _).mp hunknown
  have hindexed := @foldl_insert_induct Indexed rule
    (fun _ appliesTo hr => hr.insert appliesTo rule) (placesOf types) r h.toIndexed
  have hsame := @foldl_insert_induct (fun r' => r'.custom = r.custom) rule
    (fun _ _ hr => by rw [insert_eq, hr]) (placesOf types) r rfl
  rw [addCustom_eq]
  refine ⟨hindexed.withCustom _, fun keyword rule' => ?_⟩
  show (Table.set _ _ _).get? keyword = _ ↔ _ ∧ _ ∧ ∃ place, Registry.Holds _ place rule'
  rw [hsame, Table.get?_set]
  have hholds := @holds_foldl_insert r h.placed rule rule' (placesOf types)
  simp only [ne_eq, placesOf_ne_nil, not_false_iff, true_and] at hholds
  refine Iff.trans ?_ (and_congr_right' (and_congr_right' hholds)).symm
  by_cases hkeyword : keyword = rule.keyword
  · subst hkeyword
    rw [if_pos rfl]
    constructor
    · intro heq
      obtain rfl := Option.some.inj heq
      exact ⟨hcustom, rfl, .inr rfl⟩
    · rintro ⟨-, hname, ⟨place, hplace⟩ | rfl⟩
      · exact absurd hname (h.listed.keyword_ne hmembership hplace)
      · rfl
  · rw [if_neg hkeyword, h.custom]
    refine and_congr_right fun _ => and_congr_right fun hname => (or_iff_left ?_).symm
    rintro rfl
    exact hkeyword hname.symm

/-! ## The registry of draft-07 -/

theorem Placed.insert_types (h : r.Placed) {appliesTo : Option DataType}
    (hmem : appliesTo ∈ r.groups.map RuleGroup.appliesTo) (rule : Rule) :
    (r.insert appliesTo rule).groups.map RuleGroup.appliesTo = r.groups.map RuleGroup.appliesTo := by
  rw [h.insert_groups, map_appliesTo_changeOf (f := (·.addRule r.nextNumber rule)) (fun _ => rfl)]
  rcases r.withGroup_cases appliesTo with ⟨heq, -⟩ | ⟨-, hnew⟩
  · rw [heq]
  · exact absurd ((h.mem_keys_iff _).mpr hmem) ((r.byType.get?_eq_none_iff appliesTo).mp hnew)

theorem Indexed.pushGroup (h : r.Indexed) {appliesTo : Option DataType}
    (hnew : r.byType.get? appliesTo = none) : (r.pushGroup appliesTo true).Indexed := by
  have hgroups : ∀ g ∈ (r.pushGroup appliesTo true).groups, g ∈ r.groups ∨
      g.numbered = [] ∧ g.isBuiltin = true := by
    intro g hg
    rcases List.mem_append.mp hg with hg | hg
    · exact .inl hg
    · obtain rfl := List.mem_singleton.mp hg
      exact .inr ⟨rfl, rfl⟩
  refine ⟨h.placed.pushGroup hnew true, ⟨fun g hg => ?_, fun {_ _ _ _} h₁ h₂ => ?_, fun {_ _} hplace => ?_⟩,
    ⟨fun keyword place => ?_, h.listed.nodup, h.listed.ne_nil⟩,
    ⟨fun {_ _} hnames name hname => ?_, h.credited.nodup, h.credited.kept, h.credited.fixed,
      h.credited.fixed_nodup⟩, h.nonValidating_nodup, fun g hg hbuiltin => ?_⟩
  · rcases hgroups g hg with hg | ⟨hempty, -⟩
    · exact h.numbered.ascending g hg
    · rw [hempty]
      exact .nil
  · exact h.numbered.unique (holds_pushGroup.mp h₁) (holds_pushGroup.mp h₂)
  · exact h.numbered.below (holds_pushGroup.mp hplace)
  · simp only [holds_pushGroup]
    exact h.listed.mem_iff keyword place
  · simp only [holds_pushGroup]
    exact h.credited.implements hnames name hname
  · rcases hgroups g hg with hg | ⟨-, htrue⟩
    · exact h.occupied g hg hbuiltin
    · rw [htrue] at hbuiltin
      cases hbuiltin

/-- The registry is indexed and has no custom rules. -/
structure IsPlain (r : Registry) : Prop where
  indexed : r.Indexed
  custom : r.custom = .empty
  builtin : ∀ {place rule}, r.Holds place rule → rule.isCustom = false

theorem IsPlain.insert (h : r.IsPlain) (appliesTo : Option DataType) (k : BuiltinKeyword) :
    (r.insert appliesTo (.ofBuiltin k)).IsPlain where
  indexed := h.indexed.insert appliesTo _
  custom := by
    rw [insert_eq]
    exact h.custom
  builtin := by
    intro place rule hplace
    rcases h.indexed.placed.holds_insert.mp hplace with hold | ⟨-, rfl⟩
    · exact h.builtin hold
    · rfl

/-- A group of keywords of draft-07 goes behind the groups that there are. -/
theorem IsPlain.pushGroup (h : r.IsPlain) {appliesTo : Option DataType}
    (hnew : appliesTo ∉ r.groups.map RuleGroup.appliesTo) (keywords : List BuiltinKeyword) :
    let r' := keywords.foldl (fun r k => r.insert appliesTo (.ofBuiltin k)) (r.pushGroup appliesTo true)
    r'.IsPlain ∧ r'.groups.map RuleGroup.appliesTo = r.groups.map RuleGroup.appliesTo ++ [appliesTo] := by
  have hnone : r.byType.get? appliesTo = none := by
    rwa [Table.get?_eq_none_iff, h.indexed.placed.mem_keys_iff]
  have hpushed : (r.pushGroup appliesTo true).IsPlain :=
    ⟨h.indexed.pushGroup hnone, h.custom, fun hplace => h.builtin (holds_pushGroup.mp hplace)⟩
  have htypes : (r.pushGroup appliesTo true).groups.map RuleGroup.appliesTo =
      r.groups.map RuleGroup.appliesTo ++ [appliesTo] := List.map_append ..
  revert hpushed htypes
  generalize r.pushGroup appliesTo true = pushed
  intro hpushed htypes
  induction keywords generalizing pushed with
  | nil => exact ⟨hpushed, htypes⟩
  | cons k rest ih =>
    refine ih _ (hpushed.insert appliesTo k) ?_
    rw [hpushed.indexed.placed.insert_types, htypes]
    rw [htypes]
    exact List.mem_append_right _ (List.mem_singleton.mpr rfl)

theorem foldl_pushGroup_isPlain (listed : List (Option DataType × List BuiltinKeyword)) :
    ∀ r : Registry, r.IsPlain → (r.groups.map RuleGroup.appliesTo ++ listed.map Prod.fst).Nodup →
      (listed.foldl (fun r (appliesTo, keywords) =>
        keywords.foldl (fun r k => r.insert appliesTo (.ofBuiltin k)) (r.pushGroup appliesTo true))
        r).IsPlain := by
  induction listed with
  | nil => exact fun r h _ => h
  | cons first rest ih =>
    obtain ⟨appliesTo, keywords⟩ := first
    intro r h hnodup
    have hnew : appliesTo ∉ r.groups.map RuleGroup.appliesTo := fun hmem =>
      (List.nodup_append.mp hnodup).2.2 _ hmem appliesTo (by simp) rfl
    obtain ⟨hplain, htypes⟩ := h.pushGroup hnew keywords
    refine ih _ hplain ?_
    rw [htypes, List.append_assoc]
    exact hnodup

theorem not_holds_empty {place : Option DataType × Nat} {rule : Rule} : ¬empty.Holds place rule := by
  rintro ⟨g, hg, -⟩
  cases hg

theorem empty_isPlain : empty.IsPlain where
  indexed := {
    placed := rfl
    numbered := ⟨nofun, fun h => absurd h not_holds_empty, fun h => absurd h not_holds_empty⟩
    listed := ⟨by simp [empty, Holds], by simp [empty], by simp [empty]⟩
    credited := ⟨by simp [empty], by simp [empty], by simp [empty], nofun, List.nodup_nil⟩
    nonValidating_nodup := List.nodup_nil
    occupied := nofun }
  custom := rfl
  builtin := fun h => absurd h not_holds_empty

/-- **The registry of draft-07 is coherent.** -/
theorem withBuiltins_coherent : withBuiltins.Coherent := by
  have hplain := foldl_pushGroup_isPlain BuiltinKeyword.groups empty empty_isPlain (by decide)
  unfold withBuiltins
  revert hplain
  generalize List.foldl _ empty BuiltinKeyword.groups = r
  intro hplain
  have hr := hplain.indexed
  exact {
    placed := hr.placed
    numbered := ⟨hr.numbered.ascending, hr.numbered.unique, hr.numbered.below⟩
    listed := ⟨hr.listed.mem_iff, hr.listed.nodup, hr.listed.ne_nil⟩
    credited := ⟨hr.credited.implements, hr.credited.nodup,
      fun hnames => (Table.mem_keys_iff _ _).mpr ⟨[], hnames⟩, fun _ => id, r.implied.nodup⟩
    nonValidating_nodup := show nonValidatingKeywords.Nodup by decide
    occupied := hr.occupied
    custom := by
      intro keyword rule
      show r.custom.get? keyword = some rule ↔ _
      rw [hplain.custom]
      constructor
      · exact nofun
      · rintro ⟨hcustom, -, place, hplace⟩
        rw [hplain.builtin hplace] at hcustom
        cases hcustom }

end

end Registry

end JsonSchema
