import Mathlib.Data.List.Find
import JsonSchema.Proofs.Lowering.Alarm
import JsonSchema.Proofs.Registry.Runs

/-!
# Schemas that do without a keyword

A custom keyword adds a rule to groups that there are or to new ones at the end.  An object without the
keyword and without those that it takes care of does not have the rule, a group with no other rule
contributes nothing, and no name in the object becomes known: **the object is lowered as before**
(`lowerObject_under`).

Main statement: `lowerUntil_addCustom`, for schemas that lead to no other objects.
-/

set_option autoImplicit false

namespace JsonSchema

section

variable {lower : Lower} {env : Environment} {members : List (String × Json)} {position : Position}
  {onlyRef : Bool} {declared : Option (List DataType)} {r : Registry} {rule : Rule}

/-! ## Rules under another registry -/

/-- A rule does not look at the registry that it is read from. -/
theorem Rule.lower_under (rule : Rule) (registry : Registry) :
    rule.lower lower (env.under registry) members position = rule.lower lower env members position := by
  have hon : ∀ deeper s, Mirror.plain.pairing.On lower lower position position.base position.descents
      deeper s := fun _ _ => (KeywordPlace.mirrorOn_plain fun _ _ => rfl).paired
  have hreference : ∀ data, Mirror.plain.pairing.Runs Mirror.plain.pairing.Numbers
      ((rule.place env members position data).procedureOf lower (rule.reference members))
      (((rule.place env members position data).elsewhere registry env.documents position.base
        position.descents).procedureOf lower (rule.reference members)) := by
    intro data
    refine Pairing.weaken (R := fun i j => j = id i) ?_ fun _ _ => Eq.symm
    refine (LowerM.mirrors_plain fun _ => rfl).mpr (funext fun procedures => ?_)
    rw [KeywordPlace.procedureOf_eq, KeywordPlace.procedureOf_eq]
    rfl
  have hpaired : Mirror.plain.pairing.Runs Mirror.plain.pairing.Nodes
      (rule.lower lower env members position)
      (rule.lower lower ((env.under registry).among env.documents) members
        (position.moved position.base position.descents)) :=
    Rule.lower_paired ⟨fun _ _ _ _ _ => hon _ _, fun data _ => hreference data, fun _ _ _ _ => hon _ _⟩
  exact (LowerM.mirrors_plain Node.renumber_id).mp
    (Pairing.weaken hpaired fun _ _ => Mirror.plain.pairing_nodes.mp)

theorem RuleGroup.lower_under (registry : Registry) :
    RuleGroup.lower lower (env.under registry) members position onlyRef =
      RuleGroup.lower lower env members position onlyRef := by
  funext group
  rw [lower_eq, lower_eq]
  simp only [Rule.lower_under]

/-! ## Groups that a rule is added to -/

/-- What groups come to in an object, after the check of the declared types. -/
def lowerGroups (lower : Lower) (env : Environment) (members : List (String × Json))
    (position : Position) (onlyRef : Bool) (declared : Option (List DataType))
    (groups : List RuleGroup) : LowerM Node := do
  let nodes ← (groups.filter (·.concerns declared)).mapM
    (RuleGroup.lower lower env members position onlyRef)
  return .conj ((declared.map (typeNode position.schemaPath members)).toList ++ nodes)

theorem lowerObject_eq : lowerObject lower env members position = (do
    let declared ←
      if env.onlyRef members then pure none
      else do
        liftExcept (env.checkKeywords position.schemaPath members)
        liftExcept (declaredTypes position.schemaPath members)
    lowerGroups lower env members position (env.onlyRef members) declared env.registry.groups) := rfl

/-- The groups concern the same data and have the same rules for an object. -/
structure RuleGroup.SameFor (members : List (String × Json)) (g g' : RuleGroup) : Prop where
  appliesTo : g'.appliesTo = g.appliesTo
  present : ∀ onlyRef, g'.present members onlyRef = g.present members onlyRef

/-- Groups that are the same for an object come to the same. -/
theorem lowerGroups_congr {groups groups' : List RuleGroup}
    (h : List.Forall₂ (RuleGroup.SameFor members) groups groups') :
    lowerGroups lower env members position onlyRef declared groups' =
      lowerGroups lower env members position onlyRef declared groups := by
  have hnodes : (groups'.filter (·.concerns declared)).mapM
        (RuleGroup.lower lower env members position onlyRef) =
      (groups.filter (·.concerns declared)).mapM
        (RuleGroup.lower lower env members position onlyRef) := by
    induction h with
    | nil => rfl
    | @cons g g' rest rest' hg _ ih =>
      have hconcerns : g'.concerns declared = g.concerns declared := by
        unfold RuleGroup.concerns
        rw [hg.appliesTo]
      have hlower : g'.lower lower env members position onlyRef =
          g.lower lower env members position onlyRef := by
        rw [RuleGroup.lower_eq, RuleGroup.lower_eq, hg.present]
        unfold RuleGroup.around
        rw [hg.appliesTo]
      rw [List.filter_cons, List.filter_cons, hconcerns]
      split
      · rw [List.mapM_cons, List.mapM_cons, hlower, ih]
      · exact ih
  unfold lowerGroups
  rw [hnodes]

/-- A conjunct that always passes does not count. -/
theorem Node.conj_append_pass_cons (before after : List Node) :
    conj (before ++ pass :: after) = conj (before ++ after) := by
  unfold conj
  rw [List.filter_append, List.filter_append, List.filter_cons]
  rfl

/-- **Groups without a rule for an object come to nothing.** -/
theorem lowerGroups_filter {p : RuleGroup → Bool} (groups : List RuleGroup)
    (h : ∀ g ∈ groups, p g = false → g.present members onlyRef = []) :
    lowerGroups lower env members position onlyRef declared (groups.filter p) =
      lowerGroups lower env members position onlyRef declared groups := by
  have hpass : ∀ g : RuleGroup, g.present members onlyRef = [] →
      g.lower lower env members position onlyRef = return .pass := by
    intro g hg
    rw [RuleGroup.lower_eq, hg, List.mapM_nil, pure_bind]
    unfold RuleGroup.around
    cases g.appliesTo <;> rfl
  have hnodes : ∀ (groups : List RuleGroup) (before : List Node),
      (∀ g ∈ groups, p g = false → g.present members onlyRef = []) →
      (do
        let nodes ← (groups.filter p).mapM (RuleGroup.lower lower env members position onlyRef)
        return Node.conj (before ++ nodes)) =
      (do
        let nodes ← groups.mapM (RuleGroup.lower lower env members position onlyRef)
        return Node.conj (before ++ nodes)) := by
    intro groups
    induction groups with
    | nil => exact fun _ _ => rfl
    | cons g rest ih =>
      intro before h
      obtain ⟨hg, hrest⟩ := List.forall_mem_cons.mp h
      rw [List.filter_cons]
      cases hp : p g with
      | true =>
        rw [if_pos rfl, List.mapM_cons, List.mapM_cons]
        simp only [bind_assoc, pure_bind]
        refine bind_congr fun n => ?_
        have hn := ih (before ++ [n]) hrest
        simp only [List.append_assoc, List.singleton_append] at hn
        exact hn
      | false =>
        rw [if_neg Bool.false_ne_true, List.mapM_cons, hpass g (hg hp), ih before hrest]
        simp only [bind_assoc, pure_bind, Node.conj_append_pass_cons]
  unfold lowerGroups
  rw [List.filter_comm, hnodes _ _ fun g hg => h g (List.mem_of_mem_filter hg)]

/-- A group at the end without a rule for an object comes to nothing. -/
theorem lowerGroups_append {g : RuleGroup} (h : ∀ onlyRef, g.present members onlyRef = [])
    (groups : List RuleGroup) :
    lowerGroups lower env members position onlyRef declared (groups ++ [g]) =
      lowerGroups lower env members position onlyRef declared groups := by
  have hempty : ∀ (groups : List RuleGroup), ∀ g ∈ groups,
      (!(g.present members onlyRef).isEmpty) = false → g.present members onlyRef = [] := by
    intro groups g _ hg
    simpa using hg
  rw [← lowerGroups_filter (groups ++ [g]) (hempty _), ← lowerGroups_filter groups (hempty _),
    List.filter_append, List.filter_singleton, h, List.isEmpty_nil, Bool.not_true, cond_false,
    List.append_nil]

/-- **A rule that an object does not have may be added to any group, or to a new one.** -/
theorem lowerGroups_insert (h : rule.isPresent members = false) (r : Registry)
    (appliesTo : Option DataType) :
    lowerGroups lower env members position onlyRef declared (r.insert appliesTo rule).groups =
      lowerGroups lower env members position onlyRef declared r.groups := by
  have hadded : ∀ (g : RuleGroup) number onlyRef,
      (g.addRule number rule).present members onlyRef = g.present members onlyRef := by
    intro g number onlyRef
    unfold RuleGroup.present RuleGroup.rules RuleGroup.addRule
    rw [List.map_append, List.filter_append]
    simp [h]
  unfold Registry.insert Registry.withGroup
  cases r.byType.get? appliesTo with
  | some i =>
    dsimp only
    refine lowerGroups_congr ?_
    generalize r.groups = groups
    induction groups generalizing i with
    | nil =>
      rw [List.modify_nil]
      exact .nil
    | cons g rest ih =>
      have hrefl : ∀ g : RuleGroup, g.SameFor members g := fun _ => ⟨rfl, fun _ => rfl⟩
      cases i with
      | zero => exact .cons ⟨rfl, hadded g _⟩ (List.forall₂_same.mpr fun g _ => hrefl g)
      | succ i => exact .cons (hrefl g) (ih i)
  | none =>
    have hnew := modify_append r.groups [⟨appliesTo, [], false⟩] 0 (·.addRule r.nextNumber rule)
    rw [Nat.zero_add] at hnew
    refine (congrArg _ hnew).trans ?_
    exact lowerGroups_append (fun onlyRef => hadded _ _ onlyRef) _

/-! ## Names that a rule is added for -/

namespace Registry

/-- A name that a rule does not go by is as known as before. -/
theorem isKnown_insert {name : String} (h : name ∉ rule.keyword :: rule.implements) (r : Registry)
    (appliesTo : Option DataType) : (r.insert appliesTo rule).isKnown name = r.isKnown name := by
  obtain ⟨hne, himplements⟩ := not_or.mp (mt List.mem_cons.mpr h)
  rw [insert_eq]
  unfold isKnown Table.contains
  rw [Table.get?_set, if_neg hne, get?_credited, if_neg himplements]

theorem hasRule_insert {name : String} (h : name ≠ rule.keyword) (r : Registry)
    (appliesTo : Option DataType) : (r.insert appliesTo rule).hasRule name = r.hasRule name := by
  rw [insert_eq]
  unfold hasRule Table.contains
  rw [Table.get?_set, if_neg h]

end Registry

/-- The names of an object's members are none of those that it lacks. -/
theorem name_notMem_of_hasAny {names : List String} (h : hasAny names members = false)
    {m : String × Json} (hm : m ∈ members) : m.1 ∉ names := by
  intro hname
  have hnone := List.any_eq_false.mp h m.1 hname
  rw [Option.not_isSome_iff_eq_none, List.lookup_eq_none_iff] at hnone
  have hne := hnone m hm
  simp at hne

/-! ## Objects -/

/-- Two registries agree on all that lowering an object asks them. -/
structure Registry.AgreeFor (members : List (String × Json)) (r r' : Registry) : Prop where
  refers : (members.lookup "$ref").isSome → r'.hasRule "$ref" = r.hasRule "$ref"
  known : ∀ m ∈ members, r'.isKnown m.1 = r.isKnown m.1
  groups : ∀ lower env position onlyRef declared,
    lowerGroups lower env members position onlyRef declared r'.groups =
      lowerGroups lower env members position onlyRef declared r.groups

/-- An object that lacks the names of a rule does not ask for it. -/
theorem Registry.AgreeFor.insert {r' : Registry} (hr : r.AgreeFor members r')
    (h : hasAny (rule.keyword :: rule.implements) members = false) (appliesTo : Option DataType) :
    r.AgreeFor members (r'.insert appliesTo rule) where
  refers href := by
    have hne : "$ref" ≠ rule.keyword := by
      intro heq
      exact List.any_eq_false.mp h _ (heq ▸ List.mem_cons_self) href
    rw [hasRule_insert hne, hr.refers href]
  known m hm := by rw [isKnown_insert (name_notMem_of_hasAny h hm), hr.known m hm]
  groups _ _ _ _ _ := by rw [lowerGroups_insert h, hr.groups]

theorem Registry.AgreeFor.addCustom (h : hasAny (rule.keyword :: rule.implements) members = false)
    (r : Registry) (types : List DataType) : r.AgreeFor members (r.addCustom rule types) := by
  have hinserted : r.AgreeFor members ((placesOf types).foldl (·.insert · rule) r) :=
    foldl_insert_induct (fun _ appliesTo hr => hr.insert h appliesTo) (placesOf types) r
      ⟨fun _ => rfl, fun _ _ => rfl, fun _ _ _ _ _ => rfl⟩
  exact ⟨hinserted.refers, hinserted.known, hinserted.groups⟩

/-- An object is lowered alike under registries that agree for it. -/
theorem lowerObject_under {r' : Registry} (h : r.AgreeFor members r') :
    lowerObject lower (env.under r') members position = lowerObject lower (env.under r) members position := by
  have honly : (env.under r').onlyRef members = (env.under r).onlyRef members := by
    unfold Environment.onlyRef
    cases href : (members.lookup "$ref").isSome with
    | false => rfl
    | true =>
      rw [Bool.true_and, Bool.true_and]
      exact h.refers href
  have hchecked : (env.under r').checkKeywords position.schemaPath members =
      (env.under r).checkKeywords position.schemaPath members := by
    unfold Environment.checkKeywords
    rw [show (env.under r').registry = r' from rfl, show (env.under r).registry = r from rfl,
      List.find?_congr fun m hm => congrArg (!·) (h.known m hm)]
    rfl
  have hgroups : ∀ onlyRef declared,
      lowerGroups lower (env.under r') members position onlyRef declared r'.groups =
        lowerGroups lower (env.under r) members position onlyRef declared r.groups := by
    intro onlyRef declared
    unfold lowerGroups
    rw [RuleGroup.lower_under, RuleGroup.lower_under]
    exact h.groups lower env position onlyRef declared
  rw [lowerObject_eq, lowerObject_eq, honly, hchecked]
  simp only [hgroups, show (env.under r').registry = r' from rfl, show (env.under r).registry = r from rfl]

/-! ## Schemas -/

/-- **Until an object with the keyword, or with one that it takes care of, is come to, a schema is lowered
    as if the keyword had not been added.** -/
theorem lowerUntil_addCustom (env : Environment) (r : Registry) (rule : Rule) (types : List DataType)
    (alarm : SchemaError) (budget : Nat) :
    lowerUntil (env.under (r.addCustom rule types)) (rule.keyword :: rule.implements) alarm budget =
      lowerUntil (env.under r) (rule.keyword :: rule.implements) alarm budget := by
  induction budget with
  | zero =>
    funext schema position
    rw [lowerUntil, lowerUntil]
  | succ budget ih =>
    funext schema position
    cases schema with
    | obj members =>
      rw [lowerUntil, lowerUntil, ih]
      refine bind_congr fun base => ?_
      cases h : hasAny (rule.keyword :: rule.implements) members with
      | true => rw [if_pos rfl, if_pos rfl]
      | false =>
        rw [if_neg Bool.false_ne_true, if_neg Bool.false_ne_true]
        exact lowerObject_under (.addCustom h r types)
    | bool allowed =>
      cases allowed <;> simp [lowerUntil, lowerSchema]
    | _ => simp [lowerUntil, lowerSchema]

end

end JsonSchema
