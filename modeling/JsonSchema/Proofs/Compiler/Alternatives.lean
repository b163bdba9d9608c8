import JsonSchema.Proofs.Compiler.SingleKeyword
import JsonSchema.Proofs.Evaluation.Answers
import JsonSchema.Proofs.Evaluation.CallBudget
import JsonSchema.Proofs.Lowering.Again
import JsonSchema.Proofs.Lowering.Cycles
import JsonSchema.Proofs.Registry.BuiltinRules

/-!
# Schemas with an alternative

A schema that is nothing but `anyOf` of two others is lowered branch by branch, the second branch with the
procedures of the first in front of its own (`lowerSchema_either`).  So the first branch calls what it would
call by itself, and **if no data passes the second branch, the schema passes what the first one passes**
(`Program.run_either`).
-/

set_option autoImplicit false

namespace JsonSchema

open LowerM

/-! ## Lowering -/

/-- A schema for what one of two schemas is for. -/
def either (s t : Json) : Json := .obj [("anyOf", .arr [s, t])]

section

variable {env : Environment} {group : RuleGroup} {position : Position} {s t : Json}

/-- The rule for `anyOf` in it. -/
def eitherPlace (env : Environment) (position : Position) (s t : Json) : KeywordPlace :=
  (Rule.ofBuiltin .anyOf).place env [("anyOf", .arr [s, t])] position none

/-- Where it says that the data passes neither. -/
def eitherSite (env : Environment) (position : Position) (s t : Json) : ErrorSite :=
  (eitherPlace env position s t).site (.fixed "should match some schema in anyOf" (.obj []))

theorem Rule.lower_either (lower : Lower) :
    (Rule.ofBuiltin .anyOf).lower lower env [("anyOf", .arr [s, t])] position = (do
      let n ← lower s ((eitherPlace env position s t).inside s!"anyOf/{0}")
      let m ← lower t ((eitherPlace env position s t).inside s!"anyOf/{1}")
      return .anyOf [n, m] (eitherSite env position s t)) := by
  show (do
    let nodes ← (do
      let branches ← (eitherPlace env position s t).branchesFrom lower 0 [s, t]
      return [Node.anyOf branches (eitherSite env position s t)])
    return Node.conj nodes) = _
  simp only [KeywordPlace.branchesFrom, bind_assoc, pure_bind, Node.conj_singleton]
  rfl

/-- **The branches are lowered one after the other**, if `anyOf` is read as in draft-07 and no other keyword
    takes care of it. -/
theorem lowerSchema_either (h : env.registry.ReadsBuiltin .anyOf group)
    (halone : ∀ place rule, env.registry.Holds place rule → "anyOf" ∈ rule.implements →
      rule.keyword = "anyOf") (budget : Nat) :
    lowerSchema env (budget + 1) (either s t) position = (do
      let n ← lowerSchema env budget s ((eitherPlace env position s t).inside s!"anyOf/{0}")
      let m ← lowerSchema env budget t ((eitherPlace env position s t).inside s!"anyOf/{1}")
      return .anyOf [n, m] (eitherSite env position s t)) := by
  have hlast : ∀ listed ∈ BuiltinKeyword.groups, .anyOf ∈ listed.2 → listed.1 = none := by decide
  obtain ⟨listed, hlisted, htype, hanyOf⟩ := h.listed
  have happlies : group.appliesTo = none := htype.symm.trans (hlast listed hlisted hanyOf)
  have hknown : env.checkKeywords position.schemaPath [("anyOf", .arr [s, t])] = .ok () := by
    have hrule : env.registry.isKnown "anyOf" = true := by
      unfold Registry.isKnown
      rw [show env.registry.membership.contains "anyOf" = true from h.hasRule]
      rfl
    unfold Environment.checkKeywords
    rw [List.find?_cons, hrule]
    rfl
  have hpresent : ∀ g ∈ env.registry.groups, g.present [("anyOf", .arr [s, t])]
      (env.onlyRef [("anyOf", .arr [s, t])]) = g.rules.filter (·.keyword == "anyOf") := by
    intro g hg
    rw [Registry.present_single halone hg]
    exact List.filter_congr fun rule _ => (beq_eq_decide _ _).symm
  rw [either, lowerSchema_obj rfl, lowerObject_eq]
  show (liftExcept (env.checkKeywords position.schemaPath [("anyOf", .arr [s, t])]) >>= fun _ => _) = _
  rw [hknown]
  show (pure none >>= fun declared => lowerGroups _ _ _ _ (env.onlyRef _) declared _) = _
  rw [pure_bind, lowerGroups_only h.groups h.rules happlies hpresent, Rule.lower_either]

/-- What a schema with an alternative is lowered to is made of what its branches are lowered to. -/
theorem lowerSchema_either_ok (h : env.registry.ReadsBuiltin .anyOf group)
    (halone : ∀ place rule, env.registry.Holds place rule → "anyOf" ∈ rule.implements →
      rule.keyword = "anyOf") {budget : Nat} {root : Node} {before after : List Procedure}
    (hlower : lowerSchema env (budget + 1) (either s t) position before = .ok (root, after)) :
    ∃ n m mid, lowerSchema env budget s ((eitherPlace env position s t).inside s!"anyOf/{0}") before =
        .ok (n, mid) ∧
      (lowerSchema env budget t ((eitherPlace env position s t).inside s!"anyOf/{1}")).Answers m ∧
      mid <+: after ∧ root = .anyOf [n, m] (eitherSite env position s t) := by
  rw [lowerSchema_either h halone] at hlower
  obtain ⟨n, mid, hn, hlower⟩ := LowerM.bind_eq_ok.mp hlower
  obtain ⟨m, after', hm, hlower⟩ := LowerM.bind_eq_ok.mp hlower
  obtain ⟨rfl, rfl⟩ := pure_eq_ok.mp hlower
  exact ⟨n, m, mid, hn, ⟨mid, after, hm⟩, (lowerSchema_keeps hm).1, rfl⟩

end

/-! ## Running -/

/-- **With a branch that nothing passes beside it, a program passes what it passes by itself.** -/
theorem Program.run_either {p q : Program} (hp : p.Closed) (hq : q.Closed)
    (hprocedures : p.procedures <+: q.procedures) {m : Node} {site : ErrorSite}
    (hroot : q.root = .anyOf [p.root, m] site) {failFast : Bool} {data : Json}
    (hm : ∀ call, ¬ (m.run call failFast (.root data)).Passes) :
    (q.run failFast data).map Prod.fst = some true ↔ (p.run failFast data).map Prod.fst = some true := by
  have hsame : p.Renumbered q id := by
    intro i body hbody
    obtain ⟨rest, hrest⟩ := hprocedures
    obtain ⟨hi, -⟩ := List.getElem?_eq_some_iff.mp hbody
    rw [Node.renumber_id, ← hrest, id, List.getElem?_append_left hi, hbody]
  -- under the same budget the first branch does in the one program what it does in the other
  have hbranch : ∀ budget, p.root.run (q.call failFast budget) failFast (.root data) [] =
      p.root.run (p.call failFast budget) failFast (.root data) [] := by
    intro budget
    refine congrFun (p.root.run_congr (Run.eq_congruence failFast) _ fun i l' hcall => ?_) []
    refine hsame.call_eq hp failFast budget i l' ?_
    rcases hcall.reachesFrom with ⟨hr, -⟩ | ⟨hr, -⟩
    · exact hp.root hr
    · exact hp.root hr
  have heither : ∀ budget,
      (q.root.run (q.call failFast budget) failFast (.root data) []).map Prod.fst = some true ↔
        (p.root.run (p.call failFast budget) failFast (.root data) []).map Prod.fst = some true := by
    intro budget
    rw [hroot, Node.run_anyOf, ← hbranch]
    exact Run.anyOf_pair_passes _ (hm _) []
  constructor
  · intro h
    obtain ⟨result, hrun, hvalid⟩ := Option.map_eq_some_iff.mp ((heither (q.callBudget data)).mp h)
    rw [p.run_eq_of_ends hp hrun, Option.map_some, hvalid]
  · intro h
    obtain ⟨result, hrun, hvalid⟩ := Option.map_eq_some_iff.mp ((heither (p.callBudget data)).mpr h)
    rw [q.run_eq_of_ends hq hrun, Option.map_some, hvalid]

/-! ## Compiling -/

theorem Validator.validate_eq_valid_iff {v : Validator} {data : Json} :
    v.validate data = .valid ↔ (v.program.run (!v.allErrors) data).map Prod.fst = some true := by
  unfold validate
  cases v.program.run (!v.allErrors) data with
  | none => simp
  | some result =>
    obtain ⟨valid, after⟩ := result
    cases valid <;> simp

/-- **A schema with an alternative compiles only if its branches can be lowered**, and if nothing passes the
    second one, its validator says yes where the program of the first one does. -/
theorem compileSchema_either {surroundings : Surroundings} {group : RuleGroup} {s t : Json} {w : Validator}
    (hreads : surroundings.registry.ReadsBuiltin .anyOf group)
    (halone : ∀ place rule, surroundings.registry.Holds place rule → "anyOf" ∈ rule.implements →
      rule.keyword = "anyOf") (h : compileSchema surroundings (either s t) = .ok w) :
    ∃ documents budget n m mid path path',
      Documents.visibleFrom (either s t) defaultBase surroundings.cache = .ok documents ∧
      lowerSchema (surroundings.among documents) budget s ⟨path, "", 0, defaultBase, 0⟩ [] = .ok (n, mid) ∧
      (lowerSchema (surroundings.among documents) budget t ⟨path', "", 0, defaultBase, 0⟩).Answers m ∧
      ∀ data, (∀ call failFast, ¬ (m.run call failFast (.root data)).Passes) →
        (w.validate data = .valid ↔
          (Validator.mk (.ofLowered (n, mid)) surroundings.options.allErrors).validate data = .valid) := by
  obtain ⟨⟨root, after⟩, hlowered, rfl⟩ := compileSchema_eq_ok.mp h
  obtain ⟨base, documents, hbase, hdocuments, hroot⟩ := lowerProgram_eq_ok.mp hlowered
  obtain rfl : base = defaultBase := (Except.ok.inj hbase).symm
  obtain ⟨budget, hbudget⟩ : ∃ budget, loweringBudget (either s t) documents = budget + 1 :=
    Nat.exists_eq_succ_of_ne_zero (Nat.ne_of_gt (Nat.zero_lt_of_lt (size_lt_loweringBudget _ _)))
  rw [hbudget] at hroot
  obtain ⟨n, m, mid, hn, hm, hgrown, rfl⟩ :=
    @lowerSchema_either_ok (surroundings.among documents) group _ s t hreads halone budget _ _ _ hroot
  obtain ⟨hordered, -, hchecked⟩ :=
    lowerSchema_made (ordered_invariant (surroundings.among documents)) _ _ _ _ _ _ .nil hn
  have hclosed := Program.ofLowered_closed hordered (hchecked mid List.prefix_rfl)
  have hclosed' := Program.ofLowered_closed (lowerProgram_ordered hlowered).1 (lowerProgram_ordered hlowered).2
  refine ⟨documents, budget, n, m, mid, _, _, hdocuments, hn, hm, fun data hnever => ?_⟩
  rw [Validator.validate_eq_valid_iff, Validator.validate_eq_valid_iff]
  exact Program.run_either hclosed hclosed' (hgrown.map _) rfl fun call => hnever call _

end JsonSchema
