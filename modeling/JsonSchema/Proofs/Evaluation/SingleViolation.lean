import JsonSchema.Proofs.Evaluation.Records

/-!
# How many violations failing fast reports

Failing fast ends a conjunction with its first failure, but it does not end the keywords that try
several schemas: `anyOf` and `oneOf` keep what their branches recorded and add a violation of their own,
and so do the branches of `if` and `propertyNames`.  **The last violation tells whether it is the only
one** (`Program.last_violation_tells`): it is not if it is that of a keyword that keeps the violations of
others, unless it is that of a `oneOf` whose first two branches pass, before any has failed.

For this the violations have to say which node they come from: `Node.Labelled` is about the keywords in
the sites of a node.
-/

set_option autoImplicit false

namespace JsonSchema

/-! ## Violations that stand alone -/

/-- The keywords that keep the violations of the schemas they try. -/
def keepingKeywords : List String := ["anyOf", "oneOf", "if", "propertyNames"]

/-- The parameters of `oneOf` if the first two branches pass. -/
def firstTwoPass : Json := .obj [("passingSchemas", .arr [.num (.ofNat 0), .num (.ofNat 1)])]

/-- The violation is not one that stands behind others. -/
def Violation.StandsAlone (e : Violation) : Prop :=
  e.keyword ∉ keepingKeywords ∨ e.keyword = "oneOf" ∧ e.params = firstTwoPass

/-! ## Runs -/

namespace Run

/-- A faithful run whose last violation tells whether it is the only one. -/
structure Telling (r : Run) : Prop where
  faithful : Faithful r
  last : ∀ {new}, r [] = some (false, new) →
    ∃ front e, new = front ++ [e] ∧ (front = [] ↔ e.StandsAlone)

variable {r : Run} {rs : List Run}

theorem Telling.stuck : Telling stuck := ⟨.stuck, fun h => absurd h (by simp [Run.stuck])⟩

theorem Telling.pass : Telling (done true) := ⟨.pass, fun h => absurd h (by simp [done])⟩

theorem Telling.reject {e : Violation} (he : e.StandsAlone) : Telling (reject e) := by
  refine ⟨.reject e, fun h => ?_⟩
  simp only [Run.reject, List.nil_append, Option.some.injEq, Prod.mk.injEq, true_and] at h
  exact ⟨[], e, h.symm, by simp [he]⟩

/-- A violation behind those of a run that failed. -/
theorem Telling.noting (h : Faithful r) {e : Violation} (he : ¬ e.StandsAlone) : Telling (noting e r) := by
  refine ⟨h.noting e, fun hr => ?_⟩
  rcases h.cases with hs | hs | ⟨front, hne, hs⟩
  · simp [Run.noting, hs] at hr
  · simp [Run.noting, hs] at hr
  · simp only [Run.noting, hs, List.nil_append, Option.some.injEq, Prod.mk.injEq, true_and] at hr
    exact ⟨front, e, hr.symm, by simp [hne, he]⟩

/-- Failing fast, a conjunction leaves what its first failing part leaves. -/
theorem Telling.every (h : ∀ r ∈ rs, Telling r) : Telling (every true rs) := by
  refine ⟨.every fun r hr => (h r hr).faithful, ?_⟩
  induction rs with
  | nil => exact fun h => absurd h (by simp [Run.every])
  | cons r rest ih =>
    intro new hr
    obtain ⟨hfirst, hrest⟩ := List.forall_mem_cons.mp h
    simp only [Run.every, if_true] at hr
    split at hr
    · cases hr
    · next hpass =>
      rcases hfirst.faithful.cases with hs | hs | ⟨front, -, hs⟩
      · simp [hs] at hpass
      · simp only [hs, Option.some.injEq, Prod.mk.injEq, true_and] at hpass
        exact ih hrest (hpass ▸ hr)
      · simp [hs] at hpass
    · next hfail =>
      cases hr
      exact hfirst.last hfail

/-- What was recorded is taken back before the one violation of the run. -/
theorem Telling.negate (h : Faithful r) {e : Violation} (he : e.StandsAlone) : Telling (negate e r) := by
  refine ⟨h.negate e, fun hr => ?_⟩
  rcases h.cases with hs | hs | ⟨front, -, hs⟩
  · simp [Run.negate, hs] at hr
  · simp only [Run.negate, Run.reject, hs, if_true, List.length_nil, List.take_nil, List.nil_append,
      Option.some.injEq, Prod.mk.injEq, true_and] at hr
    exact ⟨[], e, hr.symm, by simp [he]⟩
  · simp [Run.negate, hs] at hr

theorem Telling.someOf (h : ∀ r ∈ rs, Faithful r) {e : Violation} (he : e.StandsAlone) :
    Telling (someOf e rs) := by
  refine ⟨.someOf h e, fun hr => ?_⟩
  simp only [Run.someOf] at hr
  split at hr
  · cases hr
  · next found after _ =>
    cases found with
    | true => simp at hr
    | false =>
      simp only [Run.reject, Bool.false_eq_true, if_false, List.length_nil, List.take_zero,
        List.nil_append, Option.some.injEq, Prod.mk.injEq, true_and] at hr
      exact ⟨[], e, hr.symm, by simp [he]⟩

/-- A search that finds nothing among some runs has recorded something. -/
theorem untilPass_ne_nil {after : List Violation} (h : ∀ r ∈ rs, Faithful r) (hne : rs ≠ [])
    (hr : untilPass rs [] = some (false, after)) : after ≠ [] := by
  obtain ⟨r, rest, rfl⟩ := List.exists_cons_of_ne_nil hne
  obtain ⟨hfirst, hrest⟩ := List.forall_mem_cons.mp h
  have happ := untilPass_appends fun r hr => (hrest r hr).appends
  rcases hfirst.cases with hs | hs | ⟨new, hnew, hs⟩
  · simp [Run.untilPass, hs] at hr
  · simp [Run.untilPass, hs] at hr
  · simp only [Run.untilPass, hs, List.nil_append] at hr
    obtain ⟨more, -, rfl⟩ := (happ.eq_some _).mp hr
    exact List.append_ne_nil_of_left_ne_nil hnew more

theorem Telling.anyOf (h : ∀ r ∈ rs, Faithful r) (hne : rs ≠ []) {e : Violation}
    (he : ¬ e.StandsAlone) : Telling (anyOf e rs) := by
  refine ⟨.anyOf h e, fun hr => ?_⟩
  simp only [Run.anyOf] at hr
  split at hr
  · cases hr
  · cases hr
  · next after hsearch =>
    simp only [Run.reject, Option.some.injEq, Prod.mk.injEq, true_and] at hr
    exact ⟨after, e, hr.symm, by simp [untilPass_ne_nil h hne hsearch, he]⟩

/-- What a search for passing runs adds to the numbers that were found. -/
theorem passing_numbers {found found' : List Nat} {number : Nat} {errors after : List Violation}
    (hr : passing found number rs errors = some (found', after)) :
    ∃ later, found' = found ++ later ∧ ∀ i ∈ later, number ≤ i := by
  induction rs generalizing found number errors with
  | nil =>
    simp only [Run.passing, Option.some.injEq, Prod.mk.injEq] at hr
    exact ⟨[], by simp [hr.1], by simp⟩
  | cons r rest ih =>
    simp only [Run.passing] at hr
    split at hr
    · cases hr
    · split at hr
      · next hempty =>
        obtain ⟨later, rfl, hlater⟩ := ih hr
        obtain rfl := List.isEmpty_iff.mp hempty
        refine ⟨number :: later, rfl, List.forall_mem_cons.mpr ⟨Nat.le_refl number, fun i hi => ?_⟩⟩
        exact Nat.le_of_succ_le (hlater i hi)
      · cases hr
        exact ⟨[number], rfl, by simp⟩
    · obtain ⟨later, rfl, hlater⟩ := ih hr
      exact ⟨later, rfl, fun i hi => Nat.le_of_succ_le (hlater i hi)⟩

/-- A search that goes on behind violations has recorded something. -/
theorem passing_behind {found found' : List Nat} {number : Nat} {before after : List Violation}
    (h : ∀ r ∈ rs, Faithful r) (hbefore : before ≠ [])
    (hr : passing found number rs before = some (found', after)) {P : Prop} (hP : ¬ P) :
    after = [] ↔ P := by
  obtain ⟨more, -, rfl⟩ := ((passing_appends found number fun r hr => (h r hr).appends).eq_some _).mp hr
  simp [hbefore, hP]

/-- A search that does not end with one passing run has recorded nothing only if the first two pass. -/
theorem passing_eq_nil_iff {found : List Nat} {after : List Violation} (h : ∀ r ∈ rs, Faithful r)
    (hne : rs ≠ []) (hr : passing [] 0 rs [] = some (found, after)) (hmany : ∀ i, found ≠ [i]) :
    after = [] ↔ found = [0, 1] := by
  obtain ⟨r, rest, rfl⟩ := List.exists_cons_of_ne_nil hne
  obtain ⟨hfirst, hrest⟩ := List.forall_mem_cons.mp h
  rcases hfirst.cases with hs | hs | ⟨new, hnew, hs⟩
  · simp [Run.passing, hs] at hr
  · simp only [Run.passing, hs, List.isEmpty_nil, if_true] at hr
    cases rest with
    | nil =>
      simp only [Run.passing, Option.some.injEq, Prod.mk.injEq] at hr
      exact absurd hr.1.symm (hmany 0)
    | cons r' rest =>
      obtain ⟨hsecond, hrest⟩ := List.forall_mem_cons.mp hrest
      rcases hsecond.cases with hs' | hs' | ⟨new, hnew, hs'⟩
      · simp [Run.passing, hs'] at hr
      · simp only [Run.passing, hs', List.isEmpty_cons, Bool.false_eq_true, if_false, List.singleton_append,
          Option.some.injEq, Prod.mk.injEq] at hr
        obtain ⟨rfl, rfl⟩ := hr
        simp
      · simp only [Run.passing, hs', List.nil_append] at hr
        obtain ⟨later, hfound, hlater⟩ := passing_numbers hr
        refine passing_behind hrest hnew hr fun heq => ?_
        -- the second run failed, so that the numbers that are found later are above 1
        obtain rfl : [1] = later := by simpa [hfound] using heq.symm
        exact absurd (hlater 1 (by simp)) (by decide)
  · simp only [Run.passing, hs, List.nil_append] at hr
    obtain ⟨later, hfound, hlater⟩ := passing_numbers hr
    refine passing_behind hrest hnew hr fun heq => ?_
    obtain rfl : [0, 1] = later := by simpa [hfound] using heq.symm
    exact absurd (hlater 0 (by simp)) (by decide)

theorem Telling.oneOf (h : ∀ r ∈ rs, Faithful r) (hne : rs ≠ []) {e : List Nat → Violation}
    (he : ∀ found, (e found).StandsAlone ↔ found = [0, 1]) : Telling (oneOf e rs) := by
  refine ⟨.oneOf h e, fun hr => ?_⟩
  simp only [Run.oneOf] at hr
  split at hr
  · cases hr
  · cases hr
  · next found after hmany hsearch =>
    simp only [Run.reject, Option.some.injEq, Prod.mk.injEq, true_and] at hr
    refine ⟨after, e found, hr.symm, ?_⟩
    rw [he, passing_eq_nil_iff h hne hsearch hmany]

theorem Telling.branch {c t e : Run} (hc : Faithful c) (ht : Telling t) (he : Telling e) :
    Telling (branch c t e) := by
  rcases hc.cases with hs | hs | ⟨new, -, hs⟩
  · refine ⟨.branch hc ht.faithful he.faithful, fun hr => ?_⟩
    simp [Run.branch, hs] at hr
  · have heq : Run.branch c t e = t := by funext errors; simp [Run.branch, hs]
    rw [heq]
    exact ht
  · have heq : Run.branch c t e = e := by funext errors; simp [Run.branch, hs]
    rw [heq]
    exact he

end Run

/-! ## Nodes -/

/-- The site is not that of a keyword that keeps the violations of others. -/
def ErrorSite.Plain (site : ErrorSite) : Prop := site.keyword ∉ keepingKeywords

/-- Nodes whose sites have the keywords that go with them, and at least one branch where they combine
    branches.  What is below the keywords that combine schemas does not matter: its violations are taken
    back, or there is one of the keyword's own behind them. -/
inductive Node.Labelled : Node → Prop where
  | pass : Labelled .pass
  | all {nodes} : (∀ n ∈ nodes, Labelled n) → Labelled (.all nodes)
  | reject {site} : site.Plain → Labelled (.reject site)
  | guard {group body} : Labelled body → Labelled (.guard group body)
  | type {types site} : site.Plain → Labelled (.type types site)
  | check {c} : c.site.Plain → Labelled (.check c)
  | call {procedure} : Labelled (.call procedure)
  | descend {step body} : Labelled body → Labelled (.descend step body)
  | items {start body} : Labelled body → Labelled (.items start body)
  | properties {filter body} : Labelled body → Labelled (.properties filter body)
  | noProperties {filter site} : site.Plain → Labelled (.noProperties filter site)
  | propertyNames {body site} : site.keyword = "propertyNames" → Labelled (.propertyNames body site)
  | ifPresent {name body} : Labelled body → Labelled (.ifPresent name body)
  | contains {body site} : site.Plain → Labelled (.contains body site)
  | anyOf {branches site} : site.keyword = "anyOf" → branches ≠ [] → Labelled (.anyOf branches site)
  | oneOf {branches site} : site.keyword = "oneOf" → branches ≠ [] → Labelled (.oneOf branches site)
  | not {body site} : site.Plain → Labelled (.not body site)
  | ifThenElse {condition thenBranch elseBranch site} : site.keyword = "if" →
      Labelled (.ifThenElse condition thenBranch elseBranch site)

theorem ErrorSite.Plain.standsAlone {site : ErrorSite} (h : site.Plain) (l : Location) (params : Json)
    (message : String) : (site.violation l params message).StandsAlone := Or.inl h

/-- A violation of the other keywords stands behind others, unless it is one of `oneOf`. -/
theorem ErrorSite.not_standsAlone {site : ErrorSite} (h : site.keyword ∈ keepingKeywords)
    (hone : site.keyword ≠ "oneOf") (l : Location) (params : Json) (message : String) :
    ¬ (site.violation l params message).StandsAlone := by
  rintro (hplain | ⟨heq, -⟩)
  · exact hplain h
  · exact hone heq

theorem Node.oneOfViolation_standsAlone {site : ErrorSite} (h : site.keyword = "oneOf") (l : Location)
    (found : List Nat) : (oneOfViolation site l found).StandsAlone ↔ found = [0, 1] := by
  constructor
  · rintro (hplain | ⟨-, hparams⟩)
    · exact absurd (show site.keyword ∈ keepingKeywords by simp [h, keepingKeywords]) hplain
    · -- numbers of branches up to 1 are not cut off
      have hsmall : ∀ i k : Nat, k ≤ 1 → Number.ofNat i = Number.ofNat k → i = k := by
        intro i k hk heq
        have hcut : min (i : Int) 18446744073709551615 = min (k : Int) 18446744073709551615 :=
          Number.int.inj heq
        omega
      replace hparams : (if found.isEmpty then Json.null else .arr (found.map fun i => .num (.ofNat i))) =
          .arr [.num (.ofNat 0), .num (.ofNat 1)] := by
        simpa [oneOfViolation, ErrorSite.violation, firstTwoPass] using hparams
      match found with
      | [] => simp at hparams
      | [i] => simp at hparams
      | [i, j] =>
        simp only [List.isEmpty_cons, Bool.false_eq_true, if_false, List.map_cons, List.map_nil,
          Json.arr.injEq, List.cons.injEq, Json.num.injEq, and_true] at hparams
        rw [hsmall i 0 (by decide) hparams.1, hsmall j 1 (by decide) hparams.2]
      | i :: j :: k :: rest => simp at hparams
  · rintro rfl
    exact Or.inr ⟨h, rfl⟩

variable {call : Nat → Location → Run}

/-- **A node tells by its last violation whether it is the only one**, if its calls do. -/
theorem Node.run_telling {n : Node} (h : n.Labelled) (hcall : ∀ i l, (call i l).Telling) :
    ∀ l, (n.run call true l).Telling := by
  have hfaithful : ∀ (n : Node) l, (n.run call true l).Faithful := fun n l =>
    n.run_keeps (Run.faithful_congruence true) l fun i l' _ => (hcall i l').faithful
  induction n using Node.induct with
  | pass =>
    intro l
    rw [run_pass]
    exact .pass
  | all nodes ih =>
    cases h with
    | all h =>
      intro l
      rw [run_all]
      exact .every (List.forall_mem_map.mpr fun n hn => ih n hn (h n hn) l)
  | reject site =>
    cases h with
    | reject h =>
      intro l
      rw [run_reject]
      exact .reject (h.standsAlone _ _ _)
  | guard group body ih =>
    cases h with
    | guard h =>
      intro l
      rw [run_guard]
      split
      · exact ih h l
      · exact .pass
  | type types site =>
    cases h with
    | type h =>
      intro l
      rw [run_type]
      split
      · exact .pass
      · exact .reject (h.standsAlone _ _ _)
  | check c =>
    cases h with
    | check h =>
      intro l
      rw [show run call true (.check c) l = c.run l by rw [run]]
      rcases c.run_cases l with hc | ⟨params, message, hc⟩ <;> rw [hc]
      · exact .pass
      · exact .reject (h.standsAlone _ _ _)
  | call procedure =>
    intro l
    rw [show run call true (.call procedure) l = call procedure l by rw [run]]
    exact hcall procedure l
  | descend step body ih =>
    cases h with
    | descend h =>
      intro l
      rw [run_descend]
      cases step.child? l.value with
      | none => exact .pass
      | some v => exact ih h _
  | items start body ih =>
    cases h with
    | items h =>
      intro l
      rw [run_items]
      exact .every (List.forall_mem_map.mpr fun e _ => ih h e)
  | properties filter body ih =>
    cases h with
    | properties h =>
      intro l
      rw [run_properties]
      exact .every (List.forall_mem_map.mpr fun m _ => ih h m.2)
  | noProperties filter site =>
    cases h with
    | noProperties h =>
      intro l
      rw [run_noProperties]
      exact .every (List.forall_mem_map.mpr fun m _ => .reject (h.standsAlone _ _ _))
  | propertyNames body site ih =>
    cases h with
    | propertyNames hsite =>
      intro l
      rw [run_propertyNames]
      refine .every (List.forall_mem_map.mpr fun name _ => .noting (hfaithful body name) ?_)
      exact ErrorSite.not_standsAlone (by simp [hsite, keepingKeywords]) (by simp [hsite]) _ _ _
  | ifPresent name body ih =>
    cases h with
    | ifPresent h =>
      intro l
      rw [run_ifPresent]
      split
      · exact ih h l
      · exact .pass
  | contains body site ih =>
    cases h with
    | contains h =>
      intro l
      rw [run_contains]
      split
      · exact .someOf (List.forall_mem_map.mpr fun e _ => hfaithful body e) (h.standsAlone _ _ _)
      · exact .pass
  | anyOf branches site ih =>
    cases h with
    | anyOf hsite hne =>
      intro l
      rw [run_anyOf]
      refine .anyOf (List.forall_mem_map.mpr fun n _ => hfaithful n l) (by simpa using hne) ?_
      exact ErrorSite.not_standsAlone (by simp [hsite, keepingKeywords]) (by simp [hsite]) _ _ _
  | oneOf branches site ih =>
    cases h with
    | oneOf hsite hne =>
      intro l
      rw [run_oneOf]
      exact .oneOf (List.forall_mem_map.mpr fun n _ => hfaithful n l) (by simpa using hne)
        (oneOfViolation_standsAlone hsite l)
  | not body site ih =>
    cases h with
    | not h =>
      intro l
      rw [run_not]
      exact .negate (hfaithful body l) (h.standsAlone _ _ _)
  | ifThenElse condition thenBranch elseBranch site ihc iht ihe =>
    cases h with
    | ifThenElse hsite =>
      intro l
      rw [run_ifThenElse]
      refine .branch (hfaithful condition l) (.noting (hfaithful thenBranch l) ?_)
        (.noting (hfaithful elseBranch l) ?_)
      · exact ErrorSite.not_standsAlone (by simp [hsite, keepingKeywords]) (by simp [hsite]) _ _ _
      · exact ErrorSite.not_standsAlone (by simp [hsite, keepingKeywords]) (by simp [hsite]) _ _ _

/-! ## Programs -/

/-- All bodies of a program are labelled. -/
structure Program.Labelled (p : Program) : Prop where
  root : p.root.Labelled
  procedures : ∀ body ∈ p.procedures, body.Labelled

theorem Program.call_telling {p : Program} (h : p.Labelled) :
    ∀ budget i l, (p.call true budget i l).Telling := by
  intro budget
  induction budget with
  | zero =>
    intro i l
    rw [call]
    exact .stuck
  | succ budget ih =>
    intro i l
    rw [call]
    split
    · next body hbody => exact Node.run_telling (h.procedures body (List.mem_of_getElem? hbody)) ih l
    · exact .pass

/-- A program that fails fast reports one violation or more, and by the last one it can be told which. -/
theorem Program.last_violation_tells {p : Program} (h : p.Labelled) {data : Json}
    {violations : List Violation} (hrun : p.run true data = some (false, violations)) :
    ∃ front last, violations = front ++ [last] ∧ (front = [] ↔ last.StandsAlone) :=
  (Node.run_telling h.root (p.call_telling h _) _).last hrun

end JsonSchema
