import JsonSchema.Proofs.Evaluation.SameVerdict
import JsonSchema.Proofs.Lowering.Objects
import JsonSchema.Proofs.Registry.Coherence

/-!
# What the code of a keyword records

The code of a keyword asks for checks, one after the other, and may say in between which parameters the
violations of the later ones have.  What is recorded is told by where an action stands among the actions
(`KeywordPlace.failures`); the code that runs goes through the actions and carries the wording along, and
the nodes it makes are taken into a conjunction, into a group and into a schema on the way.  **None of this
drops or moves a violation** (`nothing_contributed_is_dropped`).

The same way from a rule to the schema around it (`lowerSchema_around`) is that of every other keyword.
-/

set_option autoImplicit false

namespace JsonSchema

/-! ## Runs that record what is known -/

namespace Run

variable {failFast : Bool}

/-- Records the violations, of which failing fast keeps the first, and passes if there are none. -/
def recording (failFast : Bool) (new : List Violation) : Run := fun errors =>
  some (new.isEmpty, errors ++ if failFast then new.take 1 else new)

theorem recording_nil : recording failFast [] = done true := by
  funext errors
  simp [recording, done]

theorem recording_singleton (e : Violation) : recording failFast [e] = reject e := by
  funext errors
  simp [recording, reject]

/-- What the first run records stands in front of what the others record. -/
theorem every_recording_cons {new more : List Violation} {rs : List Run}
    (h : every failFast rs = recording failFast more) :
    every failFast (recording failFast new :: rs) = recording failFast (new ++ more) := by
  funext errors
  rw [every, h]
  cases new with
  | nil => simp [recording]
  | cons e rest => cases failFast <;> simp [recording]

/-- A conjunction inside another is a part of it. -/
theorem every_flatten (rs ms ss : List Run) :
    every failFast (rs ++ every failFast ms :: ss) = every failFast (rs ++ (ms ++ ss)) := by
  have hinner : every failFast (every failFast ms :: ss) = every failFast (ms ++ ss) := by
    funext errors
    refine Eq.trans ?_ ((every_append failFast ms ss errors).trans (every_pair _ _ _ _)).symm
    cases hms : every failFast ms errors with
    | none => simp only [every, hms]
    | some result =>
      obtain ⟨valid, after⟩ := result
      cases valid <;> simp only [every, hms]
  funext errors
  rw [every_append, hinner, ← every_append]

end Run

/-! ## From a rule to the schema around it -/

namespace LowerM

/-- The run can give the answer, from whatever procedures it begins with. -/
def Answers {α : Type} (m : LowerM α) (a : α) : Prop := ∃ before after, m before = .ok (a, after)

theorem mapM_answers {α β : Type} {f : α → LowerM β} {xs : List α} : ∀ {ys : List β},
    (xs.mapM f).Answers ys → List.Forall₂ (fun x y => (f x).Answers y) xs ys := by
  induction xs with
  | nil =>
    rintro ys ⟨before, after, h⟩
    rw [List.mapM_nil] at h
    obtain ⟨rfl, -⟩ := pure_eq_ok.mp h
    exact .nil
  | cons x rest ih =>
    rintro ys ⟨before, after, h⟩
    rw [List.mapM_cons] at h
    obtain ⟨y, mid, hy, h⟩ := bind_eq_ok.mp h
    obtain ⟨zs, mid', hzs, h⟩ := bind_eq_ok.mp h
    obtain ⟨rfl, -⟩ := pure_eq_ok.mp h
    exact .cons ⟨before, mid, hy⟩ (ih ⟨mid, mid', hzs⟩)

end LowerM

/-- Of two lists entry by entry, an entry of the first has its own between the others of the second. -/
theorem exists_of_forall₂_of_mem {α β : Type} {R : α → β → Prop} {xs : List α} {ys : List β}
    (h : List.Forall₂ R xs ys) {x : α} (hx : x ∈ xs) :
    ∃ front y back, ys = front ++ y :: back ∧ R x y := by
  induction h with
  | nil => cases hx
  | @cons x' y' rest rest' hR _ ih =>
    rcases List.mem_cons.mp hx with rfl | hx
    · exact ⟨[], y', rest', rfl, hR⟩
    · obtain ⟨front, y, back, rfl, hy⟩ := ih hx
      exact ⟨y' :: front, y, back, rfl, hy⟩

section

open LowerM

variable {lower : Lower} {env : Environment} {members : List (String × Json)} {position : Position}
  {node : Node}

/-- On data that it concerns a group runs as what its rules contribute, and on other data it passes. -/
theorem RuleGroup.run_around_conj (group : RuleGroup) (nodes : List Node) (call : Nat → Location → Run)
    (failFast : Bool) (l : Location) :
    (group.around (.conj nodes)).run call failFast l =
      if group.appliesTo.all (·.accepts l.value) then
        Run.every failFast (nodes.map (Node.run call failFast · l))
      else Run.done true := by
  rw [run_around, Node.run_conj]
  cases group.appliesTo with
  | none => rfl
  | some type => rfl

/-- A group is lowered rule by rule. -/
theorem RuleGroup.lower_answers {group : RuleGroup} {onlyRef : Bool}
    (h : (group.lower lower env members position onlyRef).Answers node) :
    ∃ nodes, List.Forall₂ (fun rule n => (rule.lower lower env members position).Answers n)
      (group.present members onlyRef) nodes ∧ node = group.around (.conj nodes) := by
  obtain ⟨before, after, h⟩ := h
  obtain ⟨nodes, mid, hnodes, h⟩ := bind_eq_ok.mp h
  obtain ⟨rfl, -⟩ := pure_eq_ok.mp h
  exact ⟨nodes, mapM_answers ⟨before, mid, hnodes⟩, rfl⟩

/-- An object is lowered group by group, of those that concern the declared types. -/
theorem lowerObject_answers (h : (lowerObject lower env members position).Answers node) :
    ∃ declared nodes,
      (env.onlyRef members = true ∧ declared = none ∨ env.onlyRef members = false ∧
        declaredTypes position.schemaPath members = .ok declared) ∧
      List.Forall₂ (fun group n =>
          (group.lower lower env members position (env.onlyRef members)).Answers n)
        (env.registry.groups.filter (·.concerns declared)) nodes ∧
      node = .conj ((declared.map (typeNode position.schemaPath members)).toList ++ nodes) := by
  obtain ⟨before, after, h⟩ := h
  have hgroups : ∀ {declared : Option (List DataType)} {procedures : List Procedure},
      (do
        let nodes ← (env.registry.groups.filter (·.concerns declared)).mapM
          (RuleGroup.lower lower env members position (env.onlyRef members))
        return Node.conj ((declared.map (typeNode position.schemaPath members)).toList ++ nodes) :
          LowerM Node) procedures = .ok (node, after) →
      ∃ nodes, List.Forall₂ (fun group n =>
          (group.lower lower env members position (env.onlyRef members)).Answers n)
        (env.registry.groups.filter (·.concerns declared)) nodes ∧
        node = .conj ((declared.map (typeNode position.schemaPath members)).toList ++ nodes) := by
    intro declared procedures h
    obtain ⟨nodes, mid, hnodes, h⟩ := bind_eq_ok.mp h
    obtain ⟨rfl, -⟩ := pure_eq_ok.mp h
    exact ⟨nodes, mapM_answers ⟨procedures, mid, hnodes⟩, rfl⟩
  unfold lowerObject at h
  change (if env.onlyRef members then _ else _ : LowerM Node) before = _ at h
  cases honly : env.onlyRef members with
  | true =>
    rw [if_pos honly] at h
    obtain ⟨declared, mid, hdeclared, h⟩ := bind_eq_ok.mp h
    obtain ⟨rfl, -⟩ := pure_eq_ok.mp hdeclared
    obtain ⟨nodes, hnodes, heq⟩ := hgroups h
    exact ⟨none, nodes, .inl ⟨rfl, rfl⟩, honly ▸ hnodes, heq⟩
  | false =>
    rw [if_neg (by simp [honly])] at h
    obtain ⟨_, mid, -, h⟩ := bind_eq_ok.mp h
    obtain ⟨declared, mid', hdeclared, h⟩ := bind_eq_ok.mp h
    obtain ⟨nodes, hnodes, heq⟩ := hgroups h
    exact ⟨declared, nodes, .inr ⟨rfl, (liftExcept_eq_ok.mp hdeclared).1⟩, honly ▸ hnodes, heq⟩

/-- **What a rule contributes stands in what the groups contribute**, between what stands before and what
    stands after, wherever the rule's group concerns the data. -/
theorem lowerGroups_around {T : Rule → Node → Prop} {groups : List RuleGroup} {onlyRef : Bool}
    {front nodes : List Node} {group : RuleGroup} {rule : Rule}
    (h : List.Forall₂ (fun group n => ∃ parts, List.Forall₂ T (group.present members onlyRef) parts ∧
      n = group.around (.conj parts)) groups nodes)
    (hgroup : group ∈ groups) (hrule : rule ∈ group.present members onlyRef) :
    ∃ contributed before after, T rule contributed ∧
      ∀ call failFast l, group.appliesTo.all (·.accepts l.value) = true →
        (Node.conj (front ++ nodes)).run call failFast l =
          Run.every failFast ((before ++ contributed :: after).map (Node.run call failFast · l)) := by
  obtain ⟨front', made, back, rfl, parts, hparts, rfl⟩ := exists_of_forall₂_of_mem h hgroup
  obtain ⟨front'', contributed, back', rfl, hcontributed⟩ := exists_of_forall₂_of_mem hparts hrule
  refine ⟨contributed, front ++ front' ++ front'', back' ++ back, hcontributed, fun call failFast l hl => ?_⟩
  rw [Node.run_conj, List.map_append, List.map_append, List.map_cons, group.run_around_conj, if_pos hl]
  rw [← List.append_assoc, Run.every_flatten]
  simp only [List.map_append, List.map_cons, List.append_assoc, List.cons_append]

/-- A group that concerns the types that a schema may declare is not left out. -/
theorem RuleGroup.concerns_declared {group : RuleGroup} {declared : Option (List DataType)}
    (hdeclared : env.onlyRef members = true ∧ declared = none ∨ env.onlyRef members = false ∧
      declaredTypes position.schemaPath members = .ok declared)
    (hconcerned : ∀ types, env.onlyRef members = false →
      declaredTypes position.schemaPath members = .ok (some types) → group.concerns (some types) = true) :
    group.concerns declared = true := by
  have hnone : group.concerns none = true := by
    cases hg : group.appliesTo <;> simp [RuleGroup.concerns, hg]
  rcases hdeclared with ⟨-, rfl⟩ | ⟨honly, hdeclared⟩
  · exact hnone
  · cases declared with
    | none => exact hnone
    | some types => exact hconcerned types honly hdeclared

/-- **What a rule contributes stands in the schema around it**, wherever the rule's group concerns the data. -/
theorem lowerSchema_around {budget : Nat} {group : RuleGroup} {rule : Rule}
    (h : (lowerSchema env (budget + 1) (.obj members) position).Answers node)
    (hgroup : group ∈ env.registry.groups) (hrule : rule ∈ group.present members (env.onlyRef members))
    (hconcerned : ∀ types, env.onlyRef members = false →
      declaredTypes position.schemaPath members = .ok (some types) → group.concerns (some types) = true) :
    ∃ base contributed front back, schemaBase (.obj members) position.base = .ok base ∧
      (rule.lower (lowerSchema env budget) env members { position with base }).Answers contributed ∧
      ∀ call failFast l, group.appliesTo.all (·.accepts l.value) = true →
        node.run call failFast l =
          Run.every failFast ((front ++ contributed :: back).map (Node.run call failFast · l)) := by
  obtain ⟨before, after, h⟩ := h
  obtain ⟨base, mid, hbase, h⟩ := bind_eq_ok.mp h
  obtain ⟨declared, nodes, hdeclared, hnodes, rfl⟩ := lowerObject_answers ⟨mid, after, h⟩
  have hconcerns := RuleGroup.concerns_declared hdeclared hconcerned
  obtain ⟨contributed, front, back, hcontributed, haround⟩ := lowerGroups_around
    (T := fun rule n => (rule.lower (lowerSchema env budget) env members { position with base }).Answers n)
    (hnodes.imp fun group n hn => RuleGroup.lower_answers hn)
    (List.mem_filter.mpr ⟨hgroup, hconcerns⟩) hrule
  exact ⟨base, contributed, front, back, (liftExcept_eq_ok.mp hbase).1, hcontributed, haround⟩

end

/-! ## What a check records -/

namespace KeywordPlace

/-- A violation of a keyword, worded for a value of it. -/
def failure (p : KeywordPlace) (text : ErrorText) (l : Location) (schema : Json) : Violation :=
  ⟨p.keyword, l.dataPath, p.schemaPath, text.params schema l.value, text.message schema l.value⟩

/-- A violation of a keyword whose value was found in the data and is of a wrong type. -/
def mismatch (p : KeywordPlace) (r : DataRef) (l : Location) : Violation :=
  ⟨p.keyword, l.dataPath, p.schemaPath, .obj [("$data", r.pointer)],
    s!"{p.keyword} value from $data should be {DataType.listText p.expects}"⟩

/-- What is recorded at a location if `failures` tells it for a value of the keyword and `mismatches` for a
    value of a wrong type.  A reference that leads nowhere leaves the keyword unchecked. -/
def recorded (p : KeywordPlace) (l : Location) (failures : Json → List Violation)
    (mismatches : DataRef → List Violation) : List Violation :=
  match p.data with
  | none => failures p.schema
  | some r =>
    match r.resolve? l with
    | none => []
    | some schema => if DataType.anyAccepts p.expects schema then failures schema else mismatches r

variable {p : KeywordPlace} {text : ErrorText} {l : Location}

/-- What is recorded in two parts is recorded one part after the other. -/
theorem recorded_append (f g : Json → List Violation) (f' g' : DataRef → List Violation) :
    p.recorded l (fun schema => f schema ++ g schema) (fun r => f' r ++ g' r) =
      p.recorded l f f' ++ p.recorded l g g' := by
  unfold recorded
  cases p.data with
  | none => rfl
  | some r =>
    dsimp only
    cases r.resolve? l with
    | none => rfl
    | some schema =>
      dsimp only
      split <;> rfl

theorem recorded_nil : p.recorded l (fun _ => []) (fun _ => []) = [] := by
  unfold recorded
  cases p.data with
  | none => rfl
  | some r =>
    dsimp only
    cases r.resolve? l with
    | none => rfl
    | some schema => exact ite_self _

/-- **A check records one violation if the data fails it, and one if the value cannot be used.** -/
theorem run_check (p : KeywordPlace) (text : ErrorText) (fails : (data schema : Json) → Bool)
    (call : Nat → Location → Run) (failFast : Bool) (l : Location) :
    (p.check text fails).run call failFast l =
      Run.recording failFast (p.recorded l
        (fun schema => if fails l.value schema then [p.failure text l schema] else [])
        fun r => [p.mismatch r l]) := by
  have htest : ∀ (value : SchemaValue) schema,
      Check.test ⟨value, p.expects, fails, p.site text⟩ l schema = Run.recording failFast
        (if fails l.value schema then [p.failure text l schema] else []) := by
    intro value schema
    unfold Check.test
    funext errors
    dsimp only
    split
    · rw [Run.recording_singleton]
      rfl
    · rw [Run.recording_nil]
      rfl
  unfold recorded
  show Check.run _ l = _
  cases hdata : p.data with
  | none => exact htest _ _
  | some r =>
    funext errors
    dsimp only [Check.run]
    cases hfound : r.resolve? l with
    | none =>
      rw [Run.recording_nil]
      rfl
    | some schema =>
      dsimp only
      split
      · exact congrFun (htest _ schema) errors
      · rw [Run.recording_singleton]
        rfl

end KeywordPlace

/-! ## What the actions of a keyword's code record -/

namespace CodeAction

/-- Whether the action is a check. -/
def isCheck : CodeAction → Bool
  | setParams _ => false
  | fail _ | ok _ => true

/-- Whether the action is a check that the data fails, for a value of the keyword. -/
def failsOn (data schema : Json) : CodeAction → Bool
  | setParams _ => false
  | fail condition => condition data schema
  | ok condition => !condition data schema

/-- The parameters that the action sets. -/
def params? : CodeAction → Option Json
  | setParams params => some params
  | fail _ | ok _ => none

/-- The parameters that were set last among some actions. -/
def latestParams (actions : List CodeAction) : Option Json := (actions.filterMap params?).getLast?

theorem latestParams_cons (action : CodeAction) (rest : List CodeAction) :
    latestParams (action :: rest) = (latestParams rest).or action.params? := by
  unfold latestParams
  cases action with
  | setParams params =>
    have hset : (setParams params :: rest).filterMap params? = params :: rest.filterMap params? := rfl
    rw [hset, List.getLast?_cons, params?]
    cases (rest.filterMap params?).getLast? <;> rfl
  | _ => exact (Option.or_none).symm

end CodeAction

namespace KeywordPlace

/-- What the checks among the actions record for a value of the keyword: one violation for each that the
    data fails, in the order of the actions, with the parameters that were set last before it. -/
def failures (p : KeywordPlace) (text : ErrorText) (actions : List CodeAction) (l : Location)
    (schema : Json) : List Violation :=
  actions.zipIdx.filterMap fun (action, i) =>
    if action.failsOn l.value schema then
      some ⟨p.keyword, l.dataPath, p.schemaPath,
        (CodeAction.latestParams (actions.take i)).getD (text.params schema l.value),
        text.message schema l.value⟩
    else none

/-- What the checks among the actions record.  A reference that leads nowhere leaves them out, and one that
    leads to a value of a wrong type fails each of them. -/
def codeViolations (p : KeywordPlace) (text : ErrorText) (actions : List CodeAction) (l : Location) :
    List Violation :=
  p.recorded l (p.failures text actions l) fun r => (actions.filter (·.isCheck)).map fun _ => p.mismatch r l

variable {p : KeywordPlace} {text : ErrorText} {rest : List CodeAction} {l : Location}

/-- Behind the first action, the wording is the one that it leaves. -/
theorem failures_cons (action : CodeAction) (schema : Json) :
    p.failures text (action :: rest) l schema =
      (if action.failsOn l.value schema then
        [p.failure text l schema] else []) ++ p.failures (codeText text [action]) rest l schema := by
  have hworded : (codeText text [action]).message = text.message ∧
      (codeText text [action]).params schema l.value =
        action.params?.getD (text.params schema l.value) := by
    cases action <;> exact ⟨rfl, rfl⟩
  have hlater : ∀ i, (CodeAction.latestParams ((action :: rest).take (i + 1))).getD
        (text.params schema l.value) =
      (CodeAction.latestParams (rest.take i)).getD ((codeText text [action]).params schema l.value) := by
    intro i
    rw [List.take_succ_cons, CodeAction.latestParams_cons, hworded.2]
    cases CodeAction.latestParams (rest.take i) <;> rfl
  unfold failures
  rw [List.zipIdx_cons, List.zipIdx_succ, List.filterMap_cons, List.filterMap_map]
  simp only [Function.comp_def, hlater, hworded.1]
  split
  · next hnone =>
    split at hnone
    · cases hnone
    · next hfails => rw [if_neg hfails, List.nil_append]
  · next e hsome =>
    split at hsome
    · next hfails =>
      rw [if_pos hfails, ← Option.some.inj hsome]
      rfl
    · cases hsome

/-- Setting parameters only words what comes later. -/
theorem codeViolations_setParams (params : Json) :
    p.codeViolations text (.setParams params :: rest) l =
      p.codeViolations { text with params := fun _ _ => params } rest l := by
  have hfailures : p.failures text (.setParams params :: rest) l =
      p.failures { text with params := fun _ _ => params } rest l := by
    funext schema
    rw [failures_cons]
    rfl
  rw [codeViolations, hfailures]
  rfl

/-- A check records its violation in front of those of the later ones. -/
theorem every_check_cons {call : Nat → Location → Run} {failFast : Bool} {nodes : List Node}
    {action : CodeAction} {fails : (data schema : Json) → Bool} (hcheck : action.isCheck = true)
    (hfails : ∀ schema, action.failsOn l.value schema = fails l.value schema)
    (h : Run.every failFast (nodes.map (Node.run call failFast · l)) =
      Run.recording failFast (p.codeViolations text rest l)) :
    Run.every failFast ((p.check text fails :: nodes).map (Node.run call failFast · l)) =
      Run.recording failFast (p.codeViolations text (action :: rest) l) := by
  have hfailures : p.failures text (action :: rest) l = fun schema =>
      (if fails l.value schema then [p.failure text l schema] else []) ++ p.failures text rest l schema := by
    funext schema
    rw [failures_cons, hfails]
    cases action with
    | setParams _ => cases hcheck
    | _ => rfl
  rw [List.map_cons, run_check, Run.every_recording_cons h, codeViolations, codeViolations,
    ← recorded_append, hfailures, List.filter_cons_of_pos hcheck]
  rfl

/-- **The checks that a keyword's code asks for record what the actions say.** -/
theorem every_codeChecks (p : KeywordPlace) (actions : List CodeAction) (l : Location)
    (call : Nat → Location → Run) (failFast : Bool) : ∀ text : ErrorText,
    Run.every failFast ((p.codeChecks text actions).map (Node.run call failFast · l)) =
      Run.recording failFast (p.codeViolations text actions l) := by
  induction actions with
  | nil =>
    intro text
    show Run.done true = Run.recording failFast (p.recorded l (fun _ => []) fun _ => [])
    rw [recorded_nil, Run.recording_nil]
  | cons action rest ih =>
    intro text
    cases action with
    | setParams params =>
      rw [codeViolations_setParams]
      exact ih _
    | fail condition => exact every_check_cons rfl (fun _ => rfl) (ih text)
    | ok condition => exact every_check_cons rfl (fun _ => rfl) (ih text)

end KeywordPlace

/-! ## Rules of custom keywords -/

section

open LowerM

variable {env : Environment} {members : List (String × Json)} {position : Position} {rule : Rule}
  {d : KeywordDefinition} {node : Node}

/-- A literal value is checked first, and what is done after it gives the answer. -/
theorem Rule.answers_of_checked {data : Option DataRef} {value : Option Json} {path : String} {m : LowerM Node}
    {before after : List Procedure}
    (h : (match (data, value) with
      | (none, some v) => liftExcept (rule.checkValue path v) >>= fun _ => m
      | _ => m) before = .ok (node, after)) : m.Answers node := by
  cases data with
  | some r => exact ⟨_, _, h⟩
  | none =>
    cases value with
    | none => exact ⟨_, _, h⟩
    | some v =>
      obtain ⟨_, mid, -, h⟩ := bind_eq_ok.mp h
      exact ⟨_, _, h⟩

/-- A rule of a custom keyword contributes what its definition says at its place. -/
theorem Rule.lower_custom_answers {lower : Lower} (hd : rule.definition? = some d)
    (h : (rule.lower lower env members position).Answers node) :
    ∃ data nodes,
      rule.dataRef env.options s!"{position.schemaPath}/{rule.keyword}" (members.lookup rule.keyword) =
        .ok data ∧
      ((rule.place env members position data).custom lower d).Answers nodes ∧ node = .conj nodes := by
  have himplementation : rule.implementation = .custom d := by
    unfold Rule.definition? at hd
    split at hd
    · cases hd
    · next d' heq => rw [heq, Option.some.inj hd]
  obtain ⟨before, after, h⟩ := h
  unfold Rule.lower at h
  obtain ⟨data, mid, hdata, h⟩ := bind_eq_ok.mp h
  rw [himplementation] at h
  obtain ⟨before', after', h⟩ := Rule.answers_of_checked h
  obtain ⟨nodes, mid', hnodes, h⟩ := bind_eq_ok.mp h
  obtain ⟨rfl, -⟩ := pure_eq_ok.mp h
  exact ⟨data, nodes, (liftExcept_eq_ok.mp hdata).1, ⟨before', mid', hnodes⟩, rfl⟩

/-- A keyword with code and without a fixed result adds the checks of the actions. -/
theorem KeywordPlace.custom_code_answers {lower : Lower} {p : KeywordPlace} {nodes : List Node}
    {code : KeywordView → Except SchemaError (List CodeAction)} (hcode : d.code = some code)
    (hvalid : d.valid = none) (h : (p.custom lower d).Answers nodes) :
    ∃ actions, code p.view = .ok actions ∧ nodes = p.codeChecks (d.errorText p.keyword) actions := by
  obtain ⟨before, after, h⟩ := h
  unfold custom customLogic at h
  rw [hcode, hvalid] at h
  obtain ⟨_, mid, hlogic, h⟩ := bind_eq_ok.mp h
  obtain ⟨actions, mid', hactions, hlogic⟩ := bind_eq_ok.mp hlogic
  obtain ⟨rfl, -⟩ := pure_eq_ok.mp hlogic
  obtain ⟨rfl, -⟩ := pure_eq_ok.mp h
  exact ⟨actions, (liftExcept_eq_ok.mp hactions).1, rfl⟩

/-- **No contribution of a keyword's code is dropped.**  Wherever a schema that has the keyword is lowered,
    the code is asked once, and what the rule contributes records exactly what the actions say: one violation
    for each check that the data fails, in their order, each with the parameters that were set last before it,
    or the definition's own; failing fast, the first of them alone.  On all data that the rule's group
    concerns, the schema runs what the rule contributes between what it runs before and after. -/
theorem nothing_contributed_is_dropped {budget : Nat} {group : RuleGroup}
    {code : KeywordView → Except SchemaError (List CodeAction)}
    (h : (lowerSchema env (budget + 1) (.obj members) position).Answers node)
    (hgroup : group ∈ env.registry.groups) (hrule : rule ∈ group.present members (env.onlyRef members))
    (hconcerned : ∀ types, env.onlyRef members = false →
      declaredTypes position.schemaPath members = .ok (some types) → group.concerns (some types) = true)
    (hd : rule.definition? = some d) (hcode : d.code = some code) (hvalid : d.valid = none) :
    ∃ base data actions contributed front back,
      let p := rule.place env members { position with base } data
      schemaBase (.obj members) position.base = .ok base ∧
      rule.dataRef env.options p.schemaPath (members.lookup rule.keyword) = .ok data ∧
      code p.view = .ok actions ∧
      (rule.lower (lowerSchema env budget) env members { position with base }).Answers contributed ∧
      (∀ call failFast l, contributed.run call failFast l =
        Run.recording failFast (p.codeViolations (d.errorText rule.keyword) actions l)) ∧
      ∀ call failFast l, group.appliesTo.all (·.accepts l.value) = true →
        node.run call failFast l =
          Run.every failFast ((front ++ contributed :: back).map (Node.run call failFast · l)) := by
  obtain ⟨base, contributed, front, back, hbase, hlower, haround⟩ :=
    lowerSchema_around h hgroup hrule hconcerned
  obtain ⟨data, nodes, hdata, hnodes, rfl⟩ := Rule.lower_custom_answers hd hlower
  obtain ⟨actions, hactions, rfl⟩ := KeywordPlace.custom_code_answers hcode hvalid hnodes
  refine ⟨base, data, actions, _, front, back, hbase, hdata, hactions, hlower,
    fun call failFast l => ?_, haround⟩
  rw [Node.run_conj]
  exact KeywordPlace.every_codeChecks _ actions l call failFast _

/-- A keyword of strings with two checks, of which the second has parameters of its own. -/
def twice : KeywordDefinition where
  keywords := ["twice"]
  types := [.string]
  code := some fun _ => .ok [.fail fun data _ => data.str?.any (·.isEmpty), .setParams "later",
    .ok fun data schema => data.str? == schema.str?]

/-- The empty string fails both checks, and is reported twice. -/
theorem twice_reported :
    let env : Environment :=
      ⟨Registry.withBuiltins.addCustom (.ofCustom "twice" twice none) twice.types, {}, .builtin, .empty⟩
    let message := "should pass \"twice\" keyword validation"
    ∃ node contributed front back,
      (lowerSchema env 2 (.obj [("twice", "x")]) ⟨"#", "", 0, defaultBase, 0⟩).Answers node ∧
      ∀ call failFast,
        contributed.run call failFast (.root "") = Run.recording failFast
          [⟨"twice", "", "#/twice", .obj [("keyword", "twice")], message⟩,
            ⟨"twice", "", "#/twice", "later", message⟩] ∧
        node.run call failFast (.root "") =
          Run.every failFast ((front ++ contributed :: back).map (Node.run call failFast · (.root ""))) := by
  intro env message
  have hlowered : (lowerSchema env 2 (.obj [("twice", "x")]) ⟨"#", "", 0, defaultBase, 0⟩ []).toOption.any
      (fun _ => true) = true := by decide +kernel
  obtain ⟨⟨node, after⟩, hlowered, -⟩ := exists_ok_of_any hlowered
  obtain ⟨group, hgroup, htype, hmem⟩ := (@Registry.Placed.holds_insert _
    Registry.withBuiltins_coherent.placed (some .string) (.ofCustom "twice" twice none) _ _).mpr
    (.inr ⟨rfl, rfl⟩)
  have hadded : ∀ (r : Registry) rule, group ∈ (r.insert (some .string) rule).groups →
      group ∈ (r.addCustom rule twice.types).groups := fun _ _ h => h
  have honly : env.onlyRef [("twice", "x")] = false := by
    have hlookup : List.lookup "$ref" [("twice", Json.str "x")] = none := rfl
    rw [Environment.onlyRef, hlookup, Option.isSome_none, Bool.false_and]
  have hrule : Rule.ofCustom "twice" twice none ∈
      group.present [("twice", "x")] (env.onlyRef [("twice", "x")]) := by
    rw [honly]
    exact List.mem_filter.mpr ⟨List.mem_map.mpr ⟨_, hmem, rfl⟩, by decide⟩
  have hdeclared : declaredTypes "#" [("twice", "x")] = .ok none := rfl
  obtain ⟨base, data, actions, contributed, front, back, -, hdata, hactions, -, hcontributed, haround⟩ :=
    @nothing_contributed_is_dropped env _ _ _ _ _ _ _ _ ⟨[], after, hlowered⟩ (hadded _ _ hgroup) hrule
      (fun types _ h => by rw [hdeclared] at h; cases h) rfl rfl rfl
  obtain rfl : none = data := Except.ok.inj hdata
  obtain rfl := Except.ok.inj hactions
  refine ⟨node, contributed, front, back, ⟨[], after, hlowered⟩, fun call failFast => ⟨?_, ?_⟩⟩
  · rw [hcontributed]
    rfl
  · refine haround call failFast (.root "") ?_
    rw [htype]
    rfl

end

end JsonSchema
