import JsonSchema.Proofs.Reference.RootId

/-!
# Values that are taken from the data

A keyword whose value is written in the schema checks the value once, when it is lowered; one whose value is
taken from the data lets everything through and checks what it finds at each run.  **Where a reference finds
a value that could have been written, the two do the same** (`dataValue_agrees`): they pass alike and report
the same violations, worded with the value and not with the reference.

What has to be shown is local: `KeywordPlace.FromData` relates the two places of the keyword, and each
keyword that may take its value from the data adds a single check.
-/

set_option autoImplicit false

namespace JsonSchema

/-! ## Nodes that run alike at some locations -/

/-- At the locations with `φ` the nodes run alike, and always pass alike. -/
structure Node.SameWhere (φ : Location → Prop) (n n' : Node) : Prop where
  isPass : n'.isPass = n.isPass
  run : ∀ {l}, φ l → ∀ call failFast, Node.run call failFast n' l = Node.run call failFast n l

namespace Node.SameWhere

variable {φ : Location → Prop} {n n' : Node} {ns ns' : List Node}

theorem pass : SameWhere φ .pass .pass := ⟨rfl, fun _ _ _ => rfl⟩

theorem guard (h : SameWhere φ n n') (type : DataType) : SameWhere φ (.guard type n) (.guard type n') :=
  ⟨rfl, fun hl call failFast => by rw [run_guard, run_guard, h.run hl]⟩

theorem all (h : List.Forall₂ (SameWhere φ) ns ns') : SameWhere φ (.all ns) (.all ns') := by
  refine ⟨rfl, fun {l} hl call failFast => ?_⟩
  have hruns : ns'.map (Node.run call failFast · l) = ns.map (Node.run call failFast · l) := by
    induction h with
    | nil => rfl
    | cons h _ ih => rw [List.map_cons, List.map_cons, h.run hl, ih]
  rw [run_all, run_all, hruns]

theorem conj (h : List.Forall₂ (SameWhere φ) ns ns') : SameWhere φ (.conj ns) (.conj ns') :=
  conj_related isPass pass all h

end Node.SameWhere

/-! ## Keywords -/

/-- A reference has the value at a location. -/
def DataRef.Finds (r : DataRef) (v : Json) (l : Location) : Prop := r.resolve? l = some v

/-- Two places of a keyword: at the one the value is written, at the other it is taken from the data. -/
structure KeywordPlace.FromData (p p' : KeywordPlace) (v : Json) (r : DataRef) : Prop where
  schema : p.schema = v
  literal : p.data = none
  data : p'.data = some r
  keyword : p'.keyword = p.keyword
  schemaPath : p'.schemaPath = p.schemaPath
  accepts : DataType.anyAccepts p'.expects v = true

namespace KeywordPlace.FromData

open LowerM

variable {p p' : KeywordPlace} {v : Json} {r : DataRef} (h : p.FromData p' v r)

include h

/-- **The check of a value that is found is that of the written value**, if the value fails the same data. -/
theorem check (text : ErrorText) {fails fails' : (data schema : Json) → Bool}
    (hfails : ∀ data, fails' data v = fails data v) :
    Node.SameWhere (r.Finds v) (p.check text fails) (p'.check text fails') := by
  refine ⟨rfl, fun {l} hl call failFast => ?_⟩
  have hwritten : (p.check text fails).run call failFast l =
      Check.test ⟨.literal v, p.expects, fails, p.site text⟩ l v := by
    funext errors
    simp only [KeywordPlace.check, Node.run, Check.run, h.literal, h.schema]
  have hfound : (p'.check text fails').run call failFast l =
      Check.test ⟨.data r, p'.expects, fails', p'.site text⟩ l v := by
    funext errors
    have hresolve : r.resolve? l = some v := hl
    simp only [KeywordPlace.check, Node.run, Check.run, h.data, hresolve, h.accepts, if_true]
  rw [hwritten, hfound]
  funext errors
  simp only [Check.test, hfails, ErrorSite.report, ErrorSite.record, site, h.keyword, h.schemaPath]

/-- `multipleOf`, which at the one place has refused divisors that are not positive. -/
theorem multipleOf {n : Node} (hn : p.multipleOf = .ok n) :
    ∃ n', p'.multipleOf = .ok n' ∧ Node.SameWhere (r.Finds v) n n' := by
  unfold KeywordPlace.multipleOf at hn ⊢
  split at hn
  · simp [bind, Except.bind, throw, throwThe, MonadExceptOf.throw] at hn
  · obtain rfl := (Except.ok.inj hn).symm
    simp only [h.data, Option.isNone_some, Bool.false_and, Bool.false_eq_true, if_false]
    exact ⟨_, rfl, h.check _ fun _ => rfl⟩

/-- `pattern`, which at the one place has read the expression already. -/
theorem pattern {source : String} (hv : v = .str source) {n : Node} (hn : p.pattern = .ok n) :
    ∃ n', p'.pattern = .ok n' ∧ Node.SameWhere (r.Finds v) n n' := by
  unfold KeywordPlace.pattern at hn ⊢
  simp only [h.literal, Option.isSome_none, Bool.false_eq_true, if_false, h.schema] at hn
  simp only [h.data, Option.isSome_some, if_true]
  split at hn
  · next regex hregex =>
    obtain rfl := (Except.ok.inj hn).symm
    refine ⟨_, rfl, h.check _ fun data => ?_⟩
    subst hv
    have hparsed : (Json.str source).str?.bind Regex.parse? = some regex := hregex
    rw [hparsed]
    cases data.str? <;> rfl
  · simp [throw, throwThe, MonadExceptOf.throw] at hn

/-- **A keyword that may take its value from the data adds one check at both places.** -/
theorem builtin {k : BuiltinKeyword} (hallows : k.allowsData = true) (hexpects : p'.expects = k.schemaTypes)
    (lower lower' : Lower) :
    Ensures (fun _ => True) (p.builtin lower k) fun _ nodes =>
      Gives (p'.builtin lower' k) (List.Forall₂ (Node.SameWhere (r.Finds v)) nodes) := by
  have hone : ∀ (text : ErrorText) (fails : (data schema : Json) → Bool),
      Ensures (fun _ => True) (pure [p.check text fails] : LowerM (List Node)) fun _ nodes =>
        Gives (pure [p'.check text fails]) (List.Forall₂ (Node.SameWhere (r.Finds v)) nodes) :=
    fun text fails => .pure fun _ => .pure (.cons (h.check text fun _ => rfl) .nil)
  cases k with
  | multipleOf =>
    refine .bind (.liftExcept _) fun n => .pure fun _ hn => ?_
    obtain ⟨n', hn', hsame⟩ := h.multipleOf hn
    exact .bind (.liftExcept hn' rfl) fun _ heq => .pure (heq ▸ .cons hsame .nil)
  | pattern =>
    have haccepts := h.accepts
    rw [hexpects] at haccepts
    obtain ⟨source, hsource⟩ := exists_str_of_anyAccepts haccepts
    refine .bind (.liftExcept _) fun n => .pure fun _ hn => ?_
    obtain ⟨n', hn', hsame⟩ := h.pattern hsource hn
    exact .bind (.liftExcept hn' rfl) fun _ heq => .pure (heq ▸ .cons hsame .nil)
  | _ => first | exact hone _ _ | exact absurd hallows (by decide)

end KeywordPlace.FromData

/-! ## Schemas of one keyword -/

section

open LowerM

variable {env : Environment} {k : BuiltinKeyword} {v : Json} {pointer : String} {r : DataRef}
  {position position' : Position} {lower lower' : Lower}

/-- The value that asks for another from the data. -/
def DataRef.request (pointer : String) : Json := .obj [("$data", .str pointer)]

/-- A schema of one keyword is read for it alone. -/
theorem Environment.onlyRef_single (env : Environment) (hallows : k.allowsData = true) (w : Json) :
    env.onlyRef [(k.name, w)] = false := by
  have hlookup : List.lookup "$ref" [(k.name, w)] = none := by cases k <;> first | rfl | cases hallows
  rw [onlyRef, hlookup, Option.isSome_none, Bool.false_and]

theorem declaredTypes_single (path : String) (w : Json) : declaredTypes path [(k.name, w)] = .ok none := by
  have hlookup : List.lookup "type" [(k.name, w)] = none := by cases k <;> rfl
  rw [declaredTypes, hlookup]

/-- Which rules a schema of one keyword has does not depend on the value. -/
theorem RuleGroup.present_single (group : RuleGroup) (v w : Json) :
    group.present [(k.name, w)] false = group.present [(k.name, v)] false := by
  have hlookup : ∀ name, (List.lookup name [(k.name, w)]).isSome = (List.lookup name [(k.name, v)]).isSome := by
    intro name
    rw [List.lookup_cons, List.lookup_cons]
    cases name == k.name <;> rfl
  unfold present Rule.isPresent
  simp only [hlookup]

/-- The rule of a keyword with a written value. -/
theorem Rule.lower_written (hv : DataRef.pointerOf? v = none) :
    (Rule.ofBuiltin k).lower lower env [(k.name, v)] position = (do
      liftExcept ((Rule.ofBuiltin k).checkValue s!"{position.schemaPath}/{k.name}" v)
      return Node.conj
        (← ((Rule.ofBuiltin k).place env [(k.name, v)] position none).builtin lower k)) := by
  have hlookup : List.lookup (Rule.ofBuiltin k).keyword [(k.name, v)] = some v := List.lookup_cons_self
  have hdata : ∀ path, (Rule.ofBuiltin k).dataRef env.options path (some v) = .ok none := by
    intro path
    rw [Rule.dataRef, Option.bind_some, hv]
  unfold Rule.lower
  dsimp only
  rw [hlookup, hdata]
  show (do
    liftExcept ((Rule.ofBuiltin k).checkValue s!"{position.schemaPath}/{k.name}" v)
    return Node.conj (← KeywordPlace.builtin lower _ k)) = _
  unfold Rule.place
  rw [hlookup]

/-- The rule of a keyword with a reference for its value. -/
theorem Rule.lower_referring (hoptions : env.options.data = true) (hallows : k.allowsData = true)
    (hr : DataRef.parse? pointer = some r) :
    (Rule.ofBuiltin k).lower lower env [(k.name, DataRef.request pointer)] position = (do
      return Node.conj (← ((Rule.ofBuiltin k).place env [(k.name, DataRef.request pointer)] position
        (some r)).builtin lower k)) := by
  have hlookup : List.lookup (Rule.ofBuiltin k).keyword [(k.name, DataRef.request pointer)] =
    some (DataRef.request pointer) := List.lookup_cons_self
  have hdata : ∀ path, (Rule.ofBuiltin k).dataRef env.options path (some (DataRef.request pointer)) =
      .ok (some r) := by
    intro path
    have hpointer : DataRef.pointerOf? (DataRef.request pointer) = some pointer := rfl
    have hallowed : ((Rule.ofBuiltin k).allowsData && env.options.data) = true := by
      rw [hoptions, Bool.and_true]
      exact hallows
    rw [Rule.dataRef, Option.bind_some, hpointer]
    dsimp only
    rw [if_pos hallowed, hr]
  unfold Rule.lower
  dsimp only
  rw [hlookup, hdata]
  show (do return Node.conj (← KeywordPlace.builtin lower _ k)) = _
  unfold Rule.place
  rw [hlookup]

/-- **The rule of a keyword adds the same for a written value and for one that is found.** -/
theorem Rule.lower_fromData (hoptions : env.options.data = true) (hallows : k.allowsData = true)
    (hr : DataRef.parse? pointer = some r) (hv : DataRef.pointerOf? v = none)
    (hpath : position'.schemaPath = position.schemaPath) :
    Ensures (fun _ => True) ((Rule.ofBuiltin k).lower lower env [(k.name, v)] position) fun _ n =>
      Gives ((Rule.ofBuiltin k).lower lower' env [(k.name, DataRef.request pointer)] position')
        (n.SameWhere (r.Finds v)) := by
  rw [Rule.lower_written hv, Rule.lower_referring hoptions hallows hr]
  by_cases haccepts : DataType.anyAccepts k.schemaTypes v = true
  · have hplaces : ((Rule.ofBuiltin k).place env [(k.name, v)] position none).FromData
        ((Rule.ofBuiltin k).place env [(k.name, DataRef.request pointer)] position' (some r)) v r :=
      { schema := by
          show (List.lookup k.name [(k.name, v)]).getD .null = v
          rw [List.lookup_cons_self, Option.getD_some]
        literal := rfl
        data := rfl
        keyword := rfl
        schemaPath := congrArg (fun path => s!"{path}/{k.name}") hpath
        accepts := haccepts }
    refine .bind (.liftExcept _) fun _ => ?_
    refine .bind (hplaces.builtin hallows rfl lower lower') fun nodes => .pure fun _ hnodes _ => ?_
    exact hnodes.bind fun nodes' hsame => .pure (.conj hsame)
  -- a value of a wrong type is refused where it is written
  · intro procedures n after _ hm
    obtain ⟨_, _, hcheck, -⟩ := bind_eq_ok.mp hm
    exact absurd (Rule.anyAccepts_of_checkValue (liftExcept_eq_ok.mp hcheck).1) haccepts

/-- A group of rules adds the same. -/
theorem RuleGroup.lower_fromData (hoptions : env.options.data = true) (hallows : k.allowsData = true)
    (hr : DataRef.parse? pointer = some r) (hv : DataRef.pointerOf? v = none)
    (hpath : position'.schemaPath = position.schemaPath) {group : RuleGroup}
    (hrules : ∀ rule ∈ group.present [(k.name, v)] false, rule = .ofBuiltin k) :
    Ensures (fun _ => True) (group.lower lower env [(k.name, v)] position false) fun _ n =>
      Gives (group.lower lower' env [(k.name, DataRef.request pointer)] position' false)
        (n.SameWhere (r.Finds v)) := by
  have hrule : ∀ rule ∈ group.present [(k.name, v)] false,
      Ensures (fun _ => True) (rule.lower lower env [(k.name, v)] position) fun _ n =>
        Gives (rule.lower lower' env [(k.name, DataRef.request pointer)] position')
          (n.SameWhere (r.Finds v)) := by
    intro rule hrule
    obtain rfl := hrules rule hrule
    exact Rule.lower_fromData hoptions hallows hr hv hpath
  rw [RuleGroup.lower_eq, RuleGroup.lower_eq, group.present_single v (DataRef.request pointer)]
  refine .bind (.mapM hrule) fun nodes => .pure fun _ hnodes => ?_
  refine (Gives.mapM hnodes).bind fun nodes' hsame => .pure ?_
  exact RuleGroup.around_related (·.isPass) .pass .guard group (.conj hsame)

theorem Environment.checkKeywords_single (path : String) (v w : Json) :
    env.checkKeywords path [(k.name, w)] = env.checkKeywords path [(k.name, v)] := by
  unfold checkKeywords
  rw [List.find?_cons, List.find?_cons]
  cases env.registry.isKnown k.name <;> rfl

/-- A schema of one keyword is what the groups of rules add. -/
theorem lowerObject_single (hallows : k.allowsData = true) (w : Json) :
    lowerObject lower env [(k.name, w)] position = (do
      liftExcept (env.checkKeywords position.schemaPath [(k.name, w)])
      let nodes ← (env.registry.groups.filter (·.concerns none)).mapM
        (RuleGroup.lower lower env [(k.name, w)] position false)
      return Node.conj nodes) := by
  have honly : ((List.lookup "$ref" [(k.name, w)]).isSome && env.registry.hasRule "$ref") = false :=
    env.onlyRef_single hallows w
  unfold lowerObject
  rw [honly, declaredTypes_single]
  rfl

/-- **A schema of one keyword is lowered to the same for a written value and for one that is found.** -/
theorem lowerSchema_fromData (hoptions : env.options.data = true) (hallows : k.allowsData = true)
    (hrules : ∀ rule, env.Reads [(k.name, v)] rule → rule = .ofBuiltin k)
    (hr : DataRef.parse? pointer = some r) (hv : DataRef.pointerOf? v = none)
    (hpath : position'.schemaPath = position.schemaPath) (budget : Nat) :
    Ensures (fun _ => True) (lowerSchema env budget (.obj [(k.name, v)]) position) fun _ n =>
      Gives (lowerSchema env budget (.obj [(k.name, DataRef.request pointer)]) position')
        (n.SameWhere (r.Finds v)) := by
  have hbase : ∀ w (base : Uri), schemaBase (.obj [(k.name, w)]) base = .ok base := by
    intro w base
    have hid : idOf? (.obj [(k.name, w)]) = none := by cases k <;> rfl
    rw [schemaBase, hid]
  cases budget with
  | zero => exact .refuse
  | succ budget =>
    rw [lowerSchema_obj (hbase v position.base), lowerSchema_obj (hbase _ position'.base),
      lowerObject_single hallows, lowerObject_single hallows]
    have hgroup : ∀ group ∈ env.registry.groups.filter (·.concerns none),
        Ensures (fun _ => True)
          (group.lower (lowerSchema env budget) env [(k.name, v)] position false) fun _ n =>
          Gives (group.lower (lowerSchema env budget) env [(k.name, DataRef.request pointer)] position' false)
            (n.SameWhere (r.Finds v)) := by
      intro group hgroup
      refine RuleGroup.lower_fromData hoptions hallows hr hv hpath fun rule hrule => hrules rule ?_
      refine ⟨group, List.mem_of_mem_filter hgroup, ?_⟩
      rwa [env.onlyRef_single hallows]
    refine .bind (.liftExcept _) fun _ => .bind (.mapM hgroup) fun nodes => .pure fun _ hnodes hkeywords => ?_
    rw [Environment.checkKeywords_single _ (DataRef.request pointer), ← hpath] at hkeywords
    refine (Gives.liftExcept (Q := fun _ => True) hkeywords trivial).bind fun _ _ => ?_
    exact (Gives.mapM hnodes).bind fun nodes' hsame => .pure (.conj hsame)

end

/-! ## The keywords of draft-07 -/

/-- The name of a keyword that may take its value from the data belongs to no other keyword. -/
theorem BuiltinKeyword.eq_of_name_mem {k k' : BuiltinKeyword} (hallows : k.allowsData = true)
    (hname : k.name ∈ k'.name :: k'.implements) : k' = k := by
  revert hname
  cases k <;> first | exact absurd hallows (by decide) | (cases k' <;> decide)

/-- In a schema of one such keyword no other keyword is present. -/
theorem Rule.isPresent_single {k k' : BuiltinKeyword} (hallows : k.allowsData = true) (v : Json) :
    (Rule.ofBuiltin k').isPresent [(k.name, v)] = (k' == k) := by
  rw [Bool.eq_iff_iff, beq_iff_eq, isPresent, List.any_eq_true]
  constructor
  · rintro ⟨name, hname, hsome⟩
    by_cases heq : name = k.name
    · subst heq
      exact BuiltinKeyword.eq_of_name_mem hallows hname
    · rw [List.lookup_cons, beq_eq_false_iff_ne.mpr heq] at hsome
      cases hsome
  · rintro rfl
    refine ⟨k'.name, List.mem_cons_self, ?_⟩
    rw [List.lookup_cons_self, Option.isSome_some]

/-- Of draft-07, no rule but its own reads a schema of such a keyword. -/
theorem Registry.BuiltinOnly.reads_single {env : Environment} (h : env.registry.BuiltinOnly)
    {k : BuiltinKeyword} (hallows : k.allowsData = true) {v : Json} {rule : Rule}
    (hreads : env.Reads [(k.name, v)] rule) : rule = .ofBuiltin k := by
  obtain ⟨k', rfl⟩ := h.reads hreads
  obtain ⟨group, -, hpresent⟩ := hreads
  have hread := (Bool.and_eq_true_iff.mp (List.mem_filter.mp hpresent).2).1
  rw [Rule.isPresent_single hallows, beq_iff_eq] at hread
  rw [hread]

/-! ## The theorem -/

/-- **A value from the data counts like a written one.**  Let a keyword of draft-07 allow references, and let
    the schema that gives it the value `v` be lowered, by the keyword's own rule alone (as with the rules of
    draft-07, `BuiltinOnly.reads_single`).  Then so is the schema that gives it a reference in its place, at a
    position with the same path; and wherever the reference finds `v`, both nodes answer the same and record
    the same violations. -/
theorem dataValue_agrees {env : Environment} (hoptions : env.options.data = true) {k : BuiltinKeyword}
    (hallows : k.allowsData = true) {v : Json}
    (hrules : ∀ rule, env.Reads [(k.name, v)] rule → rule = .ofBuiltin k) {pointer : String} {r : DataRef}
    (hr : DataRef.parse? pointer = some r) (hv : DataRef.pointerOf? v = none) {budget : Nat}
    {position : Position} {procedures after : List Procedure} {n : Node}
    (hn : lowerSchema env budget (.obj [(k.name, v)]) position procedures = .ok (n, after))
    {position' : Position} (hpath : position'.schemaPath = position.schemaPath) (procedures' : List Procedure) :
    ∃ n', lowerSchema env budget (.obj [(k.name, .obj [("$data", .str pointer)])]) position' procedures' =
        .ok (n', procedures') ∧
      ∀ l, r.resolve? l = some v → ∀ call failFast errors,
        n'.run call failFast l errors = n.run call failFast l errors := by
  obtain ⟨-, -, hgives⟩ :=
    lowerSchema_fromData hoptions hallows hrules hr hv hpath budget procedures n after trivial hn
  obtain ⟨n', hn', hsame⟩ := hgives after List.prefix_rfl
  refine ⟨n', congrFun hn' procedures', fun l hl call failFast errors => ?_⟩
  rw [hsame.run hl]

/-- The member `a` of an object whose member `b` is three. -/
def besideThree : Location :=
  .child (.root (.obj [("a", .num (.ofNat 5)), ("b", .num (.ofNat 3))])) (.key "a") (.num (.ofNat 5))

/-- Beside a three, `maximum` with the neighbour's value does what it does with a written three. -/
theorem besideThree_agrees : ∃ n n' r,
    (∀ rule, (Surroundings.withData.among .empty).Reads [("maximum", .num (.ofNat 3))] rule →
      rule = .ofBuiltin .maximum) ∧
    DataRef.parse? "/b" = some r ∧ r.resolve? besideThree = some (.num (.ofNat 3)) ∧
    lowerSchema (Surroundings.withData.among .empty) 1 (.obj [("maximum", .num (.ofNat 3))])
      ⟨"#", "", 0, defaultBase, 0⟩ [] = .ok (n, []) ∧
    lowerSchema (Surroundings.withData.among .empty) 1 (.obj [("maximum", .obj [("$data", "/b")])])
      ⟨"#", "", 0, defaultBase, 0⟩ [] = .ok (n', []) ∧
    ∀ call failFast errors,
      n'.run call failFast besideThree errors = n.run call failFast besideThree errors := by
  have hbuiltin : (Surroundings.withData.among .empty).registry.BuiltinOnly :=
    Registry.withBuiltins_builtinOnly
  have hrules : ∀ rule, (Surroundings.withData.among .empty).Reads [("maximum", .num (.ofNat 3))] rule →
      rule = .ofBuiltin .maximum := fun rule =>
      hbuiltin.reads_single (k := .maximum) rfl
  have hlowered : (lowerSchema (Surroundings.withData.among .empty) 1
      (.obj [("maximum", .num (.ofNat 3))]) ⟨"#", "", 0, defaultBase, 0⟩ []).toOption.any
      (·.2.isEmpty) = true := by decide +kernel
  obtain ⟨⟨n, procedures⟩, hn, hempty⟩ := exists_ok_of_any hlowered
  obtain rfl := List.isEmpty_iff.mp hempty
  have hr : DataRef.parse? "/b" = some ⟨"/b", .absolute ["b"]⟩ := rfl
  obtain ⟨n', hn', hagrees⟩ := dataValue_agrees rfl (k := .maximum) rfl hrules hr rfl hn rfl []
  exact ⟨n, n', _, hrules, hr, rfl, hn, hn', hagrees besideThree rfl⟩

end JsonSchema
