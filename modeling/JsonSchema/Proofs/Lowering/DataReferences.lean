import JsonSchema.Proofs.Evaluation.DataPaths
import JsonSchema.Proofs.Lowering.Everywhere

/-!
# References from the root of the data

An absolute reference `{"$data": "/..."}` is to be resolved from the root of the data.  A run finds the root
by going up from where it is, and under `propertyNames` the name stands in place of the object.  Deeper in
the data the object above is still the data's own; **but a name of the data itself has nothing above it, and
references from there are resolved in the name** (`absolute_reference_resolves_iff`).
-/

set_option autoImplicit false

namespace JsonSchema

/-! ## The root of a location -/

/-- The name of a member of the data itself, in place of the data. -/
def Location.OwnName (data : Json) (l : Location) : Prop :=
  ∃ members name, data = .obj members ∧ name ∈ members.map Prod.fst ∧ l = .root (.str name)

theorem Location.PlaceIn.rootValue_eq {data : Json} {l : Location} (h : l.PlaceIn data) :
    l.rootValue = data := by
  induction h with
  | root => rfl
  | child _ _ ih => exact ih

/-- Going up from where a run is leads to the data, except from a name of the data itself. -/
theorem Program.Visits.rootValue_cases {p : Program} {data : Json} (hdata : data.Sound) {n : Node}
    {l : Location} (h : p.Visits data n l) : l.rootValue = data ∧ ¬ l.OwnName data ∨ l.OwnName data := by
  rcases h.place_or_name hdata with hplace | ⟨place, members, name, hplace, hv, hname, rfl⟩
  · refine .inl ⟨hplace.rootValue_eq, ?_⟩
    rintro ⟨members, name, rfl, -, rfl⟩
    cases hplace
  · cases hplace with
    | root => exact .inr ⟨members, name, hv, hname, rfl⟩
    | child hparent _ =>
      refine .inl ⟨hparent.rootValue_eq, ?_⟩
      rintro ⟨_, _, -, -, h⟩
      cases h

/-- From a name, tokens lead nowhere unless there are none. -/
theorem Pointer.follow?_str (name : String) (tokens : List String) :
    follow? (.str name) tokens = if tokens = [] then some (.str name) else none := by
  cases tokens <;> rfl

/-- A name of the data is resolved like the data only by tokens that lead nowhere in either. -/
theorem Location.OwnName.follow?_eq_iff {data : Json} {l : Location} (h : l.OwnName data)
    (tokens : List String) : Pointer.follow? l.rootValue tokens = Pointer.follow? data tokens ↔
      tokens ≠ [] ∧ Pointer.follow? data tokens = none := by
  obtain ⟨members, name, rfl, -, rfl⟩ := h
  rw [show (Location.root (.str name)).rootValue = .str name from rfl, Pointer.follow?_str]
  cases tokens with
  | nil => simp [Pointer.follow?]
  | cons token rest => simp [eq_comm]

/-! ## References of checks -/

/-- A check of the node against a value from the data has the reference that its keyword's value asks
    for. -/
def Node.Quotes (n : Node) : Prop :=
  ∀ c r, n = .check c → c.value = .data r →
    c.site.schema = .obj [("$data", .str r.pointer)] ∧ DataRef.parse? r.pointer = some r

theorem Node.quotes_of_ne_check {n : Node} (h : ∀ c, n ≠ .check c) : n.Quotes :=
  fun c _ hc => absurd hc (h c)

theorem DataRef.pointer_of_parse? {pointer : String} {r : DataRef} (h : parse? pointer = some r) :
    r.pointer = pointer := by
  obtain ⟨target, -, rfl⟩ := Option.map_eq_some_iff.mp h
  rfl

theorem DataRef.eq_of_pointerOf? {v : Json} {pointer : String} (h : pointerOf? v = some pointer) :
    v = .obj [("$data", .str pointer)] := by
  unfold pointerOf? at h
  split at h
  · cases h
    rfl
  · cases h

/-- The value of a keyword is taken from the data where it is a reference and says so. -/
theorem Rule.dataRef_eq_some {rule : Rule} {options : Options} {path : String} {value : Option Json}
    {r : DataRef} (h : rule.dataRef options path value = .ok (some r)) :
    value = some (.obj [("$data", .str r.pointer)]) ∧ DataRef.parse? r.pointer = some r := by
  unfold Rule.dataRef at h
  split at h
  · next pointer hpointer =>
    split at h
    · split at h
      · next r' hr =>
        cases h
        obtain ⟨v, hv, hof⟩ := Option.bind_eq_some_iff.mp hpointer
        rw [DataRef.pointer_of_parse? hr, hv, DataRef.eq_of_pointerOf? hof]
        exact ⟨rfl, hr⟩
      · cases h
    · cases h
  · cases h

section

variable {env : Environment} {members : List (String × Json)} {position : Position} {rule : Rule}
  {data : Option DataRef} {n : Node}

theorem Rule.check_quotes {path : String}
    (hdata : rule.dataRef env.options path (members.lookup rule.keyword) = .ok data) (text : ErrorText)
    (fails : (data schema : Json) → Bool) :
    ((rule.place env members position data).check text fails).Quotes := by
  intro c r hc hvalue
  cases hc
  cases data with
  | none => cases hvalue
  | some r' =>
    cases hvalue
    obtain ⟨hschema, hparse⟩ := Rule.dataRef_eq_some hdata
    refine ⟨?_, hparse⟩
    show (members.lookup rule.keyword).getD .null = _
    rw [hschema, Option.getD_some]

theorem Rule.place_marks_quotes {path : String}
    (hdata : rule.dataRef env.options path (members.lookup rule.keyword) = .ok data) (k : BuiltinKeyword) :
    (rule.place env members position data).Marks k Node.Quotes where
  silent h := Node.quotes_of_ne_check fun c hc => by
    rw [hc] at h
    cases h.1
  call _ i := Node.quotes_of_ne_check fun _ => Node.noConfusion
  check _ text fails _ := Rule.check_quotes hdata text fails
  sited _ hsettled _ _ _ := fun c r hc hvalue => absurd hvalue (hsettled c r hc)

theorem SchemaMakes.quotes {R : RefRel} {schema : Json}
    (h : SchemaMakes (fun _ _ n => n.Each Node.Quotes) R env schema position n) : n.Each Node.Quotes := by
  have hsilent : ∀ {n : Node}, n.Silent → n.Quotes := fun h => Node.quotes_of_ne_check fun c hc => by
    rw [hc] at h
    cases h.1
  cases h with
  | always => exact .leaf (Node.quotes_of_ne_check fun _ => Node.noConfusion) rfl
  | never => exact .leaf (Node.quotes_of_ne_check fun _ => Node.noConfusion) rfl
  | object hbase hobject =>
    refine hobject.each hsilent (fun _ _ => Node.quotes_of_ne_check fun _ => Node.noConfusion) ?_
    rintro rule _ - ⟨data, nodes, hdata, -, hnodes, rfl⟩
    refine .conj hsilent ?_
    cases himplementation : rule.implementation with
    | builtin k =>
      rw [himplementation] at hnodes
      exact KeywordPlace.Makes.each (Rule.place_marks_quotes hdata k) (fun _ _ _ _ _ _ hb => hb) hnodes
    | custom d =>
      rw [himplementation] at hnodes
      intro n hn
      rcases hnodes n hn with ⟨text, fails, rfl⟩ | ⟨text, rfl⟩ | ⟨expand, -, hb⟩
      · exact .leaf (Rule.check_quotes hdata text fails) rfl
      · exact .leaf (Node.quotes_of_ne_check fun _ => Node.noConfusion) rfl
      · exact hb

end

/-- **A check that a run comes to has the reference that stands in the schema.** -/
theorem visited_quotes {s : Surroundings} {schema : Json} {validator : Validator}
    (h : compileSchema s schema = .ok validator) {data : Json} {n : Node} {l : Location}
    (hvisits : validator.program.Visits data n l) : n.Quotes := by
  obtain ⟨hroot, hbodies⟩ := compileSchema_bodies
    (P := Node.Each Node.Quotes) (.leaf (Node.quotes_of_ne_check fun _ => Node.noConfusion) rfl)
    (fun h => h.quotes) h
  exact (hvisits.each hroot fun _ hbody => hbodies _ (List.mem_of_getElem? hbody)).holds

/-! ## Absolute references -/

/-- The pointer of a reference from the root: empty, or starting with a slash. -/
def DataRef.IsAbsolute (r : DataRef) : Prop := r.pointer = "" ∨ ∃ rest, r.pointer = "/" ++ rest

theorem DataRef.IsAbsolute.tokens {r : DataRef} (h : r.IsAbsolute) (hr : parse? r.pointer = some r) :
    ∃ tokens, Pointer.parse? r.pointer = some tokens ∧ r.target = .absolute tokens := by
  obtain ⟨target, htarget, heq⟩ := Option.map_eq_some_iff.mp hr
  have hof : r.target = target := by rw [← heq]
  rcases h with hempty | ⟨rest, hslash⟩
  · rw [hempty] at htarget ⊢
    exact ⟨[], rfl, hof.trans (Option.some.inj htarget).symm⟩
  · unfold DataRef.target? at htarget
    rw [hslash] at htarget ⊢
    rw [String.toList_append] at htarget
    obtain ⟨tokens, htokens, rfl⟩ := Option.map_eq_some_iff.mp htarget
    exact ⟨tokens, htokens, hof⟩

/-- **A reference from the root is resolved from the root of the data, except at a name of the data
    itself.**  At every place where a run comes to a check with such a reference, the reference has the
    value that its tokens lead to from the data, and none if they lead nowhere; at a name of one of the
    data's own members this is so only if there are tokens and they lead nowhere. -/
theorem absolute_reference_resolves_iff {s : Surroundings} {schema : Json} {validator : Validator}
    (h : compileSchema s schema = .ok validator) {data : Json} (hdata : data.Sound) {c : Check}
    {l : Location} (hvisits : validator.program.Visits data (.check c) l) {r : DataRef}
    (hvalue : c.value = .data r) (habsolute : r.IsAbsolute) :
    c.site.schema = .obj [("$data", .str r.pointer)] ∧
      ∃ tokens, Pointer.parse? r.pointer = some tokens ∧
        (r.resolve? l = Pointer.follow? data tokens ↔
          ¬ l.OwnName data ∨ (tokens ≠ [] ∧ Pointer.follow? data tokens = none)) := by
  obtain ⟨hschema, hparse⟩ := visited_quotes h hvisits c r rfl hvalue
  obtain ⟨tokens, htokens, htarget⟩ := habsolute.tokens hparse
  refine ⟨hschema, tokens, htokens, ?_⟩
  have hresolve : r.resolve? l = Pointer.follow? l.rootValue tokens := by
    unfold DataRef.resolve?
    rw [htarget]
  rw [hresolve]
  rcases hvisits.rootValue_cases hdata with ⟨hroot, hown⟩ | hown
  · simp [hroot, hown]
  · rw [hown.follow?_eq_iff]
    simp [hown]

/-- The references into the data, each with its location, that a run comes to in a number of steps. -/
def Program.references (p : Program) (data : Json) (steps : Nat) : List (DataRef × Location) :=
  (p.visited data steps).filterMap fun (n, l) =>
    match n with
    | .check c =>
      match c.value with
      | .data r => some (r, l)
      | .literal _ => none
    | _ => none

theorem Program.exists_of_mem_references {p : Program} {data : Json} {steps : Nat} {r : DataRef} {l : Location}
    (h : (r, l) ∈ p.references data steps) : ∃ c, p.Visits data (.check c) l ∧ c.value = .data r := by
  obtain ⟨⟨n, l'⟩, hvisited, hr⟩ := List.mem_filterMap.mp h
  dsimp only at hr
  split at hr
  · next c =>
    split at hr
    · next r' hvalue =>
      cases hr
      exact ⟨c, visits_of_mem_visited hvisited, hvalue⟩
    · cases hr
  · cases hr

/-- Of a validator that can be made, a reference that a run comes to can be found by trying. -/
theorem exists_reference {ε : Type} {made : Except ε Validator} {data : Json} {steps : Nat}
    {t : Validator → DataRef × Location → Bool}
    (h : (made.toOption.any fun v => (v.program.references data steps).any (t v)) = true) :
    ∃ validator c l r, made = .ok validator ∧ validator.program.Visits data (.check c) l ∧
      c.value = .data r ∧ t validator (r, l) = true := by
  obtain ⟨validator, hmade, hany⟩ := exists_ok_of_any h
  obtain ⟨⟨r, l⟩, hr, htest⟩ := List.any_eq_true.mp hany
  obtain ⟨c, hvisits, hvalue⟩ := Program.exists_of_mem_references hr
  exact ⟨validator, c, l, r, hmade, hvisits, hvalue, htest⟩

/-- `a` is at most `b`. -/
def boundedByNeighbour : Json :=
  .obj [("properties", .obj [("a", .obj [("maximum", .obj [("$data", "/b")])])])]

def fiveAndThree : Json := .obj [("a", .num (.ofNat 5)), ("b", .num (.ofNat 3))]

/-- Below a member, a reference leads to a neighbour of it. -/
theorem boundedByNeighbour_resolves : ∃ validator c l r,
    compileSchema .withData boundedByNeighbour = .ok validator ∧ fiveAndThree.Sound ∧
    validator.program.Visits fiveAndThree (.check c) l ∧ c.value = .data r ∧ r.IsAbsolute ∧
    c.site.schema = .obj [("$data", .str r.pointer)] ∧
    ∃ tokens, Pointer.parse? r.pointer = some tokens ∧
      (r.resolve? l = Pointer.follow? fiveAndThree tokens ↔
        ¬ l.OwnName fiveAndThree ∨ (tokens ≠ [] ∧ Pointer.follow? fiveAndThree tokens = none)) := by
  have hdata : fiveAndThree.Sound := by
    refine .obj (by simp) (List.forall_mem_cons.mpr ⟨.leaf rfl rfl, ?_⟩)
    exact List.forall_mem_singleton.mpr (.leaf rfl rfl)
  have hfound : ((compileSchema .withData boundedByNeighbour).toOption.any fun v =>
      (v.program.references fiveAndThree 3).any fun m => m.1.pointer == "/b") = true := by decide +kernel
  obtain ⟨validator, c, l, r, hcompiled, hvisits, hvalue, hpointer⟩ :=
    exists_reference (t := fun _ m => m.1.pointer == "/b") hfound
  have habsolute : r.IsAbsolute := .inr ⟨"b", eq_of_beq hpointer⟩
  exact ⟨validator, c, l, r, hcompiled, hdata, hvisits, hvalue, habsolute,
    absolute_reference_resolves_iff hcompiled hdata hvisits hvalue habsolute⟩

/-- No name is longer than `max`. -/
def boundedNames : Json := .obj [("propertyNames", .obj [("maxLength", .obj [("$data", "/max")])])]

def longName : Json := .obj [("max", .num (.ofNat 3)), ("long", .num (.ofNat 1))]

/-- **At the data's own names a reference from the root is lost**: `/max` leads to 3, but where the name
    `long` is checked it leads nowhere, and the data passes. -/
theorem boundedNames_lost : ∃ validator c l r,
    Surroundings.withData.options.data = true ∧
    compileSchema .withData boundedNames = .ok validator ∧ longName.Sound ∧
    validator.program.Visits longName (.check c) l ∧ c.value = .data r ∧ r.pointer = "/max" ∧
    l.value = "long" ∧ Pointer.parse? "/max" = some ["max"] ∧
    Pointer.follow? longName ["max"] = some (.num (.ofNat 3)) ∧ r.resolve? l = none ∧
    validator.validate longName = .valid := by
  have hdata : longName.Sound := by
    refine .obj (by simp) (List.forall_mem_cons.mpr ⟨.leaf rfl rfl, ?_⟩)
    exact List.forall_mem_singleton.mpr (.leaf rfl rfl)
  let test (v : Validator) (m : DataRef × Location) : Bool :=
    m.1.pointer == "/max" && m.2.value.str? == some "long" && (m.1.resolve? m.2).isNone &&
      match v.validate longName with
      | .valid => true
      | _ => false
  have hfound : ((compileSchema .withData boundedNames).toOption.any fun v =>
      (v.program.references longName 3).any (test v)) = true := by decide +kernel
  obtain ⟨validator, c, l, r, hcompiled, hvisits, hvalue, htest⟩ := exists_reference hfound
  simp only [test, Bool.and_eq_true, beq_iff_eq, Option.isNone_iff_eq_none] at htest
  obtain ⟨⟨⟨hpointer, hname⟩, hnone⟩, hvalid⟩ := htest
  have hlong : l.value = "long" := by
    cases hv : l.value with
    | str text =>
      rw [hv] at hname
      rw [Option.some.inj hname]
    | _ =>
      rw [hv] at hname
      cases hname
  have hpasses : validator.validate longName = .valid := by
    split at hvalid
    · next hverdict => exact hverdict
    · cases hvalid
  exact ⟨validator, c, l, r, rfl, hcompiled, hdata, hvisits, hvalue, hpointer, hlong, rfl, rfl, hnone,
    hpasses⟩

end JsonSchema
