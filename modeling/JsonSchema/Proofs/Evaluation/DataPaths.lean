import JsonSchema.Proofs.Evaluation.Provenance
import JsonSchema.Proofs.Json.Pointers
import JsonSchema.Proofs.Lowering.Schemas

/-!
# Where in the data a violation points

A run is only ever at a place in the data, reached from the root step by step (`Location.PlaceIn`), or at
the name of a member, which stands in place of the object that has it (`Location.NameIn`).  Writing down
the steps and following what was written leads back to the place, so **the path of a violation leads to
the value that failed, or to the object that has the failing name** (`dataPath_leads_to_subject`).

A step by name finds the first member of that name, and a run over the members visits all of them; hence
the condition that the data is sound, as everything is that is read from a text (`Json.parse?_sound`).
-/

set_option autoImplicit false

namespace JsonSchema

/-! ## Steps and tokens -/

/-- The token of a step in a pointer. -/
def Step.token : Step → String
  | key name => name
  | index i => toString i

theorem Step.text_eq (s : Step) : s.text = "/" ++ escapeToken s.token := by
  cases s with
  | key name => rfl
  | index i => rw [text, token, Pointer.escapeToken_toString]

/-- A step leads where its token does. -/
theorem Step.child?_token {s : Step} {v w : Json} (hv : v.Sound) (h : s.child? v = some w) :
    Pointer.child? v s.token = some w := by
  cases s with
  | key name =>
    cases v with
    | obj members => exact h
    | _ => cases h
  | index i =>
    cases v with
    | arr items =>
      obtain ⟨hi, -⟩ := List.getElem?_eq_some_iff.mp h
      rw [token, Pointer.child?_toString (hi.trans hv.length_lt)]
      exact h
    | _ => cases h

namespace Location

variable {data : Json} {l : Location}

/-- The tokens of the steps from the root. -/
def tokens (l : Location) : List String := l.steps.map Step.token

theorem dataPath_eq (l : Location) : l.dataPath = Pointer.render l.tokens := by
  have hsteps : ∀ steps : List Step,
      String.join (steps.map Step.text) = Pointer.render (steps.map Step.token) := by
    intro steps
    induction steps with
    | nil => rfl
    | cons s rest ih =>
      rw [List.map_cons, List.map_cons, Pointer.render_cons, String.join_cons, s.text_eq, ih]
  exact hsteps l.steps

theorem steps_withValue (l : Location) (v : Json) : (l.withValue v).steps = l.steps := by
  cases l <;> rfl

theorem dataPath_withValue (l : Location) (v : Json) : (l.withValue v).dataPath = l.dataPath := by
  rw [dataPath, steps_withValue, dataPath]

/-! ## Places and names -/

/-- A place in the data: every step on the way leads to the value that the location has there. -/
inductive PlaceIn (data : Json) : Location → Prop where
  | root : PlaceIn data (.root data)
  | child {l : Location} {step : Step} {v : Json} : PlaceIn data l → step.child? l.value = some v →
      PlaceIn data (.child l step v)

/-- The name of a member, in place of the object that has the member. -/
def NameIn (data : Json) (l : Location) : Prop :=
  ∃ place members name, PlaceIn data place ∧ place.value = .obj members ∧
    name ∈ members.map Prod.fst ∧ l = place.withValue (.str name)

/-- **The steps to a place lead to its value.** -/
theorem PlaceIn.follow (hdata : data.Sound) (h : l.PlaceIn data) :
    Pointer.follow? data l.tokens = some l.value := by
  induction h with
  | root => rfl
  | @child parent step v _ hstep ih =>
    have htokens : (Location.child parent step v).tokens = parent.tokens ++ [step.token] := by
      rw [tokens, steps, List.map_append]
      rfl
    rw [htokens, Pointer.follow?_concat ih]
    exact Step.child?_token (hdata.follow ih) hstep

theorem PlaceIn.sound (hdata : data.Sound) (h : l.PlaceIn data) : l.value.Sound :=
  hdata.follow (h.follow hdata)

theorem NameIn.value_eq (h : l.NameIn data) : ∃ name, l.value = .str name := by
  obtain ⟨place, -, name, -, -, -, rfl⟩ := h
  exact ⟨name, value_withValue place _⟩

/-- From a name no step leads on. -/
theorem NameIn.no_child (h : l.NameIn data) {step : Step} {v : Json} : step.child? l.value ≠ some v := by
  obtain ⟨name, hname⟩ := h.value_eq
  rw [hname]
  cases step <;> exact fun h => nomatch h

/-! ## Where runs are -/

/-- The elements of an array are a step further on, each at its number. -/
theorem mem_elements {e : Location} {vs : List Json} {start : Nat} (h : e ∈ l.elements start vs) :
    ∃ i v, vs[i]? = some v ∧ e = .child l (.index (start + i)) v := by
  induction vs generalizing start with
  | nil => exact absurd h List.not_mem_nil
  | cons v rest ih =>
    rcases List.mem_cons.mp h with rfl | h
    · exact ⟨0, v, rfl, rfl⟩
    · obtain ⟨i, w, hw, rfl⟩ := ih h
      exact ⟨i + 1, w, hw, by rw [Nat.add_right_comm, Nat.add_assoc]⟩

end Location

/-- The elements that a node runs its body on are a step further on. -/
theorem Node.mem_elementsFrom {l e : Location} {start : Nat} (h : e ∈ elementsFrom l start) :
    ∃ step v, step.child? l.value = some v ∧ e = .child l step v := by
  unfold elementsFrom at h
  split at h
  · next vs hvs =>
    obtain ⟨i, v, hv, rfl⟩ := Location.mem_elements h
    refine ⟨.index (start + i), v, ?_, rfl⟩
    rw [hvs]
    rwa [List.getElem?_drop] at hv
  · exact absurd h List.not_mem_nil

/-- The members that a node runs its body on are a step further on, if their names tell them apart. -/
theorem Location.mem_selected_child {l : Location} (hl : l.value.Sound) {filter : PropertyFilter}
    {m : String × Location} (h : m ∈ l.selected filter) :
    ∃ step v, step.child? l.value = some v ∧ m.2 = .child l step v := by
  unfold selected at h
  split at h
  · next members hv =>
    obtain ⟨member, hmember, rfl⟩ := List.mem_map.mp h
    refine ⟨.key member.1, member.2, ?_, rfl⟩
    rw [hv] at hl ⊢
    exact lookup_of_mem hl.nodup (List.mem_of_mem_filter hmember)
  · exact absurd h List.not_mem_nil

/-- **One step of a run**: a node runs its parts where it is itself, a step further on, or on the names of
    the members there. -/
theorem Node.Runs.location {n m : Node} {l l' : Location} (hl : l.value.Sound) (h : n.Runs l m l') :
    l' = l ∨ (∃ step v, step.child? l.value = some v ∧ l' = .child l step v) ∨
      ∃ members name, l.value = .obj members ∧ name ∈ members.map Prod.fst ∧
        l' = l.withValue (.str name) := by
  cases h with
  | all | guard | ifPresent | anyOf | oneOf | not | condition | thenBranch | elseBranch => exact .inl rfl
  | descend hv => exact .inr (.inl ⟨_, _, hv, rfl⟩)
  | items he | contains he => exact .inr (.inl (mem_elementsFrom he))
  | properties hm => exact .inr (.inl (Location.mem_selected_child hl hm))
  | propertyNames hname => exact .inr (.inr (mem_namesOf hname))

/-- A run is at a place in the data, or at a name. -/
theorem Program.Visits.place_or_name {p : Program} {data : Json} (hdata : data.Sound) {n : Node}
    {l : Location} (h : p.Visits data n l) : l.PlaceIn data ∨ l.NameIn data := by
  induction h with
  | root => exact .inl .root
  | call _ _ ih => exact ih
  | part _ hruns ih =>
    have hsound := ih.elim (·.sound hdata) fun h => by
      obtain ⟨name, hname⟩ := h.value_eq
      rw [hname]
      exact .leaf rfl rfl
    rcases hruns.location hsound with rfl | ⟨step, v, hstep, rfl⟩ | ⟨members, name, hv, hname, rfl⟩
    · exact ih
    · rcases ih with hplace | hat
      · exact .inl (.child hplace hstep)
      · exact absurd hstep hat.no_child
    · rcases ih with hplace | hat
      · exact .inr ⟨_, members, name, hplace, hv, hname, rfl⟩
      · obtain ⟨text, htext⟩ := hat.value_eq
        rw [htext] at hv
        cases hv

/-! ## Where violations point -/

/-- A violation has the path of its subject. -/
theorem Node.Reports.dataPath_eq {n : Node} {l subject : Location} {e : Violation}
    (h : n.Reports l subject e) : e.dataPath = subject.dataPath := by
  cases h with
  | noProperties | propertyNames => exact (l.dataPath_withValue _).symm
  | _ => rfl

/-- The subject is what the node is run at, or a name in place of the object there. -/
theorem Node.Reports.subject_cases {n : Node} {l subject : Location} {e : Violation}
    (h : n.Reports l subject e) : subject = l ∨ ∃ members name, l.value = .obj members ∧
      name ∈ members.map Prod.fst ∧ subject = l.withValue (.str name) := by
  cases h with
  | noProperties hv hname => exact .inr ⟨_, _, hv, hname, rfl⟩
  | propertyNames hv hname => exact .inr ⟨_, _, hv, hname, rfl⟩
  | _ => exact .inl rfl

theorem Violation.Origin.place_or_name {e : Violation} {p : Program} {failFast : Bool} {data : Json}
    {n : Node} {l subject : Location} (hdata : data.Sound) (h : e.Origin p failFast data n l subject) :
    subject.PlaceIn data ∨ subject.NameIn data := by
  have hl := h.visited.place_or_name hdata
  rcases h.reported.subject_cases with rfl | ⟨members, name, hv, hname, rfl⟩
  · exact hl
  · rcases hl with hplace | hat
    · exact .inr ⟨l, members, name, hplace, hv, hname, rfl⟩
    · obtain ⟨text, htext⟩ := hat.value_eq
      rw [htext] at hv
      cases hv

/-- **The path of a violation leads to what it is about.**  It is a pointer, and following its tokens from
    the data leads to the value on which the failing check was run; or, where this was a name, to the
    object that has a member of the name. -/
theorem dataPath_leads_to_subject {v : Validator} {data : Json} (hdata : data.Sound)
    {violations : List Violation} (h : v.validate data = .invalid violations) {e : Violation}
    (he : e ∈ violations) :
    ∃ n l subject tokens, e.Origin v.program (!v.allErrors) data n l subject ∧
      Pointer.parse? e.dataPath = some tokens ∧
      ((subject.PlaceIn data ∧ Pointer.follow? data tokens = some subject.value) ∨
        ∃ (place : Location) (members : List (String × Json)) (name : String),
          place.PlaceIn data ∧ place.value = .obj members ∧ name ∈ members.map Prod.fst ∧
          subject = place.withValue (.str name) ∧
          Pointer.follow? data tokens = some (.obj members)) := by
  obtain ⟨n, l, subject, horigin⟩ := Validator.exists_origin h he
  have hparsed : Pointer.parse? e.dataPath = some subject.tokens := by
    rw [horigin.reported.dataPath_eq, subject.dataPath_eq, Pointer.parse?_render]
  refine ⟨n, l, subject, subject.tokens, horigin, hparsed, ?_⟩
  rcases horigin.place_or_name hdata with hplace | ⟨place, members, name, hplace, hv, hname, rfl⟩
  · exact .inl ⟨hplace, hplace.follow hdata⟩
  · refine .inr ⟨place, members, name, hplace, hv, hname, rfl, ?_⟩
    rw [Location.tokens, place.steps_withValue, ← hv]
    exact hplace.follow hdata

/-- Under `a/b`, an array of strings. -/
def stringsUnderSlash : Json :=
  .obj [("properties", .obj [("a/b", .obj [("items", .obj [("type", "string")])])])]

/-- The path to an element that is no string leads to it, past a name with a slash. -/
theorem stringsUnderSlash_path : ∃ validator e n l subject tokens,
    let data : Json := .obj [("a/b", .arr ["x", .null])]
    compileSchema .plain stringsUnderSlash = .ok validator ∧ data.Sound ∧
    validator.validate data = .invalid [e] ∧
    e.Origin validator.program (!validator.allErrors) data n l subject ∧
    Pointer.parse? e.dataPath = some tokens ∧
    ((subject.PlaceIn data ∧ Pointer.follow? data tokens = some subject.value) ∨
      ∃ (place : Location) (members : List (String × Json)) (name : String),
        place.PlaceIn data ∧ place.value = .obj members ∧ name ∈ members.map Prod.fst ∧
        subject = place.withValue (.str name) ∧ Pointer.follow? data tokens = some (.obj members)) := by
  have hone : ((compileSchema .plain stringsUnderSlash).toOption.bind fun v =>
      (v.validate (.obj [("a/b", .arr ["x", .null])])).count?) = some 1 := by decide +kernel
  obtain ⟨validator, violations, hcompiled, hinvalid, hlength⟩ := exists_invalid hone
  obtain ⟨e, rfl⟩ := List.length_eq_one_iff.mp hlength
  have hitems : (Json.arr ["x", .null]).Sound := .arr (by decide) fun v hv => by
    simp only [List.mem_cons, List.not_mem_nil, or_false] at hv
    rcases hv with rfl | rfl <;> exact .leaf rfl rfl
  have hdata : (Json.obj [("a/b", .arr ["x", .null])]).Sound :=
    .obj (by simp) (List.forall_mem_singleton.mpr hitems)
  obtain ⟨n, l, subject, tokens, hpath⟩ := dataPath_leads_to_subject hdata hinvalid List.mem_cons_self
  exact ⟨validator, e, n, l, subject, tokens, hcompiled, hdata, hinvalid, hpath⟩

end JsonSchema
