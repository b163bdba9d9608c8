import JsonSchema.Proofs.Draft7.Agreement
import JsonSchema.Proofs.Evaluation.Records
import JsonSchema.Proofs.Lowering.KeywordCode

/-!
# What `items` reports, in order

`items` with `additionalItems` contributes a check of the length, a node for each place of a tuple and one
for the elements behind them, and leaves out the nodes whose bodies always pass.  What an array is run
through is said without these nodes: **the bodies run at the elements from the first to the last**, each at
its own, behind the check of the length (`KeywordPlace.MakesItems.run_eq`).

What runs in order records is told by what each run records by itself (`Run.every_ofViolations`): all of
it, one after the other, or failing fast that of the first run that fails.  The main statement puts the two
together (`items_reported_in_order`).
-/

set_option autoImplicit false

namespace JsonSchema

/-! ## What runs record one after the other -/

namespace Run

/-- What a run records by itself, if it ends. -/
def violations (r : Run) : Option (List Violation) := (r []).map Prod.snd

/-- The run that records what is given and passes if that is nothing; it does not end if nothing is given. -/
def ofViolations (found : Option (List Violation)) : Run := fun errors =>
  found.map fun new => (new.isEmpty, errors ++ new)

/-- All that the parts record, one after the other, if all of them end. -/
def together (found : List (Option (List Violation))) : Option (List Violation) :=
  (found.mapM id).map List.flatten

/-- What the first part records that fails; nothing if all of them pass, and there is no answer if one in
    front of the first failure does not end. -/
def ofFirstFailure : List (Option (List Violation)) → Option (List Violation)
  | [] => some []
  | some [] :: rest => ofFirstFailure rest
  | part :: _ => part

/-- What a sequence of parts records. -/
def inOrder (failFast : Bool) (found : List (Option (List Violation))) : Option (List Violation) :=
  if failFast then ofFirstFailure found else together found

theorem Faithful.eq_ofViolations {r : Run} (h : r.Faithful) : r = ofViolations r.violations := by
  funext errors
  unfold ofViolations violations
  rcases h.cases with hr | hr | ⟨new, hne, hr⟩
  · rw [hr, hr]
    rfl
  · rw [hr, hr]
    simp
  · rw [hr, hr]
    simp [hne]

variable {failFast : Bool}

theorem every_done_cons (rs : List Run) : every failFast (done true :: rs) = every failFast rs := by
  funext errors
  rw [every, done]

theorem together_cons (new : List Violation) (rest : List (Option (List Violation))) :
    together (some new :: rest) = (together rest).map (new ++ ·) := by
  unfold together
  rw [List.mapM_cons]
  cases rest.mapM id <;> rfl

/-- **Runs in order record what they record by themselves**, all of it or up to the first that fails. -/
theorem every_ofViolations (found : List (Option (List Violation))) :
    every failFast (found.map ofViolations) = ofViolations (inOrder failFast found) := by
  induction found with
  | nil =>
    funext errors
    cases failFast <;> simp [every, inOrder, ofFirstFailure, together, ofViolations]
  | cons v rest ih =>
    funext errors
    rw [List.map_cons, every, ih]
    cases v with
    | none => cases failFast <;> rfl
    | some new =>
      cases failFast with
      | true => cases new <;> simp [inOrder, ofFirstFailure, ofViolations]
      | false =>
        simp only [inOrder, Bool.false_eq_true, if_false, together_cons, ofViolations, Option.map_some]
        cases together rest <;> cases new <;> simp

/-- A part that records nothing makes no difference. -/
theorem every_ofNothing_cons (rs : List Run) :
    every failFast (ofViolations (some []) :: rs) = every failFast rs := by
  funext errors
  rw [every, ofViolations, Option.map_some, List.isEmpty_nil, List.append_nil]

theorem every_cons_congr {rs ss : List Run} (h : every failFast rs = every failFast ss) (r : Run) :
    every failFast (r :: rs) = every failFast (r :: ss) := by
  funext errors
  rw [every, every, h]

theorem every_append_congr {rs rs' ss ss' : List Run} (h : every failFast rs = every failFast rs')
    (h' : every failFast ss = every failFast ss') : every failFast (rs ++ ss) = every failFast (rs' ++ ss') := by
  funext errors
  rw [every_append, every_append, h, h']

theorem every_done {rs : List Run} (h : ∀ r ∈ rs, r = done true) : every failFast rs = done true := by
  induction rs with
  | nil => rfl
  | cons r rest ih =>
    obtain ⟨rfl, hrest⟩ := List.forall_mem_cons.mp h
    rw [every_done_cons, ih hrest]

end Run

namespace Node

variable {call : Nat → Location → Run} {failFast : Bool} {l : Location}

/-- A node that is left out because its body always passes would have passed. -/
theorem every_unlessPass_append {around : Node → Node} (hpass : (around .pass).run call failFast l = Run.done true)
    (body : Node) (nodes : List Node) :
    Run.every failFast ((unlessPass body around ++ nodes).map (run call failFast · l)) =
      Run.every failFast ((around body).run call failFast l :: nodes.map (run call failFast · l)) := by
  cases body with
  | pass =>
    rw [hpass, Run.every_done_cons]
    rfl
  | _ => rfl

/-- The elements from a number on begin with the one of that number. -/
theorem elementsFrom_of_some {start : Nat} {v : Json} (h : (Step.index start).child? l.value = some v) :
    elementsFrom l start = .child l (.index start) v :: elementsFrom l (start + 1) := by
  unfold elementsFrom
  unfold Step.child? Json.item? at h
  cases hv : l.value with
  | arr vs =>
    rw [hv] at h
    obtain ⟨hlt, rfl⟩ := List.getElem?_eq_some_iff.mp h
    dsimp only
    rw [List.drop_eq_getElem_cons hlt]
    rfl
  | _ =>
    rw [hv] at h
    cases h

/-- There are no elements from a number on that no element has. -/
theorem elementsFrom_of_none {start : Nat} (h : (Step.index start).child? l.value = none) :
    elementsFrom l start = [] := by
  unfold elementsFrom
  unfold Step.child? Json.item? at h
  cases hv : l.value with
  | arr vs =>
    rw [hv] at h
    dsimp only
    rw [List.drop_eq_nil_of_le (List.getElem?_eq_none_iff.mp h)]
    rfl
  | _ => rfl

theorem elementsFrom_succ (l : Location) (start : Nat) :
    elementsFrom l (start + 1) = (elementsFrom l start).tail := by
  cases h : (Step.index start).child? l.value with
  | some v => rw [elementsFrom_of_some h, List.tail_cons]
  | none =>
    rw [elementsFrom_of_none h, List.tail_nil]
    refine elementsFrom_of_none ?_
    unfold Step.child? Json.item? at h ⊢
    cases hv : l.value with
    | arr vs =>
      rw [hv] at h
      exact List.getElem?_eq_none (Nat.le_succ_of_le (List.getElem?_eq_none_iff.mp h))
    | _ => rfl

end Node

/-! ## What the elements of an array are run through -/

/-- What the subschemas of `items` are lowered to. -/
structure ItemBodies where
  /-- The bodies for the first elements, one each. -/
  fixed : List Node
  /-- The body for all elements from a number on. -/
  others : Option (Nat × Node)

namespace ItemBodies

/-- The bodies with the elements that they run on, from the first element to the last.  Bodies for elements
    that the data does not have are not run. -/
def elements (b : ItemBodies) (l : Location) : List (Node × Location) :=
  b.fixed.zip (Node.elementsFrom l 0) ++
    match b.others with
    | some (start, body) => (Node.elementsFrom l start).map fun e => (body, e)
    | none => []

end ItemBodies

namespace KeywordPlace

/-- The violation of a tuple without additional items by an array that is longer than the tuple. -/
def overlong (p : KeywordPlace) (l : Location) : List Violation :=
  match p.schema, p.sibling? "additionalItems", l.value with
  | .arr tuple, some (.bool false), .arr vs =>
    if tuple.length < vs.length then
      [⟨"additionalItems", l.dataPath, p.siblingPath "additionalItems", .obj [("limit", tuple.length)],
        s!"should NOT have more than {tuple.length} items"⟩]
    else []
  | _, _, _ => []

/-- What is known of the bodies: a tuple has one for each place, and one for the elements behind it if
    `additionalItems` is an object; a single schema has one for all elements. -/
def HasItemBodies (p : KeywordPlace) (B : BodyRel) (b : ItemBodies) : Prop :=
  match p.schema with
  | .null => b = ⟨[], none⟩
  | .arr tuple =>
    List.Forall₂ (fun m body => B m.1 (p.below s!"items/{m.2}" s!"/{m.2}") body) tuple.zipIdx b.fixed ∧
      match p.sibling? "additionalItems" with
      | some (.obj members) =>
        ∃ body, B (.obj members) (p.below "additionalItems" "/\x7bindex\x7d") body ∧
          b.others = some (tuple.length, body)
      | _ => b.others = none
  | single => ∃ body, B single (p.below "items" "/\x7bindex\x7d") body ∧ b = ⟨[], some (0, body)⟩

variable {p : KeywordPlace} {B : BodyRel} {call : Nat → Location → Run} {failFast : Bool} {l : Location}

/-- The check of the length records the violation of the tuple by a longer array. -/
theorem noAdditionalItems_run (p : KeywordPlace) (count : Nat) :
    (p.noAdditionalItems count).run call failFast l = Run.ofViolations (some
      (if l.value.arr?.any (count < ·.length) then
        [⟨"additionalItems", l.dataPath, p.siblingPath "additionalItems", .obj [("limit", count)],
          s!"should NOT have more than {count} items"⟩]
      else [])) := by
  funext errors
  show (if l.value.arr?.any (count < ·.length) then _ else _) = _
  unfold Run.ofViolations
  split
  · rfl
  · simp

/-- A tuple has the check exactly if it may have no additional items. -/
theorem length_run {tuple : List Json} (hschema : p.schema = .arr tuple) :
    Run.every failFast ((if (p.sibling? "additionalItems").any (·.bool? == some false) then
        [p.noAdditionalItems tuple.length] else []).map (Node.run call failFast · l)) =
      Run.every failFast [Run.ofViolations (some (p.overlong l))] := by
  have hunchecked : Run.every failFast (([] : List Node).map (Node.run call failFast · l)) =
      Run.every failFast [Run.ofViolations (some [])] := (Run.every_ofNothing_cons []).symm
  unfold overlong
  rw [hschema]
  generalize p.sibling? "additionalItems" = additional
  cases additional with
  | none => exact hunchecked
  | some a =>
    cases a with
    | bool allowed =>
      cases allowed with
      | true => exact hunchecked
      | false =>
        show Run.every failFast [(p.noAdditionalItems tuple.length).run call failFast l] = _
        rw [noAdditionalItems_run]
        cases l.value with
        | arr vs => simp [Json.arr?]
        | _ => rfl
    | _ => exact hunchecked

/-- The bodies of a tuple are run at the elements from the tuple's start on, as far as both go. -/
theorem tupleParts_run (tuple : List Json) : ∀ {start : Nat} {nodes : List Node},
    Assembled (p.tupleParts B start tuple) nodes →
    ∃ bodies, List.Forall₂ (fun m body => B m.1 (p.below s!"items/{m.2}" s!"/{m.2}") body)
        (tuple.zipIdx start) bodies ∧
      ∀ call failFast l, Run.every failFast (nodes.map (Node.run call failFast · l)) =
        Run.every failFast ((bodies.zip (Node.elementsFrom l start)).map fun e =>
          e.1.run call failFast e.2) := by
  induction tuple with
  | nil =>
    intro start nodes h
    cases h
    exact ⟨[], .nil, fun _ _ _ => rfl⟩
  | cons schema rest ih =>
    intro start nodes h
    cases h with
    | @cons _ _ body others hbody hothers =>
      obtain ⟨bodies, hbodies, hrun⟩ := ih hothers
      refine ⟨body :: bodies, .cons hbody hbodies, fun call failFast l => ?_⟩
      have hpass : (Node.descend (.index start) .pass).run call failFast l = Run.done true := by
        rw [Node.run_descend]
        cases (Step.index start).child? l.value <;> rfl
      rw [Node.every_unlessPass_append hpass, Run.every_cons_congr (hrun call failFast l), Node.run_descend]
      cases hstep : (Step.index start).child? l.value with
      | some v =>
        rw [Node.elementsFrom_of_some hstep]
        rfl
      | none =>
        rw [Node.elementsFrom_succ, Node.elementsFrom_of_none hstep, List.tail_nil, List.zip_nil_right,
          List.zip_nil_right, List.map_nil, Run.every_done_cons]

/-- The body of the elements from a number on is run at each of them. -/
theorem elementsPart_run {keyword : String} {start : Nat} {schema : Json} {nodes : List Node}
    (h : Assembled [p.elementsPart B keyword start schema] nodes) :
    ∃ body, B schema (p.below keyword "/\x7bindex\x7d") body ∧
      ∀ call failFast l, Run.every failFast (nodes.map (Node.run call failFast · l)) =
        Run.every failFast ((Node.elementsFrom l start).map (body.run call failFast)) := by
  cases h with
  | @cons _ _ body _ hbody hnil =>
    cases hnil
    refine ⟨body, hbody, fun call failFast l => ?_⟩
    have hpass : (Node.items start .pass).run call failFast l = Run.done true := by
      rw [Node.run_items]
      exact Run.every_done (List.forall_mem_map.mpr fun _ _ => rfl)
    rw [← Node.run_items, ← Run.every_single failFast (Node.run call failFast (.items start body) l)]
    exact Node.every_unlessPass_append hpass body []

/-- Behind the check of the length, the bodies of a tuple and of the elements behind it are run. -/
theorem tuple_run {tuple : List Json} {nodes : List Node} (hschema : p.schema = .arr tuple)
    (h : Assembled (p.tupleParts B 0 tuple ++ p.additionalItemsParts B tuple.length) nodes) :
    ∃ b, p.HasItemBodies B b ∧
      ∀ call failFast l, Run.every failFast (nodes.map (Node.run call failFast · l)) =
        Run.every failFast ((b.elements l).map fun e => e.1.run call failFast e.2) := by
  obtain ⟨fixed, others, rfl, hfixed, hothers⟩ := h.split
  obtain ⟨bodies, hbodies, hrun⟩ := tupleParts_run tuple hfixed
  have hnone : others = [] → ∀ call failFast l,
      Run.every failFast ((fixed ++ others).map (Node.run call failFast · l)) =
        Run.every failFast (((⟨bodies, none⟩ : ItemBodies).elements l).map fun e =>
          e.1.run call failFast e.2) := by
    rintro rfl call failFast l
    rw [List.append_nil, hrun, ItemBodies.elements, List.append_nil]
  unfold additionalItemsParts at hothers
  unfold HasItemBodies
  rw [hschema]
  generalize p.sibling? "additionalItems" = additional at hothers ⊢
  have hothers_none : ∀ {parts : List Part}, parts = [] → Assembled parts others → others = [] := by
    rintro _ rfl h
    cases h
    rfl
  cases additional with
  | none => exact ⟨⟨bodies, none⟩, ⟨hbodies, rfl⟩, hnone (hothers_none rfl hothers)⟩
  | some a =>
    cases a with
    | obj members =>
      obtain ⟨body, hbody, hbehind⟩ := elementsPart_run hothers
      refine ⟨⟨bodies, some (tuple.length, body)⟩, ⟨hbodies, body, hbody, rfl⟩, fun call failFast l => ?_⟩
      rw [ItemBodies.elements, List.map_append, List.map_append, List.map_map]
      exact Run.every_append_congr (hrun call failFast l) (hbehind call failFast l)
    | _ => exact ⟨⟨bodies, none⟩, ⟨hbodies, rfl⟩, hnone (hothers_none rfl hothers)⟩

/-- **The bodies run at the elements from the first to the last**, behind the check of the length. -/
theorem MakesItems.run_eq {nodes : List Node} (h : p.MakesItems B nodes) :
    ∃ b, p.HasItemBodies B b ∧
      ∀ call failFast l, Run.every failFast (nodes.map (Node.run call failFast · l)) =
        Run.every failFast (Run.ofViolations (some (p.overlong l)) ::
          (b.elements l).map fun e => e.1.run call failFast e.2) := by
  obtain ⟨-, h⟩ := h
  -- without a tuple no array is too long
  have hfits : (∀ tuple, p.schema ≠ .arr tuple) → ∀ (l : Location) failFast (rs : List Run),
      Run.every failFast (Run.ofViolations (some (p.overlong l)) :: rs) = Run.every failFast rs := by
    intro htuple l failFast rs
    have hnone : p.overlong l = [] := by
      unfold overlong
      split
      · next tuple _ heq _ _ => exact absurd heq (htuple tuple)
      · rfl
    rw [hnone, Run.every_ofNothing_cons]
  have hsingle : ∀ {single}, p.schema = single → (∀ tuple, p.schema ≠ .arr tuple) →
      Assembled [p.elementsPart B "items" 0 single] nodes →
      ∃ body, B single (p.below "items" "/\x7bindex\x7d") body ∧ ∀ call failFast l,
        Run.every failFast (nodes.map (Node.run call failFast · l)) =
          Run.every failFast (Run.ofViolations (some (p.overlong l)) ::
            ((⟨[], some (0, body)⟩ : ItemBodies).elements l).map fun e => e.1.run call failFast e.2) := by
    intro single hschema htuple hnodes
    obtain ⟨body, hbody, hrun⟩ := elementsPart_run hnodes
    refine ⟨body, hbody, fun call failFast l => ?_⟩
    rw [hfits htuple, hrun, ItemBodies.elements, List.zip_nil_left, List.nil_append, List.map_map]
    rfl
  cases hschema : p.schema with
  | null =>
    rw [hschema] at h
    refine ⟨⟨[], none⟩, ?_, fun call failFast l => ?_⟩
    · unfold HasItemBodies
      rw [hschema]
    · rw [h, hfits (by rw [hschema]; exact nofun)]
      rfl
  | arr tuple =>
    rw [hschema] at h
    obtain ⟨others, hothers, rfl⟩ := h
    obtain ⟨b, hb, hrun⟩ := tuple_run hschema hothers
    refine ⟨b, hb, fun call failFast l => ?_⟩
    rw [List.map_append, Run.every_append_congr (length_run hschema) (hrun call failFast l), List.singleton_append]
  | _ =>
    rw [hschema] at h
    obtain ⟨body, hbody, hrun⟩ := hsingle hschema (by rw [hschema]; exact nofun) h
    refine ⟨⟨[], some (0, body)⟩, ?_, hrun⟩
    unfold HasItemBodies
    rw [hschema]
    exact ⟨body, hbody, rfl⟩

end KeywordPlace

/-! ## In the schema around it -/

/-- The schema is lowered to the node on the way to the procedures. -/
def LoweredAmong (procedures : List Procedure) (lower : Lower) : BodyRel := fun schema position n =>
  ∃ before after, lower schema position before = .ok (n, after) ∧ after <+: procedures

/-- Lowering only adds procedures, so that what a subschema was lowered to refers to those at the end. -/
theorem lowerSchema_loweredAmong (env : Environment) (budget : Nat) (schema : Json) (position : Position) :
    LowerM.Ensures (EntriesHave fun _ => True) (lowerSchema env budget schema position) fun later n =>
      LoweredAmong later (lowerSchema env budget) schema position n := by
  intro procedures n after hentries h
  obtain ⟨hafter, hle, -⟩ :=
    lowerSchema_made (.of_bodies fun _ => trivial) budget schema position procedures n after hentries h
  exact ⟨hafter, hle, fun later hlater => ⟨procedures, after, h, hlater⟩⟩

section

variable {env : Environment} {members : List (String × Json)} {position : Position}

/-- What an object is lowered to is made of what its subschemas were lowered to on the way. -/
theorem lowerSchema_madeAmong {budget : Nat} {before after : List Procedure} {node : Node}
    (h : lowerSchema env (budget + 1) (.obj members) position before = .ok (node, after)) :
    ∃ base, schemaBase (.obj members) position.base = .ok base ∧
      ObjectMakes (LoweredAmong after (lowerSchema env budget)) (fun _ _ _ => True) env members
        { position with base } node := by
  have hentries : EntriesHave (fun _ => True) before := fun _ _ _ _ => trivial
  obtain ⟨base, mid, hlifted, hobject⟩ := LowerM.bind_eq_ok.mp h
  obtain ⟨hbase, rfl⟩ := LowerM.liftExcept_eq_ok.mp hlifted
  have hrefers : ∀ rule : Rule, rule.RefersTo env members { position with base } (EntriesHave fun _ => True)
      (lowerSchema env budget) fun _ _ _ _ => True := by
    intro rule data _
    have hany : ∀ procedures, EntriesHave (fun _ => True) procedures := fun _ _ _ _ _ => trivial
    exact (procedureOf_made (B := fun _ _ _ _ => True)
      (fun target => (lowerSchema_loweredAmong env budget _ _).weaken fun _ _ _ => trivial)
      (fun _ _ _ => hany _) fun _ _ _ _ => hany _).weaken fun _ _ _ => trivial
  obtain ⟨-, -, hmakes⟩ := lowerObject_made (lowerSchema_loweredAmong env budget) (fun rule _ => hrefers rule)
    _ _ _ hentries hobject
  exact ⟨base, hbase, hmakes after List.prefix_rfl⟩

/-- **`items` with `additionalItems` reports in order.**  Wherever a schema that has the keywords is lowered,
    what their rule contributes records first the violation of a tuple that is too short for the array, if
    there may be no additional items, and then what the bodies record at the elements, from the first to the
    last: the schemas of a tuple each at its place, the one for additional items behind the tuple, and a
    single schema at all of them.  Failing fast, it records what the first of these parts that fails does.
    On all data that the rule's group concerns, the schema runs what the rule contributes between what it
    runs before and after. -/
theorem items_reported_in_order {budget : Nat} {before after : List Procedure} {node : Node}
    {group : RuleGroup} {rule : Rule}
    (h : lowerSchema env (budget + 1) (.obj members) position before = .ok (node, after))
    (hgroup : group ∈ env.registry.groups) (hrule : rule ∈ group.present members (env.onlyRef members))
    (hconcerned : ∀ types, env.onlyRef members = false →
      declaredTypes position.schemaPath members = .ok (some types) → group.concerns (some types) = true)
    (hitems : rule.implementation = .builtin .items) :
    ∃ base bodies contributed front back,
      let p := rule.place env members { position with base } none
      schemaBase (.obj members) position.base = .ok base ∧
      p.HasItemBodies (LoweredAmong after (lowerSchema env budget)) bodies ∧
      (∀ (program : Program) failFast calls l,
        contributed.run (program.call failFast calls) failFast l =
          Run.ofViolations (Run.inOrder failFast (some (p.overlong l) ::
            (bodies.elements l).map fun e =>
              (e.1.run (program.call failFast calls) failFast e.2).violations))) ∧
      ∀ call failFast l, group.appliesTo.all (·.accepts l.value) = true →
        node.run call failFast l =
          Run.every failFast ((front ++ contributed :: back).map (Node.run call failFast · l)) := by
  obtain ⟨base, hbase, declared, nodes, hdeclared, hnodes, rfl⟩ := lowerSchema_madeAmong h
  have hconcerns : group.concerns declared = true := by
    refine @RuleGroup.concerns_declared env members position group declared ?_ hconcerned
    by_cases honly : env.onlyRef members = true
    · rw [if_pos honly] at hdeclared
      exact .inl ⟨honly, hdeclared⟩
    · rw [if_neg honly] at hdeclared
      exact .inr ⟨Bool.eq_false_iff.mpr honly, hdeclared.2⟩
  obtain ⟨contributed, front, back, hmakes, haround⟩ :=
    lowerGroups_around hnodes (List.mem_filter.mpr ⟨hgroup, hconcerns⟩) hrule
  obtain ⟨data, made, -, -, hmade, rfl⟩ := hmakes
  rw [hitems] at hmade
  obtain ⟨bodies, hbodies, hrun⟩ := KeywordPlace.MakesItems.run_eq hmade
  refine ⟨base, bodies, _, front, back, hbase, hbodies, fun program failFast calls l => ?_, haround⟩
  rw [Node.run_conj, hrun, ← Run.every_ofViolations, List.map_cons, List.map_map]
  congr 2
  exact List.map_congr_left fun e _ => (e.1.run_faithful program failFast calls e.2).eq_ofViolations

/-- A tuple of one schema that accepts nothing, and no additional items. -/
def noPair : List (String × Json) := [("items", .arr [false]), ("additionalItems", false)]

/-- A pair is too long for the tuple, and its first element is not accepted: all violations are these two in
    this order, and failing fast only the length is reported. -/
theorem noPair_reported :
    let pair : Json := .arr [(1 : Nat), (2 : Nat)]
    let long : Violation :=
      ⟨"additionalItems", "", "#/additionalItems", .obj [("limit", (1 : Nat))], "should NOT have more than 1 items"⟩
    let wrong : Violation := ⟨"false schema", "/0", "#/items/0", .obj [], "boolean schema is false"⟩
    ∃ node procedures contributed front back,
      lowerSchema (Surroundings.plain.among .empty) 2 (.obj noPair) ⟨"#", "", 0, defaultBase, 0⟩ [] =
        .ok (node, procedures) ∧
      ∀ (program : Program) calls,
        contributed.run (program.call false calls) false (.root pair) [] = some (false, [long, wrong]) ∧
        contributed.run (program.call true calls) true (.root pair) [] = some (false, [long]) ∧
        node.run (program.call false calls) false (.root pair) =
          Run.every false ((front ++ contributed :: back).map
            (Node.run (program.call false calls) false · (.root pair))) := by
  intro pair long wrong
  have hlowered : (lowerSchema (Surroundings.plain.among .empty) 2 (.obj noPair) ⟨"#", "", 0, defaultBase, 0⟩
      []).toOption.any (fun _ => true) = true := by decide +kernel
  obtain ⟨⟨node, procedures⟩, hlowered, -⟩ := exists_ok_of_any hlowered
  obtain ⟨group, hgroup, htype, hrules⟩ := exists_left_of_forall₂ Registry.withBuiltins_groups
    (some .array, [.maxItems, .minItems, .items, .contains, .uniqueItems]) (by simp [BuiltinKeyword.groups])
  have honly : (Surroundings.plain.among .empty).onlyRef noPair = false := rfl
  have hrule : Rule.ofBuiltin .items ∈ group.present noPair
      ((Surroundings.plain.among .empty).onlyRef noPair) := by
    rw [honly]
    refine List.mem_filter.mpr ⟨?_, by decide⟩
    rw [hrules]
    exact List.mem_map_of_mem (by simp)
  have hdeclared : declaredTypes "#" noPair = .ok none := rfl
  obtain ⟨base, bodies, contributed, front, back, -, hbodies, hcontributed, haround⟩ :=
    items_reported_in_order hlowered hgroup hrule (fun types _ h => by rw [hdeclared] at h; cases h) rfl
  obtain ⟨hfixed, hothers⟩ : List.Forall₂ _ [(Json.bool false, 0)] bodies.fixed ∧ bodies.others = none := hbodies
  obtain ⟨body, rest, ⟨before, after, hbody, -⟩, hrest, hone⟩ := List.forall₂_cons_left_iff.mp hfixed
  obtain rfl := List.forall₂_nil_left_iff.mp hrest
  obtain ⟨rfl, -⟩ := LowerM.pure_eq_ok.mp hbody
  obtain rfl : bodies = ⟨_, _⟩ := congrArg₂ ItemBodies.mk hone hothers
  refine ⟨node, procedures, contributed, front, back, hlowered, fun program calls => ⟨?_, ?_, ?_⟩⟩
  · rw [hcontributed]
    rfl
  · rw [hcontributed]
    rfl
  · refine haround _ _ _ ?_
    rw [htype]
    rfl

end

end JsonSchema
