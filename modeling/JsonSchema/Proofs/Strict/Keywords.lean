import Mathlib.Data.List.Forall2
import JsonSchema.Proofs.Evaluation.Bounds
import JsonSchema.Proofs.Lowering.Mirrors
import JsonSchema.Proofs.Reference.Transcription
import JsonSchema.Proofs.Strict.Polarity

/-!
# Keywords of a closed schema

What a keyword contributes to a schema bounds what it contributes to the closed schema, if the bodies of
its subschemas bound those of the closed ones, each with the sign it counts with
(`ClosedPlace.applicator_bounds`).  Assertions do not see that a schema was closed
(`assertion_nodes_eq`).
-/

set_option autoImplicit false

namespace JsonSchema

open Node

/-- Two lists that come from one, entry by entry. -/
theorem forall₂_of_both {α β γ : Type} {Q : α → β → Prop} {Q' : α → γ → Prop} {T : β → γ → Prop}
    {xs : List α} {ys : List β} {zs : List γ} (h : List.Forall₂ Q xs ys) (h' : List.Forall₂ Q' xs zs)
    (hT : ∀ x ∈ xs, ∀ y z, Q x y → Q' x z → T y z) : List.Forall₂ T ys zs := by
  induction h generalizing zs with
  | nil =>
    cases h'
    exact .nil
  | cons hy _ ih =>
    cases h' with
    | cons hz hrest =>
      obtain ⟨hx, hxs⟩ := List.forall_mem_cons.mp hT
      exact .cons (hx _ _ hy hz) (ih hrest hxs)

/-! ## Parts -/

/-- With their bodies in place, the node of the one part bounds the node of the other. -/
structure Part.Bounds (upper : Bool) (part part' : Part) : Prop where
  keepsPass : KeepsPass part.around
  keepsPass' : KeepsPass part'.around
  bounds : ∀ body body', part.Made body → part'.Made body' →
    Node.Bounds upper (part.around body) (part'.around body')

section

variable {upper : Bool} {nodes nodes' : List Node}

theorem Node.Bounds.unlessPass {around around' : Node → Node} {body body' : Node}
    (hpass : KeepsPass around) (hpass' : KeepsPass around')
    (h : Node.Bounds upper (around body) (around' body')) :
    AllBound upper (unlessPass body around) (JsonSchema.unlessPass body' around') := by
  intro call call' failFast l
  obtain ⟨φ, φ', hφ, hφ', hle⟩ := h call call' failFast l
  exact ⟨φ, φ', every_unlessPass hpass hφ, every_unlessPass hpass' hφ', hle⟩

theorem Assembled.bounds {parts parts' : List Part} (hparts : List.Forall₂ (Part.Bounds upper) parts parts')
    (h : Assembled parts nodes) (h' : Assembled parts' nodes') : AllBound upper nodes nodes' := by
  induction hparts generalizing nodes nodes' with
  | nil =>
    cases h
    cases h'
    exact .nil
  | cons hpart _ ih =>
    cases h with
    | cons hm hrest =>
      cases h' with
      | cons hm' hrest' =>
        refine .append ?_ (ih hrest hrest')
        exact (hpart.bounds _ _ hm hm').unlessPass hpart.keepsPass hpart.keepsPass'

theorem Assembled.bounds_single {part part' : Part} (hpart : part.Bounds upper part')
    (h : Assembled [part] nodes) (h' : Assembled [part'] nodes') : AllBound upper nodes nodes' :=
  Assembled.bounds (.cons hpart .nil) h h'

/-- The parts of a list, and those of its image. -/
theorem Assembled.bounds_map {α α' : Type} {part : α → Part} {part' : α' → Part} {f : α → α'}
    {xs : List α} (hpart : ∀ x ∈ xs, (part x).Bounds upper (part' (f x)))
    (h : Assembled (xs.map part) nodes) (h' : Assembled ((xs.map f).map part') nodes') :
    AllBound upper nodes nodes' := by
  refine Assembled.bounds ?_ h h'
  rw [List.map_map, List.forall₂_map_left_iff, List.forall₂_map_right_iff, List.forall₂_same]
  exact hpart

end

/-! ## Values of closed keywords -/

namespace Json

/-- Only objects and arrays have something to close inside. -/
theorem closed_leaf {v : Json} (hobj : v.obj? = none) (harr : v.arr? = none) : v.closed = v := by
  cases v with
  | obj members => cases hobj
  | arr items => cases harr
  | _ => rw [closed] <;> simp

theorem closed_bool? (v : Json) : v.closed.bool? = v.bool? := by
  cases v with
  | obj members => rw [closed_obj]; rfl
  | arr items => rw [closed_arr]; rfl
  | _ => rw [closed_leaf rfl rfl]

theorem closed_arr? (v : Json) : v.closed.arr?.getD [] = (v.arr?.getD []).map closed := by
  cases v with
  | arr items => rw [closed_arr]; rfl
  | obj members => rw [closed_obj]; rfl
  | _ => rw [closed_leaf rfl rfl]; rfl

theorem closedValues_obj? (v : Json) :
    v.closedValues.obj?.getD [] = (v.obj?.getD []).map fun m => (m.1, m.2.closed) := by
  cases v with
  | obj members => rw [closedValues_obj]; rfl
  | _ =>
    rw [closedValues]
    · rfl
    · simp

end Json

/-! ## Assertions -/

section

variable {B B' : BodyRel} {R R' : String → Nat → Prop} {p : KeywordPlace} {k : BuiltinKeyword}
  {nodes nodes' : List Node}

/-- An assertion sees neither the documents nor its siblings. -/
theorem assertion_nodes_eq (hk : k.isAssertion = true) {documents : Documents}
    {parent : List (String × Json)} (h : p.Makes B R k nodes)
    (h' : ({ p with env := p.env.among documents, parent } : KeywordPlace).Makes B' R' k nodes') :
    nodes' = nodes := by
  cases k with
  | multipleOf =>
    obtain ⟨n, hn, rfl⟩ := h
    obtain ⟨n', hn', rfl⟩ := h'
    have hsame : p.multipleOf = .ok n' := hn'
    rw [hn] at hsame
    rw [Except.ok.inj hsame]
  | pattern =>
    obtain ⟨n, hn, rfl⟩ := h
    obtain ⟨n', hn', rfl⟩ := h'
    have hsame : p.pattern = .ok n' := hn'
    rw [hn] at hsame
    rw [Except.ok.inj hsame]
  | format =>
    have hsame : p.format = .ok nodes' := h'
    rw [show p.format = .ok nodes from h] at hsame
    exact (Except.ok.inj hsame).symm
  | required =>
    have hsame : p.required = .ok nodes' := h'
    rw [show p.required = .ok nodes from h] at hsame
    exact (Except.ok.inj hsame).symm
  | items | contains | dependencies | propertyNames | properties | ref | not | anyOf | oneOf | allOf
  | ifThenElse => cases hk
  | _ => exact Eq.trans h' (Eq.symm h)

/-- An assertion contributes checks. -/
theorem assertion_checks (hk : k.isAssertion = true) (h : p.Makes B R k nodes) :
    ∀ n ∈ nodes, ∃ c, n = .check c := by
  cases k with
  | multipleOf =>
    obtain ⟨n, hn, rfl⟩ := h
    obtain ⟨-, text, rfl⟩ := KeywordPlace.multipleOf_cases hn
    exact List.forall_mem_singleton.mpr ⟨_, rfl⟩
  | pattern =>
    obtain ⟨n, hn, rfl⟩ := h
    rcases KeywordPlace.pattern_cases hn with ⟨-, text, rfl⟩ | ⟨-, r, text, -, rfl⟩
    · exact List.forall_mem_singleton.mpr ⟨_, rfl⟩
    · exact List.forall_mem_singleton.mpr ⟨_, rfl⟩
  | format =>
    rcases KeywordPlace.format_cases h with ⟨format, text, -, rfl⟩ | ⟨-, rfl⟩
    · exact List.forall_mem_singleton.mpr ⟨_, rfl⟩
    · exact nofun
  | required =>
    obtain ⟨names, text, -, rfl⟩ := KeywordPlace.required_cases h
    exact KeywordPlace.forall_mem_dataChecks fun c => ⟨c, rfl⟩
  | items | contains | dependencies | propertyNames | properties | ref | not | anyOf | oneOf | allOf
  | ifThenElse => cases hk
  | _ =>
    rw [show nodes = [_] from h]
    exact List.forall_mem_singleton.mpr ⟨_, rfl⟩

end

theorem Node.Bounds.check {upper : Bool} (c : Check) : Node.Bounds upper (.check c) (.check c) :=
  .of_alike fun _ _ _ => .check rfl rfl rfl

theorem Node.AllBound.checks {upper : Bool} {nodes : List Node} (h : ∀ n ∈ nodes, ∃ c, n = .check c) :
    AllBound upper nodes nodes := by
  refine .of_forall₂ (List.forall₂_same.mpr fun n hn => ?_)
  obtain ⟨c, rfl⟩ := h n hn
  exact .check c

/-! ## Keywords with subschemas -/

namespace KeywordPlace

/-- An `if` with one of its branches. -/
def IsCondition (p : KeywordPlace) : Prop :=
  p.schema ≠ .null ∧ ((p.sibling? "then").isSome ∨ (p.sibling? "else").isSome)

theorem MakesIfThenElse.cases {B : BodyRel} {p : KeywordPlace} {nodes : List Node}
    (h : p.MakesIfThenElse B nodes) :
    (nodes = [] ∧ ¬ p.IsCondition) ∨
      (p.IsCondition ∧ ∃ c t e text, B p.schema (p.inside "if") c ∧ p.MakesBranch B "then" t ∧
        p.MakesBranch B "else" e ∧ nodes = [.ifThenElse c t e (p.site text)]) := by
  unfold MakesIfThenElse at h
  unfold IsCondition
  split at h
  · next hnull => exact .inl ⟨h, fun hc => hc.1 hnull⟩
  · next hthen helse _ => exact .inl ⟨h, fun hc => by simp [hthen, helse] at hc⟩
  · next hnull hbranches =>
    refine .inr ⟨⟨hnull, ?_⟩, h⟩
    rw [Option.isSome_iff_ne_none, Option.isSome_iff_ne_none]
    exact Classical.not_and_iff_not_or_not.mp fun ⟨hthen, helse⟩ => hbranches hthen helse

end KeywordPlace

/-- What is known of the bodies of a schema and of the closed schema: the ones bound the others. -/
def ClosingBounds (B B' : BodyRel) (upper : Bool) (s : Json) : Prop :=
  ∀ position n n', B s position n → B' s.closed position n' → n.Bounds upper n'

/-- What is known of an object that is closed: it is closed only where that bounds it, and so are the
    schemas inside it. -/
structure Closing (B B' : BodyRel) (members : List (String × Json)) (upper : Bool) : Prop where
  opened : upper = false → isOpenObjectSchema members = false
  counts : ∀ sign s, Json.Counts members sign s → ClosingBounds B B' (upper == sign) s
  /-- A keyword that is missing has no body. -/
  null : ∀ position n, ¬ B .null position n

/-- The places of a keyword in an object and in the closed object. -/
structure ClosedPlace (B B' : BodyRel) (members : List (String × Json)) (upper : Bool)
    (k : BuiltinKeyword) (p p' : KeywordPlace) : Prop extends Closing B B' members upper where
  parent : p.parent = members
  parent' : p'.parent = Json.closedObject members
  position : p'.position = p.position
  keyword : p'.keyword = p.keyword
  schema : p.schema = (members.lookup k.name).getD .null
  schema' : p'.schema = ((Json.closedObject members).lookup k.name).getD .null

namespace ClosedPlace

variable {B B' : BodyRel} {members : List (String × Json)} {upper : Bool} {k : BuiltinKeyword}
  {p p' : KeywordPlace} {nodes nodes' : List Node}

theorem narrowing (hp : ClosedPlace B B' members upper k p p') {s : Json}
    (h : Json.Counts members true s) : ClosingBounds B B' upper s := by
  have hcounts := hp.counts true s h
  rwa [show (upper == true) = upper by cases upper <;> rfl] at hcounts

theorem widening (hp : ClosedPlace B B' members upper k p p') {s : Json}
    (h : Json.Counts members false s) : ClosingBounds B B' (!upper) s := by
  have hcounts := hp.counts false s h
  rwa [show (upper == false) = !upper by cases upper <;> rfl] at hcounts

/-- What counts with both signs is bounded from both sides. -/
theorem both (hp : ClosedPlace B B' members upper k p p') {s : Json}
    (h : ∀ sign, Json.Counts members sign s) (side : Bool) : ClosingBounds B B' side s := by
  cases hside : (upper == side) with
  | true =>
    obtain rfl := eq_of_beq hside
    exact hp.narrowing (h true)
  | false =>
    have hne : side = !upper := by
      cases upper <;> cases side <;> first | rfl | cases hside
    exact hne ▸ hp.widening (h false)

/-! ### The same positions, closed siblings -/

theorem siblingPath (hp : ClosedPlace B B' members upper k p p') (keyword : String) :
    p'.siblingPath keyword = p.siblingPath keyword := by
  unfold KeywordPlace.siblingPath
  rw [hp.position]

theorem inside (hp : ClosedPlace B B' members upper k p p') (relative : String) :
    p'.inside relative = p.inside relative := by
  unfold KeywordPlace.inside
  rw [hp.siblingPath, hp.position]

theorem below (hp : ClosedPlace B B' members upper k p p') (relative step : String) :
    p'.below relative step = p.below relative step := by
  unfold KeywordPlace.below
  rw [hp.inside, hp.position]

theorem onNames (hp : ClosedPlace B B' members upper k p p') (relative : String) :
    p'.onNames relative = p.onNames relative := by
  unfold KeywordPlace.onNames
  rw [hp.inside, hp.position]

theorem sibling?_eq (hp : ClosedPlace B B' members upper k p p') (keyword : String) :
    p.sibling? keyword = members.lookup keyword := by
  rw [KeywordPlace.sibling?, hp.parent]

theorem sibling?_closed (hp : ClosedPlace B B' members upper k p p') {keyword : String}
    (hkeyword : keyword ≠ "additionalProperties") :
    p'.sibling? keyword = (members.lookup keyword).map (closedUnder keyword) := by
  rw [KeywordPlace.sibling?, hp.parent', Json.lookup_closedObject_of_ne hkeyword]

theorem siblingMembers_closed (hp : ClosedPlace B B' members upper k p p') {keyword : String}
    (hkeyword : keyword ∈ schemaMapKeywords) (hne : keyword ≠ "additionalProperties") :
    p'.siblingMembers keyword = (p.siblingMembers keyword).map fun m => (m.1, m.2.closed) := by
  rw [KeywordPlace.siblingMembers, KeywordPlace.siblingMembers, hp.sibling?_closed hne, hp.sibling?_eq]
  cases members.lookup keyword with
  | none => rfl
  | some v =>
    rw [Option.map_some, closedUnder_of_mem_maps hkeyword]
    exact v.closedValues_obj?

/-- The schema of a keyword that has one. -/
theorem schema_closed (hp : ClosedPlace B B' members upper k p p') (hmap : k.name ∉ schemaMapKeywords)
    (hname : k.name ∈ schemaKeywords) (hne : k.name ≠ "additionalProperties") :
    p'.schema = p.schema.closed := by
  rw [hp.schema', hp.schema, Json.lookup_closedObject_of_ne hne, closedUnder_of_mem hmap hname]
  cases members.lookup k.name with
  | none => exact (Json.closed_leaf rfl rfl).symm
  | some v => rfl

theorem lookup_of_schema (hp : ClosedPlace B B' members upper k p p') {s : Json} (hs : p.schema = s)
    (hnull : s ≠ .null) : members.lookup k.name = some s := by
  rw [hp.schema] at hs
  cases hlookup : members.lookup k.name with
  | none =>
    rw [hlookup] at hs
    exact absurd hs.symm hnull
  | some v =>
    rw [hlookup] at hs
    exact congrArg some hs

/-- The schema of a keyword, if it is one at all. -/
theorem schema_bounds (hp : ClosedPlace B B' members upper k p p') {side : Bool}
    (h : ∀ s, members.lookup k.name = some s → ClosingBounds B B' side s) :
    ClosingBounds B B' side p.schema := by
  intro position n n' hn hn'
  by_cases hnull : p.schema = .null
  · rw [hnull] at hn
    exact absurd hn (hp.null _ _)
  · exact h _ (hp.lookup_of_schema rfl hnull) position n n' hn hn'

/-! ### Arrays -/

theorem elementsPart_bounds (hp : ClosedPlace B B' members upper k p p') {keyword : String} (start : Nat)
    {s : Json} (hs : ClosingBounds B B' upper s) :
    (p.elementsPart B keyword start s).Bounds upper (p'.elementsPart B' keyword start s.closed) where
  keepsPass := .items start
  keepsPass' := .items start
  bounds body body' hm hm' := by
    have hm' : B' s.closed _ body' := hm'
    rw [hp.below] at hm'
    exact .items start (hs _ _ _ hm hm')

theorem tupleParts_bounds (hp : ClosedPlace B B' members upper k p p') {tuple : List Json}
    (hs : ∀ s ∈ tuple, ClosingBounds B B' upper s) (h : Assembled (p.tupleParts B 0 tuple) nodes)
    (h' : Assembled (p'.tupleParts B' 0 (tuple.map Json.closed)) nodes') : AllBound upper nodes nodes' := by
  unfold KeywordPlace.tupleParts at h h'
  rw [List.zipIdx_map] at h'
  refine Assembled.bounds_map (fun m hm => ?_) h h'
  obtain ⟨s, i⟩ := m
  have hmem : s ∈ tuple := List.mem_of_getElem? (List.mem_zipIdx_iff_getElem?.mp hm)
  refine ⟨.descend _, .descend _, fun body body' hm hm' => ?_⟩
  have hm' : B' s.closed _ body' := hm'
  rw [hp.below] at hm'
  exact .descend _ (hs s hmem _ _ _ hm hm')

theorem noAdditionalItems_bounds (hp : ClosedPlace B B' members upper k p p') (count : Nat) :
    AllBound upper
      (if (p.sibling? "additionalItems").any (·.bool? == some false) then [p.noAdditionalItems count] else [])
      (if (p'.sibling? "additionalItems").any (·.bool? == some false) then [p'.noAdditionalItems count]
        else []) := by
  have hclosed : p'.sibling? "additionalItems" = (members.lookup "additionalItems").map Json.closed :=
    hp.sibling?_closed (by decide)
  have hcheck : p'.noAdditionalItems count = p.noAdditionalItems count := by
    unfold KeywordPlace.noAdditionalItems KeywordPlace.siblingSite
    rw [hp.siblingPath]
  rw [hcheck, hclosed, hp.sibling?_eq, Option.any_map]
  simp only [Json.closed_bool?]
  split
  · exact (Node.Bounds.check _).single
  · exact .nil

theorem additionalItems_bounds (hp : ClosedPlace B B' members upper k p p') {count : Nat}
    (h : Assembled (p.additionalItemsParts B count) nodes)
    (h' : Assembled (p'.additionalItemsParts B' count) nodes') : AllBound upper nodes nodes' := by
  have hclosed : p'.sibling? "additionalItems" = (members.lookup "additionalItems").map Json.closed :=
    hp.sibling?_closed (by decide)
  unfold KeywordPlace.additionalItemsParts at h h'
  rw [hp.sibling?_eq] at h
  rw [hclosed] at h'
  cases hlookup : members.lookup "additionalItems" with
  | none =>
    rw [hlookup] at h h'
    exact Assembled.bounds .nil h h'
  | some a =>
    rw [hlookup] at h h'
    have hs := hp.narrowing (.single (by decide) hlookup)
    cases a with
    | obj ms =>
      have hpart := @elementsPart_bounds _ _ _ _ _ _ _ hp "additionalItems" count _ hs
      rw [Json.closed_obj] at hpart
      rw [Option.map_some, Json.closed_obj] at h'
      exact Assembled.bounds_single hpart h h'
    | arr items =>
      rw [Option.map_some, Json.closed_arr] at h'
      exact Assembled.bounds .nil h h'
    | _ =>
      rw [Option.map_some, Json.closed_leaf rfl rfl] at h'
      exact Assembled.bounds .nil h h'

theorem items_bounds (hp : ClosedPlace B B' members upper .items p p') (h : p.MakesItems B nodes)
    (h' : p'.MakesItems B' nodes') : AllBound upper nodes nodes' := by
  obtain ⟨-, h⟩ := h
  obtain ⟨-, h'⟩ := h'
  rw [hp.schema_closed (by decide) (by decide) (by decide)] at h'
  have hsingle : ∀ s, p.schema = s → s ≠ .null →
      (p.elementsPart B "items" 0 s).Bounds upper (p'.elementsPart B' "items" 0 s.closed) := fun s hs hnull =>
    hp.elementsPart_bounds 0 (hp.narrowing (.single (by decide) (hp.lookup_of_schema hs hnull)))
  cases hschema : p.schema with
  | null =>
    rw [hschema] at h h'
    rw [Json.closed_leaf rfl rfl] at h'
    obtain rfl := h
    obtain rfl := h'
    exact .nil
  | arr tuple =>
    rw [hschema] at h h'
    rw [Json.closed_arr] at h'
    obtain ⟨others, hothers, rfl⟩ := h
    obtain ⟨others', hothers', rfl⟩ := h'
    obtain ⟨fixed, rest, rfl, hfixed, hrest⟩ := hothers.split
    obtain ⟨fixed', rest', rfl, hfixed', hrest'⟩ := hothers'.split
    rw [List.length_map] at hrest' ⊢
    have htuple : ∀ s ∈ tuple, ClosingBounds B B' upper s := fun s hs =>
      hp.narrowing (.listed (by decide) (hp.lookup_of_schema hschema nofun) hs)
    exact (hp.noAdditionalItems_bounds _).append
      ((hp.tupleParts_bounds htuple hfixed hfixed').append (hp.additionalItems_bounds hrest hrest'))
  | obj ms =>
    have hpart := hsingle _ hschema nofun
    rw [hschema] at h h'
    rw [Json.closed_obj] at h' hpart
    exact Assembled.bounds_single hpart h h'
  | _ =>
    have hpart := hsingle _ hschema nofun
    rw [hschema] at h h'
    rw [Json.closed_leaf rfl rfl] at h' hpart
    exact Assembled.bounds_single hpart h h'

theorem contains_bounds (hp : ClosedPlace B B' members upper .contains p p') (h : p.MakesContains B nodes)
    (h' : p'.MakesContains B' nodes') : AllBound upper nodes nodes' := by
  obtain ⟨body, text, hbody, rfl⟩ := h
  obtain ⟨body', text', hbody', rfl⟩ := h'
  rw [hp.schema_closed (by decide) (by decide) (by decide), hp.below] at hbody'
  have hs := hp.schema_bounds fun s hs => hp.narrowing (.single (by decide) hs)
  exact ((hs _ _ _ hbody hbody').contains _ _).single

/-! ### Objects -/

/-- The checks for a dependency on names do not see that the names stand in a closed schema. -/
theorem neededProperties_closed (hp : ClosedPlace B B' members upper k p p') {name : String}
    {names : List Json} (h : p.neededProperties name (.arr names) = .ok nodes) :
    p'.neededProperties name (.arr (names.map Json.closed)) = .ok nodes := by
  obtain ⟨needed, -, hneeded, -⟩ := KeywordPlace.neededProperties_cases h
  have hnames : names.map Json.closed = names := by
    rw [eq_map_str_of_propertyNames hneeded, List.map_map]
    refine List.map_congr_left fun name _ => ?_
    exact Json.closed_leaf rfl rfl
  rw [hnames, ← h]
  unfold KeywordPlace.neededProperties KeywordPlace.propertyNames KeywordPlace.error
    KeywordPlace.siblingError KeywordPlace.siblingSite
  rw [hp.siblingPath, hp.keyword]

theorem dependencyPart_bounds (hp : ClosedPlace B B' members upper k p p') {m : String × Json}
    (hs : ClosingBounds B B' upper m.2) :
    (p.dependencyPart B m).Bounds upper (p'.dependencyPart B' (m.1, m.2.closed)) where
  keepsPass := .ifPresent _
  keepsPass' := .ifPresent _
  bounds body body' hm hm' := by
    refine .ifPresent _ ?_
    obtain ⟨name, s⟩ := m
    unfold KeywordPlace.dependencyPart at hm hm'
    dsimp only at hm hm' hs
    rw [hp.inside] at hm'
    cases s with
    | arr names =>
      rw [Json.closed_arr] at hm'
      obtain ⟨checks, hchecks, rfl⟩ := hm
      obtain ⟨checks', hchecks', rfl⟩ := hm'
      rw [hp.neededProperties_closed hchecks] at hchecks'
      obtain rfl := Except.ok.inj hchecks'
      obtain ⟨needed, text, -, rfl⟩ := KeywordPlace.neededProperties_cases hchecks
      exact (AllBound.checks (KeywordPlace.forall_mem_dataChecks fun c => ⟨c, rfl⟩)).conj
    | obj ms =>
      rw [Json.closed_obj] at hm'
      exact hs _ _ _ hm (Json.closed_obj ms ▸ hm')
    | _ =>
      rw [Json.closed_leaf rfl rfl] at hm'
      exact hs _ _ _ hm hm'

theorem dependencies_bounds (hp : ClosedPlace B B' members upper .dependencies p p')
    (h : p.MakesDependencies B nodes) (h' : p'.MakesDependencies B' nodes') :
    AllBound upper nodes nodes' := by
  have hschema : p'.schema = p.schema.closedValues := by
    rw [hp.schema', hp.schema, Json.lookup_closedObject_of_ne (by decide)]
    cases members.lookup BuiltinKeyword.dependencies.name with
    | none => rw [Option.map_none, Option.getD_none, Json.closedValues]; simp
    | some v => rfl
  unfold KeywordPlace.MakesDependencies at h h'
  rw [hschema, Json.closedValues_obj?] at h'
  refine Assembled.bounds_map (fun m hm => hp.dependencyPart_bounds ?_) h h'
  cases hvalue : p.schema with
  | obj ms =>
    rw [hvalue] at hm
    exact hp.narrowing (.named (by decide) (hp.lookup_of_schema hvalue Json.noConfusion) hm)
  | _ =>
    rw [hvalue] at hm
    cases hm

theorem propertyNames_bounds (hp : ClosedPlace B B' members upper .propertyNames p p')
    (h : p.MakesNameSchema B nodes) (h' : p'.MakesNameSchema B' nodes') : AllBound upper nodes nodes' := by
  obtain ⟨text, h⟩ := h
  obtain ⟨text', h'⟩ := h'
  rw [hp.schema_closed (by decide) (by decide) (by decide), hp.onNames] at h'
  have hs := hp.schema_bounds fun s hs => hp.narrowing (.single (by decide) hs)
  refine Assembled.bounds_single ⟨.propertyNames _, .propertyNames _, fun body body' hm hm' => ?_⟩ h h'
  exact (hs _ _ _ hm hm').propertyNames _ _

/-- A keyword beside this one that gives schemas to names. -/
theorem named_bounds (hp : ClosedPlace B B' members upper k p p') {keyword : String}
    (hkeyword : keyword ∈ narrowingMapKeywords) {m : String × Json} (hm : m ∈ p.siblingMembers keyword) :
    ClosingBounds B B' upper m.2 := by
  rw [KeywordPlace.siblingMembers, hp.sibling?_eq] at hm
  cases hlookup : members.lookup keyword with
  | none =>
    rw [hlookup] at hm
    cases hm
  | some v =>
    rw [hlookup] at hm
    cases v with
    | obj ms => exact hp.narrowing (.named hkeyword hlookup hm)
    | _ => cases hm

theorem namedProperties_bounds (hp : ClosedPlace B B' members upper k p p')
    (h : Assembled ((p.siblingMembers "properties").map (p.namedPart B)) nodes)
    (h' : Assembled ((p'.siblingMembers "properties").map (p'.namedPart B')) nodes') :
    AllBound upper nodes nodes' := by
  rw [hp.siblingMembers_closed (by decide) (by decide)] at h'
  refine Assembled.bounds_map (fun m hm => ⟨.descend _, .descend _, fun body body' hb hb' => ?_⟩) h h'
  have hb' : B' m.2.closed _ body' := hb'
  rw [hp.below] at hb'
  exact .descend _ (hp.named_bounds (by decide) hm _ _ _ hb hb')

theorem patternProperties_bounds (hp : ClosedPlace B B' members upper k p p') {patterns : List Regex}
    (h : Assembled (((p.siblingMembers "patternProperties").zip patterns).map (p.patternPart B)) nodes)
    (h' : Assembled (((p'.siblingMembers "patternProperties").zip patterns).map (p'.patternPart B'))
      nodes') : AllBound upper nodes nodes' := by
  rw [hp.siblingMembers_closed (by decide) (by decide), List.zip_map_left] at h'
  refine Assembled.bounds_map (fun m hm => ⟨.properties _, .properties _, fun body body' hb hb' => ?_⟩) h h'
  have hb' : B' m.1.2.closed _ body' := hb'
  rw [hp.below] at hb'
  exact .properties _ (hp.named_bounds (by decide) (List.of_mem_zip hm).1 _ _ _ hb hb')

/-- The names of the patterns stay, and so do the patterns. -/
theorem patterns_eq (hp : ClosedPlace B B' members upper k p p') {patterns patterns' : List Regex}
    (h : List.Forall₂ (fun m r => Regex.parse? m.1 = some r) (p.siblingMembers "patternProperties") patterns)
    (h' : List.Forall₂ (fun m r => Regex.parse? m.1 = some r) (p'.siblingMembers "patternProperties")
      patterns') : patterns' = patterns := by
  rw [hp.siblingMembers_closed (by decide) (by decide), List.forall₂_map_left_iff] at h'
  refine List.right_unique_forall₂' ?_ h' h
  intro m r r' hr hr'
  exact Option.some.inj (hr.symm.trans hr')

/-- **An open object schema is closed by a check that only rejects**, so that it is closed where that
    bounds it. -/
theorem others_bounds (hp : ClosedPlace B B' members upper k p p') {patterns : List Regex}
    (h : p.MakesOthers B patterns nodes) (h' : p'.MakesOthers B' patterns nodes') :
    AllBound upper nodes nodes' := by
  have hfilter : p'.otherMembers patterns = p.otherMembers patterns := by
    unfold KeywordPlace.otherMembers
    rw [hp.siblingMembers_closed (by decide) (by decide), List.map_map]
    rfl
  have hnone : ∀ site site', AllBound upper [.noProperties (p.otherMembers patterns) site]
      [.noProperties (p.otherMembers patterns) site'] := fun site site' =>
    Node.Bounds.single (.of_alike fun _ _ _ => .noProperties _ site site')
  have hclosed : p'.sibling? "additionalProperties" =
      ((members.lookup "additionalProperties").map Json.closed).or
        (if isOpenObjectSchema members then some (.bool false) else none) := by
    rw [KeywordPlace.sibling?, hp.parent', Json.lookup_closedObject,
      closedUnder_of_mem (by decide) (by decide)]
    simp
  unfold KeywordPlace.MakesOthers at h h'
  rw [hp.sibling?_eq] at h
  rw [hclosed, hfilter, hp.below] at h'
  cases hlookup : members.lookup "additionalProperties" with
  | none =>
    rw [hlookup] at h h'
    obtain rfl := h
    cases hopen : isOpenObjectSchema members with
    | false =>
      rw [hopen] at h'
      obtain rfl := h'
      exact .nil
    | true =>
      rw [hopen] at h'
      obtain ⟨text, rfl⟩ := h'
      cases upper with
      | false => rw [hp.opened rfl] at hopen; cases hopen
      | true => exact (hnone (p'.siblingSite "additionalProperties" (.bool false) text) _).nil_left
  | some s =>
    rw [hlookup] at h h'
    have hs := hp.narrowing (.single (by decide) hlookup)
    have hpart : (⟨B s (p.below "additionalProperties" "/\x7bkey\x7d"),
          .properties (p.otherMembers patterns)⟩ : Part).Bounds upper
        ⟨B' s.closed (p.below "additionalProperties" "/\x7bkey\x7d"),
          .properties (p.otherMembers patterns)⟩ :=
      ⟨.properties _, .properties _, fun body body' hb hb' => .properties _ (hs _ _ _ hb hb')⟩
    cases s with
    | bool allowed =>
      rw [Option.map_some, Json.closed_leaf rfl rfl] at h'
      cases allowed with
      | true =>
        obtain rfl := h
        obtain rfl := h'
        exact .nil
      | false =>
        obtain ⟨text, rfl⟩ := h
        obtain ⟨text', rfl⟩ := h'
        exact hnone _ _
    | obj ms =>
      rw [Option.map_some, Json.closed_obj] at h'
      rw [Json.closed_obj] at hpart
      exact Assembled.bounds_single hpart h h'
    | arr items =>
      rw [Option.map_some, Json.closed_arr] at h'
      rw [Json.closed_arr] at hpart
      exact Assembled.bounds_single hpart h h'
    | _ =>
      rw [Option.map_some, Json.closed_leaf rfl rfl] at h'
      rw [Json.closed_leaf rfl rfl] at hpart
      exact Assembled.bounds_single hpart h h'

theorem properties_bounds (hp : ClosedPlace B B' members upper .properties p p')
    (h : p.MakesProperties B nodes) (h' : p'.MakesProperties B' nodes') : AllBound upper nodes nodes' := by
  obtain ⟨-, patterns, named, matched, others, hpatterns, hnamed, hmatched, hothers, rfl⟩ := h
  obtain ⟨-, patterns', named', matched', others', hpatterns', hnamed', hmatched', hothers', rfl⟩ := h'
  obtain rfl := hp.patterns_eq hpatterns hpatterns'
  exact ((hp.namedProperties_bounds hnamed hnamed').append
    (hp.patternProperties_bounds hmatched hmatched')).append (hp.others_bounds hothers hothers')

/-! ### Combinations of schemas -/

theorem branches_bounds (hp : ClosedPlace B B' members upper k p p') {T : Node → Node → Prop}
    (hlist : k.name ∉ schemaMapKeywords ∧ k.name ∈ schemaKeywords ∧ k.name ≠ "additionalProperties")
    (hT : ∀ ss, members.lookup k.name = some (.arr ss) → ∀ s ∈ ss, ∀ position n n', B s position n →
      B' s.closed position n' → T n n') (h : p.MakesBranches B nodes) (h' : p'.MakesBranches B' nodes') :
    List.Forall₂ T nodes nodes' := by
  obtain ⟨-, h⟩ := h
  obtain ⟨-, h'⟩ := h'
  rw [hp.schema_closed hlist.1 hlist.2.1 hlist.2.2, Json.closed_arr?, List.zipIdx_map,
    List.forall₂_map_left_iff] at h'
  refine forall₂_of_both h h' fun m hm n n' hn hn' => ?_
  have hn' : B' m.1.closed _ n' := hn'
  rw [hp.keyword, hp.inside] at hn'
  cases hschema : p.schema with
  | arr ss =>
    rw [hschema] at hm
    have hmem : m.1 ∈ ss := List.mem_of_getElem? (List.mem_zipIdx_iff_getElem?.mp hm)
    exact hT ss (hp.lookup_of_schema hschema nofun) _ hmem _ _ _ hn hn'
  | _ =>
    rw [hschema] at hm
    cases hm

/-- A single schema beside the keyword. -/
theorem sibling?_single (hp : ClosedPlace B B' members upper k p p') {keyword : String}
    (hmap : keyword ∉ schemaMapKeywords) (hkeyword : keyword ∈ schemaKeywords)
    (hne : keyword ≠ "additionalProperties") :
    p'.sibling? keyword = (members.lookup keyword).map Json.closed := by
  rw [hp.sibling?_closed hne, closedUnder_of_mem hmap hkeyword]

/-- An `if` that has an effect in the closed schema has one in the schema. -/
theorem isCondition (hp : ClosedPlace B B' members upper .ifThenElse p p') :
    p'.IsCondition ↔ p.IsCondition := by
  unfold KeywordPlace.IsCondition
  rw [hp.sibling?_single (by decide) (by decide) (by decide),
    hp.sibling?_single (by decide) (by decide) (by decide), hp.sibling?_eq, hp.sibling?_eq,
    hp.schema_closed (by decide) (by decide) (by decide), Option.isSome_map, Option.isSome_map]
  refine and_congr_left fun _ => not_congr ?_
  cases p.schema with
  | obj ms => rw [Json.closed_obj]; simp
  | arr items => rw [Json.closed_arr]; simp
  | _ => rw [Json.closed_leaf rfl rfl]

/-- A branch of `if`; one that is missing always passes. -/
theorem branch_bounds (hp : ClosedPlace B B' members upper k p p') {keyword : String}
    (hkeyword : keyword = "then" ∨ keyword = "else") {n n' : Node} (h : p.MakesBranch B keyword n)
    (h' : p'.MakesBranch B' keyword n') :
    n.Bounds upper n' ∧ (members.lookup keyword = none → n = .pass ∧ n' = .pass) := by
  have hclosed : p'.sibling? keyword = (members.lookup keyword).map Json.closed := by
    rcases hkeyword with rfl | rfl <;> exact hp.sibling?_single (by decide) (by decide) (by decide)
  have hnarrowing : keyword ∈ narrowingKeywords := by
    rcases hkeyword with rfl | rfl <;> decide
  unfold KeywordPlace.MakesBranch at h h'
  rw [hp.sibling?_eq] at h
  rw [hclosed, hp.inside] at h'
  cases hlookup : members.lookup keyword with
  | none =>
    rw [hlookup] at h h'
    obtain rfl := h
    obtain rfl := h'
    exact ⟨.of_alike fun _ _ _ => .pass, fun _ => ⟨rfl, rfl⟩⟩
  | some s =>
    rw [hlookup] at h h'
    exact ⟨hp.narrowing (.single hnarrowing hlookup) _ _ _ h h', nofun⟩

theorem ifThenElse_bounds (hp : ClosedPlace B B' members upper .ifThenElse p p')
    (h : p.MakesIfThenElse B nodes) (h' : p'.MakesIfThenElse B' nodes') : AllBound upper nodes nodes' := by
  rcases h.cases with ⟨rfl, hidle⟩ | ⟨hcondition, c, t, e, text, hc, ht, he, rfl⟩
  · rcases h'.cases with ⟨rfl, -⟩ | ⟨hcondition', -⟩
    · exact .nil
    · exact absurd (hp.isCondition.mp hcondition') hidle
  · rcases h'.cases with ⟨-, hidle'⟩ | ⟨-, c', t', e', text', hc', ht', he', rfl⟩
    · exact absurd (hp.isCondition.mpr hcondition) hidle'
    obtain ⟨hnull, hbranches⟩ := hcondition
    rw [hp.sibling?_eq, hp.sibling?_eq] at hbranches
    have hif := hp.lookup_of_schema rfl hnull
    rw [hp.schema_closed (by decide) (by decide) (by decide), hp.inside] at hc'
    obtain ⟨hthen, hthen'⟩ := hp.branch_bounds (.inl rfl) ht ht'
    obtain ⟨helse, helse'⟩ := hp.branch_bounds (.inr rfl) he he'
    -- the condition is bounded for the sake of the branches that there are
    have hwiden : (members.lookup "then").isSome → Node.Bounds (!upper) c c' := fun hsome =>
      hp.widening (.beforeThen hif hsome) _ _ _ hc hc'
    have hnarrow : (members.lookup "else").isSome → Node.Bounds upper c c' := fun hsome =>
      hp.narrowing (.beforeElse hif hsome) _ _ _ hc hc'
    refine (Node.Bounds.ifThenElse _ _ ?_ ?_ ?_ hthen helse).single
    · exact hbranches.elim (fun h => ⟨_, hwiden h⟩) fun h => ⟨_, hnarrow h⟩
    · cases hlookup : members.lookup "then" with
      | none => exact .inr (hthen' hlookup)
      | some s => exact .inl (hwiden (by rw [hlookup]; rfl))
    · cases hlookup : members.lookup "else" with
      | none => exact .inr (helse' hlookup)
      | some s => exact .inl (hnarrow (by rw [hlookup]; rfl))

/-! ### Every keyword -/

/-- **What a keyword with subschemas contributes bounds what it contributes to the closed schema.** -/
theorem applicator_bounds (hp : ClosedPlace B B' members upper k p p') (hk : k.isAssertion = false)
    (href : k ≠ .ref) {R R' : String → Nat → Prop} (h : p.Makes B R k nodes)
    (h' : p'.Makes B' R' k nodes') : AllBound upper nodes nodes' := by
  cases k with
  | items => exact hp.items_bounds h h'
  | contains => exact hp.contains_bounds h h'
  | dependencies => exact hp.dependencies_bounds h h'
  | propertyNames => exact hp.propertyNames_bounds h h'
  | properties => exact hp.properties_bounds h h'
  | not =>
    obtain ⟨body, text, hbody, rfl⟩ := h
    obtain ⟨body', text', hbody', rfl⟩ := h'
    rw [hp.schema_closed (by decide) (by decide) (by decide), hp.inside] at hbody'
    have hs := hp.schema_bounds fun s hs => hp.widening (.negated hs)
    exact ((hs _ _ _ hbody hbody').not _ _).single
  | anyOf =>
    obtain ⟨branches, text, hbranches, rfl⟩ := h
    obtain ⟨branches', text', hbranches', rfl⟩ := h'
    refine (Node.Bounds.anyOf _ _ (hp.branches_bounds (by decide) ?_ hbranches hbranches')).single
    exact fun ss hss s hs => hp.narrowing (.listed (by decide) hss hs)
  | allOf =>
    refine .of_forall₂ (hp.branches_bounds (by decide) ?_ h h')
    exact fun ss hss s hs => hp.narrowing (.listed (by decide) hss hs)
  | oneOf =>
    obtain ⟨branches, text, hbranches, rfl⟩ := h
    obtain ⟨branches', text', hbranches', rfl⟩ := h'
    refine (Node.Bounds.oneOf _ _ (hp.branches_bounds (by decide) ?_ hbranches hbranches')).single
    exact fun ss hss s hs position n n' hn hn' side =>
      hp.both (fun sign => .either hss hs) side position n n' hn hn'
  | ifThenElse => exact hp.ifThenElse_bounds h h'
  | ref => exact absurd rfl href
  | _ => cases hk

end ClosedPlace

end JsonSchema
