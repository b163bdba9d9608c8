import JsonSchema.Proofs.Evaluation.Interchange
import JsonSchema.Proofs.Lowering.Contributions
import JsonSchema.Proofs.Lowering.Pairing
import JsonSchema.Store.StrictMode

/-!
# Keywords in schemas that are rewritten

A rewriting changes the schemas inside a schema and leaves all other values as they are (`Rewriting`).
**A keyword contributes the same before and after if its subschemas are lowered to the same**
(`KeywordPlace.builtin_rewritten`).  What it means to be the same is a relation between nodes that goes along
with all that keywords build of nodes (`Node.Congruence`).

This is the one pass over the keywords for statements about two runs, whatever is said of them: that
they refuse alike, that the one succeeds where the other does, or that they do the same.  The right run
may stand under another registry, among other documents, at another base and deeper in the data
(`KeywordPlace.elsewhere`).
-/

set_option autoImplicit false

namespace JsonSchema

/-! ## Schemas -/

/-- A change of schemas that goes through the values of keywords to the schemas in them.  Only objects
    change, and they stay objects. -/
structure Rewriting where
  /-- What a schema becomes. -/
  schema : Json → Json
  /-- What the value of a keyword becomes. -/
  value : String → Json → Json
  object : ∀ members, ∃ members', schema (.obj members) = .obj members'
  other : ∀ {v : Json}, v.obj? = none → schema v = v
  single : ∀ {keyword : String} {v : Json}, keyword ∈ schemaKeywords → v.arr? = none →
    value keyword v = schema v
  listed : ∀ {keyword : String}, keyword ∈ schemaKeywords → ∀ schemas,
    value keyword (.arr schemas) = .arr (schemas.map schema)
  named : ∀ {keyword : String}, keyword ∈ schemaMapKeywords → ∀ members,
    value keyword (.obj members) = .obj (members.map fun m => (m.1, schema m.2))
  unnamed : ∀ {keyword : String} {v : Json}, keyword ∈ schemaMapKeywords → v.obj? = none →
    value keyword v = v
  data : ∀ {keyword : String}, keyword ∉ schemaMapKeywords → keyword ∉ schemaKeywords → ∀ v,
    value keyword v = v

namespace Rewriting

/-- The change that changes nothing. -/
def unchanged : Rewriting where
  schema v := v
  value _ v := v
  object members := ⟨members, rfl⟩
  other _ := rfl
  single _ _ := rfl
  listed _ ss := by rw [List.map_id']
  named _ members := congrArg Json.obj (List.map_id' members).symm
  unnamed _ _ := rfl
  data _ _ _ := rfl

variable (W : Rewriting)

/-- The schemas that a keyword gives to names. -/
theorem members_value {keyword : String} (hmap : keyword ∈ schemaMapKeywords) (v : Json) :
    (W.value keyword v).obj?.getD [] = (v.obj?.getD []).map fun m => (m.1, W.schema m.2) := by
  cases v with
  | obj members =>
    rw [W.named hmap]
    rfl
  | _ =>
    rw [W.unnamed hmap rfl]
    rfl

/-- An object stays an object and a list a list, and all else stays as it is. -/
theorem value_cases (keyword : String) (v : Json) :
    (∃ ms ms', v = .obj ms ∧ W.value keyword v = .obj ms') ∨
      (∃ ss ss', v = .arr ss ∧ W.value keyword v = .arr ss') ∨ W.value keyword v = v := by
  by_cases hmap : keyword ∈ schemaMapKeywords
  · cases v with
    | obj ms => exact .inl ⟨ms, _, rfl, W.named hmap ms⟩
    | _ => exact .inr (.inr (W.unnamed hmap rfl))
  · by_cases hkeyword : keyword ∈ schemaKeywords
    · cases v with
      | obj ms =>
        obtain ⟨ms', hms'⟩ := W.object ms
        exact .inl ⟨ms, ms', rfl, (W.single hkeyword rfl).trans hms'⟩
      | arr ss => exact .inr (.inl ⟨ss, _, rfl, W.listed hkeyword ss⟩)
      | _ => exact .inr (.inr ((W.single hkeyword rfl).trans (W.other rfl)))
    · exact .inr (.inr (W.data hmap hkeyword v))

theorem value_bool? (keyword : String) (v : Json) : (W.value keyword v).bool? = v.bool? := by
  rcases W.value_cases keyword v with ⟨_, _, rfl, h⟩ | ⟨_, _, rfl, h⟩ | h <;> rw [h] <;> rfl

theorem value_isObj (keyword : String) (v : Json) : (W.value keyword v).obj?.isSome = v.obj?.isSome := by
  rcases W.value_cases keyword v with ⟨_, _, rfl, h⟩ | ⟨_, _, rfl, h⟩ | h <;> rw [h] <;> rfl

theorem value_isArr (keyword : String) (v : Json) : (W.value keyword v).arr?.isSome = v.arr?.isSome := by
  rcases W.value_cases keyword v with ⟨_, _, rfl, h⟩ | ⟨_, _, rfl, h⟩ | h <;> rw [h] <;> rfl

theorem value_accepts (keyword : String) (v : Json) (type : DataType) :
    type.accepts (W.value keyword v) = type.accepts v := by
  rcases W.value_cases keyword v with ⟨_, _, rfl, h⟩ | ⟨_, _, rfl, h⟩ | h <;> rw [h] <;> cases type <;> rfl

/-- The second value stands where the first did, as a schema or as the value of a keyword. -/
def StandsFor (s s' : Json) : Prop := s' = W.schema s ∨ ∃ keyword ∈ schemaKeywords, s' = W.value keyword s

/-- A list stands for a list, and for all else what it becomes as a schema. -/
theorem StandsFor.schema_or_list {s s' : Json} (h : W.StandsFor s s') :
    s' = W.schema s ∨ (s.arr?.isSome = true ∧ s'.arr?.isSome = true) := by
  rcases h with h | ⟨keyword, hkeyword, rfl⟩
  · exact .inl h
  · cases harr : s.arr? with
    | none => exact .inl (W.single hkeyword harr)
    | some ss =>
      have hs : s.arr?.isSome = true := by rw [harr]; rfl
      exact .inr ⟨rfl, (W.value_isArr keyword s).trans hs⟩

end Rewriting

/-- The sites that differ only in the value of their keyword are related where what they report does not
    show the value. -/
def Rewriting.Keeps (W : Rewriting) (S : ErrorSite → ErrorSite → Prop) : Prop :=
  ∀ (site : ErrorSite) (keyword : String),
    (∀ v v' data, site.text.params v' data = site.text.params v data ∧
      site.text.message v' data = site.text.message v data) →
    S site { site with schema := W.value keyword site.schema }

/-- Two ways of lowering compare on a schema and on what it becomes: on the right references have another
    base, and the data has been entered another number of times before. -/
def Pairing.OnRewritten (P : Pairing) (R : Node → Node → Prop) (W : Rewriting) (lower lower' : Lower)
    (p : Position) (base' : Uri) (descents' deeper : Nat) (s : Json) : Prop :=
  ∀ s', W.StandsFor s s' → ∀ position : Position, position.base = p.base →
    position.descents = p.descents + deeper →
    P.Runs R (lower s position) (lower' s' (position.moved base' (descents' + deeper)))

/-! ## Keywords -/

/-- What stands around a body is left out on both sides or on none. -/
theorem Node.Congruence.unlessPass {R : Node → Node → Prop} {S : ErrorSite → ErrorSite → Prop}
    (C : Node.Congruence R S) {n n' : Node} {around around' : Node → Node} (h : R n n')
    (haround : R (around n) (around' n')) :
    List.Forall₂ R (JsonSchema.unlessPass n around) (JsonSchema.unlessPass n' around') := by
  unfold JsonSchema.unlessPass
  rw [C.isPass h]
  split
  · exact .nil
  · exact .cons haround .nil

namespace KeywordPlace

/-- The schemas that a keyword applies to the data or to a part of it. -/
def Applies (p : KeywordPlace) (k : BuiltinKeyword) (s : Json) : Prop :=
  match k with
  | .items =>
    (p.schema = s ∧ s ≠ .null) ∨ (∃ ss, p.schema = .arr ss ∧ s ∈ ss) ∨
      p.sibling? "additionalItems" = some s
  | .contains | .propertyNames | .not => p.schema = s
  | .dependencies => ∃ ms, p.schema = .obj ms ∧ ∃ m ∈ ms, m.2 = s
  | .properties =>
    (∃ keyword, keyword ∈ ["properties", "patternProperties"] ∧
      ∃ ms, p.sibling? keyword = some (.obj ms) ∧ ∃ m ∈ ms, m.2 = s) ∨
      p.sibling? "additionalProperties" = some s
  | .anyOf | .oneOf | .allOf => ∃ ss, p.schema = .arr ss ∧ s ∈ ss
  | .ifThenElse => (p.schema = s ∧ s ≠ .null) ∨ p.sibling? "then" = some s ∨ p.sibling? "else" = some s
  | _ => False

/-- The same place under another registry and among other documents, at another base and elsewhere in the
    data. -/
def elsewhere (p : KeywordPlace) (registry : Registry) (documents : Documents) (base : Uri)
    (descents : Nat) : KeywordPlace :=
  { p with env := { p.env with registry, documents }, position := p.position.moved base descents }

/-- The same place in the rewritten schema, with other members around; the value is that of the given
    keyword. -/
def rewritten (p : KeywordPlace) (W : Rewriting) (keyword : String) (parent : List (String × Json)) :
    KeywordPlace :=
  { p with parent, schema := W.value keyword p.schema }

open Pairing

section

variable {P : Pairing} {R : Node → Node → Prop} {S : ErrorSite → ErrorSite → Prop} {W : Rewriting}
  {lower lower' : Lower} {p : KeywordPlace} {own : String} {parent : List (String × Json)}
  {registry : Registry} {documents : Documents} {base' : Uri} {descents' : Nat}
  (C : Node.Congruence R S)

/-- What a keyword beside becomes. -/
theorem sibling?_rewritten {keyword : String}
    (hkeyword : parent.lookup keyword = (p.parent.lookup keyword).map (W.value keyword)) :
    ((p.rewritten W own parent).elsewhere registry documents base' descents').sibling? keyword =
      (p.sibling? keyword).map (W.value keyword) := hkeyword

theorem fixed_rewritten (hS : W.Keeps S) (message : String) (params : Json) :
    S (p.site (.fixed message params))
      (((p.rewritten W own parent).elsewhere registry documents base' descents').site
        (.fixed message params)) :=
  hS (p.site (.fixed message params)) own fun _ _ _ => ⟨rfl, rfl⟩

/-- What a keyword beside has become is among what stands for it. -/
theorem value_standsFor {keyword : String} (hkeyword : keyword ∈ schemaKeywords) (v : Json) :
    W.StandsFor v (W.value keyword v) := .inr ⟨keyword, hkeyword, rfl⟩

include C

/-- One part of a contribution. -/
theorem part_rewritten {s s' : Json} {position position' : Position} {around around' : Node → Node}
    (h : P.Runs R (lower s position) (lower' s' position'))
    (haround : ∀ n n', R n n' → R (around n) (around' n')) :
    P.Runs (List.Forall₂ R) (do let body ← lower s position; return unlessPass body around)
      (do let body ← lower' s' position'; return unlessPass body around') :=
  P.bind h fun _ _ hbody => P.pure (C.unlessPass hbody (haround _ _ hbody))

/-! ### Arrays -/

theorem tupleItems_rewritten (tuple : List Json) : ∀ start,
    (∀ s ∈ tuple, P.OnRewritten R W lower lower' p.position base' descents' 1 s) →
    P.Runs (List.Forall₂ R) (p.tupleItems lower start tuple)
      (((p.rewritten W own parent).elsewhere registry documents base' descents').tupleItems lower' start
        (tuple.map W.schema)) := by
  induction tuple with
  | nil => exact fun _ _ => P.pure .nil
  | cons s rest ih =>
    intro start h
    obtain ⟨hs, hrest⟩ := List.forall_mem_cons.mp h
    refine P.bind (hs _ (.inl rfl) _ rfl rfl) fun body body' hbody => ?_
    refine P.bind (ih (start + 1) hrest) fun others others' hothers => P.pure ?_
    exact List.rel_append (C.unlessPass hbody (C.descend hbody _)) hothers

theorem elementsFrom_rewritten {keyword : String} {start : Nat} {s s' : Json}
    (h : P.OnRewritten R W lower lower' p.position base' descents' 1 s) (hs : W.StandsFor s s') :
    P.Runs (List.Forall₂ R) (p.elementsFrom lower keyword start s)
      (((p.rewritten W own parent).elsewhere registry documents base' descents').elementsFrom lower' keyword
        start s') :=
  part_rewritten C (h s' hs _ rfl rfl) fun _ _ hbody => C.items hbody start

/-- The items after a tuple, with what is done with them. -/
theorem additionalItems_rewritten {start : Nat} {g g' : List Node → LowerM (List Node)}
    (hsibling : parent.lookup "additionalItems" =
      (p.parent.lookup "additionalItems").map (W.value "additionalItems"))
    (h : ∀ s, p.sibling? "additionalItems" = some s →
      P.OnRewritten R W lower lower' p.position base' descents' 1 s)
    (hg : ∀ others others', List.Forall₂ R others others' →
      P.Runs (List.Forall₂ R) (g others) (g' others')) :
    P.Runs (List.Forall₂ R)
      (match p.sibling? "additionalItems" with
        | some (.obj members) => p.elementsFrom lower "additionalItems" start (.obj members) >>= g
        | _ => pure [] >>= g)
      (match ((p.rewritten W own parent).elsewhere registry documents base' descents').sibling?
          "additionalItems" with
        | some (.obj members) =>
          ((p.rewritten W own parent).elsewhere registry documents base' descents').elementsFrom lower'
            "additionalItems" start (.obj members) >>= g'
        | _ => pure [] >>= g') := by
  rw [sibling?_rewritten hsibling]
  cases hfound : p.sibling? "additionalItems" with
  | none => exact P.bind (P.pure .nil) hg
  | some additional =>
    have hvalue : W.StandsFor additional (W.value "additionalItems" additional) :=
      .inr ⟨"additionalItems", by decide, rfl⟩
    rw [Option.map_some]
    rcases W.value_cases "additionalItems" additional with
      ⟨ms, ms', rfl, hchanged⟩ | ⟨ss, ss', rfl, hchanged⟩ | hsame
    · rw [hchanged] at hvalue ⊢
      exact P.bind (elementsFrom_rewritten C (h _ hfound) hvalue) hg
    · rw [hchanged]
      exact P.bind (P.pure .nil) hg
    · rw [hsame] at hvalue ⊢
      cases additional with
      | obj members => exact P.bind (elementsFrom_rewritten C (h _ hfound) hvalue) hg
      | _ => exact P.bind (P.pure .nil) hg

theorem items_rewritten
    (hsibling : parent.lookup "additionalItems" =
      (p.parent.lookup "additionalItems").map (W.value "additionalItems"))
    (h : ∀ s, p.Applies .items s → P.OnRewritten R W lower lower' p.position base' descents' 1 s) :
    P.Runs (List.Forall₂ R) (p.items lower)
      (((p.rewritten W "items" parent).elsewhere registry documents base' descents').items lower') := by
  have hany : ∀ test : Json → Bool, (∀ a, test (W.value "additionalItems" a) = test a) →
      (((p.rewritten W "items" parent).elsewhere registry documents base' descents').sibling?
        "additionalItems").any test = (p.sibling? "additionalItems").any test := by
    intro test htest
    rw [sibling?_rewritten hsibling, Option.any_map]
    exact congrArg (Option.any · _) (funext htest)
  have hrefused := hany (fun a => a.bool?.isNone && a.obj?.isNone) fun a => by
    simp only [← Option.not_isSome, W.value_bool?, W.value_isObj]
  have hclosed := hany (·.bool? == some false) fun a => by rw [W.value_bool?]
  unfold items
  dsimp only
  rw [hrefused, hclosed, show ((p.rewritten W "items" parent).elsewhere registry documents base'
    descents').schema = W.value "items" p.schema from rfl]
  refine Pairing.guarded ?_
  cases hschema : p.schema with
  | null =>
    rw [W.single (by decide) rfl, W.other rfl]
    exact P.pure .nil
  | arr tuple =>
    rw [W.listed (by decide)]
    dsimp only
    refine P.bind (tupleItems_rewritten C tuple 0 fun s hs => h s (.inr (.inl ⟨tuple, hschema, hs⟩))) ?_
    intro fixed fixed' hfixed
    rw [List.length_map]
    refine additionalItems_rewritten C hsibling (fun s hs => h s (.inr (.inr hs))) fun _ _ hothers => ?_
    refine P.pure (List.rel_append (List.rel_append ?_ hfixed) hothers)
    split
    · exact .cons (C.constant fun _ => rfl) .nil
    · exact .nil
  | obj members =>
    have hvalue : W.StandsFor (.obj members) (W.value "items" (.obj members)) :=
      .inr ⟨"items", by decide, rfl⟩
    obtain ⟨members', hchanged⟩ := W.object members
    rw [W.single (by decide) rfl, hchanged] at hvalue ⊢
    exact elementsFrom_rewritten C (h _ (.inl ⟨hschema, nofun⟩)) hvalue
  | _ =>
    rw [W.single (by decide) rfl, W.other rfl]
    exact elementsFrom_rewritten C (h _ (.inl ⟨hschema, nofun⟩)) (.inl (W.other rfl).symm)

theorem contains_rewritten (hS : W.Keeps S)
    (h : P.OnRewritten R W lower lower' p.position base' descents' 1 p.schema) :
    P.Runs (List.Forall₂ R) (p.contains lower)
      (((p.rewritten W "contains" parent).elsewhere registry documents base' descents').contains lower') :=
  P.bind (h _ (value_standsFor (by decide) p.schema) _ rfl rfl) fun _ _ hbody =>
    P.pure (.cons (C.contains hbody (fixed_rewritten hS _ _)) .nil)

/-! ### Objects -/

omit C in
theorem neededProperties_renumber {f : Nat → Nat} {property : String} {names : Json} {nodes : List Node}
    (h : p.neededProperties property names = .ok nodes) : ∀ n ∈ nodes, n.renumber f = n := by
  obtain ⟨needed, text, -, rfl⟩ := neededProperties_cases h
  exact forall_mem_dataChecks fun _ => rfl

/-- A list of names stays as it is, and what it needs shows nothing else. -/
theorem dependency_rewritten {property : String} {needs : Json}
    (h : P.OnRewritten R W lower lower' p.position base' descents' 0 needs) :
    P.Runs R (p.dependency lower property needs)
      (((p.rewritten W own parent).elsewhere registry documents base' descents').dependency lower' property
        (W.schema needs)) := by
  cases needs with
  | arr names =>
    rw [W.other rfl]
    refine P.bind (liftedAs (R := List.Forall₂ R) fun checks hchecks => ?_) fun _ _ hchecks =>
      P.pure (C.conj hchecks)
    exact C.constants fun n hn f => neededProperties_renumber hchecks n hn
  | obj members =>
    have hvalue : W.StandsFor (.obj members) (W.schema (.obj members)) := .inl rfl
    obtain ⟨members', hchanged⟩ := W.object members
    rw [hchanged] at hvalue ⊢
    exact h _ hvalue _ rfl rfl
  | _ =>
    rw [W.other rfl]
    exact h _ (.inl (W.other rfl).symm) _ rfl rfl

theorem dependencies_rewritten
    (h : ∀ s, p.Applies .dependencies s → P.OnRewritten R W lower lower' p.position base' descents' 0 s) :
    P.Runs (List.Forall₂ R) (p.dependencies lower)
      (((p.rewritten W "dependencies" parent).elsewhere registry documents base' descents').dependencies
        lower') := by
  have hone : ∀ m ∈ p.schema.obj?.getD [],
      P.OnRewritten R W lower lower' p.position base' descents' 0 m.2 := by
    intro m hm
    cases hschema : p.schema with
    | obj ms =>
      rw [hschema] at hm
      exact h m.2 ⟨ms, hschema, m, hm, rfl⟩
    | _ =>
      rw [hschema] at hm
      cases hm
  unfold dependencies
  rw [show ((p.rewritten W "dependencies" parent).elsewhere registry documents base' descents').schema =
    W.value "dependencies" p.schema from rfl, W.members_value (by decide), List.mapM_map]
  refine P.bind (Pairing.mapM fun m hm => ?_) fun _ _ hnodes => P.pure (List.rel_flatten hnodes)
  exact P.bind (dependency_rewritten C (hone m hm)) fun _ _ hbody =>
    P.pure (C.unlessPass hbody (C.ifPresent hbody _))

theorem nameSchema_rewritten (hS : W.Keeps S)
    (h : P.OnRewritten R W lower lower' p.position base' descents' 1 p.schema) :
    P.Runs (List.Forall₂ R) (p.nameSchema lower)
      (((p.rewritten W "propertyNames" parent).elsewhere registry documents base' descents').nameSchema
        lower') :=
  part_rewritten C (h _ (value_standsFor (by decide) p.schema) _ rfl rfl) fun _ _ hbody =>
    C.propertyNames hbody (hS (p.site _) "propertyNames" fun _ _ _ => ⟨rfl, rfl⟩)

omit C in
theorem mem_siblingMembers {keyword : String} {m : String × Json} (h : m ∈ p.siblingMembers keyword) :
    ∃ ms, p.sibling? keyword = some (.obj ms) ∧ m ∈ ms := by
  unfold siblingMembers at h
  cases hs : p.sibling? keyword with
  | none => simp [hs] at h
  | some s =>
    cases s with
    | obj ms => exact ⟨ms, rfl, by simpa [hs, Json.obj?] using h⟩
    | _ => simp [hs, Json.obj?] at h

omit C in
theorem siblingMembers_rewritten {keyword : String} (hmap : keyword ∈ schemaMapKeywords)
    (hsibling : parent.lookup keyword = (p.parent.lookup keyword).map (W.value keyword)) :
    ((p.rewritten W own parent).elsewhere registry documents base' descents').siblingMembers keyword =
      (p.siblingMembers keyword).map fun m => (m.1, W.schema m.2) := by
  unfold siblingMembers
  rw [sibling?_rewritten hsibling]
  cases p.sibling? keyword with
  | none => rfl
  | some v => exact W.members_value hmap v

theorem namedProperties_rewritten
    (hsibling : parent.lookup "properties" = (p.parent.lookup "properties").map (W.value "properties"))
    (h : ∀ m ∈ p.siblingMembers "properties",
      P.OnRewritten R W lower lower' p.position base' descents' 1 m.2) :
    P.Runs (List.Forall₂ R) (p.namedProperties lower)
      (((p.rewritten W own parent).elsewhere registry documents base' descents').namedProperties
        lower') := by
  unfold namedProperties
  rw [siblingMembers_rewritten (by decide) hsibling, List.mapM_map]
  refine P.bind (Pairing.mapM fun m hm => ?_) fun _ _ hnodes => P.pure (List.rel_flatten hnodes)
  exact part_rewritten C (h m hm _ (.inl rfl) _ rfl rfl) fun _ _ hbody => C.descend hbody _

theorem patternProperties_rewritten
    (hsibling : parent.lookup "patternProperties" =
      (p.parent.lookup "patternProperties").map (W.value "patternProperties"))
    (h : ∀ m ∈ p.siblingMembers "patternProperties",
      P.OnRewritten R W lower lower' p.position base' descents' 1 m.2) :
    P.Runs (fun made made' => List.Forall₂ R made.1 made'.1 ∧ made'.2 = made.2) (p.patternProperties lower)
      (((p.rewritten W own parent).elsewhere registry documents base' descents').patternProperties
        lower') := by
  unfold patternProperties
  rw [siblingMembers_rewritten (by decide) hsibling, List.mapM_map]
  refine P.bind (Pairing.mapM (R := fun made made' => List.Forall₂ R made.1 made'.1 ∧ made'.2 = made.2)
    fun m hm => ?_) fun compiled compiled' hcompiled => P.pure ?_
  · dsimp only [Function.comp_apply]
    cases Regex.parse? m.1 with
    | none => exact refused _
    | some r =>
      refine P.bind (h m hm _ (.inl rfl) _ rfl rfl) fun body body' hbody => P.pure ⟨?_, rfl⟩
      exact C.unlessPass hbody (C.properties hbody _)
  · induction hcompiled with
    | nil => exact ⟨.nil, rfl⟩
    | cons hmade _ ih => exact ⟨List.rel_append hmade.1 ih.1, congrArg₂ List.cons hmade.2 ih.2⟩

theorem additionalProperties_rewritten {patterns : List Regex}
    (hproperties : parent.lookup "properties" = (p.parent.lookup "properties").map (W.value "properties"))
    (hadditional : parent.lookup "additionalProperties" =
      (p.parent.lookup "additionalProperties").map (W.value "additionalProperties"))
    (h : ∀ s, p.sibling? "additionalProperties" = some s →
      P.OnRewritten R W lower lower' p.position base' descents' 1 s) :
    P.Runs (List.Forall₂ R) (p.additionalProperties lower patterns)
      (((p.rewritten W own parent).elsewhere registry documents base' descents').additionalProperties lower'
        patterns) := by
  have hnames : (((p.rewritten W own parent).elsewhere registry documents base' descents').siblingMembers
      "properties").map Prod.fst = (p.siblingMembers "properties").map Prod.fst := by
    rw [siblingMembers_rewritten (by decide) hproperties, List.map_map]
    rfl
  unfold additionalProperties
  dsimp only
  rw [hnames, sibling?_rewritten hadditional]
  cases hfound : p.sibling? "additionalProperties" with
  | none => exact P.pure .nil
  | some additional =>
    have hvalue : W.StandsFor additional (W.value "additionalProperties" additional) :=
      value_standsFor (by decide) additional
    have hpart : ∀ s', W.StandsFor additional s' → P.Runs (List.Forall₂ R) _ _ := fun s' hs' =>
      part_rewritten C (h _ hfound s' hs' (p.below "additionalProperties" "/\x7bkey\x7d") rfl rfl)
        fun _ _ hbody => C.properties hbody
          (.additional ((p.siblingMembers "properties").map Prod.fst) patterns)
    rw [Option.map_some]
    rcases W.value_cases "additionalProperties" additional with
      ⟨ms, ms', rfl, hchanged⟩ | ⟨ss, ss', rfl, hchanged⟩ | hsame
    · rw [hchanged] at hvalue ⊢
      exact hpart _ hvalue
    · rw [hchanged] at hvalue ⊢
      exact hpart _ hvalue
    · rw [hsame] at hvalue ⊢
      cases additional with
      | bool allowed =>
        cases allowed with
        | true => exact P.pure .nil
        | false => exact P.pure (.cons (C.constant fun _ => rfl) .nil)
      | _ => exact hpart _ hvalue

theorem properties_rewritten
    (hsiblings : ∀ name ∈ BuiltinKeyword.properties.name :: BuiltinKeyword.properties.implements,
      parent.lookup name = (p.parent.lookup name).map (W.value name))
    (h : ∀ s, p.Applies .properties s → P.OnRewritten R W lower lower' p.position base' descents' 1 s) :
    P.Runs (List.Forall₂ R) (p.properties lower)
      (((p.rewritten W own parent).elsewhere registry documents base' descents').properties lower') := by
  have hmember : ∀ keyword ∈ ["properties", "patternProperties"], ∀ m ∈ p.siblingMembers keyword,
      P.OnRewritten R W lower lower' p.position base' descents' 1 m.2 := by
    intro keyword hkeyword m hm
    obtain ⟨ms, hms, hmem⟩ := mem_siblingMembers hm
    exact h m.2 (.inl ⟨keyword, hkeyword, ms, hms, m, hmem, rfl⟩)
  have hproperties := hsiblings "properties" (by decide)
  have hpatterns := hsiblings "patternProperties" (by decide)
  have hadditional := hsiblings "additionalProperties" (by decide)
  have hrefused : (((p.rewritten W own parent).elsewhere registry documents base' descents').sibling?
      "patternProperties").any (·.obj?.isNone) = (p.sibling? "patternProperties").any (·.obj?.isNone) := by
    rw [sibling?_rewritten hpatterns, Option.any_map]
    refine congrArg (Option.any · _) (funext fun v => ?_)
    simp only [← Option.not_isSome, W.value_isObj]
  unfold properties
  rw [hrefused]
  refine Pairing.guarded ?_
  refine P.bind (namedProperties_rewritten C hproperties (hmember _ (by decide))) fun _ _ hnamed => ?_
  refine P.bind (patternProperties_rewritten C hpatterns (hmember _ (by decide))) fun made made' hmade => ?_
  obtain ⟨matched, patterns⟩ := made
  obtain ⟨matched', patterns'⟩ := made'
  obtain ⟨hmatched, rfl⟩ : List.Forall₂ R matched matched' ∧ patterns' = patterns := hmade
  refine P.bind (additionalProperties_rewritten C hproperties hadditional fun s hs => h s (.inr hs))
    fun others others' hothers => ?_
  exact P.pure (List.rel_append (List.rel_append hnamed hmatched) hothers)

/-! ### Combinations of schemas -/

omit C in
theorem branchesFrom_rewritten (ss : List Json) : ∀ start,
    (∀ s ∈ ss, P.OnRewritten R W lower lower' p.position base' descents' 0 s) →
    P.Runs (List.Forall₂ R) (p.branchesFrom lower start ss)
      (((p.rewritten W own parent).elsewhere registry documents base' descents').branchesFrom lower' start
        (ss.map W.schema)) := by
  induction ss with
  | nil => exact fun _ _ => P.pure .nil
  | cons s rest ih =>
    intro start h
    obtain ⟨hs, hrest⟩ := List.forall_mem_cons.mp h
    refine P.bind (hs _ (.inl rfl) _ rfl rfl) fun body body' hbody => ?_
    exact P.bind (ih (start + 1) hrest) fun _ _ hothers => P.pure (.cons hbody hothers)

omit C in
theorem branches_rewritten (hown : own ∈ schemaKeywords)
    (h : ∀ ss, p.schema = .arr ss → ∀ s ∈ ss, P.OnRewritten R W lower lower' p.position base' descents' 0 s) :
    P.Runs (List.Forall₂ R) (p.branches lower)
      (((p.rewritten W own parent).elsewhere registry documents base' descents').branches lower') := by
  unfold branches
  rw [show ((p.rewritten W own parent).elsewhere registry documents base' descents').schema =
    W.value own p.schema from rfl]
  cases hschema : p.schema with
  | arr ss =>
    rw [W.listed hown]
    cases ss with
    | nil => exact refused _
    | cons s rest => exact branchesFrom_rewritten (s :: rest) 0 (h _ hschema)
  | obj members =>
    obtain ⟨members', hchanged⟩ := W.object members
    rw [W.single hown rfl, hchanged]
    exact refused _
  | _ =>
    rw [W.single hown rfl, W.other rfl]
    exact refused _

theorem branch_rewritten {keyword : String} (hkeyword : keyword ∈ schemaKeywords)
    (hsibling : parent.lookup keyword = (p.parent.lookup keyword).map (W.value keyword))
    (h : ∀ s, p.sibling? keyword = some s → P.OnRewritten R W lower lower' p.position base' descents' 0 s) :
    P.Runs R (p.branch lower keyword)
      (((p.rewritten W own parent).elsewhere registry documents base' descents').branch lower' keyword) := by
  unfold branch
  rw [sibling?_rewritten hsibling]
  cases hs : p.sibling? keyword with
  | none => exact P.pure (C.constant fun _ => rfl)
  | some s => exact h s hs _ (value_standsFor hkeyword s) _ rfl rfl

theorem ifThenElse_rewritten (hS : W.Keeps S)
    (hsiblings : ∀ name ∈ BuiltinKeyword.ifThenElse.implements,
      parent.lookup name = (p.parent.lookup name).map (W.value name))
    (h : ∀ s, p.Applies .ifThenElse s → P.OnRewritten R W lower lower' p.position base' descents' 0 s) :
    P.Runs (List.Forall₂ R) (p.ifThenElse lower)
      (((p.rewritten W "if" parent).elsewhere registry documents base' descents').ifThenElse lower') := by
  have hthen := hsiblings "then" (by decide)
  have helse := hsiblings "else" (by decide)
  have hall : ∀ s s', P.OnRewritten R W lower lower' p.position base' descents' 0 s → W.StandsFor s s' →
      P.Runs (List.Forall₂ R)
        (do
          let condition ← lower s (p.inside "if")
          let thenBranch ← p.branch lower "then"
          let elseBranch ← p.branch lower "else"
          return [Node.ifThenElse condition thenBranch elseBranch
            (p.site (.fixed "should match \"then\" schema" (.obj [("failingKeyword", "then")])))])
        (do
          let condition ← lower' s'
            (((p.rewritten W "if" parent).elsewhere registry documents base' descents').inside "if")
          let thenBranch ←
            ((p.rewritten W "if" parent).elsewhere registry documents base' descents').branch lower' "then"
          let elseBranch ←
            ((p.rewritten W "if" parent).elsewhere registry documents base' descents').branch lower' "else"
          return [Node.ifThenElse condition thenBranch elseBranch
            (((p.rewritten W "if" parent).elsewhere registry documents base' descents').site
              (.fixed "should match \"then\" schema" (.obj [("failingKeyword", "then")])))]) := by
    intro s s' hs hstands
    refine P.bind (hs s' hstands _ rfl rfl) fun condition condition' hcondition => ?_
    refine P.bind (branch_rewritten C (by decide) hthen fun s hs => h s (.inr (.inl hs))) fun _ _ hthen => ?_
    refine P.bind (branch_rewritten C (by decide) helse fun s hs => h s (.inr (.inr hs))) fun _ _ helse => ?_
    exact P.pure (.cons (C.ifThenElse hcondition hthen helse (fixed_rewritten hS _ _)) .nil)
  unfold ifThenElse
  rw [sibling?_rewritten hthen, sibling?_rewritten helse, show ((p.rewritten W "if" parent).elsewhere registry
    documents base' descents').schema = W.value "if" p.schema from rfl]
  have hif : "if" ∈ schemaKeywords := by decide
  cases hschema : p.schema with
  | null =>
    rw [W.single hif rfl, W.other rfl]
    exact P.pure .nil
  | arr ss =>
    have hs := hall _ _ (h _ (.inl ⟨hschema, nofun⟩)) (value_standsFor hif (.arr ss))
    rw [W.listed hif] at hs ⊢
    cases p.sibling? "then" <;> cases p.sibling? "else" <;> first | exact P.pure .nil | exact hs
  | obj members =>
    have hs := hall _ _ (h _ (.inl ⟨hschema, nofun⟩)) (value_standsFor hif (.obj members))
    obtain ⟨members', hchanged⟩ := W.object members
    rw [W.single hif rfl, hchanged] at hs ⊢
    cases p.sibling? "then" <;> cases p.sibling? "else" <;> first | exact P.pure .nil | exact hs
  | _ =>
    have hs := hall _ _ (h _ (.inl ⟨hschema, nofun⟩)) (value_standsFor hif _)
    rw [W.single hif rfl, W.other rfl] at hs ⊢
    cases p.sibling? "then" <;> cases p.sibling? "else" <;> first | exact P.pure .nil | exact hs

/-! ### Checks of the data -/

omit C in
theorem multipleOf_renumber {f : Nat → Nat} {n : Node} (h : p.multipleOf = .ok n) : n.renumber f = n := by
  obtain ⟨-, text, rfl⟩ := multipleOf_cases h
  rfl

omit C in
theorem pattern_renumber {f : Nat → Nat} {n : Node} (h : p.pattern = .ok n) : n.renumber f = n := by
  rcases pattern_cases h with ⟨-, text, rfl⟩ | ⟨-, r, text, -, rfl⟩
  · rfl
  · rfl

omit C in
theorem format_renumber {f : Nat → Nat} {nodes : List Node} (h : p.format = .ok nodes) :
    ∀ n ∈ nodes, n.renumber f = n := by
  rcases format_cases h with ⟨found, text, -, rfl⟩ | ⟨-, rfl⟩
  · exact List.forall_mem_singleton.mpr rfl
  · exact fun _ hn => absurd hn List.not_mem_nil

omit C in
theorem required_renumber {f : Nat → Nat} {nodes : List Node} (h : p.required = .ok nodes) :
    ∀ n ∈ nodes, n.renumber f = n := by
  obtain ⟨names, text, -, rfl⟩ := required_cases h
  exact forall_mem_dataChecks fun _ => rfl

/-- A keyword without subschemas reads nothing but its own value, which stays. -/
theorem assertion_rewritten {k : BuiltinKeyword} (hmap : k.name ∉ schemaMapKeywords)
    (hkeyword : k.name ∉ schemaKeywords) (href : k ≠ .ref) :
    P.Runs (List.Forall₂ R) (p.builtin lower k)
      (((p.rewritten W k.name parent).elsewhere registry documents base' descents').builtin lower' k) := by
  have hplace : p.rewritten W k.name parent = { p with parent } := by
    unfold rewritten
    rw [W.data hmap hkeyword]
  have hone : ∀ {x : Except SchemaError Node}, (∀ n, x = .ok n → ∀ f, n.renumber f = n) →
      P.Runs (List.Forall₂ R) (do let n ← liftExcept x; return [n]) (do let n ← liftExcept x; return [n]) :=
    fun hx => P.bind (liftedAs (R := R) fun n hn => C.constant (hx n hn)) fun _ _ hn => P.pure (.cons hn .nil)
  have hlist : ∀ {x : Except SchemaError (List Node)},
      (∀ nodes, x = .ok nodes → ∀ f, ∀ n ∈ nodes, n.renumber f = n) →
      P.Runs (List.Forall₂ R) (liftExcept x) (liftExcept x) :=
    fun hx => liftedAs fun nodes hnodes => C.constants fun n hn f => hx nodes hnodes f n hn
  rw [hplace]
  cases k with
  | multipleOf => exact hone fun _ hn _ => multipleOf_renumber hn
  | pattern => exact hone fun _ hn _ => pattern_renumber hn
  | format => exact hlist fun _ hnodes _ => format_renumber hnodes
  | required => exact hlist fun _ hnodes _ => required_renumber hnodes
  | ref => exact absurd rfl href
  | items | contains | dependencies | propertyNames | properties | not | anyOf | oneOf | allOf | ifThenElse =>
    first | exact absurd (by decide) hmap | exact absurd (by decide) hkeyword
  | _ => exact P.pure (.cons (C.constant fun _ => rfl) .nil)

/-- **A keyword contributes the same to what the schema has become**, if what it applies does. -/
theorem builtin_rewritten (hS : W.Keeps S) {k : BuiltinKeyword} (href : k ≠ .ref)
    (hsiblings : ∀ name ∈ k.name :: k.implements,
      parent.lookup name = (p.parent.lookup name).map (W.value name))
    (h : ∀ s, p.Applies k s → P.OnRewritten R W lower lower' p.position base' descents' k.descents s) :
    P.Runs (List.Forall₂ R) (p.builtin lower k)
      (((p.rewritten W k.name parent).elsewhere registry documents base' descents').builtin lower' k) := by
  cases k with
  | items => exact items_rewritten C (hsiblings _ (by decide)) h
  | contains => exact contains_rewritten C hS (h _ rfl)
  | dependencies => exact dependencies_rewritten C h
  | propertyNames => exact nameSchema_rewritten C hS (h _ rfl)
  | properties => exact properties_rewritten C hsiblings h
  | not =>
    refine P.bind (h _ rfl _ (value_standsFor (by decide) _) _ rfl rfl) fun _ _ hbody => ?_
    exact P.pure (.cons (C.not hbody (fixed_rewritten hS _ _)) .nil)
  | anyOf =>
    refine P.bind (branches_rewritten (by decide) fun ss hss s hs => h s ⟨ss, hss, hs⟩) fun _ _ hnodes => ?_
    exact P.pure (.cons (C.anyOf hnodes (fixed_rewritten hS _ _)) .nil)
  | oneOf =>
    refine P.bind (branches_rewritten (by decide) fun ss hss s hs => h s ⟨ss, hss, hs⟩) fun _ _ hnodes => ?_
    exact P.pure (.cons (C.oneOf hnodes (fixed_rewritten hS _ _)) .nil)
  | allOf => exact branches_rewritten (by decide) fun ss hss s hs => h s ⟨ss, hss, hs⟩
  | ifThenElse => exact ifThenElse_rewritten C hS (fun name hname => hsiblings name (.tail _ hname)) h
  | _ => exact assertion_rewritten C (by decide) (by decide) href

end
end KeywordPlace

end JsonSchema
