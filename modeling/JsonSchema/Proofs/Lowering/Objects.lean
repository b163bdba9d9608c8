import JsonSchema.Proofs.Lowering.Rewriting
import JsonSchema.Proofs.Lowering.Schemas

/-!
# Two runs of lowering on the same schema

**What a keyword contributes to two runs is related if its subschemas and its reference are**
(`KeywordPlace.builtin_related`), and so are custom keywords, rules, groups and objects.  The right run may
stand under another registry, among other documents, at another base and deeper in the data, and the
relation is any that goes along with what is built of nodes (`Node.Congruence`).  One that does is that the
nodes are the same but for the numbers of procedures (`Pairing.Nodes`, `lowerObject_paired`).
-/

set_option autoImplicit false

namespace JsonSchema

namespace Pairing

variable (P : Pairing)

/-- The nodes are the same but for the numbers of the procedures. -/
def Nodes (n n' : Node) : Prop := n.renumber P.left = n'.renumber P.right

/-- The numbers stand for the same procedure. -/
def Numbers (i j : Nat) : Prop := P.left i = P.right j

/-- Two ways of lowering compare on a schema: on the right references have another base, and the data
    has been entered another number of times before. -/
def On (lower lower' : Lower) (p : Position) (base' : Uri) (descents' deeper : Nat) (s : Json) : Prop :=
  ∀ position : Position, position.base = p.base → position.descents = p.descents + deeper →
    P.Runs P.Nodes (lower s position) (lower' s (position.moved base' (descents' + deeper)))

variable {P}

/-- Nothing but the schema itself stands for a schema that is not changed. -/
theorem onUnchanged {R : Node → Node → Prop} {lower lower' : Lower} {p : Position} {base' : Uri}
    {descents' deeper : Nat} {s : Json}
    (h : ∀ position : Position, position.base = p.base → position.descents = p.descents + deeper →
      P.Runs R (lower s position) (lower' s (position.moved base' (descents' + deeper)))) :
    P.OnRewritten R .unchanged lower lower' p base' descents' deeper s := by
  rintro s' (rfl | ⟨_, _, rfl⟩) position
  · exact h position
  · exact h position

theorem renumberEach_eq {ns ns' : List Node} (h : List.Forall₂ P.Nodes ns ns') :
    Node.renumberEach P.left ns = Node.renumberEach P.right ns' := by
  induction h with
  | nil => rfl
  | cons h _ ih => exact congrArg₂ List.cons h ih

/-- What keywords build of nodes is the same but for the numbers if the nodes are. -/
theorem congruence (P : Pairing) : Node.Congruence P.Nodes Eq where
  isPass {n n'} h := by rw [← Node.isPass_renumber P.right n', ← show _ = _ from h, Node.isPass_renumber]
  constant h := (h P.left).trans (h P.right).symm
  guard h type := congrArg (Node.guard type) h
  descend h step := congrArg (Node.descend step) h
  items h start := congrArg (Node.items start) h
  properties h filter := congrArg (Node.properties filter) h
  propertyNames h hsite := congrArg₂ Node.propertyNames h hsite
  ifPresent h name := congrArg (Node.ifPresent name) h
  contains h hsite := congrArg₂ Node.contains h hsite
  not h hsite := congrArg₂ Node.not h hsite
  all h := congrArg Node.all (renumberEach_eq h)
  anyOf h hsite := congrArg₂ Node.anyOf (renumberEach_eq h) hsite
  oneOf h hsite := congrArg₂ Node.oneOf (renumberEach_eq h) hsite
  ifThenElse hc ht he hsite := by
    unfold Nodes at *
    rw [Node.renumber, Node.renumber, hc, ht, he, hsite]

end Pairing

/-- Nothing that a site keeps changes. -/
theorem Rewriting.unchanged_keeps {S : ErrorSite → ErrorSite → Prop} (hrefl : ∀ site, S site site) :
    unchanged.Keeps S := fun site _ _ => hrefl site

/-! ## Keywords -/

namespace KeywordPlace

open Pairing

section

variable {P : Pairing} {R : Node → Node → Prop} {S : ErrorSite → ErrorSite → Prop} {lower lower' : Lower}
  {p : KeywordPlace} {registry : Registry} {documents : Documents} {base' : Uri} {descents' : Nat}

/-- **A keyword pairs with itself if its subschemas and its reference do.** -/
theorem builtin_related (C : Node.Congruence R S) (hrefl : ∀ site, S site site) (k : BuiltinKeyword)
    (h : ∀ s, p.Applies k s →
      P.OnRewritten R .unchanged lower lower' p.position base' descents' k.descents s)
    (href : k = .ref → P.Runs (fun i j => R (.call i) (.call j))
      (p.procedureOf lower (p.schema.str?.getD ""))
      ((p.elsewhere registry documents base' descents').procedureOf lower' (p.schema.str?.getD ""))) :
    P.Runs (List.Forall₂ R) (p.builtin lower k)
      ((p.elsewhere registry documents base' descents').builtin lower' k) := by
  by_cases hk : k = .ref
  · subst hk
    exact P.bind (href rfl) fun i j hij => P.pure (.cons hij .nil)
  · have hplace : (p.rewritten .unchanged k.name p.parent).elsewhere registry documents base' descents' =
        p.elsewhere registry documents base' descents' := rfl
    rw [← hplace]
    refine builtin_rewritten C (Rewriting.unchanged_keeps hrefl) hk (fun name _ => ?_) h
    cases p.parent.lookup name <;> rfl

theorem codeChecks_renumber {f : Nat → Nat} (actions : List CodeAction) (text : ErrorText) :
    ∀ n ∈ p.codeChecks text actions, n.renumber f = n := by
  intro n hn
  obtain ⟨text, fails, rfl⟩ := codeChecks_are_checks p actions text n hn
  rfl

theorem custom_related (C : Node.Congruence R S) (d : KeywordDefinition)
    (h : ∀ expand, d.expand = some expand →
      P.OnRewritten R .unchanged lower lower' p.position base' descents' 0 (expand p.schema p.parent)) :
    P.Runs (List.Forall₂ R) (p.custom lower d)
      ((p.elsewhere registry documents base' descents').custom lower' d) := by
  have hlogic : P.Runs (fun made made' => List.Forall₂ R made.1 made'.1 ∧ made'.2 = made.2)
      (p.customLogic lower d) ((p.elsewhere registry documents base' descents').customLogic lower' d) := by
    unfold customLogic
    cases d.code with
    | some code =>
      have hcheck : (p.elsewhere registry documents base' descents').check = p.check := rfl
      refine P.bind (P.lifted (code p.view)) fun actions _ heq => P.pure ⟨?_, ?_⟩
      · rw [← heq, codeChecks_congr p hcheck]
        exact C.constants fun n hn f => codeChecks_renumber _ _ n hn
      · rw [← heq]
        rfl
    | none =>
      cases d.validate with
      | some validate => exact P.pure ⟨.cons (C.constant fun _ => rfl) .nil, rfl⟩
      | none =>
        cases d.compile with
        | some compile =>
          refine P.bind (P.lifted ((compile p.schema p.parent).mapError p.error)) fun check _ heq => ?_
          rw [← heq]
          exact P.pure ⟨.cons (C.constant fun _ => rfl) .nil, rfl⟩
        | none =>
          cases hexpand : d.expand with
          | some expand =>
            exact P.bind (h expand hexpand _ (.inl rfl) _ rfl rfl) fun _ _ hbody =>
              P.pure ⟨.cons hbody .nil, rfl⟩
          | none => exact P.pure ⟨.nil, rfl⟩
  refine P.bind hlogic fun made made' hmade => P.pure ?_
  obtain ⟨nodes, text⟩ := made
  obtain ⟨nodes', text'⟩ := made'
  obtain ⟨hnodes, rfl⟩ : List.Forall₂ R nodes nodes' ∧ text' = text := hmade
  dsimp only
  split
  · exact .nil
  · exact .cons (C.constant fun _ => rfl) .nil
  · exact hnodes

end
end KeywordPlace

/-! ## Rules, groups and objects -/

/-- The same surroundings with another registry. -/
def Environment.under (env : Environment) (registry : Registry) : Environment := { env with registry }

/-- The same surroundings with other documents. -/
def Environment.among (env : Environment) (documents : Documents) : Environment :=
  { env with documents }

section

variable {P : Pairing} {R : Node → Node → Prop} {S : ErrorSite → ErrorSite → Prop} {lower lower' : Lower}
  {env : Environment} {members : List (String × Json)} {position : Position} {registry : Registry}
  {documents : Documents} {base' : Uri} {descents' : Nat}

/-- The schemas that a rule hands on and the procedure of its reference are paired. -/
structure Rule.PartsPaired (rule : Rule) (P : Pairing) (env : Environment) (registry : Registry)
    (documents : Documents) (members : List (String × Json)) (position : Position) (base' : Uri)
    (descents' : Nat) (lower lower' : Lower) : Prop where
  applied : ∀ k data s, rule.implementation = .builtin k →
    (rule.place env members position data).Applies k s →
    P.On lower lower' position base' descents' k.descents s
  referred : ∀ data, rule.implementation = .builtin .ref →
    P.Runs P.Numbers
      ((rule.place env members position data).procedureOf lower (rule.reference members))
      (((rule.place env members position data).elsewhere registry documents base' descents').procedureOf lower'
        (rule.reference members))
  expanded : ∀ d expand, rule.implementation = .custom d → d.expand = some expand →
    P.On lower lower' position base' descents' 0
      (expand ((members.lookup rule.keyword).getD .null) members)

/-- The same for any relation between the nodes. -/
structure Rule.PartsRelated (rule : Rule) (P : Pairing) (R : Node → Node → Prop) (env : Environment)
    (registry : Registry) (documents : Documents) (members : List (String × Json)) (position : Position)
    (base' : Uri) (descents' : Nat) (lower lower' : Lower) : Prop where
  applied : ∀ k data s, rule.implementation = .builtin k →
    (rule.place env members position data).Applies k s →
    P.OnRewritten R .unchanged lower lower' position base' descents' k.descents s
  referred : ∀ data, rule.implementation = .builtin .ref →
    P.Runs (fun i j => R (.call i) (.call j))
      ((rule.place env members position data).procedureOf lower (rule.reference members))
      (((rule.place env members position data).elsewhere registry documents base' descents').procedureOf lower'
        (rule.reference members))
  expanded : ∀ d expand, rule.implementation = .custom d → d.expand = some expand →
    P.OnRewritten R .unchanged lower lower' position base' descents' 0
      (expand ((members.lookup rule.keyword).getD .null) members)

theorem Rule.PartsPaired.related {rule : Rule}
    (h : rule.PartsPaired P env registry documents members position base' descents' lower lower') :
    rule.PartsRelated P P.Nodes env registry documents members position base' descents' lower lower' where
  applied k data s hrule hs := Pairing.onUnchanged (h.applied k data s hrule hs)
  referred data hrule := Pairing.weaken (h.referred data hrule) fun _ _ hij => congrArg Node.call hij
  expanded d expand hrule hd := Pairing.onUnchanged (h.expanded d expand hrule hd)

/-- The check of a literal value, with what is done after it. -/
theorem Rule.checkValue_paired {R : Node → Node → Prop} {rule : Rule} {path : String} {data : Option DataRef}
    {value value' : Option Json} {g g' : Unit → LowerM Node}
    (hvalue : value'.map (rule.checkValue path) = value.map (rule.checkValue path))
    (hg : P.Runs R (g ()) (g' ())) :
    P.Runs R
      (match (data, value) with
        | (none, some v) => liftExcept (rule.checkValue path v) >>= g
        | _ => g ())
      (match (data, value') with
        | (none, some v) => liftExcept (rule.checkValue path v) >>= g'
        | _ => g' ()) := by
  cases data with
  | some r => exact hg
  | none =>
    cases value with
    | none =>
      obtain rfl := Option.map_eq_none_iff.mp hvalue
      exact hg
    | some v =>
      obtain ⟨v', rfl, hchecked⟩ := Option.map_eq_some_iff.mp hvalue
      dsimp only
      rw [hchecked]
      exact P.bind (P.lifted _) fun _ _ _ => hg

/-- What implements the rule, a keyword or a definition. -/
theorem Rule.implementation_related (C : Node.Congruence R S) (hrefl : ∀ site, S site site) {rule : Rule}
    (data : Option DataRef)
    (h : rule.PartsRelated P R env registry documents members position base' descents' lower lower') :
    P.Runs R
      (match rule.implementation with
        | .builtin k => do
          return Node.conj (← (rule.place env members position data).builtin lower k)
        | .custom d => do
          return Node.conj (← (rule.place env members position data).custom lower d))
      (match rule.implementation with
        | .builtin k => do
          return Node.conj (← ((rule.place env members position data).elsewhere registry documents base'
            descents').builtin lower' k)
        | .custom d => do
          return Node.conj (← ((rule.place env members position data).elsewhere registry documents base'
            descents').custom lower' d)) := by
  cases hrule : rule.implementation with
  | builtin k =>
    refine P.bind (KeywordPlace.builtin_related C hrefl k (fun s => h.applied k data s hrule) ?_)
      fun _ _ hnodes => P.pure (C.conj hnodes)
    intro hk
    exact h.referred data (hk ▸ hrule)
  | custom d =>
    exact P.bind (KeywordPlace.custom_related C d fun expand => h.expanded d expand hrule) fun _ _ hnodes =>
      P.pure (C.conj hnodes)

theorem Rule.lower_related (C : Node.Congruence R S) (hrefl : ∀ site, S site site) {rule : Rule}
    (h : rule.PartsRelated P R env registry documents members position base' descents' lower lower') :
    P.Runs R (rule.lower lower env members position)
      (rule.lower lower' ((env.under registry).among documents) members (position.moved base' descents')) := by
  unfold Rule.lower
  refine P.bind (P.lifted _) fun data data' hdata => ?_
  subst hdata
  exact Rule.checkValue_paired rfl (Rule.implementation_related C hrefl data h)

theorem Rule.lower_paired {rule : Rule}
    (h : rule.PartsPaired P env registry documents members position base' descents' lower lower') :
    P.Runs P.Nodes (rule.lower lower env members position)
      (rule.lower lower' ((env.under registry).among documents) members (position.moved base' descents')) :=
  Rule.lower_related P.congruence (fun _ => rfl) h.related

theorem RuleGroup.lower_eq (group : RuleGroup) (onlyRef : Bool) :
    group.lower lower env members position onlyRef = (do
      let nodes ← (group.present members onlyRef).mapM fun rule => rule.lower lower env members position
      return group.around (.conj nodes)) := rfl

/-- A group has its type around both bodies, or around none. -/
theorem RuleGroup.around_related {R : Node → Node → Prop} (isPass : ∀ {n n'}, R n n' → n'.isPass = n.isPass)
    (pass : R .pass .pass) (guard : ∀ {n n'}, R n n' → ∀ type, R (.guard type n) (.guard type n'))
    (group : RuleGroup) {body body' : Node} (h : R body body') : R (group.around body) (group.around body') := by
  unfold around
  cases group.appliesTo with
  | none => exact h
  | some type =>
    dsimp only
    rw [isPass h]
    split
    · exact pass
    · exact guard h type

/-- A group's node does what its body does on data of the group's type. -/
theorem RuleGroup.run_around {call : Nat → Location → Run} {failFast : Bool} (group : RuleGroup) (body : Node)
    (l : Location) :
    (group.around body).run call failFast l =
      match group.appliesTo with
      | some concerned => if concerned.accepts l.value then body.run call failFast l else Run.done true
      | none => body.run call failFast l := by
  unfold around
  cases group.appliesTo with
  | none => rfl
  | some concerned =>
    dsimp only
    split
    · next hpass =>
      cases body with
      | pass => rw [Node.run_pass, ite_self]
      | _ => cases hpass
    · rw [Node.run_guard]

theorem RuleGroup.around_congruent {R : Node → Node → Prop} {S : ErrorSite → ErrorSite → Prop}
    (C : Node.Congruence R S) (group : RuleGroup) {body body' : Node} (h : R body body') :
    R (group.around body) (group.around body') :=
  around_related C.isPass (C.constant fun _ => rfl) C.guard group h

theorem RuleGroup.lower_related (C : Node.Congruence R S) (hrefl : ∀ site, S site site) {group : RuleGroup}
    {onlyRef : Bool}
    (h : ∀ rule ∈ group.present members onlyRef,
      rule.PartsRelated P R env registry documents members position base' descents' lower lower') :
    P.Runs R (group.lower lower env members position onlyRef)
      (group.lower lower' ((env.under registry).among documents) members (position.moved base' descents')
        onlyRef) := by
  rw [lower_eq, lower_eq]
  refine P.bind (Pairing.mapM fun rule hrule => Rule.lower_related C hrefl (h rule hrule))
    fun nodes nodes' hnodes => ?_
  exact P.pure (around_congruent C group (C.conj hnodes))

/-- Objects are related if the nodes of their groups are, beside the check of the declared types. -/
theorem lowerObjectOf_related {groups groups' : GroupChoice}
    (h : ∀ declared : Option (List DataType), P.Runs
      (fun nodes nodes' => R (.conj ((declared.map (typeNode position.schemaPath members)).toList ++ nodes))
        (.conj ((declared.map (typeNode position.schemaPath members)).toList ++ nodes')))
      ((groups declared).mapM (RuleGroup.lower lower env members position (env.onlyRef members)))
      ((groups' declared).mapM (RuleGroup.lower lower' (env.among documents) members
        (position.moved base' descents') (env.onlyRef members)))) :
    P.Runs R (lowerObjectOf groups lower env members position)
      (lowerObjectOf groups' lower' (env.among documents) members (position.moved base' descents')) := by
  have hgroups := fun declared => P.bind (h declared) fun nodes nodes' hnodes => P.pure hnodes
  unfold lowerObjectOf
  show P.Runs R (if env.onlyRef members then _ else _) (if env.onlyRef members then _ else _)
  split
  · exact P.bind (R := Eq) (P.pure rfl) fun declared _ heq => heq ▸ hgroups declared
  · exact P.bind (P.lifted _) fun _ _ _ => P.bind (P.lifted _) fun declared _ heq => heq ▸ hgroups declared

/-- **An object pairs with itself if the schemas that it hands on do**, with the same choice of groups. -/
theorem lowerObjectOf_paired {groups : GroupChoice} (hgroups : groups.Within env.registry)
    (h : ∀ rule, env.Reads members rule →
      rule.PartsPaired P env env.registry documents members position base' descents' lower lower') :
    P.Runs P.Nodes (lowerObjectOf groups lower env members position)
      (lowerObjectOf groups lower' (env.among documents) members (position.moved base' descents')) := by
  refine lowerObjectOf_related fun declared => ?_
  have hgroup : ∀ group ∈ groups declared, P.Runs P.Nodes
      (group.lower lower env members position (env.onlyRef members))
      (group.lower lower' (env.among documents) members (position.moved base' descents')
        (env.onlyRef members)) := fun group hgroup =>
    RuleGroup.lower_related P.congruence (fun _ => rfl) fun rule hrule =>
      (h rule ⟨group, hgroups declared group hgroup, hrule⟩).related
  refine Pairing.weaken (Pairing.mapM hgroup) fun nodes nodes' hnodes => ?_
  refine P.congruence.conj (List.rel_append ?_ hnodes)
  cases declared with
  | none => exact .nil
  | some types => exact .cons (P.congruence.constant fun _ => rfl) .nil

/-- **An object pairs with itself if the schemas that it hands on do.** -/
theorem lowerObject_paired
    (h : ∀ rule, env.Reads members rule →
      rule.PartsPaired P env env.registry documents members position base' descents' lower lower') :
    P.Runs P.Nodes (lowerObject lower env members position)
      (lowerObject lower' (env.among documents) members (position.moved base' descents')) :=
  lowerObjectOf_paired env.registry.concernedGroups_within h

end
end JsonSchema
