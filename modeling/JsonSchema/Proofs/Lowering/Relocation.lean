import JsonSchema.Proofs.Evaluation.Answers
import JsonSchema.Proofs.Lowering.Lockstep

/-!
# The same schema at another path

Where in a document a schema stands is written into the sites of its violations and into the errors of a
refusal, and is shown to the code of custom keywords.  Where that does not look at it
(`KeywordDefinition.IgnoresPath`), **a schema is lowered at one path exactly if it is at another, and the
nodes answer the same** (`lowerSchema_relocated`).  What a reference leads to is lowered at the path that
its target has, so the procedures are not only alike but equal.
-/

set_option autoImplicit false

namespace JsonSchema

open LowerM

/-! ## Runs that may be refused for different reasons -/

/-- Both are refused, or both succeed with related results. -/
inductive Together {α β : Type} (R : α → β → Prop) :
    Except SchemaError α → Except SchemaError β → Prop where
  | refused (e e' : SchemaError) : Together R (.error e) (.error e')
  | done {a : α} {b : β} : R a b → Together R (.ok a) (.ok b)

namespace Together

variable {α β γ δ : Type} {R : α → β → Prop} {S : γ → δ → Prop}

theorem bind {x : Except SchemaError α} {x' : Except SchemaError β} {f : α → Except SchemaError γ}
    {f' : β → Except SchemaError δ} (h : Together R x x') (hf : ∀ a b, R a b → Together S (f a) (f' b)) :
    Together S (x >>= f) (x' >>= f') := by
  cases h with
  | refused e e' => exact .refused e e'
  | done h => exact hf _ _ h

theorem mapM {xs : List γ} {f : γ → Except SchemaError α} {f' : γ → Except SchemaError β}
    (h : ∀ x ∈ xs, Together R (f x) (f' x)) : Together (List.Forall₂ R) (xs.mapM f) (xs.mapM f') := by
  induction xs with
  | nil => exact .done .nil
  | cons x rest ih =>
    obtain ⟨hx, hrest⟩ := List.forall_mem_cons.mp h
    rw [List.mapM_cons, List.mapM_cons]
    exact hx.bind fun _ _ hy => (ih hrest).bind fun _ _ hys => .done (.cons hy hys)

end Together

/-- The mirror in which the procedures look as they are, and all refusals alike. -/
def Mirror.refusing : Mirror := ⟨Eq, fun _ _ => True, fun _ => trivial, id⟩

/-- On the same procedures both runs are refused, or both give related answers and the same procedures. -/
def Pairing.refusing : Pairing := Mirror.refusing.pairing

namespace Pairing

variable {α β γ : Type} {R : α → β → Prop}

theorem refusing_refused (e e' : SchemaError) : refusing.Runs R (refuse e) (refuse e') :=
  fun _ _ _ => .refused trivial

theorem refusing_lifted {x : Except SchemaError α} {x' : Except SchemaError β} (h : Together R x x') :
    refusing.Runs R (liftExcept x) (liftExcept x') := by
  rintro procedures _ rfl
  cases h with
  | refused e e' => exact .refused trivial
  | done h => exact .done h rfl

/-- If the one succeeds, the other does, with a related answer and the same procedures. -/
theorem refusing_ok {m : LowerM α} {m' : LowerM β} (h : refusing.Runs R m m') {procedures after : List Procedure}
    {a : α} (hm : m procedures = .ok (a, after)) : ∃ b, m' procedures = .ok (b, after) ∧ R a b := by
  have hmirrored := h procedures procedures rfl
  rw [hm] at hmirrored
  revert hmirrored
  generalize m' procedures = made
  intro hmirrored
  cases hmirrored with
  | done hR hafter =>
    obtain rfl := hafter
    exact ⟨_, rfl, hR⟩

/-- A test in front of the rest, which refuses both or none. -/
theorem refusing_guarded {c : Prop} [Decidable c] {e e' : SchemaError} {g : γ → LowerM α} {g' : γ → LowerM β}
    {m : LowerM α} {m' : LowerM β} (h : refusing.Runs R m m') :
    refusing.Runs R (if c then refuse e >>= g else m) (if c then refuse e' >>= g' else m') := by
  split
  · exact fun _ _ _ => .refused trivial
  · exact h

end Pairing

/-! ## Places at another path -/

/-- The position with another path to the schema. -/
def Position.onPath (position : Position) (schemaPath : String) : Position := { position with schemaPath }

/-- The place with another path to its schema. -/
def KeywordPlace.onPath (p : KeywordPlace) (path : String) : KeywordPlace :=
  { p with position := p.position.onPath path }

/-- The code of a custom keyword that does not look at the path to its schema. -/
def KeywordDefinition.IgnoresPath (d : KeywordDefinition) : Prop :=
  ∀ code, d.code = some code → ∀ (view : KeywordView) (schemaPath : String),
    code { view with schemaPath } = code view

/-- No code of a custom keyword looks at the path to its schema. -/
def Registry.IgnoresPath (r : Registry) : Prop :=
  ∀ group ∈ r.groups, ∀ rule ∈ group.rules, ∀ d, rule.implementation = .custom d → d.IgnoresPath

/-- A way of lowering gives nodes with the same answers at all paths. -/
def Lower.IgnoresPath (lower : Lower) : Prop :=
  ∀ s position path, Pairing.refusing.Runs Node.SameAnswer (lower s position) (lower s (position.onPath path))

namespace KeywordPlace

open Pairing

section

variable {lower : Lower} {p : KeywordPlace} {path : String}

theorem check_relocated (text : ErrorText) (fails : Json → Json → Bool) :
    (p.check text fails).SameAnswer ((p.onPath path).check text fails) := .check _ _ _ _ _

theorem check_relocated_single (text : ErrorText) (fails : Json → Json → Bool) :
    List.Forall₂ Node.SameAnswer [p.check text fails] [(p.onPath path).check text fails] :=
  .cons (check_relocated text fails) .nil

/-! ### Checks of the data -/

theorem multipleOf_relocated : Together Node.SameAnswer p.multipleOf (p.onPath path).multipleOf := by
  unfold multipleOf
  rw [show (p.onPath path).data = p.data from rfl, show (p.onPath path).schema = p.schema from rfl]
  split
  · exact .refused _ _
  · exact .done (check_relocated _ _)

theorem pattern_relocated : Together Node.SameAnswer p.pattern (p.onPath path).pattern := by
  unfold pattern
  rw [show (p.onPath path).data = p.data from rfl, show (p.onPath path).schema = p.schema from rfl]
  split
  · exact .done (check_relocated _ _)
  · dsimp only
    cases Regex.parse? (p.schema.str?.getD "") with
    | none => exact .refused _ _
    | some r => exact .done (check_relocated _ _)

theorem format_relocated : Together (List.Forall₂ Node.SameAnswer) p.format (p.onPath path).format := by
  unfold format
  rw [show (p.onPath path).env = p.env from rfl, show (p.onPath path).schema = p.schema from rfl]
  dsimp only
  cases p.env.formats.get? (p.schema.str?.getD "") with
  | some format => exact .done (check_relocated_single _ _)
  | none =>
    dsimp only
    split
    · exact .done .nil
    · exact .refused _ _

theorem propertyNames_relocated (names : Json) :
    Together Eq (p.propertyNames names) ((p.onPath path).propertyNames names) := by
  have hnames : Together (List.Forall₂ Eq) (p.propertyNames names) ((p.onPath path).propertyNames names) := by
    refine Together.mapM fun name _ => ?_
    cases name with
    | str name => exact .done rfl
    | _ => exact .refused _ _
  rwa [List.forall₂_eq_eq_eq] at hnames

theorem required_relocated :
    Together (List.Forall₂ Node.SameAnswer) p.required (p.onPath path).required := by
  refine (propertyNames_relocated p.schema).bind ?_
  rintro names _ rfl
  exact .done (forall₂_map fun _ _ => .check _ _ _ _ _)

theorem neededProperties_relocated (property : String) (names : Json) :
    Together (List.Forall₂ Node.SameAnswer) (p.neededProperties property names)
      ((p.onPath path).neededProperties property names) := by
  refine (propertyNames_relocated names).bind ?_
  rintro needed _ rfl
  exact .done (forall₂_map fun _ _ => .check _ _ _ _ _)

/-! ### References -/

/-- What a reference leads to does not depend on where the reference is written. -/
theorem procedureOf_relocated (reference : String) :
    refusing.Runs Eq (p.procedureOf lower reference) ((p.onPath path).procedureOf lower reference) := by
  rintro procedures _ rfl
  rw [procedureOf_eq, procedureOf_eq]
  rw [show (p.onPath path).env.documents.resolve (p.onPath path).position.base reference =
    p.env.documents.resolve p.position.base reference from rfl]
  cases p.env.documents.resolve p.position.base reference with
  | error e => exact .refused trivial
  | ok target =>
    dsimp only
    cases procedures.findIdx? (·.target.key = target.key) with
    | some i =>
      dsimp only
      show Mirrored .refusing _ _ (if (procedures[i]?.any fun q => q.body.isNone && q.descents = p.position.descents)
        then _ else _)
      split
      · exact .refused trivial
      · exact .done rfl rfl
    | none =>
      dsimp only
      rw [show (p.onPath path).position.descents = p.position.descents from rfl]
      cases lower target.schema (.ofTarget target p.position.descents)
        (procedures ++ [⟨target, p.position.descents, none⟩]) with
      | error e => exact .refused trivial
      | ok made => exact .done rfl rfl

end

/-! ### Keywords with subschemas -/

section

variable {lower : Lower} {p : KeywordPlace} {path : String} (hl : lower.IgnoresPath)

include hl

/-- One part of a contribution. -/
theorem part_relocated {s : Json} {position : Position} {path' : String} {around around' : Node → Node}
    (haround : ∀ n n', n.SameAnswer n' → (around n).SameAnswer (around' n')) :
    refusing.Runs (List.Forall₂ Node.SameAnswer)
      (do let body ← lower s position; return unlessPass body around)
      (do let body ← lower s (position.onPath path'); return unlessPass body around') :=
  part_rewritten Node.SameAnswer.congruence (hl s position path') haround

theorem tupleItems_relocated (tuple : List Json) : ∀ start,
    refusing.Runs (List.Forall₂ Node.SameAnswer) (p.tupleItems lower start tuple)
      ((p.onPath path).tupleItems lower start tuple) := by
  induction tuple with
  | nil => exact fun _ => refusing.pure .nil
  | cons s rest ih =>
    intro start
    refine refusing.bind (hl s _ _) fun body body' hbody => refusing.bind (ih (start + 1)) fun others others' ho =>
      refusing.pure ?_
    have C := Node.SameAnswer.congruence
    exact List.rel_append (C.unlessPass hbody (C.descend hbody _)) ho

theorem elementsFrom_relocated (keyword : String) (start : Nat) (s : Json) :
    refusing.Runs (List.Forall₂ Node.SameAnswer) (p.elementsFrom lower keyword start s)
      ((p.onPath path).elementsFrom lower keyword start s) :=
  part_relocated hl fun _ _ h => Node.SameAnswer.congruence.items h start

/-- The items behind the tuple, with what is done after them. -/
theorem otherItems_relocated (count : Nat) {g g' : List Node → LowerM (List Node)}
    (hg : ∀ others others', List.Forall₂ Node.SameAnswer others others' →
      refusing.Runs (List.Forall₂ Node.SameAnswer) (g others) (g' others')) :
    refusing.Runs (List.Forall₂ Node.SameAnswer)
      (match p.sibling? "additionalItems" with
        | some (.obj members) => p.elementsFrom lower "additionalItems" count (.obj members) >>= g
        | _ => pure [] >>= g)
      (match p.sibling? "additionalItems" with
        | some (.obj members) => (p.onPath path).elementsFrom lower "additionalItems" count (.obj members) >>= g'
        | _ => pure [] >>= g') := by
  split
  · exact refusing.bind (elementsFrom_relocated hl _ _ _) hg
  · exact refusing.bind (refusing.pure .nil) hg

theorem items_relocated :
    refusing.Runs (List.Forall₂ Node.SameAnswer) (p.items lower) ((p.onPath path).items lower) := by
  unfold items
  refine refusing_guarded ?_
  rw [show (p.onPath path).schema = p.schema from rfl]
  cases p.schema with
  | null => exact refusing.pure .nil
  | arr tuple =>
    refine refusing.bind (tupleItems_relocated hl tuple 0) fun fixed fixed' hfixed => ?_
    refine otherItems_relocated hl _ fun others others' hothers => refusing.pure ?_
    refine List.rel_append (List.rel_append ?_ hfixed) hothers
    show List.Forall₂ _ _ (if (p.sibling? "additionalItems").any (·.bool? == some false) then _ else _)
    split
    · exact .cons (.check _ _ _ _ _) .nil
    · exact .nil
  | _ => exact elementsFrom_relocated hl _ _ _

theorem dependency_relocated (property : String) (needs : Json) :
    refusing.Runs Node.SameAnswer (p.dependency lower property needs)
      ((p.onPath path).dependency lower property needs) := by
  cases needs with
  | arr names =>
    refine refusing.bind (refusing_lifted (neededProperties_relocated property (.arr names))) fun _ _ hchecks => ?_
    exact refusing.pure (Node.SameAnswer.congruence.conj hchecks)
  | _ => exact hl _ _ _

theorem dependencies_relocated :
    refusing.Runs (List.Forall₂ Node.SameAnswer) (p.dependencies lower) ((p.onPath path).dependencies lower) := by
  refine refusing.bind (Pairing.mapM fun m _ => ?_) fun _ _ hnodes => refusing.pure (List.rel_flatten hnodes)
  have C := Node.SameAnswer.congruence
  exact refusing.bind (dependency_relocated hl m.1 m.2) fun _ _ hbody =>
    refusing.pure (C.unlessPass hbody (C.ifPresent hbody m.1))

theorem namedProperties_relocated :
    refusing.Runs (List.Forall₂ Node.SameAnswer) (p.namedProperties lower)
      ((p.onPath path).namedProperties lower) := by
  refine refusing.bind (Pairing.mapM fun m _ => ?_) fun _ _ hnodes => refusing.pure (List.rel_flatten hnodes)
  exact part_relocated hl fun _ _ h => Node.SameAnswer.congruence.descend h _

theorem patternProperties_relocated :
    refusing.Runs (fun made made' => List.Forall₂ Node.SameAnswer made.1 made'.1 ∧ made'.2 = made.2)
      (p.patternProperties lower) ((p.onPath path).patternProperties lower) := by
  have C := Node.SameAnswer.congruence
  refine refusing.bind (Pairing.mapM (R := fun made made' => List.Forall₂ Node.SameAnswer made.1 made'.1 ∧
    made'.2 = made.2) fun m _ => ?_) fun compiled compiled' hcompiled => refusing.pure ?_
  · dsimp only
    cases Regex.parse? m.1 with
    | none => exact refusing_refused _ _
    | some r =>
      refine refusing.bind (hl m.2 _ _) fun body body' hbody => refusing.pure ⟨?_, rfl⟩
      exact C.unlessPass hbody (C.properties hbody _)
  · induction hcompiled with
    | nil => exact ⟨.nil, rfl⟩
    | cons hmade _ ih => exact ⟨List.rel_append hmade.1 ih.1, congrArg₂ List.cons hmade.2 ih.2⟩

theorem additionalProperties_relocated (patterns : List Regex) :
    refusing.Runs (List.Forall₂ Node.SameAnswer) (p.additionalProperties lower patterns)
      ((p.onPath path).additionalProperties lower patterns) := by
  have hpart : ∀ s, refusing.Runs (List.Forall₂ Node.SameAnswer)
      (do
        let body ← lower s (p.below "additionalProperties" "/\x7bkey\x7d")
        return unlessPass body (.properties (p.otherMembers patterns)))
      (do
        let body ← lower s ((p.onPath path).below "additionalProperties" "/\x7bkey\x7d")
        return unlessPass body (.properties (p.otherMembers patterns))) := fun s =>
    part_relocated hl fun _ _ h => Node.SameAnswer.congruence.properties h _
  unfold additionalProperties
  dsimp only
  rw [show (p.onPath path).sibling? = p.sibling? from rfl]
  cases p.sibling? "additionalProperties" with
  | none => exact refusing.pure .nil
  | some additional =>
    cases additional with
    | bool allowed =>
      cases allowed with
      | true => exact refusing.pure .nil
      | false => exact refusing.pure (.cons (.noProperties _ _ _) .nil)
    | _ => exact hpart _

theorem properties_relocated :
    refusing.Runs (List.Forall₂ Node.SameAnswer) (p.properties lower) ((p.onPath path).properties lower) := by
  unfold properties
  refine refusing_guarded ?_
  refine refusing.bind (namedProperties_relocated hl) fun _ _ hnamed => ?_
  refine refusing.bind (patternProperties_relocated hl) fun made made' hmade => ?_
  obtain ⟨matched, patterns⟩ := made
  obtain ⟨matched', patterns'⟩ := made'
  obtain ⟨hmatched, rfl⟩ : List.Forall₂ Node.SameAnswer matched matched' ∧ patterns' = patterns := hmade
  refine refusing.bind (additionalProperties_relocated hl patterns') fun _ _ hothers => ?_
  exact refusing.pure (List.rel_append (List.rel_append hnamed hmatched) hothers)

theorem branchesFrom_relocated (ss : List Json) : ∀ start,
    refusing.Runs (List.Forall₂ Node.SameAnswer) (p.branchesFrom lower start ss)
      ((p.onPath path).branchesFrom lower start ss) := by
  induction ss with
  | nil => exact fun _ => refusing.pure .nil
  | cons s rest ih =>
    intro start
    exact refusing.bind (hl s _ _) fun _ _ hbody => refusing.bind (ih (start + 1)) fun _ _ hothers =>
      refusing.pure (.cons hbody hothers)

theorem branches_relocated :
    refusing.Runs (List.Forall₂ Node.SameAnswer) (p.branches lower) ((p.onPath path).branches lower) := by
  unfold branches
  rw [show (p.onPath path).schema = p.schema from rfl]
  cases p.schema.arr?.getD [] with
  | nil => exact refusing_refused _ _
  | cons s rest => exact branchesFrom_relocated hl (s :: rest) 0

theorem branch_relocated (keyword : String) :
    refusing.Runs Node.SameAnswer (p.branch lower keyword) ((p.onPath path).branch lower keyword) := by
  unfold branch
  rw [show (p.onPath path).sibling? = p.sibling? from rfl]
  cases p.sibling? keyword with
  | none => exact refusing.pure (.refl _)
  | some s => exact hl _ _ _

theorem ifThenElse_relocated :
    refusing.Runs (List.Forall₂ Node.SameAnswer) (p.ifThenElse lower) ((p.onPath path).ifThenElse lower) := by
  have hall : ∀ s, refusing.Runs (List.Forall₂ Node.SameAnswer)
      (do
        let condition ← lower s (p.inside "if")
        let thenBranch ← p.branch lower "then"
        let elseBranch ← p.branch lower "else"
        return [Node.ifThenElse condition thenBranch elseBranch
          (p.site (.fixed "should match \"then\" schema" (.obj [("failingKeyword", "then")])))])
      (do
        let condition ← lower s ((p.onPath path).inside "if")
        let thenBranch ← (p.onPath path).branch lower "then"
        let elseBranch ← (p.onPath path).branch lower "else"
        return [Node.ifThenElse condition thenBranch elseBranch
          ((p.onPath path).site (.fixed "should match \"then\" schema" (.obj [("failingKeyword", "then")])))]) := by
    intro s
    refine refusing.bind (hl s _ _) fun _ _ hc => refusing.bind (branch_relocated hl _) fun _ _ ht => ?_
    refine refusing.bind (branch_relocated hl _) fun _ _ he => refusing.pure (.cons ?_ .nil)
    exact Node.SameAnswer.congruence.ifThenElse hc ht he trivial
  unfold ifThenElse
  rw [show (p.onPath path).schema = p.schema from rfl, show (p.onPath path).sibling? = p.sibling? from rfl]
  cases p.schema with
  | null => exact refusing.pure .nil
  | _ =>
    cases p.sibling? "then" <;> cases p.sibling? "else" <;> first | exact refusing.pure .nil | exact hall _

/-- **A keyword of draft-07 contributes nodes with the same answers at another path.** -/
theorem builtin_relocated (k : BuiltinKeyword) :
    refusing.Runs (List.Forall₂ Node.SameAnswer) (p.builtin lower k) ((p.onPath path).builtin lower k) := by
  have C := Node.SameAnswer.congruence
  cases k with
  | multipleOf =>
    exact refusing.bind (refusing_lifted multipleOf_relocated) fun _ _ h => refusing.pure (.cons h .nil)
  | format => exact refusing_lifted format_relocated
  | pattern => exact refusing.bind (refusing_lifted pattern_relocated) fun _ _ h => refusing.pure (.cons h .nil)
  | items => exact items_relocated hl
  | contains => exact refusing.bind (hl _ _ _) fun _ _ h => refusing.pure (.cons (C.contains h trivial) .nil)
  | required => exact refusing_lifted required_relocated
  | dependencies => exact dependencies_relocated hl
  | propertyNames => exact part_relocated hl fun _ _ h => C.propertyNames h trivial
  | properties => exact properties_relocated hl
  | ref =>
    refine refusing.bind (procedureOf_relocated _) ?_
    rintro i _ rfl
    exact refusing.pure (.cons (.refl _) .nil)
  | not => exact refusing.bind (hl _ _ _) fun _ _ h => refusing.pure (.cons (C.not h trivial) .nil)
  | anyOf =>
    exact refusing.bind (branches_relocated hl) fun _ _ h => refusing.pure (.cons (C.anyOf h trivial) .nil)
  | oneOf =>
    exact refusing.bind (branches_relocated hl) fun _ _ h => refusing.pure (.cons (C.oneOf h trivial) .nil)
  | allOf => exact branches_relocated hl
  | ifThenElse => exact ifThenElse_relocated hl
  | _ => exact refusing.pure (check_relocated_single _ _)

end

/-! ### Custom keywords -/

section

variable {lower : Lower} {p : KeywordPlace} {path : String}

theorem codeChecks_relocated (actions : List CodeAction) : ∀ text,
    List.Forall₂ Node.SameAnswer (p.codeChecks text actions) ((p.onPath path).codeChecks text actions) := by
  induction actions with
  | nil => exact fun _ => .nil
  | cons action rest ih =>
    intro text
    cases action with
    | setParams params => exact ih _
    | fail condition => exact .cons (check_relocated _ _) (ih text)
    | ok condition => exact .cons (check_relocated _ _) (ih text)

theorem custom_relocated (hl : lower.IgnoresPath) {d : KeywordDefinition} (hd : d.IgnoresPath) :
    refusing.Runs (List.Forall₂ Node.SameAnswer) (p.custom lower d) ((p.onPath path).custom lower d) := by
  have hlogic : refusing.Runs (fun made made' => List.Forall₂ Node.SameAnswer made.1 made'.1)
      (p.customLogic lower d) ((p.onPath path).customLogic lower d) := by
    unfold customLogic
    cases hcode : d.code with
    | some code =>
      have hview : code (p.onPath path).view = code p.view := hd code hcode p.view _
      dsimp only
      rw [hview]
      refine refusing.bind (refusing.lifted (code p.view)) ?_
      rintro actions _ rfl
      exact refusing.pure (codeChecks_relocated _ _)
    | none =>
      cases d.validate with
      | some validate => exact refusing.pure (check_relocated_single _ _)
      | none =>
        cases d.compile with
        | some compile =>
          have hchecked : Together Eq ((compile p.schema p.parent).mapError p.error)
              ((compile p.schema p.parent).mapError (p.onPath path).error) := by
            cases compile p.schema p.parent with
            | error message => exact .refused _ _
            | ok check => exact .done rfl
          refine refusing.bind (refusing_lifted hchecked) ?_
          rintro check _ rfl
          exact refusing.pure (check_relocated_single _ _)
        | none =>
          cases d.expand with
          | some expand => exact refusing.bind (hl _ _ _) fun _ _ h => refusing.pure (.cons h .nil)
          | none => exact refusing.pure .nil
  refine refusing.bind hlogic fun made made' hmade => refusing.pure ?_
  split
  · exact .nil
  · exact .cons (.reject _ _) .nil
  · exact hmade

end

end KeywordPlace

/-! ## Rules, groups and schemas -/

section

open Pairing

variable {lower : Lower} {env : Environment} {members : List (String × Json)} {position : Position}
  {path : String}

/-- A value that is taken from the data is so at every path. -/
theorem Rule.dataRef_relocated (rule : Rule) (options : Options) (path path' : String) (value : Option Json) :
    Together Eq (rule.dataRef options path value) (rule.dataRef options path' value) := by
  unfold Rule.dataRef
  cases value.bind DataRef.pointerOf? with
  | none => exact .done rfl
  | some pointer =>
    dsimp only
    split
    · cases DataRef.parse? pointer with
      | some r => exact .done rfl
      | none => exact .refused _ _
    · exact .done rfl

/-- A value that may be written may be so at every path. -/
theorem Rule.checkValue_relocated (rule : Rule) (path path' : String) (value : Json) :
    Together Eq (rule.checkValue path value) (rule.checkValue path' value) := by
  unfold Rule.checkValue
  split
  · exact .refused _ _
  · dsimp only
    cases rule.metaValidator with
    | none => exact .done rfl
    | some v =>
      dsimp only [Option.map_some]
      cases v.validate value with
      | valid => exact .done rfl
      | invalid violations => exact .refused _ _
      | endless => exact .refused _ _

/-- The check of a literal value, with what is done after it. -/
theorem Rule.checkValue_bind_relocated {rule : Rule} {path path' : String} {data : Option DataRef}
    {value : Option Json} {g g' : Unit → LowerM Node} (hg : refusing.Runs Node.SameAnswer (g ()) (g' ())) :
    refusing.Runs Node.SameAnswer
      (match (data, value) with
        | (none, some v) => liftExcept (rule.checkValue path v) >>= g
        | _ => g ())
      (match (data, value) with
        | (none, some v) => liftExcept (rule.checkValue path' v) >>= g'
        | _ => g' ()) := by
  split
  · exact refusing.bind (refusing_lifted (rule.checkValue_relocated _ _ _)) fun _ _ _ => hg
  · exact hg

theorem Rule.lower_relocated (hl : lower.IgnoresPath) {rule : Rule}
    (hd : ∀ d, rule.implementation = .custom d → d.IgnoresPath) :
    refusing.Runs Node.SameAnswer (rule.lower lower env members position)
      (rule.lower lower env members (position.onPath path)) := by
  have C := Node.SameAnswer.congruence
  unfold Rule.lower
  refine refusing.bind (refusing_lifted (rule.dataRef_relocated _ _ _ _)) ?_
  rintro data _ rfl
  apply Rule.checkValue_bind_relocated
  cases hrule : rule.implementation with
  | builtin k =>
    exact refusing.bind (KeywordPlace.builtin_relocated hl k) fun _ _ h => refusing.pure (C.conj h)
  | custom d =>
    exact refusing.bind (KeywordPlace.custom_relocated hl (hd d hrule)) fun _ _ h => refusing.pure (C.conj h)

theorem RuleGroup.lower_relocated (hl : lower.IgnoresPath) {group : RuleGroup}
    (hd : ∀ rule ∈ group.rules, ∀ d, rule.implementation = .custom d → d.IgnoresPath) (onlyRef : Bool) :
    refusing.Runs Node.SameAnswer (group.lower lower env members position onlyRef)
      (group.lower lower env members (position.onPath path) onlyRef) := by
  have C := Node.SameAnswer.congruence
  rw [lower_eq, lower_eq]
  refine refusing.bind (Pairing.mapM (R := Node.SameAnswer) fun rule hrule => ?_) fun _ _ hnodes =>
    refusing.pure ?_
  · exact Rule.lower_relocated hl (hd rule (List.mem_of_mem_filter hrule))
  · exact around_congruent C group (C.conj hnodes)

/-- What a schema must not have is refused at every path. -/
theorem Environment.checkKeywords_relocated (env : Environment) (path path' : String) :
    Together Eq (env.checkKeywords path members) (env.checkKeywords path' members) := by
  unfold checkKeywords
  split
  · split
    · exact .refused _ _
    · exact .done rfl
  · exact .done rfl

theorem declaredTypes_relocated (path path' : String) :
    Together Eq (declaredTypes path members) (declaredTypes path' members) := by
  unfold declaredTypes
  split
  · exact .done rfl
  · split
    · exact .done rfl
    · exact .refused _ _

theorem lowerObject_relocated (hl : lower.IgnoresPath) (henv : env.registry.IgnoresPath) :
    refusing.Runs Node.SameAnswer (lowerObject lower env members position)
      (lowerObject lower env members (position.onPath path)) := by
  have C := Node.SameAnswer.congruence
  have hgroups : ∀ declared : Option (List DataType), refusing.Runs Node.SameAnswer
      (do
        let nodes ← (env.registry.groups.filter (·.concerns declared)).mapM
          (RuleGroup.lower lower env members position (env.onlyRef members))
        return Node.conj ((declared.map (typeNode position.schemaPath members)).toList ++ nodes))
      (do
        let nodes ← (env.registry.groups.filter (·.concerns declared)).mapM
          (RuleGroup.lower lower env members (position.onPath path) (env.onlyRef members))
        return Node.conj ((declared.map (typeNode path members)).toList ++ nodes)) := by
    intro declared
    refine refusing.bind (Pairing.mapM fun group hgroup =>
      RuleGroup.lower_relocated hl (henv group (List.mem_of_mem_filter hgroup)) _) fun nodes nodes' hnodes => ?_
    refine refusing.pure (C.conj (List.rel_append ?_ hnodes))
    cases declared with
    | none => exact .nil
    | some types => exact .cons (.type types _ _) .nil
  unfold lowerObject
  show refusing.Runs _ (if env.onlyRef members then _ else _) (if env.onlyRef members then _ else _)
  split
  · refine refusing.bind (R := Eq) (refusing.pure rfl) ?_
    rintro declared _ rfl
    exact hgroups declared
  · refine refusing.bind (refusing_lifted (env.checkKeywords_relocated _ _)) fun _ _ _ => ?_
    refine refusing.bind (refusing_lifted (declaredTypes_relocated _ _)) ?_
    rintro declared _ rfl
    exact hgroups declared

/-- **A schema is lowered alike at all paths**: it is refused at both, or the nodes have the same answers and
    the procedures are the same. -/
theorem lowerSchema_relocated (henv : env.registry.IgnoresPath) (budget : Nat) :
    (lowerSchema env budget).IgnoresPath := by
  induction budget with
  | zero =>
    intro s position path
    rw [lowerSchema, lowerSchema]
    exact refusing_refused _ _
  | succ budget ih =>
    intro s position path
    cases s with
    | obj members =>
      rw [lowerSchema, lowerSchema]
      refine refusing.bind (refusing.lifted _) ?_
      rintro base _ rfl
      exact lowerObject_relocated ih henv
    | bool allowed =>
      cases allowed with
      | true => exact refusing.pure (.refl _)
      | false => exact refusing.pure (.reject _ _)
    | _ => exact refusing_refused _ _

end

end JsonSchema
