import JsonSchema.Proofs.Lowering.Objects

/-!
# Two runs of lowering that mirror each other

A run *mirrors* another (`LowerM.Mirrors`) if on mirrored procedures both refuse, with mirrored errors,
or the answer of the one is the mirrored answer of the other.  This is a pairing (`Mirror.pairing`), so
an object mirrors itself if what it does with its subschemas and its references does
(`lowerObject_mirrors`).

Two facts about lowering come out of this.  **Lowering depends on the ways of lowering the schemas it
hands on, and on no others**: two `Lower`s that agree on `KeywordPlace.Applies` give the same result.
And **it sees documents and bases through references only**: the right side may stand among other
documents and at another base (`KeywordPlace.elsewhere`), with procedures under other numbers
(`Node.renumber`).
-/

set_option autoImplicit false

namespace JsonSchema

/-- What a run looks like in the mirror. -/
structure Mirror where
  /-- The lists of procedures that mirror each other. -/
  procedures : List Procedure → List Procedure → Prop
  /-- The refusals that do. -/
  errors : SchemaError → SchemaError → Prop
  same : ∀ e, errors e e
  /-- The number of a procedure in the mirror. -/
  number : Nat → Nat

/-- The mirror in which everything looks as it is. -/
def Mirror.plain : Mirror := ⟨Eq, Eq, fun _ => rfl, id⟩

namespace LowerM

/-- Both runs refuse, or both answer, with related answers. -/
inductive Mirrored (M : Mirror) {α β : Type} (R : α → β → Prop) :
    Except SchemaError (α × List Procedure) → Except SchemaError (β × List Procedure) → Prop where
  | refused {e e' : SchemaError} : M.errors e e' → Mirrored M R (.error e) (.error e')
  | done {a : α} {b : β} {after after' : List Procedure} : R a b → M.procedures after after' →
      Mirrored M R (.ok (a, after)) (.ok (b, after'))

/-- On mirrored procedures both runs refuse, or both answer, with related answers. -/
def MirrorsBy {α β : Type} (M : Mirror) (R : α → β → Prop) (m : LowerM α) (m' : LowerM β) : Prop :=
  ∀ procedures procedures', M.procedures procedures procedures' →
    Mirrored M R (m procedures) (m' procedures')

/-- On mirrored procedures, `m'` does what `m` does in the mirror. -/
def Mirrors {α β : Type} (M : Mirror) (ρ : α → β) (m : LowerM α) (m' : LowerM β) : Prop :=
  MirrorsBy M (fun a b => b = ρ a) m m'

end LowerM

open LowerM

theorem Mirror.bind_mirrorsBy {M : Mirror} {α β γ δ : Type} {R : α → β → Prop} {S : γ → δ → Prop}
    {m : LowerM α} {m' : LowerM β} {f : α → LowerM γ} {f' : β → LowerM δ} (hm : MirrorsBy M R m m')
    (hf : ∀ a b, R a b → MirrorsBy M S (f a) (f' b)) : MirrorsBy M S (m >>= f) (m' >>= f') := by
  intro procedures procedures' hprocedures
  show Mirrored M S (m procedures >>= fun r => f r.1 r.2) (m' procedures' >>= fun r => f' r.1 r.2)
  have hfirst := hm procedures procedures' hprocedures
  revert hfirst
  generalize m procedures = x
  generalize m' procedures' = x'
  rintro (he | ⟨hab, hafter⟩)
  · exact .refused he
  · exact hf _ _ hab _ _ hafter

theorem Mirror.lifted_mirrorsBy {M : Mirror} {α : Type} (x : Except SchemaError α) :
    MirrorsBy M Eq (liftExcept x) (liftExcept x) := by
  intro procedures procedures' hprocedures
  cases x with
  | error e => exact .refused (M.same e)
  | ok a => exact .done rfl hprocedures

/-- Mirroring goes along with sequences of steps. -/
def Mirror.pairing (M : Mirror) : Pairing where
  Runs := MirrorsBy M
  left := M.number
  right := id
  pure h := fun _ _ hprocedures => .done h hprocedures
  bind := M.bind_mirrorsBy
  lifted x := M.lifted_mirrorsBy x

namespace LowerM

variable {α β : Type} {M : Mirror} {ρ : α → β}

theorem Mirrors.pure {a : α} {b : β} (h : b = ρ a) : Mirrors M ρ (Pure.pure a) (Pure.pure b) :=
  M.pairing.pure h

theorem Mirrors.refuse (e : SchemaError) : Mirrors M ρ (refuse e) (refuse e) := Pairing.refused (P := M.pairing) e

/-- In the plain mirror, runs that do the same mirror each other, and no others. -/
theorem mirrors_plain {ρ : α → α} (hρ : ∀ a, ρ a = a) {m m' : LowerM α} :
    Mirrors .plain ρ m m' ↔ m' = m := by
  constructor
  · intro h
    funext procedures
    have hmirrored := h procedures procedures rfl
    revert hmirrored
    generalize m procedures = x
    generalize m' procedures = x'
    rintro (he | ⟨rfl, hafter⟩)
    · exact congrArg Except.error (Eq.symm he)
    · rw [hρ, show _ = _ from hafter]
  · rintro rfl procedures _ rfl
    cases m' procedures with
    | error e => exact .refused rfl
    | ok r => exact .done (hρ r.1).symm rfl

end LowerM

/-! ## Schemas and objects -/

/-- In the mirror, bodies have other numbers. -/
theorem Mirror.pairing_nodes {M : Mirror} {n n' : Node} :
    M.pairing.Nodes n n' ↔ n' = n.renumber M.number := by
  unfold Pairing.Nodes
  rw [show M.pairing.right = id from rfl, Node.renumber_id]
  exact eq_comm

namespace KeywordPlace

/-- The same place among other documents and at another base. -/
def moved (p : KeywordPlace) (documents : Documents) (base : Uri) : KeywordPlace :=
  { p with env := { p.env with documents }, position := { p.position with base } }

/-- Two ways of lowering mirror each other on a schema, where references have the given bases. -/
def MirrorOn (M : Mirror) (lower lower' : Lower) (base base' : Uri) (s : Json) : Prop :=
  ∀ position : Position, position.base = base →
    Mirrors M (Node.renumber M.number) (lower s position) (lower' s { position with base := base' })

variable {lower lower' : Lower} {base base' : Uri} {M : Mirror} {s : Json}

/-- In the plain mirror, ways of lowering that do the same mirror each other. -/
theorem mirrorOn_plain (h : ∀ position : Position, position.base = base → lower' s position = lower s position) :
    MirrorOn .plain lower lower' base base s := by
  rintro position rfl
  exact (mirrors_plain Node.renumber_id).mpr (h position rfl)

/-- Mirroring does not depend on how deep in the data a schema stands. -/
theorem MirrorOn.paired {p : Position} {deeper : Nat} (h : MirrorOn M lower lower' p.base base' s) :
    M.pairing.On lower lower' p base' p.descents deeper s := by
  intro position hbase hdescents
  refine Pairing.weaken ?_ fun _ _ => M.pairing_nodes.mpr
  rw [← hdescents]
  exact h position hbase

end KeywordPlace

section

variable {lower lower' : Lower} {env : Environment} {members : List (String × Json)}
  {position : Position} {documents : Documents} {base' : Uri} {M : Mirror}

/-- The schemas that a rule hands on and the procedure of its reference are mirrored. -/
structure Rule.PartsMirror (rule : Rule) (env : Environment) (documents : Documents)
    (members : List (String × Json)) (position : Position) (base' : Uri) (M : Mirror)
    (lower lower' : Lower) : Prop where
  applied : ∀ k data s, rule.implementation = .builtin k →
    (rule.place env members position data).Applies k s →
    KeywordPlace.MirrorOn M lower lower' position.base base' s
  referred : ∀ data, rule.implementation = .builtin .ref →
    Mirrors M M.number ((rule.place env members position data).procedureOf lower (rule.reference members))
      (((rule.place env members position data).moved documents base').procedureOf lower'
        (rule.reference members))
  expanded : ∀ d expand, rule.implementation = .custom d → d.expand = some expand →
    KeywordPlace.MirrorOn M lower lower' position.base base'
      (expand ((members.lookup rule.keyword).getD .null) members)

/-- **Lowering an object mirrors what is done with the schemas that it hands on**, with the same choice of
    groups. -/
theorem lowerObjectOf_mirrors {groups : GroupChoice} (hgroups : groups.Within env.registry)
    (h : ∀ rule, env.Reads members rule →
      rule.PartsMirror env documents members position base' M lower lower') :
    Mirrors M (Node.renumber M.number) (lowerObjectOf groups lower env members position)
      (lowerObjectOf groups lower' (env.among documents) members { position with base := base' }) := by
  have hpaired : M.pairing.Runs M.pairing.Nodes (lowerObjectOf groups lower env members position)
      (lowerObjectOf groups lower' (env.among documents) members
        (position.moved base' position.descents)) := by
    refine lowerObjectOf_paired hgroups fun rule hreads => ?_
    have hparts := h rule hreads
    refine ⟨fun k data s hrule hs => (hparts.applied k data s hrule hs).paired, fun data hrule => ?_,
      fun d expand hrule hd => (hparts.expanded d expand hrule hd).paired⟩
    exact Pairing.weaken (hparts.referred data hrule) fun _ _ => Eq.symm
  exact Pairing.weaken hpaired fun _ _ => M.pairing_nodes.mp

/-- **Lowering an object mirrors what is done with the schemas that it hands on.** -/
theorem lowerObject_mirrors
    (h : ∀ rule, env.Reads members rule →
      rule.PartsMirror env documents members position base' M lower lower') :
    Mirrors M (Node.renumber M.number) (lowerObject lower env members position)
      (lowerObject lower' (env.among documents) members { position with base := base' }) :=
  lowerObjectOf_mirrors env.registry.concernedGroups_within h

end
end JsonSchema
