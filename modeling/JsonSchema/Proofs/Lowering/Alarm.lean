import JsonSchema.Proofs.Lowering.Lockstep

/-!
# Lowering with an alarm

Whether lowering a schema comes to an object with certain members is told by a way of lowering that
refuses such objects with an error of one's choice (`lowerUntil`): it comes to one if it ends with that
error, whichever was chosen.  **Until the alarm is raised, lowering with and without it are the same**
(`lowerUntil_cases`).

A budget that is exceeded is an alarm as well: with a larger one lowering does the same until then
(`lowerSchema_of_le`).
-/

set_option autoImplicit false

namespace JsonSchema

/-- Whether an object has a member of one of the names. -/
def hasAny (names : List String) (members : List (String × Json)) : Bool :=
  names.any fun name => (members.lookup name).isSome

/-- Lowers a schema, but refuses it with the alarm where it comes to an object with one of the names. -/
def lowerUntil (env : Environment) (names : List String) (alarm : SchemaError) : (budget : Nat) → Lower
  | 0, _, _ => refuse .tooDeep
  | budget + 1, .obj members, position => do
    let base ← liftExcept (schemaBase (.obj members) position.base)
    if hasAny names members then refuse alarm
    else lowerObject (lowerUntil env names alarm budget) env members { position with base }
  | budget + 1, schema, position => lowerSchema env (budget + 1) schema position

/-! ## The same until the alarm -/

/-- The first run ends with the alarm, or both end alike. -/
def AlikeUntil (alarm : SchemaError) {α β : Type} (R : α → β → Prop) (m : LowerM α) (m' : LowerM β) :
    Prop :=
  ∀ procedures, m procedures = .error alarm ∨
    LowerM.Mirrored .plain R (m procedures) (m' procedures)

/-- Being alike until an alarm goes along with sequences of steps. -/
def Pairing.untilAlarm (alarm : SchemaError) : Pairing where
  Runs := AlikeUntil alarm
  left := id
  right := id
  pure h := fun _ => .inr (.done h rfl)
  bind := by
    intro α β γ δ R S m m' f f' hm hf procedures
    show (m procedures >>= fun r => f r.1 r.2) = _ ∨
      LowerM.Mirrored _ S (m procedures >>= fun r => f r.1 r.2) (m' procedures >>= fun r => f' r.1 r.2)
    rcases hm procedures with halarm | hsame
    · rw [halarm]
      exact .inl rfl
    · revert hsame
      generalize m procedures = x
      generalize m' procedures = x'
      rintro (he | ⟨hab, rfl⟩)
      · exact .inr (.refused he)
      · exact hf _ _ hab _
  lifted x := fun procedures => .inr (Mirror.lifted_mirrorsBy x procedures procedures rfl)

section

variable {env : Environment} {names : List String} {alarm : SchemaError} {lower lower' : Lower}

/-- The nodes are the same, since the numbers of the procedures are. -/
theorem untilAlarm_nodes {n n' : Node} : (Pairing.untilAlarm alarm).Nodes n n' ↔ n = n' := by
  unfold Pairing.Nodes
  rw [show (Pairing.untilAlarm alarm).left = id from rfl,
    show (Pairing.untilAlarm alarm).right = id from rfl, Node.renumber_id, Node.renumber_id]

/-- The procedure of a reference is found in both ways, or its target is lowered in both. -/
theorem KeywordPlace.procedureOf_alikeUntil (h : ∀ schema position,
      AlikeUntil alarm Eq (lower schema position) (lower' schema position))
    (p : KeywordPlace) (reference : String) :
    AlikeUntil alarm Eq (p.procedureOf lower reference) (p.procedureOf lower' reference) := by
  intro procedures
  rw [procedureOf_eq, procedureOf_eq]
  cases p.env.documents.resolve p.position.base reference with
  | error e => exact .inr (.refused rfl)
  | ok target =>
    dsimp only
    cases procedures.findIdx? (·.target.key = target.key) with
    | some i =>
      dsimp only
      split
      · exact .inr (.refused rfl)
      · exact .inr (.done rfl rfl)
    | none =>
      dsimp only
      have hbody := h target.schema (.ofTarget target p.position.descents)
        (procedures ++ [⟨target, p.position.descents, none⟩])
      rcases hbody with halarm | hsame
      · rw [halarm]
        exact .inl rfl
      · revert hsame
        generalize lower target.schema _ _ = made
        generalize lower' target.schema _ _ = made'
        rintro (he | ⟨rfl, rfl⟩)
        · exact .inr (.refused he)
        · exact .inr (.done rfl rfl)

/-- **An object is lowered alike until the alarm if the schemas that it hands on are.** -/
theorem lowerObject_alikeUntil (h : ∀ schema position,
      AlikeUntil alarm Eq (lower schema position) (lower' schema position))
    (members : List (String × Json)) (position : Position) :
    AlikeUntil alarm Eq (lowerObject lower env members position)
      (lowerObject lower' env members position) := by
  have hon : ∀ deeper s, (Pairing.untilAlarm alarm).On lower lower' position position.base
      position.descents deeper s := by
    rintro deeper s ⟨schemaPath, dataPath, dataLevel, base, descents⟩ rfl rfl
    exact Pairing.weaken (P := .untilAlarm alarm) (h s _) fun _ _ => untilAlarm_nodes.mpr
  have hobject : (Pairing.untilAlarm alarm).Runs (Pairing.untilAlarm alarm).Nodes
      (lowerObject lower env members position)
      (lowerObject lower' (env.among env.documents) members
        (position.moved position.base position.descents)) :=
    lowerObject_paired fun rule _ =>
      ⟨fun _ _ _ _ _ => hon _ _, fun _ _ => KeywordPlace.procedureOf_alikeUntil h _ _,
        fun _ _ _ _ => hon _ _⟩
  exact Pairing.weaken (P := .untilAlarm alarm) hobject fun _ _ => untilAlarm_nodes.mp

theorem AlikeUntil.self (m : LowerM Node) : AlikeUntil alarm Eq m m := by
  intro procedures
  cases m procedures with
  | error e => exact .inr (.refused rfl)
  | ok r => exact .inr (.done rfl rfl)

/-- A run that ends with the alarm, or like another, does the same as the other if it does not end with it. -/
theorem AlikeUntil.cases {m m' : LowerM Node} (h : AlikeUntil alarm Eq m m') (procedures : List Procedure) :
    m procedures = .error alarm ∨ m procedures = m' procedures := by
  refine (h procedures).imp_right fun hsame => ?_
  revert hsame
  generalize m procedures = x
  generalize m' procedures = x'
  rintro (rfl | ⟨rfl, rfl⟩) <;> rfl

/-- Lowering with the alarm ends with it or like lowering without. -/
theorem lowerUntil_alike (budget : Nat) : ∀ schema position,
    AlikeUntil alarm Eq (lowerUntil env names alarm budget schema position)
      (lowerSchema env budget schema position) := by
  induction budget with
  | zero =>
    intro schema position
    rw [lowerUntil, lowerSchema]
    exact .self _
  | succ budget ih =>
    intro schema position
    cases schema with
    | obj members =>
      rw [lowerUntil, lowerSchema]
      refine (Pairing.untilAlarm alarm).bind ((Pairing.untilAlarm alarm).lifted _) fun base _ heq => ?_
      subst heq
      split
      · exact fun _ => .inl rfl
      · exact lowerObject_alikeUntil ih _ _
    | _ =>
      rw [lowerUntil]
      · exact .self _
      · exact fun _ => Json.noConfusion

/-- **Lowering with an alarm raises it, or does what lowering does.** -/
theorem lowerUntil_cases (budget : Nat) (schema : Json) (position : Position)
    (procedures : List Procedure) :
    lowerUntil env names alarm budget schema position procedures = .error alarm ∨
      lowerUntil env names alarm budget schema position procedures =
        lowerSchema env budget schema position procedures :=
  (lowerUntil_alike budget schema position).cases procedures

/-! ## Larger budgets -/

/-- A budget is exceeded, or it makes no difference. -/
theorem lowerSchema_alike_of_le {budget budget' : Nat} (hle : budget ≤ budget') : ∀ schema position,
    AlikeUntil .tooDeep Eq (lowerSchema env budget schema position)
      (lowerSchema env budget' schema position) := by
  induction budget generalizing budget' with
  | zero =>
    intro schema position procedures
    rw [lowerSchema]
    exact .inl rfl
  | succ budget ih =>
    obtain ⟨budget', rfl⟩ : ∃ b, budget' = b + 1 := Nat.exists_eq_succ_of_ne_zero (by omega)
    intro schema position
    cases schema with
    | obj members =>
      rw [lowerSchema, lowerSchema]
      refine (Pairing.untilAlarm .tooDeep).bind ((Pairing.untilAlarm .tooDeep).lifted _) fun base _ heq => ?_
      subst heq
      exact lowerObject_alikeUntil (ih (Nat.le_of_succ_le_succ hle)) _ _
    | bool allowed => cases allowed <;> exact .self _
    | _ => exact .self _

/-- **A larger budget makes a difference only where the smaller one was exceeded.** -/
theorem lowerSchema_of_le {budget budget' : Nat} (hle : budget ≤ budget') (schema : Json)
    (position : Position) (procedures : List Procedure) :
    lowerSchema env budget schema position procedures = .error .tooDeep ∨
      lowerSchema env budget schema position procedures =
        lowerSchema env budget' schema position procedures :=
  (lowerSchema_alike_of_le hle schema position).cases procedures

/-- What can be lowered under one budget is lowered alike under every other that it does not exceed. -/
theorem lowerSchema_budget {budget : Nat} {schema : Json} {position : Position} {procedures : List Procedure}
    {result : Node × List Procedure} (h : lowerSchema env budget schema position procedures = .ok result)
    (budget' : Nat) :
    lowerSchema env budget' schema position procedures = .error .tooDeep ∨
      lowerSchema env budget' schema position procedures = .ok result := by
  rcases Nat.le_total budget' budget with hle | hle
  · rcases lowerSchema_of_le hle schema position procedures with hdeep | heq
    · exact .inl hdeep
    · exact .inr (heq.trans h)
  · rcases lowerSchema_of_le hle schema position procedures with hdeep | heq
    · cases hdeep.symm.trans h
    · exact .inr (heq.symm.trans h)

end

end JsonSchema
