import JsonSchema.Proofs.Lowering.Lockstep

/-!
# Where refusals come from

`LowerM.Refuses I E m`: if `I` holds of the procedures so far, then `m` either succeeds and leaves `I`, or
fails with an error of `E`.  An error of a keyword comes from a schema that it lowers, from its reference or
from the keyword itself (`KeywordPlace.builtin_refuses`), **and no keyword by itself says that a reference
loops or that a schema is too deep** (`SchemaError.IsOwn`).  Only what others have written can: the checks of a
keyword's values, and the code of custom keywords.
-/

set_option autoImplicit false

namespace JsonSchema

/-! ## What is said by itself -/

/-- What is said of a reference that loops. -/
def loopMessage (reference : String) : String := s!"reference {reference} loops back without moving into the data"

/-- The refusal of a reference that loops. -/
def loopError (path reference : String) : SchemaError := .compilation "$ref" path (loopMessage reference)

theorem loopError_inj {path path' reference reference' : String}
    (h : loopError path reference = loopError path' reference') : path = path' ∧ reference = reference' := by
  obtain ⟨-, rfl, hmessage⟩ := SchemaError.compilation.inj h
  refine ⟨rfl, String.toList_injective ?_⟩
  simpa [loopMessage, toString] using congrArg String.toList hmessage

/-- The error says that a reference loops. -/
def SchemaError.IsLoop (e : SchemaError) : Prop := ∃ path reference, e = loopError path reference

/-- No other message begins like that of a loop. -/
theorem SchemaError.not_isLoop_of_head? {keyword path message : String} (h : message.toList.head? ≠ some 'r') :
    ¬ (compilation keyword path message).IsLoop := by
  rintro ⟨path', reference, heq⟩
  obtain ⟨-, -, rfl⟩ := compilation.inj heq
  refine h ?_
  simp [loopMessage, toString]

/-- What fails does not say that a reference loops. -/
def SaysNoLoop {α : Type} (x : Except SchemaError α) : Prop := ∀ e, x = .error e → ¬ e.IsLoop

/-- The error says neither that a reference loops nor that a schema is too deep. -/
structure SchemaError.IsOwn (e : SchemaError) : Prop where
  not_isLoop : ¬ e.IsLoop
  ne_tooDeep : e ≠ .tooDeep

namespace SchemaError.IsOwn

theorem compilation {keyword path message : String} (h : message.toList.head? ≠ some 'r') :
    (SchemaError.compilation keyword path message).IsOwn := ⟨not_isLoop_of_head? h, nofun⟩

theorem other {e : SchemaError} (hcompilation : ∀ keyword path message, e ≠ .compilation keyword path message)
    (hdeep : e ≠ .tooDeep) : e.IsOwn :=
  ⟨fun ⟨path, reference, heq⟩ => hcompilation "$ref" path (loopMessage reference) heq, hdeep⟩

theorem invalidSchemaType (path : String) : (SchemaError.invalidSchemaType path).IsOwn :=
  .other (fun _ _ _ heq => by cases heq) fun heq => by cases heq

end SchemaError.IsOwn

/-- What fails says something of its own. -/
def SaysOwn {α : Type} (x : Except SchemaError α) : Prop := ∀ e, x = .error e → e.IsOwn

namespace SaysOwn

variable {α β : Type} {x : Except SchemaError α}

theorem ok {a : α} : SaysOwn (.ok a) := nofun

theorem error {e : SchemaError} (h : e.IsOwn) : SaysOwn (.error e : Except SchemaError α) := by
  intro e' he
  obtain rfl := Except.error.inj he
  exact h

theorem compilation {keyword path message : String} (h : message.toList.head? ≠ some 'r') :
    SaysOwn (.error (.compilation keyword path message) : Except SchemaError α) :=
  .error (.compilation h)

theorem bind {f : α → Except SchemaError β} (hx : SaysOwn x) (hf : ∀ a, SaysOwn (f a)) :
    SaysOwn (x >>= f) := by
  cases x with
  | error e => exact .error (hx e rfl)
  | ok a => exact hf a

theorem map (hx : SaysOwn x) (f : α → β) : SaysOwn (x.map f) := by
  cases x with
  | error e => exact .error (hx e rfl)
  | ok a => exact .ok

theorem mapM {f : β → Except SchemaError α} {xs : List β} (h : ∀ x ∈ xs, SaysOwn (f x)) :
    SaysOwn (xs.mapM f) := by
  induction xs with
  | nil =>
    rw [List.mapM_nil]
    exact .ok
  | cons x rest ih =>
    obtain ⟨hx, hrest⟩ := List.forall_mem_cons.mp h
    rw [List.mapM_cons]
    exact .bind hx fun _ => .bind (ih hrest) fun _ => .ok

theorem foldlM {f : β → α → Except SchemaError β} {xs : List α} (h : ∀ b x, SaysOwn (f b x)) :
    ∀ b, SaysOwn (xs.foldlM f b) := by
  induction xs with
  | nil => exact fun _ => .ok
  | cons x rest ih =>
    intro b
    rw [List.foldlM_cons]
    exact .bind (h b x) ih

end SaysOwn

/-! ## References -/

theorem resolveUri_saysOwn (base : Uri) (reference : String) : SaysOwn (resolveUri base reference) := by
  unfold resolveUri
  cases base.join reference with
  | error e => exact .error (.other nofun nofun)
  | ok u => exact .ok

theorem schemaBase_saysOwn (schema : Json) (base : Uri) : SaysOwn (schemaBase schema base) := by
  unfold schemaBase
  split
  · exact (resolveUri_saysOwn _ _).map _
  · exact .ok

namespace Documents

theorem follow_saysOwn (tokens : List String) : ∀ schema base, SaysOwn (follow schema base tokens) := by
  induction tokens with
  | nil => exact fun _ _ => .ok
  | cons token rest ih =>
    intro schema base
    rw [follow]
    split
    · exact .ok
    · exact .bind (schemaBase_saysOwn _ _) fun _ => ih _ _

theorem resolve_saysOwn (docs : Documents) (base : Uri) (reference : String) :
    SaysOwn (docs.resolve base reference) := by
  have hmissing : SaysOwn (.error (.missingRef reference base.text) : Except SchemaError Target) :=
    .error (.other nofun nofun)
  refine .bind (resolveUri_saysOwn _ _) fun u => ?_
  dsimp only
  split
  · split
    · exact .ok
    · exact hmissing
  · split
    · split
      · split
        · refine .bind (follow_saysOwn _ _ _) fun found => ?_
          split
          · exact .ok
          · exact hmissing
        · exact hmissing
      · exact hmissing
    · exact hmissing

theorem identify_saysOwn (docs : Documents) (base : Uri) (schema : Json) :
    SaysOwn (docs.identify base schema) := by
  unfold identify
  split
  · exact .ok
  · refine .bind (resolveUri_saysOwn _ _) fun u => ?_
    split
    · exact .ok
    · exact .ok

mutual

theorem index_saysOwn : ∀ (docs : Documents) (base : Uri) (v : Json), SaysOwn (docs.index base v)
  | docs, base, .obj members => by
    rw [index]
    exact .bind (identify_saysOwn _ _ _) fun r => indexMembers_saysOwn r.1 r.2 members
  | docs, base, .arr items => by
    rw [index]
    exact indexItems_saysOwn docs base items
  | docs, base, .null => .ok
  | docs, base, .bool _ => .ok
  | docs, base, .num _ => .ok
  | docs, base, .str _ => .ok

theorem indexItems_saysOwn : ∀ (docs : Documents) (base : Uri) (items : List Json),
    SaysOwn (docs.indexItems base items)
  | docs, base, [] => .ok
  | docs, base, v :: rest => by
    rw [indexItems]
    exact .bind (index_saysOwn docs base v) fun docs' => indexItems_saysOwn docs' base rest

theorem indexMembers_saysOwn : ∀ (docs : Documents) (base : Uri) (members : List (String × Json)),
    SaysOwn (docs.indexMembers base members)
  | docs, base, [] => .ok
  | docs, base, (name, v) :: rest => by
    rw [indexMembers]
    split
    · exact indexMembers_saysOwn docs base rest
    · exact .bind (index_saysOwn docs base v) fun docs' => indexMembers_saysOwn docs' base rest

end

theorem visibleFrom_saysOwn (root : Json) (base : Uri) (cache : Table String Json) :
    SaysOwn (visibleFrom root base cache) := by
  refine .bind (.foldlM (fun docs entry => ?_) _) fun docs => index_saysOwn _ _ _
  dsimp only
  cases Uri.parse entry.1 with
  | error e => exact .bind (.error (.other nofun nofun)) fun _ => index_saysOwn _ _ _
  | ok u => exact index_saysOwn _ _ _

end Documents

/-! ## Keywords without subschemas -/

namespace KeywordPlace

variable {p : KeywordPlace}

theorem propertyNames_saysOwn (names : Json) : SaysOwn (p.propertyNames names) := by
  refine .mapM fun name _ => ?_
  split
  · exact .ok
  · exact .compilation (by decide)

theorem multipleOf_saysOwn : SaysOwn p.multipleOf := by
  unfold multipleOf
  split
  · exact .bind (.compilation (by decide)) fun _ => .ok
  · exact .ok

theorem pattern_saysOwn : SaysOwn p.pattern := by
  unfold pattern
  dsimp only
  split
  · exact .ok
  · split
    · exact .ok
    · exact .error (.other nofun nofun)

theorem format_saysOwn : SaysOwn p.format := by
  unfold format
  dsimp only
  split
  · exact .ok
  · split
    · exact .ok
    · exact .error (.other nofun nofun)

theorem required_saysOwn : SaysOwn p.required :=
  .bind (propertyNames_saysOwn _) fun _ => .ok

theorem neededProperties_saysOwn (property : String) (names : Json) :
    SaysOwn (p.neededProperties property names) :=
  .bind (propertyNames_saysOwn _) fun _ => .ok

end KeywordPlace

/-! ## A triple for refusals -/

namespace LowerM

variable {α β : Type} {I : List Procedure → Prop} {E : SchemaError → Prop}

/-- Under `I`, success leaves `I`, and failure is one of `E`. -/
def Refuses (I : List Procedure → Prop) (E : SchemaError → Prop) (m : LowerM α) : Prop :=
  ∀ procedures, I procedures →
    (∀ a after, m procedures = .ok (a, after) → I after) ∧ ∀ e, m procedures = .error e → E e

theorem bind_eq_error {m : LowerM α} {f : α → LowerM β} {procedures : List Procedure} {e : SchemaError} :
    (m >>= f) procedures = .error e ↔
      m procedures = .error e ∨ ∃ a mid, m procedures = .ok (a, mid) ∧ f a mid = .error e := by
  show (m procedures >>= fun r => f r.1 r.2) = _ ↔ _
  cases m procedures with
  | error e' => simp [bind, Except.bind]
  | ok r =>
    obtain ⟨a, mid⟩ := r
    simp [bind, Except.bind]

theorem Refuses.pure {a : α} : Refuses I E (Pure.pure a) := by
  refine fun procedures hi => ⟨fun b after hm => ?_, fun e hm => (nomatch hm)⟩
  obtain ⟨-, rfl⟩ := pure_eq_ok.mp hm
  exact hi

theorem Refuses.refuse {e : SchemaError} (h : E e) : Refuses I E (JsonSchema.refuse e : LowerM α) := by
  refine fun procedures _ => ⟨fun b after hm => absurd hm refuse_ne_ok, fun e' hm => ?_⟩
  obtain rfl := Except.error.inj hm
  exact h

/-- What does not concern the procedures refuses by itself. -/
theorem Refuses.lifting {x : Except SchemaError α} (h : ∀ e, x = .error e → E e) :
    Refuses I E (liftExcept x) := by
  refine fun procedures hi => ⟨fun b after hm => ?_, fun e hm => h e ?_⟩
  · obtain ⟨-, rfl⟩ := liftExcept_eq_ok.mp hm
    exact hi
  · cases x with
    | error e' => exact congrArg _ (Except.error.inj hm)
    | ok a => cases hm

theorem Refuses.lifted {x : Except SchemaError α} (hown : ∀ e, e.IsOwn → E e) (h : SaysOwn x) :
    Refuses I E (liftExcept x) := .lifting fun e he => hown e (h e he)

theorem Refuses.bind {m : LowerM α} {f : α → LowerM β} (hm : Refuses I E m) (hf : ∀ a, Refuses I E (f a)) :
    Refuses I E (m >>= f) := by
  refine fun procedures hi => ⟨fun b after hmf => ?_, fun e hmf => ?_⟩
  · obtain ⟨a, mid, ha, hb⟩ := bind_eq_ok.mp hmf
    exact (hf a mid ((hm procedures hi).1 a mid ha)).1 b after hb
  · rcases bind_eq_error.mp hmf with he | ⟨a, mid, ha, he⟩
    · exact (hm procedures hi).2 e he
    · exact (hf a mid ((hm procedures hi).1 a mid ha)).2 e he

/-- A test in front of the rest. -/
theorem Refuses.guard {c : Prop} [Decidable c] {e : SchemaError} {f : β → LowerM α} {m : LowerM α}
    (he : E e) (h : Refuses I E m) : Refuses I E (if c then JsonSchema.refuse e >>= f else m) := by
  split
  · refine fun procedures _ => ⟨fun a after hm => ?_, fun e' hm => ?_⟩
    · obtain ⟨_, _, hr, _⟩ := bind_eq_ok.mp hm
      exact absurd hr refuse_ne_ok
    · obtain rfl := Except.error.inj hm
      exact he
  · exact h

theorem Refuses.mapM {f : α → LowerM β} {xs : List α} (h : ∀ x ∈ xs, Refuses I E (f x)) :
    Refuses I E (xs.mapM f) := by
  induction xs with
  | nil =>
    rw [List.mapM_nil]
    exact .pure
  | cons x rest ih =>
    obtain ⟨hx, hrest⟩ := List.forall_mem_cons.mp h
    rw [List.mapM_cons]
    exact .bind hx fun y => .bind (ih hrest) fun ys => .pure

end LowerM

open LowerM

/-! ## Keywords with subschemas -/

namespace KeywordPlace

/-- The schemas that a keyword applies to the data itself, and where they stand. -/
def Combines (p : KeywordPlace) (k : BuiltinKeyword) (s : Json) (relative : String) : Prop :=
  match k with
  | .allOf | .anyOf | .oneOf => ∃ ss i, p.schema = .arr ss ∧ (s, i) ∈ ss.zipIdx ∧ relative = s!"{p.keyword}/{i}"
  | .not => p.schema = s ∧ relative = "not"
  | .ifThenElse =>
    (p.schema = s ∧ relative = "if") ∨ (p.sibling? "then" = some s ∧ relative = "then") ∨
      (p.sibling? "else" = some s ∧ relative = "else")
  | .dependencies =>
    ∃ ms property, p.schema = .obj ms ∧ (property, s) ∈ ms ∧ s.arr? = none ∧
      relative = "dependencies/" ++ escapeToken property
  | _ => False

section

variable {lower : Lower} {p : KeywordPlace} {I : List Procedure → Prop} {E : SchemaError → Prop}
  (hown : ∀ e, e.IsOwn → E e)
  (hbelow : ∀ s at', at'.base = p.position.base → at'.descents = p.position.descents + 1 →
    Refuses I E (lower s at'))

include hbelow

/-- A part below the data. -/
theorem part_refuses (s : Json) (relative step : String) (around : Node → Node) :
    Refuses I E (do let body ← lower s (p.below relative step); return unlessPass body around) :=
  .bind (hbelow _ _ rfl rfl) fun _ => .pure

theorem tupleItems_refuses (tuple : List Json) : ∀ start, Refuses I E (p.tupleItems lower start tuple) := by
  induction tuple with
  | nil => exact fun _ => .pure
  | cons s rest ih => exact fun start => .bind (hbelow _ _ rfl rfl) fun _ => .bind (ih _) fun _ => .pure

include hown

theorem items_refuses : Refuses I E (p.items lower) := by
  unfold items
  refine .guard (hown _ (.compilation (by decide))) ?_
  cases p.schema with
  | null => exact .pure
  | arr tuple =>
    refine .bind (tupleItems_refuses hbelow tuple 0) fun fixed => ?_
    dsimp only
    split
    · exact .bind (part_refuses hbelow _ _ _ _) fun _ => .pure
    · exact .pure
  | _ => exact part_refuses hbelow _ _ _ _

theorem patternProperties_refuses : Refuses I E (p.patternProperties lower) := by
  refine .bind (.mapM fun m _ => ?_) fun _ => .pure
  obtain ⟨pattern, s⟩ := m
  dsimp only
  split
  · exact .bind (hbelow _ _ rfl rfl) fun _ => .pure
  · exact .refuse (hown _ (.other nofun nofun))

omit hown in
theorem additionalProperties_refuses (patterns : List Regex) :
    Refuses I E (p.additionalProperties lower patterns) := by
  unfold additionalProperties
  cases p.sibling? "additionalProperties" with
  | none => exact .pure
  | some s =>
    cases s with
    | bool allowed => cases allowed <;> exact .pure
    | _ => exact part_refuses hbelow _ _ _ _

theorem properties_refuses : Refuses I E (p.properties lower) := by
  refine .guard (hown _ (.compilation (by decide))) ?_
  refine .bind (.bind (.mapM fun m _ => part_refuses hbelow _ _ _ _) fun _ => .pure) fun named => ?_
  refine .bind (patternProperties_refuses hown hbelow) fun made => ?_
  exact .bind (additionalProperties_refuses hbelow _) fun _ => .pure

omit hown hbelow

theorem branchesFrom_refuses {ss : List Json} {start : Nat}
    (h : ∀ s i, (s, i) ∈ ss.zipIdx start → Refuses I E (lower s (p.inside s!"{p.keyword}/{i}"))) :
    Refuses I E (p.branchesFrom lower start ss) := by
  induction ss generalizing start with
  | nil => exact .pure
  | cons s rest ih =>
    rw [List.zipIdx_cons] at h
    exact .bind (h s start List.mem_cons_self) fun _ =>
      .bind (ih fun s' i hs => h s' i (List.mem_cons_of_mem _ hs)) fun _ => .pure

include hown in
theorem branches_refuses
    (h : ∀ ss i s, p.schema = .arr ss → (s, i) ∈ ss.zipIdx → Refuses I E (lower s (p.inside s!"{p.keyword}/{i}"))) :
    Refuses I E (p.branches lower) := by
  unfold branches
  split
  · exact .refuse (hown _ (.compilation (by decide)))
  · refine branchesFrom_refuses fun s i hs => h (p.schema.arr?.getD []) i s ?_ hs
    cases hschema : p.schema with
    | arr ss => rfl
    | _ =>
      rw [hschema] at hs
      cases hs

include hown in
theorem dependencies_refuses
    (hhere : ∀ s relative, p.Combines .dependencies s relative → Refuses I E (lower s (p.inside relative))) :
    Refuses I E (p.dependencies lower) := by
  refine .bind (.mapM fun m hm => ?_) fun _ => .pure
  obtain ⟨property, needs⟩ := m
  refine .bind ?_ fun _ => .pure
  have hmember : ∃ ms, p.schema = .obj ms ∧ (property, needs) ∈ ms := by
    cases hschema : p.schema with
    | obj ms =>
      rw [hschema] at hm
      exact ⟨ms, rfl, hm⟩
    | _ =>
      rw [hschema] at hm
      cases hm
  obtain ⟨ms, hms, hneeds⟩ := hmember
  unfold dependency
  split
  · exact .bind (.lifted hown (neededProperties_saysOwn _ _)) fun _ => .pure
  · next hno =>
    refine hhere needs _ ⟨ms, property, hms, hneeds, ?_, rfl⟩
    cases needs with
    | arr names => exact absurd rfl (hno names)
    | _ => rfl

theorem ifThenElse_refuses
    (hhere : ∀ s relative, p.Combines .ifThenElse s relative → Refuses I E (lower s (p.inside relative))) :
    Refuses I E (p.ifThenElse lower) := by
  have hbranch : ∀ keyword, (∀ s, p.sibling? keyword = some s → Refuses I E (lower s (p.inside keyword))) →
      Refuses I E (p.branch lower keyword) := by
    intro keyword h
    unfold branch
    split
    · next s hs => exact h s hs
    · exact .pure
  have hall : Refuses I E
      (do
        let condition ← lower p.schema (p.inside "if")
        let thenBranch ← p.branch lower "then"
        let elseBranch ← p.branch lower "else"
        return [Node.ifThenElse condition thenBranch elseBranch
          (p.site (.fixed "should match \"then\" schema" (.obj [("failingKeyword", "then")])))]) :=
    .bind (hhere _ _ (.inl ⟨rfl, rfl⟩)) fun _ =>
      .bind (hbranch "then" fun s hs => hhere _ _ (.inr (.inl ⟨hs, rfl⟩))) fun _ =>
        .bind (hbranch "else" fun s hs => hhere _ _ (.inr (.inr ⟨hs, rfl⟩))) fun _ => .pure
  unfold ifThenElse
  split
  · exact .pure
  · exact .pure
  · exact hall

include hown hbelow in
/-- **A keyword refuses what its schemas or its reference are refused for, or says something of its own.** -/
theorem builtin_refuses (k : BuiltinKeyword)
    (hhere : ∀ s relative, p.Combines k s relative → Refuses I E (lower s (p.inside relative)))
    (href : k = .ref → Refuses I E (p.procedureOf lower (p.schema.str?.getD ""))) :
    Refuses I E (p.builtin lower k) := by
  have hbranches : k = .allOf ∨ k = .anyOf ∨ k = .oneOf → Refuses I E (p.branches lower) := by
    intro hk
    refine branches_refuses hown fun ss i s hss hs => hhere _ _ ?_
    rcases hk with rfl | rfl | rfl <;> exact ⟨ss, i, hss, hs, rfl⟩
  cases k with
  | multipleOf => exact .bind (.lifted hown multipleOf_saysOwn) fun _ => .pure
  | pattern => exact .bind (.lifted hown pattern_saysOwn) fun _ => .pure
  | format => exact .lifted hown format_saysOwn
  | required => exact .lifted hown required_saysOwn
  | items => exact items_refuses hown hbelow
  | contains => exact .bind (hbelow _ _ rfl rfl) fun _ => .pure
  | dependencies => exact dependencies_refuses hown hhere
  | propertyNames => exact .bind (hbelow _ _ rfl rfl) fun _ => .pure
  | properties => exact properties_refuses hown hbelow
  | ref => exact .bind (href rfl) fun _ => .pure
  | not => exact .bind (hhere _ _ ⟨rfl, rfl⟩) fun _ => .pure
  | anyOf => exact .bind (hbranches (.inr (.inl rfl))) fun _ => .pure
  | oneOf => exact .bind (hbranches (.inr (.inr rfl))) fun _ => .pure
  | allOf => exact hbranches (.inl rfl)
  | ifThenElse => exact ifThenElse_refuses hhere
  | _ => exact .pure

end

end KeywordPlace

/-! ## References to procedures -/

/-- A reference is refused where its target cannot be found, where it loops or where its target is refused. -/
theorem KeywordPlace.procedureOf_refuses {lower : Lower} {p : KeywordPlace} {reference : String}
    {I : List Procedure → Prop} {E : SchemaError → Prop} (hown : ∀ e, e.IsOwn → E e)
    (hloop : ∀ {procedures target}, p.env.documents.resolve p.position.base reference = .ok target →
      I procedures → ∀ q ∈ procedures, q.target.key = target.key → q.body = none →
      q.descents = p.position.descents → E (loopError p.schemaPath reference))
    (hopened : ∀ {procedures target}, p.env.documents.resolve p.position.base reference = .ok target →
      I procedures → ∀ made, lower target.schema (.ofTarget target p.position.descents)
        (procedures ++ [⟨target, p.position.descents, none⟩]) = made →
      (∀ body mid, made = .ok (body, mid) → I (mid.modify procedures.length (·.fill body))) ∧
        ∀ e, made = .error e → E e) :
    Refuses I E (p.procedureOf lower reference) := by
  intro procedures hi
  rw [procedureOf_eq]
  cases htarget : p.env.documents.resolve p.position.base reference with
  | error e =>
    refine ⟨nofun, fun e' he => ?_⟩
    obtain rfl := Except.error.inj he
    exact hown e (Documents.resolve_saysOwn _ _ _ e htarget)
  | ok target =>
    dsimp only
    cases hfound : procedures.findIdx? (·.target.key = target.key) with
    | some i =>
      dsimp only
      split
      · next hopen =>
        refine ⟨nofun, fun e he => ?_⟩
        obtain rfl := Except.error.inj he
        obtain ⟨hi', hkey, -⟩ := List.findIdx?_eq_some_iff_getElem.mp hfound
        rw [List.getElem?_eq_getElem hi', Option.any_some] at hopen
        obtain ⟨hbody, hdescents⟩ := Bool.and_eq_true_iff.mp hopen
        exact hloop htarget hi _ (List.getElem_mem hi') (of_decide_eq_true hkey)
          (Option.isNone_iff_eq_none.mp hbody) (of_decide_eq_true hdescents)
      · refine ⟨fun i' after hm => ?_, nofun⟩
        obtain ⟨-, rfl⟩ := Prod.mk.inj (Except.ok.inj hm)
        exact hi
    | none =>
      dsimp only
      have hmade := hopened htarget hi _ rfl
      cases hlower : lower target.schema (.ofTarget target p.position.descents)
          (procedures ++ [⟨target, p.position.descents, none⟩]) with
      | error e =>
        refine ⟨nofun, fun e' he => ?_⟩
        obtain rfl := Except.error.inj he
        exact hmade.2 e hlower
      | ok r =>
        refine ⟨fun i after hm => ?_, nofun⟩
        obtain ⟨-, rfl⟩ := Prod.mk.inj (Except.ok.inj hm)
        exact hmade.1 r.1 r.2 hlower

/-! ## Custom keywords -/

/-- The functions of a definition do not say themselves that a reference loops. -/
structure KeywordDefinition.LeavesLoops (d : KeywordDefinition) : Prop where
  code : ∀ code view, d.code = some code → SaysNoLoop (code view)
  compile : ∀ compile value parent reference, d.compile = some compile →
    compile value parent ≠ .error (loopMessage reference)

/-- No custom keyword says itself that a reference loops. -/
def Registry.LeavesLoops (r : Registry) : Prop :=
  ∀ group ∈ r.groups, ∀ rule ∈ group.rules, ∀ d, rule.implementation = .custom d → d.LeavesLoops

section

variable {lower : Lower} {I : List Procedure → Prop} {E : SchemaError → Prop}
  (hown : ∀ e, e.IsOwn → E e)

include hown

omit hown in
/-- A custom keyword refuses what its functions refuse, or the expansion that it lowers. -/
theorem KeywordPlace.custom_refuses {p : KeywordPlace} {d : KeywordDefinition}
    (hcode : ∀ code e, d.code = some code → code p.view = .error e → E e)
    (hcompile : ∀ compile message, d.compile = some compile → compile p.schema p.parent = .error message →
      E (p.error message))
    (hexpand : ∀ expand, d.expand = some expand →
      Refuses I E (lower (expand p.schema p.parent) { p.position with schemaPath := p.schemaPath })) :
    Refuses I E (p.custom lower d) := by
  have hlogic : Refuses I E (p.customLogic lower d) := by
    unfold customLogic
    cases hfound : d.code with
    | some code => exact .bind (.lifting fun e => hcode code e hfound) fun _ => .pure
    | none =>
      cases d.validate with
      | some validate => exact .pure
      | none =>
        cases hgiven : d.compile with
        | some compile =>
          refine .bind (.lifting fun e he => ?_) fun _ => .pure
          cases hmade : compile p.schema p.parent with
          | ok check =>
            rw [hmade] at he
            cases he
          | error message =>
            rw [hmade] at he
            obtain rfl := Except.error.inj he
            exact hcompile compile message hgiven hmade
        | none =>
          cases hmacro : d.expand with
          | some expand => exact .bind (hexpand expand hmacro) fun _ => .pure
          | none => exact .pure
  refine .bind hlogic fun r => ?_
  obtain ⟨nodes, text⟩ := r
  dsimp only
  split
  · exact .pure
  · exact .pure
  · exact .pure

/-! ## Rules, groups and objects -/

variable {env : Environment} {members : List (String × Json)} {position : Position}

omit hown in
theorem Rule.dataRef_saysOwn (rule : Rule) (options : Options) (path : String) (value : Option Json) :
    SaysOwn (rule.dataRef options path value) := by
  unfold Rule.dataRef
  split
  · split
    · split
      · exact .ok
      · exact .error (.other nofun nofun)
    · exact .ok
  · exact .ok

omit hown in
/-- The check of a value says something of its own, unless it does not end. -/
theorem Rule.checkValue_error {rule : Rule} {path : String} {value : Json} {e : SchemaError}
    (h : rule.checkValue path value = .error e) :
    e.IsOwn ∨ (e = .tooDeep ∧ ∃ v, rule.metaValidator = some v ∧ v.validate value = .endless) := by
  unfold Rule.checkValue at h
  split at h
  · obtain rfl := Except.error.inj h
    exact .inl (.compilation (by simp [toString]))
  · dsimp only [pure_bind] at h
    split at h
    · obtain rfl := Except.error.inj h
      exact .inl (.compilation (by simp [toString]))
    · next hendless =>
      obtain rfl := Except.error.inj h
      exact .inr ⟨rfl, Option.map_eq_some_iff.mp hendless⟩
    · cases h

omit hown in
theorem Rule.implementation_refuses {rule : Rule} (data : Option DataRef)
    (hkeyword : ∀ k, rule.implementation = .builtin k →
      Refuses I E ((rule.place env members position data).builtin lower k))
    (hcustom : ∀ d, rule.implementation = .custom d →
      Refuses I E ((rule.place env members position data).custom lower d)) :
    Refuses I E
      (match rule.implementation with
        | .builtin k => do
          return Node.conj (← (rule.place env members position data).builtin lower k)
        | .custom d => do
          return Node.conj (← (rule.place env members position data).custom lower d)) := by
  cases hrule : rule.implementation with
  | builtin k => exact .bind (hkeyword k hrule) fun _ => .pure
  | custom d => exact .bind (hcustom d hrule) fun _ => .pure

theorem Rule.lower_refuses {rule : Rule}
    (hcheck : ∀ path value e, rule.checkValue path value = .error e → E e)
    (hkeyword : ∀ k data, rule.implementation = .builtin k →
      Refuses I E ((rule.place env members position data).builtin lower k))
    (hcustom : ∀ d data, rule.implementation = .custom d →
      Refuses I E ((rule.place env members position data).custom lower d)) :
    Refuses I E (rule.lower lower env members position) := by
  have himplementation := fun data =>
    Rule.implementation_refuses data (fun k => hkeyword k data) fun d => hcustom d data
  unfold Rule.lower
  refine .bind (.lifted hown (Rule.dataRef_saysOwn _ _ _ _)) fun data => ?_
  dsimp only
  split
  · exact .bind (.lifting (hcheck _ _)) fun _ => himplementation _
  · exact himplementation _

/-- **An object refuses what its keywords and the checks of their values refuse, or says something of its
    own.** -/
theorem lowerObject_refuses
    (hcheck : ∀ rule path value e, env.Reads members rule → rule.checkValue path value = .error e → E e)
    (hkeyword : ∀ rule k data, env.Reads members rule → rule.implementation = .builtin k →
      Refuses I E ((rule.place env members position data).builtin lower k))
    (hcustom : ∀ rule d data, env.Reads members rule → rule.implementation = .custom d →
      Refuses I E ((rule.place env members position data).custom lower d)) :
    Refuses I E (lowerObject lower env members position) := by
  have hgroups : ∀ declared : Option (List DataType), Refuses I E
      (do
        let nodes ← (env.registry.groups.filter (·.concerns declared)).mapM
          (RuleGroup.lower lower env members position (env.onlyRef members))
        return Node.conj ((declared.map (typeNode position.schemaPath members)).toList ++ nodes)) := by
    refine fun declared => .bind (.mapM fun group hgroup => ?_) fun _ => .pure
    refine .bind (.mapM fun rule hrule => ?_) fun _ => .pure
    have hreads : env.Reads members rule := ⟨group, List.mem_of_mem_filter hgroup, hrule⟩
    exact Rule.lower_refuses hown (fun path value e => hcheck rule path value e hreads) (fun k data => hkeyword rule k data hreads) fun d data => hcustom rule d data hreads
  have hkeywords : SaysOwn (env.checkKeywords position.schemaPath members) := by
    unfold Environment.checkKeywords
    split
    · split
      · exact .error (.other nofun nofun)
      · exact .ok
    · exact .ok
  have hdeclared : SaysOwn (declaredTypes position.schemaPath members) := by
    unfold declaredTypes
    split
    · exact .ok
    · split
      · exact .ok
      · exact .compilation (by decide)
  unfold lowerObject
  show Refuses I E (if env.onlyRef members then _ else _)
  split
  · exact .bind .pure fun declared => hgroups declared
  · exact .bind (.lifted hown hkeywords) fun _ =>
      .bind (.lifted hown hdeclared) fun declared => hgroups declared

end

end JsonSchema
