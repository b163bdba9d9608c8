import JsonSchema.Proofs.Draft7.Semantics
import JsonSchema.Proofs.Lowering.Mirrors

/-!
# The schemas that lowering comes to

`Environment.Hands` lists what lowering an object can lower next: the schemas that its keywords apply,
the targets of its references and the expansions of its custom keywords.  `lowerSchema_made` knows
nothing of the schemas it lowers; here the same induction is done **under a condition that is handed
on** (`GuardedInvariant`), so that an invariant may use what is known of the schemas that lowering comes
to.  The induction is the old one: a way of lowering that refuses every schema without the condition
does the same as the original (`Lower.guarded_mirrors`), and of that one everything is known.
-/

set_option autoImplicit false

namespace JsonSchema

/-! ## Where applied schemas stand -/

/-- What a keyword applies stands where a schema does, unless it is the `null` of an absent keyword. -/
theorem KeywordPlace.Applies.hasSubschema {rule : Rule} {k : BuiltinKeyword} {env : Environment}
    {members : List (String × Json)} {position : Position} {data : Option DataRef} {s : Json}
    (hname : rule.keyword = k.name) (h : (rule.place env members position data).Applies k s) :
    s = .null ∨ Json.HasSubschema members s := by
  have hfound : ∀ v, (members.lookup rule.keyword).getD .null = v → v ≠ .null →
      members.lookup k.name = some v := by
    intro v hlookup hne
    rw [hname] at hlookup
    cases hv : members.lookup k.name with
    | none =>
      rw [hv] at hlookup
      exact absurd hlookup.symm hne
    | some w =>
      rw [hv] at hlookup
      exact congrArg some hlookup
  have hvalue : k.name ∈ schemaKeywords → (members.lookup rule.keyword).getD .null = s →
      s = .null ∨ Json.HasSubschema members s := by
    intro hkeyword hlookup
    by_cases hnull : s = .null
    · exact .inl hnull
    · exact .inr (.single hkeyword (hfound s hlookup hnull))
  have hlisted : ∀ ss, k.name ∈ schemaKeywords → (members.lookup rule.keyword).getD .null = .arr ss →
      s ∈ ss → s = .null ∨ Json.HasSubschema members s := fun ss hkeyword hlookup hmem =>
    .inr (.listed hkeyword (hfound _ hlookup Json.noConfusion) hmem)
  cases k with
  | items =>
    rcases h with ⟨h, -⟩ | ⟨ss, h, hmem⟩ | h
    · exact hvalue (by decide) h
    · exact hlisted ss (by decide) h hmem
    · exact .inr (.single (by decide) h)
  | contains | propertyNames | not => exact hvalue (by decide) h
  | dependencies =>
    obtain ⟨ms, h, m, hm, rfl⟩ := h
    exact .inr (.named (by decide) (hfound _ h Json.noConfusion) hm)
  | properties =>
    rcases h with ⟨keyword, hkeyword, ms, h, m, hm, rfl⟩ | h
    · have hmap : keyword ∈ schemaMapKeywords := by
        rcases List.mem_cons.mp hkeyword with rfl | hkeyword
        · decide
        · obtain rfl := List.mem_singleton.mp hkeyword
          decide
      exact .inr (.named hmap h hm)
    · exact .inr (.single (by decide) h)
  | anyOf | oneOf | allOf =>
    obtain ⟨ss, h, hmem⟩ := h
    exact hlisted ss (by decide) h hmem
  | ifThenElse =>
    rcases h with ⟨h, -⟩ | h | h
    · exact hvalue (by decide) h
    · exact .inr (.single (by decide) h)
    · exact .inr (.single (by decide) h)
  | _ => exact h.elim

theorem Json.size_le_sizeMembers {m : String × Json} {members : List (String × Json)} (h : m ∈ members) :
    m.2.size ≤ Json.sizeMembers members := by
  induction members with
  | nil => exact absurd h List.not_mem_nil
  | cons first rest ih =>
    obtain ⟨name, v⟩ := first
    rw [Json.sizeMembers]
    rcases List.mem_cons.mp h with rfl | h
    · exact Nat.le_add_right _ _
    · exact Nat.le_trans (ih h) (Nat.le_add_left _ _)

theorem Json.size_le_sizeItems {item : Json} {items : List Json} (h : item ∈ items) :
    item.size ≤ Json.sizeItems items := by
  induction items with
  | nil => exact absurd h List.not_mem_nil
  | cons first rest ih =>
    rw [Json.sizeItems]
    rcases List.mem_cons.mp h with rfl | h
    · exact Nat.le_add_right _ _
    · exact Nat.le_trans (ih h) (Nat.le_add_left _ _)

/-- A schema directly inside an object is smaller than the object. -/
theorem Json.HasSubschema.size_lt {members : List (String × Json)} {s : Json}
    (h : Json.HasSubschema members s) : s.size < (Json.obj members).size := by
  rw [Json.size]
  cases h with
  | single _ hlookup =>
    have := Json.size_le_sizeMembers (mem_of_lookup hlookup)
    dsimp only at this
    omega
  | listed _ hlookup hs =>
    have := Json.size_le_sizeMembers (mem_of_lookup hlookup)
    have := Json.size_le_sizeItems hs
    rw [Json.size] at *
    omega
  | named _ hlookup hm =>
    have := Json.size_le_sizeMembers (mem_of_lookup hlookup)
    have := Json.size_le_sizeMembers hm
    rw [Json.size] at *
    omega

/-- The budget for lowering a schema is larger than the schema. -/
theorem size_lt_loweringBudget (s : Json) (documents : Documents) : s.size < loweringBudget s documents := by
  have hstart : ∀ (entries : List (String × Json)) n, n ≤ entries.foldl (fun n e => n + e.2.size) n := by
    intro entries
    induction entries with
    | nil => exact fun n => Nat.le_refl n
    | cons e rest ih => exact fun n => Nat.le_trans (Nat.le_add_right n _) (ih _)
  have hvalues := hstart documents.entries s.size
  unfold loweringBudget
  dsimp only
  generalize documents.entries.foldl (fun n e => n + e.2.size) s.size = values at hvalues ⊢
  have hfactor : 2 * (values + 1) ≤
      2 * (values + 1) * (documents.entries.length * (values + 1) + 1) :=
    Nat.le_mul_of_pos_right _ (Nat.succ_pos _)
  omega

/-! ## What an object hands on -/

/-- Lowering the object at the position can lower the schema at the other position next. -/
inductive Environment.Hands (env : Environment) (members : List (String × Json)) (position : Position) :
    Json → Position → Prop where
  /-- A keyword applies the schema. -/
  | applied {rule : Rule} {k : BuiltinKeyword} {data : Option DataRef} {s : Json} {at' : Position} :
      env.Reads members rule → rule.implementation = .builtin k →
      (rule.place env members position data).Applies k s → at'.base = position.base →
      Hands env members position s at'
  /-- A reference leads to the schema. -/
  | referred {rule : Rule} {target : Target} :
      env.Reads members rule → rule.implementation = .builtin .ref →
      env.documents.resolve position.base (rule.reference members) = .ok target →
      Hands env members position target.schema (.ofTarget target position.descents)
  /-- A custom keyword expands to the schema. -/
  | expanded {rule : Rule} {d : KeywordDefinition} {expand : Json → List (String × Json) → Json}
      {at' : Position} :
      env.Reads members rule → rule.implementation = .custom d → d.expand = some expand →
      at'.base = position.base →
      Hands env members position (expand ((members.lookup rule.keyword).getD .null) members) at'

open Classical in
/-- Lowers the schemas that a condition holds of and refuses the others. -/
noncomputable def Lower.guarded (lower : Lower) (Pre : Json → Position → Prop) : Lower :=
  fun schema position => if Pre schema position then lower schema position else refuse .tooDeep

section

open LowerM

variable {env : Environment} {members : List (String × Json)} {position : Position} {lower : Lower}
  {Pre : Json → Position → Prop}

theorem Lower.guarded_of {schema : Json} (h : Pre schema position) :
    lower.guarded Pre schema position = lower schema position := if_pos h

/-- What the guard lets through is what it guards. -/
theorem Lower.guarded_made {I : List Procedure → Prop} {Q : List Procedure → Node → Prop} {schema : Json}
    (h : Pre schema position → Ensures I (lower schema position) Q) :
    Ensures I (lower.guarded Pre schema position) Q := by
  unfold Lower.guarded
  split
  · next hpre => exact h hpre
  · exact .refuse

/-- The procedure of a reference depends on the target and on how it is lowered, and on nothing else. -/
theorem KeywordPlace.procedureOf_congr {lower' : Lower} {p : KeywordPlace} {documents : Documents}
    {reference : String} (hresolve : documents.resolve p.position.base reference =
      p.env.documents.resolve p.position.base reference)
    (hlower : ∀ target, p.env.documents.resolve p.position.base reference = .ok target →
      lower' target.schema (.ofTarget target p.position.descents) =
        lower target.schema (.ofTarget target p.position.descents)) :
    (p.moved documents p.position.base).procedureOf lower' reference = p.procedureOf lower reference := by
  unfold procedureOf
  dsimp only [moved]
  rw [hresolve]
  cases htarget : p.env.documents.resolve p.position.base reference with
  | error e => rfl
  | ok target =>
    funext procedures
    show (_ : Except SchemaError _) = _
    simp only [bind, StateT.bind, liftExcept, Except.map, Except.bind, hlower target htarget]
    rfl

/-- **An object is lowered as if the schemas that it does not hand on could not be lowered**, whatever groups
    are chosen. -/
theorem lowerObjectOf_guarded {groups : GroupChoice} (hgroups : groups.Within env.registry)
    (h : ∀ s at', env.Hands members position s at' → Pre s at') :
    lowerObjectOf groups (lower.guarded Pre) env members position =
      lowerObjectOf groups lower env members position := by
  refine (mirrors_plain Node.renumber_id).mp (lowerObjectOf_mirrors hgroups fun rule hreads => ?_)
  refine ⟨fun k data s hrule hs => ?_, fun data hrule => ?_, fun d expand hrule hd => ?_⟩
  · exact KeywordPlace.mirrorOn_plain fun at' hat => Lower.guarded_of (h s at' (.applied hreads hrule hs hat))
  · refine (mirrors_plain fun _ => rfl).mpr (KeywordPlace.procedureOf_congr rfl fun target htarget => ?_)
    exact Lower.guarded_of (h _ _ (.referred hreads hrule htarget))
  · exact KeywordPlace.mirrorOn_plain fun at' hat => Lower.guarded_of (h _ at' (.expanded hreads hrule hd hat))

theorem lowerObject_guarded (h : ∀ s at', env.Hands members position s at' → Pre s at') :
    lowerObject (lower.guarded Pre) env members position = lowerObject lower env members position :=
  lowerObjectOf_guarded env.registry.concernedGroups_within h

theorem lowerSchemaOf_obj {groups : GroupChoice} {budget : Nat} {base : Uri}
    (h : schemaBase (.obj members) position.base = .ok base) :
    lowerSchemaOf groups env (budget + 1) (.obj members) position =
      lowerObjectOf groups (lowerSchemaOf groups env budget) env members { position with base } := by
  rw [lowerSchemaOf, h]
  rfl

theorem lowerSchema_obj {budget : Nat} {base : Uri}
    (h : schemaBase (.obj members) position.base = .ok base) :
    lowerSchema env (budget + 1) (.obj members) position =
      lowerObject (lowerSchema env budget) env members { position with base } := by
  rw [lowerSchema, h]
  rfl

/-! ## The induction under a condition -/

/-- What an invariant of the procedures and a relation between schemas and bodies owe each other, where
    the schemas fulfil a condition that is handed on. -/
structure GuardedInvariant (env : Environment) (Pre : Json → Position → Prop)
    (I : List Procedure → Prop) (B : List Procedure → BodyRel) : Prop where
  handed : ∀ {members position base}, Pre (.obj members) position →
    schemaBase (.obj members) position.base = .ok base → ∀ s at',
    env.Hands members { position with base } s at' → Pre s at'
  opened : ∀ {members position base rule target procedures}, Pre (.obj members) position →
    schemaBase (.obj members) position.base = .ok base → env.Reads members rule →
    rule.implementation = .builtin .ref →
    env.documents.resolve base (rule.reference members) = .ok target → I procedures →
    (∀ q ∈ procedures, q.target.key ≠ target.key) →
    I (procedures ++ [⟨target, position.descents, none⟩])
  filled : ∀ {procedures i q body}, I procedures → procedures[i]? = some q → q.body = none →
    B procedures q.target.schema (.ofTarget q.target q.descents) body →
    I (procedures.modify i (·.fill body))
  schema : ∀ {procedures schema position node}, Pre schema position →
    SchemaMakes (B procedures) (Refers procedures env.documents) env schema position node →
    B procedures schema position node

/-- **The induction over lowering, under a condition.** -/
theorem lowerSchema_made_of_guarded {I : List Procedure → Prop} {B : List Procedure → BodyRel}
    (L : GuardedInvariant env Pre I B) : ∀ budget schema position, Pre schema position →
    Ensures I (lowerSchema env budget schema position) fun later n => B later schema position n := by
  intro budget
  induction budget with
  | zero => exact fun schema position _ => .refuse
  | succ budget ih =>
    intro schema position hpre
    cases schema with
    | bool allowed =>
      cases allowed with
      | true => exact .pure fun _ => L.schema hpre .always
      | false => exact .pure fun _ => L.schema hpre .never
    | obj members =>
      cases hbase : schemaBase (.obj members) position.base with
      | error e =>
        intro procedures n after _ hm
        simp [lowerSchema, bind_eq_ok, liftExcept_eq_ok, hbase] at hm
      | ok base =>
        have hl : ∀ s at', Ensures I ((lowerSchema env budget).guarded Pre s at') fun later n =>
            B later s at' n := fun s at' => Lower.guarded_made (ih s at')
        have hr : ∀ rule, env.Reads members rule → rule.RefersTo env members { position with base } I
            ((lowerSchema env budget).guarded Pre) fun later => Refers later env.documents := by
          intro rule hreads data hrule
          have hopened := fun target procedures =>
            @L.opened _ _ _ rule target procedures hpre hbase hreads hrule
          exact procedureOf_made (fun target => hl _ _) (hopened _ _) L.filled
        have hobject := lowerObject_made hl hr
        rw [lowerObject_guarded (L.handed hpre hbase)] at hobject
        rw [lowerSchema_obj hbase]
        exact hobject.weaken fun later n h => L.schema hpre (.object hbase h)
    | _ => exact .refuse

/-! ## Other documents -/

/-- **Lowering asks the documents for nothing but the references of the schemas that it comes to.** -/
theorem lowerSchema_among {documents : Documents}
    (hhanded : ∀ {members position base}, Pre (.obj members) position →
      schemaBase (.obj members) position.base = .ok base → ∀ s at',
      env.Hands members { position with base } s at' → Pre s at')
    (h : ∀ {members position base rule}, Pre (.obj members) position →
      schemaBase (.obj members) position.base = .ok base → env.Reads members rule →
      rule.implementation = .builtin .ref →
      documents.resolve base (rule.reference members) =
        env.documents.resolve base (rule.reference members)) :
    ∀ budget schema position, Pre schema position →
      lowerSchema (env.among documents) budget schema position = lowerSchema env budget schema position := by
  intro budget
  induction budget with
  | zero =>
    intro schema position _
    rw [lowerSchema, lowerSchema]
  | succ budget ih =>
    intro schema position hpre
    cases schema with
    | obj members =>
      cases hbase : schemaBase (.obj members) position.base with
      | error e =>
        have hfails : ∀ f : Uri → LowerM Node, liftExcept (.error e) >>= f = fun _ => .error e :=
          fun _ => rfl
        rw [lowerSchema, lowerSchema, hbase, hfails, hfails]
      | ok base =>
        have hgive := hhanded hpre hbase
        rw [lowerSchema_obj hbase, lowerSchema_obj hbase]
        refine (mirrors_plain Node.renumber_id).mp (lowerObject_mirrors fun rule hreads => ?_)
        refine ⟨fun k data s hrule hs => ?_, fun data hrule => ?_, fun d expand hrule hd => ?_⟩
        · exact KeywordPlace.mirrorOn_plain fun at' hat => ih s at' (hgive s at' (.applied hreads hrule hs hat))
        · refine (mirrors_plain fun _ => rfl).mpr ?_
          refine KeywordPlace.procedureOf_congr (h hpre hbase hreads hrule) fun target htarget => ?_
          exact ih _ _ (hgive _ _ (.referred hreads hrule htarget))
        · exact KeywordPlace.mirrorOn_plain fun at' hat => ih _ at' (hgive _ at' (.expanded hreads hrule hd hat))
    | bool allowed => cases allowed <;> rw [lowerSchema, lowerSchema]
    | _ => rw [lowerSchema, lowerSchema] <;> simp

/-! ## Every procedure is filled in the end -/

/-- The entries from a number on have bodies. -/
def FilledFrom (n : Nat) (procedures : List Procedure) : Prop :=
  ∀ (i : Nat) (q : Procedure), n ≤ i → procedures[i]? = some q → q.body.isSome

/-- A reference fills the entry that it opens, and so does what it has to lower. -/
theorem KeywordPlace.procedureOf_fills {lower : Lower}
    (hl : ∀ n s at', Ensures (FilledFrom n) (lower s at') fun _ _ => True) (p : KeywordPlace)
    (reference : String) (n : Nat) : Ensures (FilledFrom n) (p.procedureOf lower reference) fun _ _ => True := by
  intro procedures i after hi hm
  obtain ⟨target, -, h⟩ := procedureOf_cases hm
  rcases h with ⟨rfl, -⟩ | ⟨-, rfl, body, mid, hbody, rfl⟩
  · exact ⟨hi, List.prefix_rfl, fun _ _ => trivial⟩
  -- behind the entry that is opened nothing is open, before or after its target is lowered
  · have hnone : FilledFrom (procedures.length + 1)
        (procedures ++ [⟨target, p.position.descents, none⟩]) := by
      intro j q hj hq
      obtain ⟨hlt, -⟩ := List.getElem?_eq_some_iff.mp hq
      simp at hlt
      omega
    obtain ⟨hmid, hle, -⟩ := hl (procedures.length + 1) _ _ _ _ _ hnone hbody
    refine ⟨fun j q hj hq => ?_, prefix_modify hle, fun _ _ => trivial⟩
    rw [List.getElem?_modify] at hq
    obtain ⟨r, hr, rfl⟩ := Option.map_eq_some_iff.mp hq
    rcases Nat.lt_trichotomy j procedures.length with hlt | rfl | hgt
    · have hold : procedures[j]? = some r := by
        obtain ⟨rest, rfl⟩ := (List.prefix_append _ _).trans hle
        rwa [List.getElem?_append_left hlt] at hr
      rw [if_neg (by omega)]
      exact hi j r hj hold
    · rw [if_pos rfl]
      rfl
    · rw [if_neg (by omega)]
      exact hmid j r hgt hr

/-- Lowering fills the entries that it opens, whatever groups are chosen. -/
theorem lowerSchemaOf_fills {groups : GroupChoice} (hgroups : groups.Within env.registry) (budget : Nat) :
    ∀ n schema position, Ensures (FilledFrom n) (lowerSchemaOf groups env budget schema position)
      fun _ _ => True := by
  induction budget with
  | zero => exact fun _ _ _ => .refuse
  | succ budget ih =>
    intro n schema position
    cases schema with
    | bool allowed => cases allowed <;> exact .pure fun _ => trivial
    | obj members =>
      refine .bind (.liftExcept _) fun base => ?_
      have hr : ∀ rule, env.Reads members rule → rule.RefersTo env members { position with base }
          (FilledFrom n) (lowerSchemaOf groups env budget) fun _ _ _ _ => True :=
        fun rule _ data _ => KeywordPlace.procedureOf_fills ih _ _ n
      have hl : ∀ s at', Ensures (FilledFrom n) (lowerSchemaOf groups env budget s at') fun later m =>
          (fun _ _ _ _ => True : List Procedure → BodyRel) later s at' m := ih n
      exact (lowerObjectOf_made hl hgroups hr).weaken fun _ _ _ _ => trivial
    | _ => exact .refuse

/-- Lowering fills the entries that it opens. -/
theorem lowerSchema_fills (budget : Nat) (n : Nat) (schema : Json) (position : Position) :
    Ensures (FilledFrom n) (lowerSchema env budget schema position) fun _ _ => True :=
  lowerSchemaOf_concerned env budget ▸ lowerSchemaOf_fills env.registry.concernedGroups_within budget n schema
    position

end
end JsonSchema
