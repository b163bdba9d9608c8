import JsonSchema.Proofs.Lowering.Lockstep
import JsonSchema.Proofs.Lowering.Reporting

/-!
# Options that only refuse

Two options decide what is refused: whether unknown keywords are, and whether unknown formats are.
**What compiles under the stricter options compiles to the same program under the laxer ones**
(`compileSchema_eased`), since lowering asks for them only where it refuses; so that turning either
option to the lax side changes no verdict and no violation (`strictness_only_refuses`).

The comparison is one of successful runs alone: where the stricter options refuse, the laxer ones go on
and may open procedures or come to a loop that the others never reach.
-/

set_option autoImplicit false

namespace JsonSchema

/-! ## Runs that succeed -/

/-- Where the first run succeeds, the second does with a related answer and the same procedures. -/
def Pairing.succeeding : Pairing where
  Runs R m m' := ∀ procedures a after, m procedures = .ok (a, after) →
    ∃ b, m' procedures = .ok (b, after) ∧ R a b
  left := id
  right := id
  pure := by
    intro α β R a b hab procedures a' after h
    obtain ⟨rfl, rfl⟩ := LowerM.pure_eq_ok.mp h
    exact ⟨b, rfl, hab⟩
  bind := by
    intro α β γ δ R S m m' f f' hm hf procedures c after h
    obtain ⟨a, mid, ha, hc⟩ := LowerM.bind_eq_ok.mp h
    obtain ⟨b, hb, hab⟩ := hm procedures a mid ha
    obtain ⟨d, hd, hcd⟩ := hf a b hab mid c after hc
    exact ⟨d, LowerM.bind_eq_ok.mpr ⟨b, mid, hb, hd⟩, hcd⟩
  lifted x := fun _ a _ h => ⟨a, h, rfl⟩

/-- Where the first run succeeds, the second does the same. -/
def LowerM.Within {α : Type} (m m' : LowerM α) : Prop := Pairing.succeeding.Runs Eq m m'

namespace LowerM

variable {α β : Type} {m m' m'' : LowerM α}

theorem Within.eq_ok (h : Within m m') {procedures : List Procedure} {r : α × List Procedure}
    (hm : m procedures = .ok r) : m' procedures = .ok r := by
  obtain ⟨a, hm', rfl⟩ := h procedures r.1 r.2 hm
  exact hm'

theorem Within.of_eq (h : m = m') : Within m m' := fun _ a _ hm => ⟨a, h ▸ hm, rfl⟩

theorem Within.trans (h : Within m m') (h' : Within m' m'') : Within m m'' :=
  fun _ a _ hm => ⟨a, h'.eq_ok (h.eq_ok hm), rfl⟩

theorem Within.bind {f f' : α → LowerM β} (hm : Within m m') (hf : ∀ a, Within (f a) (f' a)) :
    Within (m >>= f) (m' >>= f') :=
  Pairing.succeeding.bind hm fun a _ heq => heq ▸ hf a

theorem Within.mapM {γ : Type} {xs : List γ} {f f' : γ → LowerM α} (h : ∀ x ∈ xs, Within (f x) (f' x)) :
    Within (xs.mapM f) (xs.mapM f') :=
  Pairing.weaken (P := .succeeding) (Pairing.mapM h) fun _ _ heq => List.forall₂_eq_eq_eq ▸ heq

/-- What does not concern the procedures succeeds where another does. -/
theorem Within.lifted {x x' : Except SchemaError α} (h : ∀ a, x = .ok a → x' = .ok a) :
    Within (liftExcept x) (liftExcept x') := by
  intro procedures a after hm
  obtain ⟨hx, rfl⟩ := liftExcept_eq_ok.mp hm
  exact ⟨a, liftExcept_eq_ok.mpr ⟨h a hx, rfl⟩, rfl⟩

end LowerM

open LowerM

/-! ## The options -/

/-- Laxer options refuse nothing that stricter ones let pass, and ask for the same otherwise. -/
structure Options.Eases (lax strict : Options) : Prop where
  allErrors : lax.allErrors = strict.allErrors
  data : lax.data = strict.data
  keywords : lax.strictKeywords = true → strict.strictKeywords = true
  formats : strict.ignoreUnknownFormats = true → lax.ignoreUnknownFormats = true

def Environment.withOptions (env : Environment) (options : Options) : Environment := { env with options }

def Surroundings.withOptions (s : Surroundings) (options : Options) : Surroundings := { s with options }

variable {lower lower' : Lower} {env : Environment} {lax : Options}

/-! ## Keywords -/

namespace KeywordPlace

variable {p : KeywordPlace}

/-- A format that is known is known under all options, and one that is ignored stays ignored. -/
theorem format_eased (hlax : lax.Eases p.env.options) (nodes : List Node) (h : p.format = .ok nodes) :
    (p.withOptions lax).format = .ok nodes := by
  have hformats : (p.withOptions lax).env.formats.get? ((p.withOptions lax).schema.str?.getD "") =
      p.env.formats.get? (p.schema.str?.getD "") := rfl
  unfold format at h ⊢
  dsimp only at h ⊢
  rw [hformats]
  cases hfound : p.env.formats.get? (p.schema.str?.getD "") with
  | some format =>
    simp only [hfound] at h
    exact h
  | none =>
    simp only [hfound] at h ⊢
    split at h
    · next hignored =>
      have heased : (p.withOptions lax).env.options.ignoreUnknownFormats = true := hlax.formats hignored
      rw [if_pos heased]
      exact h
    · cases h

theorem builtin_eased (hlax : lax.Eases p.env.options) (k : BuiltinKeyword) :
    Within (p.builtin lower k) ((p.withOptions lax).builtin lower k) := by
  by_cases hk : k = .format
  · subst hk
    exact .lifted fun nodes => format_eased hlax nodes
  · exact .of_eq (builtin_withOptions k fun h => absurd h hk).symm

end KeywordPlace

/-! ## Rules, groups and objects -/

section

variable (hlax : lax.Eases env.options)

include hlax

theorem Rule.implementation_eased {rule : Rule} (h : ∀ d, rule.implementation = .custom d → d.IgnoresOptions)
    (members : List (String × Json)) (position : Position) (data : Option DataRef) :
    Within
      (match rule.implementation with
        | .builtin k => do return Node.conj (← (rule.place env members position data).builtin lower k)
        | .custom d => do return Node.conj (← (rule.place env members position data).custom lower d))
      (match rule.implementation with
        | .builtin k => do
          return Node.conj (← ((rule.place env members position data).withOptions lax).builtin lower k)
        | .custom d => do
          return Node.conj (← ((rule.place env members position data).withOptions lax).custom lower d)) := by
  cases hrule : rule.implementation with
  | builtin k => exact .bind (KeywordPlace.builtin_eased hlax k) fun _ => .of_eq rfl
  | custom d => exact .bind (.of_eq (KeywordPlace.custom_withOptions (h d hrule)).symm) fun _ => .of_eq rfl

theorem Rule.lower_eased {rule : Rule} (h : ∀ d, rule.implementation = .custom d → d.IgnoresOptions)
    (members : List (String × Json)) (position : Position) :
    Within (rule.lower lower env members position) (rule.lower lower (env.withOptions lax) members position) := by
  have hdata : ∀ path value, rule.dataRef lax path value = rule.dataRef env.options path value := by
    intro path value
    unfold Rule.dataRef
    rw [hlax.data]
  unfold Rule.lower
  refine .bind (.lifted fun data hfound => (hdata _ _).trans hfound) fun data => ?_
  dsimp only
  split
  · exact .bind (.of_eq rfl) fun _ => Rule.implementation_eased hlax h members position data
  · exact Rule.implementation_eased hlax h members position data

variable (hcode : env.registry.IgnoresOptions)

include hcode

theorem RuleGroup.lower_eased {group : RuleGroup} (hgroup : group ∈ env.registry.groups) (onlyRef : Bool)
    (members : List (String × Json)) (position : Position) :
    Within (group.lower lower env members position onlyRef)
      (group.lower lower (env.withOptions lax) members position onlyRef) := by
  refine .bind (.mapM fun rule hrule => ?_) fun _ => .of_eq rfl
  exact Rule.lower_eased hlax (hcode group hgroup rule (List.mem_of_mem_filter hrule)) members position

omit hcode in
/-- Unknown keywords are refused under the stricter options if they are under the laxer ones. -/
theorem Environment.checkKeywords_eased (path : String) (members : List (String × Json)) (u : Unit)
    (h : env.checkKeywords path members = .ok u) :
    (env.withOptions lax).checkKeywords path members = .ok u := by
  have hsame : (members.find? fun m => !(env.withOptions lax).registry.isKnown m.1) =
      members.find? fun m => !env.registry.isKnown m.1 := rfl
  unfold checkKeywords at h ⊢
  rw [hsame]
  cases hunknown : members.find? fun m => !env.registry.isKnown m.1 with
  | none => rfl
  | some m =>
    simp only [hunknown] at h ⊢
    split at h
    · cases h
    · next hstrict =>
      have heased : ¬ (env.withOptions lax).options.strictKeywords = true := fun hl => hstrict (hlax.keywords hl)
      rw [if_neg heased]

/-- With the same way of lowering what is inside, an object is refused under the stricter options or
    lowered to the same under the laxer ones. -/
theorem lowerObject_eased (members : List (String × Json)) (position : Position) :
    Within (lowerObject lower env members position) (lowerObject lower (env.withOptions lax) members position) := by
  have hgroups : ∀ onlyRef (declared : Option (List DataType)), Within
      (do
        let nodes ← (env.registry.groups.filter (·.concerns declared)).mapM
          (RuleGroup.lower lower env members position onlyRef)
        return Node.conj ((declared.map (typeNode position.schemaPath members)).toList ++ nodes))
      (do
        let nodes ← (env.registry.groups.filter (·.concerns declared)).mapM
          (RuleGroup.lower lower (env.withOptions lax) members position onlyRef)
        return Node.conj ((declared.map (typeNode position.schemaPath members)).toList ++ nodes)) := by
    intro onlyRef declared
    refine .bind (.mapM fun group hgroup => ?_) fun _ => .of_eq rfl
    exact RuleGroup.lower_eased hlax hcode (List.mem_of_mem_filter hgroup) onlyRef members position
  unfold lowerObject
  show Within (if env.onlyRef members then _ else _) (if env.onlyRef members then _ else _)
  split
  · exact .bind (.of_eq rfl) fun declared => hgroups _ declared
  · refine .bind (.lifted (Environment.checkKeywords_eased hlax _ members)) fun _ => ?_
    exact .bind (.of_eq rfl) fun declared => hgroups _ declared

end

/-! ## Schemas -/

/-- A reference that leads to a procedure leads to the same where all that is lowered is lowered to the same. -/
theorem KeywordPlace.procedureOf_succeeding (h : ∀ schema position,
      Within (lower schema position) (lower' schema position))
    (p : KeywordPlace) (reference : String) :
    Within (p.procedureOf lower reference) (p.procedureOf lower' reference) := by
  intro procedures i after hm
  refine ⟨i, ?_, rfl⟩
  rw [procedureOf_eq] at hm ⊢
  cases htarget : p.env.documents.resolve p.position.base reference with
  | error e =>
    rw [htarget] at hm
    cases hm
  | ok target =>
    rw [htarget] at hm
    dsimp only at hm ⊢
    cases hfound : procedures.findIdx? (·.target.key = target.key) with
    | some k =>
      rw [hfound] at hm
      exact hm
    | none =>
      rw [hfound] at hm
      dsimp only at hm ⊢
      cases hr : lower target.schema (.ofTarget target p.position.descents)
        (procedures ++ [⟨target, p.position.descents, none⟩]) with
      | error e =>
        rw [hr] at hm
        cases hm
      | ok r =>
        rw [(h _ _).eq_ok hr, ← hm, hr]

/-- An object is lowered to the same if the schemas that it hands on are. -/
theorem lowerObject_succeeding (h : ∀ schema position, Within (lower schema position) (lower' schema position))
    (members : List (String × Json)) (position : Position) :
    Within (lowerObject lower env members position) (lowerObject lower' env members position) := by
  have hnodes : ∀ n n', Pairing.succeeding.Nodes n n' ↔ n = n' := by
    intro n n'
    show n.renumber id = n'.renumber id ↔ _
    rw [Node.renumber_id, Node.renumber_id]
  have hon : ∀ deeper s, Pairing.succeeding.On lower lower' position position.base position.descents deeper s := by
    rintro deeper s ⟨schemaPath, dataPath, dataLevel, base, descents⟩ rfl rfl
    exact Pairing.weaken (P := .succeeding) (h s _) fun n n' => (hnodes n n').mpr
  have hobject : Pairing.succeeding.Runs Pairing.succeeding.Nodes (lowerObject lower env members position)
      (lowerObject lower' (env.among env.documents) members
        (position.moved position.base position.descents)) :=
    lowerObject_paired fun rule _ =>
      ⟨fun _ _ _ _ _ => hon _ _, fun _ _ => KeywordPlace.procedureOf_succeeding h _ _,
        fun _ _ _ _ => hon _ _⟩
  exact Pairing.weaken (P := .succeeding) hobject fun n n' => (hnodes n n').mp

/-- **A schema is refused under the stricter options or lowered to the same under the laxer ones.** -/
theorem lowerSchema_eased (hlax : lax.Eases env.options) (hcode : env.registry.IgnoresOptions) (budget : Nat) :
    ∀ schema position, Within (lowerSchema env budget schema position)
      (lowerSchema (env.withOptions lax) budget schema position) := by
  induction budget with
  | zero => exact fun schema position => .of_eq rfl
  | succ budget ih =>
    intro schema position
    cases schema with
    | bool allowed => cases allowed <;> exact .of_eq rfl
    | obj members =>
      refine .bind (.of_eq rfl) fun base => ?_
      exact (lowerObject_succeeding ih members _).trans (lowerObject_eased hlax hcode members _)
    | _ => exact .of_eq rfl

/-! ## Validators -/

/-- **A schema that compiles under the stricter options compiles to the same under the laxer ones.** -/
theorem compileSchema_eased {s : Surroundings} (hlax : lax.Eases s.options)
    (hcode : s.registry.IgnoresOptions) {schema : Json} {validator : Validator}
    (h : compileSchema s schema = .ok validator) : compileSchema (s.withOptions lax) schema = .ok validator := by
  obtain ⟨lowered, hlowered, rfl⟩ := compileSchema_eq_ok.mp h
  obtain ⟨base, documents, hbase, hdocuments, hroot⟩ := lowerProgram_eq_ok.mp hlowered
  have hcode' : (s.among documents).registry.IgnoresOptions := hcode
  have hroot' := (@lowerSchema_eased (s.among documents) lax hlax hcode' _ schema _).eq_ok hroot
  refine compileSchema_eq_ok.mpr
    ⟨lowered, lowerProgram_eq_ok.mpr ⟨base, documents, hbase, hdocuments, hroot'⟩, ?_⟩
  exact congrArg _ hlax.allErrors.symm

/-- The same surroundings, where unknown keywords are refused or not. -/
def Surroundings.refusingKeywords (s : Surroundings) (strictKeywords : Bool) : Surroundings :=
  s.withOptions { s.options with strictKeywords }

/-- The same surroundings, where unknown formats are ignored or refused. -/
def Surroundings.ignoringFormats (s : Surroundings) (ignoreUnknownFormats : Bool) : Surroundings :=
  s.withOptions { s.options with ignoreUnknownFormats }

/-- **The options for unknown keywords and formats only refuse.**  A schema that compiles with unknown
    keywords refused compiles without, one that compiles with unknown formats refused compiles with these
    ignored, and each time both validators say the same about every value, with the same violations. -/
theorem strictness_only_refuses {s : Surroundings} (hcode : s.registry.IgnoresOptions) (schema : Json) :
    (∀ strict, compileSchema (s.refusingKeywords true) schema = .ok strict →
      ∃ lax, compileSchema (s.refusingKeywords false) schema = .ok lax ∧
        ∀ data, lax.validate data = strict.validate data ∧ lax.isValid data = strict.isValid data) ∧
    (∀ strict, compileSchema (s.ignoringFormats false) schema = .ok strict →
      ∃ lax, compileSchema (s.ignoringFormats true) schema = .ok lax ∧
        ∀ data, lax.validate data = strict.validate data ∧ lax.isValid data = strict.isValid data) := by
  have hkeywords : ({ s.options with strictKeywords := false } : Options).Eases
      { s.options with strictKeywords := true } := ⟨rfl, rfl, fun _ => rfl, id⟩
  have hformats : ({ s.options with ignoreUnknownFormats := true } : Options).Eases
      { s.options with ignoreUnknownFormats := false } := ⟨rfl, rfl, id, fun _ => rfl⟩
  refine ⟨fun strict h => ⟨strict, ?_, fun _ => ⟨rfl, rfl⟩⟩, fun strict h => ⟨strict, ?_, fun _ => ⟨rfl, rfl⟩⟩⟩
  · exact compileSchema_eased (s := s.refusingKeywords true) hkeywords hcode h
  · exact compileSchema_eased (s := s.ignoringFormats false) hformats hcode h

/-- A chain of values, each with a whole number and a text of a known format, by a recursive schema. -/
def wholeChain : Json := .obj [
  ("properties", .obj [
    ("n", .obj [("whole", true)]),
    ("mail", .obj [("format", "email")]),
    ("next", .obj [("$ref", "#")])])]

/-- With all violations wanted, all four validators report two of them in a chain of two values. -/
theorem wholeChain_alike : ∃ strict lax, ∃ violations : List Violation,
    compileSchema ((wholeSurroundings.reporting true).refusingKeywords true) wholeChain = .ok strict ∧
    compileSchema ((wholeSurroundings.reporting true).refusingKeywords false) wholeChain = .ok lax ∧
    strict.validate (.obj [("n", "x"), ("next", .obj [("n", .null), ("mail", "a@b.c")])]) = .invalid violations ∧
    lax.validate (.obj [("n", "x"), ("next", .obj [("n", .null), ("mail", "a@b.c")])]) = .invalid violations ∧
    violations.length = 2 := by
  have htwo : ((compileSchema ((wholeSurroundings.reporting true).refusingKeywords true) wholeChain).toOption.bind
      fun v => (v.validate (.obj [("n", "x"), ("next", .obj [("n", .null), ("mail", "a@b.c")])])).count?) =
        some 2 := by decide +kernel
  obtain ⟨strict, violations, hstrict, hreported, hlength⟩ := exists_invalid htwo
  have hcode : (wholeSurroundings.reporting true).registry.IgnoresOptions := wholeSurroundings_ignoresOptions
  obtain ⟨lax, hlax, hsame⟩ := (strictness_only_refuses hcode wholeChain).1 strict hstrict
  exact ⟨strict, lax, violations, hstrict, hlax, hreported, (hsame _).1.trans hreported, hlength⟩

end JsonSchema
