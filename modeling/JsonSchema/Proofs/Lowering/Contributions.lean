import JsonSchema.Proofs.Lowering.Triple

/-!
# What a keyword contributes

Lowering a keyword lowers its subschemas and puts nodes around the results.  `KeywordPlace.Makes` is
that second half as a relation: given what is known of the body of a schema at a position (`B`) and of
the procedure of a reference (`R`), it says which nodes the keyword can contribute.

**The monadic code is read here and nowhere else** (`KeywordPlace.builtin_made`).  A property of
compiled programs — what they accept, which procedures they call — is proved from `Makes`, with the
property itself as `B`, and does not see in what order lowering works or where it refuses.
-/

set_option autoImplicit false

namespace JsonSchema

/-- What is known of the body of a schema at a position. -/
abbrev BodyRel := Json → Position → Node → Prop

/-- A part of a contribution: what is known of its body, and the node around the body. -/
structure Part where
  Made : Node → Prop
  around : Node → Node

/-- The nodes around the bodies of the parts, in order; a body that always passes gets none. -/
inductive Assembled : List Part → List Node → Prop where
  | nil : Assembled [] []
  | cons {part : Part} {rest : List Part} {body : Node} {nodes : List Node} :
      part.Made body → Assembled rest nodes →
      Assembled (part :: rest) (unlessPass body part.around ++ nodes)

namespace Assembled

theorem append {xs ys : List Part} {ms ns : List Node} (hx : Assembled xs ms) (hy : Assembled ys ns) :
    Assembled (xs ++ ys) (ms ++ ns) := by
  induction hx with
  | nil => exact hy
  | cons hm _ ih =>
    rw [List.cons_append, List.append_assoc]
    exact .cons hm ih

theorem single {part : Part} {body : Node} (h : part.Made body) :
    Assembled [part] (unlessPass body part.around) := by
  rw [← List.append_nil (unlessPass body part.around)]
  exact .cons h .nil

/-- A traversal whose steps are parts gives what the parts assemble to. -/
theorem of_forall₂ {α : Type} {part : α → Part} {xs : List α} {nss : List (List Node)}
    (h : List.Forall₂ (fun x ns => ∃ body, (part x).Made body ∧ ns = unlessPass body (part x).around)
      xs nss) : Assembled (xs.map part) nss.flatten := by
  induction h with
  | nil => exact .nil
  | cons h _ ih =>
    obtain ⟨body, hm, rfl⟩ := h
    exact .cons hm ih

/-- What holds of every part's body with its node around it holds of all the nodes. -/
theorem forall_mem {P : Node → Prop} {parts : List Part} {nodes : List Node}
    (h : Assembled parts nodes)
    (hp : ∀ part ∈ parts, ∀ body, part.Made body → P (part.around body)) : ∀ n ∈ nodes, P n := by
  induction h with
  | nil => exact fun n hn => absurd hn List.not_mem_nil
  | @cons part rest body nodes hm _ ih =>
    obtain ⟨hpart, hrest⟩ := List.forall_mem_cons.mp hp
    refine List.forall_mem_append.mpr ⟨?_, ih hrest⟩
    unfold unlessPass
    split
    · exact fun n hn => absurd hn List.not_mem_nil
    · exact List.forall_mem_singleton.mpr (hpart body hm)

end Assembled

/-- What one list has a related list has as well. -/
theorem exists_left_of_forall₂ {α β : Type} {R : α → β → Prop} {xs : List α} {ys : List β}
    (h : List.Forall₂ R xs ys) : ∀ y ∈ ys, ∃ x ∈ xs, R x y := by
  induction h with
  | nil => exact fun _ hy => absurd hy List.not_mem_nil
  | cons hxy _ ih =>
    intro y hy
    rcases List.mem_cons.mp hy with rfl | hy
    · exact ⟨_, List.mem_cons_self, hxy⟩
    · obtain ⟨x, hx, hxy⟩ := ih y hy
      exact ⟨x, List.mem_cons_of_mem _ hx, hxy⟩

/-- A conjunction is `pass`, one of the nodes, or `all` of some of them. -/
theorem Node.conj_cases {P : Node → Prop} (pass : P .pass)
    (all : ∀ nodes, (∀ n ∈ nodes, P n) → P (.all nodes)) {nodes : List Node} (h : ∀ n ∈ nodes, P n) :
    P (.conj nodes) := by
  have hkept : ∀ n ∈ nodes.filter (!·.isPass), P n := fun n hn => h n (List.mem_of_mem_filter hn)
  unfold conj
  split
  · exact pass
  · next n heq => exact hkept n (by simp [heq])
  · exact all _ hkept

namespace KeywordPlace

variable (B : BodyRel) (R : String → Nat → Prop) (p : KeywordPlace)

/-! ## Arrays -/

/-- The items at fixed places, numbered from `start` on. -/
def tupleParts (start : Nat) (tuple : List Json) : List Part :=
  (tuple.zipIdx start).map fun (schema, i) =>
    ⟨B schema (p.below s!"items/{i}" s!"/{i}"), .descend (.index i)⟩

def elementsPart (keyword : String) (start : Nat) (schema : Json) : Part :=
  ⟨B schema (p.below keyword "/\x7bindex\x7d"), .items start⟩

/-- The items after a tuple of the given length. -/
def additionalItemsParts (start : Nat) : List Part :=
  match p.sibling? "additionalItems" with
  | some (.obj members) => [p.elementsPart B "additionalItems" start (.obj members)]
  | _ => []

def MakesItems (nodes : List Node) : Prop :=
  (∀ a, p.sibling? "additionalItems" = some a → a.bool?.isSome ∨ a.obj?.isSome) ∧
  match p.schema with
  | .null => nodes = []
  | .arr tuple =>
    ∃ others, Assembled (p.tupleParts B 0 tuple ++ p.additionalItemsParts B tuple.length) others ∧
      nodes =
        (if (p.sibling? "additionalItems").any (·.bool? == some false) then
          [p.noAdditionalItems tuple.length] else []) ++ others
  | single => Assembled [p.elementsPart B "items" 0 single] nodes

def MakesContains (nodes : List Node) : Prop :=
  ∃ body text, B p.schema (p.below "contains" "/\x7bindex\x7d") body ∧
    nodes = [.contains body (p.site text)]

/-! ## Objects -/

def dependencyPart (m : String × Json) : Part where
  Made body :=
    match m.2 with
    | .arr names => ∃ checks, p.neededProperties m.1 (.arr names) = .ok checks ∧ body = .conj checks
    | schema => B schema (p.inside ("dependencies/" ++ escapeToken m.1)) body
  around := .ifPresent m.1

def MakesDependencies (nodes : List Node) : Prop :=
  Assembled ((p.schema.obj?.getD []).map (p.dependencyPart B)) nodes

def MakesNameSchema (nodes : List Node) : Prop :=
  ∃ text, Assembled
    [⟨B p.schema (p.onNames "propertyNames"), (.propertyNames · (p.site text))⟩] nodes

def namedPart (m : String × Json) : Part :=
  ⟨B m.2 (p.below ("properties/" ++ escapeToken m.1) ("/" ++ escapeToken m.1)), .descend (.key m.1)⟩

def patternPart (m : (String × Json) × Regex) : Part :=
  ⟨B m.1.2 (p.below ("patternProperties/" ++ escapeToken m.1.1) "/\x7bkey\x7d"),
    .properties (.named m.2)⟩

/-- The members that neither have a schema of their own nor match a pattern. -/
def otherMembers (patterns : List Regex) : PropertyFilter :=
  .additional ((p.siblingMembers "properties").map Prod.fst) patterns

def MakesOthers (patterns : List Regex) (nodes : List Node) : Prop :=
  match p.sibling? "additionalProperties" with
  | none | some (.bool true) => nodes = []
  | some (.bool false) =>
    ∃ text, nodes = [.noProperties (p.otherMembers patterns)
      (p.siblingSite "additionalProperties" (.bool false) text)]
  | some schema =>
    Assembled [⟨B schema (p.below "additionalProperties" "/\x7bkey\x7d"),
      .properties (p.otherMembers patterns)⟩] nodes

def MakesProperties (nodes : List Node) : Prop :=
  (∀ v, p.sibling? "patternProperties" = some v → v.obj?.isSome) ∧
  ∃ patterns named matched others,
    List.Forall₂ (fun m r => Regex.parse? m.1 = some r) (p.siblingMembers "patternProperties") patterns ∧
    Assembled ((p.siblingMembers "properties").map (p.namedPart B)) named ∧
    Assembled (((p.siblingMembers "patternProperties").zip patterns).map (p.patternPart B)) matched ∧
    p.MakesOthers B patterns others ∧
    nodes = named ++ matched ++ others

/-! ## Combinations of schemas -/

def MakesBranches (nodes : List Node) : Prop :=
  p.schema.arr?.getD [] ≠ [] ∧
  List.Forall₂ (fun m body => B m.1 (p.inside s!"{p.keyword}/{m.2}") body)
    (p.schema.arr?.getD []).zipIdx nodes

def MakesBranch (keyword : String) (node : Node) : Prop :=
  match p.sibling? keyword with
  | some schema => B schema (p.inside keyword) node
  | none => node = .pass

def MakesIfThenElse (nodes : List Node) : Prop :=
  match p.schema, p.sibling? "then", p.sibling? "else" with
  | .null, _, _ => nodes = []
  | _, none, none => nodes = []
  | schema, _, _ =>
    ∃ condition thenBranch elseBranch text, B schema (p.inside "if") condition ∧
      p.MakesBranch B "then" thenBranch ∧ p.MakesBranch B "else" elseBranch ∧
      nodes = [.ifThenElse condition thenBranch elseBranch (p.site text)]

/-! ## Every keyword -/

/-- The nodes that a keyword can contribute. -/
def Makes : BuiltinKeyword → List Node → Prop
  | .maximum, nodes => nodes = [p.limit .atMost]
  | .minimum, nodes => nodes = [p.limit .atLeast]
  | .exclusiveMaximum, nodes => nodes = [p.limit .below]
  | .exclusiveMinimum, nodes => nodes = [p.limit .above]
  | .multipleOf, nodes => ∃ n, p.multipleOf = .ok n ∧ nodes = [n]
  | .format, nodes => p.format = .ok nodes
  | .maxLength, nodes => nodes = [p.maximumSize .length]
  | .minLength, nodes => nodes = [p.minimumSize .length]
  | .pattern, nodes => ∃ n, p.pattern = .ok n ∧ nodes = [n]
  | .maxItems, nodes => nodes = [p.maximumSize .items]
  | .minItems, nodes => nodes = [p.minimumSize .items]
  | .items, nodes => p.MakesItems B nodes
  | .contains, nodes => p.MakesContains B nodes
  | .uniqueItems, nodes => nodes = [p.uniqueItems]
  | .maxProperties, nodes => nodes = [p.maximumSize .properties]
  | .minProperties, nodes => nodes = [p.minimumSize .properties]
  | .required, nodes => p.required = .ok nodes
  | .dependencies, nodes => p.MakesDependencies B nodes
  | .propertyNames, nodes => p.MakesNameSchema B nodes
  | .properties, nodes => p.MakesProperties B nodes
  | .ref, nodes => ∃ i, R (p.schema.str?.getD "") i ∧ nodes = [.call i]
  | .const, nodes => nodes = [p.constant]
  | .enum, nodes => nodes = [p.enumeration]
  | .not, nodes => ∃ body text, B p.schema (p.inside "not") body ∧ nodes = [.not body (p.site text)]
  | .anyOf, nodes => ∃ branches text, p.MakesBranches B branches ∧ nodes = [.anyOf branches (p.site text)]
  | .oneOf, nodes => ∃ branches text, p.MakesBranches B branches ∧ nodes = [.oneOf branches (p.site text)]
  | .allOf, nodes => p.MakesBranches B nodes
  | .ifThenElse, nodes => p.MakesIfThenElse B nodes

/-- The nodes that a custom keyword can contribute. -/
def MakesCustom (d : KeywordDefinition) (nodes : List Node) : Prop :=
  ∀ n ∈ nodes, (∃ text fails, n = p.check text fails) ∨ (∃ text, n = .reject (p.site text)) ∨
    ∃ expand, d.expand = some expand ∧
      B (expand p.schema p.parent) { p.position with schemaPath := p.schemaPath } n

/-! ## Keywords without subschemas

What success of those that can refuse says; the others are one check each by definition. -/

section

variable {p : KeywordPlace} {n : Node} {nodes : List Node}

theorem multipleOf_cases (h : p.multipleOf = .ok n) :
    (p.data = none → p.schema.double?.any Binary64.zero.lt) ∧
      ∃ text, n = p.check text fun data divisor => !isMultipleOf data divisor := by
  unfold multipleOf at h
  split at h
  · simp [bind, Except.bind, throw, throwThe, MonadExceptOf.throw] at h
  · next hpositive =>
    refine ⟨fun hdata => ?_, _, (Except.ok.inj h).symm⟩
    simpa [hdata] using hpositive

theorem pattern_cases (h : p.pattern = .ok n) :
    (p.data.isSome ∧ ∃ text, n = p.check text fun data pattern =>
      match data.str?, pattern.str?.bind Regex.parse? with
      | some s, some r => !r.isMatch s
      | _, _ => false) ∨
    (p.data = none ∧ ∃ r text, Regex.parse? (p.schema.str?.getD "") = some r ∧
      n = p.check text fun data _ => data.str?.any (!r.isMatch ·)) := by
  unfold pattern at h
  split at h
  · next hdata => exact Or.inl ⟨hdata, _, (Except.ok.inj h).symm⟩
  · next hdata =>
    dsimp only at h
    split at h
    · next r hr => exact Or.inr ⟨by simpa using hdata, r, _, hr, (Except.ok.inj h).symm⟩
    · simp [throw, throwThe, MonadExceptOf.throw] at h

theorem format_cases (h : p.format = .ok nodes) :
    (∃ format text, p.env.formats.get? (p.schema.str?.getD "") = some format ∧
      nodes = [p.check text fun data _ => !format.accepts data]) ∨
    (p.env.formats.get? (p.schema.str?.getD "") = none ∧ nodes = []) := by
  unfold format at h
  cases hfound : p.env.formats.get? (p.schema.str?.getD "") with
  | some found =>
    simp only [hfound] at h
    exact Or.inl ⟨found, _, rfl, (Except.ok.inj h).symm⟩
  | none =>
    simp only [hfound] at h
    split at h
    · exact Or.inr ⟨rfl, (Except.ok.inj h).symm⟩
    · simp [throw, throwThe, MonadExceptOf.throw] at h

theorem required_cases (h : p.required = .ok nodes) :
    ∃ (names : List String) (text : String → ErrorText), p.propertyNames p.schema = .ok names ∧
      nodes = names.map fun name => dataCheck (p.site (text name)) (lacks name) := by
  unfold required at h
  cases hnames : p.propertyNames p.schema with
  | error e => simp [hnames, bind, Except.bind] at h
  | ok names =>
    rw [hnames] at h
    exact ⟨names, _, rfl, (Except.ok.inj h).symm⟩

theorem neededProperties_cases {property : String} {needs : Json}
    (h : p.neededProperties property needs = .ok nodes) :
    ∃ (needed : List String) (text : String → ErrorText), p.propertyNames needs = .ok needed ∧
      nodes = needed.map fun missing =>
        dataCheck (p.siblingSite p.keyword needs (text missing)) (lacks missing) := by
  unfold neededProperties at h
  cases hneeded : p.propertyNames needs with
  | error e => simp [hneeded, bind, Except.bind] at h
  | ok needed =>
    rw [hneeded] at h
    exact ⟨needed, _, rfl, (Except.ok.inj h).symm⟩

theorem forall_mem_dataChecks {P : Node → Prop} {names : List String} {site : String → ErrorSite}
    {fails : String → Json → Bool} (h : ∀ c, P (.check c)) :
    ∀ n ∈ names.map fun name => dataCheck (site name) (fails name), P n := by
  intro n hn
  obtain ⟨name, -, rfl⟩ := List.mem_map.mp hn
  exact h _

end

/-! ## Lists of subschemas -/

section

variable {lower : Lower} {p p' : KeywordPlace}

/-- A list of items is lowered by where it stands. -/
theorem tupleItems_congr (h : p'.position = p.position) (tuple : List Json) : ∀ start,
    p'.tupleItems lower start tuple = p.tupleItems lower start tuple := by
  induction tuple with
  | nil => exact fun _ => rfl
  | cons s rest ih =>
    intro start
    simp only [tupleItems, ih, below, inside, siblingPath, h]

/-- A list of branches is lowered by where it stands and by the keyword that combines it. -/
theorem branchesFrom_congr (h : p'.position = p.position) (hkeyword : p'.keyword = p.keyword)
    (ss : List Json) : ∀ start, p'.branchesFrom lower start ss = p.branchesFrom lower start ss := by
  induction ss with
  | nil => exact fun _ => rfl
  | cons s rest ih =>
    intro start
    simp only [branchesFrom, ih, inside, siblingPath, h, hkeyword]

theorem branches_congr (h : p'.position = p.position) (hkeyword : p'.keyword = p.keyword)
    (hschema : p'.schema = p.schema) : p'.branches lower = p.branches lower := by
  unfold branches error siblingError siblingPath
  rw [hschema, hkeyword, h]
  cases p.schema.arr?.getD [] with
  | nil => rfl
  | cons s rest => exact branchesFrom_congr h hkeyword _ 0

end

/-! ## Lowering a keyword gives what it can contribute -/

section

open LowerM

variable {lower : Lower} {I : List Procedure → Prop} {B : List Procedure → BodyRel}
  {R : List Procedure → String → Nat → Prop}
  (hl : ∀ schema position, Ensures I (lower schema position) fun later n => B later schema position n)
  (p : KeywordPlace)

include hl

/-- Lowering one part. -/
theorem part_made (schema : Json) (position : Position) (around : Node → Node) :
    Ensures I (do let body ← lower schema position; return unlessPass body around)
      fun later ns => ∃ body, B later schema position body ∧ ns = unlessPass body around :=
  .bind (hl schema position) fun body => .pure fun _ hb => ⟨body, hb, rfl⟩

/-- Lowering a part that stands by itself. -/
theorem part_assembled (schema : Json) (position : Position) (around : Node → Node) :
    Ensures I (do let body ← lower schema position; return unlessPass body around)
      fun later ns => Assembled [⟨B later schema position, around⟩] ns :=
  (part_made hl schema position around).weaken fun _ _ ⟨_, hb, hns⟩ => hns ▸ .single hb

theorem tupleItems_made (tuple : List Json) : ∀ start,
    Ensures I (p.tupleItems lower start tuple) fun later ns =>
      Assembled (p.tupleParts (B later) start tuple) ns := by
  induction tuple with
  | nil => exact fun start => .pure fun _ => .nil
  | cons schema rest ih =>
    intro start
    refine .bind (hl schema _) fun body => ?_
    refine .bind (ih (start + 1)) fun others => ?_
    exact .pure fun later hrest hb => .cons hb hrest

/-- The items after a tuple, with what is done with them. -/
theorem additionalItems_bind {f : List Node → LowerM (List Node)} {start : Nat}
    {Q : List Procedure → List Node → Prop}
    (hf : ∀ others, Ensures I (f others) fun later ns =>
      Assembled (p.additionalItemsParts (B later) start) others → Q later ns) :
    Ensures I
      (match p.sibling? "additionalItems" with
        | some (.obj members) => p.elementsFrom lower "additionalItems" start (.obj members) >>= f
        | _ => pure [] >>= f) Q := by
  unfold additionalItemsParts at hf
  split at hf
  · exact .bind (part_assembled hl _ _ _) hf
  · exact .bind (.pure fun _ => .nil) hf

theorem items_made : Ensures I (p.items lower) fun later ns => p.MakesItems (B later) ns := by
  unfold items MakesItems
  refine .guard fun hsibling => ?_
  have hfirst : ∀ a, p.sibling? "additionalItems" = some a → a.bool?.isSome ∨ a.obj?.isSome := by
    intro a ha
    rw [ha] at hsibling
    cases a <;> simp_all [Json.bool?, Json.obj?]
  cases p.schema with
  | null => exact .pure fun _ => ⟨hfirst, rfl⟩
  | arr tuple =>
    refine .bind (tupleItems_made hl p tuple 0) fun fixed => ?_
    refine additionalItems_bind hl p fun others => .pure fun later hothers hfixed => ?_
    exact ⟨hfirst, fixed ++ others, hfixed.append hothers, List.append_assoc _ _ _⟩
  | _ => exact (part_assembled hl _ _ _).weaken fun _ _ h => ⟨hfirst, h⟩

theorem contains_made : Ensures I (p.contains lower) fun later ns => p.MakesContains (B later) ns :=
  .bind (hl _ _) fun body => .pure fun _ hb => ⟨body, _, hb, rfl⟩

theorem dependency_made (m : String × Json) :
    Ensures I (p.dependency lower m.1 m.2) fun later body => (p.dependencyPart (B later) m).Made body := by
  unfold dependency dependencyPart
  cases m.2 with
  | arr names =>
    exact .bind (.liftExcept _) fun checks => .pure fun _ hc => ⟨checks, hc, rfl⟩
  | _ => exact hl _ _

theorem dependencies_made :
    Ensures I (p.dependencies lower) fun later ns => p.MakesDependencies (B later) ns := by
  have hone : ∀ m : String × Json, Ensures I
      (do let body ← p.dependency lower m.1 m.2; return unlessPass body (.ifPresent m.1))
      fun later ns => ∃ body, (p.dependencyPart (B later) m).Made body ∧
        ns = unlessPass body (p.dependencyPart (B later) m).around := fun m =>
    .bind (dependency_made hl p m) fun body => .pure fun _ hb => ⟨body, hb, rfl⟩
  exact .bind (.mapM fun m _ => hone m) fun nss => .pure fun _ hnss => .of_forall₂ hnss

theorem nameSchema_made :
    Ensures I (p.nameSchema lower) fun later ns => p.MakesNameSchema (B later) ns :=
  (part_assembled hl _ _ _).weaken fun _ _ h => ⟨_, h⟩

theorem namedProperties_made :
    Ensures I (p.namedProperties lower) fun later ns =>
      Assembled ((p.siblingMembers "properties").map (p.namedPart (B later))) ns := by
  have hone : ∀ m : String × Json, Ensures I _ fun later ns =>
      ∃ body, (p.namedPart (B later) m).Made body ∧ ns = unlessPass body (p.namedPart (B later) m).around :=
    fun m => part_made hl m.2 _ _
  exact .bind (.mapM fun m _ => hone m) fun nss => .pure fun _ hnss => .of_forall₂ hnss

theorem patternProperties_made :
    Ensures I (p.patternProperties lower) fun later made =>
      List.Forall₂ (fun m r => Regex.parse? m.1 = some r)
        (p.siblingMembers "patternProperties") made.2 ∧
      Assembled (((p.siblingMembers "patternProperties").zip made.2).map (p.patternPart (B later)))
        made.1 := by
  refine .bind (.mapM (Q := fun m later made => Regex.parse? m.1 = some made.2 ∧
    ∃ body, (p.patternPart (B later) (m, made.2)).Made body ∧
      made.1 = unlessPass body (.properties (.named made.2))) ?_) fun compiled => .pure fun later h => ?_
  · rintro ⟨pattern, schema⟩ _
    dsimp only
    split
    · next r hr => exact .bind (hl _ _) fun body => .pure fun _ hb => ⟨hr, body, hb, rfl⟩
    · exact .refuse
  · generalize p.siblingMembers "patternProperties" = members at h
    induction h with
    | nil => exact ⟨.nil, .nil⟩
    | cons hm _ ih =>
      obtain ⟨hr, body, hb, hns⟩ := hm
      rw [List.flatMap_cons, hns]
      exact ⟨.cons hr ih.1, .cons hb ih.2⟩

theorem additionalProperties_made (patterns : List Regex) :
    Ensures I (p.additionalProperties lower patterns) fun later ns =>
      p.MakesOthers (B later) patterns ns := by
  unfold additionalProperties MakesOthers
  cases p.sibling? "additionalProperties" with
  | none => exact .pure fun _ => rfl
  | some schema =>
    cases schema with
    | bool allowed =>
      cases allowed with
      | true => exact .pure fun _ => rfl
      | false => exact .pure fun _ => ⟨_, rfl⟩
    | _ => exact part_assembled hl _ _ _

theorem properties_made :
    Ensures I (p.properties lower) fun later ns => p.MakesProperties (B later) ns := by
  refine .guard fun hsibling => ?_
  have hfirst : ∀ v, p.sibling? "patternProperties" = some v → v.obj?.isSome := by
    intro v hv
    rw [hv] at hsibling
    simpa [Option.isSome_iff_ne_none] using hsibling
  refine .bind (namedProperties_made hl p) fun named => ?_
  refine .bind (patternProperties_made hl p) fun made => ?_
  refine .bind (additionalProperties_made hl p made.2) fun others => .pure ?_
  intro later hothers hmatched hnamed
  exact ⟨hfirst, made.2, named, made.1, others, hmatched.1, hnamed, hmatched.2, hothers, rfl⟩

theorem branchesFrom_made (schemas : List Json) : ∀ start,
    Ensures I (p.branchesFrom lower start schemas) fun later ns =>
      List.Forall₂ (fun m body => B later m.1 (p.inside s!"{p.keyword}/{m.2}") body)
        (schemas.zipIdx start) ns := by
  induction schemas with
  | nil => exact fun start => .pure fun _ => .nil
  | cons schema rest ih =>
    intro start
    refine .bind (hl _ _) fun body => .bind (ih (start + 1)) fun bodies => ?_
    exact .pure fun later hrest hb => .cons hb hrest

theorem branches_made : Ensures I (p.branches lower) fun later ns => p.MakesBranches (B later) ns := by
  unfold branches MakesBranches
  cases p.schema.arr?.getD [] with
  | nil => exact .refuse
  | cons schema rest =>
    exact (branchesFrom_made hl p (schema :: rest) 0).weaken fun _ _ h => ⟨List.cons_ne_nil _ _, h⟩

theorem branch_made (keyword : String) :
    Ensures I (p.branch lower keyword) fun later n => p.MakesBranch (B later) keyword n := by
  unfold branch MakesBranch
  cases p.sibling? keyword with
  | none => exact .pure fun _ => rfl
  | some schema => exact hl _ _

theorem ifThenElse_made :
    Ensures I (p.ifThenElse lower) fun later ns => p.MakesIfThenElse (B later) ns := by
  have hall : ∀ schema, Ensures I
      (do
        let condition ← lower schema (p.inside "if")
        let thenBranch ← p.branch lower "then"
        let elseBranch ← p.branch lower "else"
        return [Node.ifThenElse condition thenBranch elseBranch
          (p.site (.fixed "should match \"then\" schema" (.obj [("failingKeyword", "then")])))])
      fun later ns => ∃ condition thenBranch elseBranch text,
        B later schema (p.inside "if") condition ∧ p.MakesBranch (B later) "then" thenBranch ∧
        p.MakesBranch (B later) "else" elseBranch ∧
        ns = [Node.ifThenElse condition thenBranch elseBranch (p.site text)] := fun schema =>
    .bind (hl _ _) fun c => .bind (branch_made hl p "then") fun t =>
      .bind (branch_made hl p "else") fun e => .pure fun _ he ht hc => ⟨c, t, e, _, hc, ht, he, rfl⟩
  unfold ifThenElse MakesIfThenElse
  cases p.schema <;> cases p.sibling? "then" <;> cases p.sibling? "else" <;>
    first | exact .pure fun _ => rfl | exact hall _

/-- **Lowering a keyword gives what the keyword can contribute**, if lowering a schema gives what is
    known of bodies and its reference leads to what is known of procedures. -/
theorem builtin_made
    (k : BuiltinKeyword)
    (hr : k = .ref → Ensures I (p.procedureOf lower (p.schema.str?.getD "")) fun later i =>
      R later (p.schema.str?.getD "") i) :
    Ensures I (p.builtin lower k) fun later ns => p.Makes (B later) (R later) k ns := by
  cases k with
  | multipleOf => exact .bind (.liftExcept _) fun n => .pure fun _ hn => ⟨n, hn, rfl⟩
  | pattern => exact .bind (.liftExcept _) fun n => .pure fun _ hn => ⟨n, hn, rfl⟩
  | format => exact .liftExcept _
  | required => exact .liftExcept _
  | items => exact items_made hl p
  | contains => exact contains_made hl p
  | dependencies => exact dependencies_made hl p
  | propertyNames => exact nameSchema_made hl p
  | properties => exact properties_made hl p
  | ref => exact .bind (hr rfl) fun i => .pure fun _ hi => ⟨i, hi, rfl⟩
  | not => exact .bind (hl _ _) fun body => .pure fun _ hb => ⟨body, _, hb, rfl⟩
  | anyOf => exact .bind (branches_made hl p) fun ns => .pure fun _ hns => ⟨ns, _, hns, rfl⟩
  | oneOf => exact .bind (branches_made hl p) fun ns => .pure fun _ hns => ⟨ns, _, hns, rfl⟩
  | allOf => exact branches_made hl p
  | ifThenElse => exact ifThenElse_made hl p
  | _ => exact .pure fun _ => rfl

omit hl in
/-- The checks that a keyword's code asks for depend on how the keyword checks data. -/
theorem codeChecks_congr {p' : KeywordPlace} (h : p'.check = p.check) (actions : List CodeAction) :
    ∀ text, p'.codeChecks text actions = p.codeChecks text actions := by
  induction actions with
  | nil => exact fun _ => rfl
  | cons action rest ih =>
    intro text
    cases action with
    | setParams params => exact ih _
    | fail condition => rw [codeChecks, codeChecks, h, ih]
    | ok condition => rw [codeChecks, codeChecks, h, ih]

omit hl in
/-- The checks that a keyword's code asks for are checks of the keyword. -/
theorem codeChecks_are_checks (actions : List CodeAction) :
    ∀ text, ∀ n ∈ p.codeChecks text actions, ∃ text fails, n = p.check text fails := by
  induction actions with
  | nil => exact fun _ n hn => absurd hn List.not_mem_nil
  | cons action rest ih =>
    intro text n hn
    cases action with
    | setParams params => exact ih _ n hn
    | fail condition =>
      rcases List.mem_cons.mp hn with rfl | hn
      · exact ⟨_, _, rfl⟩
      · exact ih text n hn
    | ok condition =>
      rcases List.mem_cons.mp hn with rfl | hn
      · exact ⟨_, _, rfl⟩
      · exact ih text n hn

theorem customLogic_made (d : KeywordDefinition) :
    Ensures I (p.customLogic lower d) fun later r => p.MakesCustom (B later) d r.1 := by
  unfold customLogic
  cases hcode : d.code with
  | some code =>
    refine .bind (.liftExcept _) fun actions => .pure fun _ _ n hn => ?_
    exact Or.inl (codeChecks_are_checks p actions _ n hn)
  | none =>
    cases hvalidate : d.validate with
    | some validate =>
      refine .pure fun _ n hn => Or.inl ⟨_, _, List.mem_singleton.mp hn⟩
    | none =>
      cases hcompile : d.compile with
      | some compile =>
        refine .bind (.liftExcept _) fun check => .pure fun _ _ n hn => ?_
        exact Or.inl ⟨_, _, List.mem_singleton.mp hn⟩
      | none =>
        cases hexpand : d.expand with
        | some expand =>
          refine .bind (hl _ _) fun body => .pure fun _ hb n hn => Or.inr (Or.inr ?_)
          exact ⟨expand, hexpand, List.mem_singleton.mp hn ▸ hb⟩
        | none => exact .pure fun _ n hn => absurd hn List.not_mem_nil

theorem custom_made (d : KeywordDefinition) :
    Ensures I (p.custom lower d) fun later ns => p.MakesCustom (B later) d ns := by
  refine .bind (customLogic_made hl p d) fun r => ?_
  obtain ⟨nodes, text⟩ := r
  dsimp only
  split
  · exact .pure fun _ _ n hn => absurd hn List.not_mem_nil
  · exact .pure fun _ _ n hn => Or.inr (Or.inl ⟨_, List.mem_singleton.mp hn⟩)
  · exact .pure fun _ h => h

end

end KeywordPlace

end JsonSchema
