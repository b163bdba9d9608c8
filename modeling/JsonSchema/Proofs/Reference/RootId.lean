import Mathlib.Data.List.DropRight
import JsonSchema.Proofs.Lowering.Lockstep
import JsonSchema.Proofs.Reference.Bases
import JsonSchema.Proofs.Reference.Collisions
import JsonSchema.Proofs.Reference.Replacement

/-!
# Another text for the root's `$id`

No keyword of draft-07 reads the `$id` of its schema, so a root whose `$id` is written in another way is
lowered in the same way, as long as the two texts come to the same URI wherever lowering and the index
join them.
-/

set_option autoImplicit false

namespace JsonSchema

/-! ## Objects that differ in their `$id` -/

/-- The members are the same but for the text of `$id`. -/
def SameButId (members members' : List (String × Json)) : Prop :=
  List.Forall₂ (fun m m' => m' = m ∨ ∃ t t', m = ("$id", .str t) ∧ m' = ("$id", .str t')) members members'

namespace SameButId

variable {members members' : List (String × Json)}

theorem lookup_cases (h : SameButId members members') (name : String) :
    members'.lookup name = members.lookup name ∨ name = "$id" ∧
      ∃ t t', members.lookup name = some (.str t) ∧ members'.lookup name = some (.str t') := by
  induction h with
  | nil => exact .inl rfl
  | @cons m m' rest rest' hm _ ih =>
    rcases hm with rfl | ⟨t, t', rfl, rfl⟩
    · obtain ⟨key, v⟩ := m'
      by_cases hkey : name = key
      · subst hkey
        simp
      · have hne : (name == key) = false := by simpa using hkey
        simpa only [List.lookup_cons, hne] using ih
    · by_cases hkey : name = "$id"
      · subst hkey
        exact .inr ⟨rfl, t, t', by simp, by simp⟩
      · have hne : (name == "$id") = false := by simpa using hkey
        simpa only [List.lookup_cons, hne] using ih

theorem lookup (h : SameButId members members') {name : String} (hname : name ≠ "$id") :
    members'.lookup name = members.lookup name := by
  rcases h.lookup_cases name with hsame | ⟨rfl, -⟩
  · exact hsame
  · exact absurd rfl hname

theorem size (h : SameButId members members') : Json.sizeMembers members' = Json.sizeMembers members := by
  induction h with
  | nil => rfl
  | @cons m m' _ _ hm _ ih =>
    have hsize : m'.2.size = m.2.size := by
      rcases hm with rfl | ⟨t, t', rfl, rfl⟩
      · rfl
      · simp [Json.size]
    obtain ⟨name, v⟩ := m
    obtain ⟨name', v'⟩ := m'
    rw [Json.sizeMembers, Json.sizeMembers, ih, show v'.size = v.size from hsize]

theorem checkKeywords (h : SameButId members members') (env : Environment) (path : String) :
    env.checkKeywords path members' = env.checkKeywords path members := by
  unfold Environment.checkKeywords
  induction h with
  | nil => rfl
  | @cons m m' _ _ hm _ ih =>
    have hname : m'.1 = m.1 := by
      rcases hm with rfl | ⟨t, t', rfl, rfl⟩ <;> rfl
    obtain ⟨name, v⟩ := m
    obtain ⟨name', v'⟩ := m'
    obtain rfl : name' = name := hname
    rw [List.find?_cons, List.find?_cons]
    cases env.registry.isKnown name' with
    | true => exact ih
    | false => rfl

theorem indexMembers (h : SameButId members members') (docs : Documents) (b : Uri) :
    docs.indexMembers b members' = docs.indexMembers b members := by
  induction h generalizing docs with
  | nil => rfl
  | @cons m m' _ _ hm _ ih =>
    rcases hm with rfl | ⟨t, t', rfl, rfl⟩
    · obtain ⟨name, v⟩ := m'
      rw [Documents.indexMembers, Documents.indexMembers, ih]
      cases docs.index b v with
      | error e => rfl
      | ok docs' =>
        simp only [bind, Except.bind, ih]
    · rw [Documents.indexMembers, Documents.indexMembers, Documents.index, Documents.index]
      · simp only [bind, Except.bind, ih]
      all_goals simp

end SameButId

/-! ## Lowering objects that differ in their `$id` -/

/-- All rules are those of draft-07. -/
def Registry.BuiltinOnly (r : Registry) : Prop :=
  ∀ group ∈ r.groups, ∀ rule ∈ group.rules, ∃ k, rule = .ofBuiltin k

/-- Such rules are under the names of their keywords. -/
theorem Registry.BuiltinOnly.namesBuiltins {env : Environment} (h : env.registry.BuiltinOnly) :
    env.NamesBuiltins := by
  intro group hgroup rule hrule k hk
  obtain ⟨k', rfl⟩ := h group hgroup rule hrule
  obtain rfl := Implementation.builtin.inj hk
  rfl

theorem Registry.withBuiltins_builtinOnly : withBuiltins.BuiltinOnly := by
  intro group hgroup rule hrule
  obtain ⟨listed, -, -, hrules⟩ := exists_left_of_forall₂ withBuiltins_groups.flip group hgroup
  rw [hrules] at hrule
  obtain ⟨k, -, rfl⟩ := List.mem_map.mp hrule
  exact ⟨k, rfl⟩

/-- Draft-07 has references. -/
theorem Registry.withBuiltins_refers : withBuiltins.hasRule "$ref" = true := by decide +kernel

section

variable {env : Environment} (hbuiltin : env.registry.BuiltinOnly) {members : List (String × Json)}
  {rule : Rule}

include hbuiltin

/-- A rule that is read is one of draft-07. -/
theorem Registry.BuiltinOnly.reads (h : env.Reads members rule) : ∃ k, rule = .ofBuiltin k := by
  obtain ⟨group, hgroup, hpresent⟩ := h
  exact hbuiltin group hgroup rule (List.mem_of_mem_filter hpresent)

/-- Beside `$ref` no other keyword is read. -/
theorem Registry.BuiltinOnly.reads_ref (hrule : env.registry.hasRule "$ref" = true)
    (href : (members.lookup "$ref").isSome) (h : env.Reads members rule) : rule = .ofBuiltin .ref := by
  obtain ⟨k, rfl⟩ := hbuiltin.reads h
  obtain ⟨group, -, hpresent⟩ := h
  obtain ⟨-, hread⟩ := List.mem_filter.mp hpresent
  have honly : env.onlyRef members = true := by simp [Environment.onlyRef, href, hrule]
  rw [honly] at hread
  have hname : k.name = "$ref" := eq_of_beq (show (k.name == "$ref") = true from
    (Bool.and_eq_true_iff.mp hread).2)
  have href : k = .ref := by
    revert hname
    cases k <;> decide
  rw [href]

/-- No rule reads a schema that only declares a type. -/
theorem Registry.BuiltinOnly.not_reads_type {v : Json} : ¬ env.Reads [("type", v)] rule := by
  intro h
  obtain ⟨k, rfl⟩ := hbuiltin.reads h
  obtain ⟨group, -, hpresent⟩ := h
  obtain ⟨-, hread⟩ := List.mem_filter.mp hpresent
  obtain ⟨name, hname, hsome⟩ := List.any_eq_true.mp (Bool.and_eq_true_iff.mp hread).1
  have hne : ∀ name ∈ k.name :: k.implements, name ≠ "type" := by cases k <;> decide
  have : (name == "type") = false := by simpa using hne name hname
  rw [List.lookup_cons, this] at hsome
  cases hsome

end

namespace KeywordPlace

variable {lower : Lower} {p : KeywordPlace} {parent : List (String × Json)}

/-- The same place in another object. -/
def within (p : KeywordPlace) (parent : List (String × Json)) : KeywordPlace := { p with parent }

theorem procedureOf_within (reference : String) :
    (p.within parent).procedureOf lower reference = p.procedureOf lower reference := by
  funext procedures
  rw [procedureOf_eq, procedureOf_eq]
  rfl

/-- **Keywords read their siblings, but never `$id`.** -/
theorem builtin_within (h : ∀ name, name ≠ "$id" → parent.lookup name = p.parent.lookup name)
    (k : BuiltinKeyword) : (p.within parent).builtin lower k = p.builtin lower k := by
  have hsibling : ∀ name, name ≠ "$id" → (p.within parent).sibling? name = p.sibling? name := h
  have hmembers : ∀ name, name ≠ "$id" → (p.within parent).siblingMembers name = p.siblingMembers name := by
    intro name hname
    rw [siblingMembers, siblingMembers, hsibling name hname]
  cases k with
  | items =>
    show (p.within parent).items lower = p.items lower
    unfold items
    rw [hsibling _ (by decide)]
    rw [show (p.within parent).schema = p.schema from rfl]
    cases p.schema with
    | arr tuple =>
      dsimp only
      rw [tupleItems_congr (show (p.within parent).position = p.position from rfl)]
      rfl
    | _ => rfl
  | properties =>
    show (p.within parent).properties lower = p.properties lower
    unfold properties namedProperties patternProperties additionalProperties
    rw [hsibling _ (by decide), hsibling _ (by decide), hmembers _ (by decide), hmembers _ (by decide)]
    rfl
  | ifThenElse =>
    show (p.within parent).ifThenElse lower = p.ifThenElse lower
    unfold ifThenElse branch
    rw [hsibling _ (by decide), hsibling _ (by decide)]
    rfl
  | anyOf =>
    show (p.within parent).anyOf lower = p.anyOf lower
    unfold anyOf
    rw [@branches_congr _ p (p.within parent) rfl rfl rfl]
    rfl
  | oneOf =>
    show (p.within parent).oneOf lower = p.oneOf lower
    unfold oneOf
    rw [@branches_congr _ p (p.within parent) rfl rfl rfl]
    rfl
  | allOf => exact branches_congr rfl rfl rfl
  | ref =>
    show (p.within parent).ref lower = p.ref lower
    unfold ref
    rw [procedureOf_within]
    rfl
  | _ => rfl

end KeywordPlace

section

variable {env : Environment} {members members' : List (String × Json)} {lower : Lower}
  {position : Position}

theorem Rule.isPresent_sameButId (h : SameButId members members') (k : BuiltinKeyword) :
    (Rule.ofBuiltin k).isPresent members' = (Rule.ofBuiltin k).isPresent members := by
  have hnames : ∀ name ∈ k.name :: k.implements, name ≠ "$id" := by cases k <;> decide
  unfold Rule.isPresent
  rw [Bool.eq_iff_iff, List.any_eq_true, List.any_eq_true]
  refine exists_congr fun name => and_congr_right fun hname => ?_
  rw [h.lookup (hnames name hname)]

theorem Rule.lower_sameButId (h : SameButId members members') (k : BuiltinKeyword) :
    (Rule.ofBuiltin k).lower lower env members' position =
      (Rule.ofBuiltin k).lower lower env members position := by
  have hvalue : members'.lookup k.name = members.lookup k.name := h.lookup (by cases k <;> decide)
  have hmade : ∀ data,
      KeywordPlace.builtin lower
          ⟨env, members', position, k.name, (members.lookup k.name).getD .null, data, k.schemaTypes⟩ k =
        KeywordPlace.builtin lower
          ⟨env, members, position, k.name, (members.lookup k.name).getD .null, data, k.schemaTypes⟩ k :=
    fun data => KeywordPlace.builtin_within
      (p := ⟨env, members, position, k.name, (members.lookup k.name).getD .null, data, k.schemaTypes⟩)
      (fun _ hname => h.lookup hname) k
  unfold Rule.lower
  dsimp only [ofBuiltin, schemaTypes]
  rw [hvalue]
  simp only [hmade]

theorem RuleGroup.lower_sameButId (h : SameButId members members') {group : RuleGroup}
    (hbuiltin : ∀ rule ∈ group.rules, ∃ k, rule = .ofBuiltin k) (onlyRef : Bool) :
    group.lower lower env members' position onlyRef = group.lower lower env members position onlyRef := by
  have hpresent : (group.rules.filter fun rule =>
      rule.isPresent members' && (!onlyRef || rule.keyword == "$ref")) =
      group.rules.filter fun rule => rule.isPresent members && (!onlyRef || rule.keyword == "$ref") := by
    refine List.filter_congr fun rule hrule => ?_
    obtain ⟨k, rfl⟩ := hbuiltin rule hrule
    rw [Rule.isPresent_sameButId h]
  have hrules : ∀ rules : List Rule, (∀ rule ∈ rules, rule ∈ group.rules) →
      rules.mapM (fun rule => rule.lower lower env members' position) =
        rules.mapM fun rule => rule.lower lower env members position := by
    refine fun rules hsub => mapM_congr fun rule hrule => ?_
    obtain ⟨k, rfl⟩ := hbuiltin rule (hsub rule hrule)
    exact Rule.lower_sameButId h k
  unfold RuleGroup.lower
  rw [hpresent]
  dsimp only
  rw [hrules _ fun rule hrule => List.mem_of_mem_filter hrule]

/-- **An object is lowered without regard to its `$id`**, once its base is known. -/
theorem lowerObject_sameButId (hbuiltin : env.registry.BuiltinOnly) (h : SameButId members members') :
    lowerObject lower env members' position = lowerObject lower env members position := by
  have hgroups : ∀ (onlyRef : Bool) (declared : Option (List DataType)),
      (env.registry.groups.filter (·.concerns declared)).mapM
          (RuleGroup.lower lower env members' position onlyRef) =
        (env.registry.groups.filter (·.concerns declared)).mapM
          (RuleGroup.lower lower env members position onlyRef) := fun onlyRef declared =>
    mapM_congr fun group hgroup =>
      RuleGroup.lower_sameButId h (hbuiltin group (List.mem_of_mem_filter hgroup)) onlyRef
  have hdeclared : declaredTypes position.schemaPath members' =
      declaredTypes position.schemaPath members := by
    unfold declaredTypes
    rw [h.lookup (by decide)]
  have htype : typeNode position.schemaPath members' = typeNode position.schemaPath members := by
    funext types
    unfold typeNode
    rw [h.lookup (by decide)]
  unfold lowerObject
  rw [h.lookup (by decide), h.checkKeywords, hdeclared, htype]
  simp only [hgroups]

end

/-! ## Roots that differ in the text of their `$id` -/

/-- The second root has the first one's `$id` in its absolute form, and joining the `$id` as the first
    root has it to the URI that it comes to changes nothing. -/
structure AbsoluteForm (members members' : List (String × Json)) (uri : Uri) : Prop where
  same : SameButId members members'
  relative : ∃ id, idOf? (.obj members) = some id ∧ resolveUri defaultBase id = .ok uri ∧
    resolveUri uri.withoutFragment id = .ok uri
  absolute : ∃ id, idOf? (.obj members') = some id ∧ ∀ b, resolveUri b id = .ok uri
  unnamed : uri.isAnchored = false

/-- Schemas that stand in each other's place when the root is replaced: they are the same, or the roots,
    or the texts of the two `$id`s. -/
inductive Alternates (members members' : List (String × Json)) (uri b : Uri) : Json → Json → Prop where
  | same (s : Json) : Alternates members members' uri b s s
  | root : schemaBase (.obj members) b = .ok uri.withoutFragment →
      Alternates members members' uri b (.obj members) (.obj members')
  | text (t t' : String) : Alternates members members' uri b (.str t) (.str t')

/-- The documents are the same but for the root. -/
def Documents.SameButRoot (members members' : List (String × Json)) (key : String)
    (docs docs' : Documents) : Prop :=
  ∀ uri, docs'.get? uri = docs.get? uri ∨
    uri = key ∧ docs.get? uri = some (.obj members) ∧ docs'.get? uri = some (.obj members')

section

variable {members members' : List (String × Json)} {uri : Uri} {docs docs' : Documents}

namespace AbsoluteForm

theorem schemaBase_absolute (h : AbsoluteForm members members' uri) (b : Uri) :
    schemaBase (.obj members') b = .ok uri.withoutFragment := by
  obtain ⟨id, hid, habsolute⟩ := h.absolute
  rw [schemaBase, hid]
  dsimp only
  rw [habsolute b]
  rfl

theorem schemaBase_again (h : AbsoluteForm members members' uri) :
    schemaBase (.obj members) uri.withoutFragment = .ok uri.withoutFragment := by
  obtain ⟨id, hid, -, hagain⟩ := h.relative
  rw [schemaBase, hid]
  dsimp only
  rw [hagain]
  rfl

open Documents

/-- From the two roots the tokens of a pointer lead to alternates. -/
theorem follow (h : AbsoluteForm members members' uri) {b : Uri}
    (hb : schemaBase (.obj members) b = .ok uri.withoutFragment) (tokens : List String) :
    Documents.follow (.obj members') b tokens = Documents.follow (.obj members) b tokens ∨
      ∃ s s' b', Documents.follow (.obj members) b tokens = .ok (some (s, b')) ∧
        Documents.follow (.obj members') b tokens = .ok (some (s', b')) ∧
        Alternates members members' uri b' s s' := by
  cases tokens with
  | nil => exact .inr ⟨_, _, b, rfl, rfl, .root hb⟩
  | cons token rest =>
    rw [Documents.follow, Documents.follow]
    dsimp only [step?]
    rcases h.same.lookup_cases token with hsame | ⟨-, t, t', ht, ht'⟩
    · rw [hsame]
      exact .inl rfl
    · rw [ht, ht']
      cases rest with
      | nil => exact .inr ⟨_, _, b, rfl, rfl, .text t t'⟩
      | cons => exact .inl rfl

/-- **A reference leads to alternates**, or nowhere among the one documents and among the others. -/
theorem resolve (h : AbsoluteForm members members' uri)
    (hdocs : SameButRoot members members' uri.withoutFragment.text docs docs') {place : Uri}
    {reference : String} (hspelled : ∀ joined, resolveUri place reference = .ok joined →
      (if joined.isAnchored then joined.text else joined.withoutFragment.text) = uri.withoutFragment.text →
      joined.withoutFragment = uri.withoutFragment) :
    (∃ e, docs.resolve place reference = .error e ∧ docs'.resolve place reference = .error e) ∨
      ∃ target s, docs.resolve place reference = .ok target ∧
        docs'.resolve place reference = .ok { target with schema := s } ∧
        Alternates members members' uri target.base target.schema s := by
  have hequal : docs'.resolve place reference = docs.resolve place reference →
      (∃ e, docs.resolve place reference = .error e ∧ docs'.resolve place reference = .error e) ∨
        ∃ target s, docs.resolve place reference = .ok target ∧
          docs'.resolve place reference = .ok { target with schema := s } ∧
          Alternates members members' uri target.base target.schema s := by
    intro hequal
    rw [hequal]
    cases docs.resolve place reference with
    | error e => exact .inl ⟨e, rfl, rfl⟩
    | ok target => exact .inr ⟨target, target.schema, rfl, rfl, .same _⟩
  revert hequal
  unfold Documents.resolve
  cases hjoined : resolveUri place reference with
  | error e => exact fun hequal => hequal rfl
  | ok joined =>
    have hown := hspelled joined hjoined
    simp only [bind, Except.bind]
    split
    · next hanchor =>
      rw [if_pos hanchor] at hown
      rcases hdocs joined.text with hsame | ⟨hkey, hroot, hroot'⟩
      · rw [hsame]
        exact fun hequal => hequal rfl
      · rw [hroot, hroot', hown hkey]
        exact fun _ => .inr ⟨_, _, rfl, rfl, .root h.schemaBase_again⟩
    · next hanchor =>
      rw [if_neg hanchor] at hown
      rcases hdocs joined.withoutFragment.text with hsame | ⟨hkey, hroot, hroot'⟩
      · rw [hsame]
        exact fun hequal => hequal rfl
      · rw [hroot, hroot', hown hkey]
        dsimp only
        cases Percent.decode? (joined.fragment.getD []) with
        | none => exact fun hequal => hequal rfl
        | some pointer =>
          dsimp only
          cases Pointer.parse? (String.ofList pointer) with
          | none => exact fun hequal => hequal rfl
          | some tokens =>
            dsimp only
            rcases h.follow h.schemaBase_again tokens with hsame | ⟨s, s', b', hs, hs', halternates⟩
            · rw [hsame]
              exact fun hequal => hequal rfl
            · rw [hs, hs']
              exact fun _ => .inr ⟨_, _, rfl, rfl, halternates⟩

end AbsoluteForm

/-! ## Lowering and filing the two roots -/

section

open LowerM

variable {env : Environment}

/-- The mirror in which targets have other schemas, under the same keys. -/
def Mirror.retargeted : Mirror := .behind [] Eq Eq fun _ => rfl

/-- **Alternates are lowered to the same nodes**, step by step. -/
theorem lowerSchema_alternates (h : AbsoluteForm members members' uri)
    (hbuiltin : env.registry.BuiltinOnly) (hsettled : env.Settled (.obj members) uri.withoutFragment)
    (hdocs : env.documents.SameButRoot members members' uri.withoutFragment.text docs') :
    ∀ budget s s' position, env.MeetsAt (.obj members) uri.withoutFragment s position →
      Alternates members members' uri position.base s s' →
      Mirrors .retargeted (Node.renumber Mirror.retargeted.number) (lowerSchema env budget s position)
        (lowerSchema (env.among docs') budget s' position) := by
  intro budget
  induction budget with
  | zero =>
    intro s s' position _ _
    rw [lowerSchema, lowerSchema]
    exact .refuse _
  | succ budget ih =>
    intro s s' position hmeets halternates
    have hobject : ∀ ms b, env.MeetsAt (.obj members) uri.withoutFragment (.obj ms) position →
        schemaBase (.obj ms) position.base = .ok b →
        Mirrors .retargeted (Node.renumber Mirror.retargeted.number)
          (lowerObject (lowerSchema env budget) env ms { position with base := b })
          (lowerObject (lowerSchema (env.among docs') budget) (env.among docs') ms
            { position with base := b }) := by
      intro ms b hmeets hb
      have hhanded : ∀ s at', env.Hands ms { position with base := b } s at' →
          env.MeetsAt (.obj members) uri.withoutFragment s at' :=
        fun s at' => hmeets.handed hbuiltin.namesBuiltins hb
      refine lowerObject_mirrors fun rule hreads => ⟨?_, fun data hrule => ?_, ?_⟩
      · rintro k data s hrule hs at' rfl
        exact ih s s at' (hhanded s at' (.applied hreads hrule hs rfl)) (.same s)
      · refine KeywordPlace.procedureOf_mirrors (fun ha hb => by rw [ha, hb]) ?_
        obtain ⟨place, hplace⟩ := hmeets ms b rfl hb
        show Target.Mirrored _ _ _ _ _ _ _ (env.documents.resolve b _) (docs'.resolve b _)
        rcases h.resolve hdocs fun joined => hsettled.spelled hplace hreads hrule with
          ⟨e, he, he'⟩ | ⟨target, s, ht, ht', hs⟩
        · rw [he, he']
          exact .missing rfl
        · rw [ht, ht']
          refine .found rfl (fun _ hq => absurd hq List.not_mem_nil) ?_
          exact ih _ _ (.ofTarget target _) (hhanded _ _ (.referred hreads hrule ht)) hs
      · rintro d expand hrule hd at' rfl
        exact ih _ _ at' (hhanded _ at' (.expanded hreads hrule hd rfl)) (.same _)
    cases halternates with
    | same =>
      cases s with
      | obj ms =>
        cases hbase : schemaBase (.obj ms) position.base with
        | error e =>
          have hfails : ∀ f : Uri → LowerM Node, liftExcept (.error e) >>= f = fun _ => .error e :=
            fun _ => rfl
          rw [lowerSchema, lowerSchema, hbase, hfails, hfails]
          exact .refuse e
        | ok b =>
          rw [lowerSchema_obj hbase, lowerSchema_obj hbase]
          exact hobject ms b hmeets hbase
      | bool allowed =>
        cases allowed with
        | true => exact .pure rfl
        | false => exact .pure rfl
      | _ => exact .refuse _
    | root hbase =>
      have hbuiltin' : (env.among docs').registry.BuiltinOnly := hbuiltin
      rw [lowerSchema_obj hbase, lowerSchema_obj (h.schemaBase_absolute _),
        lowerObject_sameButId hbuiltin' h.same]
      exact hobject members _ hmeets hbase
    | text t t' => exact .refuse _

end

/-- A root whose `$id` comes to its base is filed there, twice, and then what is inside it. -/
theorem add_root {ms : List (String × Json)} {id : String} (hid : idOf? (.obj ms) = some id)
    (hjoined : resolveUri uri.withoutFragment id = .ok uri) (hunnamed : uri.isAnchored = false)
    (docs : Documents) : docs.add uri.withoutFragment.text uri.withoutFragment (.obj ms) =
      Documents.indexMembers ((docs.set uri.withoutFragment.text (.obj ms)).set uri.withoutFragment.text
        (.obj ms)) uri.withoutFragment ms := by
  unfold Documents.add
  rw [Documents.index, Documents.identify, hid]
  simp only [hjoined, bind, Except.bind, hunnamed]
  rfl

/-- **The two roots file the same documents**, but for themselves. -/
theorem visibleFrom_absoluteForm (h : AbsoluteForm members members' uri) (cache : Table String Json) :
    (∃ e, Documents.visibleFrom (.obj members) uri.withoutFragment cache = .error e ∧
        Documents.visibleFrom (.obj members') uri.withoutFragment cache = .error e) ∨
      ∃ docs docs', Documents.visibleFrom (.obj members) uri.withoutFragment cache = .ok docs ∧
        Documents.visibleFrom (.obj members') uri.withoutFragment cache = .ok docs' ∧
        Documents.SameButRoot members members' uri.withoutFragment.text docs docs' := by
  obtain ⟨id, hid, -, hjoined⟩ := h.relative
  obtain ⟨id', hid', habsolute⟩ := h.absolute
  unfold Documents.visibleFrom
  cases Documents.ofCache cache with
  | error e => exact .inl ⟨e, rfl, rfl⟩
  | ok docs =>
    simp only [bind, Except.bind]
    rw [add_root hid hjoined h.unnamed, add_root hid' (habsolute _) h.unnamed, h.same.indexMembers]
    generalize hkey : uri.withoutFragment.text = key
    have hstacks : Documents.OnTop _ (Documents.indexMembers .empty uri.withoutFragment members) _ :=
      Documents.indexMembers_stacks members uri.withoutFragment
        ((docs.set key (.obj members)).set key (.obj members))
    have hstacks' : Documents.OnTop _ (Documents.indexMembers .empty uri.withoutFragment members) _ :=
      Documents.indexMembers_stacks members uri.withoutFragment
        ((docs.set key (.obj members')).set key (.obj members'))
    cases hown : Documents.indexMembers .empty uri.withoutFragment members with
    | error e =>
      rw [hown] at hstacks hstacks'
      exact .inl ⟨e, hstacks, hstacks'⟩
    | ok own =>
      rw [hown] at hstacks hstacks'
      obtain ⟨docs₁, hdocs₁, hget₁⟩ := hstacks
      obtain ⟨docs₂, hdocs₂, hget₂⟩ := hstacks'
      refine .inr ⟨docs₁, docs₂, hdocs₁, hdocs₂, fun u => ?_⟩
      rw [hget₁, hget₂]
      cases own.get? u with
      | some v => exact .inl rfl
      | none =>
        simp only [Option.none_or, Table.get?_set]
        by_cases hu : u = key
        · exact .inr ⟨hu, by rw [if_pos hu], by rw [if_pos hu]⟩
        · simp [if_neg hu]

theorem loweringBudget_sameButRoot {key : String} (h : SameButId members members')
    (hdocs : docs.SameButRoot members members' key docs') :
    loweringBudget (.obj members') docs' = loweringBudget (.obj members) docs := by
  have hsize : (Json.obj members').size = (Json.obj members).size := by
    rw [Json.size, Json.size, h.size]
  refine loweringBudget_congr hsize fun u => ?_
  rcases hdocs u with hsame | ⟨-, hroot, hroot'⟩
  · rw [hsame]
  · rw [hroot, hroot', Option.map_some, Option.map_some, hsize]

/-- Programs do not know the targets of their procedures. -/
theorem ofLowered_retargeted {made made' : Except SchemaError (Node × List Procedure)}
    (h : LowerM.Mirrored .retargeted (fun n n' => n' = n.renumber Mirror.retargeted.number) made made') :
    made'.map Program.ofLowered = made.map Program.ofLowered := by
  have hnumber : Mirror.retargeted.number = id := rfl
  rw [hnumber] at h
  cases h with
  | refused he => exact congrArg Except.error (Eq.symm he)
  | @done root root' procedures procedures' hroot hafter =>
    obtain rfl := hroot
    obtain ⟨_, rfl, hprocedures⟩ := hafter
    have hbodies : procedures'.map (·.body.getD .pass) = procedures.map (·.body.getD .pass) := by
      have hgiven := congrArg (List.map (·.getD Node.pass)) (bodies_behind_nil hprocedures)
      rw [List.map_map, List.map_map] at hgiven
      exact hgiven
    rw [Node.renumber_id]
    show Except.ok (⟨root, procedures'.map _⟩ : Program) = .ok ⟨root, procedures.map _⟩
    rw [hbodies]

/-- **The root's `$id` in its absolute form changes nothing**, if joining an `$id` to what it is part of
    changes nothing. -/
theorem compileSchema_absoluteForm {s : Surroundings} (h : AbsoluteForm members members' uri)
    (hbuiltin : s.registry.BuiltinOnly)
    (hsettled : ∀ documents, Documents.visibleFrom (.obj members) uri.withoutFragment s.cache = .ok documents →
      (s.among documents).Settled (.obj members) uri.withoutFragment) :
    compileSchema s (.obj members') = compileSchema s (.obj members) := by
  obtain ⟨id, hid, hfirst, -⟩ := h.relative
  have hbase : schemaBase (.obj members) defaultBase = .ok uri.withoutFragment := by
    rw [schemaBase, hid]
    dsimp only
    rw [hfirst]
    rfl
  have hlowered : (lowerProgram s (.obj members')).map Program.ofLowered =
      (lowerProgram s (.obj members)).map Program.ofLowered := by
    unfold lowerProgram
    rw [h.schemaBase_absolute, hbase]
    simp only [bind, Except.bind]
    rcases visibleFrom_absoluteForm h s.cache with ⟨e, he, he'⟩ | ⟨docs, docs', hdocs, hdocs', hsame⟩
    · rw [he, he']
    · have hmeets : (s.among docs).MeetsAt (.obj members) uri.withoutFragment (.obj members)
          ⟨"#", "", 0, uri.withoutFragment, 0⟩ :=
        fun ms handed hms hhanded => ⟨_, .root hms hhanded⟩
      rw [hdocs, hdocs']
      dsimp only
      rw [loweringBudget_sameButRoot h.same hsame]
      exact ofLowered_retargeted (lowerSchema_alternates h hbuiltin (hsettled docs hdocs) hsame _ _ _ _
        hmeets (.root h.schemaBase_again) [] [] ⟨[], rfl, .nil⟩)
  unfold compileSchema
  rw [compileProgram_eq, compileProgram_eq, hlowered]

end

end JsonSchema
