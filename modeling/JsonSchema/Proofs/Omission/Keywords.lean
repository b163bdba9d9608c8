import JsonSchema.Proofs.Lowering.Objects
import JsonSchema.Proofs.Omission.Schemas
import JsonSchema.Proofs.Reference.Replacement
import JsonSchema.Proofs.Registry.Frame

/-!
# Rules for schemas without some keywords

The rule of a keyword is the only one that reads the keyword and those that it takes care of
(`BuiltinKeyword.names_disjoint`).  So where these are left out of a schema, the other rules find what they
look for: **a group has the same rules for an object, whether a keyword is removed from the group or left out
of the object** (`RuleGroup.present_without`), and **a rule contributes the same** (`Rule.lower_without`).
-/

set_option autoImplicit false

namespace JsonSchema

namespace BuiltinKeyword

/-- The names that a keyword's rule reads: its own and those of the keywords that it takes care of. -/
def names (k : BuiltinKeyword) : List String := k.name :: k.implements

/-- The keyword whose rule reads a name. -/
def reader? (name : String) : Option BuiltinKeyword :=
  (groups.flatMap Prod.snd).find? fun k => k.names.contains name

theorem reader?_eq_some (k : BuiltinKeyword) : ∀ name ∈ k.names, reader? name = some k := by
  cases k <;> decide

/-- No name is read by two rules. -/
theorem names_disjoint {k k' : BuiltinKeyword} (h : k' ≠ k) : ∀ name ∈ k'.names, name ∉ k.names := by
  intro name hname hname'
  have heq := (reader?_eq_some k' name hname).symm.trans (reader?_eq_some k name hname')
  exact h (Option.some.inj heq)

/-- The declared types are no keyword's. -/
theorem type_notMem_names (k : BuiltinKeyword) : "type" ∉ k.names := by
  cases k <;> decide

end BuiltinKeyword

/-! ## Rules that an object has keywords for -/

section

variable {k k' : BuiltinKeyword} {members : List (String × Json)}

/-- The rule of a keyword has nothing to read where its keywords are left out. -/
theorem Rule.isPresent_without_self :
    (Rule.ofBuiltin k).isPresent (Json.membersWithout k.names members) = false := by
  refine List.any_eq_false.mpr fun name hname => ?_
  rw [lookup_membersWithout, if_pos (show name ∈ k.names from hname)]
  exact Bool.false_ne_true

/-- The rules of other keywords miss nothing. -/
theorem Rule.isPresent_without (h : k' ≠ k) :
    (Rule.ofBuiltin k').isPresent (Json.membersWithout k.names members) =
      (Rule.ofBuiltin k').isPresent members := by
  unfold isPresent
  rw [Bool.eq_iff_iff, List.any_eq_true, List.any_eq_true]
  refine exists_congr fun name => and_congr_right fun hname => ?_
  rw [lookup_membersWithout_of_notMem (BuiltinKeyword.names_disjoint h name hname), Option.isSome_map]

/-- **A group has the same rules for an object**, whether the keyword is removed or left out. -/
theorem RuleGroup.present_without {group : RuleGroup} {onlyRef : Bool}
    (hbuiltin : ∀ rule ∈ group.rules, ∃ k, rule = .ofBuiltin k) :
    (group.without k.name).present members onlyRef =
      group.present (Json.membersWithout k.names members) onlyRef := by
  unfold present
  rw [rules_without, List.filter_filter]
  refine List.filter_congr fun rule hrule => ?_
  obtain ⟨k', rfl⟩ := hbuiltin rule hrule
  by_cases hk : k' = k
  · subst hk
    rw [Rule.isPresent_without_self]
    simp [Rule.ofBuiltin]
  · have hname : k'.name ≠ k.name := fun heq =>
      BuiltinKeyword.names_disjoint hk k'.name List.mem_cons_self (heq ▸ List.mem_cons_self)
    rw [Rule.isPresent_without hk]
    simp [Rule.ofBuiltin, hname]

end

/-! ## What rules contribute -/

/-- Whatever value of its keyword a site keeps, it reports the same if this does not show the value. -/
theorem Rewriting.keeps_same (W : Rewriting) : W.Keeps ErrorSite.Same := fun _ _ h =>
  ⟨rfl, rfl, fun data => (h _ _ data).1, fun data => (h _ _ data).2⟩

/-- The ways of lowering give the same node for a schema and for what stands for it without the
    keywords. -/
def Pairing.SameOn (P : Pairing) (names : List String) (lower lower' : Lower) (s : Json) : Prop :=
  ∀ s', (Rewriting.omitting names).StandsFor s s' → ∀ position,
    P.Runs Node.Same (lower s position) (lower' s' position)

theorem Pairing.SameOn.rewritten {P : Pairing} {names : List String} {lower lower' : Lower} {s : Json}
    (h : P.SameOn names lower lower' s) {p : Position} {deeper : Nat} :
    P.OnRewritten Node.Same (.omitting names) lower lower' p p.base p.descents deeper s := by
  intro s' hs position hbase hdescents
  rw [← hbase, ← hdescents]
  exact h s' hs position

section

variable {P : Pairing} {lower lower' : Lower} {env : Environment} {registry registry' : Registry}
  {documents : Documents} {k k' : BuiltinKeyword} {members : List (String × Json)} {position : Position}

theorem Rule.place_without (hk : k' ≠ k) (data : Option DataRef) :
    (Rule.ofBuiltin k').place ((env.under registry').among documents) (Json.membersWithout k.names members)
        position data =
      (((Rule.ofBuiltin k').place (env.under registry) members position data).rewritten (.omitting k.names)
        k'.name (Json.membersWithout k.names members)).elsewhere registry' documents position.base
        position.descents := by
  have hvalue : ((Json.membersWithout k.names members).lookup k'.name).getD .null =
      ((members.lookup k'.name).getD .null).valueWithout k.names k'.name := by
    rw [lookup_membersWithout_of_notMem (BuiltinKeyword.names_disjoint hk _ List.mem_cons_self)]
    cases members.lookup k'.name <;> rfl
  exact congrArg (KeywordPlace.mk _ _ _ _ · _ _) hvalue

theorem Rule.dataRef_without (hk : k' ≠ k) (options : Options) (path : String) :
    (Rule.ofBuiltin k').dataRef options path ((Json.membersWithout k.names members).lookup k'.name) =
      (Rule.ofBuiltin k').dataRef options path (members.lookup k'.name) := by
  by_cases hschemas : k'.name ∈ schemaMapKeywords ∨ k'.name ∈ schemaKeywords
  · rw [dataRef_of_literal (allowsData_of_schemas hschemas), dataRef_of_literal (allowsData_of_schemas hschemas)]
  · rw [not_or] at hschemas
    rw [lookup_membersWithout_of_data hschemas.1 hschemas.2,
      if_neg (BuiltinKeyword.names_disjoint hk _ List.mem_cons_self)]

/-- The types of a value are checked alike with and without keywords inside. -/
theorem Rule.checkValue_without (names : List String) (path : String) (v : Json) :
    (Rule.ofBuiltin k').checkValue path (v.valueWithout names k'.name) = (Rule.ofBuiltin k').checkValue path v := by
  have haccepts : ∀ type : DataType, type.accepts (v.valueWithout names k'.name) = type.accepts v :=
    (Rewriting.omitting names).value_accepts k'.name v
  unfold checkValue DataType.anyAccepts
  simp only [haccepts]
  rfl

/-- **What a rule contributes does not depend on a keyword that it does not read.** -/
theorem Rule.lower_without (hk : k' ≠ k) (href : k' ≠ .ref)
    (h : ∀ s, s = .null ∨ Json.HasSubschema members s → P.SameOn k.names lower lower' s) :
    P.Runs Node.Same ((Rule.ofBuiltin k').lower lower (env.under registry) members position)
      ((Rule.ofBuiltin k').lower lower' ((env.under registry').among documents)
        (Json.membersWithout k.names members) position) := by
  have hkept : ∀ name ∈ k'.name :: k'.implements, (Json.membersWithout k.names members).lookup name =
      (members.lookup name).map (Json.valueWithout k.names name) := fun name hname =>
    lookup_membersWithout_of_notMem (BuiltinKeyword.names_disjoint hk name hname) members
  have hmade : ∀ data, P.Runs Node.Same
      (do return Node.conj (← ((Rule.ofBuiltin k').place (env.under registry) members position data).builtin
        lower k'))
      (do return Node.conj (← ((Rule.ofBuiltin k').place ((env.under registry').among documents)
        (Json.membersWithout k.names members) position data).builtin lower' k')) := by
    intro data
    rw [Rule.place_without hk]
    refine P.bind (KeywordPlace.builtin_rewritten Node.Same.congruence (Rewriting.keeps_same _) href hkept
      fun s hs => ?_) fun _ _ hnodes => P.pure (Node.Same.congruence.conj hnodes)
    exact (h s (hs.hasSubschema rfl)).rewritten
  have hchecked : ((Json.membersWithout k.names members).lookup k'.name).map
        ((Rule.ofBuiltin k').checkValue (position.schemaPath ++ "/" ++ k'.name)) =
      (members.lookup k'.name).map
        ((Rule.ofBuiltin k').checkValue (position.schemaPath ++ "/" ++ k'.name)) := by
    rw [hkept _ List.mem_cons_self, Option.map_map]
    exact congrArg (Option.map · _) (funext fun v => Rule.checkValue_without k.names _ v)
  unfold Rule.lower
  refine P.bind (R := Eq) ?_ ?_
  · exact @Rule.dataRef_without k k' members hk env.options _ ▸ P.lifted _
  rintro data _ rfl
  exact Rule.checkValue_paired hchecked (hmade data)

end

end JsonSchema
