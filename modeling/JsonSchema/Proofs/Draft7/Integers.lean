import JsonSchema.Proofs.Lowering.DataValues
import JsonSchema.Proofs.Number.Rounding

/-!
# Number keywords and integers

The limits `maximum`, `minimum`, `exclusiveMaximum` and `exclusiveMinimum` compare doubles, so that they
compare, instead of two integers, the whole numbers that the nearest doubles are.  They tell two different
integers apart exactly if these do not round to one double (`limits_exact_iff`), which integers of fewer
than 54 bits never do.

`multipleOf` takes the remainder of two integers that fit signed 64-bit words.  Beyond these it divides
doubles, and the rounded quotient may come out whole although the exact one is not
(`multipleOf_integers`), whether the divisor is written in the schema or taken from the data.
-/

set_option autoImplicit false

namespace JsonSchema

open LowerM
open Binary64 (nearest)

/-! ## Schemas of one number keyword -/

/-- Of the keywords of a group, the one that a schema has is present. -/
theorem RuleGroup.Holds.present_single {group : RuleGroup}
    {listed : Option DataType × List BuiltinKeyword} (h : group.Holds listed) {k : BuiltinKeyword}
    (hallows : k.allowsData = true) (v : Json) :
    group.present [(k.name, v)] false = (listed.2.filter (· == k)).map Rule.ofBuiltin := by
  have hread : ∀ k' : BuiltinKeyword, ((Rule.ofBuiltin k').isPresent [(k.name, v)] &&
      (!false || (Rule.ofBuiltin k').keyword == "$ref")) = (k' == k) := fun k' => by
    rw [Rule.isPresent_single hallows, Bool.not_false, Bool.true_or, Bool.and_true]
  rw [present, h.2, List.filter_map]
  exact congrArg _ (List.filter_congr fun k' _ => hread k')

section

variable {env : Environment} {k : BuiltinKeyword} {v : Json} {position : Position} {lower : Lower} {n : Node}

theorem RuleGroup.Holds.lower_single {group : RuleGroup} {listed : Option DataType × List BuiltinKeyword}
    (h : group.Holds listed) (hallows : k.allowsData = true)
    (hrule : (Rule.ofBuiltin k).lower lower env [(k.name, v)] position = pure n) :
    group.lower lower env [(k.name, v)] position false =
      pure (RuleGroup.around ⟨listed.1, [], true⟩ (.conj ((listed.2.filter (· == k)).map fun _ => n))) := by
  have hrules : ((listed.2.filter (· == k)).map Rule.ofBuiltin).mapM
      (fun rule => rule.lower lower env [(k.name, v)] position) =
      pure ((listed.2.filter (· == k)).map fun _ => n) := by
    rw [List.mapM_map, ← List.mapM_pure]
    refine mapM_congr fun k' hk' => ?_
    obtain rfl := beq_iff_eq.mp (List.mem_filter.mp hk').2
    exact hrule
  rw [lower_eq, h.present_single hallows, hrules, pure_bind, around, around, h.1]

/-- A keyword of numbers stands in their group and in no other. -/
theorem lowerObject_numeric (hregistry : env.registry = .withBuiltins) (hk : k.schemaTypes = [.number])
    {c : Check} (hrule : (Rule.ofBuiltin k).lower lower env [(k.name, v)] position = pure (.check c)) :
    lowerObject lower env [(k.name, v)] position = pure (.guard .number (.check c)) := by
  have hallows : k.allowsData = true := by cases k <;> first | rfl | cases hk
  have hknown : env.checkKeywords position.schemaPath [(k.name, v)] = .ok () := by
    have hknown : Registry.withBuiltins.isKnown k.name = true := by
      cases k <;> first | (cases hk; done) | decide +kernel
    rw [Environment.checkKeywords, hregistry, List.find?_cons, hknown]
    rfl
  have hall : Registry.withBuiltins.groups.filter (·.concerns none) = Registry.withBuiltins.groups := by
    refine List.filter_eq_self.mpr fun group _ => ?_
    unfold RuleGroup.concerns
    cases group.appliesTo <;> rfl
  have hgroups : ∀ {groups listed}, List.Forall₂ RuleGroup.Holds groups listed →
      groups.mapM (RuleGroup.lower lower env [(k.name, v)] position false) =
        pure (listed.map fun l =>
          RuleGroup.around ⟨l.1, [], true⟩ (.conj ((l.2.filter (· == k)).map fun _ => .check c))) := by
    intro groups listed h
    induction h with
    | nil => rfl
    | cons hgroup _ ih => rw [List.mapM_cons, hgroup.lower_single hallows hrule, pure_bind, ih, pure_bind]; rfl
  rw [lowerObject_single hallows, hknown, hregistry, hall, hgroups Registry.withBuiltins_groups]
  cases k <;> first | rfl | cases hk

theorem lowerSchema_numeric (hregistry : env.registry = .withBuiltins) (hk : k.schemaTypes = [.number])
    {budget : Nat} {c : Check}
    (hrule : (Rule.ofBuiltin k).lower (lowerSchema env budget) env [(k.name, v)] position = pure (.check c)) :
    lowerSchema env (budget + 1) (.obj [(k.name, v)]) position = pure (.guard .number (.check c)) := by
  have hbase : schemaBase (.obj [(k.name, v)]) position.base = .ok position.base := by
    have hid : idOf? (.obj [(k.name, v)]) = none := by cases k <;> rfl
    rw [schemaBase, hid]
  rw [lowerSchema_obj hbase, lowerObject_numeric hregistry hk hrule]

/-- A keyword adds one check at a place: data has to pass a test against the keyword's value. -/
def KeywordPlace.Tests (p : KeywordPlace) (k : BuiltinKeyword) (passes : (data schema : Json) → Bool) : Prop :=
  ∃ text, ∀ lower, p.builtin lower k = pure [p.check text fun data schema => !passes data schema]

/-- The check that a node consists of, for numbers, has a value and runs a test. -/
def Node.TestsNumbers (n : Node) (value : SchemaValue) (passes : (data schema : Json) → Bool) : Prop :=
  ∃ c : Check, n = .guard .number (.check c) ∧ c.value = value ∧ c.expects = [.number] ∧
    c.fails = fun data schema => !passes data schema

variable {passes : (data schema : Json) → Bool}

theorem KeywordPlace.check_testsNumbers (p : KeywordPlace) (passes : (data schema : Json) → Bool)
    (hexpects : p.expects = [.number]) (text : ErrorText) :
    (Node.guard .number (p.check text fun data schema => !passes data schema)).TestsNumbers
      (match p.data with
        | some r => .data r
        | none => .literal p.schema) passes := ⟨_, rfl, rfl, hexpects, rfl⟩

/-- A number that is written in the schema. -/
theorem lowerSchema_written (env : Environment) (hregistry : env.registry = .withBuiltins)
    (hk : k.schemaTypes = [.number]) {m : Number}
    (htests : ∀ p : KeywordPlace, p.schema = .num m → p.Tests k passes) (budget : Nat) (position : Position) :
    ∃ n, lowerSchema env (budget + 1) (.obj [(k.name, .num m)]) position = pure n ∧
      n.TestsNumbers (.literal (.num m)) passes := by
  have hschema : ((Rule.ofBuiltin k).place env [(k.name, .num m)] position none).schema = .num m := by
    show (List.lookup k.name [(k.name, Json.num m)]).getD .null = .num m
    rw [List.lookup_cons_self, Option.getD_some]
  obtain ⟨text, htest⟩ := htests _ hschema
  have hvalue : ∀ path, (Rule.ofBuiltin k).checkValue path (.num m) = .ok () := by
    have haccepts : DataType.anyAccepts (Rule.ofBuiltin k).schemaTypes (.num m) = true := by
      rw [show (Rule.ofBuiltin k).schemaTypes = [.number] from hk]
      rfl
    intro path
    rw [Rule.checkValue, haccepts]
    rfl
  have hrule : (Rule.ofBuiltin k).lower (lowerSchema env budget) env [(k.name, .num m)] position =
      pure (((Rule.ofBuiltin k).place env [(k.name, .num m)] position none).check text
        fun data schema => !passes data schema) := by
    rw [Rule.lower_written rfl, hvalue, htest]
    rfl
  have hnode := KeywordPlace.check_testsNumbers
    ((Rule.ofBuiltin k).place env [(k.name, .num m)] position none) passes hk text
  rw [hschema] at hnode
  exact ⟨_, lowerSchema_numeric hregistry hk hrule, hnode⟩

/-- A number that is taken from the data. -/
theorem lowerSchema_referring (env : Environment) (hregistry : env.registry = .withBuiltins)
    (hoptions : env.options.data = true) (hk : k.schemaTypes = [.number]) {pointer : String} {r : DataRef}
    (hr : DataRef.parse? pointer = some r)
    (htests : ∀ p : KeywordPlace, p.data = some r → p.Tests k passes) (budget : Nat) (position : Position) :
    ∃ n, lowerSchema env (budget + 1) (.obj [(k.name, .obj [("$data", .str pointer)])]) position = pure n ∧
      n.TestsNumbers (.data r) passes := by
  have hallows : k.allowsData = true := by cases k <;> first | rfl | cases hk
  obtain ⟨text, htest⟩ := htests
    ((Rule.ofBuiltin k).place env [(k.name, DataRef.request pointer)] position (some r)) rfl
  have hrule : (Rule.ofBuiltin k).lower (lowerSchema env budget) env [(k.name, DataRef.request pointer)] position =
      pure (((Rule.ofBuiltin k).place env [(k.name, DataRef.request pointer)] position (some r)).check text
        fun data schema => !passes data schema) := by
    rw [Rule.lower_referring hoptions hallows hr, htest]
    rfl
  have hnode := KeywordPlace.check_testsNumbers
    ((Rule.ofBuiltin k).place env [(k.name, DataRef.request pointer)] position (some r)) passes hk text
  exact ⟨_, lowerSchema_numeric hregistry hk hrule, hnode⟩

/-- **A number decides by the test**, whether the other number is written or is found in the data. -/
theorem Node.TestsNumbers.run {value : SchemaValue} (h : n.TestsNumbers value passes) {l : Location}
    {x m : Number} (hx : l.value = .num x)
    (hm : value = .literal (.num m) ∨ ∃ r, value = .data r ∧ r.resolve? l = some (.num m))
    (call : Nat → Location → Run) (failFast : Bool) (errors : List Violation) :
    ∃ after, n.run call failFast l errors = some (passes (.num x) (.num m), after) := by
  obtain ⟨c, rfl, hvalue, hexpects, hfails⟩ := h
  have hrun : (Node.guard .number (.check c)).run call failFast l errors = c.test l (.num m) errors := by
    have haccepts : DataType.number.accepts (.num x) = true := rfl
    have hnumber : DataType.anyAccepts [.number] (.num m) = true := rfl
    rw [run_guard, hx, haccepts, if_pos rfl, Node.run, Check.run]
    obtain rfl | ⟨r, rfl, hr⟩ := hm
    · rw [hvalue]
    · simp only [hvalue, hr, hexpects, hnumber, if_true]
  rw [hrun, Check.test, hfails, hx]
  by_cases hpasses : passes (.num x) (.num m) = true
  · exact ⟨errors, by simp [hpasses]⟩
  · exact ⟨c.site.report l (.num m) (.num x) errors, by simp [hpasses]⟩

/-- **A schema of one keyword of numbers compiles, and passes the numbers that pass the test.** -/
theorem compileSchema_numeric {s : Surroundings} (hregistry : s.registry = .withBuiltins)
    {cached : Documents} (hcached : Documents.ofCache s.cache = .ok cached) (hk : k.schemaTypes = [.number])
    {m : Number} (htests : ∀ p : KeywordPlace, p.schema = .num m → p.Tests k passes) :
    ∃ validator, compileSchema s (.obj [(k.name, .num m)]) = .ok validator ∧
      ∀ x, validator.isValid (.num x) = passes (.num x) (.num m) := by
  have hids : (Json.obj [(k.name, .num m)]).WithoutIds := by
    rintro w (_ | _ | ⟨hm, hw⟩)
    · cases k <;> rfl
    · obtain rfl := List.mem_singleton.mp hm
      cases hw
      rfl
  have hdocuments : Documents.visibleFrom (.obj [(k.name, .num m)]) defaultBase s.cache =
      .ok (cached.set defaultBase.text (.obj [(k.name, .num m)])) := by
    rw [Documents.visibleFrom_of_withoutIds hids, hcached]
    rfl
  obtain ⟨budget, hbudget⟩ := Nat.exists_eq_add_one_of_ne_zero (Nat.ne_zero_of_lt
    (size_lt_loweringBudget (.obj [(k.name, .num m)]) (cached.set defaultBase.text (.obj [(k.name, .num m)]))))
  obtain ⟨n, hlowered, htestsNumbers⟩ := lowerSchema_written
    (s.among (cached.set defaultBase.text (.obj [(k.name, .num m)]))) hregistry hk htests budget
    ⟨"#", "", 0, defaultBase, 0⟩
  refine ⟨_, compileSchema_eq_ok.mpr ⟨(n, []), lowerProgram_eq_ok.mpr ⟨_, _, schemaBase_of_withoutIds hids _,
    hdocuments, ?_⟩, rfl⟩, fun x => ?_⟩
  · rw [hbudget]
    exact congrFun hlowered []
  · obtain ⟨after, hrun⟩ := htestsNumbers.run (l := .root (.num x)) rfl (.inl rfl)
      (Program.call (.ofLowered (n, [])) true (Program.callBudget (.ofLowered (n, [])) (.num x))) true []
    have hprogram : Program.run (.ofLowered (n, [])) true (.num x) = some (passes (.num x) (.num m), after) := hrun
    rw [Validator.isValid, hprogram]

end

/-! ## Limits -/

namespace Comparison

/-- The keyword that asks for a comparison. -/
def keyword : Comparison → BuiltinKeyword
  | atMost => .maximum
  | atLeast => .minimum
  | below => .exclusiveMaximum
  | above => .exclusiveMinimum

/-- What the keyword asks of an integer. -/
def Relates : Comparison → (x limit : Int) → Prop
  | atMost, x, limit => x ≤ limit
  | atLeast, x, limit => limit ≤ x
  | below, x, limit => x < limit
  | above, x, limit => limit < x

variable {c : Comparison} {x m : Int}

/-- Scaling both sides changes nothing. -/
theorem relates_mul (c : Comparison) (x m : Int) {k : Int} (hk : 0 < k) :
    c.Relates (x * k) (m * k) ↔ c.Relates x m := by
  cases c with
  | atMost | atLeast => exact Int.mul_le_mul_right hk
  | below | above => exact Int.mul_lt_mul_right hk

theorem holds_iff (c : Comparison) (a b : Binary64) : c.holds a b = true ↔ c.Relates a.units b.units := by
  cases c <;> simp [holds, Relates, Binary64.le, Binary64.lt]

/-- Integers compare like the whole numbers that their doubles are. -/
theorem holds_ofInt_iff (c : Comparison) (hx : x.natAbs ≤ UInt64.size) (hm : m.natAbs ≤ UInt64.size) :
    c.holds (.ofInt x) (.ofInt m) = true ↔ c.Relates (Binary64.nearest x) (Binary64.nearest m) := by
  rw [holds_iff, Binary64.ofInt_units_eq_nearest hx, Binary64.ofInt_units_eq_nearest hm,
    c.relates_mul _ _ (Int.natCast_pos.mpr Binary64.unitsPerOne_pos)]

/-- What keeps the order and tells two integers apart keeps all comparisons of them, and nothing else does. -/
theorem relates_map_iff {f : Int → Int} (hle : x ≤ m → f x ≤ f m) (hge : m ≤ x → f m ≤ f x) :
    (∀ c : Comparison, c.Relates (f x) (f m) ↔ c.Relates x m) ↔ x = m ∨ f x ≠ f m := by
  constructor
  · intro h
    have hmost := h .atMost
    have hleast := h .atLeast
    simp only [Relates] at hmost hleast
    omega
  · intro h c
    cases c <;> simp only [Relates] <;> omega

theorem tests_limit (c : Comparison) (p : KeywordPlace) :
    p.Tests c.keyword fun data limit => !c.failsOn data limit := by
  refine ⟨c.text, fun lower => ?_⟩
  simp only [Bool.not_not]
  cases c <;> rfl

end Comparison

theorem IsWord.natAbs_le {n : Int} (h : IsWord n) : n.natAbs ≤ UInt64.size := by
  obtain ⟨hge, hlt⟩ := h
  have hsize : UInt64.size = 18446744073709551616 := rfl
  omega

section

variable {s : Surroundings} {cached : Documents} {x m : Int}

/-- **What the limits say of integers.**  The four schemas with the limit `m` compile, and compare, instead of
    `x` and `m`, the whole numbers that the doubles nearest to them are.  So all four are right about `x` if and
    only if it is `m` or has another double than `m`; this is so whenever one of the two has fewer than 54 bits. -/
theorem limits_exact_iff (hregistry : s.registry = .withBuiltins)
    (hcached : Documents.ofCache s.cache = .ok cached) (hx : IsWord x) (hm : IsWord m) :
    ∃ validator : Comparison → Validator,
      (∀ c, compileSchema s (.obj [(c.keyword.name, .num (.int m hm))]) = .ok (validator c)) ∧
      (∀ c, (validator c).isValid (.num (.int x hx)) = true ↔ c.Relates (nearest x) (nearest m)) ∧
      ((∀ c, (validator c).isValid (.num (.int x hx)) = true ↔ c.Relates x m) ↔
        x = m ∨ nearest x ≠ nearest m) ∧
      (x.natAbs < 2 ^ 53 ∨ m.natAbs < 2 ^ 53 → x = m ∨ nearest x ≠ nearest m) := by
  have hcompiles : ∀ c : Comparison, ∃ validator,
      compileSchema s (.obj [(c.keyword.name, .num (.int m hm))]) = .ok validator ∧
        (validator.isValid (.num (.int x hx)) = true ↔ c.Relates (nearest x) (nearest m)) := by
    intro c
    have hk : c.keyword.schemaTypes = [.number] := by cases c <;> rfl
    obtain ⟨validator, hvalidator, hverdict⟩ :=
      compileSchema_numeric hregistry hcached hk (m := .int m hm) fun p _ => c.tests_limit p
    refine ⟨validator, hvalidator, ?_⟩
    have hholds : (!c.failsOn (.num (.int x hx)) (.num (.int m hm))) = c.holds (.ofInt x) (.ofInt m) :=
      Bool.not_not _
    rw [hverdict, hholds, c.holds_ofInt_iff hx.natAbs_le hm.natAbs_le]
  choose validator hvalidator hverdict using hcompiles
  refine ⟨validator, hvalidator, hverdict, ?_, ?_⟩
  · simp only [hverdict]
    exact Comparison.relates_map_iff (Binary64.nearest_mono hx.natAbs_le hm.natAbs_le)
      (Binary64.nearest_mono hm.natAbs_le hx.natAbs_le)
  · intro hsmall
    by_cases heq : nearest x = nearest m
    · rcases hsmall with hsmall | hsmall
      · exact .inl (Binary64.eq_of_nearest_eq hsmall hm.natAbs_le heq)
      · exact .inl (Binary64.eq_of_nearest_eq hsmall hx.natAbs_le heq.symm).symm
    · exact .inr heq

end

/-- Far from a limit that is no double, the four keywords are right. -/
theorem three_below_limit : Surroundings.plain.registry = .withBuiltins ∧
    Documents.ofCache Surroundings.plain.cache = .ok .empty ∧
    ∃ validator : Comparison → Validator, ∀ c,
      compileSchema .plain (.obj [(c.keyword.name, .num (.int 9007199254740993 (by decide)))]) =
        .ok (validator c) ∧
      ((validator c).isValid (.num (.int 3 (by decide))) = true ↔ c.Relates 3 9007199254740993) := by
  obtain ⟨validator, hvalidator, -, hexact, hsmall⟩ := limits_exact_iff (s := .plain) rfl
    (show Documents.ofCache Surroundings.plain.cache = .ok .empty from rfl) (x := 3) (m := 9007199254740993) (by decide) (by decide)
  exact ⟨rfl, rfl, validator, fun c => ⟨hvalidator c, hexact.mpr (hsmall (.inl (by decide))) c⟩⟩

/-- An integer passes a maximum that is one less. -/
theorem rounded_maximum_passed : ∃ validator,
    compileSchema .plain (.obj [("maximum", .num (.int 9007199254740992 (by decide)))]) = .ok validator ∧
    validator.isValid (.num (.int 9007199254740993 (by decide))) = true ∧
    ¬ (9007199254740993 : Int) ≤ 9007199254740992 := by
  have hpasses : (compileSchema .plain
      (.obj [("maximum", .num (.int 9007199254740992 (by decide)))])).toOption.any
      (·.isValid (.num (.int 9007199254740993 (by decide)))) = true := by decide +kernel
  obtain ⟨validator, hvalidator, hvalid⟩ := exists_ok_of_any hpasses
  exact ⟨validator, hvalidator, hvalid, by decide⟩

/-! ## Multiples -/

/-- What `multipleOf` asks of an integer: within signed 64-bit words an exact division, and else that the
    quotient of the doubles comes out whole. -/
def PassesMultipleOf (x m : Int) : Prop :=
  if x < 2 ^ 63 ∧ m < 2 ^ 63 then m ∣ x else Binary64.RoundsToMultiple (nearest x).natAbs (nearest m).natAbs

instance (x m : Int) : Decidable (PassesMultipleOf x m) :=
  inferInstanceAs (Decidable (if x < 2 ^ 63 ∧ m < 2 ^ 63 then m ∣ x else
    Binary64.RoundsToMultiple (nearest x).natAbs (nearest m).natAbs))

section

variable {s : Surroundings} {cached : Documents} {x m : Int}

theorem zero_lt_ofInt (hm : IsWord m) (hpos : 0 < m) : Binary64.zero.lt (.ofInt m) = true := by
  rw [Binary64.lt, decide_eq_true_iff, Binary64.ofInt_units_eq_nearest hm.natAbs_le]
  exact Int.mul_pos (Binary64.nearest_pos hm.natAbs_le hpos) (Int.natCast_pos.mpr Binary64.unitsPerOne_pos)

theorem isMultipleOf_int (hx : IsWord x) (hm : IsWord m) (hpos : 0 < m) :
    isMultipleOf (.num (.int x hx)) (.num (.int m hm)) = decide (PassesMultipleOf x m) := by
  have hdoubles : (Binary64.zero.lt (.ofInt m) && ((Binary64.ofInt x).div? (.ofInt m)).any Binary64.isWhole) =
      decide (Binary64.RoundsToMultiple (nearest x).natAbs (nearest m).natAbs) := by
    have hnearest := Binary64.nearest_pos hm.natAbs_le hpos
    rw [zero_lt_ofInt hm hpos, Bool.true_and, Bool.eq_iff_iff, decide_eq_true_iff]
    exact Binary64.div?_isWhole_iff (Binary64.ofInt_magnitude hx.natAbs_le)
      (Binary64.ofInt_magnitude hm.natAbs_le) (by omega) (Binary64.nearest_natAbs_le hx.natAbs_le)
      (Binary64.nearest_natAbs_le hm.natAbs_le)
  have hunfold : isMultipleOf (.num (.int x hx)) (.num (.int m hm)) =
      if x < 2 ^ 63 ∧ m < 2 ^ 63 then x % m == 0 else
        Binary64.zero.lt (.ofInt m) && ((Binary64.ofInt x).div? (.ofInt m)).any Binary64.isWhole := by
    unfold isMultipleOf
    simp only [Json.int64?]
    by_cases hxs : x < 9223372036854775808 <;> by_cases hms : m < 9223372036854775808 <;>
      simp [hxs, hms, hpos, Json.double?, Json.num?, Number.toBinary64]
  rw [hunfold, hdoubles, Bool.eq_iff_iff, decide_eq_true_iff]
  unfold PassesMultipleOf
  split
  · rw [beq_iff_eq, Int.dvd_iff_emod_eq_zero]
  · rw [decide_eq_true_iff]

/-- `multipleOf` adds one check where its value is a positive integer, or is not known yet. -/
theorem tests_multipleOf (p : KeywordPlace)
    (h : p.data.isSome ∨ ∃ hm : IsWord m, p.schema = .num (.int m hm) ∧ 0 < m) :
    p.Tests .multipleOf isMultipleOf := by
  have hallowed : (p.data.isNone && !p.schema.double?.any Binary64.zero.lt) = false := by
    obtain hdata | ⟨hm, hschema, hpos⟩ := h
    · rw [← Option.not_isSome, hdata]
      rfl
    · rw [hschema, show (Json.num (.int m hm)).double? = some (.ofInt m) from rfl, Option.any_some,
        zero_lt_ofInt hm hpos]
      simp
  obtain ⟨text, htext⟩ : ∃ text, p.multipleOf = .ok (p.check text fun data m => !isMultipleOf data m) := by
    unfold KeywordPlace.multipleOf
    rw [hallowed]
    exact ⟨_, rfl⟩
  refine ⟨text, fun lower => ?_⟩
  show (do return [← liftExcept p.multipleOf]) = _
  rw [htext]
  rfl

/-- **What `multipleOf` says of integers.**  The schema with a positive divisor `m` compiles, and decides about
    `x` as `PassesMultipleOf` says; so does the keyword, wherever it is lowered, if it finds `m` in the data.  So
    it is right about `x` if and only if both fit signed 64-bit words or the quotient of their doubles comes out
    whole for multiples of `m` only. -/
theorem multipleOf_integers (hregistry : s.registry = .withBuiltins)
    (hcached : Documents.ofCache s.cache = .ok cached) (hx : IsWord x) (hm : IsWord m) (hpos : 0 < m) :
    (∃ validator, compileSchema s (.obj [("multipleOf", .num (.int m hm))]) = .ok validator ∧
      (validator.isValid (.num (.int x hx)) = true ↔ PassesMultipleOf x m)) ∧
    (s.options.data = true → ∀ pointer r, DataRef.parse? pointer = some r →
      ∀ documents budget position procedures, ∃ n,
        lowerSchema (s.among documents) (budget + 1) (.obj [("multipleOf", .obj [("$data", .str pointer)])])
          position procedures = .ok (n, procedures) ∧
        ∀ l, l.value = .num (.int x hx) → r.resolve? l = some (.num (.int m hm)) →
          ∀ call failFast errors, ∃ after,
            n.run call failFast l errors = some (decide (PassesMultipleOf x m), after)) ∧
    ((PassesMultipleOf x m ↔ m ∣ x) ↔ x < 2 ^ 63 ∧ m < 2 ^ 63 ∨
      (Binary64.RoundsToMultiple (nearest x).natAbs (nearest m).natAbs ↔ m ∣ x)) := by
  have hk : BuiltinKeyword.multipleOf.schemaTypes = [.number] := rfl
  refine ⟨?_, fun hoptions pointer r hr documents budget position procedures => ?_, ?_⟩
  · obtain ⟨validator, hvalidator, hverdict⟩ := compileSchema_numeric hregistry hcached hk (m := .int m hm)
      fun p hp => tests_multipleOf p (.inr ⟨hm, hp, hpos⟩)
    refine ⟨validator, hvalidator, ?_⟩
    rw [hverdict, isMultipleOf_int hx hm hpos, decide_eq_true_iff]
  · obtain ⟨n, hlowered, htests⟩ := lowerSchema_referring (s.among documents) hregistry hoptions hk hr
      (fun p hp => tests_multipleOf (m := m) p (.inl (by rw [hp, Option.isSome_some]))) budget position
    refine ⟨n, congrFun hlowered procedures, fun l hl hfound call failFast errors => ?_⟩
    rw [← isMultipleOf_int hx hm hpos]
    exact htests.run hl (.inr ⟨r, rfl, hfound⟩) call failFast errors
  · unfold PassesMultipleOf
    split
    · next hwords => exact iff_of_true Iff.rfl (.inl hwords)
    · next hwords => exact (or_iff_right hwords).symm

end

/-- Five is no multiple of three, be the three written or found. -/
theorem five_by_three : Surroundings.withData.registry = .withBuiltins ∧
    Documents.ofCache Surroundings.withData.cache = .ok .empty ∧ (0 : Int) < 3 ∧
    (∃ validator, compileSchema .withData (.obj [("multipleOf", .num (.int 3 (by decide)))]) = .ok validator ∧
      validator.isValid (.num (.int 5 (by decide))) = false) ∧
    ∃ n after, lowerSchema (Surroundings.withData.among .empty) 1
        (.obj [("multipleOf", .obj [("$data", "/b")])]) ⟨"#", "", 0, defaultBase, 0⟩ [] = .ok (n, []) ∧
      n.run (fun _ _ => .done true) true besideThree [] = some (false, after) := by
  have hfails : ¬ PassesMultipleOf 5 3 := by decide
  obtain ⟨⟨validator, hvalidator, hverdict⟩, hdata, -⟩ := multipleOf_integers (s := .withData) rfl
    (show Documents.ofCache Surroundings.withData.cache = .ok .empty from rfl) (x := 5) (m := 3) (by decide) (by decide) (by decide)
  obtain ⟨n, hlowered, hrun⟩ := hdata rfl "/b" ⟨"/b", .absolute ["b"]⟩ rfl .empty 0
    ⟨"#", "", 0, defaultBase, 0⟩ []
  obtain ⟨after, hafter⟩ := hrun besideThree rfl rfl (fun _ _ => .done true) true []
  rw [decide_eq_false hfails] at hafter
  exact ⟨rfl, rfl, by decide, ⟨validator, hvalidator, Bool.eq_false_iff.mpr (hfails ∘ hverdict.mp)⟩,
    n, after, hlowered, hafter⟩

/-- An odd number passes as a multiple of two. -/
theorem odd_passed_as_even : ∃ validator,
    compileSchema .plain (.obj [("multipleOf", .num (.int 2 (by decide)))]) = .ok validator ∧
    validator.isValid (.num (.int 9223372036854775809 (by decide))) = true ∧
    ¬ (2 : Int) ∣ 9223372036854775809 := by
  have hpasses : (compileSchema .plain (.obj [("multipleOf", .num (.int 2 (by decide)))])).toOption.any
      (·.isValid (.num (.int 9223372036854775809 (by decide)))) = true := by decide +kernel
  obtain ⟨validator, hvalidator, hvalid⟩ := exists_ok_of_any hpasses
  exact ⟨validator, hvalidator, hvalid, by decide⟩

/-- The other way round, a multiple can be refused. -/
example : ¬ PassesMultipleOf 11224126085747292900 332514 ∧ (332514 : Int) ∣ 11224126085747292900 := by
  decide +kernel

end JsonSchema
