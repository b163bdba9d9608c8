import JsonSchema.Proofs.Draft7.Semantics
import JsonSchema.Proofs.Evaluation.Meaning
import JsonSchema.Proofs.Lowering.Contributions

/-!
# Keywords without subschemas mean what draft-07 says

The nodes that a keyword contributes (`KeywordPlace.Makes`) pass exactly on the values that fulfil it.
For most of these keywords this compares one test with itself; what is to prove is that the keyword's
value has the shape that the semantics reads, which the check of its type gives (`Placed.typed`), and
that the test lets data of other types pass.
-/

set_option autoImplicit false

namespace JsonSchema

/-- A keyword of a schema without references, at its place and with its value in the schema. -/
structure Placed (formats : Formats) (members : List (String × Json)) (k : BuiltinKeyword)
    (p : KeywordPlace) : Prop where
  data : p.data = none
  parent : p.parent = members
  schema : p.schema = (members.lookup k.name).getD .null
  formats : p.env.formats = formats
  typed : ∀ w, members.lookup k.name = some w → DataType.anyAccepts k.schemaTypes w = true
  present : (k.name :: k.implements).any fun name => (members.lookup name).isSome
  refFree : ∀ s, Json.HasSubschema members s → RefFree s

variable {formats : Formats} {members : List (String × Json)} {k : BuiltinKeyword} {p : KeywordPlace}
  {nodes : List Node} {w : Json}

namespace Placed

/-- A keyword that takes care of no other stands in the schema itself. -/
theorem exists_value (hp : Placed formats members k p) (hk : k.implements = []) :
    ∃ w, members.lookup k.name = some w ∧ p.schema = w ∧ DataType.anyAccepts k.schemaTypes w = true := by
  have hpresent := hp.present
  rw [hk, List.any_cons, List.any_nil, Bool.or_false] at hpresent
  obtain ⟨w, hw⟩ := Option.isSome_iff_exists.mp hpresent
  exact ⟨w, hw, by rw [hp.schema, hw]; rfl, hp.typed w hw⟩

/-- The one check of a keyword. -/
theorem check_means (hp : Placed formats members k p) (hw : p.schema = w) {text : ErrorText}
    {fails : Json → Json → Bool} (h : ∀ v, Fulfils formats members k v ↔ fails v w = false) :
    AllMean [p.check text fails] (Fulfils formats members k) := by
  refine AllMean.single ((Node.check_means (w := w) ?_).congr h)
  simp [hp.data, hw]

end Placed

/-! ## What the types of keywords' values say -/

theorem exists_str_of_anyAccepts (h : DataType.anyAccepts [.string] w = true) : ∃ s, w = .str s := by
  cases w <;> simp [DataType.anyAccepts, DataType.accepts] at h
  exact ⟨_, rfl⟩

theorem exists_arr_of_anyAccepts (h : DataType.anyAccepts [.array] w = true) : ∃ vs, w = .arr vs := by
  cases w <;> simp [DataType.anyAccepts, DataType.accepts] at h
  exact ⟨_, rfl⟩

theorem exists_obj_of_anyAccepts (h : DataType.anyAccepts [.object] w = true) : ∃ ms, w = .obj ms := by
  cases w <;> simp [DataType.anyAccepts, DataType.accepts] at h
  exact ⟨_, rfl⟩

theorem exists_bool_of_anyAccepts (h : DataType.anyAccepts [.boolean] w = true) : ∃ b, w = .bool b := by
  cases w <;> simp [DataType.anyAccepts, DataType.accepts] at h
  exact ⟨_, rfl⟩

/-! ## Numbers -/

theorem isMultipleOf_of_double?_none {v : Json} (hv : v.double? = none) : isMultipleOf v w = true := by
  have hint : v.int64? = none := by
    cases v with
    | num n => cases hv
    | _ => rfl
  simp [isMultipleOf, hv, hint]

theorem multipleOf_means {n : Node} (hp : Placed formats members .multipleOf p)
    (h : p.multipleOf = .ok n) : AllMean [n] (Fulfils formats members .multipleOf) := by
  obtain ⟨w, hlookup, hw, -⟩ := hp.exists_value rfl
  obtain ⟨-, text, rfl⟩ := KeywordPlace.multipleOf_cases h
  refine hp.check_means hw fun v => ?_
  have hlookup : members.lookup "multipleOf" = some w := hlookup
  rw [Fulfils, hlookup]
  constructor
  · intro h
    cases v with
    | num n => simpa using h w n rfl rfl
    | _ => rw [isMultipleOf_of_double?_none] <;> rfl
  · rintro h _ n ⟨⟩ -
    simpa using h

/-! ## Strings -/

theorem format_means (hp : Placed formats members .format p) (h : p.format = .ok nodes) :
    AllMean nodes (Fulfils formats members .format) := by
  obtain ⟨w, hlookup, hw, htyped⟩ := hp.exists_value rfl
  obtain ⟨name, rfl⟩ := exists_str_of_anyAccepts htyped
  have hlookup : members.lookup "format" = some (.str name) := hlookup
  have hname : p.schema.str?.getD "" = name := by rw [hw]; rfl
  rcases KeywordPlace.format_cases h with ⟨found, text, hfound, rfl⟩ | ⟨hfound, rfl⟩
  · rw [hp.formats, hname] at hfound
    refine hp.check_means hw fun v => ?_
    rw [Fulfils, hlookup]
    constructor
    · intro h
      simpa using h name found rfl hfound
    · rintro h _ other ⟨⟩ hother
      obtain rfl : found = other := Option.some.inj (hfound.symm.trans hother)
      simpa using h
  · rw [hp.formats, hname] at hfound
    refine .nil fun v => ?_
    rw [Fulfils, hlookup]
    rintro _ other ⟨⟩ hother
    cases hfound.symm.trans hother

theorem pattern_means {n : Node} (hp : Placed formats members .pattern p) (h : p.pattern = .ok n) :
    AllMean [n] (Fulfils formats members .pattern) := by
  obtain ⟨w, hlookup, hw, htyped⟩ := hp.exists_value rfl
  obtain ⟨source, rfl⟩ := exists_str_of_anyAccepts htyped
  have hlookup : members.lookup "pattern" = some (.str source) := hlookup
  rcases KeywordPlace.pattern_cases h with ⟨hdata, -⟩ | ⟨-, r, text, hr, rfl⟩
  · simp [hp.data] at hdata
  · refine hp.check_means hw fun v => ?_
    rw [hw] at hr
    have hr : Regex.parse? source = some r := hr
    rw [Fulfils, hlookup]
    constructor
    · intro h
      cases v with
      | str s => simpa [Json.str?] using h source r s rfl hr rfl
      | _ => rfl
    · rintro h _ other s ⟨⟩ hother rfl
      obtain rfl : r = other := Option.some.inj (hr.symm.trans hother)
      simpa [Json.str?] using h

/-! ## Arrays -/

theorem duplicateAmong_eq_none {vs : List Json} :
    duplicateAmong vs = none ↔ vs.Pairwise fun later earlier => later.equal earlier = false := by
  induction vs with
  | nil => simp [duplicateAmong]
  | cons v earlier ih =>
    rw [duplicateAmong, List.pairwise_cons, ← ih]
    cases hfound : earlier.findIdx? (v.equal ·) with
    | some k =>
      obtain ⟨hk, heq, -⟩ := List.findIdx?_eq_some_iff_getElem.mp hfound
      simp only [reduceCtorEq, false_iff, not_and]
      exact fun h => absurd (h _ (List.getElem_mem hk)) (by simp [heq])
    | none =>
      have hnot := List.findIdx?_eq_none_iff.mp hfound
      exact (and_iff_right hnot).symm

theorem lastDuplicate?_isSome {vs : List Json} :
    (lastDuplicate? (.arr vs)).isSome = false ↔
      vs.Pairwise fun earlier later => later.equal earlier = false := by
  rw [← List.pairwise_reverse, ← duplicateAmong_eq_none]
  simp [lastDuplicate?, Json.arr?]

theorem uniqueItems_means (hp : Placed formats members .uniqueItems p) :
    AllMean [p.uniqueItems] (Fulfils formats members .uniqueItems) := by
  obtain ⟨w, hlookup, hw, htyped⟩ := hp.exists_value rfl
  obtain ⟨unique, rfl⟩ := exists_bool_of_anyAccepts htyped
  have hlookup : members.lookup "uniqueItems" = some (.bool unique) := hlookup
  refine hp.check_means hw fun v => ?_
  rw [Fulfils, hlookup]
  cases unique with
  | false => simp [Json.bool?]
  | true =>
    cases v with
    | arr vs => simp [Json.bool?, ← lastDuplicate?_isSome]
    | _ => simp [Json.bool?, lastDuplicate?, Json.arr?]

/-! ## Objects -/

theorem forall₂_of_mapM_ok {α β ε : Type} {f : α → Except ε β} {xs : List α} :
    ∀ {ys : List β}, xs.mapM f = .ok ys → List.Forall₂ (fun x y => f x = .ok y) xs ys := by
  induction xs with
  | nil =>
    intro ys h
    obtain rfl : [] = ys := Except.ok.inj h
    exact .nil
  | cons x rest ih =>
    intro ys h
    rw [List.mapM_cons] at h
    cases hx : f x with
    | error e => simp [hx, bind, Except.bind] at h
    | ok y =>
      cases hrest : rest.mapM f with
      | error e => simp [hx, hrest, bind, Except.bind] at h
      | ok more =>
        simp only [hx, hrest, bind, Except.bind, pure, Except.pure, Except.ok.injEq] at h
        exact h ▸ .cons hx (ih hrest)

/-- A list of property names holds strings and nothing else. -/
theorem eq_map_str_of_propertyNames {names : List Json} {ns : List String}
    (h : p.propertyNames (.arr names) = .ok ns) : names = ns.map Json.str := by
  unfold KeywordPlace.propertyNames at h
  have hall := forall₂_of_mapM_ok h
  simp only [Json.arr?, Option.getD_some] at hall
  clear h
  induction hall with
  | nil => rfl
  | @cons first s _ _ hs _ ih =>
    cases first with
    | str name => rw [List.map_cons, ← ih, Except.ok.inj hs]
    | _ => cases hs

theorem lacks_eq_false {name : String} {v : Json} :
    KeywordPlace.lacks name v = false ↔ ∀ ms, v = .obj ms → (ms.lookup name).isSome := by
  cases v <;> simp [KeywordPlace.lacks, Json.obj?, Json.get?, Option.isSome_iff_ne_none]

/-- One check for each of some names. -/
theorem lacks_means {names : List String} {site : String → ErrorSite} :
    AllMean (names.map fun name => KeywordPlace.dataCheck (site name) (KeywordPlace.lacks name))
      (fun v => ∀ ms, v = .obj ms → ∀ name ∈ names, (ms.lookup name).isSome) := by
  have heach : ∀ name ∈ names,
      (KeywordPlace.dataCheck (site name) (KeywordPlace.lacks name)).Means fun v =>
        KeywordPlace.lacks name v = false := fun name _ => Node.check_means rfl
  refine (AllMean.map heach).congr fun v => ?_
  simp only [lacks_eq_false]
  exact ⟨fun h name hn ms hv => h ms hv name hn, fun h ms hv name hn => h name hn ms hv⟩

theorem required_means (hp : Placed formats members .required p) (h : p.required = .ok nodes) :
    AllMean nodes (Fulfils formats members .required) := by
  obtain ⟨w, hlookup, hw, htyped⟩ := hp.exists_value rfl
  obtain ⟨names, rfl⟩ := exists_arr_of_anyAccepts htyped
  have hlookup : members.lookup "required" = some (.arr names) := hlookup
  obtain ⟨ns, text, hns, rfl⟩ := KeywordPlace.required_cases h
  rw [hw] at hns
  refine lacks_means.congr fun v => ?_
  rw [Fulfils, hlookup]
  rw [eq_map_str_of_propertyNames hns]
  constructor
  · intro h ms hv name hname
    exact h _ ms rfl hv name (List.mem_map_of_mem hname)
  · rintro h _ ms ⟨⟩ hv name hname
    exact h ms hv name (by simpa using hname)

/-! ## Every assertion -/

/-- The keywords without subschemas. -/
def BuiltinKeyword.isAssertion : BuiltinKeyword → Bool
  | .items | .contains | .dependencies | .propertyNames | .properties | .ref | .not | .anyOf | .oneOf
  | .allOf | .ifThenElse => false
  | _ => true

theorem assertion_means {B : BodyRel} {R : String → Nat → Prop} (hk : k.isAssertion = true)
    (hp : Placed formats members k p) (h : p.Makes B R k nodes) :
    AllMean nodes (Fulfils formats members k) := by
  cases k with
  | multipleOf =>
    obtain ⟨n, hn, rfl⟩ := h
    exact multipleOf_means hp hn
  | pattern =>
    obtain ⟨n, hn, rfl⟩ := h
    exact pattern_means hp hn
  | format => exact format_means hp h
  | required => exact required_means hp h
  | uniqueItems => exact h ▸ uniqueItems_means hp
  | enum =>
    obtain ⟨w, hlookup, hw, htyped⟩ := hp.exists_value rfl
    obtain ⟨allowed, rfl⟩ := exists_arr_of_anyAccepts htyped
    have hlookup : members.lookup "enum" = some (.arr allowed) := hlookup
    refine h ▸ hp.check_means hw fun v => ?_
    rw [Fulfils, hlookup]
    simp [Json.arr?]
  | items | contains | dependencies | propertyNames | properties | ref | not | anyOf | oneOf | allOf
  | ifThenElse => cases hk
  -- what is left compares the data with the keyword's value in one test
  | maximum | minimum | exclusiveMaximum | exclusiveMinimum | maxLength | minLength | maxItems
  | minItems | maxProperties | minProperties | const =>
    obtain ⟨w, hlookup, hw, -⟩ := hp.exists_value rfl
    simp only [BuiltinKeyword.name] at hlookup
    refine h ▸ hp.check_means hw fun v => ?_
    simp [Fulfils, hlookup]

end JsonSchema
