import JsonSchema.Json.Equal
import JsonSchema.Proofs.Json.Pointers
import JsonSchema.Proofs.Number.Rounding
import Mathlib.Data.List.Perm.Subperm

/-!
# The laws of equality

Two integers are compared exactly, an integer and a double after the integer is rounded.  Equality of
sound values is reflexive and symmetric, but a double stands for every integer that rounds to it, and
equality does not lead from one of them to another through the double: `9007199254740993` equals
`9007199254740992.0`, which equals `9007199254740992`.

**That is the only way it fails.**  Through a value equal to both, two values are equal exactly if they
hold no two different integers at one place (`equal_laws`); and where they do, the value between them
holds a double that both integers round to (`double_between`).  Integers of up to 53 bits are doubles,
so that equality of values with no greater ones is transitive (`equal_trans_of_small`).
-/

set_option autoImplicit false

namespace JsonSchema

/-! ## Numbers -/

namespace Number

theorem equal_self (x : Number) : x.equal x = true := by
  cases x <;> simp [Number.equal, Binary64.sameValue]

theorem equal_comm (x y : Number) : x.equal y = y.equal x := by
  cases x <;> cases y <;> simp [Number.equal, Binary64.sameValue, Bool.beq_comm]

/-- Equal numbers have the same value as doubles. -/
theorem units_eq_of_equal {x y : Number} (h : x.equal y = true) :
    x.toBinary64.units = y.toBinary64.units := by
  cases x with
  | int n _ =>
    cases y with
    | int m _ =>
      have heq : n = m := by simpa [Number.equal] using h
      subst heq
      rfl
    | double _ => simpa [Number.equal, Binary64.sameValue] using h
  | double _ => cases y <;> simpa [Number.equal, Binary64.sameValue] using h

/-- Numbers with the same value as doubles are equal, unless they are two different integers. -/
theorem equal_of_units {x y : Number} (h : x.toBinary64.units = y.toBinary64.units)
    (hint : ∀ n m hn hm, x = .int n hn → y = .int m hm → n = m) : x.equal y = true := by
  cases x with
  | int n hn =>
    cases y with
    | int m hm => simpa [Number.equal] using hint n m hn hm rfl rfl
    | double _ => simpa [Number.equal, Binary64.sameValue] using h
  | double _ => cases y <;> simpa [Number.equal, Binary64.sameValue] using h

end Number

/-! ## Values, one level deep -/

namespace Json

variable {as bs : List Json} {ms ns : List (String × Json)}

theorem equalItems_iff : equalItems as bs = true ↔
    as.length = bs.length ∧ ∀ (i : Nat) a, as[i]? = some a → ∃ b, bs[i]? = some b ∧ a.equal b = true := by
  induction as generalizing bs with
  | nil => cases bs <;> simp [equalItems]
  | cons a as ih =>
    cases bs with
    | nil => simp [equalItems]
    | cons b bs =>
      rw [equalItems, Bool.and_eq_true, ih, List.length_cons, List.length_cons, Nat.add_right_cancel_iff]
      constructor
      · rintro ⟨hhead, hlength, htail⟩
        refine ⟨hlength, fun i u hu => ?_⟩
        cases i with
        | zero => exact ⟨b, rfl, Option.some.inj hu ▸ hhead⟩
        | succ i => exact htail i u hu
      · rintro ⟨hlength, hitems⟩
        obtain ⟨w, hw, hhead⟩ := hitems 0 a rfl
        exact ⟨Option.some.inj hw ▸ hhead, hlength, fun i => hitems (i + 1)⟩

theorem equal_arr : (arr as).equal (arr bs) = true ↔
    as.length = bs.length ∧ ∀ (i : Nat) a, as[i]? = some a → ∃ b, bs[i]? = some b ∧ a.equal b = true := by
  rw [Json.equal, equalItems_iff]

theorem equalMembers_iff :
    equalMembers ms ns = true ↔ ∀ m ∈ ms, ∃ b, ns.lookup m.1 = some b ∧ m.2.equal b = true := by
  induction ms with
  | nil => simp [equalMembers]
  | cons m ms ih =>
    obtain ⟨name, a⟩ := m
    rw [equalMembers, Bool.and_eq_true, ih, List.forall_mem_cons]
    cases ns.lookup name <;> simp

theorem equal_obj : (obj ms).equal (obj ns) = true ↔
    ms.length = ns.length ∧ ∀ m ∈ ms, ∃ b, ns.lookup m.1 = some b ∧ m.2.equal b = true := by
  rw [Json.equal, Bool.and_eq_true, equalMembers_iff, beq_iff_eq]

/-- Of as many names, told apart on the left and all found on the right, none is missed. -/
theorem mem_names_of_equal (hnodup : (ms.map Prod.fst).Nodup) (h : (obj ms).equal (obj ns) = true)
    {name : String} (hname : name ∈ ns.map Prod.fst) : name ∈ ms.map Prod.fst := by
  obtain ⟨hlength, hmembers⟩ := equal_obj.mp h
  have hsub : ms.map Prod.fst ⊆ ns.map Prod.fst := by
    intro other hother
    obtain ⟨m, hm, rfl⟩ := List.mem_map.mp hother
    obtain ⟨b, hb, -⟩ := hmembers m hm
    exact List.mem_map.mpr ⟨_, mem_of_lookup hb, rfl⟩
  have hperm := (hnodup.subperm hsub).perm_of_length_le (by simp [hlength])
  exact hperm.mem_iff.mpr hname

/-- The ways two values can be equal, one level deep. -/
inductive EqualCases : Json → Json → Prop where
  | same {v : Json} : v.arr? = none → v.obj? = none → EqualCases v v
  | num {x y : Number} : x.equal y = true → EqualCases (.num x) (.num y)
  | arr {as bs : List Json} : as.length = bs.length →
      (∀ (i : Nat) a, as[i]? = some a → ∃ b, bs[i]? = some b ∧ a.equal b = true) →
      EqualCases (.arr as) (.arr bs)
  | obj {ms ns : List (String × Json)} : ms.length = ns.length →
      (∀ m ∈ ms, ∃ b, ns.lookup m.1 = some b ∧ m.2.equal b = true) → EqualCases (.obj ms) (.obj ns)

theorem equal_cases {a b : Json} (h : a.equal b = true) : EqualCases a b := by
  fun_cases Json.equal a b
  · exact .same rfl rfl
  · obtain rfl := by simpa [equal] using h
    exact .same rfl rfl
  · exact .num (by simpa [equal] using h)
  · obtain rfl := by simpa [equal] using h
    exact .same rfl rfl
  · obtain ⟨hlength, hitems⟩ := equal_arr.mp h
    exact .arr hlength hitems
  · obtain ⟨hlength, hmembers⟩ := equal_obj.mp h
    exact .obj hlength hmembers
  · simp_all [equal]

/-! ## Reflexive and symmetric -/

/-- **Equality of sound values is reflexive.** -/
theorem equal_self {a : Json} (ha : a.Sound) : a.equal a = true := by
  induction ha with
  | @leaf v harr hobj =>
    cases v with
    | num x => exact x.equal_self
    | arr items => cases harr
    | obj members => cases hobj
    | _ => simp [equal]
  | @arr items _ _ ih => exact equal_arr.mpr ⟨rfl, fun i u hu => ⟨u, hu, ih u (List.mem_of_getElem? hu)⟩⟩
  | @obj members hnodup _ ih =>
    exact equal_obj.mpr ⟨rfl, fun m hm => ⟨m.2, lookup_of_mem hnodup hm, ih m hm⟩⟩

theorem equal_swap {a : Json} (ha : a.Sound) : ∀ {b : Json}, b.Sound → a.equal b = true → b.equal a = true := by
  induction ha with
  | @leaf v harr hobj =>
    intro b _ h
    cases equal_cases h with
    | same _ _ => exact h
    | @num x y hxy => exact (y.equal_comm x).trans hxy
    | arr _ _ => cases harr
    | obj _ _ => cases hobj
  | @arr items _ _ ih =>
    intro b hb h
    cases equal_cases h with
    | same harr _ => cases harr
    | @arr _ others hlength hitems =>
      refine equal_arr.mpr ⟨hlength.symm, fun i w hw => ?_⟩
      obtain ⟨hi, -⟩ := List.getElem?_eq_some_iff.mp hw
      have hu : items[i]? = some items[i] := List.getElem?_eq_getElem (hlength ▸ hi)
      obtain ⟨w', hw', hequal⟩ := hitems i _ hu
      rw [hw, Option.some.injEq] at hw'
      subst hw'
      exact ⟨_, hu, ih _ (List.getElem_mem _) (hb.item (List.mem_of_getElem? hw)) hequal⟩
  | @obj members hnodup _ ih =>
    intro b hb h
    cases equal_cases h with
    | same _ hobj => cases hobj
    | @obj _ others hlength hmembers =>
      refine equal_obj.mpr ⟨hlength.symm, fun n hn => ?_⟩
      obtain ⟨m, hm, hname⟩ := List.mem_map.mp (mem_names_of_equal hnodup h (List.mem_map_of_mem hn))
      obtain ⟨w, hw, hequal⟩ := hmembers m hm
      rw [hname, lookup_of_mem hb.nodup hn, Option.some.injEq] at hw
      subst hw
      exact ⟨m.2, hname ▸ lookup_of_mem hnodup hm, ih m hm (hb.member hn) hequal⟩

/-- **Equality of sound values is symmetric.** -/
theorem equal_comm {a b : Json} (ha : a.Sound) (hb : b.Sound) : a.equal b = b.equal a :=
  Bool.eq_iff_iff.mpr ⟨equal_swap ha hb, equal_swap hb ha⟩

/-! ## Transitive, except through a double -/

/-- What one token leads to in equal values is equal. -/
theorem equal_child {a b u : Json} {token : String} (h : a.equal b = true)
    (hu : Pointer.child? a token = some u) : ∃ w, Pointer.child? b token = some w ∧ u.equal w = true := by
  cases equal_cases h with
  | same harr hobj =>
    cases a with
    | arr items => cases harr
    | obj members => cases hobj
    | _ => cases hu
  | num _ => cases hu
  | obj _ hmembers => exact hmembers (token, u) (mem_of_lookup hu)
  | arr _ hitems =>
    unfold Pointer.child? at hu ⊢
    dsimp only at hu ⊢
    split at hu
    · cases hu
    · obtain ⟨i, hi, hitem⟩ := Option.bind_eq_some_iff.mp hu
      rw [hi, Option.bind_some]
      exact hitems i u hitem

/-- What tokens lead to in equal values is equal. -/
theorem equal_follow {tokens : List String} : ∀ {a b u : Json}, a.equal b = true →
    Pointer.follow? a tokens = some u → ∃ w, Pointer.follow? b tokens = some w ∧ u.equal w = true := by
  induction tokens with
  | nil =>
    intro a b u h hu
    cases hu
    exact ⟨b, rfl, h⟩
  | cons token rest ih =>
    intro a b u h hu
    obtain ⟨u₁, hu₁, hu⟩ := Option.bind_eq_some_iff.mp hu
    obtain ⟨w₁, hw₁, h₁⟩ := equal_child h hu₁
    obtain ⟨w, hw, huw⟩ := ih h₁ hu
    exact ⟨w, by rw [Pointer.follow?, hw₁, Option.bind_some, hw], huw⟩

/-- Where both values hold an integer, they hold the same one. -/
def SameIntegers (a c : Json) : Prop :=
  ∀ tokens n m hn hm, Pointer.follow? a tokens = some (.num (.int n hn)) →
    Pointer.follow? c tokens = some (.num (.int m hm)) → n = m

theorem SameIntegers.child {a c u w : Json} (h : SameIntegers a c) {token : String}
    (hu : Pointer.child? a token = some u) (hw : Pointer.child? c token = some w) : SameIntegers u w := by
  intro tokens n m hn hm hun hwm
  refine h (token :: tokens) n m hn hm ?_ ?_
  · rw [Pointer.follow?, hu, Option.bind_some, hun]
  · rw [Pointer.follow?, hw, Option.bind_some, hwm]

/-- Equal values hold the same integer where both hold one. -/
theorem sameIntegers_of_equal {a c : Json} (h : a.equal c = true) : SameIntegers a c := by
  intro tokens n m hn hm hu hw
  obtain ⟨w, hw', hequal⟩ := equal_follow h hu
  rw [hw, Option.some.injEq] at hw'
  subst hw'
  simpa [equal, Number.equal] using hequal

/-- Through a value equal to both, values are equal if they hold the same integers. -/
theorem equal_of_sameIntegers {a : Json} (ha : a.Sound) : ∀ {b c : Json}, b.Sound → c.Sound →
    a.equal b = true → b.equal c = true → SameIntegers a c → a.equal c = true := by
  induction ha with
  | leaf harr hobj =>
    intro b c _ _ hab hbc hint
    cases equal_cases hab with
    | same _ _ => exact hbc
    | @num x y hxy =>
      cases equal_cases hbc with
      | same _ _ => exact hab
      | @num _ z hyz =>
        refine Number.equal_of_units ((Number.units_eq_of_equal hxy).trans (Number.units_eq_of_equal hyz)) ?_
        rintro n m hn hm rfl rfl
        exact hint [] n m hn hm rfl rfl
    | arr _ _ => cases harr
    | obj _ _ => cases hobj
  | @arr items hlt _ ih =>
    intro b c hb hc hab hbc hint
    cases equal_cases hab with
    | same harr _ => cases harr
    | @arr _ others hlength₁ hfirst =>
      cases equal_cases hbc with
      | same harr _ => cases harr
      | @arr _ lasts hlength₂ hsecond =>
        refine equal_arr.mpr ⟨hlength₁.trans hlength₂, fun i u hu => ?_⟩
        obtain ⟨v, hv, huv⟩ := hfirst i u hu
        obtain ⟨w, hw, hvw⟩ := hsecond i v hv
        have hi : i < UInt64.size := Nat.lt_trans (List.getElem?_eq_some_iff.mp hu).1 hlt
        have hchild : Pointer.child? (.arr items) (toString i) = some u := by rw [Pointer.child?_toString hi, hu]
        have hchild' : Pointer.child? (.arr lasts) (toString i) = some w := by rw [Pointer.child?_toString hi, hw]
        exact ⟨w, hw, ih u (List.mem_of_getElem? hu) (hb.item (List.mem_of_getElem? hv))
          (hc.item (List.mem_of_getElem? hw)) huv hvw (hint.child hchild hchild')⟩
  | @obj members hnodup _ ih =>
    intro b c hb hc hab hbc hint
    cases equal_cases hab with
    | same _ hobj => cases hobj
    | @obj _ others hlength₁ hfirst =>
      cases equal_cases hbc with
      | same _ hobj => cases hobj
      | @obj _ lasts hlength₂ hsecond =>
        refine equal_obj.mpr ⟨hlength₁.trans hlength₂, fun m hm => ?_⟩
        obtain ⟨v, hv, huv⟩ := hfirst m hm
        obtain ⟨w, hw, hvw⟩ := hsecond (m.1, v) (mem_of_lookup hv)
        exact ⟨w, hw, ih m hm (hb.member (mem_of_lookup hv)) (hc.member (mem_of_lookup hw)) huv hvw
          (hint.child (lookup_of_mem hnodup hm) hw)⟩

/-- **Through a value equal to both, two values are equal exactly if they hold no two different
integers at one place**; apart from that, equality is reflexive and symmetric. -/
theorem equal_laws {a b c : Json} (ha : a.Sound) (hb : b.Sound) (hc : c.Sound) :
    a.equal a = true ∧ a.equal b = b.equal a ∧
      (a.equal b = true → b.equal c = true → (a.equal c = true ↔ SameIntegers a c)) :=
  ⟨equal_self ha, equal_comm ha hb, fun hab hbc =>
    ⟨sameIntegers_of_equal, equal_of_sameIntegers ha hb hc hab hbc⟩⟩

/-- Equality leads from `{"a": 1, "b": 2.0}` through `{"b": 2, "a": 1.0}` to `{"a": 1.0, "b": 2}`, which
    hold no integer in common. -/
theorem reordered_equal :
    let v₁ := Json.obj [("a", .num (.int 1 (by decide))), ("b", .num (.double (.ofInt 2)))]
    let v₂ := Json.obj [("b", .num (.int 2 (by decide))), ("a", .num (.double (.ofInt 1)))]
    let v₃ := Json.obj [("a", .num (.double (.ofInt 1))), ("b", .num (.int 2 (by decide)))]
    v₁.Sound ∧ v₂.Sound ∧ v₃.Sound ∧ v₁.equal v₂ = true ∧ v₂.equal v₃ = true ∧
      (v₁.equal v₃ = true ↔ SameIntegers v₁ v₃) := by
  have hsound : ∀ x y : Number, (Json.obj [("a", .num x), ("b", .num y)]).Sound ∧
      (Json.obj [("b", .num x), ("a", .num y)]).Sound := by
    refine fun x y => ⟨.obj (by simp) ?_, .obj (by simp) ?_⟩ <;>
    · simp only [List.forall_mem_cons, List.not_mem_nil, false_implies, implies_true, and_true]
      exact ⟨.leaf rfl rfl, .leaf rfl rfl⟩
  have h₁₂ : (Json.obj [("a", .num (.int 1 (by decide))), ("b", .num (.double (.ofInt 2)))]).equal
      (.obj [("b", .num (.int 2 (by decide))), ("a", .num (.double (.ofInt 1)))]) = true := by
    decide +kernel
  have h₂₃ : (Json.obj [("b", .num (.int 2 (by decide))), ("a", .num (.double (.ofInt 1)))]).equal
      (.obj [("a", .num (.double (.ofInt 1))), ("b", .num (.int 2 (by decide)))]) = true := by
    decide +kernel
  exact ⟨(hsound _ _).1, (hsound _ _).2, (hsound _ _).1, h₁₂, h₂₃,
    (equal_laws (hsound _ _).1 (hsound _ _).2 (hsound _ _).1).2.2 h₁₂ h₂₃⟩

/-- A double that two integers round to equals both. -/
theorem rounded_integers_differ :
    let odd := Json.num (.int 9007199254740993 (by decide))
    let between := Json.num (.double (.ofInt 9007199254740992))
    let even := Json.num (.int 9007199254740992 (by decide))
    odd.equal between = true ∧ between.equal even = true ∧ odd.equal even = false := by
  decide +kernel

/-! ## What stands between different integers -/

/-- Where values that equal a third hold different integers, the third holds a double, and both integers
    round to it. -/
theorem double_between {a b c : Json} (hab : a.equal b = true) (hbc : b.equal c = true)
    {tokens : List String} {n m : Int} {hn : IsWord n} {hm : IsWord m}
    (hu : Pointer.follow? a tokens = some (.num (.int n hn)))
    (hw : Pointer.follow? c tokens = some (.num (.int m hm))) (hne : n ≠ m) :
    ∃ x, Pointer.follow? b tokens = some (.num (.double x)) ∧
      (Binary64.ofInt n).units = x.units ∧ (Binary64.ofInt m).units = x.units := by
  obtain ⟨v, hv, hnv⟩ := equal_follow hab hu
  obtain ⟨w, hw', hvm⟩ := equal_follow hbc hv
  rw [hw, Option.some.injEq] at hw'
  subst hw'
  cases v with
  | num y =>
    rw [equal] at hnv hvm
    cases y with
    | int k _ =>
      have hnk : n = k := by simpa [Number.equal] using hnv
      have hkm : k = m := by simpa [Number.equal] using hvm
      exact absurd (hnk.trans hkm) hne
    | double x => exact ⟨x, hv, Number.units_eq_of_equal hnv, (Number.units_eq_of_equal hvm).symm⟩
  | _ => simp [equal] at hnv

/-- No integer of the value takes more than 53 bits. -/
def SmallIntegers (a : Json) : Prop :=
  ∀ tokens n hn, Pointer.follow? a tokens = some (.num (.int n hn)) → n.natAbs ≤ 2 ^ 53

/-- **Equality of values whose integers take at most 53 bits is transitive**, whatever stands between. -/
theorem equal_trans_of_small {a b c : Json} (ha : a.Sound) (hb : b.Sound) (hc : c.Sound)
    (hsa : a.SmallIntegers) (hsc : c.SmallIntegers) (hab : a.equal b = true) (hbc : b.equal c = true) :
    a.equal c = true := by
  refine equal_of_sameIntegers ha hb hc hab hbc fun tokens n m hn hm hu hw => ?_
  by_contra hne
  obtain ⟨x, -, hxn, hxm⟩ := double_between hab hbc hu hw hne
  rw [Binary64.ofInt_units (hsa _ _ _ hu)] at hxn
  rw [Binary64.ofInt_units (hsc _ _ _ hw), ← hxn] at hxm
  exact hne (Int.eq_of_mul_eq_mul_right (by decide +kernel) hxm.symm)

end Json

end JsonSchema
