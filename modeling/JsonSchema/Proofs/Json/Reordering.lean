import JsonSchema.DataType
import JsonSchema.Program.Location
import JsonSchema.Proofs.Json.Equality

/-!
# Values with their members in another order

`Json.Reordered` relates values that are the same up to the order in which objects have their members,
here and everywhere inside.  Names tell members apart in a sound value, so looking up a name and
following a pointer lead to related values, and **equality does not see the order**, on either side
(`Reordered.equal_left`, `Reordered.equal_right`).
-/

set_option autoImplicit false

namespace JsonSchema

/-- The same up to the order of members. -/
inductive Json.Reordered : Json → Json → Prop where
  | leaf {v : Json} : v.arr? = none → v.obj? = none → Reordered v v
  | arr {as bs : List Json} : as.length = bs.length →
      (∀ (i : Nat) a b, as[i]? = some a → bs[i]? = some b → Reordered a b) → Reordered (.arr as) (.arr bs)
  | obj {ms ns : List (String × Json)} : (ms.map Prod.fst).Perm (ns.map Prod.fst) →
      (∀ m ∈ ms, ∀ n ∈ ns, m.1 = n.1 → Reordered m.2 n.2) → Reordered (.obj ms) (.obj ns)

namespace Json.Reordered

variable {a b : Json} {as bs : List Json} {ms ns : List (String × Json)}

theorem symm (h : a.Reordered b) : b.Reordered a := by
  induction h with
  | leaf harr hobj => exact .leaf harr hobj
  | arr hlength _ ih => exact .arr hlength.symm fun i b a hb ha => ih i a b ha hb
  | obj hnames _ ih => exact .obj hnames.symm fun n hn m hm hname => ih m hm n hn hname.symm

theorem sound (h : a.Reordered b) (ha : a.Sound) : b.Sound := by
  induction h with
  | leaf _ _ => exact ha
  | @arr as bs hlength _ ih =>
    refine .arr (hlength ▸ ha.length_lt) fun b hb => ?_
    obtain ⟨i, hi⟩ := List.getElem?_of_mem hb
    have hlt : i < as.length := hlength ▸ (List.getElem?_eq_some_iff.mp hi).1
    exact ih i as[i] b (List.getElem?_eq_getElem hlt) hi (ha.item (List.getElem_mem hlt))
  | @obj ms ns hnames _ ih =>
    refine .obj (hnames.nodup_iff.mp ha.nodup) fun n hn => ?_
    obtain ⟨m, hm, hname⟩ := List.mem_map.mp (hnames.mem_iff.mpr (List.mem_map_of_mem hn))
    exact ih m hm n hn hname (ha.member hm)

theorem eq_arr (h : (Json.arr as).Reordered b) : ∃ bs, b = .arr bs := by
  cases h with
  | leaf harr _ => cases harr
  | arr _ _ => exact ⟨_, rfl⟩

theorem eq_obj (h : (Json.obj ms).Reordered b) : ∃ ns, b = .obj ns := by
  cases h with
  | leaf _ hobj => cases hobj
  | obj _ _ => exact ⟨_, rfl⟩

/-! ## Parts -/

/-- Every member has one of its name on the other side. -/
theorem exists_member (h : (Json.obj ms).Reordered (.obj ns)) {m : String × Json} (hm : m ∈ ms) :
    ∃ n ∈ ns, n.1 = m.1 ∧ m.2.Reordered n.2 := by
  cases h with
  | leaf _ hobj => cases hobj
  | obj hnames hmembers =>
    obtain ⟨n, hn, hname⟩ := List.mem_map.mp (hnames.mem_iff.mp (List.mem_map_of_mem hm))
    exact ⟨n, hn, hname, hmembers m hm n hn hname.symm⟩

theorem length_eq (h : (Json.obj ms).Reordered (.obj ns)) : ms.length = ns.length := by
  cases h with
  | leaf _ hobj => cases hobj
  | obj hnames _ => simpa using hnames.length_eq

theorem exists_item (h : (Json.arr as).Reordered (.arr bs)) {i : Nat} {a : Json} (ha : as[i]? = some a) :
    ∃ b, bs[i]? = some b ∧ a.Reordered b := by
  cases h with
  | leaf harr _ => cases harr
  | arr hlength hitems =>
    have hlt : i < bs.length := hlength ▸ (List.getElem?_eq_some_iff.mp ha).1
    exact ⟨bs[i], List.getElem?_eq_getElem hlt, hitems i a bs[i] ha (List.getElem?_eq_getElem hlt)⟩

/-- Looking up a name leads to related values. -/
theorem lookup (h : (Json.obj ms).Reordered (.obj ns)) (hs : (Json.obj ms).Sound) {name : String}
    (ha : ms.lookup name = some a) : ∃ b, ns.lookup name = some b ∧ a.Reordered b := by
  obtain ⟨n, hn, rfl, hre⟩ := h.exists_member (mem_of_lookup ha)
  exact ⟨n.2, lookup_of_mem (h.sound hs).nodup hn, hre⟩

/-- A token leads to related values. -/
theorem child {u : Json} (h : a.Reordered b) (hs : a.Sound) {token : String}
    (hu : Pointer.child? a token = some u) : ∃ w, Pointer.child? b token = some w ∧ u.Reordered w := by
  cases h with
  | leaf harr hobj =>
    cases a with
    | arr items => cases harr
    | obj members => cases hobj
    | _ => cases hu
  | obj hnames hmembers => exact lookup (.obj hnames hmembers) hs hu
  | arr hlength hitems =>
    unfold Pointer.child? at hu ⊢
    dsimp only at hu ⊢
    split at hu
    · cases hu
    · obtain ⟨i, hi, hitem⟩ := Option.bind_eq_some_iff.mp hu
      rw [hi, Option.bind_some]
      exact exists_item (.arr hlength hitems) hitem

/-- Tokens lead to related values. -/
theorem follow {tokens : List String} : ∀ {a b u : Json}, a.Reordered b → a.Sound →
    Pointer.follow? a tokens = some u → ∃ w, Pointer.follow? b tokens = some w ∧ u.Reordered w := by
  induction tokens with
  | nil =>
    intro a b u h _ hu
    cases hu
    exact ⟨b, rfl, h⟩
  | cons token rest ih =>
    intro a b u h hs hu
    obtain ⟨u₁, hu₁, hu⟩ := Option.bind_eq_some_iff.mp hu
    obtain ⟨w₁, hw₁, h₁⟩ := h.child hs hu₁
    obtain ⟨w, hw, huw⟩ := ih h₁ (hs.child hu₁) hu
    exact ⟨w, by rw [Pointer.follow?, hw₁, Option.bind_some, hw], huw⟩

/-- A step leads to related values. -/
theorem step {u : Json} (h : a.Reordered b) (hs : a.Sound) {step : Step} (hu : step.child? a = some u) :
    ∃ w, step.child? b = some w ∧ u.Reordered w := by
  cases h with
  | leaf harr hobj =>
    cases a with
    | arr items => cases harr
    | obj members => cases hobj
    | _ => cases step <;> cases hu
  | obj hnames hmembers =>
    cases step with
    | key name => exact lookup (.obj hnames hmembers) hs hu
    | index i => cases hu
  | arr hlength hitems =>
    cases step with
    | key name => cases hu
    | index i => exact exists_item (.arr hlength hitems) hu

/-! ## What is seen of a value without looking inside -/

theorem str?_eq (h : a.Reordered b) : a.str? = b.str? := by cases h <;> rfl

theorem bool?_eq (h : a.Reordered b) : a.bool? = b.bool? := by cases h <;> rfl

theorem num?_eq (h : a.Reordered b) : a.num? = b.num? := by cases h <;> rfl

theorem arr?_isSome_eq (h : a.Reordered b) : a.arr?.isSome = b.arr?.isSome := by cases h <;> rfl

theorem obj?_isSome_eq (h : a.Reordered b) : a.obj?.isSome = b.obj?.isSome := by cases h <;> rfl

theorem accepts_eq (h : a.Reordered b) (type : DataType) : type.accepts a = type.accepts b := by
  cases h <;> cases type <;> rfl

/-! ## Equality -/

theorem equal_of_left (h : a.Reordered b) : ∀ {v : Json}, a.equal v = true → b.equal v = true := by
  induction h with
  | leaf _ _ => exact fun heq => heq
  | @arr as bs hlength hitems ih =>
    intro v heq
    cases v with
    | arr vs =>
      obtain ⟨hlength', heq⟩ := equal_arr.mp heq
      refine equal_arr.mpr ⟨hlength.symm.trans hlength', fun i b hb => ?_⟩
      obtain ⟨a, ha, -⟩ := exists_item (symm (.arr hlength hitems)) hb
      obtain ⟨w, hw, haw⟩ := heq i a ha
      exact ⟨w, hw, ih i a b ha hb haw⟩
    | _ => simp [equal] at heq
  | @obj ms ns hnames hmembers ih =>
    intro v heq
    cases v with
    | obj vs =>
      have hre : (Json.obj ms).Reordered (.obj ns) := .obj hnames hmembers
      obtain ⟨hlength, heq⟩ := equal_obj.mp heq
      refine equal_obj.mpr ⟨hre.length_eq.symm.trans hlength, fun n hn => ?_⟩
      obtain ⟨m, hm, hname, -⟩ := hre.symm.exists_member hn
      obtain ⟨w, hw, hmw⟩ := heq m hm
      exact ⟨w, hname ▸ hw, ih m hm n hn hname hmw⟩
    | _ => simp [equal] at heq

/-- **Equality does not see the order of members on the left.** -/
theorem equal_left (h : a.Reordered b) (v : Json) : a.equal v = b.equal v :=
  Bool.eq_iff_iff.mpr ⟨h.equal_of_left, h.symm.equal_of_left⟩

theorem equal_of_right (h : a.Reordered b) : a.Sound → ∀ {v : Json}, v.equal a = true → v.equal b = true := by
  induction h with
  | leaf _ _ => exact fun _ _ heq => heq
  | @arr as bs hlength hitems ih =>
    intro hs v heq
    cases equal_cases heq with
    | same harr _ => cases harr
    | arr hlength' heq =>
      refine equal_arr.mpr ⟨hlength'.trans hlength, fun i u hu => ?_⟩
      obtain ⟨a, ha, hua⟩ := heq i u hu
      obtain ⟨b, hb, -⟩ := exists_item (.arr hlength hitems) ha
      exact ⟨b, hb, ih i a b ha hb (hs.item (List.mem_of_getElem? ha)) hua⟩
  | @obj ms ns hnames hmembers ih =>
    intro hs v heq
    have hre : (Json.obj ms).Reordered (.obj ns) := .obj hnames hmembers
    cases equal_cases heq with
    | same _ hobj => cases hobj
    | obj hlength heq =>
      refine equal_obj.mpr ⟨hlength.trans hre.length_eq, fun m hm => ?_⟩
      obtain ⟨u, hu, hmu⟩ := heq m hm
      obtain ⟨w, hw, -⟩ := hre.lookup hs hu
      exact ⟨w, hw, ih _ (mem_of_lookup hu) _ (mem_of_lookup hw) rfl (hs.member (mem_of_lookup hu)) hmu⟩

/-- **Equality does not see the order of members on the right.** -/
theorem equal_right (h : a.Reordered b) (hs : a.Sound) (v : Json) : v.equal a = v.equal b :=
  Bool.eq_iff_iff.mpr ⟨h.equal_of_right hs, h.symm.equal_of_right (h.sound hs)⟩

end Json.Reordered

end JsonSchema
