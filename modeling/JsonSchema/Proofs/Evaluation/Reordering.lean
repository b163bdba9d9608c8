import JsonSchema.Proofs.Draft7.Assertions
import JsonSchema.Proofs.Evaluation.DataPaths
import JsonSchema.Proofs.Evaluation.SameVerdict
import JsonSchema.Proofs.Json.Reordering
import JsonSchema.Proofs.Lowering.Everywhere

/-!
# Runs on data with its members in another order

Two runs concur if they never give different verdicts: whatever is recorded before, wherever both end
(`Run.Concur`).  The members of an object are run in the order in which they stand, so that two orders
may end with different violations, and a fail-fast run of one may end where that of the other does not.
The verdicts of a conjunction and of a search do not depend on the order: `ConcurAll` asks only that each
run of one list concurs with some run of the other.

**A node whose checks make draft-07's tests concurs with itself at reordered locations**
(`Node.run_concur`).  What is to be known of a test is that it does not see the order of members, neither
in the data nor in its keyword's value, which may come from the data (`BuiltinTest.orderBlind`).
-/

set_option autoImplicit false

namespace JsonSchema

/-! ## Verdicts -/

namespace Run

/-- With some violations recorded before, the run ends with the verdict. -/
def Says (r : Run) (ok : Bool) : Prop := ∃ errors after, r errors = some (ok, after)

/-- The runs never give different verdicts. -/
def Concur (r r' : Run) : Prop := ∀ ok ok', r.Says ok → r'.Says ok' → ok = ok'

/-- Each run of one list concurs with one of the other. -/
def ConcurAll (rs rs' : List Run) : Prop :=
  (∀ r ∈ rs, ∃ r' ∈ rs', r.Concur r') ∧ ∀ r' ∈ rs', ∃ r ∈ rs, r.Concur r'

variable {r r' c t e : Run} {rs rs' : List Run} {ok failFast : Bool}

theorem not_says_stuck : ¬ stuck.Says ok := by
  rintro ⟨_, _, h⟩
  cases h

theorem says_done {b : Bool} (h : (done b).Says ok) : ok = b := by
  obtain ⟨errors, after, h⟩ := h
  cases h
  rfl

theorem says_reject {v : Violation} (h : (reject v).Says ok) : ok = false := by
  obtain ⟨errors, after, h⟩ := h
  cases h
  rfl

theorem Says.of_noting {v : Violation} (h : (noting v r).Says ok) : r.Says ok := by
  obtain ⟨errors, after, h⟩ := h
  unfold noting at h
  split at h
  · cases h
  · next hr => cases h; exact ⟨_, _, hr⟩
  · next hr => cases h; exact ⟨_, _, hr⟩

theorem Says.of_negate {v : Violation} (h : (negate v r).Says ok) : r.Says (!ok) := by
  obtain ⟨errors, after, h⟩ := h
  unfold negate at h
  split at h
  · cases h
  · next matched _ hr =>
    cases matched with
    | true => cases h; exact ⟨_, _, hr⟩
    | false => cases h; exact ⟨_, _, hr⟩

theorem Says.of_branch (h : (branch c t e).Says ok) :
    (c.Says true ∧ t.Says ok) ∨ (c.Says false ∧ e.Says ok) := by
  obtain ⟨errors, after, h⟩ := h
  unfold branch at h
  split at h
  · cases h
  · next matched _ hc =>
    cases matched with
    | true => exact .inl ⟨⟨_, _, hc⟩, ⟨_, _, h⟩⟩
    | false => exact .inr ⟨⟨_, _, hc⟩, ⟨_, _, h⟩⟩

/-- A conjunction passes if all runs pass, and fails if one fails. -/
theorem Says.of_every (h : (every failFast rs).Says ok) :
    (ok = true ∧ ∀ r ∈ rs, r.Says true) ∨ (ok = false ∧ ∃ r ∈ rs, r.Says false) := by
  obtain ⟨errors, after, h⟩ := h
  induction rs generalizing errors ok with
  | nil =>
    cases h
    exact .inl ⟨rfl, fun _ hr => absurd hr List.not_mem_nil⟩
  | cons r rest ih =>
    rw [every] at h
    split at h
    · cases h
    · next hr =>
      rcases ih _ h with ⟨rfl, hrest⟩ | ⟨rfl, r', hr', hsays⟩
      · exact .inl ⟨rfl, List.forall_mem_cons.mpr ⟨⟨_, _, hr⟩, hrest⟩⟩
      · exact .inr ⟨rfl, r', List.mem_cons_of_mem _ hr', hsays⟩
    · next hr =>
      refine .inr ⟨?_, r, List.mem_cons_self, ⟨_, _, hr⟩⟩
      split at h
      · cases h
        rfl
      · obtain ⟨result, -, heq⟩ := Option.map_eq_some_iff.mp h
        exact (congrArg Prod.fst heq).symm

/-- A search finds a run that passes, or all fail. -/
theorem says_of_untilPass {errors after : List Violation} (h : untilPass rs errors = some (ok, after)) :
    (ok = true ∧ ∃ r ∈ rs, r.Says true) ∨ (ok = false ∧ ∀ r ∈ rs, r.Says false) := by
  induction rs generalizing errors with
  | nil =>
    cases h
    exact .inr ⟨rfl, fun _ hr => absurd hr List.not_mem_nil⟩
  | cons r rest ih =>
    rw [untilPass] at h
    split at h
    · cases h
    · next hr =>
      cases h
      exact .inl ⟨rfl, r, List.mem_cons_self, ⟨_, _, hr⟩⟩
    · next hr =>
      rcases ih h with ⟨rfl, r', hr', hsays⟩ | ⟨rfl, hrest⟩
      · exact .inl ⟨rfl, r', List.mem_cons_of_mem _ hr', hsays⟩
      · exact .inr ⟨rfl, List.forall_mem_cons.mpr ⟨⟨_, _, hr⟩, hrest⟩⟩

theorem Says.of_someOf {v : Violation} (h : (someOf v rs).Says ok) :
    (ok = true ∧ ∃ r ∈ rs, r.Says true) ∨ (ok = false ∧ ∀ r ∈ rs, r.Says false) := by
  obtain ⟨errors, after, h⟩ := h
  unfold someOf at h
  split at h
  · cases h
  · next found _ hfound =>
    cases found with
    | true => cases h; exact says_of_untilPass hfound
    | false => cases h; exact says_of_untilPass hfound

theorem Says.of_anyOf {v : Violation} (h : (anyOf v rs).Says ok) :
    (ok = true ∧ ∃ r ∈ rs, r.Says true) ∨ (ok = false ∧ ∀ r ∈ rs, r.Says false) := by
  obtain ⟨errors, after, h⟩ := h
  unfold anyOf at h
  split at h
  · cases h
  · next hfound => cases h; exact says_of_untilPass hfound
  · next hfound => cases h; exact says_of_untilPass hfound

/-! ## What keeps concurrence -/

theorem ConcurAll.map {α β : Type} {xs : List α} {ys : List β} {f : α → Run} {g : β → Run}
    (hxs : ∀ x ∈ xs, ∃ y ∈ ys, (f x).Concur (g y)) (hys : ∀ y ∈ ys, ∃ x ∈ xs, (f x).Concur (g y)) :
    ConcurAll (xs.map f) (ys.map g) := by
  constructor
  · intro r hr
    obtain ⟨x, hx, rfl⟩ := List.mem_map.mp hr
    obtain ⟨y, hy, hxy⟩ := hxs x hx
    exact ⟨g y, List.mem_map_of_mem hy, hxy⟩
  · intro r hr
    obtain ⟨y, hy, rfl⟩ := List.mem_map.mp hr
    obtain ⟨x, hx, hxy⟩ := hys y hy
    exact ⟨f x, List.mem_map_of_mem hx, hxy⟩

namespace Concur

variable {m m' : Bool} {v v' : Violation}

theorem done (b : Bool) : (Run.done b).Concur (Run.done b) := fun _ _ h h' =>
  (says_done h).trans (says_done h').symm

theorem reject : (Run.reject v).Concur (Run.reject v') := fun _ _ h h' =>
  (says_reject h).trans (says_reject h').symm

theorem noting (h : r.Concur r') : (Run.noting v r).Concur (Run.noting v' r') := fun _ _ h₁ h₂ =>
  h _ _ h₁.of_noting h₂.of_noting

theorem negate (h : r.Concur r') : (Run.negate v r).Concur (Run.negate v' r') := fun _ _ h₁ h₂ =>
  Bool.not_inj (h _ _ h₁.of_negate h₂.of_negate)

theorem branch {c' t' e' : Run} (hc : c.Concur c') (ht : t.Concur t') (he : e.Concur e') :
    (Run.branch c t e).Concur (Run.branch c' t' e') := by
  intro ok ok' h h'
  rcases h.of_branch with ⟨hcond, h⟩ | ⟨hcond, h⟩ <;> rcases h'.of_branch with ⟨hcond', h'⟩ | ⟨hcond', h'⟩
  · exact ht _ _ h h'
  · exact absurd (hc _ _ hcond hcond') Bool.noConfusion
  · exact absurd (hc _ _ hcond hcond') Bool.noConfusion
  · exact he _ _ h h'

theorem every (h : ConcurAll rs rs') : (Run.every m rs).Concur (Run.every m' rs') := by
  intro ok ok' hok hok'
  rcases hok.of_every with ⟨rfl, hall⟩ | ⟨rfl, r, hr, hfails⟩ <;>
    rcases hok'.of_every with ⟨rfl, hall'⟩ | ⟨rfl, r', hr', hfails'⟩
  · rfl
  · obtain ⟨r, hr, hconcur⟩ := h.2 r' hr'
    exact hconcur _ _ (hall r hr) hfails'
  · obtain ⟨r', hr', hconcur⟩ := h.1 r hr
    exact hconcur _ _ hfails (hall' r' hr')
  · rfl

/-- Runs that pass if one of the list does, and fail if all do. -/
theorem ofSearch {s s' : Run} (h : ConcurAll rs rs')
    (hs : ∀ ok, s.Says ok → (ok = true ∧ ∃ r ∈ rs, r.Says true) ∨ (ok = false ∧ ∀ r ∈ rs, r.Says false))
    (hs' : ∀ ok, s'.Says ok →
      (ok = true ∧ ∃ r ∈ rs', r.Says true) ∨ (ok = false ∧ ∀ r ∈ rs', r.Says false)) : s.Concur s' := by
  intro ok ok' hok hok'
  rcases hs ok hok with ⟨rfl, r, hr, hpasses⟩ | ⟨rfl, hall⟩ <;>
    rcases hs' ok' hok' with ⟨rfl, r', hr', hpasses'⟩ | ⟨rfl, hall'⟩
  · rfl
  · obtain ⟨r', hr', hconcur⟩ := h.1 r hr
    exact hconcur _ _ hpasses (hall' r' hr')
  · obtain ⟨r, hr, hconcur⟩ := h.2 r' hr'
    exact hconcur _ _ (hall r hr) hpasses'
  · rfl

theorem someOf (h : ConcurAll rs rs') : (Run.someOf v rs).Concur (Run.someOf v' rs') :=
  ofSearch h (fun _ => Says.of_someOf) fun _ => Says.of_someOf

theorem anyOf (h : ConcurAll rs rs') : (Run.anyOf v rs).Concur (Run.anyOf v' rs') :=
  ofSearch h (fun _ => Says.of_anyOf) fun _ => Says.of_anyOf

/-- The same runs pass, by their numbers. -/
theorem passing_eq (h : List.Forall₂ Concur rs rs') {found : List Nat} {number : Nat}
    {errors errors' after after' : List Violation} {passed passed' : List Nat}
    (hr : passing found number rs errors = some (passed, after))
    (hr' : passing found number rs' errors' = some (passed', after')) : passed = passed' := by
  induction h generalizing found number errors errors' with
  | nil =>
    cases hr
    cases hr'
    rfl
  | @cons r r' rest rest' hhead _ ih =>
    rw [passing] at hr hr'
    cases hv : r errors with
    | none => simp [hv] at hr
    | some result =>
      cases hv' : r' errors' with
      | none => simp [hv'] at hr'
      | some result' =>
        obtain ⟨ok, mid⟩ := result
        obtain ⟨ok', mid'⟩ := result'
        obtain rfl : ok = ok' := hhead _ _ ⟨_, _, hv⟩ ⟨_, _, hv'⟩
        rw [hv] at hr
        rw [hv'] at hr'
        cases ok with
        | false => exact ih hr hr'
        | true =>
          by_cases hfirst : found.isEmpty
          · simp only [hfirst, if_true] at hr hr'
            exact ih hr hr'
          · simp only [hfirst, Bool.false_eq_true, if_false, Option.some.injEq, Prod.mk.injEq] at hr hr'
            exact hr.1.symm.trans hr'.1

theorem oneOf {v v' : List Nat → Violation} (h : List.Forall₂ Concur rs rs') :
    (Run.oneOf v rs).Concur (Run.oneOf v' rs') := by
  have hsays : ∀ {v : List Nat → Violation} {rs : List Run} {ok : Bool}, (Run.oneOf v rs).Says ok →
      ∃ errors passed after, passing [] 0 rs errors = some (passed, after) ∧
        ok = decide (passed.length = 1) := by
    rintro v rs ok ⟨errors, after, h⟩
    unfold Run.oneOf at h
    split at h
    · cases h
    · next hpassed =>
      cases h
      exact ⟨errors, _, _, hpassed, rfl⟩
    · next passed _ hmore hpassed =>
      cases h
      refine ⟨errors, _, _, hpassed, ?_⟩
      match passed, hmore with
      | [], _ => rfl
      | [_], hmore => exact absurd rfl (hmore _)
      | _ :: _ :: _, _ => simp
  intro ok ok' hok hok'
  obtain ⟨_, _, _, hpassed, rfl⟩ := hsays hok
  obtain ⟨_, _, _, hpassed', rfl⟩ := hsays hok'
  rw [passing_eq h hpassed hpassed']

end Concur

end Run

/-! ## Tests that do not see the order of members -/

/-- The test gives the same answer whatever the order of members, in the data and in the keyword's value. -/
structure OrderBlind (fails : Json → Json → Bool) : Prop where
  data : ∀ {a b : Json} (v : Json), a.Sound → a.Reordered b → fails a v = fails b v
  value : ∀ (a : Json) {v w : Json}, v.Sound → v.Reordered w → fails a v = fails a w

namespace Json.Reordered

variable {a b : Json}

theorem double?_eq (h : a.Reordered b) : a.double? = b.double? := congrArg (Option.map _) h.num?_eq

theorem int64?_eq (h : a.Reordered b) : a.int64? = b.int64? := by cases h <;> rfl

theorem size?_eq (h : a.Reordered b) (m : Measure) : m.size? a = m.size? b := by
  cases h with
  | leaf _ _ => rfl
  | arr hlength _ => cases m <;> simp [Measure.size?, hlength]
  | obj hnames hmembers =>
    cases m with
    | properties => exact congrArg some (length_eq (.obj hnames hmembers))
    | _ => rfl

theorem format_eq (h : a.Reordered b) (f : Format) : f.accepts a = f.accepts b := by
  cases h <;> cases f <;> rfl

theorem anyAccepts_eq (h : a.Reordered b) (types : List DataType) :
    DataType.anyAccepts types a = DataType.anyAccepts types b := by
  have heq : ∀ type : DataType, type.accepts a = type.accepts b := h.accepts_eq
  simp only [DataType.anyAccepts, heq]

theorem exists_get? (h : a.Reordered b) (hs : a.Sound) {name : String} {u : Json} (hu : a.get? name = some u) :
    ∃ w, b.get? name = some w ∧ u.Reordered w := by
  have hchild : Step.child? (.key name) a = some u := hu
  exact h.step hs hchild

theorem get?_isSome_eq (h : a.Reordered b) (hs : a.Sound) (name : String) :
    (a.get? name).isSome = (b.get? name).isSome := by
  rw [Bool.eq_iff_iff, Option.isSome_iff_exists, Option.isSome_iff_exists]
  constructor
  · rintro ⟨u, hu⟩
    obtain ⟨w, hw, -⟩ := h.exists_get? hs hu
    exact ⟨w, hw⟩
  · rintro ⟨u, hu⟩
    obtain ⟨w, hw, -⟩ := h.symm.exists_get? (h.sound hs) hu
    exact ⟨w, hw⟩

theorem lacks_eq (h : a.Reordered b) (hs : a.Sound) (name : String) :
    KeywordPlace.lacks name a = KeywordPlace.lacks name b := by
  rw [KeywordPlace.lacks, KeywordPlace.lacks, h.obj?_isSome_eq, ← Option.not_isSome, ← Option.not_isSome,
    h.get?_isSome_eq hs]

/-- Elements that are pairwise different stay so. -/
theorem pairwise_of_pairwise {as bs : List Json} (h : (Json.arr as).Reordered (.arr bs))
    (hs : (Json.arr as).Sound) (hdifferent : as.Pairwise fun earlier later => later.equal earlier = false) :
    bs.Pairwise fun earlier later => later.equal earlier = false := by
  rw [List.pairwise_iff_getElem] at hdifferent ⊢
  intro i j hi hj hlt
  obtain ⟨u, hu, hre⟩ := h.symm.exists_item (List.getElem?_eq_getElem hi)
  obtain ⟨w, hw, hre'⟩ := h.symm.exists_item (List.getElem?_eq_getElem hj)
  obtain ⟨hi', rfl⟩ := List.getElem?_eq_some_iff.mp hu
  obtain ⟨hj', rfl⟩ := List.getElem?_eq_some_iff.mp hw
  have hsound := (h.sound hs).item (List.getElem_mem hi)
  rw [hre'.equal_left, hre.equal_right hsound]
  exact hdifferent i j hi' hj' hlt

theorem lastDuplicate?_eq (h : a.Reordered b) (hs : a.Sound) :
    (lastDuplicate? a).isSome = (lastDuplicate? b).isSome := by
  cases h with
  | leaf _ _ => rfl
  | obj _ _ => rfl
  | @arr as bs hlength hitems =>
    have hre : (Json.arr as).Reordered (.arr bs) := .arr hlength hitems
    rw [← Bool.not_inj_iff, Bool.eq_iff_iff, Bool.not_eq_true', Bool.not_eq_true', lastDuplicate?_isSome,
      lastDuplicate?_isSome]
    exact ⟨hre.pairwise_of_pairwise hs, hre.symm.pairwise_of_pairwise (hre.sound hs)⟩

/-- A list of values has a value equal to the data or not, whatever the order of their members. -/
theorem any_equal_of_any_equal (h : a.Reordered b) (hs : a.Sound) {v : Json}
    (hany : (a.arr?.getD []).any (v.equal ·) = true) : (b.arr?.getD []).any (v.equal ·) = true := by
  cases h with
  | leaf _ _ => exact hany
  | obj _ _ => exact hany
  | arr hlength hitems =>
    obtain ⟨u, hu, hequal⟩ := List.any_eq_true.mp hany
    obtain ⟨i, hi⟩ := List.getElem?_of_mem hu
    obtain ⟨w, hw, hre⟩ := exists_item (.arr hlength hitems) hi
    exact List.any_eq_true.mpr ⟨w, List.mem_of_getElem? hw, hre.equal_right (hs.item hu) v ▸ hequal⟩

end Json.Reordered

/-- **The tests of draft-07 do not see the order of members.** -/
theorem BuiltinTest.orderBlind {fails : Json → Json → Bool} (h : BuiltinTest fails) : OrderBlind fails := by
  cases h with
  | limit c =>
    refine ⟨fun v _ h => ?_, fun a v w _ h => ?_⟩
    · unfold Comparison.failsOn
      rw [h.double?_eq]
    · unfold Comparison.failsOn
      rw [h.double?_eq]
  | multipleOf =>
    refine ⟨fun v _ h => ?_, fun a v w _ h => ?_⟩
    · unfold isMultipleOf
      rw [h.double?_eq, h.int64?_eq]
    · unfold isMultipleOf
      rw [h.double?_eq, h.int64?_eq]
  | maximumSize m =>
    refine ⟨fun v _ h => ?_, fun a v w _ h => ?_⟩
    · unfold Measure.exceeds
      rw [h.size?_eq]
    · unfold Measure.exceeds
      rw [h.double?_eq]
  | minimumSize m =>
    refine ⟨fun v _ h => ?_, fun a v w _ h => ?_⟩
    · unfold Measure.fallsShortOf
      rw [h.size?_eq]
    · unfold Measure.fallsShortOf
      rw [h.double?_eq]
  | pattern r => exact ⟨fun v _ h => by rw [h.str?_eq], fun _ _ _ _ _ => rfl⟩
  | givenPattern => exact ⟨fun v _ h => by rw [h.str?_eq], fun _ _ _ _ h => by rw [h.str?_eq]⟩
  | format f => exact ⟨fun v _ h => by rw [h.format_eq], fun _ _ _ _ _ => rfl⟩
  | uniqueItems =>
    exact ⟨fun v hs h => by rw [h.lastDuplicate?_eq hs], fun _ _ _ _ h => by rw [h.bool?_eq]⟩
  | constant => exact ⟨fun v _ h => by rw [h.equal_left], fun a _ _ hs h => by rw [h.equal_right hs]⟩
  | enumeration =>
    refine ⟨fun v _ h => ?_, fun a v w hs h => ?_⟩
    · have heq : ∀ u : Json, _ := h.equal_left
      simp only [heq]
    · refine congrArg (!·) (Bool.eq_iff_iff.mpr ⟨h.any_equal_of_any_equal hs, ?_⟩)
      exact h.symm.any_equal_of_any_equal (h.sound hs)
  | missing name => exact ⟨fun v hs h => h.lacks_eq hs name, fun _ _ _ _ _ => rfl⟩
  | overlong count =>
    refine ⟨fun v _ h => ?_, fun _ _ _ _ _ => rfl⟩
    cases h with
    | arr hlength _ => simp [Json.arr?, hlength]
    | _ => rfl

/-! ## Locations -/

/-- The same place in data with its members in another order. -/
inductive Location.Reordered : Location → Location → Prop where
  | root {v w : Json} : v.Sound → v.Reordered w → Reordered (.root v) (.root w)
  | child {l l' : Location} {step : Step} {v w : Json} : Reordered l l' → v.Sound → v.Reordered w →
      Reordered (.child l step v) (.child l' step w)

namespace Location.Reordered

variable {l l' : Location}

theorem symm (h : l.Reordered l') : l'.Reordered l := by
  induction h with
  | root hs h => exact .root (h.sound hs) h.symm
  | child _ hs h ih => exact .child ih (h.sound hs) h.symm

theorem sound (h : l.Reordered l') : l.value.Sound := by
  cases h with
  | root hs _ => exact hs
  | child _ hs _ => exact hs

theorem value (h : l.Reordered l') : l.value.Reordered l'.value := by
  cases h with
  | root _ h => exact h
  | child _ _ h => exact h

theorem withValue (h : l.Reordered l') (text : String) :
    (l.withValue (.str text)).Reordered (l'.withValue (.str text)) := by
  cases h with
  | root _ _ => exact .root (.leaf rfl rfl) (.leaf rfl rfl)
  | child h _ _ => exact .child h (.leaf rfl rfl) (.leaf rfl rfl)

theorem rootValue (h : l.Reordered l') : l.rootValue.Sound ∧ l.rootValue.Reordered l'.rootValue := by
  induction h with
  | root hs h => exact ⟨hs, h⟩
  | child _ _ _ ih => exact ih

theorem lastStep?_eq (h : l.Reordered l') : l.lastStep? = l'.lastStep? := by cases h <;> rfl

theorem ancestor? (h : l.Reordered l') : ∀ {up : Nat} {a : Location}, l.ancestor? up = some a →
    ∃ a', l'.ancestor? up = some a' ∧ a.Reordered a' := by
  induction h with
  | root hs h =>
    rintro (_ | up) a ha
    · cases ha
      exact ⟨_, rfl, .root hs h⟩
    · cases ha
  | child hparent hs h ih =>
    rintro (_ | up) a ha
    · cases ha
      exact ⟨_, rfl, .child hparent hs h⟩
    · exact ih ha

/-- A reference has values that differ in the order of members only. -/
theorem resolve? (h : l.Reordered l') {r : DataRef} {v : Json} (hv : r.resolve? l = some v) :
    ∃ w, r.resolve? l' = some w ∧ v.Sound ∧ v.Reordered w := by
  unfold DataRef.resolve? at hv ⊢
  split at hv
  · obtain ⟨hs, hre⟩ := h.rootValue
    obtain ⟨w, hw, hvw⟩ := hre.follow hs hv
    exact ⟨w, hw, hs.follow hv, hvw⟩
  · obtain ⟨a, ha, hv⟩ := Option.bind_eq_some_iff.mp hv
    obtain ⟨a', ha', haa⟩ := h.ancestor? ha
    obtain ⟨w, hw, hvw⟩ := haa.value.follow haa.sound hv
    exact ⟨w, by rw [ha', Option.bind_some, hw], haa.sound.follow hv, hvw⟩
  · obtain ⟨a, ha, hv⟩ := Option.bind_eq_some_iff.mp hv
    obtain ⟨a', ha', haa⟩ := h.ancestor? ha
    obtain ⟨step, hstep, hv⟩ := Option.bind_eq_some_iff.mp hv
    have hleaf : v.Sound ∧ v.Reordered v := by
      split at hv <;>
      · cases hv
        exact ⟨.leaf rfl rfl, .leaf rfl rfl⟩
    exact ⟨v, by rw [ha']; simpa [← haa.lastStep?_eq, hstep] using hv, hleaf⟩

end Location.Reordered

theorem Location.mem_elements_of_getElem? {l : Location} {vs : List Json} {i start : Nat} {v : Json}
    (h : vs[i]? = some v) : .child l (.index (start + i)) v ∈ l.elements start vs := by
  induction vs generalizing start i with
  | nil => cases h
  | cons first rest ih =>
    cases i with
    | zero =>
      cases h
      exact List.mem_cons_self
    | succ i =>
      rw [Nat.add_comm i, ← Nat.add_assoc]
      exact List.mem_cons_of_mem _ (ih h)

/-! ## Nodes -/

theorem Run.Concur.of_decides {r r' : Run} {P Q : Prop} (h : r.Decides P) (h' : r'.Decides Q) (hiff : P ↔ Q) :
    r.Concur r' := by
  rintro ok ok' ⟨errors, after, hr⟩ ⟨errors', after', hr'⟩
  obtain ⟨valid, _, hvalid, hP⟩ := h errors
  obtain ⟨valid', _, hvalid', hQ⟩ := h' errors'
  obtain ⟨rfl, -⟩ := Prod.mk.inj (Option.some.inj (hr.symm.trans hvalid))
  obtain ⟨rfl, -⟩ := Prod.mk.inj (Option.some.inj (hr'.symm.trans hvalid'))
  exact Bool.eq_iff_iff.mpr (hP.trans (hiff.trans hQ.symm))

namespace Node

variable {l l' : Location}

theorem check_concur {c : Check} (hblind : OrderBlind c.fails) (h : l.Reordered l') :
    (c.run l).Concur (c.run l') := by
  refine .of_decides (check_decides c l) (check_decides c l') ?_
  cases c.value with
  | literal v => simp only [hblind.data v h.sound h.value]
  | data r =>
    have hone : ∀ {l l' : Location}, l.Reordered l' →
        (∀ v, r.resolve? l = some v → DataType.anyAccepts c.expects v = true ∧ c.fails l.value v = false) →
        ∀ v, r.resolve? l' = some v →
          DataType.anyAccepts c.expects v = true ∧ c.fails l'.value v = false := by
      intro l l' h hpasses w hw
      obtain ⟨v, hv, hs, hwv⟩ := h.symm.resolve? hw
      obtain ⟨htype, hfails⟩ := hpasses v hv
      rw [hwv.anyAccepts_eq, ← hblind.data w h.sound h.value, hblind.value _ hs hwv]
      exact ⟨htype, hfails⟩
    exact ⟨hone h, hone h.symm⟩

theorem exists_element (h : l.Reordered l') {start : Nat} {e : Location} (he : e ∈ elementsFrom l start) :
    ∃ e' ∈ elementsFrom l' start, e.Reordered e' := by
  have hvalue := h.value
  have hsound := h.sound
  unfold elementsFrom at he ⊢
  split at he
  · next vs hl =>
    rw [hl] at hvalue hsound
    obtain ⟨i, v, hv, rfl⟩ := Location.mem_elements he
    rw [List.getElem?_drop] at hv
    obtain ⟨ws, hl'⟩ := hvalue.eq_arr
    rw [hl'] at hvalue ⊢
    obtain ⟨w, hw, hvw⟩ := hvalue.exists_item hv
    rw [← List.getElem?_drop] at hw
    exact ⟨_, Location.mem_elements_of_getElem? hw, .child h (hsound.item (List.mem_of_getElem? hv)) hvw⟩
  · exact absurd he List.not_mem_nil

theorem exists_selected (h : l.Reordered l') {filter : PropertyFilter} {m : String × Location}
    (hm : m ∈ l.selected filter) : ∃ m' ∈ l'.selected filter, m.2.Reordered m'.2 := by
  have hvalue := h.value
  have hsound := h.sound
  unfold Location.selected at hm ⊢
  split at hm
  · next ms hl =>
    rw [hl] at hvalue hsound
    obtain ⟨member, hmember, rfl⟩ := List.mem_map.mp hm
    obtain ⟨hmem, hselects⟩ := List.mem_filter.mp hmember
    obtain ⟨ns, hl'⟩ := hvalue.eq_obj
    rw [hl'] at hvalue ⊢
    obtain ⟨other, hother, hname, hre⟩ := hvalue.exists_member hmem
    refine ⟨_, List.mem_map_of_mem (List.mem_filter.mpr ⟨hother, hname ▸ hselects⟩), ?_⟩
    rw [hname]
    exact .child h (hsound.member hmem) hre
  · exact absurd hm List.not_mem_nil

theorem exists_name (h : l.Reordered l') {name : Location} (hname : name ∈ namesOf l) :
    ∃ name' ∈ namesOf l', name.Reordered name' := by
  have hvalue := h.value
  unfold namesOf at hname ⊢
  split at hname
  · next ms hl =>
    rw [hl] at hvalue
    obtain ⟨m, hm, rfl⟩ := List.mem_map.mp hname
    obtain ⟨ns, hl'⟩ := hvalue.eq_obj
    rw [hl'] at hvalue ⊢
    obtain ⟨n, hn, heq, -⟩ := hvalue.exists_member hm
    exact ⟨_, List.mem_map_of_mem hn, heq ▸ h.withValue m.1⟩
  · exact absurd hname List.not_mem_nil

/-- Where the locations of one list have reordered ones in the other, the runs there concur. -/
theorem concurAll_of_reordered {xs ys : List Location} {f g : Location → Run}
    (hxs : ∀ x ∈ xs, ∃ y ∈ ys, x.Reordered y) (hys : ∀ y ∈ ys, ∃ x ∈ xs, y.Reordered x)
    (hrun : ∀ {x y : Location}, x.Reordered y → (f x).Concur (g y)) :
    Run.ConcurAll (xs.map f) (ys.map g) := by
  refine .map (fun x hx => ?_) fun y hy => ?_
  · obtain ⟨y, hy, hxy⟩ := hxs x hx
    exact ⟨y, hy, hrun hxy⟩
  · obtain ⟨x, hx, hyx⟩ := hys y hy
    exact ⟨x, hx, hrun hyx.symm⟩

/-- **A node with draft-07's tests gives no other verdict on data with its members in another order.** -/
theorem run_concur {call call' : Nat → Location → Run} {m m' : Bool}
    (hcalls : ∀ i {l l'}, l.Reordered l' → (call i l).Concur (call' i l')) (n : Node)
    (hn : n.Each TestsAsBuiltin) :
    ∀ {l l' : Location}, l.Reordered l' → (n.run call m l).Concur (n.run call' m' l') := by
  induction n using Node.induct with
  | pass => exact fun _ => .done true
  | reject site => exact fun _ => .reject
  | all nodes ih =>
    intro l l' h
    rw [run_all, run_all]
    have hnode : ∀ n ∈ nodes, (n.run call m l).Concur (n.run call' m' l') := fun n hmem =>
      ih n hmem (hn.part (List.mem_map_of_mem hmem)) h
    exact .every (.map (fun n hmem => ⟨n, hmem, hnode n hmem⟩) fun n hmem => ⟨n, hmem, hnode n hmem⟩)
  | guard group body ih =>
    intro l l' h
    rw [run_guard, run_guard, h.value.accepts_eq]
    split
    · exact ih (hn.part List.mem_cons_self) h
    · exact .done true
  | type types site =>
    intro l l' h
    have heq : ∀ type : DataType, type.accepts l.value = type.accepts l'.value := h.value.accepts_eq
    rw [run_type, run_type]
    simp only [heq]
    split
    · exact .done true
    · exact .reject
  | check c => exact fun h => check_concur (hn.holds c rfl).orderBlind h
  | call i => exact fun h => hcalls i h
  | descend step body ih =>
    intro l l' h
    have hbody : body.Each TestsAsBuiltin := hn.part List.mem_cons_self
    rw [run_descend, run_descend]
    cases hv : step.child? l.value with
    | some v =>
      obtain ⟨w, hw, hvw⟩ := h.value.step h.sound hv
      rw [hw]
      exact ih hbody (.child h (h.sound.child (Step.child?_token h.sound hv)) hvw)
    | none =>
      cases hw : step.child? l'.value with
      | some w =>
        obtain ⟨v, hv', -⟩ := h.symm.value.step h.symm.sound hw
        rw [hv] at hv'
        cases hv'
      | none => exact .done true
  | items start body ih =>
    intro l l' h
    rw [run_items, run_items]
    exact .every (concurAll_of_reordered (fun _ => exists_element h) (fun _ => exists_element h.symm)
      (ih (hn.part List.mem_cons_self)))
  | properties filter body ih =>
    intro l l' h
    rw [run_properties, run_properties]
    have hbody : ∀ {x y : Location}, x.Reordered y → (body.run call m x).Concur (body.run call' m' y) :=
      ih (hn.part List.mem_cons_self)
    refine .every (.map (fun m hm => ?_) fun m' hm' => ?_)
    · obtain ⟨m', hm', hre⟩ := exists_selected h hm
      exact ⟨m', hm', hbody hre⟩
    · obtain ⟨m, hm, hre⟩ := exists_selected h.symm hm'
      exact ⟨m, hm, hbody hre.symm⟩
  | noProperties filter site =>
    intro l l' h
    rw [run_noProperties, run_noProperties]
    refine .every (.map (fun m hm => ?_) fun m' hm' => ?_)
    · obtain ⟨m', hm', -⟩ := exists_selected h hm
      exact ⟨m', hm', .reject⟩
    · obtain ⟨m, hm, -⟩ := exists_selected h.symm hm'
      exact ⟨m, hm, .reject⟩
  | propertyNames body site ih =>
    intro l l' h
    rw [run_propertyNames, run_propertyNames]
    exact .every (concurAll_of_reordered (fun _ => exists_name h) (fun _ => exists_name h.symm)
      fun hre => .noting (ih (hn.part List.mem_cons_self) hre))
  | ifPresent name body ih =>
    intro l l' h
    rw [run_ifPresent, run_ifPresent, h.value.get?_isSome_eq h.sound]
    split
    · exact ih (hn.part List.mem_cons_self) h
    · exact .done true
  | contains body site ih =>
    intro l l' h
    rw [run_contains, run_contains, h.value.arr?_isSome_eq]
    split
    · exact .someOf (concurAll_of_reordered (fun _ => exists_element h) (fun _ => exists_element h.symm)
        (ih (hn.part List.mem_cons_self)))
    · exact .done true
  | anyOf branches site ih =>
    intro l l' h
    rw [run_anyOf, run_anyOf]
    have hbranch : ∀ n ∈ branches, (n.run call m l).Concur (n.run call' m' l') := fun n hmem =>
      ih n hmem (hn.part (List.mem_map_of_mem hmem)) h
    exact .anyOf (.map (fun n hmem => ⟨n, hmem, hbranch n hmem⟩) fun n hmem => ⟨n, hmem, hbranch n hmem⟩)
  | oneOf branches site ih =>
    intro l l' h
    rw [run_oneOf, run_oneOf]
    exact .oneOf (forall₂_map fun n hmem => ih n hmem (hn.part (List.mem_map_of_mem hmem)) h)
  | not body site ih =>
    intro l l' h
    rw [run_not, run_not]
    exact .negate (ih (hn.part List.mem_cons_self) h)
  | ifThenElse condition thenBranch elseBranch site ihc iht ihe =>
    intro l l' h
    rw [run_ifThenElse, run_ifThenElse]
    have hc : condition.Each TestsAsBuiltin := hn.part List.mem_cons_self
    have ht : thenBranch.Each TestsAsBuiltin := hn.part (List.mem_cons_of_mem _ List.mem_cons_self)
    have he : elseBranch.Each TestsAsBuiltin :=
      hn.part (List.mem_cons_of_mem _ (List.mem_cons_of_mem _ List.mem_cons_self))
    exact .branch (ihc hc h) (.noting (iht ht h)) (.noting (ihe he h))

end Node

/-! ## Programs -/

/-- The calls of a program with draft-07's tests concur at reordered locations, whatever their budgets. -/
theorem Program.call_concur {p : Program} (hbodies : ∀ body ∈ p.procedures, body.Each Node.TestsAsBuiltin)
    {m m' : Bool} : ∀ budget budget' i {l l' : Location}, l.Reordered l' →
      (p.call m budget i l).Concur (p.call m' budget' i l') := by
  intro budget
  induction budget with
  | zero =>
    intro budget' i l l' _ ok ok' hok
    rw [call] at hok
    exact absurd hok Run.not_says_stuck
  | succ budget ih =>
    rintro (_ | budget') i l l' h
    · intro ok ok' _ hok'
      rw [call] at hok'
      exact absurd hok' Run.not_says_stuck
    · rw [call, call]
      cases hbody : p.procedures[i]? with
      | none => exact .done true
      | some body => exact body.run_concur (ih budget') (hbodies body (List.mem_of_getElem? hbody)) h

/-- **A program with draft-07's tests gives one verdict on data in all orders of its members**, wherever
    it comes to one, in whatever modes. -/
theorem Program.run_concur {p : Program} (hroot : p.root.Each Node.TestsAsBuiltin)
    (hbodies : ∀ body ∈ p.procedures, body.Each Node.TestsAsBuiltin) {data data' : Json}
    (hsound : data.Sound) (h : data.Reordered data') {m m' ok ok' : Bool} {errors errors' : List Violation}
    (hrun : p.run m data = some (ok, errors)) (hrun' : p.run m' data' = some (ok', errors')) : ok = ok' := by
  have hconcur : (p.root.run (p.call m (p.callBudget data)) m (.root data)).Concur
      (p.root.run (p.call m' (p.callBudget data')) m' (.root data')) :=
    p.root.run_concur (call_concur hbodies _ _) hroot (.root hsound h)
  exact hconcur _ _ ⟨_, _, hrun⟩ ⟨_, _, hrun'⟩

end JsonSchema
