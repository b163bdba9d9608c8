import JsonSchema.Program.DataRef
import JsonSchema.Proofs.Evaluation.DataPaths

/-!
# References relative to a place

A place in the data keeps the steps that lead to it from the root.  The place a number of steps up is the one
that the steps lead to without as many of the last ones (`Location.PlaceIn.ancestor?_eq_some`).  So **what a
relative reference has for its value is told by the steps alone**: from the root it is what the first steps and
then its tokens lead to, or the last of the first steps itself (`relative_reference_value`).
-/

set_option autoImplicit false

namespace JsonSchema

/-! ## Steps from the root -/

/-- What steps lead to, one after another. -/
def Json.descend? (v : Json) : List Step → Option Json
  | [] => some v
  | step :: rest => (step.child? v).bind (Json.descend? · rest)

theorem Json.descend?_concat (v : Json) (steps : List Step) (step : Step) :
    v.descend? (steps ++ [step]) = (v.descend? steps).bind step.child? := by
  induction steps generalizing v with
  | nil =>
    rw [List.nil_append, descend?, descend?, Option.bind_some]
    exact Option.bind_fun_some _
  | cons first rest ih =>
    rw [List.cons_append, descend?, descend?, Option.bind_assoc]
    exact congrArg _ (funext fun u => ih u)

/-- What a place says of itself: its name, or its number as an integer. -/
def Step.label : Step → Json
  | key name => .str name
  | index i => .num (.ofNat i)

/-- The number of an element is said exactly, since there are fewer than `2 ^ 64`. -/
theorem Step.label_index {i : Nat} (h : i < UInt64.size) :
    ∃ hword, (Step.index i).label = .num (.int i hword) := by
  have hsize : UInt64.size = 18446744073709551616 := rfl
  refine ⟨⟨by omega, by omega⟩, ?_⟩
  rw [label, Number.ofNat]
  congr 2
  omega

namespace Location

variable {data : Json} {l : Location}

theorem lastStep?_eq (l : Location) : l.lastStep? = l.steps.getLast? := by
  cases l with
  | root => rfl
  | child parent step v => exact List.getLast?_concat.symm

theorem length_steps_child (parent : Location) (step : Step) (v : Json) :
    (child parent step v).steps.length = parent.steps.length + 1 := by
  rw [steps, List.length_append, List.length_singleton]

/-- The steps to a place lead to its value. -/
theorem PlaceIn.descend (h : l.PlaceIn data) : data.descend? l.steps = some l.value := by
  induction h with
  | root => rfl
  | child _ hstep ih =>
    rw [steps, Json.descend?_concat, ih]
    exact hstep

/-- **The place a number of steps up** is where the steps lead without as many of the last. -/
theorem PlaceIn.ancestor?_eq_some (h : l.PlaceIn data) {n : Nat} (hn : n ≤ l.steps.length) :
    ∃ a, l.ancestor? n = some a ∧ a.PlaceIn data ∧ a.steps = l.steps.take (l.steps.length - n) := by
  induction n generalizing l with
  | zero => exact ⟨l, by cases l <;> rfl, h, by rw [Nat.sub_zero, List.take_length]⟩
  | succ n ih =>
    cases h with
    | root => exact absurd hn (Nat.not_succ_le_zero n)
    | @child parent step v hparent _ =>
      rw [length_steps_child] at hn
      obtain ⟨a, ha, hplace, hsteps⟩ := ih hparent (Nat.le_of_succ_le_succ hn)
      refine ⟨a, ha, hplace, ?_⟩
      rw [hsteps, length_steps_child, Nat.add_sub_add_right, steps, List.take_append_of_le_length (Nat.sub_le _ _)]

/-- There is no place further up than the root. -/
theorem ancestor?_eq_none {n : Nat} (hn : l.steps.length < n) : l.ancestor? n = none := by
  induction n generalizing l with
  | zero => exact absurd hn (Nat.not_lt_zero _)
  | succ n ih =>
    cases l with
    | root => rfl
    | child parent step v =>
      rw [length_steps_child] at hn
      exact ih (Nat.lt_of_succ_lt_succ hn)

/-- The elements on the way are of arrays with fewer than `2 ^ 64`. -/
theorem PlaceIn.index_lt (hdata : data.Sound) (h : l.PlaceIn data) {i : Nat} (hi : Step.index i ∈ l.steps) :
    i < UInt64.size := by
  induction h with
  | root => exact absurd hi List.not_mem_nil
  | @child parent step v hparent hstep ih =>
    rw [steps, List.mem_append, List.mem_singleton] at hi
    rcases hi with hi | rfl
    · exact ih hi
    · have hsound := hparent.sound hdata
      unfold Step.child? Json.item? at hstep
      dsimp only at hstep
      split at hstep
      · next items hitems =>
        rw [hitems] at hsound
        exact Nat.lt_trans (List.getElem?_eq_some_iff.mp hstep).1 hsound.length_lt
      · cases hstep

end Location

/-! ## What relative references have for values -/

/-- **The value of a relative reference is told by the steps to the place.**  From the root it is what all but the
    last `n` of them and then the tokens lead to; with a hash it is the last of these steps, a name as a text and
    a number as an integer.  There is none if there are not so many steps, or if they or the tokens lead
    nowhere. -/
theorem relative_reference_value {document : Json} {l : Location} (h : l.PlaceIn document) (pointer : String)
    (n : Nat) :
    (∀ tokens w, (DataRef.mk pointer (.relative n tokens)).resolve? l = some w ↔
      n ≤ l.steps.length ∧ ∃ v, document.descend? (l.steps.take (l.steps.length - n)) = some v ∧
        Pointer.follow? v tokens = some w) ∧
      (∀ w, (DataRef.mk pointer (.position n)).resolve? l = some w ↔
        n ≤ l.steps.length ∧ ∃ step, (l.steps.take (l.steps.length - n)).getLast? = some step ∧ w = step.label) ∧
      (document.Sound → ∀ i, Step.index i ∈ l.steps → ∃ hword, (Step.index i).label = .num (.int i hword)) := by
  refine ⟨fun tokens w => ?_, fun w => ?_, fun hdocument i hi => Step.label_index (h.index_lt hdocument hi)⟩
  · have hresolve : (DataRef.mk pointer (.relative n tokens)).resolve? l =
        (l.ancestor? n).bind fun a => Pointer.follow? a.value tokens := rfl
    rw [hresolve]
    by_cases hn : n ≤ l.steps.length
    · obtain ⟨a, ha, hplace, hsteps⟩ := h.ancestor?_eq_some hn
      rw [ha, ← hsteps, hplace.descend]
      simp [hn]
    · rw [Location.ancestor?_eq_none (Nat.lt_of_not_le hn)]
      simp [hn]
  · have hresolve : (DataRef.mk pointer (.position n)).resolve? l =
        (l.ancestor? n).bind fun a => a.lastStep?.map Step.label := by
      unfold DataRef.resolve?
      dsimp only
      cases l.ancestor? n with
      | none => rfl
      | some a =>
        cases hstep : a.lastStep? with
        | none => simp [hstep]
        | some step => cases step <;> simp [hstep, Step.label]
    rw [hresolve]
    by_cases hn : n ≤ l.steps.length
    · obtain ⟨a, ha, -, hsteps⟩ := h.ancestor?_eq_some hn
      rw [ha, ← hsteps, Option.bind_some, a.lastStep?_eq, Option.map_eq_some_iff]
      simp [hn, eq_comm]
    · rw [Location.ancestor?_eq_none (Nat.lt_of_not_le hn)]
      simp [hn]

/-- The price of the second of two things, with the least price beside them. -/
def pricedThings : Json :=
  .obj [("least", (5 : Nat)), ("things", .arr [.null, .obj [("price", (4 : Nat))]])]

def secondPrice : Location :=
  .child (.child (.child (.root pricedThings) (.key "things") (.arr [.null, .obj [("price", (4 : Nat))]])) (.index 1)
    (.obj [("price", (4 : Nat))])) (.key "price") (4 : Nat)

/-- Three steps up is the root, one step up is a number, and there is nothing four steps up. -/
theorem secondPrice_references : secondPrice.PlaceIn pricedThings ∧
    (DataRef.mk "3/least" (.relative 3 ["least"])).resolve? secondPrice = some (5 : Nat) ∧
    (DataRef.mk "1#" (.position 1)).resolve? secondPrice = some (Step.index 1).label ∧
    ∀ w, (DataRef.mk "4" (.relative 4 [])).resolve? secondPrice ≠ some w := by
  have hplace : secondPrice.PlaceIn pricedThings := .child (.child (.child .root rfl) rfl) rfl
  refine ⟨hplace, ?_, ?_, fun w h => ?_⟩
  · exact ((relative_reference_value hplace "3/least" 3).1 ["least"] _).mpr ⟨by decide, pricedThings, rfl, rfl⟩
  · exact ((relative_reference_value hplace "1#" 1).2.1 _).mpr ⟨by decide, .index 1, rfl, rfl⟩
  · exact absurd (((relative_reference_value hplace "4" 4).1 [] w).mp h).1 (by decide)

end JsonSchema
