import JsonSchema.Json.Reader
import JsonSchema.Proofs.Json.Pointers
import Mathlib.Data.List.Nodup

/-!
# What is read is sound

Reading keeps one member a name, since a name that comes again replaces the value in place; and each element
takes a step of the reader's budget, so that a text of fewer than `2 ^ 64` characters holds no longer array
(`Json.parse?_sound`).
-/

set_option autoImplicit false

namespace JsonSchema

namespace Json

/-! ## Members that are set -/

variable {members : List (String × Json)} {name : String} {value : Json}

/-- Setting a member keeps the names, or adds one that was not there. -/
theorem map_fst_setMember (members : List (String × Json)) (name : String) (value : Json) :
    (setMember members name value).map Prod.fst = members.map Prod.fst ∨
      (name ∉ members.map Prod.fst ∧
        (setMember members name value).map Prod.fst = members.map Prod.fst ++ [name]) := by
  unfold setMember
  split
  · refine .inl ?_
    rw [List.map_map]
    refine List.map_congr_left fun m _ => ?_
    show (if m.1 == name then (name, value) else m).1 = m.1
    split
    · next heq => exact (beq_iff_eq.mp heq).symm
    · rfl
  · next hnone =>
    refine .inr ⟨fun hmem => hnone ?_, by rw [List.map_append]; rfl⟩
    obtain ⟨m, hm, rfl⟩ := List.mem_map.mp hmem
    exact List.any_eq_true.mpr ⟨m, hm, beq_self_eq_true _⟩

theorem mem_setMember {m : String × Json} (h : m ∈ setMember members name value) :
    m ∈ members ∨ m = (name, value) := by
  unfold setMember at h
  split at h
  · obtain ⟨m', hm', rfl⟩ := List.mem_map.mp h
    split
    · exact .inr rfl
    · exact .inl hm'
  · rcases List.mem_append.mp h with h | h
    · exact .inl h
    · exact .inr (List.mem_singleton.mp h)

/-- **Setting a member of an object keeps it sound.** -/
theorem Sound.setMember (h : (Json.obj members).Sound) (hvalue : value.Sound) :
    (Json.obj (setMember members name value)).Sound := by
  refine .obj ?_ fun m hm => ?_
  · rcases map_fst_setMember members name value with heq | ⟨hnew, heq⟩
    · rw [heq]
      exact h.nodup
    · rw [heq, List.nodup_append]
      refine ⟨h.nodup, List.nodup_singleton _, fun other hother same hsame => ?_⟩
      rintro rfl
      exact hnew (List.mem_singleton.mp hsame ▸ hother)
  · rcases mem_setMember hm with hm | rfl
    · exact h.member hm
    · exact hvalue

/-! ## The reader -/

/-- What the readers give with a budget is sound if what they start from is, and if the budget cannot bring
    an array over the bound. -/
structure ReadsSound (budget : Nat) : Prop where
  value : ∀ {depth cs v rest}, readValue budget depth cs = some (v, rest) → budget < UInt64.size → v.Sound
  items : ∀ {depth done cs v rest}, readItems budget depth done cs = some (v, rest) →
    (∀ w ∈ done, w.Sound) → done.length + budget < UInt64.size → v.Sound
  members : ∀ {depth done cs v rest}, readMembers budget depth done cs = some (v, rest) →
    (Json.obj done).Sound → budget < UInt64.size → v.Sound

theorem ReadsSound.succ {budget : Nat} (ih : ReadsSound budget) : ReadsSound (budget + 1) where
  value {depth cs v rest} h hbound := by
    have hbudget : budget < UInt64.size := Nat.lt_of_succ_lt hbound
    simp only [readValue] at h
    split at h
    iterate 3
      · cases h
        exact .leaf rfl rfl
    · obtain ⟨_, -, heq⟩ := Option.map_eq_some_iff.mp h
      cases heq
      exact .leaf rfl rfl
    · split at h
      · cases h
      · split at h
        · cases h
          exact .arr (by decide) fun _ hw => absurd hw List.not_mem_nil
        · refine ih.items h (fun _ hw => absurd hw List.not_mem_nil) ?_
          rwa [List.length_nil, Nat.zero_add]
    · split at h
      · cases h
      · have hempty : (Json.obj []).Sound := .obj List.nodup_nil fun _ hm => absurd hm List.not_mem_nil
        split at h
        · cases h
          exact hempty
        · exact ih.members h hempty hbudget
    · obtain ⟨_, -, heq⟩ := Option.map_eq_some_iff.mp h
      cases heq
      exact .leaf rfl rfl
  items {depth done cs v rest} h hdone hbound := by
    simp only [readItems] at h
    split at h
    · cases h
    · next w _ hw =>
      have hall : ∀ x ∈ w :: done, x.Sound :=
        List.forall_mem_cons.mpr ⟨ih.value hw (by omega), hdone⟩
      split at h
      · exact ih.items h hall (by rw [List.length_cons]; omega)
      · cases h
        refine .arr ?_ fun x hx => hall x (List.mem_reverse.mp hx)
        rw [List.length_reverse, List.length_cons]
        omega
      · cases h
  members {depth done cs v rest} h hdone hbound := by
    have hbudget : budget < UInt64.size := Nat.lt_of_succ_lt hbound
    simp only [readMembers] at h
    split at h
    · split at h
      · cases h
      · split at h
        · split at h
          · cases h
          · next w _ hw =>
            have hsound : w.Sound := ih.value hw hbudget
            split at h
            · exact ih.members h (hdone.setMember hsound) hbudget
            · cases h
              exact hdone.setMember hsound
            · cases h
        · cases h
    · cases h

/-- By induction on the budget, one step of which each element and each member takes. -/
theorem readsSound (budget : Nat) : ReadsSound budget := by
  induction budget with
  | zero =>
    refine ⟨fun h => ?_, fun h => ?_, fun h => ?_⟩
    · rw [readValue] at h
      cases h
    · rw [readItems] at h
      cases h
    · rw [readMembers] at h
      cases h
  | succ budget ih => exact ih.succ

/-- **The value that a text holds is sound**, unless the text is too long for any memory. -/
theorem parse?_sound {text : String} {v : Json} (h : parse? text = some v)
    (hlength : text.length + 1 < UInt64.size) : v.Sound := by
  unfold parse? at h
  dsimp only at h
  split at h
  · next w rest hread =>
    split at h
    · cases h
      exact (readsSound _).value hread (by rwa [String.length_toList])
    · cases h
  · cases h

end Json

end JsonSchema
