import JsonSchema.Regex.Matching
import Mathlib.Data.Nat.Bitwise

/-!
# What matching finds

An expression describes stretches of a text (`Regex.Describes`), whatever way there is to find them.  A plan
finds them all at once: **from a set of positions it leads to just those where a stretch ends that is described
and starts in the set** (`Regex.follows`), and so an expression matches a text if and only if it describes a
stretch of it (`Regex.isMatch_iff`).

A repetition is searched through in rounds, each from the positions that the last one found
(`Search`).  It may end early: a stretch never ends before its start, so that among the rounds those count
only that get on, and of these there are no more than characters.
-/

set_option autoImplicit false

namespace JsonSchema

/-! ## Repeated steps -/

/-- A number of steps, one after another. -/
inductive Repeated {α : Type} (R : α → α → Prop) : Nat → α → α → Prop where
  | none (a : α) : Repeated R 0 a a
  | step {n : Nat} {a b c : α} : R a b → Repeated R n b c → Repeated R (n + 1) a c

namespace Repeated

variable {α : Type} {R : α → α → Prop} {m n : Nat} {a b c : α}

theorem zero_iff : Repeated R 0 a b ↔ a = b :=
  ⟨fun h => by cases h; rfl, fun h => h ▸ none a⟩

theorem succ_iff : Repeated R (n + 1) a c ↔ ∃ b, R a b ∧ Repeated R n b c :=
  ⟨fun h => by cases h with | step first rest => exact ⟨_, first, rest⟩, fun ⟨_, first, rest⟩ => step first rest⟩

theorem append (front : Repeated R m a b) (back : Repeated R n b c) : Repeated R (m + n) a c := by
  induction front with
  | none => rwa [Nat.zero_add]
  | step first _ ih =>
    rw [Nat.add_right_comm]
    exact step first (ih back)

theorem split (h : Repeated R (m + n) a c) : ∃ b, Repeated R m a b ∧ Repeated R n b c := by
  induction m generalizing a with
  | zero => exact ⟨a, none a, by rwa [Nat.zero_add] at h⟩
  | succ m ih =>
    rw [Nat.add_right_comm] at h
    obtain ⟨b, first, rest⟩ := succ_iff.mp h
    obtain ⟨c', front, back⟩ := ih rest
    exact ⟨c', step first front, back⟩

/-- Steps that all keep within an order do so together. -/
theorem trans {T : α → α → Prop} (hrefl : ∀ a, T a a) (htrans : ∀ {a b c}, T a b → T b c → T a c)
    (hstep : ∀ {a b}, R a b → T a b) (h : Repeated R n a b) : T a b := by
  induction h with
  | none => exact hrefl _
  | step first _ ih => exact htrans (hstep first) ih

/-- Where steps never lead back, those that stay where they are can be left out. -/
theorem shorten {R : Nat → Nat → Prop} (hle : ∀ {i j}, R i j → i ≤ j) {n i j : Nat} (h : Repeated R n i j) :
    ∃ m, m ≤ n ∧ m ≤ j - i ∧ Repeated R m i j := by
  induction h with
  | none i => exact ⟨0, Nat.le_refl 0, Nat.zero_le _, none i⟩
  | @step n i k j first rest ih =>
    obtain ⟨m, hmn, hm, hrest⟩ := ih
    have hkj : k ≤ j := rest.trans Nat.le_refl Nat.le_trans hle
    rcases Nat.eq_or_lt_of_le (hle first) with rfl | hlt
    · exact ⟨m, by omega, hm, hrest⟩
    · exact ⟨m + 1, by omega, by omega, step first hrest⟩

end Repeated

/-! ## Sets of positions -/

theorem testBit_positionsOf (bits : List Bool) (i : Nat) :
    (positionsOf bits).testBit i = bits[i]?.getD false := by
  induction bits generalizing i with
  | nil => exact Nat.zero_testBit i
  | cons b rest ih =>
    have hcons : positionsOf (b :: rest) = Nat.bit b (positionsOf rest) := (Nat.bit_val b _).symm
    rw [hcons]
    cases i with
    | zero => exact Nat.testBit_bit_zero b _
    | succ i => rw [Nat.testBit_bit_succ, ih, List.getElem?_cons_succ]

/-- A map of position sets leads from each position on to those that a relation gives. -/
def Follows (f : Nat → Nat) (R : Nat → Nat → Prop) : Prop :=
  ∀ s j, (f s).testBit j = true ↔ ∃ i, s.testBit i = true ∧ R i j

namespace Follows

variable {f g : Nat → Nat} {R S : Nat → Nat → Prop}

theorem comp (hf : Follows f R) (hg : Follows g S) :
    Follows (fun s => g (f s)) fun i j => ∃ k, R i k ∧ S k j := fun s j => by
  rw [hg (f s) j]
  constructor
  · rintro ⟨k, hk, hkj⟩
    obtain ⟨i, hi, hik⟩ := (hf s k).mp hk
    exact ⟨i, hi, k, hik, hkj⟩
  · rintro ⟨i, hi, k, hik, hkj⟩
    exact ⟨k, (hf s k).mpr ⟨i, hi, hik⟩, hkj⟩

theorem union (hf : Follows f R) (hg : Follows g S) :
    Follows (fun s => f s ||| g s) fun i j => R i j ∨ S i j := fun s j => by
  rw [Nat.testBit_or, Bool.or_eq_true, hf s j, hg s j]
  simp only [and_or_left, exists_or]

theorem iterate_of_fixed {s : Nat} (h : f s = s) (n : Nat) : Plan.iterate f n s = s := by
  cases n with
  | zero => rfl
  | succ n => rw [Plan.iterate, if_pos h]

theorem iterate_succ (f : Nat → Nat) (n s : Nat) : Plan.iterate f (n + 1) s = Plan.iterate f n (f s) := by
  rw [Plan.iterate]
  split
  · next h => rw [h, iterate_of_fixed h n]
  · rfl

/-- Applying a map a number of times is taking as many steps. -/
theorem iterate (hf : Follows f R) (n : Nat) : Follows (Plan.iterate f n) (Repeated R n) := by
  induction n with
  | zero =>
    intro s j
    simp [Plan.iterate, Repeated.zero_iff]
  | succ n ih =>
    intro s j
    rw [iterate_succ, hf.comp ih s j]
    simp only [Repeated.succ_iff]

end Follows

/-! ## Searching in rounds -/

/-- The state of a search: what is on the edge is reached, and from what is reached and not on the edge no step
    leads to anything new. -/
structure Search (R : Nat → Nat → Prop) (reached edge : Nat) : Prop where
  edge_reached : ∀ i, edge.testBit i = true → reached.testBit i = true
  explored : ∀ i j, reached.testBit i = true → R i j → reached.testBit j = true ∨ edge.testBit i = true

namespace Search

variable {f : Nat → Nat} {R : Nat → Nat → Prop} {reached edge : Nat}

theorem start (s : Nat) : Search R s s := ⟨fun _ h => h, fun _ _ h _ => .inr h⟩

theorem testBit_fresh (reached found i : Nat) :
    ((reached ||| found) ^^^ reached).testBit i = (found.testBit i && !reached.testBit i) := by
  rw [Nat.testBit_xor, Nat.testBit_or]
  cases reached.testBit i <;> simp

/-- A round takes up what the edge leads to, and the edge is then what is new. -/
theorem round (hf : Follows f R) (h : Search R reached edge) :
    Search R (reached ||| f edge) ((reached ||| f edge) ^^^ reached) where
  edge_reached i hi := by
    rw [testBit_fresh, Bool.and_eq_true] at hi
    rw [Nat.testBit_or, hi.1, Bool.or_true]
  explored i j hi hij := by
    rw [Nat.testBit_or, Bool.or_eq_true] at hi
    rw [Nat.testBit_or, Bool.or_eq_true, testBit_fresh, Bool.and_eq_true, Bool.not_eq_true']
    cases hreached : reached.testBit i with
    | false => exact .inr ⟨hi.resolve_left (by simp [hreached]), rfl⟩
    | true =>
      rcases h.explored i j hreached hij with hj | hedge
      · exact .inl (.inl hj)
      · exact .inl (.inr ((hf edge j).mpr ⟨i, hedge, hij⟩))

/-- What is found in a number of rounds more: what is reached, and what at most so many steps lead to from the
    edge. -/
def Finds (R : Nat → Nat → Prop) (n reached edge j : Nat) : Prop :=
  reached.testBit j = true ∨ ∃ i m, m ≤ n ∧ edge.testBit i = true ∧ Repeated R m i j

theorem finds_zero (h : Search R reached edge) {j : Nat} :
    Finds R 0 reached edge j ↔ reached.testBit j = true := by
  refine ⟨?_, .inl⟩
  rintro (hj | ⟨i, m, hm, hi, hij⟩)
  · exact hj
  · obtain rfl := Nat.le_zero.mp hm
    exact Repeated.zero_iff.mp hij ▸ h.edge_reached i hi

theorem finds_edgeless {n j : Nat} : Finds R n reached 0 j ↔ reached.testBit j = true := by
  simp [Finds]

/-- Steps from what is reached lead to what is reached, or get to something new by which the rest is shorter. -/
theorem reached_or_fresh (hf : Follows f R) (h : Search R reached edge) {n i j : Nat}
    (hi : reached.testBit i = true) (hij : Repeated R n i j) :
    reached.testBit j = true ∨ ∃ k m, m < n ∧ ((reached ||| f edge) ^^^ reached).testBit k = true ∧
      Repeated R m k j := by
  induction hij with
  | none => exact .inl hi
  | @step n i k j first rest ih =>
    cases hk : reached.testBit k with
    | true =>
      rcases ih hk with hj | ⟨l, m, hm, hl, hlj⟩
      · exact .inl hj
      · exact .inr ⟨l, m, Nat.lt_succ_of_lt hm, hl, hlj⟩
    | false =>
      have hedge : edge.testBit i = true :=
        (h.explored i k hi first).resolve_left (by simp [hk])
      refine .inr ⟨k, n, Nat.lt_succ_self n, ?_, rest⟩
      rw [testBit_fresh, hk, (hf edge k).mpr ⟨i, hedge, first⟩]
      rfl

theorem finds_succ (hf : Follows f R) (h : Search R reached edge) {n j : Nat} :
    Finds R (n + 1) reached edge j ↔
      Finds R n (reached ||| f edge) ((reached ||| f edge) ^^^ reached) j := by
  rw [Finds, Finds, Nat.testBit_or, Bool.or_eq_true]
  constructor
  · rintro (hj | ⟨i, m, hm, hi, hij⟩)
    · exact .inl (.inl hj)
    · rcases h.reached_or_fresh hf (h.edge_reached i hi) hij with hj | ⟨k, l, hl, hk, hkj⟩
      · exact .inl (.inl hj)
      · exact .inr ⟨k, l, by omega, hk, hkj⟩
  · rintro ((hj | hj) | ⟨k, l, hl, hk, hkj⟩)
    · exact .inl hj
    · obtain ⟨i, hi, hij⟩ := (hf edge j).mp hj
      exact .inr ⟨i, 1, by omega, hi, .step hij (.none j)⟩
    · rw [testBit_fresh, Bool.and_eq_true] at hk
      obtain ⟨i, hi, hik⟩ := (hf edge k).mp hk.1
      exact .inr ⟨i, l + 1, by omega, hi, .step hik hkj⟩

/-- **A search of a number of rounds finds what so many steps lead to at most.** -/
theorem close (hf : Follows f R) (n : Nat) (h : Search R reached edge) (j : Nat) :
    (Plan.close f n reached edge).testBit j = true ↔ Finds R n reached edge j := by
  induction n generalizing reached edge with
  | zero => exact h.finds_zero.symm
  | succ n ih =>
    rw [h.finds_succ hf, Plan.close]
    split
    · next hnone => rw [hnone, finds_edgeless, Nat.xor_eq_zero_iff.mp hnone]
    · exact ih (h.round hf)

end Search

/-! ## What expressions describe -/

namespace Regex

/-- The character before a position. -/
def before? (text : List Char) : Nat → Option Char
  | 0 => none
  | i + 1 => text[i]?

/-- The stretch of a text from one position to another is one that an expression describes. -/
def Describes (text : List Char) : Regex → Nat → Nat → Prop
  | empty, i, j => i = j
  | chars set, i, j => (∃ c, text[i]? = some c ∧ set.contains c.toNat = true) ∧ j = i + 1
  | look a, i, j => (i ≤ text.length ∧ a.holds (before? text i) text[i]? = true) ∧ i = j
  | seq a b, i, j => ∃ k, a.Describes text i k ∧ b.Describes text k j
  | alt a b, i, j => a.Describes text i j ∨ b.Describes text i j
  | «repeat» body least most, i, j =>
    ∃ n, least ≤ n ∧ (∀ m ∈ most, n ≤ max least m) ∧ Repeated (body.Describes text) n i j

variable {text : List Char}

/-- The second position is not before the first, and if it is behind it, still within a text of `n` characters. -/
def Onward (n i j : Nat) : Prop :=
  i ≤ j ∧ (i < j → j ≤ n)

namespace Onward

variable {n i j k : Nat}

theorem refl (n i : Nat) : Onward n i i :=
  ⟨Nat.le_refl i, fun h => absurd h (Nat.lt_irrefl i)⟩

theorem trans (hij : Onward n i j) (hjk : Onward n j k) : Onward n i k := by
  unfold Onward at *
  omega

end Onward

theorem Describes.onward {r : Regex} {i j : Nat} (h : r.Describes text i j) : Onward text.length i j := by
  induction r generalizing i j with
  | empty => exact (show i = j from h) ▸ .refl _ i
  | chars set =>
    obtain ⟨⟨c, hc, -⟩, rfl⟩ := h
    exact ⟨Nat.le_succ i, fun _ => (List.getElem?_eq_some_iff.mp hc).1⟩
  | look a => exact h.2 ▸ .refl _ i
  | seq a b iha ihb =>
    obtain ⟨k, hik, hkj⟩ := h
    exact (iha hik).trans (ihb hkj)
  | alt a b iha ihb => exact h.elim iha ihb
  | «repeat» body least most ih =>
    obtain ⟨n, -, -, hn⟩ := h
    exact hn.trans (.refl _) .trans ih

/-- How often a search tries a repetition beyond the least number, in a text of `n` characters. -/
def rounds (n least : Nat) : Option Nat → Nat
  | some most => min (most - least) (n + 1)
  | none => n + 1

/-- As many rounds are enough, since a stretch that gets on ends at the end of the text at the latest. -/
theorem describes_repeat_iff {body : Regex} {least : Nat} {most : Option Nat} {i j : Nat} :
    («repeat» body least most).Describes text i j ↔
      ∃ k m, m ≤ rounds text.length least most ∧ Repeated (body.Describes text) least i k ∧
        Repeated (body.Describes text) m k j := by
  constructor
  · rintro ⟨n, hleast, hmost, hn⟩
    obtain ⟨more, rfl⟩ := Nat.exists_eq_add_of_le hleast
    obtain ⟨k, hik, hkj⟩ := hn.split
    obtain ⟨m, hmn, hm, hshort⟩ := hkj.shorten fun h => h.onward.1
    have hend : Onward text.length k j := hkj.trans (.refl _) .trans Describes.onward
    unfold Onward at hend
    refine ⟨k, m, ?_, hik, hshort⟩
    cases most with
    | none => simp only [rounds]; omega
    | some most =>
      have := hmost most rfl
      simp only [rounds]
      omega
  · rintro ⟨k, m, hm, hik, hkj⟩
    refine ⟨least + m, Nat.le_add_right least m, ?_, hik.append hkj⟩
    rintro most rfl
    simp only [rounds] at hm
    omega

/-! ## What plans find -/

theorem getElem?_sides (before : Option Char) (text : List Char) (i : Nat) :
    (sides before text)[i]? =
      if i ≤ text.length then some (if i = 0 then before else before? text i, text[i]?) else none := by
  induction text generalizing before i with
  | nil => cases i <;> rfl
  | cons c rest ih =>
    cases i with
    | zero => rfl
    | succ i =>
      rw [sides, List.getElem?_cons_succ, ih]
      cases i <;> simp [before?]

theorem follows_step (set : CharSet) :
    Follows (fun s => (s &&& positionsOf (text.map fun c => set.contains c.toNat)) <<< 1)
      ((chars set).Describes text) := by
  intro s j
  rw [Nat.testBit_shiftLeft]
  cases j with
  | zero => simp [Describes]
  | succ j =>
    have hset : (positionsOf (text.map fun c => set.contains c.toNat)).testBit j = true ↔
        ∃ c, text[j]? = some c ∧ set.contains c.toNat = true := by
      rw [testBit_positionsOf, List.getElem?_map]
      cases text[j]? <;> simp
    simp only [Nat.add_sub_cancel, Nat.testBit_and, Bool.and_eq_true, hset, Describes]
    constructor
    · rintro ⟨-, hj, hc⟩
      exact ⟨j, hj, hc, rfl⟩
    · rintro ⟨i, hi, hc, heq⟩
      obtain rfl := Nat.succ.inj heq
      exact ⟨by simp, hi, hc⟩

theorem follows_keep (a : Assertion) :
    Follows (fun s => s &&& positionsOf ((sides none text).map fun s => a.holds s.1 s.2))
      ((look a).Describes text) := by
  intro s j
  have hholds : (positionsOf ((sides none text).map fun s => a.holds s.1 s.2)).testBit j = true ↔
      j ≤ text.length ∧ a.holds (before? text j) text[j]? = true := by
    rw [testBit_positionsOf, List.getElem?_map, getElem?_sides]
    have hbefore : (if j = 0 then none else before? text j) = before? text j := by
      cases j <;> rfl
    rw [hbefore]
    split
    · next hj => simp [hj]
    · next hj => simp [hj]
  rw [Nat.testBit_and, Bool.and_eq_true, hholds]
  constructor
  · rintro ⟨hj, hlook⟩
    exact ⟨j, hj, hlook, rfl⟩
  · rintro ⟨i, hi, hlook, rfl⟩
    exact ⟨hi, hlook⟩

/-- **A plan leads from a set of positions to where the stretches end that are described and start there.** -/
theorem follows (r : Regex) : Follows ((r.plan text).run text.length) (r.Describes text) := by
  induction r with
  | empty =>
    intro s j
    simp [plan, Plan.run, Describes]
  | chars set => exact follows_step set
  | look a => exact follows_keep a
  | seq a b iha ihb => exact iha.comp ihb
  | alt a b iha ihb => exact iha.union ihb
  | «repeat» body least most ih =>
    have hrun : ∀ s, ((«repeat» body least most).plan text).run text.length s =
        Plan.close ((body.plan text).run text.length) (rounds text.length least most)
          (Plan.iterate ((body.plan text).run text.length) least s)
          (Plan.iterate ((body.plan text).run text.length) least s) := by
      intro s
      cases most <;> rfl
    intro s j
    rw [hrun, (Search.start _).close ih]
    simp only [Search.Finds, ih.iterate least s, describes_repeat_iff]
    constructor
    · rintro (⟨i, hi, hij⟩ | ⟨k, m, hm, ⟨i, hi, hik⟩, hkj⟩)
      · exact ⟨i, hi, j, 0, Nat.zero_le _, hij, .none j⟩
      · exact ⟨i, hi, k, m, hm, hik, hkj⟩
    · rintro ⟨i, hi, k, m, hm, hik, hkj⟩
      exact .inr ⟨k, m, hm, ⟨i, hi, hik⟩, hkj⟩

/-- **An expression matches a text if and only if it describes a stretch of it.** -/
theorem isMatch_iff (r : Regex) (text : String) :
    r.isMatch text = true ↔ ∃ i j, i ≤ text.toList.length ∧ r.Describes text.toList i j := by
  have hnonzero : ∀ s : Nat, s ≠ 0 ↔ ∃ j, s.testBit j = true := fun s =>
    ⟨Nat.exists_testBit_of_ne_zero, fun ⟨j, hj⟩ hs => by simp [hs] at hj⟩
  have hall : ∀ i, (1 <<< (text.toList.length + 1) - 1).testBit i = true ↔ i ≤ text.toList.length := by
    intro i
    rw [Nat.one_shiftLeft, Nat.testBit_two_pow_sub_one, decide_eq_true_eq, Nat.lt_succ_iff]
  unfold isMatch
  rw [bne_iff_ne, hnonzero]
  simp only [follows r _ _, hall]
  exact exists_comm.trans (by simp only [exists_and_left])

end Regex

end JsonSchema
