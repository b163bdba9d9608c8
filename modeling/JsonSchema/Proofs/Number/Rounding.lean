import Mathlib.Algebra.Group.Nat.Defs
import Mathlib.Algebra.Order.Ring.Nat
import JsonSchema.Number.Binary64

/-!
# Rounding to doubles

Rounding a quotient to a double is rounding it to a whole number of steps of the grid that the doubles
make around it (`rounded_eq`).  It keeps the order (`rounded_mono`), and what lies on the grid is not
rounded (`rounded_of_dvd`), so that integers of up to 53 bits are doubles (`ofInt_units`) and every
integer of 64 bits has a whole number next to it that is one (`nearest`).

Two different doubles differ by at least the `2 ^ 53`-th part of the greater one (`le_gap`).  So a quotient
of whole numbers between 0 and 1 never comes out whole; one above 1 does if it is half a step away from a
whole number, or less (`div?_isWhole_iff`).
-/

set_option autoImplicit false

namespace JsonSchema

namespace Binary64

/-! ## Rounding a quotient to a whole number -/

theorem roundQuotient_of_dvd {num den : Nat} (hpos : 0 < den) (h : den ∣ num) :
    roundQuotient num den = num / den := by
  have hrest : num % den = 0 := Nat.mod_eq_zero_of_dvd h
  simp [roundQuotient, hrest, hpos]

/-- Rounding keeps the order. -/
theorem roundQuotient_mono {num num' : Nat} (h : num ≤ num') (den : Nat) :
    roundQuotient num den ≤ roundQuotient num' den := by
  rcases Nat.lt_or_eq_of_le (Nat.div_le_div_right (c := den) h) with hlt | heq
  · exact Nat.le_trans (roundQuotient_le num den) (Nat.le_trans hlt (le_roundQuotient num' den))
  -- with the same whole part, the greater one has the greater rest
  · have hrest : num % den ≤ num' % den := by
      have hnum := Nat.div_add_mod num den
      have hnum' := Nat.div_add_mod num' den
      rw [← heq] at hnum'
      omega
    unfold roundQuotient
    dsimp only
    rw [← heq]
    split <;> split <;> omega

/-- A common factor does not matter. -/
theorem roundQuotient_mul_right (num den : Nat) {c : Nat} (hc : 0 < c) :
    roundQuotient (num * c) (den * c) = roundQuotient num den := by
  have hlt : 2 * (num % den * c) < den * c ↔ 2 * (num % den) < den := by
    rw [← Nat.mul_assoc, Nat.mul_lt_mul_right hc]
  have heq : 2 * (num % den * c) = den * c ↔ 2 * (num % den) = den := by
    rw [← Nat.mul_assoc, Nat.mul_left_inj hc.ne']
  unfold roundQuotient
  dsimp only
  rw [Nat.mul_div_mul_right num den hc, Nat.mul_mod_mul_right c num den]
  simp only [hlt, heq]

/-- An even whole number more is one more after rounding. -/
theorem roundQuotient_add_even (num : Nat) {den : Nat} (hden : 0 < den) (k : Nat) :
    roundQuotient (num + den * (2 * k)) den = roundQuotient num den + 2 * k := by
  have heven : (num / den + 2 * k) % 2 = num / den % 2 := Nat.add_mul_mod_self_left ..
  unfold roundQuotient
  dsimp only
  rw [Nat.add_mul_div_left _ _ hden, Nat.add_mul_mod_self_left, heven]
  split <;> omega

/-! ## Rounding to a double -/

/-- The magnitude of the double nearest to a quotient, with no upper limit. -/
def rounded (num den : Nat) : Nat := (roundUnits num den).1 <<< (roundUnits num den).2

theorem ofUnits?_eq_some {negative : Bool} {num den : Nat} {x : Binary64}
    (h : ofUnits? negative num den = some x) : x.negative = negative ∧ x.magnitude = rounded num den := by
  unfold ofUnits? at h
  dsimp only at h
  split at h
  · cases h
    exact ⟨rfl, rfl⟩
  · cases h

/-- The step of the grid of doubles around a quotient, as a power of two. -/
def stepExponent (num den : Nat) : Nat := (num / den).log2 - 52

/-- **The nearest double is the nearest whole number of steps.** -/
theorem rounded_eq (num den : Nat) :
    rounded num den = roundQuotient num (den * 2 ^ stepExponent num den) * 2 ^ stepExponent num den := by
  have hlt := quotient_lt num den
  have hle := roundQuotient_le num (den <<< ((num / den).log2 - 52))
  unfold rounded roundUnits stepExponent
  dsimp only
  split
  · rw [Nat.shiftLeft_eq, Nat.shiftLeft_eq]
  -- one step above the greatest significand the exponent grows
  · next hge =>
    have hfull : roundQuotient num (den <<< ((num / den).log2 - 52)) = 1 <<< 53 := by omega
    rw [← Nat.shiftLeft_eq den, hfull, Nat.shiftLeft_eq, Nat.one_shiftLeft, Nat.one_shiftLeft, ← Nat.pow_add,
      ← Nat.pow_add]
    congr 1
    omega

/-- What is a whole number of steps is not rounded. -/
theorem rounded_of_dvd {num den : Nat} (hpos : 0 < den) (h : den * 2 ^ stepExponent num den ∣ num) :
    rounded num den = num / den := by
  have hstep : 0 < den * 2 ^ stepExponent num den := Nat.mul_pos hpos (Nat.two_pow_pos _)
  obtain ⟨k, hk⟩ := h
  rw [rounded_eq, roundQuotient_of_dvd hstep ⟨k, hk⟩, Nat.div_eq_of_eq_mul_right hstep hk]
  refine (Nat.div_eq_of_eq_mul_right hpos ?_).symm
  rw [Nat.mul_comm k, ← Nat.mul_assoc]
  exact hk

/-- What has reached a power of two is not rounded to below it. -/
theorem two_pow_le_rounded {num den k : Nat} (h : 2 ^ k ≤ num / den) : 2 ^ k ≤ rounded num den := by
  have hquotient : num / den ≠ 0 := Nat.ne_of_gt (Nat.lt_of_lt_of_le (Nat.two_pow_pos k) h)
  have hlog : k ≤ (num / den).log2 := (Nat.le_log2 hquotient).mpr h
  have hround := le_roundQuotient num (den * 2 ^ stepExponent num den)
  rw [rounded_eq]
  by_cases he : stepExponent num den = 0
  · rw [he, Nat.pow_zero, Nat.mul_one] at hround ⊢
    rw [Nat.mul_one]
    exact Nat.le_trans h hround
  · have hfull := le_quotient num den he
    rw [Nat.one_shiftLeft, Nat.shiftLeft_eq] at hfull
    calc 2 ^ k ≤ 2 ^ (52 + stepExponent num den) :=
          Nat.pow_le_pow_right (by decide) (by unfold stepExponent at he ⊢; omega)
      _ = 2 ^ 52 * 2 ^ stepExponent num den := Nat.pow_add ..
      _ ≤ _ := Nat.mul_le_mul_right _ (Nat.le_trans hfull hround)

theorem log2_mono {n m : Nat} (h : n ≤ m) : n.log2 ≤ m.log2 := by
  by_cases hn : n = 0
  · simp [hn]
  · exact (Nat.le_log2 (by omega)).mpr (Nat.le_trans (Nat.log2_self_le hn) h)

/-- **Rounding to doubles keeps the order.** -/
theorem rounded_mono {num num' : Nat} (h : num ≤ num') (den : Nat) : rounded num den ≤ rounded num' den := by
  have hquotients : num / den ≤ num' / den := Nat.div_le_div_right h
  have hsteps : stepExponent num den ≤ stepExponent num' den :=
    Nat.sub_le_sub_right (log2_mono hquotients) 52
  rcases Nat.lt_or_eq_of_le hsteps with hlt | heq
  -- between quotients of different steps there is a power of two, which is a double
  · have hpower : 2 ^ (52 + stepExponent num' den) ≤ num' / den := by
      have hne : num' / den ≠ 0 := by
        intro hzero
        unfold stepExponent at hlt
        rw [hzero] at hlt
        simp at hlt
      refine Nat.le_trans (Nat.pow_le_pow_right (by decide) ?_) (Nat.log2_self_le hne)
      unfold stepExponent at hlt ⊢
      omega
    refine Nat.le_trans ?_ (two_pow_le_rounded hpower)
    have hround : roundQuotient num (den * 2 ^ stepExponent num den) ≤ 2 ^ 53 := by
      have hlt := quotient_lt num den
      rw [Nat.one_shiftLeft, Nat.shiftLeft_eq] at hlt
      exact Nat.le_trans (roundQuotient_le _ _) hlt
    calc rounded num den ≤ 2 ^ 53 * 2 ^ stepExponent num den := by
          rw [rounded_eq]
          exact Nat.mul_le_mul_right _ hround
      _ = 2 ^ (53 + stepExponent num den) := (Nat.pow_add ..).symm
      _ ≤ _ := Nat.pow_le_pow_right (by decide) (by omega)
  · rw [rounded_eq, rounded_eq num', heq]
    exact Nat.mul_le_mul_right _ (roundQuotient_mono h _)

/-- A common factor does not matter. -/
theorem rounded_mul_right (num den : Nat) {c : Nat} (hc : 0 < c) :
    rounded (num * c) (den * c) = rounded num den := by
  have hstep : stepExponent (num * c) (den * c) = stepExponent num den := by
    unfold stepExponent
    rw [Nat.mul_div_mul_right num den hc]
  rw [rounded_eq, rounded_eq num, hstep, Nat.mul_right_comm, roundQuotient_mul_right _ _ hc]

/-! ## Integers as doubles -/

/-- The units in one are a power of two, and there are as many as integers of 64 bits. -/
theorem exists_unitsPerOne : ∃ t, 64 ≤ t ∧ unitsPerOne = 2 ^ t := by
  have hpower : ∀ t, 64 ≤ t → ∃ t', 64 ≤ t' ∧ 1 <<< t = 2 ^ t' := fun t ht => ⟨t, ht, Nat.one_shiftLeft t⟩
  exact hpower 1074 (by decide)

theorem unitsPerOne_pos : 0 < unitsPerOne := by
  obtain ⟨t, -, ht⟩ := exists_unitsPerOne
  exact ht ▸ Nat.two_pow_pos t

/-- A double and an integer of 64 bits have the sign in common, and the magnitude but for rounding. -/
theorem ofInt_rounded {n : Int} (h : n.natAbs ≤ UInt64.size) :
    (ofInt n).negative = decide (n < 0) ∧ (ofInt n).magnitude = rounded (n.natAbs * unitsPerOne) 1 :=
  ofUnits?_eq_some (ofInt_isRounded n h)

/-- Integers of up to 53 bits are whole numbers of steps. -/
theorem rounded_units_of_small {k : Nat} (hk : k ≤ 2 ^ 53) : rounded (k * unitsPerOne) 1 = k * unitsPerOne := by
  have hdvd : 2 ^ stepExponent (k * unitsPerOne) 1 ∣ k * unitsPerOne := by
    obtain ⟨t, -, ht⟩ := exists_unitsPerOne
    unfold stepExponent
    rw [Nat.div_one, ht]
    rcases Nat.lt_or_eq_of_le hk with hlt | rfl
    · have hlog : (k * 2 ^ t).log2 < 53 + t := by
        refine log2_lt_of_lt_shiftLeft (by omega) ?_
        rw [Nat.one_shiftLeft, Nat.pow_add]
        exact Nat.mul_lt_mul_of_pos_right hlt (Nat.two_pow_pos t)
      exact Nat.dvd_mul_left_of_dvd (Nat.pow_dvd_pow 2 (by omega)) k
    · rw [← Nat.pow_add, Nat.log2_two_pow]
      exact Nat.pow_dvd_pow 2 (Nat.sub_le _ _)
  rw [rounded_of_dvd Nat.one_pos (by rwa [Nat.one_mul]), Nat.div_one]

/-- **An integer of up to 53 bits is a double.** -/
theorem ofInt_units {n : Int} (h : n.natAbs ≤ 2 ^ 53) : (ofInt n).units = n * unitsPerOne := by
  obtain ⟨hnegative, hmagnitude⟩ := ofInt_rounded (Nat.le_trans h (by decide))
  rw [rounded_units_of_small h] at hmagnitude
  rw [units, hnegative, hmagnitude, Int.natCast_mul]
  by_cases hn : n < 0
  · rw [if_pos (by simpa using hn), Int.ofNat_natAbs_of_nonpos (by omega), Int.neg_mul, Int.neg_neg]
  · rw [if_neg (by simpa using hn), Int.natAbs_of_nonneg (by omega)]

/-- A count of things, as a double, is 1 or more if there is anything. -/
theorem unitsPerOne_le_ofInt {n : Nat} (hpos : 0 < n) (h : n ≤ UInt64.size) :
    (unitsPerOne : Int) ≤ (ofInt n).units := by
  obtain ⟨hnegative, hmagnitude⟩ := ofInt_rounded (n := n) h
  obtain ⟨t, -, ht⟩ := exists_unitsPerOne
  have hle : unitsPerOne ≤ (ofInt n).magnitude := by
    rw [hmagnitude, ht]
    refine two_pow_le_rounded ?_
    rw [Nat.div_one]
    exact Nat.le_mul_of_pos_left _ hpos
  rw [units, hnegative, if_neg (by simp)]
  exact Int.ofNat_le.mpr hle

/-- No integer is rounded to a fraction. -/
theorem unitsPerOne_dvd_rounded (k : Nat) : unitsPerOne ∣ rounded (k * unitsPerOne) 1 := by
  by_cases hk : k ≤ 2 ^ 53
  · rw [rounded_units_of_small hk]
    exact Nat.dvd_mul_left _ _
  -- beyond 53 bits the steps are whole numbers
  · obtain ⟨t, -, ht⟩ := exists_unitsPerOne
    have hlog : 53 + t ≤ (k * 2 ^ t).log2 := by
      refine (Nat.le_log2 (Nat.mul_ne_zero (by omega) (Nat.two_pow_pos t).ne')).mpr ?_
      rw [Nat.pow_add]
      exact Nat.mul_le_mul_right _ (by omega)
    rw [rounded_eq, ht]
    refine Nat.dvd_mul_left_of_dvd (Nat.pow_dvd_pow 2 ?_) _
    unfold stepExponent
    rw [Nat.div_one]
    omega

/-- The whole number that the double nearest to an integer is. -/
def nearest (n : Int) : Int := (ofInt n).units / unitsPerOne

section

variable {n m : Int}

theorem ofInt_units_eq_nearest (h : n.natAbs ≤ UInt64.size) : (ofInt n).units = nearest n * unitsPerOne := by
  have hdvd : (unitsPerOne : Int) ∣ (ofInt n).units := by
    have hmagnitude : (unitsPerOne : Int) ∣ (ofInt n).magnitude := by
      rw [(ofInt_rounded h).2]
      exact Int.natCast_dvd_natCast.mpr (unitsPerOne_dvd_rounded _)
    unfold units
    split
    · exact (Int.dvd_neg).mpr hmagnitude
    · exact hmagnitude
  rw [nearest, Int.ediv_mul_cancel hdvd]

theorem nearest_of_small (h : n.natAbs ≤ 2 ^ 53) : nearest n = n := by
  rw [nearest, ofInt_units h, Int.mul_ediv_cancel _ (Int.natCast_ne_zero.mpr unitsPerOne_pos.ne')]

/-- **The nearest double grows with the integer.** -/
theorem ofInt_mono (hn : n.natAbs ≤ UInt64.size) (hm : m.natAbs ≤ UInt64.size) (h : n ≤ m) :
    (ofInt n).units ≤ (ofInt m).units := by
  obtain ⟨hnegative, hmagnitude⟩ := ofInt_rounded hn
  obtain ⟨hnegative', hmagnitude'⟩ := ofInt_rounded hm
  have hmono : ∀ {a b : Nat}, a ≤ b → rounded (a * unitsPerOne) 1 ≤ rounded (b * unitsPerOne) 1 :=
    fun hab => rounded_mono (Nat.mul_le_mul_right _ hab) 1
  rw [units, units, hnegative, hnegative', hmagnitude, hmagnitude']
  by_cases hn0 : n < 0
  · rw [if_pos (by simpa using hn0)]
    by_cases hm0 : m < 0
    · have hle := hmono (show m.natAbs ≤ n.natAbs by omega)
      rw [if_pos (by simpa using hm0)]
      omega
    · rw [if_neg (by simpa using hm0)]
      omega
  · have hle := hmono (show n.natAbs ≤ m.natAbs by omega)
    rw [if_neg (by simpa using hn0), if_neg (by simp; omega)]
    omega

theorem nearest_mono (hn : n.natAbs ≤ UInt64.size) (hm : m.natAbs ≤ UInt64.size) (h : n ≤ m) :
    nearest n ≤ nearest m :=
  Int.ediv_le_ediv (Int.natCast_pos.mpr unitsPerOne_pos) (ofInt_mono hn hm h)

theorem nearest_pos (h : n.natAbs ≤ UInt64.size) (hpos : 0 < n) : 0 < nearest n := by
  have hle := nearest_mono (n := 1) (by decide) h hpos
  rw [nearest_of_small (n := 1) (by decide)] at hle
  exact hle

/-- Integers of 64 bits are not rounded to below or above all of them. -/
theorem nearest_natAbs_le (h : n.natAbs ≤ UInt64.size) : (nearest n).natAbs ≤ UInt64.size := by
  have hleast : nearest (-UInt64.size) = -UInt64.size := by decide +kernel
  have hgreatest : nearest UInt64.size = UInt64.size := by decide +kernel
  have hle := nearest_mono (m := UInt64.size) h (Nat.le_refl _) (by omega)
  have hge := nearest_mono (n := -UInt64.size) (by omega) h (by omega)
  omega

theorem magnitude_eq_natAbs (a : Binary64) : a.magnitude = a.units.natAbs := by
  unfold units
  split <;> simp

theorem ofInt_magnitude (h : n.natAbs ≤ UInt64.size) :
    (ofInt n).magnitude = (nearest n).natAbs * unitsPerOne := by
  rw [magnitude_eq_natAbs, ofInt_units_eq_nearest h, Int.natAbs_mul, Int.natAbs_natCast]

/-- An integer of fewer than 54 bits shares its double with no other integer. -/
theorem eq_of_nearest_eq (hn : n.natAbs < 2 ^ 53) (hm : m.natAbs ≤ UInt64.size) (h : nearest n = nearest m) :
    n = m := by
  have hsize : 2 ^ 53 ≤ UInt64.size := by decide
  rw [nearest_of_small (by omega)] at h
  -- a neighbour of the integer is a double as well, and lies between the two
  rcases Int.lt_trichotomy n m with hlt | heq | hgt
  · have hle := nearest_mono (n := n + 1) (by omega) hm hlt
    rw [nearest_of_small (by omega)] at hle
    omega
  · exact heq
  · have hle := nearest_mono (m := n - 1) hm (by omega) (by omega)
    rw [nearest_of_small (n := n - 1) (by omega)] at hle
    omega

end

/-! ## How far doubles are apart -/

theorem magnitude_eq (a : Binary64) : a.magnitude = a.significand * 2 ^ a.exponent := Nat.shiftLeft_eq _ _

/-- **Two doubles differ by at least the `2 ^ 53`-th part of the greater one.** -/
theorem le_gap {a b : Binary64} (h : a.magnitude < b.magnitude) :
    b.magnitude ≤ 2 ^ 53 * (b.magnitude - a.magnitude) := by
  obtain ⟨ha, -, -⟩ := a.canonical
  obtain ⟨hb, -, hfull⟩ := b.canonical
  rw [Nat.one_shiftLeft] at ha hb hfull
  rw [magnitude_eq a, magnitude_eq b] at h ⊢
  rcases Nat.lt_or_ge a.exponent b.exponent with hlt | hge
  -- the lesser one is below the full significands of the greater one, on a grid twice as fine at least
  · have hb52 : 2 ^ 52 ≤ b.significand := hfull.resolve_left (by omega)
    obtain ⟨e, he⟩ : ∃ e, b.exponent = e + 1 := ⟨b.exponent - 1, by omega⟩
    have hbe : b.significand * 2 ^ b.exponent = 2 * b.significand * 2 ^ e := by
      rw [he, Nat.pow_succ]
      ac_rfl
    have hae : a.significand * 2 ^ a.exponent ≤ (2 ^ 53 - 1) * 2 ^ e :=
      Nat.mul_le_mul (by omega) (Nat.pow_le_pow_right (by decide) (by omega))
    have hsteps : 2 * b.significand ≤ 2 ^ 53 * (2 * b.significand - (2 ^ 53 - 1)) := by omega
    have hgap := Nat.sub_le_sub_left hae (2 * b.significand * 2 ^ e)
    rw [← Nat.sub_mul] at hgap
    rw [hbe]
    refine Nat.le_trans (Nat.mul_le_mul_right (2 ^ e) hsteps) ?_
    rw [Nat.mul_assoc]
    exact Nat.mul_le_mul_left _ hgap
  -- both are whole numbers of steps of the greater one
  · obtain ⟨d, hd⟩ : ∃ d, a.exponent = d + b.exponent := ⟨a.exponent - b.exponent, by omega⟩
    have hae : a.significand * 2 ^ a.exponent = a.significand * 2 ^ d * 2 ^ b.exponent := by
      rw [hd, Nat.pow_add]
      ac_rfl
    rw [hae] at h ⊢
    have hlt := Nat.lt_of_mul_lt_mul_right h
    rw [← Nat.sub_mul, ← Nat.mul_assoc]
    exact Nat.mul_le_mul_right _ (by omega)

/-! ## Quotients that come out whole -/

/-- The distance from a quotient to the nearest whole number, in parts of the divisor. -/
def distanceToWhole (num den : Nat) : Nat := min (num % den) (den - num % den)

section

variable {num den : Nat}

/-- Of a remainder in steps, the quotient and the rest tell whether it is half a step away from nothing or
    from a whole divisor of them, or less. -/
theorem near_end_iff {rest steps a b : Nat} (hparts : den * a + b = rest) (hb : b < den) (ha : a < steps) :
    2 * rest ≤ den ∨ 2 * (den * steps - rest) ≤ den ↔
      a = 0 ∧ 2 * b ≤ den ∨ a + 1 = steps ∧ den ≤ 2 * b := by
  have hpositive : 0 < a → den ≤ den * a := Nat.le_mul_of_pos_right den
  have hlast : a + 1 = steps → den * steps = den * a + den := fun h => h ▸ Nat.mul_succ den a
  have hbefore : a + 2 ≤ steps → den * a + 2 * den ≤ den * steps := fun h => by
    have hle := Nat.mul_le_mul_left den h
    rw [Nat.mul_add] at hle
    omega
  rcases Nat.eq_zero_or_pos a with hzero | hpos
  · have hnone : den * a = 0 := by rw [hzero, Nat.mul_zero]
    rcases Nat.lt_or_ge (a + 1) steps with hlt | hge <;> omega
  · rcases Nat.lt_or_ge (a + 1) steps with hlt | hge <;> omega

/-- The distance to the nearest whole number, in steps of which there are `k` between whole numbers. -/
theorem mul_distanceToWhole_le_iff (num den k : Nat) : 2 * (k * distanceToWhole num den) ≤ den ↔
    2 * (num % den * k) ≤ den ∨ 2 * (den * k - num % den * k) ≤ den := by
  rw [← Nat.sub_mul, Nat.mul_comm k]
  unfold distanceToWhole
  rcases Nat.le_total (num % den) (den - num % den) with hle | hle
  · have hmul := Nat.mul_le_mul_right k hle
    rw [Nat.min_eq_left hle]
    omega
  · have hmul := Nat.mul_le_mul_right k hle
    rw [Nat.min_eq_right hle]
    omega

/-- Of the numbers up to a number, the first and the last are its multiples. -/
theorem dvd_iff_of_le {n m : Nat} (h : m ≤ n) : n ∣ m ↔ m = 0 ∨ m = n := by
  constructor
  · intro hdvd
    rcases Nat.eq_zero_or_pos m with hzero | hpos
    · exact .inl hzero
    · exact .inr (Nat.le_antisymm h (Nat.le_of_dvd hpos hdvd))
  · rintro (rfl | rfl)
    · exact Nat.dvd_zero _
    · exact Nat.dvd_refl _

/-- A quotient in steps of `2 ^ -k` is rounded to a whole number if it is half a step away from one, or
    less. -/
theorem two_pow_dvd_roundQuotient_iff (hden : 0 < den) {k : Nat} (hk : 0 < k) :
    2 ^ k ∣ roundQuotient (num * 2 ^ k) den ↔ 2 * (2 ^ k * distanceToWhole num den) ≤ den := by
  obtain ⟨t, ht⟩ : ∃ t, 2 ^ k = 2 * t := ⟨2 ^ (k - 1), by rw [← Nat.pow_succ']; congr 1; omega⟩
  -- the whole part counts `2 ^ k` steps each, and what is left is `a` steps and `b` parts of one
  have hsplit : num * 2 ^ k = num % den * 2 ^ k + den * (2 * (num / den * t)) := by
    conv_lhs => rw [← Nat.mod_add_div num den]
    rw [Nat.add_mul, Nat.mul_assoc, Nat.mul_left_comm 2, ← ht]
  have hwhole : 2 ^ k ∣ 2 * (num / den * t) := ⟨num / den, by rw [ht]; ac_rfl⟩
  have hparts := Nat.div_add_mod (num % den * 2 ^ k) den
  have hb := Nat.mod_lt (num % den * 2 ^ k) hden
  have ha : num % den * 2 ^ k / den < 2 ^ k :=
    Nat.div_lt_of_lt_mul (Nat.mul_lt_mul_of_pos_right (Nat.mod_lt num hden) (Nat.two_pow_pos k))
  rw [mul_distanceToWhole_le_iff, near_end_iff hparts hb ha, hsplit, roundQuotient_add_even _ hden,
    Nat.dvd_add_left hwhole]
  unfold roundQuotient
  dsimp only
  generalize num % den * 2 ^ k / den = a at *
  generalize num % den * 2 ^ k % den = b at *
  rw [dvd_iff_of_le (by split <;> omega)]
  split <;> omega

/-- The binary logarithm of a quotient in units. -/
theorem log2_units (hden : 0 < den) (hle : den ≤ num) (t : Nat) :
    (num * 2 ^ t / den).log2 = (num / den).log2 + t := by
  have hquotient : num / den ≠ 0 := (Nat.div_pos hle hden).ne'
  have hlow : 2 ^ (num / den).log2 * den ≤ num :=
    (Nat.le_div_iff_mul_le hden).mp (Nat.log2_self_le hquotient)
  have hhigh : num < 2 ^ ((num / den).log2 + 1) * den := (Nat.div_lt_iff_lt_mul hden).mp Nat.lt_log2_self
  have hlow' : 2 ^ ((num / den).log2 + t) ≤ num * 2 ^ t / den := by
    rw [Nat.le_div_iff_mul_le hden, Nat.pow_add, Nat.mul_right_comm]
    exact Nat.mul_le_mul_right _ hlow
  have hhigh' : num * 2 ^ t / den < 2 ^ ((num / den).log2 + t + 1) := by
    rw [Nat.div_lt_iff_lt_mul hden, Nat.add_right_comm, Nat.pow_add, Nat.mul_right_comm]
    exact Nat.mul_lt_mul_of_pos_right hhigh (Nat.two_pow_pos t)
  have hne : num * 2 ^ t / den ≠ 0 := (Nat.lt_of_lt_of_le (Nat.two_pow_pos _) hlow').ne'
  have hge := (Nat.le_log2 hne).mpr hlow'
  have hlt := (Nat.log2_lt hne).mpr hhigh'
  omega

/-- **A quotient of 1 or more comes out whole if it is half a step away from a whole number, or less.** -/
theorem unitsPerOne_dvd_rounded_iff (hden : 0 < den) (hle : den ≤ num) :
    unitsPerOne ∣ rounded (num * unitsPerOne) den ↔
      2 ^ 53 * distanceToWhole num den ≤ den * 2 ^ (num / den).log2 := by
  obtain ⟨t, ht64, ht⟩ := exists_unitsPerOne
  have hstep : stepExponent (num * 2 ^ t) den = (num / den).log2 + t - 52 := by
    rw [stepExponent, log2_units hden hle]
  rw [rounded_eq, ht, hstep]
  generalize (num / den).log2 = l
  rcases Nat.lt_or_ge l 52 with hlt | hge
  · obtain ⟨k, hk⟩ : ∃ k, 52 = l + (k + 1) := ⟨51 - l, by omega⟩
    obtain ⟨u, hu⟩ : ∃ u, t = k + 1 + u := ⟨t - (k + 1), by omega⟩
    have hexponent : l + t - 52 = u := by omega
    have hnum : num * 2 ^ t = num * 2 ^ (k + 1) * 2 ^ u := by rw [hu, Nat.pow_add, ← Nat.mul_assoc]
    have hcancel : 2 * (2 ^ (k + 1) * distanceToWhole num den) ≤ den ↔
        2 ^ 53 * distanceToWhole num den ≤ den * 2 ^ l := by
      have hpower : 2 ^ 53 = 2 * 2 ^ (k + 1) * 2 ^ l := by
        rw [← Nat.pow_succ', ← Nat.pow_add]
        congr 1
        omega
      rw [hpower, Nat.mul_right_comm, Nat.mul_le_mul_right_iff (Nat.two_pow_pos l), Nat.mul_assoc]
    rw [hexponent, hnum, roundQuotient_mul_right _ _ (Nat.two_pow_pos u), hu, Nat.pow_add,
      Nat.mul_dvd_mul_iff_right (Nat.two_pow_pos u), two_pow_dvd_roundQuotient_iff hden (Nat.succ_pos k),
      hcancel]
  -- from `2 ^ 52` on there are no fractions
  · have hwhole : 2 ^ t ∣ 2 ^ (l + t - 52) := Nat.pow_dvd_pow 2 (by omega)
    have hhalf : 2 * distanceToWhole num den ≤ den := by
      unfold distanceToWhole
      omega
    refine iff_of_true (Nat.dvd_mul_left_of_dvd hwhole _) ?_
    calc 2 ^ 53 * distanceToWhole num den ≤ den * 2 ^ 52 := by omega
      _ ≤ den * 2 ^ l := Nat.mul_le_mul_left _ (Nat.pow_le_pow_right (by decide) hge)

/-- A quotient between 0 and 1 does not come out whole, if it is as far from 1 as different doubles are. -/
theorem not_unitsPerOne_dvd_rounded (hnum : 0 < num) (hlt : num < den) (hgap : den ≤ 2 ^ 53 * (den - num))
    (hunits : den ≤ unitsPerOne) : ¬ unitsPerOne ∣ rounded (num * unitsPerOne) den := by
  obtain ⟨t, ht64, ht⟩ := exists_unitsPerOne
  obtain ⟨u, hu⟩ : ∃ u, t = 53 + u := ⟨t - 53, by omega⟩
  rw [ht] at hunits ⊢
  have hden : 0 < den := Nat.zero_lt_of_lt hlt
  have hpositive : 2 ^ 0 ≤ rounded (num * 2 ^ t) den := by
    refine two_pow_le_rounded (Nat.div_pos (Nat.le_trans hunits ?_) hden)
    exact Nat.le_mul_of_pos_left _ hnum
  -- the greatest double below 1 bounds it from above
  have hbelow : rounded (den * ((2 ^ 53 - 1) * 2 ^ u)) den = (2 ^ 53 - 1) * 2 ^ u := by
    have hquotient : den * ((2 ^ 53 - 1) * 2 ^ u) / den = (2 ^ 53 - 1) * 2 ^ u := Nat.mul_div_cancel_left _ hden
    rw [rounded_of_dvd hden ?_, hquotient]
    refine Nat.mul_dvd_mul_left den (Nat.dvd_mul_left_of_dvd (Nat.pow_dvd_pow 2 ?_) _)
    have hlog : ((2 ^ 53 - 1) * 2 ^ u).log2 < 53 + u := by
      refine log2_lt_of_lt_shiftLeft (by omega) ?_
      rw [Nat.one_shiftLeft, Nat.pow_add]
      exact Nat.mul_lt_mul_of_pos_right (by decide) (Nat.two_pow_pos u)
    rw [stepExponent, hquotient]
    omega
  have hle : num * 2 ^ t ≤ den * ((2 ^ 53 - 1) * 2 ^ u) := by
    rw [hu, Nat.pow_add, ← Nat.mul_assoc, ← Nat.mul_assoc]
    exact Nat.mul_le_mul_right _ (by omega)
  have hbound : rounded (num * 2 ^ t) den < 2 ^ t := by
    refine Nat.lt_of_le_of_lt (rounded_mono hle den) ?_
    rw [hbelow, hu, Nat.pow_add]
    exact Nat.mul_lt_mul_of_pos_right (by decide) (Nat.two_pow_pos u)
  intro hdvd
  exact absurd (Nat.eq_zero_of_dvd_of_lt hdvd hbound) (by omega)

end

/-- Whether a quotient of whole numbers comes out whole when it is rounded to a double. -/
def RoundsToMultiple (num den : Nat) : Prop :=
  den ∣ num ∨ den ≤ num ∧ 2 ^ 53 * distanceToWhole num den ≤ den * 2 ^ (num / den).log2

instance (num den : Nat) : Decidable (RoundsToMultiple num den) := inferInstanceAs (Decidable (_ ∨ _))

section

variable {x y : Binary64} {a b : Nat}

/-- Doubles that are whole numbers of 64 bits have a quotient, which is that of the numbers but for
    rounding. -/
theorem exists_div? (hx : x.magnitude = a * unitsPerOne) (hy : y.magnitude = b * unitsPerOne) (hb : 0 < b)
    (hasize : a ≤ UInt64.size) :
    ∃ z, x.div? y = some z ∧ z.magnitude = rounded (a * unitsPerOne) b := by
  have hunits := unitsPerOne_pos
  have hdivisor : y.magnitude ≠ 0 := hy ▸ (Nat.mul_pos hb hunits).ne'
  obtain ⟨z, hz⟩ : ∃ z, x.div? y = some z := by
    rw [div?, if_neg hdivisor]
    refine Option.isSome_iff_exists.mp (ofUnits?_isSome _ _ _ ?_)
    rw [hx, hy, Nat.mul_div_mul_right (a * unitsPerOne) b hunits]
    calc a * unitsPerOne / b ≤ UInt64.size * unitsPerOne :=
          Nat.le_trans (Nat.div_le_self _ _) (Nat.mul_le_mul_right _ hasize)
      _ < 1 <<< 2096 := by decide +kernel
  refine ⟨z, hz, ?_⟩
  rw [div?, if_neg hdivisor] at hz
  rw [(ofUnits?_eq_some hz).2, hx, hy, rounded_mul_right _ _ hunits]

/-- **Division of doubles that are whole numbers.**  Of a multiple it gives a whole number, and of some
    other numbers as well. -/
theorem div?_isWhole_iff (hx : x.magnitude = a * unitsPerOne) (hy : y.magnitude = b * unitsPerOne)
    (hb : 0 < b) (hasize : a ≤ UInt64.size) (hbsize : b ≤ UInt64.size) :
    (x.div? y).any isWhole = true ↔ RoundsToMultiple a b := by
  obtain ⟨z, hz, hrounded⟩ := exists_div? hx hy hb hasize
  rw [hz, Option.any_some, isWhole, beq_iff_eq, hrounded, ← Nat.dvd_iff_mod_eq_zero, RoundsToMultiple]
  rcases Nat.lt_or_ge a b with hlt | hge
  · rcases Nat.eq_zero_or_pos a with rfl | hpos
    · refine iff_of_true ?_ (.inl (Nat.dvd_zero b))
      rw [rounded_of_dvd hb (by rw [Nat.zero_mul]; exact Nat.dvd_zero _), Nat.zero_mul, Nat.zero_div]
      exact Nat.dvd_zero _
    · have hgap : b ≤ 2 ^ 53 * (b - a) := by
        have h := le_gap (a := x) (b := y)
          (by rw [hx, hy]; exact Nat.mul_lt_mul_of_pos_right hlt unitsPerOne_pos)
        rw [hx, hy, ← Nat.sub_mul, ← Nat.mul_assoc] at h
        exact Nat.le_of_mul_le_mul_right h unitsPerOne_pos
      have hsize : b ≤ unitsPerOne := by
        obtain ⟨t, ht64, ht⟩ := exists_unitsPerOne
        have hpower : 2 ^ 64 ≤ 2 ^ t := Nat.pow_le_pow_right (by decide) ht64
        rw [ht]
        exact Nat.le_trans hbsize hpower
      refine iff_of_false (not_unitsPerOne_dvd_rounded hpos hlt hgap hsize) ?_
      rintro (hdvd | ⟨hle, -⟩)
      · exact absurd (Nat.le_of_dvd hpos hdvd) (by omega)
      · omega
  · rw [unitsPerOne_dvd_rounded_iff hb hge]
    constructor
    · exact fun h => .inr ⟨hge, h⟩
    · rintro (hdvd | ⟨-, h⟩)
      · rw [distanceToWhole, Nat.mod_eq_zero_of_dvd hdvd, Nat.zero_min]
        exact Nat.zero_le _
      · exact h

end

end Binary64

end JsonSchema
