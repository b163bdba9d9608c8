import JsonSchema.Proofs.Json.Pointers
import Mathlib.Data.List.Induction

/-!
# Numerals

A numeral is written with decimal digits, at least one, and begins with zero only if it is that of zero.
**Each number has one numeral, and it is the text of the number** (`isNumeral_iff`).
-/

set_option autoImplicit false

namespace JsonSchema

open Pointer

structure IsNumeral (ds : List Char) : Prop where
  digits : ∀ d ∈ ds, d.isDigit = true
  ne_nil : ds ≠ []
  not_padded : ds.head? = some '0' → ds = ['0']

theorem isDigit_iff (c : Char) : c.isDigit = true ↔ ∃ k < 10, c = Nat.digitChar k := by
  have hzero : '0'.toNat = 48 := rfl
  constructor
  · intro h
    have hrange : 48 ≤ c.toNat ∧ c.toNat ≤ 57 := by
      simpa [Char.isDigit, UInt32.le_iff_toNat_le] using h
    refine ⟨c.toNat - 48, by omega, Char.toNat_inj.mp ?_⟩
    rw [Nat.toNat_digitChar_of_lt_ten (by omega)]
    omega
  · rintro ⟨k, hk, rfl⟩
    have hdigits : ∀ k < 10, (Nat.digitChar k).isDigit = true := by decide
    exact hdigits k hk

/-- A digit more makes ten times the number and the digit. -/
theorem natOfDigits_concat {k : Nat} (hk : k < 10) (ds : List Char) :
    natOfDigits (ds ++ [Nat.digitChar k]) = 10 * natOfDigits ds + k := by
  have hvalue : (Nat.digitChar k).toNat - '0'.toNat = k := by
    rw [Nat.toNat_digitChar_of_lt_ten hk]
    exact Nat.add_sub_cancel_left 48 k
  rw [natOfDigits, List.foldl_append, List.foldl_cons, List.foldl_nil, hvalue, Nat.mul_comm]
  rfl

theorem isNumeral_toString (n : Nat) : IsNumeral (toString n).toList where
  digits _ := isDigit_of_mem_toString
  ne_nil := by
    rw [toString_toList]
    exact Nat.toDigits_ne_nil
  not_padded h := by
    rw [toString_toList] at h ⊢
    rcases Nat.eq_zero_or_pos n with rfl | hpos
    · rfl
    · exact absurd h (head?_toDigits hpos)

theorem natOfDigits_toString (n : Nat) : natOfDigits (toString n).toList = n := by
  rw [toString_toList, natOfDigits_toDigits]

/-- A numeral is the text of the number that it spells. -/
theorem IsNumeral.eq_toString {ds : List Char} (h : IsNumeral ds) : (toString (natOfDigits ds)).toList = ds := by
  rw [toString_toList]
  induction ds using List.reverseRecOn with
  | nil => exact absurd rfl h.ne_nil
  | append_singleton front d ih =>
    obtain ⟨k, hk, rfl⟩ := (isDigit_iff d).mp (h.digits d (by simp))
    rw [natOfDigits_concat hk]
    rcases eq_or_ne front [] with rfl | hfront
    · rw [show natOfDigits [] = 0 from rfl, Nat.mul_zero, Nat.zero_add, Nat.toDigits_of_lt_base hk]
      rfl
    · -- what stands in front does not begin with zero, so it is the numeral of a positive number
      have hhead : front.head? ≠ some '0' := by
        intro hzero
        have hall := h.not_padded (by rw [List.head?_append_of_ne_nil _ hfront, hzero])
        rw [List.append_eq_singleton_iff] at hall
        simp_all
      have hdigits := ih ⟨fun c hc => h.digits c (List.mem_append_left _ hc), hfront, fun hzero => absurd hzero hhead⟩
      have hpos : 0 < natOfDigits front := by
        refine Nat.pos_of_ne_zero fun hzero => hhead ?_
        rw [← hdigits, hzero]
        rfl
      rw [← Nat.toDigits_append_toDigits (by decide) hpos hk, hdigits, Nat.toDigits_of_lt_base hk]

/-- **The numerals are the texts of the numbers.** -/
theorem isNumeral_iff {ds : List Char} : IsNumeral ds ↔ ∃ n : Nat, ds = (toString n).toList := by
  constructor
  · intro h
    exact ⟨natOfDigits ds, h.eq_toString.symm⟩
  · rintro ⟨n, rfl⟩
    exact isNumeral_toString n

end JsonSchema
