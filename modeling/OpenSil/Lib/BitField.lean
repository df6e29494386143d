import Mathlib.Tactic

/-! # Bit fields

A field of a register is `extractLsb' lo len`; `set` is the assignment to a field of a C bit-field union.
-/

namespace OpenSil.BitField

open Nat BitVec

variable {w len : Nat}

/-- `v` with the `len` bits from `lo` on replaced by `x`. -/
def set (v : BitVec w) (lo : Nat) (x : BitVec len) : BitVec w :=
  (v &&& ~~~((BitVec.allOnes len).setWidth w <<< lo)) ||| (x.setWidth w <<< lo)

section
variable (v : BitVec w)

theorem getLsbD_set (lo : Nat) (x : BitVec len) (i : Nat) :
    (set v lo x).getLsbD i = if lo ≤ i ∧ i < lo + len then decide (i < w) && x.getLsbD (i - lo) else v.getLsbD i := by
  unfold set
  simp only [getLsbD_or, getLsbD_and, getLsbD_not, getLsbD_shiftLeft, getLsbD_setWidth,
    getLsbD_allOnes]
  by_cases hw : i < w
  · by_cases hlo : i < lo
    · simp [hw, hlo, show ¬lo ≤ i by omega]
    · have hsub : i - lo < w := by omega
      by_cases hlen : i < lo + len
      · simp [hw, hlo, hsub, hlen, show lo ≤ i by omega, show i - lo < len by omega]
      · have hx : x.getLsbD (i - lo) = false := getLsbD_of_ge _ _ (by omega)
        simp [hw, hlo, hsub, hlen, hx, show ¬i - lo < len by omega]
  · have hv : v.getLsbD i = false := getLsbD_of_ge _ _ (by omega)
    simp [hw, hv]

@[simp] theorem extract_set {lo : Nat} (x : BitVec len) (h : lo + len ≤ w) :
    (set v lo x).extractLsb' lo len = x := by
  apply eq_of_getLsbD_eq
  intro i hi
  rw [BitVec.getLsbD_extractLsb', getLsbD_set, if_pos (by omega), Nat.add_sub_cancel_left]
  simp [hi, show lo + i < w by omega]

theorem extract_set_of_disjoint {lo lo' len' : Nat} (x : BitVec len) (h : lo' + len' ≤ lo ∨ lo + len ≤ lo') :
    (set v lo x).extractLsb' lo' len' = v.extractLsb' lo' len' := by
  apply eq_of_getLsbD_eq
  intro i hi
  rw [BitVec.getLsbD_extractLsb', BitVec.getLsbD_extractLsb', getLsbD_set, if_neg (by omega)]

theorem toNat_extract (lo len : Nat) : (v.extractLsb' lo len).toNat = v.toNat / 2 ^ lo % 2 ^ len := by
  rw [extractLsb'_toNat, shiftRight_eq_div_pow]

theorem toNat_and_ones {m : BitVec w} {lo hi : Nat} (hm : m.toNat = 2 ^ hi - 2 ^ lo) (h : lo ≤ hi) :
    (v &&& m).toNat = v.toNat % 2 ^ hi / 2 ^ lo * 2 ^ lo := by
  have hones : 2 ^ hi - 2 ^ lo = (2 ^ (hi - lo) - 1) * 2 ^ lo := by
    rw [Nat.sub_mul, ← Nat.pow_add, Nat.sub_add_cancel h, Nat.one_mul]
  rw [toNat_and, hm, hones]
  apply eq_of_testBit_eq
  intro i
  rw [testBit_and, testBit_mul_two_pow, testBit_mul_two_pow, testBit_two_pow_sub_one,
    testBit_div_two_pow, testBit_mod_two_pow]
  by_cases hlo : lo ≤ i
  · simp [hlo, show i - lo + lo = i by omega, show i - lo < hi - lo ↔ i < hi by omega, Bool.and_comm]
  · simp [hlo]

theorem and_not_of_and_eq_zero {v m : BitVec w} (h : v &&& m = 0#w) : v &&& ~~~m = v := by
  apply eq_of_getLsbD_eq
  intro i hi
  have hbit := congrArg (BitVec.getLsbD · i) h
  simp only [getLsbD_and, getLsbD_zero] at hbit
  rw [getLsbD_and, getLsbD_not]
  simp only [hi, decide_true, Bool.true_and]
  grind

theorem or_and_ne_zero {x m : BitVec w} (h : x &&& m ≠ 0#w) : (v ||| x) &&& m ≠ 0#w := by
  intro hzero
  apply h
  apply eq_of_getLsbD_eq
  intro i _
  have hbit := congrArg (BitVec.getLsbD · i) hzero
  simp only [getLsbD_and, getLsbD_or, getLsbD_zero] at hbit ⊢
  grind

end

end OpenSil.BitField
