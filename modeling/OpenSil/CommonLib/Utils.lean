import OpenSil.Lib.Loop
import Mathlib.Data.Nat.Size

/-! # Bit positions -/

open OpenSil.Loop Nat BitVec

namespace OpenSil.Utils

/-! ## `xUslBitWidth` -/

def bitWidthTurn (s : Nat × Nat) : Turn (Nat × Nat) Nat :=
  if s.1 = 0 then .done s.2 else .next (s.1 / 2, s.2 + 1)

def xUslBitWidth (number : Nat) : Option Nat := run bitWidthTurn 65 (number, 0)

theorem size_half {n : Nat} (h : 0 < n) : n.size = (n / 2).size + 1 := by
  have hhalf := lt_size_self (n / 2)
  apply le_antisymm
  · rw [size_le, pow_succ]
    omega
  · rw [succ_le_iff, lt_size]
    cases hs : (n / 2).size with
    | zero => exact h
    | succ t =>
      have hle : 2 ^ t ≤ n / 2 := lt_size.mp (by omega)
      rw [pow_succ]
      omega

theorem run_bitWidthTurn (fuel number width : Nat) (h : number < 2 ^ fuel) :
    run bitWidthTurn (fuel + 1) (number, width) = some (width + number.size) := by
  induction fuel generalizing number width with
  | zero =>
    obtain rfl : number = 0 := by simpa using h
    rfl
  | succ fuel ih =>
    rcases Nat.eq_zero_or_pos number with rfl | hpos
    · rfl
    · have hturn : bitWidthTurn (number, width) = .next (number / 2, width + 1) := if_neg (by omega)
      rw [run_succ_next hturn, ih _ _ (by omega), size_half hpos, add_right_comm, add_assoc]

theorem xUslBitWidth_eq {number : Nat} (h : number < 2 ^ 64) : xUslBitWidth number = some number.size := by
  rw [xUslBitWidth, run_bitWidthTurn 64 number 0 h, zero_add]

/-! ## `xUslLowBitSet32` and `xUslHighBitSet32` -/

def lowBitTurn (s : BitVec 32 × Int) : Turn (BitVec 32 × Int) Int :=
  if s.1 &&& 1 = 0 then .next (s.1 >>> 1, s.2 + 1) else .done s.2

def xUslLowBitSet32 (operand : BitVec 32) : Option Int :=
  if operand = 0 then some (-1) else run lowBitTurn 32 (operand, 0)

def highBitTurn (s : BitVec 32 × Int) : Turn (BitVec 32 × Int) Int :=
  if 0 < s.1.toInt then .next (s.1 <<< 1, s.2 - 1) else .done s.2

def xUslHighBitSet32 (operand : BitVec 32) : Option Int :=
  if operand = 0 then some (-1) else run highBitTurn 32 (operand, 31)

theorem run_lowBitTurn (fuel : Nat) (x : BitVec 32) (pos : Int) (hne : x ≠ 0) (h : x.toNat < 2 ^ fuel) :
    ∃ k : Nat, run lowBitTurn fuel (x, pos) = some (pos + k) ∧ x.toNat.testBit k = true := by
  induction fuel generalizing x pos with
  | zero => exact absurd (eq_of_toNat_eq (by simpa using h)) hne
  | succ fuel ih =>
    by_cases hlow : x &&& 1 = 0
    · have hturn : lowBitTurn (x, pos) = .next (x >>> 1, pos + 1) := if_pos hlow
      have hshift : (x >>> 1).toNat = x.toNat / 2 := by simp [shiftRight_eq_div_pow]
      have heven : x.toNat % 2 = 0 := by
        have := congrArg BitVec.toNat hlow
        simpa [and_one_is_mod] using this
      have hpos : x.toNat ≠ 0 := fun h0 => hne (eq_of_toNat_eq h0)
      have hne' : x >>> 1 ≠ 0 := by grind
      obtain ⟨k, hrun, hbit⟩ := ih (x >>> 1) (pos + 1) hne' (by omega)
      refine ⟨k + 1, ?_, ?_⟩
      · rw [run_succ_next hturn, hrun]
        push_cast
        ring_nf
      · rw [hshift] at hbit
        rw [testBit_succ]
        exact hbit
    · refine ⟨0, ?_, ?_⟩
      · have hturn : lowBitTurn (x, pos) = .done pos := if_neg hlow
        rw [run_succ_done hturn, Int.natCast_zero, Int.add_zero]
      · grind

theorem xUslLowBitSet32_spec {operand : BitVec 32} (h : operand ≠ 0) :
    ∃ k : Nat, xUslLowBitSet32 operand = some (k : Int) ∧ operand.toNat.testBit k = true := by
  obtain ⟨k, hrun, hbit⟩ := run_lowBitTurn 32 operand 0 h operand.isLt
  exact ⟨k, by rw [xUslLowBitSet32, if_neg h, hrun, Int.zero_add], hbit⟩

theorem run_highBitTurn (d : Nat) (x : BitVec 32) (pos : Int) (hne : x.toNat ≠ 0) (h : x.toNat.log2 + d = 31) :
    run highBitTurn (d + 1) (x, pos) = some (pos - d) := by
  induction d generalizing x pos with
  | zero =>
    have hge : 2 ^ 31 ≤ x.toNat := by
      have := log2_self_le hne
      rwa [show x.toNat.log2 = 31 from h] at this
    have hturn : highBitTurn (x, pos) = .done pos := by
      refine if_neg ?_
      dsimp only
      rw [toInt_eq_toNat_cond]
      have := x.isLt
      split <;> omega
    rw [run_succ_done hturn, Int.natCast_zero, Int.sub_zero]
  | succ d ih =>
    have hlt : x.toNat < 2 ^ 31 := (log2_lt hne).mp (by omega)
    have hturn : highBitTurn (x, pos) = .next (x <<< 1, pos - 1) := by
      refine if_pos ?_
      dsimp only
      rw [toInt_eq_toNat_cond, if_pos (by omega)]
      omega
    have hshift : (x <<< 1).toNat = 2 * x.toNat := by
      rw [BitVec.toNat_shiftLeft, Nat.shiftLeft_eq, pow_one, Nat.mod_eq_of_lt (by omega), Nat.mul_comm]
    rw [run_succ_next hturn, ih _ _ (by omega) (by rw [hshift, log2_two_mul hne]; omega)]
    congr 1
    push_cast
    ring

theorem xUslHighBitSet32_eq {operand : BitVec 32} (h : operand ≠ 0) :
    xUslHighBitSet32 operand = some (operand.toNat.log2 : Int) := by
  have hne : operand.toNat ≠ 0 := fun h0 => h (eq_of_toNat_eq h0)
  have hlt : operand.toNat.log2 < 32 := (log2_lt hne).mpr operand.isLt
  have hrun := run_highBitTurn (31 - operand.toNat.log2) operand 31 hne (by omega)
  have hmore := run_some_mono hrun operand.toNat.log2
  rw [show 31 - operand.toNat.log2 + 1 + operand.toNat.log2 = 32 by omega] at hmore
  rw [xUslHighBitSet32, if_neg h, hmore]
  congr 1
  omega

end OpenSil.Utils
