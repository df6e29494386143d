import OpenSil.Lib.Tiling
import Mathlib.Data.Nat.BitIndices

/-! # Aligned ranges for the bits of a number

A range from a base on is taken apart from its highest bit down.
-/

open OpenSil.Tiling List Nat

namespace OpenSil.Dyadic

/-- The first `n` pieces of the range of length `rest` from `base` on: where each starts, and its size as a power. -/
def pieces : Nat → Nat → Nat → List (Nat × Nat)
  | 0, _, _ => []
  | n + 1, base, rest =>
    if rest = 0 then [] else (base, rest.log2) :: pieces n (base + 2 ^ rest.log2) (rest - 2 ^ rest.log2)

/-- The length that the first `n` pieces leave. -/
def left : Nat → Nat → Nat
  | 0, rest => rest
  | n + 1, rest => if rest = 0 then 0 else left n (rest - 2 ^ rest.log2)

/-- The number of ones of a number. -/
def ones (n : Nat) : Nat := n.bitIndices.length

/-- The bits of the base are all above those of the length. -/
def Fits (base rest : Nat) : Prop := ∃ m, rest < 2 ^ m ∧ 2 ^ m ∣ base

variable {n base rest : Nat}

theorem fits_zero (rest : Nat) : Fits 0 rest := ⟨rest, Nat.lt_two_pow_self, dvd_zero _⟩

theorem two_pow_log2_le (h : rest ≠ 0) : 2 ^ rest.log2 ≤ rest := log2_self_le h

theorem Fits.dvd (h : Fits base rest) (hrest : rest ≠ 0) : 2 ^ rest.log2 ∣ base := by
  obtain ⟨m, hlt, hdvd⟩ := h
  exact (pow_dvd_pow 2 ((log2_lt hrest).mpr hlt).le).trans hdvd

theorem Fits.step (h : Fits base rest) (hrest : rest ≠ 0) : Fits (base + 2 ^ rest.log2) (rest - 2 ^ rest.log2) := by
  refine ⟨rest.log2, ?_, dvd_add (h.dvd hrest) dvd_rfl⟩
  have := lt_log2_self (n := rest)
  rw [pow_succ] at this
  omega

theorem ones_step (hrest : rest ≠ 0) : ones rest = ones (rest - 2 ^ rest.log2) + 1 := by
  have hle := two_pow_log2_le hrest
  have hlt : rest - 2 ^ rest.log2 < 2 ^ rest.log2 := by
    have := Nat.lt_log2_self (n := rest)
    rw [pow_succ] at this
    omega
  have hsorted : ((rest - 2 ^ rest.log2).bitIndices ++ [rest.log2]).SortedLT := by
    rw [List.sortedLT_iff_pairwise, List.pairwise_append]
    refine ⟨Nat.bitIndices_sorted.pairwise, List.pairwise_singleton _ _, fun i hi j hj => ?_⟩
    rw [List.mem_singleton.mp hj]
    exact (Nat.pow_lt_pow_iff_right (by decide)).mp ((Nat.two_pow_le_of_mem_bitIndices hi).trans_lt hlt)
  have hsum := Nat.bitIndices_sum_map_two_pow hsorted
  rw [List.map_append, List.sum_append, Nat.sum_map_two_pow_bitIndices, List.map_singleton, List.sum_singleton,
    Nat.sub_add_cancel hle] at hsum
  rw [ones, hsum, List.length_append, List.length_singleton, ones]

theorem ones_eq_countP {w : Nat} (h : rest < 2 ^ w) : ones rest = (range w).countP rest.testBit := by
  have hperm : rest.bitIndices.Perm ((range w).filter rest.testBit) := by
    rw [perm_ext_iff_of_nodup bitIndices_nodup (nodup_range.filter _)]
    intro i
    rw [mem_bitIndices, mem_filter, mem_range, iff_and_self]
    intro hi
    exact (Nat.pow_lt_pow_iff_right (by decide)).mp ((Nat.ge_two_pow_of_testBit hi).trans_lt h)
  rw [ones, hperm.length_eq, countP_eq_length_filter]

theorem length_pieces (n base rest : Nat) : (pieces n base rest).length = min n (ones rest) := by
  induction n generalizing base rest with
  | zero => simp [pieces]
  | succ n ih =>
    unfold pieces
    split
    · rename_i h
      simp [h, ones]
    · rename_i h
      rw [length_cons, ih, ones_step h]
      omega

theorem dvd_of_mem_pieces (h : Fits base rest) {p : Nat × Nat} (hp : p ∈ pieces n base rest) : 2 ^ p.2 ∣ p.1 := by
  induction n generalizing base rest with
  | zero => simp [pieces] at hp
  | succ n ih =>
    unfold pieces at hp
    split at hp
    · simp at hp
    · rename_i hrest
      rcases mem_cons.mp hp with rfl | hp
      · exact h.dvd hrest
      · exact ih (h.step hrest) hp

theorem left_le (n rest : Nat) : left n rest ≤ rest := by
  induction n generalizing rest with
  | zero => exact le_refl _
  | succ n ih =>
    unfold left
    split
    · exact zero_le _
    · exact (ih _).trans (sub_le _ _)

theorem left_eq_zero_iff (n rest : Nat) : left n rest = 0 ↔ ones rest ≤ n := by
  induction n generalizing rest with
  | zero =>
    have hnil : rest.bitIndices = [] ↔ rest = 0 := by
      constructor
      · intro h
        rw [← sum_map_two_pow_bitIndices rest, h]
        rfl
      · rintro rfl
        exact bitIndices_zero
    rw [left, le_zero, ones, length_eq_zero_iff, hnil]
  | succ n ih =>
    unfold left
    split
    · rename_i h
      simp [h, ones]
    · rename_i h
      rw [ih, ones_step h, add_le_add_iff_right]

/-- The pieces follow each other, up to the length that is left. -/
theorem tiles_pieces (n base rest : Nat) :
    Tiles Prod.fst (fun p : Nat × Nat => 2 ^ p.2) base (pieces n base rest) (base + (rest - left n rest)) := by
  induction n generalizing base rest with
  | zero => simp [pieces, left, Tiles]
  | succ n ih =>
    unfold pieces left
    split
    · rename_i h
      simp [h, Tiles]
    · rename_i h
      have hle := two_pow_log2_le h
      have hleft := left_le n (rest - 2 ^ rest.log2)
      refine ⟨rfl, ?_⟩
      have hend : base + (rest - left n (rest - 2 ^ rest.log2)) = base + 2 ^ rest.log2 +
          (rest - 2 ^ rest.log2 - left n (rest - 2 ^ rest.log2)) := by
        generalize 2 ^ rest.log2 = size at hle hleft ⊢
        omega
      rw [hend]
      exact ih _ _

end OpenSil.Dyadic
