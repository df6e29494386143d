import Mathlib.Tactic

/-! # Fields put side by side

A high field above `k` bits of a low field, as shift and or give it.
-/

namespace OpenSil.Pack

open Nat

variable {hi hi' lo lo' k : Nat}

theorem shiftLeft_or (h : lo < 2 ^ k) : hi <<< k ||| lo = hi * 2 ^ k + lo := by
  rw [← shiftLeft_add_eq_or_of_lt h, shiftLeft_eq]

theorem pack_lt_pow {n : Nat} (hhi : hi < 2 ^ n) (hlo : lo < 2 ^ k) : hi * 2 ^ k + lo < 2 ^ (n + k) := by
  have hmul : (hi + 1) * 2 ^ k ≤ 2 ^ n * 2 ^ k := mul_le_mul_right _ hhi
  rw [add_mul, one_mul] at hmul
  rw [pow_add]
  omega

/-- Packing goes along with the lexicographic order, if the low fields go along with the order of what they stand for. -/
theorem pack_lt_pack {α : Type*} [Preorder α] {x x' : α} (hlo : lo < 2 ^ k) (h : toLex (hi, x) < toLex (hi', x'))
    (hmono : x < x' → lo < lo') : hi * 2 ^ k + lo < hi' * 2 ^ k + lo' := by
  rcases Prod.Lex.toLex_lt_toLex.mp h with hlt | ⟨heq, hlt⟩
  · have hmul : (hi + 1) * 2 ^ k ≤ hi' * 2 ^ k := mul_le_mul_right _ hlt
    rw [add_mul, one_mul] at hmul
    omega
  · dsimp only at heq
    have := hmono hlt
    subst heq
    omega

end OpenSil.Pack
