import Mathlib.Tactic

/-! # Bounds and alignment of 64-bit words

A mask is a word of low ones, `2 ^ k - 1`.
-/

namespace OpenSil.Word

open Nat BitVec UInt64

/-- `(x > lo) ? x : lo`. -/
def atLeast (x lo : UInt64) : UInt64 := if lo < x then x else lo

/-- `(x < hi) ? x : hi`. -/
def atMost (x hi : UInt64) : UInt64 := if x < hi then x else hi

theorem toNat_add_eq {a b : UInt64} (h : a.toNat + b.toNat < 2 ^ 64) : (a + b).toNat = a.toNat + b.toNat := by
  rw [UInt64.toNat_add, Nat.mod_eq_of_lt h]

theorem toNat_sub_eq {a b : UInt64} (h : b.toNat ≤ a.toNat) : (a - b).toNat = a.toNat - b.toNat :=
  UInt64.toNat_sub_of_le a b (UInt64.le_iff_toNat_le.mpr h)

theorem toNat_pred {n : UInt8} (h : n ≠ 0) : 1 ≤ n.toNat ∧ (n - 1).toNat = n.toNat - 1 := by
  have hone : 1 ≤ n.toNat := pos_of_ne_zero fun h0 => h (UInt8.toNat_inj.mp h0)
  exact ⟨hone, UInt8.toNat_sub_of_le _ _ (UInt8.le_iff_toNat_le.mpr hone)⟩

@[simp] theorem toNat_atLeast (x lo : UInt64) : (atLeast x lo).toNat = max x.toNat lo.toNat := by
  unfold atLeast
  simp only [lt_iff_toNat_lt]
  split <;> omega

@[simp] theorem toNat_atMost (x hi : UInt64) : (atMost x hi).toNat = min x.toNat hi.toNat := by
  unfold atMost
  simp only [lt_iff_toNat_lt]
  split <;> omega

/-- `mask` is a word of `k` low ones. -/
def IsMask (mask : UInt64) : Prop := ∃ k, mask.toNat + 1 = 2 ^ k

def alignUp (x mask : UInt64) : UInt64 := (x + mask) &&& ~~~mask

def alignDown (x mask : UInt64) : UInt64 := x &&& ~~~mask

theorem and_add_and_not {w : Nat} (a b : BitVec w) : (a &&& b) + (a &&& ~~~b) = a := by
  rw [add_eq_or_of_and_eq_zero]
  · ext i hi
    simp only [getElem_or, getElem_and, getElem_not]
    cases a[i] <;> cases b[i] <;> rfl
  · ext i hi
    simp only [getElem_and, getElem_not, getElem_zero]
    cases a[i] <;> cases b[i] <;> rfl

variable {x mask : UInt64} {k : Nat}

theorem toNat_and_mask (x : UInt64) (h : mask.toNat + 1 = 2 ^ k) : (x &&& mask).toNat = x.toNat % 2 ^ k := by
  rw [UInt64.toNat_and, show mask.toNat = 2 ^ k - 1 by omega, Nat.and_two_pow_sub_one_eq_mod]

theorem toNat_alignDown (x : UInt64) (h : mask.toNat + 1 = 2 ^ k) :
    (alignDown x mask).toNat = x.toNat - x.toNat % 2 ^ k := by
  unfold alignDown
  have hsplit : (x &&& mask) + (x &&& ~~~mask) = x := UInt64.toBitVec_inj.mp (and_add_and_not _ _)
  have hnat := congrArg toNat hsplit
  rw [UInt64.toNat_add, toNat_and_mask x h] at hnat
  have hle := mod_le x.toNat (2 ^ k)
  have h1 := (x &&& ~~~mask).toNat_lt
  have h2 := x.toNat_lt
  omega

/-- The first multiple of `m + 1` from `n` on. -/
def roundUp (n m : Nat) : Nat := n + m - (n + m) % (m + 1)

theorem le_roundUp (n m : Nat) : n ≤ roundUp n m := by
  have : (n + m) % (m + 1) < m + 1 := mod_lt _ (by omega)
  unfold roundUp
  omega

/-- A multiple that is passed by adding `m` is not passed by rounding up. -/
theorem le_roundUp_of_dvd {n m c : Nat} (hc : m + 1 ∣ c) (h : c ≤ n + m) : c ≤ roundUp n m := by
  obtain ⟨q, rfl⟩ := hc
  have hdiv : q ≤ (n + m) / (m + 1) := (le_div_iff_mul_le (by omega)).mpr (by rwa [mul_comm])
  have hmul := mul_le_mul_left (m + 1) hdiv
  have hsplit := div_add_mod (n + m) (m + 1)
  unfold roundUp
  omega

theorem roundUp_le (n m : Nat) : roundUp n m ≤ n + m := by
  unfold roundUp
  omega

theorem roundUp_add {n m d : Nat} (hd : m + 1 ∣ d) : roundUp (n + d) m = roundUp n m + d := by
  have hmod : (n + d + m) % (m + 1) = (n + m) % (m + 1) := by
    obtain ⟨q, rfl⟩ := hd
    rw [add_right_comm, add_mul_mod_self_left]
  have hle := mod_le (n + m) (m + 1)
  unfold roundUp
  omega

theorem toNat_roundUp32 {x mask : UInt32} (h : mask.toNat + 1 = 2 ^ k) (hwrap : x.toNat + mask.toNat < 2 ^ 32) :
    ((x + mask) &&& ~~~mask).toNat = roundUp x.toNat mask.toNat := by
  have hsplit : ((x + mask) &&& mask) + ((x + mask) &&& ~~~mask) = x + mask :=
    UInt32.toBitVec_inj.mp (and_add_and_not _ _)
  have hnat := congrArg UInt32.toNat hsplit
  have hlow : ((x + mask) &&& mask).toNat = (x + mask).toNat % 2 ^ k := by
    rw [UInt32.toNat_and, show mask.toNat = 2 ^ k - 1 by omega, and_two_pow_sub_one_eq_mod]
  have hsum : (x + mask).toNat = x.toNat + mask.toNat := by
    rw [UInt32.toNat_add, mod_eq_of_lt hwrap]
  rw [UInt32.toNat_add, hlow, hsum] at hnat
  have hle := mod_le (x.toNat + mask.toNat) (2 ^ k)
  have hlt := ((x + mask) &&& ~~~mask).toNat_lt
  unfold roundUp
  rw [h]
  omega

/-- Aligning up moves to the next multiple, or past the end of the address space to 0. -/
theorem toNat_alignUp (x : UInt64) (h : mask.toNat + 1 = 2 ^ k) :
    (alignUp x mask).toNat = if x.toNat + mask.toNat < 2 ^ 64 then roundUp x.toNat mask.toNat else 0 := by
  have hdown := toNat_alignDown (x + mask) h
  unfold alignDown at hdown
  unfold alignUp roundUp
  rw [hdown, UInt64.toNat_add, h]
  split
  · rw [mod_eq_of_lt ‹_›]
  · have hx := x.toNat_lt
    have hm := mask.toNat_lt
    have hwrap : (x.toNat + mask.toNat) % 2 ^ 64 < 2 ^ k := by omega
    rw [Nat.mod_eq_of_lt hwrap, Nat.sub_self]

variable {n : Nat}

/-- Past the end of the address space, the next multiple is out of it. -/
theorem le_roundUp_of_wrap (h : mask.toNat + 1 = 2 ^ k) (hwrap : 2 ^ 64 ≤ n + mask.toNat) :
    2 ^ 64 ≤ roundUp n mask.toNat := by
  have hk : k ≤ 64 := by
    by_contra hk
    have := Nat.pow_lt_pow_right (a := 2) (by decide) (not_le.mp hk)
    have := mask.toNat_lt
    omega
  exact le_roundUp_of_dvd (h ▸ pow_dvd_pow 2 hk) hwrap

variable {g : Nat}

theorem pow_dvd_of_mask_lt (h : mask.toNat + 1 = 2 ^ k) (hlt : mask.toNat < 2 ^ g) : 2 ^ k ∣ 2 ^ g :=
  Nat.pow_dvd_pow 2 ((Nat.pow_le_pow_iff_right (a := 2) (by decide)).mp (by omega))

theorem alignUp_of_dvd (hmask : IsMask mask) (hlt : mask.toNat < 2 ^ g) (hx : 2 ^ g ∣ x.toNat) :
    alignUp x mask = x := by
  obtain ⟨k, hk⟩ := hmask
  obtain ⟨q, hq⟩ := (pow_dvd_of_mask_lt hk hlt).trans hx
  have hmod : (x.toNat + mask.toNat) % (mask.toNat + 1) = mask.toNat := by
    rw [hk, hq, mul_add_mod, mod_eq_of_lt (by omega)]
  have hwrap : x.toNat + mask.toNat < 2 ^ 64 := by
    by_contra hge
    have h0 := toNat_alignUp x hk
    have hroom := le_roundUp_of_wrap hk (not_lt.mp hge)
    have hxlt := x.toNat_lt
    unfold roundUp at hroom
    omega
  apply UInt64.toNat_inj.mp
  rw [toNat_alignUp x hk, if_pos hwrap, roundUp, hmod, Nat.add_sub_cancel]

theorem dvd_alignUp (hmask : IsMask mask) (hx : 2 ^ g ∣ x.toNat) : 2 ^ g ∣ (alignUp x mask).toNat := by
  by_cases hlt : mask.toNat < 2 ^ g
  · rwa [alignUp_of_dvd hmask hlt hx]
  · obtain ⟨k, hk⟩ := hmask
    have hgk : 2 ^ g ∣ mask.toNat + 1 :=
      hk ▸ Nat.pow_dvd_pow 2 ((Nat.pow_le_pow_iff_right (a := 2) (by decide)).mp (by omega))
    rw [toNat_alignUp x hk]
    split
    · exact hgk.trans (dvd_sub_mod _)
    · exact dvd_zero _

theorem add_toNat_alignUp_sub (x : UInt64) (h : mask.toNat + 1 = 2 ^ k) :
    x.toNat + (alignUp x mask - x).toNat =
      if x.toNat + mask.toNat < 2 ^ 64 then roundUp x.toNat mask.toNat else 2 ^ 64 := by
  have hup := toNat_alignUp x h
  have hx := x.toNat_lt
  have hm := mask.toNat_lt
  split at hup <;> rename_i hwrap
  · have hle := le_roundUp x.toNat mask.toNat
    rw [if_pos hwrap, toNat_sub_eq (by omega), hup]
    omega
  · rw [if_neg hwrap, UInt64.toNat_sub, hup]
    omega

theorem alignDown_of_dvd (hmask : IsMask mask) (hlt : mask.toNat < 2 ^ g) (hx : 2 ^ g ∣ x.toNat) :
    alignDown x mask = x := by
  obtain ⟨k, hk⟩ := hmask
  apply UInt64.toNat_inj.mp
  rw [toNat_alignDown x hk, Nat.mod_eq_zero_of_dvd ((pow_dvd_of_mask_lt hk hlt).trans hx), Nat.sub_zero]

variable {y : UInt64}

section
variable (hg : g ≤ 64) (hx : 2 ^ g ∣ x.toNat) (hy : 2 ^ g ∣ y.toNat)
include hg hx hy

/-- Multiples of a power of two stay multiples when a sum or a difference wraps. -/
theorem dvd_toNat_add : 2 ^ g ∣ (x + y).toNat := by
  rw [UInt64.toNat_add]
  exact (dvd_mod_iff (pow_dvd_pow 2 hg)).mpr (dvd_add hx hy)

theorem dvd_toNat_sub : 2 ^ g ∣ (x - y).toNat := by
  have h64 : 2 ^ g ∣ 2 ^ 64 := pow_dvd_pow 2 hg
  rw [UInt64.toNat_sub]
  exact (dvd_mod_iff h64).mpr (dvd_add (dvd_sub h64 hy) hx)

end

theorem alignUp_and_mask (x : UInt64) (mask : UInt64) : alignUp x mask &&& mask = 0 := by
  unfold alignUp
  rw [UInt64.and_assoc]
  have h0 : ~~~mask &&& mask = 0 := by
    apply UInt64.toBitVec_inj.mp
    ext i hi
    simp
  rw [h0, UInt64.and_zero]

theorem and_mask_of_dvd (hmask : IsMask mask) (hlt : mask.toNat < 2 ^ g) (hx : 2 ^ g ∣ x.toNat) : x &&& mask = 0 := by
  rw [← alignUp_of_dvd hmask hlt hx]
  exact alignUp_and_mask x mask

/-- `width` bits of a register, from bit `lo` up. -/
def bits (v : UInt32) (lo width : Nat) : Nat := v.toNat / 2 ^ lo % 2 ^ width

theorem toBitVec_shiftLeft_ofNat (x : UInt64) (h : n < 64) : (x <<< UInt64.ofNat n).toBitVec = x.toBitVec <<< n := by
  have hn : ((ofNat n).toBitVec % 64).toNat = n := by
    simp
    omega
  rw [UInt64.toBitVec_shiftLeft, BitVec.shiftLeft_eq', hn]

theorem toBitVec_shiftRight_ofNat (x : UInt64) (h : n < 64) : (x >>> UInt64.ofNat n).toBitVec = x.toBitVec >>> n := by
  have hn : ((ofNat n).toBitVec % 64).toNat = n := by
    simp
    omega
  rw [UInt64.toBitVec_shiftRight, ushiftRight_eq', hn]

theorem toNat_or_shiftLeft_sixteen {low high : UInt32} (hlow : low.toNat < 2 ^ 16) (hhigh : high.toNat < 2 ^ 16) :
    (low ||| high <<< 16).toNat = high.toNat * 2 ^ 16 + low.toNat := by
  have hshift : (high <<< 16).toNat = high.toNat <<< 16 := by
    rw [UInt32.toNat_shiftLeft]
    refine Nat.mod_eq_of_lt ?_
    show high.toNat <<< 16 < 2 ^ 32
    rw [Nat.shiftLeft_eq]
    omega
  rw [UInt32.toNat_or, hshift, Nat.or_comm, ← Nat.shiftLeft_add_eq_or_of_lt hlow, Nat.shiftLeft_eq]

theorem getLsbD_ones {width : Nat} (h : width ≤ 64) (i : Nat) :
    (ofNat (2 ^ width - 1)).toBitVec.getLsbD i = decide (i < width) := by
  change (BitVec.ofNat 64 (2 ^ width - 1)).getLsbD i = _
  rw [getLsbD_ofNat, testBit_two_pow_sub_one]
  grind

end OpenSil.Word
