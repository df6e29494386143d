import OpenSil.XPrf.SmbiosMem

/-! # The capacity of a DIMM

The capacity of the SPD standard, and the size that `GetPhysicalDimmInfoD5` reports.
-/

namespace OpenSil.XPrf

open List Nat

structure SpdContent extends Spd where
  secondDensity : BitVec 5
  deriving DecidableEq

namespace SpdContent
variable (c : SpdContent)

/-- No code of the SPD data is reserved. -/
structure Valid : Prop where
  density : memSpdDecodeDensity c.firstDensity ≠ 0
  dies : memSpdDecodeDiesPerPackage c.firstDiePerPkg ≠ 0
  ioWidth : c.firstIoWidth.toNat ≤ 3
  busWidth : c.busWidth.toNat ≤ 3
  channels : c.numChannels.toNat ≤ 1
  second : c.rankMixAsymmetrical = true → memSpdDecodeDensity c.secondDensity ≠ 0 ∧
    memSpdDecodeDiesPerPackage c.secondDiePerPkg ≠ 0 ∧ c.secondIoWidth.toNat ≤ 3

def density (rank : Nat) : Nat :=
  memSpdDecodeDensity (if c.rankMixAsymmetrical ∧ rank % 2 = 1 then c.secondDensity else c.firstDensity)

def dimmWidth : Nat := (c.numChannels.toNat + 1) * busWidthDecode c.busWidth

def rankGigabytes (rank : Nat) : ℚ :=
  (c.dimmWidth : ℚ) / c.ioWidth rank * c.diePerPkg rank * c.density rank / 8

def describedSize : ℚ := ((List.range c.numRanks).map c.rankGigabytes).sum * 1024

/-- Whole chips and whole gigabytes. -/
def Whole (rank : Nat) : Prop :=
  c.ioWidth rank ∣ c.dimmWidth ∧ 8 ∣ c.dimmWidth / c.ioWidth rank * c.diePerPkg rank * c.density rank

end SpdContent

theorem floor_chain {a b k : Nat} (hb : 0 < b) (hk : 0 < k) :
    ((a / b * k / 8 : Nat) : ℚ) ≤ (a : ℚ) / b * k / 8 ∧
      (((a / b * k / 8 : Nat) : ℚ) = (a : ℚ) / b * k / 8 ↔ b ∣ a ∧ 8 ∣ a / b * k) := by
  -- The two remainders are what is lost.
  have hlost : a / b * k / 8 * 8 * b + (a / b * k % 8 * b + a % b * k) = a * k := by
    have h1 := div_add_mod a b
    have h2 := div_add_mod (a / b * k) 8
    calc a / b * k / 8 * 8 * b + (a / b * k % 8 * b + a % b * k)
        = (8 * (a / b * k / 8) + a / b * k % 8) * b + a % b * k := by ring
      _ = a / b * k * b + a % b * k := by rw [h2]
      _ = (b * (a / b) + a % b) * k := by ring
      _ = a * k := by rw [h1]
  have hb' : (0 : ℚ) < b := by exact_mod_cast hb
  have hexact : (a : ℚ) / b * k / 8 = (a * k : ℕ) / (8 * b) := by
    push_cast
    field_simp
  rw [hexact]
  constructor
  · rw [le_div_iff₀ (by positivity)]
    have : a / b * k / 8 * (8 * b) ≤ a * k := by rw [← mul_assoc]; omega
    exact_mod_cast this
  · rw [eq_div_iff (by positivity)]
    have hcast : ((a / b * k / 8 : Nat) : ℚ) * (8 * b) = (a * k : ℕ) ↔ a / b * k / 8 * (8 * b) = a * k := by
      exact_mod_cast Iff.rfl
    rw [hcast, ← mul_assoc, dvd_iff_mod_eq_zero, dvd_iff_mod_eq_zero]
    constructor
    · intro h
      have hzero : a / b * k % 8 * b + a % b * k = 0 := by omega
      rw [Nat.add_eq_zero_iff, mul_eq_zero, mul_eq_zero] at hzero
      omega
    · rintro ⟨h1, h2⟩
      rw [h1, h2] at hlost
      omega

open SpdContent

namespace SpdContent
variable {c : SpdContent}

theorem ioWidthDecode_pos {code : BitVec 3} (h : code.toNat ≤ 3) : 0 < ioWidthDecode code := by
  revert code
  decide

theorem Valid.ioWidth_pos (h : c.Valid) (rank : Nat) : 0 < c.ioWidth rank := by
  unfold Spd.ioWidth
  split
  · rename_i hsecond
    exact ioWidthDecode_pos (h.second hsecond.1).2.2
  · exact ioWidthDecode_pos h.ioWidth

theorem Valid.diePerPkg_pos (h : c.Valid) (rank : Nat) : 0 < c.diePerPkg rank := by
  unfold Spd.diePerPkg
  split
  · rename_i hsecond
    exact pos_of_ne_zero (h.second hsecond.1).2.1
  · exact pos_of_ne_zero h.dies

theorem Valid.density_pos (h : c.Valid) (rank : Nat) : 0 < c.density rank := by
  unfold SpdContent.density
  split
  · rename_i hsecond
    exact pos_of_ne_zero (h.second hsecond.1).1
  · exact pos_of_ne_zero h.density

theorem dimmWidth_pos (c : SpdContent) : 0 < c.dimmWidth := by
  unfold dimmWidth busWidthDecode
  rw [shiftLeft_eq]
  positivity

theorem Valid.rankGigabytes_pos (h : c.Valid) (rank : Nat) : 0 < c.rankGigabytes rank := by
  have h1 := h.ioWidth_pos rank
  have h2 := h.diePerPkg_pos rank
  have h3 := h.density_pos rank
  have h4 := c.dimmWidth_pos
  unfold rankGigabytes
  positivity

theorem Valid.rankSize_spec (h : c.Valid) {rank : Nat} (hsame : c.density rank = memSpdDecodeDensity c.firstDensity) :
    ∃ n, c.rankSize rank = some n ∧ (n : ℚ) ≤ c.rankGigabytes rank ∧ ((n : ℚ) = c.rankGigabytes rank ↔ c.Whole rank) := by
  have hio := h.ioWidth_pos rank
  have hk : 0 < c.diePerPkg rank * c.density rank := mul_pos (h.diePerPkg_pos rank) (h.density_pos rank)
  obtain ⟨hle, heq⟩ := floor_chain (a := c.dimmWidth) hio hk
  have hgb : c.rankGigabytes rank = (c.dimmWidth : ℚ) / c.ioWidth rank * (c.diePerPkg rank * c.density rank : ℕ) / 8 := by
    unfold rankGigabytes
    push_cast
    ring
  refine ⟨_, if_neg hio.ne', ?_⟩
  rw [← hsame, mul_assoc _ (c.diePerPkg rank), hgb, Whole, mul_assoc _ (c.diePerPkg rank)]
  exact ⟨hle, heq⟩

theorem capacity_of_one {n0 : Nat} (hranks : c.numRanks = 1) (h0 : c.rankSize 0 = some n0) :
    c.capacity = some (n0 * 1024) := by
  simp [Spd.capacity, Spd.ranks, hranks, h0]

theorem capacity_of_more {n0 n1 : Nat} (hranks : 2 ≤ c.numRanks) (h0 : c.rankSize 0 = some n0)
    (h1 : c.rankSize 1 = some n1) : c.capacity = some ((n0 + n1) * 1024) := by
  have hlist : c.ranks = [0, 1] := by
    unfold Spd.ranks
    rw [if_neg (by omega)]
    rfl
  simp [Spd.capacity, hlist, h0, h1]

end SpdContent

/-- The record has the size that the SPD data describe. -/
def SizeRight (t17 : Type17) (dimm : PhysicalDimm) (c : SpdContent) : Prop :=
  ∃ t, getPhysicalDimmInfoD5 t17 dimm = some t ∧ (t.size : ℚ) = c.describedSize

theorem sizeRight_iff (t17 : Type17) {dimm : PhysicalDimm} {c : SpdContent} (hpresent : dimm.dimmPresent = true)
    (hspd : dimm.spdData = some c.toSpd) {n : Nat} (hn : c.capacity = some n) :
    SizeRight t17 dimm c ↔ (n : ℚ) = c.describedSize := by
  have hget : dimm.spdData.getD .zero = c.toSpd := by rw [hspd]; rfl
  have hsize : dimm.size = n := by
    rw [PhysicalDimm.size, if_pos hpresent, hget, hn]
    rfl
  obtain ⟨t, ht, -⟩ := getPhysicalDimmInfoD5_of_present t17 hpresent (hget.symm ▸ hn)
  constructor
  · rintro ⟨t', ht', hright⟩
    rw [← hright, getPhysicalDimmInfoD5_size ht', hsize]
  · intro hright
    exact ⟨t, ht, by rw [getPhysicalDimmInfoD5_size ht, hsize, hright]⟩

namespace SpdContent
variable {c : SpdContent}

/-! ## Modules with equal ranks -/

section Symmetric
variable (hsym : c.rankMixAsymmetrical = false)
include hsym

theorem rankGigabytes_symmetric (rank : Nat) : c.rankGigabytes rank = c.rankGigabytes 0 := by
  simp [rankGigabytes, Spd.ioWidth, Spd.diePerPkg, density, hsym]

theorem density_symmetric (rank : Nat) : c.density rank = memSpdDecodeDensity c.firstDensity := by
  simp [density, hsym]

theorem rankSize_symmetric (rank : Nat) : c.rankSize rank = c.rankSize 0 := by
  simp [Spd.rankSize, Spd.ioWidth, Spd.diePerPkg, hsym]

theorem describedSize_symmetric : c.describedSize = c.numRanks * c.rankGigabytes 0 * 1024 := by
  have hconst : (range c.numRanks).map c.rankGigabytes = replicate c.numRanks (c.rankGigabytes 0) := by
    rw [eq_replicate_iff]
    refine ⟨by simp, fun size hsize => ?_⟩
    obtain ⟨rank, -, rfl⟩ := mem_map.1 hsize
    exact rankGigabytes_symmetric hsym rank
  rw [describedSize, hconst, sum_replicate, nsmul_eq_mul]

theorem capacity_symmetric {n : Nat} (hn : c.rankSize 0 = some n) :
    c.capacity = some (min c.numRanks 2 * n * 1024) := by
  have hpos : 0 < c.numRanks := succ_pos _
  by_cases hone : c.numRanks = 1
  · rw [capacity_of_one hone hn, hone]
    simp
  · have htwo : 2 ≤ c.numRanks := by omega
    have hsecond : c.rankSize 1 = some n := by rw [rankSize_symmetric hsym, hn]
    rw [capacity_of_more htwo hn hsecond, min_eq_right htwo, two_mul]

theorem capacity_symmetric_iff (h : c.Valid) {n : Nat} (hn : c.capacity = some n) :
    (n : ℚ) = c.describedSize ↔ c.numRanks ≤ 2 ∧ c.Whole 0 := by
  obtain ⟨m, hm, hle, hwhole⟩ := h.rankSize_spec (density_symmetric hsym 0)
  have hpos := h.rankGigabytes_pos 0
  rw [capacity_symmetric hsym hm, Option.some.injEq] at hn
  rw [← hn, describedSize_symmetric hsym, ← hwhole]
  push_cast
  have hmin : (min (c.numRanks : ℚ) 2) ≤ c.numRanks := min_le_left _ _
  have hranks : (0 : ℚ) < min (c.numRanks : ℚ) 2 := by
    have : (0 : ℚ) < c.numRanks := by exact_mod_cast succ_pos _
    exact lt_min this two_pos
  constructor
  · intro heq
    have heq' : min (c.numRanks : ℚ) 2 * m = c.numRanks * c.rankGigabytes 0 := by linarith
    -- Neither factor can make up for the other.
    have hfull : min (c.numRanks : ℚ) 2 = c.numRanks := by
      by_contra hne
      have hlt : min (c.numRanks : ℚ) 2 < c.numRanks := lt_of_le_of_ne hmin hne
      have : min (c.numRanks : ℚ) 2 * m < c.numRanks * c.rankGigabytes 0 := by
        calc min (c.numRanks : ℚ) 2 * m ≤ min (c.numRanks : ℚ) 2 * c.rankGigabytes 0 := by gcongr
          _ < c.numRanks * c.rankGigabytes 0 := by gcongr
      exact this.ne heq'
    refine ⟨by exact_mod_cast min_eq_left_iff.1 hfull, ?_⟩
    rw [hfull] at heq' hranks
    exact mul_left_cancel₀ hranks.ne' heq'
  · rintro ⟨htwo, heq⟩
    rw [heq, min_eq_left (by exact_mod_cast htwo)]

end Symmetric

theorem capacity_of_whole (h : c.Valid) (htwo : c.numRanks ≤ 2)
    (hwhole : ∀ rank < c.numRanks, c.density rank = memSpdDecodeDensity c.firstDensity ∧ c.Whole rank) :
    ∃ n, c.capacity = some n ∧ (n : ℚ) = c.describedSize := by
  have hpos : 0 < c.numRanks := succ_pos _
  obtain ⟨n0, hn0, -, hiff0⟩ := h.rankSize_spec (hwhole 0 hpos).1
  have h0 := hiff0.2 (hwhole 0 hpos).2
  by_cases hone : c.numRanks = 1
  · refine ⟨_, capacity_of_one hone hn0, ?_⟩
    simp [describedSize, hone, h0]
  · have hranks : c.numRanks = 2 := by omega
    obtain ⟨n1, hn1, -, hiff1⟩ := h.rankSize_spec (hwhole 1 (by omega)).1
    have h1 := hiff1.2 (hwhole 1 (by omega)).2
    refine ⟨_, capacity_of_more hranks.ge hn0 hn1, ?_⟩
    simp [describedSize, hranks, range_succ, h0, h1]

end SpdContent

/-- The size in the record is the one that the SPD data describe where at most two ranks are there, with chips of the
first density and without fractions of a gigabyte. -/
theorem getPhysicalDimmInfoD5_capacity (t17 : Type17) (dimm : PhysicalDimm) (c : SpdContent)
    (hpresent : dimm.dimmPresent = true) (hspd : dimm.spdData = some c.toSpd) (h : c.Valid) :
    (c.rankMixAsymmetrical = false → (SizeRight t17 dimm c ↔ c.numRanks ≤ 2 ∧ c.Whole 0)) ∧
    (c.numRanks ≤ 2 →
      (∀ rank < c.numRanks, c.density rank = memSpdDecodeDensity c.firstDensity ∧ c.Whole rank) →
      SizeRight t17 dimm c) := by
  constructor
  · intro hsym
    obtain ⟨m, hm, -⟩ := h.rankSize_spec (density_symmetric hsym 0)
    have hn := capacity_symmetric hsym hm
    rw [sizeRight_iff t17 hpresent hspd hn, capacity_symmetric_iff hsym h hn]
  · intro htwo hwhole
    obtain ⟨n, hn, heq⟩ := capacity_of_whole h htwo hwhole
    exact (sizeRight_iff t17 hpresent hspd hn).2 heq

def moduleContent (ranksPerChannel : BitVec 3) (rankMixAsymmetrical : Bool) : SpdContent :=
  { Spd.zero with
    firstDensity := 4
    firstIoWidth := 1
    secondIoWidth := 1
    ranksPerChannel
    rankMixAsymmetrical
    busWidth := 2
    numChannels := 1
    secondDensity := 2 }

theorem moduleContent_valid (ranksPerChannel : BitVec 3) (rankMixAsymmetrical : Bool) :
    (moduleContent ranksPerChannel rankMixAsymmetrical).Valid where
  density := (by decide : memSpdDecodeDensity 4 ≠ 0)
  dies := (by decide : memSpdDecodeDiesPerPackage 0 ≠ 0)
  ioWidth := (by decide : (1 : BitVec 3).toNat ≤ 3)
  busWidth := (by decide : (2 : BitVec 3).toNat ≤ 3)
  channels := (by decide : (1 : BitVec 2).toNat ≤ 1)
  second _ := (by decide : memSpdDecodeDensity 2 ≠ 0 ∧ memSpdDecodeDiesPerPackage 0 ≠ 0 ∧ (1 : BitVec 3).toNat ≤ 3)

theorem getPhysicalDimmInfoD5_capacity_two_ranks :
    SizeRight blankType17 (presentDimm 0 0 (moduleContent 1 false).toSpd) (moduleContent 1 false) :=
  ((getPhysicalDimmInfoD5_capacity blankType17 (presentDimm 0 0 (moduleContent 1 false).toSpd) (moduleContent 1 false)
    rfl rfl (moduleContent_valid 1 false)).1 rfl).2 ⟨by decide, by unfold Whole; decide⟩

/-- Four ranks of 16 GB are a size of 32 GB, and so is one rank of 16 GB with one of 8 GB. -/
theorem getPhysicalDimmInfoD5_miscounts :
    ((moduleContent 3 false).Valid ∧ (moduleContent 3 false).describedSize = 65536 ∧
      ∃ t, getPhysicalDimmInfoD5 blankType17 (presentDimm 0 0 (moduleContent 3 false).toSpd) = some t ∧ t.size = 32768) ∧
    ((moduleContent 1 true).Valid ∧ (moduleContent 1 true).describedSize = 24576 ∧
      ∃ t, getPhysicalDimmInfoD5 blankType17 (presentDimm 0 0 (moduleContent 1 true).toSpd) = some t ∧ t.size = 32768) :=
  ⟨⟨moduleContent_valid 3 false, by decide +kernel, _, rfl, by decide⟩,
    ⟨moduleContent_valid 1 true, by decide +kernel, _, rfl, by decide⟩⟩

end OpenSil.XPrf
