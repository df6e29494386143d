import OpenSil.RcMgr.Types

/-! # The window above 4G -/

namespace OpenSil.RcMgr

open Word UInt64

structure Window where
  base : UInt64
  limit : UInt64
  deriving DecidableEq

variable (blk : InputBlk) (sys : SystemInfo)

def baseAbove4G : UInt64 := atLeast sys.tom2 0x100000000

/-- `(1ull << width) - 0x300000000`, where the shift takes its count modulo 64. -/
def physicalLimit : UInt64 :=
  ((1 : UInt64) <<< (sys.physAddrSize - sys.physAddrReduction)) - 0x300000000

def configuredLimit : UInt64 :=
  if blk.mmioAbove4GLimit < physicalLimit sys then (blk.mmioAbove4GLimit + 1) &&& 0xFFFFFFFFFFFF0000
  else physicalLimit sys

def configuredWindow (lift : Bool) (blk : InputBlk) (sys : SystemInfo) : Window :=
  if lift ∧ blk.mmioAbove4GLimit < physicalLimit sys ∧ configuredLimit blk sys ≤ baseAbove4G sys then
    ⟨baseAbove4G sys, baseAbove4G sys⟩
  else ⟨baseAbove4G sys, configuredLimit blk sys⟩

def cutPcieHole (w : Window) : Window :=
  let p := blk.pciExpressBaseAddress
  if 0x100000000 ≤ p then
    if p - sys.tom2 < w.limit - (p + sys.pciCfgSpace) then { w with base := p + sys.pciCfgSpace }
    else { w with limit := p }
  else w

def mmioSizeBelowHole (w : Window) : UInt64 :=
  if w.base < 0xFD00000000 then atMost w.limit 0xFD00000000 - w.base else 0

def mmioSizeAboveHole (w : Window) : UInt64 :=
  if 0x10000000000 < w.limit then w.limit - atLeast w.base 0x10000000000 else 0

/-- The hole at 0xFD_0000_0000 ~ 0x100_0000_0000: the larger side of it is kept. -/
def cutTerabyteHole (w : Window) : Window :=
  if mmioSizeBelowHole w = 0 ∧ mmioSizeAboveHole w = 0 then { w with limit := 0 }
  else if mmioSizeBelowHole w < mmioSizeAboveHole w then
    -- The base is found from TOM2 again, not from the base so far.
    { w with base := atLeast sys.tom2 0x10000000000 }
  else { w with limit := atMost w.limit 0xFD00000000 }

def windowAbove4G (lift : Bool) (blk : InputBlk) (sys : SystemInfo) : Window :=
  cutTerabyteHole sys (cutPcieHole blk sys (configuredWindow lift blk sys))

def nvWindow : InputBlk → SystemInfo → Window := windowAbove4G true

def equallyWindow : InputBlk → SystemInfo → Window := windowAbove4G false

/-! ## What a clean window is -/

/-- Every address is above the memory and 4G, below both limits, and in neither hole. -/
def Window.Clean (w : Window) (blk : InputBlk) (sys : SystemInfo) : Prop :=
  ∀ a : Nat, w.base.toNat ≤ a → a < w.limit.toNat →
    (sys.tom2.toNat ≤ a ∧ 0x100000000 ≤ a) ∧
    (a < (physicalLimit sys).toNat ∧ a ≤ blk.mmioAbove4GLimit.toNat) ∧
    ¬ (blk.pciExpressBaseAddress.toNat ≤ a ∧ a < blk.pciExpressBaseAddress.toNat + sys.pciCfgSpace.toNat) ∧
    ¬ (0xFD00000000 ≤ a ∧ a < 0x10000000000)

/-- A configuration space above 4G is between TOM2 and the limit. -/
def PcieAboveTom2 : Prop :=
  0x100000000 ≤ blk.pciExpressBaseAddress →
    sys.tom2 ≤ blk.pciExpressBaseAddress ∧
    blk.pciExpressBaseAddress.toNat + sys.pciCfgSpace.toNat < (configuredLimit blk sys).toNat

/-- The PCIe configuration space is above 4G, ends above the terabyte hole, and has more room behind it than before. -/
def PcieEndsAboveHole : Prop :=
  0x100000000 ≤ blk.pciExpressBaseAddress ∧
  0x10000000000 < blk.pciExpressBaseAddress.toNat + sys.pciCfgSpace.toNat ∧
  blk.pciExpressBaseAddress.toNat - sys.tom2.toNat <
    (configuredLimit blk sys).toNat - (blk.pciExpressBaseAddress.toNat + sys.pciCfgSpace.toNat)

/-- The PCIe configuration space starts below 4G and reaches over the start of a window below the terabyte hole. -/
def PcieReachesIn : Prop :=
  let base := max sys.tom2.toNat 0x100000000
  blk.pciExpressBaseAddress < 0x100000000 ∧
  base < blk.pciExpressBaseAddress.toNat + sys.pciCfgSpace.toNat ∧
  base < (configuredLimit blk sys).toNat ∧
  (configuredLimit blk sys).toNat - 0x10000000000 ≤ 0xFD00000000 - base

instance : Decidable (PcieAboveTom2 blk sys) :=
  inferInstanceAs (Decidable (_ → _))

instance : Decidable (PcieEndsAboveHole blk sys) :=
  inferInstanceAs (Decidable (_ ∧ _))

instance : Decidable (PcieReachesIn blk sys) :=
  inferInstanceAs (Decidable (_ ∧ _))

/-! ## The cuts, address by address -/

def Window.Holds (w : Window) (a : Nat) : Prop := w.base.toNat ≤ a ∧ a < w.limit.toNat

theorem toNat_baseAbove4G : (baseAbove4G sys).toNat = max sys.tom2.toNat 0x100000000 := by
  simp [baseAbove4G]

section
variable {base limit : UInt64} {b l : Nat}

theorem toNat_mmioSizeBelowHole (hb : base.toNat = b) (hl : limit.toNat = l) (h : b ≤ l) :
    (mmioSizeBelowHole ⟨base, limit⟩).toNat = min l 0xFD00000000 - b := by
  have hlt := limit.toNat_lt
  unfold mmioSizeBelowHole
  simp only [UInt64.lt_iff_toNat_lt, UInt64.reduceToNat]
  split <;> simp only [UInt64.toNat_sub, toNat_atMost, UInt64.reduceToNat] <;> omega

theorem toNat_mmioSizeAboveHole (hb : base.toNat = b) (hl : limit.toNat = l) (h : b ≤ l) :
    (mmioSizeAboveHole ⟨base, limit⟩).toNat = l - max b 0x10000000000 := by
  have hlt := limit.toNat_lt
  unfold mmioSizeAboveHole
  simp only [UInt64.lt_iff_toNat_lt, UInt64.reduceToNat]
  split <;> simp only [UInt64.toNat_sub, toNat_atLeast, UInt64.reduceToNat] <;> omega

theorem holds_cutTerabyteHole (hb : base.toNat = b) (hl : limit.toNat = l) (h : b ≤ l)
    (a : Nat) :
    (cutTerabyteHole sys ⟨base, limit⟩).Holds a ↔
      if min l 0xFD00000000 - b < l - max b 0x10000000000 then max sys.tom2.toNat 0x10000000000 ≤ a ∧ a < l
      else (b ≤ a ∧ a < l) ∧ a < 0xFD00000000 := by
  unfold cutTerabyteHole Window.Holds
  simp only [← UInt64.toNat_inj, UInt64.lt_iff_toNat_lt, toNat_mmioSizeBelowHole hb hl h,
    toNat_mmioSizeAboveHole hb hl h, UInt64.reduceToNat]
  split_ifs with hz hs hs
  · omega
  · -- Nothing is left on either side.
    simp only [UInt64.reduceToNat]
    omega
  · simp only [toNat_atLeast, UInt64.reduceToNat, hl]
  · simp only [toNat_atMost, UInt64.reduceToNat]
    omega

end

theorem holds_cutTerabyteHole_of_empty {w : Window} (hb : w.base = baseAbove4G sys)
    (h : w.limit ≤ w.base) (a : Nat) : ¬ (cutTerabyteHole sys w).Holds a := by
  have hbase := toNat_baseAbove4G sys
  rw [← hb] at hbase
  rw [le_iff_toNat_le] at h
  unfold cutTerabyteHole Window.Holds
  split_ifs with hz hs
  · simp
  · -- A larger size above the hole means a limit above it, so the base is TOM2.
    have habove : 0x10000000000 < w.limit.toNat := by
      by_contra hlow
      unfold mmioSizeAboveHole at hs
      rw [if_neg (by simpa [lt_iff_toNat_lt] using hlow)] at hs
      simp [lt_iff_toNat_lt] at hs
    simp only [toNat_atLeast, reduceToNat]
    omega
  · simp only [toNat_atMost, reduceToNat]
    omega

/-! ## The window as a whole -/

theorem configuredLimit_le :
    (configuredLimit blk sys).toNat ≤ (physicalLimit sys).toNat ∧
    (configuredLimit blk sys).toNat ≤ blk.mmioAbove4GLimit.toNat + 1 := by
  unfold configuredLimit
  have hlt := (physicalLimit sys).toNat_lt
  split <;> rename_i h <;> rw [lt_iff_toNat_lt] at h
  · have hand : ((blk.mmioAbove4GLimit + 1) &&& 0xFFFFFFFFFFFF0000).toNat ≤ (blk.mmioAbove4GLimit + 1).toNat := by
      rw [UInt64.toNat_and]
      exact Nat.and_le_left
    simp only [UInt64.toNat_add, UInt64.reduceToNat] at hand
    omega
  · omega

theorem pciCfgSpace_bounds : 0 < sys.pciCfgSpace.toNat ∧ sys.pciCfgSpace.toNat ≤ 0x800000000 := by
  have hbus : ((sys.mmioCfgBase >>> 2) &&& 0xF).toNat < 16 := by
    rw [UInt64.toNat_and]
    exact Nat.and_lt_two_pow (n := 4) _ (by decide)
  unfold SystemInfo.pciCfgSpace
  rw [UInt64.toNat_mul, UInt64.toNat_shiftLeft]
  generalize ((sys.mmioCfgBase >>> 2) &&& 0xF).toNat = n at hbus
  interval_cases n <;> decide

variable {blk sys}

theorem clean_iff_holds {w : Window}
    (hw : ∀ a, w.Holds a → max sys.tom2.toNat 0x100000000 ≤ a ∧ a < (configuredLimit blk sys).toNat ∧
      ¬ (0xFD00000000 ≤ a ∧ a < 0x10000000000)) :
    w.Clean blk sys ↔ ∀ a, w.Holds a →
      ¬ (blk.pciExpressBaseAddress.toNat ≤ a ∧ a < blk.pciExpressBaseAddress.toNat + sys.pciCfgSpace.toNat) := by
  have hlimit := configuredLimit_le blk sys
  constructor
  · intro hclean a ha
    exact (hclean a ha.1 ha.2).2.2.1
  · intro hpcie a hbase hlt
    obtain ⟨hlow, hhigh, hhole⟩ := hw a ⟨hbase, hlt⟩
    exact ⟨by omega, by omega, hpcie a ⟨hbase, hlt⟩, hhole⟩

theorem configuredWindow_eq (lift : Bool) (h : baseAbove4G sys < configuredLimit blk sys) :
    configuredWindow lift blk sys = ⟨baseAbove4G sys, configuredLimit blk sys⟩ := by
  unfold configuredWindow
  rw [if_neg (fun hle => absurd hle.2.2 (UInt64.not_le.mpr h))]

theorem configuredWindow_base {lift : Bool} : (configuredWindow lift blk sys).base = baseAbove4G sys := by
  unfold configuredWindow
  split <;> rfl

theorem configuredWindow_empty {lift : Bool} (h : configuredLimit blk sys ≤ baseAbove4G sys) :
    (configuredWindow lift blk sys).limit ≤ (configuredWindow lift blk sys).base := by
  unfold configuredWindow
  split
  · exact UInt64.le_refl _
  · exact h

theorem clean_iff_of_pcie_below (lift : Bool) (hp : blk.pciExpressBaseAddress < 0x100000000) :
    (windowAbove4G lift blk sys).Clean blk sys ↔ ¬ PcieReachesIn blk sys := by
  have hspace := pciCfgSpace_bounds sys
  have hbase := toNat_baseAbove4G sys
  have hcut : cutPcieHole blk sys (configuredWindow lift blk sys) = configuredWindow lift blk sys := by
    unfold cutPcieHole
    exact if_neg (UInt64.not_le.mpr hp)
  unfold windowAbove4G PcieReachesIn
  rw [hcut]
  by_cases hlt : baseAbove4G sys < configuredLimit blk sys
  · rw [configuredWindow_eq lift hlt]
    rw [lt_iff_toNat_lt] at hlt
    have hholds := holds_cutTerabyteHole sys hbase (Eq.refl (configuredLimit blk sys).toNat) (by omega)
    have hpnat := hp
    simp only [lt_iff_toNat_lt, reduceToNat] at hpnat
    rw [clean_iff_holds (fun a ha => by have := (hholds a).mp ha; split at this <;> omega)]
    constructor
    · rintro hclean ⟨-, hreach, hroom, hkept⟩
      refine hclean (baseAbove4G sys).toNat ((hholds _).mpr ?_) ?_
      · rw [if_neg (by omega)]
        omega
      · omega
    · grind
  · have hempty := holds_cutTerabyteHole_of_empty sys (w := configuredWindow lift blk sys) configuredWindow_base
      (configuredWindow_empty (UInt64.not_lt.mp hlt))
    rw [lt_iff_toNat_lt] at hlt
    constructor
    · rintro - ⟨-, -, hroom, -⟩
      omega
    · intro _ a hlow hhigh
      exact absurd ⟨hlow, hhigh⟩ (hempty a)

section
variable (htom : sys.tom2.toNat ≤ blk.pciExpressBaseAddress.toNat)
  (hp : 0x100000000 ≤ blk.pciExpressBaseAddress.toNat)
include htom hp

theorem clean_behind_pcie_iff
    (hend : blk.pciExpressBaseAddress.toNat + sys.pciCfgSpace.toNat < (configuredLimit blk sys).toNat)
    (hsum : (blk.pciExpressBaseAddress + sys.pciCfgSpace).toNat =
      blk.pciExpressBaseAddress.toNat + sys.pciCfgSpace.toNat) :
    (cutTerabyteHole sys ⟨blk.pciExpressBaseAddress + sys.pciCfgSpace, configuredLimit blk sys⟩).Clean blk sys ↔
      blk.pciExpressBaseAddress.toNat + sys.pciCfgSpace.toNat ≤ 0x10000000000 := by
  have hspace := (pciCfgSpace_bounds sys).1
  have hholds := holds_cutTerabyteHole sys hsum (Eq.refl (configuredLimit blk sys).toNat) hend.le
  clear hsum
  rw [clean_iff_holds (fun a ha => by have := (hholds a).mp ha; split at this <;> omega)]
  constructor
  · intro hclean
    by_contra hhole
    refine hclean (blk.pciExpressBaseAddress.toNat + sys.pciCfgSpace.toNat - 1) ((hholds _).mpr ?_) (by omega)
    rw [if_pos (by omega)]
    omega
  · intro hhole a ha
    have := (hholds a).mp ha
    split at this <;> omega

theorem clean_before_pcie (hend : blk.pciExpressBaseAddress.toNat < (configuredLimit blk sys).toNat) :
    (cutTerabyteHole sys ⟨baseAbove4G sys, blk.pciExpressBaseAddress⟩).Clean blk sys := by
  have hholds := holds_cutTerabyteHole sys (toNat_baseAbove4G sys) (Eq.refl blk.pciExpressBaseAddress.toNat) (by omega)
  rw [clean_iff_holds (fun a ha => by have := (hholds a).mp ha; split at this <;> omega)]
  intro a ha
  have := (hholds a).mp ha
  split at this <;> omega

end

theorem clean_iff_of_pcie_above (lift : Bool) (hp : 0x100000000 ≤ blk.pciExpressBaseAddress)
    (hassert : PcieAboveTom2 blk sys) : (windowAbove4G lift blk sys).Clean blk sys ↔ ¬ PcieEndsAboveHole blk sys := by
  obtain ⟨htom, hend⟩ := hassert hp
  have hbase := toNat_baseAbove4G sys
  have hlt := (configuredLimit blk sys).toNat_lt
  have hpnat := hp
  simp only [le_iff_toNat_le, reduceToNat] at hpnat htom
  have hsum : (blk.pciExpressBaseAddress + sys.pciCfgSpace).toNat =
      blk.pciExpressBaseAddress.toNat + sys.pciCfgSpace.toNat := toNat_add_eq (by omega)
  have hbefore : (blk.pciExpressBaseAddress - sys.tom2).toNat = blk.pciExpressBaseAddress.toNat - sys.tom2.toNat :=
    toNat_sub_eq htom
  have hbehind : (configuredLimit blk sys - (blk.pciExpressBaseAddress + sys.pciCfgSpace)).toNat =
      (configuredLimit blk sys).toNat - (blk.pciExpressBaseAddress.toNat + sys.pciCfgSpace.toNat) := by
    rw [toNat_sub_eq (hsum.trans_le hend.le), hsum]
  unfold windowAbove4G PcieEndsAboveHole
  rw [configuredWindow_eq lift (lt_iff_toNat_lt.mpr (by omega))]
  unfold cutPcieHole
  simp only [if_pos hp, lt_iff_toNat_lt, hbefore, hbehind]
  split_ifs with hside
  · rw [clean_behind_pcie_iff htom hpnat hend hsum, ← Nat.not_lt]
    exact not_congr ⟨fun h => ⟨hp, h, hside⟩, fun h => h.2.1⟩
  · exact iff_of_true (clean_before_pcie htom hpnat (by omega)) fun h => hside h.2.2

/-- Both windows are clean exactly when the PCIe configuration space does not end above the terabyte hole with the
larger side behind it, and does not reach from below 4G into the window. -/
theorem windows_clean_iff (blk : InputBlk) (sys : SystemInfo) (hassert : PcieAboveTom2 blk sys) :
    ((nvWindow blk sys).Clean blk sys ∧ (equallyWindow blk sys).Clean blk sys) ↔
      ¬ PcieEndsAboveHole blk sys ∧ ¬ PcieReachesIn blk sys := by
  have hboth : ∀ lift, (windowAbove4G lift blk sys).Clean blk sys ↔
      ¬ PcieEndsAboveHole blk sys ∧ ¬ PcieReachesIn blk sys := by
    intro lift
    by_cases hp : blk.pciExpressBaseAddress < 0x100000000
    · rw [clean_iff_of_pcie_below lift hp]
      exact ⟨fun h => ⟨fun hends => UInt64.not_le.mpr hp hends.1, h⟩, And.right⟩
    · rw [clean_iff_of_pcie_above lift (UInt64.not_lt.mp hp) hassert]
      exact ⟨fun h => ⟨h, fun hreach => hp hreach.1⟩, And.left⟩
  unfold nvWindow equallyWindow
  rw [hboth true, hboth false, and_self]

/-- With DRAM up to 1T and the configuration space right behind it, both windows start inside the space. -/
theorem windows_hold_pcie_space :
    PcieAboveTom2 (plainBlk 0x10000000000) (plainSystem 0x10000000000) ∧
    ¬ (nvWindow (plainBlk 0x10000000000) (plainSystem 0x10000000000)).Clean (plainBlk 0x10000000000)
      (plainSystem 0x10000000000) ∧
    ¬ (equallyWindow (plainBlk 0x10000000000) (plainSystem 0x10000000000)).Clean (plainBlk 0x10000000000)
      (plainSystem 0x10000000000) := by
  refine ⟨by decide, fun h => ?_, fun h => ?_⟩
  · exact (h 0x10000000000 (by decide) (by decide)).2.2.1 (by decide)
  · exact (h 0x10000000000 (by decide) (by decide)).2.2.1 (by decide)

theorem windows_clean_iff_4G :
    PcieAboveTom2 (plainBlk 0xE0000000) (plainSystem 0x100000000) ∧
    (nvWindow (plainBlk 0xE0000000) (plainSystem 0x100000000)).Clean (plainBlk 0xE0000000) (plainSystem 0x100000000) :=
  have hassert : PcieAboveTom2 (plainBlk 0xE0000000) (plainSystem 0x100000000) := by decide
  ⟨hassert, ((windows_clean_iff _ _ hassert).mpr (by decide)).1⟩

end OpenSil.RcMgr
