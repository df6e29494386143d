import OpenSil.Status

/-! # SMBIOS memory records

`xPrfGetSmbiosMemInfo` makes a type 17 record for every DIMM slot, and a type 19 record.
-/

namespace OpenSil.XPrf

open List Nat Option

/-! ## SPD data -/

structure Spd where
  firstDensity : BitVec 5
  firstDiePerPkg : BitVec 3
  firstIoWidth : BitVec 3
  secondDiePerPkg : BitVec 3
  secondIoWidth : BitVec 3
  ranksPerChannel : BitVec 3
  rankMixAsymmetrical : Bool
  busWidth : BitVec 3
  busWidthExt : BitVec 2
  numChannels : BitVec 2
  hybrid : Bool
  hybridMedia : BitVec 3
  deriving DecidableEq

def Spd.zero : Spd := ⟨0, 0, 0, 0, 0, 0, false, 0, 0, 0, false, 0⟩

def memSpdDecodeDensity (spdDensity : BitVec 5) : Nat := ([0, 4, 8, 12, 16, 24, 32, 48, 64][spdDensity.toNat]?).getD 0

def memSpdDecodeDiesPerPackage (spdDies : BitVec 3) : Nat := ([1, 0, 2, 4, 8, 16][spdDies.toNat]?).getD 0

def ioWidthDecode (ioWidth : BitVec 3) : Nat := 4 <<< ioWidth.toNat % 2 ^ 8

def busWidthDecode (width : BitVec 3) : Nat := 8 <<< width.toNat

namespace Spd
variable (spd : Spd)

def numRanks : Nat := spd.ranksPerChannel.toNat + 1

def ioWidth (rank : Nat) : Nat :=
  ioWidthDecode (if spd.rankMixAsymmetrical ∧ rank % 2 = 1 then spd.secondIoWidth else spd.firstIoWidth)

def diePerPkg (rank : Nat) : Nat :=
  memSpdDecodeDiesPerPackage (if spd.rankMixAsymmetrical ∧ rank % 2 = 1 then spd.secondDiePerPkg else spd.firstDiePerPkg)

def rankSize (rank : Nat) : Option Nat :=
  if spd.ioWidth rank = 0 then none
  else some ((spd.numChannels.toNat + 1) * busWidthDecode spd.busWidth / spd.ioWidth rank * spd.diePerPkg rank *
    memSpdDecodeDensity spd.firstDensity / 8)

def ranks : List Nat := List.range (if spd.numRanks < 2 then spd.numRanks else 2)

def capacity : Option Nat := do
  let sizes ← spd.ranks.mapM spd.rankSize
  return sizes.sum * 1024

end Spd

/-! ## Type 17 -/

inductive MemoryTechnology where
  | unknownType | dramType | nvDimmNType | nvDimmPType
  deriving DecidableEq

/-- `SIL_TYPE17_DMI_INFO` without its texts, its speed and the fields that describe the module. -/
structure Type17 where
  handle : BitVec 16
  totalWidth : Nat
  dataWidth : Nat
  memorySize : Nat
  extSize : Nat
  attributes : Nat
  configSpeed : Nat
  configuredVoltage : Nat
  memoryTechnology : MemoryTechnology
  nonvolatileSize : Nat
  volatileSize : Nat
  cacheSize : Nat
  logicalSize : Nat
  deriving DecidableEq

structure PhysicalDimm where
  socket : Nat
  channel : Nat
  dimm : Nat
  handle : BitVec 16
  dimmPresent : Bool
  configSpeed : Nat
  configVoltage : Nat
  spdData : Option Spd

def getDimmType (spd : Spd) : MemoryTechnology :=
  if spd.hybrid then
    if spd.hybridMedia = 1 then .nvDimmNType else if spd.hybridMedia = 2 then .nvDimmPType else .dramType
  else .dramType

def Type17.size (t17 : Type17) : Nat := if t17.memorySize ≠ 0x7FFF then t17.memorySize else t17.extSize

def initSmbios32Type17 (dimmPresent : Bool) (spd : Spd) (t17 : Type17) : Type17 :=
  if dimmPresent then
    let memorySize := if t17.memorySize = 0x7FFF then t17.extSize else t17.memorySize
    let bytes := memorySize * 0x100000 % 2 ^ 32
    { t17 with
      memoryTechnology := getDimmType spd
      nonvolatileSize := if spd.hybrid then bytes else 0
      volatileSize := if spd.hybrid then 0 else bytes
      cacheSize := 0
      logicalSize := 0 }
  else
    { t17 with
      memoryTechnology := .unknownType
      nonvolatileSize := 0
      volatileSize := 0
      cacheSize := 0
      logicalSize := 0 }

def memorySizeLoop (spd : Spd) : Option Nat :=
  spd.ranks.foldlM (fun memorySize rank => (spd.rankSize rank).map fun size => (memorySize + size) % 2 ^ 32) 0

def presentType17 (t17 : Type17) (physicalDimm : PhysicalDimm) (dimmSpd : Spd) (gigabytes : Nat) : Type17 :=
  let memorySize := gigabytes <<< 10 % 2 ^ 32
  let dataWidth := busWidthDecode dimmSpd.busWidth * 2
  initSmbios32Type17 true dimmSpd { t17 with
    handle := physicalDimm.handle
    dataWidth := dataWidth
    totalWidth := dataWidth + 4 * dimmSpd.busWidthExt.toNat * 2
    memorySize := if memorySize < 0x7FFF then memorySize else 0x7FFF
    extSize := if memorySize < 0x7FFF then 0 else memorySize
    attributes := dimmSpd.numRanks
    configSpeed := physicalDimm.configSpeed
    configuredVoltage := physicalDimm.configVoltage }

def absentType17 (t17 : Type17) (physicalDimm : PhysicalDimm) : Type17 :=
  initSmbios32Type17 false .zero { t17 with
    handle := physicalDimm.handle
    dataWidth := 0xFFFF
    totalWidth := 0xFFFF
    memorySize := 0
    extSize := 0
    attributes := 0
    configSpeed := 0
    configuredVoltage := 0 }

/-- `GetPhysicalDimmInfoD5`. `none` is a division by zero. -/
def getPhysicalDimmInfoD5 (t17 : Type17) (physicalDimm : PhysicalDimm) : Option Type17 :=
  if physicalDimm.dimmPresent then
    let dimmSpd := physicalDimm.spdData.getD .zero
    (memorySizeLoop dimmSpd).map (presentType17 t17 physicalDimm dimmSpd)
  else some (absentType17 t17 physicalDimm)

/-! ## Types 16, 19 and 20 -/

structure Type16 where
  location : Nat
  use : Nat
  memoryErrorCorrection : Nat
  numberOfMemoryDevices : Nat

structure Type19 where
  startingAddr : Nat
  endingAddr : Nat
  partitionWidth : Nat
  extStartingAddr : Nat
  extEndingAddr : Nat
  deriving DecidableEq

structure Type20 where
  startingAddr : Nat
  endingAddr : Nat
  memoryDeviceHandle : BitVec 16
  partitionRowPosition : Nat
  interleavePosition : Nat
  interleavedDataDepth : Nat
  extStartingAddr : Nat
  extEndingAddr : Nat

structure LogicalDimm where
  socket : Nat
  channel : Nat
  dimm : Nat
  dimmPresent : Bool
  interleaved : Bool
  memoryDeviceHandle : BitVec 16
  startingAddr : Nat
  endingAddr : Nat
  extStartingAddr : Nat
  extEndingAddr : Nat

def getLogicalDimmInfo (t20 : Type20) (logicalDimm : LogicalDimm) : Type20 :=
  if logicalDimm.dimmPresent then
    { startingAddr := logicalDimm.startingAddr
      endingAddr := logicalDimm.endingAddr
      memoryDeviceHandle := logicalDimm.memoryDeviceHandle
      partitionRowPosition := 0xFF
      interleavePosition := if logicalDimm.interleaved then 0xFF else 0
      interleavedDataDepth := if logicalDimm.interleaved then 0xFF else 0
      extStartingAddr := logicalDimm.extStartingAddr
      extEndingAddr := logicalDimm.extEndingAddr }
  else t20

def sp5ChannelXlatTable : List (Nat × Nat) :=
  [(0, 2), (1, 4), (2, 5), (3, 0), (4, 1), (5, 3), (6, 8), (7, 10), (8, 11), (9, 6), (10, 7), (11, 9)]

def translateChannelInfo (channel : Nat) : Nat := (sp5ChannelXlatTable.lookup channel).getD channel

structure ApobMemDmi where
  eccCapable : Bool
  physicalDimms : List PhysicalDimm
  logicalDimms : List LogicalDimm

abbrev DimmTable (τ : Type) := Nat × Nat × Nat → τ

structure DmiInfo where
  t16 : Type16
  t17 : DimmTable Type17
  t19 : Type19
  t20 : DimmTable Type20

structure Type17Vars where
  t17 : DimmTable Type17
  totalMemSize : Nat
  numActiveDimms : Nat

def type17Turn (v : Type17Vars) (physicalDimm : PhysicalDimm) : Option Type17Vars := do
  let slot := (physicalDimm.socket, translateChannelInfo physicalDimm.channel, physicalDimm.dimm)
  let t17 ← getPhysicalDimmInfoD5 (v.t17 slot) physicalDimm
  return {
    t17 := Function.update v.t17 slot t17
    totalMemSize := (v.totalMemSize + t17.size) % 2 ^ 32
    numActiveDimms := if physicalDimm.dimmPresent then (v.numActiveDimms + 1) % 2 ^ 8 else v.numActiveDimms }

def type20Turn (t20 : DimmTable Type20) (logicalDimm : LogicalDimm) : DimmTable Type20 :=
  let channel := translateChannelInfo logicalDimm.channel
  if channel ≠ 0xFF then
    let slot := (logicalDimm.socket, channel, logicalDimm.dimm)
    Function.update t20 slot (getLogicalDimmInfo (t20 slot) logicalDimm)
  else t20

def type19 (totalMemSize numActiveDimms : Nat) : Type19 :=
  let value64 := (totalMemSize <<< 10 % 2 ^ 32 + (2 ^ 32 - 1)) % 2 ^ 32
  if 0xFFFFFFFF ≤ value64 then
    { startingAddr := 0xFFFFFFFF
      endingAddr := 0xFFFFFFFF
      partitionWidth := numActiveDimms
      extStartingAddr := 0
      extEndingAddr := value64 <<< 10 }
  else
    { startingAddr := 0
      endingAddr := value64
      partitionWidth := numActiveDimms
      extStartingAddr := 0
      extEndingAddr := 0 }

def xPrfGetSmbiosMemInfo (apob : ApobMemDmi) (dmiBuffer : DmiInfo) : Option (SilStatus × DmiInfo) := do
  let v ← apob.physicalDimms.foldlM type17Turn ⟨dmiBuffer.t17, 0, 0⟩
  return (.silPass, {
    t16 := {
      location := 3
      use := 3
      memoryErrorCorrection := if apob.eccCapable then 6 else 3
      numberOfMemoryDevices := apob.physicalDimms.length }
    t17 := v.t17
    t19 := type19 v.totalMemSize v.numActiveDimms
    t20 := apob.logicalDimms.foldl type20Turn dmiBuffer.t20 })

/-! ## The capacity in a type 17 record -/

theorem ioWidthDecode_zero_or (ioWidth : BitVec 3) : ioWidthDecode ioWidth = 0 ∨ 4 ≤ ioWidthDecode ioWidth := by
  revert ioWidth
  decide

theorem busWidthDecode_le (width : BitVec 3) : busWidthDecode width ≤ 1024 := by
  revert width
  decide

theorem memSpdDecodeDensity_le (density : BitVec 5) : memSpdDecodeDensity density ≤ 64 := by
  revert density
  decide

theorem memSpdDecodeDiesPerPackage_le (dies : BitVec 3) : memSpdDecodeDiesPerPackage dies ≤ 16 := by
  revert dies
  decide

namespace Spd
variable {spd : Spd}

theorem rankSize_le {rank size : Nat} (h : spd.rankSize rank = some size) : size ≤ 2 ^ 17 := by
  unfold rankSize at h
  split_ifs at h with hio
  rw [← some.inj h]
  have hio : 4 ≤ spd.ioWidth rank := (ioWidthDecode_zero_or _).resolve_left hio
  have hchannels : spd.numChannels.toNat + 1 ≤ 4 := spd.numChannels.isLt
  have hchips : (spd.numChannels.toNat + 1) * busWidthDecode spd.busWidth / spd.ioWidth rank ≤ 4 * 1024 / 4 :=
    (Nat.div_le_div_right (Nat.mul_le_mul hchannels (busWidthDecode_le _))).trans (Nat.div_le_div_left hio (by decide))
  exact Nat.div_le_div_right
    (Nat.mul_le_mul (Nat.mul_le_mul hchips (memSpdDecodeDiesPerPackage_le _)) (memSpdDecodeDensity_le _))

theorem ranks_eq (spd : Spd) : spd.ranks = [0] ∨ spd.ranks = [0, 1] := by
  unfold ranks numRanks
  split_ifs with h
  · left
    rw [show spd.ranksPerChannel.toNat = 0 by omega]
    rfl
  · right
    rfl

end Spd

theorem memorySizeLoop_cases (spd : Spd) :
    spd.capacity = none ∧ memorySizeLoop spd = none ∨
      ∃ gigabytes ≤ 2 ^ 18, spd.capacity = some (gigabytes * 1024) ∧ memorySizeLoop spd = some gigabytes := by
  unfold Spd.capacity memorySizeLoop
  rcases spd.ranks_eq with hranks | hranks <;> rw [hranks]
  · cases h0 : spd.rankSize 0 with
    | none => simp [h0]
    | some size =>
      have hsize := Spd.rankSize_le h0
      have hmod : size % 2 ^ 32 = size := mod_eq_of_lt (by omega)
      exact .inr ⟨size, by omega, by simp [h0], by simpa [h0] using hmod⟩
  · cases h0 : spd.rankSize 0 with
    | none => simp [h0]
    | some size0 =>
      cases h1 : spd.rankSize 1 with
      | none => simp [h0, h1]
      | some size1 =>
        have hsize0 := Spd.rankSize_le h0
        have hsize1 := Spd.rankSize_le h1
        have hmod : (size0 + size1) % 2 ^ 32 = size0 + size1 := mod_eq_of_lt (by omega)
        exact .inr ⟨size0 + size1, by omega, by simp [h0, h1], by simpa [h0, h1] using hmod⟩

theorem capacity_eq (spd : Spd) : spd.capacity = (memorySizeLoop spd).map (· * 1024) := by
  obtain ⟨hcapacity, hloop⟩ | ⟨_, -, hcapacity, hloop⟩ := memorySizeLoop_cases spd
  · rw [hcapacity, hloop, map_none]
  · rw [hcapacity, hloop, map_some]

theorem Spd.capacity_le {spd : Spd} {c : Nat} (h : spd.capacity = some c) : c ≤ 2 ^ 28 := by
  obtain ⟨hcapacity, -⟩ | ⟨_, hle, hcapacity, -⟩ := memorySizeLoop_cases spd
  · exact nomatch hcapacity.symm.trans h
  · rw [← some.inj (hcapacity.symm.trans h)]
    omega

variable {dimm : PhysicalDimm}

theorem getPhysicalDimmInfoD5_of_present (t17 : Type17) {c : Nat} (hpresent : dimm.dimmPresent = true)
    (hc : (dimm.spdData.getD .zero).capacity = some c) :
    ∃ t, getPhysicalDimmInfoD5 t17 dimm = some t ∧
      t.memorySize = (if c < 0x7FFF then c else 0x7FFF) ∧ t.extSize = (if c < 0x7FFF then 0 else c) ∧
      t.nonvolatileSize = (if (dimm.spdData.getD .zero).hybrid then c * 0x100000 % 2 ^ 32 else 0) ∧
      t.volatileSize = (if (dimm.spdData.getD .zero).hybrid then 0 else c * 0x100000 % 2 ^ 32) := by
  have hle := Spd.capacity_le hc
  rw [capacity_eq, map_eq_some_iff] at hc
  obtain ⟨gigabytes, hloop, rfl⟩ := hc
  have hmb : gigabytes <<< 10 % 2 ^ 32 = gigabytes * 1024 := by
    rw [shiftLeft_eq]
    exact mod_eq_of_lt (by omega)
  unfold getPhysicalDimmInfoD5
  rw [if_pos hpresent]
  dsimp only
  rw [hloop]
  refine ⟨_, rfl, ?_⟩
  simp only [presentType17, initSmbios32Type17, if_true, hmb]
  have hsize : (if (if gigabytes * 1024 < 0x7FFF then gigabytes * 1024 else 0x7FFF) = 0x7FFF then
      (if gigabytes * 1024 < 0x7FFF then 0 else gigabytes * 1024)
      else (if gigabytes * 1024 < 0x7FFF then gigabytes * 1024 else 0x7FFF)) = gigabytes * 1024 := by
    split_ifs <;> omega
  rw [hsize]
  exact ⟨trivial, trivial, rfl, rfl⟩

/-- All fields of the record stand for `c` megabytes. -/
structure SizesMatch (t17 : Type17) (c : Nat) : Prop where
  bytes : t17.nonvolatileSize + t17.volatileSize = c * 2 ^ 20
  one_nonzero : 0 < c → (t17.nonvolatileSize ≠ 0 ↔ t17.volatileSize = 0)
  encoded : if c < 0x7FFF then t17.memorySize = c ∧ t17.extSize = 0 else t17.memorySize = 0x7FFF ∧ t17.extSize = c

/-- The sizes in bytes are right below 4 GB only. -/
theorem getPhysicalDimmInfoD5_sizes_iff (t17 : Type17) (dimm : PhysicalDimm) (spd : Spd) (c : Nat)
    (hpresent : dimm.dimmPresent = true) (hspd : dimm.spdData = some spd) (hc : spd.capacity = some c) :
    ∃ t, getPhysicalDimmInfoD5 t17 dimm = some t ∧ (SizesMatch t c ↔ c < 4096) := by
  have hget : dimm.spdData.getD .zero = spd := by rw [hspd]; rfl
  obtain ⟨t, ht, hmem, hext, hnv, hv⟩ := getPhysicalDimmInfoD5_of_present t17 hpresent (hget.symm ▸ hc)
  rw [hget] at hnv hv
  have hbytes : t.nonvolatileSize + t.volatileSize = c * 0x100000 % 2 ^ 32 := by
    rw [hnv, hv]
    cases spd.hybrid <;> simp
  refine ⟨t, ht, fun h => ?_, fun hlt => ⟨?_, ?_, ?_⟩⟩
  · have := h.bytes
    omega
  · omega
  · intro hpos
    cases hy : spd.hybrid <;> simp [hy] at hnv hv <;> omega
  · rw [hmem, hext]
    split_ifs <;> exact ⟨rfl, rfl⟩

def smallSpd : Spd := ⟨4, 0, 2, 0, 0, 0, false, 2, 0, 1, false, 0⟩

def presentDimm (socket channel : Nat) (spd : Spd) : PhysicalDimm := ⟨socket, channel, 0, 0, true, 4800, 1100, some spd⟩

def blankType17 : Type17 := ⟨0, 0, 0, 0, 0, 0, 0, 0, .unknownType, 0, 0, 0, 0⟩

/-- A DIMM of 8 GB has a volatile size of 0 bytes. -/
theorem eight_gigabytes_are_zero_bytes :
    smallSpd.capacity = some 8192 ∧
    ∃ t, getPhysicalDimmInfoD5 blankType17 (presentDimm 0 0 smallSpd) = some t ∧ t.size = 8192 ∧
      t.nonvolatileSize = 0 ∧ t.volatileSize = 0 ∧ ¬ SizesMatch t 8192 := by
  refine ⟨by decide, _, rfl, by decide, by decide, by decide, fun h => ?_⟩
  exact absurd h.bytes (by decide)

/-- The same with chips of 4 Gbit: 2 GB. -/
theorem getPhysicalDimmInfoD5_sizes_iff_two_gigabytes :
    ∃ t, getPhysicalDimmInfoD5 blankType17 (presentDimm 0 0 { smallSpd with firstDensity := 1 }) = some t ∧
      SizesMatch t 2048 := by
  obtain ⟨t, ht, hiff⟩ := getPhysicalDimmInfoD5_sizes_iff blankType17
    (presentDimm 0 0 { smallSpd with firstDensity := 1 }) { smallSpd with firstDensity := 1 } 2048 rfl rfl (by decide)
  exact ⟨t, ht, hiff.mpr (by decide)⟩

/-! ## The sum of the sizes -/

namespace PhysicalDimm
variable (dimm : PhysicalDimm)

def slot : Nat × Nat × Nat := (dimm.socket, translateChannelInfo dimm.channel, dimm.dimm)

def size : Nat := if dimm.dimmPresent then ((dimm.spdData.getD .zero).capacity).getD 0 else 0

end PhysicalDimm

theorem getPhysicalDimmInfoD5_size {t17 t : Type17} (h : getPhysicalDimmInfoD5 t17 dimm = some t) :
    t.size = dimm.size := by
  unfold PhysicalDimm.size
  cases hpresent : dimm.dimmPresent with
  | false =>
    rw [getPhysicalDimmInfoD5, hpresent] at h
    rw [← some.inj h]
    rfl
  | true =>
    have hloop := h
    rw [getPhysicalDimmInfoD5, if_pos hpresent, map_eq_some_iff] at hloop
    obtain ⟨gigabytes, hloop, -⟩ := hloop
    have hc : (dimm.spdData.getD .zero).capacity = some (gigabytes * 1024) := by rw [capacity_eq, hloop]; rfl
    obtain ⟨t', ht', hmem, hext, -⟩ := getPhysicalDimmInfoD5_of_present t17 hpresent hc
    obtain rfl := some.inj (h.symm.trans ht')
    rw [if_pos rfl, hc, Type17.size, hmem, hext]
    simp only [getD_some]
    split_ifs <;> omega

theorem type17Turn_eq {v v' : Type17Vars} (h : type17Turn v dimm = some v') :
    v'.totalMemSize = (v.totalMemSize + dimm.size) % 2 ^ 32 ∧ (v'.t17 dimm.slot).size = dimm.size ∧
    ∀ slot ≠ dimm.slot, v'.t17 slot = v.t17 slot := by
  unfold type17Turn at h
  simp only [bind_eq_bind, bind_eq_some_iff] at h
  obtain ⟨t17, ht17, h⟩ := h
  obtain rfl := some.inj h
  have hsize := getPhysicalDimmInfoD5_size ht17
  refine ⟨by rw [hsize], ?_, fun slot hslot => Function.update_of_ne hslot _ _⟩
  rw [← hsize]
  exact congrArg Type17.size (Function.update_self ..)

theorem foldlM_type17Turn_eq (dimms : List PhysicalDimm) {v v' : Type17Vars} (h : dimms.foldlM type17Turn v = some v')
    (hv : v.totalMemSize < 2 ^ 32) :
    v'.totalMemSize = (v.totalMemSize + (dimms.map PhysicalDimm.size).sum) % 2 ^ 32 ∧
    ((dimms.map PhysicalDimm.slot).Nodup →
      dimms.map (fun dimm => (v'.t17 dimm.slot).size) = dimms.map PhysicalDimm.size) ∧
    ∀ slot ∉ dimms.map PhysicalDimm.slot, v'.t17 slot = v.t17 slot := by
  induction dimms generalizing v with
  | nil =>
    obtain rfl := some.inj h
    exact ⟨(mod_eq_of_lt hv).symm, fun _ => rfl, fun _ _ => rfl⟩
  | cons dimm dimms ih =>
    rw [foldlM_cons, bind_eq_bind, bind_eq_some_iff] at h
    obtain ⟨v1, h1, h⟩ := h
    obtain ⟨htotal, hsize, hother⟩ := type17Turn_eq h1
    obtain ⟨htotals, hsizes, hothers⟩ := ih h (by omega)
    refine ⟨?_, fun hnodup => ?_, fun slot hslot => ?_⟩
    · rw [htotals, htotal, map_cons, sum_cons]
      omega
    · rw [map_cons, nodup_cons] at hnodup
      rw [map_cons, map_cons, hsizes hnodup.2, hothers _ hnodup.1, hsize]
    · rw [map_cons, mem_cons, not_or] at hslot
      exact (hothers slot hslot.2).trans (hother slot hslot.1)

/-! ## Type 19 -/

/-- The record ends at `sum` megabytes. -/
def Type19.EndsAt (t19 : Type19) (sum : Nat) : Prop :=
  if (sum : ℤ) * 2 ^ 10 - 1 < 0xFFFFFFFF then (t19.endingAddr : ℤ) = sum * 2 ^ 10 - 1
  else t19.startingAddr = 0xFFFFFFFF ∧ t19.endingAddr = 0xFFFFFFFF ∧ (t19.extEndingAddr : ℤ) = sum * 2 ^ 20 - 1

theorem type19_endsAt_iff (sum numActiveDimms : Nat) :
    (type19 (sum % 2 ^ 32) numActiveDimms).EndsAt sum ↔ 0 < sum ∧ sum < 2 ^ 22 := by
  have hkb : (sum % 2 ^ 32) <<< 10 % 2 ^ 32 = sum * 1024 % 2 ^ 32 := by
    rw [shiftLeft_eq]
    omega
  unfold type19
  rw [hkb]
  by_cases hzero : sum * 1024 % 2 ^ 32 = 0
  · -- a multiple of 4 TB: the subtraction wraps around
    have hvalue : (sum * 1024 % 2 ^ 32 + (2 ^ 32 - 1)) % 2 ^ 32 = 0xFFFFFFFF := by omega
    have hext : 0xFFFFFFFF <<< 10 = 0x3FFFFFFFC00 := by decide
    dsimp only
    rw [hvalue, if_pos le_rfl, hext]
    unfold Type19.EndsAt
    dsimp only
    split_ifs <;> omega
  · have hvalue : (sum * 1024 % 2 ^ 32 + (2 ^ 32 - 1)) % 2 ^ 32 = sum * 1024 % 2 ^ 32 - 1 := by omega
    dsimp only
    rw [hvalue, if_neg (by omega)]
    unfold Type19.EndsAt
    dsimp only
    split_ifs <;> omega

/-- The sum is that of the sizes in the type 17 table, unless DIMMs share a slot. -/
theorem xPrfGetSmbiosMemInfo_type19_iff (apob : ApobMemDmi) (dmiBuffer : DmiInfo) (status : SilStatus) (dmi : DmiInfo)
    (h : xPrfGetSmbiosMemInfo apob dmiBuffer = some (status, dmi)) :
    let sum := (apob.physicalDimms.map PhysicalDimm.size).sum
    (dmi.t19.EndsAt sum ↔ 0 < sum ∧ sum < 2 ^ 22) ∧
    ((apob.physicalDimms.map PhysicalDimm.slot).Nodup →
      sum = (apob.physicalDimms.map fun dimm => (dmi.t17 dimm.slot).size).sum) := by
  unfold xPrfGetSmbiosMemInfo at h
  simp only [bind_eq_bind, bind_eq_some_iff] at h
  obtain ⟨v, hv, h⟩ := h
  obtain ⟨-, rfl⟩ := Prod.ext_iff.mp (some.inj h)
  obtain ⟨htotal, hsizes, -⟩ := foldlM_type17Turn_eq _ hv (Nat.two_pow_pos 32)
  rw [zero_add] at htotal
  intro sum
  constructor
  · dsimp only
    rw [htotal]
    exact type19_endsAt_iff sum v.numActiveDimms
  · intro hnodup
    exact congrArg List.sum (hsizes hnodup).symm

def largeSpd : Spd := ⟨6, 2, 0, 0, 0, 1, false, 2, 0, 1, false, 0⟩

def fullSystem (spd : Spd) : ApobMemDmi where
  eccCapable := true
  physicalDimms := (List.range 24).map fun i => presentDimm (i / 12) (i % 12) spd
  logicalDimms := []

def blankDmi : DmiInfo where
  t16 := ⟨0, 0, 0, 0⟩
  t17 := fun _ => blankType17
  t19 := ⟨0, 0, 0, 0, 0⟩
  t20 := fun _ => ⟨0, 0, 0, 0, 0, 0, 0, 0⟩

/-- Of 6 TB, the record has only 2 TB. -/
theorem six_terabytes_end_at_two :
    ((fullSystem largeSpd).physicalDimms.map PhysicalDimm.size).sum = 6 * 2 ^ 20 ∧
    ∃ dmi, xPrfGetSmbiosMemInfo (fullSystem largeSpd) blankDmi = some (.silPass, dmi) ∧
      dmi.t19 = ⟨0, 0x7FFFFFFF, 24, 0, 0⟩ ∧ ¬ dmi.t19.EndsAt (6 * 2 ^ 20) := by
  refine ⟨by decide +kernel, _, rfl, by decide +kernel, ?_⟩
  unfold Type19.EndsAt
  rw [if_neg (by decide)]
  exact fun h => absurd h.1 (by decide +kernel)

theorem xPrfGetSmbiosMemInfo_type19_iff_small :
    ∃ dmi, xPrfGetSmbiosMemInfo (fullSystem smallSpd) blankDmi = some (.silPass, dmi) ∧ dmi.t19.EndsAt (24 * 8192) := by
  refine ⟨_, rfl, ?_⟩
  exact (xPrfGetSmbiosMemInfo_type19_iff (fullSystem smallSpd) blankDmi .silPass _ rfl).1.mpr (by decide +kernel)

end OpenSil.XPrf
