import OpenSil.Lib.BitField
import OpenSil.Msr

/-! # The size of the RMP table

`GetRmpTableSize` reports how large the reverse map table has to be and up to where it may lie.
-/

namespace OpenSil.Ccx

open BitVec

structure RmpInput where
  amdSnpMemCover : BitVec 8
  amdVmplEnable : Bool
  amdSnpMemSize : BitVec 32
  amdSplitRmpTable : BitVec 8

structure RmpOutput where
  amdRmpTableSize : BitVec 64
  amdRmpTableBase : BitVec 64
  deriving DecidableEq

structure RmpHardware where
  xferTable : Bool
  secureEncryption : BitVec 32
  numberOfProcessorsPresent : BitVec 32
  dramAddressCtl : Nat → BitVec 32
  dramBaseAddress : Nat → BitVec 32

def snpDisable : BitVec 8 := 0
def snpCustomMemoryEnable : BitVec 8 := 2
def dfXNumberOfDramRegions : Nat := 20

namespace RmpHardware
variable (hw : RmpHardware)

def vmpl : Bool := hw.secureEncryption.getLsbD 5

def addrRngVal (region : Nat) : Bool := (hw.dramAddressCtl region).getLsbD 0

def socketId (region : Nat) : BitVec 1 := (hw.dramAddressCtl region).extractLsb' 24 1

def firstSocketId : BitVec 1 := if hw.addrRngVal 0 then hw.socketId 0 else 0

def socketBoundary : Option (BitVec 32) :=
  ((List.range dfXNumberOfDramRegions).find? fun region =>
    region ≠ 0 ∧ hw.addrRngVal region ∧ hw.socketId region ≠ hw.firstSocketId).map hw.dramBaseAddress

end RmpHardware

def zen4CalculateRMPTableBase (hw : RmpHardware) (rmpTableSize snpMemSizeToCover : BitVec 64)
    (splitRmpTableValue : BitVec 8) : BitVec 64 :=
  if hw.numberOfProcessorsPresent > 1 ∧ splitRmpTableValue > 0 then
    match hw.socketBoundary with
    | none => snpMemSizeToCover
    | some dramBaseAddr =>
      let rmpTableBase := dramBaseAddr.setWidth 64 <<< 28 + rmpTableSize / 2
      if rmpTableBase > snpMemSizeToCover then snpMemSizeToCover else rmpTableBase
  else snpMemSizeToCover

def snpMemSizeToCover (input : RmpInput) (tom2 : BitVec 64) : BitVec 64 :=
  if input.amdVmplEnable then
    if input.amdSnpMemCover = snpCustomMemoryEnable then
      let size : BitVec 64 := input.amdSnpMemSize.setWidth 64 <<< 20
      if size = 0#64 ∨ size < 0x01000000#64 then 0x01000000#64 else if size > tom2 then tom2 else size
    else tom2
  else 0

/-- 16 bytes for a page and 16 KB, in MBs. -/
def rmpTableSize (snpMemSizeToCover : BitVec 64) : BitVec 64 :=
  (0x4000#64 + 16#64 * (snpMemSizeToCover >>> 12) + 0x100000#64 - 1#64) &&& ~~~0xFFFFF#64

def returnsEarly (hw : RmpHardware) (input : RmpInput) : Bool :=
  !hw.xferTable || (input.amdSnpMemCover ≠ snpDisable && input.amdVmplEnable && !hw.vmpl)

def getRmpTableSize (hw : RmpHardware) (input : RmpInput) (msrs : Msrs) (output : RmpOutput) : Msrs × RmpOutput :=
  if returnsEarly hw input then (msrs, output)
  else if input.amdSnpMemCover ≠ snpDisable then
    let msrs := if input.amdVmplEnable then xUslWrMsr msrs Msr.sysCfg (msrs Msr.sysCfg ||| 1 <<< 25) else msrs
    let cover := snpMemSizeToCover input (msrs Msr.tom2)
    let size := rmpTableSize cover
    (msrs, ⟨size, zen4CalculateRMPTableBase hw size cover input.amdSplitRmpTable⟩)
  else (msrs, ⟨0, 0⟩)

/-! ## What is to be covered -/

def memoryToCover (input : RmpInput) (tom2 : Nat) : Nat :=
  if input.amdSnpMemCover = snpCustomMemoryEnable then
    let size := input.amdSnpMemSize.toNat * 2 ^ 20
    if size < 2 ^ 24 then 2 ^ 24 else if tom2 < size then tom2 else size
  else tom2

/-- Whole megabytes in the memory, with room for an entry of every page. -/
structure Covers (memory : Nat) (output : RmpOutput) : Prop where
  size_dvd : 2 ^ 20 ∣ output.amdRmpTableSize.toNat
  size_ge : 2 ^ 14 + 16 * (memory / 2 ^ 12) ≤ output.amdRmpTableSize.toNat
  base_le : output.amdRmpTableBase.toNat ≤ memory
  size_le_base : output.amdRmpTableSize.toNat ≤ output.amdRmpTableBase.toNat

theorem toNat_snpMemSizeToCover (input : RmpInput) (tom2 : BitVec 64) (h : input.amdVmplEnable = true) :
    (snpMemSizeToCover input tom2).toNat = memoryToCover input tom2.toNat := by
  have hshift : (input.amdSnpMemSize.setWidth 64 <<< 20 : BitVec 64).toNat = input.amdSnpMemSize.toNat * 2 ^ 20 := by
    have := input.amdSnpMemSize.isLt
    rw [toNat_shiftLeft, toNat_setWidth, Nat.shiftLeft_eq]
    omega
  unfold snpMemSizeToCover memoryToCover
  rw [if_pos h]
  split
  · simp only [lt_def, gt_iff_lt, ← toNat_inj, apply_ite BitVec.toNat, hshift, toNat_ofNat]
    split_ifs <;> omega
  · rfl

def tableSize (memory : Nat) : Nat := (2 ^ 14 + 16 * (memory / 2 ^ 12) + (2 ^ 20 - 1)) / 2 ^ 20 * 2 ^ 20

theorem toNat_rmpTableSize (cover : BitVec 64) : (rmpTableSize cover).toNat = tableSize cover.toNat := by
  have hlt := cover.isLt
  have hsum : (0x4000#64 + 16#64 * (cover >>> 12) + 0x100000#64 - 1#64).toNat =
      2 ^ 14 + 16 * (cover.toNat / 2 ^ 12) + (2 ^ 20 - 1) := by
    rw [← Nat.shiftRight_eq_div_pow]
    bv_omega
  unfold rmpTableSize tableSize
  rw [BitField.toNat_and_ones _ (by decide : (~~~0xFFFFF#64).toNat = 2 ^ 64 - 2 ^ 20) (by decide), hsum]
  omega

theorem tableSize_le_iff (memory : Nat) : tableSize memory ≤ memory ↔ 2 ^ 20 ≤ memory := by
  unfold tableSize
  omega

def splitsAt (hw : RmpHardware) (input : RmpInput) : Option Nat :=
  if hw.numberOfProcessorsPresent > 1 ∧ input.amdSplitRmpTable > 0 then
    hw.socketBoundary.map fun dramBaseAddr => dramBaseAddr.toNat * 2 ^ 28
  else none

theorem toNat_zen4CalculateRMPTableBase (hw : RmpHardware) (input : RmpInput) (cover : BitVec 64) :
    (zen4CalculateRMPTableBase hw (rmpTableSize cover) cover input.amdSplitRmpTable).toNat =
      match splitsAt hw input with
      | none => cover.toNat
      | some border => min (border + tableSize cover.toNat / 2) cover.toNat := by
  unfold zen4CalculateRMPTableBase splitsAt
  split
  · cases hw.socketBoundary with
    | none => rfl
    | some dramBaseAddr =>
      have hlt := cover.isLt
      have hbase := dramBaseAddr.isLt
      have hsum : (dramBaseAddr.setWidth 64 <<< 28 + rmpTableSize cover / 2).toNat =
          dramBaseAddr.toNat * 2 ^ 28 + tableSize cover.toNat / 2 := by
        have hsize := toNat_rmpTableSize cover
        have hbound : tableSize cover.toNat ≤ 2 ^ 57 := by
          unfold tableSize
          omega
        rw [toNat_add, toNat_udiv, toNat_shiftLeft, toNat_setWidth, Nat.shiftLeft_eq, hsize,
          show (2 : BitVec 64).toNat = 2 from rfl]
        omega
      simp only [lt_def, gt_iff_lt, Option.map_some, apply_ite BitVec.toNat, hsum]
      rw [min_def]
      split_ifs <;> omega
  · rfl

theorem covers_iff {memory : Nat} {output : RmpOutput} (hsize : output.amdRmpTableSize.toNat = tableSize memory)
    (hbase : output.amdRmpTableBase.toNat ≤ memory) :
    Covers memory output ↔ tableSize memory ≤ output.amdRmpTableBase.toNat := by
  constructor
  · intro h
    rw [← hsize]
    exact h.size_le_base
  · intro h
    refine ⟨?_, ?_, hbase, by rwa [hsize]⟩
    · rw [hsize]
      exact Dvd.intro_left _ rfl
    · rw [hsize]
      unfold tableSize
      omega

/-- The output describes a table for the memory exactly if VMPL is enabled, the memory is at least 1 MB, and the border of
the sockets, where one is used, leaves room for half of the table. -/
theorem rmp_covers_iff (hw : RmpHardware) (input : RmpInput) (msrs : Msrs) (output : RmpOutput)
    (hcover : input.amdSnpMemCover ≠ snpDisable) (hreturn : returnsEarly hw input = false) :
    Covers (memoryToCover input (msrs Msr.tom2).toNat) (getRmpTableSize hw input msrs output).2 ↔
      input.amdVmplEnable = true ∧ 2 ^ 20 ≤ memoryToCover input (msrs Msr.tom2).toNat ∧
      ∀ border, splitsAt hw input = some border →
        tableSize (memoryToCover input (msrs Msr.tom2).toNat) ≤ 2 * border := by
  unfold getRmpTableSize
  simp only [hreturn, hcover, if_false, Bool.false_eq_true, ne_eq, not_false_eq_true, if_true]
  cases hvmpl : input.amdVmplEnable with
  | false =>
    -- Nothing is covered: the table is 1 MB and may lie up to address 0.
    have hzero : snpMemSizeToCover input (msrs Msr.tom2) = 0#64 := by
      unfold snpMemSizeToCover
      simp [hvmpl]
    simp only [Bool.false_eq_true, false_and, iff_false, if_false, hzero]
    intro h
    have hle := h.size_le_base
    simp only [toNat_rmpTableSize, toNat_zen4CalculateRMPTableBase] at hle
    cases hsplit : splitsAt hw input <;> rw [hsplit] at hle <;> simp [tableSize] at hle
  | true =>
    have htom2 : xUslWrMsr msrs Msr.sysCfg (msrs Msr.sysCfg ||| 1 <<< 25) Msr.tom2 = msrs Msr.tom2 :=
      Function.update_of_ne (by decide) _ _
    simp only [if_true, true_and, htom2]
    have hcov := toNat_snpMemSizeToCover input (msrs Msr.tom2) hvmpl
    have hsize := toNat_rmpTableSize (snpMemSizeToCover input (msrs Msr.tom2))
    have hbase := toNat_zen4CalculateRMPTableBase hw input (snpMemSizeToCover input (msrs Msr.tom2))
    rw [hcov] at hsize hbase
    generalize memoryToCover input (msrs Msr.tom2).toNat = memory at *
    rw [← tableSize_le_iff]
    cases hsplit : splitsAt hw input with
    | none =>
      simp only [hsplit] at hbase
      rw [covers_iff hsize hbase.le, hbase]
      simp
    | some border =>
      simp only [hsplit] at hbase
      have heven : 2 ∣ tableSize memory := Dvd.dvd.mul_left (by decide) _
      rw [covers_iff hsize (hbase ▸ min_le_right _ _), hbase, le_min_iff]
      simp only [Option.some.injEq, forall_eq']
      omega

def oneSocket : RmpHardware where
  xferTable := true
  secureEncryption := 0x30
  numberOfProcessorsPresent := 1
  dramAddressCtl := fun _ => 0
  dramBaseAddress := fun _ => 0

def exampleInput (vmpl : Bool) : RmpInput := ⟨1, vmpl, 0, 0⟩

theorem rmp_covers_iff_4G :
    Covers (2 ^ 32) (getRmpTableSize oneSocket (exampleInput true) (fun _ => 0x100000000) ⟨0, 0⟩).2 :=
  (rmp_covers_iff oneSocket (exampleInput true) (fun _ => 0x100000000) ⟨0, 0⟩ (by decide) (by decide)).mpr
    ⟨rfl, by decide, by decide⟩

/-- Without VMPL the table for 4 GB, which takes 16 MB, is reported as 1 MB. -/
theorem rmp_too_small : (getRmpTableSize oneSocket (exampleInput false) (fun _ => 0x100000000) ⟨0, 0⟩).2 = ⟨0x100000, 0⟩ ∧
    ¬2 ^ 14 + 16 * (2 ^ 32 / 2 ^ 12) ≤ (0x100000 : BitVec 64).toNat := by
  decide

end OpenSil.Ccx
