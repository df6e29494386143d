import OpenSil.Lib.BitField
import OpenSil.Lib.Pack
import OpenSil.Lib.Stores
import OpenSil.Msr
import OpenSil.XPrf.CpuMap

/-! # MCA instance ids

`ProgramCoreMcaIpIdInstanceId` writes the place of a thread into the IPID registers of its core banks.
-/

open OpenSil.XPrf OpenSil.Pack List Nat BitVec

namespace OpenSil.McaIpId

/-! ## The IPID register -/

abbrev McaIpidMsr := BitVec 64

namespace McaIpidMsr

def instanceId (v : McaIpidMsr) : BitVec 32 := v.extractLsb' 0 32

def hardwareId (v : McaIpidMsr) : BitVec 12 := v.extractLsb' 32 12

def instanceIdHi (v : McaIpidMsr) : BitVec 4 := v.extractLsb' 44 4

def mcaType (v : McaIpidMsr) : BitVec 16 := v.extractLsb' 48 16

end McaIpidMsr

open McaIpidMsr

def mcaCpuCoreId : BitVec 12 := 0x0B0

def maxCoreMcaBankCount : Nat := 7

def ipidAddress (bank : Nat) : BitVec 32 := .ofNat 32 (0xC0002000 + (bank * 16 ||| 0x05))

def coreMcaSmnAddrByte1 (mcaType : BitVec 16) : Nat :=
  if mcaType = 0x0010 then 0xAE
  else if mcaType = 0x0001 then 0xAA
  else if mcaType = 0x0002 then 0x8A
  else if mcaType = 0x0003 then 0x96
  else if mcaType = 0x0005 then 0x9A
  else if mcaType = 0x0006 then 0x86
  else 0

def coreInstanceId (cpu : SilCpuInfo) (byte1 : Nat) : Nat :=
  (0x2000 ||| ((cpu.dieId.toNat * 8) <<< 4) ||| (cpu.coreId.toNat * 2)) <<< 16 ||| (byte1 + cpu.threadId.toNat) <<< 8

def programBank (cpu : SilCpuInfo) (msrs : Msrs) (bank : Nat) : Msrs :=
  if bank = 4 then msrs
  else
    let ipid : McaIpidMsr := msrs (ipidAddress bank)
    if hardwareId ipid ≠ mcaCpuCoreId then msrs
    else
      let ipid := BitField.set ipid 0 (BitVec.ofNat 32 (coreInstanceId cpu (coreMcaSmnAddrByte1 (mcaType ipid))))
      let ipid := BitField.set ipid 44 (cpu.socketId.setWidth 4)
      xUslWrMsr msrs (ipidAddress bank) ipid

def programCoreMcaIpIdInstanceId (cpu : SilCpuInfo) (msrs : Msrs) : Msrs :=
  (List.range maxCoreMcaBankCount).foldl (programBank cpu) msrs

/-! ## The programmed values -/

section
variable (cpu : SilCpuInfo)

theorem ipidAddress_ne {b b' : Nat} (hb : b < 7) (hb' : b' < 7) (h : b ≠ b') : ipidAddress b ≠ ipidAddress b' := by
  interval_cases b <;> interval_cases b' <;> first | exact absurd rfl h | decide

theorem programBank_other (msrs : Msrs) {b b' : Nat} (hb : b < 7) (hb' : b' < 7) (h : b ≠ b') :
    programBank cpu msrs b' (ipidAddress b) = msrs (ipidAddress b) := by
  unfold programBank
  dsimp only
  split_ifs
  · rfl
  · rfl
  · exact Function.update_of_ne (ipidAddress_ne hb hb' h) ..

theorem foldl_programBank_of_notMem {banks : List Nat} {b : Nat} (hb : b < 7) (hbanks : ∀ b' ∈ banks, b' < 7 ∧ b ≠ b')
    (msrs : Msrs) :
    banks.foldl (programBank cpu) msrs (ipidAddress b) = msrs (ipidAddress b) :=
  Stores.foldl_keep_of_mem (p := fun msrs => msrs (ipidAddress b))
    (fun b' hb' msrs => programBank_other cpu msrs hb (hbanks b' hb').1 (hbanks b' hb').2) msrs

def programmed (cpu : SilCpuInfo) (ipid : McaIpidMsr) : McaIpidMsr :=
  BitField.set (BitField.set ipid 0 (BitVec.ofNat 32 (coreInstanceId cpu (coreMcaSmnAddrByte1 (mcaType ipid))))) 44
    (cpu.socketId.setWidth 4)

theorem programBank_self {msrs : Msrs} {b : Nat} (hb : b ≠ 4)
    (hcore : hardwareId (msrs (ipidAddress b)) = mcaCpuCoreId) :
    programBank cpu msrs b (ipidAddress b) = programmed cpu (msrs (ipidAddress b)) := by
  unfold programBank
  dsimp only
  rw [if_neg hb, if_neg (not_not.mpr hcore)]
  exact Function.update_self ..

theorem programCore_bank {msrs : Msrs} {b : Nat} (hb : b < 7) (hb4 : b ≠ 4)
    (hcore : hardwareId (msrs (ipidAddress b)) = mcaCpuCoreId) :
    programCoreMcaIpIdInstanceId cpu msrs (ipidAddress b) = programmed cpu (msrs (ipidAddress b)) := by
  have hsplit : range 7 = range b ++ b :: (range' (b + 1) (6 - b)) := by
    interval_cases b <;> rfl
  have hbefore : (range b).foldl (programBank cpu) msrs (ipidAddress b) = msrs (ipidAddress b) := by
    apply foldl_programBank_of_notMem cpu hb
    intro b' hb'
    rw [mem_range] at hb'
    omega
  have hafter : ∀ b' ∈ range' (b + 1) (6 - b), b' < 7 ∧ b ≠ b' := by
    intro b' hb'
    rw [mem_range'_1] at hb'
    omega
  unfold programCoreMcaIpIdInstanceId maxCoreMcaBankCount
  rw [hsplit, foldl_append, foldl_cons, foldl_programBank_of_notMem cpu hb hafter,
    programBank_self cpu hb4 (by rwa [hbefore]), hbefore]

theorem instanceId_programmed (ipid : McaIpidMsr) :
    instanceId (programmed cpu ipid) = .ofNat 32 (coreInstanceId cpu (coreMcaSmnAddrByte1 (mcaType ipid))) := by
  unfold instanceId programmed
  rw [BitField.extract_set_of_disjoint _ _ (by omega), BitField.extract_set _ _ (by decide)]

theorem instanceIdHi_programmed (ipid : McaIpidMsr) :
    instanceIdHi (programmed cpu ipid) = cpu.socketId.setWidth 4 := by
  unfold instanceIdHi programmed
  rw [BitField.extract_set _ _ (by decide)]

end

/-! ## Which threads share an id -/

/-- Places within `MAX_SOCKETS_SUPPORTED`, `MAX_CCDS_PER_DIE`, `MAX_COMPLEXES_PER_CCD`, `CCX_MAX_CORES_PER_COMPLEX` and
`MAX_THREADS_PER_CORE`. -/
structure Supported (cpu : SilCpuInfo) : Prop where
  socket : cpu.socketId.toNat < 2
  ccd : cpu.dieId.toNat < 12
  ccx : cpu.ccxId.toNat < 2
  core : cpu.coreId.toNat < 8
  thread : cpu.threadId.toNat < 2

theorem coreMcaSmnAddrByte1_le (mcaType : BitVec 16) : coreMcaSmnAddrByte1 mcaType ≤ 0xAE := by
  unfold coreMcaSmnAddrByte1
  split_ifs <;> decide

theorem coreInstanceId_eq {cpu : SilCpuInfo} (h : Supported cpu) {byte1 : Nat} (hbyte : byte1 ≤ 0xAE) :
    coreInstanceId cpu byte1 =
      ((64 + cpu.dieId.toNat) * 128 + cpu.coreId.toNat * 2) * 2 ^ 16 + (byte1 + cpu.threadId.toNat) * 2 ^ 8 := by
  have hplace : ∀ d < 12, ∀ c < 8, 0x2000 ||| ((d * 8) <<< 4) ||| (c * 2) = (64 + d) * 128 + c * 2 := by decide
  have hlow : (byte1 + cpu.threadId.toNat) <<< 8 < 2 ^ 16 := by
    have := h.thread
    rw [Nat.shiftLeft_eq]
    omega
  rw [coreInstanceId, hplace _ h.ccd _ h.core, shiftLeft_or hlow, Nat.shiftLeft_eq]

def instanceOf (v : McaIpidMsr) : BitVec 4 × BitVec 32 := (instanceIdHi v, instanceId v)

/-- The ids of one core bank of two threads differ if and only if the threads differ in something else than the core
complex. -/
theorem instanceOf_ne_iff {x y : SilCpuInfo} (hx : Supported x) (hy : Supported y) (msrsX msrsY : Msrs) {bank : Nat}
    (hbank : bank < 7) (hbank4 : bank ≠ 4) (hcoreX : hardwareId (msrsX (ipidAddress bank)) = mcaCpuCoreId)
    (hcoreY : hardwareId (msrsY (ipidAddress bank)) = mcaCpuCoreId)
    (htype : mcaType (msrsX (ipidAddress bank)) = mcaType (msrsY (ipidAddress bank))) :
    instanceOf (programCoreMcaIpIdInstanceId x msrsX (ipidAddress bank)) ≠
        instanceOf (programCoreMcaIpIdInstanceId y msrsY (ipidAddress bank)) ↔
      ¬(x.socketId = y.socketId ∧ x.dieId = y.dieId ∧ x.coreId = y.coreId ∧ x.threadId = y.threadId) := by
  rw [programCore_bank x hbank hbank4 hcoreX, programCore_bank y hbank hbank4 hcoreY, not_iff_not, instanceOf, instanceOf,
    Prod.mk.injEq, instanceId_programmed, instanceId_programmed, instanceIdHi_programmed, instanceIdHi_programmed, htype]
  have hbyte := coreMcaSmnAddrByte1_le (mcaType (msrsY (ipidAddress bank)))
  have hx' := coreInstanceId_eq hx hbyte
  have hy' := coreInstanceId_eq hy hbyte
  obtain ⟨hsx, hdx, -, hcx, htx⟩ := hx
  obtain ⟨hsy, hdy, -, hcy, hty⟩ := hy
  simp only [← toNat_inj, toNat_setWidth, toNat_ofNat]
  rw [hx', hy']
  omega

def cpuIn (ccx core : BitVec 8) : SilCpuInfo := ⟨0, 0, ccx, 0, core, 0⟩

theorem supported_cpuIn {ccx core : BitVec 8} (hccx : ccx.toNat < 2) (hcore : core.toNat < 8) :
    Supported (cpuIn ccx core) :=
  ⟨zero_lt_two, zero_lt_succ 11, hccx, hcore, zero_lt_two⟩

def lsBanks : Msrs := fun _ => 0x001000B000000000

theorem instanceOf_ne_cores :
    instanceOf (programCoreMcaIpIdInstanceId (cpuIn 0 0) lsBanks (ipidAddress 0)) ≠
        instanceOf (programCoreMcaIpIdInstanceId (cpuIn 1 1) lsBanks (ipidAddress 0)) ↔
      ¬((cpuIn 0 0).socketId = (cpuIn 1 1).socketId ∧ (cpuIn 0 0).dieId = (cpuIn 1 1).dieId ∧
        (cpuIn 0 0).coreId = (cpuIn 1 1).coreId ∧ (cpuIn 0 0).threadId = (cpuIn 1 1).threadId) :=
  instanceOf_ne_iff (supported_cpuIn (by decide) (by decide)) (supported_cpuIn (by decide) (by decide)) lsBanks lsBanks
    (by decide) (by decide) (by decide) (by decide) rfl

/-- The two complexes of a CCD: threads of different cores with the same ids in every core bank. -/
theorem instanceOf_shared_by_complexes :
    Supported (cpuIn 0 0) ∧ Supported (cpuIn 1 0) ∧ cpuIn 0 0 ≠ cpuIn 1 0 ∧
      ∀ bank < 7, instanceOf (programCoreMcaIpIdInstanceId (cpuIn 0 0) lsBanks (ipidAddress bank)) =
        instanceOf (programCoreMcaIpIdInstanceId (cpuIn 1 0) lsBanks (ipidAddress bank)) := by
  refine ⟨supported_cpuIn (by decide) (by decide), supported_cpuIn (by decide) (by decide), by decide, ?_⟩
  intro bank _
  rfl

end OpenSil.McaIpId
