import OpenSil.Ras.McaIpId

/-! # Collecting MCA errors

`xPrfCollectMcaErrorInfo` copies the MCA banks of a thread that have logged an error.
-/

namespace OpenSil.McaErrors

open McaIpId McaIpidMsr List Nat

/-! ## The registers of a bank -/

def mcaMsr (i offset : Nat) : BitVec 32 := .ofNat 32 (0xC0002000 + (i * 16 ||| offset))

def mcaStatusOffset : Nat := 0x1
def mcaAddrOffset : Nat := 0x2
def mcaMisc0Offset : Nat := 0x3
def mcaConfigOffset : Nat := 0x4
def mcaIpidOffset : Nat := 0x5
def mcaSyndOffset : Nat := 0x6
def mcaDestatOffset : Nat := 0x8
def mcaDeaddrOffset : Nat := 0x9
def mcaMisc1Offset : Nat := 0xA
def mcaSynd1Offset : Nat := 0xE
def mcaSynd2Offset : Nat := 0xF

def mcaUmcId : BitVec 12 := 0x096
def mcaParameterBlockId : BitVec 12 := 0x005
def mcaPspId : BitVec 12 := 0x0FF
def mcaSmuId : BitVec 12 := 0x001

def ifMcaType : BitVec 16 := 0x0001
def deMcaType : BitVec 16 := 0x0003
def exMcaType : BitVec 16 := 0x0005
def fpMcaType : BitVec 16 := 0x0006

def val (v : BitVec 64) : Bool := v.getLsbD 63

def destatExists (ipid : McaIpidMsr) : Bool :=
  if hardwareId ipid = mcaCpuCoreId then
    !(mcaType ipid = ifMcaType || mcaType ipid = deMcaType || mcaType ipid = exMcaType || mcaType ipid = fpMcaType)
  else !(hardwareId ipid = mcaParameterBlockId || hardwareId ipid = mcaPspId || hardwareId ipid = mcaSmuId)

/-! ## The loop -/

structure McaBankErrorInfo where
  mcaBankNumber : Nat
  mcaStatusMsr : BitVec 64
  mcaAddrMsr : BitVec 64
  mcaMisc0Msr : BitVec 64
  mcaConfigMsr : BitVec 64
  mcaIpidMsr : BitVec 64
  mcaSyndMsr : BitVec 64
  mcaDeStatMsr : BitVec 64
  mcaDeAddrMsr : BitVec 64
  mcaMisc1Msr : BitVec 64
  mcaSynd1Msr : BitVec 64
  mcaSynd2Msr : BitVec 64
  deriving DecidableEq

structure RasMcaErrorInfo where
  mcaBankCount : Nat
  mcaBankErrorInfo : Nat → McaBankErrorInfo

def xmcaMaxBankCount : Nat := 64

variable (msrs : Msrs)

def mcgCapCount : Nat := ((msrs 0x179).extractLsb' 0 8).toNat

def bankErrorInfo (i : Nat) : McaBankErrorInfo :=
  let ipid : McaIpidMsr := msrs (mcaMsr i mcaIpidOffset)
  { mcaBankNumber := i
    mcaStatusMsr := msrs (mcaMsr i mcaStatusOffset)
    mcaAddrMsr := msrs (mcaMsr i mcaAddrOffset)
    mcaMisc0Msr := msrs (mcaMsr i mcaMisc0Offset)
    mcaConfigMsr := msrs (mcaMsr i mcaConfigOffset)
    mcaIpidMsr := ipid
    mcaSyndMsr := msrs (mcaMsr i mcaSyndOffset)
    mcaDeStatMsr := if destatExists ipid then msrs (mcaMsr i mcaDestatOffset) else 0
    mcaDeAddrMsr := if destatExists ipid then msrs (mcaMsr i mcaDeaddrOffset) else 0
    mcaMisc1Msr := if hardwareId ipid = mcaUmcId then msrs (mcaMsr i mcaMisc1Offset) else 0
    mcaSynd1Msr := if hardwareId ipid = mcaUmcId then msrs (mcaMsr i mcaSynd1Offset) else 0
    mcaSynd2Msr := if hardwareId ipid = mcaUmcId then msrs (mcaMsr i mcaSynd2Offset) else 0 }

def collectBank (s : (Nat → McaBankErrorInfo) × Nat) (i : Nat) : Option ((Nat → McaBankErrorInfo) × Nat) :=
  let ipid : McaIpidMsr := msrs (mcaMsr i mcaIpidOffset)
  if hardwareId ipid = 0 then some s
  else
    let mcaStatusMsr := msrs (mcaMsr i mcaStatusOffset)
    let mcaDeStatusMsr := if destatExists ipid then msrs (mcaMsr i mcaDestatOffset) else 0
    if val mcaStatusMsr || val mcaDeStatusMsr then
      if s.2 < xmcaMaxBankCount then some (Function.update s.1 s.2 (bankErrorInfo msrs i), s.2 + 1) else none
    else some s

def xPrfCollectMcaErrorInfo (buffer : RasMcaErrorInfo) : Option RasMcaErrorInfo := do
  let (mcaBankErrorInfo, errorCount) ←
    (List.range (mcgCapCount msrs)).foldlM (collectBank msrs) (buffer.mcaBankErrorInfo, 0)
  some ⟨errorCount, mcaBankErrorInfo⟩

/-! ## What is collected -/

def bankRegister (bank offset : Nat) : BitVec 64 := msrs (.ofNat 32 (0xC0002000 + 16 * bank + offset))

theorem mcaMsr_eq {i offset : Nat} (h : offset < 16) : mcaMsr i offset = .ofNat 32 (0xC0002000 + 16 * i + offset) := by
  unfold mcaMsr
  have hor := two_pow_add_eq_or_of_lt (i := 4) h i
  rw [mul_comm i 16, show (16 : Nat) = 2 ^ 4 from rfl, ← hor, add_assoc]

/-- The banks with a DESTAT register: all but those of four units of the core, of the parameter block, of the PSP and of
the SMU. -/
def HasDestat (ipid : McaIpidMsr) : Prop :=
  ¬ (hardwareId ipid = mcaCpuCoreId ∧ mcaType ipid ∈ [ifMcaType, deMcaType, exMcaType, fpMcaType]) ∧
    hardwareId ipid ∉ [mcaParameterBlockId, mcaPspId, mcaSmuId]

instance (ipid : McaIpidMsr) : Decidable (HasDestat ipid) := inferInstanceAs (Decidable (_ ∧ _))

/-- The bank is there, and its status or its deferred status is valid. -/
def HasError (bank : Nat) : Prop :=
  hardwareId (bankRegister msrs bank mcaIpidOffset) ≠ 0 ∧
    (val (bankRegister msrs bank mcaStatusOffset) = true ∨
      HasDestat (bankRegister msrs bank mcaIpidOffset) ∧ val (bankRegister msrs bank mcaDestatOffset) = true)

instance (bank : Nat) : Decidable (HasError msrs bank) := inferInstanceAs (Decidable (_ ∧ _))

def recordOf (bank : Nat) : McaBankErrorInfo :=
  let register := bankRegister msrs bank
  let ipid := register mcaIpidOffset
  { mcaBankNumber := bank
    mcaStatusMsr := register mcaStatusOffset
    mcaAddrMsr := register mcaAddrOffset
    mcaMisc0Msr := register mcaMisc0Offset
    mcaConfigMsr := register mcaConfigOffset
    mcaIpidMsr := ipid
    mcaSyndMsr := register mcaSyndOffset
    mcaDeStatMsr := if HasDestat ipid then register mcaDestatOffset else 0
    mcaDeAddrMsr := if HasDestat ipid then register mcaDeaddrOffset else 0
    mcaMisc1Msr := if hardwareId ipid = mcaUmcId then register mcaMisc1Offset else 0
    mcaSynd1Msr := if hardwareId ipid = mcaUmcId then register mcaSynd1Offset else 0
    mcaSynd2Msr := if hardwareId ipid = mcaUmcId then register mcaSynd2Offset else 0 }

theorem destatExists_iff (ipid : McaIpidMsr) : destatExists ipid = true ↔ HasDestat ipid := by
  unfold destatExists HasDestat
  by_cases hcore : hardwareId ipid = mcaCpuCoreId
  · have hother : hardwareId ipid ∉ [mcaParameterBlockId, mcaPspId, mcaSmuId] := by
      rw [hcore]
      decide
    simp [hcore, hcore ▸ hother, and_assoc]
  · simp [hcore, and_assoc]

theorem msrs_mcaMsr (i offset : Nat) (h : offset < 16) : msrs (mcaMsr i offset) = bankRegister msrs i offset :=
  congrArg msrs (mcaMsr_eq h)

theorem bankErrorInfo_eq (i : Nat) : bankErrorInfo msrs i = recordOf msrs i := by
  have hmsr := msrs_mcaMsr msrs i
  unfold bankErrorInfo recordOf
  simp only [destatExists_iff, hmsr _ (show mcaIpidOffset < 16 by decide), hmsr _ (show mcaStatusOffset < 16 by decide),
    hmsr _ (show mcaAddrOffset < 16 by decide), hmsr _ (show mcaMisc0Offset < 16 by decide),
    hmsr _ (show mcaConfigOffset < 16 by decide), hmsr _ (show mcaSyndOffset < 16 by decide),
    hmsr _ (show mcaDestatOffset < 16 by decide), hmsr _ (show mcaDeaddrOffset < 16 by decide),
    hmsr _ (show mcaMisc1Offset < 16 by decide), hmsr _ (show mcaSynd1Offset < 16 by decide),
    hmsr _ (show mcaSynd2Offset < 16 by decide)]

theorem collectBank_eq :
    collectBank msrs = Fill.storeIf (fun i => decide (HasError msrs i)) (fun _ i => recordOf msrs i) xmcaMaxBankCount := by
  funext s i
  have hmsr := msrs_mcaMsr msrs i
  unfold collectBank Fill.storeIf
  simp only [bankErrorInfo_eq, hmsr mcaIpidOffset (by decide), hmsr mcaStatusOffset (by decide),
    hmsr mcaDestatOffset (by decide), destatExists_iff, decide_eq_true_eq]
  by_cases hid : hardwareId (bankRegister msrs i mcaIpidOffset) = 0
  · rw [if_pos hid, if_neg fun h => h.1 hid]
  · rw [if_neg hid]
    refine if_congr ?_ rfl rfl
    unfold HasError
    by_cases hdestat : HasDestat (bankRegister msrs i mcaIpidOffset)
    · simp_all
    · rw [if_neg hdestat, show val 0 = false from rfl, Bool.or_false]
      exact ⟨fun h => ⟨hid, .inl h⟩, fun h => h.2.resolve_right fun h => hdestat h.1⟩

/-! ## The buffer afterwards -/

def errorBanks : List Nat := (List.range (mcgCapCount msrs)).filter fun i => decide (HasError msrs i)

structure Collected (info : RasMcaErrorInfo) : Prop where
  count : info.mcaBankCount = (errorBanks msrs).length
  record : ∀ k (hk : k < (errorBanks msrs).length), info.mcaBankErrorInfo k = recordOf msrs (errorBanks msrs)[k]

theorem xPrfCollectMcaErrorInfo_collected {msrs : Msrs} (buffer : RasMcaErrorInfo)
    (hcount : mcgCapCount msrs ≤ xmcaMaxBankCount) :
    ∃ info, xPrfCollectMcaErrorInfo msrs buffer = some info ∧ Collected msrs info := by
  have hroom : 0 + (errorBanks msrs).length ≤ xmcaMaxBankCount := by
    rw [zero_add]
    exact (length_filter_le _ _).trans (by rwa [length_range])
  have hrecord : ∀ k (hk : k < (errorBanks msrs).length), Fill.written (fun _ i => recordOf msrs i) 0 (errorBanks msrs)
      buffer.mcaBankErrorInfo k = recordOf msrs (errorBanks msrs)[k] :=
    fun k hk => Fill.written_zero_of_lt _ hk
  refine ⟨⟨_, _⟩, ?_, rfl, hrecord⟩
  unfold xPrfCollectMcaErrorInfo
  rw [collectBank_eq, Fill.foldlM_storeIf _ _ hroom, zero_add]
  rfl

def RasMcaErrorInfo.banks (info : RasMcaErrorInfo) : List Nat :=
  (List.range info.mcaBankCount).map fun k => (info.mcaBankErrorInfo k).mcaBankNumber

theorem Collected.banks_eq {msrs : Msrs} {info : RasMcaErrorInfo} (h : Collected msrs info) :
    info.banks = errorBanks msrs := by
  apply ext_getElem?
  intro k
  unfold RasMcaErrorInfo.banks
  rw [h.count, getElem?_map]
  by_cases hk : k < (errorBanks msrs).length
  · rw [getElem?_range hk, getElem?_eq_getElem hk, Option.map_some, h.record k hk]
    rfl
  · simp_all

/-- With no more banks than the buffer has records, the banks with errors are recorded in ascending order, each with its
own registers. -/
theorem collects_banks_with_errors (msrs : Msrs) (buffer : RasMcaErrorInfo)
    (hcount : mcgCapCount msrs ≤ xmcaMaxBankCount) :
    ∃ info, xPrfCollectMcaErrorInfo msrs buffer = some info ∧
      info.banks.Pairwise (· < ·) ∧
      (∀ bank, bank ∈ info.banks ↔ bank < mcgCapCount msrs ∧ HasError msrs bank) ∧
      ∀ k < info.mcaBankCount, info.mcaBankErrorInfo k = recordOf msrs (info.mcaBankErrorInfo k).mcaBankNumber := by
  obtain ⟨info, hinfo, hcollected⟩ := xPrfCollectMcaErrorInfo_collected buffer hcount
  refine ⟨info, hinfo, ?_⟩
  rw [hcollected.banks_eq]
  refine ⟨pairwise_lt_range.filter _, fun bank => ?_, fun k hk => ?_⟩
  · unfold errorBanks
    rw [mem_filter, mem_range, decide_eq_true_eq]
  · rw [hcollected.record k (hcollected.count ▸ hk)]
    rfl

def umcMsrs : Msrs := fun address => if address = 0x179 then 28 else 0x8000009600000000

theorem collects_banks_with_errors_umc :
    mcgCapCount umcMsrs = 28 ∧ ∃ info, xPrfCollectMcaErrorInfo umcMsrs ⟨0, fun _ => recordOf umcMsrs 0⟩ = some info ∧
      info.banks.Pairwise (· < ·) ∧
      (∀ bank, bank ∈ info.banks ↔ bank < mcgCapCount umcMsrs ∧ HasError umcMsrs bank) ∧
      ∀ k < info.mcaBankCount, info.mcaBankErrorInfo k = recordOf umcMsrs (info.mcaBankErrorInfo k).mcaBankNumber :=
  ⟨by decide, collects_banks_with_errors umcMsrs _ (by decide)⟩

end OpenSil.McaErrors
