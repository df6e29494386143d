import OpenSil.CoreTopology
import OpenSil.Pstates

/-! # The P-state report

`xPrfPStateGatherData` reports the P-states of every socket to the host.
-/

namespace OpenSil.XPrf

open CoreTopology Pstates List Nat

structure PstateValues where
  pStateEnable : Nat
  coreFreq : Nat
  power : Nat
  swPstateNumber : Nat
  deriving DecidableEq

def sizeofPstateValues : Nat := 16
def sizeofPstateSocketInfo : Nat := 1050
def sizeofPstateSysInfo : Nat := 1055
def maxThreadNumberPerSocket : Nat := 256

structure PstateSocketInfo where
  socketNumber : BitVec 8
  totalLogicalCores : BitVec 8
  createAcpiTables : Bool
  localApicId : Nat → BitVec 32
  pStateMaxValue : BitVec 8
  transitionLatency : Nat
  isPsdDependent : Bool
  pStateStruct : List PstateValues

structure PstateSysInfo where
  totalSocketInSystem : BitVec 8
  sizeOfBytes : BitVec 32
  pStateSocketStruct : List PstateSocketInfo

/-! ## APIC IDs -/

structure ApicVars where
  counts : Counts
  logicalCoreNum : Nat
  localApicIdLoop : Nat
  localApicId : Nat → BitVec 32

section
variable (sys : System) (calcLocalApic : Cpu → BitVec 32)

def addApicId (v : ApicVars) (cpu : Cpu) : ApicVars :=
  { v with
    localApicId :=
      if v.localApicIdLoop < maxThreadNumberPerSocket then
        Function.update v.localApicId v.localApicIdLoop (calcLocalApic cpu)
      else v.localApicId
    localApicIdLoop := v.localApicIdLoop + 1 }

def gatherDieApicIds (socket : Nat) (v : ApicVars) (die : Nat) : ApicVars :=
  let map := sys.ccdLogToPhysMap socket die
  let counts := getCoreTopologyOnDie map v.counts
  let v := { v with
    counts := counts
    logicalCoreNum := v.logicalCoreNum +
      counts.numberOfCcds * counts.numberOfComplexes * counts.numberOfCores * counts.numberOfThreads }
  match map with
  -- no CCD has a physical number then
  | .error _ => v
  | .ok map => (dieCpus map socket die).foldl (addApicId calcLocalApic) v

def gatherApicIds (socket : Nat) (counts : Counts) (localApicId : Nat → BitVec 32) : ApicVars :=
  (List.range (sys.numberOfDies socket)).foldl (gatherDieApicIds sys calcLocalApic socket) ⟨counts, 0, 0, localApicId⟩

/-! ## P-states -/

structure PstateVars where
  pStateStruct : List PstateValues
  totalEnabledPStates : Nat
  out : PstateOutputs

def pstateTurn (msrs : Msrs) (v : PstateVars) (pstateLoop : Nat) : PstateVars :=
  let r := getPstateInfo msrs pstateLoop v.out
  if r.1 = .silPass then
    ⟨v.pStateStruct ++ [⟨r.2.pstateStatus.toNat, r.2.frequency, r.2.powerInmW, pstateLoop⟩], v.totalEnabledPStates + 1, r.2⟩
  else { v with out := r.2 }

def gatherPstates (msrs : Msrs) (maxSwState : Nat) (out : PstateOutputs) : PstateVars :=
  (List.range (maxSwState + 1)).foldl (pstateTurn msrs) ⟨[], 0, out⟩

/-! ## Sockets -/

structure GatherVars where
  counts : Counts
  out : PstateOutputs
  pStateSocketStruct : List PstateSocketInfo

def psdDependent (amdPstatePolicy : Nat) (old : Bool) : Bool :=
  match amdPstatePolicy with
  | 0 => false
  | 1 => true
  | 2 => false
  | _ => old

def gatherSocket (msrs : Msrs) (amdPstatePolicy : Nat)
    (pStateData : Nat → PstateSocketInfo) (v : GatherVars) (socket : Nat) : GatherVars :=
  let maxSwState := getPstateNumber msrs
  let apic := gatherApicIds sys calcLocalApic socket v.counts (pStateData socket).localApicId
  let pstates := gatherPstates msrs maxSwState v.out
  { counts := apic.counts
    out := pstates.out
    pStateSocketStruct := v.pStateSocketStruct ++ [{
      socketNumber := BitVec.ofNat 8 socket
      totalLogicalCores := BitVec.ofNat 8 apic.logicalCoreNum
      createAcpiTables := if pstates.totalEnabledPStates ≤ 1 then false else true
      localApicId := apic.localApicId
      pStateMaxValue := BitVec.ofNat 8 maxSwState
      transitionLatency := 0
      isPsdDependent := psdDependent amdPstatePolicy (pStateData socket).isPsdDependent
      pStateStruct := pstates.pStateStruct }] }

def xPrfPStateGatherData (msrs : Msrs) (ccxData : Option Nat)
    (pStateData : Nat → PstateSocketInfo) (pStateDataSize : Nat) (stack : Counts × PstateOutputs) :
    SilStatus × Option PstateSysInfo :=
  if sizeofPstateSysInfo ≤ pStateDataSize then
    match ccxData with
    | none => (.silNotFound, none)
    | some amdPstatePolicy =>
      let sockets := (List.range sys.numberOfSockets).foldl
        (gatherSocket sys calcLocalApic msrs amdPstatePolicy pStateData) ⟨stack.1, stack.2, []⟩
      (.silPass, some {
        totalSocketInSystem := BitVec.ofNat 8 sys.numberOfSockets
        sizeOfBytes := BitVec.ofNat 32 (sizeofPstateSysInfo +
          (getPstateNumber msrs * sizeofPstateValues + sizeofPstateSocketInfo) * sys.numberOfSockets)
        pStateSocketStruct := sockets.pStateSocketStruct })
  else (.silOutOfBounds, none)

end

/-! ## What is reported -/

section
variable (msrs : Msrs)

def enabled (pstate : Nat) : Bool := pstateEn (pstateMsr msrs pstate)

def passes (pstate : Nat) : Bool := !enabled msrs pstate || decodes (pstateMsr msrs pstate)

def pstates : List Nat := List.range (getPstateNumber msrs + 1)

def enabledPstates : List Nat := (pstates msrs).filter (enabled msrs)

def pstateValues (pstate : Nat) : PstateValues :=
  ⟨1, frequency (pstateMsr msrs pstate), power (pstateMsr msrs pstate), pstate⟩

/-- The P-states that are enabled are listed, and there are tables for two or more. -/
structure Reports (info : PstateSocketInfo) : Prop where
  list : info.pStateStruct = (enabledPstates msrs).map (pstateValues msrs)
  tables : info.createAcpiTables = true ↔ 2 ≤ (enabledPstates msrs).length

end

variable {msrs : Msrs}

theorem getPstateInfo_status (pstate : Nat) (out : PstateOutputs) :
    (getPstateInfo msrs pstate out).1 = .silPass ↔ passes msrs pstate = true := by
  unfold passes enabled
  cases hen : pstateEn (pstateMsr msrs pstate) with
  | false => simp [getPstateInfo_of_disabled hen]
  | true =>
    cases hdec : decodes (pstateMsr msrs pstate) with
    | false => simp [getPstateInfo_of_not_decodes hen hdec]
    | true => simp [getPstateInfo_of_decodes hen hdec]

section
variable (l : List Nat) (v : PstateVars)

theorem foldl_pstateTurn_numbers :
    (l.foldl (pstateTurn msrs) v).pStateStruct.map PstateValues.swPstateNumber =
      v.pStateStruct.map PstateValues.swPstateNumber ++ l.filter (passes msrs) := by
  induction l generalizing v with
  | nil => simp
  | cons k l ih =>
    rw [foldl_cons, ih, filter_cons]
    unfold pstateTurn
    dsimp only
    by_cases h : passes msrs k = true
    · rw [if_pos ((getPstateInfo_status k v.out).mpr h), if_pos h]
      simp
    · rw [if_neg (mt (getPstateInfo_status k v.out).mp h), if_neg h]

theorem foldl_pstateTurn_total (hv : v.totalEnabledPStates = v.pStateStruct.length) :
    (l.foldl (pstateTurn msrs) v).totalEnabledPStates = (l.foldl (pstateTurn msrs) v).pStateStruct.length := by
  induction l generalizing v with
  | nil => exact hv
  | cons k l ih =>
    apply ih
    unfold pstateTurn
    dsimp only
    split_ifs
    · simp [hv]
    · exact hv

theorem foldl_pstateTurn_of_good (h : ∀ k ∈ l, enabled msrs k = true ∧ decodes (pstateMsr msrs k) = true) :
    (l.foldl (pstateTurn msrs) v).pStateStruct = v.pStateStruct ++ l.map (pstateValues msrs) := by
  induction l generalizing v with
  | nil => simp
  | cons k l ih =>
    rw [forall_mem_cons] at h
    rw [foldl_cons, ih _ h.2, pstateTurn, getPstateInfo_of_decodes h.1.1 h.1.2]
    simp [pstateValues]

end

/-- The record of a socket has the outcome of the loop over the P-states, from whatever was in the variables before. -/
def Gathered (msrs : Msrs) (info : PstateSocketInfo) : Prop :=
  ∃ out, info.pStateStruct = (gatherPstates msrs (getPstateNumber msrs) out).pStateStruct ∧
    (info.createAcpiTables = true ↔ 2 ≤ info.pStateStruct.length)

theorem foldl_gatherSocket (sys : System) (calcLocalApic : Cpu → BitVec 32) (msrs : Msrs) (amdPstatePolicy : Nat)
    (pStateData : Nat → PstateSocketInfo) (l : List Nat) (v : GatherVars) :
    ∃ infos, (l.foldl (gatherSocket sys calcLocalApic msrs amdPstatePolicy pStateData) v).pStateSocketStruct =
      v.pStateSocketStruct ++ infos ∧ infos.length = l.length ∧ ∀ info ∈ infos, Gathered msrs info := by
  induction l generalizing v with
  | nil => exact ⟨[], by simp⟩
  | cons socket l ih =>
    obtain ⟨infos, heq, hlen, hinfos⟩ := ih (gatherSocket sys calcLocalApic msrs amdPstatePolicy pStateData v socket)
    rw [foldl_cons, heq, gatherSocket]
    dsimp only
    rw [append_assoc, singleton_append]
    refine ⟨_, rfl, by simp [hlen], forall_mem_cons.mpr ⟨⟨v.out, rfl, ?_⟩, hinfos⟩⟩
    have htotal : (gatherPstates msrs (getPstateNumber msrs) v.out).totalEnabledPStates = _ :=
      foldl_pstateTurn_total (pstates msrs) ⟨[], 0, v.out⟩ rfl
    dsimp only
    rw [htotal]
    split_ifs with hle
    · exact iff_of_false (by simp) (by exact not_le.mpr (lt_succ_of_le hle))
    · exact iff_of_true rfl (Nat.lt_of_not_le hle)

theorem Gathered.reports_iff {info : PstateSocketInfo} (h : Gathered msrs info) :
    Reports msrs info ↔ ∀ k ≤ getPstateNumber msrs, enabled msrs k = true ∧ decodes (pstateMsr msrs k) = true := by
  obtain ⟨out, hlist, htables⟩ := h
  have hmem : ∀ k, k ∈ pstates msrs ↔ k ≤ getPstateNumber msrs := fun k => by simp [pstates]
  constructor
  · intro hr k hk
    -- the numbers in the list
    have hnumbers : (pstates msrs).filter (passes msrs) = enabledPstates msrs := by
      have := congrArg (List.map PstateValues.swPstateNumber) (hlist.symm.trans hr.list)
      rw [gatherPstates, foldl_pstateTurn_numbers, map_map] at this
      simpa [pstates] using this.trans (map_id _)
    have hiff : passes msrs k = true ↔ enabled msrs k = true := by
      have := congrArg (k ∈ ·) hnumbers
      simpa [enabledPstates, (hmem k).mpr hk] using this
    unfold passes at hiff
    cases hen : enabled msrs k <;> simp_all
  · intro hgood
    have hall : enabledPstates msrs = pstates msrs :=
      filter_eq_self.mpr fun k hk => (hgood k ((hmem k).mp hk)).1
    have hstruct : info.pStateStruct = (pstates msrs).map (pstateValues msrs) :=
      hlist.trans (foldl_pstateTurn_of_good _ _ fun k hk => hgood k ((hmem k).mp hk))
    refine ⟨by rw [hall, hstruct], ?_⟩
    rw [htables, hstruct, hall, length_map]

/-- The report is right for all sockets exactly if every P-state up to `PstateMaxVal` is enabled and decodes. -/
theorem xPrfPStateGatherData_reports_iff (sys : System) (calcLocalApic : Cpu → BitVec 32) (msrs : Msrs)
    (ccxData : Option Nat) (pStateData : Nat → PstateSocketInfo) (pStateDataSize : Nat) (stack : Counts × PstateOutputs)
    (info : PstateSysInfo)
    (h : xPrfPStateGatherData sys calcLocalApic msrs ccxData pStateData pStateDataSize stack = (.silPass, some info)) :
    info.pStateSocketStruct.length = sys.numberOfSockets ∧
    ((∀ socket ∈ info.pStateSocketStruct, Reports msrs socket) ↔
      (sys.numberOfSockets ≠ 0 →
        ∀ k ≤ getPstateNumber msrs, enabled msrs k = true ∧ decodes (pstateMsr msrs k) = true)) := by
  unfold xPrfPStateGatherData at h
  split_ifs at h with hsize
  swap
  · simp at h
  cases ccxData with
  | none => simp at h
  | some amdPstatePolicy =>
    obtain ⟨infos, heq, hlen, hinfos⟩ := foldl_gatherSocket sys calcLocalApic msrs amdPstatePolicy pStateData
      (List.range sys.numberOfSockets) ⟨stack.1, stack.2, []⟩
    have hinfo : info.pStateSocketStruct = infos := by grind
    rw [length_range] at hlen
    rw [hinfo]
    refine ⟨hlen, fun hr hne => ?_, fun hgood socket hsocket => ?_⟩
    · obtain ⟨socket, hsocket⟩ := exists_mem_of_length_pos (hlen ▸ pos_of_ne_zero hne)
      exact (hinfos socket hsocket).reports_iff.mp (hr socket hsocket)
    · apply (hinfos socket hsocket).reports_iff.mpr
      apply hgood
      rw [← hlen]
      exact ne_of_gt (length_pos_of_mem hsocket)

theorem one_lt_256 : 1 < 256 := by decide

def oneSocket : System := ⟨1, fun _ => 1, fun _ _ => .error .silNotFound, one_lt_256, fun _ => one_lt_256⟩

def twoPstates (p0 p1 : BitVec 64) : Msrs := fun address =>
  if address = Msr.pstateCurLim then 0x10 else if address = Msr.pstateDef then p0 else p1

def emptySocketInfo : PstateSocketInfo := ⟨0, 0, false, fun _ => 0, 0, 0, false, []⟩

/-- P0 at 3400 MHz. P1 is listed with the values of P0 if it is disabled. -/
theorem disabled_pstate_is_listed :
    ∃ info, xPrfPStateGatherData oneSocket (fun _ => 0) (twoPstates 0x8000000000C00888 0) (some 0)
        (fun _ => emptySocketInfo) 1055 (⟨0, 0, 0, 0⟩, ⟨0, 0, 0, false⟩) = (.silPass, some info) ∧
      info.pStateSocketStruct.map (·.pStateStruct) = [[⟨1, 3400, 4650, 0⟩, ⟨0, 3400, 4650, 1⟩]] ∧
      info.pStateSocketStruct.map (·.createAcpiTables) = [true] ∧
      enabledPstates (twoPstates 0x8000000000C00888 0) = [0] ∧
      ¬ ∀ socket ∈ info.pStateSocketStruct, Reports (twoPstates 0x8000000000C00888 0) socket := by
  refine ⟨_, rfl, by decide +kernel, by decide +kernel, by decide +kernel, fun h => ?_⟩
  have htables := (h _ (mem_singleton_self _)).tables
  exact absurd htables (by decide +kernel)

theorem xPrfPStateGatherData_reports_iff_two :
    ∃ info, xPrfPStateGatherData oneSocket (fun _ => 0) (twoPstates 0x8000000000C00888 0x8000000000C00C88) (some 0)
        (fun _ => emptySocketInfo) 1055 (⟨0, 0, 0, 0⟩, ⟨0, 0, 0, false⟩) = (.silPass, some info) ∧
      ∀ socket ∈ info.pStateSocketStruct, Reports (twoPstates 0x8000000000C00888 0x8000000000C00C88) socket :=
  ⟨_, rfl, (xPrfPStateGatherData_reports_iff oneSocket (fun _ => 0) _ (some 0) (fun _ => emptySocketInfo) 1055
    (⟨0, 0, 0, 0⟩, ⟨0, 0, 0, false⟩) _ rfl).2.mpr fun _ => by decide +kernel⟩

end OpenSil.XPrf
