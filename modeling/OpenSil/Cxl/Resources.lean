import OpenSil.Lib.Stores
import OpenSil.Nbio.PcieConfiguration
import OpenSil.Nbio.TopMem

/-! # The resources of CXL engines

`CxlPortInit` with `CxlAssignResources` and `CxlAssignBus`.
-/

namespace OpenSil.Cxl

open Nbio List Function Option BitVec

structure Locals where
  barHigh : BitVec 32
  barLow : BitVec 32
  nextLastBus : BitVec 32
  aligned : barLow.getLsbD 0 = false

structure Call where
  gnbHandle : SiliconConfig
  portId : BitVec 8
  locals : Locals
  /-- The base `FabricReserveMmio` gives for the RCRBs; `none` when it fails. -/
  allocated : Option (BitVec 64)
  /-- The base of MEMBAR0; `none` when no CXL device answers on the bus, or when it fails. -/
  memBar0 : Option (BitVec 64)

structure State where
  smn : Smn
  rcrb : BitVec 32 → BitVec 32
  busLimits : BitVec 8 → BitVec 8

def rcecNextLastBusAddress : BitVec 32 := 0x19f00160#32
def rcecLockAddress : BitVec 32 := 0x19f01000#32

namespace Call
variable (c : Call)

def handle : GnbHandle := ⟨c.gnbHandle.segment.toNat, c.gnbHandle.bus.toNat, c.gnbHandle.rbIndex⟩

def baseAddrLo : BitVec 32 := 0x13b15cd0#32 + c.portId.setWidth 32 * 8#32

def baseAddrHi : BitVec 32 := 0x13b15cd4#32 + c.portId.setWidth 32 * 8#32

end Call

def xUSLSmnReadModifyWrite (smn : Smn) (handle : GnbHandle) (address andMask orMask : BitVec 32) : Smn :=
  xUSLSmnWrite smn handle address (smn (handle.loc address) &&& andMask ||| orMask)

def cxlAssignBus (c : Call) (dsRcrb : BitVec 32) (s : State) : State :=
  let whichBus := s.busLimits c.gnbHandle.instanceId
  let value := s.rcrb (dsRcrb + 0x18) &&& 0xFF000000 |||
    (whichBus.setWidth 32 <<< 8) + (whichBus.setWidth 32 <<< 16)
  let smn := xUSLSmnReadModifyWrite s.smn c.handle rcecLockAddress (~~~2) 0
  let smn := xUSLSmnWrite smn c.handle rcecNextLastBusAddress c.locals.nextLastBus
  { smn := xUSLSmnReadModifyWrite smn c.handle rcecLockAddress (~~~2) (1 <<< 1)
    rcrb := Function.update s.rcrb (dsRcrb + 0x18) value
    busLimits := Function.update s.busLimits c.gnbHandle.instanceId (whichBus - 1) }

def cxlAssignResources (s : State) (c : Call) : State :=
  match c.allocated with
  | none => s
  | some mmioBase =>
    let dsRcrb := mmioBase.setWidth 32
    let smn := xUSLSmnWrite s.smn c.handle c.baseAddrHi c.locals.barHigh
    let smn := xUSLSmnWrite smn c.handle c.baseAddrLo c.locals.barLow
    let s := cxlAssignBus c dsRcrb { s with smn, rcrb := Function.update s.rcrb (dsRcrb + 0x04) 0x6 }
    match c.memBar0 with
    | none => s
    | some mmioBase => { s with
        rcrb := Function.update (Function.update s.rcrb (dsRcrb + 0x10) (mmioBase.setWidth 32)) (dsRcrb + 0x14)
          ((mmioBase >>> 32).setWidth 32) }

def startLimits (gnbs : List SiliconConfig) : BitVec 8 → BitVec 8 :=
  gnbs.foldl (fun busLimits g => Function.update busLimits g.instanceId g.busNumberLimit) fun _ => 0

def cxlPortInit (gnbs : List SiliconConfig) (calls : List Call) (smn : Smn) (rcrb : BitVec 32 → BitVec 32) : State :=
  calls.foldl cxlAssignResources ⟨smn, rcrb, startLimits gnbs⟩

def busFor (gnbs : List SiliconConfig) (before : List Call) (c : Call) (smn : Smn) (rcrb : BitVec 32 → BitVec 32) :
    BitVec 8 :=
  (cxlPortInit gnbs before smn rcrb).busLimits c.gnbHandle.instanceId

/-- No later call that allocates writes to the same place. -/
def Last (address : Call → BitVec 32) (c : Call) (after : List Call) : Prop :=
  ∀ c' ∈ after, c'.allocated.isSome → c'.handle.loc (address c') ≠ c.handle.loc (address c)

/-- What the registers and the buses of the calls have to be. -/
structure ResourcesAssigned (gnbs : List SiliconConfig) (calls : List Call) (smn : Smn) (rcrb : BitVec 32 → BitVec 32) :
    Prop where
  low : ∀ before c after (base : BitVec 64), calls = before ++ c :: after → c.allocated = some base →
    Last Call.baseAddrLo c after →
    (cxlPortInit gnbs calls smn rcrb).smn (c.handle.loc c.baseAddrLo) = base.setWidth 32 ||| 1#32
  high : ∀ before c after (base : BitVec 64), calls = before ++ c :: after → c.allocated = some base →
    Last Call.baseAddrHi c after →
    (cxlPortInit gnbs calls smn rcrb).smn (c.handle.loc c.baseAddrHi) = (base >>> 32).setWidth 32
  nextLastBus : ∀ before c after, calls = before ++ c :: after → c.allocated.isSome →
    Last (fun _ => rcecNextLastBusAddress) c after →
    let value := (cxlPortInit gnbs calls smn rcrb).smn (c.handle.loc rcecNextLastBusAddress)
    value.extractLsb' 8 8 = busFor gnbs before c smn rcrb ∧ value.extractLsb' 16 8 = c.gnbHandle.busNumberLimit
  inRange : ∀ before c after, calls = before ++ c :: after → c.allocated.isSome →
    c.gnbHandle.bus < busFor gnbs before c smn rcrb ∧ busFor gnbs before c smn rcrb ≤ c.gnbHandle.busNumberLimit
  different : ∀ before c between c' after, calls = before ++ c :: between ++ c' :: after → c.allocated.isSome →
    c'.allocated.isSome → c'.gnbHandle = c.gnbHandle →
    busFor gnbs (before ++ c :: between) c' smn rcrb ≠ busFor gnbs before c smn rcrb

/-! ## The counters of buses -/

section
variable {c : Call} {calls : List Call} {s : State}

theorem cxlAssignResources_of_none (h : c.allocated = none) : cxlAssignResources s c = s := by
  rw [cxlAssignResources, h]

theorem busLimits_cxlAssignResources (h : c.allocated.isSome) :
    (cxlAssignResources s c).busLimits =
      Function.update s.busLimits c.gnbHandle.instanceId (s.busLimits c.gnbHandle.instanceId - 1) := by
  obtain ⟨base, hbase⟩ := isSome_iff_exists.mp h
  rw [cxlAssignResources, hbase]
  cases c.memBar0 <;> rfl

/-- The counter goes down by one for each call with this instance, past zero too. -/
theorem busLimits_foldl (id : BitVec 8) (s : State) :
    (calls.foldl cxlAssignResources s).busLimits id =
      s.busLimits id - BitVec.ofNat 8 (calls.countP fun c => c.allocated.isSome && c.gnbHandle.instanceId = id) := by
  induction calls generalizing s with
  | nil => simp
  | cons c calls ih =>
    rw [foldl_cons, ih, countP_cons]
    cases hc : c.allocated.isSome with
    | false => simp [cxlAssignResources_of_none (by simpa using hc)]
    | true =>
      rw [busLimits_cxlAssignResources hc]
      by_cases hid : c.gnbHandle.instanceId = id
      · subst hid
        simp only [update_self, decide_true, Bool.and_self, if_true, ofNat_add]
        bv_omega
      · simp [hid, update_of_ne (Ne.symm hid)]

/-! ## The registers -/

theorem baseAddrLo_mod (c : Call) : c.baseAddrLo.toNat % 2 ^ 20 = 0x15cd0 + 8 * c.portId.toNat := by
  have := c.portId.isLt
  simp only [Call.baseAddrLo, toNat_add, toNat_mul, toNat_setWidth, toNat_ofNat]
  omega

theorem smn_cxlAssignResources (h : c.allocated.isSome) :
    (cxlAssignResources s c).smn (c.handle.loc c.baseAddrLo) = c.locals.barLow := by
  obtain ⟨base, hbase⟩ := isSome_iff_exists.mp h
  have hlt := c.portId.isLt
  have hlock : c.handle.loc c.baseAddrLo ≠ c.handle.loc rcecLockAddress :=
    loc_ne _ _ (by rw [baseAddrLo_mod, rcecLockAddress]; simp only [toNat_ofNat]; omega)
  have hbus : c.handle.loc c.baseAddrLo ≠ c.handle.loc rcecNextLastBusAddress :=
    loc_ne _ _ (by rw [baseAddrLo_mod, rcecNextLastBusAddress]; simp only [toNat_ofNat]; omega)
  rw [cxlAssignResources, hbase]
  cases c.memBar0 <;>
    simp [cxlAssignBus, xUSLSmnReadModifyWrite, xUSLSmnWrite, update_of_ne hlock, update_of_ne hbus]

theorem foldl_of_none (h : ∀ c ∈ calls, c.allocated = none) : calls.foldl cxlAssignResources s = s :=
  Stores.foldl_keep_of_mem (p := id) (fun c hc _ => cxlAssignResources_of_none (h c hc)) s

theorem exists_last (hc : c ∈ calls) (h : c.allocated.isSome) : ∃ c after before, calls = before ++ c :: after ∧
    c.allocated.isSome ∧ ∀ c' ∈ after, c'.allocated = none := by
  have hfind : (calls.reverse.find? (·.allocated.isSome)).isSome := find?_isSome.mpr ⟨c, by simpa using hc, h⟩
  obtain ⟨c, hfound⟩ := isSome_iff_exists.mp hfind
  obtain ⟨hsome, after, before, hsplit, hafter⟩ := find?_eq_some_iff_append.mp hfound
  refine ⟨c, after.reverse, before.reverse, ?_, hsome, fun c' hc' => ?_⟩
  · rw [← reverse_reverse calls, hsplit]
    simp
  · simpa using hafter c' (by simpa using hc')

end

/-- The registers get addresses of locals. The lowest bit of such an address is clear, so no engine that gets an MMIO
address has it in its registers. -/
theorem resourcesAssigned_iff (gnbs : List SiliconConfig) (calls : List Call) (smn : Smn)
    (rcrb : BitVec 32 → BitVec 32) :
    (ResourcesAssigned gnbs calls smn rcrb ↔ ∀ c ∈ calls, c.allocated = none) ∧
    ∀ before c, busFor gnbs before c smn rcrb = startLimits gnbs c.gnbHandle.instanceId -
      BitVec.ofNat 8 (before.countP fun c' => c'.allocated.isSome && c'.gnbHandle.instanceId = c.gnbHandle.instanceId) := by
  refine ⟨⟨?_, ?_⟩, fun before c => busLimits_foldl _ _⟩
  · intro h c hc
    by_contra hsome
    -- Nothing is written after the last call that gets an address.
    obtain ⟨c, after, before, hcalls, hc, hafter⟩ := exists_last hc (isSome_iff_ne_none.mpr hsome)
    obtain ⟨base, hbase⟩ := isSome_iff_exists.mp hc
    have hlow := h.low before c after base hcalls hbase fun c' hc' hsome => by simp [hafter c' hc'] at hsome
    have hwritten : (cxlPortInit gnbs calls smn rcrb).smn (c.handle.loc c.baseAddrLo) = c.locals.barLow := by
      rw [cxlPortInit, hcalls, foldl_append, foldl_cons, foldl_of_none hafter, smn_cxlAssignResources hc]
    have hbit : (base.setWidth 32 ||| 1#32).getLsbD 0 = true := by simp
    rw [← hlow, hwritten, c.locals.aligned] at hbit
    cases hbit
  · intro h
    have hnone : ∀ {before c after}, calls = before ++ c :: after → c.allocated = none := fun heq =>
      h _ (by simp [heq])
    refine ⟨?_, ?_, ?_, ?_, ?_⟩
    · intro before c after base heq hbase
      cases (hnone heq).symm.trans hbase
    · intro before c after base heq hbase
      cases (hnone heq).symm.trans hbase
    · intro before c after heq hsome
      simp [hnone heq] at hsome
    · intro before c after heq hsome
      simp [hnone heq] at hsome
    · simp_all

def oneEngine : Call where
  gnbHandle := ⟨0, 0, 0, 0, 0, 0x20, 0, 0, 0x3F, false, false, 0⟩
  portId := 1
  locals := ⟨0x7FFF0010, 0x7FFF0014, 0x7FFF0018, by decide⟩
  allocated := some 0xC0000000
  memBar0 := none

def oneEngineSmn : Smn := (cxlPortInit [oneEngine.gnbHandle] [oneEngine] (fun _ => 0) fun _ => 0).smn

theorem oneEngine_registers :
    oneEngineSmn (oneEngine.handle.loc oneEngine.baseAddrHi) = 0x7FFF0010 ∧
    oneEngineSmn (oneEngine.handle.loc oneEngine.baseAddrLo) = 0x7FFF0014 ∧
    oneEngineSmn (oneEngine.handle.loc rcecNextLastBusAddress) = 0x7FFF0018 ∧
    ¬ResourcesAssigned [oneEngine.gnbHandle] [oneEngine] (fun _ => 0) fun _ => 0 := by
  refine ⟨by decide, by decide, by decide, fun h => ?_⟩
  have hlow := h.low [] oneEngine [] 0xC0000000 rfl rfl (fun _ hc => absurd hc not_mem_nil)
  exact absurd hlow (by decide)

end OpenSil.Cxl
