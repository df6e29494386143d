import Mathlib
import OpenSil.Mpio.PortMapping

/-! # The visibility of ports

`MpioUpdatePortTrainingStatus` and `MpioVisibilityControl`.
-/

namespace OpenSil.Mpio

open List

def initStatusPciePortAlwaysExpose : UInt16 := 0x200
def linkTrained : BitVec 4 := 6
def pcieHotplugDisabled : UInt8 := 0
def pcieHotplugInboard : UInt8 := 4

structure AskEntry extends Ask where
  state : BitVec 4

/-- What the functions read of a port besides its lanes. -/
structure PortExposure where
  allocated : Bool
  linkHotplug : UInt8
  portPresent : UInt8
  alwaysExpose : Bool
  logicalBridgeId : UInt8

section
variable {n : Nat} [NeZero n] (t : PcieTopology n) (ports : t.EngineId → PortExposure)

def findEngineFrom (gnbHandle : Fin n) (ask : Ask) : Option t.EngineId :=
  ((List.finRange n).drop gnbHandle).findSome? (findEngineInNbio t ask)

def exposable (amdCfgExposeUnusedPciePorts : UInt8) (e : t.EngineId) : Bool :=
  ((ports e).portPresent ≠ 0 ∧ amdCfgExposeUnusedPciePorts ≠ 0) ∧
    (amdCfgExposeUnusedPciePorts = 1 ∨ (ports e).alwaysExpose)

def updateForAsk (amdCfgExposeUnusedPciePorts : UInt8) (gnbHandle : Fin n) (initStatus : t.EngineId → UInt16)
    (ask : AskEntry) : t.EngineId → UInt16 :=
  if ask.ctrlType = askTypePcie then
    match findEngineFrom t gnbHandle ask.toAsk with
    | none => initStatus
    | some e =>
      if ask.state = linkTrained then Function.update initStatus e initStatusPcieTrainingSuccess
      else if exposable t ports amdCfgExposeUnusedPciePorts e then
        Function.update initStatus e initStatusPciePortAlwaysExpose
      else initStatus
  else initStatus

def mpioUpdatePortTrainingStatus (amdCfgExposeUnusedPciePorts : UInt8) (initStatus : t.EngineId → UInt16)
    (instance_ : Fin n × List AskEntry) : t.EngineId → UInt16 :=
  instance_.2.foldl (updateForAsk t ports amdCfgExposeUnusedPciePorts instance_.1) initStatus

/-- The bridge control registers: by root bridge and `LogicalBridgeId`. -/
abbrev BridgeCntl (n : Nat) := Fin n × UInt8 → BitVec 32

def bridge (e : t.EngineId) : Fin n × UInt8 := (t.parent e, (ports e).logicalBridgeId)

/-- The bits that disable the bridge and its configuration space, and the bit that is always set. -/
def cntlMask : BitVec 32 := 0x1#32 ||| 0x4#32 ||| 0x40000#32

def writeBridge (value : BitVec 32) (regs : BridgeCntl n) (e : t.EngineId) : BridgeCntl n :=
  Function.update regs (bridge t ports e) (regs (bridge t ports e) &&& ~~~cntlMask ||| value)

def shownValue : BitVec 32 := 0x40000#32

def hiddenValue : BitVec 32 := 0x40005#32

def mpioControlPorts (regs : BridgeCntl n) (h : Fin n) : BridgeCntl n :=
  (t.enginesOf h).foldl (writeBridge t ports hiddenValue) regs

variable (initStatus : t.EngineId → UInt16)

def mpioEnablePort (regs : BridgeCntl n) (h : Fin n) : BridgeCntl n :=
  (t.enginesOf h).foldl
    (fun regs e => if initStatus e = initStatusPcieTrainingSuccess then writeBridge t ports shownValue regs e else regs) regs

def mpioVisibilityControl (regs : BridgeCntl n) : BridgeCntl n :=
  (List.finRange n).foldl (fun regs h => mpioEnablePort t ports initStatus (mpioControlPorts t ports regs h) h) regs

def visible (r : BitVec 32) : Bool := r &&& 5#32 = 0

def pcieConfigCheckPortStatus (e : t.EngineId) (portStatus : UInt32) : Bool := (initStatus e).toUInt32 &&& portStatus ≠ 0

def hasActiveHotplug (e : t.EngineId) : Bool :=
  (ports e).allocated && ((ports e).linkHotplug ≠ pcieHotplugDisabled && (ports e).linkHotplug ≠ pcieHotplugInboard)

def pcieConfigIsActivePcieEngine (e : t.EngineId) : Bool :=
  (ports e).allocated && (pcieConfigCheckPortStatus t initStatus e initStatusPcieTrainingSuccess.toUInt32 ||
    ((ports e).linkHotplug ≠ pcieHotplugDisabled && (ports e).linkHotplug ≠ pcieHotplugInboard))

def exposed (e : t.EngineId) : Bool :=
  pcieConfigCheckPortStatus t initStatus e initStatusPcieTrainingSuccess.toUInt32 ||
    pcieConfigIsActivePcieEngine t ports initStatus e ||
    pcieConfigCheckPortStatus t initStatus e initStatusPciePortAlwaysExpose.toUInt32

/-- An engine at this bridge has exactly the status of a trained port. -/
def Enabled (e : t.EngineId) : Prop :=
  ∃ e', bridge t ports e' = bridge t ports e ∧ initStatus e' = initStatusPcieTrainingSuccess

end

section
variable {n : Nat} [NeZero n] {t : PcieTopology n} {ports : t.EngineId → PortExposure}
  {initStatus : t.EngineId → UInt16} {regs : BridgeCntl n}

theorem visible_write (r value : BitVec 32) : visible (r &&& ~~~cntlMask ||| value) = visible value := by
  have hmask : ~~~cntlMask &&& 5#32 = 0#32 := by decide
  rw [visible, visible, BitVec.and_comm, BitVec.and_or_distrib_left, BitVec.and_comm 5#32, BitVec.and_assoc, hmask,
    BitVec.and_zero, BitVec.zero_or, BitVec.and_comm]

theorem visible_foldl (value : BitVec 32) (es : List t.EngineId) (k : Fin n × UInt8) :
    visible (es.foldl (writeBridge t ports value) regs k) =
      if k ∈ es.map (bridge t ports) then visible value else visible (regs k) := by
  induction es generalizing regs with
  | nil => rfl
  | cons e es ih =>
    rw [foldl_cons, ih, map_cons]
    by_cases hk : k = bridge t ports e
    · subst hk
      simp [writeBridge, visible_write]
    · simp [writeBridge, hk]

theorem mem_bridges_iff {h : Fin n} {e : t.EngineId} :
    bridge t ports e ∈ (t.enginesOf h).map (bridge t ports) ↔ t.parent e = h := by
  simp only [mem_map, PcieTopology.enginesOf, mem_filter, mem_finRange, true_and, decide_eq_true_eq]
  constructor
  · rintro ⟨e', rfl, he'⟩
    exact (congrArg Prod.fst he').symm
  · rintro rfl
    exact ⟨e, rfl, rfl⟩

theorem mem_shown_iff (ports : t.EngineId → PortExposure) (initStatus : t.EngineId → UInt16) (h : Fin n) (e : t.EngineId) :
    bridge t ports e ∈ ((t.enginesOf h).filter (initStatus · = initStatusPcieTrainingSuccess)).map (bridge t ports) ↔
      t.parent e = h ∧ Enabled t ports initStatus e := by
  simp only [mem_map, PcieTopology.enginesOf, mem_filter, mem_finRange, true_and, decide_eq_true_eq]
  constructor
  · rintro ⟨e', ⟨rfl, hstatus⟩, he'⟩
    exact ⟨(congrArg Prod.fst he').symm, e', he', hstatus⟩
  · rintro ⟨rfl, e', he', hstatus⟩
    exact ⟨e', ⟨congrArg Prod.fst he', hstatus⟩, he'⟩

theorem mpioEnablePort_eq (h : Fin n) : mpioEnablePort t ports initStatus regs h =
    ((t.enginesOf h).filter (initStatus · = initStatusPcieTrainingSuccess)).foldl (writeBridge t ports shownValue) regs := by
  rw [foldl_filter]
  simp [mpioEnablePort]

theorem visible_handle (h : Fin n) (e : t.EngineId) :
    visible (mpioEnablePort t ports initStatus (mpioControlPorts t ports regs h) h (bridge t ports e)) = true ↔
      if t.parent e = h then Enabled t ports initStatus e else visible (regs (bridge t ports e)) = true := by
  have hshown : visible shownValue = true := by decide
  have hhidden : visible hiddenValue = false := by decide
  have hmem := mem_shown_iff ports initStatus h e
  rw [mpioEnablePort_eq, visible_foldl, hshown]
  by_cases hh : t.parent e = h
  · by_cases henabled : Enabled t ports initStatus e
    · rw [if_pos (hmem.mpr ⟨hh, henabled⟩), if_pos hh]
      simp [henabled]
    · rw [if_neg fun h => henabled (hmem.mp h).2, if_pos hh]
      simp [mpioControlPorts, visible_foldl, mem_bridges_iff, hh, hhidden, henabled]
  · rw [if_neg fun h => hh (hmem.mp h).1, if_neg hh]
    simp [mpioControlPorts, visible_foldl, mem_bridges_iff, hh]

theorem visible_mpioVisibilityControl (hs : List (Fin n)) (e : t.EngineId) :
    visible (hs.foldl (fun regs h => mpioEnablePort t ports initStatus (mpioControlPorts t ports regs h) h) regs
        (bridge t ports e)) = true ↔
      if t.parent e ∈ hs then Enabled t ports initStatus e else visible (regs (bridge t ports e)) = true := by
  induction hs generalizing regs with
  | nil => simp
  | cons h hs ih =>
    rw [foldl_cons, ih, visible_handle]
    by_cases hmem : t.parent e ∈ hs
    · simp [hmem]
    · simp [hmem]

end

/-! ## The status words -/

section
variable {n : Nat} [NeZero n] (t : PcieTopology n) (ports : t.EngineId → PortExposure)
  (amdCfgExposeUnusedPciePorts : UInt8) (instances : List (Fin n × List AskEntry)) (before : t.EngineId → UInt16)

/-- The states of the PCIe ASK entries that are found for an engine, in order. -/
def askStates (e : t.EngineId) : List (BitVec 4) :=
  instances.flatMap fun i => i.2.filterMap fun ask =>
    if ask.ctrlType = askTypePcie ∧ findEngineFrom t i.1 ask.toAsk = some e then some ask.state else none

/-- What one ASK entry does to the status word of its engine. -/
def nextStatus (exposable : Bool) (status : UInt16) (state : BitVec 4) : UInt16 :=
  if state = linkTrained then initStatusPcieTrainingSuccess
  else if exposable then initStatusPciePortAlwaysExpose
  else status

/-- An engine that is to be exposed keeps its training only if its last ASK entry is trained. -/
def LeftTrained (e : t.EngineId) : Prop :=
  if exposable t ports amdCfgExposeUnusedPciePorts e then
    (askStates t instances e).getLast? = some linkTrained ∨
      askStates t instances e = [] ∧ before e = initStatusPcieTrainingSuccess
  else linkTrained ∈ askStates t instances e ∨ before e = initStatusPcieTrainingSuccess

/-- A word with the bit of a trained port or that of a port that is always exposed. -/
def Marked (status : UInt16) : Prop :=
  status &&& initStatusPcieTrainingSuccess ≠ 0 ∨ status &&& initStatusPciePortAlwaysExpose ≠ 0

instance (status : UInt16) : Decidable (Marked status) :=
  inferInstanceAs (Decidable (status &&& _ ≠ 0 ∨ status &&& _ ≠ 0))

/-- The engine trains, is to be exposed, is marked before, or is a port with hotplug. -/
def HasToShow (e : t.EngineId) : Prop :=
  linkTrained ∈ askStates t instances e ∨
    (exposable t ports amdCfgExposeUnusedPciePorts e = true ∧ askStates t instances e ≠ []) ∨
    Marked (before e) ∨ hasActiveHotplug t ports e = true

instance (e : t.EngineId) : Decidable (LeftTrained t ports amdCfgExposeUnusedPciePorts instances before e) :=
  inferInstanceAs (Decidable (if exposable t ports amdCfgExposeUnusedPciePorts e then _ ∨ _ ∧ _ else _ ∨ _))

instance (e : t.EngineId) : Decidable (HasToShow t ports amdCfgExposeUnusedPciePorts instances before e) :=
  inferInstanceAs (Decidable (_ ∨ (_ ∧ _) ∨ _ ∨ _))

variable {t ports amdCfgExposeUnusedPciePorts instances before}

theorem updateForAsk_apply (h : Fin n) (status : t.EngineId → UInt16) (ask : AskEntry) (e : t.EngineId) :
    updateForAsk t ports amdCfgExposeUnusedPciePorts h status ask e =
      if ask.ctrlType = askTypePcie ∧ findEngineFrom t h ask.toAsk = some e then
        nextStatus (exposable t ports amdCfgExposeUnusedPciePorts e) (status e) ask.state
      else status e := by
  unfold updateForAsk nextStatus
  cases hfound : findEngineFrom t h ask.toAsk with
  | none => simp
  | some e' =>
    by_cases he : e' = e
    · subst he
      simp only [and_true]
      split_ifs <;> simp
    · simp only [Option.some.injEq, he, and_false, if_false]
      split_ifs <;> simp [Ne.symm he]

theorem mpioUpdatePortTrainingStatus_apply (status : t.EngineId → UInt16) (e : t.EngineId) :
    instances.foldl (mpioUpdatePortTrainingStatus t ports amdCfgExposeUnusedPciePorts) status e =
      (askStates t instances e).foldl (nextStatus (exposable t ports amdCfgExposeUnusedPciePorts e)) (status e) := by
  have hasks : ∀ (h : Fin n) (asks : List AskEntry) (status : t.EngineId → UInt16),
      asks.foldl (updateForAsk t ports amdCfgExposeUnusedPciePorts h) status e =
        (askStates t [(h, asks)] e).foldl (nextStatus (exposable t ports amdCfgExposeUnusedPciePorts e)) (status e) := by
    intro h asks
    induction asks with
    | nil => exact fun _ => rfl
    | cons ask asks ih =>
      intro status
      rw [foldl_cons, ih, updateForAsk_apply]
      simp only [askStates, flatMap_cons, flatMap_nil, append_nil, filterMap_cons]
      split_ifs <;> rfl
  induction instances generalizing status with
  | nil => rfl
  | cons i instances ih =>
    have happend : askStates t (i :: instances) e = askStates t [i] e ++ askStates t instances e := by
      simp [askStates]
    rw [foldl_cons, ih, happend, foldl_append]
    congr 1
    exact hasks i.1 i.2 status

theorem foldl_nextStatus_false (states : List (BitVec 4)) (status : UInt16) :
    states.foldl (nextStatus false) status =
      if linkTrained ∈ states then initStatusPcieTrainingSuccess else status := by
  induction states generalizing status with
  | nil => rfl
  | cons state states ih =>
    rw [foldl_cons, ih, nextStatus]
    by_cases hstate : state = linkTrained
    · simp [hstate]
    · simp [hstate, Ne.symm hstate]

theorem foldl_nextStatus_true (states : List (BitVec 4)) (status : UInt16) :
    states.foldl (nextStatus true) status =
      match states.getLast? with
      | none => status
      | some state => if state = linkTrained then initStatusPcieTrainingSuccess else initStatusPciePortAlwaysExpose := by
  induction states using reverseRecOn with
  | nil => rfl
  | append_singleton states state => simp [nextStatus]

variable (e : t.EngineId)

/-- A trained entry counts for a port that is not to be exposed, and the last entry for one that is. -/
theorem status_iff (P : UInt16 → Prop) (htrained : P initStatusPcieTrainingSuccess) :
    P (instances.foldl (mpioUpdatePortTrainingStatus t ports amdCfgExposeUnusedPciePorts) before e) ↔
      if exposable t ports amdCfgExposeUnusedPciePorts e then
        (askStates t instances e).getLast? = some linkTrained ∨
          askStates t instances e ≠ [] ∧ P initStatusPciePortAlwaysExpose ∨ askStates t instances e = [] ∧ P (before e)
      else linkTrained ∈ askStates t instances e ∨ P (before e) := by
  rw [mpioUpdatePortTrainingStatus_apply]
  cases exposable t ports amdCfgExposeUnusedPciePorts e with
  | false =>
    rw [foldl_nextStatus_false]
    by_cases hmem : linkTrained ∈ askStates t instances e <;> simp [hmem, htrained]
  | true =>
    rw [foldl_nextStatus_true]
    cases hlast : (askStates t instances e).getLast? with
    | none => simp [getLast?_eq_none_iff.mp hlast]
    | some state =>
      have hne : askStates t instances e ≠ [] := by rintro hnil; simp [hnil] at hlast
      by_cases hstate : state = linkTrained <;> simp [hstate, hne, htrained]

theorem leftTrained_iff :
    instances.foldl (mpioUpdatePortTrainingStatus t ports amdCfgExposeUnusedPciePorts) before e =
        initStatusPcieTrainingSuccess ↔
      LeftTrained t ports amdCfgExposeUnusedPciePorts instances before e := by
  have hdiffer : initStatusPciePortAlwaysExpose ≠ initStatusPcieTrainingSuccess := by decide
  rw [status_iff e (· = initStatusPcieTrainingSuccess) rfl]
  simp only [hdiffer, and_false, false_or]
  rfl

theorem marked_iff :
    Marked (instances.foldl (mpioUpdatePortTrainingStatus t ports amdCfgExposeUnusedPciePorts) before e) ↔
      linkTrained ∈ askStates t instances e ∨
        (exposable t ports amdCfgExposeUnusedPciePorts e = true ∧ askStates t instances e ≠ []) ∨ Marked (before e) := by
  have hexpose : Marked initStatusPciePortAlwaysExpose := by decide
  rw [status_iff e Marked (by decide)]
  cases exposable t ports amdCfgExposeUnusedPciePorts e with
  | false => simp
  | true =>
    by_cases hnil : askStates t instances e = []
    · simp [hnil]
    · simp [hnil, hexpose]

theorem exposed_iff (status : t.EngineId → UInt16) :
    exposed t ports status e = true ↔ Marked (status e) ∨ hasActiveHotplug t ports e = true := by
  have hbits : ∀ mask : UInt16, (status e).toUInt32 &&& mask.toUInt32 = 0 ↔ status e &&& mask = 0 := by
    intro mask
    rw [← UInt16.toUInt32_and, ← UInt16.toUInt32_inj]
    rfl
  unfold exposed pcieConfigIsActivePcieEngine pcieConfigCheckPortStatus hasActiveHotplug Marked
  simp only [ne_eq, hbits, Bool.or_eq_true, Bool.and_eq_true, decide_eq_true_eq]
  tauto

end

/-- The registers are right for every port exactly when the ports that have to be shown are those at a bridge with an
engine that is left trained. -/
theorem visible_iff_exposed_iff {n : Nat} [NeZero n] (t : PcieTopology n) (ports : t.EngineId → PortExposure)
    (amdCfgExposeUnusedPciePorts : UInt8) (instances : List (Fin n × List AskEntry)) (before : t.EngineId → UInt16)
    (regs : BridgeCntl n) :
    let initStatus := instances.foldl (mpioUpdatePortTrainingStatus t ports amdCfgExposeUnusedPciePorts) before
    (∀ e, (t.engine e).pcieEngine = true →
      (visible (mpioVisibilityControl t ports initStatus regs (bridge t ports e)) = true ↔
        exposed t ports initStatus e = true)) ↔
    ∀ e, (t.engine e).pcieEngine = true →
      ((∃ e', bridge t ports e' = bridge t ports e ∧ LeftTrained t ports amdCfgExposeUnusedPciePorts instances before e') ↔
        HasToShow t ports amdCfgExposeUnusedPciePorts instances before e) := by
  intro initStatus
  refine forall₂_congr fun e _ => ?_
  have hvisible : visible (mpioVisibilityControl t ports initStatus regs (bridge t ports e)) = true ↔
      Enabled t ports initStatus e := by
    rw [mpioVisibilityControl, visible_mpioVisibilityControl, if_pos (mem_finRange _)]
  rw [hvisible, exposed_iff, marked_iff, HasToShow, Enabled]
  simp only [initStatus, leftTrained_iff, or_assoc]

def firstEngine : threeEngines.EngineId := ⟨0, by decide⟩

def secondEngine : threeEngines.EngineId := ⟨1, by decide⟩

def twoSlots (linkHotplug : UInt8) (e : threeEngines.EngineId) : PortExposure :=
  ⟨true, if e = secondEngine then linkHotplug else pcieHotplugDisabled, 1, false, e.val.toUInt8⟩

def firstTrained : List (Fin 1 × List AskEntry) := [(0, [⟨askPort0, linkTrained⟩])]

def slotStatus (linkHotplug : UInt8) : threeEngines.EngineId → UInt16 :=
  firstTrained.foldl (mpioUpdatePortTrainingStatus threeEngines (twoSlots linkHotplug) 0) fun _ => 0

def slotVisible (linkHotplug : UInt8) (e : threeEngines.EngineId) : Bool :=
  visible (mpioVisibilityControl threeEngines (twoSlots linkHotplug) (slotStatus linkHotplug) (fun _ => 0)
    (bridge threeEngines (twoSlots linkHotplug) e))

theorem visible_iff_exposed_noHotplug :
    slotVisible 0 firstEngine = true ↔ exposed threeEngines (twoSlots 0) (slotStatus 0) firstEngine = true :=
  (visible_iff_exposed_iff threeEngines (twoSlots 0) 0 firstTrained (fun _ => 0) fun _ => 0).mpr (by decide +kernel)
    firstEngine rfl

theorem hotplug_slot_hidden :
    pcieConfigIsActivePcieEngine threeEngines (twoSlots 1) (slotStatus 1) secondEngine = true ∧
    slotVisible 1 secondEngine = false := by
  decide +kernel

end OpenSil.Mpio
