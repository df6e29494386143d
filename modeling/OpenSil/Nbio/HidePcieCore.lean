import OpenSil.Nbio.PcieConfigurationRun

/-! # Hiding PCIe cores

`PcieEnumerateAndHarvestWrappers` takes the cores that the fuses report out of the topology.
-/

namespace OpenSil.Nbio

open Chain

/-- Why there is no result: a loop ran out of fuel, a null pointer was used or an index left its table. -/
inductive Stop where
  | fuel
  | null
  | bounds
  deriving DecidableEq

def Stop.ofFuel {α : Type} : Option α → Except Stop α
  | some a => .ok a
  | none => .error .fuel

def Stop.deref : Option Nat → Except Stop Nat
  | some d => .ok d
  | none => .error .null

@[simp] theorem Stop.ofFuel_some {α : Type} (a : α) : Stop.ofFuel (some a) = .ok a := rfl

@[simp] theorem Stop.deref_some (d : Nat) : Stop.deref (some d) = .ok d := rfl

@[simp] theorem Stop.ok_bind {α β : Type} (a : α) (f : α → Except Stop β) : (Except.ok a >>= f) = f a := rfl

def wrapperSize : Nat := 22

def siliconSize : Nat := 26

def complexSize : Nat := 12

structure HideWrapperInfo where
  pcieCoreNum : BitVec 32
  thisPcieCore : Option Nat
  prevPcieCore : Option Nat
  nextPcieCore : Option Nat
  firstPciePortOnNext : Option Nat
  lastPciePortOnThis : Option Nat
  lastPciePortOnPrev : Option Nat

def findLastPciePortOnPrevPcieCore (pciePort : Nat) (info : HideWrapperInfo) : HideWrapperInfo :=
  { info with lastPciePortOnPrev := some pciePort }

def findLastPciePortOfThisPcieCore (pciePort : Nat) (info : HideWrapperInfo) : HideWrapperInfo :=
  { info with lastPciePortOnThis := some pciePort }

def findPcieCoreDesc (wrapId : Nat → BitVec 8) (pcieCore : Nat) (info : HideWrapperInfo) : HideWrapperInfo :=
  if (wrapId pcieCore).setWidth 32 = info.pcieCoreNum then { info with thisPcieCore := some pcieCore }
  else if info.thisPcieCore = none then { info with prevPcieCore := some pcieCore }
  else if info.nextPcieCore = none then { info with nextPcieCore := some pcieCore }
  else info

section
variable (fuel : Nat)

def hideAttachDescriptors (type : BitVec 32) (base new : Option Nat) (h : Headers) : Except Stop Headers := do
  let child ← Stop.ofFuel (pcieConfigGetChild fuel h type (← Stop.deref base))
  let left ← Stop.ofFuel (pcieConfigGetPeer fuel h descriptorTerminateGnb (← Stop.deref child))
  let left ← Stop.deref left
  let right ← Stop.ofFuel (pcieConfigGetChild fuel h type (← Stop.deref new))
  .ok (h.link left (← Stop.deref right))

def findSilicon (sib : PcieSib) (instanceId : BitVec 8) : Option Nat → Option (Option Nat)
  | none => some none
  | some silicon =>
    seek sib.headers.nextTopologyDescriptor (fun s => decide ((sib.silicon s).instanceId = instanceId)) fuel silicon

def findPrevPcieCore (sib : PcieSib) (info : HideWrapperInfo) (pcieCore : Option Nat) : Except Stop HideWrapperInfo := do
  let pcieCore ← Stop.deref pcieCore
  let pcie ← Stop.ofFuel (pcieConfigGetParent fuel sib.headers descriptorPlatform pcieCore)
  let silicon ← Stop.ofFuel (pcieConfigGetParent fuel sib.headers descriptorSilicon pcieCore)
  let silicon ← Stop.deref silicon
  let instanceId := (sib.silicon silicon).instanceId
  if instanceId = 0 then .ok info
  else do
    let first ← Stop.ofFuel (pcieConfigGetChild fuel sib.headers descriptorSilicon (← Stop.deref pcie))
    match ← Stop.ofFuel (findSilicon fuel sib (instanceId - 1) first) with
    | none => .ok info
    | some prevSilicon => do
      let core ← Stop.ofFuel (pcieConfigGetChild fuel sib.headers descriptorAllWrappers prevSilicon)
      -- the last core of the array is the one that stays
      Stop.ofFuel (runWhile (sib.headers.nextDescriptor wrapperSize) (fun _ => some true)
        (fun info core => { info with prevPcieCore := some core }) fuel core info)

def findPrevIfFirst (sib : PcieSib) (silicon : Nat) (info : HideWrapperInfo) : Except Stop HideWrapperInfo :=
  if info.prevPcieCore.isNone ∧ (sib.silicon silicon).instanceId ≠ 0 then findPrevPcieCore fuel sib info info.thisPcieCore
  else .ok info

def findNextIfLast (h : Headers) (info : HideWrapperInfo) : HideWrapperInfo :=
  if info.nextPcieCore.isNone && info.thisPcieCore.isSome then
    { info with nextPcieCore := info.thisPcieCore.bind h.nextTopologyDescriptor }
  else info

def findFirstPciePort (h : Headers) : Option Nat → Except Stop (Option Nat)
  | some next => Stop.ofFuel (pcieConfigGetChild fuel h descriptorAllEngines next)
  | none => .ok none

/-- The cores and ports that hiding is about, and whether the first or the last core of the bridge is hidden. -/
def findHideInfo (sib : PcieSib) (silicon : Nat) (pcieCoreNum : BitVec 32) : Except Stop (HideWrapperInfo × Bool × Bool) := do
  let h := sib.headers
  let info ← Stop.ofFuel (pcieConfigRunProcForAllWrappersInNbio fuel h descriptorAllWrappers (findPcieCoreDesc sib.wrapId)
    ⟨pcieCoreNum, none, none, none, none, none, none⟩ silicon)
  let deleteFirstPcieCore := info.prevPcieCore.isNone
  let info ← findPrevIfFirst fuel sib silicon info
  let deleteLastPcieCore := info.nextPcieCore.isNone && info.thisPcieCore.isSome
  let info := findNextIfLast h info
  let firstPciePortOnNext ← findFirstPciePort fuel h info.nextPcieCore
  let info := { info with firstPciePortOnNext := firstPciePortOnNext }
  let info ← Stop.ofFuel (pcieConfigRunProcForAllEnginesInWrapper fuel h descriptorPcieEngine
    findLastPciePortOnPrevPcieCore info (← Stop.deref info.prevPcieCore))
  let info ← Stop.ofFuel (pcieConfigRunProcForAllEnginesInWrapper fuel h descriptorPcieEngine
    findLastPciePortOfThisPcieCore info (← Stop.deref info.thisPcieCore))
  .ok (info, deleteFirstPcieCore, deleteLastPcieCore)

def hideAttach (info : HideWrapperInfo) (h : Headers) : Except Stop Headers := do
  let h ← hideAttachDescriptors fuel descriptorPcieWrapper info.prevPcieCore info.nextPcieCore h
  hideAttachDescriptors fuel descriptorPcieEngine info.lastPciePortOnPrev info.firstPciePortOnNext h

/-- `PcieConfigSetDescriptorFlags` with the flags of another descriptor, which is read only if the first is not null. -/
def setDescriptorFlagsOf (target source : Option Nat) (h : Headers) : Except Stop Headers :=
  match target with
  | none => .ok h
  | some target => do
    let source ← Stop.deref source
    .ok (h.setDescriptorFlags target (h source).descriptorFlags)

def hideFirst (sib : PcieSib) (silicon : Nat) (info : HideWrapperInfo) : Except Stop Headers := do
  let h ← if (sib.silicon silicon).instanceId ≠ 0 then hideAttach fuel info sib.headers else .ok sib.headers
  .ok (h.attachChild silicon (← Stop.deref info.nextPcieCore))

def hideLast (sib : PcieSib) (info : HideWrapperInfo) : Except Stop Headers := do
  let h ← setDescriptorFlagsOf info.prevPcieCore info.thisPcieCore sib.headers
  let h ← setDescriptorFlagsOf info.lastPciePortOnPrev info.lastPciePortOnThis h
  -- otherwise the flags that end the topology would go
  if info.nextPcieCore.isSome then hideAttach fuel info h else .ok h

def hideMiddle (sib : PcieSib) (info : HideWrapperInfo) : Except Stop Headers := do
  let h := sib.headers.attachPeer (← Stop.deref info.prevPcieCore) (← Stop.deref info.nextPcieCore)
  .ok (h.attachPeer (← Stop.deref info.lastPciePortOnPrev) (← Stop.deref info.firstPciePortOnNext))

def pcieComplexHidePcieCore (sib : PcieSib) (silicon : Nat) (pcieCoreNum : BitVec 32) : Except Stop PcieSib := do
  let (info, deleteFirstPcieCore, deleteLastPcieCore) ← findHideInfo fuel sib silicon pcieCoreNum
  let headers ← (if deleteFirstPcieCore then hideFirst fuel sib silicon info
    else if deleteLastPcieCore then hideLast fuel sib info
    else hideMiddle sib info)
  .ok { sib with headers := headers }

end

/-! ## Harvesting -/

structure FuseAccess where
  isSteppingAx : Bool
  smnRead : BitVec 4 → BitVec 8 → BitVec 32 → BitVec 32

def fuseMaskPcieCoreAx : List (BitVec 32) :=
  [0x80000, 0x800000, 0x100000, 0x1000000, 0x200000, 0x2000000, 0x400000, 0x4000000]

def fuseMaskPcieCoreBx : List (BitVec 32) :=
  [0x40000, 0x8, 0x80000, 0x10, 0x10000000, 0x1000, 0x20000000, 0x2000]

def harvestedByFuse (env : FuseAccess) (silicon : SiliconConfig) (wrapId : BitVec 8) : Except Stop Bool := do
  let index := (silicon.rbIndex <<< 1) + wrapId
  let fuseData := env.smnRead silicon.segment silicon.bus (if env.isSteppingAx then 0x5d284 else 0x5d27c)
  match (if env.isSteppingAx then fuseMaskPcieCoreAx else fuseMaskPcieCoreBx)[index.toNat]? with
  | some mask => .ok (fuseData &&& mask ≠ 0)
  | none => .error .bounds

section
variable (env : FuseAccess) (fuel : Nat)

def harvestCores (silicon : Nat) : Nat → Option Nat → PcieSib → Except Stop PcieSib
  | _, none, sib => .ok sib
  | 0, some _, _ => .error .fuel
  | turns + 1, some core, sib => do
    let harvested ← harvestedByFuse env (sib.silicon silicon) (sib.wrapId core)
    let sib ←
      if harvested then pcieComplexHidePcieCore fuel sib silicon ((sib.wrapId core).setWidth 32) else .ok sib
    harvestCores silicon turns (sib.headers.nextDescriptor wrapperSize core) sib

def harvestSilicons : Nat → Option Nat → PcieSib → Except Stop PcieSib
  | _, none, sib => .ok sib
  | 0, some _, _ => .error .fuel
  | turns + 1, some silicon, sib => do
    let core ← Stop.ofFuel (pcieConfigGetChild fuel sib.headers descriptorAllWrappers silicon)
    let sib ← harvestCores env fuel silicon fuel core sib
    harvestSilicons turns (sib.headers.nextDescriptor siliconSize silicon) sib

def harvestComplexes : Nat → Option Nat → PcieSib → Except Stop PcieSib
  | _, none, sib => .ok sib
  | 0, some _, _ => .error .fuel
  | turns + 1, some complex, sib => do
    let silicon ← Stop.ofFuel (pcieConfigGetChild fuel sib.headers descriptorSilicon complex)
    let sib ← harvestSilicons env fuel fuel silicon sib
    harvestComplexes turns
      (if sib.headers.has descriptorTerminateTopology complex then none else some (complex + complexSize)) sib

def pcieEnumerateAndHarvestWrappers (sib : PcieSib) : Except Stop PcieSib := do
  let complex ← Stop.ofFuel (pcieConfigGetChild fuel sib.headers descriptorComplex 0)
  harvestComplexes env fuel fuel complex sib

end

end OpenSil.Nbio
