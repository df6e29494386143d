import OpenSil.Nbio.Topology

/-! # Building the PCIe topology

`PcieConfigurationInit` copies the template of each root bridge and links it to the last one.
-/

namespace OpenSil.Nbio

open Chain

/-! ## Writes to headers -/

def offsetTo (base target : Nat) : BitVec 16 := BitVec.ofInt 16 (target - base)

namespace Headers
variable (h : Headers)

def modify (d : Nat) (f : DescriptorHeader → DescriptorHeader) : Headers := fun a => if a = d then f (h a) else h a

def attachChild (p c : Nat) : Headers := h.modify p ({ · with child := offsetTo p c })

def attachParent (p c : Nat) : Headers := h.modify c ({ · with parent := offsetTo p c })

def attachPeer (left right : Nat) : Headers := h.modify left ({ · with peer := offsetTo left right })

def setDescriptorFlags (d : Nat) (flags : BitVec 32) : Headers :=
  h.modify d fun header => { header with descriptorFlags := header.descriptorFlags ||| flags }

def resetDescriptorFlags (d : Nat) (flags : BitVec 32) : Headers :=
  h.modify d fun header => { header with descriptorFlags := header.descriptorFlags &&& ~~~flags }

def clear (size : Nat) : Headers := fun a => if a < size then ⟨0, 0, 0, 0⟩ else h a

/-- `memcpy` of `size` bytes. -/
def copy (base size : Nat) (source : Headers) : Headers := fun a =>
  if base ≤ a ∧ a < base + size then source (a - base) else h a

def link (left right : Nat) : Headers :=
  (h.attachPeer left right).resetDescriptorFlags left descriptorTerminateTopology

end Headers

/-! ## The block -/

structure SiliconConfig where
  socketId : BitVec 8
  dieNumber : BitVec 8
  rbIndex : BitVec 8
  instanceId : BitVec 8
  segment : BitVec 4
  bus : BitVec 8
  startLane : BitVec 16
  endLane : BitVec 16
  busNumberLimit : BitVec 8
  sbPresent : Bool
  smuPresent : Bool
  logicalRBIndex : BitVec 8
  deriving DecidableEq

structure PcieSib where
  headers : Headers
  silicon : Nat → SiliconConfig
  wrapId : Nat → BitVec 8

def maxNumberOfComplexes : Nat := 16

def complexAddr (i : Nat) : Nat := 46 + 12 * i

def complexConfigs : Nat := complexAddr maxNumberOfComplexes

structure ComplexTemplate where
  size : Nat
  headers : Headers
  silicon : SiliconConfig
  wrapId : Nat → BitVec 8

def PcieSib.copy (sib : PcieSib) (buffer : Nat) (t : ComplexTemplate) : PcieSib where
  headers := sib.headers.copy buffer t.size t.headers
  silicon a := if a = buffer then t.silicon else sib.silicon a
  wrapId a := if buffer ≤ a ∧ a < buffer + t.size then t.wrapId (a - buffer) else sib.wrapId a

structure RootBridgeInfo where
  busNumberBase : BitVec 32
  busNumberLimit : BitVec 32
  physicalRootBridgeNumber : Nat
  hasFchDevice : Bool
  hasSystemMgmtUnit : Bool

/-- A root bridge with its place in the system, the number of bridges of its die and its template. -/
structure RootBridge where
  socketIndex : Nat
  dieIndex : Nat
  rootBridgeIndex : Nat
  totalNumberOfRootBridges : Nat
  info : RootBridgeInfo
  template : ComplexTemplate

def rootBridges (template : Nat → Nat → ComplexTemplate) (system : List (List (List RootBridgeInfo))) : List RootBridge :=
  system.zipIdx.flatMap fun (dies, socketIndex) => dies.zipIdx.flatMap fun (bridges, dieIndex) =>
    bridges.zipIdx.map fun (info, rootBridgeIndex) =>
      ⟨socketIndex, dieIndex, rootBridgeIndex, bridges.length, info, template socketIndex info.physicalRootBridgeNumber⟩

/-! ## Linking -/

section
variable (fuel : Nat)

def pcieConfigAttachDescriptors (type : BitVec 32) (base new : Nat) (h : Headers) : Option Headers := do
  let child ← pcieConfigGetChild fuel h type base
  let left ← child.elim (some none) (pcieConfigGetPeer fuel h descriptorTerminateGnb)
  let right ← pcieConfigGetChild fuel h type new
  match left, right with
  | some left, some right => some (h.link left right)
  | _, _ => some h

def pcieConfigAttachComplexes (base new : Nat) (h : Headers) : Option Headers := do
  let h ← pcieConfigAttachDescriptors fuel descriptorSilicon base new (h.link base new)
  let h ← pcieConfigAttachDescriptors fuel descriptorPcieWrapper base new h
  pcieConfigAttachDescriptors fuel descriptorPcieEngine base new h

def attachSilicons (complex : Nat) : Nat → Option Nat → Headers → Option Headers
  | _, none, h => some h
  | 0, some _, _ => none
  | fuel + 1, some silicon, h =>
    attachSilicons complex fuel ((h.attachParent complex silicon).nextTopologyDescriptor silicon)
      (h.attachParent complex silicon)

def siliconOf (bridge : RootBridge) (complexIndex : Nat) (silicon : SiliconConfig) : SiliconConfig :=
  { silicon with
    socketId := BitVec.ofNat 8 bridge.socketIndex
    dieNumber := BitVec.ofNat 8 bridge.dieIndex
    rbIndex := if bridge.totalNumberOfRootBridges > 1 then BitVec.ofNat 8 bridge.info.physicalRootBridgeNumber else 0
    logicalRBIndex := BitVec.ofNat 8 bridge.rootBridgeIndex
    instanceId := BitVec.ofNat 8 complexIndex
    bus := bridge.info.busNumberBase.setWidth 8
    busNumberLimit := bridge.info.busNumberLimit.setWidth 8
    startLane := silicon.startLane + 0
    endLane := if bridge.totalNumberOfRootBridges > 1 then silicon.endLane + 130 else silicon.endLane
    sbPresent := bridge.info.hasFchDevice
    smuPresent := bridge.info.hasSystemMgmtUnit }

structure Building where
  sib : PcieSib
  buffer : Nat
  complexIndex : Nat

def complexFlags : BitVec 32 :=
  descriptorComplex ||| descriptorTerminateList ||| descriptorTerminateGnb ||| descriptorTerminateTopology

def buildComplex (s : Building) (bridge : RootBridge) : Option Building := do
  let complex := complexAddr s.complexIndex
  let headers := ((s.sib.headers.attachChild complex s.buffer).attachParent 0 complex).setDescriptorFlags complex complexFlags
  let sib := { s.sib with headers }.copy s.buffer bridge.template
  let silicon ← pcieConfigGetChild fuel sib.headers descriptorSilicon complex
  let silicons := fun a => if silicon = some a then siliconOf bridge s.complexIndex (sib.silicon a) else sib.silicon a
  let headers ← attachSilicons complex fuel silicon sib.headers
  let headers ←
    if s.complexIndex > 0 then pcieConfigAttachComplexes fuel (complexAddr (s.complexIndex - 1)) complex headers
    else some headers
  some ⟨{ sib with headers := headers, silicon := silicons }, s.buffer + bridge.template.size, s.complexIndex + 1⟩

def startSib (sib : PcieSib) : PcieSib :=
  { sib with
    headers :=
      ((sib.headers.clear complexConfigs).attachChild 0 (complexAddr 0)).setDescriptorFlags 0
        (descriptorPlatform ||| descriptorTerminateList ||| descriptorTerminateTopology) }

def pcieConfigurationInit (sib : PcieSib) (bridges : List RootBridge) : Option PcieSib := do
  let s ← bridges.foldlM (buildComplex fuel) ⟨startSib sib, complexConfigs, 0⟩
  -- the platform has no parent, its offset is kept for the chipset
  some { s.sib with headers := s.sib.headers.modify 0 ({ · with parent := offsetTo 0 s.buffer }) }

end

end OpenSil.Nbio
