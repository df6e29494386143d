import OpenSil.Lib.Bump
import OpenSil.RcMgr.Types

/-! # Reserving MMIO

`FabricReserveMmio` hands out space for devices that are not on PCI.
-/

namespace OpenSil.RcMgr

open Word

inductive MmioType where
  | mmioBelow4G
  | mmioAbove4G
  | pMmioBelow4G
  | pMmioAbove4G
  | nonPciDeviceBelow4G
  | nonPciDeviceAbove4G
  | reserved6
  | reserved7
  deriving DecidableEq

inductive PoolKind where
  | nonPrefetch
  | prefetch
  | nonPci
  deriving DecidableEq

def MmioType.kind : MmioType → Option PoolKind
  | mmioBelow4G | mmioAbove4G => some .nonPrefetch
  | pMmioBelow4G | pMmioAbove4G => some .prefetch
  | nonPciDeviceBelow4G | nonPciDeviceAbove4G => some .nonPci
  | reserved6 | reserved7 => none

inductive TgtType where
  | targetPciBus
  | targetRb
  deriving DecidableEq

structure FabricTarget where
  tgtType : TgtType
  pciBusNum : UInt8
  pciSegNum : UInt16
  socketNum : Fin 4
  rbNum : Fin 32

structure MmioAttribute where
  readEnable : Bool
  writeEnable : Bool
  nonPosted : Bool
  cpuDis : Bool
  mmioType : MmioType
  deriving DecidableEq

/-! ## One region -/

def MmioRegion.base (r : MmioRegion) : PoolKind → UInt64
  | .nonPrefetch => r.baseNonPrefetch
  | .prefetch => r.basePrefetch
  | .nonPci => r.baseNonPci

def MmioRegion.size (r : MmioRegion) : PoolKind → UInt64
  | .nonPrefetch => r.sizeNonPrefetch
  | .prefetch => r.sizePrefetch
  | .nonPci => r.sizeNonPci

def MmioRegion.usedSize (r : MmioRegion) : PoolKind → UInt64
  | .nonPrefetch => r.usedSizeNonPrefetch
  | .prefetch => r.usedSizePrefetch
  | .nonPci => r.usedSizeNonPci

def MmioRegion.addUsedSize (r : MmioRegion) (n : UInt64) : PoolKind → MmioRegion
  | .nonPrefetch => { r with usedSizeNonPrefetch := r.usedSizeNonPrefetch + n }
  | .prefetch => { r with usedSizePrefetch := r.usedSizePrefetch + n }
  | .nonPci => { r with usedSizeNonPci := r.usedSizeNonPci + n }

def fabricGetRemainingSizeForThisRegion (mmioRegion : MmioRegion) (alignment : UInt64) (mmioType : MmioType) : UInt64 :=
  let (base, size) := match mmioType.kind with
    | some k => (mmioRegion.base k + mmioRegion.usedSize k, mmioRegion.size k - mmioRegion.usedSize k)
    | none => (0, 0)
  let baseAligned := alignUp base alignment
  if baseAligned - base ≤ size then size - (baseAligned - base) else 0

/-- The address, 0 if there is none, and the region with the space taken. -/
def fabricGetBaseAddress (mmioRegion : MmioRegion) (length alignment : UInt64) (mmioType : MmioType) :
    UInt64 × MmioRegion :=
  match mmioType.kind with
  | none => (0, mmioRegion)
  | some k =>
    let base := mmioRegion.base k + mmioRegion.usedSize k
    let remaining := mmioRegion.size k - mmioRegion.usedSize k
    if base ≠ 0 ∧ remaining ≠ 0 then
      let aligned := alignUp base alignment
      if length + aligned - base ≤ remaining then (aligned, mmioRegion.addUsedSize (length + aligned - base) k)
      else (0, mmioRegion)
    else (0, mmioRegion)

/-! ## The target -/

/-- The bus regions of the first socket are read for all of them. -/
def routesBus (df : DfAnswers) (target : FabricTarget) (i : Nat) : Bool :=
  bits (df.cfgBase 0 i) 0 1 = 1 ∧ bits (df.cfgBase 0 i) 1 1 = 1 ∧
  target.pciBusNum.toNat ≤ bits (df.cfgLimit 0 i) 16 8 ∧ bits (df.cfgBase 0 i) 16 8 ≤ target.pciBusNum.toNat ∧
  bits (df.cfgBase 0 i) 8 8 = target.pciSegNum.toNat

def findRb (df : DfAnswers) (dstFabricID : Nat) : UInt8 × UInt8 :=
  (List.range df.numberOfProcessorsPresent.toNat).foldl (fun found i =>
    match (List.range df.rootBridgesOnSocket.toNat).find? fun j =>
        (df.hostBridgeSystemFabricID i (j % df.rootBridgesOnDie.toNat)).toNat = dstFabricID with
    | some j => (.ofNat i, .ofNat j)
    | none => found) (0xFF, 0xFF)

/-- Socket and root bridge of the target, `none` if no bus region has its bus. -/
def resolveTarget (df : DfAnswers) (target : FabricTarget) : Option (UInt8 × UInt8) :=
  match target.tgtType with
  | .targetPciBus =>
    ((List.range dfXNumberOfBusRegions).find? (routesBus df target)).map fun i =>
      findRb df (bits (df.cfgLimit 0 i) 0 12)
  | .targetRb =>
    let rb : UInt8 := .ofNat target.rbNum
    some (.ofNat target.socketNum, if df.rootBridgesOnSocket ≤ rb then df.rootBridgesOnSocket - 1 else rb)

/-! ## One call -/

structure RegionId where
  above4G : Bool
  socket : Nat
  rb : Nat
  deriving DecidableEq

def MmioManager.region (m : MmioManager) (id : RegionId) : MmioRegion :=
  if id.above4G then m.mmioRegionAbove4G id.socket id.rb else m.mmioRegionBelow4G id.socket id.rb

def MmioManager.setRegion (m : MmioManager) (id : RegionId) (r : MmioRegion) : MmioManager :=
  if id.above4G then { m with mmioRegionAbove4G := m.mmioRegionAbove4G.set id.socket id.rb r }
  else { m with mmioRegionBelow4G := m.mmioRegionBelow4G.set id.socket id.rb r }

def MmioManager.secondRegion (m : MmioManager) : RegionId :=
  ⟨false, ((m.primaryRb2ndMmioPairBelow4G >>> 4) &&& 0xF).toNat, (m.primaryRb2ndMmioPairBelow4G &&& 0xF).toNat⟩

structure Request where
  length : UInt64
  alignment : UInt64
  target : FabricTarget
  attributes : MmioAttribute

structure Outcome where
  status : SilStatus
  baseAddress : UInt64
  length : UInt64
  attributes : MmioAttribute
  deriving DecidableEq

def Request.fails (req : Request) (status : SilStatus) : Outcome := ⟨status, 0, req.length, req.attributes⟩

/-- The regions to try, `MmioRegion` first, with their remaining sizes `SizeA` and `SizeB`. -/
structure Candidates where
  mmioRegion : RegionId
  sizeA : UInt64
  secondMmioRegion : Option RegionId
  sizeB : UInt64

def MmioManager.remainingSize (m : MmioManager) (id : RegionId) (req : Request) : UInt64 :=
  fabricGetRemainingSizeForThisRegion (m.region id) req.alignment req.attributes.mmioType

def candidatesBelow4G (df : DfAnswers) (m : MmioManager) (socket rb : UInt8) (req : Request) : Candidates :=
  let own : RegionId := ⟨false, socket.toNat, rb.toNat⟩
  let sizeA := m.remainingSize own req
  if m.primaryRbHas2ndMmioBelow4G ∧ socket = df.primarySocket ∧ rb = df.primaryRootBridge then
    let sizeB := m.remainingSize m.secondRegion req
    if sizeB < sizeA ∧ sizeB ≠ 0 then ⟨m.secondRegion, sizeB, some own, sizeA⟩
    else ⟨own, sizeA, some m.secondRegion, sizeB⟩
  else ⟨own, sizeA, none, 0⟩

def candidatesAbove4G (m : MmioManager) (socket rb : UInt8) (req : Request) : Candidates :=
  let own : RegionId := ⟨true, socket.toNat, rb.toNat⟩
  ⟨own, m.remainingSize own req, none, 0⟩

def MmioManager.take (m : MmioManager) (id : RegionId) (req : Request) : UInt64 × MmioManager :=
  let (base, r) := fabricGetBaseAddress (m.region id) req.length req.alignment req.attributes.mmioType
  (base, m.setRegion id r)

def takeFirstFit (m : MmioManager) (req : Request) (c : Candidates) : UInt64 × MmioManager :=
  if req.length ≤ c.sizeA then m.take c.mmioRegion req
  else match c.secondMmioRegion with
    | some id => if req.length ≤ c.sizeB then m.take id req else (0, m)
    | none => (0, m)

def finishReserve (req : Request) (c : Candidates) (taken : UInt64 × MmioManager) : Outcome × MmioManager :=
  if taken.1 = 0 then (⟨.silOutOfResources, 0, atLeast c.sizeA c.sizeB, req.attributes⟩, taken.2)
  else (⟨.silPass, taken.1, req.length,
    { req.attributes with nonPosted := false, readEnable := true, writeEnable := true, cpuDis := false }⟩, taken.2)

def reserveFrom (df : DfAnswers) (m : MmioManager) (req : Request) : Outcome × MmioManager :=
  if req.length = 0 then (req.fails .silPass, m)
  else if req.attributes.mmioType ≠ .nonPciDeviceBelow4G ∧ req.attributes.mmioType ≠ .nonPciDeviceAbove4G then
    (req.fails .silAborted, m)
  else match resolveTarget df req.target with
    | none => (req.fails .silAborted, m)
    | some (socket, rb) =>
      if maxSocketsSupported ≤ socket ∨ dfXMaxRbsPerSocket ≤ rb then (req.fails .silAborted, m)
      else if req.attributes.mmioType = .nonPciDeviceBelow4G then
        if m.allocateMmioBelow4GOnThisRb socket.toNat rb.toNat = false then (req.fails .silAborted, m)
        else
          let c := candidatesBelow4G df m socket rb req
          finishReserve req c (takeFirstFit m req c)
      else
        if m.allocateMmioAbove4GOnThisRb socket.toNat rb.toNat = false then (req.fails .silAborted, m)
        else
          let c := candidatesAbove4G m socket rb req
          finishReserve req c (takeFirstFit m req c)

/-- `none` is a missing input block; `baseAddress` is then left as it was. -/
def fabricReserveMmio (df : DfAnswers) (rcMgrData : Option MmioManager) (baseAddress : UInt64) (req : Request) :
    Outcome × Option MmioManager :=
  match rcMgrData with
  | none => (⟨.silNotFound, baseAddress, req.length, req.attributes⟩, none)
  | some m => let out := reserveFrom df m req; (out.1, some out.2)

/-! ## Calls one after the other -/

structure Call where
  before : Option MmioManager
  request : Request
  outcome : Outcome
  after : Option MmioManager

def runCalls (df : DfAnswers) : Option MmioManager → List (UInt64 × Request) → List Call
  | _, [] => []
  | rcMgrData, (baseAddress, req) :: reqs =>
    let out := fabricReserveMmio df rcMgrData baseAddress req
    ⟨rcMgrData, req, out.1, out.2⟩ :: runCalls df out.2 reqs

def Call.range (c : Call) : Option (Nat × Nat) :=
  if c.outcome.status = .silPass then some (c.outcome.baseAddress.toNat, c.outcome.length.toNat) else none

end OpenSil.RcMgr
