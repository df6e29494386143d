import OpenSil.Status
import Mathlib.Logic.Function.Basic

/-! # NUMA domains

`DfXBuildDomainInfo` fills the tables of NUMA domains and `DfDomainXlat` looks a core up in them.
-/

namespace OpenSil.Df

abbrev Map := BitVec 32

def normalizedSocketShift : Nat := 16

def Map.bit (i : Nat) : Map := 1#32 <<< i

def Map.onSocket (m : Map) (socket : Nat) : Map := m <<< (socket * normalizedSocketShift)

/-! ## What the code reads -/

structure CxlAddrMapInfo where
  size : UInt64
  status : UInt32
  socket : UInt8

/-- The registers, the CPU ID, and the two APOB entries; `none` is an entry that is not found. -/
structure Hardware where
  otherSocketPresent : Bool
  rawId : BitVec 32
  ccmConfig4 : Nat → Nat → BitVec 32
  ccdEnable : Nat → Nat → BitVec 32
  actualNps : Option UInt8
  cxlInfo : Option (List CxlAddrMapInfo)

namespace Hardware
variable (hw : Hardware)

def numberOfProcessorsPresent : Nat := if hw.otherSocketPresent then 2 else 1

/-- The two constants are used the other way round: 2 is `MAX_CCX_PER_CCD`, 1 is `MAX_CCX_PER_CCD_GENOA`. -/
def maxCcxPerCcd : Nat := if hw.rawId &&& 0x0FFF0F00 = 0x00AA0F00 then 2 else 1

def ccdEn (socket ccm : Nat) : Map := ((hw.ccdEnable socket ccm).extractLsb' 0 2).setWidth 32

def ccxEn (socket ccm : Nat) : BitVec 2 := (hw.ccdEnable socket ccm).extractLsb' 16 2

def sdpWideEn (socket ccm : Nat) : BitVec 1 := (hw.ccmConfig4 socket ccm).extractLsb' 26 1

end Hardware

def dfXNumCcmBlocks : Nat := 8

/-! ## Chiplets -/

def ccdMap (hw : Hardware) (socket : Nat) : Map :=
  (List.range dfXNumCcmBlocks).foldl (fun map j =>
    map ||| ((hw.ccdEn socket j &&& 1) <<< j) |||
      -- Out of the wide mode, the second port is for the second CCD.
      if hw.sdpWideEn socket j = 0 then (((hw.ccdEn socket j >>> 1) &&& 1) <<< dfXNumCcmBlocks) <<< j else 0) 0

def physCcdsFrom : Nat → Nat → Map → List Nat
  | 0, _, _ => []
  | fuel + 1, j, map =>
    if map = 0 then []
    else if map &&& Map.bit j ≠ 0 then j :: physCcdsFrom fuel (j + 1) (map &&& ~~~Map.bit j)
    else physCcdsFrom fuel (j + 1) (map &&& ~~~Map.bit j)

def logToPhysCcd (hw : Hardware) (socket : Nat) : List Nat := physCcdsFrom 32 0 (ccdMap hw socket)

def ccxPerCcd (hw : Hardware) (socket : Nat) : Nat :=
  (List.range dfXNumCcmBlocks).foldl (fun n j => if hw.ccxEn socket j = 3#2 then 2 else n) 1

/-! ## Domains -/

inductive FabricDomainType where
  | numaDram
  | numaSLink
  | numaCxl
  deriving DecidableEq

structure FabricDomainInfo where
  type : FabricDomainType
  socketMap : Map
  physicalDomain : Nat
  deriving DecidableEq

structure FabricPhysDomainInfo where
  normalizedCsMap : Map
  sharingEntityCount : Nat
  sharingEntityMap : Map
  deriving DecidableEq

structure OutputBlk where
  amdFabricCcxAsNumaDomain : Bool
  logToPhysCcd : Nat → List Nat
  ccxPerCcd : Nat → Nat
  reportedDomainCcxMap : Nat → Map
  reportedDomainInfo : Nat → FabricDomainInfo
  physicalDomainInfo : Nat → FabricPhysDomainInfo
  domainInfoValid : Bool
  numberOfReportedDomains : Nat
  numberOfPhysicalDomains : Nat
  systemCxlCount : Nat
  physNps : Nat
  maxCcxPerCcd : Nat

def OutputBlk.fresh (ccxAsNuma : Bool) : OutputBlk where
  amdFabricCcxAsNumaDomain := ccxAsNuma
  logToPhysCcd := fun _ => []
  ccxPerCcd := fun _ => 0
  reportedDomainCcxMap := fun _ => 0
  reportedDomainInfo := fun _ => ⟨.numaDram, 0, 0⟩
  physicalDomainInfo := fun _ => ⟨0, 0, 0⟩
  domainInfoValid := false
  numberOfReportedDomains := 0
  numberOfPhysicalDomains := 0
  systemCxlCount := 0
  physNps := 0
  maxCcxPerCcd := 0

namespace OutputBlk
variable (blk : OutputBlk)

def ccdCount (socket : Nat) : Nat := (blk.logToPhysCcd socket).length

def setPhysicalDomainInfo (domain : Nat) (info : FabricPhysDomainInfo) : OutputBlk :=
  { blk with physicalDomainInfo := Function.update blk.physicalDomainInfo domain info }

def setCsMap (domain : Nat) (csMap : Map) : OutputBlk :=
  blk.setPhysicalDomainInfo domain { blk.physicalDomainInfo domain with normalizedCsMap := csMap }

def setCcxMap (domain : Nat) (ccxMap : Map) : OutputBlk :=
  { blk with reportedDomainCcxMap := Function.update blk.reportedDomainCcxMap domain ccxMap }

def addDomain (csMap ccxMap : Map) : OutputBlk :=
  let n := blk.numberOfPhysicalDomains
  let blk := blk.setCsMap n csMap
  let blk := if blk.amdFabricCcxAsNumaDomain then blk else blk.setCcxMap n ccxMap
  { blk with numberOfPhysicalDomains := n + 1 }

def addDomainNps4 (csMap ccxMap : Map) : OutputBlk :=
  let n := blk.numberOfPhysicalDomains
  let blk := blk.setCsMap n csMap
  let blk := if blk.amdFabricCcxAsNumaDomain then blk else blk.setCcxMap (n + 1) ccxMap
  { blk with numberOfPhysicalDomains := n + 2 }

end OutputBlk

inductive Nps where
  | nps0
  | nps1
  | nps2
  | nps4
  deriving DecidableEq

def Nps.ofActualNps : UInt8 → Option Nps
  | 0 => some nps0
  | 1 => some nps1
  | 2 => some nps2
  | 3 => some nps4
  | _ => none

def umcMap : Map := 0xFFF

def nps2CcxMap (half : Nat) : Map := if half = 0 then 0x0555 else 0x0AAA

def nps4CcxMap (quad : Nat) : Map :=
  match quad with
  | 0 => 0x0111
  | 1 => 0x0444
  | 2 => 0x0888
  | _ => 0x0222

def addDomains (nps : Nps) (numberOfCpus : Nat) (blk : OutputBlk) : OutputBlk :=
  match nps with
  | .nps0 => { blk.addDomain (umcMap ||| umcMap.onSocket 1) 0x0FFF0FFF with physNps := 0 }
  | .nps1 =>
    let blk := (List.range numberOfCpus).foldl (fun blk socket =>
      blk.addDomain (umcMap.onSocket socket) (Map.onSocket 0x0FFF socket)) blk
    { blk with physNps := 1 }
  | .nps2 =>
    let blk := (List.range numberOfCpus).foldl (fun blk socket => (List.range 2).foldl (fun blk half =>
      blk.addDomain (Map.onSocket (0x3F#32 <<< (half * 6)) socket) ((nps2CcxMap half).onSocket socket)) blk) blk
    { blk with physNps := 2 }
  | .nps4 =>
    let blk := (List.range numberOfCpus).foldl (fun blk socket => (List.range 4).foldl (fun blk quad =>
      blk.addDomainNps4 (Map.onSocket (0x7#32 <<< (quad * 3)) socket) ((nps4CcxMap quad).onSocket socket)) blk) blk
    { blk with physNps := 4 }

/-! ## CXL -/

def cxlDeviceAttached (hw : Hardware) (socket : Nat) : Bool :=
  match hw.cxlInfo with
  | none => false
  | some infos => infos.any fun info => info.size ≠ 0 ∧ info.status = 0 ∧ info.socket.toNat = socket

def buildCxlInfo (hw : Hardware) (blk : OutputBlk) : OutputBlk :=
  let attached := (List.range 2).filter (cxlDeviceAttached hw)
  let blk' := attached.zipIdx.foldl (fun b p => b.setCsMap (blk.numberOfPhysicalDomains + p.2) (Map.onSocket 0xF000 p.1))
    blk
  { blk' with systemCxlCount := attached.length
              numberOfPhysicalDomains := blk.numberOfPhysicalDomains + attached.length }

/-! ## Reported domains -/

def getSocketMapFromNormalizedCsMap (csMap : Map) : Map :=
  (List.range 2).foldl (fun socketMap i =>
    socketMap ||| if csMap &&& Map.onSocket 0xFFFF i ≠ 0 then Map.bit i else 0) 0

section
variable (blk : OutputBlk)

/-- The first domain with the CCD's bit, the number of domains if there is none. -/
def getPhysDomainOfCcd (socket physCcd : Nat) : Nat :=
  if 12 ≤ physCcd then 0xFF
  else ((List.range blk.numberOfPhysicalDomains).find? fun d =>
    (blk.physicalDomainInfo d).normalizedCsMap &&& (Map.bit physCcd).onSocket socket ≠ 0).getD
      blk.numberOfPhysicalDomains

def report (index : Nat) (type : FabricDomainType) (physicalDomain : Nat) : OutputBlk :=
  let socketMap := getSocketMapFromNormalizedCsMap (blk.physicalDomainInfo physicalDomain).normalizedCsMap
  { blk with
    reportedDomainInfo := Function.update blk.reportedDomainInfo index ⟨type, socketMap, physicalDomain⟩ }

def setSharing (domain count : Nat) (map : Map) : OutputBlk :=
  blk.setPhysicalDomainInfo domain
    { blk.physicalDomainInfo domain with sharingEntityCount := count, sharingEntityMap := map }

def reportCcx (core : (Nat × Nat) × Nat) : OutputBlk :=
  let domain := getPhysDomainOfCcd blk core.1.1 core.1.2
  let blk := report blk core.2 .numaDram domain
  setSharing blk domain ((blk.physicalDomainInfo domain).sharingEntityCount + 1)
    ((blk.physicalDomainInfo domain).sharingEntityMap ||| Map.bit core.2)

def reportCxl (index domain : Nat) : OutputBlk :=
  setSharing (report blk index .numaCxl domain) domain 1 (Map.bit index)

def ccxs (numberOfCpus : Nat) : List (Nat × Nat) :=
  (List.range numberOfCpus).flatMap fun socket =>
    (blk.logToPhysCcd socket).flatMap fun physCcd => List.replicate (blk.ccxPerCcd socket) (socket, physCcd)

end

def reportCcxDomains (numberOfCpus : Nat) (blk : OutputBlk) : OutputBlk :=
  let blk := { blk with physicalDomainInfo := fun d =>
    if d < 16 then { blk.physicalDomainInfo d with sharingEntityCount := 0, sharingEntityMap := 0 }
    else blk.physicalDomainInfo d }
  let cores := ccxs blk numberOfCpus
  let blk := cores.zipIdx.foldl reportCcx blk
  let cxlBase := blk.numberOfPhysicalDomains - blk.systemCxlCount
  (List.range blk.systemCxlCount).foldl (fun blk i => reportCxl blk (cores.length + i) (cxlBase + i)) blk

def csCmpSystemMap : Map := 0xF000F000

def reportPhysicalDomain (blk : OutputBlk) (domain : Nat) : OutputBlk :=
  let type : FabricDomainType :=
    if (blk.physicalDomainInfo domain).normalizedCsMap &&& csCmpSystemMap ≠ 0 then .numaCxl else .numaDram
  setSharing (report blk domain type domain) domain 1 (Map.bit domain)

def reportPhysicalDomains (blk : OutputBlk) : OutputBlk :=
  (List.range blk.numberOfPhysicalDomains).foldl reportPhysicalDomain blk

def startDomains (hw : Hardware) (blk : OutputBlk) : OutputBlk :=
  let known := fun socket => socket < hw.numberOfProcessorsPresent
  { blk with
    domainInfoValid := false
    logToPhysCcd := fun socket => if known socket then logToPhysCcd hw socket else blk.logToPhysCcd socket
    ccxPerCcd := fun socket => if known socket then ccxPerCcd hw socket else blk.ccxPerCcd socket
    numberOfPhysicalDomains := 0
    maxCcxPerCcd := hw.maxCcxPerCcd
    reportedDomainCcxMap := fun _ => 0 }

/-- `none` is a data block that is not found. -/
def dfXBuildDomainInfo (hw : Hardware) (blk : Option OutputBlk) : SilStatus × Option OutputBlk :=
  match blk with
  | none => (.silUnsupported, none)
  | some blk =>
    match hw.actualNps with
    | none => (.silUnsupported, some { blk with domainInfoValid := false })
    | some actualNps =>
      let started := startDomains hw blk
      match Nps.ofActualNps actualNps with
      | none => (.silUnsupported, some started)
      | some nps =>
        let n := hw.numberOfProcessorsPresent
        let built := buildCxlInfo hw (addDomains nps n started)
        let reported :=
          if built.amdFabricCcxAsNumaDomain then
            { reportCcxDomains n built with numberOfReportedDomains :=
                ((List.range n).map fun socket => built.ccdCount socket * built.ccxPerCcd socket).sum }
          else { reportPhysicalDomains built with numberOfReportedDomains := built.numberOfPhysicalDomains }
        (.silPass, some { reported with domainInfoValid := true })

def firstDomain (ccxMap : Nat → Map) (n : Nat) (core : Map) : Option Nat :=
  (List.range n).find? fun i => ccxMap i &&& core ≠ 0

def dfDomainXlat (hw : Hardware) (blk : Option OutputBlk) (socket die ccd ccx : Nat) : SilStatus × Option Nat :=
  match blk with
  | none => (.silUnsupported, none)
  | some blk =>
    if hw.numberOfProcessorsPresent ≤ socket ∨ 1 ≤ die then (.silInvalidParameter, none)
    else match (blk.logToPhysCcd socket)[ccd]? with
      | none => (.silInvalidParameter, none)
      | some physCcd =>
        if blk.ccxPerCcd socket ≤ ccx then (.silInvalidParameter, none)
        else
          let core := Map.onSocket (Map.bit ccx <<< (physCcd * blk.maxCcxPerCcd)) socket
          match firstDomain blk.reportedDomainCcxMap blk.numberOfReportedDomains core with
          | some i => (.silPass, some i)
          | none => (.silInvalidParameter, none)

end OpenSil.Df
