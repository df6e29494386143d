import OpenSil.Status
import Mathlib.Data.List.Basic

/-! # Down-coring

`CcxDownCoreInit` compares the cores of the APOB with those fused on and those asked for.
-/

namespace OpenSil.Ccx

def maxCcdsPerSocket : Nat := 12
def maxCorePerCcx : Nat := 8

inductive DownCoreMode where
  | auto | m1_0 | m1_1 | m2_0 | m3_0 | m2_2 | m4_0 | m3_3 | m5_0 | m6_0 | m7_0 | m4_4 | m5_5 | m6_6 | m7_7 | m6_5
  deriving DecidableEq

def ccdModeAuto : Nat := 0
def xApicMode : Nat := 1

def anyCount : Nat := 0xFFFFFFFF

structure DownCoreInput where
  amdApicMode : Nat
  amdDownCoreMode : DownCoreMode
  amdSmtMode : Nat
  amdCcdMode : Nat
  amdCoreDisCcd : Nat → BitVec 16

def getZen4DesiredCcdCount (ccdMode : Nat) (stack : Nat × BitVec 32) : Nat × BitVec 32 :=
  match ccdMode with
  | 11 => (11, 0x800)
  | 10 => (10, 0xC00)
  | 9 => (9, 0xE00)
  | 8 => (8, 0xF00)
  | 7 => (7, 0xF80)
  | 6 => (6, 0xFC0)
  | 5 => (5, 0xFE0)
  | 4 => (4, 0xFF0)
  | 3 => (3, 0xFF8)
  | 2 => (2, 0xFFC)
  | 1 => stack
  | _ => (anyCount, 0)

def DownCoreMode.request : DownCoreMode → Nat × BitVec 32
  | .auto => (anyCount, 0)
  | .m1_0 => (1, 0x000000FE)
  | .m2_0 => (2, 0x000000FC)
  | .m3_0 => (3, 0x000000F8)
  | .m4_0 => (4, 0x000000F0)
  | .m5_0 => (5, 0x000000E0)
  | .m6_0 => (6, 0x000000C0)
  | .m7_0 => (7, 0x00000080)
  | .m1_1 => (1, 0x0000FEFE)
  | .m2_2 => (2, 0x0000FCFC)
  | .m3_3 => (3, 0x0000F8F8)
  | .m4_4 => (4, 0x0000F0F0)
  | .m5_5 => (5, 0x0000E0E0)
  | .m6_5 => (6, 0x0000E0C0)
  | .m6_6 => (6, 0x0000C0C0)
  | .m7_7 => (7, 0x00008080)

/-! ## Fuses and topology -/

structure Fuses where
  ccdPresent : BitVec 32
  ccdDown : BitVec 32
  coreDis : Nat → BitVec 32
  smtEnabled : Nat → Bool

structure ComplexInfo where
  physComplexNumber : Nat
  cores : List Nat
  deriving DecidableEq

structure CcdInfo where
  physCcdNumber : Nat
  complexes : List ComplexInfo
  deriving DecidableEq

/-- The map of a socket in the APOB, without the entries that are not present, and the threads of its first core. -/
structure SocketTopology where
  ccds : List CcdInfo
  firstCoreThreads : Nat
  deriving DecidableEq

namespace SocketTopology
variable (t : SocketTopology)

/-! The counts of `ApobGetCoreTopologyOnDie`: complexes of the first CCD, cores and threads of its first complex. -/

def ccdCount : Nat := t.ccds.length

def complexCount : Nat := (t.ccds.head?.map (·.complexes.length)).getD 0

def coreCount : Nat := ((t.ccds.head?.bind (·.complexes.head?)).map (·.cores.length)).getD 0

def threadCount : Nat := if t.ccds = [] then 0 else t.firstCoreThreads

def visited (ccd : CcdInfo) : List (Nat × Nat) :=
  (ccd.complexes.take t.complexCount).flatMap fun ccx =>
    (ccx.cores.take t.coreCount).map (ccx.physComplexNumber, ·)

def availableCoreCount : Nat := (t.ccds.map fun ccd => (t.visited ccd).length).sum

def availableCoreMap (ccd : CcdInfo) : BitVec 32 :=
  (t.visited ccd).foldl (fun coreMap (ccx, core) => coreMap ||| 1#32 <<< core <<< (ccx * maxCorePerCcx)) 0

end SocketTopology

def setBitCount (value : BitVec 32) : Nat := (List.range 32).countP value.getLsbD

def bitWidth (number : Nat) : Nat := if number = 0 then 0 else number.log2 + 1

namespace Fuses
variable (f : Fuses)

def ccdDownByFuseCount : Nat := setBitCount (f.ccdDown &&& f.ccdPresent)

def ccdPresentByFuseCount : Nat := setBitCount f.ccdPresent

def coreDisByFuseCount : Nat := ((List.range maxCcdsPerSocket).map fun ccd => setBitCount (f.coreDis ccd)).sum

def thrdPerCore : Nat := if f.smtEnabled 0 then 2 else 1

def enCoreLimit (complexCount limit : Nat) : Nat :=
  ((List.range maxCcdsPerSocket).flatMap fun ccd => (List.range complexCount).map fun ccx =>
    maxCorePerCcx - setBitCount ((f.coreDis ccd >>> (ccx * maxCorePerCcx)) &&& 0xFF)).foldl min limit

def downCored (t : SocketTopology) : Bool :=
  t.ccdCount + f.ccdDownByFuseCount < f.ccdPresentByFuseCount ∨
    t.availableCoreCount + f.coreDisByFuseCount < maxCorePerCcx * t.complexCount * t.ccdCount

def xApicLimited (input : DownCoreInput) (socketCount : Nat) (t : SocketTopology) : Bool :=
  input.amdApicMode = xApicMode ∧ t.ccdCount = 8 ∧
    bitWidth (socketCount - 1) + bitWidth ((f.ccdPresentByFuseCount + 2 ^ 32 - f.ccdDownByFuseCount - 1) % 2 ^ 32) +
      bitWidth (t.complexCount - 1) > 4

end Fuses

/-! ## One socket -/

structure DownCoreVars where
  ccdDisMask : BitVec 32
  coreDisMask : BitVec 32
  desiredCcdCount : Nat
  desiredCoreCount : Nat
  ccdMode : Nat
  downCoreMode : DownCoreMode
  downCoreBitMap : Nat → BitVec 32
  downCoreBitMapAvailable : Bool
  alreadyDownCored : Bool
  met : Bool
  ccdAttainable : Bool
  coreAttainable : Bool
  threadCount : Nat
  thrdPerCoreFuse : Nat

def DownCoreVars.start (input : DownCoreInput) (stack : Nat × BitVec 32) : DownCoreVars where
  ccdDisMask := (getZen4DesiredCcdCount input.amdCcdMode stack).2
  coreDisMask := input.amdDownCoreMode.request.2
  desiredCcdCount := (getZen4DesiredCcdCount input.amdCcdMode stack).1
  desiredCoreCount := input.amdDownCoreMode.request.1
  ccdMode := input.amdCcdMode
  downCoreMode := input.amdDownCoreMode
  downCoreBitMap := fun _ => 0
  downCoreBitMapAvailable := false
  alreadyDownCored := false
  met := true
  ccdAttainable := true
  coreAttainable := true
  threadCount := 2
  thrdPerCoreFuse := 2

section
variable (input : DownCoreInput) (socketCount : Nat) (f : Fuses) (t : SocketTopology)

def readTopology (v : DownCoreVars) : DownCoreVars :=
  let down := f.downCored t
  let downCoreBitMap := fun ccd =>
    if ccd < t.ccdCount then (input.amdCoreDisCcd ccd).setWidth 32 else v.downCoreBitMap ccd
  let limited := f.xApicLimited input socketCount t
  { v with
    ccdDisMask := if down then 0 else v.ccdDisMask
    coreDisMask := if down then 0 else v.coreDisMask
    desiredCcdCount := if v.desiredCcdCount = anyCount then t.ccdCount else v.desiredCcdCount
    desiredCoreCount := if v.desiredCoreCount = anyCount then t.coreCount else v.desiredCoreCount
    ccdMode := if limited then 8 else v.ccdMode
    downCoreMode := if limited then (if t.complexCount > 1 then .m4_4 else .m7_0) else v.downCoreMode
    downCoreBitMap := downCoreBitMap
    downCoreBitMapAvailable :=
      !limited && (v.downCoreBitMapAvailable || (List.range maxCcdsPerSocket).any (downCoreBitMap · ≠ 0))
    alreadyDownCored := v.alreadyDownCored || down
    threadCount := t.threadCount
    thrdPerCoreFuse := f.thrdPerCore }

def compareCounts (v : DownCoreVars) : DownCoreVars :=
  { v with
    ccdAttainable := v.ccdAttainable && !(v.desiredCcdCount > t.ccdCount)
    coreAttainable := v.coreAttainable && !(v.desiredCoreCount > t.coreCount)
    ccdDisMask := if v.desiredCcdCount ≥ t.ccdCount then 0 else v.ccdDisMask
    coreDisMask := if v.desiredCoreCount ≥ t.coreCount then 0 else v.coreDisMask
    met := v.met && (v.desiredCcdCount = t.ccdCount) && (v.desiredCoreCount = t.coreCount) }

def bitMapMet (v : DownCoreVars) : Bool :=
  (t.ccds.zipIdx).all fun (ccd, ccdLoop) => t.availableCoreMap ccd = ~~~v.downCoreBitMap ccdLoop &&& 0xFFFF

def decideSocket (v : DownCoreVars) : DownCoreVars :=
  let v := readTopology input socketCount f t v
  if !v.downCoreBitMapAvailable ∧ (v.ccdDisMask ≠ 0 ∨ v.coreDisMask ≠ 0) then compareCounts t v
  else if v.downCoreBitMapAvailable then { v with met := bitMapMet t v }
  else v

def disMask (v : DownCoreVars) (ccd : CcdInfo) : BitVec 32 :=
  if v.ccdDisMask.getLsbD ccd.physCcdNumber = false then
    if v.downCoreBitMap ccd.physCcdNumber ≠ 0 then v.downCoreBitMap ccd.physCcdNumber &&& 0xFFFF else v.coreDisMask
  else (List.range t.complexCount).foldl (fun mask ccx => mask ||| 0xFF#32 <<< (maxCorePerCcx * ccx)) 0

def socketWrites (v : DownCoreVars) : List (Nat × BitVec 32) :=
  if !v.alreadyDownCored ∧ !v.met ∧ v.coreAttainable ∧ v.ccdAttainable ∧
      (v.ccdDisMask ≠ 0 ∨ v.coreDisMask ≠ 0 ∨ v.downCoreBitMapAvailable) then
    (t.ccds.map fun ccd => (ccd.physCcdNumber, disMask t v ccd)).filter (·.2 ≠ 0)
  else []

end

/-! ## All sockets -/

/-- What a boot leaves: the status, the masks by socket and CCD, whether SMT is disabled, and the output block. -/
structure DownCoreResult where
  status : SilStatus
  writes : List (Nat × Nat × BitVec 32)
  smtDisabled : Bool
  amdCcxCoreCount : Option Nat
  amdAcpiS3Support : Option Bool

def socketLoop (input : DownCoreInput) (socketCount : Nat) :
    Nat → List (Fuses × SocketTopology) → DownCoreVars → List (Nat × Nat × BitVec 32) →
      DownCoreVars × List (Nat × Nat × BitVec 32)
  | _, [], v, writes => (v, writes)
  | socket, (f, t) :: sockets, v, writes =>
    let v := decideSocket input socketCount f t v
    socketLoop input socketCount (socket + 1) sockets v (writes ++ (socketWrites t v).map (socket, ·))

def wantsColdReset (input : DownCoreInput) (v : DownCoreVars) : Bool :=
  (!v.met ∧ v.alreadyDownCored) ∨
    (v.ccdMode = ccdModeAuto ∧ v.downCoreMode = .auto ∧ v.alreadyDownCored ∧ !v.downCoreBitMapAvailable) ∨
    (input.amdSmtMode = 1 ∧ v.threadCount ≠ v.thrdPerCoreFuse)

def ccxDownCoreInit (input : DownCoreInput) (stack : Nat × BitVec 32) (bist : Bool) (smtStatus : SilStatus)
    (sockets : List (Fuses × SocketTopology)) : DownCoreResult :=
  if bist then ⟨.silDeviceError, [], false, none, none⟩
  else
    let (v, writes) := socketLoop input sockets.length 0 sockets (.start input stack) []
    let smtDisabled : Bool := input.amdSmtMode = 0 ∧ v.threadCount > 1 ∧ smtStatus = .silPass
    let status : SilStatus :=
      if wantsColdReset input v then .silResetRequestColdImm
      else if writes ≠ [] ∨ smtDisabled then .silResetRequestWarmImm
      else .silPass
    let enCoreLimit := sockets.foldl (fun limit (f, t) => f.enCoreLimit t.complexCount limit) maxCorePerCcx
    -- `SocIsS3Supported` is false
    ⟨status, writes, smtDisabled, some enCoreLimit, some false⟩

end OpenSil.Ccx
