import OpenSil.RcMgr.BusMap

/-! # Handing out IO space

`SilInitIoBasedOnNvVariable4` and `SilInitIoEqually4`.
-/

namespace OpenSil.RcMgr

open Word

structure IoRegion where
  ioBase : UInt32
  ioSize : UInt32
  ioUsed : UInt32
  deriving DecidableEq

structure IoManager where
  globalCtrl : Bool
  ioRegion : Table IoRegion

structure IoPair where
  base : UInt32
  limit : UInt32
  deriving DecidableEq

/-- What the IO initialisation writes: the manager, and the register pairs of every socket. -/
structure IoState where
  manager : IoManager
  regs : Table IoPair

structure IoSpaceStatus where
  ioSize : UInt32
  ioSizeReqInc : UInt32

def dfIoLimit : UInt32 := 0x2000000

def x86IoLimit : UInt32 := 0x10000

def x86LegacyIoSize : UInt32 := 0x1000

def ioRegister (low address : UInt32) : UInt32 := low ||| ((((address &&& 0xFFFFF000) >>> 12) &&& 0x1FFF) <<< 16)

def ioPairFor (df : DfAnswers) (rb : Nat × Nat) (ioBase ioSize : UInt32) : IoPair where
  base := ioRegister 0x3 ioBase
  limit := ioRegister (df.hostBridgeSystemFabricID rb.1 rb.2 &&& 0xFFF) (ioBase + ioSize - 1)

def silSetIoReg4 (df : DfAnswers) (totalSocket regIndex : UInt8) (rb : Nat × Nat) (ioBase ioSize : UInt32)
    (regs : Table IoPair) : Table IoPair :=
  fun i pair => if i < totalSocket.toNat ∧ pair = regIndex.toNat then ioPairFor df rb ioBase ioSize else regs i pair

structure IoWindow where
  rb : Nat × Nat
  ioBase : UInt32
  ioSize : UInt32
  last : Bool
  deriving DecidableEq

def IoWindow.region (df : DfAnswers) (w : IoWindow) : IoRegion :=
  let region := if w.rb = primaryRb df then ⟨w.ioBase + x86LegacyIoSize, w.ioSize - x86LegacyIoSize, 0⟩
    else ⟨w.ioBase, w.ioSize, 0⟩
  if w.last then { region with ioSize := x86IoLimit - region.ioBase } else region

variable (blk : InputBlk) (io : Table UInt64) (df : DfAnswers)

def programIo (regIndex : UInt8) (s : IoState) (w : IoWindow) : IoState where
  manager := { s.manager with ioRegion := s.manager.ioRegion.set w.rb.1 w.rb.2 (w.region df) }
  regs := silSetIoReg4 df blk.socketNumber regIndex w.rb w.ioBase w.ioSize s.regs

structure IoPlan where
  share : Nat × Nat → UInt32
  ioSizeForPrimaryRb : UInt32
  /-- A root bridge that gets nothing takes no register. -/
  skipsEmpty : Bool
  setDfRegisters : Bool

structure IoWalk where
  state : IoState
  regIndex : UInt8
  ioBaseForOthers : UInt32
  ioSizeSum : UInt32

def IoPlan.place (plan : IoPlan) (df : DfAnswers) (ioBaseForOthers : UInt32) (rb : Nat × Nat) (last : Bool) :
    IoWindow × UInt32 :=
  let ioBase := if rb = primaryRb df then 0 else ioBaseForOthers
  let ioSize := if rb = primaryRb df then plan.ioSizeForPrimaryRb else plan.share rb
  (⟨rb, ioBase, if last then dfIoLimit - ioBase else ioSize, last⟩,
    if rb = primaryRb df then ioBaseForOthers else ioBaseForOthers + plan.share rb)

def ioStep (plan : IoPlan) (s : IoWalk) (log : Nat × Nat) : IoWalk :=
  let phy := dfXSilGetPhySktRbNum df log
  let last : Bool := log.1 + 1 = blk.socketNumber.toNat ∧ log.2 + 1 = blk.rbsPerSocket.toNat
  let placed := plan.place df s.ioBaseForOthers phy last
  let s := { s with ioBaseForOthers := placed.2, ioSizeSum := s.ioSizeSum + plan.share phy }
  if plan.skipsEmpty && placed.1.ioSize == 0 then s
  else
    { s with
      state := if plan.setDfRegisters then programIo blk df s.regIndex s.state placed.1 else s.state
      regIndex := s.regIndex + 1 }

def ioWalk (plan : IoPlan) (ioBaseForOthers : UInt32) (s : IoState) : IoWalk :=
  (rootBridges blk).foldl (ioStep blk df plan) ⟨s, 0, ioBaseForOthers, 0⟩

/-- The size for the primary root bridge, and where the others start: behind it, if there are others. -/
def reserveForPrimaryRb (share : UInt32) : UInt32 × UInt32 :=
  if (blk.socketNumber ≠ 1 ∨ blk.rbsPerSocket ≠ 1) ∧ primaryRb df ∈ rootBridges blk then
    (share + x86LegacyIoSize, share + x86LegacyIoSize)
  else (dfIoLimit, 0)

def ioRequest (rb : Nat × Nat) : UInt32 := (io rb.1 rb.2).toUInt32 &&& 0xFFFFF000

def nvIoPlan (setDfRegisters : Bool) : IoPlan where
  share := ioRequest io
  ioSizeForPrimaryRb := (reserveForPrimaryRb blk df (ioRequest io (primaryRb df))).1
  skipsEmpty := true
  setDfRegisters := setDfRegisters

def silInitIoBasedOnNvVariable4 (spaceStatus : Option IoSpaceStatus) (setDfRegisters : Bool) (s : IoState) :
    SilStatus × Option IoSpaceStatus × IoState :=
  let walk := ioWalk blk df (nvIoPlan blk io df setDfRegisters)
    (reserveForPrimaryRb blk df (ioRequest io (primaryRb df))).2 s
  (.silPass,
    spaceStatus.map fun status =>
      let ioSize := status.ioSize + walk.ioSizeSum
      ⟨ioSize, if x86IoLimit < ioSize then ioSize - x86IoLimit else 0⟩,
    { walk.state with manager := { walk.state.manager with globalCtrl := true } })

def equalIoShare : UInt32 :=
  ((0x10000 - x86LegacyIoSize) / (blk.socketNumber.toUInt32 * blk.rbsPerSocket.toUInt32)) &&& 0xFFFFF000

def equalIoPlan : IoPlan where
  share := fun _ => equalIoShare blk
  ioSizeForPrimaryRb := (reserveForPrimaryRb blk df (equalIoShare blk)).1
  skipsEmpty := false
  setDfRegisters := true

def silInitIoEqually4 (s : IoState) : SilStatus × IoState :=
  let walk := ioWalk blk df (equalIoPlan blk df) (reserveForPrimaryRb blk df (equalIoShare blk)).2 s
  (.silPass, { walk.state with manager := { walk.state.manager with globalCtrl := true } })

end OpenSil.RcMgr
