import OpenSil.RcMgr.BusMap

/-! # Handing out PCI buses

`SilInitPciBusBasedOnNvVariable4` gives every root bridge the number of buses it asks for.
-/

namespace OpenSil.RcMgr

open Word Stores

abbrev FabricRegs := Nat × Nat × Nat → UInt32

def cfgBaseAddressReg (i : Nat) : Nat := 0xC80 + i * 8

def cfgLimitAddressReg (i : Nat) : Nat := 0xC84 + i * 8

def cfgAddressCntlReg : Nat := 0xC04

def ccmInstances : List Nat := [0x10, 0x11, 0x12, 0x13, 0x14, 0x15, 0x16, 0x17]

def acmInstances : List Nat := [0x18, 0x19, 0x1A, 0x1B]

def iomInstances : List Nat := [0x20, 0x21, 0x22, 0x23]

def iosInstances : List Nat := [0x24, 0x25, 0x26, 0x27]

structure BusRequest where
  pciBusNumber : Table UInt16
  bmcSocket : UInt8
  earlyBmcLinkLaneNum : UInt8

def BusRequest.bmcIom (req : BusRequest) : Nat :=
  let lane := req.earlyBmcLinkLaneNum
  if lane < 16 ∨ lane = 128 ∨ lane = 129 then 0 else if lane < 64 then 1 else if lane < 96 then 3 else 2

variable (blk : InputBlk) (req : BusRequest) (df : DfAnswers)

def mappedIoms (rbs socket : Nat) : List Nat :=
  (List.range rbs).filter fun rb => !blk.mcptEnable || (socket = req.bmcSocket.toNat ∧ rb = req.bmcIom)

def cfgInstances (rbs socket : Nat) : List Nat :=
  ccmInstances ++ acmInstances ++ (mappedIoms blk req rbs socket).map fun rb => iomInstances.getD rb 0

/-! ## The registers -/

def busRegister (low : UInt32) (bus : UInt16) : UInt32 := low ||| ((bus.toUInt32 &&& 0xFF) <<< 16)

def cfgAddrMapReg (base : UInt16) : UInt32 := busRegister 0x3 base

def cfgAddrLimitReg (dstFabricID : UInt32) (limit : UInt16) : UInt32 := busRegister (dstFabricID &&& 0xFFF) limit

def cfgAddrMapStores (regIndex : UInt8) (map control : UInt32) : List ((Nat × Nat × Nat) × UInt32) :=
  (List.range blk.socketNumber.toNat).flatMap fun i =>
    (cfgInstances blk req df.rootBridgesOnSocket.toNat i).flatMap fun target =>
      [((i, cfgBaseAddressReg regIndex.toNat, target), map), ((i, cfgLimitAddressReg regIndex.toNat, target), control)]

def silSetCfgAddrMapReg4 (regIndex : UInt8) (rb : Nat × Nat) (base limit : UInt16) (regs : FabricRegs) : FabricRegs :=
  store (cfgAddrMapStores blk req df regIndex (cfgAddrMapReg base)
    (cfgAddrLimitReg (df.hostBridgeSystemFabricID rb.1 (rb.2 % df.rootBridgesOnDie.toNat)) limit)) regs

def busBaseOn (answer : Nat → Nat) (df : DfAnswers) (regs : FabricRegs) (rb : Nat × Nat) : Nat :=
  dfXGetHostBridgeBusBase (fun i => regs (rb.1, cfgBaseAddressReg i, answer rb.1))
    (fun i => regs (rb.1, cfgLimitAddressReg i, answer rb.1)) (df.hostBridgeSystemFabricID rb.1 rb.2)

def busLimitOn (answer : Nat → Nat) (df : DfAnswers) (regs : FabricRegs) (rb : Nat × Nat) : Nat :=
  dfXGetHostBridgeBusLimit (fun i => regs (rb.1, cfgBaseAddressReg i, answer rb.1))
    (fun i => regs (rb.1, cfgLimitAddressReg i, answer rb.1)) (df.hostBridgeSystemFabricID rb.1 rb.2)

def needReallocate (answer : Nat → Nat) (regs : FabricRegs) : Bool :=
  (rootBridges blk).any fun rb =>
    let host := (rb.1, rb.2 % df.rootBridgesOnDie.toNat)
    UInt32.ofNat (busLimitOn answer df regs host) - UInt32.ofNat (busBaseOn answer df regs host) + 1 ≠
      (req.pciBusNumber rb.1 rb.2).toUInt32

def clearCfgAddrMaps (regs : FabricRegs) : FabricRegs :=
  store ((List.range blk.socketNumber.toNat).flatMap fun socket =>
    ((cfgInstances blk req blk.rbsPerSocket.toNat socket).flatMap fun target =>
      (List.range 8).map fun i => ((socket, cfgBaseAddressReg i, target), (0 : UInt32))) ++
    (List.range blk.rbsPerSocket.toNat).map fun rb => ((socket, cfgAddressCntlReg, iosInstances.getD rb 0), 0)) regs

/-! ## The walk -/

def iosRbLoopToRbAssignOrder : List Nat := [2, 3, 1, 0]

def busWalk : List ((Nat × Nat) × Bool) :=
  (List.range blk.socketNumber.toNat).flatMap fun socket =>
    (List.range blk.rbsPerSocket.toNat).reverse.map fun i =>
      ((socket, iosRbLoopToRbAssignOrder.getD i 0), decide (socket = blk.socketNumber.toNat - 1 ∧ i = 0))

structure BusState where
  regs : FabricRegs
  regIndex : UInt8
  pciBusLimit : UInt16

structure BusWindow where
  rb : Nat × Nat
  pciBusBase : UInt16
  pciBusLimit : UInt16

def programBus (regIndex : UInt8) (w : BusWindow) (regs : FabricRegs) : FabricRegs :=
  Function.update (silSetCfgAddrMapReg4 blk req df regIndex w.rb w.pciBusBase w.pciBusLimit regs)
    (w.rb.1, cfgAddressCntlReg, iosInstances.getD w.rb.2 0) (w.pciBusBase.toUInt32 &&& 0xFF)

def nextBusWindow (pciBusLimit : UInt16) (rb : Nat × Nat) (last : Bool) : BusWindow :=
  let pciBusBase := pciBusLimit + 1
  ⟨rb, pciBusBase, if last then 0xFF else pciBusBase + req.pciBusNumber rb.1 rb.2 - 1⟩

def assignBus (s : BusState) (turn : (Nat × Nat) × Bool) : BusState :=
  if turn.1 = primaryRb df then s
  else
    let w := nextBusWindow req s.pciBusLimit turn.1 turn.2
    ⟨programBus blk req df (s.regIndex + 1) w s.regs, s.regIndex + 1, w.pciBusLimit⟩

def silInitPciBusBasedOnNvVariable4 (answer : Nat → Nat) (regs : FabricRegs) : SilStatus × FabricRegs :=
  if needReallocate blk req df answer regs then
    let primary : BusWindow := ⟨primaryRb df, 0, req.pciBusNumber (primaryRb df).1 (primaryRb df).2 - 1⟩
    let start : BusState := ⟨programBus blk req df 0 primary (clearCfgAddrMaps blk req regs), 0, primary.pciBusLimit⟩
    (.silPass, ((busWalk blk).foldl (assignBus blk req df) start).regs)
  else (.silPass, regs)

end OpenSil.RcMgr
