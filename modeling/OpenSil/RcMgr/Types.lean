import OpenSil.Lib.Table
import OpenSil.Lib.Word
import OpenSil.Status

/-! # The resource manager's data -/

namespace OpenSil.RcMgr

structure AddrAperture where
  size : UInt64
  alignment : UInt64
  deriving DecidableEq

structure MmioRegion where
  baseNonPci : UInt64
  sizeNonPci : UInt64
  usedSizeNonPci : UInt64
  baseNonPrefetch : UInt64
  sizeNonPrefetch : UInt64
  usedSizeNonPrefetch : UInt64
  basePrefetch : UInt64
  sizePrefetch : UInt64
  usedSizePrefetch : UInt64
  alignNonPrefetch : UInt64
  alignPrefetch : UInt64
  deriving DecidableEq

structure MmioManager where
  mmioRegionAbove4G : Table MmioRegion
  mmioRegionBelow4G : Table MmioRegion
  allocateMmioAbove4GOnThisRb : Table Bool
  allocateMmioBelow4GOnThisRb : Table Bool
  primaryRbHas2ndMmioBelow4G : Bool
  primaryRb2ndMmioPairBelow4G : UInt8

structure InputBlk where
  setRcBasedOnNv : Bool
  socketNumber : UInt8
  rbsPerSocket : UInt8
  mcptEnable : Bool
  pciExpressBaseAddress : UInt64
  bottomMmioReservedForPrimaryRb : UInt32
  mmioSizePerRbForNonPciDevice : UInt32
  mmioAbove4GLimit : UInt64
  above4GMmioSizePerRbForNonPciDevice : UInt32
  resourceDistributionNv : Nat → Bool
  nonPrefetchableMmioSizeAbove4G : Table AddrAperture
  prefetchableMmioSizeAbove4G : Table AddrAperture
  nonPrefetchableMmioSizeBelow4G : Table AddrAperture
  prefetchableMmioSizeBelow4G : Table AddrAperture
  primaryRbSecondNonPrefetchableMmioSizeBelow4G : AddrAperture
  primaryRbSecondPrefetchableMmioSizeBelow4G : AddrAperture

/-- What the code reads from the processor: the MSRs C001_0058, TOM and TOM2, and the width of physical addresses. -/
structure SystemInfo where
  mmioCfgBase : UInt64
  tom : UInt64
  tom2 : UInt64
  physAddrSize : UInt64
  physAddrReduction : UInt64

def SystemInfo.pciCfgSpace (sys : SystemInfo) : UInt64 := ((1 : UInt64) <<< ((sys.mmioCfgBase >>> 2) &&& 0xF)) * (1024 * 1024)

/-- What the data fabric answers: its counts of sockets and root bridges, the primary root bridge, the configuration
address map of every socket, and the fabric ID of every host bridge. -/
structure DfAnswers where
  numberOfProcessorsPresent : UInt8
  rootBridgesOnDie : UInt8
  rootBridgesOnSocket : UInt8
  primarySocket : UInt8
  primaryRootBridge : UInt8
  cfgBase : Table UInt32
  cfgLimit : Table UInt32
  hostBridgeSystemFabricID : Table UInt32

def maxSocketsSupported : UInt8 := 2

def dfXMaxRbsPerSocket : UInt8 := 20

def dfXMaxHostBridgesPerSocket : Nat := 4

def dfXNumberOfBusRegions : Nat := 8

def mmioMinNonPciSizeAbove4G : UInt64 := 0x20200000

def bottomOfCompat : UInt64 := 0xFEC00000

def plainBlk (pcieBase : UInt64) : InputBlk where
  setRcBasedOnNv := true
  socketNumber := 1
  rbsPerSocket := 4
  mcptEnable := false
  pciExpressBaseAddress := pcieBase
  bottomMmioReservedForPrimaryRb := 0xFE000000
  mmioSizePerRbForNonPciDevice := 0x1000000
  mmioAbove4GLimit := 0xFFFFFFFFFFFFFFFF
  above4GMmioSizePerRbForNonPciDevice := 0
  resourceDistributionNv := fun _ => false
  nonPrefetchableMmioSizeAbove4G := fun _ _ => ⟨0, 0⟩
  prefetchableMmioSizeAbove4G := fun _ _ => ⟨0, 0⟩
  nonPrefetchableMmioSizeBelow4G := fun _ _ => ⟨0, 0⟩
  prefetchableMmioSizeBelow4G := fun _ _ => ⟨0, 0⟩
  primaryRbSecondNonPrefetchableMmioSizeBelow4G := ⟨0, 0⟩
  primaryRbSecondPrefetchableMmioSizeBelow4G := ⟨0, 0⟩

def plainSystem (tom2 : UInt64) : SystemInfo where
  mmioCfgBase := 0x20
  tom := 0x80000000
  tom2 := tom2
  physAddrSize := 48
  physAddrReduction := 0

def plainDf : DfAnswers where
  numberOfProcessorsPresent := 1
  rootBridgesOnDie := 4
  rootBridgesOnSocket := 4
  primarySocket := 0
  primaryRootBridge := 2
  cfgBase := fun _ _ => 0
  cfgLimit := fun _ _ => 0
  hostBridgeSystemFabricID := fun socket i => .ofNat (socket * 0x100 + 0x20 + i)

def MmioRegion.zero : MmioRegion := ⟨0, 0, 0, 0, 0, 0, 0, 0, 0, 0, 0⟩

def MmioManager.zero : MmioManager where
  mmioRegionAbove4G := fun _ _ => .zero
  mmioRegionBelow4G := fun _ _ => .zero
  allocateMmioAbove4GOnThisRb := fun _ _ => false
  allocateMmioBelow4GOnThisRb := fun _ _ => false
  primaryRbHas2ndMmioBelow4G := false
  primaryRb2ndMmioPairBelow4G := 0

end OpenSil.RcMgr
