import OpenSil.RcMgr.Combination
import OpenSil.RcMgr.Window

/-! # Sharing MMIO equally

`SilInitMmioEqually4` cuts the range below 4G into equal shares, from its top down.
-/

namespace OpenSil.RcMgr

open Word

def size16MAlign : UInt64 := 0xFFFFFFFFFF000000

structure EquallyWindow where
  rb : Nat × Nat
  mmioBaseAddr : UInt64
  mmioSize : UInt64
  deriving DecidableEq

inductive EquallyEnd where
  | complete
  | divisionByZero
  | outOfResources (rb : Nat × Nat)
  deriving DecidableEq

section
variable (blk : InputBlk) (sys : SystemInfo)

def systemRbNumber : UInt8 := blk.rbsPerSocket * blk.socketNumber

/-! ## The two sides of the PCIe configuration space -/

def bottomMmioReserved : UInt64 := blk.bottomMmioReservedForPrimaryRb.toUInt64

def equallyAborts : Bool :=
  (blk.pciExpressBaseAddress < 0x100000000 &&
    (decide (bottomMmioReserved blk < blk.pciExpressBaseAddress + sys.pciCfgSpace) ||
      decide (blk.pciExpressBaseAddress < sys.tom))) ||
  decide (bottomOfCompat < bottomMmioReserved blk)

def sizeAbovePcieCfg : UInt64 :=
  if 0x100000000 ≤ blk.pciExpressBaseAddress then 0
  else bottomMmioReserved blk - blk.pciExpressBaseAddress - sys.pciCfgSpace

def topBelowPcieCfg : UInt64 :=
  if 0x100000000 ≤ blk.pciExpressBaseAddress then bottomMmioReserved blk else blk.pciExpressBaseAddress

def sizeBelowPcieCfg : UInt64 := topBelowPcieCfg blk - sys.tom

def isTooSmall (size other : UInt64) : Bool :=
  1 < systemRbNumber blk && size < other / (systemRbNumber blk).toUInt64 * 8 / 10

def abovePcieCfgIsTooSmall : Bool := isTooSmall blk (sizeAbovePcieCfg blk sys) (sizeBelowPcieCfg blk sys)

def belowPcieCfgIsTooSmall : Bool := isTooSmall blk (sizeBelowPcieCfg blk sys) (sizeAbovePcieCfg blk sys)

def totalAvailableSize : UInt64 :=
  sizeAbovePcieCfg blk sys + sizeBelowPcieCfg blk sys -
    (if abovePcieCfgIsTooSmall blk sys then sizeAbovePcieCfg blk sys else 0) -
    (if belowPcieCfgIsTooSmall blk sys then sizeBelowPcieCfg blk sys else 0)

def equallyOutOfResources : Bool :=
  1 < systemRbNumber blk && totalAvailableSize blk sys = 0 ||
  abovePcieCfgIsTooSmall blk sys && belowPcieCfgIsTooSmall blk sys

/-! ## The walk below 4G -/

structure EquallyWalk where
  rbNumberAbovePcieCfg : UInt8
  rbNumberMmioHasInitialized : UInt8
  mmioSize16MAligned : UInt64
  mmioSizeRemained : UInt64
  mmioBaseAddr : UInt64

/-- How many root bridges get MMIO above the configuration space: the nearest number of shares, and at least one. -/
def rbNumberAbove (mmioSize : UInt64) : Option UInt8 :=
  (divide (sizeAbovePcieCfg blk sys) mmioSize.toUInt32.toUInt64).map fun shares =>
    let number := shares.toUInt8
    let number :=
      if mmioSize / 2 < sizeAbovePcieCfg blk sys - mmioSize * number.toUInt64 then number + 1 else number
    if number = 0 then number + 1 else number

def equallyShare (size number : UInt64) : UInt64 := size / number &&& size16MAlign

def equallyFirst (size number : UInt64) : UInt64 := size - equallyShare size number * (number - 1)

def equallyStart : Option EquallyWalk :=
  (divide (totalAvailableSize blk sys) (systemRbNumber blk).toUInt64).bind fun mmioSize =>
    if abovePcieCfgIsTooSmall blk sys then
      some ⟨0, 0, mmioSize &&& size16MAlign,
        sizeBelowPcieCfg blk sys - (mmioSize &&& size16MAlign) * ((systemRbNumber blk).toUInt64 - 1), topBelowPcieCfg blk⟩
    else
      (rbNumberAbove blk sys mmioSize).map fun number =>
        ⟨number, 0, equallyShare (sizeAbovePcieCfg blk sys) number.toUInt64,
          equallyFirst (sizeAbovePcieCfg blk sys) number.toUInt64, bottomMmioReserved blk⟩

def EquallyWalk.window (s : EquallyWalk) (rb : Nat × Nat) : EquallyWindow :=
  ⟨rb, s.mmioBaseAddr - s.mmioSizeRemained, s.mmioSizeRemained⟩

def EquallyWalk.next (s : EquallyWalk) : EquallyWalk :=
  { s with
    rbNumberMmioHasInitialized := s.rbNumberMmioHasInitialized + 1
    mmioBaseAddr := s.mmioBaseAddr - s.mmioSizeRemained }

/-- The first root bridge below the configuration space takes what is over, and the second one a plain share. -/
def EquallyWalk.switchSide (copy : UInt8) (s : EquallyWalk) : Option EquallyWalk :=
  let left := (systemRbNumber blk).toUInt64 - s.rbNumberMmioHasInitialized.toUInt64
  let first : Option EquallyWalk :=
    if copy = s.rbNumberMmioHasInitialized then
      (divide (sizeBelowPcieCfg blk sys) left).map fun mmioSize =>
        { s with
          mmioSize16MAligned := mmioSize &&& size16MAlign
          mmioSizeRemained := sizeBelowPcieCfg blk sys - (mmioSize &&& size16MAlign) * (left - 1)
          mmioBaseAddr := topBelowPcieCfg blk }
    else some s
  first.map fun s =>
    if s.rbNumberMmioHasInitialized.toNat = copy.toNat + 1 then { s with mmioSizeRemained := s.mmioSize16MAligned }
    else s

def equallyOthers (copy : UInt8) : List (Nat × Nat) → EquallyWalk → List EquallyWindow × EquallyEnd
  | [], _ => ([], .complete)
  | rb :: rbs, s =>
    if s.rbNumberAbovePcieCfg ≠ 0 then
      let s := if s.rbNumberMmioHasInitialized = 1 then { s with mmioSizeRemained := s.mmioSize16MAligned } else s
      let rest := equallyOthers copy rbs { s.next with rbNumberAbovePcieCfg := s.rbNumberAbovePcieCfg - 1 }
      (s.window rb :: rest.1, rest.2)
    else if belowPcieCfgIsTooSmall blk sys then ([], .outOfResources rb)
    else
      match s.switchSide blk sys copy with
      | none => ([], .divisionByZero)
      | some s =>
        let rest := equallyOthers copy rbs s.next
        (s.window rb :: rest.1, rest.2)

def equallyBelow4G (df : DfAnswers) : List EquallyWindow × EquallyEnd :=
  match equallyStart blk sys with
  | none => ([], .divisionByZero)
  | some s =>
    if s.rbNumberAbovePcieCfg = 0 && belowPcieCfgIsTooSmall blk sys then ([], .outOfResources (primaryRb df))
    else
      let number := if s.rbNumberAbovePcieCfg = 0 then 0 else s.rbNumberAbovePcieCfg - 1
      let rest := equallyOthers blk sys s.rbNumberAbovePcieCfg ((rootBridges blk).filter (· ≠ primaryRb df))
        { s.next with rbNumberAbovePcieCfg := number }
      (s.window (primaryRb df) :: rest.1, rest.2)

/-! ## What is written below 4G -/

def equallyRegion (mmioBaseAddr mmioSize : UInt64) : MmioRegion :=
  let sizePrefetch := (mmioSize - sizeNonPci blk) * 4 / 5 &&& size16MAlign
  let baseNonPrefetch := mmioBaseAddr + sizePrefetch
  let baseNonPci := alignDown (mmioBaseAddr + mmioSize - sizeNonPci blk) rcMgrNonPciMmioAlignMask
  { baseNonPci
    sizeNonPci := sizeNonPci blk
    usedSizeNonPci := 0
    baseNonPrefetch
    sizeNonPrefetch := baseNonPci - baseNonPrefetch
    usedSizeNonPrefetch := 0
    basePrefetch := mmioBaseAddr
    sizePrefetch
    usedSizePrefetch := 0
    alignNonPrefetch := 0
    alignPrefetch := 0 }

def equallyLength (df : DfAnswers) (w : EquallyWindow) : UInt64 :=
  if w.rb = primaryRb df && !abovePcieCfgIsTooSmall blk sys then w.mmioSize + bottomOfCompat - bottomMmioReserved blk
  else w.mmioSize

def setEquallyBelow4G (df : DfAnswers) (out : MmioState) (w : EquallyWindow) : MmioState :=
  out.setBelow4G blk df w.rb (equallyRegion blk w.mmioBaseAddr w.mmioSize) w.mmioBaseAddr (equallyLength blk sys df w)

def equallySecondWindow (df : DfAnswers) : Option EquallyWindow :=
  if systemRbNumber blk < 8 &&
      (abovePcieCfgIsTooSmall blk sys && sizeAbovePcieCfg blk sys ≠ 0 ||
        sizeBelowPcieCfg blk sys ≠ 0 && (belowPcieCfgIsTooSmall blk sys || systemRbNumber blk = 1)) then
    some (if abovePcieCfgIsTooSmall blk sys then
      ⟨primaryRb df, blk.pciExpressBaseAddress + sys.pciCfgSpace, sizeAbovePcieCfg blk sys⟩
    else ⟨primaryRb df, sys.tom, sizeBelowPcieCfg blk sys⟩)
  else none

def equallySecondRegion (w : EquallyWindow) : MmioRegion :=
  { MmioRegion.zero with basePrefetch := w.mmioBaseAddr, sizePrefetch := w.mmioSize }

def setEquallySecond (df : DfAnswers) (out : MmioState) (w : EquallyWindow) (slot : Nat × Nat) : MmioState where
  manager :=
    { out.manager with
      primaryRb2ndMmioPairBelow4G := .ofNat ((slot.1 <<< 4) ||| slot.2)
      mmioRegionBelow4G := out.manager.mmioRegionBelow4G.set slot.1 slot.2 (equallySecondRegion w)
      primaryRbHas2ndMmioBelow4G := true }
  regs := silSetMmioReg4 df blk.socketNumber (mmioPairIndex blk slot false) w.rb.1 w.rb.2 w.mmioBaseAddr
    (if abovePcieCfgIsTooSmall blk sys then w.mmioSize + bottomOfCompat - bottomMmioReserved blk else w.mmioSize) out.regs

def addEquallySecond (df : DfAnswers) (out : MmioState) : MmioState × Bool :=
  match equallySecondWindow blk sys df, spareSlot out.manager with
  | some w, some slot => (setEquallySecond blk sys df out w slot, abovePcieCfgIsTooSmall blk sys)
  | _, _ => (out, false)

/-! ## Above 4G -/

def equallyShareAbove4G (rb : Nat × Nat) : UInt64 :=
  let w := equallyWindow blk sys
  let number := (systemRbNumber blk).toUInt64
  if isLastRb blk rb then equallyFirst (w.limit - w.base) number else equallyShare (w.limit - w.base) number

def equallyAbove4GFrom : UInt64 → List (Nat × Nat) → List EquallyWindow
  | _, [] => []
  | mmioBaseAddr, rb :: rbs =>
    if equallyShareAbove4G blk sys rb < mmioMinNonPciSizeAbove4G then equallyAbove4GFrom mmioBaseAddr rbs
    else ⟨rb, mmioBaseAddr, equallyShareAbove4G blk sys rb⟩ ::
      equallyAbove4GFrom (mmioBaseAddr + equallyShareAbove4G blk sys rb) rbs

def equallyAbove4G : List EquallyWindow :=
  let w := equallyWindow blk sys
  if w.base < w.limit then equallyAbove4GFrom blk sys w.base (rootBridges blk) else []

def equallyRegionAbove4G (mmioBaseAddr mmioSize : UInt64) : MmioRegion :=
  let baseNonPci := alignUp mmioBaseAddr rcMgrNonPciMmioAlignMaskAbove4G
  let basePrefetch := baseNonPci + sizeNonPciAbove4G blk
  let sizePrefetch := (mmioBaseAddr + mmioSize - baseNonPci - sizeNonPciAbove4G blk) * 4 / 5 &&& size16MAlign
  let baseNonPrefetch := basePrefetch + sizePrefetch
  { baseNonPci
    sizeNonPci := sizeNonPciAbove4G blk
    usedSizeNonPci := 0
    baseNonPrefetch
    sizeNonPrefetch := mmioBaseAddr + mmioSize - baseNonPrefetch
    usedSizeNonPrefetch := 0
    basePrefetch
    sizePrefetch
    usedSizePrefetch := 0
    alignNonPrefetch := 0
    alignPrefetch := 0 }

def equallyLengthAbove4G (w : EquallyWindow) : UInt64 :=
  if isLastRb blk w.rb then (equallyWindow blk sys).limit - w.mmioBaseAddr else w.mmioSize

def setEquallyAbove4G (df : DfAnswers) (out : MmioState) (w : EquallyWindow) : MmioState where
  manager :=
    { out.manager with
      mmioRegionAbove4G := out.manager.mmioRegionAbove4G.set w.rb.1 w.rb.2
        (equallyRegionAbove4G blk w.mmioBaseAddr w.mmioSize) }
  regs := silSetMmioReg4 df blk.socketNumber (mmioPairIndex blk w.rb true) w.rb.1 w.rb.2 w.mmioBaseAddr
    (equallyLengthAbove4G blk sys w) out.regs

def markAbove4G (out : MmioState) (rb : Nat × Nat) : MmioState :=
  { out with
    manager.allocateMmioAbove4GOnThisRb := out.manager.allocateMmioAbove4GOnThisRb.set rb.1 rb.2 true }

def arrangeEquallyAbove4G (df : DfAnswers) (out : MmioState) : MmioState :=
  let w := equallyWindow blk sys
  let out := if w.base < w.limit then (rootBridges blk).foldl markAbove4G out else out
  (equallyAbove4G blk sys).foldl (setEquallyAbove4G blk sys df) out

/-! ## All of it -/

def markBelow4G (out : MmioState) (rb : Nat × Nat) : MmioState :=
  { out with
    manager.allocateMmioBelow4GOnThisRb := out.manager.allocateMmioBelow4GOnThisRb.set rb.1 rb.2 true }

def silInitMmioEqually4 (df : DfAnswers) (out : MmioState) : Option (SilStatus × MmioState) :=
  if equallyAborts blk sys then some (.silAborted, out)
  else if equallyOutOfResources blk sys then some (.silOutOfResources, out)
  else
    let below := equallyBelow4G blk sys df
    let placed := below.1.foldl (setEquallyBelow4G blk sys df) out
    match below.2 with
    | .divisionByZero => none
    | .outOfResources rb => some (.silOutOfResources, markBelow4G placed rb)
    | .complete =>
      let second := addEquallySecond blk sys df placed
      let reservedRegionAlreadySet := !abovePcieCfgIsTooSmall blk sys || second.2
      some (.silPass, silAdditionalMmioSetting4 blk df reservedRegionAlreadySet (arrangeEquallyAbove4G blk sys df second.1))

end

end OpenSil.RcMgr
