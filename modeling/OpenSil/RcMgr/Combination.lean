import OpenSil.RcMgr.Above4G

/-! # Arranging MMIO below 4G for one combination -/

namespace OpenSil.RcMgr

open Word Place

inductive Side where
  | above
  | below
  deriving DecidableEq

def Side.other : Side → Side
  | above => below
  | below => above

theorem Side.forall {p : Side → Prop} : (∀ side, p side) ↔ p .above ∧ p .below :=
  ⟨fun h => ⟨h _, h _⟩, fun h side => by cases side <;> simp [h]⟩

instance {p : Side → Prop} [DecidablePred p] : Decidable (∀ side, p side) := decidable_of_iff _ Side.forall.symm

def rcMgrNonPciMmioAlignMask : UInt64 := 0xFFFF

def rcMgrMmioMinSize : UInt64 := 0x10000

def primaryRb (df : DfAnswers) : Nat × Nat := (df.primarySocket.toNat, df.primaryRootBridge.toNat)

def rootBridgeCount (blk : InputBlk) : Nat := blk.socketNumber.toNat * blk.rbsPerSocket.toNat

def hasSparePair (blk : InputBlk) : Bool :=
  rootBridgeCount blk < dfXMaxHostBridgesPerSocket * maxSocketsSupported.toNat

def sizeNonPci (blk : InputBlk) : UInt64 := blk.mmioSizePerRbForNonPciDevice.toUInt64

def mmioLimit (blk : InputBlk) : Side → UInt64
  | .above => blk.bottomMmioReservedForPrimaryRb.toUInt64
  | .below => blk.pciExpressBaseAddress

def mmioStart (blk : InputBlk) (sys : SystemInfo) : Side → UInt64
  | .above =>
    if 0x100000000 ≤ blk.pciExpressBaseAddress then blk.bottomMmioReservedForPrimaryRb.toUInt64
    else blk.pciExpressBaseAddress + sys.pciCfgSpace
  | .below => sys.tom

def sideOf (mmioIsAbovePcieCfg : Nat → Bool) (rb : Nat × Nat) : Side :=
  if mmioIsAbovePcieCfg (rb.1 * dfXMaxHostBridgesPerSocket + rb.2) then .above else .below

/-! ## The pools of one root bridge -/

structure Layout where
  basePrefetch : UInt64
  baseNonPrefetch : UInt64
  baseNonPci : UInt64
  sizePrefetch : UInt64
  sizeNonPrefetch : UInt64
  mmioCeiling : UInt64
  deltaSize : UInt64

def layout (bigAlignFirst : Bool) (p np : AddrAperture) (sizeNonPci mmioBaseAddr : UInt64) : Layout :=
  if bigAlignFirst then
    if np.alignment ≤ p.alignment then
      let basePrefetch := alignUp mmioBaseAddr p.alignment
      let baseNonPrefetch := alignUp (basePrefetch + p.size) np.alignment
      let baseNonPci := alignUp (baseNonPrefetch + np.size) rcMgrNonPciMmioAlignMask
      { basePrefetch, baseNonPrefetch, baseNonPci
        sizePrefetch := baseNonPrefetch - basePrefetch
        sizeNonPrefetch := baseNonPci - baseNonPrefetch
        mmioCeiling := baseNonPci + sizeNonPci
        deltaSize := baseNonPci - baseNonPrefetch - np.size + sizeNonPci }
    else
      let baseNonPrefetch := alignUp mmioBaseAddr np.alignment
      let basePrefetch := alignUp (baseNonPrefetch + np.size) p.alignment
      let baseNonPci := alignUp (basePrefetch + p.size) rcMgrNonPciMmioAlignMask
      { basePrefetch, baseNonPrefetch, baseNonPci
        sizePrefetch := baseNonPci - basePrefetch
        sizeNonPrefetch := basePrefetch - baseNonPrefetch
        mmioCeiling := baseNonPci + sizeNonPci
        deltaSize := baseNonPci - basePrefetch - p.size + sizeNonPci }
  else
    if p.alignment ≤ np.alignment then
      let baseNonPci := alignUp mmioBaseAddr rcMgrNonPciMmioAlignMask
      let basePrefetch := alignUp (baseNonPci + sizeNonPci) p.alignment
      let baseNonPrefetch := alignUp (basePrefetch + p.size) np.alignment
      { basePrefetch, baseNonPrefetch, baseNonPci
        sizePrefetch := baseNonPrefetch - basePrefetch
        sizeNonPrefetch := np.size
        mmioCeiling := baseNonPrefetch + np.size
        deltaSize := basePrefetch - alignUp mmioBaseAddr p.alignment }
    else
      let baseNonPci := alignUp mmioBaseAddr rcMgrNonPciMmioAlignMask
      let baseNonPrefetch := alignUp (baseNonPci + sizeNonPci) np.alignment
      let basePrefetch := alignUp (baseNonPrefetch + np.size) p.alignment
      { basePrefetch, baseNonPrefetch, baseNonPci
        sizePrefetch := p.size
        sizeNonPrefetch := basePrefetch - baseNonPrefetch
        mmioCeiling := basePrefetch + p.size
        deltaSize := baseNonPrefetch - alignUp mmioBaseAddr np.alignment }

def Layout.clearEmpty (l : Layout) : Layout :=
  { l with
    baseNonPrefetch := if l.sizeNonPrefetch = 0 then 0 else l.baseNonPrefetch
    basePrefetch := if l.sizePrefetch = 0 then 0 else l.basePrefetch }

def Layout.withoutNonPci (l : Layout) (bigAlignFirst : Bool) : Layout :=
  { l with
    mmioCeiling := l.mmioCeiling - l.deltaSize
    baseNonPrefetch := if bigAlignFirst then l.baseNonPrefetch else l.baseNonPrefetch - l.deltaSize
    basePrefetch := if bigAlignFirst then l.basePrefetch else l.basePrefetch - l.deltaSize }

/-! ## One root bridge -/

structure TryState where
  mmioBaseAddr : Side → UInt64
  bigAlignFirst : Side → Bool
  overSizeFlag : Bool
  nonPciAt2ndRegion : Bool
  reservedRegionAlreadySet : Bool
  out : MmioState

section
variable (blk : InputBlk) (df : DfAnswers) (s : TryState)

def TryState.advance (side : Side) (mmioCeiling : UInt64) : TryState :=
  { s with
    mmioBaseAddr := Function.update s.mmioBaseAddr side mmioCeiling
    bigAlignFirst := Function.update s.bigAlignFirst side (!s.bigAlignFirst side)
    overSizeFlag := s.overSizeFlag || decide (mmioLimit blk side < mmioCeiling) }

def TryState.canMoveNonPci (side : Side) (rb : Nat × Nat) (deltaSize : UInt64) : Bool :=
  s.overSizeFlag && rb = primaryRb df && hasSparePair blk &&
  decide (s.mmioBaseAddr side - deltaSize ≤ mmioLimit blk side) &&
  decide (s.mmioBaseAddr side.other ≤ alignDown (mmioLimit blk side.other - sizeNonPci blk) rcMgrNonPciMmioAlignMask)

def TryState.moveNonPci (side : Side) (deltaSize : UInt64) : TryState :=
  { s with
    mmioBaseAddr := Function.update s.mmioBaseAddr side (s.mmioBaseAddr side - deltaSize)
    overSizeFlag := false
    nonPciAt2ndRegion := true }

def primaryEnd : Side → UInt64
  | .above => bottomOfCompat
  | .below => mmioLimit blk .below

def regionBelow4G (rb : Nat × Nat) (l : Layout) (moved : Bool) : MmioRegion where
  baseNonPci := if moved then 0 else l.baseNonPci
  sizeNonPci := if moved then 0 else sizeNonPci blk
  usedSizeNonPci := 0
  baseNonPrefetch := l.baseNonPrefetch
  sizeNonPrefetch := l.sizeNonPrefetch
  usedSizeNonPrefetch := 0
  basePrefetch := l.basePrefetch
  sizePrefetch := l.sizePrefetch
  usedSizePrefetch := 0
  alignNonPrefetch := (blk.nonPrefetchableMmioSizeBelow4G rb.1 rb.2).alignment
  alignPrefetch := (blk.prefetchableMmioSizeBelow4G rb.1 rb.2).alignment

def MmioState.setBelow4G (out : MmioState) (rb : Nat × Nat) (region : MmioRegion) (mmioBaseAddr length : UInt64) :
    MmioState where
  manager :=
    { out.manager with
      allocateMmioBelow4GOnThisRb := out.manager.allocateMmioBelow4GOnThisRb.set rb.1 rb.2 true
      mmioRegionBelow4G := out.manager.mmioRegionBelow4G.set rb.1 rb.2 region }
  regs := silSetMmioReg4 df blk.socketNumber (mmioPairIndex blk rb false) rb.1 rb.2 mmioBaseAddr length out.regs

def TryState.record (side : Side) (rb : Nat × Nat) (mmioBaseAddr : UInt64) (l : Layout) : TryState :=
  if rb = primaryRb df then
    { s with
      mmioBaseAddr := Function.update s.mmioBaseAddr side (primaryEnd blk side)
      reservedRegionAlreadySet := s.reservedRegionAlreadySet || decide (side = .above)
      out := s.out.setBelow4G blk df rb (regionBelow4G blk rb l s.nonPciAt2ndRegion) mmioBaseAddr
        (primaryEnd blk side - mmioBaseAddr) }
  else
    { s with out := s.out.setBelow4G blk df rb (regionBelow4G blk rb l false) mmioBaseAddr (l.mmioCeiling - mmioBaseAddr) }

def TryState.recordIf (setDfRegisters : Bool) (side : Side) (rb : Nat × Nat) (mmioBaseAddr : UInt64) (l : Layout) :
    TryState :=
  if !s.overSizeFlag && setDfRegisters then s.record blk df side rb mmioBaseAddr l else s

def asksBelow4G (rb : Nat × Nat) : Bool :=
  (blk.prefetchableMmioSizeBelow4G rb.1 rb.2).size + (blk.nonPrefetchableMmioSizeBelow4G rb.1 rb.2).size +
    sizeNonPci blk ≠ 0

def layoutBelow4G (rb : Nat × Nat) (bigAlignFirst : Bool) (mmioBaseAddr : UInt64) : Layout :=
  (layout bigAlignFirst (blk.prefetchableMmioSizeBelow4G rb.1 rb.2) (blk.nonPrefetchableMmioSizeBelow4G rb.1 rb.2)
    (sizeNonPci blk) mmioBaseAddr).clearEmpty

def placeRb (setDfRegisters : Bool) (side : Side) (s : TryState) (rb : Nat × Nat) : TryState :=
  let l := layoutBelow4G blk rb (s.bigAlignFirst side) (s.mmioBaseAddr side)
  let s' := s.advance blk side l.mmioCeiling
  if s'.canMoveNonPci blk df side rb l.deltaSize then
    (s'.moveNonPci side l.deltaSize).recordIf blk df setDfRegisters side rb (s.mmioBaseAddr side)
      (l.withoutNonPci (s.bigAlignFirst side))
  else s'.recordIf blk df setDfRegisters side rb (s.mmioBaseAddr side) l

def tryRb (mmioIsAbovePcieCfg : Nat → Bool) (setDfRegisters : Bool) (s : TryState) (rb : Nat × Nat) : TryState :=
  if asksBelow4G blk rb then placeRb blk df setDfRegisters (sideOf mmioIsAbovePcieCfg rb) s rb else s

/-! ## The second region of the primary root bridge -/

def spareSlot (m : MmioManager) : Option (Nat × Nat) :=
  ((if m.primaryRbHas2ndMmioBelow4G then [0] else List.range maxSocketsSupported.toNat).flatMap fun i =>
    (List.range dfXMaxHostBridgesPerSocket).map fun j => (i, j)).find? fun slot =>
      !m.allocateMmioBelow4GOnThisRb slot.1 slot.2

/-- A division by zero has no result. -/
def divide (n d : UInt64) : Option UInt64 := if d = 0 then none else some (n / d)

def secondSizePrefetch (p np : AddrAperture) (size : UInt64) : Option UInt64 :=
  if np.size = 0 then some size
  else if p.size = 0 then some 0
  else (divide size (p.size + np.size).toUInt32.toUInt64).map (· * p.size)

def secondRegion (moved : Bool) (mmioBaseAddr size : UInt64) : Option MmioRegion := do
  let p := blk.primaryRbSecondPrefetchableMmioSizeBelow4G
  let np := blk.primaryRbSecondNonPrefetchableMmioSizeBelow4G
  -- The pool for devices that are not on PCI is at the top.
  let baseNonPci := if moved then alignDown (mmioBaseAddr + size - sizeNonPci blk) rcMgrNonPciMmioAlignMask else 0
  let size := if moved then baseNonPci - mmioBaseAddr else size
  let sizePrefetch ← secondSizePrefetch p np size
  let basePrefetch := if sizePrefetch ≠ 0 then alignUp mmioBaseAddr p.alignment else mmioBaseAddr
  let baseNonPrefetch := alignUp (basePrefetch + sizePrefetch) np.alignment
  let sizeNonPrefetch := if size - sizePrefetch ≠ 0 then mmioBaseAddr + size - baseNonPrefetch else 0
  some {
    baseNonPci
    sizeNonPci := if moved then sizeNonPci blk else 0
    usedSizeNonPci := 0
    baseNonPrefetch := if sizeNonPrefetch = 0 then 0 else baseNonPrefetch
    sizeNonPrefetch
    usedSizeNonPrefetch := 0
    basePrefetch := if sizePrefetch = 0 then 0 else basePrefetch
    sizePrefetch
    usedSizePrefetch := 0
    alignNonPrefetch := np.alignment
    alignPrefetch := p.alignment }

def TryState.secondSide : Side :=
  if s.mmioBaseAddr .above < mmioLimit blk .above then .above else .below

def TryState.wantsSecondRegion : Bool :=
  (decide (s.mmioBaseAddr .above + rcMgrMmioMinSize ≤ mmioLimit blk .above) ||
    decide (s.mmioBaseAddr .below + rcMgrMmioMinSize ≤ mmioLimit blk .below)) &&
  (blk.primaryRbSecondNonPrefetchableMmioSizeBelow4G.size ≠ 0 ||
    blk.primaryRbSecondPrefetchableMmioSizeBelow4G.size ≠ 0 || s.nonPciAt2ndRegion) &&
  hasSparePair blk

def TryState.setSecondRegion (slot : Nat × Nat) (region : MmioRegion) : TryState :=
  let side := s.secondSide blk
  let base := s.mmioBaseAddr side
  { s with
    reservedRegionAlreadySet := s.reservedRegionAlreadySet || decide (side = .above)
    out :=
      { manager :=
          { s.out.manager with
            primaryRb2ndMmioPairBelow4G := .ofNat ((slot.1 <<< 4) ||| slot.2)
            mmioRegionBelow4G := s.out.manager.mmioRegionBelow4G.set slot.1 slot.2 region
            primaryRbHas2ndMmioBelow4G := true }
        regs := silSetMmioReg4 df blk.socketNumber (mmioPairIndex blk slot false) (primaryRb df).1 (primaryRb df).2 base
          (primaryEnd blk side - base) s.out.regs } }

def TryState.regionLeft : Option MmioRegion :=
  let base := s.mmioBaseAddr (s.secondSide blk)
  secondRegion blk s.nonPciAt2ndRegion base (mmioLimit blk (s.secondSide blk) - base)

def TryState.addSecondRegion : Option TryState :=
  if s.wantsSecondRegion blk then
    match spareSlot s.out.manager with
    | none => some s
    | some slot => (s.regionLeft blk).map (s.setSecondRegion blk df slot)
  else some s

theorem TryState.addSecondRegion_cases {s t : TryState} (h : s.addSecondRegion blk df = some t) :
    (t = s ∧ (s.wantsSecondRegion blk = true → spareSlot s.out.manager = none)) ∨
      ∃ slot region, s.wantsSecondRegion blk = true ∧ spareSlot s.out.manager = some slot ∧
        s.regionLeft blk = some region ∧ t = s.setSecondRegion blk df slot region := by
  unfold addSecondRegion at h
  split at h
  · rename_i hwants
    split at h
    · rename_i hnone
      exact .inl ⟨(Option.some.inj h).symm, fun _ => hnone⟩
    · rename_i slot hslot
      obtain ⟨region, hregion, rfl⟩ := Option.map_eq_some_iff.mp h
      exact .inr ⟨slot, region, hwants, hslot, hregion, rfl⟩
  · rename_i hwants
    exact .inl ⟨(Option.some.inj h).symm, fun h => absurd h hwants⟩

/-! ## The posted region -/

def additionalPostedRegionStart : UInt64 := 0xFED00000

def additionalPostedRegionEnd : UInt64 := 0xFED0FFFF

def sparePair (m : MmioManager) (slot : Nat × Nat) : Option UInt8 :=
  if !m.allocateMmioBelow4GOnThisRb slot.1 slot.2 then
    if m.primaryRbHas2ndMmioBelow4G ∧ (m.primaryRb2ndMmioPairBelow4G >>> 4 &&& 0xF).toNat = slot.1 ∧
        (m.primaryRb2ndMmioPairBelow4G &&& 0xF).toNat = slot.2 then none
    else some (mmioPairIndex blk slot false)
  else if !m.allocateMmioAbove4GOnThisRb slot.1 slot.2 then some (mmioPairIndex blk slot true)
  else none

def silAdditionalMmioSetting4 (reservedRegionAlreadySet : Bool) (out : MmioState) : MmioState :=
  if !reservedRegionAlreadySet || decide (bottomOfCompat ≤ additionalPostedRegionEnd) then
    match ((List.range maxSocketsSupported.toNat).flatMap fun i =>
        (List.range dfXMaxHostBridgesPerSocket).map fun j => (i, j)).findSome? (sparePair blk out.manager) with
    | none => out
    | some pair =>
      { out with
        regs := silSetMmioReg4 df blk.socketNumber pair (primaryRb df).1 (primaryRb df).2 additionalPostedRegionStart
          (additionalPostedRegionEnd - additionalPostedRegionStart + 1) out.regs }
  else out

/-! ## The combination -/

def otherRootBridges : List (Nat × Nat) := (rootBridges blk).reverse.filter (· ≠ primaryRb df)

def combinationOrder : List (Nat × Nat) := otherRootBridges blk df ++ [primaryRb df]

def TryState.start (mmioBaseAddr : Side → UInt64) (out : MmioState) : TryState where
  mmioBaseAddr := mmioBaseAddr
  bigAlignFirst := fun _ => true
  overSizeFlag := false
  nonPciAt2ndRegion := false
  reservedRegionAlreadySet := false
  out := out

def runCombination (mmioBaseAddr : Side → UInt64) (mmioIsAbovePcieCfg : Nat → Bool) (setDfRegisters : Bool)
    (out : MmioState) : TryState :=
  (combinationOrder blk df).foldl (tryRb blk df mmioIsAbovePcieCfg setDfRegisters) (.start mmioBaseAddr out)

/-- The result is missing if the second region is cut by a division by zero. -/
def silTryThisCombination (mmioBaseAddr : Side → UInt64) (mmioIsAbovePcieCfg : Nat → Bool) (setDfRegisters : Bool)
    (out : MmioState) : Option (Bool × MmioState) :=
  let s := runCombination blk df mmioBaseAddr mmioIsAbovePcieCfg setDfRegisters out
  if !s.overSizeFlag && setDfRegisters then do
    let s ← s.addSecondRegion blk df
    some (true, silAdditionalMmioSetting4 blk df s.reservedRegionAlreadySet s.out)
  else some (!s.overSizeFlag, s.out)

end

end OpenSil.RcMgr
