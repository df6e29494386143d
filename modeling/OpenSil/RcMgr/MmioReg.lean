import OpenSil.Lib.Chain
import OpenSil.Lib.Place
import OpenSil.RcMgr.Reserve

/-! # The MMIO registers of the data fabric -/

namespace OpenSil.RcMgr

open Word Chain List

structure MmioPair where
  base : UInt32
  limit : UInt32
  control : UInt32
  deriving DecidableEq

/-- What the MMIO initialisation writes: the manager, and the register pairs of every socket. -/
structure MmioState where
  manager : MmioManager
  regs : Table MmioPair

def mmioAddrCtrlReg (dstFabricID : UInt32) : UInt32 := (0x3 : UInt32) ||| ((dstFabricID &&& 0xFFF) <<< 16)

def mmioPairFor (df : DfAnswers) (sktNum rbNum : Nat) (baseAddress length : UInt64) : MmioPair :=
  let baseAddress := alignUp baseAddress 0xFFFF
  { base := (baseAddress >>> 16).toUInt32
    limit := ((baseAddress + length - 1) >>> 16).toUInt32
    control := mmioAddrCtrlReg (df.hostBridgeSystemFabricID sktNum rbNum) }

def silSetMmioReg4 (df : DfAnswers) (totalSocket mmioPairIndex : UInt8) (sktNum rbNum : Nat)
    (baseAddress length : UInt64) (regs : Table MmioPair) : Table MmioPair :=
  fun i pair =>
    if i < totalSocket.toNat ∧ pair = mmioPairIndex.toNat then mmioPairFor df sktNum rbNum baseAddress length
    else regs i pair

def mmioPairIndex (blk : InputBlk) (rb : Nat × Nat) (above4G : Bool) : UInt8 :=
  .ofNat ((rb.1 * blk.rbsPerSocket.toNat + rb.2) * 2 + if above4G then 1 else 0)

def rootBridges (blk : InputBlk) : List (Nat × Nat) :=
  (List.range blk.socketNumber.toNat).flatMap fun socket =>
    (List.range blk.rbsPerSocket.toNat).map fun rb => (socket, rb)

theorem mem_rootBridges {blk : InputBlk} {rb : Nat × Nat} :
    rb ∈ rootBridges blk ↔ rb.1 < blk.socketNumber.toNat ∧ rb.2 < blk.rbsPerSocket.toNat := by
  unfold rootBridges
  simp only [mem_flatMap, mem_range, mem_map]
  constructor
  · rintro ⟨socket, hs, r, hr, rfl⟩
    exact ⟨hs, hr⟩
  · intro h
    exact ⟨rb.1, h.1, rb.2, h.2, rfl⟩

theorem nodup_rootBridges (blk : InputBlk) : (rootBridges blk).Nodup := by
  unfold rootBridges
  refine nodup_flatMap.mpr ⟨fun socket _ => ?_, ?_⟩
  · exact nodup_range.map fun _ _ h => (Prod.mk.inj h).2
  · refine nodup_range.imp fun hne rb h h' => hne ?_
    obtain ⟨_, -, rfl⟩ := mem_map.mp h
    obtain ⟨_, -, heq⟩ := mem_map.mp h'
    exact (Prod.mk.inj heq).1.symm

def isLastRb (blk : InputBlk) (rb : Nat × Nat) : Bool :=
  rb.1 + 1 = blk.socketNumber.toNat ∧ rb.2 + 1 = blk.rbsPerSocket.toNat

theorem lastOnly_rootBridges (blk : InputBlk) : LastOnly (isLastRb blk) (rootBridges blk) := by
  rcases Nat.eq_zero_or_pos blk.socketNumber.toNat with hs | hs
  · rw [rootBridges, hs]
    trivial
  rcases Nat.eq_zero_or_pos blk.rbsPerSocket.toNat with hr | hr
  · have hnil : rootBridges blk = [] := by simp [rootBridges, hr]
    rw [hnil]
    trivial
  obtain ⟨s, hs⟩ := Nat.exists_eq_succ_of_ne_zero hs.ne'
  obtain ⟨r, hr⟩ := Nat.exists_eq_succ_of_ne_zero hr.ne'
  have hsplit : ∃ rbs, rootBridges blk = rbs ++ [(s, r)] := by
    refine ⟨((List.range s).flatMap fun socket => (List.range (r + 1)).map fun rb => (socket, rb)) ++
      (List.range r).map fun rb => (s, rb), ?_⟩
    rw [rootBridges, hs, hr]
    simp [List.range_succ]
  obtain ⟨rbs, hrbs⟩ := hsplit
  have hnodup := nodup_rootBridges blk
  rw [hrbs] at hnodup ⊢
  refine lastOnly_append_singleton_iff.mpr ⟨?_, ?_⟩
  · intro x hx
    have hne : x ≠ (s, r) := fun h => (List.nodup_append.mp hnodup).2.2 x hx (s, r) (by simp) h
    unfold isLastRb
    rw [hs, hr]
    simp only [decide_eq_false_iff_not, not_and]
    intro h1 h2
    exact hne (Prod.ext (Nat.succ.inj h1) (Nat.succ.inj h2))
  · unfold isLastRb
    rw [hs, hr]
    simp

def MmioRegion.range (r : MmioRegion) (k : PoolKind) : Nat × Nat := ((r.base k).toNat, (r.size k).toNat)

end OpenSil.RcMgr
