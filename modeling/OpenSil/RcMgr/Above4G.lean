import OpenSil.Lib.Stores
import OpenSil.RcMgr.MmioReg

/-! # Arranging MMIO above 4G

`SilArrangeMmioAbove4G` gives every root bridge three pools.
-/

namespace OpenSil.RcMgr

open Word Place List UInt64

/-! ## The queue of a root bridge -/

section
variable {α : Type}

def swapIf (swap : α → α → Bool) (queue : List α) (j : Nat) : List α :=
  match queue[j]?, queue[j + 1]? with
  | some a, some b => if swap a b then (queue.set j b).set (j + 1) a else queue
  | _, _ => queue

def bubbleSort (swap : α → α → Bool) (queue : List α) : List α :=
  ((List.range queue.length).flatMap fun i => List.range (queue.length - i - 1)).foldl (swapIf swap) queue

section
variable (swap : α → α → Bool)

theorem swapIf_perm (queue : List α) (j : Nat) : (swapIf swap queue j).Perm queue := by
  unfold swapIf
  split
  · rename_i a b ha hb
    obtain ⟨hj, rfl⟩ := List.getElem?_eq_some_iff.mp ha
    obtain ⟨hj', rfl⟩ := List.getElem?_eq_some_iff.mp hb
    split
    · exact set_set_perm hj hj'
    · exact .refl _
  · exact .refl _

theorem foldl_swapIf_perm (js : List Nat) (l : List α) : (js.foldl (swapIf swap) l).Perm l :=
  foldlRecOn (motive := (List.Perm · l)) js _ (.refl l) fun queue h j _ => (swapIf_perm swap queue j).trans h

theorem bubbleSort_perm (queue : List α) : (bubbleSort swap queue).Perm queue :=
  foldl_swapIf_perm swap _ queue

end

end

def rcMgrNonPciMmioAlignMaskAbove4G : UInt64 := 0xFFFFFFF

def sizeNonPciAbove4G (blk : InputBlk) : UInt64 :=
  atLeast blk.above4GMmioSizePerRbForNonPciDevice.toUInt64 mmioMinNonPciSizeAbove4G

def AddrAperture.block (a : AddrAperture) : Block := ⟨a.alignment, a.size⟩

def blockAbove4G (blk : InputBlk) (rb : Nat × Nat) : PoolKind → Block
  | .nonPci => ⟨rcMgrNonPciMmioAlignMaskAbove4G, sizeNonPciAbove4G blk⟩
  | .prefetch => (blk.prefetchableMmioSizeAbove4G rb.1 rb.2).block
  | .nonPrefetch => (blk.nonPrefetchableMmioSizeAbove4G rb.1 rb.2).block

def outOfOrder (bigAlignFirst : Bool) (alignBit alignBit' : UInt64) : Bool :=
  if bigAlignFirst then alignBit < alignBit'
  else (alignBit' < alignBit ∨ alignBit = 0) ∧ alignBit' ≠ 0

def mmioQueue (block : PoolKind → Block) (bigAlignFirst : Bool) : List PoolKind :=
  bubbleSort (fun k k' => outOfOrder bigAlignFirst (block k).mask (block k').mask) [.nonPci, .prefetch, .nonPrefetch]

section
variable (block : PoolKind → Block) (big : Bool)

theorem mmioQueue_perm :
    (mmioQueue block big).Perm [.nonPci, .prefetch, .nonPrefetch] :=
  bubbleSort_perm _ _

theorem mmioQueue_nodup : (mmioQueue block big).Nodup :=
  (mmioQueue_perm block big).nodup_iff.mpr (by decide)

theorem mem_mmioQueue (k : PoolKind) : k ∈ mmioQueue block big := by
  rw [(mmioQueue_perm block big).mem_iff]
  cases k <;> decide

end

/-! ## The loop over the root bridges -/

structure Above4GState where
  mmioBaseAddrNextRb : UInt64
  enoughSpaceAbove4G : Bool
  bigAlignFirst : Bool
  out : MmioState

section
variable (blk : InputBlk) (df : DfAnswers)

def regionAbove4G (rb : Nat × Nat) (base : PoolKind → UInt64) : MmioRegion :=
  let block := blockAbove4G blk rb
  { baseNonPci := base .nonPci
    sizeNonPci := (block .nonPci).size
    usedSizeNonPci := 0
    baseNonPrefetch := if (block .nonPrefetch).size = 0 then 0 else base .nonPrefetch
    sizeNonPrefetch := (block .nonPrefetch).size
    usedSizeNonPrefetch := 0
    basePrefetch := if (block .prefetch).size = 0 then 0 else base .prefetch
    sizePrefetch := (block .prefetch).size
    usedSizePrefetch := 0
    alignNonPrefetch := (block .nonPrefetch).mask
    alignPrefetch := (block .prefetch).mask }

def recordAbove4G (rb : Nat × Nat) (mmioBaseAddr next : UInt64) (base : PoolKind → UInt64) (out : MmioState) :
    MmioState where
  manager :=
    { out.manager with
      allocateMmioAbove4GOnThisRb := out.manager.allocateMmioAbove4GOnThisRb.set rb.1 rb.2 true
      mmioRegionAbove4G := out.manager.mmioRegionAbove4G.set rb.1 rb.2 (regionAbove4G blk rb base) }
  regs := silSetMmioReg4 df blk.socketNumber (mmioPairIndex blk rb true) rb.1 rb.2 mmioBaseAddr (next - mmioBaseAddr)
    out.regs

def arrangeRbAbove4G (mmioLimitAbove4G : UInt64) (setDfRegisters : Bool) (s : Above4GState) (rb : Nat × Nat) :
    Above4GState :=
  let block := blockAbove4G blk rb
  if (block .nonPrefetch).size + (block .prefetch).size + (block .nonPci).size = 0 then s
  else
    let placed := (mmioQueue block s.bigAlignFirst).foldl (place block) (s.mmioBaseAddrNextRb, fun _ => 0)
    let enough := s.enoughSpaceAbove4G && !decide (mmioLimitAbove4G < placed.1)
    { mmioBaseAddrNextRb := placed.1
      enoughSpaceAbove4G := enough
      bigAlignFirst := !s.bigAlignFirst
      out := if setDfRegisters && enough then recordAbove4G blk df rb s.mmioBaseAddrNextRb placed.1 placed.2 s.out
        else s.out }

def silArrangeMmioAbove4G (mmioBaseAddrNextRb mmioLimitAbove4G : UInt64) (setDfRegisters : Bool) (out : MmioState) :
    Above4GState :=
  (rootBridges blk).foldl (arrangeRbAbove4G blk df mmioLimitAbove4G setDfRegisters) ⟨mmioBaseAddrNextRb, true, true, out⟩

end

/-! ## What the arrangement has to achieve -/

def queueAbove4G (blk : InputBlk) : Bool → List (Nat × Nat) → List ((Nat × Nat) × PoolKind)
  | _, [] => []
  | big, rb :: rbs => (mmioQueue (blockAbove4G blk rb) big).map (rb, ·) ++ queueAbove4G blk (!big) rbs

/-- From `base` on, no address of the layout leaves 64 bits. -/
def NoSumWrapsAbove4G (blk : InputBlk) (base : UInt64) : Prop :=
  NoWrap (fun i => blockAbove4G blk i.1 i.2) base (queueAbove4G blk true (rootBridges blk))

instance (blk : InputBlk) (base : UInt64) : Decidable (NoSumWrapsAbove4G blk base) :=
  inferInstanceAs (Decidable (NoWrap _ _ _))

def MasksAbove4G (blk : InputBlk) : Prop :=
  ∀ rb ∈ rootBridges blk, IsMask (blk.prefetchableMmioSizeAbove4G rb.1 rb.2).alignment ∧
    IsMask (blk.nonPrefetchableMmioSizeAbove4G rb.1 rb.2).alignment

/-- The regions of all root bridges are as requested, aligned, disjoint, and between the base and the limit. -/
structure SoundAbove4G (blk : InputBlk) (base limit : UInt64) (region : Table MmioRegion) : Prop where
  size : ∀ rb ∈ rootBridges blk, (region rb.1 rb.2).sizePrefetch = (blk.prefetchableMmioSizeAbove4G rb.1 rb.2).size ∧
    (region rb.1 rb.2).sizeNonPrefetch = (blk.nonPrefetchableMmioSizeAbove4G rb.1 rb.2).size ∧
    (region rb.1 rb.2).sizeNonPci = sizeNonPciAbove4G blk ∧
    mmioMinNonPciSizeAbove4G ≤ (region rb.1 rb.2).sizeNonPci
  aligned : ∀ rb ∈ rootBridges blk, ∀ k, (region rb.1 rb.2).size k ≠ 0 →
    (region rb.1 rb.2).base k &&& (blockAbove4G blk rb k).mask = 0
  inside : ∀ rb ∈ rootBridges blk, ∀ k, Inside ((region rb.1 rb.2).range k) base.toNat limit.toNat
  apart : ∀ rb ∈ rootBridges blk, ∀ rb' ∈ rootBridges blk, ∀ k k', (rb, k) ≠ (rb', k') →
    Bump.Apart ((region rb.1 rb.2).range k) ((region rb'.1 rb'.2).range k')

/-! ## One root bridge -/

section
variable {blk : InputBlk} {df : DfAnswers} {base limit : UInt64} {s : Above4GState} {rb : Nat × Nat}

theorem isMask_nonPciAbove4G : IsMask rcMgrNonPciMmioAlignMaskAbove4G := ⟨28, by decide⟩

theorem isMask_blockAbove4G (hmask : MasksAbove4G blk) (hrb : rb ∈ rootBridges blk) (k : PoolKind) :
    IsMask (blockAbove4G blk rb k).mask := by
  cases k with
  | nonPci => exact isMask_nonPciAbove4G
  | prefetch => exact (hmask rb hrb).1
  | nonPrefetch => exact (hmask rb hrb).2

theorem mmioMin_le_sizeNonPci (blk : InputBlk) : mmioMinNonPciSizeAbove4G ≤ sizeNonPciAbove4G blk := by
  unfold sizeNonPciAbove4G
  rw [le_iff_toNat_le, toNat_atLeast]
  exact le_max_right _ _

theorem sum_size_ne_zero (hmask : ∀ k, IsMask (blockAbove4G blk rb k).mask) {c : UInt64} {big : Bool}
    (h : NoWrap (blockAbove4G blk rb) c (mmioQueue (blockAbove4G blk rb) big)) :
    (blockAbove4G blk rb .nonPrefetch).size + (blockAbove4G blk rb .prefetch).size +
      (blockAbove4G blk rb .nonPci).size ≠ 0 := by
  have hsum := h.add_sum_le fun k _ => hmask k
  rw [((mmioQueue_perm _ _).map fun k => (blockAbove4G blk rb k).size.toNat).sum_eq] at hsum
  simp only [List.map_cons, List.map_nil, List.sum_cons, List.sum_nil] at hsum
  have hmin := mmioMin_le_sizeNonPci blk
  have hlt := (finish (blockAbove4G blk rb) c (mmioQueue (blockAbove4G blk rb) big)).toNat_lt
  have hpos : 0 < (blockAbove4G blk rb .nonPci).size.toNat :=
    lt_of_lt_of_le (by decide) (UInt64.le_iff_toNat_le.mp hmin)
  intro hzero
  have := congrArg UInt64.toNat hzero
  rw [UInt64.toNat_add, UInt64.toNat_add, UInt64.toNat_zero] at this
  omega

def basesAbove4G (blk : InputBlk) (rb : Nat × Nat) (big : Bool) (c : UInt64) : PoolKind → UInt64 :=
  ((mmioQueue (blockAbove4G blk rb) big).foldl (place (blockAbove4G blk rb)) (c, fun _ => 0)).2

theorem regionAbove4G_size (base : PoolKind → UInt64) (k : PoolKind) :
    (regionAbove4G blk rb base).size k = (blockAbove4G blk rb k).size := by
  cases k <;> rfl

theorem regionAbove4G_base (base : PoolKind → UInt64) (k : PoolKind) (h : (blockAbove4G blk rb k).size ≠ 0) :
    (regionAbove4G blk rb base).base k = base k := by
  cases k with
  | nonPci => rfl
  | prefetch => exact if_neg h
  | nonPrefetch => exact if_neg h

theorem regionAbove4G_packed (hmask : ∀ k, IsMask (blockAbove4G blk rb k).mask) {c : UInt64} {big : Bool}
    (h : NoWrap (blockAbove4G blk rb) c (mmioQueue (blockAbove4G blk rb) big)) :
    Packed (fun _ => True) (regionAbove4G blk rb (basesAbove4G blk rb big c)).range c.toNat
      (finish (blockAbove4G blk rb) c (mmioQueue (blockAbove4G blk rb) big)).toNat := by
  have hsize : ∀ k, ((regionAbove4G blk rb (basesAbove4G blk rb big c)).range k).2 =
      (blockAbove4G blk rb k).size.toNat := fun k => congrArg toNat (regionAbove4G_size _ k)
  refine (packed_place (fun _ => 0) (fun k _ => hmask k) (mmioQueue_nodup _ _) h (fun k _ => hsize k) ?_).mono_dom
    fun k _ => mem_mmioQueue _ _ k
  intro k _ hne
  rw [hsize] at hne
  exact congrArg toNat (regionAbove4G_base _ k fun hz => hne (by rw [hz]; rfl))

theorem arrangeRbAbove4G_eq (df : DfAnswers) (limit : UInt64) (hmask : ∀ k, IsMask (blockAbove4G blk rb k).mask)
    (h : NoWrap (blockAbove4G blk rb) s.mmioBaseAddrNextRb (mmioQueue (blockAbove4G blk rb) s.bigAlignFirst)) :
    let next := finish (blockAbove4G blk rb) s.mmioBaseAddrNextRb (mmioQueue (blockAbove4G blk rb) s.bigAlignFirst)
    arrangeRbAbove4G blk df limit true s rb =
      { mmioBaseAddrNextRb := next
        enoughSpaceAbove4G := s.enoughSpaceAbove4G && !decide (limit < next)
        bigAlignFirst := !s.bigAlignFirst
        out := if s.enoughSpaceAbove4G && !decide (limit < next) then
            recordAbove4G blk df rb s.mmioBaseAddrNextRb next
              (basesAbove4G blk rb s.bigAlignFirst s.mmioBaseAddrNextRb) s.out
          else s.out } := by
  intro next
  unfold arrangeRbAbove4G
  simp only [if_neg (sum_size_ne_zero hmask h), place_fst, Bool.true_and]
  rfl

/-! ## All root bridges -/

structure ArrangedAbove4G (blk : InputBlk) (base next : UInt64) (done : List (Nat × Nat)) (region : Table MmioRegion) :
    Prop where
  size : ∀ rb ∈ done, ∀ k, (region rb.1 rb.2).size k = (blockAbove4G blk rb k).size
  aligned : ∀ rb ∈ done, ∀ k, (region rb.1 rb.2).size k ≠ 0 →
    (region rb.1 rb.2).base k &&& (blockAbove4G blk rb k).mask = 0
  packed : Packed (fun i : (Nat × Nat) × PoolKind => i.1 ∈ done) (fun i => (region i.1.1 i.1.2).range i.2)
    base.toNat next.toNat

theorem ArrangedAbove4G.step {done : List (Nat × Nat)} {region : Table MmioRegion} {next : UInt64} {big : Bool}
    (hs : ArrangedAbove4G blk base next done region) (hnew : rb ∉ done)
    (hmask : ∀ k, IsMask (blockAbove4G blk rb k).mask)
    (h : NoWrap (blockAbove4G blk rb) next (mmioQueue (blockAbove4G blk rb) big)) :
    ArrangedAbove4G blk base (finish (blockAbove4G blk rb) next (mmioQueue (blockAbove4G blk rb) big)) (done ++ [rb])
      (region.set rb.1 rb.2 (regionAbove4G blk rb (basesAbove4G blk rb big next))) := by
  have hother : ∀ rb' ∈ done, region.set rb.1 rb.2 (regionAbove4G blk rb (basesAbove4G blk rb big next)) rb'.1 rb'.2 =
      region rb'.1 rb'.2 := by
    intro rb' hrb'
    refine Table.set_of_ne _ _ fun heq => hnew ?_
    rwa [← Prod.ext heq.1 heq.2]
  constructor
  · intro rb' hrb' k
    rcases mem_append.mp hrb' with hd | hd
    · rw [hother rb' hd]
      exact hs.size rb' hd k
    · rw [mem_singleton.mp hd, Table.set_self]
      exact regionAbove4G_size _ k
  · intro rb' hrb' k hne
    rcases mem_append.mp hrb' with hd | hd
    · rw [hother rb' hd] at hne ⊢
      exact hs.aligned rb' hd k hne
    · rw [mem_singleton.mp hd, Table.set_self] at hne ⊢
      rw [regionAbove4G_size] at hne
      rw [regionAbove4G_base _ k hne]
      exact place_aligned (mmioQueue_nodup _ _) (mem_mmioQueue _ _ k)
  · have hold : Packed (fun i : (Nat × Nat) × PoolKind => i.1 ∈ done) (fun i =>
        (region.set rb.1 rb.2 (regionAbove4G blk rb (basesAbove4G blk rb big next)) i.1.1 i.1.2).range i.2)
        base.toNat next.toNat := hs.packed.congr fun i hi => by rw [hother i.1 hi]
    have hself : Packed (fun i : (Nat × Nat) × PoolKind => i.1 = rb) (fun i =>
        (region.set rb.1 rb.2 (regionAbove4G blk rb (basesAbove4G blk rb big next)) i.1.1 i.1.2).range i.2) next.toNat
        (finish (blockAbove4G blk rb) next (mmioQueue (blockAbove4G blk rb) big)).toNat :=
      ((regionAbove4G_packed hmask h).comap Prod.snd (fun _ _ => trivial)
        fun i j hi hj heq => Prod.ext (hi.trans hj.symm) heq).congr
        fun i hi => by rw [hi, Table.set_self]
    exact (hold.append hself).mono_dom fun i hi => by simpa using hi

theorem arrangeRbAbove4G_enough (h : (arrangeRbAbove4G blk df limit true s rb).enoughSpaceAbove4G = true) :
    s.enoughSpaceAbove4G = true := by
  unfold arrangeRbAbove4G at h
  dsimp only at h
  split at h
  · exact h
  · exact (Bool.and_eq_true_iff.mp h).1

theorem enough_of_foldl {rbs : List (Nat × Nat)}
    (h : (rbs.foldl (arrangeRbAbove4G blk df limit true) s).enoughSpaceAbove4G = true) : s.enoughSpaceAbove4G = true := by
  induction rbs generalizing s with
  | nil => exact h
  | cons rb rbs ih => exact arrangeRbAbove4G_enough (ih h)

theorem ArrangedAbove4G.foldl {rbs done : List (Nat × Nat)} (hnodup : (done ++ rbs).Nodup)
    (hmask : ∀ rb ∈ rbs, ∀ k, IsMask (blockAbove4G blk rb k).mask)
    (hnowrap : NoWrap (fun i => blockAbove4G blk i.1 i.2) s.mmioBaseAddrNextRb (queueAbove4G blk s.bigAlignFirst rbs))
    (hs : ArrangedAbove4G blk base s.mmioBaseAddrNextRb done s.out.manager.mmioRegionAbove4G)
    (hlimit : done ≠ [] → s.mmioBaseAddrNextRb ≤ limit)
    (h : (rbs.foldl (arrangeRbAbove4G blk df limit true) s).enoughSpaceAbove4G = true) :
    let s' := rbs.foldl (arrangeRbAbove4G blk df limit true) s
    ArrangedAbove4G blk base s'.mmioBaseAddrNextRb (done ++ rbs) s'.out.manager.mmioRegionAbove4G ∧
      (done ++ rbs ≠ [] → s'.mmioBaseAddrNextRb ≤ limit) := by
  induction rbs generalizing s done with
  | nil => simpa using ⟨hs, hlimit⟩
  | cons rb rbs ih =>
    rw [forall_mem_cons] at hmask
    unfold queueAbove4G at hnowrap
    rw [noWrap_append, noWrap_map, finish_map] at hnowrap
    have henough : (arrangeRbAbove4G blk df limit true s rb).enoughSpaceAbove4G = true := enough_of_foldl h
    have heq := arrangeRbAbove4G_eq df limit hmask.1 hnowrap.1
    have hnew : rb ∉ done := fun hd => (nodup_append.mp hnodup).2.2 rb hd rb mem_cons_self rfl
    rw [heq] at henough
    simp only at henough
    rw [append_cons] at hnodup ⊢
    refine ih hnodup hmask.2 ?_ ?_ ?_ h
    · rw [heq]
      exact hnowrap.2
    · rw [heq]
      simp only [henough, if_true]
      exact hs.step hnew hmask.1 hnowrap.1
    · intro _
      rw [heq]
      simpa using (Bool.and_eq_true_iff.mp henough).2

/-- If no sum wraps and the arrangement succeeds, every root bridge has what it asked for. -/
theorem silArrangeMmioAbove4G_sound (blk : InputBlk) (df : DfAnswers) (base limit : UInt64) (out : MmioState)
    (hmask : MasksAbove4G blk) (hnowrap : NoSumWrapsAbove4G blk base)
    (h : (silArrangeMmioAbove4G blk df base limit true out).enoughSpaceAbove4G = true) :
    SoundAbove4G blk base limit (silArrangeMmioAbove4G blk df base limit true out).out.manager.mmioRegionAbove4G := by
  have hstart : ArrangedAbove4G blk base base [] out.manager.mmioRegionAbove4G :=
    ⟨by simp, by simp, packed_empty le_rfl (by simp)⟩
  obtain ⟨hall, hlimit⟩ := hstart.foldl (s := ⟨base, true, true, out⟩) (nodup_rootBridges blk)
    (fun rb hrb => isMask_blockAbove4G hmask hrb) hnowrap (by simp) h
  rw [nil_append] at hall hlimit
  constructor
  · intro rb hrb
    have hsize := hall.size rb hrb
    exact ⟨hsize .prefetch, hsize .nonPrefetch, hsize .nonPci,
      (mmioMin_le_sizeNonPci blk).trans_eq (hsize .nonPci).symm⟩
  · exact hall.aligned
  · intro rb hrb k
    have hle := le_iff_toNat_le.mp (hlimit (ne_nil_of_mem hrb))
    exact (hall.packed.inside (rb, k) hrb).mono le_rfl hle
  · intro rb hrb rb' hrb' k k' hne
    exact hall.packed.apart (rb, k) (rb', k') hrb hrb' hne

end

def blkAbove4G : InputBlk :=
  { plainBlk 0xE0000000 with prefetchableMmioSizeAbove4G := fun _ _ => ⟨0x1000000, 0xFFFFFF⟩ }

theorem silArrangeMmioAbove4G_sound_16M :
    SoundAbove4G blkAbove4G 0x100000000 0xFFFD00000000
      (silArrangeMmioAbove4G blkAbove4G plainDf 0x100000000 0xFFFD00000000 true
        ⟨.zero, fun _ _ => ⟨0, 0, 0⟩⟩).out.manager.mmioRegionAbove4G :=
  have h16M : IsMask 0xFFFFFF := ⟨24, by decide⟩
  have hnone : IsMask 0 := ⟨0, by decide⟩
  silArrangeMmioAbove4G_sound _ _ _ _ _ (fun _ _ => ⟨h16M, hnone⟩) (by decide +kernel) (by decide +kernel)

end OpenSil.RcMgr
