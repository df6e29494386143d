import OpenSil.XSim.InfoBlock

/-! # The pool of info blocks -/

open OpenSil.Bytes OpenSil.Loop OpenSil.Tiling List Nat

namespace OpenSil.XSim

structure Block where
  request : BlockRequest
  offset : Nat
  size : Nat

/-- The bytes that IPs write: the tables of APIs and the data of the blocks. -/
def IpArea (blocks : List Block) (a : Nat) : Prop :=
  (24 ≤ a ∧ a < sizeofSilBlockVariables) ∨
    ∃ b ∈ blocks, b.offset + sizeofSilInfoBlockHeader ≤ a ∧ a < b.offset + b.size

/-- The runs of a host block of `size` bytes: memory and the blocks made so far, the oldest first. -/
inductive PoolRun (size : Nat) : Mem → List Block → Prop
  | init (m : Mem) : PoolRun size (initBlockVariables m size) []
  | created {m m' : Mem} {blocks : List Block} (q : BlockRequest) (p : Nat) (h : PoolRun size m blocks)
      (hq : q.blockSize < 2 ^ 32) (hcall : silCreateInfoBlock (some m) q = (some p, some m')) :
      PoolRun size m' (blocks ++ [⟨q, freeSpaceOffset m, freeSpaceOffset m' - freeSpaceOffset m⟩])
  | refused {m m' : Mem} {blocks : List Block} (q : BlockRequest) (h : PoolRun size m blocks)
      (hq : q.blockSize < 2 ^ 32) (hcall : silCreateInfoBlock (some m) q = (none, some m')) : PoolRun size m' blocks
  | stored {m : Mem} {blocks : List Block} (a : Nat) (v : UInt8) (h : PoolRun size m blocks)
      (ha : IpArea blocks a) : PoolRun size (Function.update m a v) blocks

/-! ## The invariant -/

structure PoolInv (size : Nat) (m : Mem) (blocks : List Block) : Prop where
  total : freeSpaceOffset m + freeSpaceLeft m = size
  tiles : Tiles Block.offset Block.size sizeofSilBlockVariables blocks (freeSpaceOffset m)
  header : ∀ b ∈ blocks, HeaderAt m b.offset b.request b.size
  room : ∀ b ∈ blocks, sizeofSilInfoBlockHeader + b.request.blockSize ≤ b.size

section Inv

variable {size : Nat} {m : Mem} {blocks : List Block} {q : BlockRequest}

section
variable (ipId : UInt32) (inst : UInt16)

theorem PoolInv.offset_ge (h : PoolInv size m blocks) : 392 ≤ freeSpaceOffset m := h.tiles.le

theorem PoolInv.freeSpaceLeft_eq {m' : Mem} (h : PoolInv size m blocks) (h' : PoolInv size m' blocks) :
    freeSpaceLeft m = freeSpaceLeft m' := by
  have hend := h.tiles.end_unique h'.tiles
  have h1 := h.total
  have h2 := h'.total
  omega

theorem poolInv_init (m : Mem) (size : Nat) :
    PoolInv (sizeofSilBlockVariables + initialFree size) (initBlockVariables m size) [] where
  total := by rw [freeSpaceOffset_initBlockVariables, freeSpaceLeft_initBlockVariables, sizeofSilBlockVariables]
  tiles := (freeSpaceOffset_initBlockVariables m size).symm
  header := by simp
  room := by simp

theorem sizeof_add_initialFree (hlo : sizeofSilBlockVariables ≤ size) (hhi : size < 2 ^ 32) :
    sizeofSilBlockVariables + initialFree size = size := by
  simp only [sizeofSilBlockVariables] at hlo
  simp only [initialFree, sizeofSilBlockVariables]
  omega

theorem poolInv_initBlockVariables (m : Mem) (hlo : sizeofSilBlockVariables ≤ size) (hhi : size < 2 ^ 32) :
    PoolInv size (initBlockVariables m size) [] := by
  have h := poolInv_init m size
  rwa [sizeof_add_initialFree hlo hhi] at h

def newBlock (m : Mem) (q : BlockRequest) : Block := ⟨q, freeSpaceOffset m, requestSize q.blockSize⟩

section
variable (h : PoolInv size m blocks)
include h

theorem PoolInv.freeSpaceOffset_placed (hfit : freeSpaceOffset m + requestSize q.blockSize < 2 ^ 32) :
    freeSpaceOffset (placeBlock m q) = freeSpaceOffset m + requestSize q.blockSize := by
  have hoff := h.offset_ge
  rw [freeSpaceOffset_placeBlock (by omega), mod_eq_of_lt hfit]

theorem PoolInv.freeSpaceLeft_placed (hroom : requestSize q.blockSize < freeSpaceLeft m) :
    freeSpaceLeft (placeBlock m q) = freeSpaceLeft m - requestSize q.blockSize := by
  have hoff := h.offset_ge
  exact freeSpaceLeft_placeBlock (by omega) hroom

theorem PoolInv.placeBlock (hq : q.blockSize < 2 ^ 32) (hroom : requestSize q.blockSize < freeSpaceLeft m)
    (hfit : freeSpaceOffset m + requestSize q.blockSize < 2 ^ 32) :
    PoolInv size (placeBlock m q) (blocks ++ [newBlock m q]) := by
  have hgt := requestSize_gt hq
  have hnew := h.freeSpaceOffset_placed hfit
  constructor
  · have htotal := h.total
    rw [hnew, h.freeSpaceLeft_placed hroom]
    omega
  · rw [hnew]
    exact h.tiles.concat (x := newBlock m q) rfl
  · intro b hb
    rcases mem_append.mp hb with hb | hb
    · -- An older block lies below the free space.
      have hbound := h.tiles.bounds_of_mem hb
      have hbroom := h.room b hb
      simp only [sizeofSilBlockVariables, sizeofSilInfoBlockHeader] at hbound hbroom
      exact (h.header b hb).of_agreeOn (agreeOn_placeBlock (by omega) (by omega) (Or.inl (by omega)))
    · obtain rfl := mem_singleton.mp hb
      exact headerAt_placeBlock (by omega)
  · intro b hb
    rcases mem_append.mp hb with hb | hb
    · exact h.room b hb
    · obtain rfl := mem_singleton.mp hb
      simp only [sizeofSilInfoBlockHeader, newBlock]
      omega

theorem PoolInv.update {a : Nat} (v : UInt8) (ha : IpArea blocks a) :
    PoolInv size (Function.update m a v) blocks := by
  have ha24 : 24 ≤ a := by
    rcases ha with ha | ⟨b, hb, ha⟩
    · exact ha.1
    · have hbound := h.tiles.bounds_of_mem hb
      simp only [sizeofSilBlockVariables] at hbound
      omega
  have hoff : freeSpaceOffset (Function.update m a v) = freeSpaceOffset m :=
    (agreeOn_update (Or.inr (by omega))).readLE_eq
  have hleft : freeSpaceLeft (Function.update m a v) = freeSpaceLeft m :=
    (agreeOn_update (Or.inr (by omega))).readLE_eq
  refine ⟨by rw [hoff, hleft]; exact h.total, by rw [hoff]; exact h.tiles, fun c hc => ?_, h.room⟩
  refine (h.header c hc).of_agreeOn (agreeOn_update ?_)
  have hcbound := h.tiles.bounds_of_mem hc
  have hcroom := h.room c hc
  simp only [sizeofSilBlockVariables, sizeofSilInfoBlockHeader] at hcbound hcroom
  rcases ha with ha | ⟨b, hb, ha⟩
  · simp only [sizeofSilBlockVariables] at ha
    exact Or.inl (by omega)
  · simp only [sizeofSilInfoBlockHeader] at ha
    -- The data of `b` lies behind the header of `b`, and outside every other block.
    rcases h.tiles.eq_or_disjoint hb hc with rfl | hd | hd
    · exact Or.inr (by omega)
    · exact Or.inl (by omega)
    · exact Or.inr (by omega)

end

theorem PoolRun.poolInv (h : PoolRun size m blocks) (hlo : sizeofSilBlockVariables ≤ size) (hhi : size < 2 ^ 32) :
    PoolInv size m blocks := by
  induction h with
  | init m => exact poolInv_initBlockVariables m hlo hhi
  | @created m m' blocks q p _ hq hcall ih =>
    by_cases hroom : requestSize q.blockSize < freeSpaceLeft m
    · simp only [silCreateInfoBlock, createInfoBlock_granted hroom, Prod.mk.injEq, Option.some.injEq] at hcall
      obtain ⟨-, rfl⟩ := hcall
      have hfit : freeSpaceOffset m + requestSize q.blockSize < 2 ^ 32 := by
        have := ih.total
        omega
      rw [ih.freeSpaceOffset_placed hfit, Nat.add_sub_cancel_left]
      exact ih.placeBlock hq hroom hfit
    · simp [silCreateInfoBlock, createInfoBlock_refused (not_lt.mp hroom)] at hcall
  | @refused m m' blocks q _ hq hcall ih =>
    by_cases hroom : requestSize q.blockSize < freeSpaceLeft m
    · simp [silCreateInfoBlock, createInfoBlock_granted hroom] at hcall
    · simp only [silCreateInfoBlock, createInfoBlock_refused (not_lt.mp hroom), Prod.mk.injEq,
        Option.some.injEq] at hcall
      exact hcall.2 ▸ ih
  | stored a v _ ha ih => exact ih.update v ha

/-! ## Finding a block -/

def Block.Is (b : Block) (ipId : UInt32) (instanceNum : UInt16) : Prop :=
  b.request.blockTag = ipId ∧ b.request.blockInstance = instanceNum

instance (b : Block) (ipId : UInt32) (instanceNum : UInt16) : Decidable (b.Is ipId instanceNum) :=
  inferInstanceAs (Decidable (_ ∧ _))

def firstData (blocks : List Block) (ipId : UInt32) (instanceNum : UInt16) : Option Nat :=
  (blocks.find? fun b => b.Is ipId instanceNum).map fun b => b.offset + sizeofSilInfoBlockHeader

theorem matchHeader_of_headerAt {b : Block} (h : HeaderAt m b.offset b.request b.size) :
    matchHeader m ipId inst b.offset () =
      if b.Is ipId inst then .inr (some (b.offset + sizeofSilInfoBlockHeader)) else .inl () := by
  simp only [matchHeader, h.id, h.instance_, UInt32.toNat_inj, UInt16.toNat_inj]
  rfl

theorem visitAll_matchHeader (h : ∀ b ∈ blocks, HeaderAt m b.offset b.request b.size) :
    visitAll (matchHeader m ipId inst) (fun _ => none) (blocks.map Block.offset) () =
      firstData blocks ipId inst := by
  induction blocks with
  | nil => rfl
  | cons b bs ih =>
    rw [map_cons, visitAll, matchHeader_of_headerAt ipId inst (h b mem_cons_self), firstData,
      find?_cons]
    by_cases hb : b.Is ipId inst
    · simp [hb]
    · simpa [hb, firstData] using ih fun c hc => h c (mem_cons_of_mem _ hc)

theorem PoolInv.finds (h : PoolInv size m blocks) (ipId : UInt32) (inst : UInt16) :
    Finds m ipId inst (firstData blocks ipId inst) := by
  rw [← visitAll_matchHeader ipId inst h.header]
  refine h.tiles.walk_returns (fun b hb => ?_) (fun b hb => (h.header b hb).infoBlockDataSize) ()
  have := h.room b hb
  simp only [sizeofSilInfoBlockHeader] at this
  omega

theorem firstData_eq_none_iff :
    firstData blocks ipId inst = none ↔ ∀ b ∈ blocks, ¬ b.Is ipId inst := by
  simp [firstData]

end

end Inv

/-- The pool after any run: its two counters add up, the blocks fill it from its variables to the free space, every
block has room for its data, a refused call changes nothing, and `xUslFindStructure` finds the oldest block of its tag
and instance. -/
theorem pool_run_invariant (size : Nat) (hlo : sizeofSilBlockVariables ≤ size) (hhi : size < 2 ^ 32) (m : Mem)
    (blocks : List Block) (hrun : PoolRun size m blocks) :
    freeSpaceOffset m + freeSpaceLeft m = size ∧
    Tiles Block.offset Block.size sizeofSilBlockVariables blocks (freeSpaceOffset m) ∧
    (∀ b ∈ blocks, sizeofSilInfoBlockHeader + b.request.blockSize ≤ b.size) ∧
    (∀ q m', silCreateInfoBlock (some m) q = (none, some m') → m' = m) ∧
    (∀ q p m', silCreateInfoBlock (some m) q = (some p, some m') →
      p = freeSpaceOffset m + sizeofSilInfoBlockHeader) ∧
    (∀ ipId instanceNum, Finds m ipId instanceNum (firstData blocks ipId instanceNum)) ∧
    (∀ ipId instanceNum, Finds m ipId instanceNum none ↔ ∀ b ∈ blocks, ¬ b.Is ipId instanceNum) := by
  have hinv := hrun.poolInv hlo hhi
  refine ⟨hinv.total, hinv.tiles, hinv.room, ?_, ?_, hinv.finds, ?_⟩
  · intro q m' hcall
    simp only [silCreateInfoBlock, createInfoBlock] at hcall
    split at hcall <;> simp_all
  · intro q p m' hcall
    simp only [silCreateInfoBlock, createInfoBlock] at hcall
    split at hcall <;> simp_all
  · intro ipId instanceNum
    rw [← firstData_eq_none_iff]
    have hfinds := hinv.finds ipId instanceNum
    constructor
    · intro hnone
      exact Returns.unique hfinds hnone
    · intro hnone
      rwa [hnone] at hfinds

/-- A first block of 100 bytes in a host block of 2 KB. -/
theorem pool_run_invariant_first_block :
    ∃ m blocks, PoolRun 2048 m blocks ∧ blocks.length = 1 ∧ freeSpaceOffset m + freeSpaceLeft m = 2048 := by
  let q : BlockRequest := ⟨17, 100, 0, 0, 1⟩
  have hinit : PoolRun 2048 _ _ := PoolRun.init fun _ => 0
  have hroom : requestSize q.blockSize < freeSpaceLeft (initBlockVariables (fun _ => 0) 2048) := by
    rw [freeSpaceLeft_initBlockVariables]
    decide
  have hrun := hinit.created q _ (by decide) (by rw [silCreateInfoBlock, createInfoBlock_granted hroom])
  exact ⟨_, _, hrun, rfl, (pool_run_invariant 2048 (by decide) (by decide) _ _ hrun).1⟩

end OpenSil.XSim
