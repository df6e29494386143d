import OpenSil.Status
import OpenSil.Lib.Bytes
import OpenSil.Lib.Tiling

/-! # Info blocks -/

open OpenSil.Bytes OpenSil.Loop OpenSil.Tiling

namespace OpenSil.XSim

def sizeofSilBlockVariables : Nat := 392

def sizeofSilInfoBlockHeader : Nat := 12

def freeSpaceOffset (m : Mem) : Nat := readLE m 4 4

def freeSpaceLeft (m : Mem) : Nat := readLE m 8 4

def initBlockVariables (m : Mem) (memorySize : Nat) : Mem :=
  let m := writeLE m 0 4 memorySize
  let m := writeLE m 4 4 sizeofSilBlockVariables
  writeLE m 8 4 ((memorySize + 2 ^ 64 - sizeofSilBlockVariables) % 2 ^ 64)

/-- In a `size_t` of 64 bits, as on x86-64. A build for 32 bits would wrap at `2 ^ 32`. -/
def roundUp (data roundTo : Nat) : Nat := (data + roundTo - data % roundTo) % 2 ^ 64

structure BlockRequest where
  blockTag : UInt32
  blockSize : Nat
  blockInstance : UInt16
  blockMajorRev : UInt8
  blockMinorRev : UInt8
  deriving DecidableEq

/-- The bytes a block of `blockSize` bytes of data takes. -/
def requestSize (blockSize : Nat) : Nat := roundUp ((sizeofSilInfoBlockHeader + blockSize) % 2 ^ 64) 4

/-- Memory after `SilCreateInfoBlock` has taken the next free bytes for `q`. -/
def placeBlock (m : Mem) (q : BlockRequest) : Mem :=
  let header := freeSpaceOffset m
  let size := requestSize q.blockSize
  let m := writeLE m 4 4 (freeSpaceOffset m + size)
  let m := writeLE m 8 4 (freeSpaceLeft m - size)
  let m := fill m header size 0
  let m := writeLE m header 4 q.blockTag.toNat
  let m := writeLE m (header + 8) 4 size
  let m := writeLE m (header + 4) 2 q.blockInstance.toNat
  let m := writeLE m (header + 6) 1 q.blockMajorRev.toNat
  writeLE m (header + 7) 1 q.blockMinorRev.toNat

/-- `SilCreateInfoBlock` behind its NULL check: the address of the data, if there is room, and memory. -/
def createInfoBlock (m : Mem) (q : BlockRequest) : Option Nat × Mem :=
  if freeSpaceLeft m ≤ requestSize q.blockSize then (none, m)
  else (some (freeSpaceOffset m + sizeofSilInfoBlockHeader), placeBlock m q)

/-- `SilCreateInfoBlock`. `none` for the memory is a NULL `mSilMemoryBase`. -/
def silCreateInfoBlock (base : Option Mem) (q : BlockRequest) : Option Nat × Option Mem :=
  match base with
  | none => (none, none)
  | some m => ((createInfoBlock m q).1, some (createInfoBlock m q).2)

/-- The turn of the loop of `xUslFindStructure` at the header at `a`: found, or on to the next header. -/
def matchHeader (m : Mem) (ipId : UInt32) (instanceNum : UInt16) (a : Nat) (_ : Unit) : Unit ⊕ Option Nat :=
  if readLE m a 4 = ipId.toNat ∧ readLE m (a + 4) 2 = instanceNum.toNat then
    .inr (some (a + sizeofSilInfoBlockHeader))
  else
    .inl ()

def findStructureTurn (m : Mem) (ipId : UInt32) (instanceNum : UInt16) : Nat × Unit → Turn (Nat × Unit) (Option Nat) :=
  walkTurn (freeSpaceOffset m) (fun a => readLE m (a + 8) 4) (matchHeader m ipId instanceNum) fun _ => none

def xUslFindStructure (m : Mem) (fuel : Nat) (ipId : UInt32) (instanceNum : UInt16) : Option (Option Nat) :=
  run (findStructureTurn m ipId instanceNum) fuel (sizeofSilBlockVariables, ())

def Finds (m : Mem) (ipId : UInt32) (instanceNum : UInt16) (r : Option Nat) : Prop :=
  ∃ fuel, xUslFindStructure m fuel ipId instanceNum = some r

/-! ## Sizes -/

theorem requestSize_eq {n : Nat} (h : n < 2 ^ 32) : requestSize n = 16 + n - n % 4 := by
  have hmod : (12 + n) % 4 = n % 4 := by omega
  rw [requestSize, roundUp, sizeofSilInfoBlockHeader, Nat.mod_eq_of_lt (show 12 + n < 2 ^ 64 by omega), hmod,
    Nat.mod_eq_of_lt (by omega)]
  omega

theorem requestSize_gt {n : Nat} (h : n < 2 ^ 32) : 12 + n < requestSize n := by
  rw [requestSize_eq h]
  omega

theorem requestSize_mono {n n' : Nat} (h : n ≤ n') (h' : n' < 2 ^ 32) : requestSize n ≤ requestSize n' := by
  rw [requestSize_eq h', requestSize_eq (h.trans_lt h')]
  omega

theorem freeSpaceLeft_lt (m : Mem) : freeSpaceLeft m < 2 ^ 32 := readLE_lt m 8 4

theorem freeSpaceOffset_initBlockVariables (m : Mem) (memorySize : Nat) :
    freeSpaceOffset (initBlockVariables m memorySize) = 392 := by
  rw [freeSpaceOffset, initBlockVariables, readLE_writeLE_of_disjoint (by omega), readLE_writeLE]
  rfl

/-- The free space a pool starts from: a host block too small for the pool's variables counts as a huge one. -/
def initialFree (memorySize : Nat) : Nat := (memorySize % 2 ^ 32 + 2 ^ 32 - sizeofSilBlockVariables) % 2 ^ 32

theorem freeSpaceLeft_initBlockVariables (m : Mem) (memorySize : Nat) :
    freeSpaceLeft (initBlockVariables m memorySize) = initialFree memorySize := by
  rw [freeSpaceLeft, initBlockVariables, readLE_writeLE, initialFree, sizeofSilBlockVariables]
  norm_num
  omega

/-! ## What a new block changes -/

section Place

variable {m : Mem} {q : BlockRequest}

structure HeaderAt (m : Mem) (a : Nat) (q : BlockRequest) (size : Nat) : Prop where
  id : readLE m a 4 = q.blockTag.toNat
  instance_ : readLE m (a + 4) 2 = q.blockInstance.toNat
  revMajor : readLE m (a + 6) 1 = q.blockMajorRev.toNat
  revMinor : readLE m (a + 7) 1 = q.blockMinorRev.toNat
  infoBlockDataSize : readLE m (a + 8) 4 = size

theorem HeaderAt.of_agreeOn {m' : Mem} {a size : Nat} (h : HeaderAt m a q size) (hag : AgreeOn m' m a (a + 12)) :
    HeaderAt m' a q size where
  id := (hag.mono (by omega) (by omega)).readLE_eq.trans h.id
  instance_ := (hag.mono (by omega) (by omega)).readLE_eq.trans h.instance_
  revMajor := (hag.mono (by omega) (by omega)).readLE_eq.trans h.revMajor
  revMinor := (hag.mono (by omega) (by omega)).readLE_eq.trans h.revMinor
  infoBlockDataSize := (hag.mono (by omega) (by omega)).readLE_eq.trans h.infoBlockDataSize

theorem createInfoBlock_refused (h : freeSpaceLeft m ≤ requestSize q.blockSize) : createInfoBlock m q = (none, m) := by
  rw [createInfoBlock, if_pos h]

theorem createInfoBlock_granted (h : requestSize q.blockSize < freeSpaceLeft m) :
    createInfoBlock m q = (some (freeSpaceOffset m + 12), placeBlock m q) := by
  rw [createInfoBlock, if_neg (by omega), sizeofSilInfoBlockHeader]

theorem freeSpaceOffset_placeBlock (hoff : 12 ≤ freeSpaceOffset m) :
    freeSpaceOffset (placeBlock m q) = (freeSpaceOffset m + requestSize q.blockSize) % 2 ^ 32 := by
  rw [freeSpaceOffset, placeBlock]
  simp (disch := omega) only [readLE_writeLE_of_disjoint, readLE_fill_of_disjoint]
  rw [readLE_writeLE, freeSpaceOffset]
  norm_num

theorem freeSpaceLeft_placeBlock (hoff : 12 ≤ freeSpaceOffset m) (hroom : requestSize q.blockSize < freeSpaceLeft m) :
    freeSpaceLeft (placeBlock m q) = freeSpaceLeft m - requestSize q.blockSize := by
  have hlt := freeSpaceLeft_lt m
  rw [freeSpaceLeft, placeBlock]
  simp (disch := omega) only [readLE_writeLE_of_disjoint, readLE_fill_of_disjoint]
  rw [readLE_writeLE, freeSpaceLeft, readLE_writeLE_of_disjoint (by omega), ← freeSpaceLeft]
  exact Nat.mod_eq_of_lt (by norm_num; omega)

theorem headerAt_placeBlock (h32 : requestSize q.blockSize < 2 ^ 32) :
    HeaderAt (placeBlock m q) (freeSpaceOffset m) q (requestSize q.blockSize) := by
  have htag := q.blockTag.toNat_lt
  have hinst := q.blockInstance.toNat_lt
  have hmaj := q.blockMajorRev.toNat_lt
  have hmin := q.blockMinorRev.toNat_lt
  constructor
  all_goals
    rw [placeBlock]
    simp (disch := omega) only [readLE_writeLE_of_disjoint, readLE_writeLE]
    exact Nat.mod_eq_of_lt (by norm_num; omega)

theorem agreeOn_placeBlock {lo hi : Nat} (hlo : 12 ≤ lo) (hsize : 12 ≤ requestSize q.blockSize)
    (h : hi ≤ freeSpaceOffset m ∨ freeSpaceOffset m + requestSize q.blockSize ≤ lo) :
    AgreeOn (placeBlock m q) m lo hi := by
  rw [placeBlock]
  refine (agreeOn_writeLE (by omega)).trans <| (agreeOn_writeLE (by omega)).trans <|
    (agreeOn_writeLE (by omega)).trans <| (agreeOn_writeLE (by omega)).trans <|
    (agreeOn_writeLE (by omega)).trans <| (agreeOn_fill (by omega)).trans <|
    (agreeOn_writeLE (by omega)).trans (agreeOn_writeLE (by omega))

end Place

end OpenSil.XSim
