import OpenSil.XSim.IpRecord
import OpenSil.XSim.Pool

/-! # Asking for memory and handing it out

`xSimQueryMemoryRequirements` and `xSimAssignMemoryTp1`.
-/

open OpenSil.Bytes OpenSil.Loop OpenSil.Tiling List Nat

namespace OpenSil.XSim

universe u

/-- What the callbacks of timepoint 1 act on: the host's block, and a note of every call of `SilCreateInfoBlock` with
its result. -/
structure World where
  mem : Mem
  calls : List (BlockRequest × Option Nat)

/-! ## Callbacks -/

inductive IpProg where
  | ret (status : SilStatus)
  | create (q : BlockRequest) (k : Option Nat → IpProg)
  | load (a : Nat) (k : UInt8 → IpProg)
  | store (a : Nat) (v : UInt8) (k : IpProg)

def IpProg.exec : IpProg → Callback World
  | .ret status, w => (status, w)
  | .create q k, w =>
    let r := createInfoBlock w.mem q
    (k r.1).exec ⟨r.2, w.calls ++ [(q, r.1)]⟩
  | .load a k, w => (k (w.mem a)).exec w
  | .store a v k, w => k.exec { w with mem := Function.update w.mem a v }

def IpProg.FillsData (lo hi : Nat) : IpProg → Prop
  | .ret status => status = .silPass
  | .create _ _ => False
  | .load _ k => ∀ v, (k v).FillsData lo hi
  | .store a _ k => lo ≤ a ∧ a < hi ∧ k.FillsData lo hi

/-- Makes at most one block, of at most `n` bytes, and passes if it gets it. -/
def IpProg.CreatesAtMostOne (n : Nat) : IpProg → Prop
  | .ret status => status = .silPass
  | .create q k => q.blockSize ≤ n ∧ ∀ p, (k (some p)).FillsData p (p + q.blockSize)
  | .load _ k => ∀ v, (k v).CreatesAtMostOne n
  | .store _ _ _ => False

/-- The callback only registers APIs: it stores in the API tables of `SIL_BLOCK_VARIABLES` and nowhere else. -/
structure RegistersApis (f : Callback World) : Prop where
  calls : ∀ w, (f w).2.calls = w.calls
  below : ∀ w, AgreeOn (f w).2.mem w.mem 0 24
  above : ∀ w hi, AgreeOn (f w).2.mem w.mem sizeofSilBlockVariables hi

inductive ApiTable where
  | ip2IpApi
  | common2RevXferTable

def ApiTable.offset : ApiTable → Nat
  | .ip2IpApi => 24
  | .common2RevXferTable => 208

def initApiTable (table : ApiTable) (ipId : Nat) (api : UInt64) (m : Mem) : SilStatus × Mem :=
  if silIdListEnd ≤ ipId then (.silInvalidParameter, m)
  else (.silPass, writeLE m (table.offset + 8 * ipId) 8 api.toNat)

def silInitIp2IpApi : Nat → UInt64 → Mem → SilStatus × Mem := initApiTable .ip2IpApi

def registerApis (apis : List (ApiTable × Nat × UInt64)) (status : SilStatus) : Callback World := fun w =>
  (status, { w with mem := apis.foldl (fun m a => (initApiTable a.1 a.2.1 a.2.2 m).2) w.mem })

def initializeRcMgrApi (api : UInt64) : Callback World := fun w =>
  let r := silInitIp2IpApi silIdRcManager api w.mem
  (r.1, { w with mem := r.2 })

theorem initializeRcMgrApi_eq (api : UInt64) :
    initializeRcMgrApi api = registerApis [(.ip2IpApi, silIdRcManager, api)] .silPass := rfl

def dfXRcMgrSetInputBlk (sizeofDataBlk : Nat) : IpProg :=
  .create ⟨UInt32.ofNat silIdRcManager, sizeofDataBlk, 0, 0, 1⟩ fun _ => .ret .silPass

/-! ## The two passes over the list -/

/-- The sum is a `size_t` too. -/
def queryLoop {ω : Type u} : List (IpRecord ω) → Nat → Nat
  | [], requestTotal => requestTotal
  | r :: rest, requestTotal =>
    queryLoop rest
      (if 0 < r.blkRequestSize.toNat then (requestTotal + requestSize r.blkRequestSize.toNat) % 2 ^ 64 else requestTotal)

def xSimQueryMemoryRequirements {ω : Type u} (t : IpTable ω) : Nat :=
  roundUp (queryLoop t.records sizeofSilBlockVariables) 2048

def xSimInitializeIpApis : List (IpRecord World) → Callback World
  | [], w => (.silPass, w)
  | r :: rest, w =>
    match r.apiInit with
    | none => xSimInitializeIpApis rest w
    | some f => if (f w).1 ≠ .silPass then f w else xSimInitializeIpApis rest (f w).2

def assignLoop : List (IpRecord World) → SilStatus → Callback World
  | [], lclStatus, w => (lclStatus, w)
  | r :: rest, lclStatus, w =>
    if r.blkRequestSize = 0 then assignLoop rest lclStatus w
    -- The check counts neither the header nor the rounding of the block.
    else if freeSpaceLeft w.mem < r.blkRequestSize.toNat then (.silOutOfResources, w)
    else
      match r.setInput with
      | none => assignLoop rest lclStatus w
      | some f => if (f w).1 ≠ .silPass then f w else assignLoop rest (f w).1 (f w).2

/-- `xSimAssignMemoryTp1`, on a host block whose bytes are `block`. -/
def xSimAssignMemoryTp1 (t : IpTable World) (block : Mem) (memorySize : Nat) : SilStatus × World :=
  let apis := xSimInitializeIpApis t.records ⟨initBlockVariables block memorySize, []⟩
  if apis.1 ≠ .silPass then apis else assignLoop t.records .silPass apis.2

section Assign

variable {t : IpTable World} {block : Mem} {memorySize : Nat}

theorem xSimAssignMemoryTp1_of_apis_fail
    (h : (xSimInitializeIpApis t.records ⟨initBlockVariables block memorySize, []⟩).1 ≠ .silPass) :
    (xSimAssignMemoryTp1 t block memorySize).1 ≠ .silPass := by
  rwa [xSimAssignMemoryTp1, if_pos h]

theorem xSimAssignMemoryTp1_of_apis_pass
    (h : (xSimInitializeIpApis t.records ⟨initBlockVariables block memorySize, []⟩).1 = .silPass) :
    xSimAssignMemoryTp1 t block memorySize =
      assignLoop t.records .silPass (xSimInitializeIpApis t.records ⟨initBlockVariables block memorySize, []⟩).2 := by
  rw [xSimAssignMemoryTp1, if_neg (not_not.mpr h)]

end Assign

/-! ## The total of a list -/

/-- The bytes that all blocks of the list take together. -/
def totalRequest {ω : Type u} (records : List (IpRecord ω)) : Nat :=
  (records.map fun r => if 0 < r.blkRequestSize.toNat then requestSize r.blkRequestSize.toNat else 0).sum

section
variable {ω : Type u} (records : List (IpRecord ω))

theorem queryLoop_mod (total : Nat) :
    queryLoop records total % 2 ^ 64 = (total + totalRequest records) % 2 ^ 64 := by
  induction records generalizing total with
  | nil => simp [queryLoop, totalRequest]
  | cons r rest ih =>
    rw [queryLoop, ih]
    simp only [totalRequest, map_cons, sum_cons]
    split <;> omega

theorem queryLoop_lt {total : Nat} (h : total < 2 ^ 64) :
    queryLoop records total < 2 ^ 64 := by
  induction records generalizing total with
  | nil => exact h
  | cons r rest ih =>
    rw [queryLoop]
    apply ih
    split <;> omega

theorem queryLoop_eq {total : Nat} (h : total < 2 ^ 64) :
    queryLoop records total = (total + totalRequest records) % 2 ^ 64 := by
  rw [← queryLoop_mod, mod_eq_of_lt (queryLoop_lt records h)]

theorem query_gt (t : IpTable ω) (h : sizeofSilBlockVariables + totalRequest t.records + 2048 < 2 ^ 64) :
    sizeofSilBlockVariables + totalRequest t.records < xSimQueryMemoryRequirements t := by
  simp only [sizeofSilBlockVariables] at h ⊢
  rw [xSimQueryMemoryRequirements, sizeofSilBlockVariables, queryLoop_eq _ (by norm_num),
    mod_eq_of_lt (by omega), roundUp, mod_eq_of_lt (by omega)]
  have := mod_lt (392 + totalRequest t.records) (show 0 < 2048 by norm_num)
  omega

end

/-! ## Callbacks keep the pool -/

section Callbacks

variable {size : Nat} {blocks : List Block} {w : World}

theorem RegistersApis.poolInv {f : Callback World} (hf : RegistersApis f)
    (h : PoolInv size w.mem blocks) : PoolInv size (f w).2.mem blocks := by
  have hoff : freeSpaceOffset (f w).2.mem = freeSpaceOffset w.mem :=
    ((hf.below w).mono (by omega) (by omega)).readLE_eq
  have hleft : freeSpaceLeft (f w).2.mem = freeSpaceLeft w.mem :=
    ((hf.below w).mono (by omega) (by omega)).readLE_eq
  refine ⟨by rw [hoff, hleft]; exact h.total, by rw [hoff]; exact h.tiles, fun b hb => ?_, h.room⟩
  exact (h.header b hb).of_agreeOn ((hf.above w _).mono (h.tiles.bounds_of_mem hb).1 (le_refl _))

theorem agreeOn_initApiTable {table : ApiTable} {ipId lo hi : Nat} {api : UInt64} (m : Mem)
    (h : hi ≤ 24 ∨ sizeofSilBlockVariables ≤ lo) : AgreeOn (initApiTable table ipId api m).2 m lo hi := by
  rw [initApiTable]
  split
  · exact fun _ _ _ => rfl
  · simp only [silIdListEnd, sizeofSilBlockVariables] at *
    cases table <;> exact agreeOn_writeLE (by simp only [ApiTable.offset]; omega)

theorem agreeOn_registerApis (apis : List (ApiTable × Nat × UInt64)) {lo hi : Nat} (m : Mem)
    (h : hi ≤ 24 ∨ sizeofSilBlockVariables ≤ lo) :
    AgreeOn (apis.foldl (fun m a => (initApiTable a.1 a.2.1 a.2.2 m).2) m) m lo hi := by
  induction apis generalizing m with
  | nil => exact fun _ _ _ => rfl
  | cons a rest ih => exact (ih _).trans (agreeOn_initApiTable m h)

theorem registersApis_registerApis (apis : List (ApiTable × Nat × UInt64)) (status : SilStatus) :
    RegistersApis (registerApis apis status) where
  calls _ := rfl
  below w := agreeOn_registerApis apis w.mem (Or.inl (le_refl _))
  above w _ := agreeOn_registerApis apis w.mem (Or.inr (le_refl _))

theorem IpProg.FillsData.exec {p : IpProg} {lo hi : Nat} (hp : p.FillsData lo hi)
    (h : PoolInv size w.mem blocks) (harea : ∀ a, lo ≤ a → a < hi → IpArea blocks a) :
    (p.exec w).1 = .silPass ∧ (p.exec w).2.calls = w.calls ∧ PoolInv size (p.exec w).2.mem blocks := by
  induction p generalizing w with
  | ret status => exact ⟨hp, rfl, h⟩
  | create q k _ => exact absurd hp id
  | load a k ih => exact ih (w.mem a) (hp _) h
  | store a v k ih => exact ih hp.2.2 (h.update v (harea a hp.1 hp.2.1))

theorem IpProg.CreatesAtMostOne.exec {p : IpProg} {n : Nat} (hp : p.CreatesAtMostOne n)
    (hn : n < 2 ^ 32) (h : PoolInv size w.mem blocks) (hsize : size < 2 ^ 32)
    (hroom : requestSize n < freeSpaceLeft w.mem) (hcalls : ∀ c ∈ w.calls, c.2 ≠ none) :
    (p.exec w).1 = .silPass ∧ (∀ c ∈ (p.exec w).2.calls, c.2 ≠ none) ∧
      (∃ blocks', PoolInv size (p.exec w).2.mem blocks') ∧
      freeSpaceLeft w.mem ≤ freeSpaceLeft (p.exec w).2.mem + requestSize n := by
  induction p with
  | ret status => exact ⟨hp, hcalls, ⟨blocks, h⟩, le_add_right _ _⟩
  | create q k _ =>
    obtain ⟨hle, hfill⟩ := hp
    have hmono := requestSize_mono hle hn
    have htotal := h.total
    have hgrant : requestSize q.blockSize < freeSpaceLeft w.mem := by omega
    have hplaced := h.placeBlock (q := q) (by omega) hgrant (by omega)
    have hexec : (IpProg.create q k).exec w = (k (some (freeSpaceOffset w.mem + 12))).exec
        ⟨placeBlock w.mem q, w.calls ++ [(q, some (freeSpaceOffset w.mem + 12))]⟩ := by
      rw [IpProg.exec, createInfoBlock_granted hgrant]
    have hdata : ∀ a, freeSpaceOffset w.mem + 12 ≤ a → a < freeSpaceOffset w.mem + 12 + q.blockSize →
        IpArea (blocks ++ [newBlock w.mem q]) a := by
      intro a hlo hhi
      have hgt := requestSize_gt (n := q.blockSize) (by omega)
      refine Or.inr ⟨newBlock w.mem q, by simp, ?_, ?_⟩ <;> simp only [newBlock, sizeofSilInfoBlockHeader] <;> omega
    obtain ⟨hst, hcs, hinv⟩ := (hfill (freeSpaceOffset w.mem + 12)).exec (w := ⟨placeBlock w.mem q, w.calls ++
      [(q, some (freeSpaceOffset w.mem + 12))]⟩) hplaced hdata
    rw [hexec]
    refine ⟨hst, ?_, ⟨_, hinv⟩, ?_⟩
    · intro c hc
      rw [hcs, mem_append, mem_singleton] at hc
      rcases hc with hc | rfl
      · exact hcalls c hc
      · simp
    · rw [hinv.freeSpaceLeft_eq hplaced, h.freeSpaceLeft_placed hgrant]
      omega
  | load a k ih => exact ih (w.mem a) (hp _)
  | store a v k _ => exact absurd hp id

end Callbacks

/-! ## Enough memory -/

section Enough

variable {size : Nat} {blocks : List Block}

def ApisPass (records : List (IpRecord World)) : Prop :=
  ∀ r ∈ records, ∀ f, r.apiInit = some f → RegistersApis f ∧ ∀ w, (f w).1 = .silPass

/-- The callbacks of a list: a SetInput makes at most one block of the size its record asks for, and an ApiInit
registers APIs and passes. -/
structure CallbacksFit (records : List (IpRecord World)) : Prop where
  setInput : ∀ r ∈ records, 0 < r.blkRequestSize.toNat → ∀ f, r.setInput = some f →
    ∃ p : IpProg, f = p.exec ∧ p.CreatesAtMostOne r.blkRequestSize.toNat
  apiInit : ApisPass records

theorem CallbacksFit.tail {r : IpRecord World} {rest : List (IpRecord World)} (h : CallbacksFit (r :: rest)) :
    CallbacksFit rest :=
  ⟨fun r' hr' => h.setInput r' (mem_cons_of_mem _ hr'), fun r' hr' => h.apiInit r' (mem_cons_of_mem _ hr')⟩

variable {records : List (IpRecord World)}

theorem xSimInitializeIpApis_passes {w : World} (hapis : ApisPass records)
    (h : PoolInv size w.mem blocks) :
    (xSimInitializeIpApis records w).1 = .silPass ∧ (xSimInitializeIpApis records w).2.calls = w.calls ∧
      PoolInv size (xSimInitializeIpApis records w).2.mem blocks := by
  induction records generalizing w with
  | nil => exact ⟨rfl, rfl, h⟩
  | cons r rest ih =>
    have htail : ApisPass rest := fun r' hr' => hapis r' (mem_cons_of_mem _ hr')
    rw [xSimInitializeIpApis]
    cases hf : r.apiInit with
    | none => exact ih htail h
    | some f =>
      obtain ⟨hreg, hpass⟩ := hapis r mem_cons_self f hf
      simp only [hpass w, ne_eq, not_true_eq_false, if_false]
      rw [← hreg.calls w]
      exact ih htail (hreg.poolInv h)

theorem assignLoop_passes {w : World} (hfit : CallbacksFit records)
    (h : PoolInv size w.mem blocks) (hsize : size < 2 ^ 32) (hfree : totalRequest records < freeSpaceLeft w.mem)
    (hcalls : ∀ c ∈ w.calls, c.2 ≠ none) :
    (assignLoop records .silPass w).1 = .silPass ∧ ∀ c ∈ (assignLoop records .silPass w).2.calls, c.2 ≠ none := by
  induction records generalizing w blocks with
  | nil => exact ⟨rfl, hcalls⟩
  | cons r rest ih =>
    rw [assignLoop]
    simp only [totalRequest, map_cons, sum_cons] at hfree
    by_cases hzero : r.blkRequestSize = 0
    · rw [if_pos hzero]
      exact ih hfit.tail h (by simp only [totalRequest]; omega) hcalls
    · have hpos : 0 < r.blkRequestSize.toNat := pos_of_ne_zero fun h0 => hzero (UInt32.toNat_inj.mp h0)
      have hn := r.blkRequestSize.toNat_lt
      have hgt := requestSize_gt (n := r.blkRequestSize.toNat) hn
      rw [if_pos hpos] at hfree
      rw [if_neg hzero, if_neg (by omega)]
      cases hf : r.setInput with
      | none => exact ih hfit.tail h (by simp only [totalRequest]; omega) hcalls
      | some f =>
        obtain ⟨p, rfl, hp⟩ := hfit.setInput r mem_cons_self hpos f hf
        obtain ⟨hst, hcs, ⟨blocks', hinv⟩, hleft⟩ := hp.exec hn h hsize (by omega) hcalls
        simp only [hst, ne_eq, not_true_eq_false, if_false]
        exact ih hfit.tail hinv (by simp only [totalRequest]; omega) hcs

/-- The size the host is told is enough, unless the sum of the list leaves `size_t`. -/
theorem query_is_enough (t : IpTable World) (hfit : CallbacksFit t.records)
    (hsum : sizeofSilBlockVariables + totalRequest t.records + 2048 < 2 ^ 64) (block : Mem) (memorySize : Nat)
    (hquery : xSimQueryMemoryRequirements t ≤ memorySize) (hmem : memorySize < 2 ^ 32) :
    (xSimAssignMemoryTp1 t block memorySize).1 = .silPass ∧
      ∀ c ∈ (xSimAssignMemoryTp1 t block memorySize).2.calls, c.2 ≠ none := by
  have hgt := query_gt t hsum
  have hinit : PoolInv memorySize _ _ := poolInv_initBlockVariables block (by omega) hmem
  obtain ⟨hst, hcalls, hinv⟩ := xSimInitializeIpApis_passes
    (w := ⟨initBlockVariables block memorySize, []⟩) hfit.apiInit hinit
  rw [xSimAssignMemoryTp1_of_apis_pass hst]
  refine assignLoop_passes hfit hinv hmem ?_ (by simp [hcalls])
  have htotal := hinit.total
  rw [freeSpaceOffset_initBlockVariables] at htotal
  rw [hinv.freeSpaceLeft_eq hinit]
  simp only [sizeofSilBlockVariables] at hgt
  omega

end Enough

/-- The resource manager's record, as the only one of a list, for a data block of 1000 bytes. -/
def rcMgrTable : IpTable World where
  records := [⟨silIdRcManager, 1000, some (dfXRcMgrSetInputBlk 1000).exec, none, some (initializeRcMgrApi 0x1000)⟩]
  terminator := IpRecord.listEnd
  below := by simp [silIdRcManager, silIdListEnd]
  ended := by decide

theorem callbacksFit_rcMgrTable : CallbacksFit rcMgrTable.records where
  setInput := by
    intro r hr _ f hf
    obtain rfl := mem_singleton.mp hr
    exact ⟨dfXRcMgrSetInputBlk 1000, (Option.some.inj hf).symm, le_refl _, fun _ => rfl⟩
  apiInit := by
    intro r hr f hf
    obtain rfl := mem_singleton.mp hr
    obtain rfl := Option.some.inj hf
    rw [initializeRcMgrApi_eq]
    exact ⟨registersApis_registerApis _ _, fun _ => rfl⟩

theorem query_is_enough_rcMgrTable :
    xSimQueryMemoryRequirements rcMgrTable = 2048 ∧
      (xSimAssignMemoryTp1 rcMgrTable (fun _ => 0) 2048).1 = .silPass ∧
      ∀ c ∈ (xSimAssignMemoryTp1 rcMgrTable (fun _ => 0) 2048).2.calls, c.2 ≠ none :=
  ⟨by decide, query_is_enough rcMgrTable callbacksFit_rcMgrTable (by decide) _ 2048 (by decide) (by decide)⟩

/-! ## A list too long for `size_t` -/

def greedyTable (n : Nat) : IpTable World where
  records := List.replicate n ⟨0, 0xFFFFFFFF, none, none, none⟩
  terminator := IpRecord.listEnd
  below := by
    intro r hr
    rw [(List.mem_replicate.mp hr).2]
    decide
  ended := by decide

theorem totalRequest_greedyTable (n : Nat) : totalRequest (greedyTable n).records = n * (2 ^ 32 + 12) := by
  simp only [totalRequest, greedyTable, map_replicate, sum_replicate, smul_eq_mul]
  rfl

theorem callbacksFit_greedyTable (n : Nat) : CallbacksFit (greedyTable n).records where
  setInput := by
    intro r hr _ f hf
    rw [(mem_replicate.mp hr).2] at hf
    cases hf
  apiInit := by
    intro r hr f hf
    rw [(mem_replicate.mp hr).2] at hf
    cases hf

/-- 2^32 - 12 such records add up to 2^64 + 248 with the pool's variables: the host is told 2 KB, and the first record
finds no room in them. -/
theorem query_wraps :
    CallbacksFit (greedyTable (2 ^ 32 - 12)).records ∧
      xSimQueryMemoryRequirements (greedyTable (2 ^ 32 - 12)) = 2048 ∧
      (xSimAssignMemoryTp1 (greedyTable (2 ^ 32 - 12)) (fun _ => 0) 2048).1 = .silOutOfResources := by
  refine ⟨callbacksFit_greedyTable _, ?_, ?_⟩
  · rw [xSimQueryMemoryRequirements, queryLoop_eq _ (by decide), totalRequest_greedyTable]
    decide
  · have hinit : PoolInv 2048 _ _ := poolInv_initBlockVariables (fun _ => 0) (by decide) (by decide)
    obtain ⟨hst, -, hinv⟩ := xSimInitializeIpApis_passes (w := ⟨initBlockVariables (fun _ => 0) 2048, []⟩)
      (callbacksFit_greedyTable (2 ^ 32 - 12)).apiInit hinit
    have hfree := hinv.freeSpaceLeft_eq hinit
    rw [freeSpaceLeft_initBlockVariables] at hfree
    have hcons : (greedyTable (2 ^ 32 - 12)).records =
        ⟨0, 0xFFFFFFFF, none, none, none⟩ :: List.replicate (2 ^ 32 - 13) ⟨0, 0xFFFFFFFF, none, none, none⟩ :=
      replicate_succ
    rw [xSimAssignMemoryTp1_of_apis_pass hst]
    rw [hcons] at hfree ⊢
    rw [assignLoop, if_neg (by decide), if_pos (by rw [hfree]; decide)]

end OpenSil.XSim
