import OpenSil.XSim.AssignMemory

/-! # Too little memory -/

open OpenSil.Bytes OpenSil.Loop OpenSil.Tiling List Nat Option

namespace OpenSil.XSim

structure BlkIp where
  ipID : Fin silIdListEnd
  blkRequestSize : UInt32
  /-- The instance and the revisions of the block that SetInput makes. -/
  setInput : Option (UInt16 × UInt8 × UInt8)
  /-- What ApiInit registers, and the status it returns. -/
  apiInit : Option (List (ApiTable × Nat × UInt64) × SilStatus)

def setInputBlk (q : BlockRequest) : IpProg := .create q fun _ => .ret .silPass

namespace BlkIp

def request (ip : BlkIp) : Option BlockRequest :=
  ip.setInput.map fun s => ⟨UInt32.ofNat ip.ipID, ip.blkRequestSize.toNat, s.1, s.2.1, s.2.2⟩

def record (ip : BlkIp) : IpRecord World where
  ipID := ip.ipID
  blkRequestSize := ip.blkRequestSize
  setInput := ip.request.map fun q => (setInputBlk q).exec
  initializeFn := none
  apiInit := ip.apiInit.map fun a => registerApis a.1 a.2

def table (ips : List BlkIp) : IpTable World where
  records := ips.map record
  terminator := IpRecord.listEnd
  below := by
    intro r hr
    obtain ⟨ip, -, rfl⟩ := List.mem_map.mp hr
    exact ip.ipID.isLt
  ended := le_refl _

def requests (ips : List BlkIp) : List BlockRequest :=
  ips.filterMap fun ip => if ip.blkRequestSize = 0 then none else ip.request

end BlkIp

open BlkIp

/-- The call returned a block that `xUslFindStructure` finds, and that lies inside the host's memory. -/
def HasBlock (m : Mem) (memorySize : Nat) (c : BlockRequest × Option Nat) : Prop :=
  ∃ p, c.2 = some p ∧ Finds m c.1.blockTag c.1.blockInstance (some p) ∧ sizeofSilInfoBlockHeader ≤ p ∧
    p - sizeofSilInfoBlockHeader + requestSize c.1.blockSize ≤ memorySize

/-- If the host is told that all is well, every request has its block. -/
def ShortageReported (ips : List BlkIp) (block : Mem) (memorySize : Nat) : Prop :=
  let r := xSimAssignMemoryTp1 (table ips) block memorySize
  r.1 = .silPass →
    List.Forall₂ (fun q c => c.1 = q ∧ HasBlock r.2.mem memorySize c) (requests ips) r.2.calls

/-! ## Packing -/

/-- Handing out `free` bytes in list order, and nothing to a request that does not fit, some record asks for more than
is left. -/
def RunsShort : List BlkIp → Nat → Prop
  | [], _ => False
  | ip :: rest, free =>
    if ip.blkRequestSize = 0 then RunsShort rest free
    else if free < ip.blkRequestSize.toNat then True
    else
      match ip.request with
      | none => RunsShort rest free
      | some q => RunsShort rest (if free ≤ requestSize q.blockSize then free else free - requestSize q.blockSize)

/-- The calls that hand out `free` bytes from `offset` on, in order: a request that does not fit gets nothing. -/
def pack : List BlockRequest → Nat → Nat → List (BlockRequest × Option Nat)
  | [], _, _ => []
  | q :: rest, offset, free =>
    if free ≤ requestSize q.blockSize then (q, none) :: pack rest offset free
    else (q, some (offset + 12)) :: pack rest (offset + requestSize q.blockSize) (free - requestSize q.blockSize)

def granted (calls : List (BlockRequest × Option Nat)) : List Block :=
  calls.filterMap fun c => c.2.map fun p => ⟨c.1, p - 12, requestSize c.1.blockSize⟩

def need (qs : List BlockRequest) : Nat := (qs.map fun q => requestSize q.blockSize).sum

@[simp] theorem need_cons (q : BlockRequest) (qs : List BlockRequest) :
    need (q :: qs) = requestSize q.blockSize + need qs := rfl

theorem pack_map_fst (qs : List BlockRequest) (offset free : Nat) : (pack qs offset free).map Prod.fst = qs := by
  induction qs generalizing offset free with
  | nil => rfl
  | cons q qs ih =>
    rw [pack]
    split <;> rw [map_cons, ih]

def layOut : List BlockRequest → Nat → List Block
  | [], _ => []
  | q :: rest, offset => ⟨q, offset, requestSize q.blockSize⟩ :: layOut rest (offset + requestSize q.blockSize)

def Block.call (b : Block) : BlockRequest × Option Nat := (b.request, some (b.offset + 12))

open Block

theorem layOut_map_request (qs : List BlockRequest) (offset : Nat) : (layOut qs offset).map Block.request = qs := by
  induction qs generalizing offset with
  | nil => rfl
  | cons q qs ih => rw [layOut, map_cons, ih]

theorem tiles_layOut (qs : List BlockRequest) (offset : Nat) :
    Tiles Block.offset Block.size offset (layOut qs offset) (offset + need qs) := by
  induction qs generalizing offset with
  | nil => rfl
  | cons q qs ih =>
    refine ⟨rfl, ?_⟩
    rw [need_cons, ← add_assoc]
    exact ih _

variable {qs : List BlockRequest} {offset free : Nat}

theorem pack_of_fits (h : qs = [] ∨ need qs < free) : pack qs offset free = (layOut qs offset).map call := by
  induction qs generalizing offset free with
  | nil => rfl
  | cons q qs ih =>
    have hlt : requestSize q.blockSize + need qs < free := by simpa using h
    rw [pack, if_neg (by omega), layOut, map_cons, ih (Or.inr (by omega))]
    rfl

variable {bs : List Block}

theorem granted_map_call (h : ∀ b ∈ bs, b.size = requestSize b.request.blockSize) :
    granted (bs.map call) = bs := by
  induction bs with
  | nil => rfl
  | cons b bs ih =>
    have hb := h b mem_cons_self
    obtain ⟨q, offset, size⟩ := b
    simp only at hb
    have htail : granted (bs.map call) = bs := ih fun c hc => h c (mem_cons_of_mem _ hc)
    simp only [granted] at htail
    simp [granted, call, htail, hb]

variable {b : Block}

theorem size_of_mem_layOut {offset : Nat} (h : b ∈ layOut qs offset) : b.size = requestSize b.request.blockSize := by
  induction qs generalizing offset with
  | nil => simp [layOut] at h
  | cons q qs ih =>
    rcases mem_cons.mp h with rfl | h
    · rfl
    · exact ih h

theorem fits_of_pack (h : ∀ c ∈ pack qs offset free, c.2 ≠ none) : qs = [] ∨ need qs < free := by
  induction qs generalizing offset free with
  | nil => exact Or.inl rfl
  | cons q qs ih =>
    right
    rw [pack] at h
    split at h
    · exact absurd rfl (h _ mem_cons_self)
    · rw [need_cons]
      rcases ih fun c hc => h c (mem_cons_of_mem _ hc) with rfl | hlt
      · simp only [need, map_nil, sum_nil]
        omega
      · omega

/-! ## The loop hands out what fits -/

section Loop

variable {size : Nat} {blocks : List Block}

theorem setInputBlk_exec (q : BlockRequest) (w : World) :
    (setInputBlk q).exec w =
      (.silPass, ⟨(createInfoBlock w.mem q).2, w.calls ++ [(q, (createInfoBlock w.mem q).1)]⟩) := rfl

/-- What the loop does with the rest of a list, as long as `FreeSpaceOffset` stays below 2^32. -/
structure Assigned (size : Nat) (blocks : List Block) (ips : List BlkIp) (w : World) (r : SilStatus × World) :
    Prop where
  short : RunsShort ips (freeSpaceLeft w.mem) → r.1 = .silOutOfResources
  status : ¬ RunsShort ips (freeSpaceLeft w.mem) → r.1 = .silPass
  calls : ¬ RunsShort ips (freeSpaceLeft w.mem) →
    r.2.calls = w.calls ++ pack (requests ips) (freeSpaceOffset w.mem) (freeSpaceLeft w.mem)
  inv : ¬ RunsShort ips (freeSpaceLeft w.mem) → PoolInv size r.2.mem
    (blocks ++ granted (pack (requests ips) (freeSpaceOffset w.mem) (freeSpaceLeft w.mem)))

theorem request_blockSize {ip : BlkIp} {q : BlockRequest} (h : ip.request = some q) :
    q.blockSize = ip.blkRequestSize.toNat := by
  obtain ⟨s, -, rfl⟩ := map_eq_some_iff.mp h
  rfl

theorem assignLoop_assigned (ips : List BlkIp) (w : World) (blocks : List Block) (h : PoolInv size w.mem blocks)
    (hfit : size < 2 ^ 32 ∨ freeSpaceOffset w.mem + need (requests ips) < 2 ^ 32) :
    Assigned size blocks ips w (assignLoop (ips.map record) .silPass w) := by
  induction ips generalizing w blocks with
  | nil => exact ⟨False.elim, fun _ => rfl, fun _ => by simp [requests, pack, assignLoop],
      fun _ => by simpa [requests, pack, granted, assignLoop] using h⟩
  | cons ip ips ih =>
    rw [map_cons, assignLoop]
    by_cases hzero : ip.blkRequestSize = 0
    · -- No request: the loop goes on as it is.
      have hreq : requests (ip :: ips) = requests ips := by simp [requests, hzero]
      rw [if_pos (show ip.record.blkRequestSize = 0 from hzero)]
      have := ih w blocks h (by rwa [hreq] at hfit)
      constructor <;> simp only [RunsShort, if_pos hzero, hreq]
      exacts [this.short, this.status, this.calls, this.inv]
    rw [if_neg (show ¬ ip.record.blkRequestSize = 0 from hzero)]
    by_cases hshort : freeSpaceLeft w.mem < ip.blkRequestSize.toNat
    · rw [if_pos (show freeSpaceLeft w.mem < ip.record.blkRequestSize.toNat from hshort)]
      have hruns : RunsShort (ip :: ips) (freeSpaceLeft w.mem) := by simp [RunsShort, hzero, hshort]
      exact ⟨fun _ => rfl, fun hn => absurd hruns hn, fun hn => absurd hruns hn, fun hn => absurd hruns hn⟩
    rw [if_neg (show ¬ freeSpaceLeft w.mem < ip.record.blkRequestSize.toNat from hshort)]
    cases hq : ip.request with
    | none =>
      have hreq : requests (ip :: ips) = requests ips := by simp [requests, hzero, hq]
      have hset : ip.record.setInput = none := by simp [record, hq]
      rw [hset]
      have := ih w blocks h (by rwa [hreq] at hfit)
      constructor <;> simp only [RunsShort, if_neg hzero, if_neg hshort, hq, hreq]
      exacts [this.short, this.status, this.calls, this.inv]
    | some q =>
      have hreq : requests (ip :: ips) = q :: requests ips := by simp [requests, hzero, hq]
      have hset : ip.record.setInput = some (setInputBlk q).exec := by simp [record, hq]
      have hsize := request_blockSize hq
      have hlt := ip.blkRequestSize.toNat_lt
      rw [hset]
      simp only [setInputBlk_exec, ne_eq, not_true_eq_false, if_false]
      rw [hreq, need_cons] at hfit
      by_cases hroom : requestSize q.blockSize < freeSpaceLeft w.mem
      · -- Granted: the free space moves over the new block.
        have htotal := h.total
        have hfit' : freeSpaceOffset w.mem + requestSize q.blockSize < 2 ^ 32 := by omega
        have hplaced := h.placeBlock (q := q) (by omega) hroom hfit'
        have hoff := h.freeSpaceOffset_placed hfit'
        have hleft := h.freeSpaceLeft_placed hroom
        rw [createInfoBlock_granted hroom]
        have := ih ⟨placeBlock w.mem q, w.calls ++ [(q, some (freeSpaceOffset w.mem + 12))]⟩ _ hplaced
          (by simp only [hoff]; omega)
        constructor <;>
          simp only [RunsShort, if_neg hzero, if_neg hshort, hq, hreq, pack, if_neg (not_le.mpr hroom)]
        · simpa only [hleft] using this.short
        · simpa only [hleft] using this.status
        · simpa only [hleft, hoff, List.append_assoc, List.singleton_append] using this.calls
        · simpa only [hleft, hoff, List.append_assoc, List.singleton_append, granted, newBlock,
            List.filterMap_cons, Option.map_some, Nat.add_sub_cancel] using this.inv
      · -- Refused: the callback passes all the same.
        rw [createInfoBlock_refused (not_lt.mp hroom)]
        have := ih ⟨w.mem, w.calls ++ [(q, none)]⟩ blocks h (by simp only; omega)
        constructor <;>
          simp only [RunsShort, if_neg hzero, if_neg hshort, hq, hreq, pack, if_pos (not_lt.mp hroom)]
        · exact this.short
        · exact this.status
        · simpa only [append_assoc, singleton_append] using this.calls
        · simpa only [granted, filterMap_cons, map_none] using this.inv

def ApiInitFails (ips : List BlkIp) : Prop := ∃ ip ∈ ips, ∃ a, ip.apiInit = some a ∧ a.2 ≠ .silPass

variable {ips : List BlkIp}

theorem xSimInitializeIpApis_fails (w : World) (hf : ApiInitFails ips) :
    (xSimInitializeIpApis (ips.map record) w).1 ≠ .silPass := by
  induction ips generalizing w with
  | nil => obtain ⟨ip, hip, -⟩ := hf; simp at hip
  | cons ip ips ih =>
    obtain ⟨ip', hip', a', ha', hne⟩ := hf
    rw [map_cons, xSimInitializeIpApis]
    cases ha : ip.apiInit with
    | none =>
      have hrec : ip.record.apiInit = none := by simp [record, ha]
      rw [hrec]
      rcases mem_cons.mp hip' with rfl | hip'
      · rw [ha] at ha'; cases ha'
      · exact ih w ⟨ip', hip', a', ha', hne⟩
    | some a =>
      have hrec : ip.record.apiInit = some (registerApis a.1 a.2) := by simp [record, ha]
      rw [hrec]
      by_cases hst : a.2 = .silPass
      · simp only [registerApis, hst, ne_eq, not_true_eq_false, if_false]
        rcases mem_cons.mp hip' with rfl | hip'
        · rw [ha] at ha'; cases ha'; exact absurd hst hne
        · exact ih _ ⟨ip', hip', a', ha', hne⟩
      · simp only [registerApis, ne_eq, hst, not_false_eq_true, if_true]

theorem apisPass_of_not_fails (h : ¬ ApiInitFails ips) : ApisPass (ips.map record) := by
  intro r hr f hf
  obtain ⟨ip, hip, rfl⟩ := mem_map.mp hr
  obtain ⟨a, ha, rfl⟩ := map_eq_some_iff.mp hf
  refine ⟨registersApis_registerApis a.1 a.2, fun w => ?_⟩
  by_contra hne
  exact h ⟨ip, hip, a, ha, hne⟩

end Loop

/-! ## Finding every block -/

def BlockRequest.key (q : BlockRequest) : UInt32 × UInt16 := (q.blockTag, q.blockInstance)

theorem firstData_cons (b : Block) (bs : List Block) (ipId : UInt32) (instanceNum : UInt16) :
    firstData (b :: bs) ipId instanceNum =
      if b.Is ipId instanceNum then some (b.offset + 12) else firstData bs ipId instanceNum := by
  rw [firstData, find?_cons]
  by_cases h : b.Is ipId instanceNum <;> simp [h, firstData, sizeofSilInfoBlockHeader]

theorem firstData_all_iff {lo hi : Nat} (h : Tiles Block.offset Block.size lo bs hi) (hpos : ∀ b ∈ bs, 0 < b.size) :
    (∀ b ∈ bs, firstData bs b.request.blockTag b.request.blockInstance = some (b.offset + 12)) ↔
      (bs.map fun b => b.request.key).Nodup := by
  induction bs generalizing lo with
  | nil => simp
  | cons b bs ih =>
    have hself : b.Is b.request.blockTag b.request.blockInstance := ⟨rfl, rfl⟩
    have hbs := ih h.2 fun c hc => hpos c (mem_cons_of_mem _ hc)
    have hdiff : ∀ c ∈ bs, b.offset + 12 ≠ c.offset + 12 := by
      intro c hc
      have := (h.2.bounds_of_mem hc).1
      have := hpos b mem_cons_self
      have := h.1
      omega
    have hkey : ∀ c ∈ bs, (b.Is c.request.blockTag c.request.blockInstance ↔ c.request.key = b.request.key) := by
      intro c _
      simp only [Is, BlockRequest.key, Prod.mk.injEq, eq_comm]
    rw [map_cons, nodup_cons, ← hbs, forall_mem_cons]
    simp only [firstData_cons, hself, if_true, true_and, List.mem_map, not_exists, not_and]
    constructor
    · grind
    · simp_all

theorem forall₂_map_fst_iff {α β : Type} (p : α × β → Prop) (l : List (α × β)) :
    Forall₂ (fun a c => c.1 = a ∧ p c) (l.map Prod.fst) l ↔ ∀ c ∈ l, p c := by
  induction l with
  | nil => simp
  | cons c l ih => simp [forall₂_cons, ih]

/-! ## When a shortage is reported -/

variable {size msize : Nat} {m : Mem}

theorem hasBlock_call_iff (hinv : PoolInv size m bs) (hsize : b.size = requestSize b.request.blockSize) :
    HasBlock m msize b.call ↔
      firstData bs b.request.blockTag b.request.blockInstance = some (b.offset + 12) ∧
        b.offset + b.size ≤ msize := by
  have hfinds := hinv.finds b.request.blockTag b.request.blockInstance
  simp only [HasBlock, call, some.injEq, exists_eq_left', sizeofSilInfoBlockHeader, le_add_left,
    true_and, hsize]
  refine and_congr_left fun _ => ⟨fun hf => Returns.unique hfinds hf, fun he => ?_⟩
  rwa [he] at hfinds

theorem hasBlock_layOut_iff (hinv : PoolInv size m (layOut qs sizeofSilBlockVariables)) :
    (∀ c ∈ (layOut qs sizeofSilBlockVariables).map Block.call, HasBlock m msize c) ↔
      (qs.map BlockRequest.key).Nodup ∧ (qs = [] ∨ sizeofSilBlockVariables + need qs ≤ msize) := by
  have htiles := tiles_layOut qs sizeofSilBlockVariables
  have hpos : ∀ b ∈ layOut qs sizeofSilBlockVariables, 0 < b.size := by
    intro b hb
    have := hinv.room b hb
    simp only [sizeofSilInfoBlockHeader] at this
    omega
  have hkeys : (layOut qs sizeofSilBlockVariables).map (fun b => b.request.key) = qs.map BlockRequest.key := by
    conv_rhs => rw [← layOut_map_request qs sizeofSilBlockVariables, List.map_map]
    rfl
  have hempty : layOut qs sizeofSilBlockVariables = [] ↔ qs = [] := by
    cases qs <;> simp [layOut]
  have hcall : ∀ b ∈ layOut qs sizeofSilBlockVariables, (HasBlock m msize b.call ↔ _) :=
    fun b hb => hasBlock_call_iff hinv (size_of_mem_layOut hb)
  rw [List.forall_mem_map, forall₂_congr hcall, forall₂_and, firstData_all_iff htiles hpos, htiles.ends_le_iff, hkeys,
    hempty]

theorem hasBlock_pack_iff {size msize free : Nat}
    (hinv : PoolInv size m (granted (pack qs sizeofSilBlockVariables free))) :
    (∀ c ∈ pack qs sizeofSilBlockVariables free, HasBlock m msize c) ↔
      qs = [] ∨ (need qs < free ∧ sizeofSilBlockVariables + need qs ≤ msize ∧
        (qs.map BlockRequest.key).Nodup) := by
  by_cases hfits : qs = [] ∨ need qs < free
  · rw [pack_of_fits hfits] at hinv ⊢
    rw [granted_map_call fun b hb => size_of_mem_layOut hb] at hinv
    rw [hasBlock_layOut_iff hinv]
    by_cases hnil : qs = []
    · simp [hnil]
    · grind
  · constructor
    · intro hall
      have hsome : ∀ c ∈ pack qs sizeofSilBlockVariables free, c.2 ≠ none := by
        intro c hc
        obtain ⟨p, hp, -⟩ := hall c hc
        simp [hp]
      exact absurd (fits_of_pack hsome) hfits
    · rintro (h | ⟨h, -⟩)
      · exact absurd (Or.inl h) hfits
      · exact absurd (Or.inr h) hfits

/-- An IP like the resource manager, with a data block of 100 bytes. -/
def blkIp100 : BlkIp := ⟨⟨silIdRcManager, by decide⟩, 100, some (0, 0, 1), none⟩

end OpenSil.XSim
