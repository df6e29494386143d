import OpenSil.RcMgr.Reserve

/-! # What any sequence of reservations keeps -/

namespace OpenSil.RcMgr

open Word List UInt64 MmioManager MmioRegion

/-! ## One region -/

def MmioRegion.nonPciPool (r : MmioRegion) : Bump.Pool :=
  ⟨r.baseNonPci.toNat, r.sizeNonPci.toNat, r.usedSizeNonPci.toNat⟩

/-- What is used is within the pool, and the pool within 64 bits. -/
structure MmioRegion.Sound (r : MmioRegion) : Prop where
  used_le : r.usedSizeNonPci.toNat ≤ r.sizeNonPci.toNat
  end_lt : r.baseNonPci.toNat + r.sizeNonPci.toNat < 2 ^ 64
  base_pos : 0 < r.sizeNonPci.toNat → 0 < r.baseNonPci.toNat

open Bump

section
variable {r : MmioRegion} {length mask : UInt64} {k : Nat} {t : MmioType}

theorem MmioRegion.Sound.toNat_next (h : r.Sound) :
    (r.baseNonPci + r.usedSizeNonPci).toNat = r.baseNonPci.toNat + r.usedSizeNonPci.toNat := by
  have h1 := h.used_le
  have h2 := h.end_lt
  rw [UInt64.toNat_add]
  omega

theorem MmioRegion.Sound.toNat_rest (h : r.Sound) :
    (r.sizeNonPci - r.usedSizeNonPci).toNat = r.sizeNonPci.toNat - r.usedSizeNonPci.toNat :=
  toNat_sub_eq h.used_le

section
variable (h : r.Sound) (hmask : mask.toNat + 1 = 2 ^ k) (ht : t.kind = some .nonPci)
include h hmask ht

theorem toNat_fabricGetRemainingSize :
    (fabricGetRemainingSizeForThisRegion r mask t).toNat = r.nonPciPool.room mask.toNat := by
  have hused := h.used_le
  have hend := h.end_lt
  have hgap := add_toNat_alignUp_sub (r.baseNonPci + r.usedSizeNonPci) hmask
  rw [h.toNat_next] at hgap
  unfold fabricGetRemainingSizeForThisRegion Pool.room nonPciPool
  simp only [ht, MmioRegion.base, MmioRegion.size, MmioRegion.usedSize]
  split_ifs with hfit
  · rw [UInt64.toNat_sub_of_le _ _ hfit, h.toNat_rest]
    rw [le_iff_toNat_le, h.toNat_rest] at hfit
    split at hgap <;> omega
  · rw [le_iff_toNat_le, h.toNat_rest] at hfit
    rw [UInt64.toNat_zero]
    split at hgap
    · omega
    · -- The next multiple is out of the address space, and so behind the pool.
      have hfar := le_roundUp_of_wrap hmask (not_lt.mp ‹_›)
      omega

theorem fabricGetBaseAddress_fits (hlen : 0 < length.toNat) (hfit : length.toNat ≤ r.nonPciPool.room mask.toNat) :
    ∃ base used, fabricGetBaseAddress r length mask t = (base, { r with usedSizeNonPci := used }) ∧
      base.toNat = roundUp (r.baseNonPci.toNat + r.usedSizeNonPci.toNat) mask.toNat ∧ base &&& mask = 0 ∧
      r.baseNonPci.toNat + used.toNat = base.toNat + length.toNat := by
  have hused := h.used_le
  have hend := h.end_lt
  have hpos := h.base_pos
  have hle := le_roundUp (r.baseNonPci.toNat + r.usedSizeNonPci.toNat) mask.toNat
  unfold Pool.room nonPciPool at hfit
  simp only at hfit
  have hnowrap : r.baseNonPci.toNat + r.usedSizeNonPci.toNat + mask.toNat < 2 ^ 64 := by
    by_contra hwrap
    have := le_roundUp_of_wrap hmask (not_lt.mp hwrap)
    omega
  have hup := toNat_alignUp (r.baseNonPci + r.usedSizeNonPci) hmask
  rw [h.toNat_next, if_pos hnowrap] at hup
  -- The gap in front of the range is taken with it.
  have hadd : (length + alignUp (r.baseNonPci + r.usedSizeNonPci) mask).toNat =
      length.toNat + roundUp (r.baseNonPci.toNat + r.usedSizeNonPci.toNat) mask.toNat := by
    rw [UInt64.toNat_add, hup]
    omega
  have htake : (length + alignUp (r.baseNonPci + r.usedSizeNonPci) mask - (r.baseNonPci + r.usedSizeNonPci)).toNat =
      length.toNat + roundUp (r.baseNonPci.toNat + r.usedSizeNonPci.toNat) mask.toNat -
        (r.baseNonPci.toNat + r.usedSizeNonPci.toNat) := by
    rw [toNat_sub_eq (by rw [hadd, h.toNat_next]; omega), hadd, h.toNat_next]
  refine ⟨alignUp (r.baseNonPci + r.usedSizeNonPci) mask, r.usedSizeNonPci +
    (length + alignUp (r.baseNonPci + r.usedSizeNonPci) mask - (r.baseNonPci + r.usedSizeNonPci)), ?_, hup,
    alignUp_and_mask _ _, ?_⟩
  · have hsome : r.baseNonPci + r.usedSizeNonPci ≠ 0 ∧ r.sizeNonPci - r.usedSizeNonPci ≠ 0 := by
      simp only [ne_eq, ← UInt64.toNat_inj, h.toNat_next, h.toNat_rest, UInt64.toNat_zero]
      omega
    have hroom : length + alignUp (r.baseNonPci + r.usedSizeNonPci) mask - (r.baseNonPci + r.usedSizeNonPci) ≤
        r.sizeNonPci - r.usedSizeNonPci := by
      rw [le_iff_toNat_le, htake, h.toNat_rest]
      omega
    unfold fabricGetBaseAddress
    rw [ht]
    exact (if_pos hsome).trans (if_pos hroom)
  · rw [UInt64.toNat_add, htake, hup]
    omega

end

end

/-! ## The manager -/

def RegionId.InGrid (id : RegionId) : Prop := id.socket < 2 ∧ id.rb < 20

def MmioManager.pool (m : MmioManager) (id : RegionId) : Bump.Pool := (m.region id).nonPciPool

def MmioManager.withUsed (m : MmioManager) (id : RegionId) (used : UInt64) : MmioManager :=
  m.setRegion id { m.region id with usedSizeNonPci := used }

section
variable (m : MmioManager) (id id' : RegionId) (r : MmioRegion)

theorem region_setRegion : (m.setRegion id r).region id' = if id' = id then r else m.region id' := by
  obtain ⟨above, socket, rb⟩ := id
  obtain ⟨above', socket', rb'⟩ := id'
  unfold setRegion region Table.set
  cases above <;> cases above' <;> simp

@[simp] theorem setRegion_allocateBelow :
    (m.setRegion id r).allocateMmioBelow4GOnThisRb = m.allocateMmioBelow4GOnThisRb := by
  unfold setRegion
  split <;> rfl

@[simp] theorem setRegion_has2nd : (m.setRegion id r).primaryRbHas2ndMmioBelow4G = m.primaryRbHas2ndMmioBelow4G := by
  unfold setRegion
  split <;> rfl

@[simp] theorem setRegion_secondRegion : (m.setRegion id r).secondRegion = m.secondRegion := by
  unfold setRegion
  split <;> rfl

end

def eligible (df : DfAnswers) (m : MmioManager) (req : Request) : List RegionId :=
  match resolveTarget df req.target with
  | none => []
  | some (socket, rb) =>
    if req.attributes.mmioType = .nonPciDeviceBelow4G then
      if m.allocateMmioBelow4GOnThisRb socket.toNat rb.toNat then
        ⟨false, socket.toNat, rb.toNat⟩ ::
          if m.primaryRbHas2ndMmioBelow4G ∧ socket = df.primarySocket ∧ rb = df.primaryRootBridge then [m.secondRegion]
          else []
      else []
    else if m.allocateMmioAbove4GOnThisRb socket.toNat rb.toNat then [⟨true, socket.toNat, rb.toNat⟩]
    else []

/-- A request with a target in the grid, a length, a type for devices that are not on PCI, and a mask. -/
structure Request.Admissible (df : DfAnswers) (req : Request) : Prop where
  length_ne : req.length ≠ 0
  type : req.attributes.mmioType = .nonPciDeviceBelow4G ∨ req.attributes.mmioType = .nonPciDeviceAbove4G
  mask : IsMask req.alignment
  target : ∃ socket rb, resolveTarget df req.target = some (socket, rb) ∧ socket < maxSocketsSupported ∧
    rb < dfXMaxRbsPerSocket

def MmioManager.room (m : MmioManager) (req : Request) (id : RegionId) : Nat :=
  (m.pool id).room req.alignment.toNat

/-- A request succeeds where there is room, gets aligned and unused space, and else changes nothing. -/
structure Reserves (ids : List RegionId) (m : MmioManager) (req : Request) (out : Outcome) (m' : MmioManager) :
    Prop where
  succeeds_iff : out.status = .silPass ↔ ∃ id ∈ ids, req.length.toNat ≤ m.room req id
  granted : out.status = .silPass → ∃ id ∈ ids, ∃ used,
    m' = m.withUsed id used ∧ out.length = req.length ∧ out.baseAddress &&& req.alignment = 0 ∧
    (m.pool id).base + (m.pool id).used ≤ out.baseAddress.toNat ∧
    out.baseAddress.toNat + req.length.toNat ≤ (m.pool id).base + (m.pool id).size ∧
    (m.pool id).base + used.toNat = out.baseAddress.toNat + req.length.toNat
  failed : out.status ≠ .silPass → m' = m
  shortage : out.status = .silOutOfResources → out.length.toNat = (ids.map (m.room req)).foldr max 0

/-! ## One call -/

structure Candidates.For (c : Candidates) (ids : List RegionId) (m : MmioManager) (req : Request) : Prop where
  first : c.mmioRegion ∈ ids ∧ c.sizeA.toNat = m.room req c.mmioRegion
  second : ∀ id, c.secondMmioRegion = some id → id ∈ ids ∧ c.sizeB.toNat = m.room req id
  all : ∀ id ∈ ids, id = c.mmioRegion ∨ c.secondMmioRegion = some id
  most : max c.sizeA.toNat c.sizeB.toNat = (ids.map (m.room req)).foldr max 0

section
variable {ids : List RegionId} {m : MmioManager} {req : Request} {c : Candidates} {k : Nat} {id : RegionId}

theorem take_fits (hsound : (m.region id).Sound) (hmask : req.alignment.toNat + 1 = 2 ^ k)
    (ht : req.attributes.mmioType.kind = some .nonPci) (hlen : 0 < req.length.toNat)
    (hfit : req.length.toNat ≤ m.room req id) :
    ∃ base used, m.take id req = (base, m.withUsed id used) ∧ base ≠ 0 ∧ base &&& req.alignment = 0 ∧
      (m.pool id).base + (m.pool id).used ≤ base.toNat ∧
      base.toNat + req.length.toNat ≤ (m.pool id).base + (m.pool id).size ∧
      (m.pool id).base + used.toNat = base.toNat + req.length.toNat := by
  obtain ⟨base, used, htake, hbase, haligned, hused⟩ := fabricGetBaseAddress_fits hsound hmask ht hlen hfit
  have hle := le_roundUp ((m.region id).baseNonPci.toNat + (m.region id).usedSizeNonPci.toNat) req.alignment.toNat
  have hpos := hsound.base_pos
  unfold room Pool.room pool nonPciPool at hfit
  simp only at hfit
  refine ⟨base, used, ?_, ?_, haligned, ?_, ?_, hused⟩
  · unfold MmioManager.take
    rw [htake]
    rfl
  · rw [ne_eq, ← UInt64.toNat_inj, UInt64.toNat_zero]
    omega
  · exact hbase ▸ hle
  · unfold pool nonPciPool
    simp only
    omega

theorem takeFirstFit_cases (hc : c.For ids m req) :
    (∃ id ∈ ids, req.length.toNat ≤ m.room req id ∧ takeFirstFit m req c = m.take id req) ∨
    ((∀ id ∈ ids, m.room req id < req.length.toNat) ∧ takeFirstFit m req c = (0, m)) := by
  unfold takeFirstFit
  by_cases hA : req.length ≤ c.sizeA
  · rw [if_pos hA]
    rw [le_iff_toNat_le, hc.first.2] at hA
    exact .inl ⟨_, hc.first.1, hA, rfl⟩
  · rw [if_neg hA]
    rw [le_iff_toNat_le, hc.first.2, not_le] at hA
    cases hsecond : c.secondMmioRegion with
    | none =>
      refine .inr ⟨fun id hid => ?_, rfl⟩
      rcases hc.all id hid with rfl | h
      · exact hA
      · simp [hsecond] at h
    | some second =>
      obtain ⟨hmem, hsize⟩ := hc.second second hsecond
      by_cases hB : req.length ≤ c.sizeB
      · simp only [if_pos hB]
        rw [le_iff_toNat_le, hsize] at hB
        exact .inl ⟨second, hmem, hB, rfl⟩
      · refine .inr ⟨fun id hid => ?_, by simp only [if_neg hB]⟩
        rw [le_iff_toNat_le, hsize, not_le] at hB
        rcases hc.all id hid with rfl | h
        · exact hA
        · rw [hsecond, Option.some.injEq] at h
          exact h ▸ hB

theorem finishReserve_reserves (hc : c.For ids m req) (hsound : ∀ id ∈ ids, (m.region id).Sound)
    (hmask : req.alignment.toNat + 1 = 2 ^ k) (ht : req.attributes.mmioType.kind = some .nonPci)
    (hlen : 0 < req.length.toNat) :
    Reserves ids m req (finishReserve req c (takeFirstFit m req c)).1 (finishReserve req c (takeFirstFit m req c)).2 := by
  rcases takeFirstFit_cases hc with ⟨id, hid, hfit, htaken⟩ | ⟨hshort, htaken⟩
  · obtain ⟨base, used, htake, hne, haligned, hstart, hend, hused⟩ := take_fits (hsound id hid) hmask ht hlen hfit
    unfold finishReserve
    rw [htaken, htake, if_neg hne]
    exact ⟨iff_of_true rfl ⟨id, hid, hfit⟩, fun _ => ⟨id, hid, used, rfl, rfl, haligned, hstart, hend, hused⟩,
      fun h => absurd rfl h, by simp⟩
  · unfold finishReserve
    rw [htaken, if_pos rfl]
    refine ⟨iff_of_false (by simp) ?_, by simp, fun _ => rfl, fun _ => ?_⟩
    · rintro ⟨id, hid, hfit⟩
      exact absurd hfit (not_le.mpr (hshort id hid))
    · rw [toNat_atLeast]
      exact hc.most

theorem aborted_reserves : Reserves [] m req (req.fails .silAborted) m :=
  ⟨by simp [Request.fails], by simp [Request.fails], fun _ => rfl, by simp [Request.fails]⟩

end

/-- What every call keeps besides the bump invariant: sound regions and a second region that is no one's own. -/
structure MmioManager.Sound (m : MmioManager) : Prop where
  region : ∀ id : RegionId, id.InGrid → (m.region id).Sound
  second : m.primaryRbHas2ndMmioBelow4G →
    m.secondRegion.InGrid ∧ m.allocateMmioBelow4GOnThisRb m.secondRegion.socket m.secondRegion.rb = false

variable {m : MmioManager}

theorem MmioManager.Sound.used_le (hm : m.Sound) (id : RegionId) (hid : id.InGrid) :
    (m.region id).usedSizeNonPci ≤ (m.region id).sizeNonPci :=
  le_iff_toNat_le.mpr (hm.region id hid).used_le

section
variable {df : DfAnswers} {m : MmioManager} {req : Request}

section
variable {k : Nat} {socket rb : UInt8} (hm : m.Sound) (hmask : req.alignment.toNat + 1 = 2 ^ k)
  (ht : req.attributes.mmioType.kind = some .nonPci)
include hm hmask ht

theorem toNat_remainingSize {id : RegionId} (hid : id.InGrid) : (m.remainingSize id req).toNat = m.room req id :=
  toNat_fabricGetRemainingSize (hm.region id hid) hmask ht

theorem candidatesBelow4G_for (hown : RegionId.InGrid ⟨false, socket.toNat, rb.toNat⟩) :
    (candidatesBelow4G df m socket rb req).For
      (⟨false, socket.toNat, rb.toNat⟩ ::
        if m.primaryRbHas2ndMmioBelow4G ∧ socket = df.primarySocket ∧ rb = df.primaryRootBridge then [m.secondRegion]
        else []) m req := by
  have hA := toNat_remainingSize hm hmask ht hown
  unfold candidatesBelow4G
  by_cases hprimary : m.primaryRbHas2ndMmioBelow4G ∧ socket = df.primarySocket ∧ rb = df.primaryRootBridge
  · have hB := toNat_remainingSize hm hmask ht (hm.second hprimary.1).1
    simp only [if_pos hprimary]
    split
    · exact ⟨by simp [hB], by simp [hA], by simp, by simp [hA, hB, max_comm]⟩
    · exact ⟨by simp [hA], by simp [hB], by simp, by simp [hA, hB]⟩
  · simp only [if_neg hprimary]
    exact ⟨by simp [hA], by simp, by simp, by simp [hA]⟩

theorem candidatesAbove4G_for (hown : RegionId.InGrid ⟨true, socket.toNat, rb.toNat⟩) :
    (candidatesAbove4G m socket rb req).For [⟨true, socket.toNat, rb.toNat⟩] m req := by
  have hA := toNat_remainingSize hm hmask ht hown
  exact ⟨by simp [candidatesAbove4G, hA], by simp [candidatesAbove4G], by simp [candidatesAbove4G],
    by simp [candidatesAbove4G, hA]⟩

end

theorem eligible_inGrid (hm : m.Sound) (hreq : req.Admissible df) : ∀ id ∈ eligible df m req, id.InGrid := by
  obtain ⟨socket, rb, htarget, hsocket, hrb⟩ := hreq.target
  rw [UInt8.lt_iff_toNat_lt] at hsocket hrb
  unfold eligible
  rw [htarget]
  intro id hid
  simp only at hid
  split_ifs at hid with hbelow hown hsecond habove
  · simp only [mem_cons, not_mem_nil, or_false] at hid
    rcases hid with rfl | rfl
    · exact ⟨hsocket, hrb⟩
    · exact (hm.second hsecond.1).1
  · obtain rfl := mem_singleton.mp hid
    exact ⟨hsocket, hrb⟩
  · exact absurd hid not_mem_nil
  · obtain rfl := mem_singleton.mp hid
    exact ⟨hsocket, hrb⟩
  · exact absurd hid not_mem_nil

theorem reserveFrom_reserves (hm : m.Sound) (hreq : req.Admissible df) :
    Reserves (eligible df m req) m req (reserveFrom df m req).1 (reserveFrom df m req).2 := by
  have hgrid := eligible_inGrid hm hreq
  obtain ⟨k, hmask⟩ := hreq.mask
  obtain ⟨socket, rb, htarget, hsocket, hrb⟩ := hreq.target
  have hlen : 0 < req.length.toNat := by
    have := mt UInt64.toNat_inj.mp hreq.length_ne
    rw [UInt64.toNat_zero] at this
    omega
  have hinside : ¬ (maxSocketsSupported ≤ socket ∨ dfXMaxRbsPerSocket ≤ rb) := by
    simp [hsocket, hrb]
  unfold reserveFrom
  rw [if_neg hreq.length_ne]
  rcases hreq.type with htype | htype
  · have ht : req.attributes.mmioType.kind = some .nonPci := by rw [htype]; rfl
    rw [if_neg (by simp [htype])]
    unfold eligible at hgrid ⊢
    simp only [htarget, if_neg hinside, if_pos htype] at hgrid ⊢
    cases hown : m.allocateMmioBelow4GOnThisRb socket.toNat rb.toNat with
    | false => exact aborted_reserves
    | true =>
      simp only [hown, if_true] at hgrid
      exact finishReserve_reserves (candidatesBelow4G_for hm hmask ht (hgrid _ mem_cons_self))
        (fun id hid => hm.region id (hgrid id hid)) hmask ht hlen
  · have ht : req.attributes.mmioType.kind = some .nonPci := by rw [htype]; rfl
    have hbelow : req.attributes.mmioType ≠ .nonPciDeviceBelow4G := by simp [htype]
    rw [if_neg (by simp [htype])]
    unfold eligible at hgrid ⊢
    simp only [htarget, if_neg hinside, if_neg hbelow] at hgrid ⊢
    cases hown : m.allocateMmioAbove4GOnThisRb socket.toNat rb.toNat with
    | false => exact aborted_reserves
    | true =>
      simp only [hown, if_true] at hgrid
      exact finishReserve_reserves (candidatesAbove4G_for hm hmask ht (hgrid _ mem_cons_self))
        (fun id hid => hm.region id (hgrid id hid)) hmask ht hlen

end

/-! ## Any sequence of calls -/

section
variable {m : MmioManager} {id : RegionId} {used : UInt64}

theorem pool_withUsed (id' : RegionId) :
    (m.withUsed id used).pool id' = if id' = id then { m.pool id with used := used.toNat } else m.pool id' := by
  unfold withUsed pool
  rw [region_setRegion]
  split <;> rfl

theorem MmioManager.Sound.withUsed (hm : m.Sound) (hle : used.toNat ≤ (m.pool id).size) : (m.withUsed id used).Sound := by
  constructor
  · intro id' hid'
    unfold MmioManager.withUsed
    rw [region_setRegion]
    split
    · subst id'
      have h := hm.region id hid'
      exact ⟨hle, h.end_lt, h.base_pos⟩
    · exact hm.region id' hid'
  · unfold MmioManager.withUsed
    simpa using hm.second

theorem grants_withUsed {start len : Nat} (hstart : (m.pool id).base + (m.pool id).used ≤ start)
    (hend : start + len ≤ (m.pool id).base + (m.pool id).size) (hused : (m.pool id).base + used.toNat = start + len) :
    Grants m.pool ⟨id, start, len⟩ (m.withUsed id used).pool := by
  refine ⟨hstart, hend, fun i => ?_, fun i => ?_, ?_, fun i hi => ?_⟩
  · rw [pool_withUsed]
    split <;> simp [*]
  · rw [pool_withUsed]
    split <;> simp [*]
  · rw [pool_withUsed, if_pos rfl]
    exact hused
  · rw [pool_withUsed, if_neg hi]

end

/-- A manager as the initialisation leaves it: disjoint pools with nothing used, and a second region that is no
one's own. -/
structure MmioManager.Fresh (m : MmioManager) : Prop where
  pools : Bump.PoolsDisjoint RegionId.InGrid m.pool
  unused : ∀ id : RegionId, id.InGrid → (m.region id).usedSizeNonPci = 0
  base_ne : ∀ id : RegionId, id.InGrid → (m.region id).sizeNonPci ≠ 0 → (m.region id).baseNonPci ≠ 0
  end_lt : ∀ id : RegionId, id.InGrid → (m.region id).baseNonPci.toNat + (m.region id).sizeNonPci.toNat < 2 ^ 64
  second : m.primaryRbHas2ndMmioBelow4G →
    m.secondRegion.InGrid ∧ m.allocateMmioBelow4GOnThisRb m.secondRegion.socket m.secondRegion.rb = false

theorem MmioManager.Fresh.sound (h : m.Fresh) : m.Sound := by
  refine ⟨fun id hid => ⟨?_, h.end_lt id hid, fun hpos => ?_⟩, h.second⟩
  · rw [h.unused id hid, UInt64.toNat_zero]
    exact Nat.zero_le _
  · have hne := h.base_ne id hid (fun h0 => by simp [h0] at hpos)
    rw [ne_eq, ← UInt64.toNat_inj, UInt64.toNat_zero] at hne
    omega

/-- The call meets its specification, and no pool is used beyond its size. -/
def Call.Ok (df : DfAnswers) (c : Call) : Prop :=
  ∃ m m', c.before = some m ∧ c.after = some m' ∧ Reserves (eligible df m c.request) m c.request c.outcome m' ∧
    ∀ id : RegionId, id.InGrid → (m'.region id).usedSizeNonPci ≤ (m'.region id).sizeNonPci

theorem runCalls_cons (df : DfAnswers) (m : MmioManager) (baseAddress : UInt64) (req : Request)
    (reqs : List (UInt64 × Request)) :
    runCalls df (some m) ((baseAddress, req) :: reqs) =
      ⟨some m, req, (reserveFrom df m req).1, some (reserveFrom df m req).2⟩ ::
        runCalls df (some (reserveFrom df m req).2) reqs := rfl

theorem runCalls_ok {df : DfAnswers} (reqs : List (UInt64 × Request)) (hreqs : ∀ p ∈ reqs, p.2.Admissible df)
    (hm : m.Sound) {log : List (Grant RegionId)} (hlog : Inv RegionId.InGrid m.pool log) :
    (∀ c ∈ runCalls df (some m) reqs, c.Ok df) ∧
    (log.map Grant.range ++ (runCalls df (some m) reqs).filterMap Call.range).Pairwise Apart := by
  induction reqs generalizing m log with
  | nil => exact ⟨by simp [runCalls], by simpa [runCalls] using hlog.apart⟩
  | cons p reqs ih =>
    obtain ⟨baseAddress, req⟩ := p
    have hreq : req.Admissible df := hreqs _ mem_cons_self
    have hrest : ∀ p ∈ reqs, p.2.Admissible df := fun p hp => hreqs p (mem_cons_of_mem _ hp)
    have hres := reserveFrom_reserves hm hreq
    rw [runCalls_cons]
    generalize (reserveFrom df m req).1 = out at hres ⊢
    generalize (reserveFrom df m req).2 = m' at hres ⊢
    by_cases hpass : out.status = .silPass
    · obtain ⟨id, hid, used, rfl, hlength, haligned, hstart, hend, hused⟩ := hres.granted hpass
      have hin := eligible_inGrid hm hreq id hid
      have hm' : (m.withUsed id used).Sound := hm.withUsed (by omega)
      have hlog' := hlog.grants (g := ⟨id, _, _⟩) hin (grants_withUsed hstart hend hused)
      obtain ⟨hok, hapart⟩ := ih hrest hm' hlog'
      refine ⟨forall_mem_cons.mpr ⟨⟨m, _, rfl, rfl, hres, hm'.used_le⟩, hok⟩, ?_⟩
      rw [filterMap_cons_some (b := (out.baseAddress.toNat, req.length.toNat)) (by simp [Call.range, hpass, hlength])]
      simpa [Grant.range] using hapart
    · -- Nothing was handed out, and nothing has changed.
      obtain rfl := hres.failed hpass
      obtain ⟨hok, hapart⟩ := ih hrest hm hlog
      refine ⟨forall_mem_cons.mpr ⟨⟨m', m', rfl, rfl, hres, hm.used_le⟩, hok⟩, ?_⟩
      rw [filterMap_cons_none (by simp [Call.range, hpass])]
      exact hapart

/-- From a fresh manager, every call of every sequence of admissible calls does what it should, and no address is
handed out twice. -/
theorem reservations_ok (df : DfAnswers) (m : MmioManager) (hm : m.Fresh) (reqs : List (UInt64 × Request))
    (hreqs : ∀ p ∈ reqs, p.2.Admissible df) :
    (∀ c ∈ runCalls df (some m) reqs, c.Ok df) ∧
    ((runCalls df (some m) reqs).filterMap Call.range).Pairwise Bump.Apart := by
  have hlog : Inv RegionId.InGrid m.pool [] := inv_nil hm.pools fun id hid => (hm.sound.region id hid).used_le
  simpa using runCalls_ok reqs hreqs hm.sound hlog

def onePool : MmioManager :=
  { MmioManager.zero with
    mmioRegionBelow4G :=
      Table.set (fun _ _ => .zero) 0 2 { MmioRegion.zero with baseNonPci := 0xFD000000, sizeNonPci := 0x1000000 }
    allocateMmioBelow4GOnThisRb := Table.set (fun _ _ => false) 0 2 true }

theorem onePool_region (id : RegionId) : (id = ⟨false, 0, 2⟩ ∧ onePool.region id =
    { MmioRegion.zero with baseNonPci := 0xFD000000, sizeNonPci := 0x1000000 }) ∨ onePool.region id = .zero := by
  obtain ⟨above, socket, rb⟩ := id
  cases above with
  | true => exact .inr rfl
  | false =>
    by_cases h : socket = 0 ∧ rb = 2
    · obtain ⟨rfl, rfl⟩ := h
      exact .inl ⟨rfl, rfl⟩
    · exact .inr (Table.set_of_ne (fun _ _ => MmioRegion.zero) _ h)

theorem onePool_fresh : onePool.Fresh where
  pools := by
    intro i j _ _ hne a ⟨⟨hlo, hhi⟩, hlo', hhi'⟩
    unfold pool nonPciPool at hlo hhi hlo' hhi'
    rcases onePool_region i with ⟨rfl, -⟩ | hi
    · rcases onePool_region j with ⟨rfl, -⟩ | hj
      · exact hne rfl
      · simp [hj, MmioRegion.zero] at hlo' hhi'
    · simp [hi, MmioRegion.zero] at hlo hhi
  unused id _ := by rcases onePool_region id with ⟨-, h⟩ | h <;> rw [h] <;> rfl
  base_ne id _ := by rcases onePool_region id with ⟨-, h⟩ | h <;> rw [h] <;> decide
  end_lt id _ := by rcases onePool_region id with ⟨-, h⟩ | h <;> rw [h] <;> decide
  second h := nomatch h

def smallRequest : Request where
  length := 0x10000
  alignment := 0xFFFF
  target := ⟨.targetRb, 0, 0, 0, 2⟩
  attributes := ⟨false, false, false, false, .nonPciDeviceBelow4G⟩

theorem smallRequest_admissible : smallRequest.Admissible plainDf :=
  ⟨by decide, .inl rfl, ⟨16, rfl⟩, 0, 2, rfl, by decide, by decide⟩

theorem reservations_ok_onePool : smallRequest.Admissible plainDf ∧
    ∀ c ∈ runCalls plainDf (some onePool) [(0, smallRequest), (0, smallRequest)], c.Ok plainDf :=
  ⟨smallRequest_admissible, (reservations_ok plainDf onePool onePool_fresh _ (by simp [smallRequest_admissible])).1⟩

theorem le_foldr_max_iff {ι : Type*} {l : List ι} {f : ι → Nat} {n : Nat} (hn : n ≠ 0) :
    n ≤ (l.map f).foldr max 0 ↔ ∃ i ∈ l, n ≤ f i := by
  induction l with
  | nil => simpa using hn
  | cons i l ih => simp [ih]

theorem reserveFrom_sound {df : DfAnswers} {req : Request} (hm : m.Sound) (hreq : req.Admissible df) :
    (reserveFrom df m req).2.Sound := by
  have hres := reserveFrom_reserves hm hreq
  by_cases hpass : (reserveFrom df m req).1.status = .silPass
  · obtain ⟨id, -, used, hafter, -, -, -, hend, hused⟩ := hres.granted hpass
    rw [hafter]
    exact hm.withUsed (by omega)
  · rwa [hres.failed hpass]

/-- A refusal reports an exact length: of the same request, lengths up to it are granted and no others. -/
theorem reported_length_exact {df : DfAnswers} (hm : m.Sound) (reqs : List (UInt64 × Request))
    (hreqs : ∀ p ∈ reqs, p.2.Admissible df) :
    ∀ c ∈ runCalls df (some m) reqs, c.outcome.status = .silOutOfResources → ∀ baseAddress, ∀ n ≠ 0,
      ((fabricReserveMmio df c.after baseAddress { c.request with length := n }).1.status = .silPass ↔
        n ≤ c.outcome.length) := by
  induction reqs generalizing m with
  | nil => simp [runCalls]
  | cons p reqs ih =>
    obtain ⟨hreq, hrest⟩ := forall_mem_cons.mp hreqs
    rw [runCalls_cons, forall_mem_cons]
    refine ⟨fun hshort baseAddress n hn => ?_, ih (reserveFrom_sound hm hreq) hrest⟩
    have hres := reserveFrom_reserves hm hreq
    have hreq' : Request.Admissible df { p.2 with length := n } := ⟨hn, hreq.type, hreq.mask, hreq.target⟩
    have hagain := reserveFrom_reserves hm hreq'
    -- The refused call has changed nothing.
    have hsame := hres.failed fun hpass => by cases hpass.symm.trans hshort
    dsimp only [fabricReserveMmio]
    rw [hsame, hagain.succeeds_iff, le_iff_toNat_le, hres.shortage hshort,
      le_foldr_max_iff fun h0 => hn (UInt64.toNat_inj.mp h0)]
    rfl

theorem reported_length_exact_onePool :
    (fabricReserveMmio plainDf (fabricReserveMmio plainDf (some onePool) 0 { smallRequest with length := 0x2000000 }).2
      0 { smallRequest with length := 0x1000000 }).1.status = .silPass := by
  have hexact := reported_length_exact onePool_fresh.sound [(0, { smallRequest with length := 0x2000000 })]
    (forall_mem_singleton.mpr { smallRequest_admissible with length_ne := by decide }) _ (mem_singleton.mpr rfl)
  exact (hexact (by decide) 0 _ (by decide)).mpr (by decide)

end OpenSil.RcMgr
