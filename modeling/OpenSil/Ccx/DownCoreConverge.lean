import Mathlib.Data.List.Range
import OpenSil.Ccx.DownCoreLoop

/-! # When down-coring converges -/

namespace OpenSil.Ccx

open List Nat Option BitVec

/-! ## Topologies under masks -/

theorem coresOf_or (dis mask : BitVec 32) (ccx : Nat) :
    coresOf (dis ||| mask) ccx =
      (coresOf mask ccx).filter fun core => !dis.getLsbD (ccx * maxCorePerCcx + core) := by
  unfold coresOf
  rw [List.filter_filter]
  congr 1
  funext core
  rw [getLsbD_or, Bool.not_or]

theorem complexesOf_ne_nil_iff (cs : Nat) (dis : BitVec 32) :
    complexesOf cs dis ≠ [] ↔ ∃ ccx < cs, coresOf dis ccx ≠ [] := by
  unfold complexesOf
  rw [ne_eq, filterMap_eq_nil_iff]
  push Not
  simp only [mem_range]
  refine exists_congr fun ccx => and_congr_right fun _ => ?_
  split_ifs with h <;> simp [h]

open SocketTopology

section
variable {cs : Nat} {f : Fuses} {masks : Nat → BitVec 32} {ccd : Nat}

theorem isSome_ccdOf_iff : (ccdOf cs f masks ccd).isSome ↔
    f.ccdPresent.getLsbD ccd = true ∧ f.ccdDown.getLsbD ccd = false ∧
      ∃ ccx < cs, coresOf (f.coreDis ccd ||| masks ccd) ccx ≠ [] := by
  rw [← complexesOf_ne_nil_iff]
  unfold ccdOf
  dsimp only
  split_ifs with h
  · exact ⟨fun _ => h, fun _ => rfl⟩
  · exact ⟨fun h' => by simp at h', fun h' => absurd h' h⟩

theorem isSome_ccdOf_fused (h : (ccdOf cs f masks ccd).isSome) : (ccdOf cs f (fun _ => 0) ccd).isSome := by
  rw [isSome_ccdOf_iff] at h ⊢
  obtain ⟨hpresent, hdown, ccx, hccx, hcores⟩ := h
  refine ⟨hpresent, hdown, ccx, hccx, fun hnil => hcores ?_⟩
  rw [BitVec.or_comm, coresOf_or, show coresOf (f.coreDis ccd) ccx = [] by simpa using hnil, List.filter_nil]

theorem ccdCount_topologyOf (smt : Bool) : (topologyOf cs f masks smt).ccdCount =
    (range maxCcdsPerSocket).countP fun ccd => (ccdOf cs f masks ccd).isSome := by
  unfold topologyOf ccdCount
  exact length_filterMap_eq_countP

theorem ccdCount_le_fused (smt : Bool) : (topologyOf cs f masks smt).ccdCount ≤
    (topologyOf cs f (fun _ => 0) smt).ccdCount := by
  rw [ccdCount_topologyOf, ccdCount_topologyOf]
  exact countP_mono_left fun _ _ => isSome_ccdOf_fused

theorem mem_ccds_iff {smt : Bool} {info : CcdInfo} : info ∈ (topologyOf cs f masks smt).ccds ↔
    ∃ ccd < maxCcdsPerSocket, ccdOf cs f masks ccd = some info := by
  unfold topologyOf
  simp only [mem_filterMap, mem_range]

theorem ccdOf_eq_some (h : (ccdOf cs f masks ccd).isSome) :
    ccdOf cs f masks ccd = some ⟨ccd, complexesOf cs (f.coreDis ccd ||| masks ccd)⟩ := by
  unfold ccdOf at h ⊢
  dsimp only at h ⊢
  split_ifs at h ⊢ with hfound
  · rfl
  · simp at h

theorem topologyOf_congr {others : Nat → BitVec 32} (smt : Bool)
    (h : ∀ ccd < maxCcdsPerSocket, (ccdOf cs f (fun _ => 0) ccd).isSome → masks ccd = others ccd) :
    topologyOf cs f masks smt = topologyOf cs f others smt := by
  have hccds : (range maxCcdsPerSocket).filterMap (ccdOf cs f masks) =
      (range maxCcdsPerSocket).filterMap (ccdOf cs f others) := by
    refine filterMap_congr fun ccd hccd => ?_
    by_cases hfused : (ccdOf cs f (fun _ => 0) ccd).isSome
    · unfold ccdOf
      rw [h ccd (mem_range.mp hccd) hfused]
    · rw [not_isSome_iff_eq_none.mp (mt isSome_ccdOf_fused hfused),
        not_isSome_iff_eq_none.mp (mt isSome_ccdOf_fused hfused)]
  unfold topologyOf
  rw [hccds]

theorem head_ccds {smt : Bool} {info : CcdInfo} (hccd : ccd < maxCcdsPerSocket)
    (hsome : ccdOf cs f masks ccd = some info) (hlowest : ∀ lower < ccd, ccdOf cs f masks lower = none) :
    (topologyOf cs f masks smt).ccds.head? = some info := by
  obtain ⟨rest, hrest⟩ := Nat.exists_eq_add_of_lt hccd
  unfold topologyOf
  rw [head?_filterMap, findSome?_eq_some_iff]
  refine ⟨range ccd, ccd, ((range rest).map succ).map (ccd + ·), ?_, hsome, fun lower h => hlowest lower (mem_range.mp h)⟩
  rw [hrest, add_assoc, range_add, range_succ_eq_map, map_cons, add_zero]

end

theorem head_complexesOf {cs : Nat} {dis : BitVec 32} (hpos : 0 < cs) (h : coresOf dis 0 ≠ []) :
    (complexesOf cs dis).head? = some ⟨0, coresOf dis 0⟩ := by
  obtain ⟨rest, rfl⟩ := exists_eq_succ_of_ne_zero hpos.ne'
  unfold complexesOf
  rw [range_succ_eq_map, filterMap_cons, if_neg h]
  rfl

theorem length_complexesOf {cs : Nat} {dis : BitVec 32} (h : ∀ ccx < cs, coresOf dis ccx ≠ []) :
    (complexesOf cs dis).length = cs := by
  unfold complexesOf
  rw [length_filterMap_eq_countP, countP_eq_length.mpr, length_range]
  intro ccx hccx
  rw [if_neg (h ccx (mem_range.mp hccx))]
  rfl

theorem length_coresOf_le (dis : BitVec 32) (ccx : Nat) : (coresOf dis ccx).length ≤ maxCorePerCcx :=
  (length_filter_le _ _).trans_eq length_range

theorem coresOf_allComplexes {cs : Nat} (hle : cs ≤ 2) : ∀ ccx < cs,
    coresOf ((range cs).foldl (fun mask ccx => mask ||| 0xFF#32 <<< (maxCorePerCcx * ccx)) 0) ccx = [] := by
  interval_cases cs <;> decide

theorem length_coresOf_request (mode : DownCoreMode) :
    (coresOf mode.request.2 0).length ≤ mode.request.1 := by
  cases mode <;> decide

/-! ## Decisions -/

namespace Boots
variable (b : Boots) {f : Fuses} {t : SocketTopology}

def ccdRequest : Nat × BitVec 32 := getZen4DesiredCcdCount b.input.amdCcdMode b.stack

def coreRequest : Nat × BitVec 32 := b.input.amdDownCoreMode.request

def modesAuto : Prop := b.input.amdCcdMode = ccdModeAuto ∧ b.input.amdDownCoreMode = .auto

def xApicLimited (f : Fuses) (t : SocketTopology) : Bool := f.xApicLimited b.input b.platform.sockets.length t

def readVars (f : Fuses) (t : SocketTopology) : DownCoreVars :=
  readTopology b.input b.platform.sockets.length f t (.start b.input b.stack)

theorem request_eq_zero_of_auto (h : b.modesAuto) : b.ccdRequest.2 = 0 ∧ b.coreRequest.2 = 0 := by
  unfold ccdRequest coreRequest
  rw [h.1, h.2]
  exact ⟨rfl, rfl⟩

theorem ccdCount_socket_le (masks : Nat → BitVec 32) (smt : Bool) :
    (b.socket f masks smt).ccdCount ≤ maxCcdsPerSocket := by
  unfold socket
  rw [ccdCount_topologyOf]
  exact countP_le_length.trans_eq length_range

theorem vars_eq : b.vars f t =
    if !(b.readVars f t).downCoreBitMapAvailable ∧ ((b.readVars f t).ccdDisMask ≠ 0 ∨ (b.readVars f t).coreDisMask ≠ 0)
    then compareCounts t (b.readVars f t)
    else if (b.readVars f t).downCoreBitMapAvailable then { b.readVars f t with met := bitMapMet t (b.readVars f t) }
    else b.readVars f t := rfl

theorem vars_threadCount : (b.vars f t).threadCount = t.threadCount := by
  rw [vars_eq]
  split_ifs <;> rfl

theorem vars_threads (threads : Nat) : b.vars f { t with firstCoreThreads := threads } =
    { b.vars f t with threadCount := ({ t with firstCoreThreads := threads } : SocketTopology).threadCount } := by
  have hread : b.readVars f { t with firstCoreThreads := threads } =
      { b.readVars f t with threadCount := ({ t with firstCoreThreads := threads } : SocketTopology).threadCount } := rfl
  rw [vars_eq, vars_eq, hread]
  generalize b.readVars f t = r
  dsimp only
  split_ifs <;> rfl

theorem writes_threads (threads : Nat) : b.writes f { t with firstCoreThreads := threads } = b.writes f t := by
  unfold writes
  rw [vars_threads]
  rfl

def allWrites (f : Fuses) (t : SocketTopology) : List (Nat × BitVec 32) :=
  (t.ccds.map fun ccd => (ccd.physCcdNumber, disMask t (b.vars f t) ccd)).filter (·.2 ≠ 0)

theorem writes_eq_allWrites (hwrites : b.writes f t ≠ []) : b.writes f t = b.allWrites f t := by
  unfold writes socketWrites at hwrites ⊢
  split_ifs at hwrites ⊢ with h
  · rfl
  · exact absurd rfl hwrites

theorem addWrites_of_mem (heq : b.writes f t = b.allWrites f t) {info : CcdInfo} (hinfo : info ∈ t.ccds) :
    addWrites (b.writes f t) (fun _ => 0) info.physCcdNumber = disMask t (b.vars f t) info := by
  apply BitVec.eq_of_getLsbD_eq
  intro i _
  rw [getLsbD_addWrites, heq]
  unfold allWrites
  simp only [ofNat_eq_ofNat, getLsbD_zero, Bool.false_or]
  rw [Bool.eq_iff_iff, List.any_eq_true]
  constructor
  · rintro ⟨w, hw, hbit⟩
    simp only [List.mem_filter, List.mem_map] at hw
    obtain ⟨⟨other, _, rfl⟩, _⟩ := hw
    simp only [Bool.and_eq_true, decide_eq_true_eq] at hbit
    -- the mask depends on the number of the CCD only
    unfold disMask at hbit ⊢
    rw [hbit.1] at hbit
    exact hbit.2
  · intro hbit
    refine ⟨(info.physCcdNumber, disMask t (b.vars f t) info), ?_, by simp [hbit]⟩
    rw [mem_filter]
    refine ⟨mem_map.mpr ⟨info, hinfo, rfl⟩, decide_eq_true fun hzero => ?_⟩
    rw [show disMask t (b.vars f t) info = 0#32 from hzero, getLsbD_zero] at hbit
    exact Bool.false_ne_true hbit

theorem firstMasks_eq_zero (h : b.writes f (b.fused f) = []) : b.firstMasks f = fun _ => 0 := by
  unfold firstMasks
  rw [h]
  rfl

theorem readVars_met : (b.readVars f t).met = true := rfl

theorem writes_eq_nil_of_met (h : (b.vars f t).met = true) : b.writes f t = [] := by
  unfold writes socketWrites
  exact if_neg fun hwrites => by simp [h] at hwrites

/-! ## A request in counts -/

section
variable (hmaps : ∀ ccd < maxCcdsPerSocket, b.input.amdCoreDisCcd ccd = 0) (ht : t.ccdCount ≤ maxCcdsPerSocket)
include hmaps ht

theorem readVars_bitMap (ccd : Nat) : (b.readVars f t).downCoreBitMap ccd = 0 := by
  unfold readVars readTopology
  dsimp only
  split_ifs with h
  · rw [hmaps ccd (by omega)]
    rfl
  · rfl

theorem readVars_available : (b.readVars f t).downCoreBitMapAvailable = false := by
  have havailable : (b.readVars f t).downCoreBitMapAvailable = (!b.xApicLimited f t &&
      (false || (range maxCcdsPerSocket).any ((b.readVars f t).downCoreBitMap · ≠ 0))) := rfl
  rw [havailable]
  simp [b.readVars_bitMap hmaps ht]

theorem vars_counts :
    (f.downCored t = true ∨ b.ccdRequest.2 = 0 ∧ b.coreRequest.2 = 0) ∧ b.vars f t = b.readVars f t ∨
      f.downCored t = false ∧ ¬(b.ccdRequest.2 = 0 ∧ b.coreRequest.2 = 0) ∧
        b.vars f t = compareCounts t (b.readVars f t) := by
  have hccd : (b.readVars f t).ccdDisMask = if f.downCored t then 0 else b.ccdRequest.2 := rfl
  have hcore : (b.readVars f t).coreDisMask = if f.downCored t then 0 else b.coreRequest.2 := rfl
  rw [vars_eq, b.readVars_available hmaps ht, hccd, hcore]
  cases hdown : f.downCored t with
  | true => simp
  | false => grind

theorem not_cold_of_counts (hauto : b.modesAuto → f.downCored t = false ∨ b.xApicLimited f t = true)
    (hsmt : b.input.amdSmtMode = 1 → t.threadCount = f.thrdPerCore) :
    wantsColdReset b.input (b.vars f t) = false := by
  have hmode : (b.readVars f t).ccdMode = ccdModeAuto ∧ (b.readVars f t).downCoreMode = .auto →
      f.downCored t = false := by
    have hccdMode : (b.readVars f t).ccdMode = if b.xApicLimited f t then 8 else b.input.amdCcdMode := rfl
    have hcoreMode : (b.readVars f t).downCoreMode =
      if b.xApicLimited f t then (if t.complexCount > 1 then .m4_4 else .m7_0) else b.input.amdDownCoreMode := rfl
    rw [hccdMode, hcoreMode]
    rintro ⟨h, h'⟩
    cases hlimited : b.xApicLimited f t with
    | true =>
      rw [hlimited] at h
      cases h
    | false =>
      rw [hlimited] at h h'
      exact (hauto ⟨h, h'⟩).resolve_right (by simp [hlimited])
  unfold wantsColdReset
  rw [decide_eq_false_iff_not]
  rcases b.vars_counts hmaps ht with ⟨-, hv⟩ | ⟨hdown, -, hv⟩ <;> rw [hv]
  · rintro (⟨h, -⟩ | ⟨h, h', hdown, -⟩ | ⟨h, h'⟩)
    · exact absurd h (by simp [readVars_met])
    · exact absurd ((hmode ⟨h, h'⟩).symm.trans hdown) (by decide)
    · exact h' (hsmt h)
  · rintro (⟨-, h⟩ | ⟨-, -, h, -⟩ | ⟨h, h'⟩)
    · exact absurd (hdown.symm.trans h) (by decide)
    · exact absurd (hdown.symm.trans h) (by decide)
    · exact h' (hsmt h)

omit hmaps in
theorem compared_masks (hcores : t.coreCount ≤ maxCorePerCcx) (hdown : f.downCored t = false) :
    (compareCounts t (b.readVars f t)).ccdDisMask = (if t.ccdCount ≤ b.ccdRequest.1 then 0 else b.ccdRequest.2) ∧
      (compareCounts t (b.readVars f t)).coreDisMask =
        if t.coreCount ≤ b.coreRequest.1 then 0 else b.coreRequest.2 := by
  have hany : ∀ count asked : Nat, count ≤ maxCcdsPerSocket →
      ((if asked = anyCount then count else asked) ≥ count ↔ count ≤ asked) := by
    unfold maxCcdsPerSocket anyCount
    intro count asked hcount
    split_ifs <;> omega
  unfold compareCounts readVars readTopology
  simp only [hdown, Bool.false_eq_true, if_false]
  constructor
  · exact if_congr (hany _ _ ht) rfl rfl
  · exact if_congr (hany _ _ (hcores.trans (by decide))) rfl rfl

theorem writes_eq_nil_of_counts (hcores : t.coreCount ≤ maxCorePerCcx) (hcore : t.coreCount ≤ b.coreRequest.1)
    (hccd : t.ccdCount ≤ b.ccdRequest.1 ∨ ∀ info ∈ t.ccds, b.ccdRequest.2.getLsbD info.physCcdNumber = false) :
    b.writes f t = [] := by
  rcases b.vars_counts hmaps ht with ⟨-, hv⟩ | ⟨hdown, -, hv⟩
  · exact b.writes_eq_nil_of_met (hv ▸ rfl)
  · obtain ⟨hccdMask, hcoreMask⟩ := b.compared_masks ht hcores hdown
    rw [if_pos hcore] at hcoreMask
    have hbit : ∀ info ∈ t.ccds,
        (compareCounts t (b.readVars f t)).ccdDisMask.getLsbD info.physCcdNumber = false := by
      intro info hinfo
      rw [hccdMask]
      split_ifs with hasked
      · exact getLsbD_zero
      · exact hccd.resolve_left hasked info hinfo
    have hmap : ∀ ccd, (compareCounts t (b.readVars f t)).downCoreBitMap ccd = 0 :=
      b.readVars_bitMap (f := f) hmaps ht
    unfold writes socketWrites
    rw [hv]
    split_ifs
    · rw [filter_eq_nil_iff]
      intro w hw
      obtain ⟨info, hinfo, rfl⟩ := mem_map.mp hw
      unfold disMask
      rw [if_pos (hbit info hinfo), if_neg (not_not.mpr (hmap _)), hcoreMask]
      simp
    · rfl

theorem compared_of_writes (hwrites : b.writes f t ≠ []) :
    f.downCored t = false ∧ ¬(b.ccdRequest.2 = 0 ∧ b.coreRequest.2 = 0) ∧
      b.vars f t = compareCounts t (b.readVars f t) := by
  rcases b.vars_counts hmaps ht with ⟨-, hv⟩ | h
  · exact absurd (b.writes_eq_nil_of_met (hv ▸ rfl)) hwrites
  · exact h

end

structure CountsFit (f : Fuses) (first : Nat) : Prop where
  maps : ∀ ccd < maxCcdsPerSocket, b.input.amdCoreDisCcd ccd = 0
  lt : first < maxCcdsPerSocket
  present : f.ccdPresent.getLsbD first = true
  up : f.ccdDown.getLsbD first = false
  lowest : ∀ lower < first, ccdOf b.platform.complexesPerCcd f (fun _ => 0) lower = none
  complexes : ∀ ccx < b.platform.complexesPerCcd, coresOf (f.coreDis first) ccx ≠ []
  ccdLeft : b.ccdRequest.2.getLsbD first = false
  coreLeft : coresOf (f.coreDis first ||| b.coreRequest.2) 0 ≠ []
  smt : b.input.amdSmtMode = 1 → f.smtEnabled first = f.smtEnabled 0
  auto : b.modesAuto → f.downCored (b.fused f) = false ∨ b.xApicLimited f (b.fused f) = true

namespace CountsFit
variable {b} {first : Nat} (h : b.CountsFit f first) (masks : Nat → BitVec 32)
include h

section
variable (hleft : coresOf (f.coreDis first ||| masks first) 0 ≠ []) (smt : Bool)
include hleft

theorem head_socket :
    (b.socket f masks smt).ccds.head? =
      some ⟨first, complexesOf b.platform.complexesPerCcd (f.coreDis first ||| masks first)⟩ := by
  have hsome : (ccdOf b.platform.complexesPerCcd f masks first).isSome :=
    isSome_ccdOf_iff.mpr ⟨h.present, h.up, 0, b.platform.complexes_pos, hleft⟩
  apply head_ccds h.lt (ccdOf_eq_some hsome)
  intro lower hlower
  rw [← not_isSome_iff_eq_none]
  intro hlow
  have := isSome_ccdOf_fused hlow
  rw [h.lowest lower hlower] at this
  exact absurd this (by simp)

theorem coreCount_socket :
    (b.socket f masks smt).coreCount = (coresOf (f.coreDis first ||| masks first) 0).length := by
  unfold coreCount
  rw [h.head_socket masks hleft, bind_some, head_complexesOf b.platform.complexes_pos hleft]
  rfl

theorem threadCount_socket :
    (b.socket f masks smt).threadCount = if f.smtEnabled first && !smt then 2 else 1 := by
  have hhead := h.head_socket masks hleft smt
  have hne : (b.socket f masks smt).ccds ≠ [] := by
    intro hnil
    rw [hnil] at hhead
    cases hhead
  have hthreads : (b.socket f masks smt).firstCoreThreads =
      if ((b.socket f masks smt).ccds.head?.any (f.smtEnabled ·.physCcdNumber)) && !smt then 2 else 1 := rfl
  unfold threadCount
  rw [if_neg hne, hthreads, hhead]
  rfl

end

theorem fusedLeft : coresOf (f.coreDis first ||| 0) 0 ≠ [] := by
  rw [show f.coreDis first ||| 0 = f.coreDis first from or_zero]
  exact h.complexes 0 b.platform.complexes_pos

theorem complexCount_fused : (b.fused f).complexCount = b.platform.complexesPerCcd := by
  unfold complexCount fused
  rw [h.head_socket (fun _ => 0) h.fusedLeft, show f.coreDis first ||| 0 = f.coreDis first from or_zero]
  exact length_complexesOf h.complexes

theorem coreCount_fused_le : (b.fused f).coreCount ≤ maxCorePerCcx := by
  unfold fused
  rw [h.coreCount_socket (fun _ => 0) h.fusedLeft]
  exact length_coresOf_le _ _

theorem firstMasks_first (hwrites : b.writes f (b.fused f) ≠ []) :
    b.firstMasks f first = b.coreRequest.2 ∨
      b.firstMasks f first = 0 ∧ (b.fused f).coreCount ≤ b.coreRequest.1 := by
  have ht : (b.fused f).ccdCount ≤ maxCcdsPerSocket := b.ccdCount_socket_le _ _
  have hmem := mem_of_mem_head? (h.head_socket (fun _ => 0) h.fusedLeft false)
  obtain ⟨hdown, -, hv⟩ := b.compared_of_writes h.maps ht hwrites
  obtain ⟨hccdMask, hcoreMask⟩ := b.compared_masks ht h.coreCount_fused_le hdown
  have hbit : (compareCounts (b.fused f) (b.readVars f (b.fused f))).ccdDisMask.getLsbD first = false := by
    rw [hccdMask]
    split_ifs
    · exact getLsbD_zero
    · exact h.ccdLeft
  have hmap : (compareCounts (b.fused f) (b.readVars f (b.fused f))).downCoreBitMap first = 0 :=
    b.readVars_bitMap (f := f) h.maps ht first
  have hmask : b.firstMasks f first = (compareCounts (b.fused f) (b.readVars f (b.fused f))).coreDisMask := by
    refine (b.addWrites_of_mem (b.writes_eq_allWrites hwrites) hmem).trans ?_
    rw [hv]
    unfold disMask
    rw [if_pos hbit, if_neg (not_not.mpr hmap)]
  rw [hmask, hcoreMask]
  split_ifs with hasked
  · exact .inr ⟨rfl, hasked⟩
  · exact .inl rfl

theorem firstMasks_left : coresOf (f.coreDis first ||| b.firstMasks f first) 0 ≠ [] := by
  by_cases hwrites : b.writes f (b.fused f) = []
  · unfold firstMasks
    rw [hwrites]
    exact h.fusedLeft
  · rcases h.firstMasks_first hwrites with hmask | ⟨hmask, -⟩ <;> rw [hmask]
    · exact h.coreLeft
    · exact h.fusedLeft

theorem coreCount_firstMasks (hwrites : b.writes f (b.fused f) ≠ []) (smt : Bool) :
    (b.socket f (b.firstMasks f) smt).coreCount ≤ b.coreRequest.1 := by
  rw [h.coreCount_socket (b.firstMasks f) h.firstMasks_left]
  rcases h.firstMasks_first hwrites with hmask | ⟨hmask, hasked⟩ <;> rw [hmask]
  · rw [coresOf_or]
    exact (length_filter_le _ _).trans (length_coresOf_request b.input.amdDownCoreMode)
  · unfold fused at hasked
    rwa [h.coreCount_socket (fun _ => 0) h.fusedLeft] at hasked

theorem ccds_firstMasks (hwrites : b.writes f (b.fused f) ≠ []) (smt : Bool) :
    (b.socket f (b.firstMasks f) smt).ccdCount ≤ b.ccdRequest.1 ∨
      ∀ info ∈ (b.socket f (b.firstMasks f) smt).ccds, b.ccdRequest.2.getLsbD info.physCcdNumber = false := by
  have ht : (b.fused f).ccdCount ≤ maxCcdsPerSocket := b.ccdCount_socket_le _ _
  obtain ⟨hdown, -, hv⟩ := b.compared_of_writes h.maps ht hwrites
  have hccdMask := (b.compared_masks ht h.coreCount_fused_le hdown).1
  by_cases hasked : (b.fused f).ccdCount ≤ b.ccdRequest.1
  · exact .inl ((ccdCount_le_fused smt).trans hasked)
  right
  rw [if_neg hasked] at hccdMask
  intro info hinfo
  obtain ⟨ccd, hccd, hsome⟩ := mem_ccds_iff.mp hinfo
  have hfound : (ccdOf b.platform.complexesPerCcd f (b.firstMasks f) ccd).isSome := hsome ▸ rfl
  obtain rfl := some.inj ((ccdOf_eq_some hfound).symm.trans hsome)
  by_contra hbit
  rw [Bool.not_eq_false] at hbit
  -- such a CCD has the mask of all cs, so it has no core left
  have hmem : ⟨ccd, complexesOf b.platform.complexesPerCcd (f.coreDis ccd ||| 0)⟩ ∈ (b.fused f).ccds :=
    mem_ccds_iff.mpr ⟨ccd, hccd, ccdOf_eq_some (isSome_ccdOf_fused hfound)⟩
  have hmask : b.firstMasks f ccd = (range b.platform.complexesPerCcd).foldl
      (fun mask ccx => mask ||| 0xFF#32 <<< (maxCorePerCcx * ccx)) 0 := by
    refine (b.addWrites_of_mem (b.writes_eq_allWrites hwrites) hmem).trans ?_
    rw [hv, ← h.complexCount_fused]
    unfold disMask
    rw [hccdMask]
    exact if_neg (by simp [hbit])
  obtain ⟨-, -, ccx, hccx, hcores⟩ := isSome_ccdOf_iff.mp hfound
  apply hcores
  rw [coresOf_or, hmask, coresOf_allComplexes b.platform.complexes_le ccx hccx, filter_nil]

theorem writes_firstMasks (smt : Bool) : b.writes f (b.socket f (b.firstMasks f) smt) = [] := by
  by_cases hwrites : b.writes f (b.fused f) = []
  · rw [b.firstMasks_eq_zero hwrites, ← hwrites]
    exact b.writes_threads (t := b.fused f) _
  · apply b.writes_eq_nil_of_counts h.maps (b.ccdCount_socket_le _ _)
    · rw [h.coreCount_socket (b.firstMasks f) h.firstMasks_left]
      exact length_coresOf_le _ _
    · exact h.coreCount_firstMasks hwrites smt
    · exact h.ccds_firstMasks hwrites smt

theorem not_cold_firstMasks {smt : Bool} (hsmt : smt = true → b.input.amdSmtMode = 0) :
    wantsColdReset b.input (b.vars f (b.socket f (b.firstMasks f) smt)) = false := by
  apply b.not_cold_of_counts h.maps (b.ccdCount_socket_le _ _)
  · -- with both modes auto nothing is written
    intro hauto
    have hmasks : b.firstMasks f = fun _ => 0 := by
      apply b.firstMasks_eq_zero
      by_contra hwrites
      exact (b.compared_of_writes h.maps (b.ccdCount_socket_le _ _) hwrites).2.1 (b.request_eq_zero_of_auto hauto)
    rw [hmasks]
    exact h.auto hauto
  · intro hmode
    rw [h.threadCount_socket (b.firstMasks f) h.firstMasks_left, h.smt hmode]
    cases smt with
    | true => exact absurd (hmode.symm.trans (hsmt rfl)) (by decide)
    | false => simp [Fuses.thrdPerCore]

theorem converges {n : Nat} (hsockets : b.platform.sockets = replicate (n + 1) f) : b.Converges := by
  apply b.converges_of_settled hsockets
  · apply b.not_cold_of_counts h.maps (b.ccdCount_socket_le _ _) h.auto
    intro hmode
    rw [h.threadCount_socket (fun _ => 0) h.fusedLeft, h.smt hmode, Bool.not_false, Bool.and_true]
    rfl
  · intro smt hsmt
    refine ⟨h.not_cold_firstMasks hsmt, h.writes_firstMasks smt, ?_⟩
    unfold disablesSmt fused
    rw [vars_threadCount, vars_threadCount, h.threadCount_socket _ h.firstMasks_left,
      h.threadCount_socket (fun _ => 0) h.fusedLeft]
    cases smt <;> simp

end CountsFit

/-! ## A request in bitmaps -/

/-- A bitmap disables cores of a CCD that is there, and xAPIC mode does not limit the socket. -/
def AskedByBitMap (f : Fuses) (t : SocketTopology) : Prop :=
  (∃ ccd < t.ccdCount, b.input.amdCoreDisCcd ccd ≠ 0) ∧ b.xApicLimited f t = false

def bitMapsMet (t : SocketTopology) : Bool :=
  t.ccds.zipIdx.all fun (ccd, i) => t.availableCoreMap ccd = ~~~(b.input.amdCoreDisCcd i).setWidth 32 &&& 0xFFFF

def bitMaps (t : SocketTopology) (ccd : Nat) : BitVec 32 :=
  if ccd < t.ccdCount then (b.input.amdCoreDisCcd ccd).setWidth 32 else 0

section
variable (hasked : b.AskedByBitMap f t) (ht : t.ccdCount ≤ maxCcdsPerSocket)
include hasked ht

theorem readVars_available_of_asked : (b.readVars f t).downCoreBitMapAvailable = true := by
  have havailable : (b.readVars f t).downCoreBitMapAvailable = (!b.xApicLimited f t &&
      (false || (range maxCcdsPerSocket).any (b.bitMaps t · ≠ 0))) := rfl
  have hany : (range maxCcdsPerSocket).any (b.bitMaps t · ≠ 0) = true := by
    obtain ⟨ccd, hccd, hne⟩ := hasked.1
    refine any_eq_true.mpr ⟨ccd, mem_range.mpr (hccd.trans_le ht), decide_eq_true ?_⟩
    unfold bitMaps
    rw [if_pos hccd]
    intro hzero
    apply hne
    apply eq_of_toNat_eq
    have := congrArg BitVec.toNat hzero
    rwa [toNat_setWidth_of_le (by decide)] at this
  rw [havailable, hasked.2, hany]
  rfl

theorem vars_bitMaps : b.vars f t = { b.readVars f t with met := b.bitMapsMet t } := by
  have hmet : bitMapMet t (b.readVars f t) = b.bitMapsMet t := by
    unfold bitMapMet bitMapsMet
    rw [Bool.eq_iff_iff, List.all_eq_true, List.all_eq_true]
    refine forall₂_congr fun ⟨ccd, i⟩ hi => ?_
    have hlt : i < t.ccdCount := (zero_add t.ccdCount) ▸ (mem_zipIdx hi).2.1
    have hmap : (b.readVars f t).downCoreBitMap i = (b.input.amdCoreDisCcd i).setWidth 32 := if_pos hlt
    dsimp only
    rw [hmap]
  rw [vars_eq, b.readVars_available_of_asked hasked ht, hmet]
  rfl

theorem not_cold_of_bitMaps (hmet : b.bitMapsMet t = true ∨ f.downCored t = false)
    (hsmt : b.input.amdSmtMode = 1 → t.threadCount = f.thrdPerCore) :
    wantsColdReset b.input (b.vars f t) = false := by
  unfold wantsColdReset
  rw [decide_eq_false_iff_not, b.vars_bitMaps hasked ht]
  rintro (⟨hunmet, hdown⟩ | ⟨-, -, -, hnone⟩ | ⟨hmode, hthreads⟩)
  · rcases hmet with hmet | hup
    · rw [hmet] at hunmet
      exact Bool.false_ne_true hunmet
    · exact absurd (hup.symm.trans hdown) (by decide)
  · rw [b.readVars_available_of_asked hasked ht] at hnone
    exact absurd hnone (by decide)
  · exact hthreads (hsmt hmode)

theorem disMask_bitMaps (hauto : b.modesAuto) (info : CcdInfo) :
    disMask t (b.vars f t) info = b.bitMaps t info.physCcdNumber := by
  obtain ⟨hccd, hcore⟩ := b.request_eq_zero_of_auto hauto
  have hccdMask : (b.readVars f t).ccdDisMask = 0 := by
    rw [show (b.readVars f t).ccdDisMask = if f.downCored t then 0 else b.ccdRequest.2 from rfl, hccd, ite_self]
  have hcoreMask : (b.readVars f t).coreDisMask = 0 := by
    rw [show (b.readVars f t).coreDisMask = if f.downCored t then 0 else b.coreRequest.2 from rfl, hcore, ite_self]
  have hmap : (b.readVars f t).downCoreBitMap info.physCcdNumber = b.bitMaps t info.physCcdNumber := rfl
  have hword : b.bitMaps t info.physCcdNumber &&& 0xFFFF = b.bitMaps t info.physCcdNumber := by
    unfold bitMaps
    split_ifs
    · generalize b.input.amdCoreDisCcd info.physCcdNumber = word
      apply eq_of_toNat_eq
      have := word.isLt
      rw [toNat_and, toNat_setWidth_of_le (by decide)]
      exact (and_two_pow_sub_one_eq_mod _ 16).trans (mod_eq_of_lt this)
    · rfl
  rw [b.vars_bitMaps hasked ht]
  unfold disMask
  dsimp only
  rw [hccdMask, hcoreMask, hmap, hword]
  refine (if_pos getLsbD_zero).trans ?_
  split_ifs with hne
  · rfl
  · exact (not_not.mp hne).symm

end

/-- A request in bitmaps that is met where the cores are fused on, or by what the bitmaps leave of them. -/
structure BitMapsFit (f : Fuses) : Prop where
  auto : b.modesAuto
  asked : b.AskedByBitMap f (b.fused f)
  met : b.bitMapsMet (b.fused f) = true ∨
    f.downCored (b.fused f) = false ∧ b.AskedByBitMap f (b.socket f (b.bitMaps (b.fused f)) false) ∧
      b.bitMapsMet (b.socket f (b.bitMaps (b.fused f)) false) = true
  smt : ∀ ccd < maxCcdsPerSocket, f.smtEnabled ccd = f.smtEnabled 0

namespace BitMapsFit
variable {b} (h : b.BitMapsFit f)
include h

theorem threadCount_socket {masks : Nat → BitVec 32} (hasked : b.AskedByBitMap f (b.socket f masks false))
    (smt : Bool) :
    (b.socket f masks smt).threadCount = if f.smtEnabled 0 && !smt then 2 else 1 := by
  obtain ⟨ccd, hccd, -⟩ := hasked.1
  obtain ⟨info, rest, hccds⟩ : ∃ info rest, (b.socket f masks smt).ccds = info :: rest :=
    exists_cons_of_length_pos (zero_lt_of_lt hccd)
  have hthreads : (b.socket f masks smt).firstCoreThreads =
      if ((b.socket f masks smt).ccds.head?.any (f.smtEnabled ·.physCcdNumber)) && !smt then 2 else 1 := rfl
  have hmem : info ∈ (b.socket f masks smt).ccds := hccds ▸ mem_cons_self
  obtain ⟨first, hfirst, hsome⟩ := mem_ccds_iff.mp hmem
  obtain rfl := some.inj ((ccdOf_eq_some (hsome ▸ rfl)).symm.trans hsome)
  unfold threadCount
  rw [hthreads, hccds, if_neg (cons_ne_nil _ _), head?_cons, any_some, h.smt first hfirst]

theorem exists_met : ∃ masks, (∀ smt, b.socket f (b.firstMasks f) smt = b.socket f masks smt) ∧
    b.AskedByBitMap f (b.socket f masks false) ∧ b.bitMapsMet (b.socket f masks false) = true := by
  have hvars := b.vars_bitMaps h.asked (b.ccdCount_socket_le _ _)
  by_cases hmet : b.bitMapsMet (b.fused f) = true
  · have hwrites : b.writes f (b.fused f) = [] := b.writes_eq_nil_of_met (hvars ▸ hmet)
    exact ⟨fun _ => 0, fun _ => by rw [b.firstMasks_eq_zero hwrites], h.asked, hmet⟩
  · obtain ⟨hdown, hasked, hleft⟩ := h.met.resolve_left hmet
    refine ⟨_, fun smt => topologyOf_congr smt fun ccd hccd hfused => ?_, hasked, hleft⟩
    have heq : b.writes f (b.fused f) = b.allWrites f (b.fused f) := by
      unfold writes socketWrites allWrites
      rw [hvars]
      exact if_pos ⟨by rw [show (b.readVars f (b.fused f)).alreadyDownCored = f.downCored (b.fused f) from rfl, hdown]; rfl,
        by simp [hmet], rfl, rfl, .inr (.inr (b.readVars_available_of_asked h.asked (b.ccdCount_socket_le _ _)))⟩
    have hmem : ⟨ccd, complexesOf b.platform.complexesPerCcd (f.coreDis ccd ||| 0)⟩ ∈ (b.fused f).ccds :=
      mem_ccds_iff.mpr ⟨ccd, hccd, ccdOf_eq_some hfused⟩
    refine (b.addWrites_of_mem heq hmem).trans ?_
    exact b.disMask_bitMaps h.asked (b.ccdCount_socket_le _ _) h.auto _

theorem converges {n : Nat} (hsockets : b.platform.sockets = replicate (n + 1) f) : b.Converges := by
  obtain ⟨masks, hsame, hasked, hmet⟩ := h.exists_met
  apply b.converges_of_settled hsockets
  · apply b.not_cold_of_bitMaps h.asked (b.ccdCount_socket_le _ _) (h.met.imp_right And.left)
    intro _
    exact (h.threadCount_socket h.asked false).trans (by rw [Bool.not_false, Bool.and_true]; rfl)
  · intro smt hsmt
    -- the threads of the first core do not matter for the bitmaps
    have hasked : b.AskedByBitMap f (b.socket f masks smt) := hasked
    have hmet : b.bitMapsMet (b.socket f masks smt) = true := hmet
    have hvars := b.vars_bitMaps hasked (b.ccdCount_socket_le _ _)
    dsimp only
    rw [hsame]
    refine ⟨b.not_cold_of_bitMaps hasked (b.ccdCount_socket_le _ _) (.inl hmet) fun hmode => ?_,
      b.writes_eq_nil_of_met (hvars ▸ hmet), ?_⟩
    · rw [h.threadCount_socket hasked]
      cases smt with
      | true => exact absurd (hmode.symm.trans (hsmt rfl)) (by decide)
      | false => simp [Fuses.thrdPerCore]
    · unfold disablesSmt
      rw [vars_threadCount, vars_threadCount, h.threadCount_socket hasked,
        show (b.fused f).threadCount = _ from h.threadCount_socket h.asked false]
      cases smt <;> simp

end BitMapsFit

/-! ## No request -/

/-- Nothing is asked for, whatever the fuses of the sockets are. In automatic mode no socket may look down-cored, unless
one is limited by xAPIC mode, and the threads of the last socket are those of its fuse. -/
structure NothingAsked : Prop where
  maps : ∀ ccd < maxCcdsPerSocket, b.input.amdCoreDisCcd ccd = 0
  request : b.ccdRequest.2 = 0 ∧ b.coreRequest.2 = 0
  auto : b.modesAuto → (∀ f ∈ b.platform.sockets, f.downCored (b.fused f) = false) ∨
    ∃ f ∈ b.platform.sockets, b.xApicLimited f (b.fused f) = true
  last : ∃ f, b.platform.sockets.getLast? = some f ∧
    (b.input.amdSmtMode = 1 → (b.fused f).threadCount = f.thrdPerCore)

/-- The variables while nothing is asked for. -/
structure Quiet (v : DownCoreVars) : Prop where
  ccdDisMask : v.ccdDisMask = 0
  coreDisMask : v.coreDisMask = 0
  maps : ∀ ccd, v.downCoreBitMap ccd = 0
  available : v.downCoreBitMapAvailable = false
  met : v.met = true

def readAll (sockets : List (Fuses × SocketTopology)) (v : DownCoreVars) : DownCoreVars :=
  sockets.foldl (fun v p => readTopology b.input b.platform.sockets.length p.1 p.2 v) v

section
variable {b} {v : DownCoreVars} {sockets : List (Fuses × SocketTopology)}

theorem Quiet.read (hmaps : ∀ ccd < maxCcdsPerSocket, b.input.amdCoreDisCcd ccd = 0) (ht : t.ccdCount ≤ maxCcdsPerSocket)
    (hv : Quiet v) : Quiet (readTopology b.input b.platform.sockets.length f t v) := by
  have hmap : ∀ ccd, (if ccd < t.ccdCount then (b.input.amdCoreDisCcd ccd).setWidth 32 else v.downCoreBitMap ccd) = 0 := by
    intro ccd
    split_ifs with hccd
    · rw [hmaps ccd (by omega)]
      rfl
    · exact hv.maps ccd
  unfold readTopology
  constructor
  case maps => exact hmap
  all_goals simp [hv.ccdDisMask, hv.coreDisMask, hv.available, hv.met, hmap]

theorem Quiet.decideSocket_eq (hv : Quiet (readTopology b.input b.platform.sockets.length f t v)) :
    decideSocket b.input b.platform.sockets.length f t v = readTopology b.input b.platform.sockets.length f t v ∧
      socketWrites t (readTopology b.input b.platform.sockets.length f t v) = [] := by
  unfold decideSocket socketWrites
  simp [hv.ccdDisMask, hv.coreDisMask, hv.available, hv.met]

theorem Quiet.socketLoop_eq (hmaps : ∀ ccd < maxCcdsPerSocket, b.input.amdCoreDisCcd ccd = 0)
    (ht : ∀ p ∈ sockets, p.2.ccdCount ≤ maxCcdsPerSocket) (hv : Quiet v) (socket : Nat)
    (writes : List (Nat × Nat × BitVec 32)) :
    socketLoop b.input b.platform.sockets.length socket sockets v writes = (b.readAll sockets v, writes) ∧
      Quiet (b.readAll sockets v) := by
  induction sockets generalizing v socket writes with
  | nil => exact ⟨rfl, hv⟩
  | cons p sockets ih =>
    rw [forall_mem_cons] at ht
    have hread := hv.read (f := p.1) hmaps ht.1
    obtain ⟨hdecide, hwrites⟩ := hread.decideSocket_eq
    unfold socketLoop
    simp only [hdecide, hwrites, map_nil, append_nil]
    exact ih ht.2 hread (socket + 1) writes

theorem readAll_alreadyDownCored : (b.readAll sockets v).alreadyDownCored =
    (v.alreadyDownCored || sockets.any fun p => p.1.downCored p.2) := by
  induction sockets generalizing v with
  | nil => simp [readAll]
  | cons p sockets ih =>
    rw [any_cons, ← Bool.or_assoc]
    exact ih

theorem readAll_ccdMode : (b.readAll sockets v).ccdMode =
    if sockets.any (fun p => b.xApicLimited p.1 p.2) then 8 else v.ccdMode := by
  induction sockets generalizing v with
  | nil => simp [readAll]
  | cons p sockets ih =>
    refine (ih (v := readTopology b.input b.platform.sockets.length p.1 p.2 v)).trans ?_
    have hmode : (readTopology b.input b.platform.sockets.length p.1 p.2 v).ccdMode =
      if b.xApicLimited p.1 p.2 then 8 else v.ccdMode := rfl
    rw [hmode, any_cons]
    cases b.xApicLimited p.1 p.2 with
    | true => simp
    | false => rfl

theorem auto_of_readAll (h : (b.readAll sockets v).downCoreMode = .auto) : v.downCoreMode = .auto := by
  induction sockets generalizing v with
  | nil => exact h
  | cons p sockets ih =>
    have hread := ih h
    unfold readTopology at hread
    dsimp only at hread
    split_ifs at hread
    exact hread

theorem readAll_last {p : Fuses × SocketTopology} (h : sockets.getLast? = some p) :
    (b.readAll sockets v).threadCount = p.2.threadCount ∧ (b.readAll sockets v).thrdPerCoreFuse = p.1.thrdPerCore := by
  obtain ⟨front, rfl⟩ := getLast?_eq_some_iff.mp h
  unfold readAll
  rw [foldl_append]
  exact ⟨rfl, rfl⟩

end

theorem threadCount_smtDisabled (masks : Nat → BitVec 32) : (b.socket f masks true).threadCount ≤ 1 := by
  have hthreads : (b.socket f masks true).firstCoreThreads = 1 := by simp [socket, topologyOf]
  unfold threadCount
  rw [hthreads]
  split_ifs <;> decide

namespace NothingAsked
variable {b} (h : b.NothingAsked) {s : BootState} (hmode : s.smtDisabled = true → b.input.amdSmtMode = 0)
include h hmode

theorem not_cold {w : DownCoreVars} (hw : b.readAll (b.platform.sockets.map fun f =>
    (f, b.socket f (fun _ => 0) s.smtDisabled)) (.start b.input b.stack) = w) (hquiet : Quiet w) :
    wantsColdReset b.input w = false ∧
      (b.input.amdSmtMode = 0 → w.threadCount > 1 → s.smtDisabled = false) := by
  obtain ⟨f, hlast, hthreads⟩ := h.last
  have hsockets : (b.platform.sockets.map fun f => (f, b.socket f (fun _ => 0) s.smtDisabled)).getLast? =
      some (f, b.socket f (fun _ => 0) s.smtDisabled) := by
    rw [getLast?_map, hlast]
    rfl
  obtain ⟨hcount, hfuse⟩ := hw ▸ readAll_last hsockets
  refine ⟨?_, fun _ hmany => ?_⟩
  · unfold wantsColdReset
    rw [decide_eq_false_iff_not]
    rintro (⟨hmet, -⟩ | ⟨hccd, hcore, hdown, -⟩ | ⟨hsmt, hne⟩)
    · simp [hquiet.met] at hmet
    · rw [← hw, readAll_ccdMode] at hccd
      rw [← hw, readAll_alreadyDownCored] at hdown
      split_ifs at hccd with hlimited
      · cases hccd
      rcases h.auto ⟨hccd, auto_of_readAll (hw ▸ hcore)⟩ with hup | ⟨f, hf, hlimit⟩
      · obtain ⟨p, hp, hdown⟩ := any_eq_true.mp hdown
        obtain ⟨f, hf, rfl⟩ := mem_map.mp hp
        exact absurd ((hup f hf).symm.trans hdown) (by decide)
      · exact hlimited (any_eq_true.mpr ⟨_, mem_map_of_mem hf, hlimit⟩)
    · cases hdisabled : s.smtDisabled with
      | true => exact absurd (hsmt.symm.trans (hmode hdisabled)) (by decide)
      | false =>
        rw [hdisabled] at hcount
        exact hne (hcount.trans ((hthreads hsmt).trans hfuse.symm))
  · cases hdisabled : s.smtDisabled with
    | true =>
      rw [hcount, hdisabled] at hmany
      exact absurd (b.threadCount_smtDisabled _) (Nat.not_le.mpr hmany)
    | false => rfl

/-- A boot changes nothing but SMT, which the next boot finds disabled. -/
theorem boot_eq (hmasks : s.masks = fun _ _ => 0) (hbist : b.bist s = false) : (b.boot s).writes = [] ∧
    (b.boot s).status = (if (b.boot s).smtDisabled then .silResetRequestWarmImm else .silPass) ∧
    ((b.boot s).smtDisabled = true → s.smtDisabled = false ∧ b.input.amdSmtMode = 0) := by
  have htopology : b.platform.topology s = b.platform.sockets.map fun f => (f, b.socket f (fun _ => 0) s.smtDisabled) := by
    unfold Platform.topology socket
    rw [hmasks]
    exact ext_getElem (by simp) fun i _ _ => by simp
  have hcount : ∀ p ∈ b.platform.topology s, p.2.ccdCount ≤ maxCcdsPerSocket := by
    rw [htopology]
    intro p hp
    obtain ⟨f, -, rfl⟩ := mem_map.mp hp
    exact b.ccdCount_socket_le _ _
  have hstart : Quiet (.start b.input b.stack) := ⟨h.request.1, h.request.2, fun _ => rfl, rfl, rfl⟩
  obtain ⟨hloop, hquiet⟩ := hstart.socketLoop_eq h.maps hcount 0 []
  have hlength : (b.platform.topology s).length = b.platform.sockets.length := by simp [Platform.topology]
  obtain ⟨hcold, hsmt⟩ := h.not_cold hmode (congrArg (b.readAll · _) htopology.symm) hquiet
  unfold boot ccxDownCoreInit
  rw [hbist, hlength]
  simp only [Bool.false_eq_true, if_false, hloop, hcold, ne_eq, not_true_eq_false, false_or, true_and]
  intro hdisabled
  obtain ⟨hzero, hmany, -⟩ := of_decide_eq_true hdisabled
  exact ⟨hsmt hzero hmany, hzero⟩

theorem returns (hmasks : s.masks = fun _ _ => 0) (hdone : b.bist s = false → (b.boot s).smtDisabled = false) :
    ∃ status, Loop.Returns b.turn s status := by
  cases hbist : b.bist s with
  | true => exact ⟨.silDeviceError, (Loop.returns_done_iff (by simp [turn, boot, ccxDownCoreInit, hbist])).mpr rfl⟩
  | false =>
    have hstatus := (h.boot_eq hmode hmasks hbist).2.1
    rw [hdone hbist] at hstatus
    exact ⟨.silPass, (Loop.returns_done_iff (by simp [turn, hstatus])).mpr rfl⟩

omit hmode in
theorem converges : b.Converges := by
  by_cases hdone : b.bist .fused = false → (b.boot .fused).smtDisabled = false
  · exact h.returns (fun hdisabled => by cases hdisabled) rfl hdone
  · -- The second boot finds the same cores, and no SMT.
    obtain ⟨hbist, hdisabled⟩ := Classical.not_imp.mp hdone
    obtain ⟨hwrites, hstatus, hsmt⟩ := h.boot_eq (s := .fused) (fun hdisabled => by cases hdisabled) rfl hbist
    rw [Bool.not_eq_false] at hdisabled
    rw [hdisabled] at hstatus
    have hmasks : (BootState.fused.after (b.boot .fused)).masks = fun _ _ => 0 := by
      unfold BootState.after
      rw [hwrites]
      rfl
    have hafter : (BootState.fused.after (b.boot .fused)).smtDisabled = true := hdisabled
    obtain ⟨status, hreturns⟩ := h.returns (fun _ => (hsmt hdisabled).2) hmasks fun hbist' => by
      rw [← Bool.not_eq_true]
      intro hagain
      have hclear := ((h.boot_eq (fun _ => (hsmt hdisabled).2) hmasks hbist').2.2 hagain).1
      exact absurd (hafter.symm.trans hclear) (by decide)
    exact ⟨status, (Loop.returns_next_iff (by simp only [turn, hstatus, if_true])).mpr hreturns⟩

end NothingAsked

end Boots

/-! ## Convergence -/

def allFused : Fuses := ⟨0xFFF, 0, fun _ => 0, fun _ => true⟩

def boots (downCoreMode : DownCoreMode) (amdCoreDisCcd : Nat → BitVec 16) : Boots :=
  ⟨⟨[allFused], 1, by decide, by decide⟩, ⟨2, downCoreMode, 1, 0, amdCoreDisCcd⟩, (0, 0), fun _ => false, .silPass⟩

/-- A second socket in which the upper four CCDs are down. -/
def unequalBoots : Boots :=
  ⟨⟨[allFused, ⟨0xFFF, 0xF00, fun _ => 0, fun _ => true⟩], 1, by decide, by decide⟩, ⟨2, .auto, 1, 0, fun _ => 0⟩, (0, 0),
    fun _ => false, .silPass⟩

def core0Boots : Boots := boots .auto fun ccd => if ccd = 0 then 1 else 0

def core0Masked : BootState := ⟨fun socket ccd => if socket = 0 ∧ ccd = 0 then 1 else 0, false⟩

theorem turn_fused : core0Boots.turn .fused = .next core0Masked := by
  have hstatus : (core0Boots.boot .fused).status = .silResetRequestWarmImm := by decide +kernel
  have hwrites : (core0Boots.boot .fused).writes = [(0, 0, 1)] := by decide +kernel
  have hsmt : (core0Boots.boot .fused).smtDisabled = false := by decide +kernel
  have hafter : BootState.fused.after (core0Boots.boot .fused) = core0Masked := by
    unfold BootState.after core0Masked
    rw [hwrites, hsmt]
    congr 1
    funext socket ccd
    simp only [foldl_cons, foldl_nil, BootState.fused, eq_comm]
    split_ifs <;> rfl
  simp only [Boots.turn, hstatus, hafter]

theorem turn_core0Masked : core0Boots.turn core0Masked = .next .fused := by
  have hstatus : (core0Boots.boot core0Masked).status = .silResetRequestColdImm := by decide +kernel
  simp only [Boots.turn, hstatus]

end OpenSil.Ccx
