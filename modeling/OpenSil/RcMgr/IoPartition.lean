import OpenSil.Lib.Tiling
import OpenSil.RcMgr.Io

/-! # IO space is partitioned -/

namespace OpenSil.RcMgr

open Word Tiling Chain List IoWindow

/-! ## The windows of the walk -/

def ioPlaces (plan : IoPlan) (df : DfAnswers) : UInt32 → List (Nat × Nat) → List IoWindow
  | _, [] => []
  | ioBaseForOthers, rb :: rbs =>
    let placed := plan.place df ioBaseForOthers rb rbs.isEmpty
    placed.1 :: ioPlaces plan df placed.2 rbs

def ioWindows (plan : IoPlan) (df : DfAnswers) (ioBaseForOthers : UInt32) (rbs : List (Nat × Nat)) : List IoWindow :=
  (ioPlaces plan df ioBaseForOthers rbs).filter fun w => !(plan.skipsEmpty && w.ioSize == 0)

theorem ioWindows_cons (plan : IoPlan) (df : DfAnswers) (ioBaseForOthers : UInt32) (rb : Nat × Nat)
    (rbs : List (Nat × Nat)) :
    ioWindows plan df ioBaseForOthers (rb :: rbs) =
      let placed := plan.place df ioBaseForOthers rb rbs.isEmpty
      if plan.skipsEmpty && placed.1.ioSize == 0 then ioWindows plan df placed.2 rbs
      else placed.1 :: ioWindows plan df placed.2 rbs := by
  unfold ioWindows
  rw [ioPlaces, filter_cons]
  dsimp only
  cases plan.skipsEmpty && (plan.place df ioBaseForOthers rb rbs.isEmpty).1.ioSize == 0 <;> rfl

def programAll (blk : InputBlk) (df : DfAnswers) : UInt8 → List IoWindow → IoState → IoState
  | _, [], s => s
  | regIndex, w :: ws, s => programAll blk df (regIndex + 1) ws (programIo blk df regIndex s w)

variable {blk : InputBlk} {df : DfAnswers} {plan : IoPlan} {rb : Nat × Nat}

theorem foldl_ioStep {logs : List (Nat × Nat)} (hlast : LastOnly (isLastRb blk) logs)
    (hset : plan.setDfRegisters = true) (s : IoWalk) :
    (logs.foldl (ioStep blk df plan) s).state = programAll blk df s.regIndex
      (ioWindows plan df s.ioBaseForOthers (logs.map (dfXSilGetPhySktRbNum df))) s.state := by
  induction logs generalizing s with
  | nil => rfl
  | cons log logs ih =>
    obtain ⟨hlog, hlogs⟩ := hlast.cons
    have hlog' : (decide (log.1 + 1 = blk.socketNumber.toNat ∧ log.2 + 1 = blk.rbsPerSocket.toNat)) =
        (logs.map (dfXSilGetPhySktRbNum df)).isEmpty := by
      rw [isEmpty_map]
      exact hlog
    rw [foldl_cons, ih hlogs, map_cons, ioWindows_cons]
    unfold ioStep
    simp only [hlog', hset, if_true]
    split_ifs <;> rfl

/-! ## The registers and the manager -/

variable {ws : List IoWindow} {regIndex : UInt8} {s : IoState}

theorem toNat_regIndex_succ (h : regIndex.toNat < 255) : (regIndex + 1).toNat = regIndex.toNat + 1 := by
  rw [UInt8.toNat_add]
  exact Nat.mod_eq_of_lt (by simp; omega)

theorem programAll_regs_other {i p : Nat} (hlen : regIndex.toNat + ws.length < 256)
    (h : blk.socketNumber.toNat ≤ i ∨ p < regIndex.toNat ∨ regIndex.toNat + ws.length ≤ p) :
    (programAll blk df regIndex ws s).regs i p = s.regs i p := by
  induction ws generalizing regIndex s with
  | nil => rfl
  | cons w ws ih =>
    rw [length_cons] at hlen h
    have hsucc : (regIndex + 1).toNat = regIndex.toNat + 1 := toNat_regIndex_succ (by omega)
    have hthis : (programIo blk df regIndex s w).regs i p = s.regs i p := by
      unfold programIo silSetIoReg4
      exact if_neg (by omega)
    rw [programAll, ih (by omega) (by omega), hthis]

variable {w : IoWindow}

theorem programAll_regs {j : Nat} (hlen : regIndex.toNat + ws.length < 256) (hw : ws[j]? = some w)
    {i : Nat} (hi : i < blk.socketNumber.toNat) :
    (programAll blk df regIndex ws s).regs i (regIndex.toNat + j) = ioPairFor df w.rb w.ioBase w.ioSize := by
  induction ws generalizing regIndex s j with
  | nil => simp at hw
  | cons w' ws ih =>
    rw [length_cons] at hlen
    have hsucc : (regIndex + 1).toNat = regIndex.toNat + 1 := toNat_regIndex_succ (by omega)
    rw [programAll]
    cases j with
    | zero =>
      obtain rfl : w' = w := by simpa using hw
      rw [programAll_regs_other (by omega) (by omega)]
      unfold programIo silSetIoReg4
      exact if_pos ⟨hi, rfl⟩
    | succ j =>
      have hindex : regIndex.toNat + (j + 1) = (regIndex + 1).toNat + j := by omega
      rw [hindex]
      exact ih (by omega) (by simpa using hw)

theorem programAll_region_other {rb : Nat × Nat} (h : rb ∉ ws.map IoWindow.rb) :
    (programAll blk df regIndex ws s).manager.ioRegion rb.1 rb.2 = s.manager.ioRegion rb.1 rb.2 := by
  induction ws generalizing regIndex s with
  | nil => rfl
  | cons w ws ih =>
    rw [map_cons, mem_cons, not_or] at h
    rw [programAll, ih h.2]
    exact Table.set_of_ne _ _ fun heq => h.1 (Prod.ext heq.1 heq.2)

theorem programAll_region (hnodup : (ws.map IoWindow.rb).Nodup) (hw : w ∈ ws) :
    (programAll blk df regIndex ws s).manager.ioRegion w.rb.1 w.rb.2 = w.region df := by
  induction ws generalizing regIndex s with
  | nil => simp at hw
  | cons w' ws ih =>
    rw [map_cons, nodup_cons] at hnodup
    rw [programAll]
    rcases mem_cons.mp hw with rfl | hw
    · rw [programAll_region_other hnodup.1]
      exact Table.set_self _ _ _ _
    · exact ih hnodup.2 hw

/-! ## What a register pair decodes to -/

def IoPair.start (p : IoPair) : Nat := bits p.base 16 13 * 0x1000

def IoPair.stop (p : IoPair) : Nat := (bits p.limit 16 13 + 1) * 0x1000

theorem toNat_ioPage (address : UInt32) :
    (((address &&& 0xFFFFF000) >>> 12) &&& 0x1FFF).toNat = address.toNat / 0x1000 % 0x2000 := by
  have hshift : (((address &&& 0xFFFFF000) >>> 12)).toNat = address.toNat / 2 ^ 12 % 2 ^ 20 := by
    rw [UInt32.toNat_shiftRight, UInt32.toNat_and]
    show (address.toNat &&& 0xFFFFF000) >>> 12 = _
    rw [Nat.shiftRight_and_distrib, Nat.shiftRight_eq_div_pow]
    exact Nat.and_two_pow_sub_one_eq_mod _ 20
  rw [UInt32.toNat_and, hshift]
  show address.toNat / 2 ^ 12 % 2 ^ 20 &&& (2 ^ 13 - 1) = _
  rw [Nat.and_two_pow_sub_one_eq_mod, Nat.mod_mod_of_dvd _ (by decide)]
  rfl

section
variable {low : UInt32} (hlow : low.toNat < 2 ^ 16) (address : UInt32)
include hlow

theorem toNat_ioRegister :
    (ioRegister low address).toNat = (address.toNat / 0x1000 % 0x2000) * 2 ^ 16 + low.toNat := by
  have hpage := toNat_ioPage address
  rw [ioRegister, toNat_or_shiftLeft_sixteen hlow (by omega), hpage]

theorem bits_ioRegister :
    bits (ioRegister low address) 16 13 = address.toNat / 0x1000 % 0x2000 := by
  unfold bits
  rw [toNat_ioRegister hlow]
  omega

end

variable {ioBase ioSize : UInt32}

theorem fabricID_lt (df : DfAnswers) (rb : Nat × Nat) :
    (df.hostBridgeSystemFabricID rb.1 rb.2 &&& 0xFFF).toNat < 2 ^ 16 := by
  rw [UInt32.toNat_and]
  exact Nat.and_le_right.trans_lt (by decide)

theorem ioPairFor_start (hbase : 0x1000 ∣ ioBase.toNat) (hlt : ioBase.toNat < 0x2000000) :
    (ioPairFor df rb ioBase ioSize).start = ioBase.toNat := by
  unfold IoPair.start ioPairFor
  rw [bits_ioRegister (by decide)]
  omega

theorem ioPairFor_stop (hbase : 0x1000 ∣ ioBase.toNat) (hsize : 0x1000 ∣ ioSize.toNat) (hpos : 0 < ioSize.toNat)
    (hle : ioBase.toNat + ioSize.toNat ≤ 0x2000000) :
    (ioPairFor df rb ioBase ioSize).stop = ioBase.toNat + ioSize.toNat := by
  have hlast : (ioBase + ioSize - 1).toNat = ioBase.toNat + ioSize.toNat - 1 := by
    have hadd : (ioBase + ioSize).toNat = ioBase.toNat + ioSize.toNat := by
      rw [UInt32.toNat_add]
      exact Nat.mod_eq_of_lt (by omega)
    rw [UInt32.toNat_sub_of_le _ _ (by rw [UInt32.le_iff_toNat_le, hadd]; simp; omega), hadd]
    rfl
  unfold IoPair.stop ioPairFor
  rw [bits_ioRegister (fabricID_lt df rb), hlast]
  omega

/-! ## The windows fill IO space -/

/-- A window in whole pages, and a region of it that x86 can reach and that leaves out the legacy block. -/
structure IoWindow.Good (df : DfAnswers) (w : IoWindow) : Prop where
  base_dvd : 0x1000 ∣ w.ioBase.toNat
  size_dvd : 0x1000 ∣ w.ioSize.toNat
  pos : 0 < w.ioSize.toNat
  le : w.ioBase.toNat + w.ioSize.toNat ≤ 0x2000000
  legacy : 0x1000 ≤ (w.region df).ioBase.toNat
  base_le : w.ioBase.toNat ≤ (w.region df).ioBase.toNat
  reachable : (w.region df).ioBase.toNat + (w.region df).ioSize.toNat ≤ 0x10000
  inside : (w.region df).ioBase.toNat + (w.region df).ioSize.toNat ≤ w.ioBase.toNat + w.ioSize.toNat

/-- What the walk needs of the shares: whole pages, with the last root bridge still in the 64K of x86. -/
structure IoPlan.Fits (plan : IoPlan) (base : Nat) (rbs : List (Nat × Nat)) : Prop where
  dvd : ∀ rb ∈ rbs, 0x1000 ∣ (plan.share rb).toNat
  ne_zero : ∀ rb ∈ rbs, plan.skipsEmpty = true ∨ plan.share rb ≠ 0
  lt : base + (rbs.dropLast.map fun rb => (plan.share rb).toNat).sum < 0x10000

variable {rbs : List (Nat × Nat)}

section
variable {base : Nat} (h : plan.Fits base (rb :: rbs)) (hrbs : rbs ≠ [])
include h hrbs

theorem IoPlan.Fits.lt_cons :
    base + (plan.share rb).toNat + (rbs.dropLast.map fun rb => (plan.share rb).toNat).sum < 0x10000 := by
  have := h.lt
  rw [dropLast_cons_of_ne_nil hrbs, map_cons, sum_cons] at this
  omega

theorem IoPlan.Fits.tail :
    plan.Fits (base + (plan.share rb).toNat) rbs where
  dvd := fun x hx => h.dvd x (mem_cons_of_mem _ hx)
  ne_zero := fun x hx => h.ne_zero x (mem_cons_of_mem _ hx)
  lt := h.lt_cons hrbs

end

theorem toNat_dfIoLimit_sub (hlt : ioBase.toNat < 0x10000) : (dfIoLimit - ioBase).toNat = 0x2000000 - ioBase.toNat :=
  UInt32.toNat_sub_of_le _ _ (by rw [UInt32.le_iff_toNat_le]; exact hlt.le.trans (by decide))

theorem good_last (hrb : rb ≠ primaryRb df) (hdvd : 0x1000 ∣ ioBase.toNat) (hlegacy : 0x1000 ≤ ioBase.toNat)
    (hlt : ioBase.toNat < 0x10000) : (mk rb ioBase (dfIoLimit - ioBase) true).Good df := by
  have hsize := toNat_dfIoLimit_sub hlt
  have hregion : (x86IoLimit - ioBase).toNat = 0x10000 - ioBase.toNat :=
    UInt32.toNat_sub_of_le _ _ (by rw [UInt32.le_iff_toNat_le]; exact hlt.le)
  constructor <;> simp only [region, if_neg hrb, if_true, hsize, hregion] <;> omega

theorem good_other {ioSize : UInt32} (hrb : rb ≠ primaryRb df) (hdvd : 0x1000 ∣ ioBase.toNat)
    (hsize : 0x1000 ∣ ioSize.toNat) (hpos : 0 < ioSize.toNat) (hlegacy : 0x1000 ≤ ioBase.toNat)
    (hlt : ioBase.toNat + ioSize.toNat < 0x10000) : (mk rb ioBase ioSize false).Good df := by
  constructor <;> simp only [region, if_neg hrb, Bool.false_eq_true, if_false] <;> omega

theorem ioWindows_others (hprimary : primaryRb df ∉ rbs) (hne : rbs ≠ []) (hfits : plan.Fits ioBase.toNat rbs)
    (hdvd : 0x1000 ∣ ioBase.toNat) (hlegacy : 0x1000 ≤ ioBase.toNat) :
    Tiles (fun w => w.ioBase.toNat) (fun w => w.ioSize.toNat) ioBase.toNat (ioWindows plan df ioBase rbs) 0x2000000 ∧
    (∀ w ∈ ioWindows plan df ioBase rbs, w.Good df) ∧ ((ioWindows plan df ioBase rbs).map IoWindow.rb).Sublist rbs := by
  induction rbs generalizing ioBase with
  | nil => exact absurd rfl hne
  | cons rb rbs ih =>
    rw [mem_cons, not_or] at hprimary
    have hrb : rb ≠ primaryRb df := fun h => hprimary.1 h.symm
    rcases eq_or_ne rbs [] with rfl | hrest
    · -- The last root bridge is never skipped.
      have hlt : ioBase.toNat < 0x10000 := hfits.lt
      have hgood : (mk rb ioBase (dfIoLimit - ioBase) true).Good df := good_last hrb hdvd hlegacy hlt
      have hsize : dfIoLimit - ioBase ≠ 0 := fun h => by
        have hpos := hgood.pos
        rw [h] at hpos
        exact Nat.lt_irrefl 0 hpos
      have hws : ioWindows plan df ioBase [rb] = [⟨rb, ioBase, dfIoLimit - ioBase, true⟩] := by
        simp [ioWindows, ioPlaces, IoPlan.place, hrb, hsize]
      have hend : ioBase.toNat + (dfIoLimit - ioBase).toNat = 0x2000000 := by
        rw [toNat_dfIoLimit_sub hlt]
        omega
      rw [hws]
      exact ⟨⟨rfl, hend⟩, by simpa using hgood, .refl _⟩
    · have hlt := hfits.lt_cons hrest
      have hnext : (ioBase + plan.share rb).toNat = ioBase.toNat + (plan.share rb).toNat := by
        rw [UInt32.toNat_add]
        exact Nat.mod_eq_of_lt (by omega)
      have hshare := hfits.dvd rb mem_cons_self
      have hfits' : plan.Fits (ioBase + plan.share rb).toNat rbs := hnext ▸ hfits.tail hrest
      obtain ⟨htiles, hgood, hsub⟩ := ih hprimary.2 hrest hfits' (by omega) (by omega)
      rw [hnext] at htiles
      have hplace : plan.place df ioBase rb rbs.isEmpty =
          (⟨rb, ioBase, plan.share rb, false⟩, ioBase + plan.share rb) := by
        simp [IoPlan.place, hrb, hrest]
      rw [ioWindows_cons, hplace]
      dsimp only
      split_ifs with hskip
      · simp_all
      · have hpos : 0 < (plan.share rb).toNat := by
          rw [Nat.pos_iff_ne_zero]
          intro hzero
          have hzero : plan.share rb = 0 := UInt32.toNat_inj.mp hzero
          rcases hfits.ne_zero rb mem_cons_self with h | h
          · exact hskip (by simp [h, hzero])
          · exact h hzero
        refine ⟨⟨rfl, htiles⟩, ?_, hsub.cons_cons rb⟩
        exact forall_mem_cons.mpr ⟨good_other hrb hdvd hshare hpos hlegacy (by omega), hgood⟩

theorem ioWindows_primary (ioBase : UInt32)
    (hsize : plan.ioSizeForPrimaryRb = plan.share (primaryRb df) + x86LegacyIoSize)
    (hshare : 0x1000 ∣ (plan.share (primaryRb df)).toNat) (hlt : (plan.share (primaryRb df)).toNat + 0x1000 < 0x10000)
    (hrbs : rbs ≠ []) : ∃ w, ioWindows plan df ioBase (primaryRb df :: rbs) = w :: ioWindows plan df ioBase rbs ∧
      w.Good df ∧ w.rb = primaryRb df ∧ w.ioBase = 0 ∧ w.ioSize = plan.ioSizeForPrimaryRb ∧
      w.ioSize.toNat = (plan.share (primaryRb df)).toNat + 0x1000 := by
  have htotal : plan.ioSizeForPrimaryRb.toNat = (plan.share (primaryRb df)).toNat + 0x1000 := by
    rw [hsize, UInt32.toNat_add]
    exact Nat.mod_eq_of_lt (by change _ + 0x1000 < 2 ^ 32; omega)
  have hne : plan.ioSizeForPrimaryRb ≠ 0 := fun h => by
    rw [h] at htotal
    exact absurd htotal (Nat.succ_ne_zero _).symm
  refine ⟨⟨primaryRb df, 0, plan.ioSizeForPrimaryRb, false⟩, ?_, ?_, rfl, rfl, rfl, htotal⟩
  · simp [ioWindows_cons, IoPlan.place, hrbs, hne]
  · have hregion : (mk (primaryRb df) 0 plan.ioSizeForPrimaryRb false).region df =
        ⟨x86LegacyIoSize, plan.share (primaryRb df), 0⟩ := by
      simp [region, hsize]
    have hlegacy : x86LegacyIoSize.toNat = 0x1000 := rfl
    have hzero : (0 : UInt32).toNat = 0 := rfl
    constructor <;> simp only [hregion, htotal, hlegacy, hzero] <;> omega

/-! ## The partition -/

/-- The pairs 0, 1 … of every socket route IO space to these root bridges: the windows are apart and fill the space, the
first one is the primary root bridge's, and the regions that are recorded lie in them. -/
structure IoPartition (blk : InputBlk) (df : DfAnswers) (s s' : IoState) (rbs : List (Nat × Nat)) : Prop where
  nodup : rbs.Nodup
  bridges : ∀ rb ∈ rbs, rb ∈ rootBridges blk
  pairs : rbs.length ≤ 8
  others : ∀ i p, blk.socketNumber.toNat ≤ i ∨ rbs.length ≤ p → s'.regs i p = s.regs i p
  enabled : ∀ i p, i < blk.socketNumber.toNat → p < rbs.length →
    bits (s'.regs i p).base 0 1 = 1 ∧ bits (s'.regs i p).base 1 1 = 1
  routed : ∀ i p rb, i < blk.socketNumber.toNat → rbs[p]? = some rb →
    bits (s'.regs i p).limit 0 12 = (df.hostBridgeSystemFabricID rb.1 rb.2 &&& 0xFFF).toNat
  disjoint : ∀ i p p', i < blk.socketNumber.toNat → p < rbs.length → p' < rbs.length → p ≠ p' →
    (s'.regs i p).stop ≤ (s'.regs i p').start ∨ (s'.regs i p').stop ≤ (s'.regs i p).start
  covers : ∀ i a, i < blk.socketNumber.toNat →
    (a < 0x2000000 ↔ ∃ p, p < rbs.length ∧ (s'.regs i p).start ≤ a ∧ a < (s'.regs i p).stop)
  primary : rbs[0]? = some (primaryRb df) ∧
    ∀ i, i < blk.socketNumber.toNat → (s'.regs i 0).start = 0 ∧ 0x1000 ≤ (s'.regs i 0).stop
  regions : ∀ i p rb, i < blk.socketNumber.toNat → rbs[p]? = some rb → (s'.manager.ioRegion rb.1 rb.2).ioSize ≠ 0 →
    let region := s'.manager.ioRegion rb.1 rb.2
    (s'.regs i p).start ≤ region.ioBase.toNat ∧ region.ioBase.toNat + region.ioSize.toNat ≤ (s'.regs i p).stop ∧
    0x1000 ≤ region.ioBase.toNat ∧ region.ioBase.toNat + region.ioSize.toNat ≤ 0x10000
  unrecorded : ∀ rb, rb ∉ rbs → s'.manager.ioRegion rb.1 rb.2 = s.manager.ioRegion rb.1 rb.2

theorem bits_ioPairFor (df : DfAnswers) (rb : Nat × Nat) (ioBase ioSize : UInt32) :
    bits (ioPairFor df rb ioBase ioSize).base 0 1 = 1 ∧ bits (ioPairFor df rb ioBase ioSize).base 1 1 = 1 ∧
    bits (ioPairFor df rb ioBase ioSize).limit 0 12 = (df.hostBridgeSystemFabricID rb.1 rb.2 &&& 0xFFF).toNat := by
  have hbase : (ioPairFor df rb ioBase ioSize).base.toNat = ioBase.toNat / 0x1000 % 0x2000 * 2 ^ 16 + 3 :=
    toNat_ioRegister (by decide) ioBase
  have hlimit : (ioPairFor df rb ioBase ioSize).limit.toNat = (ioBase + ioSize - 1).toNat / 0x1000 % 0x2000 * 2 ^ 16 +
      (df.hostBridgeSystemFabricID rb.1 rb.2 &&& 0xFFF).toNat := toNat_ioRegister (fabricID_lt df rb) _
  have hid : (df.hostBridgeSystemFabricID rb.1 rb.2 &&& 0xFFF).toNat < 2 ^ 12 := by
    rw [UInt32.toNat_and]
    exact Nat.and_le_right.trans_lt (by decide)
  unfold bits
  rw [hbase, hlimit]
  refine ⟨by omega, by omega, by omega⟩

theorem IoWindow.Good.start (h : w.Good df) :
    (ioPairFor df w.rb w.ioBase w.ioSize).start = w.ioBase.toNat := by
  have := h.le
  have := h.pos
  exact ioPairFor_start h.base_dvd (by omega)

theorem IoWindow.Good.stop (h : w.Good df) :
    (ioPairFor df w.rb w.ioBase w.ioSize).stop = w.ioBase.toNat + w.ioSize.toNat :=
  ioPairFor_stop h.base_dvd h.size_dvd h.pos h.le

theorem ioPartition_of_windows {s s' : IoState} (hregs : s'.regs = (programAll blk df 0 ws s).regs)
    (hregions : s'.manager.ioRegion = (programAll blk df 0 ws s).manager.ioRegion)
    (htiles : Tiles (fun w => w.ioBase.toNat) (fun w => w.ioSize.toNat) 0 ws 0x2000000)
    (hgood : ∀ w ∈ ws, w.Good df) (hnodup : (ws.map IoWindow.rb).Nodup)
    (hbridges : ∀ rb ∈ ws.map IoWindow.rb, rb ∈ rootBridges blk) (hlen : ws.length ≤ 8)
    (hfirst : ∃ w, ws[0]? = some w ∧ w.rb = primaryRb df ∧ w.ioBase = 0 ∧ 0x1000 ≤ w.ioSize.toNat) :
    IoPartition blk df s s' (ws.map IoWindow.rb) := by
  have hlen' : (0 : UInt8).toNat + ws.length < 256 := by
    rw [UInt8.toNat_zero]
    omega
  have hpair : ∀ {i p : Nat} {w}, i < blk.socketNumber.toNat → ws[p]? = some w →
      s'.regs i p = ioPairFor df w.rb w.ioBase w.ioSize := by
    intro i p w hi hw
    have hpair : (programAll blk df 0 ws s).regs i ((0 : UInt8).toNat + p) = _ := programAll_regs hlen' hw hi
    rwa [UInt8.toNat_zero, Nat.zero_add, ← hregs] at hpair
  have hget : ∀ {p : Nat}, p < (ws.map rb).length → ∃ w, ws[p]? = some w ∧ w ∈ ws := by simp_all
  have hrb : ∀ {p : Nat} {rb}, (ws.map IoWindow.rb)[p]? = some rb → ∃ w, ws[p]? = some w ∧ w ∈ ws ∧ w.rb = rb := by
    grind
  constructor
  case nodup => exact hnodup
  case bridges => exact hbridges
  case pairs => rwa [length_map]
  case others =>
    intro i p h
    rw [length_map] at h
    rw [hregs]
    exact programAll_regs_other hlen' (by rw [UInt8.toNat_zero]; omega)
  case enabled =>
    intro i p hi hp
    obtain ⟨w, hw, -⟩ := hget hp
    rw [hpair hi hw]
    exact ⟨(bits_ioPairFor df w.rb w.ioBase w.ioSize).1, (bits_ioPairFor df w.rb w.ioBase w.ioSize).2.1⟩
  case routed =>
    intro i p rb hi h
    obtain ⟨w, hw, -, rfl⟩ := hrb h
    rw [hpair hi hw]
    exact (bits_ioPairFor df w.rb w.ioBase w.ioSize).2.2
  case disjoint =>
    intro i p p' hi hp hp' hne
    obtain ⟨w, hw, hmem⟩ := hget hp
    obtain ⟨w', hw', hmem'⟩ := hget hp'
    rw [hpair hi hw, hpair hi hw', (hgood w hmem).start, (hgood w hmem).stop, (hgood w' hmem').start,
      (hgood w' hmem').stop]
    rcases htiles.eq_or_disjoint hmem hmem' with rfl | h
    · -- The same window at two places would be one root bridge at two places.
      have hrbp : (ws.map rb)[p]? = some w.rb := by rw [getElem?_map, hw]; rfl
      have hrbp' : (ws.map rb)[p']? = some w.rb := by rw [getElem?_map, hw']; rfl
      exact absurd ((getElem?_inj hp hnodup).mp (hrbp.trans hrbp'.symm)) hne
    · exact h
  case covers =>
    intro i a hi
    constructor
    · intro ha
      obtain ⟨w, hmem, hw⟩ := htiles.covers (Nat.zero_le a) ha
      obtain ⟨p, hp, rfl⟩ := mem_iff_getElem.mp hmem
      refine ⟨p, by rwa [length_map], ?_⟩
      rw [hpair hi (getElem?_eq_getElem hp), (hgood _ hmem).start, (hgood _ hmem).stop]
      exact hw
    · rintro ⟨p, hp, hstart, hstop⟩
      obtain ⟨w, hw, hmem⟩ := hget hp
      rw [hpair hi hw, (hgood w hmem).stop] at hstop
      exact hstop.trans_le (hgood w hmem).le
  case primary =>
    obtain ⟨w, hw, hprimary, hbase, hsize⟩ := hfirst
    have hgood := hgood w (mem_of_getElem? hw)
    refine ⟨by rw [getElem?_map, hw, Option.map_some, hprimary], fun i hi => ?_⟩
    rw [hpair hi hw, hgood.start, hgood.stop, hbase]
    exact ⟨rfl, hsize.trans (Nat.le_add_left _ _)⟩
  case regions =>
    intro i p rb hi h _
    obtain ⟨w, hw, hmem, rfl⟩ := hrb h
    have hgood := hgood w hmem
    rw [hregions, programAll_region hnodup hmem, hpair hi hw, hgood.start, hgood.stop]
    exact ⟨hgood.base_le, hgood.inside, hgood.legacy, hgood.reachable⟩
  case unrecorded =>
    intro rb h
    rw [hregions]
    exact programAll_region_other h

structure PrimaryLowest (blk : InputBlk) (df : DfAnswers) : Prop where
  mem : primaryRb df ∈ rootBridges blk
  lowest : ∀ rb ∈ rootBridges blk, rb ≠ primaryRb df → busBase df (primaryRb df) < busBase df rb

theorem ioWalk_partition (plan : IoPlan) {s s' : IoState} (hcounts : CountsMatch blk df)
    (htwo : 2 ≤ (rootBridges blk).length) (height : (rootBridges blk).length ≤ 8) (hprimary : PrimaryLowest blk df)
    (hset : plan.setDfRegisters = true)
    (hsize : plan.ioSizeForPrimaryRb = plan.share (primaryRb df) + x86LegacyIoSize)
    (hfits : ∀ rbs, rbs.Perm (rootBridges blk) → plan.Fits 0x1000 rbs)
    (hs' : (ioWalk blk df plan plan.ioSizeForPrimaryRb s).state.regs = s'.regs ∧
      (ioWalk blk df plan plan.ioSizeForPrimaryRb s).state.manager.ioRegion = s'.manager.ioRegion) :
    ∃ rbs, IoPartition blk df s s' rbs := by
  obtain ⟨rest, hphy⟩ := hcounts.phy_lowest hprimary.mem hprimary.lowest
  have hperm := hcounts.phy_perm
  rw [hphy] at hperm
  have hnodup := hperm.nodup_iff.mpr (nodup_rootBridges blk)
  have hrest : rest ≠ [] := by
    rintro rfl
    have := hperm.length_eq
    rw [length_singleton] at this
    omega
  have hfits := hfits _ hperm
  have hlt := hfits.lt_cons hrest
  have hshare := hfits.dvd _ mem_cons_self
  obtain ⟨w, hws, hgood, hrb, hbase0, hw, hsize'⟩ :=
    ioWindows_primary plan.ioSizeForPrimaryRb hsize hshare (by omega) hrest
  -- Where the other root bridges start.
  have hbase : plan.ioSizeForPrimaryRb.toNat = 0x1000 + (plan.share (primaryRb df)).toNat := by
    rw [← hw]
    omega
  have hfits' : plan.Fits plan.ioSizeForPrimaryRb.toNat rest := by
    rw [hbase]
    exact hfits.tail hrest
  obtain ⟨htiles, hgoods, hsub⟩ := ioWindows_others (nodup_cons.mp hnodup).1 hrest hfits' (by omega) (by omega)
  have hsub' := hsub.cons_cons (primaryRb df)
  have hstate : (ioWalk blk df plan plan.ioSizeForPrimaryRb s).state = programAll blk df 0
      (w :: ioWindows plan df plan.ioSizeForPrimaryRb rest) s := by
    rw [ioWalk, foldl_ioStep (lastOnly_rootBridges blk) hset, hphy, hws]
  rw [hstate] at hs'
  refine ⟨_, ioPartition_of_windows hs'.1.symm hs'.2.symm ?_ ?_ ?_ ?_ ?_ ?_⟩
  · have hstart : w.ioBase.toNat = 0 := by
      rw [hbase0]
      rfl
    have hnext : 0 + w.ioSize.toNat = plan.ioSizeForPrimaryRb.toNat := by omega
    refine ⟨hstart, ?_⟩
    show Tiles _ _ (0 + w.ioSize.toNat) _ _
    rwa [hnext]
  · exact forall_mem_cons.mpr ⟨hgood, hgoods⟩
  · rw [map_cons, hrb]
    exact hsub'.nodup hnodup
  · grind
  · have hle := hsub'.length_le
    rw [length_cons, length_map, hperm.length_eq] at hle
    exact hle.trans height
  · exact ⟨w, rfl, hrb, hbase0, by omega⟩

theorem length_rootBridges (blk : InputBlk) :
    (rootBridges blk).length = blk.socketNumber.toNat * blk.rbsPerSocket.toNat := by
  simp [rootBridges]

theorem reserveForPrimaryRb_eq (htwo : 2 ≤ (rootBridges blk).length) (hmem : primaryRb df ∈ rootBridges blk)
    (share : UInt32) :
    reserveForPrimaryRb blk df share = (share + x86LegacyIoSize, share + x86LegacyIoSize) := by
  refine if_pos ⟨?_, hmem⟩
  by_contra h
  rw [not_or, not_not, not_not] at h
  rw [length_rootBridges, h.1, h.2] at htwo
  exact absurd htwo (by decide)

theorem dvd_ioRequest (io : Table UInt64) (rb : Nat × Nat) : 0x1000 ∣ (ioRequest io rb).toNat := by
  rw [ioRequest, UInt32.toNat_and]
  show 2 ^ 12 ∣ _
  rw [Nat.dvd_iff_mod_eq_zero, Nat.and_mod_two_pow]
  exact Nat.and_zero _

theorem equalIoShare_spec (htwo : 2 ≤ (rootBridges blk).length) (height : (rootBridges blk).length ≤ 8) :
    0x1000 ∣ (equalIoShare blk).toNat ∧ equalIoShare blk ≠ 0 ∧
      0x1000 + ((rootBridges blk).length - 1) * (equalIoShare blk).toNat < 0x10000 := by
  have hcount : blk.socketNumber.toUInt32 * blk.rbsPerSocket.toUInt32 = .ofNat (rootBridges blk).length := by
    rw [length_rootBridges]
    apply UInt32.toNat_inj.mp
    simp
  unfold equalIoShare
  rw [hcount]
  generalize (rootBridges blk).length = n at htwo height
  interval_cases n <;> decide

/-- IO space is partitioned, by either variant. -/
theorem io_partition (blk : InputBlk) (io : Table UInt64) (df : DfAnswers) (hcounts : CountsMatch blk df)
    (htwo : 2 ≤ blk.socketNumber.toNat * blk.rbsPerSocket.toNat)
    (height : blk.socketNumber.toNat * blk.rbsPerSocket.toNat ≤ 8) (hprimary : PrimaryLowest blk df) (s : IoState) :
    (0x1000 + ((rootBridges blk).map fun rb => (ioRequest io rb).toNat).sum < 0x10000 → ∀ spaceStatus,
      ∃ rbs, IoPartition blk df s (silInitIoBasedOnNvVariable4 blk io df spaceStatus true s).2.2 rbs) ∧
    ∃ rbs, IoPartition blk df s (silInitIoEqually4 blk df s).2 rbs := by
  rw [← length_rootBridges] at htwo height
  constructor
  · intro hsum spaceStatus
    have hreserve := reserveForPrimaryRb_eq htwo hprimary.mem (ioRequest io (primaryRb df))
    refine ioWalk_partition (nvIoPlan blk io df true) hcounts htwo height hprimary rfl ?_ ?_ ?_
    · rw [nvIoPlan, hreserve]
    · intro rbs hperm
      refine ⟨fun rb _ => dvd_ioRequest io rb, fun _ _ => .inl rfl, ?_⟩
      have hle := (rbs.dropLast_sublist.map fun rb => (ioRequest io rb).toNat).sum_le_sum fun _ _ => Nat.zero_le _
      rw [(hperm.map fun rb => (ioRequest io rb).toNat).sum_eq] at hle
      exact lt_of_le_of_lt (Nat.add_le_add_left hle _) hsum
    · rw [silInitIoBasedOnNvVariable4, nvIoPlan, hreserve]
      exact ⟨rfl, rfl⟩
  · obtain ⟨hdvd, hne, hlt⟩ := equalIoShare_spec htwo height
    have hreserve := reserveForPrimaryRb_eq htwo hprimary.mem (equalIoShare blk)
    refine ioWalk_partition (equalIoPlan blk df) hcounts htwo height hprimary rfl ?_ ?_ ?_
    · rw [equalIoPlan, hreserve]
    · intro rbs hperm
      refine ⟨fun _ _ => hdvd, fun _ _ => .inr hne, ?_⟩
      rw [← hperm.length_eq] at hlt
      simpa [equalIoPlan] using hlt
    · rw [silInitIoEqually4, equalIoPlan, hreserve]
      exact ⟨rfl, rfl⟩

def busDf : DfAnswers where
  numberOfProcessorsPresent := 1
  rootBridgesOnDie := 4
  rootBridgesOnSocket := 4
  primarySocket := 0
  primaryRootBridge := 2
  cfgBase := fun _ i => 0x3 ||| (.ofNat i * 0x400000)
  cfgLimit := fun _ i => ([0x3F0022, 0x7F0020, 0xBF0021, 0xFF0023]).getD i 0
  hostBridgeSystemFabricID := fun socket i => .ofNat (socket * 0x100 + 0x20 + i)

theorem countsMatch_busDf (pcieBase : UInt64) : CountsMatch (plainBlk pcieBase) busDf := ⟨rfl, rfl, rfl⟩

theorem primaryLowest_busDf : PrimaryLowest (plainBlk 0xE0000000) busDf := by
  constructor <;> decide +kernel

def IoState.zero : IoState := ⟨⟨false, fun _ _ => ⟨0, 0, 0⟩⟩, fun _ _ => ⟨0, 0⟩⟩

/-- 4K for every root bridge: both variants partition IO space. -/
theorem io_partition_4K :
    (∃ rbs, IoPartition (plainBlk 0xE0000000) busDf .zero
      (silInitIoBasedOnNvVariable4 (plainBlk 0xE0000000) (fun _ _ => 0x1000) busDf none true .zero).2.2 rbs) ∧
    ∃ rbs, IoPartition (plainBlk 0xE0000000) busDf .zero
      (silInitIoEqually4 (plainBlk 0xE0000000) busDf .zero).2 rbs := by
  have h := io_partition (plainBlk 0xE0000000) (fun _ _ => 0x1000) busDf (countsMatch_busDf _) (by decide) (by decide)
    primaryLowest_busDf .zero
  exact ⟨h.1 (by decide +kernel) none, h.2⟩

end OpenSil.RcMgr
