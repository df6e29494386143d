import Mathlib.Tactic
import Mathlib.Order.Interval.Finset.Nat

/-! # Lane translation -/

namespace OpenSil.Mpio

structure LaneWrapper where
  startPhyLane : UInt8
  endPhyLane : UInt8
  startDxioLane : UInt8
  endDxioLane : UInt8
  coreReversed : Bool
  deriving DecidableEq

structure LaneHandle where
  socketId : UInt8
  wrappers : List LaneWrapper

structure PortInfo where
  startLane : UInt8
  endLane : UInt8
  mpioStartLane : UInt8
  mpioEndLane : UInt8
  linkReversal : Bool
  lanesFound : Bool
  deriving DecidableEq

variable (wrapper : LaneWrapper)

def LaneWrapper.HasPhy (lane : UInt8) : Prop :=
  wrapper.startPhyLane ≤ lane ∧ lane ≤ wrapper.endPhyLane

instance (lane : UInt8) : Decidable (wrapper.HasPhy lane) := inferInstanceAs (Decidable (_ ∧ _))

def mpioTranslateLanesCallback (portInfo : PortInfo) (wrapper : LaneWrapper) : PortInfo :=
  if wrapper.HasPhy portInfo.startLane then
    if wrapper.coreReversed = false then
      if portInfo.startLane ≤ portInfo.endLane then
        { portInfo with
          mpioStartLane := wrapper.startDxioLane + (portInfo.startLane - wrapper.startPhyLane)
          mpioEndLane := wrapper.startDxioLane + (portInfo.endLane - wrapper.startPhyLane)
          linkReversal := false
          lanesFound := true }
      else
        { portInfo with
          mpioEndLane := wrapper.startDxioLane + (portInfo.startLane - wrapper.startPhyLane)
          mpioStartLane := wrapper.startDxioLane + (portInfo.endLane - wrapper.startPhyLane)
          linkReversal := true
          lanesFound := true }
    else
      if portInfo.startLane ≤ portInfo.endLane then
        { portInfo with
          mpioEndLane := wrapper.endDxioLane - (portInfo.startLane - wrapper.startPhyLane)
          mpioStartLane := wrapper.endDxioLane - (portInfo.endLane - wrapper.startPhyLane)
          linkReversal := true
          lanesFound := true }
      else
        { portInfo with
          mpioStartLane := wrapper.endDxioLane - (portInfo.startLane - wrapper.startPhyLane)
          mpioEndLane := wrapper.endDxioLane - (portInfo.endLane - wrapper.startPhyLane)
          linkReversal := false
          lanesFound := true }
  else portInfo

def searchHandles (socketId : UInt8) : List LaneHandle → PortInfo → PortInfo
  | [], portInfo => portInfo
  | handle :: rest, portInfo =>
    let portInfo :=
      if handle.socketId = socketId then handle.wrappers.foldl mpioTranslateLanesCallback portInfo else portInfo
    if portInfo.lanesFound then portInfo else searchHandles socketId rest portInfo

structure Translation where
  found : Bool
  startDxioLane : UInt8
  endDxioLane : UInt8
  reverse : Bool
  deriving DecidableEq

structure LaneTopology where
  gnbHandle : LaneHandle
  following : List LaneHandle

def mpioTranslateLanes (topology : LaneTopology) (startLane endLane : UInt8) (reverse : Bool) : Translation :=
  let portInfo := searchHandles topology.gnbHandle.socketId (topology.gnbHandle :: topology.following)
    ⟨startLane, endLane, 0, 0, false, false⟩
  if portInfo.lanesFound then ⟨true, portInfo.mpioStartLane, portInfo.mpioEndLane, portInfo.linkReversal⟩
  else ⟨false, 0, 0, reverse⟩

/-! ## Which wrapper it is -/

def LaneTopology.wrappers (topology : LaneTopology) : List LaneWrapper :=
  ((topology.gnbHandle :: topology.following).filter (·.socketId = topology.gnbHandle.socketId)).flatMap
    LaneHandle.wrappers

def LaneWrapper.dxio (lane : UInt8) : UInt8 :=
  if wrapper.coreReversed then wrapper.endDxioLane - (lane - wrapper.startPhyLane)
  else wrapper.startDxioLane + (lane - wrapper.startPhyLane)

def LaneWrapper.reverses (startLane endLane : UInt8) : Bool :=
  wrapper.coreReversed ^^ decide (endLane < startLane)

def LaneWrapper.portInfo (startLane endLane : UInt8) : PortInfo :=
  let ends := (wrapper.dxio startLane, wrapper.dxio endLane)
  let ends := if wrapper.reverses startLane endLane then ends.swap else ends
  ⟨startLane, endLane, ends.1, ends.2, wrapper.reverses startLane endLane, true⟩

open LaneWrapper Finset

variable {wrap : LaneWrapper} {info : PortInfo}

theorem mpioTranslateLanesCallback_of_hasPhy (h : wrap.HasPhy info.startLane) :
    mpioTranslateLanesCallback info wrap = wrap.portInfo info.startLane info.endLane := by
  unfold mpioTranslateLanesCallback portInfo reverses dxio
  rw [if_pos h]
  by_cases hle : info.startLane ≤ info.endLane
  · grind
  · grind

theorem mpioTranslateLanesCallback_of_not (h : ¬wrap.HasPhy info.startLane) :
    mpioTranslateLanesCallback info wrap = info := if_neg h

theorem foldl_callback_cases (wrappers : List LaneWrapper) (info : PortInfo) :
    (∃ wrap ∈ wrappers, wrap.HasPhy info.startLane ∧
      wrappers.foldl mpioTranslateLanesCallback info = wrap.portInfo info.startLane info.endLane) ∨
    ((∀ wrap ∈ wrappers, ¬wrap.HasPhy info.startLane) ∧
      wrappers.foldl mpioTranslateLanesCallback info = info) := by
  induction wrappers generalizing info with
  | nil => exact .inr ⟨fun _ h => absurd h List.not_mem_nil, rfl⟩
  | cons wrap wrappers ih =>
    rw [List.foldl_cons]
    by_cases h : wrap.HasPhy info.startLane
    · -- a later wrap with the lane would overwrite everything
      rw [mpioTranslateLanesCallback_of_hasPhy h]
      obtain ⟨later, hlater, hphy, heq⟩ | ⟨-, heq⟩ := ih (wrap.portInfo info.startLane info.endLane)
      · exact .inl ⟨later, List.mem_cons_of_mem _ hlater, hphy, heq⟩
      · exact .inl ⟨wrap, List.mem_cons_self, h, heq⟩
    · rw [mpioTranslateLanesCallback_of_not h]
      obtain ⟨later, hlater, hphy, heq⟩ | ⟨hnone, heq⟩ := ih info
      · exact .inl ⟨later, List.mem_cons_of_mem _ hlater, hphy, heq⟩
      · exact .inr ⟨List.forall_mem_cons.mpr ⟨h, hnone⟩, heq⟩

theorem searchHandles_cases (socketId : UInt8) (handles : List LaneHandle) (info : PortInfo)
    (hstart : info.lanesFound = false) :
    (∃ wrap ∈ (handles.filter (·.socketId = socketId)).flatMap LaneHandle.wrappers,
      wrap.HasPhy info.startLane ∧
      searchHandles socketId handles info = wrap.portInfo info.startLane info.endLane) ∨
    ((∀ wrap ∈ (handles.filter (·.socketId = socketId)).flatMap LaneHandle.wrappers,
        ¬wrap.HasPhy info.startLane) ∧ searchHandles socketId handles info = info) := by
  induction handles with
  | nil => exact .inr ⟨fun _ h => absurd h List.not_mem_nil, rfl⟩
  | cons handle handles ih =>
    rw [searchHandles]
    by_cases hsocket : handle.socketId = socketId
    · rw [List.filter_cons_of_pos (by simpa using hsocket), List.flatMap_cons]
      simp only [hsocket, if_true]
      obtain ⟨wrap, hmem, hphy, heq⟩ | ⟨hnone, heq⟩ := foldl_callback_cases handle.wrappers info
      · rw [heq]
        exact .inl ⟨wrap, List.mem_append_left _ hmem, hphy, rfl⟩
      · rw [heq, hstart]
        obtain ⟨wrap, hmem, hphy, heq⟩ | ⟨hrest, heq⟩ := ih
        · exact .inl ⟨wrap, List.mem_append_right _ hmem, hphy, heq⟩
        · exact .inr ⟨fun wrap hmem => (List.mem_append.mp hmem).elim (hnone wrap) (hrest wrap), heq⟩
    · simp_all

def LaneWrapper.translation (startLane endLane : UInt8) : Translation :=
  let portInfo := wrapper.portInfo startLane endLane
  ⟨true, portInfo.mpioStartLane, portInfo.mpioEndLane, portInfo.linkReversal⟩

theorem mpioTranslateLanes_cases (topology : LaneTopology) (startLane endLane : UInt8) (reverse : Bool) :
    (∃ wrap ∈ topology.wrappers, wrap.HasPhy startLane ∧
      mpioTranslateLanes topology startLane endLane reverse = wrap.translation startLane endLane) ∨
    ((∀ wrap ∈ topology.wrappers, ¬wrap.HasPhy startLane) ∧
      mpioTranslateLanes topology startLane endLane reverse = ⟨false, 0, 0, reverse⟩) := by
  have hcases := searchHandles_cases topology.gnbHandle.socketId (topology.gnbHandle :: topology.following)
    ⟨startLane, endLane, 0, 0, false, false⟩ rfl
  unfold mpioTranslateLanes
  obtain ⟨wrap, hmem, hphy, heq⟩ | ⟨hnone, heq⟩ := hcases
  · exact .inl ⟨wrap, hmem, hphy, by rw [heq]; rfl⟩
  · exact .inr ⟨hnone, by rw [heq]; rfl⟩

/-! ## The lanes of a socket -/

def portLanes (startLane endLane : UInt8) : Finset Nat := Finset.uIcc startLane.toNat endLane.toNat

def LaneWrapper.phyLanes : Finset Nat :=
  Finset.Icc wrapper.startPhyLane.toNat wrapper.endPhyLane.toNat

def LaneWrapper.dxioLanes : Finset Nat :=
  Finset.Icc wrapper.startDxioLane.toNat wrapper.endDxioLane.toNat

def Translation.lanes (r : Translation) : Finset Nat := Finset.Icc r.startDxioLane.toNat r.endDxioLane.toNat

/-- No two wrappers of the socket share lanes, and a wrapper has as many DXIO lanes as PHY lanes. -/
structure LaneTopology.Valid (topology : LaneTopology) : Prop where
  phy : topology.wrappers.Pairwise fun w w' => Disjoint w.phyLanes w'.phyLanes
  dxio : topology.wrappers.Pairwise fun w w' => Disjoint w.dxioLanes w'.dxioLanes
  width : ∀ w ∈ topology.wrappers,
    w.startPhyLane.toNat + w.endDxioLane.toNat = w.endPhyLane.toNat + w.startDxioLane.toNat

/-- The lanes of a port in a wrapper have been translated, all of them and in the right direction. -/
structure Translated (startLane endLane : UInt8) (r : Translation) : Prop where
  found : r.found = true
  ordered : r.startDxioLane ≤ r.endDxioLane
  inside : r.lanes ⊆ wrapper.dxioLanes
  card : r.lanes.card = (portLanes startLane endLane).card
  reverse : r.reverse = (wrapper.coreReversed ^^ decide (endLane < startLane))

theorem LaneWrapper.hasPhy_iff {lane : UInt8} : wrap.HasPhy lane ↔ lane.toNat ∈ wrap.phyLanes := by
  unfold HasPhy phyLanes
  rw [mem_Icc, UInt8.le_iff_toNat_le, UInt8.le_iff_toNat_le]

section
variable {wrap : LaneWrapper} {lane startLane endLane : UInt8}
  (hwidth : wrap.startPhyLane.toNat + wrap.endDxioLane.toNat =
    wrap.endPhyLane.toNat + wrap.startDxioLane.toNat)
include hwidth

theorem LaneWrapper.toNat_dxio (h : wrap.HasPhy lane) :
    (wrap.dxio lane).toNat =
      if wrap.coreReversed then wrap.endDxioLane.toNat - (lane.toNat - wrap.startPhyLane.toNat)
      else wrap.startDxioLane.toNat + (lane.toNat - wrap.startPhyLane.toNat) := by
  obtain ⟨hlo, hhi⟩ := mem_Icc.mp (hasPhy_iff.mp h)
  have hoffset : (lane - wrap.startPhyLane).toNat = lane.toNat - wrap.startPhyLane.toNat :=
    UInt8.toNat_sub_of_le _ _ h.1
  have hend := wrap.endDxioLane.toNat_lt
  unfold dxio
  split_ifs
  · rw [UInt8.toNat_sub_of_le _ _ (UInt8.le_iff_toNat_le.mpr (by omega)), hoffset]
  · rw [UInt8.toNat_add, hoffset, Nat.mod_eq_of_lt (by omega)]

theorem LaneWrapper.translation_ends (hstart : wrap.HasPhy startLane) (hend : wrap.HasPhy endLane) :
    let lo := min startLane.toNat endLane.toNat - wrap.startPhyLane.toNat
    let hi := max startLane.toNat endLane.toNat - wrap.startPhyLane.toNat
    let r := wrap.translation startLane endLane
    r.startDxioLane.toNat =
        (if wrap.coreReversed then wrap.endDxioLane.toNat - hi else wrap.startDxioLane.toNat + lo) ∧
      r.endDxioLane.toNat =
        (if wrap.coreReversed then wrap.endDxioLane.toNat - lo else wrap.startDxioLane.toNat + hi) := by
  have hs := wrap.toNat_dxio hwidth hstart
  have he := wrap.toNat_dxio hwidth hend
  unfold translation portInfo reverses
  by_cases hlt : endLane < startLane
  · have hlt' := (UInt8.lt_iff_toNat_lt.mp hlt).le
    cases hrev : wrap.coreReversed <;> simp [hlt, hlt', hs, he, hrev]
  · have hle := UInt8.le_iff_toNat_le.mp (UInt8.not_lt.mp hlt)
    cases hrev : wrap.coreReversed <;> simp [hlt, hle, hs, he, hrev]

theorem LaneWrapper.translated (hstart : wrap.HasPhy startLane) (hend : wrap.HasPhy endLane) :
    Translated wrap startLane endLane (wrap.translation startLane endLane) := by
  obtain ⟨hlo, hhi⟩ := wrap.translation_ends hwidth hstart hend
  obtain ⟨hs, hs'⟩ := mem_Icc.mp (hasPhy_iff.mp hstart)
  obtain ⟨he, he'⟩ := mem_Icc.mp (hasPhy_iff.mp hend)
  have hends : (wrap.translation startLane endLane).endDxioLane.toNat =
      (wrap.translation startLane endLane).startDxioLane.toNat +
        (max startLane.toNat endLane.toNat - min startLane.toNat endLane.toNat) := by
    rw [hlo, hhi]
    split_ifs <;> omega
  refine ⟨rfl, UInt8.le_iff_toNat_le.mpr (by omega), ?_, ?_, rfl⟩
  · unfold Translation.lanes dxioLanes
    rw [hlo, hhi]
    refine Icc_subset_Icc ?_ ?_
    · split_ifs <;> omega
    · split_ifs <;> omega
  · unfold Translation.lanes portLanes
    rw [Nat.card_Icc, Nat.card_uIcc]
    omega

end

theorem LaneWrapper.disjoint_lanes {s e s' e' : UInt8}
    (hwidth : wrap.startPhyLane.toNat + wrap.endDxioLane.toNat =
      wrap.endPhyLane.toNat + wrap.startDxioLane.toNat) (hs : wrap.HasPhy s) (he : wrap.HasPhy e)
    (hs' : wrap.HasPhy s') (he' : wrap.HasPhy e') (h : Disjoint (portLanes s e) (portLanes s' e')) :
    Disjoint (wrap.translation s e).lanes (wrap.translation s' e').lanes := by
  have hapart : max s.toNat e.toNat < min s'.toNat e'.toNat ∨ max s'.toNat e'.toNat < min s.toNat e.toNat := by
    by_contra hmeet
    have hboth : max (min s.toNat e.toNat) (min s'.toNat e'.toNat) ∈ portLanes s e ∧
        max (min s.toNat e.toNat) (min s'.toNat e'.toNat) ∈ portLanes s' e' := by
      unfold portLanes
      rw [uIcc, uIcc, mem_Icc, mem_Icc]
      omega
    exact disjoint_left.mp h hboth.1 hboth.2
  obtain ⟨hlo, hhi⟩ := wrap.translation_ends hwidth hs he
  obtain ⟨hlo', hhi'⟩ := wrap.translation_ends hwidth hs' he'
  rw [hasPhy_iff, phyLanes, mem_Icc] at hs he hs' he'
  rw [disjoint_left]
  intro d hd hd'
  rw [Translation.lanes, mem_Icc, hlo, hhi] at hd
  rw [Translation.lanes, mem_Icc, hlo', hhi'] at hd'
  cases hrev : wrap.coreReversed with
  | false =>
    rw [hrev] at hd hd'
    simp only [Bool.false_eq_true, if_false] at hd hd'
    omega
  | true =>
    rw [hrev] at hd hd'
    simp only [if_true] at hd hd'
    omega

theorem disjoint_of_pairwise {wrappers : List LaneWrapper} {lanes : LaneWrapper → Finset Nat}
    (h : wrappers.Pairwise fun w w' => Disjoint (lanes w) (lanes w')) {w w' : LaneWrapper} (hmem : w ∈ wrappers)
    (hmem' : w' ∈ wrappers) (hne : w ≠ w') : Disjoint (lanes w) (lanes w') :=
  have : Std.Symm fun w w' => Disjoint (lanes w) (lanes w') := ⟨fun _ _ hd => hd.symm⟩
  h.forall hmem hmem' hne

section
variable {topology : LaneTopology} (h : topology.Valid)
include h

theorem LaneTopology.Valid.mpioTranslateLanes_eq {wrap : LaneWrapper} (hmem : wrap ∈ topology.wrappers)
    {startLane : UInt8} (hphy : wrap.HasPhy startLane) (endLane : UInt8) (reverse : Bool) :
    mpioTranslateLanes topology startLane endLane reverse = wrap.translation startLane endLane := by
  obtain ⟨other, hother, hphy', heq⟩ | ⟨hnone, -⟩ := mpioTranslateLanes_cases topology startLane endLane reverse
  · by_cases hsame : other = wrap
    · rw [heq, hsame]
    · have hapart := disjoint_of_pairwise h.phy hother hmem hsame
      exact absurd (hasPhy_iff.mp hphy)
        (disjoint_left.mp hapart (hasPhy_iff.mp hphy'))
  · exact absurd hphy (hnone wrap hmem)

/-- A port within one wrapper keeps its number of lanes, and ports apart stay apart. -/
theorem translates_within_wrapper {wrapper wrapper' : LaneWrapper} (hmem : wrapper ∈ topology.wrappers)
    (hmem' : wrapper' ∈ topology.wrappers) {s e s' e' : UInt8} (hs : wrapper.HasPhy s) (he : wrapper.HasPhy e)
    (hs' : wrapper'.HasPhy s') (he' : wrapper'.HasPhy e') (reverse reverse' : Bool) :
    Translated wrapper s e (mpioTranslateLanes topology s e reverse) ∧
      (Disjoint (portLanes s e) (portLanes s' e') →
        Disjoint (mpioTranslateLanes topology s e reverse).lanes (mpioTranslateLanes topology s' e' reverse').lanes) := by
  rw [h.mpioTranslateLanes_eq hmem hs, h.mpioTranslateLanes_eq hmem' hs']
  have htranslated := wrapper.translated (h.width wrapper hmem) hs he
  refine ⟨htranslated, fun hports => ?_⟩
  by_cases hsame : wrapper = wrapper'
  · subst hsame
    exact wrapper.disjoint_lanes (h.width wrapper hmem) hs he hs' he' hports
  · have hapart := disjoint_of_pairwise h.dxio hmem hmem' hsame
    have htranslated' := wrapper'.translated (h.width wrapper' hmem') hs' he'
    exact disjoint_of_subset_left htranslated.inside
      (disjoint_of_subset_right htranslated'.inside hapart)

end

def twoCores : LaneTopology := ⟨⟨0, [⟨0, 15, 16, 31, false⟩, ⟨16, 31, 0, 15, true⟩]⟩, []⟩

theorem twoCores_valid : twoCores.Valid where
  phy := by decide
  dxio := by decide
  width := by decide

/-- A reversed link of four lanes in the first core, and one of eight lanes in the second. -/
theorem translates_within_wrapper_twoCores :
    mpioTranslateLanes twoCores 3 0 false = ⟨true, 16, 19, true⟩ ∧
    Translated ⟨0, 15, 16, 31, false⟩ 3 0 (mpioTranslateLanes twoCores 3 0 false) ∧
      (Disjoint (portLanes 3 0) (portLanes 24 31) →
        Disjoint (mpioTranslateLanes twoCores 3 0 false).lanes (mpioTranslateLanes twoCores 24 31 true).lanes) :=
  have hsecond : (⟨16, 31, 0, 15, true⟩ : LaneWrapper) ∈ twoCores.wrappers := by decide
  ⟨by decide, translates_within_wrapper twoCores_valid (by decide) hsecond (by decide) (by decide) (by decide)
    (by decide) false true⟩

end OpenSil.Mpio
