import OpenSil.RcMgr.CombinationSound

/-! # Requests in multiples of one granule -/

namespace OpenSil.RcMgr

open Word Place List Function UInt64

/-- All is in multiples of `2 ^ g`, and the inputs pass the checks of a debug build. -/
structure Granular (blk : InputBlk) (sys : SystemInfo) (df : DfAnswers) (g : Nat) : Prop where
  le : g ≤ 32
  pcie : blk.pciExpressBaseAddress < 0x100000000
  bottom : mmioLimit blk .above ≤ bottomOfCompat
  start_le : ∀ side, mmioStart blk sys side ≤ mmioLimit blk side
  nonPci_le : ∀ side, sizeNonPci blk ≤ mmioLimit blk side
  start : ∀ side, 2 ^ g ∣ (mmioStart blk sys side).toNat
  limit : ∀ side, 2 ^ g ∣ (mmioLimit blk side).toNat
  size : ∀ rb ∈ combinationOrder blk df, ∀ k, 2 ^ g ∣ (blockBelow4G blk rb k).size.toNat
  mask : ∀ rb ∈ combinationOrder blk df, ∀ k, IsMask (blockBelow4G blk rb k).mask

/-- `2 ^ g` is larger than the masks of the primary root bridge, the one of 64K for its NonPci block among them. Without
this the NonPci block cannot be taken out of the layout in one piece. -/
def MasksBelowGranule (blk : InputBlk) (df : DfAnswers) (g : Nat) : Prop :=
  ∀ k, (blockBelow4G blk (primaryRb df) k).mask.toNat < 2 ^ g

open TryState

section
variable {blk : InputBlk} {sys : SystemInfo} {df : DfAnswers} {g : Nat} {a : Nat → Bool}
  {s : TryState} {rb : Nat × Nat}

variable {big : Bool} {c : UInt64}

theorem Granular.mmioCeiling (hg : Granular blk sys df g) (hrb : rb ∈ combinationOrder blk df) (hc : 2 ^ g ∣ c.toNat) :
    2 ^ g ∣ (layoutBelow4G blk rb big c).mmioCeiling.toNat := by
  rw [mmioCeiling_eq]
  exact dvd_finish (hg.le.trans (by decide)) (fun k _ => hg.mask rb hrb k) (fun k _ => hg.size rb hrb k) hc

/-! ## The root bridges before the primary one -/

structure Tracks (blk : InputBlk) (mmioIsAbovePcieCfg : Nat → Bool) (g : Nat) (s : TryState) (rest : List (Nat × Nat)) :
    Prop where
  noWrap : NoSumWraps blk mmioIsAbovePcieCfg s.mmioBaseAddr s.bigAlignFirst rest
  dvd : ∀ side, 2 ^ g ∣ (s.mmioBaseAddr side).toNat
  exceeds : s.overSizeFlag = true → ∃ side, mmioLimit blk side < s.mmioBaseAddr side

theorem dvd_update {f : Side → UInt64} {side : Side} {x : UInt64} (hf : ∀ side, 2 ^ g ∣ (f side).toNat)
    (hx : 2 ^ g ∣ x.toNat) : ∀ side', 2 ^ g ∣ (update f side x side').toNat :=
  (forall_update_iff f fun _ y => 2 ^ g ∣ y.toNat).mpr ⟨hx, fun side' _ => hf side'⟩

theorem Tracks.step {rest : List (Nat × Nat)} (hg : Granular blk sys df g) (hrb : rb ∈ combinationOrder blk df)
    (hne : rb ≠ primaryRb df) (h : Tracks blk a g s (rb :: rest)) :
    Tracks blk a g (tryRb blk df a true s rb) rest := by
  by_cases hasks : AsksBelow4G blk rb
  · generalize hside : sideOf a rb = side
    have hmask := hg.mask rb hrb
    have hasks' := h.noWrap.asks hasks hmask
    obtain ⟨hbase, hbig, -⟩ := tryRb_of_ne hasks' hside rfl true hne
    have hover : (tryRb blk df a true s rb).overSizeFlag = (s.overSizeFlag || decide (mmioLimit blk side <
        (layoutBelow4G blk rb (s.bigAlignFirst side) (s.mmioBaseAddr side)).mmioCeiling)) := by
      rw [tryRb_of_not_move hasks' hside rfl (canMoveNonPci_of (.inl hne)), recordIf_overSizeFlag]
      rfl
    constructor
    · rw [hbase, hbig]
      exact h.noWrap.tail hasks hside
    · rw [hbase]
      exact dvd_update h.dvd (hg.mmioCeiling hrb (h.dvd side))
    · intro hflag
      rw [hover, Bool.or_eq_true, decide_eq_true_iff] at hflag
      rw [hbase]
      rcases hflag with hflag | hflag
      · obtain ⟨side', hlt⟩ := h.exceeds hflag
        refine ⟨side', ?_⟩
        by_cases hs : side' = side
        · subst hs
          have hle := (region_stacked hmask (h.noWrap.head hasks hside)).packed.le
          rw [update_self, lt_iff_toNat_lt]
          exact (lt_iff_toNat_lt.mp hlt).trans_le hle
        · rwa [update_of_ne hs]
      · exact ⟨side, by rwa [update_self]⟩
  · rw [tryRb_of_not_asks hasks]
    exact ⟨h.noWrap.skip hasks, h.dvd, h.exceeds⟩

theorem Tracks.foldl {rbs rest : List (Nat × Nat)} (hg : Granular blk sys df g)
    (hrbs : ∀ rb ∈ rbs, rb ∈ combinationOrder blk df) (hne : ∀ rb ∈ rbs, rb ≠ primaryRb df)
    (h : Tracks blk a g s (rbs ++ rest)) :
    Tracks blk a g (rbs.foldl (tryRb blk df a true) s) rest := by
  induction rbs generalizing s with
  | nil => exact h
  | cons rb rbs ih =>
    rw [forall_mem_cons] at hrbs hne
    exact ih hrbs.2 hne.2 (h.step hg hrbs.1 hne.1)

/-! ## A layout without gaps -/

def prefetchFirst (bigAlignFirst : Bool) (p np : AddrAperture) : Bool :=
  if bigAlignFirst then np.alignment ≤ p.alignment else p.alignment ≤ np.alignment

structure NoGaps (big : Bool) (p np : AddrAperture) (n c : UInt64) (l : Layout) : Prop where
  sizePrefetch : l.sizePrefetch = p.size
  sizeNonPrefetch : l.sizeNonPrefetch = np.size
  deltaSize : l.deltaSize = n
  mmioCeiling : l.mmioCeiling = c + p.size + np.size + n
  basePrefetch : (l.basePrefetch - if big then 0 else l.deltaSize) = if prefetchFirst big p np then c else c + np.size
  baseNonPrefetch :
    (l.baseNonPrefetch - if big then 0 else l.deltaSize) = if prefetchFirst big p np then c + p.size else c

theorem layout_noGaps {p np : AddrAperture} {n c : UInt64} (big : Bool) (hg64 : g ≤ 64)
    (hp : IsMask p.alignment ∧ p.alignment.toNat < 2 ^ g) (hnp : IsMask np.alignment ∧ np.alignment.toNat < 2 ^ g)
    (hnone : rcMgrNonPciMmioAlignMask.toNat < 2 ^ g) (hps : 2 ^ g ∣ p.size.toNat)
    (hnps : 2 ^ g ∣ np.size.toNat) (hn : 2 ^ g ∣ n.toNat) (hc : 2 ^ g ∣ c.toNat) :
    NoGaps big p np n c (layout big p np n c) := by
  have hup : ∀ x, 2 ^ g ∣ x.toNat → alignUp x p.alignment = x := fun x => alignUp_of_dvd hp.1 hp.2
  have hup' : ∀ x, 2 ^ g ∣ x.toNat → alignUp x np.alignment = x := fun x => alignUp_of_dvd hnp.1 hnp.2
  have hup'' : ∀ x, 2 ^ g ∣ x.toNat → alignUp x rcMgrNonPciMmioAlignMask = x :=
    fun x => alignUp_of_dvd isMask_nonPci hnone
  have hcp := dvd_toNat_add hg64 hc hps
  have hcnp := dvd_toNat_add hg64 hc hnps
  have hcn := dvd_toNat_add hg64 hc hn
  have hall := dvd_toNat_add hg64 hcp hnps
  have hall' := dvd_toNat_add hg64 hcnp hps
  unfold layout
  dsimp only
  cases big with
  | true =>
    simp only [if_true]
    split_ifs with horder
    · rw [hup c hc, hup' _ hcp, hup'' _ hall]
      constructor <;> grind [prefetchFirst]
    · rw [hup' c hc, hup _ hcnp, hup'' _ hall']
      constructor <;> grind [prefetchFirst]
  | false =>
    simp only [Bool.false_eq_true, if_false]
    split_ifs with horder
    · rw [hup'' c hc, hup _ hcn, hup c hc, hup' _ (dvd_toNat_add hg64 hcn hps)]
      constructor <;> grind [prefetchFirst]
    · rw [hup'' c hc, hup' _ hcn, hup' c hc, hup _ (dvd_toNat_add hg64 hcn hnps)]
      constructor <;> grind [prefetchFirst]

theorem Granular.noGaps (hg : Granular blk sys df g) (hbelow : MasksBelowGranule blk df g) (big : Bool)
    (hc : 2 ^ g ∣ c.toNat) :
    NoGaps big (blk.prefetchableMmioSizeBelow4G (primaryRb df).1 (primaryRb df).2)
      (blk.nonPrefetchableMmioSizeBelow4G (primaryRb df).1 (primaryRb df).2) (sizeNonPci blk) c
      (layout big (blk.prefetchableMmioSizeBelow4G (primaryRb df).1 (primaryRb df).2)
        (blk.nonPrefetchableMmioSizeBelow4G (primaryRb df).1 (primaryRb df).2) (sizeNonPci blk) c) :=
  have hrb := primaryRb_mem blk df
  layout_noGaps big (hg.le.trans (by decide)) ⟨hg.mask _ hrb .prefetch, hbelow .prefetch⟩
    ⟨hg.mask _ hrb .nonPrefetch, hbelow .nonPrefetch⟩ (hbelow .nonPci) (hg.size _ hrb .prefetch)
    (hg.size _ hrb .nonPrefetch) (hg.size _ hrb .nonPci) hc

/-! ## The primary root bridge -/

variable {l : Layout}

theorem moved_basePrefetch (h : l.sizePrefetch ≠ 0) :
    (l.clearEmpty.withoutNonPci big).basePrefetch = l.basePrefetch - if big then 0 else l.deltaSize := by
  unfold Layout.withoutNonPci Layout.clearEmpty
  simp only [if_neg h]
  cases big <;> simp

theorem moved_baseNonPrefetch (h : l.sizeNonPrefetch ≠ 0) :
    (l.clearEmpty.withoutNonPci big).baseNonPrefetch = l.baseNonPrefetch - if big then 0 else l.deltaSize := by
  unfold Layout.withoutNonPci Layout.clearEmpty
  simp only [if_neg h]
  cases big <;> simp

theorem stacked_of_two {block : PoolKind → Block} {base size : PoolKind → UInt64} {lo mid hi : UInt64} (x y z : PoolKind)
    (hkinds : ∀ k, k = x ∨ k = y ∨ k = z) (hsize : ∀ k, size k = (block k).size) (hz : size z = 0)
    (hx : lo.toNat + (size x).toNat = mid.toNat) (hy : mid.toNat + (size y).toNat = hi.toNat)
    (hlo : lo &&& (block x).mask = 0) (hmid : mid &&& (block y).mask = 0)
    (hbx : size x ≠ 0 → base x = lo) (hby : size y ≠ 0 → base y = mid) :
    Stacked (fun _ => True) block base size lo.toNat hi.toNat := by
  have hle : ∀ k, (block k).size ≤ size k := fun k => hsize k ▸ UInt64.le_refl _
  have hend : hi.toNat + (size z).toNat ≤ hi.toNat := by simp [hz]
  have hnil : Stacked (fun _ => False) block base size hi.toNat hi.toNat := stacked_nil le_rfl
  have htop := hnil.cons z hi le_rfl hend (hle z) (absurd hz) (absurd hz)
  have hmiddle := htop.cons y mid le_rfl hy.le (hle y) (fun _ => hmid) hby
  refine (hmiddle.cons x lo le_rfl hx.le (hle x) (fun _ => hlo) hbx).mono_dom fun k _ => ?_
  rcases hkinds k with hk | hk | hk
  · exact .inl hk
  · exact .inr (.inl hk)
  · exact .inr (.inr (.inl hk))

def firstBlock (blk : InputBlk) (df : DfAnswers) (moved : Bool) (rb : Nat × Nat) : PoolKind → Block
  | .nonPci => ⟨rcMgrNonPciMmioAlignMask, if moved ∧ rb = primaryRb df then 0 else sizeNonPci blk⟩
  | k => blockBelow4G blk rb k

theorem firstBlock_of_ne {moved : Bool} (h : rb ≠ primaryRb df) : firstBlock blk df moved rb = blockBelow4G blk rb := by
  funext k
  cases k <;> simp [firstBlock, blockBelow4G, h]

theorem firstBlock_stay : firstBlock blk df false = blockBelow4G blk := by
  funext rb k
  cases k <;> simp [firstBlock, blockBelow4G]

theorem NoGaps.moved_stacked (hg : Granular blk sys df g) (hbelow : MasksBelowGranule blk df g)
    (h : NoGaps big (blk.prefetchableMmioSizeBelow4G (primaryRb df).1 (primaryRb df).2)
      (blk.nonPrefetchableMmioSizeBelow4G (primaryRb df).1 (primaryRb df).2) (sizeNonPci blk) c l)
    (hc : 2 ^ g ∣ c.toNat) (hroom : c.toNat + (blockBelow4G blk (primaryRb df) .prefetch).size.toNat +
      (blockBelow4G blk (primaryRb df) .nonPrefetch).size.toNat < 2 ^ 64) :
    let region := regionBelow4G blk (primaryRb df) (l.clearEmpty.withoutNonPci big) true
    Stacked (fun _ => True) (firstBlock blk df true (primaryRb df)) region.base region.size c.toNat
      (l.mmioCeiling - l.deltaSize).toNat := by
  intro region
  have hg64 : g ≤ 64 := hg.le.trans (by decide)
  have hp := hg.size _ (primaryRb_mem blk df) .prefetch
  have hnp := hg.size _ (primaryRb_mem blk df) .nonPrefetch
  have hmask : ∀ k x, 2 ^ g ∣ x.toNat → x &&& (firstBlock blk df true (primaryRb df) k).mask = 0 := by
    intro k x
    have hsame : (firstBlock blk df true (primaryRb df) k).mask = (blockBelow4G blk (primaryRb df) k).mask := by
      cases k <;> rfl
    rw [hsame]
    exact and_mask_of_dvd (hg.mask _ (primaryRb_mem blk df) k) (hbelow k)
  have hsize : ∀ k, region.size k = (firstBlock blk df true (primaryRb df) k).size := by
    rintro (_ | _ | _)
    · exact h.sizeNonPrefetch
    · exact h.sizePrefetch
    · simp [firstBlock, region, regionBelow4G, MmioRegion.size]
  have hceil : l.mmioCeiling - l.deltaSize = c + (blockBelow4G blk (primaryRb df) .prefetch).size +
      (blockBelow4G blk (primaryRb df) .nonPrefetch).size := by
    rw [h.mmioCeiling, h.deltaSize]
    exact UInt64.add_sub_cancel _ _
  have hcp := dvd_toNat_add hg64 hc hp
  have hcnp := dvd_toNat_add hg64 hc hnp
  have hbp := fun hne : region.size .prefetch ≠ 0 => (moved_basePrefetch (l := l) hne).trans h.basePrefetch
  have hbnp := fun hne : region.size .nonPrefetch ≠ 0 => (moved_baseNonPrefetch (l := l) hne).trans h.baseNonPrefetch
  have htop : (c + (blockBelow4G blk (primaryRb df) .prefetch).size +
      (blockBelow4G blk (primaryRb df) .nonPrefetch).size).toNat = c.toNat + (region.size .prefetch).toNat +
        (region.size .nonPrefetch).toNat := by
    rw [hsize, hsize, UInt64.toNat_add, UInt64.toNat_add, Nat.mod_add_mod]
    exact Nat.mod_eq_of_lt hroom
  rw [hceil]
  split_ifs at hbp hbnp with hfirst
  · have hmid : (c + (blockBelow4G blk (primaryRb df) .prefetch).size).toNat = c.toNat + (region.size .prefetch).toNat := by
      rw [hsize]
      exact toNat_add_eq (by omega)
    exact stacked_of_two .prefetch .nonPrefetch .nonPci (by rintro (_ | _ | _) <;> simp) hsize rfl hmid.symm
      (by rw [htop, hmid]) (hmask _ _ hc) (hmask _ _ hcp) hbp hbnp
  · have hmid : (c + (blockBelow4G blk (primaryRb df) .nonPrefetch).size).toNat =
        c.toNat + (region.size .nonPrefetch).toNat := by
      rw [hsize]
      exact toNat_add_eq (by omega)
    exact stacked_of_two .nonPrefetch .prefetch .nonPci (by rintro (_ | _ | _) <;> simp) hsize rfl hmid.symm
      (by rw [htop, hmid]; omega) (hmask _ _ hc) (hmask _ _ hcnp) hbnp hbp

variable {side : Side}

theorem of_canMoveNonPci {delta : UInt64} (h : s.canMoveNonPci blk df side rb delta = true) :
    s.mmioBaseAddr side - delta ≤ mmioLimit blk side ∧
    s.mmioBaseAddr side.other ≤ alignDown (mmioLimit blk side.other - sizeNonPci blk) rcMgrNonPciMmioAlignMask := by
  unfold canMoveNonPci at h
  simp only [Bool.and_eq_true, decide_eq_true_eq] at h
  exact ⟨h.1.2, h.2⟩

section
variable (hasks : asksBelow4G blk (primaryRb df) = true)
  (hside : sideOf a (primaryRb df) = side)
  (hl : layoutBelow4G blk (primaryRb df) (s.bigAlignFirst side) (s.mmioBaseAddr side) = l)
include hasks hside hl

theorem tryRb_of_move (hmove : s.moves blk df side (primaryRb df) l = true) :
    let t := tryRb blk df a true s (primaryRb df)
    t.nonPciAt2ndRegion = true ∧ t.mmioBaseAddr = update s.mmioBaseAddr side (primaryEnd blk side) ∧
    t.out = s.out.setBelow4G blk df (primaryRb df)
      (regionBelow4G blk (primaryRb df) (l.withoutNonPci (s.bigAlignFirst side)) true) (s.mmioBaseAddr side)
      (primaryEnd blk side - s.mmioBaseAddr side) := by
  subst hside hl
  unfold tryRb placeRb
  simp only [hasks, hmove, if_true]
  unfold recordIf record moveNonPci advance
  simp

theorem tryRb_of_stay (hstay : s.moves blk df side (primaryRb df) l = false)
    (hover : (tryRb blk df a true s (primaryRb df)).overSizeFlag = false) :
    let t := tryRb blk df a true s (primaryRb df)
    s.overSizeFlag = false ∧ t.nonPciAt2ndRegion = s.nonPciAt2ndRegion ∧
    t.mmioBaseAddr = update s.mmioBaseAddr side (primaryEnd blk side) := by
  rw [tryRb_of_not_move hasks hside hl hstay] at hover ⊢
  rw [recordIf_overSizeFlag] at hover
  unfold recordIf record
  simp only [hover, if_true]
  refine ⟨(Bool.or_eq_false_iff.mp hover).1, rfl, ?_⟩
  unfold advance
  simp

end

theorem Side.eq_or_eq_other (side side' : Side) : side' = side ∨ side' = side.other := by
  cases side <;> cases side' <;> simp [other]

theorem Side.other_ne (side : Side) : side.other ≠ side := by
  cases side <;> simp [other]

theorem Tracks.of_move (hg : Granular blk sys df g) (hbelow : MasksBelowGranule blk df g)
    (h : Tracks blk a g s [primaryRb df]) (hasks : AsksBelow4G blk (primaryRb df)) (hside : sideOf a (primaryRb df) = side)
    (hl : layoutBelow4G blk (primaryRb df) (s.bigAlignFirst side) (s.mmioBaseAddr side) = l)
    (hmove : s.moves blk df side (primaryRb df) l = true) :
    let region := regionBelow4G blk (primaryRb df) (l.withoutNonPci (s.bigAlignFirst side)) true
    Stacked (fun _ => True) (firstBlock blk df true (primaryRb df)) region.base region.size
      (s.mmioBaseAddr side).toNat (l.mmioCeiling - l.deltaSize).toNat ∧
    l.mmioCeiling - l.deltaSize ≤ mmioLimit blk side ∧
    (s.mmioBaseAddr side.other).toNat + (sizeNonPci blk).toNat ≤ (mmioLimit blk side.other).toNat ∧
    s.overSizeFlag = false := by
  have hrb := primaryRb_mem blk df
  have hnowrap := (h.noWrap.head hasks hside).add_sum_le fun k _ => hg.mask _ hrb k
  rw [(queueBelow4G_perm.map fun k => (blockBelow4G blk (primaryRb df) k).size.toNat).sum_eq] at hnowrap
  simp only [List.map_cons, List.map_nil, List.sum_cons, List.sum_nil] at hnowrap
  have hlt := UInt64.toNat_lt (finish (blockBelow4G blk (primaryRb df)) (s.mmioBaseAddr side)
    (queueBelow4G blk (primaryRb df) (s.bigAlignFirst side)))
  have hgaps := hg.noGaps hbelow (s.bigAlignFirst side) (h.dvd side)
  have hst := hgaps.moved_stacked hg hbelow (h.dvd side) (by omega)
  have hle : (s.mmioBaseAddr side).toNat ≤ (l.mmioCeiling - l.deltaSize).toNat := by
    rw [← hl]
    exact hst.packed.le
  obtain ⟨hfits, hother⟩ := of_canMoveNonPci hmove
  have hcursor : (s.advance blk side l.mmioCeiling).mmioBaseAddr side = l.mmioCeiling := Function.update_self _ _ _
  have hcursor' : (s.advance blk side l.mmioCeiling).mmioBaseAddr side.other = s.mmioBaseAddr side.other :=
    Function.update_of_ne side.other_ne _ _
  rw [hcursor] at hfits
  rw [hcursor', UInt64.le_iff_toNat_le, toNat_alignDown (k := 16) _ (by decide),
    UInt64.toNat_sub_of_le _ _ (hg.nonPci_le _)] at hother
  have hn := hg.nonPci_le side.other
  rw [UInt64.le_iff_toNat_le] at hn
  refine ⟨hl ▸ hst, hfits, by omega, ?_⟩
  cases hover : s.overSizeFlag with
  | false => rfl
  | true =>
    obtain ⟨side', hexceeds⟩ := h.exceeds hover
    rw [UInt64.lt_iff_toNat_lt] at hexceeds
    rcases side.eq_or_eq_other side' with rfl | rfl
    · rw [UInt64.le_iff_toNat_le] at hfits
      omega
    · omega

/-! ## The whole run -/

/-- An accepted run: the windows of all root bridges end at `hi`, and the cursor of the primary root bridge's side is
at the end of this side. -/
structure Settled (blk : InputBlk) (sys : SystemInfo) (df : DfAnswers) (mmioIsAbovePcieCfg : Nat → Bool) (g : Nat)
    (hi : Side → UInt64) (ws : List RbWindow) (t : TryState) : Prop where
  combined : Combined blk df mmioIsAbovePcieCfg (firstBlock blk df t.nonPciAt2ndRegion) (mmioStart blk sys) hi ws t.out
  windows : ws.map RbWindow.rb = (combinationOrder blk df).filter (AsksBelow4G blk ·)
  le : ∀ side, hi side ≤ mmioLimit blk side
  dvd : ∀ side, 2 ^ g ∣ (hi side).toNat
  cursor : t.mmioBaseAddr =
    if AsksBelow4G blk (primaryRb df) then
      Function.update hi (sideOf mmioIsAbovePcieCfg (primaryRb df))
        (primaryEnd blk (sideOf mmioIsAbovePcieCfg (primaryRb df)))
    else hi
  room : t.nonPciAt2ndRegion = true → MasksBelowGranule blk df g ∧ AsksBelow4G blk (primaryRb df) ∧
    (hi (sideOf mmioIsAbovePcieCfg (primaryRb df)).other).toNat + (sizeNonPci blk).toNat ≤
      (mmioLimit blk (sideOf mmioIsAbovePcieCfg (primaryRb df)).other).toNat

variable {f : Side → UInt64} {x : UInt64}

theorem update_le (hf : ∀ side, f side ≤ mmioLimit blk side) (hx : x ≤ mmioLimit blk side) :
    ∀ side', update f side x side' ≤ mmioLimit blk side' :=
  (forall_update_iff f fun side' y => y ≤ mmioLimit blk side').mpr ⟨hx, fun side' _ => hf side'⟩

variable {ws : List RbWindow} {out : MmioState}

theorem Combined.congr_block {block block' : Nat × Nat → PoolKind → Block} {start hi : Side → UInt64}
    (h : Combined blk df a block start hi ws out) (hsame : ∀ w ∈ ws, block' w.rb = block w.rb) :
    Combined blk df a block' start hi ws out :=
  ⟨h.order, fun w hw => hsame w hw ▸ h.stacked w hw, h.packed, h.allocated⟩

section
variable (hg : Granular blk sys df g) (h : Tracks blk a g s [primaryRb df])
  (hs : Combined blk df a (blockBelow4G blk) (mmioStart blk sys) s.mmioBaseAddr ws s.out)
  (hws : ws.map RbWindow.rb = (otherRootBridges blk df).filter (AsksBelow4G blk ·))
  (hle : ∀ side, s.mmioBaseAddr side ≤ mmioLimit blk side)
  (hasks : AsksBelow4G blk (primaryRb df)) (hside : sideOf a (primaryRb df) = side)
  (hl : layoutBelow4G blk (primaryRb df) (s.bigAlignFirst side) (s.mmioBaseAddr side) = l)
include hg h hs hws hle hasks hside hl

theorem Tracks.settled_stay (hstay : s.moves blk df side (primaryRb df) l = false)
    (hover : (tryRb blk df a true s (primaryRb df)).overSizeFlag = false)
    (hat2nd : s.nonPciAt2ndRegion = false) :
    Settled blk sys df a g (update s.mmioBaseAddr side l.mmioCeiling)
      (ws ++ [⟨primaryRb df, s.mmioBaseAddr side, l.mmioCeiling⟩])
      (tryRb blk df a true s (primaryRb df)) := by
  have hmask := hg.mask _ (primaryRb_mem blk df)
  have hasks' := h.noWrap.asks hasks hmask
  obtain ⟨-, hat, hcursor⟩ := tryRb_of_stay hasks' hside hl hstay hover
  obtain ⟨hcomb, hfits⟩ := hs.stay (primaryRb_mem blk df) (ne_primaryRb_of_map hws) hasks hmask h.noWrap hside hl hover
    hat2nd hstay
  refine ⟨?_, map_rb_append hws rfl hasks, update_le hle hfits, dvd_update h.dvd ?_, ?_, ?_⟩
  · rw [hat, hat2nd, firstBlock_stay]
    exact hcomb
  · rw [← hl]
    exact hg.mmioCeiling (primaryRb_mem blk df) (h.dvd side)
  · rw [hcursor, if_pos hasks, hside, update_idem]
  · intro hmoved
    rw [hat, hat2nd] at hmoved
    cases hmoved

theorem Tracks.settled_move (hbelow : MasksBelowGranule blk df g) (hmove : s.moves blk df side (primaryRb df) l = true) :
    Settled blk sys df a g (update s.mmioBaseAddr side (l.mmioCeiling - l.deltaSize))
      (ws ++ [⟨primaryRb df, s.mmioBaseAddr side, l.mmioCeiling - l.deltaSize⟩])
      (tryRb blk df a true s (primaryRb df)) := by
  have hasks' := h.noWrap.asks hasks (hg.mask _ (primaryRb_mem blk df))
  obtain ⟨hat, hcursor, hout⟩ := tryRb_of_move hasks' hside hl hmove
  obtain ⟨hst, hfits, hroom, -⟩ := h.of_move hg hbelow hasks hside hl hmove
  have hnew := ne_primaryRb_of_map hws
  have hsame : ∀ w ∈ ws, firstBlock blk df true w.rb = blockBelow4G blk w.rb := fun w hw => firstBlock_of_ne (hnew w hw)
  refine ⟨?_, map_rb_append hws rfl hasks, update_le hle hfits, dvd_update h.dvd ?_, ?_, ?_⟩
  · rw [hat, hout]
    exact (hs.congr_block hsame).add ⟨primaryRb df, s.mmioBaseAddr side, l.mmioCeiling - l.deltaSize⟩
      (primaryRb_mem blk df) hnew hside rfl hst
  · have hdelta : l.deltaSize = sizeNonPci blk := by
      rw [← hl]
      exact (hg.noGaps hbelow _ (h.dvd side)).deltaSize
    rw [← hl] at hdelta ⊢
    refine dvd_toNat_sub (hg.le.trans (by decide)) (hg.mmioCeiling (primaryRb_mem blk df) (h.dvd side)) ?_
    rw [hdelta]
    exact hg.size _ (primaryRb_mem blk df) .nonPci
  · rw [hcursor, if_pos hasks, hside, update_idem]
  · intro _
    rw [hside, update_of_ne side.other_ne]
    exact ⟨hbelow, hasks, hroom⟩

end

theorem settled_of_accepted (hg : Granular blk sys df g)
    (hnowrap : NoSumWraps blk a (mmioStart blk sys) (fun _ => true) (combinationOrder blk df))
    (hstay : MasksBelowGranule blk df g ∨ Fits blk a (mmioStart blk sys) (fun _ => true) (combinationOrder blk df))
    (hover : (runCombination blk df (mmioStart blk sys) a true out).overSizeFlag = false) :
    ∃ hi ws, Settled blk sys df a g hi ws (runCombination blk df (mmioStart blk sys) a true out) := by
  rw [runCombination_eq] at hover ⊢
  generalize hs : (otherRootBridges blk df).foldl (tryRb blk df a true) (.start (mmioStart blk sys) out) = s
    at hover ⊢
  have htracks : Tracks blk a g s [primaryRb df] := by
    have hstart : Tracks blk a g (.start (mmioStart blk sys) out) (combinationOrder blk df) :=
      ⟨hnowrap, hg.start, fun h => by cases h⟩
    rw [← hs]
    exact hstart.foldl hg (fun rb h => mem_append_left _ h) ne_of_mem_otherRootBridges
  have hothers : s.overSizeFlag = false → s.nonPciAt2ndRegion = false ∧ ∃ ws,
      ws.map RbWindow.rb = (otherRootBridges blk df).filter (AsksBelow4G blk ·) ∧
      Combined blk df a (blockBelow4G blk) (mmioStart blk sys) s.mmioBaseAddr ws s.out ∧
      ∀ side, s.mmioBaseAddr side ≤ mmioLimit blk side := by
    intro hspace
    obtain ⟨hat, ws, hws, hcomb, hlimit, -⟩ := combined_others hg.mask hnowrap hs hspace
    refine ⟨hat, ws, hws, hcomb, fun side => ?_⟩
    rcases hlimit side with hsame | hle
    · exact hsame ▸ hg.start_le side
    · exact hle
  by_cases hasks : AsksBelow4G blk (primaryRb df)
  · generalize hside : sideOf a (primaryRb df) = side
    generalize hl : layoutBelow4G blk (primaryRb df) (s.bigAlignFirst side) (s.mmioBaseAddr side) = l
    cases hmove : s.moves blk df side (primaryRb df) l with
    | false =>
      have hasks' := htracks.noWrap.asks hasks (hg.mask _ (primaryRb_mem blk df))
      obtain ⟨hat, ws, hws, hcomb, hle⟩ := hothers (tryRb_of_stay hasks' hside hl hmove hover).1
      exact ⟨_, _, htracks.settled_stay hg hcomb hws hle hasks hside hl hmove hover hat⟩
    | true =>
      rcases hstay with hbelow | hfits
      · obtain ⟨-, ws, hws, hcomb, hle⟩ := hothers (htracks.of_move hg hbelow hasks hside hl hmove).2.2.2
        exact ⟨_, _, htracks.settled_move hg hcomb hws hle hasks hside hl hbelow hmove⟩
      · have hrun : s.overSizeFlag = false ∧ Fits blk a s.mmioBaseAddr s.bigAlignFirst [primaryRb df] := by
          rw [← hs]
          exact Fits.foldl ne_of_mem_otherRootBridges hg.mask hnowrap hfits rfl
        rw [hrun.2.not_moves hrun.1 htracks.noWrap hasks hside hl] at hmove
        cases hmove
  · rw [tryRb_of_not_asks hasks] at hover ⊢
    obtain ⟨hat, ws, hws, hcomb, hle⟩ := hothers hover
    refine ⟨s.mmioBaseAddr, ws, ?_, map_rb_of_not_asks hws hasks, hle, htracks.dvd, (if_neg hasks).symm, ?_⟩
    · rw [hat, firstBlock_stay]
      exact hcomb
    · intro hmoved
      rw [hat] at hmoved
      cases hmoved

end

end OpenSil.RcMgr
