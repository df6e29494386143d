import OpenSil.RcMgr.Granular

/-! # The second region of the primary root bridge -/

namespace OpenSil.RcMgr

open Word Place List Nat UInt64

/-- The requests for the second region are in multiples of `2 ^ g` too, which is larger than the masks of the pools that
the region gets. Two requests are divided in proportion, with a sum of 32 bits. -/
structure SecondGranular (blk : InputBlk) (g : Nat) : Prop where
  size : 2 ^ g ∣ blk.primaryRbSecondPrefetchableMmioSizeBelow4G.size.toNat
  mask : blk.primaryRbSecondPrefetchableMmioSizeBelow4G.size ≠ 0 ∨
      blk.primaryRbSecondNonPrefetchableMmioSizeBelow4G.size = 0 →
    IsMask blk.primaryRbSecondPrefetchableMmioSizeBelow4G.alignment ∧
      blk.primaryRbSecondPrefetchableMmioSizeBelow4G.alignment.toNat < 2 ^ g
  mask' : blk.primaryRbSecondNonPrefetchableMmioSizeBelow4G.size ≠ 0 →
    IsMask blk.primaryRbSecondNonPrefetchableMmioSizeBelow4G.alignment ∧
      blk.primaryRbSecondNonPrefetchableMmioSizeBelow4G.alignment.toNat < 2 ^ g
  sum : blk.primaryRbSecondPrefetchableMmioSizeBelow4G.size ≠ 0 →
    blk.primaryRbSecondNonPrefetchableMmioSizeBelow4G.size ≠ 0 →
    blk.primaryRbSecondPrefetchableMmioSizeBelow4G.size.toNat +
      blk.primaryRbSecondNonPrefetchableMmioSizeBelow4G.size.toNat < 2 ^ 32

def secondMask (blk : InputBlk) : PoolKind → UInt64
  | .nonPci => rcMgrNonPciMmioAlignMask
  | .prefetch => blk.primaryRbSecondPrefetchableMmioSizeBelow4G.alignment
  | .nonPrefetch => blk.primaryRbSecondNonPrefetchableMmioSizeBelow4G.alignment

/-! ## The cut -/

variable {blk : InputBlk} {g : Nat} {p np : AddrAperture} {size sp : UInt64}

theorem secondSizePrefetch_cases (h : secondSizePrefetch p np size = some sp) :
    (np.size = 0 ∧ sp = size) ∨ (np.size ≠ 0 ∧ p.size = 0 ∧ sp = 0) ∨
      (np.size ≠ 0 ∧ p.size ≠ 0 ∧ sp = size / (p.size + np.size).toUInt32.toUInt64 * p.size) := by
  unfold secondSizePrefetch at h
  split_ifs at h with hnp hp
  · exact .inl ⟨hnp, (Option.some.inj h).symm⟩
  · exact .inr (.inl ⟨hnp, hp, (Option.some.inj h).symm⟩)
  · unfold divide at h
    split_ifs at h
    · cases h
    · exact .inr (.inr ⟨hnp, hp, (Option.some.inj h).symm⟩)

theorem secondSizePrefetch_le (hsum : p.size ≠ 0 → np.size ≠ 0 → p.size.toNat + np.size.toNat < 2 ^ 32)
    (h : secondSizePrefetch p np size = some sp) : sp ≤ size := by
  rcases secondSizePrefetch_cases h with ⟨-, rfl⟩ | ⟨-, -, rfl⟩ | ⟨hnp, hp, rfl⟩
  · exact UInt64.le_refl _
  · exact UInt64.zero_le
  · have hlt32 := hsum hp hnp
    have hdiv := div_mul_le_self size.toNat (p.size.toNat + np.size.toNat)
    have hmul := mul_le_mul_left (size.toNat / (p.size.toNat + np.size.toNat)) (le_add_right p.size.toNat np.size.toNat)
    have hlt := size.toNat_lt
    rw [le_iff_toNat_le, UInt64.toNat_mul, UInt64.toNat_div, UInt32.toNat_toUInt64, toNat_toUInt32,
      UInt64.toNat_add, mod_eq_of_lt (by omega : p.size.toNat + np.size.toNat < 2 ^ 64), mod_eq_of_lt hlt32,
      mod_eq_of_lt (by omega)]
    omega

theorem dvd_secondSizePrefetch (hg : g ≤ 64) (hp : 2 ^ g ∣ p.size.toNat) (hsize : 2 ^ g ∣ size.toNat)
    (h : secondSizePrefetch p np size = some sp) : 2 ^ g ∣ sp.toNat := by
  rcases secondSizePrefetch_cases h with ⟨-, rfl⟩ | ⟨-, -, rfl⟩ | ⟨-, -, rfl⟩
  · exact hsize
  · exact dvd_zero _
  · rw [UInt64.toNat_mul]
    exact (dvd_mod_iff (pow_dvd_pow 2 hg)).mpr (Dvd.dvd.mul_left hp _)

/-- The masks of the pools that are not empty. -/
theorem SecondGranular.masks (hg : SecondGranular blk g)
    (h : secondSizePrefetch blk.primaryRbSecondPrefetchableMmioSizeBelow4G
      blk.primaryRbSecondNonPrefetchableMmioSizeBelow4G size = some sp) {x : UInt64} (hx : 2 ^ g ∣ x.toNat) :
    (sp ≠ 0 → alignUp x blk.primaryRbSecondPrefetchableMmioSizeBelow4G.alignment = x ∧
      x &&& secondMask blk .prefetch = 0) ∧
    (size - sp ≠ 0 → alignUp x blk.primaryRbSecondNonPrefetchableMmioSizeBelow4G.alignment = x ∧
      x &&& secondMask blk .nonPrefetch = 0) := by
  have hmask := fun hasks => (⟨alignUp_of_dvd (hg.mask hasks).1 (hg.mask hasks).2 hx,
    and_mask_of_dvd (hg.mask hasks).1 (hg.mask hasks).2 hx⟩ : _ ∧ _)
  have hmask' := fun hasks => (⟨alignUp_of_dvd (hg.mask' hasks).1 (hg.mask' hasks).2 hx,
    and_mask_of_dvd (hg.mask' hasks).1 (hg.mask' hasks).2 hx⟩ : _ ∧ _)
  rcases secondSizePrefetch_cases h with ⟨hnp, rfl⟩ | ⟨hnp, -, rfl⟩ | ⟨hnp, hp, -⟩
  · exact ⟨fun _ => hmask (.inr hnp), fun hne => absurd (UInt64.sub_self _) hne⟩
  · exact ⟨absurd rfl, fun _ => hmask' hnp⟩
  · exact ⟨fun _ => hmask (.inl hp), fun _ => hmask' hnp⟩

def secondShare (blk : InputBlk) (moved : Bool) (size : UInt64) : UInt64 := if moved then size - sizeNonPci blk else size

variable {moved : Bool}

theorem dvd_secondShare (hg : g ≤ 64) (hsize : 2 ^ g ∣ size.toNat) (hn : 2 ^ g ∣ (sizeNonPci blk).toNat) :
    2 ^ g ∣ (secondShare blk moved size).toNat := by
  unfold secondShare
  split_ifs
  · exact dvd_toNat_sub hg hsize hn
  · exact hsize

section
variable (hg : SecondGranular blk g) (hle : g ≤ 64) (hmoved : moved = true → rcMgrNonPciMmioAlignMask.toNat < 2 ^ g)
  {b : UInt64} (hb : 2 ^ g ∣ b.toNat) (hsize : 2 ^ g ∣ size.toNat) (hn : 2 ^ g ∣ (sizeNonPci blk).toNat) {r : MmioRegion}
  (h : secondRegion blk moved b size = some r)
include hg hle hmoved hb hsize hn h

theorem secondRegion_eq {share : UInt64} (hshare : secondShare blk moved size = share) :
    ∃ sp, secondSizePrefetch blk.primaryRbSecondPrefetchableMmioSizeBelow4G
        blk.primaryRbSecondNonPrefetchableMmioSizeBelow4G share = some sp ∧
      r =
      { baseNonPci := if moved then b + share else 0
        sizeNonPci := if moved then sizeNonPci blk else 0
        usedSizeNonPci := 0
        baseNonPrefetch := if share - sp = 0 then 0 else b + sp
        sizeNonPrefetch := share - sp
        usedSizeNonPrefetch := 0
        basePrefetch := if sp = 0 then 0 else b
        sizePrefetch := sp
        usedSizePrefetch := 0
        alignNonPrefetch := blk.primaryRbSecondNonPrefetchableMmioSizeBelow4G.alignment
        alignPrefetch := blk.primaryRbSecondPrefetchableMmioSizeBelow4G.alignment } := by
  have htop : moved = true →
      alignDown (b + size - sizeNonPci blk) rcMgrNonPciMmioAlignMask = b + size - sizeNonPci blk := fun hm =>
    alignDown_of_dvd isMask_nonPci (hmoved hm) (dvd_toNat_sub hle (dvd_toNat_add hle hb hsize) hn)
  have hsame : (if moved then (if moved then alignDown (b + size - sizeNonPci blk) rcMgrNonPciMmioAlignMask else 0) - b
      else size) = share := by
    rw [← hshare]
    unfold secondShare
    split_ifs with hm
    · rw [htop hm]
      grind
    · rfl
  have hbase : (if moved then alignDown (b + size - sizeNonPci blk) rcMgrNonPciMmioAlignMask else 0) =
      if moved then b + share else 0 := by
    rw [← hshare]
    unfold secondShare
    split_ifs with hm
    · rw [htop hm]
      grind
    · rfl
  unfold secondRegion at h
  dsimp only at h
  rw [hsame, hbase] at h
  obtain ⟨sp, hsp, hr⟩ := Option.bind_eq_some_iff.mp h
  refine ⟨sp, hsp, (Option.some.inj hr).symm.trans ?_⟩
  have hdvd : 2 ^ g ∣ sp.toNat := dvd_secondSizePrefetch hle hg.size (hshare ▸ dvd_secondShare hle hsize hn) hsp
  have hfirst : (if sp ≠ 0 then alignUp b blk.primaryRbSecondPrefetchableMmioSizeBelow4G.alignment else b) = b := by
    split_ifs with hne
    · exact ((hg.masks hsp hb).1 hne).1
    · rfl
  have hrest : b + share - (b + sp) = share - sp := by grind
  rw [hfirst]
  by_cases hne : share - sp = 0
  · simp [hne]
  · simp [hne, ((hg.masks hsp (dvd_toNat_add hle hb hdvd)).2 hne).1, hrest]

theorem secondRegion_stacked (hroom : moved = true → sizeNonPci blk ≤ size) (hlt : b.toNat + size.toNat < 2 ^ 64) :
    Stacked (fun _ => True) (fun k => ⟨secondMask blk k, 0⟩) r.base r.size b.toNat (b.toNat + size.toNat) ∧
    r.sizePrefetch.toNat + r.sizeNonPrefetch.toNat + r.sizeNonPci.toNat = size.toNat := by
  generalize hshare : secondShare blk moved size = share
  obtain ⟨sp, hsp, hr⟩ := secondRegion_eq hg hle hmoved hb hsize hn h hshare
  have hdvd : 2 ^ g ∣ share.toNat := hshare ▸ dvd_secondShare hle hsize hn
  have hdvd' : 2 ^ g ∣ sp.toNat := dvd_secondSizePrefetch hle hg.size hdvd hsp
  have hsple : sp ≤ share := secondSizePrefetch_le hg.sum hsp
  have hcut : share.toNat + (if moved then sizeNonPci blk else 0).toNat = size.toNat := by
    rw [← hshare]
    unfold secondShare
    split_ifs with hmoved
    · have hn' := UInt64.le_iff_toNat_le.mp (hroom hmoved)
      rw [UInt64.toNat_sub_of_le _ _ (hroom hmoved)]
      omega
    · rfl
  have hnp := UInt64.toNat_sub_of_le _ _ hsple
  rw [UInt64.le_iff_toNat_le] at hsple
  have hmid : (b + sp).toNat = b.toNat + sp.toNat := by
    rw [toNat_add_eq (by omega)]
  have hmid' : (b + share).toNat = b.toNat + share.toNat := by
    rw [toNat_add_eq (by omega)]
  have hbnp : r.size .nonPrefetch ≠ 0 → r.base .nonPrefetch = b + sp := by
    subst hr
    exact fun hne => if_neg hne
  have hbp : r.size .prefetch ≠ 0 → r.base .prefetch = b := by
    subst hr
    exact fun hne => if_neg hne
  have hbn : r.size .nonPci ≠ 0 → moved = true ∧ r.base .nonPci = b + share := by
    subst hr
    cases moved <;> simp [MmioRegion.base, MmioRegion.size]
  have hsn : r.size .nonPci = if moved then sizeNonPci blk else 0 := hr ▸ rfl
  have hsnp : r.size .nonPrefetch = share - sp := hr ▸ rfl
  have hsp' : r.size .prefetch = sp := hr ▸ rfl
  refine ⟨?_, ?_⟩
  · have hnil : Stacked (fun _ => False) (fun k => ⟨secondMask blk k, 0⟩) r.base r.size (b.toNat + size.toNat)
        (b.toNat + size.toNat) := stacked_nil le_rfl
    have haligned : moved = true → (b + share) &&& secondMask blk .nonPci = 0 := fun hm =>
      and_mask_of_dvd isMask_nonPci (hmoved hm) (dvd_toNat_add hle hb hdvd)
    have htop := hnil.cons .nonPci (b + share) le_rfl (by rw [hmid', hsn]; omega) UInt64.zero_le
      (fun hne => haligned (hbn hne).1) fun hne => (hbn hne).2
    have hmiddle := htop.cons .nonPrefetch (b + sp) le_rfl (by rw [hsnp]; omega) UInt64.zero_le
      (fun hne => ((hg.masks hsp (dvd_toNat_add hle hb hdvd')).2 (hsnp ▸ hne)).2) hbnp
    refine (hmiddle.cons .prefetch b le_rfl (by rw [hsp']; omega) UInt64.zero_le
      (fun hne => ((hg.masks hsp hb).1 (hsp' ▸ hne)).2) hbp).mono_dom ?_
    rintro (_ | _ | _) _ <;> simp
  · change (r.size .prefetch).toNat + (r.size .nonPrefetch).toNat + (r.size .nonPci).toNat = size.toNat
    rw [hsp', hsnp, hsn]
    omega

end

/-! ## Where the second region goes -/

def TryState.secondRange (blk : InputBlk) (s : TryState) : Nat × Nat :=
  let base := s.mmioBaseAddr (s.secondSide blk)
  (base.toNat, (primaryEnd blk (s.secondSide blk) - base).toNat)

variable {sys : SystemInfo} {df : DfAnswers} {a : Nat → Bool} {hi start : Side → UInt64}
  {ws : List RbWindow} {s : TryState} {out : MmioState}

theorem limit_le_primaryEnd (hg : Granular blk sys df g) (side : Side) : mmioLimit blk side ≤ primaryEnd blk side := by
  cases side with
  | above => exact hg.bottom
  | below => exact UInt64.le_refl _

open TryState

theorem Settled.secondSide (h : Settled blk sys df a g hi ws s) (hg : Granular blk sys df g)
    (hwants : s.wantsSecondRegion blk = true) :
    s.mmioBaseAddr (s.secondSide blk) = hi (s.secondSide blk) ∧
    (AsksBelow4G blk (primaryRb df) → s.secondSide blk = (sideOf a (primaryRb df)).other) := by
  have hcursor := h.cursor
  by_cases hasks : AsksBelow4G blk (primaryRb df)
  · rw [if_pos hasks] at hcursor
    suffices hside : s.secondSide blk = (sideOf a (primaryRb df)).other by
      rw [hside, hcursor, Function.update_of_ne (Side.other_ne _)]
      exact ⟨rfl, fun _ => rfl⟩
    unfold TryState.secondSide
    cases hside : sideOf a (primaryRb df) with
    | above =>
      have habove : s.mmioBaseAddr .above = bottomOfCompat := by rw [hcursor, hside, Function.update_self]; rfl
      rw [habove, if_neg (UInt64.not_lt.mpr hg.bottom)]
      rfl
    | below =>
      have hbelow : s.mmioBaseAddr .below = mmioLimit blk .below := by rw [hcursor, hside, Function.update_self]; rfl
      have habove : s.mmioBaseAddr .above = hi .above := by
        rw [hcursor, hside, Function.update_of_ne Side.noConfusion]
      unfold wantsSecondRegion at hwants
      simp only [Bool.and_eq_true, Bool.or_eq_true, decide_eq_true_eq, and_assoc, habove, hbelow] at hwants
      have hspace := hwants.1
      have hle := h.le .above
      have hbottom := hg.bottom
      have hpcie := hg.pcie
      rw [if_pos]
      · rfl
      rw [habove]
      change mmioLimit blk .below < 0x100000000 at hpcie
      simp only [UInt64.lt_iff_toNat_lt, UInt64.le_iff_toNat_le, UInt64.toNat_add, bottomOfCompat, rcMgrMmioMinSize,
        UInt64.reduceToNat] at hspace hle hbottom hpcie ⊢
      omega
  · simp_all

variable {rb : Nat × Nat} {setDfRegisters : Bool}

@[simp] theorem tryRb_has2nd :
    (tryRb blk df a setDfRegisters s rb).out.manager.primaryRbHas2ndMmioBelow4G =
      s.out.manager.primaryRbHas2ndMmioBelow4G := by
  unfold tryRb placeRb recordIf record
  dsimp only
  split_ifs <;> rfl

theorem foldl_tryRb_has2nd (rbs : List (Nat × Nat)) :
    (rbs.foldl (tryRb blk df a setDfRegisters) s).out.manager.primaryRbHas2ndMmioBelow4G =
      s.out.manager.primaryRbHas2ndMmioBelow4G :=
  Stores.foldl_keep (p := fun s : TryState => s.out.manager.primaryRbHas2ndMmioBelow4G) (fun _ _ => tryRb_has2nd) rbs s

theorem of_addSecondRegion {t : TryState} (hnew : s.out.manager.primaryRbHas2ndMmioBelow4G = false)
    (ht : s.addSecondRegion blk df = some t) (h : t.out.manager.primaryRbHas2ndMmioBelow4G = true) :
    s.wantsSecondRegion blk = true ∧ ∃ slot region, spareSlot s.out.manager = some slot ∧
      s.regionLeft blk = some region ∧ t = s.setSecondRegion blk df slot region := by
  rcases addSecondRegion_cases blk df ht with ⟨rfl, -⟩ | ⟨slot, region, hwants, hslot⟩
  · rw [hnew] at h
    cases h
  · exact ⟨hwants, slot, region, hslot⟩

variable {slot : Nat × Nat}

theorem spareSlot_lt {m : MmioManager} (h : spareSlot m = some slot) : slot.1 < 2 ∧ slot.2 < 4 := by
  have hmem := mem_of_find?_eq_some h
  obtain ⟨i, hi, hslot⟩ := mem_flatMap.mp hmem
  obtain ⟨j, hj, rfl⟩ := mem_map.mp hslot
  refine ⟨?_, mem_range.mp hj⟩
  split_ifs at hi
  · rw [mem_singleton.mp hi]
    exact zero_lt_two
  · exact mem_range.mp hi

theorem setSecondRegion_region (blk : InputBlk) (df : DfAnswers) (s : TryState) (region : MmioRegion)
    (h : slot.1 < 2 ∧ slot.2 < 4) :
    let m := (s.setSecondRegion blk df slot region).out.manager
    m.region m.secondRegion = region := by
  obtain ⟨i, j⟩ := slot
  have hslot : ∀ i < 2, ∀ j < 4, ((UInt8.ofNat ((i <<< 4) ||| j) >>> 4) &&& 0xF).toNat = i ∧
      (UInt8.ofNat ((i <<< 4) ||| j) &&& 0xF).toNat = j := by decide
  obtain ⟨hi, hj⟩ := hslot i h.1 j h.2
  unfold setSecondRegion MmioManager.region MmioManager.secondRegion
  simp only [Bool.false_eq_true, if_false, hi, hj, Table.set_self]

/-- The pools of the second region are aligned and disjoint, lie in the range of its registers, and share no address
with a first region. -/
structure SoundSecondRegion (blk : InputBlk) (df : DfAnswers) (range : Nat × Nat) (m : MmioManager) : Prop where
  apart : ∀ k k', k ≠ k' →
    Bump.Apart ((m.region m.secondRegion).range k) ((m.region m.secondRegion).range k')
  aligned : ∀ k, (m.region m.secondRegion).size k ≠ 0 → (m.region m.secondRegion).base k &&& secondMask blk k = 0
  inside : ∀ k, Inside ((m.region m.secondRegion).range k) range.1 (range.1 + range.2)
  size : (m.region m.secondRegion).sizePrefetch.toNat + (m.region m.secondRegion).sizeNonPrefetch.toNat +
    (m.region m.secondRegion).sizeNonPci.toNat ≤ range.2
  first : ∀ rb ∈ combinationOrder blk df, AsksBelow4G blk rb → ∀ k k',
    Bump.Apart ((m.region m.secondRegion).range k) ((m.mmioRegionBelow4G rb.1 rb.2).range k')

variable {side : Side}

section
variable (h : Settled blk sys df a g hi ws s)
include h

theorem Settled.second_stacked (hg : Granular blk sys df g) (hg2 : SecondGranular blk g)
    (hwants : s.wantsSecondRegion blk = true) (hside : s.secondSide blk = side) {r : MmioRegion}
    (hr : s.regionLeft blk = some r) :
    Stacked (fun _ => True) (fun k => ⟨secondMask blk k, 0⟩) r.base r.size (hi side).toNat (mmioLimit blk side).toNat ∧
    r.sizePrefetch.toNat + r.sizeNonPrefetch.toNat + r.sizeNonPci.toNat =
      (mmioLimit blk side).toNat - (hi side).toNat := by
  have hg64 : g ≤ 64 := hg.le.trans (by decide)
  obtain ⟨hcursor, hother⟩ := h.secondSide hg hwants
  rw [hside] at hcursor hother
  unfold regionLeft at hr
  rw [hside, hcursor] at hr
  have hle := UInt64.le_iff_toNat_le.mp (h.le side)
  have hlt := (mmioLimit blk side).toNat_lt
  have hsize := UInt64.toNat_sub_of_le _ _ (h.le side)
  have hroom : s.nonPciAt2ndRegion = true → sizeNonPci blk ≤ mmioLimit blk side - hi side := by
    intro hmoved
    obtain ⟨-, hasks, hroom⟩ := h.room hmoved
    rw [← hother hasks] at hroom
    rw [UInt64.le_iff_toNat_le, hsize]
    omega
  have hst := secondRegion_stacked hg2 hg64 (fun hmoved => (h.room hmoved).1 .nonPci) (h.dvd side)
    (dvd_toNat_sub hg64 (hg.limit side) (h.dvd side)) (hg.size _ (primaryRb_mem blk df) .nonPci) hr hroom (by omega)
  rw [hsize, Nat.add_sub_cancel' hle] at hst
  exact hst

theorem Settled.window (hrb : rb ∈ combinationOrder blk df) (hasks : AsksBelow4G blk rb) : ∃ w ∈ ws, w.rb = rb :=
  exists_window h.windows hrb hasks

theorem Settled.apart_first {r : Nat × Nat} (hr : Inside r (hi side).toNat (mmioLimit blk side).toNat)
    (hrb : rb ∈ combinationOrder blk df) (hasks : AsksBelow4G blk rb) (k : PoolKind) :
    Bump.Apart r ((s.out.manager.mmioRegionBelow4G rb.1 rb.2).range k) := by
  obtain ⟨w, hw, rfl⟩ := h.window hrb hasks
  have hin := h.combined.inside_side hw k
  by_cases hside : sideOf a w.rb = side
  · rw [hside] at hin
    exact Apart.symm (hin.apart hr)
  · have hr' := hr.mono (h.combined.packed side).le le_rfl
    exact sides_apart (Ne.symm hside) (inside_of_side (fun side => .inr (UInt64.le_refl (mmioLimit blk side))) hr')
      (inside_of_side (fun side => .inr (h.le side)) hin)

end

def secondBlk (mask : UInt64) : InputBlk :=
  { plainBlk 0xE0000000 with primaryRbSecondPrefetchableMmioSizeBelow4G := ⟨0x1000000, mask⟩ }

theorem secondBlk_granular : Granular (secondBlk 0xFFFFFF) (plainSystem 0x100000000) plainDf 24 := by
  have hnone : IsMask 0 := ⟨0, by decide⟩
  refine ⟨by decide, by decide, by decide, by decide, by decide, by decide, by decide, ?_, ?_⟩
  · rintro rb - (_ | _ | _)
    · exact dvd_zero _
    · exact dvd_zero _
    · exact dvd_refl _
  · rintro rb - (_ | _ | _)
    · exact hnone
    · exact hnone
    · exact isMask_nonPci

theorem secondBlk_secondGranular : SecondGranular (secondBlk 0xFFFFFF) 24 := by
  have h16M : IsMask 0xFFFFFF := ⟨24, by decide⟩
  exact ⟨by decide, fun _ => ⟨h16M, by decide⟩, absurd rfl, fun _ => absurd rfl⟩

end OpenSil.RcMgr
