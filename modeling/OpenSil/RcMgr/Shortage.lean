import OpenSil.RcMgr.OverSize

/-! # When the missing space is enough -/

namespace OpenSil.RcMgr

open Word Place Loop List Function Nat Option UInt64

variable {blk : InputBlk} {sys : SystemInfo} {df : DfAnswers} {a a' : Nat → Bool} {s : TryState} {rb : Nat × Nat} {side : Side}

/-! ## Where the cursors end -/

def TryState.ends (blk : InputBlk) (a : Nat → Bool) (s : TryState) (rbs : List (Nat × Nat)) (side : Side) : UInt64 :=
  finish (fun i => blockBelow4G blk i.1 i.2) (s.mmioBaseAddr side) (queueOfSide blk a side (s.bigAlignFirst side) rbs)

def TryState.passed (blk : InputBlk) (a : Nat → Bool) (s : TryState) (rb : Nat × Nat) : TryState :=
  s.advance blk (sideOf a rb)
    (layoutBelow4G blk rb (s.bigAlignFirst (sideOf a rb)) (s.mmioBaseAddr (sideOf a rb))).mmioCeiling

open TryState

theorem tryRb_passed (df : DfAnswers) (a : Nat → Bool) (s : TryState) (hasks : asksBelow4G blk rb = true) :
    (rb = primaryRb df ∧ (tryRb blk df a false s rb).overSizeFlag = false) ∨
      tryRb blk df a false s rb = s.passed blk a rb := by
  unfold tryRb placeRb
  rw [if_pos hasks]
  dsimp only
  split_ifs with hmove
  · unfold canMoveNonPci at hmove
    simp only [Bool.and_eq_true, decide_eq_true_eq] at hmove
    exact .inl ⟨hmove.1.1.1.2, by rw [recordIf_overSizeFlag]; rfl⟩
  · unfold recordIf
    rw [Bool.and_false]
    exact .inr rfl

theorem ends_passed (rbs : List (Nat × Nat)) (hasks : AsksBelow4G blk rb) :
    (s.passed blk a rb).ends blk a rbs = s.ends blk a (rb :: rbs) := by
  funext side
  unfold ends passed advance
  dsimp only
  by_cases hs : side = sideOf a rb
  · subst hs
    rw [update_self, update_self, finish_queueOfSide_cons hasks rfl]
  · rw [update_of_ne hs, update_of_ne hs, queueOfSide_cons_of_not fun h => hs h.2.symm]

theorem ends_skip (rbs : List (Nat × Nat)) (hasks : ¬ AsksBelow4G blk rb) :
    s.ends blk a (rb :: rbs) = s.ends blk a rbs := by
  funext side
  unfold ends
  rw [queueOfSide_cons_of_not fun h => hasks h.1]

theorem passed_overSizeFlag (h : s.overSizeFlag = false)
    (hle : (s.passed blk a rb).mmioBaseAddr (sideOf a rb) ≤ mmioLimit blk (sideOf a rb)) :
    (s.passed blk a rb).overSizeFlag = false := by
  unfold passed advance at hle ⊢
  dsimp only at hle ⊢
  rw [update_self] at hle
  rw [h, Bool.false_or]
  exact decide_eq_false (UInt64.not_lt.mpr hle)

theorem cursor_le_ends {rbs : List (Nat × Nat)} (hmask : ∀ rb ∈ rbs, ∀ k, IsMask (blockBelow4G blk rb k).mask)
    (h : NoSumWraps blk a s.mmioBaseAddr s.bigAlignFirst rbs) (side : Side) :
    s.mmioBaseAddr side ≤ s.ends blk a rbs side :=
  le_iff_toNat_le.mpr
    (le_trans (le_add_right _ _) ((h side).add_sum_le fun i hi => hmask i.1 (mem_queueOfSide hi).1 i.2))

theorem ends_foldl {rbs rest : List (Nat × Nat)} (hne : ∀ rb ∈ rbs, rb ≠ primaryRb df)
    (hmask : ∀ rb ∈ rbs ++ rest, ∀ k, IsMask (blockBelow4G blk rb k).mask)
    (h : NoSumWraps blk a s.mmioBaseAddr s.bigAlignFirst (rbs ++ rest)) :
    let t := rbs.foldl (tryRb blk df a false) s
    t.ends blk a rest = s.ends blk a (rbs ++ rest) ∧ NoSumWraps blk a t.mmioBaseAddr t.bigAlignFirst rest ∧
      (s.overSizeFlag = false → (∀ side, s.ends blk a (rbs ++ rest) side ≤ mmioLimit blk side) →
        t.overSizeFlag = false) := by
  induction rbs generalizing s with
  | nil => exact ⟨rfl, h, fun hover _ => hover⟩
  | cons rb rbs ih =>
    rw [cons_append] at hmask h ⊢
    rw [forall_mem_cons] at hne hmask
    by_cases hasks : AsksBelow4G blk rb
    · have hstep : tryRb blk df a false s rb = s.passed blk a rb :=
        (tryRb_passed df a s (h.asks hasks hmask.1)).resolve_left fun h => hne.1 h.1
      have htail : NoSumWraps blk a (s.passed blk a rb).mmioBaseAddr (s.passed blk a rb).bigAlignFirst (rbs ++ rest) :=
        h.tail hasks rfl
      obtain ⟨hends, hrest, hover⟩ := ih hne.2 hmask.2 htail
      have hcursor := cursor_le_ends hmask.2 htail (sideOf a rb)
      rw [ends_passed _ hasks] at hends hover hcursor
      rw [foldl_cons, hstep]
      refine ⟨hends, hrest, fun hfalse hle => hover (passed_overSizeFlag hfalse ?_) hle⟩
      exact UInt64.le_trans hcursor (hle _)
    · rw [foldl_cons, tryRb_of_not_asks hasks, ends_skip _ hasks]
      exact ih hne.2 hmask.2 (h.skip hasks)

theorem ends_primary (hmask : ∀ k, IsMask (blockBelow4G blk (primaryRb df) k).mask)
    (h : NoSumWraps blk a s.mmioBaseAddr s.bigAlignFirst [primaryRb df]) :
    let t := tryRb blk df a false s (primaryRb df)
    (t.overSizeFlag = true → t.mmioBaseAddr = s.ends blk a [primaryRb df]) ∧
      (s.overSizeFlag = false → (∀ side, s.ends blk a [primaryRb df] side ≤ mmioLimit blk side) →
        t.overSizeFlag = false) := by
  by_cases hasks : AsksBelow4G blk (primaryRb df)
  · have hpassed : (s.passed blk a (primaryRb df)).mmioBaseAddr = s.ends blk a [primaryRb df] :=
      ends_passed [] hasks
    rcases tryRb_passed df a s (h.asks hasks hmask) with ⟨-, hmoved⟩ | hstep
    · exact ⟨fun hover => absurd (hover.symm.trans hmoved) (by decide), fun _ _ => hmoved⟩
    · rw [hstep]
      refine ⟨fun _ => hpassed, fun hfalse hle => passed_overSizeFlag hfalse ?_⟩
      rw [hpassed]
      exact hle _
  · rw [tryRb_of_not_asks hasks, ends_skip _ hasks]
    exact ⟨fun _ => rfl, fun hfalse _ => hfalse⟩

def endOfSide (blk : InputBlk) (df : DfAnswers) (start : Side → UInt64) (a : Nat → Bool) (side : Side) : UInt64 :=
  finish (fun i => blockBelow4G blk i.1 i.2) (start side) (queueOfSide blk a side true (combinationOrder blk df))

section
variable {start : Side → UInt64}
  (hmask : ∀ rb ∈ combinationOrder blk df, ∀ k, IsMask (blockBelow4G blk rb k).mask)
  (hwraps : NoSumWraps blk a start (fun _ => true) (combinationOrder blk df))
include hmask hwraps

theorem runCombination_ends (out : MmioState) :
    let t := runCombination blk df start a false out
    (t.overSizeFlag = true → t.mmioBaseAddr = endOfSide blk df start a) ∧
      ((∀ side, endOfSide blk df start a side ≤ mmioLimit blk side) → t.overSizeFlag = false) := by
  intro t
  obtain ⟨hends, hrest, hover⟩ := ends_foldl (s := .start start out) ne_of_mem_otherRootBridges hmask hwraps
  obtain ⟨hcursors, hover'⟩ := ends_primary (hmask _ (primaryRb_mem blk df)) hrest
  have ht : t = tryRb blk df a false ((otherRootBridges blk df).foldl (tryRb blk df a false) (.start start out))
      (primaryRb df) := runCombination_eq
  have hall : endOfSide blk df start a = _ := hends.symm
  rw [ht, hall]
  refine ⟨hcursors, fun hle => hover' (hover rfl ?_) hle⟩
  rw [← hends]
  exact hle

theorem accepts_of_ends (h : ∀ side, endOfSide blk df start a side ≤ mmioLimit blk side) :
    accepts blk df start a = true := by
  unfold accepts
  rw [(runCombination_ends hmask hwraps .zero).2 h]
  rfl

/-! ## What is noted -/

/-- What is noted about a combination that fits above the configuration space but not below it. -/
structure Noted (blk : InputBlk) (df : DfAnswers) (start : Side → UInt64) (a : Nat → Bool) (o : OverSize) : Prop where
  above : endOfSide blk df start a .above ≤ mmioLimit blk .above
  below : mmioLimit blk .below < endOfSide blk df start a .below
  min : (mmioLimit blk .below).toNat + o.overSizeBelowPcieMin.toNat = (endOfSide blk df start a .below).toNat
  mask : o.alignmentMask = (alignForFirstMmioRegion blk df a .below).toUInt32

theorem noteOverSize_spec (out : MmioState) (o : OverSize) (hspace : start .below < mmioLimit blk .below)
    (hreject : accepts blk df start a = false) :
    let o' := noteOverSize blk df start out a o
    (o' = o ∨ Noted blk df start a o') ∧ o'.overSizeBelowPcieMin.toNat ≤ o.overSizeBelowPcieMin.toNat ∧
      (endOfSide blk df start a .above ≤ mmioLimit blk .above →
        (mmioLimit blk .below).toNat + o'.overSizeBelowPcieMin.toNat ≤ (endOfSide blk df start a .below).toNat) := by
  have hover : (runCombination blk df start a false out).overSizeFlag = true := by
    rw [← not_overSizeFlag false out] at hreject
    simpa using hreject
  obtain ⟨hcursors, hfits⟩ := runCombination_ends hmask hwraps out
  have hends := hcursors hover
  unfold noteOverSize overSize
  dsimp only
  rw [if_pos hover, hends]
  by_cases habove : endOfSide blk df start a .above ≤ mmioLimit blk .above
  · have hbelow : mmioLimit blk .below < endOfSide blk df start a .below := by
      by_contra hbelow
      have hfit := hfits (Side.forall.mpr ⟨habove, UInt64.not_lt.mp hbelow⟩)
      exact absurd (hover.symm.trans hfit) (by decide)
    have hsize := UInt64.toNat_sub_of_le _ _ (UInt64.le_of_lt hbelow)
    have hlt := lt_iff_toNat_lt.mp hbelow
    rw [if_pos (if_neg (UInt64.not_lt.mpr habove)), if_pos hbelow]
    split_ifs with hless
    · have hless' := lt_iff_toNat_lt.mp hless
      have hmin := o.overSizeBelowPcieMin.toNat_lt
      rw [UInt32.toNat_toUInt64] at hless'
      have hvalue : (endOfSide blk df start a .below - mmioLimit blk .below).toUInt32.toNat =
          (endOfSide blk df start a .below).toNat - (mmioLimit blk .below).toNat := by
        rw [toNat_toUInt32, hsize]
        exact mod_eq_of_lt (by omega)
      refine ⟨.inr ⟨habove, hbelow, ?_, rfl⟩, ?_, fun _ => ?_⟩ <;> dsimp only <;> rw [hvalue] <;> omega
    · have hge := UInt64.le_iff_toNat_le.mp (UInt64.not_lt.mp hless)
      rw [UInt32.toNat_toUInt64] at hge
      exact ⟨.inl rfl, le_rfl, fun _ => by omega⟩
  · grind

end

/-! ## The first region and the others -/

/-- The requests and the memory map for which the alignment of the first region is enough. -/
structure FirstIsCoarsest (blk : InputBlk) (sys : SystemInfo) (df : DfAnswers) : Prop where
  index : blk.socketNumber = 1 ∨ blk.rbsPerSocket = 4
  primary : primaryRb df ∈ rootBridges blk
  space : sys.tom < blk.pciExpressBaseAddress
  above : mmioStart blk sys .above ≤ mmioLimit blk .above
  masks : MasksBelow4G blk df
  sums : ∀ side, (mmioStart blk sys side).toNat + sumBelow4G blk (combinationOrder blk df) < 2 ^ 64
  coarsest : ((combinationOrder blk df).filter (asksBelow4G blk)).Pairwise fun rb rb' => alignMask blk rb' ≤ alignMask blk rb
  /-- The pool for devices that are not on PCI is aligned to 64K. A root bridge with smaller alignments keeps to 64K by
  its sizes. -/
  page : ∀ rb ∈ combinationOrder blk df, asksBelow4G blk rb = true → alignMask blk rb < rcMgrNonPciMmioAlignMask →
    2 ^ 16 ∣ blk.pciExpressBaseAddress.toNat ∧ ∀ k, 2 ^ 16 ∣ (blockBelow4G blk rb k).size.toNat
  small : ∀ rb ∈ combinationOrder blk df, asksBelow4G blk rb = true →
    sys.tom.toNat + sumBelow4G blk (combinationOrder blk df) + max 1 (alignMask blk rb).toNat <
      blk.pciExpressBaseAddress.toNat + 2 ^ 32

section
variable {big : Bool}

theorem isMask_alignMask (hmask : MasksBelow4G blk df) (hrb : rb ∈ combinationOrder blk df) : IsMask (alignMask blk rb) := by
  unfold alignMask
  dsimp only
  split_ifs
  · exact (hmask rb hrb).2
  · exact (hmask rb hrb).1

theorem mask_dvd {m m' : UInt64} (h : IsMask m) (h' : IsMask m') (hle : m ≤ m') : m.toNat + 1 ∣ m'.toNat + 1 := by
  obtain ⟨k, hk⟩ := h
  obtain ⟨k', hk'⟩ := h'
  have hle' := le_iff_toNat_le.mp hle
  rw [hk, hk']
  exact pow_dvd_pow 2 ((Nat.pow_le_pow_iff_right (a := 2) (by decide)).mp (by omega))

theorem mask_le_alignMask (blk : InputBlk) (rb : Nat × Nat) (k : PoolKind) :
    (blockBelow4G blk rb k).mask = rcMgrNonPciMmioAlignMask ∨ (blockBelow4G blk rb k).mask ≤ alignMask blk rb := by
  have hlarger : (blk.prefetchableMmioSizeBelow4G rb.1 rb.2).alignment ≤ alignMask blk rb ∧
      (blk.nonPrefetchableMmioSizeBelow4G rb.1 rb.2).alignment ≤ alignMask blk rb := by
    unfold alignMask
    dsimp only
    split_ifs with h
    · exact ⟨UInt64.le_of_lt h, UInt64.le_refl _⟩
    · exact ⟨UInt64.le_refl _, UInt64.not_lt.mp h⟩
  cases k with
  | nonPci => exact .inl rfl
  | prefetch => exact .inr hlarger.1
  | nonPrefetch => exact .inr hlarger.2

theorem nonPci_mem_queueOfSide {rbs : List (Nat × Nat)} (h : queueOfSide blk a side big rbs ≠ []) :
    ∃ rb, (rb, .nonPci) ∈ queueOfSide blk a side big rbs := by
  induction rbs generalizing big with
  | nil => exact absurd rfl h
  | cons rb rbs ih =>
    by_cases hrb : AsksBelow4G blk rb ∧ sideOf a rb = side
    · have hmem : PoolKind.nonPci ∈ queueBelow4G blk rb big := queueBelow4G_perm.mem_iff.mpr (by decide)
      rw [queueOfSide_cons_of hrb.1 hrb.2]
      exact ⟨rb, mem_append_left _ (mem_map_of_mem hmem)⟩
    · rw [queueOfSide_cons_of_not hrb] at h ⊢
      exact ih h

variable (hregular : FirstIsCoarsest blk sys df)
include hregular

theorem FirstIsCoarsest.noSumWraps (a : Nat → Bool) :
    NoSumWraps blk a (mmioStart blk sys) (fun _ => true) (combinationOrder blk df) :=
  noSumWraps_of_sum_lt (isMask_blockBelow4G hregular.masks) hregular.sums

theorem FirstIsCoarsest.asks (hrb : rb ∈ combinationOrder blk df) (h : AsksBelow4G blk rb) : asksBelow4G blk rb = true := by
  have hmask := isMask_blockBelow4G hregular.masks rb hrb
  have hsum : ((queueBelow4G blk rb true).map fun k =>
      (blockBelow4G blk rb k).mask.toNat + (blockBelow4G blk rb k).size.toNat).sum ≤
        sumBelow4G blk (combinationOrder blk df) := by
    rw [(queueBelow4G_perm.map _).sum_eq]
    exact single_le_sum (fun _ _ => zero_le _) _ (mem_map_of_mem hrb)
  have hwraps : NoWrap (blockBelow4G blk rb) 0 (queueBelow4G blk rb true) := by
    refine noWrap_of_sum_lt (fun k _ => hmask k) ?_
    have := hregular.sums .below
    rw [UInt64.toNat_zero]
    omega
  exact asksBelow4G_of_noWrap h hmask hwraps

theorem FirstIsCoarsest.first (hne : queueOfSide blk a .below true (combinationOrder blk df) ≠ []) :
    ∃ first ∈ combinationOrder blk df, asksBelow4G blk first = true ∧
      alignForFirstMmioRegion blk df a .below = alignMask blk first ∧
      ∀ i ∈ queueOfSide blk a .below true (combinationOrder blk df), alignMask blk i.1 ≤ alignMask blk first := by
  let placed := fun rb => asksBelow4G blk rb && decide (sideOf a rb = .below)
  have hplaced : ∀ i ∈ queueOfSide blk a .below true (combinationOrder blk df),
      i.1 ∈ (combinationOrder blk df).filter placed := by
    intro i hi
    obtain ⟨hmem, hasks, hside⟩ := mem_queueOfSide hi
    refine mem_filter.mpr ⟨hmem, ?_⟩
    simp only [placed, hregular.asks hmem hasks, hside, decide_true, Bool.and_self]
  have hsorted : ((combinationOrder blk df).filter placed).Pairwise fun rb rb' => alignMask blk rb' ≤ alignMask blk rb :=
    hregular.coarsest.sublist (monotone_filter_right _ fun rb h => (Bool.and_eq_true_iff.mp h).1)
  have hfind : ((combinationOrder blk df).filter placed).head? = (combinationOrder blk df).find? placed :=
    head?_filter
  cases hlist : (combinationOrder blk df).filter placed with
  | nil =>
    obtain ⟨i, hi⟩ := exists_mem_of_ne_nil _ hne
    have := hplaced i hi
    rw [hlist] at this
    cases this
  | cons first others =>
    rw [hlist] at hfind hsorted hplaced
    obtain ⟨hfirst, hasks⟩ := mem_filter.mp (hlist ▸ mem_cons_self : first ∈ _)
    have hasks := (Bool.and_eq_true_iff.mp hasks).1
    refine ⟨first, hfirst, hasks, ?_, fun i hi => ?_⟩
    · unfold alignForFirstMmioRegion
      rw [← hfind]
      rfl
    · rcases mem_cons.mp (hplaced i hi) with heq | hother
      · rw [heq]
        exact UInt64.le_refl _
      · exact (pairwise_cons.mp hsorted).1 _ hother

/-- If the first region has a smaller alignment than 64K, so have all others, and the placement ends at a multiple of
64K. -/
theorem FirstIsCoarsest.page_end (hne : queueOfSide blk a .below true (combinationOrder blk df) ≠ []) {mask : UInt64}
    (hmask : mask < rcMgrNonPciMmioAlignMask)
    (hall : ∀ i ∈ queueOfSide blk a .below true (combinationOrder blk df), alignMask blk i.1 ≤ mask) :
    2 ^ 16 ∣ blk.pciExpressBaseAddress.toNat ∧ 2 ^ 16 ∣ (endOfSide blk df (mmioStart blk sys) a .below).toNat := by
  have hpage : ∀ i ∈ queueOfSide blk a .below true (combinationOrder blk df), _ := fun i hi =>
    hregular.page i.1 (mem_queueOfSide hi).1 (hregular.asks (mem_queueOfSide hi).1 (mem_queueOfSide hi).2.1)
      (UInt64.lt_of_le_of_lt (hall i hi) hmask)
  obtain ⟨rb, hnonPci⟩ := nonPci_mem_queueOfSide hne
  refine ⟨(hpage _ hnonPci).1, dvd_finish_of_mem (by decide)
    (fun i hi => isMask_blockBelow4G hregular.masks i.1 (mem_queueOfSide hi).1 i.2) (fun i hi => (hpage i hi).2 i.2)
    hnonPci rfl⟩

theorem FirstIsCoarsest.end_le (a : Nat → Bool) :
    (endOfSide blk df (mmioStart blk sys) a .below).toNat ≤
      sys.tom.toNat + sumBelow4G blk (combinationOrder blk df) := by
  have hle := (hregular.noSumWraps a .below).finish_le fun i hi =>
    isMask_blockBelow4G hregular.masks i.1 (mem_queueOfSide hi).1 i.2
  exact hle.trans (Nat.add_le_add_left sum_queueOfSide_le _)

theorem FirstIsCoarsest.queue_ne_nil
    (h : mmioLimit blk .below < endOfSide blk df (mmioStart blk sys) a .below) :
    queueOfSide blk a .below true (combinationOrder blk df) ≠ [] := by
  intro hnil
  unfold endOfSide at h
  rw [hnil] at h
  exact UInt64.lt_irrefl _ (UInt64.lt_trans h hregular.space)

theorem FirstIsCoarsest.reqInc_spec {o : OverSize} (h : Noted blk df (mmioStart blk sys) a o) :
    o.overSizeBelowPcieMin.toNat ≤ o.reqInc.toNat ∧ 2 ^ 16 ∣ o.reqInc.toNat ∧
      ∀ i ∈ queueOfSide blk a .below true (combinationOrder blk df),
        (blockBelow4G blk i.1 i.2).mask.toNat + 1 ∣ o.reqInc.toNat := by
  have hne := hregular.queue_ne_nil h.below
  obtain ⟨first, hfirst, hasks, halign, hall⟩ := hregular.first hne
  have hsmall := hregular.small first hfirst hasks
  have hend := hregular.end_le a
  have hmin : blk.pciExpressBaseAddress.toNat + o.overSizeBelowPcieMin.toNat = _ := h.min
  have hbelow : blk.pciExpressBaseAddress.toNat < _ := lt_iff_toNat_lt.mp h.below
  have hmask : o.alignmentMask.toNat = (alignMask blk first).toNat := by
    rw [h.mask, halign, toNat_toUInt32]
    exact mod_eq_of_lt (by omega)
  have hisMask := isMask_alignMask hregular.masks hfirst
  obtain ⟨k, hk⟩ := hisMask
  have hvalue : o.reqInc.toNat = roundUp o.overSizeBelowPcieMin.toNat (alignMask blk first).toNat := by
    unfold OverSize.reqInc
    have hne : o.overSizeBelowPcieMin ≠ 0 := by
      intro hzero
      rw [hzero, UInt32.toNat_zero] at hmin
      omega
    rw [if_pos hne, ← hmask]
    exact toNat_roundUp32 (k := k) (by rw [hmask]; exact hk) (by omega)
  have hround : (alignMask blk first).toNat + 1 ∣ o.reqInc.toNat := by
    rw [hvalue]
    unfold roundUp
    exact dvd_sub_mod _
  have hpage : 2 ^ 16 ∣ o.reqInc.toNat := by
    rcases UInt64.lt_or_le (alignMask blk first) rcMgrNonPciMmioAlignMask with hlt | hle
    · -- The size that is missing is itself a multiple, and the smaller alignment does not change it.
      obtain ⟨hbase, hend'⟩ := hregular.page_end hne hlt hall
      have hdvd : 2 ^ 16 ∣ o.overSizeBelowPcieMin.toNat :=
        (Nat.dvd_add_right hbase).mp (hmin ▸ hend')
      have hfine := (mask_dvd ⟨k, hk⟩ isMask_nonPci (UInt64.le_of_lt hlt)).trans hdvd
      obtain ⟨n, hn⟩ := hfine
      have hsame : roundUp o.overSizeBelowPcieMin.toNat (alignMask blk first).toNat = o.overSizeBelowPcieMin.toNat := by
        unfold roundUp
        rw [hn, Nat.mul_add_mod, Nat.mod_eq_of_lt (lt_succ_self _), Nat.add_sub_cancel]
      rwa [hvalue, hsame]
    · exact (mask_dvd isMask_nonPci ⟨k, hk⟩ hle).trans hround
  refine ⟨?_, hpage, fun i hi => ?_⟩
  · rw [hvalue]
    exact le_roundUp _ _
  · rcases mask_le_alignMask blk i.1 i.2 with hnonPci | hle
    · rw [hnonPci]
      exact hpage
    · have hmask' := isMask_blockBelow4G hregular.masks i.1 (mem_queueOfSide hi).1 i.2
      exact (mask_dvd hmask' ⟨k, hk⟩ (UInt64.le_trans hle (hall i hi))).trans hround

end

/-! ## The dry run with a lower TOM -/

def SystemInfo.lowered (sys : SystemInfo) (d : UInt32) : SystemInfo := { sys with tom := sys.tom - d.toUInt64 }

section
variable (hregular : FirstIsCoarsest blk sys df)
include hregular

theorem FirstIsCoarsest.accepts_lowered {o : OverSize} (h : Noted blk df (mmioStart blk sys) a o)
    (hd : o.reqInc.toUInt64 ≤ sys.tom) : accepts blk df (mmioStart blk (sys.lowered o.reqInc)) a = true := by
  obtain ⟨hcovers, -, hdvd⟩ := hregular.reqInc_spec h
  have hmask := isMask_blockBelow4G hregular.masks
  have htom : (sys.lowered o.reqInc).tom.toNat + o.reqInc.toNat = sys.tom.toNat := by
    have hle := le_iff_toNat_le.mp hd
    have hsub := UInt64.toNat_sub_of_le _ _ hd
    rw [UInt32.toNat_toUInt64] at hle hsub
    show (sys.tom - o.reqInc.toUInt64).toNat + _ = _
    omega
  have hwraps : NoSumWraps blk a (mmioStart blk (sys.lowered o.reqInc)) (fun _ => true) (combinationOrder blk df) := by
    refine noSumWraps_of_sum_lt hmask (Side.forall.mpr ⟨hregular.sums .above, ?_⟩)
    have hbelow := hregular.sums .below
    change sys.tom.toNat + _ < _ at hbelow
    change (sys.lowered o.reqInc).tom.toNat + _ < _
    omega
  have hshift : (endOfSide blk df (mmioStart blk (sys.lowered o.reqInc)) a .below).toNat + o.reqInc.toNat =
      (endOfSide blk df (mmioStart blk sys) a .below).toNat :=
    finish_of_shift (hregular.noSumWraps a .below) (hwraps .below)
      (fun i hi => ⟨hmask i.1 (mem_queueOfSide hi).1 i.2, hdvd i hi⟩) htom
  refine accepts_of_ends hmask hwraps (Side.forall.mpr ⟨h.above, le_iff_toNat_le.mpr ?_⟩)
  have hmin := h.min
  omega

/-- A combination that the dry run tries: the stored one, or one with the primary root bridge on a side that is searched. -/
def Tried (blk : InputBlk) (sys : SystemInfo) (df : DfAnswers) (a : Nat → Bool) : Prop :=
  a = blk.resourceDistributionNv ∨ (a (primaryIndex df) = true → enoughAbovePcieSpaceForPrimaryRb blk sys df = true)

omit hregular in
theorem primaryOnSide_iff {enough : Bool} : primaryOnSide df enough a = true ↔ a (primaryIndex df) = enough := by
  change ((enough && a (primaryIndex df)) || (!enough && !a (primaryIndex df))) = true ↔ _
  cases enough <;> cases a (primaryIndex df) <;> decide

theorem FirstIsCoarsest.index_lt (hrb : rb ∈ combinationOrder blk df) :
    rb.1 * dfXMaxHostBridgesPerSocket + rb.2 < rootBridgeCount blk := by
  have hmem : rb ∈ rootBridges blk := by
    rcases mem_append.mp hrb with hrb | hrb
    · exact mem_reverse.mp (mem_of_mem_filter hrb)
    · rw [mem_singleton.mp hrb]
      exact hregular.primary
  obtain ⟨h1, h2⟩ := mem_rootBridges.mp hmem
  unfold rootBridgeCount
  rcases hregular.index with h | h
  · simp_all
  · rw [h] at h2 ⊢
    simp only [UInt8.reduceToNat, dfXMaxHostBridgesPerSocket] at h2 ⊢
    omega

def NotedOrInitial (blk : InputBlk) (sys : SystemInfo) (df : DfAnswers) (o : OverSize) : Prop :=
  o = .initial ∨ ∃ a, Tried blk sys df a ∧ Noted blk df (mmioStart blk sys) a o

/-- With all root bridges on the lower side, the size that is noted is not larger than all requests. -/
def BoundedBySum (blk : InputBlk) (sys : SystemInfo) (df : DfAnswers) (o : OverSize) : Prop :=
  blk.pciExpressBaseAddress.toNat + o.overSizeBelowPcieMin.toNat ≤
    sys.tom.toNat + sumBelow4G blk (combinationOrder blk df)

omit hregular in
theorem queueOfSide_eq_nil {side : Side} {big : Bool} {rbs : List (Nat × Nat)}
    (h : ∀ rb ∈ rbs, ¬ (AsksBelow4G blk rb ∧ sideOf a rb = side)) : queueOfSide blk a side big rbs = [] := by
  rw [eq_nil_iff_forall_not_mem]
  intro i hi
  obtain ⟨hmem, hasks⟩ := mem_queueOfSide hi
  exact h i.1 hmem hasks

section
variable {out : MmioState} {o : OverSize} (hreject : accepts blk df (mmioStart blk sys) a = false)
include hreject

theorem FirstIsCoarsest.notedOrInitial (htried : Tried blk sys df a) (h : NotedOrInitial blk sys df o) :
    NotedOrInitial blk sys df (noteOverSize blk df (mmioStart blk sys) out a o) := by
  obtain ⟨hcases, -⟩ := noteOverSize_spec (isMask_blockBelow4G hregular.masks) (hregular.noSumWraps a) out o
    hregular.space hreject
  rcases hcases with hsame | hnoted
  · rw [hsame]
    exact h
  · exact .inr ⟨a, htried, hnoted⟩

theorem FirstIsCoarsest.boundedBySum (h : BoundedBySum blk sys df o) :
    BoundedBySum blk sys df (noteOverSize blk df (mmioStart blk sys) out a o) := by
  obtain ⟨-, hle, -⟩ := noteOverSize_spec (isMask_blockBelow4G hregular.masks) (hregular.noSumWraps a) out o
    hregular.space hreject
  exact (Nat.add_le_add_left hle _).trans h

theorem FirstIsCoarsest.exists_asks : ∃ rb ∈ combinationOrder blk df, asksBelow4G blk rb = true := by
  by_contra hnone
  push Not at hnone
  have hnil : ∀ side, queueOfSide blk a side true (combinationOrder blk df) = [] := fun side =>
    queueOfSide_eq_nil fun rb hrb h => hnone rb hrb (hregular.asks hrb h.1)
  have hends : ∀ side, endOfSide blk df (mmioStart blk sys) a side ≤ mmioLimit blk side := by
    unfold endOfSide
    simp only [hnil]
    exact Side.forall.mpr ⟨hregular.above, UInt64.le_of_lt hregular.space⟩
  have haccept := accepts_of_ends (isMask_blockBelow4G hregular.masks) (hregular.noSumWraps a) hends
  exact absurd (haccept.symm.trans hreject) (by decide)

end

theorem FirstIsCoarsest.allBelow (out : MmioState) (o : OverSize) :
    let a := firstCombination (rootBridgeCount blk) (rootBridgeCount blk)
    primaryOnSide df false a = true ∧
      (accepts blk df (mmioStart blk sys) a = false →
        BoundedBySum blk sys df (noteOverSize blk df (mmioStart blk sys) out a o)) := by
  intro a
  have hfalse : ∀ i < rootBridgeCount blk, a i = false := by
    intro i hi
    simp only [a, firstCombination, memset]
    rw [if_pos (by omega)]
  have hside : ∀ rb ∈ combinationOrder blk df, sideOf a rb ≠ .above := by
    intro rb hrb
    unfold sideOf
    rw [hfalse _ (hregular.index_lt hrb)]
    decide
  refine ⟨primaryOnSide_iff.mpr (hfalse _ (hregular.index_lt (primaryRb_mem blk df))), fun hreject => ?_⟩
  have habove : endOfSide blk df (mmioStart blk sys) a .above ≤ mmioLimit blk .above := by
    unfold endOfSide
    rw [queueOfSide_eq_nil fun rb hrb h => hside rb hrb h.2]
    exact hregular.above
  obtain ⟨-, -, hend⟩ := noteOverSize_spec (isMask_blockBelow4G hregular.masks) (hregular.noSumWraps a) out o
    hregular.space hreject
  exact (hend habove).trans (hregular.end_le a)

end

/-- Where the dry run fails below 4G, the reported size is not the initial marker, and a dry run with TOM lowered by it
succeeds. -/
def ShortageSuffices (blk : InputBlk) (sys : SystemInfo) (df : DfAnswers) (out : MmioState) : Prop :=
  ∀ d, dryRunWithSpaceStatus blk sys df out = some (.silOutOfResources, some d) →
    d ≠ 0xFFFFFFFF ∧ (d.toUInt64 ≤ sys.tom →
      (dryRunWithSpaceStatus blk (sys.lowered d) df out).map Prod.fst = some .silPass)

theorem FirstIsCoarsest.noted (hregular : FirstIsCoarsest blk sys df) {out : MmioState} {d : UInt32}
    (h : dryRunWithSpaceStatus blk sys df out = some (.silOutOfResources, some d)) :
    ∃ o a, d = OverSize.reqInc o ∧ Tried blk sys df a ∧ Noted blk df (mmioStart blk sys) a o := by
  have hcases := dryRunWithSpaceStatus_cases blk sys df out
  dsimp only at hcases
  rw [h] at hcases
  rcases hcases with ⟨-, hresult⟩ | ⟨-, o, hresult⟩ | ⟨-, hstored, -, o₁, o₂, hfirst, hsecond, hresult⟩
  · cases hresult
  · cases hresult
  have hpcie : blk.pciExpressBaseAddress ≠ mmioStart blk sys .below := fun h => UInt64.lt_irrefl _ (h ▸ hregular.space)
  have hmem : rootBridgeCount blk ∈ range (rootBridgeCount blk + 1) := mem_range.mpr (lt_succ_self _)
  have hinitial : NotedOrInitial blk sys df (noteOverSize blk df (mmioStart blk sys) out blk.resourceDistributionNv .initial) :=
    hregular.notedOrInitial hstored (.inl rfl) (.inl rfl)
  have hnoted := findOverSize_notes _
    (fun a o hside hreject h => hregular.notedOrInitial hreject (.inr (primaryOnSide_iff.mp hside).symm.trans) h)
    hinitial hfirst
  -- The combination with all root bridges below is tried by the search for the lower side, which comes last.
  have hlast : NotedOrInitial blk sys df o₂ ∧ BoundedBySum blk sys df o₂ := by
    cases henough : enoughAbovePcieSpaceForPrimaryRb blk sys df with
    | false =>
      rw [henough] at hfirst hsecond
      cases hsecond
      refine ⟨hnoted, findOverSize_notes_first _ (fun a o _ hreject h => hregular.boundedBySum hreject h) hpcie hmem
        (hregular.allBelow out o₁).1 (fun o => (hregular.allBelow out o).2) hfirst⟩
    | true =>
      rw [henough, if_pos rfl] at hsecond
      refine ⟨findOverSize_notes _
        (fun a o hside hreject h => hregular.notedOrInitial hreject (.inr fun _ => henough) h) hnoted hsecond,
        findOverSize_notes_first _ (fun a o _ hreject h => hregular.boundedBySum hreject h) hpcie hmem
          (hregular.allBelow out o₁).1 (fun o => (hregular.allBelow out o).2) hsecond⟩
  obtain ⟨hnoted', hbound⟩ := hlast
  obtain ⟨a, htried, hnoted'⟩ : ∃ a, Tried blk sys df a ∧ Noted blk df (mmioStart blk sys) a o₂ := by
    refine hnoted'.resolve_left fun hmarker => ?_
    obtain ⟨rb, hrb, hasks⟩ := hregular.exists_asks hstored
    have hsmall := hregular.small rb hrb hasks
    unfold BoundedBySum at hbound
    rw [hmarker] at hbound
    change _ + 4294967295 ≤ _ at hbound
    omega
  simp only [some.injEq, Prod.mk.injEq, true_and] at hresult
  exact ⟨o₂, a, hresult, htried, hnoted'⟩

theorem dryRun_pass_of_accepts {out : MmioState} (habove : (silArrangeMmioAbove4G blk df (nvWindow blk sys).base
      (nvWindow blk sys).limit false out).enoughSpaceAbove4G = true)
    (hwhich : a = blk.resourceDistributionNv ∨ Searched blk sys df a)
    (haccept : accepts blk df (mmioStart blk sys) a = true) :
    (dryRunWithSpaceStatus blk sys df out).map Prod.fst = some .silPass := by
  have hcases := dryRunWithSpaceStatus_cases blk sys df out
  dsimp only at hcases
  rcases hcases with ⟨hshort, -⟩ | ⟨-, o, hresult⟩ | ⟨-, hstored, hreject, -⟩
  · exact absurd (habove.symm.trans hshort) (by decide)
  · rw [hresult]
    rfl
  · rcases hwhich with rfl | hsearched
    · exact absurd (haccept.symm.trans hstored) (by decide)
    · exact absurd (haccept.symm.trans (hreject a hsearched)) (by decide)

/-- The search comes to a combination with the same sides for all root bridges. -/
theorem FirstIsCoarsest.searched (hregular : FirstIsCoarsest blk sys df) {tom : UInt64}
    (htom : blk.pciExpressBaseAddress ≠ tom) (htried : Tried blk { sys with tom := tom } df a)
    (haccept : accepts blk df (mmioStart blk { sys with tom := tom }) a = true) :
    ∃ a', (a' = blk.resourceDistributionNv ∨ Searched blk { sys with tom := tom } df a') ∧
      accepts blk df (mmioStart blk { sys with tom := tom }) a' = true := by
  rcases htried with hstored | hprimary
  · exact ⟨a, .inl hstored, haccept⟩
  let a' := fun i => decide (rootBridgeCount blk ≤ i) || a i
  have hsame : ∀ rb ∈ combinationOrder blk df, a' (rb.1 * dfXMaxHostBridgesPerSocket + rb.2) =
      a (rb.1 * dfXMaxHostBridgesPerSocket + rb.2) := fun rb hrb => by
    have := hregular.index_lt hrb
    simp [a', this]
  refine ⟨a', .inr ⟨⟨fun i hi => by simp [a', hi], fun h => absurd h htom⟩, fun h => hprimary ?_⟩, ?_⟩
  · exact (hsame _ (primaryRb_mem blk df)).symm.trans h
  · rw [accepts_congr fun rb hrb => ?_, haccept]
    unfold sideOf
    rw [hsame rb hrb]

def twoBlk (align0 align1 : UInt64) : InputBlk :=
  { plainBlk 0xE0000000 with
    rbsPerSocket := 2
    bottomMmioReservedForPrimaryRb := 0xF0000000
    mmioSizePerRbForNonPciDevice := 0
    prefetchableMmioSizeBelow4G := fun _ rb => ⟨0x1000000, if rb = 0 then align0 else align1⟩ }

def twoDf : DfAnswers := { plainDf with primaryRootBridge := 0, rootBridgesOnDie := 2, rootBridgesOnSocket := 2 }

def twoSystem : SystemInfo := { plainSystem 0x100000000 with tom := 0xD8000000 }

theorem twoBlk_regular : FirstIsCoarsest (twoBlk 0xFFFFF 0xFFFFFFF) twoSystem twoDf where
  index := .inl rfl
  primary := by decide
  space := by decide
  above := by decide
  masks := by
    have hnone : IsMask 0 := ⟨0, by decide⟩
    have h1M : IsMask 0xFFFFF := ⟨20, by decide⟩
    have h256M : IsMask 0xFFFFFFF := ⟨28, by decide⟩
    intro rb _
    refine ⟨?_, hnone⟩
    show IsMask (if rb.2 = 0 then 0xFFFFF else 0xFFFFFFF)
    split_ifs
    · exact h1M
    · exact h256M
  sums := by decide +kernel
  coarsest := by decide +kernel
  page := by
    have hcoarse : ∀ rb ∈ combinationOrder (twoBlk 0xFFFFF 0xFFFFFFF) twoDf,
        ¬ alignMask (twoBlk 0xFFFFF 0xFFFFFFF) rb < rcMgrNonPciMmioAlignMask := by decide +kernel
    exact fun rb hrb _ hfine => absurd hfine (hcoarse rb hrb)
  small := by decide +kernel

end OpenSil.RcMgr
