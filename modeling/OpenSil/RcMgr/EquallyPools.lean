import OpenSil.RcMgr.EquallySound

/-! # The pools of equal shares -/

namespace OpenSil.RcMgr

open Word Table List Option

structure PoolsIn (r : MmioRegion) (start size : Nat) : Prop where
  inside : ∀ k, start ≤ (r.base k).toNat ∧ (r.base k).toNat + (r.size k).toNat ≤ start + size
  apart : ∀ k k', k ≠ k' → (r.base k).toNat + (r.size k).toNat ≤ (r.base k').toNat ∨
    (r.base k').toNat + (r.size k').toNat ≤ (r.base k).toNat

theorem PoolsIn.of_chain {r : MmioRegion} {start size : Nat} (k₁ k₂ k₃ : PoolKind)
    (hall : ∀ k, k = k₁ ∨ k = k₂ ∨ k = k₃)
    (h₁ : start ≤ (r.base k₁).toNat) (h₂ : (r.base k₁).toNat + (r.size k₁).toNat ≤ (r.base k₂).toNat)
    (h₃ : (r.base k₂).toNat + (r.size k₂).toNat ≤ (r.base k₃).toNat)
    (hend : (r.base k₃).toNat + (r.size k₃).toNat ≤ start + size) : PoolsIn r start size := by
  constructor
  · intro k
    rcases hall k with rfl | rfl | rfl <;> omega
  · intro k k' hne
    rcases hall k with rfl | rfl | rfl <;> rcases hall k' with rfl | rfl | rfl <;> first | exact absurd rfl hne | omega

/-! ## The 80% of a window -/

theorem toNat_size16M (x : UInt64) : (x &&& size16MAlign).toNat = x.toNat - x.toNat % 2 ^ 24 :=
  toNat_alignDown x (show (0xFFFFFF : UInt64).toNat + 1 = 2 ^ 24 from rfl)

theorem sizePrefetch_le (x : UInt64) :
    (x * 4 / 5 &&& size16MAlign).toNat = 0 ∨ (x * 4 / 5 &&& size16MAlign).toNat + 2 ^ 16 ≤ x.toNat := by
  rw [toNat_size16M, UInt64.toNat_div, UInt64.toNat_mul]
  show (x.toNat * 4 % 2 ^ 64 / 5 - x.toNat * 4 % 2 ^ 64 / 5 % 2 ^ 24 = 0) ∨
    (x.toNat * 4 % 2 ^ 64 / 5 - x.toNat * 4 % 2 ^ 64 / 5 % 2 ^ 24 + 2 ^ 16 ≤ x.toNat)
  omega

variable {blk : InputBlk} {sys : SystemInfo} {df : DfAnswers} {base size : UInt64}

theorem equallyRegion_poolsIn_iff (hend : base.toNat + size.toNat < 2 ^ 64) :
    PoolsIn (equallyRegion blk base size) base.toNat size.toNat ↔
      (sizeNonPci blk).toNat ≤ size.toNat ∧
      base.toNat ≤ base.toNat + size.toNat - (sizeNonPci blk).toNat -
        (base.toNat + size.toNat - (sizeNonPci blk).toNat) % 2 ^ 16 := by
  have hsum : (base + size).toNat = base.toNat + size.toNat := toNat_add_eq hend
  have hnonPci : (sizeNonPci blk).toNat ≤ size.toNat → ((equallyRegion blk base size).base .nonPci).toNat =
      base.toNat + size.toNat - (sizeNonPci blk).toNat -
        (base.toNat + size.toNat - (sizeNonPci blk).toNat) % 2 ^ 16 := by
    intro hle
    show (alignDown (base + size - sizeNonPci blk) rcMgrNonPciMmioAlignMask).toNat = _
    rw [toNat_alignDown (k := 16) _ rfl, toNat_sub_eq (by omega), hsum]
  constructor
  · intro h
    obtain ⟨hstart, hfits⟩ := h.inside .nonPci
    have hfits : ((equallyRegion blk base size).base .nonPci).toNat + (sizeNonPci blk).toNat ≤
      base.toNat + size.toNat := hfits
    have hle : (sizeNonPci blk).toNat ≤ size.toNat := by omega
    exact ⟨hle, hnonPci hle ▸ hstart⟩
  · rintro ⟨hle, hstart⟩
    have hrest : (size - sizeNonPci blk).toNat = size.toNat - (sizeNonPci blk).toNat :=
      toNat_sub_eq hle
    have hprefetch := sizePrefetch_le (size - sizeNonPci blk)
    rw [hrest] at hprefetch
    have hsize : ((equallyRegion blk base size).size .prefetch).toNat =
      ((size - sizeNonPci blk) * 4 / 5 &&& size16MAlign).toNat := rfl
    have hbase : ((equallyRegion blk base size).base .prefetch).toNat = base.toNat := rfl
    have hnonPrefetch : ((equallyRegion blk base size).base .nonPrefetch).toNat =
        base.toNat + ((equallyRegion blk base size).size .prefetch).toNat := by
      show (base + ((size - sizeNonPci blk) * 4 / 5 &&& size16MAlign)).toNat = _
      rw [toNat_add_eq (by omega), hsize]
    have hgap : ((equallyRegion blk base size).base .nonPrefetch).toNat +
          ((equallyRegion blk base size).size .nonPrefetch).toNat =
        ((equallyRegion blk base size).base .nonPci).toNat := by
      show _ + ((equallyRegion blk base size).base .nonPci - (equallyRegion blk base size).base .nonPrefetch).toNat = _
      rw [toNat_sub_eq (by rw [hnonPci hle, hnonPrefetch, hsize]; omega)]
      have := hnonPci hle
      omega
    have hlast : ((equallyRegion blk base size).size .nonPci).toNat = (sizeNonPci blk).toNat := rfl
    have hnonPci' := hnonPci hle
    exact .of_chain .prefetch .nonPrefetch .nonPci (by rintro (_ | _ | _) <;> simp) hbase.ge (by omega) hgap.le
      (by omega)

theorem equallyRegionAbove4G_poolsIn_iff (hend : base.toNat + size.toNat < 2 ^ 64) :
    PoolsIn (equallyRegionAbove4G blk base size) base.toNat size.toNat ↔
      roundUp base.toNat 0xFFFFFFF + (sizeNonPciAbove4G blk).toNat ≤ base.toNat + size.toNat := by
  have hsum : (base + size).toNat = base.toNat + size.toNat := toNat_add_eq hend
  have hmask : rcMgrNonPciMmioAlignMaskAbove4G.toNat + 1 = 2 ^ 28 := rfl
  have hnonPci : ((equallyRegionAbove4G blk base size).base .nonPci).toNat =
      if base.toNat + 0xFFFFFFF < 2 ^ 64 then roundUp base.toNat 0xFFFFFFF else 0 := toNat_alignUp base hmask
  have hsize : ((equallyRegionAbove4G blk base size).size .nonPci).toNat = (sizeNonPciAbove4G blk).toNat := rfl
  have hup := le_roundUp base.toNat 0xFFFFFFF
  constructor
  · intro h
    obtain ⟨hstart, hfits⟩ := h.inside .nonPci
    split_ifs at hnonPci with hwrap
    · omega
    · -- A base of 0 does not wrap.
      omega
  · intro hfits
    have hwrap : base.toNat + 0xFFFFFFF < 2 ^ 64 := by
      by_contra hwrap
      have := le_roundUp_of_wrap (n := base.toNat) hmask (Nat.le_of_not_lt hwrap)
      have : 2 ^ 64 ≤ roundUp base.toNat 0xFFFFFFF := this
      omega
    rw [if_pos hwrap] at hnonPci
    set r := equallyRegionAbove4G blk base size
    have hrest : (base + size - r.base .nonPci - sizeNonPciAbove4G blk).toNat =
        base.toNat + size.toNat - roundUp base.toNat 0xFFFFFFF - (sizeNonPciAbove4G blk).toNat := by
      have hfirst : (base + size - r.base .nonPci).toNat = base.toNat + size.toNat - roundUp base.toNat 0xFFFFFFF := by
        rw [toNat_sub_eq (by rw [hsum, hnonPci]; omega), hsum, hnonPci]
      rw [toNat_sub_eq (by rw [hfirst]; omega), hfirst]
    have hprefetch := sizePrefetch_le (base + size - r.base .nonPci - sizeNonPciAbove4G blk)
    rw [hrest] at hprefetch
    have hsp : (r.size .prefetch).toNat =
      ((base + size - r.base .nonPci - sizeNonPciAbove4G blk) * 4 / 5 &&& size16MAlign).toNat := rfl
    have hbase : (r.base .prefetch).toNat = (r.base .nonPci).toNat + (r.size .nonPci).toNat := by
      show (r.base .nonPci + sizeNonPciAbove4G blk).toNat = _
      rw [toNat_add_eq (by omega), hsize]
    have hnonPrefetch : (r.base .nonPrefetch).toNat = (r.base .prefetch).toNat + (r.size .prefetch).toNat := by
      show (r.base .prefetch + r.size .prefetch).toNat = _
      exact toNat_add_eq (by omega)
    have hgap : (r.base .nonPrefetch).toNat + (r.size .nonPrefetch).toNat = base.toNat + size.toNat := by
      show _ + (base + size - r.base .nonPrefetch).toNat = _
      rw [toNat_sub_eq (by rw [hsum]; omega), hsum]
      omega
    exact .of_chain .nonPci .prefetch .nonPrefetch (by rintro (_ | _ | _) <;> simp) (by omega) hbase.ge hnonPrefetch.ge
      hgap.le

/-! ## Division by zero -/

variable {s : EquallyWalk}

theorem EquallyWalk.switchSide_count (sys : SystemInfo) (copy : UInt8)
    (h : s.rbNumberMmioHasInitialized.toNat < (systemRbNumber blk).toNat) :
    ∃ s', s.switchSide blk sys copy = some s' ∧ s'.rbNumberMmioHasInitialized = s.rbNumberMmioHasInitialized := by
  have hleft := toNat_left h
  have hne : (systemRbNumber blk).toUInt64 - s.rbNumberMmioHasInitialized.toUInt64 ≠ 0 := fun h0 => by
    rw [h0] at hleft
    exact absurd hleft (show (0 : Nat) ≠ _ by omega)
  unfold EquallyWalk.switchSide divide
  simp only [if_neg hne, map_some]
  by_cases hcopy : copy = s.rbNumberMmioHasInitialized
  · simp_all
  · grind

theorem equallyOthers_divides {copy : UInt8} {rbs : List (Nat × Nat)}
    (hlen : s.rbNumberMmioHasInitialized.toNat + rbs.length = (systemRbNumber blk).toNat) :
    (equallyOthers blk sys copy rbs s).2 ≠ .divisionByZero := by
  induction rbs generalizing s with
  | nil => simp [equallyOthers]
  | cons rb rbs ih =>
    rw [length_cons] at hlen
    have hmax := (systemRbNumber blk).toNat_lt
    have hnext : ∀ s' : EquallyWalk, s'.rbNumberMmioHasInitialized = s.rbNumberMmioHasInitialized →
        s'.next.rbNumberMmioHasInitialized.toNat + rbs.length = (systemRbNumber blk).toNat := by
      intro s' hs'
      rw [s'.toNat_next (by rw [hs']; omega), hs']
      omega
    rw [equallyOthers]
    by_cases habove : s.rbNumberAbovePcieCfg = 0
    · obtain ⟨s', hs', hcount⟩ := EquallyWalk.switchSide_count sys copy
        (show s.rbNumberMmioHasInitialized.toNat < (systemRbNumber blk).toNat by omega)
      rw [if_neg (not_not.mpr habove), hs']
      split_ifs
      · simp
      · exact ih (hnext s' hcount)
    · grind

theorem equallyStart_count (h : equallyStart blk sys = some s) : s.rbNumberMmioHasInitialized = 0 := by
  obtain ⟨mmioSize, -, hs⟩ := bind_eq_some_iff.mp h
  split_ifs at hs
  · rw [← Option.some.inj hs]
  · obtain ⟨number, -, rfl⟩ := map_eq_some_iff.mp hs
    rfl

theorem equallyStart_eq_none_iff (hne : systemRbNumber blk ≠ 0) :
    equallyStart blk sys = none ↔ abovePcieCfgIsTooSmall blk sys = false ∧
      (totalAvailableSize blk sys / (systemRbNumber blk).toUInt64).toUInt32 = 0 := by
  have hne' : (systemRbNumber blk).toUInt64 ≠ 0 := fun h => by
    have h0 := congrArg UInt64.toNat h
    rw [UInt8.toNat_toUInt64] at h0
    exact hne (UInt8.toNat_inj.mp h0)
  have hshare : ∀ x : UInt32, x.toUInt64 = 0 ↔ x = 0 := by
    intro x
    rw [← UInt64.toNat_inj, UInt32.toNat_toUInt64, ← UInt32.toNat_inj]
    rfl
  unfold equallyStart rbNumberAbove divide
  rw [if_neg hne', bind_some]
  cases abovePcieCfgIsTooSmall blk sys with
  | true => simp
  | false => grind

theorem equallyBelow4G_divides (hcount : (rootBridges blk).length < 256) (hprimary : primaryRb df ∈ rootBridges blk) :
    (equallyBelow4G blk sys df).2 = .divisionByZero ↔ equallyStart blk sys = none := by
  have hlength : 1 + ((rootBridges blk).filter (· ≠ primaryRb df)).length = (systemRbNumber blk).toNat := by
    rw [toNat_systemRbNumber hcount, ← (primary_cons_perm hprimary).length_eq, length_cons]
    omega
  unfold equallyBelow4G
  cases hstart : equallyStart blk sys with
  | none => simp
  | some s =>
    dsimp only
    refine iff_of_false ?_ (by simp)
    split_ifs
    · simp
    · refine equallyOthers_divides ?_
      show (s.rbNumberMmioHasInitialized + 1).toNat + _ = _
      rw [equallyStart_count hstart]
      exact hlength
    · refine equallyOthers_divides ?_
      show (s.rbNumberMmioHasInitialized + 1).toNat + _ = _
      rw [equallyStart_count hstart]
      exact hlength

/-! ## The least window of a side -/

def EquallyWindow.HoldsNonPci (blk : InputBlk) (w : EquallyWindow) : Prop :=
  (sizeNonPci blk).toNat ≤ w.size ∧
  w.start ≤ w.start + w.size - (sizeNonPci blk).toNat - (w.start + w.size - (sizeNonPci blk).toNat) % 2 ^ 16

/-- A window from `lo` has the least size, and room for the pool for devices that are not on PCI behind the next 64K. -/
def RoomFor (blk : InputBlk) (lo : Nat) (size : UInt64) : Prop :=
  rcMgrMmioMinSize.toNat ≤ size.toNat ∧ roundUp lo 0xFFFF + (sizeNonPci blk).toNat ≤ lo + size.toNat

/-- The least of the windows that are given out: the first one takes what the rounding to 16M leaves. -/
def leastShare (size number : UInt64) (windows : Nat) : UInt64 :=
  if windows ≤ 1 then equallyFirst size number else equallyShare size number

variable {w : EquallyWindow} {ws : List EquallyWindow} {hi lo mid : Nat}

theorem holdsNonPci_iff (hmod : w.start % 2 ^ 16 = lo % 2 ^ 16) :
    rcMgrMmioMinSize.toNat ≤ w.size ∧ w.HoldsNonPci blk ↔ RoomFor blk lo w.mmioSize := by
  unfold EquallyWindow.HoldsNonPci RoomFor roundUp
  change 65536 ≤ w.size ∧ _ ↔ 65536 ≤ w.size ∧ _ ≤ lo + w.size
  omega

theorem CutDown.start_mod (h : CutDown hi ws lo) (hsize : ∀ w ∈ ws, 2 ^ 16 ∣ w.size) (hw : w ∈ ws) :
    w.start % 2 ^ 16 = hi % 2 ^ 16 := by
  induction ws generalizing hi with
  | nil => cases hw
  | cons v vs ih =>
    obtain ⟨hv, hrest⟩ := h.of_cons
    rw [forall_mem_cons] at hsize
    have hstep : v.start % 2 ^ 16 = hi % 2 ^ 16 := by omega
    rcases mem_cons.mp hw with rfl | hw
    · exact hstep
    · exact (ih hrest hsize.2 hw).trans hstep

/-- All windows of a side start at the same place of a 64K page, and none is smaller than the least one. -/
theorem roomFor_iff {size number : UInt64} {others : Nat} (hnumber : number ≠ 0) (hcut : CutDown hi ws mid)
    (htop : hi = lo + size.toNat)
    (hsizes : ws.map EquallyWindow.mmioSize = equallyFirst size number :: replicate others (equallyShare size number)) :
    (∀ w ∈ ws, rcMgrMmioMinSize.toNat ≤ w.size ∧ w.HoldsNonPci blk) ↔
      RoomFor blk lo (leastShare size number (others + 1)) := by
  cases ws with
  | nil => cases hsizes
  | cons first rest =>
    obtain ⟨hfirst, hrest⟩ := List.cons.inj hsizes
    obtain ⟨htile, hcut⟩ := hcut.of_cons
    have hshares : ∀ w ∈ rest, w.mmioSize = equallyShare size number := fun w hw =>
      eq_of_mem_replicate (hrest ▸ mem_map_of_mem hw)
    have hdvd : ∀ w ∈ rest, 2 ^ 16 ∣ w.size := fun w hw => by
      unfold EquallyWindow.size
      rw [hshares w hw]
      exact dvd_equallyShare _ _
    have hsum := toNat_equallyFirst size hnumber
    have hstart : first.start % 2 ^ 16 = lo % 2 ^ 16 := by
      obtain ⟨k, hk⟩ := (dvd_equallyShare size number).mul_left (number.toNat - 1)
      have hsize : first.size = (equallyFirst size number).toNat := congrArg UInt64.toNat hfirst
      omega
    have hle := equallyShare_le_first size hnumber
    rw [forall_mem_cons, holdsNonPci_iff hstart, hfirst]
    have hothers : (∀ w ∈ rest, rcMgrMmioMinSize.toNat ≤ w.size ∧ w.HoldsNonPci blk) ↔
        (others ≠ 0 → RoomFor blk lo (equallyShare size number)) := by
      have hlength : rest.length = others := by simpa using congrArg length hrest
      refine ⟨fun h hne => ?_, fun h w hw => ?_⟩
      · obtain ⟨w, hw⟩ := exists_mem_of_length_pos (show 0 < rest.length by omega)
        have hroom := (holdsNonPci_iff ((hcut.start_mod hdvd hw).trans hstart)).mp (h w hw)
        rwa [hshares w hw] at hroom
      · rw [holdsNonPci_iff ((hcut.start_mod hdvd hw).trans hstart), hshares w hw]
        exact h fun h0 => by
          rw [length_eq_zero_iff.mp (hlength.trans h0)] at hw
          cases hw
    rw [hothers]
    unfold leastShare
    split_ifs with hfew
    · exact and_iff_left fun hne => absurd hfew (by omega)
    · refine ⟨fun h => h.2 (by omega), fun h => ⟨?_, fun _ => h⟩⟩
      obtain ⟨hmin, hroom⟩ := h
      exact ⟨hmin.trans hle, hroom.trans (by omega)⟩

/-! ## The windows above 4G -/

def EquallyWindow.HoldsNonPciAbove4G (blk : InputBlk) (w : EquallyWindow) : Prop :=
  roundUp w.start 0xFFFFFFF + (sizeNonPciAbove4G blk).toNat ≤ w.start + w.size

/-- A window above 4G has room for the pool for devices that are not on PCI behind the next 256M. -/
def RoomForAbove4G (blk : InputBlk) (lo : Nat) (size : UInt64) : Prop :=
  roundUp lo 0xFFFFFFF + (sizeNonPciAbove4G blk).toNat ≤ lo + size.toNat

/-- The windows from `lo` for `number` root bridges: one share each, and the last one takes what is over. Windows below
the least size are left out. -/
def RoomAbove4G (blk : InputBlk) (lo : Nat) (number : Nat) (share last : UInt64) : Prop :=
  (mmioMinNonPciSizeAbove4G ≤ share → ∀ i < number - 1, RoomForAbove4G blk (lo + i * share.toNat) share) ∧
  (mmioMinNonPciSizeAbove4G ≤ last →
    RoomForAbove4G blk (lo + if mmioMinNonPciSizeAbove4G ≤ share then (number - 1) * share.toNat else 0) last)

theorem roomAbove4G_iff {rbs : List (Nat × Nat)} {base share last : UInt64}
    (hlast : Chain.LastOnly (isLastRb blk) rbs) (hne : rbs ≠ [])
    (hshare : ∀ rb, equallyShareAbove4G blk sys rb = if isLastRb blk rb then last else share)
    (hsum : base.toNat + (rbs.map (shareAbove4G blk sys)).sum ≤ (equallyWindow blk sys).limit.toNat) :
    (∀ w ∈ equallyAbove4GFrom blk sys base rbs, w.HoldsNonPciAbove4G blk) ↔
      RoomAbove4G blk base.toNat rbs.length share last := by
  induction rbs generalizing base with
  | nil => exact absurd rfl hne
  | cons rb rbs ih =>
    obtain ⟨hrb, hrbs⟩ := hlast.cons
    rw [map_cons, sum_cons] at hsum
    have hlimit := (equallyWindow blk sys).limit.toNat_lt
    have hnext : (base + equallyShareAbove4G blk sys rb).toNat = base.toNat + (equallyShareAbove4G blk sys rb).toNat :=
      toNat_add_eq (by unfold shareAbove4G at hsum; omega)
    rw [equallyAbove4GFrom]
    cases rbs with
    | nil =>
      have hthis : equallyShareAbove4G blk sys rb = last := by rw [hshare, hrb]; rfl
      have hnone : ∀ i, ¬ i < 1 - 1 := fun i hi => by omega
      rw [hthis]
      by_cases hsmall : last < mmioMinNonPciSizeAbove4G
      · simp [RoomAbove4G, equallyAbove4GFrom, hsmall, UInt64.not_le.mpr hsmall]
      · have hlarge := UInt64.not_lt.mp hsmall
        simp only [RoomAbove4G, equallyAbove4GFrom, if_neg hsmall, mem_singleton, forall_eq, length_singleton, hnone,
          false_implies, implies_true, true_and, hlarge, true_implies, Nat.sub_self, Nat.zero_mul, ite_self, Nat.add_zero]
        exact Iff.rfl
    | cons rb' rbs =>
      have hthis : equallyShareAbove4G blk sys rb = share := by rw [hshare, hrb]; rfl
      have hstep : ∀ i, base.toNat + share.toNat + i * share.toNat = base.toNat + (i + 1) * share.toNat := fun i => by
        rw [Nat.add_one_mul]
        omega
      rw [hthis] at hnext ⊢
      by_cases hsmall : share < mmioMinNonPciSizeAbove4G
      · have hlarge := UInt64.not_le.mpr hsmall
        rw [if_pos hsmall, ih hrbs (cons_ne_nil _ _) (by omega)]
        unfold RoomAbove4G
        simp only [hlarge, false_implies, if_false]
      · have hlarge := UInt64.not_lt.mp hsmall
        unfold shareAbove4G at hsum
        rw [hthis] at hsum
        rw [if_neg hsmall, forall_mem_cons, ih hrbs (cons_ne_nil _ _) (by unfold shareAbove4G; omega), hnext]
        unfold RoomAbove4G
        simp only [hlarge, true_implies, if_true, length_cons, Nat.add_sub_cancel, hstep, ← and_assoc]
        refine and_congr_left fun _ => ⟨fun h i hi => ?_, fun h => ⟨?_, fun i hi => h (i + 1) (by omega)⟩⟩
        · cases i with
          | zero =>
            rw [Nat.zero_mul, Nat.add_zero]
            exact h.1
          | succ i => exact h.2 i (by omega)
        · have hroom := h 0 (by omega)
          rwa [Nat.zero_mul, Nat.add_zero] at hroom

/-! ## When every root bridge gets a window -/

/-- All root bridges are above the configuration space, or the range below it can be used. -/
def CoversAll (blk : InputBlk) (sys : SystemInfo) : Prop :=
  (systemRbNumber blk).toNat ≤ (rbNumberAbovePcieCfg blk sys).toNat ∨ belowPcieCfgIsTooSmall blk sys = false

theorem equallyOthers_complete_iff {copy : UInt8} {rbs : List (Nat × Nat)}
    (h : (equallyOthers blk sys copy rbs s).2 ≠ .divisionByZero) :
    (equallyOthers blk sys copy rbs s).2 = .complete ↔
      rbs.length ≤ s.rbNumberAbovePcieCfg.toNat ∨ belowPcieCfgIsTooSmall blk sys = false := by
  induction rbs generalizing s with
  | nil => simp [equallyOthers]
  | cons rb rbs ih =>
    rw [equallyOthers] at h ⊢
    by_cases habove : s.rbNumberAbovePcieCfg = 0
    · rw [if_neg (not_not.mpr habove)] at h ⊢
      cases hbelow : belowPcieCfgIsTooSmall blk sys with
      | true => simp [habove]
      | false =>
        rw [hbelow] at h
        cases hswitch : s.switchSide blk sys copy with
        | none =>
          rw [hswitch] at h
          exact absurd rfl h
        | some s' =>
          rw [hswitch] at h
          exact (ih h).trans (iff_of_true (.inr hbelow) (.inr rfl))
    · rw [if_pos habove] at h ⊢
      have hpred := toNat_pred habove
      rw [ih h, length_cons]
      refine or_congr_left ?_
      dsimp only
      split_ifs
      all_goals
        change rbs.length ≤ (s.rbNumberAbovePcieCfg - 1).toNat ↔ _
        omega

theorem equallyBelow4G_complete_iff (hout : equallyOutOfResources blk sys = false)
    (hlength : 1 + ((rootBridges blk).filter (· ≠ primaryRb df)).length = (systemRbNumber blk).toNat)
    (h : (equallyBelow4G blk sys df).2 ≠ .divisionByZero) :
    (equallyBelow4G blk sys df).2 = .complete ↔ CoversAll blk sys := by
  unfold equallyBelow4G at h ⊢
  unfold CoversAll
  cases hstart : equallyStart blk sys with
  | none =>
    rw [hstart] at h
    exact absurd rfl h
  | some s =>
    rw [hstart] at h
    dsimp only at h ⊢
    rcases equallyStart_cases hout hstart with ⟨-, hbelow, hzero, rfl⟩ | ⟨-, number, hne, hsame, rfl⟩
    · simp only [hbelow, Bool.and_false, Bool.false_eq_true, if_false, if_true] at h ⊢
      rw [equallyOthers_complete_iff h]
      exact iff_of_true (.inr hbelow) (.inr trivial)
    · simp only [hne, decide_false, Bool.false_and, Bool.false_eq_true, if_false] at h ⊢
      have hpred := toNat_pred hne
      rw [equallyOthers_complete_iff h, hsame]
      refine or_congr_left ?_
      dsimp only
      omega

/-! ## The pools of all root bridges -/

variable {out : MmioState}

/-- There is a result, and if it is a success, then no size has wrapped, every window below 4G has the least size, and
the pools of every root bridge are apart and in its window. -/
def PoolsSound (blk : InputBlk) (sys : SystemInfo) (df : DfAnswers) (result : Option (SilStatus × MmioState)) : Prop :=
  ∃ status out', result = some (status, out') ∧ (status = .silPass →
    (topBelowPcieCfg blk).toNat = sys.tom.toNat + (sizeBelowPcieCfg blk sys).toNat ∧
    (∀ w ∈ equallyWindowsBelow4G blk sys df, rcMgrMmioMinSize.toNat ≤ w.size) ∧
    (∀ w ∈ (equallyBelow4G blk sys df).1, PoolsIn (entry out'.manager.mmioRegionBelow4G w.rb) w.start w.size) ∧
    ∀ w ∈ equallyAbove4G blk sys, PoolsIn (entry out'.manager.mmioRegionAbove4G w.rb) w.start w.size)

/-- What the checks leave open: the share is not 0 as a 32-bit divisor, and if every root bridge gets a window, TOM is
below the range, and the shares, rounded to 16M, have room for the pools for devices that are not on PCI. -/
structure PoolsFit (blk : InputBlk) (sys : SystemInfo) : Prop where
  share : abovePcieCfgIsTooSmall blk sys = true ∨
    (totalAvailableSize blk sys / (systemRbNumber blk).toUInt64).toUInt32 ≠ 0
  tom : CoversAll blk sys → 0x100000000 ≤ blk.pciExpressBaseAddress →
    sys.tom.toNat ≤ blk.bottomMmioReservedForPrimaryRb.toNat
  upper : CoversAll blk sys → rbNumberAbovePcieCfg blk sys ≠ 0 → RoomFor blk (mmioStart blk sys .above).toNat
    (leastShare (sizeAbovePcieCfg blk sys) (rbNumberAbovePcieCfg blk sys).toUInt64
      (min (rbNumberAbovePcieCfg blk sys).toNat (systemRbNumber blk).toNat))
  lower : CoversAll blk sys → (rbNumberAbovePcieCfg blk sys).toNat < (systemRbNumber blk).toNat →
    RoomFor blk sys.tom.toNat (leastShare (sizeBelowPcieCfg blk sys)
      ((systemRbNumber blk).toUInt64 - (rbNumberAbovePcieCfg blk sys).toUInt64)
      ((systemRbNumber blk).toNat - (rbNumberAbovePcieCfg blk sys).toNat))
  second : CoversAll blk sys → systemRbNumber blk < 8 →
    if abovePcieCfgIsTooSmall blk sys then sizeAbovePcieCfg blk sys ≠ 0 → rcMgrMmioMinSize ≤ sizeAbovePcieCfg blk sys
    else belowPcieCfgIsTooSmall blk sys || systemRbNumber blk = 1 → sizeBelowPcieCfg blk sys ≠ 0 →
      rcMgrMmioMinSize ≤ sizeBelowPcieCfg blk sys
  above4G : CoversAll blk sys → (equallyWindow blk sys).base < (equallyWindow blk sys).limit →
    let size := (equallyWindow blk sys).limit - (equallyWindow blk sys).base
    RoomAbove4G blk (equallyWindow blk sys).base.toNat (systemRbNumber blk).toNat
      (equallyShare size (systemRbNumber blk).toUInt64) (equallyFirst size (systemRbNumber blk).toUInt64)

theorem sizeBelow_eq_iff (haborts : equallyAborts blk sys = false) :
    (topBelowPcieCfg blk).toNat = sys.tom.toNat + (sizeBelowPcieCfg blk sys).toNat ↔
      (0x100000000 ≤ blk.pciExpressBaseAddress → sys.tom.toNat ≤ blk.bottomMmioReservedForPrimaryRb.toNat) := by
  refine ⟨fun h hp => ?_, fun h => (sides_of_checks haborts h).below⟩
  unfold topBelowPcieCfg at h
  rw [if_pos hp] at h
  have hbottom : (bottomMmioReserved blk).toNat = blk.bottomMmioReservedForPrimaryRb.toNat := by simp [bottomMmioReserved]
  omega

theorem second_least_iff (hout : equallyOutOfResources blk sys = false) :
    (∀ w ∈ (equallySecondWindow blk sys df).toList, rcMgrMmioMinSize.toNat ≤ w.size) ↔ (systemRbNumber blk < 8 →
      if abovePcieCfgIsTooSmall blk sys then sizeAbovePcieCfg blk sys ≠ 0 → rcMgrMmioMinSize ≤ sizeAbovePcieCfg blk sys
      else belowPcieCfgIsTooSmall blk sys || systemRbNumber blk = 1 → sizeBelowPcieCfg blk sys ≠ 0 →
        rcMgrMmioMinSize ≤ sizeBelowPcieCfg blk sys) := by
  unfold equallySecondWindow
  simp only [UInt64.le_iff_toNat_le]
  cases habove : abovePcieCfgIsTooSmall blk sys with
  | true =>
    have hbelow := below_of_abovePcieCfgIsTooSmall hout habove
    have hone : systemRbNumber blk ≠ 1 := fun h1 => by
      unfold abovePcieCfgIsTooSmall isTooSmall at habove
      rw [h1] at habove
      simp at habove
    by_cases hfew : systemRbNumber blk < 8 <;> by_cases hsize : sizeAbovePcieCfg blk sys = 0 <;>
      simp [hbelow, hone, hfew, hsize, EquallyWindow.size]
  | false =>
    by_cases hfew : systemRbNumber blk < 8 <;> by_cases hsize : sizeBelowPcieCfg blk sys = 0 <;>
      cases hbelow : belowPcieCfgIsTooSmall blk sys <;> by_cases hone : systemRbNumber blk = 1 <;>
      simp [hone, hfew, hsize, EquallyWindow.size]

section
variable (hprimary : primaryRb df ∈ rootBridges blk) (hcount : (rootBridges blk).length < 256)
  (hout : equallyOutOfResources blk sys = false) (hend : (equallyBelow4G blk sys df).2 = .complete)
  (hsides : Sides blk sys)
include hprimary hcount hout hend hsides

theorem below4G_room_iff : (∀ w ∈ (equallyBelow4G blk sys df).1, rcMgrMmioMinSize.toNat ≤ w.size ∧ w.HoldsNonPci blk) ↔
    (rbNumberAbovePcieCfg blk sys ≠ 0 → RoomFor blk (mmioStart blk sys .above).toNat
      (leastShare (sizeAbovePcieCfg blk sys) (rbNumberAbovePcieCfg blk sys).toUInt64
        (min (rbNumberAbovePcieCfg blk sys).toNat (systemRbNumber blk).toNat))) ∧
    ((rbNumberAbovePcieCfg blk sys).toNat < (systemRbNumber blk).toNat → RoomFor blk sys.tom.toNat
      (leastShare (sizeBelowPcieCfg blk sys)
        ((systemRbNumber blk).toUInt64 - (rbNumberAbovePcieCfg blk sys).toUInt64)
        ((systemRbNumber blk).toNat - (rbNumberAbovePcieCfg blk sys).toNat))) := by
  obtain ⟨⟨as, bs, hsplit, -, hfills⟩, hperm⟩ := equallyBelow4G_spec hsides hout hcount hprimary hend
  have hnumber : 0 < (systemRbNumber blk).toNat := by
    rw [toNat_systemRbNumber hcount]
    exact length_pos_of_mem hprimary
  have hlength : as.length + bs.length = (systemRbNumber blk).toNat := by
    rw [toNat_systemRbNumber hcount, ← hperm.length_eq, length_map, hsplit, length_append]
  have hsizes := hfills.sizes
  have hupper : as.length = min (rbNumberAbovePcieCfg blk sys).toNat (systemRbNumber blk).toNat := by
    have hlen := congrArg length hsizes
    unfold sharesAbovePcieCfg at hlen
    rw [length_map] at hlen
    by_cases hzero : rbNumberAbovePcieCfg blk sys = 0
    · simpa [hzero] using hlen
    · have hpred := (toNat_pred hzero).1
      simp only [if_neg hzero, length_cons, length_replicate] at hlen
      omega
  rw [hsplit, forall_mem_append]
  refine and_congr ?_ ?_
  · by_cases hzero : rbNumberAbovePcieCfg blk sys = 0
    · obtain rfl : as = [] := length_eq_zero_iff.mp (by rw [hupper, hzero]; simp)
      simp [hzero]
    · obtain ⟨mid, -, hcut⟩ := hfills.upper
      have hpred := (toNat_pred hzero).1
      have hne : (rbNumberAbovePcieCfg blk sys).toUInt64 ≠ 0 := fun h => by
        have h0 := congrArg UInt64.toNat h
        rw [UInt8.toNat_toUInt64] at h0
        exact absurd h0 (show _ ≠ 0 by omega)
      unfold sharesAbovePcieCfg at hsizes
      simp only [if_neg hzero] at hsizes
      rw [roomFor_iff hne hcut hsides.above hsizes, Nat.sub_add_cancel (by omega)]
      exact ⟨fun h _ => h, fun h => h hzero⟩
  · rcases hfills.lower with rfl | ⟨-, hcut, hlower⟩
    · rw [length_nil] at hlength
      exact iff_of_true (by simp) fun hlt => absurd hlt (by omega)
    · have hlen := congrArg length hlower
      rw [length_map, sharesOf, length_cons] at hlen
      have hlt : (rbNumberAbovePcieCfg blk sys).toNat < (systemRbNumber blk).toNat := by omega
      have hleft := toNat_left hlt
      have hne : (systemRbNumber blk).toUInt64 - (rbNumberAbovePcieCfg blk sys).toUInt64 ≠ 0 := fun h => by
        rw [h] at hleft
        exact absurd hleft (show (0 : Nat) ≠ _ by omega)
      rw [roomFor_iff hne hcut hsides.below hlower, hleft, Nat.sub_add_cancel (by omega)]
      exact ⟨fun h _ => h, fun h => h hlt⟩

theorem recorded_poolsIn_iff (out : MmioState) :
    ((∀ w ∈ (equallyBelow4G blk sys df).1,
        PoolsIn (entry (equallyDone blk sys df out).manager.mmioRegionBelow4G w.rb) w.start w.size) ↔
      ∀ w ∈ (equallyBelow4G blk sys df).1, w.HoldsNonPci blk) ∧
    ((∀ w ∈ equallyAbove4G blk sys,
        PoolsIn (entry (equallyDone blk sys df out).manager.mmioRegionAbove4G w.rb) w.start w.size) ↔
      ∀ w ∈ equallyAbove4G blk sys, w.HoldsNonPciAbove4G blk) := by
  have hplaced := equallyPlacement_of_complete out hsides hout hprimary hcount hend
  have hbottom := blk.bottomMmioReservedForPrimaryRb.toNat_lt
  have hbottom' : (bottomMmioReserved blk).toNat = blk.bottomMmioReservedForPrimaryRb.toNat := by
    simp [bottomMmioReserved]
  constructor
  · refine forall₂_congr fun w hw => ?_
    have hfits : w.start + w.size < 2 ^ 64 := by
      rcases hplaced.fits w (mem_append_left _ hw) with h | h
      · have := h.2
        omega
      · have := h.2
        omega
    rw [hplaced.recorded w hw]
    exact equallyRegion_poolsIn_iff hfits
  · refine forall₂_congr fun w hw => ?_
    have hfits : w.start + w.size < 2 ^ 64 := by
      have hspan := hplaced.above4G.size_le w hw
      have hinside := (hplaced.above4G.inside w hw).2
      have hlimit := (equallyWindow blk sys).limit.toNat_lt
      omega
    rw [hplaced.recordedAbove4G w hw]
    exact equallyRegionAbove4G_poolsIn_iff hfits

end

theorem above4G_room_iff (hcount : (rootBridges blk).length < 256) (hne : rootBridges blk ≠ []) :
    (∀ w ∈ equallyAbove4G blk sys, w.HoldsNonPciAbove4G blk) ↔
      ((equallyWindow blk sys).base < (equallyWindow blk sys).limit →
        let size := (equallyWindow blk sys).limit - (equallyWindow blk sys).base
        RoomAbove4G blk (equallyWindow blk sys).base.toNat (systemRbNumber blk).toNat
          (equallyShare size (systemRbNumber blk).toUInt64) (equallyFirst size (systemRbNumber blk).toUInt64)) := by
  unfold equallyAbove4G
  dsimp only
  by_cases hlt : (equallyWindow blk sys).base < (equallyWindow blk sys).limit
  · rw [if_pos hlt, roomAbove4G_iff (lastOnly_rootBridges blk) hne (fun _ => rfl) (sum_shareAbove4G hcount hne hlt).le,
      toNat_systemRbNumber hcount]
    exact ⟨fun h _ => h, fun h => h hlt⟩
  · rw [if_neg hlt]
    exact iff_of_true (by simp) fun h => absurd h hlt

/-- The pools of an equal distribution that passes the checks are sound exactly if the share is not 0 and the windows
have room for the pools for devices that are not on PCI. -/
theorem equally_pools_iff (blk : InputBlk) (sys : SystemInfo) (df : DfAnswers) (out : MmioState)
    (hprimary : primaryRb df ∈ rootBridges blk) (hcount : (rootBridges blk).length < 256)
    (haborts : equallyAborts blk sys = false) (hout : equallyOutOfResources blk sys = false) :
    PoolsSound blk sys df (silInitMmioEqually4 blk sys df out) ↔ PoolsFit blk sys := by
  have hlength : 1 + ((rootBridges blk).filter (· ≠ primaryRb df)).length = (systemRbNumber blk).toNat := by
    rw [toNat_systemRbNumber hcount, ← (primary_cons_perm hprimary).length_eq, length_cons]
    omega
  have hne : systemRbNumber blk ≠ 0 := fun h => by
    rw [h] at hlength
    exact absurd hlength (show _ ≠ 0 by omega)
  have hdivides : (equallyBelow4G blk sys df).2 = .divisionByZero ↔ ¬ (abovePcieCfgIsTooSmall blk sys = true ∨
      (totalAvailableSize blk sys / (systemRbNumber blk).toUInt64).toUInt32 ≠ 0) := by
    rw [equallyBelow4G_divides hcount hprimary, equallyStart_eq_none_iff hne]
    simp
  rw [silInitMmioEqually4_of_checks haborts hout]
  cases hend : (equallyBelow4G blk sys df).2 with
  | divisionByZero =>
    refine iff_of_false ?_ fun h => hdivides.mp hend h.share
    rintro ⟨status, out', h, -⟩
    cases h
  | outOfResources rb =>
    have hcovers : ¬ CoversAll blk sys := by
      rw [← equallyBelow4G_complete_iff hout hlength (by rw [hend]; simp), hend]
      simp
    refine iff_of_true ⟨_, _, rfl, by simp⟩ ?_
    constructor
    · exact not_not.mp (mt hdivides.mpr (by rw [hend]; simp))
    all_goals exact fun h => absurd h hcovers
  | complete =>
    have hshare := not_not.mp (mt hdivides.mpr (by rw [hend]; simp))
    have hcovers := (equallyBelow4G_complete_iff hout hlength (by rw [hend]; simp)).mp hend
    constructor
    · rintro ⟨status, out', h, hsound⟩
      obtain ⟨rfl, rfl⟩ := Prod.mk.inj (Option.some.inj h)
      obtain ⟨htom, hleast, hbelow, habove⟩ := hsound rfl
      have htom := (sizeBelow_eq_iff haborts).mp htom
      have hsides := sides_of_checks haborts htom
      obtain ⟨hrecorded, hrecorded'⟩ := recorded_poolsIn_iff hprimary hcount hout hend hsides out
      obtain ⟨hleast, hleast'⟩ := forall_mem_append.mp hleast
      obtain ⟨hupper, hlower⟩ := (below4G_room_iff hprimary hcount hout hend hsides).mp fun w hw =>
        ⟨hleast w hw, hrecorded.mp hbelow w hw⟩
      exact ⟨hshare, fun _ => htom, fun _ => hupper, fun _ => hlower, fun _ => (second_least_iff hout).mp hleast',
        fun _ => (above4G_room_iff hcount (ne_nil_of_mem hprimary)).mp (hrecorded'.mp habove)⟩
    · intro h
      have htom := h.tom hcovers
      have hsides := sides_of_checks haborts htom
      obtain ⟨hrecorded, hrecorded'⟩ := recorded_poolsIn_iff hprimary hcount hout hend hsides out
      have hroom := (below4G_room_iff hprimary hcount hout hend hsides).mpr ⟨h.upper hcovers, h.lower hcovers⟩
      refine ⟨_, _, rfl, fun _ => ⟨(sizeBelow_eq_iff haborts).mpr htom, forall_mem_append.mpr
        ⟨fun w hw => (hroom w hw).1, (second_least_iff hout).mpr (h.second hcovers)⟩,
        hrecorded.mpr fun w hw => (hroom w hw).2, hrecorded'.mpr ?_⟩⟩
      exact (above4G_room_iff hcount (ne_nil_of_mem hprimary)).mpr (h.above4G hcovers)

/-- With 384M for each of four root bridges, the pools fit. -/
theorem equally_pools_plain :
    PoolsSound (plainBlk 0xE0000000) (plainSystem 0x100000000) plainDf
      (silInitMmioEqually4 (plainBlk 0xE0000000) (plainSystem 0x100000000) plainDf .zero) := by
  refine (equally_pools_iff _ _ _ _ (by decide) (by decide) (by decide +kernel) (by decide +kernel)).mpr ?_
  constructor
  case share => exact .inl (by decide +kernel)
  case tom => exact fun _ => by decide +kernel
  case upper =>
    unfold RoomFor
    exact fun _ => by decide +kernel
  case lower =>
    unfold RoomFor
    exact fun _ => by decide +kernel
  case second => exact fun _ => by decide +kernel
  case above4G =>
    unfold RoomAbove4G RoomForAbove4G
    exact fun _ => by decide +kernel

def fullBlk : InputBlk :=
  { plainBlk 0xE0000000 with rbsPerSocket := 1, bottomMmioReservedForPrimaryRb := 0xF0000000 }

def fullDf : DfAnswers := { plainDf with rootBridgesOnDie := 1, rootBridgesOnSocket := 1, primaryRootBridge := 0 }

def tightBlk : InputBlk := { plainBlk 0xE0000000 with bottomMmioReservedForPrimaryRb := 0xF3000000 }

def tightSystem : SystemInfo := { plainSystem 0x100000000 with tom := 0xE0000000 }

/-- Two layouts that pass the checks. With nothing to share, the function divides by zero. With 48M for four root
bridges, the first one gets all of it, and the sizes of the pools of the others wrap. -/
theorem equally_pools_unsound :
    (equallyAborts fullBlk tightSystem = false ∧ equallyOutOfResources fullBlk tightSystem = false ∧
      silInitMmioEqually4 fullBlk tightSystem fullDf .zero = none) ∧
    (equallyAborts tightBlk tightSystem = false ∧ equallyOutOfResources tightBlk tightSystem = false ∧
      (silInitMmioEqually4 tightBlk tightSystem plainDf .zero).map (fun r =>
        (r.1, (r.2.manager.mmioRegionBelow4G 0 0).sizePrefetch, (r.2.manager.mmioRegionBelow4G 0 0).sizeNonPrefetch)) =
          some (.silPass, 0x3333333332000000, 0xCCCCCCCCCD000000) ∧
      ¬ PoolsSound tightBlk tightSystem plainDf (silInitMmioEqually4 tightBlk tightSystem plainDf .zero)) := by
  refine ⟨⟨by decide +kernel, by decide +kernel, isNone_iff_eq_none.mp (by decide +kernel)⟩, by decide +kernel,
    by decide +kernel, by decide +kernel, ?_⟩
  rintro ⟨status, out', hresult, hsound⟩
  have hstatus : (silInitMmioEqually4 tightBlk tightSystem plainDf .zero).map Prod.fst = some .silPass := by
    decide +kernel
  rw [hresult] at hstatus
  obtain ⟨-, hleast, -, -⟩ := hsound (Option.some.inj hstatus)
  exact absurd (hleast ⟨(0, 0), 0xF0000000, 0⟩ (by decide +kernel)) (by decide)

end OpenSil.RcMgr
