import OpenSil.RcMgr.PairUse

/-! # Sharing equally after a failed attempt -/

namespace OpenSil.RcMgr

open Word Table Stores List Function Nat Option EquallyWindow

/-! ## What a failed attempt leaves -/

structure Leftover (blk : InputBlk) (df : DfAnswers) (out left : MmioState) : Prop where
  above_mem : ∀ slot, entry left.manager.allocateMmioAbove4GOnThisRb slot = true → slot ∈ rootBridges blk
  below_mem : ∀ slot, entry left.manager.allocateMmioBelow4GOnThisRb slot = true → slot ∈ combinationOrder blk df
  regionAbove : ∀ slot, entry left.manager.allocateMmioAbove4GOnThisRb slot = false →
    entry left.manager.mmioRegionAbove4G slot = .zero
  sizeAbove : ∀ slot, entry left.manager.allocateMmioAbove4GOnThisRb slot = true →
    (entry left.manager.mmioRegionAbove4G slot).sizeNonPci ≠ 0
  regionBelow : ∀ slot, entry left.manager.allocateMmioBelow4GOnThisRb slot = false →
    entry left.manager.mmioRegionBelow4G slot = .zero
  second : left.manager.primaryRbHas2ndMmioBelow4G = false ∧ left.manager.primaryRb2ndMmioPairBelow4G = 0
  regs : ∀ i p, left.regs i p ≠ out.regs i p → i < blk.socketNumber.toNat ∧
    ((∃ slot, entry left.manager.allocateMmioAbove4GOnThisRb slot = true ∧ (pairOf blk (slot, true)).toNat = p) ∨
      ∃ slot, entry left.manager.allocateMmioBelow4GOnThisRb slot = true ∧ (pairOf blk (slot, false)).toNat = p)

variable {blk : InputBlk} {sys : SystemInfo} {df : DfAnswers} {out left : MmioState} {rb : Nat × Nat}

theorem leftover_refl (hfresh : out.manager = .zero) : Leftover blk df out out := by
  constructor
  case regs => exact fun i p h => absurd rfl h
  all_goals
    rw [hfresh]
    simp [MmioManager.zero, entry]

theorem entry_set_flag (t : Table Bool) (rb slot : Nat × Nat) :
    entry (t.set rb.1 rb.2 true) slot = true ↔ slot = rb ∨ entry t slot = true := by
  rw [entry_set]
  by_cases h : slot = rb
  · subst h
    simp
  · rw [update_of_ne h]
    simp [h]

theorem marked_set {t : Table Bool} {p : Nat × Nat → Prop} (hrb : p rb) (h : ∀ slot, entry t slot = true → p slot) :
    ∀ slot, entry (t.set rb.1 rb.2 true) slot = true → p slot := by
  intro slot hslot
  rcases (entry_set_flag t rb slot).mp hslot with rfl | hslot
  · exact hrb
  · exact h slot hslot

theorem unmarked_set {t : Table Bool} {regions : Table MmioRegion} (region : MmioRegion)
    (h : ∀ slot, entry t slot = false → entry regions slot = .zero) :
    ∀ slot, entry (t.set rb.1 rb.2 true) slot = false → entry (regions.set rb.1 rb.2 region) slot = .zero := by
  intro slot hslot
  rw [← Bool.not_eq_true, entry_set_flag, not_or, Bool.not_eq_true] at hslot
  rw [entry_set, update_of_ne hslot.1]
  exact h slot hslot.2

theorem mmioMin_ne_zero : sizeNonPciAbove4G blk ≠ 0 := by
  have hmin := mmioMin_le_sizeNonPci blk
  intro hzero
  rw [hzero] at hmin
  exact absurd hmin (by decide)

theorem Leftover.recordAbove4G (h : Leftover blk df out left) (hrb : rb ∈ rootBridges blk) (base next : UInt64)
    (bases : PoolKind → UInt64) : Leftover blk df out (recordAbove4G blk df rb base next bases left) := by
  have hflag : ∀ slot, entry (RcMgr.recordAbove4G blk df rb base next bases left).manager.allocateMmioAbove4GOnThisRb
      slot = true ↔ slot = rb ∨ entry left.manager.allocateMmioAbove4GOnThisRb slot = true := entry_set_flag _ rb
  have hregion : entry (RcMgr.recordAbove4G blk df rb base next bases left).manager.mmioRegionAbove4G =
      update (entry left.manager.mmioRegionAbove4G) rb (regionAbove4G blk rb bases) := entry_set _ _ _
  refine { h with
    above_mem := marked_set hrb h.above_mem, regionAbove := unmarked_set _ h.regionAbove, sizeAbove := ?sizeAbove
    regs := ?regs }
  case sizeAbove =>
    intro slot hslot
    rw [hregion]
    by_cases hrb' : slot = rb
    · rw [hrb', update_self]
      exact mmioMin_ne_zero
    · rw [update_of_ne hrb']
      exact h.sizeAbove slot (((hflag slot).mp hslot).resolve_left hrb')
  case regs =>
    intro i p hne
    by_cases hset : i < blk.socketNumber.toNat ∧ p = (mmioPairIndex blk rb true).toNat
    · exact ⟨hset.1, .inl ⟨rb, (hflag rb).mpr (.inl rfl), hset.2.symm⟩⟩
    · have hkeep : (RcMgr.recordAbove4G blk df rb base next bases left).regs i p = left.regs i p := if_neg hset
      rw [hkeep] at hne
      obtain ⟨hi, hslot⟩ := h.regs i p hne
      refine ⟨hi, hslot.imp (fun ⟨slot, hslot, hp⟩ => ⟨slot, (hflag slot).mpr (.inr hslot), hp⟩) id⟩

theorem Leftover.setBelow4G (h : Leftover blk df out left) (hrb : rb ∈ combinationOrder blk df) (region : MmioRegion)
    (base length : UInt64) : Leftover blk df out (left.setBelow4G blk df rb region base length) := by
  have hflag : ∀ slot, entry (left.setBelow4G blk df rb region base length).manager.allocateMmioBelow4GOnThisRb
      slot = true ↔ slot = rb ∨ entry left.manager.allocateMmioBelow4GOnThisRb slot = true := entry_set_flag _ rb
  refine { h with
    below_mem := marked_set hrb h.below_mem, regionBelow := unmarked_set _ h.regionBelow, regs := ?regs }
  case regs =>
    intro i p hne
    by_cases hset : i < blk.socketNumber.toNat ∧ p = (mmioPairIndex blk rb false).toNat
    · exact ⟨hset.1, .inr ⟨rb, (hflag rb).mpr (.inl rfl), hset.2.symm⟩⟩
    · have hkeep : (left.setBelow4G blk df rb region base length).regs i p = left.regs i p := if_neg hset
      rw [hkeep] at hne
      obtain ⟨hi, hslot⟩ := h.regs i p hne
      exact ⟨hi, hslot.imp id fun ⟨slot, hslot, hp⟩ => ⟨slot, (hflag slot).mpr (.inr hslot), hp⟩⟩

variable {rbs : List (Nat × Nat)}

theorem Leftover.arrangeAbove4G {limit : UInt64} {s : Above4GState}
    (h : Leftover blk df out s.out) (hrbs : ∀ rb ∈ rbs, rb ∈ rootBridges blk) :
    Leftover blk df out (rbs.foldl (arrangeRbAbove4G blk df limit true) s).out := by
  refine foldlRecOn (motive := fun s : Above4GState => Leftover blk df out s.out) rbs _ h fun s h rb hrb => ?_
  unfold arrangeRbAbove4G
  dsimp only
  split_ifs
  · exact h
  · exact h.recordAbove4G (hrbs rb hrb) _ _ _
  · exact h

theorem Leftover.tryRbs {a : Nat → Bool} {s : TryState} (h : Leftover blk df out s.out)
    (hrbs : ∀ rb ∈ rbs, rb ∈ combinationOrder blk df) :
    Leftover blk df out (rbs.foldl (tryRb blk df a true) s).out := by
  refine foldlRecOn (motive := fun s : TryState => Leftover blk df out s.out) rbs _ h fun s h rb hrb => ?_
  rcases tryRb_sets blk df a s rb with ⟨-, hout⟩ | ⟨-, region, base, length, hout⟩
  · rw [hout]
    exact h
  · rw [hout]
    exact h.setBelow4G (hrbs rb hrb) _ _ _

theorem leftover_of_fail {status : SilStatus} (hfresh : out.manager = .zero)
    (h : silInitMmioBasedOnNvVariable4 blk sys df true out = some (status, left)) (hfail : status ≠ .silPass) :
    Leftover blk df out left := by
  have habove : Leftover blk df out
      (silArrangeMmioAbove4G blk df (nvWindow blk sys).base (nvWindow blk sys).limit true out).out :=
    (leftover_refl hfresh).arrangeAbove4G (s := ⟨(nvWindow blk sys).base, true, true, out⟩) fun rb hrb => hrb
  rcases silInitMmioBasedOnNvVariable4_fail h hfail with rfl | rfl
  · exact habove
  · unfold beforeTaken
    split_ifs
    · exact habove
    · exact Leftover.tryRbs (s := .start (mmioStart blk sys) _) habove fun rb hrb => hrb

/-! ## Two runs of the equal distribution -/

def RegsAgree (blk : InputBlk) (ps : List Nat) (regs regs' : Table MmioPair) : Prop :=
  ∀ i p, ¬ (i < blk.socketNumber.toNat ∧ p ∈ ps) → regs i p = regs' i p

structure AgreeBut (blk : InputBlk) (below marked above : List (Nat × Nat)) (ps : List Nat) (s t : MmioState) :
    Prop where
  flagBelow : AgreeOff below (entry s.manager.allocateMmioBelow4GOnThisRb) (entry t.manager.allocateMmioBelow4GOnThisRb)
  regionBelow : AgreeOff below (entry s.manager.mmioRegionBelow4G) (entry t.manager.mmioRegionBelow4G)
  flagAbove : AgreeOff marked (entry s.manager.allocateMmioAbove4GOnThisRb)
    (entry t.manager.allocateMmioAbove4GOnThisRb)
  regionAbove : AgreeOff above (entry s.manager.mmioRegionAbove4G) (entry t.manager.mmioRegionAbove4G)
  has2nd : s.manager.primaryRbHas2ndMmioBelow4G = t.manager.primaryRbHas2ndMmioBelow4G
  pair2nd : s.manager.primaryRb2ndMmioPairBelow4G = t.manager.primaryRb2ndMmioPairBelow4G
  regs : RegsAgree blk ps s.regs t.regs

variable {s t : MmioState} {below marked above : List (Nat × Nat)} {ps : List Nat}

theorem entry_inj {α : Type} {x y : Table α} (h : entry x = entry y) : x = y :=
  funext fun i => funext fun j => congrFun h (i, j)

theorem AgreeBut.eq (h : AgreeBut blk [] [] [] [] s t) : s = t := by
  obtain ⟨⟨ra, rb, fa, fb, has, pair⟩, regs⟩ := s
  obtain ⟨⟨ra', rb', fa', fb', has', pair'⟩, regs'⟩ := t
  obtain rfl : fb = fb' := entry_inj h.flagBelow.eq
  obtain rfl : rb = rb' := entry_inj h.regionBelow.eq
  obtain rfl : fa = fa' := entry_inj h.flagAbove.eq
  obtain rfl : ra = ra' := entry_inj h.regionAbove.eq
  obtain rfl : has = has' := h.has2nd
  obtain rfl : pair = pair' := h.pair2nd
  obtain rfl : regs = regs' := funext fun i => funext fun p => h.regs i p fun hmem => not_mem_nil hmem.2
  rfl

theorem RegsAgree.set {regs regs' : Table MmioPair} {pair : UInt8} (h : RegsAgree blk (pair.toNat :: ps) regs regs')
    (sktNum rbNum : Nat) (base length : UInt64) :
    RegsAgree blk ps (silSetMmioReg4 df blk.socketNumber pair sktNum rbNum base length regs)
      (silSetMmioReg4 df blk.socketNumber pair sktNum rbNum base length regs') := by
  intro i p hip
  unfold silSetMmioReg4
  split_ifs with hset
  · rfl
  · refine h i p fun hmem => ?_
    rcases mem_cons.mp hmem.2 with hp | hp
    · exact hset ⟨hmem.1, hp⟩
    · exact hip ⟨hmem.1, hp⟩

/-! ### The steps -/

theorem AgreeBut.setEquallyBelow4G (sys : SystemInfo) (df : DfAnswers) (w : EquallyWindow)
    (h : AgreeBut blk (w.rb :: below) marked above ((pairOf blk (w.rb, false)).toNat :: ps) s t) :
    AgreeBut blk below marked above ps (setEquallyBelow4G blk sys df s w) (setEquallyBelow4G blk sys df t w) where
  __ := h
  flagBelow := by
    rw [setEquallyBelow4G_flag, setEquallyBelow4G_flag]
    exact h.flagBelow.update _
  regionBelow := by
    rw [setEquallyBelow4G_region, setEquallyBelow4G_region]
    exact h.regionBelow.update _
  regs := h.regs.set _ _ _ _

theorem AgreeBut.markAbove4G (rb : Nat × Nat) (h : AgreeBut blk below (rb :: marked) above ps s t) :
    AgreeBut blk below marked above ps (markAbove4G s rb) (markAbove4G t rb) where
  __ := h
  flagAbove := by
    unfold RcMgr.markAbove4G
    rw [entry_set, entry_set]
    exact h.flagAbove.update _

theorem AgreeBut.setEquallyAbove4G (sys : SystemInfo) (df : DfAnswers) (w : EquallyWindow)
    (h : AgreeBut blk below marked (w.rb :: above) ((pairOf blk (w.rb, true)).toNat :: ps) s t) :
    AgreeBut blk below marked above ps (setEquallyAbove4G blk sys df s w) (setEquallyAbove4G blk sys df t w) where
  __ := h
  regionAbove := by
    unfold RcMgr.setEquallyAbove4G
    rw [entry_set, entry_set]
    exact h.regionAbove.update _
  regs := h.regs.set _ _ _ _

theorem AgreeBut.spareSlot (h : AgreeBut blk [] marked above ps s t) : spareSlot s.manager = spareSlot t.manager := by
  unfold RcMgr.spareSlot
  rw [h.has2nd, entry_inj h.flagBelow.eq]

theorem AgreeBut.addEquallySecond (sys : SystemInfo) (df : DfAnswers) (h : AgreeBut blk [] marked above ps s t) :
    AgreeBut blk [] marked above ps (addEquallySecond blk sys df s).1 (addEquallySecond blk sys df t).1 ∧
      (addEquallySecond blk sys df s).2 = (addEquallySecond blk sys df t).2 := by
  unfold RcMgr.addEquallySecond
  rw [h.spareSlot]
  cases equallySecondWindow blk sys df with
  | none => exact ⟨h, rfl⟩
  | some w =>
    cases RcMgr.spareSlot t.manager with
    | none => exact ⟨h, rfl⟩
    | some slot =>
      refine ⟨{ h with regionBelow := ?regionBelow, has2nd := rfl, pair2nd := rfl, regs := ?regs }, rfl⟩
      case regionBelow =>
        unfold setEquallySecond
        rw [entry_set, entry_set]
        exact h.regionBelow.store _ _
      case regs =>
        refine RegsAgree.set (fun i p hip => h.regs i p fun hmem => hip ?_) _ _ _ _
        exact ⟨hmem.1, mem_cons_of_mem _ hmem.2⟩

/-! ### The whole run -/

def equallyMarked (blk : InputBlk) (sys : SystemInfo) : List (Nat × Nat) :=
  if (equallyWindow blk sys).base < (equallyWindow blk sys).limit then rootBridges blk else []

theorem arrangeEquallyAbove4G_eq (out : MmioState) :
    arrangeEquallyAbove4G blk sys df out =
      (equallyAbove4G blk sys).foldl (RcMgr.setEquallyAbove4G blk sys df)
        ((equallyMarked blk sys).foldl RcMgr.markAbove4G out) := by
  unfold arrangeEquallyAbove4G equallyMarked
  dsimp only
  split_ifs <;> rfl

theorem AgreeBut.equallyDone
    (h : AgreeBut blk ((equallyBelow4G blk sys df).1.map EquallyWindow.rb) (equallyMarked blk sys)
      ((equallyAbove4G blk sys).map EquallyWindow.rb)
      ((equallyBelow4G blk sys df).1.map (fun w => (pairOf blk (w.rb, false)).toNat) ++
        (equallyAbove4G blk sys).map fun w => (pairOf blk (w.rb, true)).toNat) s t) :
    equallyDone blk sys df s = equallyDone blk sys df t := by
  -- Each of the three loops settles its own list.
  let below := fun w : EquallyWindow => (pairOf blk (w.rb, false)).toNat
  let above := fun w : EquallyWindow => (pairOf blk (w.rb, true)).toNat
  have hplaced := foldl_settle (R := fun ws => AgreeBut blk (ws.map rb) _ _ (ws.map below ++ _))
    (fun w _ _ _ h => h.setEquallyBelow4G sys df w) (equallyBelow4G blk sys df).1 h
  obtain ⟨hsecond, hreserved⟩ := hplaced.addEquallySecond sys df
  have hmarked := foldl_settle (R := fun rbs => AgreeBut blk [] rbs _ ((equallyAbove4G blk sys).map above))
    (fun rb _ _ _ h => h.markAbove4G rb) (equallyMarked blk sys) hsecond
  have habove := foldl_settle (R := fun ws => AgreeBut blk [] [] (ws.map rb) (ws.map above))
    (fun w _ _ _ h => h.setEquallyAbove4G sys df w) (equallyAbove4G blk sys) hmarked
  unfold RcMgr.equallyDone placedEqually
  dsimp only
  rw [arrangeEquallyAbove4G_eq, arrangeEquallyAbove4G_eq, hreserved, habove.eq]

/-! ## The walk below 4G reaches every root bridge -/

variable {copy : UInt8} {s : EquallyWalk}

theorem equallyOthers_of_counter
    (h : rbs.length ≤ s.rbNumberAbovePcieCfg.toNat) : (equallyOthers blk sys copy rbs s).2 = .complete := by
  induction rbs generalizing s with
  | nil => rfl
  | cons rb rbs ih =>
    rw [length_cons] at h
    have hne : s.rbNumberAbovePcieCfg ≠ 0 := fun h0 => by
      rw [h0] at h
      exact absurd h (not_succ_le_zero _)
    unfold equallyOthers
    rw [if_pos hne]
    have hnext : rbs.length ≤ (s.rbNumberAbovePcieCfg - 1).toNat := by
      rw [(toNat_pred hne).2]
      exact le_sub_one_of_lt h
    by_cases hfirst : s.rbNumberMmioHasInitialized = 1
    · simp only [if_pos hfirst]
      exact ih hnext
    · simp only [if_neg hfirst]
      exact ih hnext

theorem equallyOthers_of_large (hlarge : belowPcieCfgIsTooSmall blk sys = false)
    (rb : Nat × Nat) : (equallyOthers blk sys copy rbs s).2 ≠ .outOfResources rb := by
  induction rbs generalizing s with
  | nil => exact EquallyEnd.noConfusion
  | cons rb' rbs ih =>
    unfold equallyOthers
    rw [hlarge]
    by_cases habove : s.rbNumberAbovePcieCfg ≠ 0
    · rw [if_pos habove]
      exact ih
    · grind

theorem toNat_sizeAbovePcieCfg_lt (haborts : equallyAborts blk sys = false) :
    (sizeAbovePcieCfg blk sys).toNat < 2 ^ 32 := by
  have hbottom : (bottomMmioReserved blk).toNat < 2 ^ 32 := by
    unfold bottomMmioReserved
    rw [UInt32.toNat_toUInt64]
    exact blk.bottomMmioReservedForPrimaryRb.toNat_lt
  unfold sizeAbovePcieCfg
  split_ifs with hbase
  · exact Nat.two_pow_pos 32
  · have hend : blk.pciExpressBaseAddress + sys.pciCfgSpace ≤ bottomMmioReserved blk := by
      unfold equallyAborts at haborts
      simp only [Bool.or_eq_false_iff, Bool.and_eq_false_iff, decide_eq_false_iff_not, UInt64.not_lt] at haborts
      rcases haborts.1 with h | h
      · exact absurd h hbase
      · exact h.1
    have hsub : bottomMmioReserved blk - blk.pciExpressBaseAddress - sys.pciCfgSpace =
        bottomMmioReserved blk - (blk.pciExpressBaseAddress + sys.pciCfgSpace) := by grind
    rw [hsub, UInt64.toNat_sub_of_le _ _ hend]
    exact lt_of_le_of_lt (sub_le _ _) hbottom

theorem shares_bounds {size n : Nat} (hshare : size / n ≠ 0) :
    n ≤ size / (size / n) ∧ size / (size / n) < 2 * n := by
  have hn : 0 < n := Nat.pos_of_ne_zero fun h => hshare (by rw [h, Nat.div_zero])
  have hpos := pos_of_ne_zero hshare
  constructor
  · rw [le_div_iff_mul_le hpos]
    exact mul_div_le size n
  · rw [div_lt_iff_lt_mul hpos]
    have hlt := lt_mul_div_succ size hn
    nlinarith

theorem divide_eq_some {n d q : UInt64} (h : divide n d = some q) : d ≠ 0 ∧ q = n / d := by
  unfold divide at h
  split_ifs at h with hd
  exact ⟨hd, (some.inj h).symm⟩

theorem le_rbNumberAbove (hcount : (systemRbNumber blk).toNat < 128)
    (hsize : (sizeAbovePcieCfg blk sys).toNat < 2 ^ 32) {number : UInt8}
    (h : rbNumberAbove blk sys (sizeAbovePcieCfg blk sys / (systemRbNumber blk).toUInt64) = some number) :
    (systemRbNumber blk).toNat ≤ number.toNat := by
  unfold rbNumberAbove at h
  obtain ⟨shares, hshares, hnumber⟩ := map_eq_some_iff.mp h
  obtain ⟨hdivisor, rfl⟩ := divide_eq_some hshares
  set size := sizeAbovePcieCfg blk sys
  set n := (systemRbNumber blk).toNat
  set share := size / (systemRbNumber blk).toUInt64
  have hshare : share.toUInt32.toUInt64.toNat = size.toNat / n := by
    rw [UInt32.toNat_toUInt64, UInt64.toNat_toUInt32, UInt64.toNat_div, UInt8.toNat_toUInt64]
    exact mod_eq_of_lt (lt_of_le_of_lt (div_le_self _ _) hsize)
  obtain ⟨hle, hlt⟩ := shares_bounds fun h0 => hdivisor (UInt64.toNat_inj.mp (hshare.trans h0))
  -- At most one share is added to the whole ones, and the counter does not wrap.
  have hwhole : (size / share.toUInt32.toUInt64).toUInt8.toNat = size.toNat / (size.toNat / n) := by
    rw [UInt64.toNat_toUInt8, UInt64.toNat_div, hshare]
    exact mod_eq_of_lt (by omega)
  have hsucc : ((size / share.toUInt32.toUInt64).toUInt8 + 1).toNat = size.toNat / (size.toNat / n) + 1 := by
    rw [UInt8.toNat_add, hwhole]
    exact mod_eq_of_lt (show size.toNat / (size.toNat / n) + 1 < 256 by omega)
  dsimp only at hnumber
  have henough : n ≤ (if share / 2 < size - share * (size / share.toUInt32.toUInt64).toUInt8.toUInt64 then
      (size / share.toUInt32.toUInt64).toUInt8 + 1 else (size / share.toUInt32.toUInt64).toUInt8).toNat := by
    split_ifs <;> omega
  rw [if_neg] at hnumber
  · exact hnumber ▸ henough
  · intro h0
    rw [h0] at henough
    have hn : n ≤ 0 := henough
    omega

theorem equallyStart_counter (hsmall : belowPcieCfgIsTooSmall blk sys = true)
    (hlarge : abovePcieCfgIsTooSmall blk sys = false) (hcount : (systemRbNumber blk).toNat < 128)
    (hsize : (sizeAbovePcieCfg blk sys).toNat < 2 ^ 32) (h : equallyStart blk sys = some s) :
    (systemRbNumber blk).toNat ≤ s.rbNumberAbovePcieCfg.toNat := by
  have htotal : totalAvailableSize blk sys = sizeAbovePcieCfg blk sys := by
    unfold totalAvailableSize
    rw [hsmall, hlarge, if_neg Bool.false_ne_true, if_pos rfl]
    grind
  unfold equallyStart at h
  obtain ⟨mmioSize, hmmioSize, hs⟩ := bind_eq_some_iff.mp h
  obtain ⟨-, rfl⟩ := divide_eq_some hmmioSize
  rw [hlarge, if_neg Bool.false_ne_true, htotal] at hs
  obtain ⟨number, hnumber, rfl⟩ := map_eq_some_iff.mp hs
  exact le_rbNumberAbove hcount hsize hnumber

theorem equallyBelow4G_end (haborts : equallyAborts blk sys = false) (hout : equallyOutOfResources blk sys = false)
    (hprimary : primaryRb df ∈ rootBridges blk) (hcount : (rootBridges blk).length < 128) (rb : Nat × Nat) :
    (equallyBelow4G blk sys df).2 ≠ .outOfResources rb := by
  have hnumber := toNat_systemRbNumber (hcount.trans (by decide))
  have hlength : ((rootBridges blk).filter (· ≠ primaryRb df)).length + 1 = (systemRbNumber blk).toNat := by
    rw [hnumber, ← (primary_cons_perm hprimary).length_eq, length_cons]
  unfold equallyBelow4G
  cases hstart : equallyStart blk sys with
  | none => exact EquallyEnd.noConfusion
  | some s =>
    dsimp only
    cases hsmall : belowPcieCfgIsTooSmall blk sys with
    | false =>
      rw [Bool.and_false, if_neg Bool.false_ne_true]
      exact equallyOthers_of_large hsmall rb
    | true =>
      have hlarge : abovePcieCfgIsTooSmall blk sys = false := by
        unfold equallyOutOfResources at hout
        rw [hsmall, Bool.and_true, Bool.or_eq_false_iff] at hout
        exact hout.2
      have hs := equallyStart_counter hsmall hlarge (hnumber ▸ hcount) (toNat_sizeAbovePcieCfg_lt haborts) hstart
      have hne : s.rbNumberAbovePcieCfg ≠ 0 := fun h0 => by
        rw [h0] at hs
        exact absurd (hlength.le.trans hs) (not_succ_le_zero _)
      have hcounter : ((rootBridges blk).filter (· ≠ primaryRb df)).length ≤ (s.rbNumberAbovePcieCfg - 1).toNat := by
        rw [(toNat_pred hne).2]
        exact le_sub_one_of_lt (hlength.le.trans hs)
      rw [if_neg hne]
      simp only [decide_eq_false hne, Bool.false_and, if_neg Bool.false_ne_true]
      rw [equallyOthers_of_counter hcounter]
      exact EquallyEnd.noConfusion

/-! ## When nothing stays behind -/

def rewrittenAbove4G (blk : InputBlk) (sys : SystemInfo) : List (Nat × Nat) :=
  if equallyAborts blk sys || equallyOutOfResources blk sys then [] else (equallyAbove4G blk sys).map EquallyWindow.rb

def rewrittenBelow4G (blk : InputBlk) (sys : SystemInfo) (df : DfAnswers) : List (Nat × Nat) :=
  if equallyAborts blk sys || equallyOutOfResources blk sys then []
  else (equallyBelow4G blk sys df).1.map EquallyWindow.rb

/-- Every root bridge that is marked is recorded anew. -/
structure Rewritten (blk : InputBlk) (sys : SystemInfo) (df : DfAnswers) (left : MmioState) : Prop where
  above4G : ∀ rb, entry left.manager.allocateMmioAbove4GOnThisRb rb = true → rb ∈ rewrittenAbove4G blk sys
  below4G : ∀ rb, entry left.manager.allocateMmioBelow4GOnThisRb rb = true → rb ∈ rewrittenBelow4G blk sys df

theorem unmarked_of_fresh (hfresh : out.manager = .zero) (rb : Nat × Nat) :
    entry out.manager.allocateMmioAbove4GOnThisRb rb = false ∧
    entry out.manager.allocateMmioBelow4GOnThisRb rb = false ∧
    entry out.manager.mmioRegionAbove4G rb = .zero ∧ entry out.manager.mmioRegionBelow4G rb = .zero := by
  rw [hfresh]
  exact ⟨rfl, rfl, rfl, rfl⟩

theorem Leftover.agreeBut (h : Leftover blk df out left) (hfresh : out.manager = .zero)
    {below marked above : List (Nat × Nat)} {ps : List Nat}
    (hbelow : ∀ rb, entry left.manager.allocateMmioBelow4GOnThisRb rb = true →
      rb ∈ below ∧ (pairOf blk (rb, false)).toNat ∈ ps)
    (habove : ∀ rb, entry left.manager.allocateMmioAbove4GOnThisRb rb = true →
      rb ∈ marked ∧ rb ∈ above ∧ (pairOf blk (rb, true)).toNat ∈ ps) : AgreeBut blk below marked above ps left out := by
  have hout := unmarked_of_fresh hfresh
  have hnotBelow : ∀ rb, rb ∉ below → entry left.manager.allocateMmioBelow4GOnThisRb rb = false :=
    fun rb hrb => Bool.eq_false_iff.mpr fun hflag => hrb (hbelow rb hflag).1
  have hnotAbove : ∀ rb, rb ∉ above → entry left.manager.allocateMmioAbove4GOnThisRb rb = false :=
    fun rb hrb => Bool.eq_false_iff.mpr fun hflag => hrb (habove rb hflag).2.1
  constructor
  case flagBelow => exact fun rb hrb => (hnotBelow rb hrb).trans (hout rb).2.1.symm
  case regionBelow => exact fun rb hrb => (h.regionBelow rb (hnotBelow rb hrb)).trans (hout rb).2.2.2.symm
  case flagAbove =>
    exact fun rb hrb => (Bool.eq_false_iff.mpr fun hflag => hrb (habove rb hflag).1).trans (hout rb).1.symm
  case regionAbove => exact fun rb hrb => (h.regionAbove rb (hnotAbove rb hrb)).trans (hout rb).2.2.1.symm
  case has2nd => rw [h.second.1, hfresh]; rfl
  case pair2nd => rw [h.second.2, hfresh]; rfl
  case regs =>
    intro i p hip
    by_contra hne
    obtain ⟨hi, ⟨rb, hflag, rfl⟩ | ⟨rb, hflag, rfl⟩⟩ := h.regs i p hne
    · exact hip ⟨hi, (habove rb hflag).2.2⟩
    · exact hip ⟨hi, (hbelow rb hflag).2⟩

theorem Leftover.eq_of_unmarked (h : Leftover blk df out left) (hfresh : out.manager = .zero)
    (hbelow : ∀ rb, entry left.manager.allocateMmioBelow4GOnThisRb rb ≠ true)
    (habove : ∀ rb, entry left.manager.allocateMmioAbove4GOnThisRb rb ≠ true) : left = out :=
  (h.agreeBut hfresh (fun rb hflag => absurd hflag (hbelow rb)) fun rb hflag => absurd hflag (habove rb)).eq

theorem mem_equallyMarked (h : rb ∈ (equallyAbove4G blk sys).map EquallyWindow.rb) : rb ∈ equallyMarked blk sys := by
  have hrb := equallyAbove4G_bridges.subset h
  unfold equallyAbove4G at h
  unfold equallyMarked
  dsimp only at h
  split_ifs at h ⊢
  · exact hrb
  · exact h

theorem equallyDone_regionAbove4G (df : DfAnswers) (out : MmioState)
    (h : rb ∉ (equallyAbove4G blk sys).map EquallyWindow.rb) :
    entry (equallyDone blk sys df out).manager.mmioRegionAbove4G rb = entry out.manager.mmioRegionAbove4G rb := by
  have hplaced := foldl_keep (p := fun s : MmioState => s.manager.mmioRegionAbove4G)
    (f := setEquallyBelow4G blk sys df) (fun _ _ => rfl) (equallyBelow4G blk sys df).1 out
  have hset := foldl_of_notMem (fun s : MmioState => entry s.manager.mmioRegionAbove4G) EquallyWindow.rb
    (fun w => equallyRegionAbove4G blk w.mmioBaseAddr w.mmioSize) (setEquallyAbove4G_region blk sys df) h
  have hmark := foldl_keep (p := fun s : MmioState => s.manager.mmioRegionAbove4G) (f := markAbove4G) (fun _ _ => rfl)
    (equallyMarked blk sys)
  rw [equallyDone_manager, arrangeEquallyAbove4G_eq, hset, hmark, addEquallySecond_keeps.2.2]
  exact congrArg (entry · rb) hplaced

theorem silInitMmioEqually4_refused (df : DfAnswers)
    (h : (equallyAborts blk sys || equallyOutOfResources blk sys) = true) :
    ∃ status, ∀ s, silInitMmioEqually4 blk sys df s = some (status, s) := by
  unfold silInitMmioEqually4
  cases haborts : equallyAborts blk sys with
  | true => exact ⟨.silAborted, fun s => rfl⟩
  | false =>
    rw [haborts, Bool.false_or] at h
    rw [h]
    exact ⟨.silOutOfResources, fun s => rfl⟩

theorem Leftover.eq_iff_of_refused (hleft : Leftover blk df out left) (hfresh : out.manager = .zero)
    (h : (equallyAborts blk sys || equallyOutOfResources blk sys) = true) :
    left = out ↔ Rewritten blk sys df left := by
  have hout := unmarked_of_fresh hfresh
  constructor
  · rintro rfl
    exact ⟨fun rb hflag => absurd ((hout rb).1.symm.trans hflag) Bool.false_ne_true,
      fun rb hflag => absurd ((hout rb).2.1.symm.trans hflag) Bool.false_ne_true⟩
  · intro hrewritten
    refine hleft.eq_of_unmarked hfresh (fun rb hflag => ?_) fun rb hflag => ?_
    · have hmem := hrewritten.below4G rb hflag
      rw [rewrittenBelow4G, if_pos h] at hmem
      exact not_mem_nil hmem
    · have hmem := hrewritten.above4G rb hflag
      rw [rewrittenAbove4G, if_pos h] at hmem
      exact not_mem_nil hmem

theorem Leftover.equallyDone_eq_iff (hleft : Leftover blk df out left) (hfresh : out.manager = .zero)
    (hprimary : primaryRb df ∈ rootBridges blk)
    (hchecks : (equallyAborts blk sys || equallyOutOfResources blk sys) = false)
    (hend : (equallyBelow4G blk sys df).2 = .complete) :
    equallyDone blk sys df left = equallyDone blk sys df out ↔ Rewritten blk sys df left := by
  have habove : rewrittenAbove4G blk sys = (equallyAbove4G blk sys).map EquallyWindow.rb :=
    if_neg (ne_true_of_eq_false hchecks)
  have hbelow : rewrittenBelow4G blk sys df = (equallyBelow4G blk sys df).1.map EquallyWindow.rb :=
    if_neg (ne_true_of_eq_false hchecks)
  have hall : ∀ rb, entry left.manager.allocateMmioBelow4GOnThisRb rb = true →
      rb ∈ (equallyBelow4G blk sys df).1.map EquallyWindow.rb := by
    intro rb hflag
    rw [equallyBelow4G_bridges hend, (primary_cons_perm hprimary).mem_iff]
    exact mem_combinationOrder hprimary (hleft.below_mem rb hflag)
  constructor
  · intro heq
    refine ⟨fun rb hflag => ?_, fun rb hflag => hbelow ▸ hall rb hflag⟩
    by_contra hmem
    rw [habove] at hmem
    have hregion := equallyDone_regionAbove4G df left hmem
    rw [heq, equallyDone_regionAbove4G df out hmem, (unmarked_of_fresh hfresh rb).2.2.1] at hregion
    exact hleft.sizeAbove rb hflag (hregion ▸ rfl)
  · intro hrewritten
    refine AgreeBut.equallyDone (hleft.agreeBut hfresh (fun rb hflag => ?_) fun rb hflag => ?_)
    · grind
    · have hmem := habove ▸ hrewritten.above4G rb hflag
      obtain ⟨w, hw, rfl⟩ := mem_map.mp hmem
      exact ⟨mem_equallyMarked hmem, hmem, mem_append_right _ (mem_map.mpr ⟨w, hw, rfl⟩)⟩

/-- After an attempt by stored requests that fails, the equal distribution has the same result as without the attempt
exactly if it records every root bridge anew that the attempt has marked, or divides by zero. -/
theorem fallback_same_iff (blk : InputBlk) (sys : SystemInfo) (df : DfAnswers) (out left : MmioState)
    (status : SilStatus) (hprimary : primaryRb df ∈ rootBridges blk) (hcount : (rootBridges blk).length < 128)
    (hfresh : out.manager = .zero) (hfail : status ≠ .silPass)
    (h : silInitMmioBasedOnNvVariable4 blk sys df true out = some (status, left)) :
    silInitMmioEqually4 blk sys df left = silInitMmioEqually4 blk sys df out ↔
      silInitMmioEqually4 blk sys df out = none ∨ Rewritten blk sys df left := by
  have hleft := leftover_of_fail hfresh h hfail
  cases hchecks : equallyAborts blk sys || equallyOutOfResources blk sys with
  | true =>
    obtain ⟨refused, hrefused⟩ := silInitMmioEqually4_refused df hchecks
    rw [hrefused, hrefused, ← hleft.eq_iff_of_refused hfresh hchecks]
    simp
  | false =>
    obtain ⟨haborts, hres⟩ := Bool.or_eq_false_iff.mp hchecks
    rw [silInitMmioEqually4_of_checks haborts hres, silInitMmioEqually4_of_checks haborts hres]
    cases hend : (equallyBelow4G blk sys df).2 with
    | divisionByZero => simp
    | outOfResources rb => exact absurd hend (equallyBelow4G_end haborts hres hprimary hcount rb)
    | complete =>
      rw [← hleft.equallyDone_eq_iff hfresh hprimary hchecks hend]
      simp

def crowdedBlk : InputBlk :=
  { plainBlk 0xE0000000 with nonPrefetchableMmioSizeBelow4G := fun _ _ => ⟨0x40000000, 0xFFFFFFFF⟩ }

/-- The shortage is below 4G, and the shares above 4G are large. -/
theorem fallback_same_crowded :
    ∃ left, silInitMmioBasedOnNvVariable4 crowdedBlk (plainSystem 0x100000000) plainDf true .zero =
        some (.silOutOfResources, left) ∧
      silInitMmioEqually4 crowdedBlk (plainSystem 0x100000000) plainDf left =
        silInitMmioEqually4 crowdedBlk (plainSystem 0x100000000) plainDf .zero := by
  have hstatus : (silInitMmioBasedOnNvVariable4 crowdedBlk (plainSystem 0x100000000) plainDf true .zero).map Prod.fst =
      some .silOutOfResources := by decide +kernel
  obtain ⟨⟨-, left⟩, hresult, rfl⟩ := map_eq_some_iff.mp hstatus
  have hleft := leftover_of_fail rfl hresult (by decide)
  have habove : rewrittenAbove4G crowdedBlk (plainSystem 0x100000000) = rootBridges crowdedBlk := by decide +kernel
  have hbelow : ∀ rb ∈ combinationOrder crowdedBlk plainDf,
      rb ∈ rewrittenBelow4G crowdedBlk (plainSystem 0x100000000) plainDf := by decide +kernel
  refine ⟨left, hresult, ?_⟩
  refine (fallback_same_iff _ _ _ _ _ _ (by decide) (by decide) rfl (by decide) hresult).mpr (.inr ?_)
  exact ⟨fun rb hflag => habove ▸ hleft.above_mem rb hflag, fun rb hflag => hbelow rb (hleft.below_mem rb hflag)⟩

def oneGBlk : InputBlk := { plainBlk 0xE0000000 with mmioAbove4GLimit := 0x13FFFFFFF }

/-- The 1G is enough for one root bridge by its request, but not for four equal shares. -/
theorem failed_attempt_stays :
    ∃ left out₁ out₂, silInitMmioBasedOnNvVariable4 oneGBlk (plainSystem 0x100000000) plainDf true .zero =
        some (.silOutOfResources, left) ∧
      silInitMmioEqually4 oneGBlk (plainSystem 0x100000000) plainDf left = some (.silPass, out₁) ∧
      silInitMmioEqually4 oneGBlk (plainSystem 0x100000000) plainDf .zero = some (.silPass, out₂) ∧
      (out₁.manager.mmioRegionAbove4G 0 0).sizeNonPci = 0x20200000 ∧
      (out₂.manager.mmioRegionAbove4G 0 0).sizeNonPci = 0 ∧
      out₁.regs 0 1 ≠ out₂.regs 0 1 := by
  have hruns : (silInitMmioBasedOnNvVariable4 oneGBlk (plainSystem 0x100000000) plainDf true .zero).bind (fun r =>
      (silInitMmioEqually4 oneGBlk (plainSystem 0x100000000) plainDf r.2).bind fun r₁ =>
        (silInitMmioEqually4 oneGBlk (plainSystem 0x100000000) plainDf .zero).map fun r₂ =>
          ([r.1, r₁.1, r₂.1], (r₁.2.manager.mmioRegionAbove4G 0 0).sizeNonPci,
            (r₂.2.manager.mmioRegionAbove4G 0 0).sizeNonPci, decide (r₁.2.regs 0 1 = r₂.2.regs 0 1))) =
      some ([.silOutOfResources, .silPass, .silPass], 0x20200000, 0, false) := by decide +kernel
  obtain ⟨⟨status, left⟩, hleft, hruns⟩ := bind_eq_some_iff.mp hruns
  obtain ⟨⟨status₁, out₁⟩, hout₁, hruns⟩ := bind_eq_some_iff.mp hruns
  obtain ⟨⟨status₂, out₂⟩, hout₂, hvalues⟩ := map_eq_some_iff.mp hruns
  simp only [Prod.mk.injEq, cons.injEq, decide_eq_false_iff_not, and_true] at hvalues
  obtain ⟨⟨rfl, rfl, rfl⟩, hsize₁, hsize₂, hregs⟩ := hvalues
  exact ⟨left, out₁, out₂, hleft, hout₁, hout₂, hsize₁, hsize₂, hregs⟩

end OpenSil.RcMgr
