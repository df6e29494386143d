import OpenSil.Lib.Tiling
import OpenSil.RcMgr.Equally

/-! # Equal shares do not meet -/

namespace OpenSil.RcMgr

open Word Tiling List Nat Option UInt64 EquallyWindow

def EquallyWindow.start (w : EquallyWindow) : Nat := w.mmioBaseAddr.toNat

def EquallyWindow.size (w : EquallyWindow) : Nat := w.mmioSize.toNat

def CutDown (hi : Nat) (ws : List EquallyWindow) (lo : Nat) : Prop :=
  Tiles EquallyWindow.start EquallyWindow.size lo ws.reverse hi

theorem CutDown.nil (hi : Nat) : CutDown hi [] hi := rfl

variable {ws : List EquallyWindow} {hi lo : Nat} {w : EquallyWindow}

theorem CutDown.cons (hw : w.start + w.size = hi) (h : CutDown w.start ws lo) : CutDown hi (w :: ws) lo := by
  unfold CutDown
  rw [reverse_cons, ← hw]
  exact Tiles.concat h rfl

theorem CutDown.of_cons (h : CutDown hi (w :: ws) lo) : w.start + w.size = hi ∧ CutDown w.start ws lo := by
  unfold CutDown at h
  rw [reverse_cons] at h
  exact ⟨h.of_concat.2, h.of_concat.1⟩

/-! ## The shares -/

section
variable {number : UInt64}

theorem equallyShare_mul_le (size number : UInt64) : (equallyShare size number).toNat * number.toNat ≤ size.toNat := by
  unfold equallyShare
  rw [UInt64.toNat_and, UInt64.toNat_div]
  exact (Nat.mul_le_mul_right _ Nat.and_le_left).trans (Nat.div_mul_le_self _ _)

theorem toNat_equallyFirst (size : UInt64) (h : number ≠ 0) :
    (equallyFirst size number).toNat + (number.toNat - 1) * (equallyShare size number).toNat = size.toNat := by
  have hle := equallyShare_mul_le size number
  have hpos : 0 < number.toNat := pos_of_ne_zero fun h0 => h (UInt64.toNat_inj.mp h0)
  have hone : (number - 1).toNat = number.toNat - 1 :=
    toNat_sub_eq hpos
  have hlt := size.toNat_lt
  have hless : (equallyShare size number).toNat * (number.toNat - 1) ≤ size.toNat :=
    (mul_le_mul_left _ (sub_le _ _)).trans hle
  have hmul : (equallyShare size number * (number - 1)).toNat = (equallyShare size number).toNat * (number.toNat - 1) := by
    rw [UInt64.toNat_mul, hone]
    exact mod_eq_of_lt (by omega)
  unfold equallyFirst
  rw [toNat_sub_eq (by rw [hmul]; exact hless), hmul, mul_comm (number.toNat - 1)]
  omega

theorem equallyShare_le_first (size : UInt64) (h : number ≠ 0) :
    (equallyShare size number).toNat ≤ (equallyFirst size number).toNat := by
  have hmul := equallyShare_mul_le size number
  have hsum := toNat_equallyFirst size h
  have hpos : 0 < number.toNat := pos_of_ne_zero fun h0 => h (UInt64.toNat_inj.mp h0)
  obtain ⟨n, hn⟩ : ∃ n, number.toNat = n + 1 := ⟨number.toNat - 1, by omega⟩
  rw [hn, mul_succ, mul_comm] at hmul
  rw [hn, Nat.add_sub_cancel] at hsum
  omega

theorem dvd_equallyShare (size number : UInt64) : 2 ^ 16 ∣ (equallyShare size number).toNat := by
  have hmask : (0xFFFFFF : UInt64).toNat + 1 = 2 ^ 24 := rfl
  have hvalue : (equallyShare size number).toNat = _ := toNat_alignDown (size / number) hmask
  rw [hvalue]
  exact (pow_dvd_pow 2 (by decide)).trans (dvd_sub_mod _)

end

/-- The walk gives every root bridge a window, and the windows fill the addresses from `hi` down to `lo`. -/
structure FillsDown (result : List EquallyWindow × EquallyEnd) (rbs : List (Nat × Nat)) (sizes : List UInt64)
    (hi lo : Nat) : Prop where
  complete : result.2 = .complete
  cut : CutDown hi result.1 lo
  bridges : result.1.map EquallyWindow.rb = rbs
  sizes : result.1.map EquallyWindow.mmioSize = sizes

variable {result : List EquallyWindow × EquallyEnd} {rbs : List (Nat × Nat)} {sizes : List UInt64}

theorem FillsDown.cons
    (hw : w.start + w.size = hi) (h : FillsDown result rbs sizes w.start lo) :
    FillsDown (w :: result.1, result.2) (w.rb :: rbs) (w.mmioSize :: sizes) hi lo where
  complete := h.complete
  cut := h.cut.cons hw
  bridges := congrArg _ h.bridges
  sizes := congrArg _ h.sizes

def sharesOf (size number : UInt64) : List UInt64 :=
  equallyFirst size number :: replicate (number.toNat - 1) (equallyShare size number)

/-! ## One turn -/

theorem EquallyWalk.window_cut {s : EquallyWalk} (rb : Nat × Nat)
    (h : s.mmioSizeRemained.toNat ≤ s.mmioBaseAddr.toNat) :
    (s.window rb).start + (s.window rb).size = s.mmioBaseAddr.toNat ∧
      s.next.mmioBaseAddr.toNat = (s.window rb).start := by
  have hsub : (s.mmioBaseAddr - s.mmioSizeRemained).toNat = s.mmioBaseAddr.toNat - s.mmioSizeRemained.toNat :=
    toNat_sub_eq h
  refine ⟨?_, rfl⟩
  show (s.mmioBaseAddr - s.mmioSizeRemained).toNat + s.mmioSizeRemained.toNat = _
  omega

theorem EquallyWalk.first_cut {number count : UInt8} {n size top : UInt64} {lo : Nat} (rb : Nat × Nat) (hn : n ≠ 0)
    (htop : top.toNat = lo + size.toNat) :
    let s : EquallyWalk := ⟨number, count, equallyShare size n, equallyFirst size n, top⟩
    (s.window rb).start + (s.window rb).size = top.toNat ∧
      s.next.mmioBaseAddr.toNat = lo + (n.toNat - 1) * (equallyShare size n).toNat := by
  intro s
  have hfirst : s.mmioSizeRemained.toNat + _ = _ := toNat_equallyFirst size hn
  obtain ⟨hwindow, hnext⟩ := s.window_cut rb (show _ ≤ top.toNat by omega)
  have hsize : (s.window rb).start + s.mmioSizeRemained.toNat = top.toNat := hwindow
  exact ⟨hwindow, by omega⟩

theorem EquallyWalk.toNat_next (s : EquallyWalk) (h : s.rbNumberMmioHasInitialized.toNat < 255) :
    s.next.rbNumberMmioHasInitialized.toNat = s.rbNumberMmioHasInitialized.toNat + 1 := by
  show (s.rbNumberMmioHasInitialized + 1).toNat = _
  rw [UInt8.toNat_add]
  exact mod_eq_of_lt (by simp; omega)

variable {blk : InputBlk} {sys : SystemInfo} {df : DfAnswers} {copy : UInt8} {rbs : List (Nat × Nat)} {s : EquallyWalk}

open EquallyWalk

theorem equallyOthers_shares (hbelow : belowPcieCfgIsTooSmall blk sys = false) (habove : s.rbNumberAbovePcieCfg = 0)
    (hcopy : copy.toNat < s.rbNumberMmioHasInitialized.toNat)
    (hlen : s.rbNumberMmioHasInitialized.toNat + rbs.length < 256)
    (hshare : s.rbNumberMmioHasInitialized.toNat = copy.toNat + 1 ∨ s.mmioSizeRemained = s.mmioSize16MAligned)
    (hbase : s.mmioBaseAddr.toNat = lo + rbs.length * s.mmioSize16MAligned.toNat) :
    FillsDown (equallyOthers blk sys copy rbs s) rbs (replicate rbs.length s.mmioSize16MAligned) s.mmioBaseAddr.toNat
      lo := by
  induction rbs generalizing s with
  | nil =>
    have hlo : lo = s.mmioBaseAddr.toNat := by simpa using hbase.symm
    exact ⟨rfl, hlo, rfl, rfl⟩
  | cons rb rbs ih =>
    rw [length_cons] at hlen hbase
    have hne : copy ≠ s.rbNumberMmioHasInitialized := fun h => by rw [h] at hcopy; omega
    obtain ⟨s', hs', hremained, hsame⟩ : ∃ s', s.switchSide blk sys copy = some s' ∧
        s'.mmioSizeRemained = s.mmioSize16MAligned ∧ s' = { s with mmioSizeRemained := s'.mmioSizeRemained } := by
      unfold switchSide
      simp only [hne, if_false, map_some]
      split_ifs with h
      · exact ⟨_, rfl, rfl, rfl⟩
      · exact ⟨s, rfl, hshare.resolve_left h, rfl⟩
    have hs'base : s'.mmioBaseAddr = s.mmioBaseAddr := by rw [hsame]
    have hs'share : s'.mmioSize16MAligned = s.mmioSize16MAligned := by rw [hsame]
    have hs'count : s'.rbNumberMmioHasInitialized = s.rbNumberMmioHasInitialized := by rw [hsame]
    have hs'above : s'.rbNumberAbovePcieCfg = 0 := by rw [hsame]; exact habove
    have hcut : s'.mmioSizeRemained.toNat ≤ s'.mmioBaseAddr.toNat := by
      rw [hremained, hs'base, hbase, add_one_mul]
      omega
    obtain ⟨hwindow, hnext⟩ := s'.window_cut rb hcut
    have hcount := s'.toNat_next (by rw [hs'count]; omega)
    have hsize : (s'.window rb).size = s.mmioSize16MAligned.toNat := congrArg toNat hremained
    have hbase' : s'.next.mmioBaseAddr.toNat = lo + rbs.length * s'.next.mmioSize16MAligned.toNat := by
      rw [hnext]
      show _ = lo + rbs.length * s'.mmioSize16MAligned.toNat
      rw [hs'share]
      rw [hs'base, hbase, add_one_mul] at hwindow
      omega
    have hrest : FillsDown (equallyOthers blk sys copy rbs s'.next) rbs (replicate rbs.length s'.mmioSize16MAligned)
        (s'.window rb).start lo :=
      ih hs'above (by rw [hcount, hs'count]; omega) (by rw [hcount, hs'count]; omega)
        (.inr (hremained.trans hs'share.symm)) hbase'
    rw [equallyOthers]
    simp only [habove, ne_eq, not_true_eq_false, if_false, hbelow, Bool.false_eq_true, hs']
    have hcons := hrest.cons (hs'base ▸ hwindow)
    rwa [show (s'.window rb).mmioSize = _ from hremained, hs'share, ← replicate_succ] at hcons

theorem toNat_left {n k : UInt8} (h : k.toNat < n.toNat) : (n.toUInt64 - k.toUInt64).toNat = n.toNat - k.toNat := by
  rw [toNat_sub_eq (by simpa using h.le)]
  simp

theorem equallyOthers_below (hbelow : belowPcieCfgIsTooSmall blk sys = false) (habove : s.rbNumberAbovePcieCfg = 0)
    (hcopy : copy = s.rbNumberMmioHasInitialized) (hne : rbs ≠ [])
    (hlen : s.rbNumberMmioHasInitialized.toNat + rbs.length = (systemRbNumber blk).toNat)
    (htop : (topBelowPcieCfg blk).toNat = lo + (sizeBelowPcieCfg blk sys).toNat) :
    FillsDown (equallyOthers blk sys copy rbs s) rbs
      (sharesOf (sizeBelowPcieCfg blk sys) ((systemRbNumber blk).toUInt64 - s.rbNumberMmioHasInitialized.toUInt64))
      (topBelowPcieCfg blk).toNat lo := by
  cases rbs with
  | nil => exact absurd rfl hne
  | cons rb rbs =>
    rw [length_cons] at hlen
    have hmax := (systemRbNumber blk).toNat_lt
    let left := (systemRbNumber blk).toUInt64 - s.rbNumberMmioHasInitialized.toUInt64
    have hleft : left.toNat = rbs.length + 1 := by
      show ((systemRbNumber blk).toUInt64 - s.rbNumberMmioHasInitialized.toUInt64).toNat = _
      rw [toNat_left (by omega)]
      omega
    have hleft0 : left ≠ 0 := fun h => by
      rw [h] at hleft
      exact absurd hleft (by simp)
    let s' : EquallyWalk :=
      { s with
        mmioSize16MAligned := equallyShare (sizeBelowPcieCfg blk sys) left
        mmioSizeRemained := equallyFirst (sizeBelowPcieCfg blk sys) left
        mmioBaseAddr := topBelowPcieCfg blk }
    have hs' : s.switchSide blk sys copy = some s' := by
      unfold switchSide divide
      simp only [hcopy, if_true]
      rw [if_neg hleft0, map_some, map_some, if_neg]
      · rfl
      · simp
    obtain ⟨hwindow, hbase⟩ : _ ∧ s'.next.mmioBaseAddr.toNat = _ := first_cut rb hleft0 htop
    rw [hleft, Nat.add_sub_cancel] at hbase
    have hcount : s'.next.rbNumberMmioHasInitialized.toNat = s.rbNumberMmioHasInitialized.toNat + 1 :=
      s'.toNat_next (by show s.rbNumberMmioHasInitialized.toNat < 255; omega)
    have hrest : FillsDown (equallyOthers blk sys copy rbs s'.next) rbs (replicate rbs.length s'.mmioSize16MAligned)
        (s'.window rb).start lo :=
      equallyOthers_shares hbelow habove (by rw [hcount, hcopy]; omega) (by rw [hcount]; omega)
        (.inl (by rw [hcount, hcopy])) hbase
    rw [equallyOthers]
    simp only [habove, ne_eq, not_true_eq_false, if_false, hbelow, Bool.false_eq_true, hs']
    unfold sharesOf
    rw [show left.toNat - 1 = rbs.length by omega]
    exact hrest.cons hwindow

/-- The first windows fill the upper side from `hi` down, perhaps not to its end `lo`, and the others all of the lower
side. -/
structure FillsSides (blk : InputBlk) (sys : SystemInfo) (copy : UInt8) (sizes : List UInt64)
    (as bs : List EquallyWindow) (hi lo : Nat) : Prop where
  upper : ∃ mid, lo ≤ mid ∧ CutDown hi as mid
  sizes : as.map EquallyWindow.mmioSize = sizes
  lower : bs = [] ∨ belowPcieCfgIsTooSmall blk sys = false ∧ CutDown (topBelowPcieCfg blk).toNat bs sys.tom.toNat ∧
    bs.map EquallyWindow.mmioSize = sharesOf (sizeBelowPcieCfg blk sys) ((systemRbNumber blk).toUInt64 - copy.toUInt64)

variable {hi lo : Nat}

theorem FillsSides.cons {as bs : List EquallyWindow} (hw : w.start + w.size = hi)
    (h : FillsSides blk sys copy sizes as bs w.start lo) :
    FillsSides blk sys copy (w.mmioSize :: sizes) (w :: as) bs hi lo := by
  obtain ⟨mid, hmid, has⟩ := h.upper
  exact ⟨⟨mid, hmid, has.cons hw⟩, congrArg _ h.sizes, h.lower⟩

structure WalksDown (blk : InputBlk) (sys : SystemInfo) (copy : UInt8) (result : List EquallyWindow × EquallyEnd)
    (rbs : List (Nat × Nat)) (sizes : List UInt64) (hi lo : Nat) : Prop where
  fills : result.2 = .complete → ∃ as bs, result.1 = as ++ bs ∧ FillsSides blk sys copy sizes as bs hi lo
  bridges : result.2 = .complete → result.1.map EquallyWindow.rb = rbs

theorem WalksDown.cons (hw : w.start + w.size = hi)
    (h : WalksDown blk sys copy result rbs sizes w.start lo) :
    WalksDown blk sys copy (w :: result.1, result.2) (w.rb :: rbs) (w.mmioSize :: sizes) hi lo where
  fills := fun hend => by
    obtain ⟨as, bs, hsplit, hfills⟩ := h.fills hend
    exact ⟨w :: as, bs, congrArg _ hsplit, hfills.cons hw⟩
  bridges := fun hend => congrArg _ (h.bridges hend)

theorem equallyOthers_above (hpos : 1 ≤ s.rbNumberMmioHasInitialized.toNat)
    (hcopy : s.rbNumberMmioHasInitialized.toNat + s.rbNumberAbovePcieCfg.toNat = copy.toNat)
    (hlen : s.rbNumberMmioHasInitialized.toNat + rbs.length = (systemRbNumber blk).toNat)
    (hshare : s.rbNumberMmioHasInitialized.toNat = 1 ∨ s.mmioSizeRemained = s.mmioSize16MAligned)
    (hbase : s.mmioBaseAddr.toNat = lo + s.rbNumberAbovePcieCfg.toNat * s.mmioSize16MAligned.toNat)
    (htop : (topBelowPcieCfg blk).toNat = sys.tom.toNat + (sizeBelowPcieCfg blk sys).toNat) :
    WalksDown blk sys copy (equallyOthers blk sys copy rbs s) rbs
      (replicate (min s.rbNumberAbovePcieCfg.toNat rbs.length) s.mmioSize16MAligned) s.mmioBaseAddr.toNat lo := by
  induction rbs generalizing s with
  | nil => exact ⟨fun _ => ⟨[], [], rfl, ⟨_, by omega, .nil _⟩, by simp, .inl rfl⟩, fun _ => rfl⟩
  | cons rb rbs ih =>
    rw [length_cons] at hlen
    have hmax := (systemRbNumber blk).toNat_lt
    by_cases habove : s.rbNumberAbovePcieCfg = 0
    · have hcopy' : copy = s.rbNumberMmioHasInitialized := by
        apply UInt8.toNat_inj.mp
        rw [habove] at hcopy
        simpa using hcopy.symm
      cases hbelow : belowPcieCfgIsTooSmall blk sys with
      | true =>
        have hend : (equallyOthers blk sys copy (rb :: rbs) s).2 = .outOfResources rb := by
          simp [equallyOthers, habove, hbelow]
        constructor <;> rw [hend] <;> simp
      | false =>
        have hfills := equallyOthers_below hbelow habove hcopy' (cons_ne_nil rb rbs)
          (by rw [length_cons]; omega) htop
        exact ⟨fun _ => ⟨[], _, rfl, ⟨s.mmioBaseAddr.toNat, by omega, .nil _⟩, by simp [habove],
          .inr ⟨hbelow, hfills.cut, hcopy' ▸ hfills.sizes⟩⟩, fun _ => hfills.bridges⟩
    · obtain ⟨hone, hnumber⟩ := toNat_pred habove
      -- Whether or not it is the first one behind the primary root bridge, it gets a plain share.
      let s' := { s with mmioSizeRemained := s.mmioSize16MAligned }
      have hs' : (if s.rbNumberMmioHasInitialized = 1 then s' else s) = s' := by
        split_ifs with h
        · rfl
        · have hsame := hshare.resolve_left fun h1 => h (UInt8.toNat_inj.mp h1)
          exact congrArg (fun remained => { s with mmioSizeRemained := remained }) hsame
      have hmul : s.rbNumberAbovePcieCfg.toNat * s.mmioSize16MAligned.toNat =
          (s.rbNumberAbovePcieCfg.toNat - 1) * s.mmioSize16MAligned.toNat + s.mmioSize16MAligned.toNat := by
        rw [← succ_mul]
        congr 1
        omega
      have hcut : s'.mmioSizeRemained.toNat ≤ s'.mmioBaseAddr.toNat := by
        show s.mmioSize16MAligned.toNat ≤ s.mmioBaseAddr.toNat
        omega
      obtain ⟨hwindow, hnext⟩ := s'.window_cut rb hcut
      have hcount : s'.next.rbNumberMmioHasInitialized.toNat = s.rbNumberMmioHasInitialized.toNat + 1 :=
        s'.toNat_next (by show s.rbNumberMmioHasInitialized.toNat < 255; omega)
      let s'' := { s'.next with rbNumberAbovePcieCfg := s.rbNumberAbovePcieCfg - 1 }
      have hbase' : s''.mmioBaseAddr.toNat = lo + (s.rbNumberAbovePcieCfg - 1).toNat * s.mmioSize16MAligned.toNat := by
        have hwindow : (s'.window rb).start + s.mmioSize16MAligned.toNat = s.mmioBaseAddr.toNat := hwindow
        have hnext : s''.mmioBaseAddr.toNat = (s'.window rb).start := hnext
        rw [hnumber]
        omega
      have hcopy' : s'.next.rbNumberMmioHasInitialized.toNat + (s.rbNumberAbovePcieCfg - 1).toNat = copy.toNat := by omega
      have hrest : WalksDown blk sys copy (equallyOthers blk sys copy rbs s'') rbs
          (replicate (min (s.rbNumberAbovePcieCfg - 1).toNat rbs.length) s.mmioSize16MAligned) (s'.window rb).start lo :=
        ih (show 1 ≤ s'.next.rbNumberMmioHasInitialized.toNat by omega) hcopy'
          (show s'.next.rbNumberMmioHasInitialized.toNat + rbs.length = _ by omega) (.inr rfl) hbase'
      rw [equallyOthers]
      simp only [habove, ne_eq, not_false_eq_true, if_true]
      rw [hs', length_cons, show min s.rbNumberAbovePcieCfg.toNat (rbs.length + 1) =
        min (s.rbNumberAbovePcieCfg - 1).toNat rbs.length + 1 by omega, replicate_succ]
      exact hrest.cons hwindow

/-! ## The whole walk -/

theorem rbNumberAbove_ne_zero {mmioSize : UInt64} {number : UInt8} (h : rbNumberAbove blk sys mmioSize = some number) :
    number ≠ 0 := by
  have hone : ∀ n : UInt8, (if n = 0 then n + 1 else n) ≠ 0 := by
    intro n
    split_ifs with h0
    · rw [h0]
      decide
    · exact h0
  obtain ⟨shares, -, rfl⟩ := map_eq_some_iff.mp h
  exact hone _

/-- The number of root bridges that get MMIO above the configuration space. -/
def rbNumberAbovePcieCfg (blk : InputBlk) (sys : SystemInfo) : UInt8 :=
  if abovePcieCfgIsTooSmall blk sys then 0
  else (rbNumberAbove blk sys (totalAvailableSize blk sys / (systemRbNumber blk).toUInt64)).getD 0

theorem below_of_abovePcieCfgIsTooSmall (hout : equallyOutOfResources blk sys = false)
    (habove : abovePcieCfgIsTooSmall blk sys = true) : belowPcieCfgIsTooSmall blk sys = false := by
  simp only [equallyOutOfResources, habove, Bool.true_and, Bool.or_eq_false_iff] at hout
  exact hout.2

theorem equallyStart_cases (hout : equallyOutOfResources blk sys = false) (h : equallyStart blk sys = some s) :
    (abovePcieCfgIsTooSmall blk sys = true ∧ belowPcieCfgIsTooSmall blk sys = false ∧ rbNumberAbovePcieCfg blk sys = 0 ∧
      s = ⟨0, 0, equallyShare (sizeBelowPcieCfg blk sys) (systemRbNumber blk).toUInt64,
        equallyFirst (sizeBelowPcieCfg blk sys) (systemRbNumber blk).toUInt64, topBelowPcieCfg blk⟩) ∨
    (abovePcieCfgIsTooSmall blk sys = false ∧ ∃ number : UInt8, number ≠ 0 ∧ rbNumberAbovePcieCfg blk sys = number ∧
      s = ⟨number, 0, equallyShare (sizeAbovePcieCfg blk sys) number.toUInt64,
        equallyFirst (sizeAbovePcieCfg blk sys) number.toUInt64, bottomMmioReserved blk⟩) := by
  obtain ⟨mmioSize, hsize, hs⟩ := bind_eq_some_iff.mp h
  cases habove : abovePcieCfgIsTooSmall blk sys with
  | true =>
    have hbelow := below_of_abovePcieCfgIsTooSmall hout habove
    have htotal : totalAvailableSize blk sys = sizeBelowPcieCfg blk sys := by
      unfold totalAvailableSize
      rw [habove, hbelow, if_pos rfl, if_neg Bool.false_ne_true, UInt64.sub_zero, UInt64.add_comm, UInt64.add_sub_cancel]
    left
    refine ⟨rfl, hbelow, if_pos habove, ?_⟩
    rw [if_pos habove] at hs
    unfold divide at hsize
    split_ifs at hsize
    obtain rfl := some.inj hsize
    rw [htotal] at hs
    exact (some.inj hs).symm
  | false =>
    right
    rw [if_neg (by rw [habove]; simp)] at hs
    obtain ⟨number, hnumber, rfl⟩ := map_eq_some_iff.mp hs
    refine ⟨rfl, number, rbNumberAbove_ne_zero hnumber, ?_, rfl⟩
    unfold divide at hsize
    split_ifs at hsize
    obtain rfl := some.inj hsize
    unfold rbNumberAbovePcieCfg
    rw [if_neg (by rw [habove]; simp), hnumber]
    rfl

structure Sides (blk : InputBlk) (sys : SystemInfo) : Prop where
  below : (topBelowPcieCfg blk).toNat = sys.tom.toNat + (sizeBelowPcieCfg blk sys).toNat
  above : (bottomMmioReserved blk).toNat = (mmioStart blk sys .above).toNat + (sizeAbovePcieCfg blk sys).toNat
  order : (topBelowPcieCfg blk).toNat ≤ (mmioStart blk sys .above).toNat
  lower : (topBelowPcieCfg blk).toNat = min blk.pciExpressBaseAddress.toNat (bottomMmioReserved blk).toNat
  upper : (mmioStart blk sys .above).toNat = blk.pciExpressBaseAddress.toNat + sys.pciCfgSpace.toNat ∨
    sizeAbovePcieCfg blk sys = 0 ∧ (topBelowPcieCfg blk).toNat = (bottomMmioReserved blk).toNat

theorem sides_of_checks (hchecks : equallyAborts blk sys = false)
    (htom : 0x100000000 ≤ blk.pciExpressBaseAddress → sys.tom.toNat ≤ blk.bottomMmioReservedForPrimaryRb.toNat) :
    Sides blk sys := by
  have hbottom : (bottomMmioReserved blk).toNat = blk.bottomMmioReservedForPrimaryRb.toNat := by
    simp [bottomMmioReserved]
  have hlt := blk.bottomMmioReservedForPrimaryRb.toNat_lt
  simp only [equallyAborts, Bool.or_eq_false_iff, Bool.and_eq_false_iff, decide_eq_false_iff_not] at hchecks
  by_cases hp : 0x100000000 ≤ blk.pciExpressBaseAddress
  · have htom := htom hp
    have hupper : mmioStart blk sys .above = bottomMmioReserved blk := if_pos hp
    constructor
    · unfold sizeBelowPcieCfg topBelowPcieCfg
      rw [if_pos hp, toNat_sub_eq (by omega)]
      omega
    · unfold sizeAbovePcieCfg
      rw [if_pos hp, hupper]
      rfl
    · unfold topBelowPcieCfg
      rw [if_pos hp, hupper]
    · unfold topBelowPcieCfg
      have hp' : 0x100000000 ≤ blk.pciExpressBaseAddress.toNat := by rwa [le_iff_toNat_le] at hp
      rw [if_pos hp]
      omega
    · right
      unfold sizeAbovePcieCfg topBelowPcieCfg
      rw [if_pos hp, if_pos hp]
      exact ⟨rfl, rfl⟩
  · have hlow : blk.pciExpressBaseAddress.toNat < 0x100000000 := by
      rw [le_iff_toNat_le] at hp
      exact Nat.lt_of_not_le hp
    obtain ⟨hend, hstart⟩ := hchecks.1.resolve_left (by simpa [lt_iff_toNat_lt] using hlow)
    have hspace := pciCfgSpace_bounds sys
    have hupper : mmioStart blk sys .above = blk.pciExpressBaseAddress + sys.pciCfgSpace := if_neg hp
    have hsum : (blk.pciExpressBaseAddress + sys.pciCfgSpace).toNat =
        blk.pciExpressBaseAddress.toNat + sys.pciCfgSpace.toNat := toNat_add_eq (by omega)
    rw [lt_iff_toNat_lt, hsum] at hend
    rw [lt_iff_toNat_lt] at hstart
    have hsub : (bottomMmioReserved blk - blk.pciExpressBaseAddress).toNat =
        (bottomMmioReserved blk).toNat - blk.pciExpressBaseAddress.toNat :=
      toNat_sub_eq (by omega)
    constructor
    · unfold sizeBelowPcieCfg topBelowPcieCfg
      rw [if_neg hp, toNat_sub_eq (by omega)]
      omega
    · unfold sizeAbovePcieCfg
      rw [if_neg hp, hupper, toNat_sub_eq (by omega)]
      omega
    · unfold topBelowPcieCfg
      rw [if_neg hp, hupper]
      omega
    · unfold topBelowPcieCfg
      rw [if_neg hp]
      omega
    · rw [hupper]
      exact .inl hsum

theorem toNat_systemRbNumber (hcount : (rootBridges blk).length < 256) :
    (systemRbNumber blk).toNat = (rootBridges blk).length := by
  have hlength : (rootBridges blk).length = blk.socketNumber.toNat * blk.rbsPerSocket.toNat := by simp [rootBridges]
  unfold systemRbNumber
  rw [UInt8.toNat_mul, mul_comm, ← hlength]
  exact mod_eq_of_lt hcount

theorem primary_cons_perm (hprimary : primaryRb df ∈ rootBridges blk) :
    (primaryRb df :: (rootBridges blk).filter (· ≠ primaryRb df)).Perm (rootBridges blk) := by
  have hnodup := nodup_rootBridges blk
  rw [perm_ext_iff_of_nodup (nodup_cons.mpr ⟨by simp, hnodup.filter _⟩) hnodup]
  intro rb
  by_cases h : rb = primaryRb df
  · simp [h, hprimary]
  · simp [h]

section
variable (rb : Nat × Nat)

theorem equallyBelow4G_lower (hsides : Sides blk sys) (hbelow : belowPcieCfgIsTooSmall blk sys = false)
    (hlength : 1 + rbs.length = (systemRbNumber blk).toNat) :
    let s : EquallyWalk := ⟨0, 0, equallyShare (sizeBelowPcieCfg blk sys) (systemRbNumber blk).toUInt64,
      equallyFirst (sizeBelowPcieCfg blk sys) (systemRbNumber blk).toUInt64, topBelowPcieCfg blk⟩
    let rest := equallyOthers blk sys 0 rbs { s.next with rbNumberAbovePcieCfg := 0 }
    FillsDown (s.window rb :: rest.1, rest.2) (rb :: rbs)
      (sharesOf (sizeBelowPcieCfg blk sys) (systemRbNumber blk).toUInt64) (topBelowPcieCfg blk).toNat sys.tom.toNat := by
  intro s rest
  have hmax := (systemRbNumber blk).toNat_lt
  have hnumber : (systemRbNumber blk).toUInt64.toNat = rbs.length + 1 := by
    rw [UInt8.toNat_toUInt64]
    omega
  have hne : (systemRbNumber blk).toUInt64 ≠ 0 := fun h => by
    rw [h] at hnumber
    exact absurd hnumber (by simp)
  obtain ⟨hwindow, hbase⟩ := first_cut rb hne hsides.below
  rw [hnumber, Nat.add_sub_cancel] at hbase
  have hrest : FillsDown rest rbs (replicate rbs.length s.mmioSize16MAligned) (s.window rb).start sys.tom.toNat :=
    equallyOthers_shares hbelow rfl (show (0 : UInt8).toNat < (0 + 1 : UInt8).toNat by decide)
      (show (0 + 1 : UInt8).toNat + rbs.length < 256 by simp; omega) (.inl rfl) hbase
  unfold sharesOf
  rw [hnumber, Nat.add_sub_cancel]
  exact hrest.cons hwindow

theorem equallyBelow4G_upper {number : UInt8} (hsides : Sides blk sys) (hne : number ≠ 0)
    (hlength : 1 + rbs.length = (systemRbNumber blk).toNat) :
    let s : EquallyWalk := ⟨number, 0, equallyShare (sizeAbovePcieCfg blk sys) number.toUInt64,
      equallyFirst (sizeAbovePcieCfg blk sys) number.toUInt64, bottomMmioReserved blk⟩
    let rest := equallyOthers blk sys number rbs { s.next with rbNumberAbovePcieCfg := number - 1 }
    (s.window rb).start + (s.window rb).size = (bottomMmioReserved blk).toNat ∧
      WalksDown blk sys number rest rbs (replicate (min (number.toNat - 1) rbs.length) s.mmioSize16MAligned)
        (s.window rb).start (mmioStart blk sys .above).toNat := by
  intro s rest
  obtain ⟨hone, hless⟩ := toNat_pred hne
  have hne' : number.toUInt64 ≠ 0 := fun h => by
    have h0 := congrArg toNat h
    rw [UInt8.toNat_toUInt64] at h0
    exact absurd h0 (show number.toNat ≠ 0 by omega)
  obtain ⟨hwindow, hbase⟩ := first_cut rb hne' hsides.above
  rw [UInt8.toNat_toUInt64, ← hless] at hbase
  have hcopy : (0 + 1 : UInt8).toNat + (number - 1).toNat = number.toNat := by
    rw [hless]
    simp
    omega
  have hrest : WalksDown blk sys number rest rbs (replicate (min (number - 1).toNat rbs.length) s.mmioSize16MAligned)
      (s.window rb).start (mmioStart blk sys .above).toNat :=
    equallyOthers_above (show 1 ≤ (0 + 1 : UInt8).toNat by decide) hcopy
      (show (0 + 1 : UInt8).toNat + rbs.length = _ from hlength) (.inl rfl) hbase hsides.below
  exact ⟨hwindow, hless ▸ hrest⟩

end

/-- The sizes of the windows above the configuration space. -/
def sharesAbovePcieCfg (blk : InputBlk) (sys : SystemInfo) : List UInt64 :=
  let number := rbNumberAbovePcieCfg blk sys
  if number = 0 then []
  else equallyFirst (sizeAbovePcieCfg blk sys) number.toUInt64 ::
    replicate (min number.toNat (systemRbNumber blk).toNat - 1) (equallyShare (sizeAbovePcieCfg blk sys) number.toUInt64)

theorem equallyBelow4G_spec (hsides : Sides blk sys) (hout : equallyOutOfResources blk sys = false)
    (hcount : (rootBridges blk).length < 256) (hprimary : primaryRb df ∈ rootBridges blk)
    (hend : (equallyBelow4G blk sys df).2 = .complete) :
    (∃ as bs, (equallyBelow4G blk sys df).1 = as ++ bs ∧ (abovePcieCfgIsTooSmall blk sys = as.isEmpty) ∧
      FillsSides blk sys (rbNumberAbovePcieCfg blk sys) (sharesAbovePcieCfg blk sys) as bs (bottomMmioReserved blk).toNat
        (mmioStart blk sys .above).toNat) ∧
    ((equallyBelow4G blk sys df).1.map rb).Perm (rootBridges blk) := by
  have hperm := primary_cons_perm hprimary
  have hnumber := toNat_systemRbNumber hcount
  have hlength : 1 + ((rootBridges blk).filter (· ≠ primaryRb df)).length = (systemRbNumber blk).toNat := by
    rw [hnumber, ← hperm.length_eq, length_cons]
    omega
  unfold equallyBelow4G at hend ⊢
  cases hstart : equallyStart blk sys with
  | none => simp [hstart] at hend
  | some s =>
    rw [hstart] at hend
    dsimp only at hend ⊢
    unfold sharesAbovePcieCfg
    rcases equallyStart_cases hout hstart with ⟨habove, hbelow, hzero, rfl⟩ | ⟨habove, number, hne, hsame, rfl⟩
    · have hfills := equallyBelow4G_lower (primaryRb df) hsides hbelow hlength
      simp only [hbelow, Bool.and_false, Bool.false_eq_true, if_false, if_true]
      have hle := hsides.above
      rw [hzero, if_pos rfl]
      refine ⟨⟨[], _, rfl, habove, ⟨_, by omega, .nil _⟩, rfl, .inr ⟨hbelow, hfills.cut, ?_⟩⟩, hfills.bridges ▸ hperm⟩
      rw [show (systemRbNumber blk).toUInt64 - UInt8.toUInt64 0 = _ from UInt64.sub_zero _]
      exact hfills.sizes
    · obtain ⟨hwindow, hwalk⟩ := equallyBelow4G_upper (primaryRb df) hsides hne hlength
      simp only [hne, decide_false, Bool.false_and, Bool.false_eq_true, if_false] at hend ⊢
      obtain ⟨as, bs, hsplit, hfills⟩ := hwalk.fills hend
      rw [hsame, if_neg hne, show min number.toNat (systemRbNumber blk).toNat - 1 =
        min (number.toNat - 1) ((rootBridges blk).filter (· ≠ primaryRb df)).length by omega]
      exact ⟨⟨_ :: as, bs, congrArg _ hsplit, habove, hfills.cons hwindow⟩, (hwalk.cons hwindow).bridges hend ▸ hperm⟩

/-! ## Where the windows are -/

def EquallyWindow.Inside (w : EquallyWindow) (lo hi : Nat) : Prop := lo ≤ w.start ∧ w.start + w.size ≤ hi

def EquallyWindow.Apart (w w' : EquallyWindow) : Prop := w.start + w.size ≤ w'.start ∨ w'.start + w'.size ≤ w.start

theorem EquallyWindow.Inside.apart {w w' : EquallyWindow} {lo hi lo' hi' : Nat} (h : w.Inside lo hi)
    (h' : w'.Inside lo' hi') (hle : hi' ≤ lo) : w.Apart w' := .inr (h'.2.trans (hle.trans h.1))

theorem CutDown.pairwise (h : CutDown hi ws lo) : ws.Pairwise Apart :=
  (pairwise_reverse.mp (Tiles.pairwise h)).imp .inr

theorem CutDown.inside (h : CutDown hi ws lo) (hw : w ∈ ws) : w.Inside lo hi :=
  Tiles.bounds_of_mem h (mem_reverse.mpr hw)

/-- Between TOM and the configuration space or behind it, and below the reserved region. -/
def EquallyWindow.Fits (blk : InputBlk) (sys : SystemInfo) (w : EquallyWindow) : Prop :=
  w.Inside sys.tom.toNat (min blk.pciExpressBaseAddress.toNat (bottomMmioReserved blk).toNat) ∨
  w.Inside (blk.pciExpressBaseAddress.toNat + sys.pciCfgSpace.toNat) (bottomMmioReserved blk).toNat

theorem fits_of_lower (hsides : Sides blk sys) (h : w.Inside sys.tom.toNat (topBelowPcieCfg blk).toNat) :
    w.Fits blk sys :=
  .inl (hsides.lower ▸ h)

theorem fits_of_upper (hsides : Sides blk sys)
    (h : w.Inside (mmioStart blk sys .above).toNat (bottomMmioReserved blk).toNat) : w.Fits blk sys := by
  rcases hsides.upper with hupper | hupper
  · exact .inr (hupper ▸ h)
  · -- Without an upper side, only an empty window at the top of the lower one fits.
    have habove := hsides.above
    have hbelow := hsides.below
    have hlower := hsides.lower
    rw [hupper.1, UInt64.toNat_zero] at habove
    obtain ⟨hstart, hend⟩ := h
    exact .inl ⟨by omega, by omega⟩

def equallyWindowsBelow4G (blk : InputBlk) (sys : SystemInfo) (df : DfAnswers) : List EquallyWindow :=
  (equallyBelow4G blk sys df).1 ++ (equallySecondWindow blk sys df).toList

section
variable {as bs : List EquallyWindow}

theorem FillsSides.inside_upper
    (h : FillsSides blk sys copy sizes as bs (bottomMmioReserved blk).toNat (mmioStart blk sys .above).toNat) (hw : w ∈ as) :
    w.Inside (mmioStart blk sys .above).toNat (bottomMmioReserved blk).toNat := by
  obtain ⟨mid, hmid, has⟩ := h.upper
  exact ⟨hmid.trans (has.inside hw).1, (has.inside hw).2⟩

theorem FillsSides.inside_lower (h : FillsSides blk sys copy sizes as bs hi lo) (hw : w ∈ bs) :
    w.Inside sys.tom.toNat (topBelowPcieCfg blk).toNat := by
  rcases h.lower with rfl | ⟨-, hbs, -⟩
  · simp at hw
  · exact hbs.inside hw

section
variable (hsides : Sides blk sys)
  (h : FillsSides blk sys copy sizes as bs (bottomMmioReserved blk).toNat (mmioStart blk sys .above).toNat)
include hsides h

theorem FillsSides.pairwise :
    (as ++ bs).Pairwise Apart := by
  have hbs : bs.Pairwise Apart := by
    rcases h.lower with rfl | ⟨-, hbs, -⟩
    · exact .nil
    · exact hbs.pairwise
  obtain ⟨_, _, has⟩ := h.upper
  refine pairwise_append.mpr ⟨has.pairwise, hbs, fun w hw w' hw' => ?_⟩
  exact (h.inside_upper hw).apart (h.inside_lower hw') hsides.order

theorem FillsSides.fits :
    ∀ w ∈ as ++ bs, w.Fits blk sys := by
  intro w hw
  rcases mem_append.mp hw with hw | hw
  · exact fits_of_upper hsides (h.inside_upper hw)
  · exact fits_of_lower hsides (h.inside_lower hw)

theorem FillsSides.second (habove : abovePcieCfgIsTooSmall blk sys = as.isEmpty)
    (hlen : (as ++ bs).length = (systemRbNumber blk).toNat) (hw : equallySecondWindow blk sys df = some w) :
    w.Fits blk sys ∧ ∀ w' ∈ as ++ bs, w'.Apart w := by
  unfold equallySecondWindow at hw
  split_ifs at hw with hcond hsmall
  · -- Nobody is above the configuration space.
    obtain rfl := some.inj hw
    obtain rfl : as = [] := by simpa [hsmall] using habove.symm
    have hmany : 1 < (systemRbNumber blk).toNat := by
      unfold abovePcieCfgIsTooSmall isTooSmall at hsmall
      simp only [Bool.and_eq_true, decide_eq_true_eq, UInt8.lt_iff_toNat_lt] at hsmall
      exact hsmall.1
    have hbelow : belowPcieCfgIsTooSmall blk sys = false := by
      rcases h.lower with rfl | ⟨hbelow, -⟩
      · rw [append_nil, length_nil] at hlen
        omega
      · exact hbelow
    have hone : systemRbNumber blk ≠ 1 := fun h1 => by
      rw [h1] at hmany
      exact absurd hmany (by decide)
    have hsize : sizeAbovePcieCfg blk sys ≠ 0 := by simp_all
    have hstart : mmioStart blk sys .above = blk.pciExpressBaseAddress + sys.pciCfgSpace :=
      if_neg fun hp => hsize (if_pos hp)
    have hinside : Inside
        ⟨primaryRb df, blk.pciExpressBaseAddress + sys.pciCfgSpace, sizeAbovePcieCfg blk sys⟩
        (mmioStart blk sys .above).toNat (bottomMmioReserved blk).toNat := by
      rw [← hstart]
      exact ⟨le_refl _, hsides.above.ge⟩
    refine ⟨fits_of_upper hsides hinside, fun w' hw' => ?_⟩
    exact (hinside.apart (h.inside_lower hw') hsides.order).symm
  · -- Nobody is below it.
    obtain rfl := some.inj hw
    obtain rfl : bs = [] := by
      rw [Bool.not_eq_true] at hsmall
      simp only [hsmall, Bool.false_and, Bool.false_or, Bool.and_eq_true, Bool.or_eq_true, decide_eq_true_eq] at hcond
      rcases hcond.2.2 with hbelow | hone
      · exact h.lower.resolve_right fun hlower => by simp [hbelow] at hlower
      · have has : 0 < as.length := length_pos_iff.mpr fun has => by simp [has, hsmall] at habove
        rw [length_append, hone] at hlen
        have hlen' : as.length + bs.length = 1 := hlen
        exact length_eq_zero_iff.mp (by omega)
    have hinside : Inside ⟨primaryRb df, sys.tom, sizeBelowPcieCfg blk sys⟩ sys.tom.toNat
        (topBelowPcieCfg blk).toNat := ⟨le_refl _, hsides.below.ge⟩
    refine ⟨fits_of_lower hsides hinside, fun w' hw' => ?_⟩
    rw [append_nil] at hw'
    exact (h.inside_upper hw').apart hinside hsides.order

end

end

/-! ## Above 4G -/

def EquallyWindow.span (blk : InputBlk) (sys : SystemInfo) (w : EquallyWindow) : Nat :=
  (equallyLengthAbove4G blk sys w).toNat

def shareAbove4G (blk : InputBlk) (sys : SystemInfo) (rb : Nat × Nat) : Nat := (equallyShareAbove4G blk sys rb).toNat

structure FillsUp (blk : InputBlk) (sys : SystemInfo) (ws : List EquallyWindow) (base : Nat) : Prop where
  apart : ws.Pairwise fun w w' => w.start + w.span blk sys ≤ w'.start
  inside : ∀ w ∈ ws, base ≤ w.start ∧ w.start + w.span blk sys ≤ (equallyWindow blk sys).limit.toNat
  size_le : ∀ w ∈ ws, w.size ≤ w.span blk sys

theorem equallyAbove4GFrom_fills {base : UInt64} (hlast : Chain.LastOnly (isLastRb blk) rbs)
    (hsum : base.toNat + (rbs.map (shareAbove4G blk sys)).sum ≤ (equallyWindow blk sys).limit.toNat) :
    FillsUp blk sys (equallyAbove4GFrom blk sys base rbs) base.toNat ∧
      ((equallyAbove4GFrom blk sys base rbs).map rb).Sublist rbs := by
  induction rbs generalizing base with
  | nil => exact ⟨⟨.nil, by simp [equallyAbove4GFrom], by simp [equallyAbove4GFrom]⟩, .refl _⟩
  | cons rb rbs ih =>
    obtain ⟨hrb, hrbs⟩ := hlast.cons
    rw [map_cons, sum_cons] at hsum
    have hlimit := (equallyWindow blk sys).limit.toNat_lt
    rw [equallyAbove4GFrom]
    split_ifs with hsmall
    · grind
    · have hnext : (base + equallyShareAbove4G blk sys rb).toNat = base.toNat + shareAbove4G blk sys rb :=
        toNat_add_eq (by unfold shareAbove4G at hsum; omega)
      have hsum' : (base + equallyShareAbove4G blk sys rb).toNat + (rbs.map (shareAbove4G blk sys)).sum ≤
          (equallyWindow blk sys).limit.toNat := by omega
      obtain ⟨hfills, hsub⟩ := ih hrbs hsum'
      refine ⟨?_, hsub.cons_cons _⟩
      cases rbs with
      | nil =>
        -- The last register goes up to the limit.
        have hspan : (mk rb base (equallyShareAbove4G blk sys rb)).span blk sys =
            (equallyWindow blk sys).limit.toNat - base.toNat := by
          unfold EquallyWindow.span equallyLengthAbove4G
          rw [hrb]
          exact toNat_sub_eq (by show base.toNat ≤ _; omega)
        refine ⟨pairwise_singleton _ _, ?_, ?_⟩ <;>
          simp only [equallyAbove4GFrom, mem_singleton, forall_eq, hspan]
        · exact ⟨le_refl _, show base.toNat + _ ≤ _ by omega⟩
        · show shareAbove4G blk sys rb ≤ _
          omega
      | cons rb' rbs =>
        have hspan : (mk rb base (equallyShareAbove4G blk sys rb)).span blk sys = shareAbove4G blk sys rb := by
          unfold EquallyWindow.span equallyLengthAbove4G
          rw [hrb]
          rfl
        refine ⟨pairwise_cons.mpr ⟨fun w hw => ?_, hfills.apart⟩, forall_mem_cons.mpr ⟨?_, fun w hw => ?_⟩,
          forall_mem_cons.mpr ⟨hspan.ge, hfills.size_le⟩⟩
        · rw [hspan]
          exact hnext ▸ (hfills.inside w hw).1
        · rw [hspan]
          exact ⟨le_refl _, show base.toNat + _ ≤ _ by omega⟩
        · have hinside := hfills.inside w hw
          exact ⟨by omega, hinside.2⟩

theorem sum_shareAbove4G (hcount : (rootBridges blk).length < 256) (hne : rootBridges blk ≠ [])
    (hlt : (equallyWindow blk sys).base < (equallyWindow blk sys).limit) :
    (equallyWindow blk sys).base.toNat + ((rootBridges blk).map (shareAbove4G blk sys)).sum =
      (equallyWindow blk sys).limit.toNat := by
  let w := equallyWindow blk sys
  let number := (systemRbNumber blk).toUInt64
  have hnumber : number.toNat = (rootBridges blk).length := by
    show (systemRbNumber blk).toUInt64.toNat = _
    rw [UInt8.toNat_toUInt64, toNat_systemRbNumber hcount]
  have hpos : 0 < (rootBridges blk).length := length_pos_iff.mpr hne
  have hnumber0 : number ≠ 0 := fun h => by
    rw [h] at hnumber
    exact absurd hnumber (show (0 : Nat) ≠ _ by omega)
  have hfirst := toNat_equallyFirst (w.limit - w.base) hnumber0
  have hsize : (w.limit - w.base).toNat = w.limit.toNat - w.base.toNat :=
    UInt64.toNat_sub_of_le _ _ (UInt64.le_of_lt hlt)
  have hsum : ∀ l : List (Nat × Nat), Chain.LastOnly (isLastRb blk) l → l ≠ [] →
      (l.map (shareAbove4G blk sys)).sum =
        (equallyFirst (w.limit - w.base) number).toNat + (l.length - 1) * (equallyShare (w.limit - w.base) number).toNat := by
    intro l
    induction l with
    | nil => exact fun _ h => absurd rfl h
    | cons rb rbs ih =>
      intro hlast _
      obtain ⟨hrb, hrbs⟩ := hlast.cons
      rw [map_cons, sum_cons]
      cases rbs with
      | nil =>
        have hshare : shareAbove4G blk sys rb = (equallyFirst (w.limit - w.base) number).toNat := by
          unfold shareAbove4G equallyShareAbove4G
          simp only [hrb, isEmpty_nil, if_true]
          rfl
        simp [hshare]
      | cons rb' rbs =>
        have hshare : shareAbove4G blk sys rb = (equallyShare (w.limit - w.base) number).toNat := by
          unfold shareAbove4G equallyShareAbove4G
          simp only [hrb, isEmpty_cons, Bool.false_eq_true, if_false]
          rfl
        rw [hshare, ih hrbs (List.cons_ne_nil _ _)]
        simp only [List.length_cons, Nat.add_sub_cancel, Nat.add_one_mul]
        omega
  have hlt' : w.base.toNat < w.limit.toNat := UInt64.lt_iff_toNat_lt.mp hlt
  rw [hsum _ (lastOnly_rootBridges blk) hne, ← hnumber]
  show w.base.toNat + _ = w.limit.toNat
  omega

end OpenSil.RcMgr
