import OpenSil.Lib.Bytes
import OpenSil.Lib.Loop

/-! # Validation of a microcode patch

`ValidateMicrocode` looks for up to two chipset devices on PCI bus 0.
-/

open OpenSil.Bytes OpenSil.Loop

namespace OpenSil.MicrocodePatch

structure Mpb where
  mpbNbId : UInt32
  mpbSbId : UInt32
  processorRevisionId : UInt16
  chipset1RevisionId : UInt8
  chipset2RevisionId : UInt8

/-! ## PCI configuration space -/

def pciLibAddress (bus device function register : Nat) : Nat :=
  (register &&& 0xfff) ||| ((function &&& 0x07) <<< 12) ||| ((device &&& 0x1f) <<< 15) ||| ((bus &&& 0xff) <<< 20)

section
variable (config : Mem) (dev fn : Nat)

def pciDeviceVidDid : UInt32 := .ofNat (readLE config (pciLibAddress 0 dev fn 0) 4)

def pciDeviceRevision : UInt8 := config (pciLibAddress 0 dev fn 0x08)

def pciHeaderType : UInt8 := config (pciLibAddress 0 dev fn 0x0E)

end

/-! ## The scan -/

structure Matched where
  mpbNbIdMatched : Bool
  mpbSbIdMatched : Bool

def Matched.both (m : Matched) : Bool := m.mpbNbIdMatched && m.mpbSbIdMatched

section
variable (config : Mem) (mpb : Mpb)

def Hits (id : UInt32) (revision : UInt8) (dev fn : Nat) : Prop :=
  pciDeviceVidDid config dev fn = id ∧ pciDeviceRevision config dev fn = revision

instance (id : UInt32) (revision : UInt8) (dev fn : Nat) : Decidable (Hits config id revision dev fn) :=
  inferInstanceAs (Decidable (_ ∧ _))

def noteFunction (dev fn : Nat) (m : Matched) : Matched where
  mpbNbIdMatched := m.mpbNbIdMatched || Hits config mpb.mpbNbId mpb.chipset1RevisionId dev fn
  mpbSbIdMatched := m.mpbSbIdMatched || Hits config mpb.mpbSbId mpb.chipset2RevisionId dev fn

def funTurn (dev : Nat) (s : Nat × Matched) : Turn (Nat × Matched) Matched :=
  if s.1 < 8 then
    if pciDeviceVidDid config dev s.1 = 0xFFFFFFFF then
      if s.1 = 0 then .done s.2 else .next (s.1 + 1, s.2)
    else
      let m := noteFunction config mpb dev s.1 s.2
      if m.both then .done m
      else if s.1 = 0 ∧ pciHeaderType config dev s.1 &&& 0x80 = 0 then .done m
      else .next (s.1 + 1, m)
  else .done s.2

def devTurn (s : Nat × Matched) : Turn (Nat × Matched) (Option Matched) :=
  if s.1 < 32 then
    match run (funTurn config mpb s.1) 9 (0, s.2) with
    | none => .done none
    | some m => if m.both then .done (some m) else .next (s.1 + 1, m)
  else .done (some s.2)

/-- `ValidateMicrocode`; `none` if a loop does not end. -/
def validateMicrocode (processorId : UInt32) : Option Bool :=
  if mpb.processorRevisionId.toUInt32 ≠ processorId then some false
  else
    let m : Matched := ⟨mpb.mpbNbId = 0, mpb.mpbSbId = 0⟩
    if !m.mpbNbIdMatched || !m.mpbSbIdMatched then (run (devTurn config mpb) 33 (0, m)).join.map Matched.both
    else some m.both

end

/-! ## What is found -/

section
variable {config : Mem} {mpb : Mpb}

/-- A function is enumerable if it is there, and function 0 is there, which has to be marked as multi-function for the
others. -/
structure Enumerable (config : Mem) (dev fn : Nat) : Prop where
  first : pciDeviceVidDid config dev 0 ≠ 0xFFFFFFFF
  multi : fn = 0 ∨ pciHeaderType config dev 0 &&& 0x80 ≠ 0
  present : pciDeviceVidDid config dev fn ≠ 0xFFFFFFFF

def HitsDevice (config : Mem) (id : UInt32) (revision : UInt8) (dev : Nat) : Prop :=
  ∃ fn < 8, Enumerable config dev fn ∧ Hits config id revision dev fn

structure Matched.After (m m' : Matched) (nb sb : Prop) : Prop where
  nb : m'.mpbNbIdMatched = true ↔ m.mpbNbIdMatched = true ∨ nb
  sb : m'.mpbSbIdMatched = true ↔ m.mpbSbIdMatched = true ∨ sb

namespace Matched.After

variable {m m' m'' : Matched} {nb sb nb' sb' : Prop}

theorem refl (m : Matched) (hnb : ¬nb) (hsb : ¬sb) : m.After m nb sb := ⟨by simp [hnb], by simp [hsb]⟩

theorem trans (h : m.After m' nb sb) (h' : m'.After m'' nb' sb') : m.After m'' (nb ∨ nb') (sb ∨ sb') :=
  ⟨by rw [h'.nb, h.nb, or_assoc], by rw [h'.sb, h.sb, or_assoc]⟩

theorem congr (h : m.After m' nb sb) (hnb : nb ↔ nb') (hsb : sb ↔ sb') : m.After m' nb' sb' :=
  ⟨by rw [h.nb, hnb], by rw [h.sb, hsb]⟩

theorem of_both (h : m.After m' nb sb) (hboth : m'.both = true) : m.After m' (nb ∨ nb') (sb ∨ sb') := by
  simp only [both, Bool.and_eq_true] at hboth
  refine ⟨iff_of_true hboth.1 ?_, iff_of_true hboth.2 ?_⟩
  · exact (h.nb.mp hboth.1).imp_right .inl
  · exact (h.sb.mp hboth.2).imp_right .inl

end Matched.After

theorem after_noteFunction (dev fn : Nat) (m : Matched) :
    m.After (noteFunction config mpb dev fn m) (Hits config mpb.mpbNbId mpb.chipset1RevisionId dev fn)
      (Hits config mpb.mpbSbId mpb.chipset2RevisionId dev fn) :=
  ⟨by simp [noteFunction], by simp [noteFunction]⟩

def HitsFrom (config : Mem) (id : UInt32) (revision : UInt8) (dev fn : Nat) : Prop :=
  ∃ f, fn ≤ f ∧ f < 8 ∧ pciDeviceVidDid config dev f ≠ 0xFFFFFFFF ∧ Hits config id revision dev f

variable {id : UInt32} {rev : UInt8} {dev : Nat}

theorem exists_from_succ_iff {p : Nat → Prop} {k n : Nat} (hk : k < n) :
    (p k ∨ ∃ d, k + 1 ≤ d ∧ d < n ∧ p d) ↔ ∃ d, k ≤ d ∧ d < n ∧ p d := by
  constructor
  · rintro (hp | ⟨d, hle, hrest⟩)
    · exact ⟨k, le_refl _, hk, hp⟩
    · exact ⟨d, by omega, hrest⟩
  · rintro ⟨d, hle, hlt, hp⟩
    rcases Nat.eq_or_lt_of_le hle with rfl | hgt
    · exact .inl hp
    · exact .inr ⟨d, hgt, hlt, hp⟩

theorem hitsFrom_succ_iff {fn : Nat} (hfn : fn < 8) (hpresent : pciDeviceVidDid config dev fn ≠ 0xFFFFFFFF) :
    Hits config id rev dev fn ∨ HitsFrom config id rev dev (fn + 1) ↔ HitsFrom config id rev dev fn := by
  rw [HitsFrom, HitsFrom, ← exists_from_succ_iff hfn, and_iff_right hpresent]

theorem hitsFrom_of_absent {fn : Nat} (hfn : fn < 8) (habsent : pciDeviceVidDid config dev fn = 0xFFFFFFFF) :
    HitsFrom config id rev dev (fn + 1) ↔ HitsFrom config id rev dev fn :=
  (or_iff_right fun h => h.1 habsent).symm.trans (exists_from_succ_iff hfn)

-- Function 0 ends the walk if it is absent or not marked as multi-function.
theorem run_funTurn (dev n fn : Nat) (m : Matched) (hn : fn + n = 8)
    (hmore : fn = 0 → pciDeviceVidDid config dev 0 ≠ 0xFFFFFFFF ∧ pciHeaderType config dev 0 &&& 0x80 ≠ 0) :
    ∃ m', run (funTurn config mpb dev) (n + 1) (fn, m) = some m' ∧
      m.After m' (HitsFrom config mpb.mpbNbId mpb.chipset1RevisionId dev fn)
        (HitsFrom config mpb.mpbSbId mpb.chipset2RevisionId dev fn) := by
  induction n generalizing fn m with
  | zero =>
    have hturn : funTurn config mpb dev (fn, m) = .done m := if_neg (show ¬fn < 8 by omega)
    have hnone : ∀ {id rev}, ¬HitsFrom config id rev dev fn := by
      rintro id rev ⟨f, hle, hlt, -⟩
      omega
    exact ⟨m, run_succ_done hturn, .refl m hnone hnone⟩
  | succ n ih =>
    have hlt : fn < 8 := by omega
    by_cases habsent : pciDeviceVidDid config dev fn = 0xFFFFFFFF
    · have hfn : fn ≠ 0 := by
        rintro rfl
        exact (hmore rfl).1 habsent
      have hturn : funTurn config mpb dev (fn, m) = .next (fn + 1, m) := by simp [funTurn, hlt, habsent, hfn]
      obtain ⟨m', hrun, hafter⟩ := ih (fn + 1) m (by omega) (by omega)
      exact ⟨m', by rw [run_succ_next hturn, hrun],
        hafter.congr (hitsFrom_of_absent hlt habsent) (hitsFrom_of_absent hlt habsent)⟩
    · have hnote : m.After (noteFunction config mpb dev fn m) _ _ := after_noteFunction dev fn m
      by_cases hboth : (noteFunction config mpb dev fn m).both = true
      · have hturn : funTurn config mpb dev (fn, m) = .done (noteFunction config mpb dev fn m) := by
          simp [funTurn, hlt, habsent, hboth]
        exact ⟨_, run_succ_done hturn, (hnote.of_both hboth).congr (hitsFrom_succ_iff hlt habsent)
          (hitsFrom_succ_iff hlt habsent)⟩
      · have hgo : ¬(fn = 0 ∧ pciHeaderType config dev fn &&& 0x80 = 0) := by
          rintro ⟨rfl, hsingle⟩
          exact (hmore rfl).2 hsingle
        have hturn : funTurn config mpb dev (fn, m) = .next (fn + 1, noteFunction config mpb dev fn m) := by
          simp [funTurn, hlt, habsent, hboth, hgo]
        obtain ⟨m', hrun, hafter⟩ := ih (fn + 1) (noteFunction config mpb dev fn m) (by omega) (by omega)
        exact ⟨m', by rw [run_succ_next hturn, hrun], (hnote.trans hafter).congr (hitsFrom_succ_iff hlt habsent)
          (hitsFrom_succ_iff hlt habsent)⟩

variable (config mpb)

theorem run_funTurn_zero (dev : Nat) (m : Matched) :
    ∃ m', run (funTurn config mpb dev) 9 (0, m) = some m' ∧
      m.After m' (HitsDevice config mpb.mpbNbId mpb.chipset1RevisionId dev)
        (HitsDevice config mpb.mpbSbId mpb.chipset2RevisionId dev) := by
  by_cases habsent : pciDeviceVidDid config dev 0 = 0xFFFFFFFF
  · have hturn : funTurn config mpb dev (0, m) = .done m := by simp [funTurn, habsent]
    have hnone : ∀ {id rev}, ¬HitsDevice config id rev dev := by
      rintro id rev ⟨fn, -, henum, -⟩
      exact henum.first habsent
    exact ⟨m, run_succ_done hturn, .refl m hnone hnone⟩
  · by_cases hmulti : pciHeaderType config dev 0 &&& 0x80 = 0
    · -- Only function 0 is enumerable.
      have honly : ∀ {id rev}, Hits config id rev dev 0 ↔ HitsDevice config id rev dev := by
        intro id rev
        constructor
        · intro hhit
          exact ⟨0, by decide, ⟨habsent, .inl rfl, habsent⟩, hhit⟩
        · rintro ⟨fn, -, henum, hhit⟩
          obtain rfl : fn = 0 := henum.multi.resolve_right (by simpa using hmulti)
          exact hhit
      have hturn : funTurn config mpb dev (0, m) = .done (noteFunction config mpb dev 0 m) := by
        simp [funTurn, habsent, hmulti]
      exact ⟨_, run_succ_done hturn, (after_noteFunction dev 0 m).congr honly honly⟩
    · have hall : ∀ {id rev}, HitsFrom config id rev dev 0 ↔ HitsDevice config id rev dev := by
        intro id rev
        constructor
        · rintro ⟨fn, -, hlt, hpresent, hhit⟩
          exact ⟨fn, hlt, ⟨habsent, .inr hmulti, hpresent⟩, hhit⟩
        · rintro ⟨fn, hlt, henum, hhit⟩
          exact ⟨fn, Nat.zero_le _, hlt, henum.present, hhit⟩
      obtain ⟨m', hrun, hafter⟩ := run_funTurn dev 8 0 m rfl fun _ => ⟨habsent, hmulti⟩
      exact ⟨m', hrun, hafter.congr hall hall⟩

def HitsBusFrom (config : Mem) (id : UInt32) (revision : UInt8) (dev : Nat) : Prop :=
  ∃ d, dev ≤ d ∧ d < 32 ∧ HitsDevice config id revision d

variable {config} in
theorem hitsBusFrom_succ_iff (hdev : dev < 32) :
    HitsDevice config id rev dev ∨ HitsBusFrom config id rev (dev + 1) ↔
      HitsBusFrom config id rev dev :=
  exists_from_succ_iff hdev

theorem run_devTurn (n dev : Nat) (m : Matched) (hn : dev + n = 32) :
    ∃ m', run (devTurn config mpb) (n + 1) (dev, m) = some (some m') ∧
      m.After m' (HitsBusFrom config mpb.mpbNbId mpb.chipset1RevisionId dev)
        (HitsBusFrom config mpb.mpbSbId mpb.chipset2RevisionId dev) := by
  induction n generalizing dev m with
  | zero =>
    have hturn : devTurn config mpb (dev, m) = .done (some m) := if_neg (show ¬dev < 32 by omega)
    have hnone : ∀ {id rev}, ¬HitsBusFrom config id rev dev := by
      rintro id rev ⟨d, hle, hlt, -⟩
      omega
    exact ⟨m, run_succ_done hturn, .refl m hnone hnone⟩
  | succ n ih =>
    have hlt : dev < 32 := by omega
    obtain ⟨m', hfun, hafter⟩ := run_funTurn_zero config mpb dev m
    by_cases hboth : m'.both = true
    · have hturn : devTurn config mpb (dev, m) = .done (some m') := by simp [devTurn, hlt, hfun, hboth]
      exact ⟨m', run_succ_done hturn, (hafter.of_both hboth).congr (hitsBusFrom_succ_iff hlt) (hitsBusFrom_succ_iff hlt)⟩
    · have hturn : devTurn config mpb (dev, m) = .next (dev + 1, m') := by simp [devTurn, hlt, hfun, hboth]
      obtain ⟨m'', hrun, hafter'⟩ := ih (dev + 1) m' (by omega)
      exact ⟨m'', by rw [run_succ_next hturn, hrun],
        (hafter.trans hafter').congr (hitsBusFrom_succ_iff hlt) (hitsBusFrom_succ_iff hlt)⟩

/-- A function of bus 0 that the scan comes to has the ID and the revision. -/
def FoundOnBus (config : Mem) (id : UInt32) (revision : UInt8) : Prop :=
  ∃ dev < 32, ∃ fn < 8, Enumerable config dev fn ∧ Hits config id revision dev fn

variable {config} in
theorem hitsBusFrom_zero_iff : HitsBusFrom config id rev 0 ↔ FoundOnBus config id rev := by
  constructor
  · rintro ⟨dev, -, hlt, hhit⟩
    exact ⟨dev, hlt, hhit⟩
  · rintro ⟨dev, hlt, hhit⟩
    exact ⟨dev, Nat.zero_le _, hlt, hhit⟩

end

/-- The validation ends for every content of the configuration space. -/
theorem validateMicrocode_accepts_iff (config : Mem) (mpb : Mpb) (processorId : UInt32) :
    ∃ accepted, validateMicrocode config mpb processorId = some accepted ∧
      (accepted = true ↔ mpb.processorRevisionId.toUInt32 = processorId ∧
        (mpb.mpbNbId ≠ 0 → FoundOnBus config mpb.mpbNbId mpb.chipset1RevisionId) ∧
        (mpb.mpbSbId ≠ 0 → FoundOnBus config mpb.mpbSbId mpb.chipset2RevisionId)) := by
  unfold validateMicrocode
  by_cases hrev : mpb.processorRevisionId.toUInt32 = processorId
  · rw [if_neg (not_not.mpr hrev)]
    obtain ⟨m', hrun, hafter⟩ := run_devTurn config mpb 32 0 ⟨mpb.mpbNbId = 0, mpb.mpbSbId = 0⟩ rfl
    have hnb := hafter.nb
    have hsb := hafter.sb
    rw [hitsBusFrom_zero_iff, decide_eq_true_eq, or_iff_not_imp_left] at hnb hsb
    by_cases hboth : mpb.mpbNbId = 0 ∧ mpb.mpbSbId = 0
    · refine ⟨true, by simp [hboth, Matched.both], iff_of_true rfl ⟨hrev, ?_, ?_⟩⟩
      · exact fun h => absurd hboth.1 h
      · exact fun h => absurd hboth.2 h
    · refine ⟨m'.both, ?_, ?_⟩
      · simp_all
      · rw [Matched.both, Bool.and_eq_true, hnb, hsb]
        exact (and_iff_right hrev).symm
  · simp_all

end OpenSil.MicrocodePatch
