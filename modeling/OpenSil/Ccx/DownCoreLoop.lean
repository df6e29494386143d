import OpenSil.Lib.Loop
import OpenSil.Ccx.DownCore

/-! # Down-coring over resets -/

namespace OpenSil.Ccx

open Loop List

/-! ## The machine between two boots -/

structure Platform where
  sockets : List Fuses
  complexesPerCcd : Nat
  complexes_pos : 0 < complexesPerCcd
  complexes_le : complexesPerCcd ≤ 2

structure BootState where
  masks : Nat → Nat → BitVec 32
  smtDisabled : Bool

def BootState.fused : BootState := ⟨fun _ _ => 0, false⟩

def coresOf (dis : BitVec 32) (ccx : Nat) : List Nat :=
  (List.range maxCorePerCcx).filter fun core => !dis.getLsbD (ccx * maxCorePerCcx + core)

def complexesOf (complexes : Nat) (dis : BitVec 32) : List ComplexInfo :=
  (List.range complexes).filterMap fun ccx => if coresOf dis ccx = [] then none else some ⟨ccx, coresOf dis ccx⟩

def ccdOf (complexes : Nat) (f : Fuses) (masks : Nat → BitVec 32) (ccd : Nat) : Option CcdInfo :=
  let found := complexesOf complexes (f.coreDis ccd ||| masks ccd)
  if f.ccdPresent.getLsbD ccd = true ∧ f.ccdDown.getLsbD ccd = false ∧ found ≠ [] then some ⟨ccd, found⟩ else none

def topologyOf (complexes : Nat) (f : Fuses) (masks : Nat → BitVec 32) (smtDisabled : Bool) : SocketTopology :=
  let ccds := (List.range maxCcdsPerSocket).filterMap (ccdOf complexes f masks)
  ⟨ccds, if (ccds.head?.any (f.smtEnabled ·.physCcdNumber)) && !smtDisabled then 2 else 1⟩

def Platform.topology (p : Platform) (s : BootState) : List (Fuses × SocketTopology) :=
  p.sockets.mapIdx fun socket f => (f, topologyOf p.complexesPerCcd f (s.masks socket) s.smtDisabled)

def BootState.after (s : BootState) (r : DownCoreResult) : BootState where
  masks := fun socket ccd => r.writes.foldl
    (fun mask w => if w.1 = socket ∧ w.2.1 = ccd then mask ||| w.2.2 else mask) (s.masks socket ccd)
  smtDisabled := s.smtDisabled || r.smtDisabled

structure Boots where
  platform : Platform
  input : DownCoreInput
  stack : Nat × BitVec 32
  bist : BootState → Bool
  smtStatus : SilStatus

namespace Boots
variable (b : Boots)

def boot (s : BootState) : DownCoreResult :=
  ccxDownCoreInit b.input b.stack (b.bist s) b.smtStatus (b.platform.topology s)

def turn (s : BootState) : Turn BootState SilStatus :=
  match (b.boot s).status with
  | .silResetRequestColdImm => .next .fused
  | .silResetRequestWarmImm => .next (s.after (b.boot s))
  | status => .done status

/-- Starting from the fuses, some boot asks for no further reset. -/
def Converges : Prop := ∃ status, Returns b.turn .fused status

end Boots

/-! ## Sockets with the same fuses

On a second socket with the same topology, the decisions are those of the first.
-/

section
variable (input : DownCoreInput) (sockets : Nat) (f : Fuses) (t : SocketTopology)

theorem readTopology_again (v : DownCoreVars) (met ccdAttainable coreAttainable dropCcd dropCore : Bool) :
    let r := readTopology input sockets f t v
    let w : DownCoreVars :=
      { r with met := met, ccdAttainable := ccdAttainable, coreAttainable := coreAttainable
               ccdDisMask := if dropCcd then 0 else r.ccdDisMask
               coreDisMask := if dropCore then 0 else r.coreDisMask }
    readTopology input sockets f t w = w := by
  unfold readTopology
  simp only [DownCoreVars.mk.injEq, and_true]
  refine ⟨?_, ?_, ?_, ?_, ?_, ?_, ?_, ?_, ?_⟩
  · split_ifs <;> rfl
  · split_ifs <;> rfl
  · split_ifs <;> simp_all
  · split_ifs <;> simp_all
  · split_ifs <;> rfl
  · split_ifs <;> rfl
  · funext ccd
    split_ifs <;> rfl
  · grind
  · simp

theorem compareCounts_idem (v : DownCoreVars) : compareCounts t (compareCounts t v) = compareCounts t v := by
  unfold compareCounts
  simp only [DownCoreVars.mk.injEq, and_true, true_and]
  refine ⟨?_, ?_, ?_, ?_, ?_⟩
  · split_ifs <;> rfl
  · split_ifs <;> rfl
  · cases v.met <;> cases decide (v.desiredCcdCount = t.ccdCount) <;> simp
  · cases v.ccdAttainable <;> simp
  · cases v.coreAttainable <;> simp

theorem decideSocket_idem (v : DownCoreVars) :
    decideSocket input sockets f t (decideSocket input sockets f t v) =
      decideSocket input sockets f t v := by
  have hagain := readTopology_again input sockets f t v
  set r := readTopology input sockets f t v with hr
  by_cases hcounts : !r.downCoreBitMapAvailable ∧ (r.ccdDisMask ≠ 0 ∨ r.coreDisMask ≠ 0)
  · have hfirst : decideSocket input sockets f t v = compareCounts t r := if_pos hcounts
    have hread : readTopology input sockets f t (compareCounts t r) = compareCounts t r := by
      unfold compareCounts
      simpa using hagain _ _ _ (decide (r.desiredCcdCount ≥ t.ccdCount)) (decide (r.desiredCoreCount ≥ t.coreCount))
    have hmap : (compareCounts t r).downCoreBitMapAvailable = false := by simpa [compareCounts] using hcounts.1
    rw [hfirst]
    unfold decideSocket
    rw [hread]
    dsimp only
    rw [hmap, compareCounts_idem, if_neg (by decide : ¬false = true), ite_self]
  by_cases hmap : r.downCoreBitMapAvailable = true
  · have hfirst : decideSocket input sockets f t v = { r with met := bitMapMet t r } := by
      unfold decideSocket
      rw [← hr]
      exact (if_neg hcounts).trans (if_pos hmap)
    have hread := hagain (bitMapMet t r) r.ccdAttainable r.coreAttainable false false
    simp only [Bool.false_eq_true, if_false] at hread
    rw [hfirst]
    unfold decideSocket
    rw [hread]
    exact (if_neg hcounts).trans (if_pos hmap)
  · have hfirst : decideSocket input sockets f t v = r := by
      unfold decideSocket
      rw [← hr]
      exact (if_neg hcounts).trans (if_neg hmap)
    have hread := hagain r.met r.ccdAttainable r.coreAttainable false false
    simp only [Bool.false_eq_true, if_false] at hread
    rw [hfirst]
    unfold decideSocket
    rw [hread]
    exact (if_neg hcounts).trans (if_neg hmap)

theorem socketLoop_replicate {v : DownCoreVars} (hv : decideSocket input sockets f t v = v) (n socket : Nat)
    (writes : List (Nat × Nat × BitVec 32)) :
    socketLoop input sockets socket (replicate n (f, t)) v writes =
      (v, writes ++ (range' socket n).flatMap fun socket => (socketWrites t v).map (socket, ·)) := by
  induction n generalizing socket writes with
  | zero => simp [socketLoop]
  | succ n ih =>
    rw [replicate_succ]
    unfold socketLoop
    dsimp only
    rw [hv, ih, range'_succ, flatMap_cons, append_assoc]

theorem socketLoop_alike (n : Nat) (v : DownCoreVars) :
    socketLoop input sockets 0 (replicate (n + 1) (f, t)) v [] =
      (decideSocket input sockets f t v,
        (range (n + 1)).flatMap fun socket => (socketWrites t (decideSocket input sockets f t v)).map (socket, ·)) := by
  rw [replicate_succ]
  unfold socketLoop
  dsimp only
  rw [socketLoop_replicate input sockets f t (decideSocket_idem input sockets f t v), range_eq_range',
    range'_succ, flatMap_cons, nil_append]

end

def addWrites (writes : List (Nat × BitVec 32)) (masks : Nat → BitVec 32) (ccd : Nat) : BitVec 32 :=
  writes.foldl (fun mask w => if w.1 = ccd then mask ||| w.2 else mask) (masks ccd)

theorem getLsbD_addWrites (writes : List (Nat × BitVec 32)) (masks : Nat → BitVec 32) (ccd i : Nat) :
    (addWrites writes masks ccd).getLsbD i =
      ((masks ccd).getLsbD i || writes.any fun w => w.1 = ccd && w.2.getLsbD i) := by
  unfold addWrites
  generalize masks ccd = mask
  induction writes generalizing mask with
  | nil => simp
  | cons w writes ih =>
    rw [foldl_cons, ih, any_cons]
    by_cases hw : w.1 = ccd
    · simp [hw, Bool.or_assoc]
    · simp [hw]

theorem getLsbD_after (s : BootState) (r : DownCoreResult) (socket ccd i : Nat) :
    ((s.after r).masks socket ccd).getLsbD i =
      ((s.masks socket ccd).getLsbD i || r.writes.any fun w => w.1 = socket && w.2.1 = ccd && w.2.2.getLsbD i) := by
  unfold BootState.after
  dsimp only
  generalize s.masks socket ccd = mask
  induction r.writes generalizing mask with
  | nil => simp
  | cons w writes ih => grind

namespace Boots
variable (b : Boots) {f : Fuses} {n : Nat} {s : BootState} {masks : Nat → BitVec 32}

def vars (f : Fuses) (t : SocketTopology) : DownCoreVars :=
  decideSocket b.input b.platform.sockets.length f t (.start b.input b.stack)

def writes (f : Fuses) (t : SocketTopology) : List (Nat × BitVec 32) := socketWrites t (b.vars f t)

def socket (f : Fuses) (masks : Nat → BitVec 32) (smtDisabled : Bool) : SocketTopology :=
  topologyOf b.platform.complexesPerCcd f masks smtDisabled

def fused (f : Fuses) : SocketTopology := b.socket f (fun _ => 0) false

def firstMasks (f : Fuses) : Nat → BitVec 32 := addWrites (b.writes f (b.fused f)) fun _ => 0

def disablesSmt (f : Fuses) (t : SocketTopology) : Bool :=
  b.input.amdSmtMode = 0 ∧ (b.vars f t).threadCount > 1 ∧ b.smtStatus = .silPass

section
variable (hsockets : b.platform.sockets = List.replicate (n + 1) f) (hmasks : ∀ i < n + 1, s.masks i = masks)
include hsockets hmasks

theorem topology_alike :
    b.platform.topology s = replicate (n + 1) (f, b.socket f masks s.smtDisabled) := by
  unfold Platform.topology socket
  rw [hsockets]
  apply ext_getElem
  · simp
  · intro i hi _
    rw [length_mapIdx, length_replicate] at hi
    simp [hmasks i hi]

theorem boot_alike (hbist : b.bist s = false) :
    let t := b.socket f masks s.smtDisabled
    (b.boot s).status = (if wantsColdReset b.input (b.vars f t) then .silResetRequestColdImm
      else if b.writes f t ≠ [] ∨ b.disablesSmt f t then .silResetRequestWarmImm else .silPass) ∧
    (b.boot s).writes = (range (n + 1)).flatMap (fun socket => (b.writes f t).map (socket, ·)) ∧
    (b.boot s).smtDisabled = b.disablesSmt f t := by
  intro t
  have hlength : (b.platform.topology s).length = b.platform.sockets.length := by simp [Platform.topology]
  have hloop := socketLoop_alike b.input b.platform.sockets.length f (b.socket f masks s.smtDisabled) n
    (.start b.input b.stack)
  have hnil : ((range (n + 1)).flatMap fun socket => (b.writes f t).map (socket, ·)) = [] ↔ b.writes f t = [] := by
    rw [flatMap_eq_nil_iff]
    constructor
    · intro h
      exact map_eq_nil_iff.mp (h 0 (mem_range.mpr n.succ_pos))
    · intro h _ _
      rw [h, map_nil]
  unfold boot ccxDownCoreInit
  rw [hbist, hlength, b.topology_alike hsockets hmasks]
  simp only [Bool.false_eq_true, if_false, hloop]
  refine ⟨?_, rfl, rfl⟩
  simp only [ne_eq, ← hnil]
  rfl

theorem after_alike (hbist : b.bist s = false) (i : Nat) (hi : i < n + 1) :
    (s.after (b.boot s)).masks i = addWrites (b.writes f (b.socket f masks s.smtDisabled)) masks := by
  funext ccd
  apply BitVec.eq_of_getLsbD_eq
  intro k _
  rw [getLsbD_after, getLsbD_addWrites, hmasks i hi, (b.boot_alike hsockets hmasks hbist).2.1]
  congr 1
  rw [Bool.eq_iff_iff, any_eq_true, any_eq_true]
  constructor
  · simp_all
  · simp_all

theorem returns_of_settled (hcold : wantsColdReset b.input (b.vars f (b.socket f masks s.smtDisabled)) = false)
    (hwrites : b.writes f (b.socket f masks s.smtDisabled) = [])
    (hsmt : b.disablesSmt f (b.socket f masks s.smtDisabled) = false) : ∃ status, Returns b.turn s status := by
  cases hbist : b.bist s with
  | true => exact ⟨.silDeviceError, (returns_done_iff (by simp [turn, boot, ccxDownCoreInit, hbist])).mpr rfl⟩
  | false =>
    have hstatus := (b.boot_alike hsockets hmasks hbist).1
    rw [hcold, hwrites, hsmt] at hstatus
    exact ⟨.silPass, (returns_done_iff (by simp [turn, hstatus])).mpr rfl⟩

end

theorem converges_of_settled (hsockets : b.platform.sockets = replicate (n + 1) f)
    (hfirst : wantsColdReset b.input (b.vars f (b.fused f)) = false)
    (hsecond : ∀ smtDisabled, (smtDisabled = true → b.input.amdSmtMode = 0) →
      let t := b.socket f (b.firstMasks f) smtDisabled
      wantsColdReset b.input (b.vars f t) = false ∧ b.writes f t = [] ∧
        b.disablesSmt f t = (b.disablesSmt f (b.fused f) && !smtDisabled)) :
    b.Converges := by
  have hfused : ∀ i < n + 1, BootState.fused.masks i = fun _ => 0 := fun _ _ => rfl
  cases hbist : b.bist .fused with
  | true => exact ⟨.silDeviceError, (returns_done_iff (by simp [turn, boot, ccxDownCoreInit, hbist])).mpr rfl⟩
  | false =>
    obtain ⟨hstatus, -, hsmt⟩ := b.boot_alike hsockets hfused hbist
    have hmasks := b.after_alike hsockets hfused hbist
    rw [show b.socket f (fun _ => 0) BootState.fused.smtDisabled = b.fused f from rfl] at hstatus hsmt
    rw [hfirst, if_neg (by decide : ¬false = true)] at hstatus
    split at hstatus
    · -- the second boot, with the masks and the threads that the first leaves
      have hafter : (BootState.fused.after (b.boot .fused)).smtDisabled =
          b.disablesSmt f (b.fused f) := by
        exact hsmt
      have hmode : b.disablesSmt f (b.fused f) = true → b.input.amdSmtMode = 0 := by
        intro h
        simp only [disablesSmt, decide_eq_true_eq] at h
        exact h.1
      obtain ⟨hcold, hwrites, hdis⟩ := hsecond _ hmode
      obtain ⟨status, hreturns⟩ := b.returns_of_settled hsockets hmasks
        (by rw [hafter]; exact hcold) (by rw [hafter]; exact hwrites) (by rw [hafter]; exact hdis.trans (Bool.and_not_self _))
      exact ⟨status, (returns_next_iff (by simp only [turn, hstatus])).mpr hreturns⟩
    · exact ⟨.silPass, (returns_done_iff (by simp only [turn, hstatus])).mpr rfl⟩

end Boots

end OpenSil.Ccx
