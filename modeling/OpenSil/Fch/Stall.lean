import OpenSil.Lib.Loop

/-! # The stall of the FCH -/

open OpenSil.Loop

namespace OpenSil.Fch

def fchMaxTimer : Nat := 0xFFFFFFFF
def fchOemElapsedTimeUnit : Nat := 28
def fchOemElapsedTimeDivider : Nat := 100

structure StallHardware where
  /-- PMIO register 0x64. -/
  timerAddr : UInt16
  /-- The timer at the first read. -/
  timer : UInt32
  /-- The ticks since then, at each read of the loop. -/
  ticks : Nat → Nat

/-- Time passes before every read of the timer. -/
def StallHardware.Runs (hw : StallHardware) : Prop := 0 < hw.ticks 0 ∧ StrictMono hw.ticks

/-- `xUSLIoRead8` of the timer. -/
def StallHardware.xUSLIoRead8 (hw : StallHardware) (ticks : Nat) : Nat := (hw.timer.toNat + ticks) % 2 ^ 32 % 2 ^ 8

def elapsedTime (startTime now : Nat) : Nat :=
  if now < startTime then (now + fchMaxTimer - startTime) % 2 ^ 32 else now - startTime

def stallTurn (hw : StallHardware) (microSeconds : UInt32) (i : Nat) : Turn Nat Nat :=
  let elapsed := elapsedTime (hw.xUSLIoRead8 0) (hw.xUSLIoRead8 (hw.ticks i))
  if microSeconds.toNat < elapsed * fchOemElapsedTimeUnit % 2 ^ 32 / fchOemElapsedTimeDivider then .done i
  else .next (i + 1)

inductive Stalled where
  /-- So many reads of the delay port. -/
  | delayPort (reads : Nat)
  /-- The last read of the timer. -/
  | timer (i : Nat)
  deriving DecidableEq

/-- `SilFchStall`; `none` if `fuel` reads of the timer are not enough. -/
def silFchStall (hw : StallHardware) (fuel : Nat) (microSeconds : UInt32) : Option Stalled :=
  if hw.timerAddr = 0 ∨ hw.timerAddr = 0xFFFF then some (.delayPort (microSeconds.toNat / 2))
  else (run (stallTurn hw microSeconds) fuel 0).map .timer

/-- With any number of ticks between the reads, the stall takes `microSeconds` when it returns in timer mode. -/
def NeverEarly (timerAddr : UInt16) (timer microSeconds : UInt32) : Prop :=
  ∀ ticks fuel i, StallHardware.Runs ⟨timerAddr, timer, ticks⟩ →
    silFchStall ⟨timerAddr, timer, ticks⟩ fuel microSeconds = some (.timer i) → microSeconds.toNat ≤ ticks i * 28 / 100

/-- The read that ends the loop is the one at which the scaled time has passed. -/
theorem lt_of_silFchStall {hw : StallHardware} {fuel i : Nat} {microSeconds : UInt32}
    (h : silFchStall hw fuel microSeconds = some (.timer i)) :
    microSeconds.toNat < elapsedTime (hw.xUSLIoRead8 0) (hw.xUSLIoRead8 (hw.ticks i)) * 28 % 2 ^ 32 / 100 := by
  unfold silFchStall at h
  split_ifs at h
  · cases h
  obtain ⟨i', hrun, ⟨⟩⟩ := Option.map_eq_some_iff.mp h
  have hreturns : Returns (stallTurn hw microSeconds) 0 i := ⟨fuel, hrun⟩
  refine hreturns.of_invariant (fun _ => True)
    (fun i => microSeconds.toNat < elapsedTime (hw.xUSLIoRead8 0) (hw.xUSLIoRead8 (hw.ticks i)) * 28 % 2 ^ 32 / 100)
    trivial (fun _ _ _ _ => trivial) ?_
  intro i i' _ hturn
  unfold stallTurn at hturn
  dsimp only at hturn
  split_ifs at hturn with hlt
  cases hturn
  exact hlt

theorem elapsedTime_of_lt {startTime d : Nat} (hd : 1 ≤ d) (hle : d ≤ startTime) (hstart : startTime < 256) :
    elapsedTime startTime (startTime - d) * 28 % 2 ^ 32 / 100 = (2 ^ 32 - 28 * (d + 1)) / 100 := by
  unfold elapsedTime fchMaxTimer
  rw [if_pos (by omega)]
  omega

/-- Only the low byte of the timer is read, so a byte that is lower than at the start, by `d`, says that 256 - `d` ticks
have passed at least; the stall takes it for a wrap of all 32 bits. -/
theorem neverEarly_iff (timerAddr : UInt16) (timer microSeconds : UInt32) (hzero : timerAddr ≠ 0)
    (hones : timerAddr ≠ 0xFFFF) :
    NeverEarly timerAddr timer microSeconds ↔ ∀ d, 1 ≤ d → d ≤ timer.toNat % 256 →
      microSeconds.toNat ≤ (256 - d) * 28 / 100 ∨ (2 ^ 32 - 28 * (d + 1)) / 100 ≤ microSeconds.toNat := by
  have hread (ticks : Nat → Nat) (t : Nat) :
      StallHardware.xUSLIoRead8 ⟨timerAddr, timer, ticks⟩ t = (timer.toNat % 256 + t) % 256 := by
    show (timer.toNat + t) % 2 ^ 32 % 2 ^ 8 = _
    omega
  have hbyte : timer.toNat % 256 < 256 := Nat.mod_lt _ (by decide)
  generalize timer.toNat % 256 = startTime at hread hbyte ⊢
  constructor
  · intro hnever d hd hle
    by_contra! hearly
    -- the first read of the loop comes after 256 - d ticks
    have hfirst : (startTime + (256 - d)) % 256 = startTime - d := by omega
    have hdone : silFchStall ⟨timerAddr, timer, fun i => 256 - d + i⟩ 1 microSeconds = some (.timer 0) := by
      have hturn : stallTurn ⟨timerAddr, timer, fun i => 256 - d + i⟩ microSeconds 0 = .done 0 := by
        unfold stallTurn fchOemElapsedTimeUnit fchOemElapsedTimeDivider
        simp only [hread, Nat.add_zero, hfirst, Nat.mod_eq_of_lt hbyte]
        rw [if_pos (by rw [elapsedTime_of_lt hd hle hbyte]; exact hearly.2)]
      rw [silFchStall, if_neg (by simp [hzero, hones]), run_succ_done hturn]
      rfl
    have hlate := hnever _ 1 0 ⟨by simp only; omega, fun i j hij => Nat.add_lt_add_left hij _⟩ hdone
    exact absurd hlate (not_le.mpr hearly.1)
  · intro hall ticks fuel i _ hreturn
    have hlt := lt_of_silFchStall hreturn
    simp only [hread, Nat.add_zero, Nat.mod_eq_of_lt hbyte] at hlt
    rcases Nat.lt_or_ge ((startTime + ticks i) % 256) startTime with hwrap | hge
    · obtain ⟨d, hd⟩ := Nat.exists_eq_add_of_lt hwrap
      have hnow : (startTime + ticks i) % 256 = startTime - (d + 1) := by omega
      rw [hnow, elapsedTime_of_lt (by omega) (by omega) hbyte] at hlt
      have hticks : (256 - (d + 1)) * 28 / 100 ≤ ticks i * 28 / 100 :=
        Nat.div_le_div_right (Nat.mul_le_mul_right 28 (by omega))
      have := hall (d + 1) (by omega) (by omega)
      omega
    · rw [elapsedTime, if_neg hge.not_gt] at hlt
      refine hlt.le.trans (Nat.div_le_div_right ((Nat.mod_le _ _).trans (Nat.mul_le_mul_right 28 ?_)))
      omega

/-- After one tick, a stall of 1000 microseconds returns. -/
theorem silFchStall_one_tick :
    StallHardware.Runs ⟨0x808, 0xFF, fun i => i + 1⟩ ∧
      silFchStall ⟨0x808, 0xFF, fun i => i + 1⟩ 1 1000 = some (.timer 0) ∧ ¬1000 ≤ 1 * 28 / 100 :=
  ⟨⟨by decide, fun _ _ h => Nat.add_lt_add_right h 1⟩, by decide, by decide⟩

theorem neverEarly_1000_from_zero :
    NeverEarly 0x808 0 1000 ↔ ∀ d, 1 ≤ d → d ≤ (0 : UInt32).toNat % 256 →
      (1000 : UInt32).toNat ≤ (256 - d) * 28 / 100 ∨ (2 ^ 32 - 28 * (d + 1)) / 100 ≤ (1000 : UInt32).toNat :=
  neverEarly_iff 0x808 0 1000 (by decide) (by decide)

end OpenSil.Fch
