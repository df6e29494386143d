import OpenSil.Ccx.ApLaunch
import OpenSil.Lib.Loop

/-! # The start-up region is restored

`RestoreResetVector` waits for the last AP and copies the saved bytes back.
-/

open OpenSil.Loop OpenSil.Memcpy

namespace OpenSil.ApLaunch

variable {w : Nat}

def apSyncCoreNumber (ram : Ram w) (location : BitVec 32) : BitVec 16 :=
  .ofNat 16 ((ram (location.setWidth w)).toNat + 256 * (ram (location.setWidth w + 1)).toNat)

def restoreTurn (ram : Nat → Ram w) (location : BitVec 32) (totalApCoresLaunched : BitVec 16) (look : Nat) :
    Turn Nat Nat :=
  if apSyncCoreNumber (ram look) location ≠ totalApCoresLaunched then .next (look + 1) else .done look

/-- `RestoreResetVector`: the memory after it; `none` if `fuel` looks are not enough. -/
def restoreResetVector (fuel : Nat) (ram : Nat → Ram w) (totalApCoresLaunched : BitVec 16) (s : LaunchState w) :
    Option (Ram w) :=
  (run (restoreTurn ram s.apLaunchGlobalData.allowToLaunchNextThreadLocation totalApCoresLaunched) fuel 0).map fun look =>
    copyTo (ram look) (s.apStartupVector.setWidth w - .ofNat w apStartupCodeOffset) s.memoryContentCopy

/-- The bytes from 0x240 before the vector up to 0x10 behind it. -/
def InRegion (v x : BitVec w) : Prop := (x - (v - .ofNat w 0x240)).toNat < 0x250

/-- The first look at which all APs have counted themselves. -/
def EndsWait (ram : Nat → Ram w) (location : BitVec 32) (total : BitVec 16) (look : Nat) : Prop :=
  apSyncCoreNumber (ram look) location = total ∧ ∀ earlier < look, apSyncCoreNumber (ram earlier) location ≠ total

theorem restoreTurn_returns {ram : Nat → Ram w} {location : BitVec 32} {total : BitVec 16}
    (hsignal : ∃ look, apSyncCoreNumber (ram look) location = total) :
    ∃ look, Returns (restoreTurn ram location total) 0 look ∧ EndsWait ram location total look := by
  obtain ⟨last, hlast⟩ := hsignal
  refine returns_of_measure
    (fun look => look ≤ last ∧ ∀ earlier < look, apSyncCoreNumber (ram earlier) location ≠ total) _
    (fun look => last - look) ?_ ⟨Nat.zero_le last, fun _ h => absurd h (Nat.not_lt_zero _)⟩
  rintro look ⟨hle, hearlier⟩
  unfold restoreTurn
  by_cases hdone : apSyncCoreNumber (ram look) location = total
  · exact .inr ⟨look, if_neg (not_not.2 hdone), hdone, hearlier⟩
  · have hne : look ≠ last := fun heq => hdone (heq ▸ hlast)
    refine .inl ⟨look + 1, if_pos hdone, ⟨by omega, fun earlier hlt => ?_⟩, by omega⟩
    rcases Nat.lt_succ_iff_lt_or_eq.mp hlt with hlt | rfl
    · exact hearlier earlier hlt
    · exact hdone

theorem setupApStartupRegion64_outside (fw : HostFirmware) (addr : Addresses 64) (frame : Frame64) (c3Value : BitVec 64)
    (input : CcxInputBlock) (s : LaunchState 64) {x : BitVec 64} (hx : ¬InRegion fw.apStartupVector64 x) :
    (setupApStartupRegion64 fw addr frame c3Value input s).ram x = s.ram x := by
  have hlen := length_apStartupCode64 fw addr.apAsmCode frame.addressOfApLaunchGlobalData
  rw [setupApStartupRegion64_eq]
  refine ram_afterSetup_outside _ _ _ input addr s (tailFits64 c3Value) (length_settings64_le addr frame _)
    (by rw [hlen]; decide) ?_
  rw [BitVec.setWidth_eq]
  exact Nat.le_of_not_lt hx

/-- The region is as it was before the launch, whatever the APs have done to it, and neither of the two functions
changes memory outside it: there it is as the look found it that ended the wait. -/
theorem apLaunch_restores_region (fw : HostFirmware) (addr : Addresses 64) (frame : Frame64) (c3Value : BitVec 64)
    (input : CcxInputBlock) (s : LaunchState 64) (ram : Nat → Ram 64) (total : BitVec 16)
    (hsignal : ∃ look, apSyncCoreNumber (ram look) (setupApStartupRegion64 fw addr frame c3Value input
      s).apLaunchGlobalData.allowToLaunchNextThreadLocation = total) :
    (∀ x, ¬InRegion fw.apStartupVector64 x → (setupApStartupRegion64 fw addr frame c3Value input s).ram x = s.ram x) ∧
    ∃ fuel look m, EndsWait ram (setupApStartupRegion64 fw addr frame c3Value input
        s).apLaunchGlobalData.allowToLaunchNextThreadLocation total look ∧
      restoreResetVector fuel ram total (setupApStartupRegion64 fw addr frame c3Value input s) = some m ∧
      (∀ x, InRegion fw.apStartupVector64 x → m x = s.ram x) ∧
      ∀ x, ¬InRegion fw.apStartupVector64 x → m x = ram look x := by
  refine ⟨fun x => setupApStartupRegion64_outside fw addr frame c3Value input s, ?_⟩
  obtain ⟨look, ⟨fuel, hrun⟩, hends⟩ := restoreTurn_returns hsignal
  have hsaved : ∀ x, copyTo (ram look) (fw.apStartupVector64.setWidth 64 - .ofNat 64 apStartupCodeOffset)
      (setupApStartupRegion64 fw addr frame c3Value input s).memoryContentCopy x =
        if (x - (fw.apStartupVector64 - .ofNat 64 0x240)).toNat < 0x250 then s.ram x else ram look x := by
    intro x
    have hsize : apTempBufferSize = 0x250 := rfl
    have hoffset : apStartupCodeOffset = 0x240 := rfl
    rw [setupApStartupRegion64, memoryContentCopy_setupRegion, copyTo_bytesAt, BitVec.setWidth_eq, hsize, hoffset]
  refine ⟨fuel, look, _, hends, by rw [restoreResetVector, hrun, Option.map_some], fun x hx => ?_, fun x hx => ?_⟩
  · exact (hsaved x).trans (if_pos hx)
  · exact (hsaved x).trans (if_neg hx)

def twoCoresRun (look : Nat) : Ram 64 :=
  copyTo (setupApStartupRegion64 onyxFirmware launchAddresses launchFrame 0 keepFixedMtrrs launchStart).ram 0x76FFFFFE
    (Bytes.leBytes (min look 2) 2)

theorem apLaunch_restores_region_twoCores :
    apSyncCoreNumber (twoCoresRun 0) 0x76FFFFFE = 0 ∧ apSyncCoreNumber (twoCoresRun 2) 0x76FFFFFE = 2 ∧
    ∃ fuel look m, EndsWait twoCoresRun 0x76FFFFFE 2 look ∧
      restoreResetVector fuel twoCoresRun 2 (setupApStartupRegion64 onyxFirmware launchAddresses launchFrame 0 keepFixedMtrrs
        launchStart) = some m ∧
      (∀ x, InRegion onyxFirmware.apStartupVector64 x → m x = 0) ∧
      ∀ x, ¬InRegion onyxFirmware.apStartupVector64 x → m x = twoCoresRun look x :=
  ⟨by decide, by decide, (apLaunch_restores_region onyxFirmware launchAddresses launchFrame 0 keepFixedMtrrs launchStart
    twoCoresRun 2 ⟨2, by decide⟩).2⟩

end OpenSil.ApLaunch
