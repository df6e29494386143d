import OpenSil.Ccx.AmdTableRun

/-! # Entries for several SMN registers

For which entries `SetSmnMultiEntry` comes to its end, with the registers of the entry and no others.
-/

open OpenSil.Bytes OpenSil.Loop

namespace OpenSil.AmdTable

variable {e : SmnMultiTypeEntryData}

/-- On the BSP the handler returns, and every register of the entry has been modified, in order. -/
def SmnMultiTypeEntryData.Performed (e : SmnMultiTypeEntryData) : Prop :=
  ∀ (σ : Type) (hw : Hardware σ) (m : Mem) (a : Nat) (s : TableState hw), hw.xUslIsBsp = true →
    (hw.silDebugEnable = true → e.mask ≠ 0) → Holds m a e.bytes →
    ∃ s', (∃ fuel, setSmnMultiEntry fuel m a s = some (.next (a + 24) s')) ∧
      s'.state = e.registers.foldl (fun s index => rmwSmn hw e.instanceId index (e.mask, e.data) s) s.state

/-- One die, which records the registers that are modified. -/
def recording : Hardware (List UInt32) where
  xUslRdMsr _ s := (0, s)
  xUslWrMsr _ _ s := s
  xUSLPciRead32 _ s := (0, s)
  xUSLPciWrite32 _ _ s := s
  smuRegisterRMW _ registerIndex _ _ s := s ++ [registerIndex]
  dfGetSystemInfo := 1
  xUslIsBsp := true
  silDebugEnable := false

def recorded : TableState recording := ⟨[], 0xFF, .inl rfl⟩

theorem rmwSmn_recording (instanceId registerIndex : UInt32) (v : UInt32 × UInt32) (s : List UInt32) :
    rmwSmn recording instanceId registerIndex v s = s ++ [registerIndex] := by
  unfold rmwSmn
  split_ifs <;> rfl

theorem returns_of_setSmnMultiEntry {fuel : Nat} {s : TableState recording} {step : Step recording}
    (h : setSmnMultiEntry fuel (ofBytes e.bytes) 0 s = some step) :
    ∃ s', step = .next 24 s' ∧ Returns (smnMultiTurn e) (e.registerIndexStart, s) s' := by
  unfold setSmnMultiEntry at h
  simp only [SmnMultiTypeEntryData.read_of_holds (holds_ofBytes e.bytes)] at h
  obtain ⟨s', hrun, rfl⟩ := Option.map_eq_some_iff.mp h
  exact ⟨s', rfl, fuel, hrun⟩

open Nat

section
variable (hle : e.registerIndexStart ≤ e.registerIndexEnd) (hends : ¬e.RangeEnds)
include hle hends

/-- Where the range does not end, the index that follows the last register is in the range again. -/
theorem index_le {i : Nat} (hi : i ≤ e.registers.length) :
    (e.registerIndexStart.toNat + i * e.steps.toNat) % 2 ^ 32 ≤ e.registerIndexEnd.toNat := by
  have hlength : e.registers.length = (e.registerIndexEnd.toNat - e.registerIndexStart.toNat) / e.steps.toNat + 1 := by
    simp [SmnMultiTypeEntryData.registers, hle]
  have hend := e.registerIndexEnd.toNat_lt
  have hstep := e.steps.toNat_lt
  rw [SmnMultiTypeEntryData.RangeEnds, Classical.not_imp, not_and', not_lt, ← hlength] at hends
  rw [UInt32.le_iff_toNat_le] at hle
  have hmul := div_mul_le_self (e.registerIndexEnd.toNat - e.registerIndexStart.toNat) e.steps.toNat
  rcases Nat.eq_zero_or_pos e.steps.toNat with hzero | hpos
  · rw [hzero, mul_zero, add_zero]
    exact (mod_le _ _).trans hle
  rcases lt_or_eq_of_le hi with hlt | rfl
  · have := mul_le_mul_right e.steps.toNat (le_of_lt_succ (hlength ▸ hlt))
    exact (mod_le _ _).trans (by omega)
  · have hwrap : 2 ^ 32 ≤ e.registerIndexStart.toNat + e.registers.length * e.steps.toNat := by
      by_contra hlt
      exact absurd hpos (hends.2 (not_le.mp hlt)).not_gt
    have hlast : e.registers.length * e.steps.toNat =
        (e.registerIndexEnd.toNat - e.registerIndexStart.toNat) / e.steps.toNat * e.steps.toNat + e.steps.toNat := by
      rw [hlength, succ_mul]
    rw [mod_eq_sub_mod hwrap]
    exact (mod_le _ _).trans (by omega)

/-- The loop leaves, if at all, only after more turns than the entry has registers. -/
theorem length_lt_of_returns {s' : TableState recording}
    (h : Returns (smnMultiTurn e) (e.registerIndexStart, recorded) s') :
    e.registers.length < s'.state.length := by
  refine h.of_invariant
    (fun r => r.2.state.length ≤ e.registers.length →
      r.1.toNat = (e.registerIndexStart.toNat + r.2.state.length * e.steps.toNat) % 2 ^ 32)
    (fun s => e.registers.length < s.state.length) ?_ ?_ ?_
  · intro _
    simp [recorded]
  · rintro ⟨index, s⟩ r' hinv hturn
    unfold smnMultiTurn at hturn
    split_ifs at hturn
    cases hturn
    intro hlength
    simp only [setSmnTableEntry_state, rmwSmn_recording, List.length_append, List.length_singleton] at hlength ⊢
    rw [UInt32.toNat_add, hinv (le_of_succ_le hlength), mod_add_mod, succ_mul, add_assoc]
  · rintro ⟨index, s⟩ r' hinv hturn
    unfold smnMultiTurn at hturn
    split_ifs at hturn with hin
    cases hturn
    by_contra hlength
    rw [not_lt] at hlength
    rw [UInt32.le_iff_toNat_le, hinv hlength] at hin
    exact hin (index_le hle hends hlength)

end

theorem foldl_rmwSmn_recording (l s : List UInt32) :
    l.foldl (fun s index => rmwSmn recording e.instanceId index (e.mask, e.data) s) s = s ++ l := by
  induction l generalizing s with
  | nil => simp
  | cons index l ih => rw [List.foldl_cons, ih, rmwSmn_recording, List.append_assoc, List.singleton_append]

theorem setSmnMultiEntry_performed_iff : e.Performed ↔ e.RangeEnds := by
  constructor
  · intro hperformed
    by_contra hends
    have hle : e.registerIndexStart ≤ e.registerIndexEnd := by
      by_contra hgt
      exact hends fun hle => absurd hle hgt
    obtain ⟨s', ⟨fuel, hrun⟩, hstate⟩ := hperformed _ recording (ofBytes e.bytes) 0 recorded rfl
      (fun h => absurd h Bool.false_ne_true) (holds_ofBytes _)
    obtain ⟨_, ⟨⟩, hreturns⟩ := returns_of_setSmnMultiEntry hrun
    have hlength := length_lt_of_returns hle hends hreturns
    rw [hstate, foldl_rmwSmn_recording] at hlength
    exact lt_irrefl _ hlength
  · intro hends σ hw m a s hbsp hmask hbytes
    obtain ⟨s', ⟨n, hrun⟩, hstate⟩ := setSmnMultiEntry_spec (s := s) hbytes (fun hd _ => hmask hd) fun _ => hends
    refine ⟨s', ⟨n, hrun n le_rfl⟩, ?_⟩
    rwa [if_pos hbsp] at hstate

def zeroSteps : SmnMultiTypeEntryData := ⟨0, 0x1000, 0x1000, 0, 1, 1⟩

theorem setSmnMultiEntry_zeroSteps :
    zeroSteps.registers = [0x1000] ∧ ¬∃ fuel step, setSmnMultiEntry fuel (ofBytes zeroSteps.bytes) 0 recorded = some step := by
  refine ⟨by decide, ?_⟩
  rintro ⟨fuel, step, hrun⟩
  obtain ⟨s', -, hreturns⟩ := returns_of_setSmnMultiEntry hrun
  refine hreturns.of_invariant (fun r => r.1 = 0x1000) (fun _ => False) rfl ?_ ?_
  · rintro ⟨index, s⟩ r' rfl hturn
    cases hturn
    rfl
  · rintro ⟨index, s⟩ r' rfl hturn
    cases hturn

end OpenSil.AmdTable
