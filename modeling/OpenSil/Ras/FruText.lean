import OpenSil.Lib.Marks
import OpenSil.Status

/-! # FRU texts of the DIMMs

`xPrfUpdateDimmFruTextToMca` writes texts into the UMC registers of channels that are not harvested.
-/

namespace OpenSil.FruText

open Marks List BitVec

abbrev Smn := BitVec 32 → BitVec 32 → BitVec 32 → BitVec 32

def xUSLSmnWrite (segment bus address value : BitVec 32) (smn : Smn) : Smn := fun segment' bus' address' =>
  if segment' = segment ∧ bus' = bus ∧ address' = address then value else smn segment' bus' address'

structure FruTextEntry where
  socket : BitVec 16
  die : BitVec 16
  channel : BitVec 16
  module : BitVec 16
  mcaFruTextDW0 : BitVec 32
  mcaFruTextDW1 : BitVec 32
  mcaFruTextDW2 : BitVec 32
  mcaFruTextDW3 : BitVec 32

/-! ## One entry -/

def umcHarvestAddress : BitVec 32 := 0x5D288

def getUmcHarvestFuse (busNumberBase : BitVec 32) (smn : Smn) : BitVec 12 :=
  (smn 0 busNumberBase umcHarvestAddress).extractLsb' 13 12

def maxUmcChannelPerDie : Nat := 12

def writeFruText (iohcBus address : BitVec 32) (entry : FruTextEntry) (smn : Smn) : Smn :=
  let segment := iohcBus / 0x100
  let smn := xUSLSmnWrite segment iohcBus address entry.mcaFruTextDW0 smn
  let smn := xUSLSmnWrite segment iohcBus (address + 0x4) entry.mcaFruTextDW1 smn
  let smn := xUSLSmnWrite segment iohcBus (address + 0x8) entry.mcaFruTextDW2 smn
  xUSLSmnWrite segment iohcBus (address + 0xC) entry.mcaFruTextDW3 smn

def umcBaseAddress (channel : BitVec 16) : BitVec 32 := 0x50000 + 0x100000 * channel.setWidth 32

def updateFruTextToUmc (iohcBus : BitVec 32) (entry : FruTextEntry) (smn : Smn) : SilStatus × Smn :=
  if entry.channel.toNat < maxUmcChannelPerDie then
    if entry.module = 0 then (.silPass, writeFruText iohcBus (umcBaseAddress entry.channel ||| 0xC80) entry smn)
    else if entry.module = 1 then (.silPass, writeFruText iohcBus (umcBaseAddress entry.channel ||| 0xC90) entry smn)
    else (.silInvalidParameter, smn)
  else (.silInvalidParameter, smn)

/-! ## The loops -/

def FruTextEntry.IsFor (entry : FruTextEntry) (die : Nat × Nat) : Prop :=
  entry.socket = .ofNat 16 die.1 ∧ entry.die = .ofNat 16 die.2

instance (entry : FruTextEntry) (die : Nat × Nat) : Decidable (entry.IsFor die) := inferInstanceAs (Decidable (_ ∧ _))

/-- What the function is told: whether the two APIs are found, and the answers of the data fabric. -/
structure FruEnv where
  rasApiFound : Bool
  dfApiFound : Bool
  numberOfInstalledProcessors : Nat
  totalNumberOfDie : Nat → Nat
  busNumberBase : Nat → Nat → BitVec 32

section
variable (env : FruEnv) (table : List FruTextEntry)

def applyEntry (die : Nat × Nat) (smuFuse : BitVec 12) (s : SilStatus × Smn) (entry : FruTextEntry) :
    Option (SilStatus × Smn) :=
  if entry.IsFor die then
    if entry.channel.toNat < 32 then
      if smuFuse.setWidth 32 &&& ((1 : BitVec 32) <<< entry.channel.toNat) = 0 then
        some (updateFruTextToUmc (env.busNumberBase die.1 die.2) entry s.2)
      else some s
    else none
  else some s

def applyDie (s : SilStatus × Smn) (die : Nat × Nat) : Option (SilStatus × Smn) :=
  table.foldlM (applyEntry env die (getUmcHarvestFuse (env.busNumberBase die.1 die.2) s.2)) s

def FruEnv.dies : List (Nat × Nat) :=
  (List.range env.numberOfInstalledProcessors).flatMap fun socket =>
    (List.range (env.totalNumberOfDie socket)).map fun die => (socket, die)

def xPrfUpdateDimmFruTextToMca (smn : Smn) : Option (SilStatus × Smn) :=
  if !env.rasApiFound then some (.silNotFound, smn)
  else if !env.dfApiFound then some (.silNotFound, smn)
  else env.dies.foldlM (applyDie env table) (.silPass, smn)

end

/-! ## What is applied -/

/-- A channel and a module that a die can have. -/
def FruTextEntry.Valid (entry : FruTextEntry) : Prop :=
  entry.channel.toNat < maxUmcChannelPerDie ∧ (entry.module = 0 ∨ entry.module = 1)

instance (entry : FruTextEntry) : Decidable entry.Valid := inferInstanceAs (Decidable (_ ∧ _))

def FruTextEntry.status (entry : FruTextEntry) : SilStatus := if entry.Valid then .silPass else .silInvalidParameter

def appliedOn (env : FruEnv) (table : List FruTextEntry) (smn : Smn) (die : Nat × Nat) : List FruTextEntry :=
  table.filter fun entry => decide (entry.IsFor die ∧
    (getUmcHarvestFuse (env.busNumberBase die.1 die.2) smn).getLsbD entry.channel.toNat = false)

def applied (env : FruEnv) (table : List FruTextEntry) (smn : Smn) : List FruTextEntry :=
  env.dies.flatMap (appliedOn env table smn)

open FruTextEntry

section
variable (iohcBus : BitVec 32) (entry : FruTextEntry)

theorem updateFruTextToUmc_status (smn : Smn) :
    (updateFruTextToUmc iohcBus entry smn).1 = entry.status := by
  unfold updateFruTextToUmc status
  by_cases hchannel : entry.channel.toNat < maxUmcChannelPerDie
  · rw [if_pos hchannel]
    by_cases hzero : entry.module = 0
    · rw [if_pos hzero, if_pos ⟨hchannel, .inl hzero⟩]
    · by_cases hone : entry.module = 1
      · rw [if_neg hzero, if_pos hone, if_pos ⟨hchannel, .inr hone⟩]
      · rw [if_neg hzero, if_neg hone, if_neg fun h => h.2.elim hzero hone]
  · rw [if_neg hchannel, if_neg fun h => hchannel h.1]

/-! ## The fuses stay -/

theorem getUmcHarvestFuse_write {segment bus address : BitVec 32} (value : BitVec 32) (smn : Smn) (b : BitVec 32)
    (h : umcHarvestAddress ≠ address) :
    getUmcHarvestFuse b (xUSLSmnWrite segment bus address value smn) = getUmcHarvestFuse b smn := by
  unfold getUmcHarvestFuse xUSLSmnWrite
  rw [if_neg fun hsame => h hsame.2.2]

theorem umcHarvestAddress_ne {channel : BitVec 16} (h : channel.toNat < maxUmcChannelPerDie) :
    ∀ base ∈ [umcBaseAddress channel ||| 0xC80, umcBaseAddress channel ||| 0xC90],
      ∀ offset ∈ [0x0, 0x4, 0x8, 0xC], umcHarvestAddress ≠ base + offset := by
  obtain ⟨n, hn, rfl⟩ : ∃ n < 12, channel = .ofNat 16 n := ⟨channel.toNat, h, by simp⟩
  interval_cases n <;> simp [umcHarvestAddress, umcBaseAddress]

theorem getUmcHarvestFuse_writeFruText {address : BitVec 32} (smn : Smn) (b : BitVec 32)
    (h : ∀ offset ∈ [0x0, 0x4, 0x8, 0xC], umcHarvestAddress ≠ address + offset) :
    getUmcHarvestFuse b (writeFruText iohcBus address entry smn) = getUmcHarvestFuse b smn := by
  simp only [forall_mem_cons] at h
  obtain ⟨h0, h4, h8, hC, -⟩ := h
  replace h0 : umcHarvestAddress ≠ address := by simpa using h0
  unfold writeFruText
  dsimp only
  rw [getUmcHarvestFuse_write _ _ _ hC, getUmcHarvestFuse_write _ _ _ h8, getUmcHarvestFuse_write _ _ _ h4,
    getUmcHarvestFuse_write _ _ _ h0]

theorem getUmcHarvestFuse_update (smn : Smn) (b : BitVec 32) :
    getUmcHarvestFuse b (updateFruTextToUmc iohcBus entry smn).2 = getUmcHarvestFuse b smn := by
  unfold updateFruTextToUmc
  split_ifs with hchannel
  · exact getUmcHarvestFuse_writeFruText _ _ _ _ (umcHarvestAddress_ne hchannel _ (by simp))
  · exact getUmcHarvestFuse_writeFruText _ _ _ _ (umcHarvestAddress_ne hchannel _ (by simp))
  · rfl
  · rfl

end

theorem and_shiftLeft_eq_zero {fuse : BitVec 12} {channel : Nat} (h : channel < 32) :
    fuse.setWidth 32 &&& ((1 : BitVec 32) <<< channel) = 0 ↔ fuse.getLsbD channel = false := by
  have hpow : (1 : BitVec 32) <<< channel = twoPow 32 channel := (twoPow_eq 32 channel).symm
  rw [hpow, and_twoPow, getLsbD_setWidth, decide_eq_true h, Bool.true_and]
  cases fuse.getLsbD channel with
  | false => simp
  | true =>
    have hne : twoPow 32 channel ≠ 0 := by
      intro hzero
      have hbit := congrArg (·.getLsbD channel) hzero
      simp [h] at hbit
    simpa using hne

/-! ## The status of a run -/

section
variable (env : FruEnv) (table : List FruTextEntry) (die : Nat × Nat)

def seen (s : SilStatus × Smn) : SilStatus × (BitVec 32 → BitVec 12) := (s.1, fun bus => getUmcHarvestFuse bus s.2)

def FruTextEntry.Shiftable (entry : FruTextEntry) : Prop := entry.IsFor die → entry.channel.toNat < 32

theorem applyEntry_tracking (fuse : BitVec 12) :
    Tracking seen (applyEntry env die fuse) (Shiftable die) fun t entry =>
      if entry.IsFor die ∧ fuse.getLsbD entry.channel.toNat = false then (entry.status, t.2) else t where
  next s entry hok := by
    unfold applyEntry
    by_cases hfor : entry.IsFor die
    · have hchannel := hok hfor
      rw [if_pos hfor, if_pos hchannel]
      simp only [and_shiftLeft_eq_zero hchannel, hfor, true_and]
      split_ifs with hfuse
      · refine ⟨_, rfl, ?_⟩
        simp [seen, updateFruTextToUmc_status, getUmcHarvestFuse_update]
      · exact ⟨s, rfl, rfl⟩
    · rw [if_neg hfor, if_neg fun h => hfor h.1]
      exact ⟨s, rfl, rfl⟩
  stop s entry hok := by
    obtain ⟨hfor, hchannel⟩ := Classical.not_imp.mp hok
    unfold applyEntry
    rw [if_pos hfor, if_neg hchannel]

theorem applyDie_tracking :
    Tracking seen (applyDie env table) (fun die => ∀ entry ∈ table, entry.Shiftable die) fun t die =>
      table.foldl (fun t' entry => if entry.IsFor die ∧
        (t.2 (env.busNumberBase die.1 die.2)).getLsbD entry.channel.toNat = false
        then (entry.status, t'.2) else t') t where
  next s die hok := (applyEntry_tracking env die _).loop.next s table hok
  stop s die hok := (applyEntry_tracking env die _).loop.stop s table hok

theorem foldl_status {ψ : Type} (p : FruTextEntry → Prop) [DecidablePred p] (t : SilStatus × ψ) :
    table.foldl (fun t entry => if p entry then (entry.status, t.2) else t) t =
      ((table.filter p).foldl (fun _ entry => entry.status) t.1, t.2) := by
  induction table generalizing t with
  | nil => rfl
  | cons entry table ih => grind

theorem foldl_dies (smn : Smn) (dies : List (Nat × Nat)) (status : SilStatus) :
    (dies.foldl (fun t die => table.foldl (fun t' entry => if entry.IsFor die ∧
        (t.2 (env.busNumberBase die.1 die.2)).getLsbD entry.channel.toNat = false
        then (entry.status, t'.2) else t') t) (status, (seen (status, smn)).2)).1 =
      (dies.flatMap (appliedOn env table smn)).foldl (fun _ entry => entry.status) status := by
  induction dies generalizing status with
  | nil => rfl
  | cons die dies ih =>
    rw [foldl_cons, foldl_status, flatMap_cons, foldl_append]
    exact ih _

theorem foldl_getLast (l : List FruTextEntry) (status : SilStatus) :
    l.foldl (fun _ entry => entry.status) status = (l.getLast?.map FruTextEntry.status).getD status := by
  induction l using reverseRecOn with
  | nil => rfl
  | append_singleton l entry ih => simp

end

section
variable (env : FruEnv) (table : List FruTextEntry) (smn : Smn)

/-- Both APIs are there, and no entry is shifted by 32 or more. -/
def Runs : Prop :=
  (env.rasApiFound = true ∧ env.dfApiFound = true) ∧ ∀ die ∈ env.dies, ∀ entry ∈ table, entry.Shiftable die

def lastStatus : SilStatus := ((applied env table smn).getLast?.map FruTextEntry.status).getD .silPass

theorem xPrfUpdateDimmFruTextToMca_runs {env : FruEnv} {table : List FruTextEntry} (smn : Smn) (h : Runs env table) :
    ∃ smn', xPrfUpdateDimmFruTextToMca env table smn = some (lastStatus env table smn, smn') := by
  obtain ⟨⟨hras, hdf⟩, hok⟩ := h
  obtain ⟨s, hs, hview⟩ := (applyDie_tracking env table).loop.next (.silPass, smn) env.dies hok
  have hstatus : s.1 = lastStatus env table smn := by
    have hfold := congrArg Prod.fst hview
    rw [show seen (.silPass, smn) = (.silPass, (seen (.silPass, smn)).2) from rfl, foldl_dies, foldl_getLast] at hfold
    exact hfold
  refine ⟨s.2, ?_⟩
  unfold xPrfUpdateDimmFruTextToMca
  rw [hras, hdf, ← hstatus]
  exact hs

theorem xPrfUpdateDimmFruTextToMca_not_runs {env : FruEnv} {table : List FruTextEntry} (smn : Smn)
    (h : ¬Runs env table) : xPrfUpdateDimmFruTextToMca env table smn = none ∨
      xPrfUpdateDimmFruTextToMca env table smn = some (.silNotFound, smn) := by
  unfold xPrfUpdateDimmFruTextToMca
  cases hras : env.rasApiFound with
  | false => exact .inr rfl
  | true =>
    cases hdf : env.dfApiFound with
    | false => exact .inr rfl
    | true =>
      exact .inl ((applyDie_tracking env table).loop.stop _ _ fun hok => h ⟨⟨hras, hdf⟩, hok⟩)

/-- `SilPass` is for a table of which all applied entries are accepted, and one rejected entry is reported. -/
def Reports : Prop :=
  ∃ status smn', xPrfUpdateDimmFruTextToMca env table smn = some (status, smn') ∧
    (status = .silPass ↔ ∀ entry ∈ applied env table smn, entry.Valid) ∧
    ((∃ entry ∈ applied env table smn, ¬entry.Valid) → status = .silInvalidParameter)

theorem status_eq_silPass {entry : FruTextEntry} : entry.status = .silPass ↔ entry.Valid := by
  unfold status
  split_ifs with h <;> simp [h]

theorem lastStatus_eq_silPass :
    lastStatus env table smn = .silPass ↔ ∀ entry ∈ (applied env table smn).getLast?, entry.Valid := by
  unfold lastStatus
  cases (applied env table smn).getLast? with
  | none => simp
  | some entry => simp [status_eq_silPass]

theorem lastStatus_eq (h : lastStatus env table smn ≠ .silPass) :
    lastStatus env table smn = .silInvalidParameter := by
  unfold lastStatus at h ⊢
  cases hlast : (applied env table smn).getLast? with
  | none => simp [hlast] at h
  | some entry =>
    have hnot : ¬entry.Valid := fun hvalid => h (by simp [hlast, status_eq_silPass, hvalid])
    simp [status, hnot]

/-- The one status variable is set by every entry applied, so that an entry after a rejected one hides it. -/
theorem reports_iff_last_valid :
    Reports env table smn ↔ Runs env table ∧
      ((∀ entry ∈ (applied env table smn).getLast?, entry.Valid) → ∀ entry ∈ applied env table smn, entry.Valid) := by
  constructor
  · rintro ⟨status, smn', hrun, hpass, hfail⟩
    by_cases hruns : Runs env table
    · obtain ⟨smn'', hlast⟩ := xPrfUpdateDimmFruTextToMca_runs smn hruns
      obtain ⟨rfl, -⟩ := Prod.mk.inj (Option.some.inj (hrun.symm.trans hlast))
      exact ⟨hruns, fun h => hpass.mp ((lastStatus_eq_silPass env table smn).mpr h)⟩
    · exfalso
      obtain hnone | hfound := xPrfUpdateDimmFruTextToMca_not_runs smn hruns
      · simp [hrun] at hnone
      · obtain ⟨rfl, -⟩ := Prod.mk.inj (Option.some.inj (hrun.symm.trans hfound))
        -- neither case of the report is `SilNotFound`
        by_cases hall : ∀ entry ∈ applied env table smn, entry.Valid
        · exact absurd (hpass.mpr hall) (by decide)
        · push Not at hall
          exact absurd (hfail hall) (by decide)
  · rintro ⟨hruns, hhide⟩
    obtain ⟨smn', hlast⟩ := xPrfUpdateDimmFruTextToMca_runs smn hruns
    have hiff : lastStatus env table smn = .silPass ↔ ∀ entry ∈ applied env table smn, entry.Valid :=
      ⟨fun h => hhide ((lastStatus_eq_silPass env table smn).mp h), fun h =>
        (lastStatus_eq_silPass env table smn).mpr fun entry hentry => h entry (mem_of_getLast? hentry)⟩
    refine ⟨_, smn', hlast, hiff, ?_⟩
    rintro ⟨entry, hentry, hnot⟩
    exact lastStatus_eq env table smn fun h => hnot (hiff.mp h entry hentry)

end

/-! ## A rejected entry that is not reported -/

def oneDie : FruEnv where
  rasApiFound := true
  dfApiFound := true
  numberOfInstalledProcessors := 1
  totalNumberOfDie _ := 1
  busNumberBase _ _ := 0

def wrongThenRight : List FruTextEntry := [⟨0, 0, 0, 2, 0, 0, 0, 0⟩, ⟨0, 0, 0, 0, 0, 0, 0, 0⟩]

theorem rejected_then_accepted :
    ((xPrfUpdateDimmFruTextToMca oneDie wrongThenRight fun _ _ _ => 0).map Prod.fst = some .silPass ∧
      ∃ entry ∈ applied oneDie wrongThenRight fun _ _ _ => 0, ¬entry.Valid) ∧
    ¬Reports oneDie wrongThenRight fun _ _ _ => 0 := by
  have hbad : ∃ entry ∈ applied oneDie wrongThenRight fun _ _ _ => 0, ¬entry.Valid := by decide
  have hrun : (xPrfUpdateDimmFruTextToMca oneDie wrongThenRight fun _ _ _ => 0).map Prod.fst = some .silPass := by
    decide
  refine ⟨⟨hrun, hbad⟩, ?_⟩
  rintro ⟨status, smn', heq, -, hfail⟩
  rw [heq, hfail hbad] at hrun
  cases hrun

end OpenSil.FruText
