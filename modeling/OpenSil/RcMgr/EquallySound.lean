import OpenSil.RcMgr.CombinationSound
import OpenSil.RcMgr.EquallyWindows

/-! # What the equal shares leave in the manager -/

namespace OpenSil.RcMgr

open Word Stores Table List Option EquallyWindow

section
variable (blk : InputBlk) (sys : SystemInfo) (df : DfAnswers)

/-! ## Below 4G -/

theorem setEquallyBelow4G_region (out : MmioState) (w : EquallyWindow) :
    entry (setEquallyBelow4G blk sys df out w).manager.mmioRegionBelow4G =
      Function.update (entry out.manager.mmioRegionBelow4G) w.rb (equallyRegion blk w.mmioBaseAddr w.mmioSize) :=
  entry_set _ _ _

theorem setEquallyBelow4G_flag (out : MmioState) (w : EquallyWindow) :
    entry (setEquallyBelow4G blk sys df out w).manager.allocateMmioBelow4GOnThisRb =
      Function.update (entry out.manager.allocateMmioBelow4GOnThisRb) w.rb true :=
  entry_set _ _ _

variable (out : MmioState) {ws : List EquallyWindow} (hnodup : (ws.map EquallyWindow.rb).Nodup) {w : EquallyWindow}
  (hw : w ∈ ws)

def placedEqually (ws : List EquallyWindow) : MmioState := ws.foldl (setEquallyBelow4G blk sys df) out

include hnodup hw

theorem placedEqually_region :
    entry (placedEqually blk sys df out ws).manager.mmioRegionBelow4G w.rb =
      equallyRegion blk w.mmioBaseAddr w.mmioSize := by
  have h := foldl_of_mem (fun s : MmioState => entry s.manager.mmioRegionBelow4G) rb
    (fun w => equallyRegion blk w.mmioBaseAddr w.mmioSize) (setEquallyBelow4G_region blk sys df) hnodup hw out
  exact h

theorem placedEqually_flag :
    entry (placedEqually blk sys df out ws).manager.allocateMmioBelow4GOnThisRb w.rb = true := by
  have h := foldl_of_mem (fun s : MmioState => entry s.manager.allocateMmioBelow4GOnThisRb) rb
    (fun _ => true) (setEquallyBelow4G_flag blk sys df) hnodup hw out
  exact h

end

/-! ## The second region -/

variable {blk : InputBlk} {sys : SystemInfo} {df : DfAnswers} {out out' : MmioState} {rb : Nat × Nat}

theorem addEquallySecond_region (hflag : entry out.manager.allocateMmioBelow4GOnThisRb rb = true) :
    entry (addEquallySecond blk sys df out).1.manager.mmioRegionBelow4G rb = entry out.manager.mmioRegionBelow4G rb := by
  unfold addEquallySecond
  split
  · rename_i w slot _ hslot
    have hne : rb ≠ slot := fun h => by
      rw [h] at hflag
      exact absurd (hflag.symm.trans (spareSlot_free hslot)) (by simp)
    show entry (out.manager.mmioRegionBelow4G.set slot.1 slot.2 _) rb = _
    rw [entry_set, Function.update_of_ne hne]
  · rfl

theorem addEquallySecond_keeps :
    (addEquallySecond blk sys df out).1.manager.allocateMmioBelow4GOnThisRb = out.manager.allocateMmioBelow4GOnThisRb ∧
    (addEquallySecond blk sys df out).1.manager.allocateMmioAbove4GOnThisRb = out.manager.allocateMmioAbove4GOnThisRb ∧
    (addEquallySecond blk sys df out).1.manager.mmioRegionAbove4G = out.manager.mmioRegionAbove4G := by
  unfold addEquallySecond
  split <;> exact ⟨rfl, rfl, rfl⟩

/-! ## Above 4G -/

section
variable (blk : InputBlk) (sys : SystemInfo) (df : DfAnswers) (out : MmioState)

theorem arrangeEquallyAbove4G_region :
    (arrangeEquallyAbove4G blk sys df out).manager.mmioRegionBelow4G = out.manager.mmioRegionBelow4G := by
  unfold arrangeEquallyAbove4G
  have hset := foldl_keep (p := fun s : MmioState => s.manager.mmioRegionBelow4G)
    (f := setEquallyAbove4G blk sys df) (fun _ _ => rfl) (equallyAbove4G blk sys)
  have hmark := foldl_keep (p := fun s : MmioState => s.manager.mmioRegionBelow4G)
    (f := markAbove4G) (fun _ _ => rfl) (rootBridges blk)
  rw [hset]
  split_ifs
  · exact hmark out
  · rfl

theorem setEquallyAbove4G_region (out : MmioState) (w : EquallyWindow) :
    entry (setEquallyAbove4G blk sys df out w).manager.mmioRegionAbove4G =
      Function.update (entry out.manager.mmioRegionAbove4G) w.rb (equallyRegionAbove4G blk w.mmioBaseAddr w.mmioSize) :=
  entry_set _ _ _

theorem arrangeEquallyAbove4G_regionAbove (hnodup : ((equallyAbove4G blk sys).map EquallyWindow.rb).Nodup)
    {w : EquallyWindow} (hw : w ∈ equallyAbove4G blk sys) :
    entry (arrangeEquallyAbove4G blk sys df out).manager.mmioRegionAbove4G w.rb =
      equallyRegionAbove4G blk w.mmioBaseAddr w.mmioSize := by
  have h := foldl_of_mem (fun s : MmioState => entry s.manager.mmioRegionAbove4G) rb
    (fun w => equallyRegionAbove4G blk w.mmioBaseAddr w.mmioSize) (setEquallyAbove4G_region blk sys df) hnodup hw
  exact h _

end

/-! ## The windows -/

def equallyDone (blk : InputBlk) (sys : SystemInfo) (df : DfAnswers) (out : MmioState) : MmioState :=
  let second := addEquallySecond blk sys df (placedEqually blk sys df out (equallyBelow4G blk sys df).1)
  silAdditionalMmioSetting4 blk df (!abovePcieCfgIsTooSmall blk sys || second.2)
    (arrangeEquallyAbove4G blk sys df second.1)

theorem silInitMmioEqually4_of_checks (haborts : equallyAborts blk sys = false)
    (hout : equallyOutOfResources blk sys = false) :
    silInitMmioEqually4 blk sys df out =
      match (equallyBelow4G blk sys df).2 with
      | .divisionByZero => none
      | .outOfResources rb => some (.silOutOfResources,
          markBelow4G (placedEqually blk sys df out (equallyBelow4G blk sys df).1) rb)
      | .complete => some (.silPass, equallyDone blk sys df out) := by
  unfold silInitMmioEqually4
  rw [if_neg (by rw [haborts]; simp), if_neg (by rw [hout]; simp)]
  rfl

theorem silInitMmioEqually4_pass (h : silInitMmioEqually4 blk sys df out = some (.silPass, out')) :
    equallyAborts blk sys = false ∧ equallyOutOfResources blk sys = false ∧
    (equallyBelow4G blk sys df).2 = .complete ∧ out' = equallyDone blk sys df out := by
  have haborts : equallyAborts blk sys = false := by
    by_contra haborts
    unfold silInitMmioEqually4 at h
    rw [if_pos (Bool.not_eq_false _ ▸ haborts)] at h
    cases h
  have hout : equallyOutOfResources blk sys = false := by
    by_contra hout
    unfold silInitMmioEqually4 at h
    rw [if_neg (by rw [haborts]; simp), if_pos (Bool.not_eq_false _ ▸ hout)] at h
    cases h
  rw [silInitMmioEqually4_of_checks haborts hout] at h
  cases hend : (equallyBelow4G blk sys df).2 with
  | complete => simp_all
  | divisionByZero =>
    rw [hend] at h
    cases h
  | outOfResources rb =>
    rw [hend] at h
    cases h

theorem equallyDone_manager :
    (equallyDone blk sys df out).manager = (arrangeEquallyAbove4G blk sys df (addEquallySecond blk sys df
      (placedEqually blk sys df out (equallyBelow4G blk sys df).1)).1).manager :=
  silAdditionalMmioSetting4_manager

/-- The windows of an equal distribution: below 4G one for every root bridge and perhaps a second one for the primary,
and above 4G what the registers cover. -/
structure EquallyPlacement (blk : InputBlk) (sys : SystemInfo) (df : DfAnswers) (out' : MmioState) : Prop where
  bridges : ((equallyBelow4G blk sys df).1.map EquallyWindow.rb).Perm (rootBridges blk)
  recorded : ∀ w ∈ (equallyBelow4G blk sys df).1,
    entry out'.manager.mmioRegionBelow4G w.rb = equallyRegion blk w.mmioBaseAddr w.mmioSize
  apart : (equallyWindowsBelow4G blk sys df).Pairwise EquallyWindow.Apart
  fits : ∀ w ∈ equallyWindowsBelow4G blk sys df, w.Fits blk sys
  bridgesAbove4G : ((equallyAbove4G blk sys).map EquallyWindow.rb).Sublist (rootBridges blk)
  recordedAbove4G : ∀ w ∈ equallyAbove4G blk sys,
    entry out'.manager.mmioRegionAbove4G w.rb = equallyRegionAbove4G blk w.mmioBaseAddr w.mmioSize
  above4G : FillsUp blk sys (equallyAbove4G blk sys) (equallyWindow blk sys).base.toNat

theorem equallyAbove4G_fills (sys : SystemInfo) (hcount : (rootBridges blk).length < 256) (hne : rootBridges blk ≠ []) :
    FillsUp blk sys (equallyAbove4G blk sys) (equallyWindow blk sys).base.toNat ∧
      ((equallyAbove4G blk sys).map EquallyWindow.rb).Sublist (rootBridges blk) := by
  unfold equallyAbove4G
  dsimp only
  split_ifs with hlt
  · exact equallyAbove4GFrom_fills (lastOnly_rootBridges blk) (sum_shareAbove4G hcount hne hlt).le
  · exact ⟨⟨.nil, by simp, by simp⟩, nil_sublist _⟩

theorem equallyPlacement_of_complete (out : MmioState) (hsides : Sides blk sys) (hout : equallyOutOfResources blk sys = false)
    (hprimary : primaryRb df ∈ rootBridges blk) (hcount : (rootBridges blk).length < 256)
    (hend : (equallyBelow4G blk sys df).2 = .complete) : EquallyPlacement blk sys df (equallyDone blk sys df out) := by
  obtain ⟨⟨as, bs, hsplit, habove, hfills⟩, hperm⟩ := equallyBelow4G_spec hsides hout hcount hprimary hend
  have hnodup : ((equallyBelow4G blk sys df).1.map EquallyWindow.rb).Nodup := hperm.symm.nodup (nodup_rootBridges blk)
  have hlength : (as ++ bs).length = (systemRbNumber blk).toNat := by
    rw [← hsplit, toNat_systemRbNumber hcount, ← hperm.length_eq, length_map]
  obtain ⟨habove4G, hsub⟩ := equallyAbove4G_fills sys hcount (ne_nil_of_mem hprimary)
  constructor
  case bridges => exact hperm
  case recorded =>
    intro w hw
    rw [equallyDone_manager, arrangeEquallyAbove4G_region,
      addEquallySecond_region (placedEqually_flag blk sys df out hnodup hw)]
    exact placedEqually_region blk sys df out hnodup hw
  case apart =>
    unfold equallyWindowsBelow4G
    rw [hsplit]
    refine pairwise_append.mpr ⟨hfills.pairwise hsides, ?_, fun w hw w' hw' => ?_⟩
    · simp
    · exact (hfills.second hsides habove hlength (mem_toList.mp hw')).2 w hw
  case fits =>
    intro w hw
    unfold equallyWindowsBelow4G at hw
    rw [hsplit] at hw
    rcases mem_append.mp hw with hw | hw
    · exact hfills.fits hsides w hw
    · exact (hfills.second hsides habove hlength (mem_toList.mp hw)).1
  case bridgesAbove4G => exact hsub
  case recordedAbove4G =>
    intro w hw
    rw [equallyDone_manager]
    exact arrangeEquallyAbove4G_regionAbove blk sys df _ (hsub.nodup (nodup_rootBridges blk)) hw
  case above4G => exact habove4G

/-- If the equal distribution succeeds, the windows below 4G are pairwise disjoint and on one side or the other of the
PCIe configuration space, and the windows above 4G are pairwise disjoint and in the window above 4G. -/
theorem equally_windows (blk : InputBlk) (sys : SystemInfo) (df : DfAnswers) (out out' : MmioState)
    (hprimary : primaryRb df ∈ rootBridges blk) (hcount : (rootBridges blk).length < 256)
    (htom : sys.tom.toNat ≤ blk.bottomMmioReservedForPrimaryRb.toNat)
    (hpass : silInitMmioEqually4 blk sys df out = some (.silPass, out')) : EquallyPlacement blk sys df out' := by
  obtain ⟨haborts, hout, hend, rfl⟩ := silInitMmioEqually4_pass hpass
  exact equallyPlacement_of_complete out (sides_of_checks haborts fun _ => htom) hout hprimary hcount hend

/-- Four root bridges share 1.5G below the configuration space. The 224M above it are a second region. -/
theorem equally_windows_plain :
    ∃ out', silInitMmioEqually4 (plainBlk 0xE0000000) (plainSystem 0x100000000) plainDf .zero = some (.silPass, out') ∧
      EquallyPlacement (plainBlk 0xE0000000) (plainSystem 0x100000000) plainDf out' := by
  have hstatus : (silInitMmioEqually4 (plainBlk 0xE0000000) (plainSystem 0x100000000) plainDf .zero).map Prod.fst =
      some .silPass := by decide +kernel
  obtain ⟨⟨-, out'⟩, hresult, rfl⟩ := map_eq_some_iff.mp hstatus
  exact ⟨out', hresult, equally_windows _ _ _ _ out' (by decide) (by decide) (by decide) hresult⟩

end OpenSil.RcMgr
