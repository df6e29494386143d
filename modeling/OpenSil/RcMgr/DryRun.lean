import OpenSil.RcMgr.Search

/-! # The dry run

With `SetDfRegisters` false nothing is recorded.
-/

namespace OpenSil.RcMgr

section
variable (blk : InputBlk) (df : DfAnswers) (start : Side → UInt64) (a : Nat → Bool)

/-! ## Above 4G -/

structure Above4GState.Agrees (s t : Above4GState) : Prop where
  mmioBaseAddrNextRb : s.mmioBaseAddrNextRb = t.mmioBaseAddrNextRb
  enoughSpaceAbove4G : s.enoughSpaceAbove4G = t.enoughSpaceAbove4G
  bigAlignFirst : s.bigAlignFirst = t.bigAlignFirst

variable {blk df} in
theorem Above4GState.Agrees.step {s t : Above4GState} {limit : UInt64} (h : s.Agrees t) (setDf setDf' : Bool)
    (rb : Nat × Nat) :
    (arrangeRbAbove4G blk df limit setDf s rb).Agrees (arrangeRbAbove4G blk df limit setDf' t rb) := by
  obtain ⟨hnext, henough, hbig⟩ := h
  unfold arrangeRbAbove4G
  dsimp only
  split_ifs
  · exact ⟨hnext, henough, hbig⟩
  all_goals
    simp only [hnext, henough, hbig]
    exact ⟨rfl, rfl, rfl⟩

variable {blk df} in
theorem Above4GState.Agrees.foldl {s t : Above4GState} {limit : UInt64} (h : s.Agrees t) (setDf setDf' : Bool)
    (rbs : List (Nat × Nat)) :
    (rbs.foldl (arrangeRbAbove4G blk df limit setDf) s).Agrees
      (rbs.foldl (arrangeRbAbove4G blk df limit setDf') t) := by
  induction rbs generalizing s t with
  | nil => exact h
  | cons rb rbs ih => exact ih (h.step setDf setDf' rb)

theorem enoughSpaceAbove4G_congr (base limit : UInt64) (setDf setDf' : Bool) (out out' : MmioState) :
    (silArrangeMmioAbove4G blk df base limit setDf out).enoughSpaceAbove4G =
      (silArrangeMmioAbove4G blk df base limit setDf' out').enoughSpaceAbove4G := by
  have hstart : Above4GState.Agrees ⟨base, true, true, out⟩ ⟨base, true, true, out'⟩ := ⟨rfl, rfl, rfl⟩
  exact (hstart.foldl setDf setDf' (rootBridges blk)).enoughSpaceAbove4G

theorem arrangeRbAbove4G_dry (limit : UInt64) (s : Above4GState) (rb : Nat × Nat) :
    (arrangeRbAbove4G blk df limit false s rb).out = s.out := by
  unfold arrangeRbAbove4G
  simp only [Bool.false_and, Bool.false_eq_true, if_false]
  split_ifs <;> rfl

theorem silArrangeMmioAbove4G_dry (base limit : UInt64) (out : MmioState) :
    (silArrangeMmioAbove4G blk df base limit false out).out = out := by
  unfold silArrangeMmioAbove4G
  exact Stores.foldl_keep (p := Above4GState.out) (arrangeRbAbove4G_dry blk df limit) _ _

/-! ## Below 4G -/

theorem tryRb_dry (s : TryState) (rb : Nat × Nat) : (tryRb blk df a false s rb).out = s.out := by
  unfold tryRb placeRb TryState.recordIf
  simp only [Bool.and_false, Bool.false_eq_true, if_false]
  split_ifs <;> rfl

theorem runCombination_dry (out : MmioState) : (runCombination blk df start a false out).out = out :=
  Stores.foldl_keep (p := TryState.out) (tryRb_dry blk df a) _ _

theorem silTryThisCombination_false (out : MmioState) :
    silTryThisCombination blk df start a false out = some (accepts blk df start a, out) := by
  rw [silTryThisCombination_dry, runCombination_dry]

end

/-! ## The status -/

section
variable (blk : InputBlk) (sys : SystemInfo) (df : DfAnswers) (out : MmioState)

/-- The dry run leaves the manager and all registers as they are. -/
theorem silInitMmioBasedOnNvVariable4_false :
    silInitMmioBasedOnNvVariable4 blk sys df false out = some
      (if (silArrangeMmioAbove4G blk df (nvWindow blk sys).base (nvWindow blk sys).limit true out).enoughSpaceAbove4G = true ∧
        takenCombination blk sys df ≠ none then .silPass else .silOutOfResources, out) := by
  have hmid : beforeTaken blk sys df false out = out := by
    unfold beforeTaken
    rw [runCombination_dry, ite_self]
  rw [silInitMmioBasedOnNvVariable4_eq, silArrangeMmioAbove4G_dry, hmid,
    enoughSpaceAbove4G_congr blk df _ _ false true out out]
  simp only [silTryThisCombination_false]
  generalize (silArrangeMmioAbove4G blk df _ _ true out).enoughSpaceAbove4G = above
  cases takenCombination blk sys df <;> cases above <;> rfl

/-- Both sizes of the second region are asked for, and their sum is zero in 32 bits. -/
def ZeroDivisor : Prop :=
  blk.primaryRbSecondNonPrefetchableMmioSizeBelow4G.size ≠ 0 ∧ blk.primaryRbSecondPrefetchableMmioSizeBelow4G.size ≠ 0 ∧
    (blk.primaryRbSecondPrefetchableMmioSizeBelow4G.size +
      blk.primaryRbSecondNonPrefetchableMmioSizeBelow4G.size).toUInt32.toUInt64 = 0

/-- The combination that is taken leaves 64K on a side, and there is a slot for a second region. -/
def MakesSecondRegion : Prop :=
  let above := silArrangeMmioAbove4G blk df (nvWindow blk sys).base (nvWindow blk sys).limit true out
  above.enoughSpaceAbove4G = true ∧ ∃ a, takenCombination blk sys df = some a ∧
    let s := runCombination blk df (mmioStart blk sys) a true (beforeTaken blk sys df true above.out)
    s.wantsSecondRegion blk = true ∧ spareSlot s.out.manager ≠ none

variable {blk sys df out}

theorem secondRegion_eq_none_iff {moved : Bool} {base size : UInt64} :
    secondRegion blk moved base size = none ↔ ZeroDivisor blk := by
  unfold secondRegion secondSizePrefetch ZeroDivisor divide
  dsimp only
  generalize UInt32.toUInt64 _ = divisor
  split_ifs <;> simp [*]

theorem addSecondRegion_eq_none_iff {s : TryState} : s.addSecondRegion blk df = none ↔
    ZeroDivisor blk ∧ s.wantsSecondRegion blk = true ∧ spareSlot s.out.manager ≠ none := by
  unfold TryState.addSecondRegion TryState.regionLeft
  cases s.wantsSecondRegion blk with
  | false => simp
  | true => cases spareSlot s.out.manager <;> simp [secondRegion_eq_none_iff]

theorem silTryThisCombination_true_eq_none_iff {start : Side → UInt64} {a : Nat → Bool}
    (h : accepts blk df start a = true) (out : MmioState) : silTryThisCombination blk df start a true out = none ↔
      (runCombination blk df start a true out).addSecondRegion blk df = none := by
  unfold silTryThisCombination
  simp only [not_overSizeFlag, h, Bool.true_and, if_true]
  cases (runCombination blk df start a true out).addSecondRegion blk df <;> simp

end

/-- Two gigabytes for each of the two pools. -/
def halvesBlk : InputBlk :=
  { plainBlk 0xE0000000 with
    primaryRbSecondPrefetchableMmioSizeBelow4G := ⟨0x80000000, 0⟩
    primaryRbSecondNonPrefetchableMmioSizeBelow4G := ⟨0x80000000, 0⟩ }

end OpenSil.RcMgr
