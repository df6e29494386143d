import OpenSil.RcMgr.Search

/-! # When the search is complete -/

namespace OpenSil.RcMgr

open Word Place List Nat

section
variable {blk : InputBlk} {df : DfAnswers} {a : Nat → Bool} {start : Side → UInt64} {big : Bool}

/-! ## Sums that do not wrap -/

def sumBelow4G (blk : InputBlk) (rbs : List (Nat × Nat)) : Nat :=
  (rbs.map fun rb => ([.nonPci, .prefetch, .nonPrefetch].map fun k =>
    (blockBelow4G blk rb k).mask.toNat + (blockBelow4G blk rb k).size.toNat).sum).sum

theorem sum_queueOfSide_le {side : Side} {rbs : List (Nat × Nat)} :
    ((queueOfSide blk a side big rbs).map fun i =>
      (blockBelow4G blk i.1 i.2).mask.toNat + (blockBelow4G blk i.1 i.2).size.toNat).sum ≤ sumBelow4G blk rbs := by
  induction rbs generalizing big with
  | nil => exact le_rfl
  | cons rb rbs ih =>
    have hcons : sumBelow4G blk (rb :: rbs) = _ + sumBelow4G blk rbs := sum_cons
    by_cases hrb : AsksBelow4G blk rb ∧ sideOf a rb = side
    · rw [queueOfSide_cons_of hrb.1 hrb.2, map_append, sum_append_nat, map_map, hcons]
      exact Nat.add_le_add ((queueBelow4G_perm.map _).sum_eq.le) ih
    · rw [queueOfSide_cons_of_not hrb, hcons]
      exact ih.trans (le_add_left _ _)

theorem noSumWraps_of_sum_lt (hmask : ∀ rb ∈ combinationOrder blk df, ∀ k, IsMask (blockBelow4G blk rb k).mask)
    (h : ∀ side, (start side).toNat + sumBelow4G blk (combinationOrder blk df) < 2 ^ 64) :
    NoSumWraps blk a start (fun _ => true) (combinationOrder blk df) := by
  intro side
  refine noWrap_of_sum_lt (fun i hi => hmask i.1 (mem_queueOfSide hi).1 i.2) ?_
  exact lt_of_le_of_lt (Nat.add_le_add_left sum_queueOfSide_le _) (h side)

/-! ## The search as a whole -/

theorem forall_rejected_iff : (∀ setDf out, (silTryThisCombination blk df start a setDf out).map Prod.fst = some false) ↔
    accepts blk df start a = false := by
  refine ⟨fun h => ?_, fun h setDf out => by rw [silTryThisCombination_rejected h]; rfl⟩
  have hdry := h false .zero
  rw [silTryThisCombination_dry] at hdry
  exact Option.some_inj.mp hdry

theorem silInitMmioBasedOnNvVariable4_fails_iff (blk : InputBlk) (sys : SystemInfo) (df : DfAnswers) (setDf : Bool)
    (out : MmioState) (habove : (silArrangeMmioAbove4G blk df (nvWindow blk sys).base (nvWindow blk sys).limit setDf
      out).enoughSpaceAbove4G = true) :
    (silInitMmioBasedOnNvVariable4 blk sys df setDf out).map Prod.fst = some .silOutOfResources ↔
      accepts blk df (mmioStart blk sys) blk.resourceDistributionNv = false ∧
        ∀ a, Searched blk sys df a → accepts blk df (mmioStart blk sys) a = false := by
  rw [silInitMmioBasedOnNvVariable4_eq, if_pos habove]
  rcases takenCombination_cases blk sys df with ⟨a, ha, haccept, hwhich⟩ | ⟨hnone, hstored, hreject⟩
  · rw [ha]
    constructor
    · intro hfails
      obtain ⟨r, hr, hstatus⟩ := Option.map_eq_some_iff.mp hfails
      obtain ⟨_, _, rfl⟩ := Option.map_eq_some_iff.mp hr
      cases hstatus
    · rintro ⟨hstored, hreject⟩
      rcases hwhich with rfl | hsearched
      · rw [haccept] at hstored
        cases hstored
      · rw [hreject a hsearched] at haccept
        cases haccept
  · rw [hnone]
    exact ⟨fun _ => ⟨hstored, hreject⟩, fun _ => rfl⟩

end

def narrowBlk (size : UInt64) : InputBlk :=
  { plainBlk 0xE0000000 with rbsPerSocket := 1, prefetchableMmioSizeBelow4G := fun _ _ => ⟨size, 0⟩ }

def narrowDf : DfAnswers := { plainDf with primaryRootBridge := 0, rootBridgesOnDie := 1, rootBridgesOnSocket := 1 }

def narrowSystem : SystemInfo := { plainSystem 0x100000000 with tom := 0xD8000000 }

end OpenSil.RcMgr
