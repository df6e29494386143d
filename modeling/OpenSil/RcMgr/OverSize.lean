import OpenSil.RcMgr.SearchComplete
import OpenSil.RcMgr.DryRun

/-! # The space that is missing below 4G -/

namespace OpenSil.RcMgr

open Word Place Loop Option

structure OverSize where
  overSizeBelowPcieMin : UInt32
  alignmentMask : UInt32
  deriving DecidableEq

def OverSize.initial : OverSize := ⟨0xFFFFFFFF, 0⟩

def OverSize.reqInc (o : OverSize) : UInt32 :=
  if o.overSizeBelowPcieMin ≠ 0 then (o.overSizeBelowPcieMin + o.alignmentMask) &&& ~~~o.alignmentMask
  else o.overSizeBelowPcieMin

section
variable (blk : InputBlk) (df : DfAnswers) (start : Side → UInt64)

def alignMask (rb : Nat × Nat) : UInt64 :=
  let alignMaskP := (blk.prefetchableMmioSizeBelow4G rb.1 rb.2).alignment
  let alignMask := (blk.nonPrefetchableMmioSizeBelow4G rb.1 rb.2).alignment
  if alignMask > alignMaskP then alignMask else alignMaskP

def alignForFirstMmioRegion (a : Nat → Bool) (side : Side) : UInt64 :=
  match (combinationOrder blk df).find? fun rb => asksBelow4G blk rb && decide (sideOf a rb = side) with
  | some rb => alignMask blk rb
  | none => 0

def TryState.overSize (s : TryState) (side : Side) : UInt64 :=
  if s.mmioBaseAddr side > mmioLimit blk side then s.mmioBaseAddr side - mmioLimit blk side else 0

def noteOverSize (out : MmioState) (a : Nat → Bool) (o : OverSize) : OverSize :=
  let s := runCombination blk df start a false out
  if s.overSizeFlag then
    if s.overSize blk .above = 0 then
      if s.overSize blk .below < o.overSizeBelowPcieMin.toUInt64 then
        ⟨(s.overSize blk .below).toUInt32, (alignForFirstMmioRegion blk df a .below).toUInt32⟩
      else o
    else if !decide (mmioLimit blk .below > start .below) then
      ⟨(s.overSize blk .above).toUInt32, (alignForFirstMmioRegion blk df a .above).toUInt32⟩
    else o
  else { o with overSizeBelowPcieMin := 0 }

def primaryOnSide (enoughAbovePcieSpaceForPrimaryRb : Bool) (a : Nat → Bool) : Bool :=
  let primaryIsAbove := a ((primaryRb df).1 * dfXMaxHostBridgesPerSocket + (primaryRb df).2)
  (enoughAbovePcieSpaceForPrimaryRb && primaryIsAbove) || (!enoughAbovePcieSpaceForPrimaryRb && !primaryIsAbove)

def noteIfTried (enough : Bool) (out : MmioState) (a : Nat → Bool) (o : OverSize) : OverSize :=
  if primaryOnSide df enough a then noteOverSize blk df start out a o else o

def searchOverSize (enough : Bool) (out : MmioState) (numberOfRbBelowPcieCfg : Nat) (o : OverSize) :
    Option (Bool × (Nat → Bool) × OverSize) :=
  run (Search.noteTurn (triesCombination blk df start enough out) (noteIfTried blk df start enough out)
    (silGetNextCombination numberOfRbBelowPcieCfg (rootBridgeCount blk))) (2 ^ rootBridgeCount blk)
    (firstCombination numberOfRbBelowPcieCfg (rootBridgeCount blk), o)

def findOverSize (enough : Bool) (out : MmioState) : List Nat → OverSize → Option (Bool × OverSize)
  | [], o => some (false, o)
  | number :: numbers, o => do
    let (found, a, o) ← searchOverSize blk df start enough out number o
    if found then some (true, noteOverSize blk df start out a o)
    else if blk.pciExpressBaseAddress = start .below then some (false, o)
    else findOverSize enough out numbers o

end

/-- The dry run of `SilInitMmioBasedOnNvVariable4` with a `SpaceStatus`: the status, and `MmioSizeBelow4GReqInc` if it
is written at all. -/
def dryRunWithSpaceStatus (blk : InputBlk) (sys : SystemInfo) (df : DfAnswers) (out : MmioState) :
    Option (SilStatus × Option UInt32) :=
  let above := silArrangeMmioAbove4G blk df (nvWindow blk sys).base (nvWindow blk sys).limit false out
  let numbers := List.range (rootBridgeCount blk + 1)
  if !above.enoughSpaceAbove4G then some (.silOutOfResources, none)
  else do
    let stored ← silTryThisCombination blk df (mmioStart blk sys) blk.resourceDistributionNv false above.out
    let o := noteOverSize blk df (mmioStart blk sys) above.out blk.resourceDistributionNv .initial
    if stored.1 then some (.silPass, some o.reqInc)
    else
      let enough := enoughAbovePcieSpaceForPrimaryRb blk sys df
      let (found, o) ← findOverSize blk df (mmioStart blk sys) enough stored.2 numbers o
      if found then some (.silPass, some o.reqInc)
      else if enough then
        let (found, o) ← findOverSize blk df (mmioStart blk sys) false stored.2 numbers o
        some (if found then .silPass else .silOutOfResources, some o.reqInc)
      else some (.silOutOfResources, some o.reqInc)

/-! ## The notes do not change the run -/

section
variable (blk : InputBlk) (df : DfAnswers) (start : Side → UInt64) (enough : Bool) (out : MmioState)

theorem searchOverSize_found (number : Nat) (o : OverSize) :
    (searchOverSize blk df start enough out number o).map (fun r => (r.1, r.2.1)) =
      searchCombinations blk df start enough out number :=
  Search.run_noteTurn _ _ _ _ _ _

theorem findOverSize_found (numbers : List Nat) (o : OverSize) :
    (findOverSize blk df start enough out numbers o).map Prod.fst =
      (findCombination blk df start enough out numbers).map Option.isSome := by
  induction numbers generalizing o with
  | nil => rfl
  | cons number numbers ih =>
    unfold findOverSize findCombination
    rw [← searchOverSize_found blk df start enough out number o]
    cases searchOverSize blk df start enough out number o with
    | none => rfl
    | some r => grind

theorem findOverSize_cases (blk : InputBlk) (sys : SystemInfo) (df : DfAnswers) (enough : Bool) (out : MmioState)
    (o : OverSize) :
    ∃ found o', findOverSize blk df (mmioStart blk sys) enough out (List.range (rootBridgeCount blk + 1)) o =
        some (found, o') ∧
      (found = false → ∀ a, a (primaryIndex df) = enough → Enumerated blk sys a →
        accepts blk df (mmioStart blk sys) a = false) := by
  have hfound := findOverSize_found blk df (mmioStart blk sys) enough out (List.range (rootBridgeCount blk + 1)) o
  rcases findCombination_cases blk sys df enough with ⟨a, hfind, -⟩ | ⟨hfind, hreject⟩
  · rw [hfind] at hfound
    obtain ⟨⟨found, o'⟩, hrun, rfl⟩ := map_eq_some_iff.mp hfound
    exact ⟨_, o', hrun, fun h => by cases h⟩
  · rw [hfind] at hfound
    obtain ⟨⟨found, o'⟩, hrun, rfl⟩ := map_eq_some_iff.mp hfound
    exact ⟨_, o', hrun, fun _ => hreject⟩

/-- A failure below 4G: the stored combination and all in the reach of the search are rejected. -/
theorem dryRunWithSpaceStatus_cases (blk : InputBlk) (sys : SystemInfo) (df : DfAnswers) (out : MmioState) :
    let above := silArrangeMmioAbove4G blk df (nvWindow blk sys).base (nvWindow blk sys).limit false out
    let enough := enoughAbovePcieSpaceForPrimaryRb blk sys df
    let numbers := List.range (rootBridgeCount blk + 1)
    let result := dryRunWithSpaceStatus blk sys df out
    (above.enoughSpaceAbove4G = false ∧ result = some (.silOutOfResources, none)) ∨
    (above.enoughSpaceAbove4G = true ∧ ∃ o, result = some (.silPass, some (OverSize.reqInc o))) ∨
    (above.enoughSpaceAbove4G = true ∧ accepts blk df (mmioStart blk sys) blk.resourceDistributionNv = false ∧
      (∀ a, Searched blk sys df a → accepts blk df (mmioStart blk sys) a = false) ∧ ∃ o₁ o₂,
      findOverSize blk df (mmioStart blk sys) enough out numbers
        (noteOverSize blk df (mmioStart blk sys) out blk.resourceDistributionNv .initial) = some (false, o₁) ∧
      (if enough then findOverSize blk df (mmioStart blk sys) false out numbers o₁ else some (false, o₁)) =
        some (false, o₂) ∧
      result = some (.silOutOfResources, some o₂.reqInc)) := by
  intro above enough numbers result
  have hout := silArrangeMmioAbove4G_dry blk df (nvWindow blk sys).base (nvWindow blk sys).limit out
  have hout' := runCombination_dry blk df (mmioStart blk sys) blk.resourceDistributionNv out
  obtain ⟨found, o₁, hfirst, hreject⟩ := findOverSize_cases blk sys df enough out
    (noteOverSize blk df (mmioStart blk sys) out blk.resourceDistributionNv .initial)
  obtain ⟨found', o₂, hsecond, hreject'⟩ := findOverSize_cases blk sys df false out o₁
  have hresult : result = if !above.enoughSpaceAbove4G then some (.silOutOfResources, none)
      else if accepts blk df (mmioStart blk sys) blk.resourceDistributionNv then some (.silPass, some (noteOverSize blk df
        (mmioStart blk sys) out blk.resourceDistributionNv .initial).reqInc)
      else if found then some (.silPass, some o₁.reqInc)
      else if enough then some (if found' then .silPass else .silOutOfResources, some o₂.reqInc)
      else some (.silOutOfResources, some o₁.reqInc) := by
    simp only [result, dryRunWithSpaceStatus, silTryThisCombination_dry, hout, hout', hfirst, hsecond, bind_eq_bind,
      bind_some, above, enough]
  have hsearched : found = false → (enough = true → found' = false) → ∀ a, Searched blk sys df a →
      accepts blk df (mmioStart blk sys) a = false := by
    intro hfound hfound' a ha
    cases hside : a (primaryIndex df) with
    | true => exact hreject hfound a (hside.trans (ha.2 hside).symm) ha.1
    | false =>
      cases henough : enough with
      | true => exact hreject' (hfound' henough) a hside ha.1
      | false => exact hreject hfound a (hside.trans henough.symm) ha.1
  rw [hresult]
  clear hresult
  cases above.enoughSpaceAbove4G with
  | false => exact .inl ⟨rfl, rfl⟩
  | true =>
    cases accepts blk df (mmioStart blk sys) blk.resourceDistributionNv with
    | true => exact .inr (.inl ⟨rfl, _, rfl⟩)
    | false =>
      cases found with
      | true => exact .inr (.inl ⟨rfl, o₁, rfl⟩)
      | false =>
        cases henough : enough with
        | false => exact .inr (.inr ⟨rfl, rfl, hsearched rfl (by simp [henough]), o₁, o₁, henough ▸ hfirst, rfl, rfl⟩)
        | true =>
          cases found' with
          | true => exact .inr (.inl ⟨rfl, o₂, rfl⟩)
          | false => exact .inr (.inr ⟨rfl, rfl, hsearched rfl fun _ => rfl, o₁, o₂, henough ▸ hfirst, hsecond, rfl⟩)

end

/-! ## What a search that fails has noted -/

section
variable {blk : InputBlk} {df : DfAnswers} {start : Side → UInt64} {enough : Bool} {out : MmioState} {numbers : List Nat}
  {o o' : OverSize}

theorem triesCombination_of_side {a : Nat → Bool} (hside : primaryOnSide df enough a = true) :
    triesCombination blk df start enough out a = accepts blk df start a := by
  unfold triesCombination
  rw [silTryThisCombination_dry]
  exact if_pos hside

theorem findOverSize_cons_false {number : Nat}
    (h : findOverSize blk df start enough out (number :: numbers) o = some (false, o')) :
    ∃ a o₁, searchOverSize blk df start enough out number o = some (false, a, o₁) ∧
      (blk.pciExpressBaseAddress = start .below ∧ o' = o₁ ∨
        blk.pciExpressBaseAddress ≠ start .below ∧ findOverSize blk df start enough out numbers o₁ = some (false, o')) := by
  unfold findOverSize at h
  cases hsearch : searchOverSize blk df start enough out number o with
  | none =>
    rw [hsearch] at h
    cases h
  | some r =>
    obtain ⟨found, a, o₁⟩ := r
    cases found with
    | true =>
      rw [hsearch] at h
      cases h
    | false => grind

variable (p : OverSize → Prop) (hkeep : ∀ a o, primaryOnSide df enough a = true →
  accepts blk df start a = false → p o → p (noteOverSize blk df start out a o))
include hkeep

theorem noteIfTried_keeps (a : Nat → Bool) (o : OverSize) (hreject : triesCombination blk df start enough out a = false)
    (h : p o) : p (noteIfTried blk df start enough out a o) := by
  unfold noteIfTried
  split_ifs with hside
  · rw [triesCombination_of_side hside] at hreject
    exact hkeep a o hside hreject h
  · exact h

theorem findOverSize_notes (hx : p o) (h : findOverSize blk df start enough out numbers o = some (false, o')) : p o' := by
  induction numbers generalizing o with
  | nil =>
    cases h
    exact hx
  | cons number numbers ih =>
    obtain ⟨a, o₁, hsearch, hrest⟩ := findOverSize_cons_false h
    have hkeep' := noteIfTried_keeps p hkeep
    have hnoted := Search.notes_of_run p hkeep' (fun hreject => hkeep' _ _ hreject hx) hsearch
    rcases hrest with ⟨-, rfl⟩ | ⟨-, hrest⟩
    · exact hnoted
    · exact ih hnoted hrest

theorem findOverSize_notes_first (hpcie : blk.pciExpressBaseAddress ≠ start .below) {number : Nat}
    (hmem : number ∈ numbers) (hside : primaryOnSide df enough (firstCombination number (rootBridgeCount blk)) = true)
    (hset : ∀ o, accepts blk df start (firstCombination number (rootBridgeCount blk)) = false →
      p (noteOverSize blk df start out (firstCombination number (rootBridgeCount blk)) o))
    (h : findOverSize blk df start enough out numbers o = some (false, o')) : p o' := by
  induction numbers generalizing o with
  | nil => cases hmem
  | cons number' numbers ih =>
    obtain ⟨a, o₁, hsearch, hrest⟩ := findOverSize_cons_false h
    have hrest := (hrest.resolve_left fun h => hpcie h.1).2
    rcases List.mem_cons.mp hmem with rfl | hmem
    · refine findOverSize_notes p hkeep (Search.notes_of_run p (noteIfTried_keeps p hkeep) (fun hreject => ?_) hsearch) hrest
      rw [triesCombination_of_side hside] at hreject
      unfold noteIfTried
      rw [if_pos hside]
      exact hset o hreject
    · exact ih hmem hrest

end

end OpenSil.RcMgr
