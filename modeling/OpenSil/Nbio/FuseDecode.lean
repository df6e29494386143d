import OpenSil.Nbio.Harvest

/-! # The fuses of the PCIe cores

The lists of masks have two entries for each root bridge, and `Index` is to be the entry of the core.
-/

namespace OpenSil.Nbio

open List BitVec

def fuseMasks (isSteppingAx : Bool) : List (BitVec 32) := if isSteppingAx then fuseMaskPcieCoreAx else fuseMaskPcieCoreBx

def fuseData (env : FuseAccess) (silicon : SiliconConfig) : BitVec 32 :=
  env.smnRead silicon.segment silicon.bus (if env.isSteppingAx then 0x5d284 else 0x5d27c)

def fuseIndex (silicon : SiliconConfig) (wrapId : BitVec 8) : Nat := ((silicon.rbIndex <<< 1) + wrapId).toNat

def HasFuse (silicon : SiliconConfig) (wrapId : BitVec 8) : Prop := silicon.rbIndex < 4 ∧ wrapId < 2

instance (silicon : SiliconConfig) (wrapId : BitVec 8) : Decidable (HasFuse silicon wrapId) :=
  inferInstanceAs (Decidable (_ ∧ _))

def ownMask (isSteppingAx : Bool) (silicon : SiliconConfig) (wrapId : BitVec 8) : Option (BitVec 32) :=
  if HasFuse silicon wrapId then (fuseMasks isSteppingAx)[2 * silicon.rbIndex.toNat + wrapId.toNat]? else none

def ownFuse (env : FuseAccess) (silicon : SiliconConfig) (wrapId : BitVec 8) : Bool :=
  (ownMask env.isSteppingAx silicon wrapId).any fun mask => fuseData env silicon &&& mask ≠ 0

/-! ## Decoding -/

theorem harvestedByFuse_eq (env : FuseAccess) (silicon : SiliconConfig) (wrapId : BitVec 8) :
    harvestedByFuse env silicon wrapId =
      match (fuseMasks env.isSteppingAx)[fuseIndex silicon wrapId]? with
      | some mask => .ok (decide (fuseData env silicon &&& mask ≠ 0))
      | none => .error .bounds := rfl

@[simp] theorem fuseMasks_length (isSteppingAx : Bool) : (fuseMasks isSteppingAx).length = 8 := by
  cases isSteppingAx <;> rfl

theorem fuseMasks_ne_zero (isSteppingAx : Bool) : ∀ mask ∈ fuseMasks isSteppingAx, mask ≠ 0 := by
  cases isSteppingAx <;> simp [fuseMasks, fuseMaskPcieCoreAx, fuseMaskPcieCoreBx]

theorem fuseMasks_disjoint {isSteppingAx : Bool} {i j : Nat} {m n : BitVec 32} (hne : i ≠ j)
    (hm : (fuseMasks isSteppingAx)[i]? = some m) (hn : (fuseMasks isSteppingAx)[j]? = some n) : m &&& n = 0 := by
  have hpairwise : (fuseMasks isSteppingAx).Pairwise fun m n => m &&& n = 0 := by
    cases isSteppingAx <;> decide
  rw [pairwise_iff_getElem] at hpairwise
  obtain ⟨hi, rfl⟩ := List.getElem?_eq_some_iff.mp hm
  obtain ⟨hj, rfl⟩ := List.getElem?_eq_some_iff.mp hn
  obtain hlt | hgt := Nat.lt_or_gt_of_ne hne
  · exact hpairwise i j hi hj hlt
  · rw [BitVec.and_comm]
    exact hpairwise j i hj hi hgt

section
variable {silicon silicon' : SiliconConfig} {wrapId wrapId' : BitVec 8}

section
variable (h : HasFuse silicon wrapId)
include h

theorem HasFuse.fuseIndex_eq :
    fuseIndex silicon wrapId = 2 * silicon.rbIndex.toNat + wrapId.toNat := by
  have hrb : silicon.rbIndex.toNat < 4 := h.1
  have hwrap : wrapId.toNat < 2 := h.2
  rw [fuseIndex, toNat_add, toNat_shiftLeft, Nat.shiftLeft_eq]
  omega

theorem HasFuse.fuseIndex_lt : fuseIndex silicon wrapId < 8 := by
  have hrb : silicon.rbIndex.toNat < 4 := h.1
  have hwrap : wrapId.toNat < 2 := h.2
  rw [h.fuseIndex_eq]
  omega

theorem HasFuse.fuseIndex_ne (h' : HasFuse silicon' wrapId')
    (hne : (silicon.rbIndex, wrapId) ≠ (silicon'.rbIndex, wrapId')) :
    fuseIndex silicon wrapId ≠ fuseIndex silicon' wrapId' := by
  have hwrap : wrapId.toNat < 2 := h.2
  have hwrap' : wrapId'.toNat < 2 := h'.2
  rw [h.fuseIndex_eq, h'.fuseIndex_eq]
  intro heq
  apply hne
  rw [Prod.mk.injEq, ← toNat_inj, ← toNat_inj]
  omega

theorem HasFuse.decodes (env : FuseAccess) :
    harvestedByFuse env silicon wrapId = .ok (ownFuse env silicon wrapId) := by
  have hlt : fuseIndex silicon wrapId < (fuseMasks env.isSteppingAx).length := by simpa using h.fuseIndex_lt
  have hmask := List.getElem?_eq_getElem hlt
  rw [harvestedByFuse_eq, ownFuse, ownMask, if_pos h, ← h.fuseIndex_eq, hmask]
  rfl

end

def allFuses : FuseAccess := ⟨true, fun _ _ _ => BitVec.allOnes 32⟩

theorem hasFuse_of_decodes (h : harvestedByFuse allFuses silicon wrapId = .ok (ownFuse allFuses silicon wrapId)) :
    HasFuse silicon wrapId := by
  by_contra hnone
  rw [harvestedByFuse_eq, ownFuse, ownMask, if_neg hnone, Option.any_none] at h
  cases hmask : (fuseMasks allFuses.isSteppingAx)[fuseIndex silicon wrapId]? with
  | none =>
    rw [hmask] at h
    exact nomatch h
  | some mask =>
    have hset : fuseData allFuses silicon &&& mask ≠ 0 := by
      rw [show fuseData allFuses silicon = allOnes 32 from rfl, allOnes_and]
      exact fuseMasks_ne_zero _ mask (mem_of_getElem? hmask)
    rw [hmask] at h
    exact of_decide_eq_false (Except.ok.inj h) hset

end

/-! ## The topology -/

/-- Every core is harvested by fuses of its own. -/
structure OwnFuses (fuel : Nat) (sib : PcieSib) (bs : List BridgeNode) : Prop where
  listed : ∀ b ∈ bs, ∀ c ∈ b.cores, fuseIndex (sib.silicon b.silicon) c.wrapId < 8
  separate : ∀ isSteppingAx, ∀ b ∈ bs, ∀ c ∈ b.cores, ∀ b' ∈ bs, ∀ c' ∈ b'.cores,
    ((sib.silicon b.silicon).rbIndex, c.wrapId) ≠ ((sib.silicon b'.silicon).rbIndex, c'.wrapId) →
    ∀ m ∈ (fuseMasks isSteppingAx)[fuseIndex (sib.silicon b.silicon) c.wrapId]?,
    ∀ m' ∈ (fuseMasks isSteppingAx)[fuseIndex (sib.silicon b'.silicon) c'.wrapId]?, m &&& m' = 0
  decodes : ∀ env, ∀ b ∈ bs, ∀ c ∈ b.cores,
    harvestedByFuse env (sib.silicon b.silicon) c.wrapId = .ok (ownFuse env (sib.silicon b.silicon) c.wrapId)
  /-- The walks visit the cores whose bits are not set. -/
  runs : ∀ env harvested, (∀ b ∈ bs, ∀ c ∈ b.cores, harvested c = ownFuse env (sib.silicon b.silicon) c.wrapId) →
    Harvestable harvested bs → ∃ sib', pcieEnumerateAndHarvestWrappers env fuel sib = .ok sib' ∧
      sib'.headers.Walks fuel (bs.map (·.harvest harvested))

/-- The fuses are those of the cores exactly where no root bridge has an index above three and no wrapper is WAFL. -/
theorem ownFuses_iff (fuel : Nat) (sib built : PcieSib) (bridges : List TreeBridge)
    (hbuilt : pcieConfigurationInit fuel sib (bridges.map (·.bridge)) = some built)
    (hcount : bridges.length ≤ maxNumberOfComplexes) (hbound : complexConfigs + templateBytes bridges < 2 ^ 16)
    (hfuel : Enough fuel (placeBridges bridges 0 complexConfigs)) (harrays : ∀ b ∈ bridges, CoreArray b.tree.cores) :
    OwnFuses fuel built (placeBridges bridges 0 complexConfigs) ↔
      ∀ b ∈ placeBridges bridges 0 complexConfigs, ∀ c ∈ b.cores, HasFuse (built.silicon b.silicon) c.wrapId := by
  obtain ⟨hs, htop⟩ := topology_of_built hbuilt hcount hbound hfuel harrays
  constructor
  · intro h b hb c hc
    exact hasFuse_of_decodes (h.decodes allFuses b hb c hc)
  · intro h
    refine ⟨fun b hb c hc => (h b hb c hc).fuseIndex_lt, ?_, fun env b hb c hc => (h b hb c hc).decodes env, ?_⟩
    · intro isSteppingAx b hb c hc b' hb' c' hc' hne m hm m' hm'
      exact fuseMasks_disjoint ((h b hb c hc).fuseIndex_ne (h b' hb' c' hc') hne) hm hm'
    · intro env harvested hown hharvest
      refine hs.harvest htop hfuel (fun b hb c hc => ?_) hharvest
      rw [hown b hb c hc]
      exact (h b hb c hc).decodes env

/-- The three root bridges with one core each. -/
theorem ownFuses_iff_three : OwnFuses 5 (fusedSib 3) (placeBridges (fusedBridges 3) 0 complexConfigs) := by
  have hfuel : Enough 5 (placeBridges (fusedBridges 3) 0 complexConfigs) := ⟨by decide, by decide, by decide, by decide⟩
  refine (ownFuses_iff 5 zeroSib (fusedSib 3) (fusedBridges 3) ?_ (by decide) (by decide) hfuel ?_).mpr ?_
  · obtain ⟨built, hrun, -⟩ := pcieConfigurationInit_complete zeroSib (fusedBridges 3) (by decide) (by decide) hfuel
    unfold fusedSib
    rw [hrun]
    rfl
  · intro b hb
    obtain ⟨i, -, rfl⟩ := mem_map.mp hb
    exact ⟨isChain_singleton _, nodup_singleton _⟩
  · decide +kernel

def coreAndWafl : ComplexTemplate where
  size := 94
  headers
    | 0 => ⟨descriptorSilicon ||| descriptorTerminateList ||| descriptorTerminateGnb ||| descriptorTerminateTopology, 0, 0, 26⟩
    | 26 => ⟨descriptorPcieWrapper, 26, 22, 44⟩
    | 48 =>
      ⟨descriptorPcieWrapper ||| descriptorTerminateList ||| descriptorTerminateGnb ||| descriptorTerminateTopology, 48, 0, 34⟩
    | 70 => ⟨descriptorPcieEngine, 44, 12, 0⟩
    | 82 =>
      ⟨descriptorPcieEngine ||| descriptorTerminateList ||| descriptorTerminateGnb ||| descriptorTerminateTopology, 34, 0, 0⟩
    | _ => ⟨0, 0, 0, 0⟩
  silicon := ⟨0, 0, 0, 0, 0, 0, 0, 0, 0, false, false, 0⟩
  wrapId a := if a = 48 then 2 else 0

def coreAndWaflTree : ComplexTree coreAndWafl where
  cores := [⟨26, 0, [70]⟩, ⟨48, 2, [82]⟩]
  cores_ne := by decide
  siliconKind := rfl
  siliconEnds := by
    simp only [List.forall_mem_cons, List.not_mem_nil, IsEmpty.forall_iff, implies_true, and_true]
    exact ⟨rfl, rfl, rfl⟩
  siliconChild c hc := Option.some.inj hc ▸ ⟨by decide, rfl⟩
  core := by
    refine List.forall_mem_cons.mpr ⟨⟨rfl, ⟨by decide, rfl⟩, ⟨70, [], rfl, by decide, rfl⟩, ?_⟩, ?_⟩
    · exact List.forall_mem_singleton.mpr ⟨rfl, by decide, rfl⟩
    · refine List.forall_mem_singleton.mpr ⟨rfl, ⟨by decide, rfl⟩, ⟨82, [], rfl, by decide, rfl⟩, ?_⟩
      exact List.forall_mem_singleton.mpr ⟨rfl, by decide, rfl⟩
  wrappers := ⟨rfl, rfl, rfl⟩
  engines := ⟨rfl, rfl, rfl⟩
  gnbWrappers := ⟨rfl, rfl⟩
  gnbEngines := ⟨rfl, rfl⟩
  listWrappers := ⟨rfl, rfl⟩
  wrapIds := by decide
  ascendingWrappers := by decide
  ascendingEngines := by decide
  bound := by decide

def waflBridges : List TreeBridge :=
  ⟨⟨0, 0, 0, 3, ⟨0, 0, 0, false, false⟩, coreAndWafl⟩, coreAndWaflTree⟩ :: (fusedBridges 3).tail

def waflSib : PcieSib := (pcieConfigurationInit 5 zeroSib (waflBridges.map (·.bridge))).getD zeroSib

/-- Only the core of root bridge 1 has its fuse set, and WAFL of root bridge 0 is hidden with it. -/
theorem wafl_hidden_with_core :
    wrappersOf (liveOf (placeBridges waflBridges 0 complexConfigs)) = [264, 286, 358, 418] ∧
      ownFuse (fuseOf 1) (waflSib.silicon complexConfigs) 2 = false ∧
      (match pcieEnumerateAndHarvestWrappers (fuseOf 1) 5 waflSib with
        | .ok sib => pcieConfigRunProcForAllWrappers 5 sib.headers descriptorAllWrappers (fun w l => (l ++ [w], .silPass)) []
        | .error _ => none) = some ([264, 418], .silPass) := by
  decide +kernel

end OpenSil.Nbio
