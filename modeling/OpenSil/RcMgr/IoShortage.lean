import OpenSil.RcMgr.IoPartition

/-! # The shortage of IO space

`SilInitIoBasedOnNvVariable4` adds up what the root bridges ask for and reports what is missing.
-/

namespace OpenSil.RcMgr

open List Nat

def phyRbs (blk : InputBlk) (df : DfAnswers) : List (Nat × Nat) := (rootBridges blk).map (dfXSilGetPhySktRbNum df)

def ioNeed (io : Table UInt64) (df : DfAnswers) (rb : Nat × Nat) : Nat :=
  (ioRequest io rb).toNat + if rb = primaryRb df then 0x1000 else 0

def WindowFits (io : Table UInt64) (df : DfAnswers) (w : IoWindow) : Prop :=
  w.ioBase.toNat < 0x10000 ∧ w.ioBase.toNat + ioNeed io df w.rb ≤ 0x10000

/-- In the layout for these requests every root bridge starts and ends in the 64K of x86. -/
def IoFits (blk : InputBlk) (io : Table UInt64) (df : DfAnswers) : Prop :=
  ∀ w ∈ ioPlaces (nvIoPlan blk io df false) df (reserveForPrimaryRb blk df (ioRequest io (primaryRb df))).2
    (phyRbs blk df), WindowFits io df w

def ioSum (io : Table UInt64) (rbs : List (Nat × Nat)) : Nat := (rbs.map fun rb => (ioRequest io rb).toNat).sum

def RequestsFit (io : Table UInt64) (base : Nat) (rbs : List (Nat × Nat)) : Prop :=
  rbs = [] ∨ base + ioSum io rbs ≤ 0x10000 ∧ base + ioSum io rbs.dropLast < 0x10000

section
variable {blk : InputBlk} {io : Table UInt64} {df : DfAnswers} {plan : IoPlan} {rb : Nat × Nat}
  {rbs : List (Nat × Nat)}

@[simp] theorem ioSum_nil : ioSum io [] = 0 := rfl

@[simp] theorem ioSum_cons : ioSum io (rb :: rbs) = (ioRequest io rb).toNat + ioSum io rbs := by
  simp [ioSum]

theorem requestsFit_cons {base : Nat} : RequestsFit io base (rb :: rbs) ↔
    (base < 0x10000 ∧ base + (ioRequest io rb).toNat ≤ 0x10000) ∧
      RequestsFit io (base + (ioRequest io rb).toNat) rbs := by
  unfold RequestsFit
  rcases eq_or_ne rbs [] with rfl | hrbs
  · simp
    omega
  · rw [dropLast_cons_of_ne_nil hrbs, ioSum_cons, ioSum_cons]
    simp only [reduceCtorEq, false_or, hrbs]
    omega

theorem windowFits_primary (ioBase : UInt32) (last : Bool) :
    WindowFits io df (plan.place df ioBase (primaryRb df) last).1 ↔
      0x1000 + (ioRequest io (primaryRb df)).toNat ≤ 0x10000 := by
  have hzero : (plan.place df ioBase (primaryRb df) last).1.ioBase.toNat = 0 := by simp [IoPlan.place]
  have hrb : (plan.place df ioBase (primaryRb df) last).1.rb = primaryRb df := rfl
  unfold WindowFits ioNeed
  rw [hzero, hrb, if_pos rfl]
  omega

theorem windowFits_other (hrb : rb ≠ primaryRb df) (ioBase : UInt32) (last : Bool) :
    WindowFits io df (plan.place df ioBase rb last).1 ↔
      ioBase.toNat < 0x10000 ∧ ioBase.toNat + (ioRequest io rb).toNat ≤ 0x10000 := by
  simp [WindowFits, ioNeed, IoPlan.place, hrb]

theorem ioPlaces_fit_iff (hshare : plan.share = ioRequest io) (ioBase : UInt32) :
    (∀ w ∈ ioPlaces plan df ioBase rbs, WindowFits io df w) ↔
      (primaryRb df ∈ rbs → 0x1000 + (ioRequest io (primaryRb df)).toNat ≤ 0x10000) ∧
      RequestsFit io ioBase.toNat (rbs.filter (· ≠ primaryRb df)) := by
  induction rbs generalizing ioBase with
  | nil => simp [ioPlaces, RequestsFit]
  | cons rb rbs ih =>
    rw [ioPlaces, forall_mem_cons, ih]
    by_cases hrb : rb = primaryRb df
    · subst hrb
      have hnext : (plan.place df ioBase (primaryRb df) rbs.isEmpty).2 = ioBase := by simp [IoPlan.place]
      rw [windowFits_primary, hnext, filter_cons_of_neg (by simp)]
      simp only [mem_cons_self, forall_const]
      tauto
    · have hnext : (plan.place df ioBase rb rbs.isEmpty).2 = ioBase + ioRequest io rb := by
        simp [IoPlan.place, hrb, hshare]
      rw [windowFits_other hrb, hnext, filter_cons_of_pos (by simpa using hrb), requestsFit_cons, mem_cons,
        or_iff_right (Ne.symm hrb)]
      by_cases hle : ioBase.toNat + (ioRequest io rb).toNat ≤ 0x10000
      · have hadd : (ioBase + ioRequest io rb).toNat = ioBase.toNat + (ioRequest io rb).toNat := by
          rw [UInt32.toNat_add]
          exact mod_eq_of_lt (by omega)
        rw [hadd]
        tauto
      · tauto

theorem filter_ne_eq_erase (hnodup : rbs.Nodup) : rbs.filter (· ≠ rb) = rbs.erase rb := by
  rw [hnodup.erase_eq_filter]
  congr 1
  funext x
  simp [bne, Bool.beq_eq_decide_eq]

theorem ioSum_eq (hnodup : rbs.Nodup) (hmem : rb ∈ rbs) :
    ioSum io rbs = (ioRequest io rb).toNat + ioSum io (rbs.filter (· ≠ rb)) := by
  have hsum := (perm_cons_erase hmem).map fun rb => (ioRequest io rb).toNat
  rw [filter_ne_eq_erase hnodup]
  unfold ioSum
  rw [hsum.sum_eq, map_cons, sum_cons]

theorem foldl_ioStep_sum (hshare : plan.share = ioRequest io) (logs : List (Nat × Nat)) (s : IoWalk) :
    (logs.foldl (ioStep blk df plan) s).ioSizeSum.toNat =
      (s.ioSizeSum.toNat + ioSum io (logs.map (dfXSilGetPhySktRbNum df))) % 2 ^ 32 := by
  induction logs generalizing s with
  | nil => exact (mod_eq_of_lt s.ioSizeSum.toNat_lt).symm
  | cons log logs ih =>
    have hstep : (ioStep blk df plan s log).ioSizeSum = s.ioSizeSum + ioRequest io (dfXSilGetPhySktRbNum df log) := by
      unfold ioStep
      rw [hshare]
      dsimp only
      split_ifs <;> rfl
    rw [foldl_cons, ih, hstep, map_cons, ioSum_cons, UInt32.toNat_add, mod_add_mod, add_assoc]

end

def ioShortage (blk : InputBlk) (io : Table UInt64) (df : DfAnswers) (setDfRegisters : Bool) (s : IoState) :
    Option UInt32 :=
  (silInitIoBasedOnNvVariable4 blk io df (some ⟨0, 0⟩) setDfRegisters s).2.1.map IoSpaceStatus.ioSizeReqInc

section
variable {blk : InputBlk} {io : Table UInt64} {df : DfAnswers}

theorem ioSum_phyRbs (hcounts : CountsMatch blk df) : ioSum io (phyRbs blk df) = ioSum io (rootBridges blk) :=
  (hcounts.phy_perm.map fun rb => (ioRequest io rb).toNat).sum_eq

theorem ioShortage_eq_zero_iff (hcounts : CountsMatch blk df) (setDfRegisters : Bool) (s : IoState) :
    ioShortage blk io df setDfRegisters s = some 0 ↔ ioSum io (rootBridges blk) % 2 ^ 32 ≤ 0x10000 := by
  let walk := ioWalk blk df (nvIoPlan blk io df setDfRegisters)
    (reserveForPrimaryRb blk df (ioRequest io (primaryRb df))).2 s
  have hsum : walk.ioSizeSum.toNat = ioSum io (rootBridges blk) % 2 ^ 32 := by
    have hfold : walk.ioSizeSum.toNat = (0 + ioSum io (phyRbs blk df)) % 2 ^ 32 := foldl_ioStep_sum rfl _ _
    rwa [zero_add, ioSum_phyRbs hcounts] at hfold
  have hreport : ioShortage blk io df setDfRegisters s =
      some (if x86IoLimit < 0 + walk.ioSizeSum then 0 + walk.ioSizeSum - x86IoLimit else 0) := rfl
  have hlimit : x86IoLimit < walk.ioSizeSum ↔ 0x10000 < walk.ioSizeSum.toNat := UInt32.lt_iff_toNat_lt
  rw [hreport, UInt32.zero_add, Option.some_inj, ← hsum]
  split_ifs with hlt
  · grind
  · rw [hlimit] at hlt
    exact ⟨fun _ => not_lt.mp hlt, fun _ => rfl⟩

theorem ioFits_iff (hcounts : CountsMatch blk df) (hmem : primaryRb df ∈ rootBridges blk) : IoFits blk io df ↔
    0x1000 + ioSum io (rootBridges blk) ≤ 0x10000 ∧
      ((phyRbs blk df).filter (· ≠ primaryRb df) = [] ∨ 0x1000 + (ioRequest io (primaryRb df)).toNat +
        ioSum io ((phyRbs blk df).filter (· ≠ primaryRb df)).dropLast < 0x10000) := by
  have hperm : (phyRbs blk df).Perm (rootBridges blk) := hcounts.phy_perm
  have hphy := hperm.mem_iff.mpr hmem
  have hsum : ioSum io (phyRbs blk df) = _ := ioSum_eq (hperm.nodup_iff.mpr (nodup_rootBridges blk)) hphy
  rw [ioSum_phyRbs hcounts] at hsum
  unfold IoFits
  rw [ioPlaces_fit_iff rfl, hsum]
  simp only [hphy, forall_const]
  generalize hothers : (phyRbs blk df).filter (· ≠ primaryRb df) = others
  unfold RequestsFit
  rcases eq_or_ne others [] with rfl | hne
  · simp
  · -- There are other root bridges, so the space behind the primary one is theirs.
    have htwo : 2 ≤ (rootBridges blk).length := by
      rw [← hperm.length_eq, ← length_erase_add_one hphy]
      have hpos := length_pos_iff.mpr hne
      rw [← hothers, filter_ne_eq_erase (hperm.nodup_iff.mpr (nodup_rootBridges blk))] at hpos
      omega
    rw [reserveForPrimaryRb_eq htwo hmem]
    simp only [hne, false_or]
    by_cases hle : 0x1000 + (ioRequest io (primaryRb df)).toNat ≤ 0x10000
    · have hbase : (ioRequest io (primaryRb df) + x86LegacyIoSize).toNat =
          0x1000 + (ioRequest io (primaryRb df)).toNat := by
        rw [UInt32.toNat_add, add_comm 0x1000]
        exact mod_eq_of_lt (by change _ + 0x1000 < 2 ^ 32; omega)
      rw [hbase]
      omega
    · omega

end

theorem primaryRb_busDf : primaryRb busDf ∈ rootBridges (plainBlk 0xE0000000) := by decide

def fullIo : Table UInt64 := fun _ rb => if rb = 2 then 0xF000 else if rb = 3 then 0x1000 else 0

end OpenSil.RcMgr
