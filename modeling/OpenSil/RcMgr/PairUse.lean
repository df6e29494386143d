import OpenSil.RcMgr.PairIndex

/-! # When no register pair is used twice -/

namespace OpenSil.RcMgr

open Stores Table List Option EquallyWindow

/-! ## Slots and pairs -/

/-- The number that a slot has in `MmioPairIndex`. A socket has `RbsPerSocket` numbers but four slots. -/
def slotNumber (blk : InputBlk) (slot : Nat × Nat) : Nat := slot.1 * blk.rbsPerSocket.toNat + slot.2

/-- One or two sockets with up to four root bridges each, as many as there are slots. -/
structure CountsFit (blk : InputBlk) : Prop where
  sockets : blk.socketNumber.toNat ≤ 2
  bridges : blk.rbsPerSocket.toNat ≤ 4

variable {blk : InputBlk} {sys : SystemInfo} {df : DfAnswers} {m : MmioManager} {k k' : PairKey} {slot slot' : Nat × Nat}

theorem slot_bounds : ∀ slot ∈ slots, slot.1 < 2 ∧ slot.2 < 4 := by decide

theorem CountsFit.mem_slots (hcounts : CountsFit blk) (h : slot ∈ rootBridges blk) : slot ∈ slots := by
  obtain ⟨hi, hj⟩ := mem_rootBridges.mp h
  have hi' : slot.1 < maxSocketsSupported.toNat := lt_of_lt_of_le hi hcounts.sockets
  have hj' : slot.2 < dfXMaxHostBridgesPerSocket := lt_of_lt_of_le hj hcounts.bridges
  exact mem_flatMap.mpr ⟨slot.1, List.mem_range.mpr hi', List.mem_map.mpr ⟨slot.2, List.mem_range.mpr hj', rfl⟩⟩

theorem toNat_pairOf (hcounts : CountsFit blk) (h : k.1 ∈ slots) :
    (pairOf blk k).toNat = slotNumber blk k.1 * 2 + if k.2 then 1 else 0 := by
  obtain ⟨hi, hj⟩ := slot_bounds _ h
  have hrow : k.1.1 * blk.rbsPerSocket.toNat ≤ 1 * 4 := Nat.mul_le_mul (by omega) hcounts.bridges
  have hbit : (if k.2 = true then 1 else 0) < 2 := by split_ifs <;> omega
  unfold slotNumber
  exact Nat.mod_eq_of_lt (by omega)

theorem pairOf_eq_iff (hcounts : CountsFit blk) (h : k.1 ∈ slots) (h' : k'.1 ∈ slots) :
    pairOf blk k = pairOf blk k' ↔ slotNumber blk k.1 = slotNumber blk k'.1 ∧ k.2 = k'.2 := by
  rw [← UInt8.toNat_inj, toNat_pairOf hcounts h, toNat_pairOf hcounts h']
  cases k.2 <;> cases k'.2 <;> simp <;> omega

theorem slotNumber_inj (h : slot ∈ rootBridges blk) (h' : slot' ∈ rootBridges blk)
    (heq : slotNumber blk slot = slotNumber blk slot') : slot = slot' := by
  have hj := (mem_rootBridges.mp h).2
  have hj' := (mem_rootBridges.mp h').2
  have hpos : 0 < blk.rbsPerSocket.toNat := by omega
  have hdiv : ∀ s : Nat × Nat, s.2 < blk.rbsPerSocket.toNat →
      slotNumber blk s / blk.rbsPerSocket.toNat = s.1 ∧ slotNumber blk s % blk.rbsPerSocket.toNat = s.2 := by
    intro s hs
    unfold slotNumber
    rw [Nat.mul_comm, Nat.mul_add_div hpos, Nat.div_eq_of_lt hs, Nat.mul_add_mod, Nat.mod_eq_of_lt hs]
    exact ⟨rfl, rfl⟩
  refine Prod.ext ?_ ?_
  · rw [← (hdiv slot hj).1, heq, (hdiv slot' hj').1]
  · rw [← (hdiv slot hj).2, heq, (hdiv slot' hj').2]

/-! ## The slots that are not in use -/

def IsSecond (m : MmioManager) (slot : Nat × Nat) : Prop :=
  m.primaryRbHas2ndMmioBelow4G ∧ (m.primaryRb2ndMmioPairBelow4G >>> 4 &&& 0xF).toNat = slot.1 ∧
    (m.primaryRb2ndMmioPairBelow4G &&& 0xF).toNat = slot.2

theorem isSecond_of_pair (hslot : slot ∈ slots) (hhas : m.primaryRbHas2ndMmioBelow4G = true)
    (hpair : m.primaryRb2ndMmioPairBelow4G = .ofNat ((slot.1 <<< 4) ||| slot.2)) : IsSecond m slot := by
  have hhalves : ∀ slot ∈ slots, ((UInt8.ofNat ((slot.1 <<< 4) ||| slot.2)) >>> 4 &&& 0xF).toNat = slot.1 ∧
      ((UInt8.ofNat ((slot.1 <<< 4) ||| slot.2)) &&& 0xF).toNat = slot.2 := by decide
  unfold IsSecond
  rw [hpair]
  exact ⟨hhas, hhalves slot hslot⟩

theorem spareKey_some (h : spareKey m slot = some k) :
    (k = (slot, false) ∧ entry m.allocateMmioBelow4GOnThisRb slot = false ∧ ¬ IsSecond m slot) ∨
    (k = (slot, true) ∧ entry m.allocateMmioAbove4GOnThisRb slot = false) := by
  unfold spareKey at h
  split_ifs at h with hbelow hsecond habove
  · exact .inl ⟨(some.inj h).symm, by simpa [entry] using hbelow, hsecond⟩
  · exact .inr ⟨(some.inj h).symm, by simpa [entry] using habove⟩

theorem spareKey_slot (h : spareKey m slot = some k) : k.1 = slot := by
  rcases spareKey_some h with ⟨rfl, _⟩ | ⟨rfl, _⟩ <;> rfl

theorem postedKey_spare {reserved : Bool} (h : postedKey reserved m = some k) : k.1 ∈ slots ∧ spareKey m k.1 = some k := by
  unfold postedKey at h
  split_ifs at h
  obtain ⟨slot, hslot, hspare⟩ := exists_of_findSome?_eq_some h
  rw [spareKey_slot hspare]
  exact ⟨hslot, hspare⟩

theorem spareSlot_mem (h : spareSlot m = some slot) : slot ∈ slots := by
  have hmem := mem_of_find?_eq_some h
  have hrows : (if m.primaryRbHas2ndMmioBelow4G then [0] else range maxSocketsSupported.toNat) ⊆
      range maxSocketsSupported.toNat := by
    split_ifs
    · decide
    · exact Subset.refl _
  obtain ⟨i, hi, hslot⟩ := mem_flatMap.mp hmem
  exact mem_flatMap.mpr ⟨i, hrows hi, hslot⟩

/-! ## The pairs of an initialisation -/

/-- The pairs of the first regions, of the second one, of those above 4G and of the posted region, and what the manager
says about them in the end. -/
structure PairUse (blk : InputBlk) (m : MmioManager) (below : List PairKey) (second : Option PairKey)
    (above : List PairKey) (posted : Option PairKey) : Prop where
  nodup_below : below.Nodup
  below : ∀ k ∈ below, k.2 = false ∧ k.1 ∈ rootBridges blk ∧ entry m.allocateMmioBelow4GOnThisRb k.1 = true
  nodup_above : above.Nodup
  above : ∀ k ∈ above, k.2 = true ∧ k.1 ∈ rootBridges blk ∧ entry m.allocateMmioAbove4GOnThisRb k.1 = true
  second : ∀ k ∈ second, k.2 = false ∧ k.1 ∈ slots ∧ entry m.allocateMmioBelow4GOnThisRb k.1 = false ∧ IsSecond m k.1
  posted : ∀ k ∈ posted, k.1 ∈ slots ∧ spareKey m k.1 = some k

theorem nodup_toList {α : Type} (o : Option α) : o.toList.Nodup := by
  cases o with
  | none => exact .nil
  | some a => exact nodup_singleton a

variable {below above : List PairKey} {second posted : Option PairKey}

theorem PairUse.nodup_keys (h : PairUse blk m below second above posted) :
    (below ++ second.toList ++ above ++ posted.toList).Nodup := by
  have hsecond : ∀ k ∈ below, ∀ k' ∈ second.toList, k ≠ k' := by
    rintro k hk k' hk' rfl
    obtain ⟨-, -, hflag⟩ := h.below k hk
    obtain ⟨-, -, hfree, -⟩ := h.second k (mem_toList.mp hk')
    exact absurd (hflag.symm.trans hfree) (by simp)
  have habove : ∀ k ∈ below ++ second.toList, ∀ k' ∈ above, k ≠ k' := by
    rintro k hk k' hk' rfl
    have hside : k.2 = false := by
      rcases mem_append.mp hk with hk | hk
      · exact (h.below k hk).1
      · exact (h.second k (mem_toList.mp hk)).1
    exact absurd (hside.symm.trans (h.above k hk').1) (by simp)
  have hposted : ∀ k ∈ below ++ second.toList ++ above, ∀ k' ∈ posted.toList, k ≠ k' := by
    rintro k hk k' hk' rfl
    have hspare := spareKey_some (h.posted k (mem_toList.mp hk')).2
    simp only [mem_append] at hk
    rcases hk with (hk | hk) | hk
    · obtain ⟨hside, -, hflag⟩ := h.below k hk
      rcases hspare with ⟨-, hfree, -⟩ | ⟨heq, -⟩
      · exact absurd (hflag.symm.trans hfree) (by simp)
      · exact absurd (hside.symm.trans (congrArg Prod.snd heq)) (by simp)
    · obtain ⟨hside, -, -, hsecond⟩ := h.second k (mem_toList.mp hk)
      rcases hspare with ⟨-, -, hno⟩ | ⟨heq, -⟩
      · exact hno hsecond
      · exact absurd (hside.symm.trans (congrArg Prod.snd heq)) (by simp)
    · obtain ⟨hside, -, hflag⟩ := h.above k hk
      rcases hspare with ⟨heq, -⟩ | ⟨-, hfree⟩
      · exact absurd (hside.symm.trans (congrArg Prod.snd heq)) (by simp)
      · exact absurd (hflag.symm.trans hfree) (by simp)
  refine nodup_append.mpr ⟨nodup_append.mpr ⟨nodup_append.mpr ⟨h.nodup_below, nodup_toList _, hsecond⟩,
    h.nodup_above, habove⟩, nodup_toList _, hposted⟩

/-- No other call for the same side of 4G has a slot with the number of a spare slot that was taken. -/
def SparesApart (blk : InputBlk) (keys spares : List PairKey) : Prop :=
  ∀ k ∈ spares, ∀ k' ∈ keys, k' ≠ k → k'.2 = k.2 → slotNumber blk k'.1 ≠ slotNumber blk k.1

/-- With four root bridges for each socket, every slot has its own number. -/
theorem sparesApart_of_four {keys spares : List PairKey} (hfour : blk.rbsPerSocket = 4) (hkeys : ∀ k ∈ keys, k.1 ∈ slots)
    (hspares : ∀ k ∈ spares, k ∈ keys) : SparesApart blk keys spares := by
  intro k hk k' hk' hne hside heq
  have hj := (slot_bounds _ (hkeys k (hspares k hk))).2
  have hj' := (slot_bounds _ (hkeys k' hk')).2
  have hrow : blk.rbsPerSocket.toNat = 4 := by
    rw [hfour]
    rfl
  unfold slotNumber at heq
  rw [hrow] at heq
  exact hne (Prod.ext (Prod.ext (by omega) (by omega)) hside)

section
variable (hcounts : CountsFit blk) (h : PairUse blk m below second above posted)
include hcounts h

theorem PairUse.mem_slots : ∀ k ∈ below ++ second.toList ++ above ++ posted.toList, k.1 ∈ slots := by
  intro k hk
  simp only [mem_append] at hk
  rcases hk with ((hk | hk) | hk) | hk
  · exact hcounts.mem_slots (h.below k hk).2.1
  · exact (h.second k (mem_toList.mp hk)).2.1
  · exact hcounts.mem_slots (h.above k hk).2.1
  · exact (h.posted k (mem_toList.mp hk)).1

/-- The root bridges never share a pair, so only the spare slots have to be looked at. -/
theorem PairUse.nodup_pairs_iff :
    ((below ++ second.toList ++ above ++ posted.toList).map (pairOf blk)).Nodup ↔
      SparesApart blk (below ++ second.toList ++ above ++ posted.toList) (second.toList ++ posted.toList) := by
  have hslots := h.mem_slots hcounts
  rw [nodup_map_iff_inj_on h.nodup_keys]
  constructor
  · intro hinj k hk k' hk' hne hside heq
    have hmem : k ∈ below ++ second.toList ++ above ++ posted.toList := by
      simp only [mem_append] at hk ⊢
      tauto
    exact hne (hinj k' hk' k hmem ((pairOf_eq_iff hcounts (hslots k' hk') (hslots k hmem)).mpr ⟨heq, hside⟩))
  · intro hspares k hk k' hk' heq
    obtain ⟨hnumber, hside⟩ := (pairOf_eq_iff hcounts (hslots k hk) (hslots k' hk')).mp heq
    by_contra hne
    have hbridge : ∀ k ∈ below ++ second.toList ++ above ++ posted.toList, k ∉ second.toList ++ posted.toList →
        k.1 ∈ rootBridges blk := by
      intro k hk hspare
      simp only [mem_append] at hk hspare
      rcases hk with ((hk | hk) | hk) | hk
      · exact (h.below k hk).2.1
      · exact absurd (.inl hk) hspare
      · exact (h.above k hk).2.1
      · exact absurd (.inr hk) hspare
    by_cases hspare : k ∈ second.toList ++ posted.toList
    · exact hspares k hspare k' hk' (Ne.symm hne) hside.symm hnumber.symm
    · by_cases hspare' : k' ∈ second.toList ++ posted.toList
      · exact hspares k' hspare' k hk hne hside hnumber
      · exact hne (Prod.ext (slotNumber_inj (hbridge k hk hspare) (hbridge k' hk' hspare') hnumber) hside)

end

/-! ## Sharing equally -/

theorem equallyOthers_bridges {copy : UInt8} {rbs : List (Nat × Nat)} {s : EquallyWalk}
    (h : (equallyOthers blk sys copy rbs s).2 = .complete) :
    (equallyOthers blk sys copy rbs s).1.map rb = rbs := by
  induction rbs generalizing s with
  | nil => rfl
  | cons rb rbs ih =>
    unfold equallyOthers at h ⊢
    by_cases habove : s.rbNumberAbovePcieCfg ≠ 0
    · rw [if_pos habove] at h ⊢
      exact congrArg (rb :: ·) (ih h)
    · rw [if_neg habove] at h ⊢
      cases hsmall : belowPcieCfgIsTooSmall blk sys with
      | true =>
        rw [hsmall] at h
        cases h
      | false =>
        rw [hsmall] at h
        cases hswitch : s.switchSide blk sys copy with
        | none =>
          rw [hswitch] at h
          cases h
        | some s' =>
          rw [hswitch] at h
          exact congrArg (rb :: ·) (ih h)

theorem equallyBelow4G_bridges (h : (equallyBelow4G blk sys df).2 = .complete) :
    (equallyBelow4G blk sys df).1.map rb =
      primaryRb df :: (rootBridges blk).filter (· ≠ primaryRb df) := by
  unfold equallyBelow4G at h ⊢
  cases hstart : equallyStart blk sys with
  | none =>
    rw [hstart] at h
    cases h
  | some s =>
    rw [hstart] at h
    dsimp only at h ⊢
    split_ifs at h ⊢
    · exact congrArg (primaryRb df :: ·) (equallyOthers_bridges h)
    · exact congrArg (primaryRb df :: ·) (equallyOthers_bridges h)

theorem equallyAbove4GFrom_bridges (base : UInt64) (rbs : List (Nat × Nat)) :
    ((equallyAbove4GFrom blk sys base rbs).map rb).Sublist rbs := by
  induction rbs generalizing base with
  | nil => exact .slnil
  | cons rb rbs ih =>
    unfold equallyAbove4GFrom
    split_ifs
    · exact (ih _).cons _
    · exact (ih _).cons_cons _

theorem equallyAbove4G_bridges : ((equallyAbove4G blk sys).map rb).Sublist (rootBridges blk) := by
  unfold equallyAbove4G
  dsimp only
  split_ifs
  · exact equallyAbove4GFrom_bridges _ _
  · exact nil_sublist _

theorem arrangeEquallyAbove4G_keeps {β : Type} {p : MmioManager → β}
    (hp : ∀ (m : MmioManager) regions flags,
      p { m with mmioRegionAbove4G := regions, allocateMmioAbove4GOnThisRb := flags } = p m) (out : MmioState) :
    p (arrangeEquallyAbove4G blk sys df out).manager = p out.manager := by
  unfold arrangeEquallyAbove4G
  have hset := foldl_keep (p := fun s : MmioState => p s.manager) (f := setEquallyAbove4G blk sys df)
    (fun _ _ => hp _ _ _) (equallyAbove4G blk sys)
  have hmark := foldl_keep (p := fun s : MmioState => p s.manager) (f := markAbove4G) (fun _ _ => hp _ _ _)
    (rootBridges blk) out
  refine (hset _).trans ?_
  split_ifs
  · exact hmark
  · rfl

theorem arrangeEquallyAbove4G_flag (out : MmioState) {w : EquallyWindow} (hw : w ∈ equallyAbove4G blk sys) :
    entry (arrangeEquallyAbove4G blk sys df out).manager.allocateMmioAbove4GOnThisRb w.rb = true := by
  have hrb : w.rb ∈ rootBridges blk := equallyAbove4G_bridges.subset (List.mem_map_of_mem hw)
  have hlt : (equallyWindow blk sys).base < (equallyWindow blk sys).limit := by
    by_contra hlt
    unfold equallyAbove4G at hw
    dsimp only at hw
    rw [if_neg hlt] at hw
    simp at hw
  have hmark := foldl_of_mem (fun s : MmioState => entry s.manager.allocateMmioAbove4GOnThisRb) id
    (fun _ => true) (f := markAbove4G) (fun _ _ => entry_set _ _ _) (by rw [List.map_id]; exact nodup_rootBridges blk) hrb out
  have hset := foldl_keep (p := fun s : MmioState => s.manager.allocateMmioAbove4GOnThisRb)
    (f := setEquallyAbove4G blk sys df) (fun _ _ => rfl) (equallyAbove4G blk sys)
  unfold arrangeEquallyAbove4G
  rw [hset, if_pos hlt]
  exact hmark

theorem addEquallySecond_slot (out : MmioState) {k : PairKey} (h : secondKeyEqually blk sys df out.manager = some k) :
    k.2 = false ∧ spareSlot out.manager = some k.1 ∧ IsSecond (addEquallySecond blk sys df out).1.manager k.1 := by
  unfold secondKeyEqually at h
  unfold addEquallySecond
  cases hwindow : equallySecondWindow blk sys df with
  | none =>
    rw [hwindow] at h
    cases h
  | some w =>
    cases hslot : spareSlot out.manager with
    | none =>
      rw [hwindow, hslot] at h
      cases h
    | some slot =>
      rw [hwindow, hslot] at h
      cases h
      exact ⟨rfl, rfl, isSecond_of_pair (spareSlot_mem hslot) rfl rfl⟩

theorem equally_pairUse (hprimary : primaryRb df ∈ rootBridges blk) (out : MmioState)
    (hend : (equallyBelow4G blk sys df).2 = .complete) :
    let placed := placedEqually blk sys df out (equallyBelow4G blk sys df).1
    let second := addEquallySecond blk sys df placed
    let done := arrangeEquallyAbove4G blk sys df second.1
    PairUse blk done.manager ((equallyBelow4G blk sys df).1.map fun w => (w.rb, false))
      (secondKeyEqually blk sys df placed.manager) ((equallyAbove4G blk sys).map fun w => (w.rb, true))
      (postedKeyEqually blk sys df out) := by
  intro placed second done
  have hbridges := equallyBelow4G_bridges hend
  have hperm : ((equallyBelow4G blk sys df).1.map rb).Perm (rootBridges blk) :=
    hbridges ▸ primary_cons_perm hprimary
  have hnodup : ((equallyBelow4G blk sys df).1.map rb).Nodup := hperm.symm.nodup (nodup_rootBridges blk)
  have hflags : done.manager.allocateMmioBelow4GOnThisRb = placed.manager.allocateMmioBelow4GOnThisRb :=
    (arrangeEquallyAbove4G_keeps (p := MmioManager.allocateMmioBelow4GOnThisRb) (fun _ _ _ => rfl) second.1).trans
      addEquallySecond_keeps.1
  constructor
  case nodup_below => exact (pairwise_map.mp hnodup).map _ fun _ _ h heq => h (congrArg Prod.fst heq)
  case below =>
    intro k hk
    obtain ⟨w, hw, rfl⟩ := List.mem_map.mp hk
    rw [hflags]
    exact ⟨rfl, hperm.subset (List.mem_map_of_mem hw), placedEqually_flag blk sys df out hnodup hw⟩
  case nodup_above =>
    exact (pairwise_map.mp (equallyAbove4G_bridges.nodup (nodup_rootBridges blk))).map _
      fun _ _ h heq => h (congrArg Prod.fst heq)
  case above =>
    intro k hk
    obtain ⟨w, hw, rfl⟩ := List.mem_map.mp hk
    exact ⟨rfl, equallyAbove4G_bridges.subset (List.mem_map_of_mem hw), arrangeEquallyAbove4G_flag _ hw⟩
  case second =>
    intro k hk
    obtain ⟨hside, hspare, hsecond⟩ := addEquallySecond_slot placed hk
    have hkept : IsSecond done.manager k.1 = IsSecond second.1.manager k.1 :=
      arrangeEquallyAbove4G_keeps (p := fun m => IsSecond m k.1) (fun _ _ _ => rfl) second.1
    rw [hflags, hkept]
    exact ⟨hside, spareSlot_mem hspare, spareSlot_free hspare, hsecond⟩
  case posted => exact fun k hk => postedKey_spare hk

/-! ## Sharing by the stored requests -/

variable {start : Side → UInt64} {a : Nat → Bool} {out : MmioState} {s : TryState}

theorem addSecondRegion_flags {t : TryState} (ht : s.addSecondRegion blk df = some t) :
    t.out.manager.allocateMmioBelow4GOnThisRb = s.out.manager.allocateMmioBelow4GOnThisRb ∧
    t.out.manager.allocateMmioAbove4GOnThisRb = s.out.manager.allocateMmioAbove4GOnThisRb := by
  rcases TryState.addSecondRegion_cases blk df ht with ⟨rfl, -⟩ | ⟨_, _, -, -, -, rfl⟩
  · exact ⟨rfl, rfl⟩
  · exact ⟨rfl, rfl⟩

theorem addSecondRegion_slot {t : TryState} (ht : s.addSecondRegion blk df = some t) {k : PairKey}
    (h : secondKey blk s = some k) : k.2 = false ∧ spareSlot s.out.manager = some k.1 ∧ IsSecond t.out.manager k.1 := by
  unfold secondKey at h
  rcases TryState.addSecondRegion_cases blk df ht with ⟨-, hnone⟩ | ⟨slot, _, hwants, hslot, -, rfl⟩
  · split_ifs at h with hwants
    rw [hnone hwants] at h
    cases h
  · rw [if_pos hwants, hslot] at h
    cases h
    exact ⟨rfl, hslot, isSecond_of_pair (spareSlot_mem hslot) rfl rfl⟩

theorem runCombination_above4G (blk : InputBlk) (df : DfAnswers) (start : Side → UInt64) (a : Nat → Bool) (out : MmioState) :
    (runCombination blk df start a true out).out.manager.allocateMmioAbove4GOnThisRb =
      out.manager.allocateMmioAbove4GOnThisRb :=
  foldl_keep (p := fun s : TryState => s.out.manager.allocateMmioAbove4GOnThisRb) (f := tryRb blk df a true)
    (fun _ _ => tryRb_keepsAbove4G.1) _ _

theorem beforeTaken_above4G (blk : InputBlk) (sys : SystemInfo) (df : DfAnswers) (out : MmioState) :
    (beforeTaken blk sys df true out).manager.allocateMmioAbove4GOnThisRb = out.manager.allocateMmioAbove4GOnThisRb := by
  unfold beforeTaken
  split_ifs
  · rfl
  · exact runCombination_above4G _ _ _ _ _

theorem nodup_combinationOrder (blk : InputBlk) (df : DfAnswers) : (combinationOrder blk df).Nodup :=
  nodup_append.mpr ⟨nodup_otherRootBridges blk df, nodup_singleton _, fun _ hrb _ hprimary heq =>
    ne_of_mem_otherRootBridges _ hrb (heq.trans (mem_singleton.mp hprimary))⟩

section
variable (hprimary : primaryRb df ∈ rootBridges blk)
include hprimary

theorem mem_combinationOrder {rb : Nat × Nat} (h : rb ∈ combinationOrder blk df) : rb ∈ rootBridges blk := by
  rcases mem_append.mp h with h | h
  · exact mem_reverse.mp (mem_filter.mp h).1
  · rw [mem_singleton.mp h]
    exact hprimary

theorem combinationKeys_bridge {k : PairKey} (h : k ∈ combinationKeys blk df a s (combinationOrder blk df)) :
    k.2 = false ∧ k.1 ∈ rootBridges blk := by
  obtain ⟨rb, hrb, rfl⟩ := List.mem_map.mp ((combinationKeys_sublist _ _).subset h)
  exact ⟨rfl, mem_combinationOrder hprimary hrb⟩

theorem nv_pairUse {t : TryState} (ht : (runCombination blk df start a true out).addSecondRegion blk df = some t)
    (habove : ∀ rb ∈ (rootBridges blk).filter (asksAbove4G blk), entry out.manager.allocateMmioAbove4GOnThisRb rb = true) :
    PairUse blk t.out.manager (combinationKeys blk df a (.start start out) (combinationOrder blk df))
      (secondKey blk (runCombination blk df start a true out)) (nvKeysAbove4G blk) (postedKeyNv blk df start a out) := by
  obtain ⟨hflags, hflagsAbove⟩ := addSecondRegion_flags ht
  constructor
  case nodup_below =>
    exact (combinationKeys_sublist _ _).nodup ((nodup_combinationOrder blk df).map fun _ _ h => congrArg Prod.fst h)
  case below =>
    intro k hk
    obtain ⟨hside, hmem⟩ := combinationKeys_bridge hprimary hk
    rw [hflags]
    refine ⟨hside, hmem, (combinationKeys_flag _ _ _).mpr (.inl ?_)⟩
    rwa [← hside]
  case nodup_above =>
    exact ((nodup_rootBridges blk).filter _).map fun _ _ h => congrArg Prod.fst h
  case above =>
    intro k hk
    obtain ⟨rb, hrb, rfl⟩ := List.mem_map.mp hk
    rw [hflagsAbove]
    refine ⟨rfl, (mem_filter.mp hrb).1, ?_⟩
    rw [runCombination_above4G]
    exact habove rb hrb
  case second =>
    intro k hk
    obtain ⟨hside, hspare, hsecond⟩ := addSecondRegion_slot ht hk
    rw [hflags]
    exact ⟨hside, spareSlot_mem hspare, spareSlot_free hspare, hsecond⟩
  case posted =>
    intro k hk
    unfold postedKeyNv at hk
    rw [ht] at hk
    exact postedKey_spare hk

end

/-! ## Both ways to initialise -/

section
variable (blk : InputBlk) (sys : SystemInfo) (df : DfAnswers) (out out' : MmioState)

/-- The calls of the final placement below 4G, by the combination that is taken. -/
def nvKeysBelow4G : List PairKey :=
  let above := silArrangeMmioAbove4G blk df (nvWindow blk sys).base (nvWindow blk sys).limit true out
  (takenCombination blk sys df).elim [] fun a =>
    placementKeys blk df (mmioStart blk sys) a (beforeTaken blk sys df true above.out)

def nvSpares : List PairKey :=
  let above := silArrangeMmioAbove4G blk df (nvWindow blk sys).base (nvWindow blk sys).limit true out
  let mid := beforeTaken blk sys df true above.out
  (takenCombination blk sys df).elim [] fun a =>
    (secondKey blk (runCombination blk df (mmioStart blk sys) a true mid)).toList ++
      (postedKeyNv blk df (mmioStart blk sys) a mid).toList

def equallySpares : List PairKey :=
  (secondKeyEqually blk sys df (placedEqually blk sys df out (equallyBelow4G blk sys df).1).manager).toList ++
    (postedKeyEqually blk sys df out).toList

/-- The calls above 4G and those of the final placement below 4G lead to the result, and use different pairs. -/
def NvDistinct : Prop :=
  let above := silArrangeMmioAbove4G blk df (nvWindow blk sys).base (nvWindow blk sys).limit true out
  Writes blk df (nvKeysAbove4G blk) out.regs above.out.regs ∧
  Writes blk df (nvKeysBelow4G blk sys df out) (beforeTaken blk sys df true above.out).regs out'.regs ∧
  ((nvKeysAbove4G blk ++ nvKeysBelow4G blk sys df out).map (pairOf blk)).Nodup

/-- The calls of the equal distribution lead to the result, and use different pairs. -/
def EquallyDistinct : Prop :=
  Writes blk df (equallyKeys blk sys df out) out.regs out'.regs ∧
    ((equallyKeys blk sys df out).map (pairOf blk)).Nodup

variable {blk sys df out out'} (hcounts : CountsFit blk) (hprimary : primaryRb df ∈ rootBridges blk)
include hcounts hprimary

theorem equallyDistinct_iff (h : silInitMmioEqually4 blk sys df out = some (.silPass, out')) :
    EquallyDistinct blk sys df out out' ↔
      SparesApart blk (equallyKeys blk sys df out) (equallySpares blk sys df out) := by
  obtain ⟨-, -, hend, rfl⟩ := silInitMmioEqually4_pass h
  exact (and_iff_right (equallyDone_writes blk sys df out)).trans
    ((equally_pairUse hprimary out hend).nodup_pairs_iff hcounts)

theorem nvDistinct_iff (h : silInitMmioBasedOnNvVariable4 blk sys df true out = some (.silPass, out')) :
    NvDistinct blk sys df out out' ↔
      SparesApart blk (nvKeysAbove4G blk ++ nvKeysBelow4G blk sys df out) (nvSpares blk sys df out) := by
  obtain ⟨henough, a, htaken, htry⟩ := silInitMmioBasedOnNvVariable4_pass h
  obtain ⟨-, t, ht, -⟩ := of_accepted htry
  unfold NvDistinct nvKeysBelow4G nvSpares
  simp only [htaken, Option.elim_some]
  refine (and_iff_right (arrangeRbAbove4G_writes henough)).trans ((and_iff_right (placement_writes htry)).trans ?_)
  have hflags : ∀ rb ∈ (rootBridges blk).filter (asksAbove4G blk), entry (beforeTaken blk sys df true
      (silArrangeMmioAbove4G blk df (nvWindow blk sys).base (nvWindow blk sys).limit true
        out).out).manager.allocateMmioAbove4GOnThisRb rb = true := by
    intro rb hrb
    rw [beforeTaken_above4G]
    exact (arrangeRbAbove4G_flag rb henough).mpr (.inl hrb)
  have hperm : ∀ below second posted : List PairKey,
      (nvKeysAbove4G blk ++ (below ++ second ++ posted)).Perm (below ++ second ++ nvKeysAbove4G blk ++ posted) := by
    intro below second posted
    rw [← append_assoc]
    exact perm_append_comm.append_right _
  have huse := (nv_pairUse hprimary ht hflags).nodup_pairs_iff hcounts
  unfold placementKeys
  rw [((hperm _ _ _).map (pairOf blk)).nodup_iff, huse]
  unfold SparesApart
  simp only [(hperm _ _ _).mem_iff]

end

/-- For every initialisation that passes: the calls of `SilSetMmioReg4` of the final placement use different register
pairs exactly if no spare slot has the number of another slot that is used on the same side of 4G. -/
theorem registerPairs_distinct_iff (blk : InputBlk) (sys : SystemInfo) (df : DfAnswers) (out out' : MmioState)
    (hcounts : CountsFit blk) (hprimary : primaryRb df ∈ rootBridges blk) :
    (silInitMmioBasedOnNvVariable4 blk sys df true out = some (.silPass, out') →
      (NvDistinct blk sys df out out' ↔
        SparesApart blk (nvKeysAbove4G blk ++ nvKeysBelow4G blk sys df out) (nvSpares blk sys df out))) ∧
    (silInitMmioEqually4 blk sys df out = some (.silPass, out') →
      (EquallyDistinct blk sys df out out' ↔
        SparesApart blk (equallyKeys blk sys df out) (equallySpares blk sys df out))) :=
  ⟨nvDistinct_iff hcounts hprimary, equallyDistinct_iff hcounts hprimary⟩

def countsBlk (sockets bridges : UInt8) : InputBlk :=
  { plainBlk 0xE0000000 with socketNumber := sockets, rbsPerSocket := bridges }

def countsDf (sockets bridges : UInt8) : DfAnswers :=
  { plainDf with
    numberOfProcessorsPresent := sockets
    rootBridgesOnDie := bridges
    rootBridgesOnSocket := bridges
    primaryRootBridge := 0 }

/-- One socket with four root bridges, initialised in both ways. -/
theorem registerPairs_distinct_plain :
    (∃ out', silInitMmioBasedOnNvVariable4 (countsBlk 1 4) (plainSystem 0x100000000) (countsDf 1 4) true .zero =
        some (.silPass, out') ∧ NvDistinct (countsBlk 1 4) (plainSystem 0x100000000) (countsDf 1 4) .zero out') ∧
    (∃ out', silInitMmioEqually4 (countsBlk 1 4) (plainSystem 0x100000000) (countsDf 1 4) .zero =
        some (.silPass, out') ∧ EquallyDistinct (countsBlk 1 4) (plainSystem 0x100000000) (countsDf 1 4) .zero out') := by
  have hnv : (silInitMmioBasedOnNvVariable4 (countsBlk 1 4) (plainSystem 0x100000000) (countsDf 1 4) true .zero).map
      Prod.fst = some .silPass := by decide +kernel
  have hequally : (silInitMmioEqually4 (countsBlk 1 4) (plainSystem 0x100000000) (countsDf 1 4) .zero).map Prod.fst =
      some .silPass := by decide +kernel
  have hdistinct := fun out' => registerPairs_distinct_iff (countsBlk 1 4) (plainSystem 0x100000000) (countsDf 1 4) .zero
    out' ⟨by decide, by decide⟩ (by decide)
  have hpass : ∀ {result : Option (SilStatus × MmioState)}, result.map Prod.fst = some .silPass →
      ∃ out', result = some (.silPass, out') := by
    intro result hresult
    obtain ⟨⟨_, out'⟩, hsome, rfl⟩ := map_eq_some_iff.mp hresult
    exact ⟨out', hsome⟩
  obtain ⟨out', hresult⟩ := hpass hnv
  obtain ⟨out'', hresult'⟩ := hpass hequally
  exact ⟨⟨out', hresult, ((hdistinct out').1 hresult).mpr (sparesApart_of_four rfl (by decide +kernel) (by decide +kernel))⟩,
    ⟨out'', hresult', ((hdistinct out'').2 hresult').mpr
      (sparesApart_of_four rfl (by decide +kernel) (by decide +kernel))⟩⟩

/-- Two sockets with three root bridges each. The first free slot is the fourth of the first socket, and the posted
region goes to its pair, which is that of the first root bridge of the second socket. -/
theorem posted_overwrites_pair :
    ((1, 0), false) ∈ equallyKeys (countsBlk 2 3) (plainSystem 0x100000000) (countsDf 2 3) .zero ∧
    ((0, 3), false) ∈ equallyKeys (countsBlk 2 3) (plainSystem 0x100000000) (countsDf 2 3) .zero ∧
    pairOf (countsBlk 2 3) ((1, 0), false) = 6 ∧ pairOf (countsBlk 2 3) ((0, 3), false) = 6 ∧
    (silInitMmioEqually4 (countsBlk 2 3) (plainSystem 0x100000000) (countsDf 2 3) .zero).map
      (fun r => (r.1, r.2.regs 0 6)) =
        some (.silPass, mmioPairFor (countsDf 2 3) 0 0 additionalPostedRegionStart 0x10000) := by
  decide +kernel

end OpenSil.RcMgr
