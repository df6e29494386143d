import OpenSil.RcMgr.EquallyPools
import OpenSil.RcMgr.Search

/-! # The register pairs of an initialisation

Every call of `SilSetMmioReg4` names the register pair by a slot, the place of a root bridge in the tables.
-/

namespace OpenSil.RcMgr

open Word Table List

abbrev PairKey := (Nat × Nat) × Bool

def pairOf (blk : InputBlk) (k : PairKey) : UInt8 := mmioPairIndex blk k.1 k.2

/-- Calls of `SilSetMmioReg4` with these pairs, one after the other, lead from `regs` to `regs'`. -/
inductive Writes (blk : InputBlk) (df : DfAnswers) : List PairKey → Table MmioPair → Table MmioPair → Prop where
  | nil (regs) : Writes blk df [] regs regs
  | cons {ks regs regs'} (k : PairKey) (sktNum rbNum : Nat) (baseAddress length : UInt64)
      (rest : Writes blk df ks
        (silSetMmioReg4 df blk.socketNumber (pairOf blk k) sktNum rbNum baseAddress length regs) regs') :
      Writes blk df (k :: ks) regs regs'

variable {blk : InputBlk} {df : DfAnswers} {ks ks' : List PairKey} {regs regs' regs'' : Table MmioPair}

theorem Writes.single (k : PairKey) (sktNum rbNum : Nat) (baseAddress length : UInt64) :
    Writes blk df [k] regs (silSetMmioReg4 df blk.socketNumber (pairOf blk k) sktNum rbNum baseAddress length regs) :=
  .cons k _ _ _ _ (.nil _)

theorem Writes.append (h : Writes blk df ks regs regs') (h' : Writes blk df ks' regs' regs'') :
    Writes blk df (ks ++ ks') regs regs'' := by
  induction h with
  | nil => exact h'
  | cons k skt rb base length _ ih => exact .cons k skt rb base length (ih h')

theorem Writes.foldl {α : Type} {f : MmioState → α → MmioState} (key : α → PairKey)
    (h : ∀ out a, Writes blk df [key a] out.regs (f out a).regs) (as : List α) (out : MmioState) :
    Writes blk df (as.map key) out.regs (as.foldl f out).regs := by
  induction as generalizing out with
  | nil => exact .nil _
  | cons a as ih => exact (h out a).append (ih (f out a))

/-! ## The posted region -/

def slots : List (Nat × Nat) :=
  (List.range maxSocketsSupported.toNat).flatMap fun i => (List.range dfXMaxHostBridgesPerSocket).map fun j => (i, j)

def spareKey (m : MmioManager) (slot : Nat × Nat) : Option PairKey :=
  if !m.allocateMmioBelow4GOnThisRb slot.1 slot.2 then
    if m.primaryRbHas2ndMmioBelow4G ∧ (m.primaryRb2ndMmioPairBelow4G >>> 4 &&& 0xF).toNat = slot.1 ∧
        (m.primaryRb2ndMmioPairBelow4G &&& 0xF).toNat = slot.2 then none
    else some (slot, false)
  else if !m.allocateMmioAbove4GOnThisRb slot.1 slot.2 then some (slot, true)
  else none

def postedKey (reservedRegionAlreadySet : Bool) (m : MmioManager) : Option PairKey :=
  if !reservedRegionAlreadySet || decide (bottomOfCompat ≤ additionalPostedRegionEnd) then slots.findSome? (spareKey m)
  else none

theorem sparePair_eq (m : MmioManager) (slot : Nat × Nat) : sparePair blk m slot = (spareKey m slot).map (pairOf blk) := by
  unfold sparePair spareKey
  split_ifs <;> rfl

theorem findSome?_sparePair (blk : InputBlk) (m : MmioManager) (l : List (Nat × Nat)) :
    l.findSome? (sparePair blk m) = (l.findSome? (spareKey m)).map (pairOf blk) := by
  induction l with
  | nil => rfl
  | cons slot l ih =>
    rw [findSome?_cons, findSome?_cons, sparePair_eq]
    cases spareKey m slot with
    | none => exact ih
    | some k => rfl

theorem silAdditionalMmioSetting4_writes (reserved : Bool) (out : MmioState) :
    Writes blk df (postedKey reserved out.manager).toList out.regs
      (silAdditionalMmioSetting4 blk df reserved out).regs := by
  unfold silAdditionalMmioSetting4 postedKey
  split_ifs
  · have hfind := findSome?_sparePair blk out.manager slots
    unfold slots at hfind ⊢
    rw [hfind]
    cases List.findSome? (spareKey out.manager) _ with
    | none => exact .nil _
    | some k => exact .single k _ _ _ _
  · exact .nil _

/-! ## Sharing equally -/

section
variable (blk : InputBlk) (sys : SystemInfo) (df : DfAnswers) (out : MmioState)

def secondKeyEqually (m : MmioManager) : Option PairKey :=
  match equallySecondWindow blk sys df, spareSlot m with
  | some _, some slot => some (slot, false)
  | _, _ => none

def postedKeyEqually : Option PairKey :=
  let second := addEquallySecond blk sys df (placedEqually blk sys df out (equallyBelow4G blk sys df).1)
  postedKey (!abovePcieCfgIsTooSmall blk sys || second.2) (arrangeEquallyAbove4G blk sys df second.1).manager

def equallyKeys : List PairKey :=
  (equallyBelow4G blk sys df).1.map (fun w => (w.rb, false)) ++
    (secondKeyEqually blk sys df (placedEqually blk sys df out (equallyBelow4G blk sys df).1).manager).toList ++
    (equallyAbove4G blk sys).map (fun w => (w.rb, true)) ++ (postedKeyEqually blk sys df out).toList

theorem addEquallySecond_writes :
    Writes blk df (secondKeyEqually blk sys df out.manager).toList out.regs (addEquallySecond blk sys df out).1.regs := by
  unfold secondKeyEqually addEquallySecond
  cases equallySecondWindow blk sys df with
  | none => exact .nil _
  | some w =>
    cases spareSlot out.manager with
    | none => exact .nil _
    | some slot => exact .single _ _ _ _ _

theorem arrangeEquallyAbove4G_writes :
    Writes blk df ((equallyAbove4G blk sys).map fun w => (w.rb, true)) out.regs
      (arrangeEquallyAbove4G blk sys df out).regs := by
  have hmark : (if (equallyWindow blk sys).base < (equallyWindow blk sys).limit then
      (rootBridges blk).foldl markAbove4G out else out).regs = out.regs := by
    split_ifs
    · exact Stores.foldl_keep (f := markAbove4G) (p := MmioState.regs) (fun _ _ => rfl) _ _
    · rfl
  have hset : ∀ (out : MmioState) (w : EquallyWindow),
      Writes blk df [(w.rb, true)] out.regs (setEquallyAbove4G blk sys df out w).regs := fun _ _ => .single _ _ _ _ _
  unfold arrangeEquallyAbove4G
  rw [← hmark]
  exact Writes.foldl (fun w => (w.rb, true)) hset (equallyAbove4G blk sys) _

theorem equallyDone_writes : Writes blk df (equallyKeys blk sys df out) out.regs (equallyDone blk sys df out).regs := by
  have hset : ∀ (out : MmioState) (w : EquallyWindow),
      Writes blk df [(w.rb, false)] out.regs (setEquallyBelow4G blk sys df out w).regs := fun _ _ => .single _ _ _ _ _
  have hbelow := Writes.foldl (fun w => (w.rb, false)) hset (equallyBelow4G blk sys df).1 out
  exact ((hbelow.append (addEquallySecond_writes _ _ _ _)).append (arrangeEquallyAbove4G_writes _ _ _ _)).append
    (silAdditionalMmioSetting4_writes _ _)

end

/-! ## Sharing by the stored requests -/

def asksAbove4G (blk : InputBlk) (rb : Nat × Nat) : Bool :=
  (blockAbove4G blk rb .nonPrefetch).size + (blockAbove4G blk rb .prefetch).size + (blockAbove4G blk rb .nonPci).size ≠ 0

def nvKeysAbove4G (blk : InputBlk) : List PairKey := ((rootBridges blk).filter (asksAbove4G blk)).map fun rb => (rb, true)

section
variable {limit : UInt64} {s : Above4GState}

theorem arrangeRbAbove4G_sets {rb : Nat × Nat}
    (h : (arrangeRbAbove4G blk df limit true s rb).enoughSpaceAbove4G = true) :
    (asksAbove4G blk rb = false ∧ arrangeRbAbove4G blk df limit true s rb = s) ∨
    (asksAbove4G blk rb = true ∧ ∃ base next bases,
      (arrangeRbAbove4G blk df limit true s rb).out = recordAbove4G blk df rb base next bases s.out) := by
  unfold arrangeRbAbove4G at h ⊢
  unfold asksAbove4G
  dsimp only at h ⊢
  by_cases hnothing : (blockAbove4G blk rb .nonPrefetch).size + (blockAbove4G blk rb .prefetch).size +
      (blockAbove4G blk rb .nonPci).size = 0
  · rw [if_pos hnothing]
    exact .inl ⟨by simpa using hnothing, rfl⟩
  · grind

theorem arrangeRbAbove4G_writes {rbs : List (Nat × Nat)}
    (h : (rbs.foldl (arrangeRbAbove4G blk df limit true) s).enoughSpaceAbove4G = true) :
    Writes blk df ((rbs.filter (asksAbove4G blk)).map fun rb => (rb, true)) s.out.regs
      (rbs.foldl (arrangeRbAbove4G blk df limit true) s).out.regs := by
  induction rbs generalizing s with
  | nil => exact .nil _
  | cons rb rbs ih =>
    have hrest := ih h
    rcases arrangeRbAbove4G_sets (enough_of_foldl h) with ⟨hasks, hskip⟩ | ⟨hasks, _, _, _, hout⟩
    · simp_all
    · rw [filter_cons_of_pos hasks]
      rw [hout] at hrest
      exact .cons _ _ _ _ _ hrest

theorem arrangeRbAbove4G_flag {rbs : List (Nat × Nat)} (slot : Nat × Nat)
    (h : (rbs.foldl (arrangeRbAbove4G blk df limit true) s).enoughSpaceAbove4G = true) :
    entry (rbs.foldl (arrangeRbAbove4G blk df limit true) s).out.manager.allocateMmioAbove4GOnThisRb slot = true ↔
      slot ∈ rbs.filter (asksAbove4G blk) ∨ entry s.out.manager.allocateMmioAbove4GOnThisRb slot = true := by
  induction rbs generalizing s with
  | nil => simp
  | cons rb rbs ih =>
    rw [foldl_cons, ih h]
    rcases arrangeRbAbove4G_sets (enough_of_foldl h) with ⟨hasks, hskip⟩ | ⟨hasks, _, _, _, hout⟩
    · rw [filter_cons_of_neg (by simp [hasks]), hskip]
    · have hset : ∀ base next bases,
          entry (recordAbove4G blk df rb base next bases s.out).manager.allocateMmioAbove4GOnThisRb =
            Function.update (entry s.out.manager.allocateMmioAbove4GOnThisRb) rb true := fun _ _ _ => entry_set _ _ _
      rw [filter_cons_of_pos hasks, hout, hset, mem_cons]
      by_cases hslot : slot = rb
      · subst hslot
        simp
      · rw [Function.update_of_ne hslot]
        simp [hslot]

end

variable {a : Nat → Bool} {s : TryState} {rb : Nat × Nat}

theorem recordIf_out {side : Side} {base : UInt64} {l : Layout} :
    (s.overSizeFlag = true ∧ (s.recordIf blk df true side rb base l).out = s.out) ∨
    (s.overSizeFlag = false ∧ ∃ region base' length,
      (s.recordIf blk df true side rb base l).out = s.out.setBelow4G blk df rb region base' length) := by
  unfold TryState.recordIf TryState.record
  cases s.overSizeFlag with
  | true => exact .inl ⟨rfl, rfl⟩
  | false =>
    rw [if_pos (show (!false && true) = true from rfl)]
    split_ifs
    · exact .inr ⟨rfl, _, _, _, rfl⟩
    · exact .inr ⟨rfl, _, _, _, rfl⟩

def tryKeys (blk : InputBlk) (df : DfAnswers) (a : Nat → Bool) (s : TryState) (rb : Nat × Nat) : List PairKey :=
  if asksBelow4G blk rb && !(tryRb blk df a true s rb).overSizeFlag then [(rb, false)] else []

theorem tryRb_sets (blk : InputBlk) (df : DfAnswers) (a : Nat → Bool) (s : TryState) (rb : Nat × Nat) :
    (tryKeys blk df a s rb = [] ∧ (tryRb blk df a true s rb).out = s.out) ∨
    (tryKeys blk df a s rb = [(rb, false)] ∧ ∃ region base length,
      (tryRb blk df a true s rb).out = s.out.setBelow4G blk df rb region base length) := by
  cases hasks : asksBelow4G blk rb with
  | false =>
    refine .inl ⟨?_, ?_⟩
    · unfold tryKeys
      rw [hasks]
      rfl
    · unfold tryRb
      rw [hasks]
      rfl
  | true =>
    obtain ⟨s', side, base, l, htry, hout⟩ : ∃ (s' : TryState) (side : Side) (base : UInt64) (l : Layout),
        tryRb blk df a true s rb = s'.recordIf blk df true side rb base l ∧ s'.out = s.out := by
      have htry : tryRb blk df a true s rb = placeRb blk df true (sideOf a rb) s rb := if_pos hasks
      unfold placeRb at htry
      dsimp only at htry
      split_ifs at htry
      · exact ⟨_, _, _, _, htry, rfl⟩
      · exact ⟨_, _, _, _, htry, rfl⟩
    unfold tryKeys
    rw [htry, recordIf_overSizeFlag, hasks, ← hout]
    rcases recordIf_out (s := s') with ⟨hover, hkeep⟩ | ⟨hover, hset⟩
    · exact .inl ⟨by rw [hover]; rfl, hkeep⟩
    · exact .inr ⟨by rw [hover]; rfl, hset⟩

theorem tryRb_writes :
    Writes blk df (tryKeys blk df a s rb) s.out.regs (tryRb blk df a true s rb).out.regs := by
  rcases tryRb_sets blk df a s rb with ⟨hkeys, hout⟩ | ⟨hkeys, _, _, _, hout⟩
  · rw [hkeys, hout]
    exact .nil _
  · rw [hkeys, hout]
    exact .single _ _ _ _ _

theorem tryRb_flag (slot : Nat × Nat) :
    entry (tryRb blk df a true s rb).out.manager.allocateMmioBelow4GOnThisRb slot = true ↔
      (slot, false) ∈ tryKeys blk df a s rb ∨ entry s.out.manager.allocateMmioBelow4GOnThisRb slot = true := by
  rcases tryRb_sets blk df a s rb with ⟨hkeys, hout⟩ | ⟨hkeys, _, _, _, hout⟩
  · rw [hkeys, hout]
    simp
  · rw [hkeys, hout]
    show entry (Table.set _ _ _ _) slot = true ↔ _
    rw [entry_set]
    by_cases h : slot = rb
    · subst h
      simp
    · rw [Function.update_of_ne h]
      simp [h]

theorem tryRb_keepsAbove4G :
    (tryRb blk df a true s rb).out.manager.allocateMmioAbove4GOnThisRb = s.out.manager.allocateMmioAbove4GOnThisRb ∧
      (tryRb blk df a true s rb).out.manager.mmioRegionAbove4G = s.out.manager.mmioRegionAbove4G := by
  rcases tryRb_sets blk df a s rb with ⟨_, hout⟩ | ⟨_, _, _, _, hout⟩
  · rw [hout]
    exact ⟨rfl, rfl⟩
  · rw [hout]
    exact ⟨rfl, rfl⟩

def combinationKeys (blk : InputBlk) (df : DfAnswers) (a : Nat → Bool) : TryState → List (Nat × Nat) → List PairKey
  | _, [] => []
  | s, rb :: rbs => tryKeys blk df a s rb ++ combinationKeys blk df a (tryRb blk df a true s rb) rbs

section
variable (rbs : List (Nat × Nat))

theorem combinationKeys_writes (s : TryState) :
    Writes blk df (combinationKeys blk df a s rbs) s.out.regs (rbs.foldl (tryRb blk df a true) s).out.regs := by
  induction rbs generalizing s with
  | nil => exact .nil _
  | cons rb rbs ih => exact tryRb_writes.append (ih _)

theorem combinationKeys_flag (s : TryState) (slot : Nat × Nat) :
    entry (rbs.foldl (tryRb blk df a true) s).out.manager.allocateMmioBelow4GOnThisRb slot = true ↔
      (slot, false) ∈ combinationKeys blk df a s rbs ∨
        entry s.out.manager.allocateMmioBelow4GOnThisRb slot = true := by
  induction rbs generalizing s with
  | nil => simp [combinationKeys]
  | cons rb rbs ih =>
    rw [foldl_cons, ih, tryRb_flag, combinationKeys, mem_append]
    tauto

theorem combinationKeys_sublist (s : TryState) :
    (combinationKeys blk df a s rbs).Sublist (rbs.map fun rb => (rb, false)) := by
  induction rbs generalizing s with
  | nil => exact .slnil
  | cons rb rbs ih =>
    unfold combinationKeys tryKeys
    split_ifs
    · exact (ih _).cons_cons _
    · exact (ih _).cons _

end

def secondKey (blk : InputBlk) (s : TryState) : Option PairKey :=
  if s.wantsSecondRegion blk then (spareSlot s.out.manager).map fun slot => (slot, false) else none

theorem addSecondRegion_writes {t : TryState} (ht : s.addSecondRegion blk df = some t) :
    Writes blk df (secondKey blk s).toList s.out.regs t.out.regs := by
  unfold secondKey
  rcases TryState.addSecondRegion_cases blk df ht with ⟨rfl, hnone⟩ | ⟨slot, region, hwants, hslot, -, rfl⟩
  · split_ifs with hwants
    · rw [hnone hwants]
      exact .nil _
    · exact .nil _
  · rw [if_pos hwants, hslot]
    exact .single _ _ _ _ _

section
variable (blk : InputBlk) (df : DfAnswers) (start : Side → UInt64) (a : Nat → Bool) (out : MmioState)

def postedKeyNv : Option PairKey :=
  ((runCombination blk df start a true out).addSecondRegion blk df).bind fun t =>
    postedKey t.reservedRegionAlreadySet t.out.manager

def placementKeys : List PairKey :=
  combinationKeys blk df a (.start start out) (combinationOrder blk df) ++
    (secondKey blk (runCombination blk df start a true out)).toList ++ (postedKeyNv blk df start a out).toList

end

theorem placement_writes {start : Side → UInt64} {out out' : MmioState}
    (h : silTryThisCombination blk df start a true out = some (true, out')) :
    Writes blk df (placementKeys blk df start a out) out.regs out'.regs := by
  obtain ⟨_, t, ht, rfl⟩ := of_accepted h
  have hrun : Writes blk df (combinationKeys blk df a (.start start out) (combinationOrder blk df)) out.regs
      (runCombination blk df start a true out).out.regs := combinationKeys_writes (combinationOrder blk df) _
  unfold placementKeys postedKeyNv
  rw [ht]
  exact (hrun.append (addSecondRegion_writes ht)).append (silAdditionalMmioSetting4_writes _ _)

end OpenSil.RcMgr
