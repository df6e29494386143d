import OpenSil.Lib.Marks
import OpenSil.XPrf.SmbiosMem

/-! # The map of the DIMMs that are present

`BuildMemoryInfoData` fills the memory summary from the configuration entries of the APOB.
-/

open OpenSil.Marks List Function Nat Option BitVec

namespace OpenSil.XPrf

/-! ## The summary -/

structure CfgInfo where
  status : UInt16
  statusCode : UInt16

structure SystemCfg where
  mbistTestEnable : CfgInfo
  mbistAggressorEnable : CfgInfo
  mbistPerBitSecondaryDieReport : CfgInfo
  dramTempControlledRefreshEn : CfgInfo
  userTimingMode : CfgInfo
  userTimingValue : CfgInfo
  memBusFreqLimit : CfgInfo
  enablePowerDown : CfgInfo
  dramDoubleRefreshRate : CfgInfo
  pmuTrainMode : CfgInfo
  eccSymbolSize : CfgInfo
  uEccRetry : CfgInfo
  ignoreSpdChecksum : CfgInfo
  enableBankGroupSwapAlt : CfgInfo
  enableBankGroupSwap : CfgInfo
  ddrRouteBalancedTee : CfgInfo
  nvdimmPowerSource : CfgInfo
  odtsCmdThrotEn : CfgInfo
  odtsCmdThrotCyc : CfgInfo

structure MemCfgInfo where
  dimmSize : Nat → Nat → UInt32
  chipselIntlv : Nat → CfgInfo
  dramEcc : CfgInfo
  dramParity : CfgInfo
  autoRefFineGranMode : CfgInfo
  system : SystemCfg

structure MemCfgEntries where
  answer : Nat → Except SilStatus MemCfgInfo
  failed : ∀ i status, answer i = .error status → status ≠ .silPass

structure MemLimits where
  maxSocketSupported : UInt8
  maxDiePerSocket : UInt8
  maxChannelPerDie : UInt8
  maxDimmPerChannel : UInt8

structure MemTables where
  dimmPresentMap : Nat → BitVec 32
  chipselIntlv : Nat → CfgInfo
  dramEcc : Nat → CfgInfo
  dramParity : Nat → CfgInfo
  autoRefFineGranMode : Nat → CfgInfo
  system : SystemCfg

namespace MemLimits
variable (lim : MemLimits)

def indexSocketDie (socket die : Nat) : Nat := socket * lim.maxDiePerSocket.toNat + die

def indexSocketDieCh (socket die channel : Nat) : Nat :=
  (socket * lim.maxDiePerSocket.toNat * lim.maxChannelPerDie.toNat + die * lim.maxChannelPerDie.toNat + channel) % 2 ^ 16

def presentBit (channel dimm : Nat) : Nat := channel * lim.maxDimmPerChannel.toNat + dimm

end MemLimits

def dieInstance (socket die : Nat) : Nat := die ||| socket <<< 8

/-! ## `BuildMemoryInfoData` -/

section Build
variable (lim : MemLimits) (apob : MemCfgEntries)

/-- A DIMM of a channel. `none` is a shift by 32 or more. -/
def dimmTurn (memCfgInfo : MemCfgInfo) (index channel : Nat) (t : MemTables) (dimm : Nat) : Option MemTables :=
  if memCfgInfo.dimmSize channel dimm ≠ 0 then
    let bit := lim.presentBit (translateChannelInfo channel) dimm
    if bit < 32 then
      some { t with dimmPresentMap := Function.update t.dimmPresentMap index (t.dimmPresentMap index ||| 1#32 <<< bit) }
    else none
  else some t

def channelTurn (memCfgInfo : MemCfgInfo) (socket die : Nat) (t : MemTables) (channel : Nat) : Option MemTables :=
  let chanNumOnPlatf := translateChannelInfo channel
  let t := { t with
    chipselIntlv := Function.update t.chipselIntlv (lim.indexSocketDieCh socket die chanNumOnPlatf)
      (memCfgInfo.chipselIntlv channel) }
  (List.range lim.maxDimmPerChannel.toNat).foldlM (dimmTurn lim memCfgInfo (lim.indexSocketDie socket die) channel) t

def MemTables.copyDie (t : MemTables) (memCfgInfo : MemCfgInfo) (index inst : Nat) : MemTables :=
  { t with
    dramEcc := Function.update t.dramEcc index memCfgInfo.dramEcc
    dramParity := Function.update t.dramParity index memCfgInfo.dramParity
    autoRefFineGranMode := Function.update t.autoRefFineGranMode index memCfgInfo.autoRefFineGranMode
    system := if inst = 0 then memCfgInfo.system else t.system }

def dieTurn (socket : Nat) (s : MemTables × SilStatus) (die : Nat) : Option (MemTables × SilStatus) :=
  let inst := dieInstance socket die
  match apob.answer inst with
  | .error status => some (s.1, status)
  | .ok memCfgInfo =>
    ((List.range lim.maxChannelPerDie.toNat).foldlM (channelTurn lim memCfgInfo socket die)
      (s.1.copyDie memCfgInfo (lim.indexSocketDie socket die) inst)).map (·, .silPass)

def socketTurn (s : MemTables × SilStatus) (socket : Nat) : Option (MemTables × SilStatus) :=
  (List.range lim.maxDiePerSocket.toNat).foldlM (dieTurn lim apob socket) s

def MemTables.clear (t : MemTables) : MemTables :=
  { t with dimmPresentMap := Function.update (Function.update t.dimmPresentMap 0 0) 1 0 }

def buildMemoryInfoData (t : MemTables) : Option (MemTables × SilStatus) :=
  (List.range lim.maxSocketSupported.toNat).foldlM (socketTurn lim apob) (t.clear, .silPass)

end Build

def getDimmPresence (lim : MemLimits) (t : MemTables) (socket die channel dimm : Nat) : BitVec 8 :=
  ((t.dimmPresentMap (lim.indexSocketDie socket die) >>> lim.presentBit channel dimm) &&& 1).setWidth 8

/-! ## What the loops mark -/

def markedBits (t : MemTables) : Set (Nat × Nat) := {k | (t.dimmPresentMap k.1).getLsbD k.2 = true}

variable {bit : Nat}

theorem getLsbD_one_shiftLeft (hbit : bit < 32) (b : Nat) : (1#32 <<< bit).getLsbD b = decide (b = bit) := by
  rw [getLsbD_shiftLeft, getLsbD_one]
  by_cases hb : b = bit
  · subst hb
    simp [hbit]
  · grind

theorem markedBits_set (t : MemTables) (index : Nat) (hbit : bit < 32) :
    markedBits { t with
      dimmPresentMap := update t.dimmPresentMap index (t.dimmPresentMap index ||| 1#32 <<< bit) } =
    markedBits t ∪ {(index, bit)} := by
  ext ⟨i, b⟩
  simp only [markedBits, Set.mem_ofPred_eq, Set.mem_union, Set.mem_singleton_iff, Prod.mk.injEq]
  by_cases hi : i = index
  · subst hi
    rw [update_self, getLsbD_or, getLsbD_one_shiftLeft hbit]
    simp
  · rw [update_of_ne hi]
    simp [hi]

section Loops
variable (lim : MemLimits) (apob : MemCfgEntries)

theorem dimmTurn_marking (cfg : MemCfgInfo) (index ch : Nat) :
    Marking markedBits (dimmTurn lim cfg index ch)
      (fun dimm => cfg.dimmSize ch dimm ≠ 0 → lim.presentBit (translateChannelInfo ch) dimm < 32)
      (fun dimm => {k | cfg.dimmSize ch dimm ≠ 0 ∧
        k = (index, lim.presentBit (translateChannelInfo ch) dimm)}) where
  next t dimm hok := by
    unfold dimmTurn
    by_cases hsize : cfg.dimmSize ch dimm ≠ 0
    · refine ⟨_, by rw [if_pos hsize, if_pos (hok hsize)], ?_⟩
      rw [markedBits_set t index (hok hsize)]
      simp only [ne_eq, hsize, not_false_eq_true, true_and]
      rfl
    · exact ⟨t, if_neg hsize, by simp [not_not.1 hsize]⟩
  stop t dimm hbad := by
    obtain ⟨hsize, hbit⟩ := Classical.not_imp.1 hbad
    unfold dimmTurn
    rw [if_pos hsize, if_neg hbit]

def ChannelFits (memCfgInfo : MemCfgInfo) (channel : Nat) : Prop :=
  ∀ dimm ∈ List.range lim.maxDimmPerChannel.toNat, memCfgInfo.dimmSize channel dimm ≠ 0 →
    lim.presentBit (translateChannelInfo channel) dimm < 32

def channelBits (memCfgInfo : MemCfgInfo) (index channel : Nat) : Set (Nat × Nat) :=
  {k | ∃ dimm ∈ List.range lim.maxDimmPerChannel.toNat, memCfgInfo.dimmSize channel dimm ≠ 0 ∧
    k = (index, lim.presentBit (translateChannelInfo channel) dimm)}

theorem channelTurn_marking (cfg : MemCfgInfo) (socket die : Nat) :
    Marking markedBits (channelTurn lim cfg socket die) (ChannelFits lim cfg)
      (channelBits lim cfg (lim.indexSocketDie socket die)) where
  next _ ch hok := (dimmTurn_marking lim cfg _ ch).loop.next _ _ hok
  stop _ ch hbad := (dimmTurn_marking lim cfg _ ch).loop.stop _ _ hbad

def DieFits (socket die : Nat) : Prop :=
  ∀ memCfgInfo, apob.answer (dieInstance socket die) = .ok memCfgInfo →
    ∀ channel ∈ List.range lim.maxChannelPerDie.toNat, ChannelFits lim memCfgInfo channel

def dieBits (socket die : Nat) : Set (Nat × Nat) :=
  {k | ∃ memCfgInfo, apob.answer (dieInstance socket die) = .ok memCfgInfo ∧
    ∃ channel ∈ List.range lim.maxChannelPerDie.toNat,
      k ∈ channelBits lim memCfgInfo (lim.indexSocketDie socket die) channel}

theorem dieTurn_marking (socket : Nat) :
    Marking (markedBits ∘ Prod.fst) (dieTurn lim apob socket) (DieFits lim apob socket) (dieBits lim apob socket) where
  next s die hok := by
    unfold dieTurn
    cases hanswer : apob.answer (dieInstance socket die) with
    | error status => exact ⟨(s.1, status), by simp only [hanswer], by simp [dieBits, hanswer]⟩
    | ok cfg =>
      obtain ⟨t, ht, hmarked⟩ := (channelTurn_marking lim cfg socket die).loop.next
        (s.1.copyDie cfg (lim.indexSocketDie socket die) (dieInstance socket die)) _ (hok cfg hanswer)
      refine ⟨(t, .silPass), by simp only [hanswer, ht, map_some], ?_⟩
      rw [comp_apply, hmarked]
      simp [dieBits, hanswer, markedBits, MemTables.copyDie]
  stop s die hbad := by
    unfold DieFits at hbad
    push Not at hbad
    obtain ⟨cfg, hanswer, ch, hchannel, hfits⟩ := hbad
    have hstop := (channelTurn_marking lim cfg socket die).loop.stop
      (s.1.copyDie cfg (lim.indexSocketDie socket die) (dieInstance socket die))
      (range lim.maxChannelPerDie.toNat) fun hall => hfits (hall ch hchannel)
    unfold dieTurn
    simp only [hanswer, hstop, map_none]

theorem socketTurn_marking :
    Marking (markedBits ∘ Prod.fst) (socketTurn lim apob)
      (fun socket => ∀ die ∈ range lim.maxDiePerSocket.toNat, DieFits lim apob socket die)
      (fun socket => {k | ∃ die ∈ range lim.maxDiePerSocket.toNat, k ∈ dieBits lim apob socket die}) where
  next s socket hok := (dieTurn_marking lim apob socket).loop.next s _ hok
  stop s socket hbad := (dieTurn_marking lim apob socket).loop.stop s _ hbad

def dieStatus (socket die : Nat) : SilStatus :=
  match apob.answer (dieInstance socket die) with
  | .error status => status
  | .ok _ => .silPass

variable {s s' : MemTables × SilStatus}

theorem dieTurn_status {socket die : Nat} (h : dieTurn lim apob socket s die = some s') :
    s'.2 = dieStatus apob socket die := by
  unfold dieTurn at h
  unfold dieStatus
  cases hanswer : apob.answer (dieInstance socket die) with
  | error status =>
    simp only [hanswer, some.injEq] at h
    rw [← h]
  | ok cfg =>
    simp only [hanswer, map_eq_some_iff] at h
    obtain ⟨t, -, ht⟩ := h
    rw [← ht]

theorem socketTurn_status {socket : Nat} (hdie : 0 < lim.maxDiePerSocket.toNat)
    (h : socketTurn lim apob s socket = some s') : s'.2 = dieStatus apob socket (lim.maxDiePerSocket.toNat - 1) := by
  have hturn : ∀ s die s', dieTurn lim apob socket s die = some s' → s'.2 = dieStatus apob socket die :=
    fun _ _ _ h => dieTurn_status lim apob h
  exact last_of_foldlM_range hturn hdie h

theorem buildMemoryInfoData_status {t : MemTables} {s' : MemTables × SilStatus}
    (hsocket : 0 < lim.maxSocketSupported.toNat) (hdie : 0 < lim.maxDiePerSocket.toNat)
    (h : buildMemoryInfoData lim apob t = some s') :
    s'.2 = dieStatus apob (lim.maxSocketSupported.toNat - 1) (lim.maxDiePerSocket.toNat - 1) := by
  have hturn : ∀ s socket s', socketTurn lim apob s socket = some s' →
      s'.2 = dieStatus apob socket (lim.maxDiePerSocket.toNat - 1) := fun _ _ _ h => socketTurn_status lim apob hdie h
  exact last_of_foldlM_range hturn hsocket h

end Loops

/-! ## The presence map -/

namespace MemLimits
variable (lim : MemLimits)

def HasDie (socket die : Nat) : Prop := socket < lim.maxSocketSupported.toNat ∧ die < lim.maxDiePerSocket.toNat

def HasDimm (channel dimm : Nat) : Prop := channel < lim.maxChannelPerDie.toNat ∧ dimm < lim.maxDimmPerChannel.toNat

end MemLimits

theorem mul_add_inj {n a b a' b' : Nat} (hb : b < n) (hb' : b' < n) (h : a * n + b = a' * n + b') : a = a' ∧ b = b' := by
  have hn : 0 < n := by omega
  have h₁ := (Nat.div_mod_unique hn).2 (⟨by rw [mul_comm]; exact add_comm _ _, hb⟩ : b + n * a = a * n + b ∧ b < n)
  have h₂ := (Nat.div_mod_unique hn).2 (⟨by rw [mul_comm]; exact add_comm _ _, hb'⟩ : b' + n * a' = a' * n + b' ∧ b' < n)
  rw [h] at h₁
  exact ⟨h₁.1.symm.trans h₂.1, h₁.2.symm.trans h₂.2⟩

variable {ch : Nat}

theorem translateChannelInfo_of_ge (h : 12 ≤ ch) : translateChannelInfo ch = ch := by
  have hnone : sp5ChannelXlatTable.lookup ch = none := by
    rw [lookup_eq_none_iff]
    intro p hp
    have : p.1 < 12 := by revert p; decide
    have hne : ch ≠ p.1 := by omega
    simpa using hne
  rw [translateChannelInfo, hnone]
  rfl

theorem translateChannelInfo_lt_iff : translateChannelInfo ch < 12 ↔ ch < 12 := by
  constructor
  · intro h
    by_contra hge
    rw [translateChannelInfo_of_ge (by omega)] at h
    exact hge h
  · revert ch
    decide

theorem translateChannelInfo_inj {ch channel' : Nat}
    (h : translateChannelInfo ch = translateChannelInfo channel') : ch = channel' := by
  have htable : ∀ c < 12, ∀ c' < 12, translateChannelInfo c = translateChannelInfo c' → c = c' := by decide
  have hiff : ch < 12 ↔ channel' < 12 := by
    rw [← translateChannelInfo_lt_iff, h, translateChannelInfo_lt_iff]
  by_cases hlt : ch < 12
  · exact htable ch hlt channel' (hiff.1 hlt) h
  · rwa [translateChannelInfo_of_ge (by omega), translateChannelInfo_of_ge (by omega)] at h

section Presence
variable (lim : MemLimits) (apob : MemCfgEntries) (t : MemTables)

def Found (socket die : Nat) : Prop := ∃ memCfgInfo, apob.answer (dieInstance socket die) = .ok memCfgInfo

/-- The entry of the die has a size for the DIMM. -/
def DimmThere (socket die channel dimm : Nat) : Prop :=
  ∃ memCfgInfo, apob.answer (dieInstance socket die) = .ok memCfgInfo ∧
    ∃ umc, translateChannelInfo umc = channel ∧ memCfgInfo.dimmSize umc dimm ≠ 0

/-- The DIMMs that are there are reported present, and after a success every die has an entry. -/
def PresenceRight : Prop :=
  ∃ s', buildMemoryInfoData lim apob t = some s' ∧
    (∀ socket die channel dimm, lim.HasDie socket die → lim.HasDimm channel dimm →
      (getDimmPresence lim s'.1 socket die channel dimm = 1 ↔ DimmThere apob socket die channel dimm)) ∧
    (s'.2 = .silPass → ∀ socket die, lim.HasDie socket die → Found apob socket die)

/-- A bit that is set in a word behind the two that are cleared. -/
def StaleBit (socket die channel dimm : Nat) : Prop :=
  2 ≤ lim.indexSocketDie socket die ∧
    (t.dimmPresentMap (lim.indexSocketDie socket die)).getLsbD (lim.presentBit channel dimm) = true

structure PresenceSound : Prop where
  /-- No shift by 32 or more. -/
  fits : ∀ socket die memCfgInfo, lim.HasDie socket die → apob.answer (dieInstance socket die) = .ok memCfgInfo →
    ∀ umc dimm, lim.HasDimm umc dimm → memCfgInfo.dimmSize umc dimm ≠ 0 →
      lim.presentBit (translateChannelInfo umc) dimm < 32
  /-- A word from the third on has no bit of a DIMM that is not there. -/
  fresh : ∀ socket die channel dimm, lim.HasDie socket die → lim.HasDimm channel dimm →
    StaleBit lim t socket die channel dimm → DimmThere apob socket die channel dimm
  /-- A DIMM that is there is on a UMC channel that is looked at. -/
  scanned : ∀ socket die memCfgInfo, lim.HasDie socket die → apob.answer (dieInstance socket die) = .ok memCfgInfo →
    ∀ umc dimm, lim.HasDimm (translateChannelInfo umc) dimm → memCfgInfo.dimmSize umc dimm ≠ 0 →
      umc < lim.maxChannelPerDie.toNat ∨ StaleBit lim t socket die (translateChannelInfo umc) dimm
  /-- Where the last die has an entry, every die has one. -/
  last : Found apob (lim.maxSocketSupported.toNat - 1) (lim.maxDiePerSocket.toNat - 1) →
    ∀ socket die, lim.HasDie socket die → Found apob socket die

variable {lim apob t}

variable {socket die ch dimm : Nat}

theorem getDimmPresence_eq_one : getDimmPresence lim t socket die ch dimm = 1 ↔
    (lim.indexSocketDie socket die, lim.presentBit ch dimm) ∈ markedBits t := by
  unfold getDimmPresence markedBits
  rw [Set.mem_ofPred_eq]
  dsimp only
  generalize t.dimmPresentMap (lim.indexSocketDie socket die) = w
  generalize lim.presentBit ch dimm = n
  have hbit : (w >>> n &&& 1).setWidth 8 = if w.getLsbD n then 1#8 else 0#8 := by grind
  rw [hbit]
  cases w.getLsbD n <;> decide

theorem mem_markedBits_clear {i b : Nat} : (i, b) ∈ markedBits t.clear ↔ 2 ≤ i ∧ (i, b) ∈ markedBits t := by
  unfold markedBits MemTables.clear
  simp only [Set.mem_ofPred_eq]
  obtain rfl | rfl | hi : i = 0 ∨ i = 1 ∨ 2 ≤ i := by omega
  · simp
  · simp
  · rw [update_of_ne (by omega), update_of_ne (by omega)]
    simp [hi]

theorem mem_dieBits {socket die ch dimm socket' die' : Nat} (hdie : die < lim.maxDiePerSocket.toNat)
    (hdie' : die' < lim.maxDiePerSocket.toNat) (hdimm : dimm < lim.maxDimmPerChannel.toNat) :
    (lim.indexSocketDie socket die, lim.presentBit ch dimm) ∈ dieBits lim apob socket' die' ↔
      (socket' = socket ∧ die' = die) ∧ ∃ cfg, apob.answer (dieInstance socket die) = .ok cfg ∧
        ∃ umc < lim.maxChannelPerDie.toNat, translateChannelInfo umc = ch ∧ cfg.dimmSize umc dimm ≠ 0 := by
  constructor
  · rintro ⟨cfg, hanswer, umc, humc, dimm', hdimm', hsize, hkey⟩
    rw [mem_range] at humc hdimm'
    obtain ⟨hindex, hbit⟩ := Prod.mk.inj hkey
    obtain ⟨rfl, rfl⟩ := mul_add_inj hdie hdie' hindex
    obtain ⟨rfl, rfl⟩ := mul_add_inj hdimm hdimm' hbit
    exact ⟨⟨rfl, rfl⟩, cfg, hanswer, umc, humc, rfl, hsize⟩
  · rintro ⟨⟨rfl, rfl⟩, cfg, hanswer, umc, humc, rfl, hsize⟩
    exact ⟨cfg, hanswer, umc, mem_range.2 humc, dimm, mem_range.2 hdimm, hsize, rfl⟩

variable {s' : MemTables × SilStatus}

theorem getDimmPresence_build (h : buildMemoryInfoData lim apob t = some s') (hdie : lim.HasDie socket die)
    (hdimm : lim.HasDimm ch dimm) :
    getDimmPresence lim s'.1 socket die ch dimm = 1 ↔ StaleBit lim t socket die ch dimm ∨
      ∃ cfg, apob.answer (dieInstance socket die) = .ok cfg ∧
        ∃ umc < lim.maxChannelPerDie.toNat, translateChannelInfo umc = ch ∧ cfg.dimmSize umc dimm ≠ 0 := by
  have hloop := (socketTurn_marking lim apob).loop
  have hmarked : markedBits s'.1 = markedBits t.clear ∪ {k | ∃ socket ∈ range lim.maxSocketSupported.toNat,
      ∃ die ∈ range lim.maxDiePerSocket.toNat, k ∈ dieBits lim apob socket die} := by
    by_cases hok : ∀ socket ∈ range lim.maxSocketSupported.toNat,
        ∀ die ∈ range lim.maxDiePerSocket.toNat, DieFits lim apob socket die
    · obtain ⟨s₁, h₁, hs₁⟩ := hloop.next (t.clear, .silPass) _ hok
      cases some.inj (h₁.symm.trans h)
      exact hs₁
    · rw [buildMemoryInfoData, hloop.stop (t.clear, .silPass) _ hok] at h
      cases h
  rw [getDimmPresence_eq_one, hmarked, Set.mem_union, mem_markedBits_clear]
  refine or_congr Iff.rfl ?_
  constructor
  · rintro ⟨socket', hsocket', die', hdie', hmem⟩
    exact ((mem_dieBits hdie.2 (mem_range.1 hdie') hdimm.2).1 hmem).2
  · intro hthere
    exact ⟨socket, mem_range.2 hdie.1, die, mem_range.2 hdie.2,
      (mem_dieBits hdie.2 hdie.2 hdimm.2).2 ⟨⟨rfl, rfl⟩, hthere⟩⟩

theorem exists_build_iff : (∃ s', buildMemoryInfoData lim apob t = some s') ↔
    ∀ socket die cfg, lim.HasDie socket die → apob.answer (dieInstance socket die) = .ok cfg →
      ∀ umc dimm, lim.HasDimm umc dimm → cfg.dimmSize umc dimm ≠ 0 →
        lim.presentBit (translateChannelInfo umc) dimm < 32 := by
  have hloop := (socketTurn_marking lim apob).loop
  constructor
  · rintro ⟨s', h⟩ socket die cfg hdie hanswer umc dimm hdimm hsize
    by_contra hbit
    refine absurd (hloop.stop (t.clear, .silPass) (range lim.maxSocketSupported.toNat) fun hok => hbit ?_) ?_
    · exact hok socket (mem_range.2 hdie.1) die (mem_range.2 hdie.2) cfg hanswer umc
        (mem_range.2 hdimm.1) dimm (mem_range.2 hdimm.2) hsize
    · intro hnone
      cases hnone.symm.trans h
  · intro hfits
    obtain ⟨s', h, -⟩ := hloop.next (t.clear, .silPass) (range lim.maxSocketSupported.toNat)
      fun socket hsocket die hdie cfg hanswer umc humc dimm hdimm hsize =>
        hfits socket die cfg ⟨mem_range.1 hsocket, mem_range.1 hdie⟩ hanswer umc dimm
          ⟨mem_range.1 humc, mem_range.1 hdimm⟩ hsize
    exact ⟨s', h⟩

theorem dieStatus_eq_silPass {socket die : Nat} : dieStatus apob socket die = .silPass ↔ Found apob socket die := by
  unfold dieStatus Found
  cases hanswer : apob.answer (dieInstance socket die) with
  | error status => simp [apob.failed _ _ hanswer]
  | ok cfg => simp

theorem status_sound_iff (h : buildMemoryInfoData lim apob t = some s') :
    (s'.2 = .silPass → ∀ socket die, lim.HasDie socket die → Found apob socket die) ↔
    (Found apob (lim.maxSocketSupported.toNat - 1) (lim.maxDiePerSocket.toNat - 1) →
      ∀ socket die, lim.HasDie socket die → Found apob socket die) := by
  by_cases hempty : ∀ socket die, ¬lim.HasDie socket die
  · simp_all
  · push Not at hempty
    obtain ⟨socket, die, hdie⟩ := hempty
    have hsocket : 0 < lim.maxSocketSupported.toNat := zero_lt_of_lt hdie.1
    rw [buildMemoryInfoData_status lim apob hsocket (zero_lt_of_lt hdie.2) h, dieStatus_eq_silPass]

end Presence

/-- When the map and the status are right. -/
theorem buildMemoryInfoData_presence_iff (lim : MemLimits) (apob : MemCfgEntries) (t : MemTables) :
    PresenceRight lim apob t ↔ PresenceSound lim apob t := by
  constructor
  · rintro ⟨s', h, hpresence, hstatus⟩
    refine ⟨exists_build_iff.1 ⟨s', h⟩, ?_, ?_, (status_sound_iff h).1 hstatus⟩
    · intro socket die channel dimm hdie hdimm hstale
      exact (hpresence socket die channel dimm hdie hdimm).1 ((getDimmPresence_build h hdie hdimm).2 (.inl hstale))
    · intro socket die memCfgInfo hdie hanswer umc dimm hdimm hsize
      have hone := (hpresence socket die _ dimm hdie hdimm).2 ⟨memCfgInfo, hanswer, umc, rfl, hsize⟩
      obtain hstale | ⟨-, -, umc', humc', htranslate, -⟩ := (getDimmPresence_build h hdie hdimm).1 hone
      · exact .inr hstale
      · exact .inl (translateChannelInfo_inj htranslate ▸ humc')
  · intro hsound
    obtain ⟨s', h⟩ := exists_build_iff.2 hsound.fits
    refine ⟨s', h, fun socket die channel dimm hdie hdimm => ?_, (status_sound_iff h).2 hsound.last⟩
    rw [getDimmPresence_build h hdie hdimm]
    constructor
    · rintro (hstale | ⟨memCfgInfo, hanswer, umc, -, htranslate, hsize⟩)
      · exact hsound.fresh socket die channel dimm hdie hdimm hstale
      · exact ⟨memCfgInfo, hanswer, umc, htranslate, hsize⟩
    · rintro ⟨memCfgInfo, hanswer, umc, rfl, hsize⟩
      obtain humc | hstale := hsound.scanned socket die memCfgInfo hdie hanswer umc dimm hdimm hsize
      · exact .inr ⟨memCfgInfo, hanswer, umc, humc, rfl, hsize⟩
      · exact .inl hstale

theorem PresenceSound.of_twelve {lim : MemLimits} {apob : MemCfgEntries} (t : MemTables)
    (hchannel : lim.maxChannelPerDie = 12) (hbits : 12 * lim.maxDimmPerChannel.toNat ≤ 32)
    (hdies : lim.maxSocketSupported.toNat * lim.maxDiePerSocket.toNat ≤ 2)
    (hfound : ∀ socket die, lim.HasDie socket die → Found apob socket die) : PresenceSound lim apob t where
  fits socket die cfg hdie hanswer umc dimm hdimm hsize := by
    have humc : umc < 12 := by simpa [hchannel] using hdimm.1
    have htranslate := translateChannelInfo_lt_iff.2 humc
    have hle : translateChannelInfo umc * lim.maxDimmPerChannel.toNat ≤ 11 * lim.maxDimmPerChannel.toNat :=
      mul_le_mul_right _ (by omega)
    have := hdimm.2
    unfold MemLimits.presentBit
    omega
  fresh socket die ch dimm hdie hdimm hstale := by
    have hle : (socket + 1) * lim.maxDiePerSocket.toNat ≤ lim.maxSocketSupported.toNat * lim.maxDiePerSocket.toNat :=
      Nat.mul_le_mul_right _ hdie.1
    have h₁ := hstale.1
    have h₂ := hdie.2
    unfold MemLimits.indexSocketDie at h₁
    rw [Nat.succ_mul] at hle
    omega
  scanned socket die cfg hdie hanswer umc dimm hdimm hsize := by
    left
    have hlt : translateChannelInfo umc < 12 := by simpa [hchannel] using hdimm.1
    simpa [hchannel] using translateChannelInfo_lt_iff.1 hlt
  last _ := hfound

def CfgInfo.zero : CfgInfo := ⟨0, 0⟩

def SystemCfg.zero : SystemCfg := ⟨.zero, .zero, .zero, .zero, .zero, .zero, .zero, .zero, .zero, .zero, .zero, .zero,
  .zero, .zero, .zero, .zero, .zero, .zero, .zero⟩

def lastDieOnly : MemCfgEntries where
  answer i := if i = 0x101 then .ok ⟨fun _ _ => 0, fun _ => .zero, .zero, .zero, .zero, .zero⟩ else .error .silNotFound
  failed i status h := by
    split at h
    · cases h
    · cases h
      decide

def twoByTwo : MemLimits := ⟨2, 2, 12, 1⟩

def usedTables : MemTables :=
  ⟨fun _ => BitVec.allOnes 32, fun _ => .zero, fun _ => .zero, fun _ => .zero, fun _ => .zero, .zero⟩

/-- Success is reported although three dies have no entry, and a DIMM is reported for one of them. -/
theorem buildMemoryInfoData_reports_stale :
    (∃ s', buildMemoryInfoData twoByTwo lastDieOnly usedTables = some s' ∧ s'.2 = .silPass ∧
      getDimmPresence twoByTwo s'.1 1 0 0 0 = 1) ∧
    ¬Found lastDieOnly 1 0 ∧ ¬PresenceRight twoByTwo lastDieOnly usedTables := by
  have hmissing : ¬Found lastDieOnly 1 0 := by
    rintro ⟨memCfgInfo, h⟩
    cases h
  have hdie : twoByTwo.HasDie 1 0 := ⟨by decide, by decide⟩
  have hrun : ∃ s', buildMemoryInfoData twoByTwo lastDieOnly usedTables = some s' ∧ s'.2 = .silPass ∧
      getDimmPresence twoByTwo s'.1 1 0 0 0 = 1 := ⟨_, rfl, rfl, by decide⟩
  refine ⟨hrun, hmissing, ?_⟩
  rintro ⟨s', h, -, hstatus⟩
  obtain ⟨s₁, h₁, hpass, -⟩ := hrun
  cases some.inj (h₁.symm.trans h)
  exact hmissing (hstatus hpass 1 0 hdie)

end OpenSil.XPrf
