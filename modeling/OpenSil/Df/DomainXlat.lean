import OpenSil.Df.Domain
import Mathlib.Tactic

/-! # Which cores have a domain

`DfDomainXlat` looks for a bit in `ReportedDomainCcxMap`.
-/

namespace OpenSil.Df

open List

/-! ## Present cores -/

/-- The CCD is enabled. A CCM with a wide port has no second CCD. -/
def CcdPresent (hw : Hardware) (socket p : Nat) : Prop :=
  (p < 8 ∧ (hw.ccdEnable socket p).getLsbD 0) ∨
  (8 ≤ p ∧ p < 16 ∧ (hw.ccdEnable socket (p - 8)).getLsbD 1 ∧ (hw.ccmConfig4 socket (p - 8)).getLsbD 26 = false)

/-- The second CCX is there if a CCM has both enabled. -/
def CcxPresent (hw : Hardware) (socket ccx : Nat) : Prop :=
  ccx = 0 ∨ (ccx = 1 ∧ ∃ j < 8, (hw.ccdEnable socket j).getLsbD 16 ∧ (hw.ccdEnable socket j).getLsbD 17)

open Map

theorem Map.getLsbD_bit (i j : Nat) : (bit i).getLsbD j = decide (j = i ∧ j < 32) := by
  unfold bit
  rw [← BitVec.twoPow_eq, BitVec.getLsbD_twoPow]
  by_cases h : i = j
  · subst h
    by_cases h32 : i < 32 <;> simp [h32]
  · simp [h, Ne.symm h]

open OutputBlk

section
variable (hw : Hardware) (blk : OutputBlk)

theorem Map.and_bit_ne_zero (map : Map) (i : Nat) : map &&& bit i ≠ 0 ↔ map.getLsbD i := by
  constructor
  · intro h
    by_contra hi
    apply h
    apply BitVec.eq_of_getLsbD_eq
    intro j hj
    rw [BitVec.getLsbD_and, getLsbD_bit]
    by_cases hji : j = i
    · simp [hji, hi]
    · simp [hji]
  · intro hi h
    have hbit := congrArg (·.getLsbD i) h
    simp [getLsbD_bit, hi] at hbit
    exact absurd (BitVec.lt_of_getLsbD hi) (by omega)

theorem mem_physCcdsFrom (fuel j : Nat) (map : Map) (p : Nat) :
    p ∈ physCcdsFrom fuel j map ↔ j ≤ p ∧ p < j + fuel ∧ map.getLsbD p := by
  induction fuel generalizing j map with
  | zero =>
    simp only [physCcdsFrom, not_mem_nil, false_iff]
    omega
  | succ fuel ih =>
    -- Clearing bit `j` does not touch the bits behind it.
    have hclear : j + 1 ≤ p → (map &&& ~~~bit j).getLsbD p = map.getLsbD p := by
      intro hp
      rw [BitVec.getLsbD_and, BitVec.getLsbD_not, getLsbD_bit]
      cases hbit : map.getLsbD p with
      | false => rfl
      | true => simp [BitVec.lt_of_getLsbD hbit, show p ≠ j by omega]
    unfold physCcdsFrom
    split_ifs with h0 hj
    · simp [h0]
    · rw [mem_cons, ih]
      rw [and_bit_ne_zero] at hj
      constructor
      · rintro (rfl | ⟨hle, hlt, hbit⟩)
        · exact ⟨le_rfl, by omega, hj⟩
        · exact ⟨by omega, by omega, hclear hle ▸ hbit⟩
      · rintro ⟨hle, hlt, hbit⟩
        rcases Nat.lt_or_eq_of_le hle with hle | rfl
        · exact .inr ⟨hle, by omega, (hclear hle).symm ▸ hbit⟩
        · exact .inl rfl
    · rw [ih]
      rw [and_bit_ne_zero] at hj
      constructor
      · grind
      · rintro ⟨hle, hlt, hbit⟩
        rcases Nat.lt_or_eq_of_le hle with hle | rfl
        · exact ⟨hle, by omega, (hclear hle).symm ▸ hbit⟩
        · exact absurd hbit hj

theorem getLsbD_foldl_or (f : Nat → Map) (l : List Nat) (init : Map) (p : Nat) :
    (l.foldl (fun map j => map ||| f j) init).getLsbD p ↔ init.getLsbD p ∨ ∃ j ∈ l, (f j).getLsbD p := by
  induction l generalizing init with
  | nil => simp
  | cons j l ih =>
    rw [foldl_cons, ih, BitVec.getLsbD_or]
    simp [or_assoc]

theorem getLsbD_flag (x : Map) (k p : Nat) : ((x &&& 1) <<< k).getLsbD p ↔ p = k ∧ k < 32 ∧ x.getLsbD 0 := by
  rw [BitVec.getLsbD_shiftLeft, BitVec.getLsbD_and, show (1 : Map) = bit 0 from rfl, getLsbD_bit]
  simp only [Bool.and_eq_true, decide_eq_true_eq, Bool.not_eq_true', decide_eq_false_iff_not]
  constructor
  · grind
  · simp_all

theorem getLsbD_ccdEn (socket j : Nat) :
    (hw.ccdEn socket j).getLsbD 0 = (hw.ccdEnable socket j).getLsbD 0 ∧
    (hw.ccdEn socket j >>> 1).getLsbD 0 = (hw.ccdEnable socket j).getLsbD 1 := by
  unfold Hardware.ccdEn
  constructor <;> simp

theorem sdpWideEn_eq_zero (socket j : Nat) :
    hw.sdpWideEn socket j = 0 ↔ (hw.ccmConfig4 socket j).getLsbD 26 = false := by
  unfold Hardware.sdpWideEn
  constructor
  · intro h
    have := congrArg (·.getLsbD 0) h
    simpa using this
  · grind

theorem mem_logToPhysCcd (socket p : Nat) : p ∈ logToPhysCcd hw socket ↔ CcdPresent hw socket p := by
  have hstep : ∀ j, j < 8 → ((((hw.ccdEn socket j &&& 1) <<< j) |||
      if hw.sdpWideEn socket j = 0 then (((hw.ccdEn socket j >>> 1) &&& 1) <<< dfXNumCcmBlocks) <<< j else 0).getLsbD p ↔
      (p = j ∧ (hw.ccdEnable socket j).getLsbD 0) ∨
      (p = 8 + j ∧ (hw.ccdEnable socket j).getLsbD 1 ∧ (hw.ccmConfig4 socket j).getLsbD 26 = false)) := by
    intro j hj
    obtain ⟨h0, h1⟩ := getLsbD_ccdEn hw socket j
    rw [BitVec.getLsbD_or, Bool.or_eq_true, getLsbD_flag, h0, ← sdpWideEn_eq_zero]
    split
    · rw [← BitVec.shiftLeft_add, getLsbD_flag, h1]
      unfold dfXNumCcmBlocks
      have : j < 32 ∧ 8 + j < 32 := by omega
      tauto
    · have : j < 32 := by omega
      simp
      tauto
  unfold logToPhysCcd ccdMap CcdPresent
  rw [mem_physCcdsFrom]
  simp only [BitVec.or_assoc]
  rw [getLsbD_foldl_or]
  constructor
  · rintro ⟨-, -, h | ⟨j, hj, h⟩⟩
    · simp at h
    · have hj := mem_range.mp hj
      rcases (hstep j hj).mp h with ⟨rfl, hen⟩ | ⟨rfl, hen, hwide⟩
      · exact .inl ⟨hj, hen⟩
      · refine .inr ⟨by omega, ?_, ?_⟩
        · unfold dfXNumCcmBlocks at hj
          omega
        · simpa using ⟨hen, hwide⟩
  · rintro (⟨hp, hen⟩ | ⟨hle, hlt, hen, hwide⟩)
    · exact ⟨by omega, by omega, .inr ⟨p, mem_range.mpr hp, (hstep p hp).mpr (.inl ⟨rfl, hen⟩)⟩⟩
    · grind

theorem lt_ccxPerCcd (socket ccx : Nat) : ccx < ccxPerCcd hw socket ↔ CcxPresent hw socket ccx := by
  have hfold : ∀ (l : List Nat) (n : Nat), l.foldl (fun n j => if hw.ccxEn socket j = 3#2 then 2 else n) n =
      if ∃ j ∈ l, hw.ccxEn socket j = 3#2 then 2 else n := by
    intro l
    induction l with
    | nil => simp
    | cons j l ih =>
      intro n
      rw [foldl_cons, ih]
      by_cases hj : hw.ccxEn socket j = 3#2 <;> simp [hj]
  have hthree : ∀ j, hw.ccxEn socket j = 3#2 ↔ (hw.ccdEnable socket j).getLsbD 16 ∧ (hw.ccdEnable socket j).getLsbD 17 := by
    intro j
    have hbits : ∀ x : BitVec 2, x = 3#2 ↔ x.getLsbD 0 ∧ x.getLsbD 1 := by decide
    rw [hbits]
    unfold Hardware.ccxEn
    simp
  unfold ccxPerCcd CcxPresent
  rw [hfold]
  simp only [hthree, mem_range]
  unfold dfXNumCcmBlocks
  split
  · simp_all; omega
  · simp_all

/-! ## The tables -/

def dramTables (nps : Nps) (numberOfCpus : Nat) (ccxAsNuma : Bool) : OutputBlk :=
  addDomains nps numberOfCpus (.fresh ccxAsNuma)

theorem Hardware.numberOfProcessorsPresent_cases :
    hw.numberOfProcessorsPresent = 1 ∨ hw.numberOfProcessorsPresent = 2 := by
  unfold numberOfProcessorsPresent
  split <;> simp

theorem addDomains_startDomains (nps : Nps) (numa : Bool) :
    addDomains nps hw.numberOfProcessorsPresent (startDomains hw (.fresh numa)) =
      { dramTables nps hw.numberOfProcessorsPresent numa with
        logToPhysCcd := (startDomains hw (.fresh numa)).logToPhysCcd
        ccxPerCcd := (startDomains hw (.fresh numa)).ccxPerCcd
        maxCcxPerCcd := hw.maxCcxPerCcd } := by
  rcases hw.numberOfProcessorsPresent_cases with hn | hn <;> rw [hn] <;> cases nps <;> cases numa <;> rfl

structure SameCores (blk blk' : OutputBlk) : Prop where
  mode : blk'.amdFabricCcxAsNumaDomain = blk.amdFabricCcxAsNumaDomain
  log : blk'.logToPhysCcd = blk.logToPhysCcd
  ccx : blk'.ccxPerCcd = blk.ccxPerCcd
  maxCcx : blk'.maxCcxPerCcd = blk.maxCcxPerCcd
  ccxMap : blk'.reportedDomainCcxMap = blk.reportedDomainCcxMap

theorem SameCores.refl : SameCores blk blk := ⟨rfl, rfl, rfl, rfl, rfl⟩

theorem SameCores.trans {a b c : OutputBlk} (h : SameCores a b) (h' : SameCores b c) : SameCores a c :=
  ⟨h'.mode.trans h.mode, h'.log.trans h.log, h'.ccx.trans h.ccx, h'.maxCcx.trans h.maxCcx, h'.ccxMap.trans h.ccxMap⟩

theorem SameCores.foldl {α : Type} {step : OutputBlk → α → OutputBlk} (h : ∀ blk a, SameCores blk (step blk a))
    (l : List α) (blk : OutputBlk) : SameCores blk (l.foldl step blk) := by
  induction l generalizing blk with
  | nil => exact .refl blk
  | cons a l ih => exact (h blk a).trans (ih _)

def OutputBlk.csMap (blk : OutputBlk) (domain : Nat) : Map := (blk.physicalDomainInfo domain).normalizedCsMap

theorem csMap_setCsMap_of_ne {d d' : Nat} (csMap : Map) (h : d' ≠ d) :
    (blk.setCsMap d csMap).csMap d' = blk.csMap d' := by
  simp [OutputBlk.csMap, OutputBlk.setCsMap, OutputBlk.setPhysicalDomainInfo, h]

theorem csMap_setSharing (d count : Nat) (map : Map) (d' : Nat) :
    (setSharing blk d count map).csMap d' = blk.csMap d' := by
  unfold setSharing
  by_cases h : d' = d
  · simp [csMap, setPhysicalDomainInfo, h]
  · simp [csMap, setPhysicalDomainInfo, h]

theorem buildCxlInfo_sameCores : SameCores blk (buildCxlInfo hw blk) := by
  have h : SameCores blk ((((range 2).filter (cxlDeviceAttached hw)).zipIdx).foldl (fun b p =>
      b.setCsMap (blk.numberOfPhysicalDomains + p.2) (onSocket 0xF000 p.1)) blk) := by
    apply SameCores.foldl
    exact fun _ _ => ⟨rfl, rfl, rfl, rfl, rfl⟩
  exact ⟨h.mode, h.log, h.ccx, h.maxCcx, h.ccxMap⟩

theorem buildCxlInfo_csMap {d : Nat} (hd : d < blk.numberOfPhysicalDomains) :
    (buildCxlInfo hw blk).csMap d = blk.csMap d := by
  have h : ∀ (l : List (Nat × Nat)) (b : OutputBlk), (l.foldl (fun b p =>
      b.setCsMap (blk.numberOfPhysicalDomains + p.2) (onSocket 0xF000 p.1)) b).csMap d = b.csMap d := by
    intro l
    induction l with
    | nil => exact fun b => rfl
    | cons p l ih => exact fun b => (ih _).trans (csMap_setCsMap_of_ne _ _ (by omega))
  exact h _ blk

theorem buildCxlInfo_number :
    ∃ c ≤ 2, (buildCxlInfo hw blk).numberOfPhysicalDomains = blk.numberOfPhysicalDomains + c :=
  ⟨_, length_filter_le _ (range 2), rfl⟩

def describe (csMap : Map) (domain : Nat) : FabricDomainInfo :=
  ⟨if csMap &&& csCmpSystemMap ≠ 0 then .numaCxl else .numaDram, getSocketMapFromNormalizedCsMap csMap, domain⟩

theorem reportPhysicalDomain_spec (domain : Nat) :
    SameCores blk (reportPhysicalDomain blk domain) ∧
    (∀ d, (reportPhysicalDomain blk domain).reportedDomainInfo d =
      if d = domain then describe (blk.csMap domain) domain else blk.reportedDomainInfo d) ∧
    ∀ d, (reportPhysicalDomain blk domain).csMap d = blk.csMap d :=
  ⟨⟨rfl, rfl, rfl, rfl, rfl⟩, fun _ => Function.update_apply _ _ _ _, fun d => csMap_setSharing _ _ _ _ d⟩

theorem reportPhysicalDomains_spec : SameCores blk (reportPhysicalDomains blk) ∧
    ∀ d < blk.numberOfPhysicalDomains, (reportPhysicalDomains blk).reportedDomainInfo d = describe (blk.csMap d) d := by
  -- The domains below the loop counter are reported, and no CS map has changed.
  have h : ∀ n, SameCores blk ((range n).foldl reportPhysicalDomain blk) ∧
      (∀ d < n, ((range n).foldl reportPhysicalDomain blk).reportedDomainInfo d = describe (blk.csMap d) d) ∧
      ∀ d, ((range n).foldl reportPhysicalDomain blk).csMap d = blk.csMap d := by
    intro n
    induction n with
    | zero => exact ⟨.refl blk, by simp, fun _ => rfl⟩
    | succ n ih =>
      obtain ⟨hsame, hinfo, hcs⟩ := ih
      rw [range_succ, foldl_append, foldl_cons, foldl_nil]
      obtain ⟨hsame', hinfo', hcs'⟩ := reportPhysicalDomain_spec ((range n).foldl reportPhysicalDomain blk) n
      refine ⟨hsame.trans hsame', fun d hd => ?_, fun d => (hcs' d).trans (hcs d)⟩
      rw [hinfo']
      split
      · rename_i hdn
        rw [hdn, hcs]
      · exact hinfo d (by omega)
  exact ⟨(h _).1, (h _).2.1⟩

theorem reportCcxDomains_sameCores (n : Nat) (blk : OutputBlk) : SameCores blk (reportCcxDomains n blk) := by
  have hccx : ∀ (l : List ((Nat × Nat) × Nat)) (blk : OutputBlk), SameCores blk (l.foldl reportCcx blk) :=
    SameCores.foldl fun _ _ => ⟨rfl, rfl, rfl, rfl, rfl⟩
  have hcxl : ∀ (index domain : Nat) (l : List Nat) (blk : OutputBlk),
      SameCores blk (l.foldl (fun blk i => reportCxl blk (index + i) (domain + i)) blk) := by
    intro index domain
    apply SameCores.foldl
    exact fun _ _ => ⟨rfl, rfl, rfl, rfl, rfl⟩
  unfold reportCcxDomains
  refine SameCores.trans ?_ (hcxl _ _ _ _)
  refine SameCores.trans ?_ (hccx _ _)
  exact ⟨rfl, rfl, rfl, rfl, rfl⟩

end

structure Built (hw : Hardware) (nps : Nps) (ccxAsNuma : Bool) (blk : OutputBlk) : Prop where
  log : ∀ socket < hw.numberOfProcessorsPresent, blk.logToPhysCcd socket = logToPhysCcd hw socket
  ccx : ∀ socket < hw.numberOfProcessorsPresent, blk.ccxPerCcd socket = ccxPerCcd hw socket
  maxCcx : blk.maxCcxPerCcd = hw.maxCcxPerCcd
  ccxMap : blk.reportedDomainCcxMap =
    (dramTables nps hw.numberOfProcessorsPresent ccxAsNuma).reportedDomainCcxMap
  number : ccxAsNuma = false → ∃ c ≤ 2, blk.numberOfReportedDomains =
    (dramTables nps hw.numberOfProcessorsPresent ccxAsNuma).numberOfPhysicalDomains + c
  info : ccxAsNuma = false → ∀ d < (dramTables nps hw.numberOfProcessorsPresent ccxAsNuma).numberOfPhysicalDomains,
    blk.reportedDomainInfo d = describe ((dramTables nps hw.numberOfProcessorsPresent ccxAsNuma).csMap d) d

variable {hw : Hardware} {blk : OutputBlk} {nps : Nps} {numa : Bool}

theorem Built.of_sameCores
    (h : SameCores (addDomains nps hw.numberOfProcessorsPresent (startDomains hw (.fresh numa))) blk)
    (number : numa = false → ∃ c ≤ 2, blk.numberOfReportedDomains =
      (dramTables nps hw.numberOfProcessorsPresent numa).numberOfPhysicalDomains + c)
    (info : numa = false → ∀ d < (dramTables nps hw.numberOfProcessorsPresent numa).numberOfPhysicalDomains,
      blk.reportedDomainInfo d = describe ((dramTables nps hw.numberOfProcessorsPresent numa).csMap d) d) :
    Built hw nps numa blk := by
  rw [addDomains_startDomains] at h
  refine ⟨fun socket hs => ?_, fun socket hs => ?_, h.maxCcx, h.ccxMap, number, info⟩
  · rw [h.log]
    exact if_pos hs
  · rw [h.ccx]
    exact if_pos hs

theorem dramTables_mode (hw : Hardware) (nps : Nps) (numa : Bool) :
    (dramTables nps hw.numberOfProcessorsPresent numa).amdFabricCcxAsNumaDomain = numa := by
  rcases hw.numberOfProcessorsPresent_cases with hn | hn <;> rw [hn] <;> cases nps <;> cases numa <;> rfl

theorem dfXBuildDomainInfo_built (hw : Hardware) {actualNps : UInt8} (numa : Bool)
    (hactual : hw.actualNps = some actualNps) (hnps : Nps.ofActualNps actualNps = some nps) :
    ∃ blk, dfXBuildDomainInfo hw (some (.fresh numa)) = (.silPass, some blk) ∧ Built hw nps numa blk := by
  have hstart := addDomains_startDomains hw nps numa
  have hcxl := buildCxlInfo_sameCores hw
    (addDomains nps hw.numberOfProcessorsPresent (startDomains hw (.fresh numa)))
  have hmode : (buildCxlInfo hw (addDomains nps hw.numberOfProcessorsPresent
      (startDomains hw (.fresh numa)))).amdFabricCcxAsNumaDomain = numa := by
    rw [hcxl.mode, hstart]
    exact dramTables_mode hw nps numa
  unfold dfXBuildDomainInfo
  simp only [hactual, hnps, hmode]
  cases numa with
  | true =>
    refine ⟨_, rfl, .of_sameCores (hcxl.trans ?_) (by simp) (by simp)⟩
    have h := reportCcxDomains_sameCores hw.numberOfProcessorsPresent
      (buildCxlInfo hw (addDomains nps hw.numberOfProcessorsPresent (startDomains hw (.fresh true))))
    exact ⟨h.mode, h.log, h.ccx, h.maxCcx, h.ccxMap⟩
  | false =>
    obtain ⟨h, hinfo⟩ := reportPhysicalDomains_spec
      (buildCxlInfo hw (addDomains nps hw.numberOfProcessorsPresent (startDomains hw (.fresh false))))
    obtain ⟨c, hc, hnumber⟩ := buildCxlInfo_number hw
      (addDomains nps hw.numberOfProcessorsPresent (startDomains hw (.fresh false)))
    have hdram : (addDomains nps hw.numberOfProcessorsPresent (startDomains hw (.fresh false))).numberOfPhysicalDomains =
        (dramTables nps hw.numberOfProcessorsPresent false).numberOfPhysicalDomains := by rw [hstart]
    rw [hdram] at hnumber
    refine ⟨_, rfl, .of_sameCores (hcxl.trans ⟨h.mode, h.log, h.ccx, h.maxCcx, h.ccxMap⟩) (fun _ => ⟨c, hc, hnumber⟩)
      fun _ d hd => ?_⟩
    refine (hinfo d (by omega)).trans ?_
    rw [buildCxlInfo_csMap hw _ (hdram ▸ hd), hstart]
    rfl

/-! ## The lookup -/

/-- The cores that have a bit in the CCX map of a domain. -/
def InCcxMap (nps : Nps) (socket x : Nat) : Prop := x < 12 ∨ (nps = .nps0 ∧ socket = 0 ∧ 16 ≤ x ∧ x < 28)

instance (nps : Nps) (socket x : Nat) : Decidable (InCcxMap nps socket x) := inferInstanceAs (Decidable (_ ∨ _))

def hits (tables : OutputBlk) (socket x : Nat) : Bool :=
  match firstDomain tables.reportedDomainCcxMap tables.numberOfPhysicalDomains ((Map.bit x).onSocket socket) with
  | none => false
  | some d => (describe (tables.csMap d) d).type = .numaDram && (describe (tables.csMap d) d).socketMap.getLsbD socket

theorem hits_dramTables (nps : Nps) {n socket x : Nat} (hn : n = 1 ∨ n = 2) (hs : socket < n) (hx : x < 32) :
    hits (dramTables nps n false) socket x ↔ nps ≠ .nps4 ∧ InCcxMap nps socket x := by
  revert x
  rcases hn with rfl | rfl <;> interval_cases socket <;> cases nps <;> decide

theorem ccxMap_tail (nps : Nps) {n : Nat} (hn : n = 1 ∨ n = 2) : ∀ c < 2,
    (dramTables nps n false).reportedDomainCcxMap ((dramTables nps n false).numberOfPhysicalDomains + c) = 0 := by
  rcases hn with rfl | rfl <;> cases nps <;> decide

theorem ccxMap_ccxAsNuma (nps : Nps) {n : Nat} (hn : n = 1 ∨ n = 2) (d : Nat) :
    (dramTables nps n true).reportedDomainCcxMap d = 0 := by
  rcases hn with rfl | rfl <;> cases nps <;> rfl

theorem firstDomain_add (ccxMap : Nat → Map) (n c : Nat) (core : Map) (h : ∀ i < c, ccxMap (n + i) = 0) :
    firstDomain ccxMap (n + c) core = firstDomain ccxMap n core := by
  unfold firstDomain
  rw [range_add, find?_append]
  have hnone : ((range c).map (n + ·)).find? (fun i => decide (ccxMap i &&& core ≠ 0)) = none := by simp_all
  rw [hnone, Option.or_none]

theorem firstDomain_lt {ccxMap : Nat → Map} {n d : Nat} {core : Map} (h : firstDomain ccxMap n core = some d) : d < n :=
  mem_range.mp (mem_of_find?_eq_some h)

theorem core_eq_bit (socket ccx m : Nat) : onSocket (bit ccx <<< m) socket = (bit (ccx + m)).onSocket socket := by
  unfold bit
  rw [BitVec.shiftLeft_add]

/-- The core is translated to a reported DRAM domain of its socket. -/
def Translated (hw : Hardware) (blk : OutputBlk) (socket ccd ccx : Nat) : Prop :=
  ∃ d, dfDomainXlat hw (some blk) socket 0 ccd ccx = (.silPass, some d) ∧ d < blk.numberOfReportedDomains ∧
    (blk.reportedDomainInfo d).type = .numaDram ∧ (blk.reportedDomainInfo d).socketMap.getLsbD socket

variable {socket ccd ccx p : Nat}

theorem coreBit_lt {socket p ccx : Nat} (hp : CcdPresent hw socket p) (hccx : CcxPresent hw socket ccx) :
    ccx + p * hw.maxCcxPerCcd < 32 := by
  have hp16 : p < 16 := by
    rcases hp with ⟨hp, -⟩ | ⟨-, hp, -⟩ <;> omega
  have hccx1 : ccx ≤ 1 := by
    rcases hccx with rfl | ⟨rfl, -⟩ <;> omega
  have hmax : hw.maxCcxPerCcd ≤ 2 := by
    unfold Hardware.maxCcxPerCcd
    split <;> omega
  have := Nat.mul_le_mul (show p ≤ 15 by omega) hmax
  omega

/-- Without a domain for every CCX and not in NPS4, the core has its bit in a CCX map. -/
def HasDomain (hw : Hardware) (nps : Nps) (ccxAsNuma : Bool) (socket p ccx : Nat) : Prop :=
  ccxAsNuma = false ∧ nps ≠ .nps4 ∧ InCcxMap nps socket (ccx + p * hw.maxCcxPerCcd)

section
variable (hs : socket < hw.numberOfProcessorsPresent) (hccd : (blk.logToPhysCcd socket)[ccd]? = some p)
  (hccx : ccx < blk.ccxPerCcd socket)
include hs hccd hccx

theorem Built.present (hb : Built hw nps numa blk) : CcdPresent hw socket p ∧ CcxPresent hw socket ccx := by
  rw [← mem_logToPhysCcd, ← hb.log socket hs, ← lt_ccxPerCcd, ← hb.ccx socket hs]
  exact ⟨mem_of_getElem? hccd, hccx⟩

theorem dfDomainXlat_eq_silPass (d : Nat) :
    dfDomainXlat hw (some blk) socket 0 ccd ccx = (.silPass, some d) ↔
      firstDomain blk.reportedDomainCcxMap blk.numberOfReportedDomains
        ((bit (ccx + p * blk.maxCcxPerCcd)).onSocket socket) = some d := by
  have hparam : ¬(hw.numberOfProcessorsPresent ≤ socket ∨ 1 ≤ 0) := by omega
  unfold dfDomainXlat
  simp only [hparam, if_false, hccd, Nat.not_le.mpr hccx, core_eq_bit]
  split
  · next i hfind => simp [hfind]
  · next hfind => simp [hfind]

theorem Built.translated_iff_hits (hb : Built hw nps false blk) :
    Translated hw blk socket ccd ccx ↔
      hits (dramTables nps hw.numberOfProcessorsPresent false) socket (ccx + p * hw.maxCcxPerCcd) := by
  obtain ⟨c, hc, hnumber⟩ := hb.number rfl
  have hfind := firstDomain_add _ _ c ((bit (ccx + p * hw.maxCcxPerCcd)).onSocket socket)
    fun i hi => ccxMap_tail nps hw.numberOfProcessorsPresent_cases i (by omega)
  unfold Translated hits
  simp only [dfDomainXlat_eq_silPass hs hccd hccx, hb.maxCcx, hb.ccxMap, hnumber, hfind]
  split
  · next hnone => simp [hnone]
  · next d hd =>
    have hlt := firstDomain_lt hd
    simp only [hd, Option.some.injEq, Bool.and_eq_true, decide_eq_true_eq]
    constructor
    · rintro ⟨_, rfl, -, htype, hmap⟩
      rw [hb.info rfl d hlt] at htype hmap
      exact ⟨htype, hmap⟩
    · rintro ⟨htype, hmap⟩
      refine ⟨d, rfl, by omega, ?_, ?_⟩
      · rwa [hb.info rfl d hlt]
      · rwa [hb.info rfl d hlt]

theorem Built.not_translated (hb : Built hw nps true blk) : ¬Translated hw blk socket ccd ccx := by
  rintro ⟨d, hd, -⟩
  rw [dfDomainXlat_eq_silPass hs hccd hccx, hb.ccxMap] at hd
  have hbit := find?_some hd
  simp [ccxMap_ccxAsNuma nps hw.numberOfProcessorsPresent_cases d] at hbit

theorem Built.translated_iff (hb : Built hw nps numa blk) :
    Translated hw blk socket ccd ccx ↔ HasDomain hw nps numa socket p ccx := by
  unfold HasDomain
  cases numa with
  | true => simp [hb.not_translated hs hccd hccx]
  | false =>
    obtain ⟨hp, hccx'⟩ := hb.present hs hccd hccx
    rw [hb.translated_iff_hits hs hccd hccx, hits_dramTables nps hw.numberOfProcessorsPresent_cases hs (coreBit_lt hp hccx')]
    simp

end

/-- The translation is total on the present cores exactly if each of them has its bit in a CCX map, which is never so
in NPS4 or with a domain for every core complex. -/
theorem translates_every_core_iff (hw : Hardware) {actualNps : UInt8} {nps : Nps} (ccxAsNuma : Bool)
    (hactual : hw.actualNps = some actualNps) (hnps : Nps.ofActualNps actualNps = some nps) :
    ∃ blk, dfXBuildDomainInfo hw (some (.fresh ccxAsNuma)) = (.silPass, some blk) ∧
      ((∀ socket < hw.numberOfProcessorsPresent, ∀ ccd < blk.ccdCount socket, ∀ ccx < blk.ccxPerCcd socket,
          Translated hw blk socket ccd ccx) ↔
        ∀ socket < hw.numberOfProcessorsPresent, ∀ p ccx, CcdPresent hw socket p → CcxPresent hw socket ccx →
          HasDomain hw nps ccxAsNuma socket p ccx) := by
  obtain ⟨blk, hbuild, hb⟩ := dfXBuildDomainInfo_built hw ccxAsNuma hactual hnps
  refine ⟨blk, hbuild, ?_, ?_⟩
  · intro h socket hs p ccx hp hccx
    rw [← mem_logToPhysCcd, ← hb.log socket hs] at hp
    rw [← lt_ccxPerCcd, ← hb.ccx socket hs] at hccx
    obtain ⟨ccd, hlt, hccd⟩ := mem_iff_getElem.mp hp
    exact (hb.translated_iff hs (List.getElem?_eq_some_iff.mpr ⟨hlt, hccd⟩) hccx).mp (h socket hs ccd hlt ccx hccx)
  · intro h socket hs ccd hccd ccx hccx
    have hget : (blk.logToPhysCcd socket)[ccd]? = some (blk.logToPhysCcd socket)[ccd] := getElem?_eq_getElem hccd
    obtain ⟨hp, hccx'⟩ := hb.present hs hget hccx
    exact (hb.translated_iff hs hget hccx).mpr (h socket hs _ ccx hp hccx')

def oneCcd (actualNps : UInt8) : Hardware where
  otherSocketPresent := false
  rawId := 0x00AA0F00
  ccmConfig4 := fun _ _ => 0
  ccdEnable := fun _ ccm => if ccm = 0 then 0x00010001 else 0
  actualNps := some actualNps
  cxlInfo := none

theorem translates_every_core_iff_nps1 : ∃ blk, dfXBuildDomainInfo (oneCcd 1) (some (.fresh false)) = (.silPass, some blk) ∧
    ∀ socket < 1, ∀ ccd < blk.ccdCount socket, ∀ ccx < blk.ccxPerCcd socket, Translated (oneCcd 1) blk socket ccd ccx := by
  obtain ⟨blk, hbuild, h⟩ := translates_every_core_iff (oneCcd 1) false rfl (rfl : Nps.ofActualNps 1 = some .nps1)
  refine ⟨blk, hbuild, h.mpr ?_⟩
  intro socket _ p ccx hp hccx
  have hccx0 : ccx = 0 := by
    rcases hccx with rfl | ⟨rfl, j, -, -, h17⟩
    · rfl
    · simp only [oneCcd] at h17
      split at h17 <;> simp at h17
  have hp0 : p = 0 := by
    rcases hp with ⟨-, h0⟩ | ⟨-, -, h1, -⟩
    · simp only [oneCcd] at h0
      split at h0
      · assumption
      · simp at h0
    · simp only [oneCcd] at h1
      split at h1 <;> simp at h1
  subst hccx0 hp0
  exact ⟨rfl, by decide, .inl (by decide)⟩

/-- With a domain for every core complex the lookup fails; in NPS4 it ends in a domain without a socket. -/
theorem core_without_domain :
    (∃ blk, dfXBuildDomainInfo (oneCcd 1) (some (.fresh true)) = (.silPass, some blk) ∧
      0 < blk.ccdCount 0 ∧ 0 < blk.ccxPerCcd 0 ∧
      dfDomainXlat (oneCcd 1) (some blk) 0 0 0 0 = (.silInvalidParameter, none)) ∧
    ∃ blk, dfXBuildDomainInfo (oneCcd 3) (some (.fresh false)) = (.silPass, some blk) ∧
      0 < blk.ccdCount 0 ∧ 0 < blk.ccxPerCcd 0 ∧
      dfDomainXlat (oneCcd 3) (some blk) 0 0 0 0 = (.silPass, some 1) ∧ (blk.reportedDomainInfo 1).socketMap = 0 :=
  ⟨⟨_, rfl, by decide, by decide, by decide⟩, _, rfl, by decide, by decide, by decide, by decide⟩

end OpenSil.Df
