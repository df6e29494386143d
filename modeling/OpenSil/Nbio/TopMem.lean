import OpenSil.Lib.BitField
import OpenSil.Msr

/-! # Top of memory

`NbioSetTopOfMemory` copies the memory map of the CPU into four registers of every IOHC.
-/

namespace OpenSil.Nbio

structure GnbHandle where
  segment : Nat
  bus : Nat
  rbIndex : BitVec 8

abbrev Smn := Nat × Nat × BitVec 32 → BitVec 32

def nbioSpace (handle : GnbHandle) (address : BitVec 32) : BitVec 32 := address + handle.rbIndex.setWidth 32 <<< 20

def GnbHandle.loc (handle : GnbHandle) (address : BitVec 32) : Nat × Nat × BitVec 32 :=
  (handle.segment, handle.bus, nbioSpace handle address)

def topOfDramSlot1Address : BitVec 32 := 0x13b00090
def lowerTopOfDram2Address : BitVec 32 := 0x13b10064
def upperTopOfDram2Address : BitVec 32 := 0x13b10068
def topOfDram3Address : BitVec 32 := 0x13b10138

structure TopRegs where
  topOfDram : BitVec 32
  tom2Lower : BitVec 32
  tom2Upper : BitVec 32
  tom3 : BitVec 32

def mtrrTom2En (msrs : Msrs) : Bool := (msrs Msr.sysCfg).getLsbD 21

def gnbToms (msrs : Msrs) : BitVec 64 × BitVec 64 :=
  if mtrrTom2En msrs then
    let tom2 := msrs Msr.tom2
    if tom2 &&& 0x0000FFFFFFC00000 > 0x0000010000000000 then (0x000000FD00000000, (tom2 - 1) &&& 0x000FFFFFFFC00000)
    else (tom2 &&& 0x000001FFFF800000, 0)
  else (0, 0)

def topRegs (msrs : Msrs) (stack lowerRead upperRead : BitVec 32) : TopRegs :=
  let (gnbTom2, gnbTom3) := gnbToms msrs
  { -- The second read goes to `TOP_OF_DRAM` too and replaces the first.
    topOfDram := BitField.set lowerRead 23 ((((msrs Msr.tom).setWidth 32 &&& 0xFF800000) >>> 23).setWidth 9)
    tom2Lower :=
      if gnbTom2 ≠ 0 then
        BitField.set (BitField.set stack 23 (((gnbTom2.setWidth 32 &&& 0xFF800000) >>> 23).setWidth 9)) 0 1#1
      else stack
    tom2Upper :=
      if gnbTom2 ≠ 0 then BitField.set upperRead 0 (((gnbTom2 >>> 32) &&& 0xFF).setWidth 9) else upperRead
    tom3 :=
      if gnbTom3 ≠ 0 then BitField.set (BitField.set 0#32 0 ((gnbTom3 >>> 22).setWidth 30)) 31 1#1 else 0 }

def xUSLSmnWrite (smn : Smn) (handle : GnbHandle) (address value : BitVec 32) : Smn :=
  Function.update smn (handle.loc address) value

def writeTopRegs (regs : TopRegs) (smn : Smn) (handle : GnbHandle) : Smn :=
  let smn := xUSLSmnWrite smn handle topOfDramSlot1Address regs.topOfDram
  let smn := xUSLSmnWrite smn handle lowerTopOfDram2Address regs.tom2Lower
  let smn := xUSLSmnWrite smn handle upperTopOfDram2Address regs.tom2Upper
  xUSLSmnWrite smn handle topOfDram3Address regs.tom3

def nbioSetTopOfMemory (msrs : Msrs) (stack : BitVec 32) (first : GnbHandle) (rest : List GnbHandle) (smn : Smn) : Smn :=
  let regs := topRegs msrs stack (smn (first.segment, first.bus, lowerTopOfDram2Address))
    (smn (first.segment, first.bus, upperTopOfDram2Address))
  (first :: rest).foldl (writeTopRegs regs) smn

/-! ## What the registers decode -/

def fourGb : Nat := 2 ^ 32
def terabyte : Nat := 2 ^ 40
def holeBase : Nat := 0xFD00000000

namespace TopRegs
variable (regs : TopRegs)

def top : Nat := (regs.topOfDram.extractLsb' 0 1).toNat * 2 ^ 32 + (regs.topOfDram.extractLsb' 23 9).toNat * 2 ^ 23
def tom2Enable : Bool := regs.tom2Lower.getLsbD 0
def tom2 : Nat := (regs.tom2Upper.extractLsb' 0 9).toNat * 2 ^ 32 + (regs.tom2Lower.extractLsb' 23 9).toNat * 2 ^ 23
def tom3Enable : Bool := regs.tom3.getLsbD 31

def tom3End : Nat := ((regs.tom3.extractLsb' 0 30).toNat + 1) * 2 ^ 22

def dram : Set Nat :=
  {a | a < regs.top ∨ (regs.tom2Enable ∧ fourGb ≤ a ∧ a < regs.tom2) ∨ (regs.tom3Enable ∧ terabyte ≤ a ∧ a < regs.tom3End)}

end TopRegs

def cpuDram (msrs : Msrs) : Set Nat :=
  {a | a < (msrs Msr.tom).toNat ∨
    (mtrrTom2En msrs ∧ fourGb ≤ a ∧ a < (msrs Msr.tom2).toNat ∧ ¬(holeBase ≤ a ∧ a < terabyte))}

def iohcRegs (smn : Smn) (handle : GnbHandle) : TopRegs :=
  ⟨smn (handle.loc topOfDramSlot1Address), smn (handle.loc lowerTopOfDram2Address),
    smn (handle.loc upperTopOfDram2Address), smn (handle.loc topOfDram3Address)⟩

/-- The registers show the DRAM of the CPU, and enable no upper top that the CPU does not. -/
def MatchesCpu (msrs : Msrs) (regs : TopRegs) : Prop :=
  regs.dram = cpuDram msrs ∧ (mtrrTom2En msrs = false → regs.tom2Enable = false ∧ regs.tom3Enable = false)

/-! ## Every IOHC gets the same values -/

open BitField Msr

variable {address address' : BitVec 32}

theorem loc_ne (handle handle' : GnbHandle) (h : address.toNat % 2 ^ 20 ≠ address'.toNat % 2 ^ 20) :
    handle.loc address ≠ handle'.loc address' := by
  have hlow : ∀ (handle : GnbHandle) (address : BitVec 32),
      (nbioSpace handle address).toNat % 2 ^ 20 = address.toNat % 2 ^ 20 := by
    intro handle address
    unfold nbioSpace
    rw [BitVec.toNat_add, BitVec.toNat_shiftLeft, Nat.shiftLeft_eq]
    omega
  intro heq
  have hspace : nbioSpace handle address = nbioSpace handle' address' := congrArg (·.2.2) heq
  exact h (by rw [← hlow handle address, hspace, hlow handle' address'])

theorem xUSLSmnWrite_same (smn : Smn) (handle handle' : GnbHandle) (address value : BitVec 32) :
    xUSLSmnWrite smn handle' address value (handle.loc address) =
      if handle.loc address = handle'.loc address then value else smn (handle.loc address) :=
  Function.update_apply _ _ _ _

theorem xUSLSmnWrite_other (smn : Smn) (handle handle' : GnbHandle) (value : BitVec 32)
    (h : address.toNat % 2 ^ 20 ≠ address'.toNat % 2 ^ 20) :
    xUSLSmnWrite smn handle' address' value (handle.loc address) = smn (handle.loc address) :=
  Function.update_of_ne (loc_ne handle handle' h) _ _

theorem iohcRegs_writeTopRegs (regs : TopRegs) (smn : Smn) (handle : GnbHandle) :
    iohcRegs (writeTopRegs regs smn handle) handle = regs := by
  unfold iohcRegs writeTopRegs
  simp (disch := decide) only [xUSLSmnWrite_same, xUSLSmnWrite_other, if_true]

variable {handle : GnbHandle} {regs : TopRegs}

theorem iohcRegs_writeTopRegs_again {smn : Smn} (handle' : GnbHandle) (h : iohcRegs smn handle = regs) :
    iohcRegs (writeTopRegs regs smn handle') handle = regs := by
  subst h
  unfold iohcRegs writeTopRegs
  simp (disch := decide) only [xUSLSmnWrite_same, xUSLSmnWrite_other, ite_self]

theorem iohcRegs_foldl (regs : TopRegs) (handles : List GnbHandle) (smn : Smn)
    (h : handle ∈ handles ∨ iohcRegs smn handle = regs) :
    iohcRegs (handles.foldl (writeTopRegs regs) smn) handle = regs := by
  induction handles generalizing smn with
  | nil =>
    rcases h with h | h
    · simp at h
    · exact h
  | cons handle' handles ih =>
    apply ih
    rcases h with h | h
    · rcases List.mem_cons.mp h with rfl | h
      · exact .inr (iohcRegs_writeTopRegs regs smn handle)
      · exact .inl h
    · exact .inr (iohcRegs_writeTopRegs_again handle' h)

/-! ## The values -/

theorem bits31_23 (x : BitVec 64) : ((x.setWidth 32 &&& 0xFF800000) >>> 23).setWidth 9 = x.extractLsb' 23 9 := by
  have hones : ((0xFF800000 : BitVec 32) >>> 23).setWidth 9 = BitVec.allOnes 9 := by decide
  rw [BitVec.ushiftRight_and_distrib, BitVec.setWidth_and, hones, BitVec.and_allOnes]
  apply BitVec.eq_of_getLsbD_eq
  intro i hi
  simp [show 23 + i < 32 by omega]

theorem toNat_bits39_32 (x : BitVec 64) : (((x >>> 32) &&& 0xFF).setWidth 9 : BitVec 9).toNat = x.toNat / 2 ^ 32 % 2 ^ 8 := by
  have hmask := toNat_and_ones (x >>> 32) (by decide : (0xFF : BitVec 64).toNat = 2 ^ 8 - 2 ^ 0) (by decide)
  rw [BitVec.toNat_setWidth, hmask, BitVec.toNat_ushiftRight, Nat.shiftRight_eq_div_pow]
  omega

open TopRegs

section
variable (msrs : Msrs) (stack lo up : BitVec 32)

theorem topRegs_top : (topRegs msrs stack lo up).top =
    (lo.extractLsb' 0 1).toNat * 2 ^ 32 + (msrs tom).toNat / 2 ^ 23 % 2 ^ 9 * 2 ^ 23 := by
  unfold top topRegs
  simp only
  rw [extract_set _ _ (by decide), extract_set_of_disjoint _ _ (by decide), bits31_23,
    toNat_extract (msrs tom)]

variable {msrs} {gnbTom2 gnbTom3 : BitVec 64} (htoms : gnbToms msrs = (gnbTom2, gnbTom3))
include htoms

theorem topRegs_tom2 (h : gnbTom2 ≠ 0) : (topRegs msrs stack lo up).tom2Enable = true ∧
    (topRegs msrs stack lo up).tom2 =
      gnbTom2.toNat / 2 ^ 32 % 2 ^ 8 * 2 ^ 32 + gnbTom2.toNat / 2 ^ 23 % 2 ^ 9 * 2 ^ 23 := by
  unfold TopRegs.tom2Enable TopRegs.tom2 topRegs
  simp only [htoms, h, ne_eq, not_false_eq_true, if_true]
  constructor
  · rw [getLsbD_set]
    rfl
  · rw [extract_set _ _ (by decide), extract_set_of_disjoint _ _ (by decide),
      extract_set _ _ (by decide), bits31_23, toNat_extract, toNat_bits39_32]

theorem topRegs_tom2_zero (h : gnbTom2 = 0) :
    (topRegs msrs stack lo up).tom2Enable = stack.getLsbD 0 ∧
    (topRegs msrs stack lo up).tom2 =
      (up.extractLsb' 0 9).toNat * 2 ^ 32 + (stack.extractLsb' 23 9).toNat * 2 ^ 23 := by
  unfold TopRegs.tom2Enable TopRegs.tom2 topRegs
  simp [htoms, h]

theorem topRegs_tom3 (h : gnbTom3 ≠ 0) : (topRegs msrs stack lo up).tom3Enable = true ∧
    (topRegs msrs stack lo up).tom3End = (gnbTom3.toNat / 2 ^ 22 % 2 ^ 30 + 1) * 2 ^ 22 := by
  unfold tom3Enable tom3End topRegs
  simp only [htoms, h, ne_eq, not_false_eq_true, if_true]
  constructor
  · rw [getLsbD_set]
    rfl
  · rw [extract_set_of_disjoint _ _ (by decide), extract_set _ _ (by decide), BitVec.toNat_setWidth,
      BitVec.toNat_ushiftRight, Nat.shiftRight_eq_div_pow]

theorem topRegs_tom3_zero (h : gnbTom3 = 0) : (topRegs msrs stack lo up).tom3Enable = false := by
  unfold tom3Enable topRegs
  simp [htoms, h]

end

/-- Multiples of 8 MB, `TOM` below 4 GB and `TOM2` not in the hole below 1 TB. -/
structure ValidToms (msrs : Msrs) : Prop where
  tom_lt : (msrs Msr.tom).toNat < fourGb
  tom_dvd : 2 ^ 23 ∣ (msrs Msr.tom).toNat
  tom2_lt : (msrs Msr.tom2).toNat < 2 ^ 48
  tom2_dvd : 2 ^ 23 ∣ (msrs Msr.tom2).toNat
  tom2_hole : ¬(holeBase < (msrs Msr.tom2).toNat ∧ (msrs Msr.tom2).toNat < terabyte)

variable {msrs : Msrs}

theorem ValidToms.masked_tom2 (hv : ValidToms msrs) :
    (msrs tom2 &&& 0x0000FFFFFFC00000).toNat = (msrs tom2).toNat := by
  have hmask := toNat_and_ones (msrs tom2)
    (by decide : (0x0000FFFFFFC00000 : BitVec 64).toNat = 2 ^ 48 - 2 ^ 22) (by decide)
  obtain ⟨q, hq⟩ := hv.tom2_dvd
  have hlt := hv.tom2_lt
  omega

theorem gnbToms_above (hv : ValidToms msrs) (hen : mtrrTom2En msrs = true) (h : terabyte < (msrs tom2).toNat) :
    ∃ gnbTom3 : BitVec 64, gnbToms msrs = (0x000000FD00000000, gnbTom3) ∧
      gnbTom3.toNat = (msrs tom2).toNat - 2 ^ 22 := by
  have hgt : msrs tom2 &&& 0x0000FFFFFFC00000 > 0x0000010000000000 := by
    rw [gt_iff_lt, BitVec.lt_def, hv.masked_tom2]
    exact h
  unfold gnbToms
  simp only [hen, hgt, if_true]
  refine ⟨_, rfl, ?_⟩
  have hmask := toNat_and_ones (msrs tom2 - 1)
    (by decide : (0x000FFFFFFFC00000 : BitVec 64).toNat = 2 ^ 52 - 2 ^ 22) (by decide)
  have hsub : (msrs tom2 - 1).toNat = (msrs tom2).toNat - 1 :=
    BitVec.toNat_sub_of_le (by rw [BitVec.le_def]; exact Nat.le_of_lt (lt_trans (by decide) h))
  obtain ⟨q, hq⟩ := hv.tom2_dvd
  have hlt := hv.tom2_lt
  unfold terabyte at h
  rw [hmask, hsub]
  omega

theorem gnbToms_below (hv : ValidToms msrs) (hen : mtrrTom2En msrs = true) (h : (msrs tom2).toNat ≤ terabyte) :
    gnbToms msrs = (msrs tom2, 0) := by
  have hle : ¬(msrs tom2 &&& 0x0000FFFFFFC00000 > 0x0000010000000000) := by
    rw [gt_iff_lt, BitVec.lt_def, hv.masked_tom2]
    exact Nat.not_lt.mpr h
  have hmask := toNat_and_ones (msrs tom2)
    (by decide : (0x000001FFFF800000 : BitVec 64).toNat = 2 ^ 41 - 2 ^ 23) (by decide)
  have heq : msrs tom2 &&& 0x000001FFFF800000 = msrs tom2 := by
    apply BitVec.eq_of_toNat_eq
    obtain ⟨q, hq⟩ := hv.tom2_dvd
    unfold terabyte at h
    omega
  unfold gnbToms
  simp only [hen, hle, if_true, if_false, heq]

theorem gnbToms_disabled (hen : mtrrTom2En msrs = false) : gnbToms msrs = (0, 0) := by
  unfold gnbToms
  simp [hen]

theorem dram_eq_cpuDram_iff (hv : ValidToms msrs) (htop : regs.top = (msrs tom).toNat) : regs.dram = cpuDram msrs ↔
      ∀ a, fourGb ≤ a → ((regs.tom2Enable ∧ a < regs.tom2) ∨ (regs.tom3Enable ∧ terabyte ≤ a ∧ a < regs.tom3End) ↔
        mtrrTom2En msrs ∧ a < (msrs tom2).toNat ∧ ¬(holeBase ≤ a ∧ a < terabyte)) := by
  have htom := hv.tom_lt
  unfold dram cpuDram
  rw [Set.ext_iff, htop]
  simp only [Set.mem_ofPred_eq]
  constructor
  · grind
  · intro h a
    by_cases ha : fourGb ≤ a
    · simp_all
    · have hnot : ¬terabyte ≤ a := by
        unfold terabyte fourGb at *
        omega
      simp [ha, hnot]

/-- What the result hangs on besides the CPU: bit 0 of the lower `TOM2` register of the first IOHC ends up as bit 32 of
the top of memory, and with no `TOM2` to write the stack is written. -/
def Settled (msrs : Msrs) (stack lowerRead upperRead : BitVec 32) : Prop :=
  lowerRead.getLsbD 0 = false ∧
  if mtrrTom2En msrs then
    if msrs Msr.tom2 = 0 then
      stack.getLsbD 0 = false ∨ (upperRead.extractLsb' 0 9).toNat * 2 ^ 32 + (stack.extractLsb' 23 9).toNat * 2 ^ 23 ≤ fourGb
    else (msrs Msr.tom2).toNat ≠ terabyte
  else stack.getLsbD 0 = false

section
variable {msrs : Msrs} (hv : ValidToms msrs) (stack lo up : BitVec 32)
include hv

theorem topRegs_top_eq (hbit : lo.getLsbD 0 = false) :
    (topRegs msrs stack lo up).top = (msrs tom).toNat := by
  have hzero : lo.extractLsb' 0 1 = 0#1 := by grind
  obtain ⟨q, hq⟩ := hv.tom_dvd
  have hlt := hv.tom_lt
  rw [topRegs_top, hzero]
  unfold fourGb at hlt
  simp only [BitVec.toNat_ofNat]
  omega

theorem dram_ne_of_bit32 (hbit : lo.getLsbD 0 = true) :
    (topRegs msrs stack lo up).dram ≠ cpuDram msrs := by
  have hone : lo.extractLsb' 0 1 = 1#1 := by grind
  have htop := topRegs_top msrs stack lo up
  obtain ⟨q, hq⟩ := hv.tom_dvd
  have hlt := hv.tom_lt
  rw [hone] at htop
  simp only [BitVec.toNat_ofNat] at htop
  unfold fourGb at hlt
  intro heq
  have hmem : (msrs tom).toNat ∈ cpuDram msrs := by
    rw [← heq]
    left
    omega
  rcases hmem with hmem | ⟨-, hge, -⟩
  · omega
  · unfold fourGb at hge
    omega

section
variable (hbit : lo.getLsbD 0 = false) (hen : mtrrTom2En msrs = true)
include hbit hen

theorem dram_eq_above (h : terabyte < (msrs tom2).toNat) : (topRegs msrs stack lo up).dram = cpuDram msrs := by
  obtain ⟨gnbTom3, htoms, htom3⟩ := gnbToms_above hv hen h
  obtain ⟨hen2, h2⟩ := topRegs_tom2 stack lo up htoms (by decide)
  have hlt := hv.tom2_lt
  obtain ⟨q, hq⟩ := hv.tom2_dvd
  have hne : gnbTom3 ≠ 0 := by
    rintro rfl
    unfold terabyte at h
    simp at htom3
    omega
  obtain ⟨hen3, h3⟩ := topRegs_tom3 stack lo up htoms hne
  have h2' : (topRegs msrs stack lo up).tom2 = holeBase := h2
  have h3' : (topRegs msrs stack lo up).tom3End = (msrs tom2).toNat := by
    unfold terabyte at h
    rw [h3, htom3]
    omega
  rw [dram_eq_cpuDram_iff hv (topRegs_top_eq hv stack lo up hbit)]
  intro a ha
  rw [hen2, h2', hen3, h3', hen]
  unfold terabyte holeBase fourGb at *
  simp only [true_and]
  omega

theorem dram_eq_below_iff (hle : (msrs tom2).toNat ≤ terabyte) (hne : msrs tom2 ≠ 0) :
    (topRegs msrs stack lo up).dram = cpuDram msrs ↔ (msrs tom2).toNat ≠ terabyte := by
  have htoms := gnbToms_below hv hen hle
  obtain ⟨hen2, h2⟩ := topRegs_tom2 stack lo up htoms hne
  have hen3 := topRegs_tom3_zero stack lo up htoms rfl
  have hhole := hv.tom2_hole
  obtain ⟨q, hq⟩ := hv.tom2_dvd
  rw [dram_eq_cpuDram_iff hv (topRegs_top_eq hv stack lo up hbit), hen2, hen3, hen, h2]
  unfold terabyte holeBase fourGb at *
  simp only [true_and, Bool.false_eq_true, false_and, or_false]
  constructor
  · -- At 1 TB the upper field is cut to 0, and the first address above 4G is lost.
    intro h heq
    have h4g := h (2 ^ 32) le_rfl
    rw [heq] at h4g
    omega
  · intro h a ha
    omega

theorem dram_eq_zero_iff (h0 : msrs tom2 = 0) :
    (topRegs msrs stack lo up).dram = cpuDram msrs ↔ stack.getLsbD 0 = false ∨
      (up.extractLsb' 0 9).toNat * 2 ^ 32 + (stack.extractLsb' 23 9).toNat * 2 ^ 23 ≤ fourGb := by
  have htoms := gnbToms_below hv hen (by rw [h0]; decide)
  obtain ⟨hen2, h2⟩ := topRegs_tom2_zero stack lo up htoms h0
  have hen3 := topRegs_tom3_zero stack lo up htoms rfl
  rw [dram_eq_cpuDram_iff hv (topRegs_top_eq hv stack lo up hbit), hen2, hen3, hen, h2, h0]
  generalize stack.getLsbD 0 = enable
  generalize (up.extractLsb' 0 9).toNat * 2 ^ 32 + (stack.extractLsb' 23 9).toNat * 2 ^ 23 = tom2
  constructor
  · intro h
    by_contra hcon
    rw [not_or, Bool.not_eq_false, not_le] at hcon
    exact absurd ((h fourGb le_rfl).mp (.inl hcon)) (by simp)
  · rintro (rfl | h) a ha
    · simp
    · simp [show ¬a < tom2 by omega]

end

theorem matchesCpu_topRegs_iff :
    MatchesCpu msrs (topRegs msrs stack lo up) ↔ Settled msrs stack lo up := by
  unfold MatchesCpu Settled
  cases hbit : lo.getLsbD 0 with
  | true => simp [dram_ne_of_bit32 hv stack lo up hbit]
  | false =>
    cases hen : mtrrTom2En msrs with
    | false =>
      have htoms := gnbToms_disabled hen
      obtain ⟨hen2, -⟩ := topRegs_tom2_zero stack lo up htoms rfl
      have hen3 := topRegs_tom3_zero stack lo up htoms rfl
      rw [dram_eq_cpuDram_iff hv (topRegs_top_eq hv stack lo up hbit), hen2, hen3, hen]
      simp +contextual
    | true =>
      simp only [Bool.true_eq_false, false_implies, and_true, true_and, if_true]
      split
      · next h0 => exact dram_eq_zero_iff hv stack lo up hbit hen h0
      · next h0 =>
        rcases Nat.lt_or_ge terabyte (msrs tom2).toNat with h | h
        · simp [dram_eq_above hv stack lo up hbit hen h, Nat.ne_of_gt h]
        · exact dram_eq_below_iff hv stack lo up hbit hen h h0

end

/-- The map of every IOHC is the map of the CPU exactly if the carried-over bits are harmless and `TOM2` is not 1 TB. -/
theorem nbioSetTopOfMemory_matches_iff {msrs : Msrs} (hv : ValidToms msrs) (stack : BitVec 32) (first : GnbHandle)
    (rest : List GnbHandle) (smn : Smn) :
    (∀ handle ∈ first :: rest, MatchesCpu msrs (iohcRegs (nbioSetTopOfMemory msrs stack first rest smn) handle)) ↔
      Settled msrs stack (smn (first.segment, first.bus, lowerTopOfDram2Address))
        (smn (first.segment, first.bus, upperTopOfDram2Address)) := by
  rw [← matchesCpu_topRegs_iff hv]
  unfold nbioSetTopOfMemory
  constructor
  · intro h
    have hfirst := h first List.mem_cons_self
    rwa [iohcRegs_foldl _ _ _ (.inl List.mem_cons_self)] at hfirst
  · intro h handle hmem
    rwa [iohcRegs_foldl _ _ _ (.inl hmem)]

def exampleMsrs (tom2 : BitVec 64) : Msrs := fun address =>
  if address = Msr.tom then 0x80000000 else if address = Msr.tom2 then tom2 else if address = Msr.sysCfg then 0x200000 else 0

def exampleHandle : GnbHandle := ⟨0, 0, 0⟩

theorem nbioSetTopOfMemory_matches_iff_8G : MatchesCpu (exampleMsrs 0x200000000)
    (iohcRegs (nbioSetTopOfMemory (exampleMsrs 0x200000000) 0 exampleHandle [] fun _ => 0) exampleHandle) :=
  (nbioSetTopOfMemory_matches_iff ⟨by decide, by decide, by decide, by decide, by decide⟩ 0 exampleHandle []
    fun _ => 0).mpr (by unfold Settled; decide) exampleHandle List.mem_cons_self

/-- With `TOM2` at 1 TB, the memory above 4G is not decoded. -/
theorem memory_lost_at_1T : fourGb ∈ cpuDram (exampleMsrs 0x10000000000) ∧
    fourGb ∉ (iohcRegs (nbioSetTopOfMemory (exampleMsrs 0x10000000000) 0 exampleHandle [] fun _ => 0) exampleHandle).dram := by
  unfold cpuDram dram
  simp only [Set.mem_ofPred_eq]
  decide

end OpenSil.Nbio
