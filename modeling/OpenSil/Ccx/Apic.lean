import OpenSil.CommonLib.Utils
import OpenSil.Lib.Pack
import OpenSil.Lib.Word

/-! # Local APIC ids

`Zen4CalcLocalApic` puts the numbers of socket, CCD, complex, core and thread side by side.
-/

open OpenSil.Utils OpenSil.Word OpenSil.Pack Nat Option

namespace OpenSil.Apic

structure Hardware where
  dfFabricRegisterAccRead : (socket function offset instanceId : UInt32) → UInt32
  xUslGetRawIdOnExecutingCore : UInt32
  xUSLSmnRead : (segmentNumber iohcBus smnAddress : UInt32) → UInt32
  xUslGetThreadsPerCore : UInt8

/-! ## The InitPkg7 register -/

structure InitPkg7 where
  value : UInt32

namespace InitPkg7

def apic16TMode (r : InitPkg7) : Nat := bits r.value 11 1

def numOfCores (r : InitPkg7) : Nat := bits r.value 16 4

def numOfComplexes (r : InitPkg7) : Nat := bits r.value 20 1

def numOfCcds (r : InitPkg7) : Nat := bits r.value 21 4

def numOfSockets (r : InitPkg7) : Nat := bits r.value 25 2

end InitPkg7

def zen4MaxCoresPerSkt : Nat := 128

def zen4MaxCoresPerCcd : Nat := 8

section
variable (hw : Hardware)

def coreEnable (index : Nat) : UInt32 :=
  hw.dfFabricRegisterAccRead 0 1 ((0x144 - 0x140) * .ofNat index + 0x140) 0xFF

def firstCore : Nat :=
  ((List.range zen4MaxCoresPerSkt).find? fun coreIdx =>
    coreEnable hw (coreIdx / 32) &&& ((1 : UInt32) <<< UInt32.ofNat (coreIdx % 32)) ≠ 0).getD zen4MaxCoresPerSkt

def maxCcxPerCcd : Nat := if hw.xUslGetRawIdOnExecutingCore &&& 0x0FFF0F00 = 0x00AA0F00 then 2 else 1

def initPkg7 : InitPkg7 :=
  let ccxIdx := firstCore hw / zen4MaxCoresPerCcd
  let coreIdx := firstCore hw % zen4MaxCoresPerCcd
  let ccdIdx := ccxIdx / maxCcxPerCcd hw
  ⟨hw.xUSLSmnRead 0 0 (0x20002FEC + 0x800000 * .ofNat ccdIdx + 0x400000 * .ofNat (ccxIdx % maxCcxPerCcd hw) +
    0x20000 * .ofNat coreIdx)⟩

def zen4CalcLocalApic (socket _die ccd complex core thread : UInt32) : Option UInt32 := do
  let r := initPkg7 hw
  let numberOfThreads := hw.xUslGetThreadsPerCore - 1
  let coreShift := numberOfThreads
  let complexShift := .ofNat (← xUslBitWidth r.numOfCores) + coreShift
  let complexShift := if r.apic16TMode = 1 ∧ complexShift < 4 then 4 else complexShift
  let ccdShift := .ofNat (← xUslBitWidth r.numOfComplexes) + complexShift
  let socketShift := .ofNat (← xUslBitWidth r.numOfCcds) + ccdShift
  return (socket <<< socketShift.toUInt32) ||| (ccd <<< ccdShift.toUInt32) ||| (complex <<< complexShift.toUInt32) |||
    (core <<< coreShift.toUInt32) ||| thread

end

/-! ## The fields of an id -/

structure Location where
  socket : UInt32
  ccd : UInt32
  complex : UInt32
  core : UInt32
  thread : UInt32

def Location.key (l : Location) : ℕ ×ₗ ℕ ×ₗ ℕ ×ₗ ℕ ×ₗ ℕ :=
  toLex (l.socket.toNat, toLex (l.ccd.toNat, toLex (l.complex.toNat, toLex (l.core.toNat, l.thread.toNat))))

/-- A thread within the counts of the package. -/
structure Location.Within (hw : Hardware) (l : Location) : Prop where
  socket : l.socket.toNat ≤ (initPkg7 hw).numOfSockets
  ccd : l.ccd.toNat ≤ (initPkg7 hw).numOfCcds
  complex : l.complex.toNat ≤ (initPkg7 hw).numOfComplexes
  core : l.core.toNat ≤ (initPkg7 hw).numOfCores
  thread : l.thread.toNat < hw.xUslGetThreadsPerCore.toNat

def Location.apicId (hw : Hardware) (l : Location) : Option UInt32 :=
  zen4CalcLocalApic hw l.socket 0 l.ccd l.complex l.core l.thread

variable {hw : Hardware} {l l' : Location}

theorem bits_lt (v : UInt32) (lo width : Nat) : bits v lo width < 2 ^ width := mod_lt _ (by positivity)

theorem size_numOfCores_le (r : InitPkg7) : r.numOfCores.size ≤ 4 := size_le.mpr (bits_lt _ _ _)

theorem size_numOfComplexes_le (r : InitPkg7) : r.numOfComplexes.size ≤ 1 := size_le.mpr (bits_lt _ _ _)

theorem size_numOfCcds_le (r : InitPkg7) : r.numOfCcds.size ≤ 4 := size_le.mpr (bits_lt _ _ _)

def Hardware.OneOrTwoThreads (hw : Hardware) : Prop := hw.xUslGetThreadsPerCore = 1 ∨ hw.xUslGetThreadsPerCore = 2

def coreShift (hw : Hardware) : Nat := hw.xUslGetThreadsPerCore.toNat - 1

def complexShift (hw : Hardware) : Nat :=
  let shift := (initPkg7 hw).numOfCores.size + coreShift hw
  if (initPkg7 hw).apic16TMode = 1 ∧ shift < 4 then 4 else shift

def ccdShift (hw : Hardware) : Nat := (initPkg7 hw).numOfComplexes.size + complexShift hw

def socketShift (hw : Hardware) : Nat := (initPkg7 hw).numOfCcds.size + ccdShift hw

theorem coreShift_le (h : hw.OneOrTwoThreads) : coreShift hw ≤ 1 := by
  unfold coreShift
  rcases h with h | h <;> rw [h] <;> decide

theorem complexShift_le (h : hw.OneOrTwoThreads) : complexShift hw ≤ 5 := by
  have h1 := size_numOfCores_le (initPkg7 hw)
  have h2 := coreShift_le h
  unfold complexShift
  dsimp only
  split <;> omega

theorem le_complexShift (hw : Hardware) : (initPkg7 hw).numOfCores.size + coreShift hw ≤ complexShift hw := by
  unfold complexShift
  dsimp only
  split <;> omega

theorem socketShift_le (h : hw.OneOrTwoThreads) : socketShift hw ≤ 10 := by
  have h1 := size_numOfComplexes_le (initPkg7 hw)
  have h2 := size_numOfCcds_le (initPkg7 hw)
  have h3 := complexShift_le h
  unfold socketShift ccdShift
  omega

open UInt32

theorem zen4CalcLocalApic_eq (h : hw.OneOrTwoThreads) (socket die ccd complex core thread : UInt32) :
    zen4CalcLocalApic hw socket die ccd complex core thread =
      some (socket <<< ofNat (socketShift hw) ||| ccd <<< ofNat (ccdShift hw) |||
        complex <<< ofNat (complexShift hw) ||| core <<< ofNat (coreShift hw) ||| thread) := by
  have hcores := size_numOfCores_le (initPkg7 hw)
  have hcomplexes := size_numOfComplexes_le (initPkg7 hw)
  have hccds := size_numOfCcds_le (initPkg7 hw)
  have hwidth : ∀ {n : Nat}, n.size ≤ 4 → xUslBitWidth n = some n.size := fun h =>
    xUslBitWidth_eq (size_le.mp (h.trans (by decide)))
  have hcore : hw.xUslGetThreadsPerCore - 1 = UInt8.ofNat (coreShift hw) := by
    unfold coreShift
    rcases h with h | h <;> rw [h] <;> rfl
  have hadd : ∀ a b, UInt8.ofNat a + UInt8.ofNat b = UInt8.ofNat (a + b) := fun a b => by simp
  have hcomplex : (if (initPkg7 hw).apic16TMode = 1 ∧
      UInt8.ofNat ((initPkg7 hw).numOfCores.size + coreShift hw) < 4 then 4
      else UInt8.ofNat ((initPkg7 hw).numOfCores.size + coreShift hw)) = UInt8.ofNat (complexShift hw) := by
    have hle := coreShift_le h
    have hlt : UInt8.ofNat ((initPkg7 hw).numOfCores.size + coreShift hw) < 4 ↔
        (initPkg7 hw).numOfCores.size + coreShift hw < 4 := by
      rw [UInt8.lt_iff_toNat_lt, UInt8.toNat_ofNat', mod_eq_of_lt (by omega)]
      rfl
    unfold complexShift
    simp only [hlt]
    split <;> rfl
  have h32 : ∀ n ≤ 10, (UInt8.ofNat n).toUInt32 = ofNat n := by
    intro n hn
    interval_cases n <;> rfl
  have hsocket := socketShift_le h
  unfold socketShift ccdShift at hsocket
  have hcoreShift := coreShift_le h
  simp only [zen4CalcLocalApic, hwidth hcores, hwidth (hcomplexes.trans (by decide)), hwidth hccds,
    bind_eq_bind, bind_some, pure_def, hcore, hadd, hcomplex]
  rw [h32 _ (by omega), h32 _ (by omega), h32 _ (by omega), h32 _ (by omega)]
  rfl

/-! ## The order of the ids -/

theorem toNat_shiftLeft {x : UInt32} {n s : Nat} (hx : x.toNat < 2 ^ n) (hn : 0 < n) (hs : n + s ≤ 32) :
    (x <<< ofNat s).toNat = x.toNat <<< s := by
  have hlt : x.toNat <<< s < 2 ^ 32 := by
    rw [shiftLeft_eq]
    calc x.toNat * 2 ^ s < 2 ^ n * 2 ^ s := mul_lt_mul_of_pos_right hx (by positivity)
      _ = 2 ^ (n + s) := (pow_add 2 n s).symm
      _ ≤ 2 ^ 32 := Nat.pow_le_pow_right (by decide) hs
  rw [UInt32.toNat_shiftLeft, UInt32.toNat_ofNat', mod_eq_of_lt (show s < 2 ^ 32 by omega),
    mod_eq_of_lt (show s < 32 by omega), mod_eq_of_lt hlt]

namespace Location

def inComplex (hw : Hardware) (l : Location) : Nat := l.core.toNat * 2 ^ coreShift hw + l.thread.toNat

def inCcd (hw : Hardware) (l : Location) : Nat := l.complex.toNat * 2 ^ complexShift hw + l.inComplex hw

def inSocket (hw : Hardware) (l : Location) : Nat := l.ccd.toNat * 2 ^ ccdShift hw + l.inCcd hw

theorem lt_pow_size {a n : Nat} (h : a ≤ n) : a < 2 ^ n.size := h.trans_lt (lt_size_self n)

variable (h : hw.OneOrTwoThreads) (hl : l.Within hw)
include h hl

theorem Within.thread_lt : l.thread.toNat < 2 ^ coreShift hw := by
  have := hl.thread
  unfold coreShift
  rcases h with h | h <;> rw [h] at this ⊢ <;> simpa using this

theorem Within.inComplex_lt : l.inComplex hw < 2 ^ complexShift hw :=
  (pack_lt_pow (lt_pow_size hl.core) (hl.thread_lt h)).trans_le
    (Nat.pow_le_pow_right (by decide) (le_complexShift hw))

theorem Within.inCcd_lt : l.inCcd hw < 2 ^ ccdShift hw :=
  pack_lt_pow (lt_pow_size hl.complex) (hl.inComplex_lt h)

theorem Within.inSocket_lt : l.inSocket hw < 2 ^ socketShift hw :=
  pack_lt_pow (lt_pow_size hl.ccd) (hl.inCcd_lt h)

theorem Within.apicId_eq :
    ∃ id, l.apicId hw = some id ∧ id.toNat = l.socket.toNat * 2 ^ socketShift hw + l.inSocket hw := by
  have hsocketShift := socketShift_le h
  have hccdShift : ccdShift hw ≤ socketShift hw := Nat.le_add_left _ _
  have hcomplexShift : complexShift hw ≤ ccdShift hw := Nat.le_add_left _ _
  have hcoreShift : coreShift hw ≤ complexShift hw := (Nat.le_add_left _ _).trans (le_complexShift hw)
  have hsocket : l.socket.toNat < 2 ^ 2 := hl.socket.trans_lt (bits_lt _ _ _)
  have hccd : l.ccd.toNat < 2 ^ 4 := hl.ccd.trans_lt (bits_lt _ _ _)
  have hcomplex : l.complex.toNat < 2 ^ 1 := hl.complex.trans_lt (bits_lt _ _ _)
  have hcore : l.core.toNat < 2 ^ 4 := hl.core.trans_lt (bits_lt _ _ _)
  refine ⟨_, zen4CalcLocalApic_eq h _ _ _ _ _ _, ?_⟩
  simp only [UInt32.toNat_or]
  rw [toNat_shiftLeft hsocket (by decide) (by omega), toNat_shiftLeft hccd (by decide) (by omega),
    toNat_shiftLeft hcomplex (by decide) (by omega), toNat_shiftLeft hcore (by decide) (by omega), Nat.or_assoc,
    Nat.or_assoc, Nat.or_assoc, shiftLeft_or (hl.thread_lt h)]
  -- From the thread up: what is below a field stays below its shift.
  change _ <<< _ ||| (_ <<< _ ||| (_ <<< _ ||| l.inComplex hw)) = _
  rw [shiftLeft_or (hl.inComplex_lt h)]
  change _ <<< _ ||| (_ <<< _ ||| l.inCcd hw) = _
  rw [shiftLeft_or (hl.inCcd_lt h)]
  exact shiftLeft_or (hl.inSocket_lt h)

theorem Within.packed_lt {l' : Location} (hlt : l.key < l'.key) :
    l.socket.toNat * 2 ^ socketShift hw + l.inSocket hw < l'.socket.toNat * 2 ^ socketShift hw + l'.inSocket hw :=
  pack_lt_pack (hl.inSocket_lt h) hlt fun hlt =>
    pack_lt_pack (hl.inCcd_lt h) hlt fun hlt =>
      pack_lt_pack (hl.inComplex_lt h) hlt fun hlt =>
        pack_lt_pack (hl.thread_lt h) hlt id

omit h hl in
theorem key_injective : Function.Injective key := by
  rintro ⟨s, d, x, c, t⟩ ⟨s', d', x', c', t'⟩ hkey
  simp only [key, EmbeddingLike.apply_eq_iff_eq, Prod.mk.injEq, UInt32.toNat_inj] at hkey
  obtain ⟨rfl, rfl, rfl, rfl, rfl⟩ := hkey
  rfl

end Location

/-- With one or two threads on a core, whatever the register says, every place has an id. -/
theorem zen4CalcLocalApic_strictMono (hw : Hardware) (h : hw.OneOrTwoThreads) :
    ∃ id : Location → UInt32, (∀ l, l.Within hw → l.apicId hw = some (id l)) ∧
      (∀ l l', l.Within hw → l'.Within hw → l.key < l'.key → id l < id l') ∧
      Set.InjOn id {l | l.Within hw} := by
  let id := fun l : Location => (l.apicId hw).getD 0
  have hid : ∀ l, l.Within hw → l.apicId hw = some (id l) ∧
      (id l).toNat = l.socket.toNat * 2 ^ socketShift hw + l.inSocket hw := by
    intro l hl
    obtain ⟨v, hv, hnat⟩ := hl.apicId_eq h
    have hget : id l = v := by simp only [id, hv, getD_some]
    exact ⟨by rw [hget, hv], by rw [hget, hnat]⟩
  have hmono : ∀ l l', l.Within hw → l'.Within hw → l.key < l'.key → id l < id l' := by
    intro l l' hl hl' hlt
    rw [lt_iff_toNat_lt, (hid l hl).2, (hid l' hl').2]
    exact hl.packed_lt h hlt
  refine ⟨id, fun l hl => (hid l hl).1, hmono, fun l hl l' hl' heq => ?_⟩
  rcases lt_trichotomy l.key l'.key with hlt | hkey | hlt
  · exact absurd (heq ▸ hmono l l' hl hl' hlt) (UInt32.lt_irrefl _)
  · exact Location.key_injective hkey
  · exact absurd (heq ▸ hmono l' l hl' hl hlt) (UInt32.lt_irrefl _)

def twoSockets : Hardware where
  dfFabricRegisterAccRead _ _ _ _ := 1
  xUslGetRawIdOnExecutingCore := 0x00A10F11
  xUSLSmnRead _ _ _ := 0x03670000
  xUslGetThreadsPerCore := 2

theorem zen4CalcLocalApic_strictMono_twoSockets :
    ∃ id : Location → UInt32, (∀ l, l.Within twoSockets → l.apicId twoSockets = some (id l)) ∧
      (∀ l l', l.Within twoSockets → l'.Within twoSockets → l.key < l'.key → id l < id l') ∧
      Set.InjOn id {l | l.Within twoSockets} :=
  zen4CalcLocalApic_strictMono twoSockets (.inr rfl)

end OpenSil.Apic
