import OpenSil.Ccx.AmdTableRun
import OpenSil.Lib.Word

/-! # Copying a bit field

`CopyBitFieldEntry`, and for which fields it copies the field of the source.
-/

open OpenSil.Bytes OpenSil.Word

namespace OpenSil.AmdTable

/-- The contents of the MSRs and of the registers of the PCI configuration space. -/
@[ext]
structure Registers where
  msr : UInt32 → UInt64
  pci : UInt32 → UInt32

def Registers.hardware (smuRegisterRMW : UInt32 → UInt32 → UInt32 → UInt32 → Registers → Registers)
    (dfGetSystemInfo : UInt32) (xUslIsBsp silDebugEnable : Bool) : Hardware Registers where
  xUslRdMsr address s := (s.msr address, s)
  xUslWrMsr address value s := { s with msr := Function.update s.msr address value }
  xUSLPciRead32 address s := (s.pci address, s)
  xUSLPciWrite32 address value s := { s with pci := Function.update s.pci address value }
  smuRegisterRMW := smuRegisterRMW
  dfGetSystemInfo := dfGetSystemInfo
  xUslIsBsp := xUslIsBsp
  silDebugEnable := silDebugEnable

def Registers.word (s : Registers) (d : CopyBitFieldDescription) : UInt64 :=
  if d.regType = 3 then s.msr d.address else (s.pci d.address).toUInt64

def Registers.set (s : Registers) (d : CopyBitFieldDescription) (value : UInt64) : Registers :=
  if d.regType = 3 then { s with msr := Function.update s.msr d.address value }
  else { s with pci := Function.update s.pci d.address value.toUInt32 }

namespace CopyBitFieldDescription
variable (d : CopyBitFieldDescription)

def width : Nat := d.msb.toNat - d.lsb.toNat + 1

def registerWidth : Nat := if d.regType = 3 then 64 else 32

/-- A field of an MSR or a PCI register, within its width. -/
structure Placed : Prop where
  kind : d.regType = 3 ∨ d.regType = 0
  ordered : d.lsb.toNat ≤ d.msb.toNat
  inside : d.msb.toNat < d.registerWidth

def InField (i : Nat) : Prop := d.lsb.toNat ≤ i ∧ i ≤ d.msb.toNat

def SameRegister (d e : CopyBitFieldDescription) : Prop := d.regType = e.regType ∧ d.address = e.address

instance (i : Nat) : Decidable (d.InField i) := inferInstanceAs (Decidable (_ ∧ _))

instance (d e : CopyBitFieldDescription) : Decidable (d.SameRegister e) := inferInstanceAs (Decidable (_ ∧ _))

variable {d}

theorem Placed.intMask_eq (h : d.Placed) :
    d.intMask = if d.width ≤ 30 then some (.ofNat (2 ^ d.width - 1)) else none := by
  have hw : max d.msb.toNat d.lsb.toNat - min d.msb.toNat d.lsb.toNat + 1 = d.width := by
    rw [max_eq_left h.ordered, min_eq_right h.ordered, width]
  unfold intMask
  simp only [hw, Nat.lt_succ_iff]

theorem Placed.lsb_lt (h : d.Placed) : d.lsb.toNat < 64 := by
  have hinside := h.inside
  have hordered := h.ordered
  unfold registerWidth at hinside
  split at hinside <;> omega

theorem registerWidth_le (d : CopyBitFieldDescription) : d.registerWidth ≤ 64 := by
  unfold registerWidth
  split <;> decide

theorem Placed.shift_eq (h : d.Placed) : d.shift = some (.ofNat d.lsb.toNat) := by
  unfold shift
  simp only [min_eq_right h.ordered]
  exact if_pos h.lsb_lt

end CopyBitFieldDescription

/-! ## The value written -/

def mergeField (source destination : CopyBitFieldDescription) (old input : UInt64) : UInt64 :=
  let low := UInt64.ofNat destination.lsb.toNat
  (old &&& ~~~(.ofNat (2 ^ destination.width - 1) <<< low)) |||
    (((input >>> .ofNat source.lsb.toNat) &&& .ofNat (2 ^ source.width - 1)) <<< low)

variable {src dst : CopyBitFieldDescription}

variable {i : Nat}

theorem testBit_mergeField (hsource : src.Placed) (hdest : dst.Placed) (hsw : src.width ≤ 30)
    (hdw : dst.width ≤ 30) (old input : UInt64) (hi : i < 64) :
    (mergeField src dst old input).toNat.testBit i =
      ((old.toNat.testBit i && !decide (dst.InField i)) ||
        (decide (dst.lsb.toNat ≤ i) && decide (i - dst.lsb.toNat < src.width) &&
          input.toNat.testBit (src.lsb.toNat + (i - dst.lsb.toNat)))) := by
  have hin : dst.InField i ↔ dst.lsb.toNat ≤ i ∧ i - dst.lsb.toNat < dst.width := by
    have := hdest.ordered
    unfold CopyBitFieldDescription.InField CopyBitFieldDescription.width
    omega
  change (mergeField src dst old input).toBitVec.getLsbD i =
    ((old.toBitVec.getLsbD i && _) || (_ && input.toBitVec.getLsbD _))
  unfold mergeField
  simp only [UInt64.toBitVec_or, UInt64.toBitVec_and, UInt64.toBitVec_not, toBitVec_shiftLeft_ofNat _ hdest.lsb_lt,
    toBitVec_shiftRight_ofNat _ hsource.lsb_lt, BitVec.getLsbD_or, BitVec.getLsbD_and, BitVec.getLsbD_not,
    BitVec.getLsbD_shiftLeft, BitVec.getLsbD_ushiftRight, getLsbD_ones (show dst.width ≤ 64 by omega),
    getLsbD_ones (show src.width ≤ 64 by omega), hi, decide_true, Bool.true_and]
  by_cases hlow : dst.lsb.toNat ≤ i
  · grind
  · simp [hin, hlow, Nat.lt_of_not_le hlow]

def maskTooWide (source destination : CopyBitFieldDescription) : Bool :=
  (UInt64.ofNat (2 ^ destination.width - 1)) <<< UInt64.ofNat destination.lsb.toNat < .ofNat (2 ^ source.width - 1)

variable {smu : UInt32 → UInt32 → UInt32 → UInt32 → Registers → Registers} {dies : UInt32} {bsp debug : Bool}

variable {d : CopyBitFieldDescription}

open Nat

open CopyBitFieldDescription Registers

section
variable (s : Registers)

theorem CopyBitFieldDescription.Placed.asserting_ordered (h : d.Placed) {hw : Hardware Registers} (s : TableState hw)
    (rest : Step hw) : asserting (decide (d.lsb ≤ d.msb)) s rest = rest :=
  asserting_of fun _ => decide_eq_true (UInt8.le_iff_toNat_le.mpr h.ordered)

theorem CopyBitFieldDescription.Placed.mask_ne_zero (h : d.Placed) (hw : d.width ≤ 30) :
    d.regType = 3 ∧ (UInt64.ofNat (2 ^ d.width - 1)) <<< UInt64.ofNat d.lsb.toNat ≠ 0 ∨
      d.regType = 0 ∧ ((UInt64.ofNat (2 ^ d.width - 1)) <<< UInt64.ofNat d.lsb.toNat).toUInt32 ≠ 0 := by
  set mask := (UInt64.ofNat (2 ^ d.width - 1)) <<< UInt64.ofNat d.lsb.toNat with hmask
  have hbit : mask.toBitVec.getLsbD d.lsb.toNat = true := by
    have hone : 0 < d.width := succ_pos _
    rw [hmask, toBitVec_shiftLeft_ofNat _ h.lsb_lt, BitVec.getLsbD_shiftLeft, getLsbD_ones (by omega)]
    simp [h.lsb_lt, hone]
  rcases h.kind with hk | hk
  · refine .inl ⟨hk, fun h0 => ?_⟩
    rw [h0] at hbit
    simp at hbit
  · refine .inr ⟨hk, fun h0 => ?_⟩
    have hlow : d.lsb.toNat < 32 := by
      have hinside := h.inside
      rw [registerWidth, hk] at hinside
      exact h.ordered.trans_lt hinside
    have hbit' : mask.toUInt32.toBitVec.getLsbD d.lsb.toNat = true := by
      rw [UInt64.toBitVec_toUInt32, BitVec.getLsbD_setWidth, hbit, decide_eq_true hlow, Bool.and_self]
    rw [h0] at hbit'
    simp at hbit'

theorem writeBitField_eq (destData : UInt64) {destMask : UInt64}
    (hmask : dst.regType = 3 ∧ destMask ≠ 0 ∨ dst.regType = 0 ∧ destMask.toUInt32 ≠ 0) (a : Nat)
    (s : TableState (hardware smu dies bsp debug)) :
    writeBitField dst destData destMask a s = .next (a + 16)
      { s with state := s.state.set dst ((s.state.word dst &&& ~~~destMask) ||| destData) } := by
  unfold writeBitField Registers.set Registers.word
  rcases hmask with ⟨hk, hne⟩ | ⟨hk, hne⟩
  · simp [hk, msrEntryStep, asserting, hne, rmwMsr, hardware]
  · simp [hk, pciEntryStep, asserting, hne, rmwPci, hardware]

def Registers.copy (s : Registers) (source destination : CopyBitFieldDescription) : Registers :=
  s.set destination (mergeField source destination (s.word destination) (s.word source))

theorem copyBitFieldEntry_eq (m : Mem) (a : Nat) (s : TableState (hardware smu dies bsp debug))
    (hdestination : read m a = dst)
    (hsource : read m (a + 8) = src) (hd : dst.Placed) (hs : src.Placed) :
    copyBitFieldEntry m a s =
      if src.width ≤ 30 ∧ dst.width ≤ 30 then
        if maskTooWide src dst then asserting false s (.next a s)
        else .next (a + 16) { s with state := s.state.copy src dst }
      else .stop .undefined s := by
  -- A plain read leaves the state as it is, so the two kinds of src differ in the word only.
  have hread : copyBitFieldEntry m a s =
      asserting (src.lsb ≤ src.msb) s
        (src.intMask.elim (.stop .undefined s) fun sourceMask => src.shift.elim (.stop .undefined s) fun sourceLow =>
          asserting (dst.lsb ≤ dst.msb) s <|
            dst.intMask.elim (.stop .undefined s) fun destMask =>
              dst.shift.elim (.stop .undefined s) fun destLow =>
                if destMask <<< destLow < sourceMask then asserting false s (.next a s)
                else writeBitField dst (((s.state.word src >>> sourceLow) &&& sourceMask) <<< destLow)
                  (destMask <<< destLow) a s) := by
    unfold copyBitFieldEntry word
    simp only [hsource, hdestination]
    rcases hs.kind with hk | hk
    all_goals
      simp only [hk, if_true]
      cases src.intMask <;> cases src.shift <;> cases dst.intMask <;> cases dst.shift <;> rfl
  rw [hread, hs.asserting_ordered, hs.intMask_eq, hd.intMask_eq, hs.shift_eq, hd.shift_eq]
  simp only [hd.asserting_ordered]
  by_cases hsw : src.width ≤ 30
  · by_cases hdw : dst.width ≤ 30
    · simp only [hsw, hdw, if_true, and_self, Option.elim_some]
      unfold maskTooWide
      simp only [decide_eq_true_eq]
      split
      · rfl
      · exact writeBitField_eq _ (hd.mask_ne_zero hdw) a s
    · simp only [hsw, hdw, if_true, if_false, and_false, Option.elim_some, Option.elim_none]
  · simp only [hsw, if_false, false_and, Option.elim_none]

/-! ## The copy as a law -/

theorem Registers.testBit_word_of_ge (d : CopyBitFieldDescription) (h : d.registerWidth ≤ i) :
    (s.word d).toNat.testBit i = false := by
  apply Nat.testBit_lt_two_pow
  refine lt_of_lt_of_le ?_ (Nat.pow_le_pow_right (by decide) h)
  unfold word registerWidth
  split
  · exact (s.msr d.address).toNat_lt
  · exact (s.pci d.address).toNat_lt

theorem Registers.testBit_word_set (d : CopyBitFieldDescription) (v : UInt64) (h : i < d.registerWidth) :
    ((s.set d v).word d).toNat.testBit i = v.toNat.testBit i := by
  unfold registerWidth at h
  unfold set word
  split
  · simp
  · rename_i hk
    rw [if_neg hk] at h
    simp only [Function.update_self, UInt32.toNat_toUInt64, UInt64.toNat_toUInt32, testBit_mod_two_pow, h,
      decide_true, Bool.true_and]

theorem Registers.word_set_of_ne {d e : CopyBitFieldDescription} (hd : d.regType = 3 ∨ d.regType = 0)
    (he : e.regType = 3 ∨ e.regType = 0) (h : ¬e.SameRegister d) (v : UInt64) : (s.set d v).word e = s.word e := by
  unfold SameRegister at h
  unfold set word
  rcases hd with hd | hd <;> rcases he with he | he <;> simp_all [Function.update_of_ne]

/-- The destination's field is the source's field, with zeros above it, and everything else is as before. -/
structure FieldCopied (source destination : CopyBitFieldDescription) (before after : Registers) : Prop where
  field : ∀ i, destination.InField i → (after.word destination).toNat.testBit i =
    (decide (i - destination.lsb.toNat < source.width) &&
      (before.word source).toNat.testBit (source.lsb.toNat + (i - destination.lsb.toNat)))
  rest : ∀ i, ¬destination.InField i →
    (after.word destination).toNat.testBit i = (before.word destination).toNat.testBit i
  others : ∀ d : CopyBitFieldDescription, d.regType = 3 ∨ d.regType = 0 → ¬d.SameRegister destination →
    after.word d = before.word d

/-- What an entry asks for: the copy, if the destination is wide enough for the source, and else nothing. -/
def CopyLaw (source destination : CopyBitFieldDescription) (before after : Registers) : Prop :=
  if source.width ≤ destination.width then FieldCopied source destination before after else after = before

theorem Registers.copy_fieldCopied (hs : src.Placed) (hd : dst.Placed)
    (hle : src.width ≤ dst.width) (hdw : dst.width ≤ 30) :
    FieldCopied src dst s (s.copy src dst) := by
  have hsw : src.width ≤ 30 := hle.trans hdw
  have hreg := dst.registerWidth_le
  have hordered := hd.ordered
  refine ⟨fun i hi => ?_, fun i hi => ?_, fun d hk hne => s.word_set_of_ne hd.kind hk hne _⟩
  · have hlt : i < dst.registerWidth := hi.2.trans_lt hd.inside
    rw [copy, testBit_word_set _ _ _ hlt, testBit_mergeField hs hd hsw hdw _ _ (by omega)]
    simp [hi, hi.1]
  · by_cases hlt : i < dst.registerWidth
    · rw [copy, testBit_word_set _ _ _ hlt, testBit_mergeField hs hd hsw hdw _ _ (by omega)]
      -- Above the field, the source's bits have come to an end.
      have hover : ¬(dst.lsb.toNat ≤ i ∧ i - dst.lsb.toNat < src.width) := by
        unfold InField at hi
        unfold width at hle
        unfold width
        omega
      rw [← Bool.decide_and, decide_eq_false hover, decide_eq_false hi]
      simp
    · rw [testBit_word_of_ge _ _ (not_lt.mp hlt), testBit_word_of_ge _ _ (not_lt.mp hlt)]

/-! ## The entries that keep the law -/

theorem Registers.word_congr {d e : CopyBitFieldDescription} (h : d.SameRegister e) :
    s.word d = s.word e := by
  unfold word
  rw [h.1, h.2]

theorem Registers.set_eq_self {v : UInt64}
    (h : ∀ i, i < d.registerWidth → v.toNat.testBit i = (s.word d).toNat.testBit i) : s.set d v = s := by
  unfold registerWidth word at h
  unfold set
  split
  · rename_i hk
    simp only [hk, if_true] at h
    have hv : v = s.msr d.address := by
      apply UInt64.toNat_inj.mp
      apply eq_of_testBit_eq
      intro i
      by_cases hi : i < 64
      · exact h i hi
      · have hbig : 2 ^ 64 ≤ 2 ^ i := Nat.pow_le_pow_right (by decide) (not_lt.mp hi)
        rw [testBit_lt_two_pow (v.toNat_lt.trans_le hbig),
          testBit_lt_two_pow ((s.msr d.address).toNat_lt.trans_le hbig)]
    rw [hv, Function.update_eq_self]
  · rename_i hk
    simp only [hk, if_false] at h
    have hv : v.toUInt32 = s.pci d.address := by
      apply UInt32.toNat_inj.mp
      apply eq_of_testBit_eq
      intro i
      rw [UInt64.toNat_toUInt32, testBit_mod_two_pow]
      by_cases hi : i < 32
      · rw [decide_eq_true hi, Bool.true_and, h i hi, UInt32.toNat_toUInt64]
      · have hbig : 2 ^ 32 ≤ 2 ^ i := Nat.pow_le_pow_right (by decide) (not_lt.mp hi)
        rw [decide_eq_false hi, Bool.false_and,
          testBit_lt_two_pow ((s.pci d.address).toNat_lt.trans_le hbig)]
    rw [hv, Function.update_eq_self]

/-- A wider source that starts at the bit where the destination starts, in the same register, is written over itself. -/
def CopiesOntoItself (source destination : CopyBitFieldDescription) : Prop :=
  source.SameRegister destination ∧ source.lsb = destination.lsb

instance : Decidable (CopiesOntoItself source destination) := inferInstanceAs (Decidable (_ ∧ _))

theorem Registers.copy_onto_itself (hs : src.Placed) (hd : dst.Placed) (hsw : src.width ≤ 30)
    (hlt : dst.width < src.width) (hself : CopiesOntoItself src dst) :
    s.copy src dst = s := by
  apply s.set_eq_self
  intro i hi
  have hreg := dst.registerWidth_le
  rw [testBit_mergeField hs hd hsw (by omega) _ _ (by omega), s.word_congr hself.1, hself.2]
  by_cases hlow : dst.lsb.toNat ≤ i
  · rw [Nat.add_sub_cancel' hlow]
    by_cases hin : dst.InField i
    · have hover : i - dst.lsb.toNat < src.width := by
        have := hin.2
        unfold width at hlt ⊢
        omega
      simp [hin, hlow, hover]
    · simp_all
  · have hout : ¬dst.InField i := fun hin => hlow hin.1
    simp [hout, hlow]

theorem copiesOntoItself_of_copy_eq (hs : src.Placed) (hd : dst.Placed) (hsw : src.width ≤ 30)
    (hdw : dst.width ≤ 30) (h : ∀ s : Registers, s.copy src dst = s) :
    CopiesOntoItself src dst := by
  let zero : Registers := ⟨fun _ => 0, fun _ => 0⟩
  let one : UInt64 := .ofNat (2 ^ dst.lsb.toNat)
  have hone : ∀ i, one.toNat.testBit i = decide (dst.lsb.toNat = i) := by
    intro i
    have hval : one.toNat = 2 ^ dst.lsb.toNat :=
      Nat.mod_eq_of_lt (Nat.pow_lt_pow_right (by decide) hd.lsb_lt)
    rw [hval, testBit_two_pow]
  have hlow : dst.lsb.toNat < dst.registerWidth := hd.ordered.trans_lt hd.inside
  have hseen : ((zero.set dst one).word src).toNat.testBit src.lsb.toNat = true := by
    have hbit := congrArg (fun s => (s.word dst).toNat.testBit dst.lsb.toNat)
      (h (zero.set dst one))
    have hin : dst.InField dst.lsb.toNat := ⟨le_refl _, hd.ordered⟩
    have hpos : 0 < src.width := succ_pos _
    simp only [copy, testBit_word_set _ _ _ hlow, hone] at hbit
    rw [testBit_mergeField hs hd hsw hdw _ _ hd.lsb_lt] at hbit
    simpa [hin, hpos] using hbit
  by_cases hsame : src.SameRegister dst
  · refine ⟨hsame, ?_⟩
    have hslow : src.lsb.toNat < dst.registerWidth := by
      have := hs.ordered.trans_lt hs.inside
      unfold registerWidth at this ⊢
      rwa [hsame.1] at this
    rw [word_congr _ hsame, testBit_word_set _ _ _ hslow, hone] at hseen
    exact UInt8.toNat_inj.mp (of_decide_eq_true hseen).symm
  · rw [word_set_of_ne _ hd.kind hs.kind hsame] at hseen
    have hzero : (zero.word src).toNat = 0 := by
      unfold word
      split <;> rfl
    rw [hzero, zero_testBit] at hseen
    cases hseen

theorem CopyBitFieldDescription.read_of_holds {m : Mem} {a : Nat} (h : Holds m a d.bytes) :
    read m a = d := by
  unfold bytes at h
  simp only [holds_append, length_bsu32, length_bsu16, add_assoc, reduceAdd] at h
  obtain ⟨htype, haddress, hbits⟩ := h
  have hmsb : m (a + 6) = d.msb := hbits 0 _ rfl
  have hlsb : m (a + 7) = d.lsb := hbits 1 _ rfl
  rw [read, ofNat_readLE_bsu16 htype, ofNat_readLE_bsu32 haddress, hmsb, hlsb]

/-- The handler goes on to the next entry, and the copy keeps the law. -/
def EntryKeepsLaw (source destination : CopyBitFieldDescription) (m : Mem) (a : Nat)
    (s : TableState (Registers.hardware smu dies bsp debug)) : Prop :=
  ∃ s', copyBitFieldEntry m a s = .next (a + 16) s' ∧ CopyLaw source destination s.state s'.state

theorem maskTooWide_of_le (hd : dst.Placed) (hle : src.width ≤ dst.width) :
    maskTooWide src dst = false := by
  have hsum : dst.width + dst.lsb.toNat ≤ 64 := by
    have h1 := hd.ordered
    have h2 := hd.inside
    have h3 := dst.registerWidth_le
    unfold width
    omega
  have hpow : 2 ^ src.width ≤ 2 ^ dst.width := Nat.pow_le_pow_right (by decide) hle
  have hlow : 1 ≤ 2 ^ dst.lsb.toNat := Nat.one_le_two_pow
  have hfit : (2 ^ dst.width - 1) * 2 ^ dst.lsb.toNat < 2 ^ 64 := by
    refine lt_of_lt_of_le ?_ (Nat.pow_le_pow_right (by decide) hsum)
    rw [pow_add]
    exact mul_lt_mul_of_pos_right (sub_lt (by positivity) (by decide)) (by positivity)
  have hle64 : 2 ^ dst.width - 1 ≤ (2 ^ dst.width - 1) * 2 ^ dst.lsb.toNat :=
    Nat.le_mul_of_pos_right _ hlow
  have hmask : ((UInt64.ofNat (2 ^ dst.width - 1)) <<< UInt64.ofNat dst.lsb.toNat).toNat =
      (2 ^ dst.width - 1) * 2 ^ dst.lsb.toNat := by
    rw [← UInt64.toNat_toBitVec, toBitVec_shiftLeft_ofNat _ hd.lsb_lt, BitVec.toNat_shiftLeft, UInt64.toNat_toBitVec,
      UInt64.toNat_ofNat', mod_eq_of_lt (hle64.trans_lt hfit), shiftLeft_eq, mod_eq_of_lt hfit]
  unfold maskTooWide
  rw [decide_eq_false_iff_not, UInt64.lt_iff_toNat_lt, hmask, UInt64.toNat_ofNat', mod_eq_of_lt (by omega)]
  omega

theorem entryKeepsLaw_iff (hs : src.Placed) (hd : dst.Placed) {m : Mem} {a : Nat}
    (hentry : Holds m a (Entry.copyBitField dst src).data)
    (s : TableState (hardware smu dies bsp debug)) :
    EntryKeepsLaw src dst m a s ↔
      (src.width ≤ 30 ∧ dst.width ≤ 30) ∧ maskTooWide src dst = false ∧
        CopyLaw src dst s.state (s.state.copy src dst) := by
  obtain ⟨hdest, hsource⟩ := holds_append.mp hentry
  unfold EntryKeepsLaw
  rw [copyBitFieldEntry_eq m a s (read_of_holds hdest)
    (read_of_holds hsource) hd hs]
  by_cases hw : src.width ≤ 30 ∧ dst.width ≤ 30
  · rw [if_pos hw]
    cases hmask : maskTooWide src dst with
    | true =>
      -- The pointer stays at the entry, or the assert stops everything.
      simp only [if_true, asserting]
      constructor
      · rintro ⟨s', hstep, -⟩
        split at hstep
        · cases hstep
        · injection hstep with hcursor
          omega
      · rintro ⟨-, h, -⟩
        cases h
    | false =>
      constructor
      · rintro ⟨s', hstep, hlaw⟩
        cases hstep
        exact ⟨hw, rfl, hlaw⟩
      · rintro ⟨-, -, hlaw⟩
        exact ⟨_, rfl, hlaw⟩
  · rw [if_neg hw]
    constructor
    · rintro ⟨s', hstep, -⟩
      cases hstep
    · rintro ⟨h, -⟩
      exact absurd h hw

end

/-- For any contents of the registers: the copy is right if and only if the source is not wider than the destination and
the destination has at most 30 bits, or a wider source passes the test of the masks and goes onto itself. -/
theorem copyBitFieldEntry_law_iff (hs : source.Placed) (hd : destination.Placed) {m : Mem} {a : Nat}
    (hentry : Holds m a (Entry.copyBitField destination source).data) :
    (∀ s : TableState (Registers.hardware smu dies bsp debug), EntryKeepsLaw source destination m a s) ↔
      if source.width ≤ destination.width then destination.width ≤ 30
      else source.width ≤ 30 ∧ maskTooWide source destination = false ∧ CopiesOntoItself source destination := by
  simp only [entryKeepsLaw_iff hs hd hentry]
  let start : Registers → TableState (hardware smu dies bsp debug) := fun r => ⟨r, 0xFF, .inl rfl⟩
  by_cases hle : source.width ≤ destination.width
  · rw [if_pos hle]
    constructor
    · intro h
      exact (h (start ⟨fun _ => 0, fun _ => 0⟩)).1.2
    · intro hdw s
      refine ⟨⟨hle.trans hdw, hdw⟩, maskTooWide_of_le hd hle, ?_⟩
      rw [CopyLaw, if_pos hle]
      exact s.state.copy_fieldCopied hs hd hle hdw
  · rw [if_neg hle]
    simp only [CopyLaw, if_neg hle]
    constructor
    · intro h
      obtain ⟨⟨hsw, hdw⟩, hmask, -⟩ := h (start ⟨fun _ => 0, fun _ => 0⟩)
      exact ⟨hsw, hmask, copiesOntoItself_of_copy_eq hs hd hsw hdw fun r => (h (start r)).2.2⟩
    · rintro ⟨hsw, hmask, hself⟩ s
      exact ⟨⟨hsw, by omega⟩, hmask, s.state.copy_onto_itself hs hd hsw (by omega) hself⟩

def wideSource : CopyBitFieldDescription := ⟨3, 0xC0010015, 7, 0⟩

def narrowDestination : CopyBitFieldDescription := ⟨3, 0xC0010016, 11, 8⟩

theorem placed_wideSource : wideSource.Placed := ⟨.inl rfl, by decide, by decide⟩

theorem placed_narrowDestination : narrowDestination.Placed := ⟨.inl rfl, by decide, by decide⟩

/-- The other way round, the copy is right. -/
theorem copyBitFieldEntry_law_narrow :
    narrowDestination.Placed ∧ wideSource.Placed ∧
    ∀ s : TableState (Registers.hardware (fun _ _ _ _ s => s) 1 true true), EntryKeepsLaw narrowDestination wideSource
      (ofBytes (Entry.copyBitField wideSource narrowDestination).data) 0 s :=
  ⟨placed_narrowDestination, placed_wideSource,
    (copyBitFieldEntry_law_iff placed_narrowDestination placed_wideSource (holds_ofBytes _)).mpr (by decide)⟩

/-- The test of the masks lets the wide source through, and bits above the destination's field are set. -/
theorem copyBitFieldEntry_sets_above_field :
    let before : Registers := ⟨fun a => if a = 0xC0010015 then 0xFF else 0, fun _ => 0⟩
    let s : TableState (Registers.hardware (fun _ _ _ _ s => s) 1 true true) := ⟨before, 0xFF, .inl rfl⟩
    wideSource.Placed ∧ narrowDestination.Placed ∧
      (∃ s', copyBitFieldEntry (ofBytes (Entry.copyBitField narrowDestination wideSource).data) 0 s = .next 16 s' ∧
        s.state.msr 0xC0010016 = 0 ∧ s'.state.msr 0xC0010016 = 0xFF00) ∧
      ¬EntryKeepsLaw wideSource narrowDestination
        (ofBytes (Entry.copyBitField narrowDestination wideSource).data) 0 s := by
  intro before s
  refine ⟨placed_wideSource, placed_narrowDestination,
    ⟨{ s with state := before.copy wideSource narrowDestination }, ?_, by decide, by decide⟩,
    fun hkeeps => ?_⟩
  · obtain ⟨hdest, hsource⟩ := holds_append.mp (holds_ofBytes (Entry.copyBitField narrowDestination wideSource).data)
    rw [copyBitFieldEntry_eq _ 0 s (read_of_holds hdest)
      (read_of_holds hsource) placed_narrowDestination placed_wideSource, if_pos (by decide),
      if_neg (by decide)]
  · have hlaw := ((entryKeepsLaw_iff placed_wideSource placed_narrowDestination (holds_ofBytes _) s).mp hkeeps).2.2
    rw [CopyLaw, if_neg (by decide)] at hlaw
    have hmsr := congrArg (fun r => r.msr 0xC0010016) hlaw
    revert hmsr
    decide

end OpenSil.AmdTable
