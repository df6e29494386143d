import OpenSil.Lib.BitField
import OpenSil.Msr

/-! # The RMP table registers

`xPrfSetSnpRmp` writes the host's buffer into the base and the end register of the reverse map table.
-/

namespace OpenSil.XPrf

open Function BitVec

def fieldLow : Nat := 13
def fieldWidth : Nat := 39

def overwriteField (value address : BitVec 64) : BitVec 64 :=
  BitField.set value fieldLow (BitVec.ofNat fieldWidth 0) ||| address

def xPrfSetSnpRmp (msrs : Msrs) (snpRmpTableBase snpRmpTableSize : BitVec 64) : Msrs :=
  let msrs := xUslWrMsr msrs Msr.lsRmpBase (overwriteField (msrs Msr.lsRmpBase) snpRmpTableBase)
  xUslWrMsr msrs Msr.lsRmpEnd (overwriteField (msrs Msr.lsRmpEnd) snpRmpTableSize)

/-! ## What the registers say -/

def granule : Nat := 2 ^ fieldLow

def addressField (value : BitVec 64) : Nat := (value.extractLsb' fieldLow fieldWidth).toNat

def rmpTable (msrs : Msrs) : Set Nat :=
  Set.Ico (addressField (msrs Msr.lsRmpBase) * granule) ((addressField (msrs Msr.lsRmpEnd) + 1) * granule)

def SameOutside (value value' : BitVec 64) : Prop :=
  ∀ i < 64, i < fieldLow ∨ fieldLow + fieldWidth ≤ i → value'.getLsbD i = value.getLsbD i

/-- The registers describe the buffer, and keep their other bits. -/
def DescribesBuffer (msrs msrs' : Msrs) (base size : Nat) : Prop :=
  rmpTable msrs' = Set.Ico base (base + size) ∧
  SameOutside (msrs Msr.lsRmpBase) (msrs' Msr.lsRmpBase) ∧ SameOutside (msrs Msr.lsRmpEnd) (msrs' Msr.lsRmpEnd)

theorem xPrfSetSnpRmp_base (msrs : Msrs) (base size : BitVec 64) :
    xPrfSetSnpRmp msrs base size Msr.lsRmpBase = overwriteField (msrs Msr.lsRmpBase) base := by
  unfold xPrfSetSnpRmp xUslWrMsr
  rw [update_of_ne (by decide), update_self]

theorem xPrfSetSnpRmp_end (msrs : Msrs) (base size : BitVec 64) :
    xPrfSetSnpRmp msrs base size Msr.lsRmpEnd = overwriteField (msrs Msr.lsRmpEnd) size := by
  unfold xPrfSetSnpRmp xUslWrMsr
  rw [update_self, update_of_ne (by decide)]

theorem addressField_overwriteField (value address : BitVec 64) :
    addressField (overwriteField value address) = address.toNat / granule % 2 ^ fieldWidth := by
  unfold addressField overwriteField
  rw [extractLsb'_or, BitField.extract_set _ _ (by decide), zero_or, BitField.toNat_extract]
  rfl

theorem overwriteField_sameOutside (value : BitVec 64) {address : BitVec 64} (halign : granule ∣ address.toNat)
    (hlt : address.toNat < 2 ^ 52) : SameOutside value (overwriteField value address) := by
  intro i _ hi
  have haddress : address.getLsbD i = false := by
    rw [← testBit_toNat]
    rcases hi with hlow | hhigh
    · obtain ⟨q, hq⟩ := halign
      rw [hq, granule, Nat.testBit_two_pow_mul]
      simp [show ¬fieldLow ≤ i by omega]
    · exact Nat.testBit_lt_two_pow (lt_of_lt_of_le hlt (Nat.pow_le_pow_right (by decide) hhigh))
  unfold overwriteField
  rw [getLsbD_or, haddress, Bool.or_false, BitField.getLsbD_set, if_neg (by omega)]

/-! ## The buffer -/

theorem rmpTable_eq (msrs : Msrs) (base size : BitVec 64) : rmpTable (xPrfSetSnpRmp msrs base size) =
    Set.Ico (base.toNat / granule % 2 ^ fieldWidth * granule) ((size.toNat / granule % 2 ^ fieldWidth + 1) * granule) := by
  unfold rmpTable
  rw [xPrfSetSnpRmp_base, xPrfSetSnpRmp_end, addressField_overwriteField, addressField_overwriteField]

/-- Every size ends the table at `size + 8 KB`, so only a buffer at 8 KB comes out right. -/
theorem describesBuffer_iff (msrs : Msrs) {base size : BitVec 64} (hbase : granule ∣ base.toNat)
    (hsize : granule ∣ size.toNat) (hpos : 0 < size.toNat) (hend : base.toNat + size.toNat ≤ 2 ^ 52) :
    DescribesBuffer msrs (xPrfSetSnpRmp msrs base size) base.toNat size.toNat ↔ base.toNat = granule := by
  have hg : granule = 8192 := rfl
  have hw : (2 : Nat) ^ fieldWidth = 2 ^ 39 := rfl
  unfold DescribesBuffer
  rw [rmpTable_eq, xPrfSetSnpRmp_base, xPrfSetSnpRmp_end]
  rw [hg] at hbase hsize ⊢
  rw [hw]
  constructor
  · rintro ⟨htable, -, -⟩
    have hne : (Set.Ico base.toNat (base.toNat + size.toNat)).Nonempty := ⟨base.toNat, by simp; omega⟩
    have hlt := htable ▸ hne
    have hbounds := (Set.Ico_eq_Ico_iff (.inl (Set.nonempty_Ico.mp hlt))).mp htable
    omega
  · intro h
    refine ⟨?_, overwriteField_sameOutside _ (by rwa [hg]) (by omega), overwriteField_sameOutside _ (by rwa [hg]) (by omega)⟩
    congr 1 <;> omega

/-- A buffer of 1 MB at 8 KB. -/
theorem describesBuffer_iff_8K : DescribesBuffer (fun _ => 0) (xPrfSetSnpRmp (fun _ => 0) 0x2000 0x100000) 0x2000 0x100000 :=
  (describesBuffer_iff (fun _ => 0) (by decide : granule ∣ (0x2000 : BitVec 64).toNat)
    (by decide : granule ∣ (0x100000 : BitVec 64).toNat) (by decide) (by decide)).mpr rfl

/-- A buffer of 1 MB at 1 GB: the table ends in front of its base. -/
theorem buffer_at_1G_lost : rmpTable (xPrfSetSnpRmp (fun _ => 0) 0x40000000 0x100000) = ∅ ∧
    0x40000000 ∈ Set.Ico 0x40000000 (0x40000000 + 0x100000) := by
  constructor
  · rw [rmpTable_eq]
    exact Set.Ico_eq_empty (by decide)
  · simp

end OpenSil.XPrf
