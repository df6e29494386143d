import OpenSil.Ccx.AmdTable

/-! # Register tables and what they declare -/

open OpenSil.Bytes OpenSil.Loop List Nat

namespace OpenSil.AmdTable

variable {σ : Type}

inductive Entry where
  | pciRegister (e : PciTypeEntryData)
  | pciProfileFixup (typeFeats : UInt32) (e : PciTypeEntryData)
  | pciCpuRev (cpuRevision : SocLogicalId) (e : PciTypeEntryData)
  | msrRegister (e : MsrTypeEntryData)
  | msrCpuRev (cpuRevision : SocLogicalId) (e : MsrTypeEntryData)
  | msrCoreRev (coreRevision : CoreLogicalId) (e : MsrTypeEntryData)
  | msrPlatformFeat (typeFeats : UInt32) (e : MsrTypeEntryData)
  | msrCpuRevPlatformFeat (cpuRevision : SocLogicalId) (typeFeats : UInt32) (e : MsrTypeEntryData)
  | smnRegisters (e : SmnTypeEntryData)
  | smnMultiRegisters (e : SmnMultiTypeEntryData)
  | smuIndexRegister (e : SmuIndexEntryData)
  | smuIndexProfileFixup (typeFeats : UInt32) (e : SmuIndexEntryData)
  | copyBitField (destination source : CopyBitFieldDescription)

def Entry.entryType : Entry → Nat
  | .pciRegister _ => 0
  | .pciProfileFixup _ _ => 1
  | .pciCpuRev _ _ => 2
  | .msrRegister _ => 3
  | .msrCpuRev _ _ => 4
  | .msrCoreRev _ _ => 5
  | .msrPlatformFeat _ _ => 6
  | .msrCpuRevPlatformFeat _ _ _ => 7
  | .smnRegisters _ => 8
  | .smnMultiRegisters _ => 9
  | .smuIndexRegister _ => 10
  | .smuIndexProfileFixup _ _ => 11
  | .copyBitField _ _ => 12

/-! ## The bytes of an entry -/

def bsu16 (u16 : UInt16) : List UInt8 := leBytes u16.toNat 2

def bsu32 (u32 : UInt32) : List UInt8 := leBytes u32.toNat 4

def bsu64 (u64 : UInt64) : List UInt8 := leBytes u64.toNat 8

def SocLogicalId.bytes (id : SocLogicalId) : List UInt8 := bsu32 id.family ++ bsu16 id.revision

def CoreLogicalId.bytes (id : CoreLogicalId) : List UInt8 := bsu32 id.coreFamily ++ bsu16 id.coreRevision

def MsrTypeEntryData.bytes (e : MsrTypeEntryData) : List UInt8 := bsu32 e.address ++ (bsu64 e.data ++ bsu64 e.mask)

def PciTypeEntryData.bytes (e : PciTypeEntryData) : List UInt8 := bsu32 e.address ++ (bsu32 e.data ++ bsu32 e.mask)

def SmnTypeEntryData.bytes (e : SmnTypeEntryData) : List UInt8 :=
  bsu32 e.instanceId ++ (bsu32 e.registerIndex ++ (bsu32 e.data ++ bsu32 e.mask))

def SmnMultiTypeEntryData.bytes (e : SmnMultiTypeEntryData) : List UInt8 :=
  bsu32 e.instanceId ++ (bsu32 e.registerIndexStart ++ (bsu32 e.registerIndexEnd ++ (bsu32 e.steps ++
    (bsu32 e.data ++ bsu32 e.mask))))

def SmuIndexEntryData.bytes (e : SmuIndexEntryData) : List UInt8 := bsu32 e.index ++ (bsu32 e.data ++ bsu32 e.mask)

def CopyBitFieldDescription.bytes (d : CopyBitFieldDescription) : List UInt8 :=
  bsu16 d.regType ++ (bsu32 d.address ++ [d.msb, d.lsb])

def Entry.data : Entry → List UInt8
  | .pciRegister e => e.bytes
  | .pciProfileFixup typeFeats e => bsu32 typeFeats ++ e.bytes
  | .pciCpuRev cpuRevision e => cpuRevision.bytes ++ e.bytes
  | .msrRegister e => e.bytes
  | .msrCpuRev cpuRevision e => cpuRevision.bytes ++ e.bytes
  | .msrCoreRev coreRevision e => coreRevision.bytes ++ e.bytes
  | .msrPlatformFeat typeFeats e => bsu32 typeFeats ++ e.bytes
  | .msrCpuRevPlatformFeat cpuRevision typeFeats e => cpuRevision.bytes ++ (bsu32 typeFeats ++ e.bytes)
  | .smnRegisters e => e.bytes
  | .smnMultiRegisters e => e.bytes
  | .smuIndexRegister e => e.bytes
  | .smuIndexProfileFixup typeFeats e => bsu32 typeFeats ++ e.bytes
  | .copyBitField destination source => destination.bytes ++ source.bytes

def table (entries : List Entry) (last : UInt16) : List UInt8 :=
  entries.flatMap (fun e => leBytes e.entryType 2 ++ e.data) ++ bsu16 last

/-! ## What an entry declares -/

section
variable (hw : Hardware σ) (smuIndexRMW : SmuIndexEntryData → σ → σ) (criteria : EntryCriteria)

def rmwSmn (instanceId registerIndex : UInt32) (e : UInt32 × UInt32) (s : σ) : σ :=
  if instanceId = smnOnAllDies then
    (List.range hw.dfGetSystemInfo.toNat).foldl
      (fun s die => hw.smuRegisterRMW (.ofNat die) registerIndex (~~~e.1) e.2 s) s
  else hw.smuRegisterRMW instanceId registerIndex (~~~e.1) e.2 s

def SmnMultiTypeEntryData.registers (e : SmnMultiTypeEntryData) : List UInt32 :=
  if e.registerIndexStart ≤ e.registerIndexEnd then
    (List.range' e.registerIndexStart.toNat
      ((e.registerIndexEnd.toNat - e.registerIndexStart.toNat) / e.steps.toNat + 1) e.steps.toNat).map .ofNat
  else []

def moveField (destination source : CopyBitFieldDescription) (value : UInt64) : UInt64 :=
  .ofNat (value.toNat / 2 ^ source.lsb.toNat % 2 ^ (source.msb.toNat - source.lsb.toNat + 1) * 2 ^ destination.lsb.toNat)

def fieldMask (d : CopyBitFieldDescription) : UInt64 :=
  .ofNat ((2 ^ (d.msb.toNat - d.lsb.toNat + 1) - 1) * 2 ^ d.lsb.toNat)

def copyField (destination source : CopyBitFieldDescription) (r : UInt64 × σ) : σ :=
  let data := moveField destination source r.1
  let mask := fieldMask destination
  if destination.regType = 3 then rmwMsr hw ⟨destination.address, data, mask⟩ r.2
  else if destination.regType = 0 then rmwPci hw ⟨destination.address, data.toUInt32, mask.toUInt32⟩ r.2
  else if destination.regType = 10 then smuIndexRMW ⟨destination.address, data.toUInt32, mask.toUInt32⟩ r.2
  else r.2

def Entry.declared : Entry → σ → σ
  | .pciRegister e, s => rmwPci hw e s
  | .pciProfileFixup typeFeats e, s =>
    if doesEntryTypeSpecificInfoMatch criteria.profileFeats typeFeats then rmwPci hw e s else s
  | .pciCpuRev cpuRevision e, s => if criteria.socLogicalId.matches cpuRevision then rmwPci hw e s else s
  | .msrRegister e, s => rmwMsr hw e s
  | .msrCpuRev cpuRevision e, s => if criteria.socLogicalId.matches cpuRevision then rmwMsr hw e s else s
  | .msrCoreRev coreRevision e, s => if criteria.coreLogicalId.matches coreRevision then rmwMsr hw e s else s
  | .msrPlatformFeat typeFeats e, s =>
    if doesEntryTypeSpecificInfoMatch criteria.platformFeats typeFeats then rmwMsr hw e s else s
  | .msrCpuRevPlatformFeat cpuRevision typeFeats e, s =>
    if criteria.socLogicalId.matches cpuRevision ∧ doesEntryTypeSpecificInfoMatch criteria.platformFeats typeFeats then
      rmwMsr hw e s
    else s
  | .smnRegisters e, s => if hw.xUslIsBsp then rmwSmn hw e.instanceId e.registerIndex (e.mask, e.data) s else s
  | .smnMultiRegisters e, s =>
    if hw.xUslIsBsp then e.registers.foldl (fun s index => rmwSmn hw e.instanceId index (e.mask, e.data) s) s else s
  | .smuIndexRegister e, s => smuIndexRMW e s
  | .smuIndexProfileFixup typeFeats e, s =>
    if doesEntryTypeSpecificInfoMatch criteria.profileFeats typeFeats then smuIndexRMW e s else s
  | .copyBitField destination source, s =>
    if source.regType = 3 then copyField hw smuIndexRMW destination source (hw.xUslRdMsr source.address s)
    else if source.regType = 0 then
      let r := hw.xUSLPciRead32 source.address s
      copyField hw smuIndexRMW destination source (r.1.toUInt64, r.2)
    else s

/-- The interpreter returns, or stops at an assert about a type behind the last one, and has performed the entries in their
order. -/
def Correct (m : Mem) (registerEntry : Nat) (entries : List Entry) (last : UInt16) (s : TableState hw) : Prop :=
  ∃ ending s', (∃ n, ∀ fuel, n ≤ fuel → setRegistersFromTable criteria m fuel registerEntry s = some (ending, s')) ∧
    s'.state = entries.foldl (fun s e => e.declared hw smuIndexRMW criteria s) s.state ∧
    (ending = .returned ∨ last.toNat ≠ tableTerminator ∧ ending = .assertion)

end

/-! ## Reading an entry back -/

section
variable {m : Mem} {a : Nat}

@[simp] theorem length_bsu16 (u16 : UInt16) : (bsu16 u16).length = 2 := length_leBytes _ _

@[simp] theorem length_bsu32 (u32 : UInt32) : (bsu32 u32).length = 4 := length_leBytes _ _

@[simp] theorem length_bsu64 (u64 : UInt64) : (bsu64 u64).length = 8 := length_leBytes _ _

theorem ofNat_readLE_bsu16 {u16 : UInt16} (h : Holds m a (bsu16 u16)) : UInt16.ofNat (readLE m a 2) = u16 := by
  have hlt : u16.toNat < 256 ^ 2 := u16.toNat_lt
  rw [readLE_of_holds h, mod_eq_of_lt hlt, UInt16.ofNat_toNat]

theorem ofNat_readLE_bsu32 {u32 : UInt32} (h : Holds m a (bsu32 u32)) : UInt32.ofNat (readLE m a 4) = u32 := by
  have hlt : u32.toNat < 256 ^ 4 := u32.toNat_lt
  rw [readLE_of_holds h, mod_eq_of_lt hlt, UInt32.ofNat_toNat]

theorem ofNat_readLE_bsu64 {u64 : UInt64} (h : Holds m a (bsu64 u64)) : UInt64.ofNat (readLE m a 8) = u64 := by
  have hlt : u64.toNat < 256 ^ 8 := u64.toNat_lt
  rw [readLE_of_holds h, mod_eq_of_lt hlt, UInt64.ofNat_toNat]

@[simp] theorem SocLogicalId.length_bytes (id : SocLogicalId) : id.bytes.length = 6 := by simp [bytes]

@[simp] theorem CoreLogicalId.length_bytes (id : CoreLogicalId) : id.bytes.length = 6 := by simp [bytes]

@[simp] theorem MsrTypeEntryData.length_bytes (e : MsrTypeEntryData) : e.bytes.length = 20 := by simp [bytes]

@[simp] theorem PciTypeEntryData.length_bytes (e : PciTypeEntryData) : e.bytes.length = 12 := by simp [bytes]

@[simp] theorem SmnTypeEntryData.length_bytes (e : SmnTypeEntryData) : e.bytes.length = 16 := by simp [bytes]

@[simp] theorem SmnMultiTypeEntryData.length_bytes (e : SmnMultiTypeEntryData) : e.bytes.length = 24 := by simp [bytes]

theorem SocLogicalId.read_of_holds {id : SocLogicalId} (h : Holds m a id.bytes) : read m a = id := by
  unfold bytes at h
  simp only [holds_append, length_bsu32] at h
  rw [read, ofNat_readLE_bsu32 h.1, ofNat_readLE_bsu16 h.2]

theorem CoreLogicalId.read_of_holds {id : CoreLogicalId} (h : Holds m a id.bytes) : read m a = id := by
  unfold bytes at h
  simp only [holds_append, length_bsu32] at h
  rw [read, ofNat_readLE_bsu32 h.1, ofNat_readLE_bsu16 h.2]

theorem MsrTypeEntryData.read_of_holds {e : MsrTypeEntryData} (h : Holds m a e.bytes) :
    read m a = e := by
  unfold bytes at h
  simp only [holds_append, length_bsu32, length_bsu64, add_assoc, reduceAdd] at h
  obtain ⟨haddress, hdata, hmask⟩ := h
  rw [read, ofNat_readLE_bsu32 haddress, ofNat_readLE_bsu64 hdata, ofNat_readLE_bsu64 hmask]

theorem PciTypeEntryData.read_of_holds {e : PciTypeEntryData} (h : Holds m a e.bytes) :
    read m a = e := by
  unfold bytes at h
  simp only [holds_append, length_bsu32, add_assoc, reduceAdd] at h
  obtain ⟨haddress, hdata, hmask⟩ := h
  rw [read, ofNat_readLE_bsu32 haddress, ofNat_readLE_bsu32 hdata, ofNat_readLE_bsu32 hmask]

theorem SmnTypeEntryData.read_of_holds {e : SmnTypeEntryData} (h : Holds m a e.bytes) :
    read m a = e := by
  unfold bytes at h
  simp only [holds_append, length_bsu32, add_assoc, reduceAdd] at h
  obtain ⟨hinstance, hindex, hdata, hmask⟩ := h
  rw [read, ofNat_readLE_bsu32 hinstance, ofNat_readLE_bsu32 hindex, ofNat_readLE_bsu32 hdata,
    ofNat_readLE_bsu32 hmask]

theorem SmnMultiTypeEntryData.read_of_holds {e : SmnMultiTypeEntryData} (h : Holds m a e.bytes) :
    read m a = e := by
  unfold bytes at h
  simp only [holds_append, length_bsu32, add_assoc, reduceAdd] at h
  obtain ⟨hinstance, hstart, hend, hsteps, hdata, hmask⟩ := h
  rw [read, ofNat_readLE_bsu32 hinstance, ofNat_readLE_bsu32 hstart, ofNat_readLE_bsu32 hend,
    ofNat_readLE_bsu32 hsteps, ofNat_readLE_bsu32 hdata, ofNat_readLE_bsu32 hmask]

theorem Entry.entryType_lt (e : Entry) : e.entryType < tableEntryTypeMax := by
  cases e <;> simp [entryType, tableEntryTypeMax]

theorem readLE_entryType {e : Entry} (h : Holds m a (leBytes e.entryType 2)) : readLE m a 2 = e.entryType := by
  rw [readLE_of_holds h]
  have := e.entryType_lt
  exact mod_eq_of_lt (this.trans (by decide))

end

/-! ## One entry -/

open MsrTypeEntryData SocLogicalId

section
variable {hw : Hardware σ} {s : TableState hw}

theorem asserting_of {holds : Bool} {rest : Step hw} (h : hw.silDebugEnable = true → holds = true) :
    asserting holds s rest = rest := by
  unfold asserting
  cases hd : hw.silDebugEnable with
  | false => rfl
  | true =>
    rw [h hd]
    rfl

theorem pciEntryStep_of {e : PciTypeEntryData} {a : Nat} (h : hw.silDebugEnable = true → e.mask ≠ 0) :
    pciEntryStep e a s = .next a { s with state := rmwPci hw e s.state } := asserting_of (by simpa using h)

theorem msrEntryStep_of {e : MsrTypeEntryData} {a : Nat} (h : hw.silDebugEnable = true → e.mask ≠ 0) :
    msrEntryStep e a s = .next a { s with state := rmwMsr hw e s.state } := asserting_of (by simpa using h)

theorem setSmnTableEntry_state (instanceId idx mask data : UInt32) (s : TableState hw) :
    (setSmnTableEntry instanceId idx (~~~mask) data s).state =
      rmwSmn hw instanceId idx (mask, data) s.state := by
  have hdies : (if s.systemDieNumber = 0xFF then hw.dfGetSystemInfo else s.systemDieNumber) = hw.dfGetSystemInfo := by
    have := s.asked
    grind
  unfold setSmnTableEntry rmwSmn
  by_cases hall : instanceId = smnOnAllDies
  · rw [if_pos hall, if_pos hall]
    dsimp only
    rw [hdies]
  · rw [if_neg hall, if_neg hall]

theorem smnMulti_returns (e : SmnMultiTypeEntryData) (n : Nat) (idx : UInt32) (s : TableState hw)
    (hle : ∀ i, i < n → idx.toNat + i * e.steps.toNat ≤ e.registerIndexEnd.toNat)
    (hgt : e.registerIndexEnd.toNat < idx.toNat + n * e.steps.toNat)
    (hwrap : idx.toNat + n * e.steps.toNat < 2 ^ 32) :
    ∃ s', Returns (smnMultiTurn e) (idx, s) s' ∧
      s'.state = ((range' idx.toNat n e.steps.toNat).map UInt32.ofNat).foldl
        (fun s index => rmwSmn hw e.instanceId index (e.mask, e.data) s) s.state := by
  induction n generalizing idx s with
  | zero =>
    have hout : ¬ idx ≤ e.registerIndexEnd := by
      rw [UInt32.le_iff_toNat_le]
      omega
    exact ⟨s, (returns_done_iff (by simp [smnMultiTurn, hout])).mpr rfl, rfl⟩
  | succ n ih =>
    have hin : idx ≤ e.registerIndexEnd := by
      rw [UInt32.le_iff_toNat_le]
      simpa using hle 0 (by omega)
    have hstep : (n + 1) * e.steps.toNat = n * e.steps.toNat + e.steps.toNat := succ_mul _ _
    have hindex : (idx + e.steps).toNat = idx.toNat + e.steps.toNat := by
      rw [UInt32.toNat_add, mod_eq_of_lt (by omega)]
    obtain ⟨s', hreturns, hstate⟩ := ih (idx + e.steps)
      (setSmnTableEntry e.instanceId idx (~~~e.mask) e.data s) (by
        intro i hi
        have := hle (i + 1) (by omega)
        rw [succ_mul] at this
        omega) (by omega) (by omega)
    refine ⟨s', (returns_next_iff (by simp [smnMultiTurn, hin])).mpr hreturns, ?_⟩
    rw [hstate, setSmnTableEntry_state, hindex, range'_succ, map_cons, foldl_cons, UInt32.ofNat_toNat]

end

/-! ## Tables that the interpreter takes -/

/-- The asserts of a handler hold. The mask is looked at only where the entry is performed, except for the entries of a
revision, whose mask is looked at first. -/
def Entry.Allowed (hw : Hardware σ) (criteria : EntryCriteria) : Entry → Prop
  | .pciRegister e => e.mask ≠ 0
  | .pciProfileFixup typeFeats e => profileFeatsAllowed typeFeats = true ∧
    (doesEntryTypeSpecificInfoMatch criteria.profileFeats typeFeats = true → e.mask ≠ 0)
  | .pciCpuRev _ e => e.mask ≠ 0
  | .msrRegister e => e.mask ≠ 0
  | .msrCpuRev _ e => e.mask ≠ 0
  | .msrCoreRev _ e => e.mask ≠ 0
  | .msrPlatformFeat typeFeats e => platformFeatsAllowed typeFeats = true ∧
    (doesEntryTypeSpecificInfoMatch criteria.platformFeats typeFeats = true → e.mask ≠ 0)
  | .msrCpuRevPlatformFeat cpuRevision typeFeats e => platformFeatsAllowed typeFeats = true ∧
    (criteria.socLogicalId.matches cpuRevision = true →
      doesEntryTypeSpecificInfoMatch criteria.platformFeats typeFeats = true → e.mask ≠ 0)
  | .smnRegisters e => hw.xUslIsBsp = true → e.mask ≠ 0
  | .smnMultiRegisters e => hw.xUslIsBsp = true → e.mask ≠ 0
  | _ => True

/-- The loop over the registers comes to its end: the step is not zero, and the index behind the last one does not wrap. -/
def SmnMultiTypeEntryData.RangeEnds (e : SmnMultiTypeEntryData) : Prop :=
  e.registerIndexStart ≤ e.registerIndexEnd → 0 < e.steps.toNat ∧
    e.registerIndexStart.toNat +
      ((e.registerIndexEnd.toNat - e.registerIndexStart.toNat) / e.steps.toNat + 1) * e.steps.toNat < 2 ^ 32

/-- The type of the entry has a handler, whose asserts hold and whose loop ends on this processor. -/
structure Entry.Supported (hw : Hardware σ) (criteria : EntryCriteria) (e : Entry) : Prop where
  handled : e.entryType < 10
  allowed : hw.silDebugEnable = true → e.Allowed hw criteria
  rangeEnds : hw.xUslIsBsp = true → ∀ d, e = .smnMultiRegisters d → d.RangeEnds

section
variable {hw : Hardware σ} {criteria : EntryCriteria} {m : Mem}

theorem smnMultiEntry_returns {e : SmnMultiTypeEntryData} (h : e.RangeEnds) (s : TableState hw) :
    ∃ s', Returns (smnMultiTurn e) (e.registerIndexStart, s) s' ∧
      s'.state = e.registers.foldl (fun s index => rmwSmn hw e.instanceId index (e.mask, e.data) s) s.state := by
  unfold SmnMultiTypeEntryData.registers
  split_ifs with hle
  · obtain ⟨hsteps, hwrap⟩ := h hle
    rw [UInt32.le_iff_toNat_le] at hle
    apply smnMulti_returns e _ _ s _ _ hwrap
    · intro i hi
      have hmul := mul_le_mul_right e.steps.toNat (le_of_lt_succ hi)
      have := div_mul_le_self (e.registerIndexEnd.toNat - e.registerIndexStart.toNat) e.steps.toNat
      omega
    · have := lt_div_mul_add (a := e.registerIndexEnd.toNat - e.registerIndexStart.toNat) hsteps
      rw [succ_mul]
      omega
  · exact ⟨s, (returns_done_iff (by simp [smnMultiTurn, hle])).mpr rfl, rfl⟩

section
variable {a : Nat} {s : TableState hw}

theorem setPciEntry_spec {e : PciTypeEntryData} (h : Holds m a e.bytes)
    (hmask : hw.silDebugEnable = true → e.mask ≠ 0) :
    setPciEntry m a s = .next (a + 12) { s with state := rmwPci hw e s.state } := by
  rw [setPciEntry, PciTypeEntryData.read_of_holds h, pciEntryStep_of hmask]

theorem setMsrEntry_spec {e : MsrTypeEntryData} (h : Holds m a e.bytes)
    (hmask : hw.silDebugEnable = true → e.mask ≠ 0) :
    setMsrEntry m a s = .next (a + 20) { s with state := rmwMsr hw e s.state } := by
  rw [setMsrEntry, read_of_holds h, msrEntryStep_of hmask]

variable {typeFeats : UInt32}

theorem setPciProfileFixupEntry_spec {e : PciTypeEntryData} (h : Holds m a (bsu32 typeFeats ++ e.bytes))
    (hallowed : hw.silDebugEnable = true → profileFeatsAllowed typeFeats = true ∧
      (doesEntryTypeSpecificInfoMatch criteria.profileFeats typeFeats = true → e.mask ≠ 0)) :
    setPciProfileFixupEntry criteria m a s = .next (a + 16) { s with
      state := if doesEntryTypeSpecificInfoMatch criteria.profileFeats typeFeats then rmwPci hw e s.state
        else s.state } := by
  rw [holds_append, length_bsu32] at h
  unfold setPciProfileFixupEntry
  simp only [ofNat_readLE_bsu32 h.1, PciTypeEntryData.read_of_holds h.2, asserting_of fun hd => (hallowed hd).1]
  split_ifs with hmatch
  · exact pciEntryStep_of fun hd => (hallowed hd).2 hmatch
  · rfl

variable {cpuRevision : SocLogicalId}

section
variable {e : MsrTypeEntryData}

theorem setPciCpuRevEntry_spec {e : PciTypeEntryData} (h : Holds m a (cpuRevision.bytes ++ e.bytes))
    (hmask : hw.silDebugEnable = true → e.mask ≠ 0) :
    setPciCpuRevEntry criteria m a s = .next (a + 18) { s with
      state := if criteria.socLogicalId.matches cpuRevision then rmwPci hw e s.state else s.state } := by
  rw [holds_append, SocLogicalId.length_bytes] at h
  unfold setPciCpuRevEntry
  simp only [read_of_holds h.1, PciTypeEntryData.read_of_holds h.2]
  rw [asserting_of (by simpa using hmask)]
  split_ifs <;> rfl

theorem setMsrCpuRevEntry_spec (h : Holds m a (cpuRevision.bytes ++ e.bytes))
    (hmask : hw.silDebugEnable = true → e.mask ≠ 0) :
    setMsrCpuRevEntry criteria m a s = .next (a + 26) { s with
      state := if criteria.socLogicalId.matches cpuRevision then rmwMsr hw e s.state else s.state } := by
  rw [holds_append, SocLogicalId.length_bytes] at h
  unfold setMsrCpuRevEntry
  simp only [read_of_holds h.1, read_of_holds h.2, msrEntryStep_of hmask]
  rw [asserting_of (by simpa using hmask)]
  split_ifs <;> rfl

theorem setMsrCoreRevEntry_spec {coreRevision : CoreLogicalId} (h : Holds m a (coreRevision.bytes ++ e.bytes))
    (hmask : hw.silDebugEnable = true → e.mask ≠ 0) :
    setMsrCoreRevEntry criteria m a s = .next (a + 26) { s with
      state := if criteria.coreLogicalId.matches coreRevision then rmwMsr hw e s.state else s.state } := by
  rw [holds_append, CoreLogicalId.length_bytes] at h
  unfold setMsrCoreRevEntry
  simp only [CoreLogicalId.read_of_holds h.1, read_of_holds h.2, msrEntryStep_of hmask]
  rw [asserting_of (by simpa using hmask)]
  split_ifs <;> rfl

theorem setMsrPlatformFeatEntry_spec (h : Holds m a (bsu32 typeFeats ++ e.bytes))
    (hallowed : hw.silDebugEnable = true → platformFeatsAllowed typeFeats = true ∧
      (doesEntryTypeSpecificInfoMatch criteria.platformFeats typeFeats = true → e.mask ≠ 0)) :
    setMsrPlatformFeatEntry criteria m a s = .next (a + 24) { s with
      state := if doesEntryTypeSpecificInfoMatch criteria.platformFeats typeFeats then rmwMsr hw e s.state
        else s.state } := by
  rw [holds_append, length_bsu32] at h
  unfold setMsrPlatformFeatEntry
  simp only [ofNat_readLE_bsu32 h.1, read_of_holds h.2, asserting_of fun hd => (hallowed hd).1]
  split_ifs with hmatch
  · exact msrEntryStep_of fun hd => (hallowed hd).2 hmatch
  · rfl

theorem setMsrCpuRevPlatformFeatEntry_spec (h : Holds m a (cpuRevision.bytes ++ (bsu32 typeFeats ++ e.bytes)))
    (hallowed : hw.silDebugEnable = true → platformFeatsAllowed typeFeats = true ∧
      (criteria.socLogicalId.matches cpuRevision = true →
        doesEntryTypeSpecificInfoMatch criteria.platformFeats typeFeats = true → e.mask ≠ 0)) :
    setMsrCpuRevPlatformFeatEntry criteria m a s = .next (a + 30) { s with
      state := if criteria.socLogicalId.matches cpuRevision ∧
          doesEntryTypeSpecificInfoMatch criteria.platformFeats typeFeats then rmwMsr hw e s.state
        else s.state } := by
  simp only [holds_append, SocLogicalId.length_bytes, length_bsu32, add_assoc, reduceAdd] at h
  obtain ⟨hrevision, hfeats, hdata⟩ := h
  unfold setMsrCpuRevPlatformFeatEntry
  simp only [SocLogicalId.read_of_holds hrevision, ofNat_readLE_bsu32 hfeats, MsrTypeEntryData.read_of_holds hdata,
    asserting_of fun hd => (hallowed hd).1, ite_and]
  split_ifs with hrev hmatch
  · exact msrEntryStep_of fun hd => (hallowed hd).2 hrev hmatch
  · rfl
  · rfl

theorem setSmnEntry_spec {e : SmnTypeEntryData} (h : Holds m a e.bytes)
    (hmask : hw.silDebugEnable = true → hw.xUslIsBsp = true → e.mask ≠ 0) :
    ∃ s', setSmnEntry m a s = .next (a + 16) s' ∧ s'.state =
      if hw.xUslIsBsp then rmwSmn hw e.instanceId e.registerIndex (e.mask, e.data) s.state else s.state := by
  unfold setSmnEntry
  simp only [SmnTypeEntryData.read_of_holds h]
  cases hbsp : hw.xUslIsBsp with
  | true =>
    rw [asserting_of fun hd => by simpa using hmask hd hbsp]
    exact ⟨_, rfl, setSmnTableEntry_state _ _ _ _ _⟩
  | false => exact ⟨_, rfl, rfl⟩

theorem setSmnMultiEntry_spec {e : SmnMultiTypeEntryData} (h : Holds m a e.bytes)
    (hmask : hw.silDebugEnable = true → hw.xUslIsBsp = true → e.mask ≠ 0)
    (hends : hw.xUslIsBsp = true → e.RangeEnds) :
    ∃ s', (∃ n, ∀ fuel, n ≤ fuel → setSmnMultiEntry fuel m a s = some (.next (a + 24) s')) ∧ s'.state =
      if hw.xUslIsBsp then e.registers.foldl (fun s index => rmwSmn hw e.instanceId index (e.mask, e.data) s) s.state
      else s.state := by
  unfold setSmnMultiEntry
  simp only [SmnMultiTypeEntryData.read_of_holds h]
  cases hbsp : hw.xUslIsBsp with
  | false => exact ⟨s, ⟨0, fun _ _ => rfl⟩, rfl⟩
  | true =>
    have hassert : (hw.silDebugEnable && e.mask == 0) = false := by simp_all
    obtain ⟨s', ⟨n, hrun⟩, hstate⟩ := smnMultiEntry_returns (hends hbsp) s
    refine ⟨s', ⟨n, fun fuel hfuel => ?_⟩, hstate⟩
    obtain ⟨more, rfl⟩ := Nat.exists_eq_add_of_le hfuel
    rw [if_pos rfl, hassert, run_some_mono hrun]
    rfl

end

end

/-- The handler of the entry at `a` does what the entry declares and leaves the pointer behind its data. -/
def Entry.Performed (smuIndexRMW : SmuIndexEntryData → σ → σ) (criteria : EntryCriteria) (m : Mem) (e : Entry) (a : Nat)
    (s : TableState hw) : Prop :=
  ∃ s', s'.state = e.declared hw smuIndexRMW criteria s.state ∧ ∃ n, ∀ fuel, n ≤ fuel →
    ∃ handler, doTableEntry criteria m fuel e.entryType = some handler ∧
      handler a s = some (.next (a + e.data.length) s')

variable {a : Nat} {e : Entry} {s s' : TableState hw}

theorem Entry.Performed.of_step {smuIndexRMW : SmuIndexEntryData → σ → σ} {handler : Nat → TableState hw → Step hw}
    {size : Nat} (hentry : ∀ fuel, doTableEntry criteria m fuel e.entryType = some fun a s => some (handler a s))
    (hsize : e.data.length = size) (hstep : handler a s = .next (a + size) s')
    (hstate : s'.state = e.declared hw smuIndexRMW criteria s.state) : e.Performed smuIndexRMW criteria m a s := by
  subst hsize
  exact ⟨s', hstate, 0, fun fuel _ => ⟨_, hentry fuel, congrArg some hstep⟩⟩

theorem Entry.Supported.performed (h : e.Supported hw criteria) (hdata : Holds m a e.data)
    (smuIndexRMW : SmuIndexEntryData → σ → σ) (s : TableState hw) :
    e.Performed smuIndexRMW criteria m a s := by
  have hallowed := h.allowed
  have hhandled := h.handled
  cases e with
  | pciRegister e => exact .of_step (fun _ => rfl) e.length_bytes (setPciEntry_spec hdata hallowed) rfl
  | pciProfileFixup typeFeats e =>
    exact .of_step (fun _ => rfl) (by simp [data]) (setPciProfileFixupEntry_spec hdata hallowed) rfl
  | pciCpuRev cpuRevision e =>
    exact .of_step (fun _ => rfl) (by simp [data]) (setPciCpuRevEntry_spec hdata hallowed) rfl
  | msrRegister e => exact .of_step (fun _ => rfl) e.length_bytes (setMsrEntry_spec hdata hallowed) rfl
  | msrCpuRev cpuRevision e =>
    exact .of_step (fun _ => rfl) (by simp [data]) (setMsrCpuRevEntry_spec hdata hallowed) rfl
  | msrCoreRev coreRevision e =>
    exact .of_step (fun _ => rfl) (by simp [data]) (setMsrCoreRevEntry_spec hdata hallowed) rfl
  | msrPlatformFeat typeFeats e =>
    exact .of_step (fun _ => rfl) (by simp [data]) (setMsrPlatformFeatEntry_spec hdata hallowed) rfl
  | msrCpuRevPlatformFeat cpuRevision typeFeats e =>
    exact .of_step (fun _ => rfl) (by simp [data]) (setMsrCpuRevPlatformFeatEntry_spec hdata hallowed) rfl
  | smnRegisters e =>
    obtain ⟨s', hstep, hstate⟩ := setSmnEntry_spec hdata hallowed (s := s)
    exact .of_step (fun _ => rfl) e.length_bytes hstep hstate
  | smnMultiRegisters e =>
    obtain ⟨s', ⟨n, hstep⟩, hstate⟩ := setSmnMultiEntry_spec hdata hallowed (fun hbsp => h.rangeEnds hbsp e rfl)
      (s := s)
    refine ⟨s', hstate, n, fun fuel hfuel => ⟨_, rfl, ?_⟩⟩
    rw [data, e.length_bytes]
    exact hstep fuel hfuel
  | smuIndexRegister e => exact absurd hhandled (by simp [entryType])
  | smuIndexProfileFixup typeFeats e => exact absurd hhandled (by simp [entryType])
  | copyBitField destination source => exact absurd hhandled (by simp [entryType])

/-! ## The whole table -/

theorem tableTurn_of_entry {a fuel : Nat} {handler : Nat → TableState hw → Option (Step hw)} {entry : Nat}
    (htype : Holds m a (leBytes e.entryType 2)) (hentry : doTableEntry criteria m fuel e.entryType = some handler)
    (hstep : handler (a + 2) s = some (.next entry s')) : tableTurn criteria m fuel (a, s) = .next (entry, s') := by
  have hlt := e.entryType_lt
  have hne : e.entryType ≠ tableTerminator := (hlt.trans (by decide)).ne
  unfold tableTurn
  simp only [readLE_entryType htype, if_neg hne, if_pos hlt, hentry, hstep]

variable {last : UInt16}

theorem tableTurn_of_last (h : Holds m a (bsu16 last))
    (hlast : last.toNat = tableTerminator ∨ tableEntryTypeMax ≤ last.toNat ∧ hw.silDebugEnable = true) :
    ∃ ending, (ending = .returned ∨ last.toNat ≠ tableTerminator ∧ ending = .assertion) ∧ ∀ fuel (s : TableState hw),
      tableTurn criteria m fuel (a, s) = .done (some (ending, s)) := by
  have htype : readLE m a 2 = last.toNat := by
    have hlt : last.toNat < 256 ^ 2 := last.toNat_lt
    rw [readLE_of_holds h, mod_eq_of_lt hlt]
  unfold tableTurn
  by_cases hend : last.toNat = tableTerminator
  · exact ⟨.returned, .inl rfl, fun fuel s => by simp only [htype, hend, if_true]⟩
  · simp_all

theorem tableTurn_of_null {a fuel : Nat} {s : TableState hw} (htype : Holds m a (leBytes e.entryType 2))
    (h : 11 ≤ e.entryType) : tableTurn criteria m fuel (a, s) = .done (some (.nullCall, s)) := by
  have hlt := e.entryType_lt
  have hne : e.entryType ≠ tableTerminator := (hlt.trans (by decide)).ne
  have hnull : (doTableEntry criteria m fuel e.entryType : Option (Nat → TableState hw → Option (Step hw))) = none := by
    cases e with
    | smuIndexProfileFixup typeFeats e => rfl
    | copyBitField destination source => rfl
    | _ => exact absurd h (by simp [Entry.entryType])
  unfold tableTurn
  simp only [readLE_entryType htype, if_neg hne, if_pos hlt, hnull]

theorem setRegistersFromTable_of_unknown {s : TableState hw} (hdebug : hw.silDebugEnable = false)
    (hge : tableEntryTypeMax ≤ readLE m a 2) (hne : readLE m a 2 ≠ tableTerminator) (fuel : Nat) :
    setRegistersFromTable criteria m fuel a s = none := by
  have hstay (inner : Nat) : tableTurn criteria m inner (a, s) = .next (a, s) := by
    unfold tableTurn
    simp only [if_neg hne, if_neg (not_lt.mpr hge), hdebug, Bool.false_eq_true, if_false]
  have hrun (inner fuel : Nat) : run (tableTurn criteria m inner) fuel (a, s) = none := by
    induction fuel with
    | zero => rfl
    | succ fuel ih => rw [run_succ_next (hstay inner), ih]
  rw [setRegistersFromTable, hrun]
  rfl

theorem run_table (smuIndexRMW : SmuIndexEntryData → σ → σ) (criteria : EntryCriteria)
    (hlast : last.toNat = tableTerminator ∨ tableEntryTypeMax ≤ last.toNat ∧ hw.silDebugEnable = true)
    {entries : List Entry} (hentries : ∀ e ∈ entries, e.Supported hw criteria)
    (htable : Holds m a (table entries last))
    (s : TableState hw) :
    ∃ ending s', (ending = .returned ∨ last.toNat ≠ tableTerminator ∧ ending = .assertion) ∧
      s'.state = entries.foldl (fun s e => e.declared hw smuIndexRMW criteria s) s.state ∧
      ∃ n, ∀ inner fuel, n ≤ inner → n ≤ fuel →
        run (tableTurn criteria m inner) fuel (a, s) = some (some (ending, s')) := by
  induction entries generalizing a s with
  | nil =>
    obtain ⟨ending, hending, hturn⟩ := tableTurn_of_last htable hlast
    refine ⟨ending, s, hending, rfl, 1, fun inner fuel _ hfuel => ?_⟩
    obtain ⟨k, rfl⟩ := Nat.exists_eq_add_of_le' hfuel
    exact run_succ_done (hturn inner s)
  | cons e entries ih =>
    have hsplit : table (e :: entries) last = leBytes e.entryType 2 ++ (e.data ++ table entries last) := by
      simp [table]
    rw [hsplit, holds_append, holds_append, length_leBytes] at htable
    obtain ⟨htype, hdata, hrest⟩ := htable
    obtain ⟨s1, hstate1, n1, hhandler⟩ := (hentries e mem_cons_self).performed hdata smuIndexRMW s
    obtain ⟨ending, s', hending, hstate', n2, hrun⟩ :=
      ih (fun x hx => hentries x (mem_cons_of_mem _ hx)) hrest s1
    refine ⟨ending, s', hending, by rw [hstate', hstate1, foldl_cons], max n1 (n2 + 1), ?_⟩
    intro inner fuel hinner hfuel
    obtain ⟨k, rfl⟩ : ∃ k, fuel = k + 1 := Nat.exists_eq_add_of_le' (by omega)
    obtain ⟨handler, hentry, hstep⟩ := hhandler inner (by omega)
    rw [run_succ_next (tableTurn_of_entry htype hentry hstep)]
    exact hrun inner k (by omega) (by omega)

end

/-- A table whose entries are of the first ten types is performed entry by entry. -/
theorem setRegistersFromTable_correct (hw : Hardware σ) (smuIndexRMW : SmuIndexEntryData → σ → σ)
    (criteria : EntryCriteria) (m : Mem) (registerEntry : Nat) (entries : List Entry) (last : UInt16)
    (htable : Holds m registerEntry (table entries last)) (hentries : ∀ e ∈ entries, e.Supported hw criteria)
    (hlast : last.toNat = tableTerminator ∨ tableEntryTypeMax ≤ last.toNat ∧ hw.silDebugEnable = true)
    (s : TableState hw) : Correct hw smuIndexRMW criteria m registerEntry entries last s := by
  obtain ⟨ending, s', hending, hstate, n, hrun⟩ := run_table smuIndexRMW criteria hlast hentries htable s
  refine ⟨ending, s', ⟨n, fun fuel hfuel => ?_⟩, hstate, hending⟩
  rw [setRegistersFromTable, hrun fuel fuel hfuel hfuel]
  rfl

def oneMsr (silDebugEnable : Bool) : Hardware UInt64 where
  xUslRdMsr := fun _ s => (s, s)
  xUslWrMsr := fun _ value _ => value
  xUSLPciRead32 := fun _ s => (0, s)
  xUSLPciWrite32 := fun _ _ s => s
  smuRegisterRMW := fun _ _ _ _ s => s
  dfGetSystemInfo := 1
  xUslIsBsp := true
  silDebugEnable := silDebugEnable

def TableState.start (silDebugEnable : Bool) (value : UInt64) : TableState (oneMsr silDebugEnable) :=
  ⟨value, 0xFF, .inl rfl⟩

def noCriteria : EntryCriteria := ⟨⟨0, 0⟩, ⟨0, 0⟩, 0, 0⟩

def setNibble : Entry := .msrRegister ⟨0xC0010015, 0x10, 0xF0⟩

theorem supported_setNibble : setNibble.Supported (oneMsr true) noCriteria where
  handled := by decide
  allowed := fun _ => by simp [setNibble, Entry.Allowed]
  rangeEnds := by
    intro _ d hd
    cases hd

theorem setRegistersFromTable_correct_setNibble :
    Correct (oneMsr true) (fun _ s => s) noCriteria (ofBytes (table [setNibble] 0xFFFF)) 0 [setNibble] 0xFFFF
      (.start true 0xFFFF) :=
  setRegistersFromTable_correct (oneMsr true) (fun _ s => s) noCriteria _ 0 [setNibble] 0xFFFF (holds_ofBytes _)
    (by simpa using supported_setNibble) (.inl (by decide)) (.start true 0xFFFF)

def copyBit : Entry := .copyBitField ⟨3, 0xC0010015, 1, 1⟩ ⟨3, 0xC0010016, 0, 0⟩

/-- The entry that copies a bit field ends in a call of NULL. In a build without asserts, an unknown type keeps the
interpreter for ever. -/
theorem setRegistersFromTable_incorrect :
    (∀ fuel, 0 < fuel → setRegistersFromTable noCriteria (ofBytes (table [copyBit] 0xFFFF)) fuel 0 (.start true 1) =
      some (.nullCall, .start true 1)) ∧
    (∀ smuIndexRMW, ¬ Correct (oneMsr true) smuIndexRMW noCriteria (ofBytes (table [copyBit] 0xFFFF)) 0 [copyBit] 0xFFFF
      (.start true 1)) ∧
    ∀ fuel, setRegistersFromTable noCriteria (ofBytes (table [] 13)) fuel 0 (.start false 1) = none := by
  have hnull : ∀ fuel, 0 < fuel → setRegistersFromTable noCriteria (ofBytes (table [copyBit] 0xFFFF)) fuel 0
      (.start true 1) = some (.nullCall, .start true 1) := by
    intro fuel hfuel
    obtain ⟨k, rfl⟩ := Nat.exists_eq_add_of_le' hfuel
    have htype : Holds (ofBytes (table [copyBit] 0xFFFF)) 0 (leBytes copyBit.entryType 2) :=
      (holds_append.mp (holds_ofBytes (leBytes copyBit.entryType 2 ++ (copyBit.data ++ bsu16 0xFFFF)))).1
    rw [setRegistersFromTable, run_succ_done (tableTurn_of_null htype (by decide))]
    rfl
  refine ⟨hnull, ?_, setRegistersFromTable_of_unknown rfl (by decide) (by decide)⟩
  rintro smuIndexRMW ⟨ending, s', ⟨n, hrun⟩, -, hending⟩
  have hboth := (hrun (n + 1) (le_succ n)).symm.trans (hnull (n + 1) (succ_pos n))
  cases hboth
  rcases hending with h | ⟨-, h⟩ <;> cases h

end OpenSil.AmdTable
