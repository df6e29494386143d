import OpenSil.Lib.Bytes
import OpenSil.Lib.Loop

/-! # The register table interpreter -/

open OpenSil.Bytes OpenSil.Loop

namespace OpenSil.AmdTable

structure SocLogicalId where
  family : UInt32
  revision : UInt16

structure CoreLogicalId where
  coreFamily : UInt32
  coreRevision : UInt16

structure EntryCriteria where
  socLogicalId : SocLogicalId
  coreLogicalId : CoreLogicalId
  profileFeats : UInt32
  platformFeats : UInt32

structure MsrTypeEntryData where
  address : UInt32
  data : UInt64
  mask : UInt64

structure PciTypeEntryData where
  address : UInt32
  data : UInt32
  mask : UInt32

structure SmnTypeEntryData where
  instanceId : UInt32
  registerIndex : UInt32
  data : UInt32
  mask : UInt32

structure SmnMultiTypeEntryData where
  instanceId : UInt32
  registerIndexStart : UInt32
  registerIndexEnd : UInt32
  steps : UInt32
  data : UInt32
  mask : UInt32

structure SmuIndexEntryData where
  index : UInt32
  data : UInt32
  mask : UInt32

structure CopyBitFieldDescription where
  regType : UInt16
  address : UInt32
  msb : UInt8
  lsb : UInt8

/-- What AmdTable.c calls, on the states `σ` of the hardware, and whether its asserts are compiled in. -/
structure Hardware (σ : Type) where
  xUslRdMsr : UInt32 → σ → UInt64 × σ
  xUslWrMsr : UInt32 → UInt64 → σ → σ
  xUSLPciRead32 : UInt32 → σ → UInt32 × σ
  xUSLPciWrite32 : UInt32 → UInt32 → σ → σ
  smuRegisterRMW : UInt32 → UInt32 → UInt32 → UInt32 → σ → σ
  /-- The number of dies, from `DfGetSystemInfo`. -/
  dfGetSystemInfo : UInt32
  xUslIsBsp : Bool
  silDebugEnable : Bool

variable {σ : Type}

/-- The hardware and the static `SystemDieNumber`, which is 0xFF until it has been asked for. -/
structure TableState (hw : Hardware σ) where
  state : σ
  systemDieNumber : UInt32
  asked : systemDieNumber = 0xFF ∨ systemDieNumber = hw.dfGetSystemInfo

inductive Ending where
  | returned
  | assertion
  /-- A call of a handler that is NULL. -/
  | nullCall
  /-- Behaviour that C leaves undefined. -/
  | undefined
  deriving DecidableEq

inductive Step (hw : Hardware σ) where
  | next (entry : Nat) (s : TableState hw)
  | stop (why : Ending) (s : TableState hw)

section
variable (hw : Hardware σ)

def rmwMsr (e : MsrTypeEntryData) (s : σ) : σ :=
  let r := hw.xUslRdMsr e.address s
  hw.xUslWrMsr e.address ((r.1 &&& ~~~e.mask) ||| e.data) r.2

def rmwPci (e : PciTypeEntryData) (s : σ) : σ :=
  let r := hw.xUSLPciRead32 e.address s
  hw.xUSLPciWrite32 e.address ((r.1 &&& ~~~e.mask) ||| e.data) r.2

end

def smnOnAllDies : UInt32 := 0xFF

section
variable {hw : Hardware σ}

def asserting (holds : Bool) (s : TableState hw) (rest : Step hw) : Step hw :=
  if hw.silDebugEnable && !holds then .stop .assertion s else rest

def setSmnTableEntry (instanceId registerIndex registerANDValue registerORValue : UInt32) (s : TableState hw) :
    TableState hw :=
  if instanceId = smnOnAllDies then
    let systemDieNumber := if s.systemDieNumber = 0xFF then hw.dfGetSystemInfo else s.systemDieNumber
    { state := (List.range systemDieNumber.toNat).foldl
        (fun σ dieLoop => hw.smuRegisterRMW (.ofNat dieLoop) registerIndex registerANDValue registerORValue σ) s.state
      systemDieNumber := systemDieNumber
      asked := by have h := s.asked; grind }
  else { s with state := hw.smuRegisterRMW instanceId registerIndex registerANDValue registerORValue s.state }

/-! ## The handlers -/

variable (criteria : EntryCriteria) (m : Mem) (a : Nat) (s : TableState hw)

def MsrTypeEntryData.read : MsrTypeEntryData :=
  ⟨.ofNat (readLE m a 4), .ofNat (readLE m (a + 4) 8), .ofNat (readLE m (a + 12) 8)⟩

def PciTypeEntryData.read : PciTypeEntryData :=
  ⟨.ofNat (readLE m a 4), .ofNat (readLE m (a + 4) 4), .ofNat (readLE m (a + 8) 4)⟩

def SmnTypeEntryData.read : SmnTypeEntryData :=
  ⟨.ofNat (readLE m a 4), .ofNat (readLE m (a + 4) 4), .ofNat (readLE m (a + 8) 4), .ofNat (readLE m (a + 12) 4)⟩

def SmnMultiTypeEntryData.read : SmnMultiTypeEntryData :=
  ⟨.ofNat (readLE m a 4), .ofNat (readLE m (a + 4) 4), .ofNat (readLE m (a + 8) 4), .ofNat (readLE m (a + 12) 4),
    .ofNat (readLE m (a + 16) 4), .ofNat (readLE m (a + 20) 4)⟩

def SocLogicalId.read : SocLogicalId := ⟨.ofNat (readLE m a 4), .ofNat (readLE m (a + 4) 2)⟩

def CoreLogicalId.read : CoreLogicalId := ⟨.ofNat (readLE m a 4), .ofNat (readLE m (a + 4) 2)⟩

def CopyBitFieldDescription.read : CopyBitFieldDescription :=
  ⟨.ofNat (readLE m a 2), .ofNat (readLE m (a + 2) 4), m (a + 6), m (a + 7)⟩

def doesEntryTypeSpecificInfoMatch (platformTypeSpecificFeatures entryTypeFeatures : UInt32) : Bool :=
  if entryTypeFeatures &&& 0x80000000 = 0 then entryTypeFeatures &&& platformTypeSpecificFeatures ≠ 0
  else entryTypeFeatures &&& ~~~0x80000000 = entryTypeFeatures &&& platformTypeSpecificFeatures

def SocLogicalId.matches (id cpuRevision : SocLogicalId) : Bool :=
  id.family &&& cpuRevision.family ≠ 0 ∧ id.revision &&& cpuRevision.revision ≠ 0

def CoreLogicalId.matches (id coreRevision : CoreLogicalId) : Bool :=
  id.coreFamily &&& coreRevision.coreFamily ≠ 0 ∧ id.coreRevision &&& coreRevision.coreRevision ≠ 0

def profileFeatsAllowed (typeFeats : UInt32) : Bool := typeFeats &&& ~~~0x80000000 = 0

def platformFeatsAllowed (typeFeats : UInt32) : Bool := typeFeats &&& ~~~0x80000170 = 0

def pciEntryStep (e : PciTypeEntryData) (entry : Nat) (s : TableState hw) : Step hw :=
  asserting (e.mask ≠ 0) s (.next entry { s with state := rmwPci hw e s.state })

def msrEntryStep (e : MsrTypeEntryData) (entry : Nat) (s : TableState hw) : Step hw :=
  asserting (e.mask ≠ 0) s (.next entry { s with state := rmwMsr hw e s.state })

def setPciEntry : Step hw := pciEntryStep (.read m a) (a + 12) s

def setPciProfileFixupEntry : Step hw :=
  let typeFeats := UInt32.ofNat (readLE m a 4)
  asserting (profileFeatsAllowed typeFeats) s
    (if doesEntryTypeSpecificInfoMatch criteria.profileFeats typeFeats then pciEntryStep (.read m (a + 4)) (a + 16) s
    else .next (a + 16) s)

def setPciCpuRevEntry : Step hw :=
  let e := PciTypeEntryData.read m (a + 6)
  asserting (e.mask ≠ 0) s
    (if criteria.socLogicalId.matches (.read m a) then .next (a + 18) { s with state := rmwPci hw e s.state }
    else .next (a + 18) s)

def setMsrEntry : Step hw := msrEntryStep (.read m a) (a + 20) s

def setMsrCpuRevEntry : Step hw :=
  let e := MsrTypeEntryData.read m (a + 6)
  asserting (e.mask ≠ 0) s
    (if criteria.socLogicalId.matches (.read m a) then msrEntryStep e (a + 26) s else .next (a + 26) s)

def setMsrCoreRevEntry : Step hw :=
  let e := MsrTypeEntryData.read m (a + 6)
  asserting (e.mask ≠ 0) s
    (if criteria.coreLogicalId.matches (.read m a) then msrEntryStep e (a + 26) s else .next (a + 26) s)

def setMsrPlatformFeatEntry : Step hw :=
  let typeFeats := UInt32.ofNat (readLE m a 4)
  asserting (platformFeatsAllowed typeFeats) s
    (if doesEntryTypeSpecificInfoMatch criteria.platformFeats typeFeats then msrEntryStep (.read m (a + 4)) (a + 24) s
    else .next (a + 24) s)

def setMsrCpuRevPlatformFeatEntry : Step hw :=
  let typeFeats := UInt32.ofNat (readLE m (a + 6) 4)
  asserting (platformFeatsAllowed typeFeats) s
    (if criteria.socLogicalId.matches (.read m a) then
      if doesEntryTypeSpecificInfoMatch criteria.platformFeats typeFeats then
        msrEntryStep (.read m (a + 10)) (a + 30) s
      else .next (a + 30) s
    else .next (a + 30) s)

def setSmnEntry : Step hw :=
  if hw.xUslIsBsp then
    let e := SmnTypeEntryData.read m a
    asserting (e.mask ≠ 0) s (.next (a + 16) (setSmnTableEntry e.instanceId e.registerIndex (~~~e.mask) e.data s))
  else .next (a + 16) s

def smnMultiTurn (e : SmnMultiTypeEntryData) (r : UInt32 × TableState hw) :
    Turn (UInt32 × TableState hw) (TableState hw) :=
  if r.1 ≤ e.registerIndexEnd then .next (r.1 + e.steps, setSmnTableEntry e.instanceId r.1 (~~~e.mask) e.data r.2)
  else .done r.2

/-- `SetSmnMultiEntry`; `none` if its loop has not come to its end in `fuel` turns. -/
def setSmnMultiEntry (fuel : Nat) (m : Mem) (a : Nat) (s : TableState hw) : Option (Step hw) :=
  if hw.xUslIsBsp then
    let e := SmnMultiTypeEntryData.read m a
    if hw.silDebugEnable && e.mask == 0 then some (.stop .assertion s)
    else (run (smnMultiTurn e) fuel (e.registerIndexStart, s)).map fun s => .next (a + 24) s
  else some (.next (a + 24) s)

def CopyBitFieldDescription.intMask (d : CopyBitFieldDescription) : Option UInt64 :=
  let width := max d.msb.toNat d.lsb.toNat - min d.msb.toNat d.lsb.toNat + 1
  if width < 31 then some (.ofNat (2 ^ width - 1)) else none

def CopyBitFieldDescription.shift (d : CopyBitFieldDescription) : Option UInt64 :=
  let low := min d.msb.toNat d.lsb.toNat
  if low < 64 then some (.ofNat low) else none

def writeBitField (destination : CopyBitFieldDescription) (destData destMask : UInt64) (a : Nat) (s : TableState hw) :
    Step hw :=
  if destination.regType = 3 then msrEntryStep ⟨destination.address, destData, destMask⟩ (a + 16) s
  else if destination.regType = 0 then
    pciEntryStep ⟨destination.address, destData.toUInt32, destMask.toUInt32⟩ (a + 16) s
  else if destination.regType = 10 then
    -- The handler is CopyBitFieldEntry again, on 12 bytes that are set and 4 that are not. The type of its source is in
    -- the mask; the address of the source is not set.
    if destMask.toUInt16 = 3 ∨ destMask.toUInt16 = 0 then .stop .undefined s
    else asserting false s (.next (a + 16) s)
  else asserting false s (.next a s)

def copyBitFieldEntry : Step hw :=
  let destination := CopyBitFieldDescription.read m a
  let source := CopyBitFieldDescription.read m (a + 8)
  let copy := fun (r : UInt64 × σ) =>
    let s : TableState hw := { s with state := r.2 }
    asserting (source.lsb ≤ source.msb) s <|
      match source.intMask, source.shift with
      | some sourceMask, some sourceLow =>
        asserting (destination.lsb ≤ destination.msb) s <|
          match destination.intMask, destination.shift with
          | some destMask, some destLow =>
            if destMask <<< destLow < sourceMask then asserting false s (.next a s)
            else writeBitField destination (((r.1 >>> sourceLow) &&& sourceMask) <<< destLow) (destMask <<< destLow) a s
          | _, _ => .stop .undefined s
      | _, _ => .stop .undefined s
  if source.regType = 3 then copy (hw.xUslRdMsr source.address s.state)
  else if source.regType = 0 then
    let r := hw.xUSLPciRead32 source.address s.state
    copy (r.1.toUInt64, r.2)
  else asserting false s (.next a s)

/-! ## The interpreter -/

def tableTerminator : Nat := 0xFFFF

def tableEntryTypeMax : Nat := 13

def doTableEntry (fuel : Nat) : Nat → Option (Nat → TableState hw → Option (Step hw))
  | 0 => some fun a s => some (setPciEntry m a s)
  | 1 => some fun a s => some (setPciProfileFixupEntry criteria m a s)
  | 2 => some fun a s => some (setPciCpuRevEntry criteria m a s)
  | 3 => some fun a s => some (setMsrEntry m a s)
  | 4 => some fun a s => some (setMsrCpuRevEntry criteria m a s)
  | 5 => some fun a s => some (setMsrCoreRevEntry criteria m a s)
  | 6 => some fun a s => some (setMsrPlatformFeatEntry criteria m a s)
  | 7 => some fun a s => some (setMsrCpuRevPlatformFeatEntry criteria m a s)
  | 8 => some fun a s => some (setSmnEntry m a s)
  | 9 => some fun a s => setSmnMultiEntry fuel m a s
  | 10 => some fun a s => some (copyBitFieldEntry m a s)
  | _ => none

/-- One turn of `SetRegistersFromTable`. `fuel` is for the loops in handlers, and `none` says that it was not enough. -/
def tableTurn (fuel : Nat) (r : Nat × TableState hw) : Turn (Nat × TableState hw) (Option (Ending × TableState hw)) :=
  let entryType := readLE m r.1 2
  if entryType = tableTerminator then .done (some (.returned, r.2))
  else if entryType < tableEntryTypeMax then
    match doTableEntry criteria m fuel entryType with
    | none => .done (some (.nullCall, r.2))
    | some handler =>
      match handler (r.1 + 2) r.2 with
      | none => .done none
      | some (.next entry s) => .next (entry, s)
      | some (.stop why s) => .done (some (why, s))
  else if hw.silDebugEnable then .done (some (.assertion, r.2))
  else .next r

/-- `SetRegistersFromTable`; `none` if `fuel` turns are not enough. -/
def setRegistersFromTable (fuel registerEntry : Nat) (s : TableState hw) : Option (Ending × TableState hw) :=
  (run (tableTurn criteria m fuel) fuel (registerEntry, s)).join

end

end OpenSil.AmdTable
