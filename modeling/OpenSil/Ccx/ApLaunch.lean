import OpenSil.Lib.Bytes
import OpenSil.Lib.Memcpy
import OpenSil.Msr

/-! # The start-up region of the APs

`SetupApStartupRegion` puts the start-up code, a GDT and the MTRR settings around the start-up vector.
-/

open OpenSil.Bytes OpenSil.Memcpy List BitVec

namespace OpenSil.ApLaunch

def apStartupCodeSize : Nat := 0x80
def bspMsrSize : Nat := 0x170
def bspGdtSize : Nat := 0x50
def apTempBufferSize : Nat := bspGdtSize + bspMsrSize + apStartupCodeSize + 0x10

def apStartupCodeOffset : Nat := bspGdtSize + bspMsrSize + apStartupCodeSize
def bspMsrOffset : Nat := bspGdtSize + bspMsrSize
def bspGdtOffset : Nat := bspGdtSize

def cpuListTerminal : BitVec 32 := 0xFFFFFFFF

/-! ## The MTRR settings -/

structure MtrrSetting where
  msrAddr : BitVec 32
  msrData : BitVec 64

def MtrrSetting.bytes (e : MtrrSetting) : List UInt8 := leBytes e.msrAddr.toNat 4 ++ leBytes e.msrData.toNat 8

structure MtrrSyncList where
  entries : List MtrrSetting
  terminalData : BitVec 64
  listed : ∀ e ∈ entries, e.msrAddr ≠ cpuListTerminal
  fits : 12 * (entries.length + 1) ≤ bspMsrSize

namespace MtrrSyncList
variable (list : MtrrSyncList)

def bytes : List UInt8 := list.entries.flatMap MtrrSetting.bytes ++ MtrrSetting.bytes ⟨cpuListTerminal, list.terminalData⟩

def sizeOfApMtrr : Nat := list.bytes.length

def setData (f : MtrrSetting → BitVec 64) : MtrrSyncList where
  entries := list.entries.map fun e => { e with msrData := f e }
  terminalData := list.terminalData
  listed := by
    intro e he
    obtain ⟨e', he', rfl⟩ := List.mem_map.1 he
    exact list.listed e' he'
  fits := by simpa using list.fits

end MtrrSyncList

structure CcxInputBlock where
  amdFixedMtrr250 : BitVec 64
  amdFixedMtrr258 : BitVec 64
  amdFixedMtrr259 : BitVec 64
  amdFixedMtrr268 : BitVec 64
  amdFixedMtrr269 : BitVec 64
  amdFixedMtrr26A : BitVec 64
  amdFixedMtrr26B : BitVec 64
  amdFixedMtrr26C : BitVec 64
  amdFixedMtrr26D : BitVec 64
  amdFixedMtrr26E : BitVec 64
  amdFixedMtrr26F : BitVec 64

def CcxInputBlock.fixedMtrr (input : CcxInputBlock) (msrAddr : BitVec 32) : BitVec 64 :=
  match msrAddr.toNat with
  | 0x250 => input.amdFixedMtrr250
  | 0x258 => input.amdFixedMtrr258
  | 0x259 => input.amdFixedMtrr259
  | 0x268 => input.amdFixedMtrr268
  | 0x269 => input.amdFixedMtrr269
  | 0x26A => input.amdFixedMtrr26A
  | 0x26B => input.amdFixedMtrr26B
  | 0x26C => input.amdFixedMtrr26C
  | 0x26D => input.amdFixedMtrr26D
  | 0x26E => input.amdFixedMtrr26E
  | 0x26F => input.amdFixedMtrr26F
  | _ => 0xFFFFFFFFFFFFFFFF

def updateApMtrrSettings (list : MtrrSyncList) (input : CcxInputBlock) : MtrrSyncList :=
  list.setData fun e =>
    if input.fixedMtrr e.msrAddr ≠ 0xFFFFFFFFFFFFFFFF then input.fixedMtrr e.msrAddr else e.msrData

def loadSyncList (list : MtrrSyncList) (msrs : Msrs) (input : CcxInputBlock) : MtrrSyncList :=
  updateApMtrrSettings (list.setData fun e => xUslMsrOr msrs Msr.sysCfg 0x80000 e.msrAddr) input

/-! ## State -/

structure GdtDescriptor where
  limit : BitVec 16
  base : BitVec 64

def GdtDescriptor.bytes (d : GdtDescriptor) : List UInt8 := leBytes d.limit.toNat 2 ++ leBytes d.base.toNat 8

structure GlobalData where
  bspMsrLocation : BitVec 32
  allowToLaunchNextThreadLocation : BitVec 32
  apStackBasePtr : BitVec 64
  apGdtDescriptor : GdtDescriptor
  bspPatchLevel : BitVec 64

structure LaunchState (w : Nat) where
  ram : Ram w
  apStartupVector : BitVec 64
  memoryContentCopy : List UInt8
  apLaunchGlobalData : GlobalData
  apMtrrSyncList : MtrrSyncList
  apGdt : List UInt8
  msrs : Msrs

structure HostFirmware where
  entryDest : BitVec 64
  entrySize : BitVec 32

def HostFirmware.segment (fw : HostFirmware) : BitVec 32 := (fw.entryDest.setWidth 32 + fw.entrySize - 0x10000) >>> 16

structure Addresses (w : Nat) where
  apAsmCode : BitVec w
  apStack : BitVec w
  apGdt : BitVec w
  apLaunchGlobalData : BitVec w
  apMtrrSyncList : BitVec w

/-! ## The parts of the region -/

/-- `memcpy` into an array of bytes. -/
def patch (l : List UInt8) (i : Nat) (bytes : List UInt8) : List UInt8 := l.take i ++ bytes ++ l.drop (i + bytes.length)

def gdtEntries : List Nat :=
  [0x0000000000000000, 0x00CF92000000FFFF, 0x00CF9A000000FFFF, 0x00CF92000000FFFF, 0x00CF9A000000FFFF,
   0x0000000000000000, 0x00CF93000000FFFF, 0x00AF9B000000FFFF, 0x0000000000000000]

def gdtBytes : List UInt8 := gdtEntries.flatMap (leBytes · 8)

def asmNearJump : List UInt8 :=
  patch [0x90, 0xE9, 0x00, 0x00] 2 (leBytes (0x10000 + (0xFFF0 - apStartupCodeOffset) - 0xFFF4) 2)

def farJmpOffset (i : Nat) : Nat := 0xFFF0 - apStartupCodeOffset + i

def code64 : List UInt8 :=
  [0xBE, 0xF4, 0xFF, 0x66, 0x2E, 0x0F, 0x01, 0x14, 0x0F, 0x20, 0xC0, 0x66, 0x83, 0xC8, 0x03, 0x0F, 0x22, 0xC0,
   0x0F, 0x20, 0xE0, 0x66, 0x0D, 0x00, 0x06, 0x00, 0x00, 0x0F, 0x22, 0xE0, 0xB8, 0x18, 0x00, 0x8E, 0xD8, 0x8E,
   0xC0, 0x8E, 0xE0, 0x8E, 0xE8, 0x8E, 0xD0, 0x66, 0x67, 0xEA, 0x00, 0x00, 0x00, 0x00, 0x10, 0x00, 0x0F, 0x20,
   0xE0, 0x0F, 0xBA, 0xE8, 0x05, 0x0F, 0x22, 0xE0, 0xB9, 0x80, 0x00, 0x00, 0xC0, 0x0F, 0x32, 0x0F, 0xBA, 0xE8,
   0x08, 0x0F, 0x30, 0xBE, 0xE8, 0xFF, 0x00, 0x00, 0x8B, 0x0E, 0x0F, 0x22, 0xD9, 0x0F, 0x20, 0xC0, 0x0F, 0xBA,
   0xE8, 0x1F, 0x0F, 0x22, 0xC0, 0x67, 0xEA, 0x00, 0x00, 0x00, 0x00, 0x38, 0x00, 0x48, 0xB8, 0xFF, 0xFF, 0xFF,
   0xFF, 0xFF, 0xFF, 0xFF, 0xFF, 0x48, 0xBF, 0xFF, 0xFF, 0xFF, 0xFF, 0xFF, 0xFF, 0xFF, 0xFF, 0xFF, 0xE0]

def apStartupCode64 (fw : HostFirmware) (apEntryInCOffset rdi : BitVec 64) : List UInt8 :=
  let code := patch code64 48 (leBytes fw.segment.toNat 2)
  let code := patch code 78 (leBytes fw.segment.toNat 2)
  let code := patch code 99 (leBytes fw.segment.toNat 2)
  let code := patch code 46 (leBytes (farJmpOffset 52) 2)
  let code := patch code 97 (leBytes (farJmpOffset 103) 2)
  let code := patch code 105 (leBytes apEntryInCOffset.toNat 8)
  patch code 115 (leBytes rdi.toNat 8)

def code32 : List UInt8 :=
  [0xBE, 0xF4, 0xFF, 0x66, 0x2E, 0x0F, 0x01, 0x14, 0x0F, 0x20, 0xC0, 0x66, 0x83, 0xC8, 0x03, 0x0F, 0x22, 0xC0,
   0x0F, 0x20, 0xE0, 0x66, 0x0D, 0x00, 0x06, 0x00, 0x00, 0x0F, 0x22, 0xE0, 0xB8, 0x18, 0x00, 0x8E, 0xD8, 0x8E,
   0xC0, 0x8E, 0xE0, 0x8E, 0xE8, 0x8E, 0xD0, 0x66, 0x67, 0xEA, 0x00, 0x00, 0x00, 0x00, 0x10, 0x00, 0xB8, 0xFF,
   0xFF, 0xFF, 0xFF, 0xBF, 0xFF, 0xFF, 0xFF, 0xFF, 0xFF, 0xE0]

def apStartupCode32 (fw : HostFirmware) (apEntryInCOffset edi : BitVec 32) : List UInt8 :=
  let code := patch code32 48 (leBytes fw.segment.toNat 2)
  let code := patch code 46 (leBytes (farJmpOffset 52) 2)
  let code := patch code 53 (leBytes apEntryInCOffset.toNat 4)
  patch code 58 (leBytes edi.toNat 4)

/-! ## `SetupApStartupRegion` -/

def regionStores {w : Nat} (v : BitVec w) (code msrBytes gdtr : List UInt8) (tail : List (BitVec w × List UInt8)) :
    List (BitVec w × List UInt8) :=
  [(v - .ofNat w apStartupCodeOffset, List.replicate apTempBufferSize 0),
   (v - .ofNat w apStartupCodeOffset, code),
   (v, asmNearJump),
   (v - .ofNat w bspGdtOffset, gdtBytes),
   (v - .ofNat w bspMsrOffset, msrBytes),
   (v + .ofNat w asmNearJump.length, gdtr)] ++ tail

/-- What the two versions share: the code, the source of the settings and what is stored last are their own. -/
def setupRegion {w : Nat} (vector : BitVec 64) (code : List UInt8) (msrBytes : MtrrSyncList → List UInt8)
    (tail : List (BitVec w × List UInt8)) (input : CcxInputBlock) (addr : Addresses w) (s : LaunchState w) :
    LaunchState w :=
  let v := vector.setWidth w
  let list := loadSyncList s.apMtrrSyncList s.msrs input
  let msrs := xUslMsrAnd (xUslMsrOr s.msrs Msr.sysCfg 0x80000) Msr.sysCfg (~~~0x80000)
  let bspGdtr : GdtDescriptor := ⟨.ofNat 16 (gdtBytes.length - 1), vector - .ofNat 64 bspGdtOffset⟩
  { ram := copyAll s.ram (regionStores v code (msrBytes list) bspGdtr.bytes tail)
    apStartupVector := vector
    -- The buffer is cleared first, and then all of it is written.
    memoryContentCopy := bytesAt s.ram (v - .ofNat w apStartupCodeOffset) apTempBufferSize
    apLaunchGlobalData :=
      { bspMsrLocation := (vector - .ofNat 64 bspMsrOffset).setWidth 32
        allowToLaunchNextThreadLocation := (vector + 0xE).setWidth 32
        apStackBasePtr := addr.apStack.setWidth 64
        apGdtDescriptor := ⟨.ofNat 16 (gdtBytes.length - 1), addr.apGdt.setWidth 64⟩
        bspPatchLevel := msrs Msr.patchLevel }
    apMtrrSyncList := list
    apGdt := gdtBytes ++ s.apGdt.drop gdtBytes.length
    msrs := msrs }

theorem memoryContentCopy_setupRegion {w : Nat} (vector : BitVec 64) (code : List UInt8)
    (msrBytes : MtrrSyncList → List UInt8) (tail : List (BitVec w × List UInt8)) (input : CcxInputBlock)
    (addr : Addresses w) (s : LaunchState w) :
    (setupRegion vector code msrBytes tail input addr s).memoryContentCopy =
      bytesAt s.ram (vector.setWidth w - .ofNat w apStartupCodeOffset) apTempBufferSize := by
  unfold setupRegion
  dsimp only

/-- The stack frame of the version for 64 bits: where its parameter is, and what is behind `Lcl64bData`. -/
structure Frame64 where
  addressOfApLaunchGlobalData : BitVec 64
  behindLcl64bData : Nat → UInt8

/-- The bytes from `&Lcl64bData` on. -/
def Frame64.fromLcl64bData (frame : Frame64) (lcl64bData : BitVec 64) (n : Nat) : List UInt8 :=
  (List.range n).map fun i =>
    if i < 8 then UInt8.ofNat (lcl64bData.toNat / 256 ^ i) else frame.behindLcl64bData (i - 8)

def HostFirmware.apStartupVector64 (fw : HostFirmware) : BitVec 64 := fw.entryDest + fw.entrySize.setWidth 64 - 0x10

def setupApStartupRegion64 (fw : HostFirmware) (addr : Addresses 64) (frame : Frame64) (c3Value : BitVec 64)
    (input : CcxInputBlock) (s : LaunchState 64) : LaunchState 64 :=
  setupRegion fw.apStartupVector64 (apStartupCode64 fw addr.apAsmCode frame.addressOfApLaunchGlobalData)
    (fun list => frame.fromLcl64bData addr.apMtrrSyncList list.sizeOfApMtrr)
    [(fw.apStartupVector64 - 0x08, leBytes c3Value.toNat 8)] input addr s

def HostFirmware.apStartupVector32 (fw : HostFirmware) : BitVec 64 :=
  (fw.entryDest.setWidth 32 + fw.entrySize - 0x10).setWidth 64

def setupApStartupRegion32 (fw : HostFirmware) (addr : Addresses 32) (input : CcxInputBlock) (s : LaunchState 32) :
    LaunchState 32 :=
  setupRegion fw.apStartupVector32 (apStartupCode32 fw addr.apAsmCode addr.apLaunchGlobalData) MtrrSyncList.bytes []
    input addr s

/-! ## Sizes -/

section
variable (fw : HostFirmware) (apEntryInCOffset rdi : BitVec 64)

theorem length_patch {l bytes : List UInt8} {i n : Nat} (hl : l.length = n) (h : i + bytes.length ≤ n) :
    (patch l i bytes).length = n := by
  simp only [patch, length_append, length_take, length_drop]
  omega

theorem take_drop_patch {l bytes : List UInt8} {i n m : Nat} (hl : l.length = n) (hi : i ≤ n) (hm : bytes.length = m) :
    ((patch l i bytes).drop i).take m = bytes := by
  have hlen : (l.take i).length = i := by rw [List.length_take]; omega
  rw [patch, List.append_assoc, List.drop_append_of_le_length (by omega), List.drop_eq_nil_of_le (by omega),
    nil_append, ← hm, take_append_of_le_length le_rfl, take_length]

@[simp] theorem length_mtrrSetting (e : MtrrSetting) : e.bytes.length = 12 := by simp [MtrrSetting.bytes]

theorem length_bytes (list : MtrrSyncList) : list.bytes.length = 12 * (list.entries.length + 1) := by
  simp [MtrrSyncList.bytes, length_flatMap]
  omega

theorem sizeOfApMtrr_le (list : MtrrSyncList) : list.sizeOfApMtrr ≤ bspMsrSize := by
  rw [MtrrSyncList.sizeOfApMtrr, length_bytes]
  exact list.fits

@[simp] theorem length_gdtr (d : GdtDescriptor) : d.bytes.length = 10 := by simp [GdtDescriptor.bytes]

theorem length_gdtBytes : gdtBytes.length = 72 := by decide

theorem length_asmNearJump : asmNearJump.length = 4 := by decide

theorem length_apStartupCode64 :
    (apStartupCode64 fw apEntryInCOffset rdi).length = 125 := by
  unfold apStartupCode64
  repeat refine length_patch ?_ (by rw [length_leBytes]; decide)
  rfl

theorem length_apStartupCode32 (apEntryInCOffset edi : BitVec 32) :
    (apStartupCode32 fw apEntryInCOffset edi).length = 64 := by
  unfold apStartupCode32
  repeat refine length_patch ?_ (by rw [length_leBytes]; decide)
  rfl

theorem rdi_apStartupCode64 :
    ((apStartupCode64 fw apEntryInCOffset rdi).drop 115).take 8 = leBytes rdi.toNat 8 := by
  unfold apStartupCode64
  refine take_drop_patch ?_ (by decide : 115 ≤ 125) (length_leBytes ..)
  repeat refine length_patch ?_ (by rw [length_leBytes]; decide)
  rfl

theorem edi_apStartupCode32 (apEntryInCOffset edi : BitVec 32) :
    ((apStartupCode32 fw apEntryInCOffset edi).drop 58).take 4 = leBytes edi.toNat 4 := by
  unfold apStartupCode32
  refine take_drop_patch ?_ (by decide : 58 ≤ 64) (length_leBytes ..)
  repeat refine length_patch ?_ (by rw [length_leBytes]; decide)
  rfl

end

@[simp] theorem length_fromLcl64bData (frame : Frame64) (lcl64bData : BitVec 64) (n : Nat) :
    (frame.fromLcl64bData lcl64bData n).length = n := by simp [Frame64.fromLcl64bData]

/-! ## The stores by their offset in the region -/

section Region
variable {w : Nat} (v : BitVec w)

def regionBase : BitVec w := v - .ofNat w apStartupCodeOffset

theorem sub_eq_place {c : Nat} (h : c ≤ apStartupCodeOffset) :
    v - .ofNat w c = regionBase v + .ofNat w (apStartupCodeOffset - c) := by
  have hsplit : BitVec.ofNat w apStartupCodeOffset = .ofNat w c + .ofNat w (apStartupCodeOffset - c) := by
    rw [← BitVec.ofNat_add, Nat.add_sub_cancel' h]
  rw [regionBase, hsplit, sub_place, sub_add_cancel]

theorem add_eq_place (c : Nat) : v + .ofNat w c = regionBase v + .ofNat w (apStartupCodeOffset + c) := by
  rw [regionBase, BitVec.ofNat_add, ← BitVec.add_assoc, BitVec.sub_add_cancel]

def offsetStores (code msrBytes gdtr : List UInt8) : List (Nat × List UInt8) :=
  [(0, List.replicate apTempBufferSize 0), (0, code), (0x240, asmNearJump), (0x1F0, gdtBytes), (0x80, msrBytes),
   (0x244, gdtr)]

theorem regionStores_eq (code msrBytes gdtr : List UInt8) (tail : List (BitVec w × List UInt8)) :
    regionStores v code msrBytes gdtr tail =
      (offsetStores code msrBytes gdtr).map (fun store => (regionBase v + .ofNat w store.1, store.2)) ++ tail := by
  have hbase : regionBase v + BitVec.ofNat w 0 = v - .ofNat w apStartupCodeOffset := BitVec.add_zero _
  have hv : regionBase v + .ofNat w 0x240 = v := (add_eq_place v 0).symm.trans (BitVec.add_zero v)
  have hgdt : v - .ofNat w bspGdtOffset = regionBase v + .ofNat w 0x1F0 := sub_eq_place v (by decide)
  have hmsr : v - .ofNat w bspMsrOffset = regionBase v + .ofNat w 0x80 := sub_eq_place v (by decide)
  have hgdtr : v + .ofNat w asmNearJump.length = regionBase v + .ofNat w 0x244 := add_eq_place v 4
  simp only [regionStores, offsetStores, map_cons, map_nil, hbase, hv, hgdt, hmsr, hgdtr]

end Region

/-! ## What is in the region -/

/-- The settings are where the APs look for them, and the start-up code loads the address of the global data. -/
structure ContentsRight {w : Nat} (v : BitVec w) (immediate : Nat) (global : BitVec w) (s' : LaunchState w) : Prop where
  settings : bytesAt s'.ram (v - .ofNat w bspMsrOffset) s'.apMtrrSyncList.sizeOfApMtrr = s'.apMtrrSyncList.bytes
  argument : bytesAt s'.ram (v - .ofNat w apStartupCodeOffset + .ofNat w immediate) (w / 8) = leBytes global.toNat (w / 8)

section Contents
variable {w : Nat} (vector : BitVec 64) (code : List UInt8) (msrBytes : MtrrSyncList → List UInt8)
  {tail : List (Nat × List UInt8)} (input : CcxInputBlock) (addr : Addresses w) (s : LaunchState w)

abbrev afterSetup (tail : List (Nat × List UInt8)) : LaunchState w :=
  setupRegion vector code msrBytes
    (tail.map fun store => (regionBase (vector.setWidth w) + .ofNat w store.1, store.2)) input addr s

theorem ram_afterSetup : (afterSetup vector code msrBytes input addr s tail).ram = copyAll s.ram
    ((offsetStores code (msrBytes (loadSyncList s.apMtrrSyncList s.msrs input))
      (GdtDescriptor.bytes ⟨.ofNat 16 (gdtBytes.length - 1), vector - .ofNat 64 bspGdtOffset⟩) ++ tail).map
        fun store => (regionBase (vector.setWidth w) + .ofNat w store.1, store.2)) := by
  rw [map_append, ← regionStores_eq]
  rfl

def TailFits (tail : List (Nat × List UInt8)) : Prop := ∀ store ∈ tail, 0x1F0 ≤ store.1 ∧ store.1 + store.2.length ≤ 0x250

theorem offsetStores_fit {bytes gdtr : List UInt8} (hcode : code.length ≤ apStartupCodeSize)
    (hmsr : bytes.length ≤ bspMsrSize) (hgdtr : gdtr.length = 10) :
    ∀ store ∈ offsetStores code bytes gdtr, store.1 + store.2.length ≤ apTempBufferSize := by
  have hsize : apTempBufferSize = 0x250 := rfl
  have hcodeSize : apStartupCodeSize = 0x80 := rfl
  have hmsrSize : bspMsrSize = 0x170 := rfl
  have hjump := length_asmNearJump
  have hgdt := length_gdtBytes
  intro store hstore
  simp only [offsetStores, mem_cons, not_mem_nil, or_false] at hstore
  rcases hstore with rfl | rfl | rfl | rfl | rfl | rfl <;> dsimp only
  · rw [length_replicate]
    omega
  all_goals omega

variable (htail : TailFits tail) (hmsr : (msrBytes (loadSyncList s.apMtrrSyncList s.msrs input)).length ≤ bspMsrSize)
include htail hmsr

theorem ram_afterSetup_outside (hcode : code.length ≤ apStartupCodeSize) {x : BitVec w}
    (hx : apTempBufferSize ≤ (x - regionBase (vector.setWidth w)).toNat) :
    (afterSetup vector code msrBytes input addr s tail).ram x = s.ram x := by
  rw [ram_afterSetup]
  refine copyAll_outside (fun store hstore => ?_) hx
  rcases mem_append.1 hstore with h | h
  · exact offsetStores_fit code hcode hmsr (length_gdtr _) store h
  · exact (htail store h).2

theorem bytesAt_settings (hw : 10 ≤ w) :
    bytesAt (afterSetup vector code msrBytes input addr s tail).ram (vector.setWidth w - .ofNat w bspMsrOffset)
        (msrBytes (loadSyncList s.apMtrrSyncList s.msrs input)).length =
      msrBytes (loadSyncList s.apMtrrSyncList s.msrs input) := by
  have hpow : 2 ^ 10 ≤ 2 ^ w := Nat.pow_le_pow_right two_pos hw
  have hmsrSize : bspMsrSize = 0x170 := rfl
  have hplace : vector.setWidth w - .ofNat w bspMsrOffset = regionBase (vector.setWidth w) + .ofNat w 0x80 :=
    sub_eq_place _ (by decide)
  rw [ram_afterSetup, hplace]
  generalize msrBytes (loadSyncList s.apMtrrSyncList s.msrs input) = bytes at hmsr ⊢
  generalize hgdtr : GdtDescriptor.bytes _ = gdtr
  have hlen : gdtr.length = 10 := by rw [← hgdtr, length_gdtr]
  have hsplit : offsetStores code bytes gdtr ++ tail =
      [(0, List.replicate apTempBufferSize 0), (0, code), (0x240, asmNearJump), (0x1F0, gdtBytes)] ++
        (0x80, bytes) :: (0x244, gdtr) :: tail := rfl
  rw [hsplit, bytesAt_copyAll le_rfl le_rfl (by omega)]
  · rw [Nat.sub_self, drop_zero, take_length]
  · intro store hstore
    rcases mem_cons.1 hstore with rfl | h
    · dsimp only
      omega
    · have := htail store h
      omega

theorem bytesAt_code {i n : Nat} (hw : 10 ≤ w) (hcode : code.length ≤ apStartupCodeSize) (hi : i + n ≤ code.length) :
    bytesAt (afterSetup vector code msrBytes input addr s tail).ram
        (vector.setWidth w - .ofNat w apStartupCodeOffset + .ofNat w i) n = (code.drop i).take n := by
  have hpow : 2 ^ 10 ≤ 2 ^ w := Nat.pow_le_pow_right two_pos hw
  have hcodeSize : apStartupCodeSize = 0x80 := rfl
  have hmsrSize : bspMsrSize = 0x170 := rfl
  have hjump := length_asmNearJump
  have hgdt := length_gdtBytes
  rw [ram_afterSetup]
  generalize msrBytes (loadSyncList s.apMtrrSyncList s.msrs input) = bytes at hmsr ⊢
  generalize hgdtr : GdtDescriptor.bytes _ = gdtr
  have hlen : gdtr.length = 10 := by rw [← hgdtr, length_gdtr]
  have hsplit : offsetStores code bytes gdtr ++ tail = [(0, List.replicate apTempBufferSize 0)] ++
      (0, code) :: (0x240, asmNearJump) :: (0x1F0, gdtBytes) :: (0x80, bytes) :: (0x244, gdtr) :: tail := rfl
  have hplace : vector.setWidth w - .ofNat w apStartupCodeOffset + .ofNat w i =
      regionBase (vector.setWidth w) + .ofNat w i := rfl
  rw [hsplit, hplace, bytesAt_copyAll (Nat.zero_le i) (by omega) (by omega), Nat.sub_zero]
  intro store hstore
  simp only [mem_cons] at hstore
  rcases hstore with rfl | rfl | rfl | rfl | h
  case inr.inr.inr.inr =>
    have := htail store h
    omega
  all_goals
    dsimp only
    omega

end Contents

/-! ## The version for 64 bits -/

section Setup64
variable (fw : HostFirmware) (addr : Addresses 64) (frame : Frame64) (c3Value : BitVec 64) (input : CcxInputBlock)
  (s : LaunchState 64)

def settings64 (list : MtrrSyncList) : List UInt8 := frame.fromLcl64bData addr.apMtrrSyncList list.sizeOfApMtrr

theorem setupApStartupRegion64_eq : setupApStartupRegion64 fw addr frame c3Value input s =
    afterSetup fw.apStartupVector64 (apStartupCode64 fw addr.apAsmCode frame.addressOfApLaunchGlobalData)
      (settings64 addr frame) input addr s [(0x238, leBytes c3Value.toNat 8)] := by
  have hplace : fw.apStartupVector64 - 0x08 = regionBase (fw.apStartupVector64.setWidth 64) + .ofNat 64 0x238 := by
    rw [setWidth_eq]
    exact sub_eq_place _ (by decide)
  rw [setupApStartupRegion64, hplace]
  rfl

theorem tailFits64 : TailFits [(0x238, leBytes c3Value.toNat 8)] := by
  intro store hstore
  rw [mem_singleton] at hstore
  subst hstore
  simp

theorem length_settings64 (list : MtrrSyncList) : (settings64 addr frame list).length = list.sizeOfApMtrr :=
  length_fromLcl64bData ..

theorem length_settings64_le (list : MtrrSyncList) : (settings64 addr frame list).length ≤ bspMsrSize := by
  rw [length_settings64]
  exact sizeOfApMtrr_le list

theorem bytesAt_settings64 {list : MtrrSyncList} (hlist : loadSyncList s.apMtrrSyncList s.msrs input = list) :
    bytesAt (setupApStartupRegion64 fw addr frame c3Value input s).ram (fw.apStartupVector64 - .ofNat 64 bspMsrOffset)
      list.sizeOfApMtrr = settings64 addr frame list := by
  have h := bytesAt_settings fw.apStartupVector64
    (apStartupCode64 fw addr.apAsmCode frame.addressOfApLaunchGlobalData) (settings64 addr frame) input addr s
    (tailFits64 c3Value) (length_settings64_le addr frame _) (by decide)
  rw [length_settings64, setWidth_eq, hlist] at h
  rw [setupApStartupRegion64_eq, h]

theorem bytesAt_argument64 : bytesAt (setupApStartupRegion64 fw addr frame c3Value input s).ram
      (fw.apStartupVector64 - .ofNat 64 apStartupCodeOffset + .ofNat 64 115) 8 =
    leBytes frame.addressOfApLaunchGlobalData.toNat 8 := by
  have hlen := length_apStartupCode64 fw addr.apAsmCode frame.addressOfApLaunchGlobalData
  have h := bytesAt_code (i := 115) (n := 8) fw.apStartupVector64
    (apStartupCode64 fw addr.apAsmCode frame.addressOfApLaunchGlobalData) (settings64 addr frame) input addr s
    (tailFits64 c3Value) (length_settings64_le addr frame _) (by decide) (by rw [hlen]; decide) (by omega)
  rw [setWidth_eq] at h
  rw [setupApStartupRegion64_eq, h, rdi_apStartupCode64]

end Setup64

/-- The version for 64 bits puts the right contents there only if the bytes on its stack, from the address of the list
on, are the list, and its parameter is stored where the global data are. -/
theorem setupApStartupRegion64_contents_iff (fw : HostFirmware) (addr : Addresses 64) (frame : Frame64)
    (c3Value : BitVec 64) (input : CcxInputBlock) (s : LaunchState 64) :
    ContentsRight fw.apStartupVector64 115 addr.apLaunchGlobalData
        (setupApStartupRegion64 fw addr frame c3Value input s) ↔
      frame.fromLcl64bData addr.apMtrrSyncList (loadSyncList s.apMtrrSyncList s.msrs input).sizeOfApMtrr =
          (loadSyncList s.apMtrrSyncList s.msrs input).bytes ∧
        frame.addressOfApLaunchGlobalData = addr.apLaunchGlobalData := by
  have hsettings := bytesAt_settings64 fw addr frame c3Value input s rfl
  have hargument := bytesAt_argument64 fw addr frame c3Value input s
  have hinj : leBytes frame.addressOfApLaunchGlobalData.toNat 8 = leBytes addr.apLaunchGlobalData.toNat 8 ↔
      frame.addressOfApLaunchGlobalData = addr.apLaunchGlobalData := by
    rw [leBytes_inj frame.addressOfApLaunchGlobalData.isLt addr.apLaunchGlobalData.isLt, toNat_inj]
  constructor
  · intro h
    exact ⟨hsettings.symm.trans h.settings, hinj.1 (hargument.symm.trans h.argument)⟩
  · rintro ⟨hlist, haddress⟩
    exact ⟨hsettings.trans hlist, hargument.trans (hinj.2 haddress)⟩

/-- Firmware that ends at 0x77000000, as the configuration of Onyx has it. -/
def onyxFirmware : HostFirmware := ⟨0x76D00000, 0x300000⟩

def launchAddresses : Addresses 64 := ⟨0x76100000, 0x76200000, 0x76200200, 0x76200600, 0x76200700⟩

def launchFrame : Frame64 := ⟨0x7FFFF000, fun _ => 0⟩

def keepFixedMtrrs : CcxInputBlock :=
  ⟨.allOnes 64, .allOnes 64, .allOnes 64, .allOnes 64, .allOnes 64, .allOnes 64, .allOnes 64, .allOnes 64, .allOnes 64,
   .allOnes 64, .allOnes 64⟩

def oneSetting : MtrrSyncList := ⟨[⟨0x250, 0⟩], 0, by decide, by decide⟩

def launchStart : LaunchState 64 := ⟨fun _ => 0, 0, [], ⟨0, 0, 0, ⟨0, 0⟩, 0⟩, oneSetting, [], fun _ => 0⟩

/-- The first setting begins with the address of the list, and the code loads an address on the stack. -/
theorem setupApStartupRegion64_copies_addresses :
    let s' := setupApStartupRegion64 onyxFirmware launchAddresses launchFrame 0 keepFixedMtrrs launchStart
    bytesAt s'.ram (onyxFirmware.apStartupVector64 - .ofNat 64 bspMsrOffset) 24 =
        leBytes 0x76200700 8 ++ List.replicate 16 0 ∧
      s'.apMtrrSyncList.bytes = leBytes 0x250 12 ++ leBytes 0xFFFFFFFF 12 ∧
      bytesAt s'.ram (onyxFirmware.apStartupVector64 - .ofNat 64 apStartupCodeOffset + .ofNat 64 115) 8 =
        leBytes 0x7FFFF000 8 ∧
      ¬ContentsRight onyxFirmware.apStartupVector64 115 launchAddresses.apLaunchGlobalData s' := by
  have hargument := bytesAt_argument64 onyxFirmware launchAddresses launchFrame 0 keepFixedMtrrs launchStart
  refine ⟨bytesAt_settings64 onyxFirmware launchAddresses launchFrame 0 keepFixedMtrrs launchStart rfl, by decide,
    hargument, fun h => ?_⟩
  exact absurd (hargument.symm.trans h.argument) (by decide)

theorem setupApStartupRegion32_contents (fw : HostFirmware) (addr : Addresses 32) (input : CcxInputBlock)
    (s : LaunchState 32) :
    ContentsRight (fw.apStartupVector32.setWidth 32) 58 addr.apLaunchGlobalData
      (setupApStartupRegion32 fw addr input s) := by
  have hlen := length_apStartupCode32 fw addr.apAsmCode addr.apLaunchGlobalData
  have hfits : (loadSyncList s.apMtrrSyncList s.msrs input).bytes.length ≤ bspMsrSize := sizeOfApMtrr_le _
  have htail : TailFits [] := fun store hstore => absurd hstore not_mem_nil
  constructor
  · exact bytesAt_settings fw.apStartupVector32 (apStartupCode32 fw addr.apAsmCode addr.apLaunchGlobalData)
      MtrrSyncList.bytes input addr s htail hfits (by decide)
  · rw [← edi_apStartupCode32 fw addr.apAsmCode addr.apLaunchGlobalData]
    exact bytesAt_code fw.apStartupVector32 (apStartupCode32 fw addr.apAsmCode addr.apLaunchGlobalData)
      MtrrSyncList.bytes input addr s htail hfits (by decide) (by rw [hlen]; decide) (by omega)

end OpenSil.ApLaunch
