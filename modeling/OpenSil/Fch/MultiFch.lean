import Mathlib
import OpenSil.Status

/-! # The FCH of the second socket -/

namespace OpenSil.Fch

structure Rmw8 where
  address : UInt32
  and : UInt8
  or : UInt8
  deriving DecidableEq

/-- What the other IPs answer; the bus and the root bridge are those of the second socket. -/
structure MultiFchEnv where
  multiFchC2R : SilStatus
  dfIp2IpApi : SilStatus
  rcMgrIp2Ip : SilStatus
  numberOfProcessors : UInt32
  busNumberBase : UInt32
  physicalRbNum : SilStatus × UInt32
  fabricReserveMmio : UInt8 → SilStatus × UInt64

structure FchAbInputBlk where
  aLinkClkGateOff : Bool
  bLinkClkGateOff : Bool
  sbgMemoryPowerSaving : Bool

structure MultiFch where
  fchAcpiMmioBase : UInt32
  gFchMfResetData : Fin 8 → UInt64
  x86Io : UInt32 × UInt32
  mmio : List Rmw8
  /-- What the relocation writes. -/
  smn : List (UInt32 × Rmw8)

def fchSnSmnPmioBase : UInt32 := 0x02D01300

def fchSecondaryFchMmioRelocate (env : MultiFchEnv) (dieBusNum : UInt32) (s : MultiFch) : SilStatus × MultiFch :=
  if env.rcMgrIp2Ip ≠ .silPass then (env.rcMgrIp2Ip, s)
  else if env.physicalRbNum.1 ≠ .silPass then (env.physicalRbNum.1, s)
  else
    let (status, fchMmioBase) := env.fabricReserveMmio env.physicalRbNum.2.toUInt8
    if status ≠ .silPass then (status, s)
    else
      let altMmioBase := (fchMmioBase >>> 16).toUInt16
      (status, { s with
        smn := s.smn ++ [(dieBusNum, ⟨fchSnSmnPmioBase + 0xD6, 0, altMmioBase.toUInt8⟩),
          (dieBusNum, ⟨fchSnSmnPmioBase + 0xD7, 0, (altMmioBase >>> 8).toUInt8⟩),
          (dieBusNum, ⟨fchSnSmnPmioBase + 0xD5, 0xFC, 1⟩)]
        fchAcpiMmioBase := fchMmioBase.toUInt32 })

def enableIoCxxOnDieNSn (s : MultiFch) : (UInt32 × UInt32) × MultiFch :=
  (s.x86Io, { s with x86Io := (3, (0x22 : UInt32) + (1 : UInt32) <<< 8) })

def disableIoCxxOnDieNSn (org : UInt32 × UInt32) (s : MultiFch) : MultiFch := { s with x86Io := org }

/-- `SilFchWritePmio` at `FCH_PMIOA_REGE0`: its base is fixed, and a plain write has the mask 0. -/
def writeAbRegBar (value : UInt16) : List Rmw8 :=
  [⟨0xFED803E0, 0, value.toUInt8⟩, ⟨0xFED803E1, 0, (value >>> 8).toUInt8⟩]

def fchSecondaryFchInitAB (ab : FchAbInputBlk) (s : MultiFch) : MultiFch :=
  let misc := s.fchAcpiMmioBase + 0xE00
  { s with mmio := s.mmio ++ writeAbRegBar 0xCD8 ++ [⟨misc + 0x68, 0xFB, 0⟩,
      ⟨misc + 0x2E, 0xFE, if ab.aLinkClkGateOff then 1 else 0⟩,
      ⟨misc + 0x2E, 0xFD, if ab.bLinkClkGateOff then 2 else 0⟩,
      ⟨s.fchAcpiMmioBase + 0x306, 0xFE, if ab.aLinkClkGateOff || ab.bLinkClkGateOff then 1 else 0⟩,
      ⟨misc + 0x68, 0xFD, if ab.sbgMemoryPowerSaving then 0 else 2⟩] ++ writeAbRegBar 0 }

def fchSecondaryFchDisableSD (s : MultiFch) : MultiFch :=
  { s with mmio := s.mmio ++ [⟨s.fchAcpiMmioBase + 0x3D3, 0xBF, 0⟩, ⟨s.fchAcpiMmioBase + 0x3E8, 0xFE, 0⟩,
      ⟨s.fchAcpiMmioBase + 0x1E72, 0xF7, 0⟩] }

/-- The lookups that succeed here succeed again in the functions called. -/
def multiFchInit (env : MultiFchEnv) (fchAb : Option FchAbInputBlk) (s : MultiFch) : SilStatus × MultiFch :=
  if env.multiFchC2R ≠ .silPass then (env.multiFchC2R, s)
  else if env.dfIp2IpApi ≠ .silPass then (env.dfIp2IpApi, s)
  else
    let s := { s with gFchMfResetData := Function.update 0 0 s.fchAcpiMmioBase.toUInt64 }
    if env.numberOfProcessors = 2 then
      let s := (fchSecondaryFchMmioRelocate env env.busNumberBase.toUInt8.toUInt32 s).2
      let s := { s with gFchMfResetData := Function.update s.gFchMfResetData 1 s.fchAcpiMmioBase.toUInt64 }
      let (org, s) := enableIoCxxOnDieNSn s
      let s := disableIoCxxOnDieNSn org (fchAb.elim s (fchSecondaryFchInitAB · s))
      (.silPass, fchSecondaryFchDisableSD s)
    else (.silPass, s)

section
variable (env : MultiFchEnv) (fchAb : Option FchAbInputBlk) (s : MultiFch)

/-- The SD function is disabled at the base the input block has in the end. -/
theorem multiFchInit_disablesSD (hc2r : env.multiFchC2R = .silPass) (hdf : env.dfIp2IpApi = .silPass)
    (hsecond : env.numberOfProcessors = 2) : (multiFchInit env fchAb s).1 = .silPass ∧
      ⟨(multiFchInit env fchAb s).2.fchAcpiMmioBase + 0x3D3, 0xBF, 0⟩ ∈ (multiFchInit env fchAb s).2.mmio := by
  unfold multiFchInit
  rw [if_neg (not_not.mpr hc2r), if_neg (not_not.mpr hdf), if_pos hsecond]
  exact ⟨rfl, List.mem_append_right _ List.mem_cons_self⟩

/-- A pass with a second socket promises a block of its own for the secondary FCH, and the primary one untouched. -/
def Relocates (fchAcpiMmioBase : UInt32) (x86Io : UInt32 × UInt32) : Prop :=
  let r := multiFchInit env fchAb ⟨fchAcpiMmioBase, 0, x86Io, [], []⟩
  r.1 = .silPass → env.numberOfProcessors = 2 →
    (∃ base, env.fabricReserveMmio env.physicalRbNum.2.toUInt8 = (.silPass, base) ∧
      base ≠ fchAcpiMmioBase.toUInt64 ∧ r.2.gFchMfResetData 1 = base) ∧
    (∀ w ∈ r.2.mmio, ¬ w.address - fchAcpiMmioBase < 0x2000) ∧
    r.2.fchAcpiMmioBase = fchAcpiMmioBase ∧ r.2.x86Io = x86Io

theorem multiFchInit_relocates_iff (fchAcpiMmioBase : UInt32) (x86Io : UInt32 × UInt32) :
    Relocates env fchAb fchAcpiMmioBase x86Io ↔
      env.multiFchC2R ≠ .silPass ∨ env.dfIp2IpApi ≠ .silPass ∨ env.numberOfProcessors ≠ 2 := by
  constructor
  · intro h
    by_contra hnot
    push Not at hnot
    obtain ⟨hc2r, hdf, hsecond⟩ := hnot
    obtain ⟨hpass, hmem⟩ := multiFchInit_disablesSD env fchAb ⟨fchAcpiMmioBase, 0, x86Io, [], []⟩ hc2r hdf hsecond
    -- With its base unchanged, the access belongs to the primary FCH.
    obtain ⟨-, hapart, hbase, -⟩ := h hpass hsecond
    refine hapart _ hmem ?_
    rw [hbase, UInt32.add_comm, UInt32.add_sub_cancel]
    decide
  · rintro (h | h | h) hpass hsecond
    · rw [multiFchInit, if_pos h] at hpass
      exact absurd hpass h
    · rw [multiFchInit] at hpass
      split_ifs at hpass with hc2r
      · exact absurd hpass hc2r
      · exact absurd hpass h
    · exact absurd hsecond h

end

/-- Two sockets, and what the reservation answers. -/
def twoSockets (answer : SilStatus × UInt64) : MultiFchEnv :=
  ⟨.silPass, .silPass, .silPass, 2, 0x80, (.silPass, 2), fun _ => answer⟩

/-- Without a reserved block the primary FCH is programmed; with one, the input block has the new base. -/
theorem multiFchInit_programsPrimary :
    let run := fun answer => multiFchInit (twoSockets answer) none ⟨0xFED80000, 0, (0, 0), [], []⟩
    (run (.silOutOfResources, 0)).1 = .silPass ∧
    (run (.silOutOfResources, 0)).2.mmio = [⟨0xFED803D3, 0xBF, 0⟩, ⟨0xFED803E8, 0xFE, 0⟩, ⟨0xFED81E72, 0xF7, 0⟩] ∧
    (run (.silPass, 0xB0000000)).1 = .silPass ∧ (run (.silPass, 0xB0000000)).2.fchAcpiMmioBase = 0xB0000000 := by
  decide

end OpenSil.Fch
