import Mathlib.Data.List.TakeWhile
import OpenSil.Lib.Bytes
import OpenSil.Lib.Chain

/-! # The search for a DVSEC of a CXL device

`CxlGetDvsec` of `CxlInit.c` and the capability finders it uses, over any content of the configuration space.
-/

namespace OpenSil.Cxl

open Bytes Chain List Option

def read8 (m : Mem) (a : UInt32) : BitVec 8 := (m a.toNat).toBitVec

def read16 (m : Mem) (a : UInt32) : BitVec 16 := .ofNat 16 (readLE m a.toNat 2)

def read32 (m : Mem) (a : UInt32) : BitVec 32 := .ofNat 32 (readLE m a.toNat 4)

def pointer {w : Nat} (p : BitVec w) : Option (BitVec w) := if p = 0 then none else some p

def pcieCapId : BitVec 8 := 0x10

def dvsecCap : BitVec 16 := 0x23

section
variable (m : Mem) (address : UInt32)

def gnbLibPciIsDevicePresent : Bool := read32 m address ≠ 0xffffffff

/-! ## The list of capabilities -/

def capabilityAt (p : BitVec 8) : Option (BitVec 8) :=
  if p = 0 then none else pointer (read8 m (address ||| .ofBitVec (p.setWidth 32)))

def firstCapability : Option (BitVec 8) :=
  if gnbLibPciIsDevicePresent m address then capabilityAt m address 0x34 else none

def nextCapability (p : BitVec 8) : Option (BitVec 8) := capabilityAt m address (p + 1)

def capabilityId (p : BitVec 8) : BitVec 8 := read8 m (address ||| .ofBitVec (p.setWidth 32))

def gnbLibFindPciCapability (id : BitVec 8) (fuel : Nat) : Option (Option (BitVec 8)) :=
  seekFrom (nextCapability m address) (capabilityId m address · = id) fuel (firstCapability m address)

def gnbLibPciIsPcieDevice (fuel : Nat) : Option Bool := (gnbLibFindPciCapability m address pcieCapId fuel).map (·.isSome)

/-! ## The list of extended capabilities

Their offsets have twelve bits: the list starts at `0x100`, and a next pointer is masked with `0xfff`.
-/

def extendedCapabilityIdBlock (p : BitVec 12) : BitVec 32 := read32 m (address ||| .ofBitVec (p.setWidth 32))

def extendedId (p : BitVec 12) : BitVec 16 := (extendedCapabilityIdBlock m address p).setWidth 16

def hasId (id : BitVec 16) (p : BitVec 12) : Bool := extendedId m address p = id

def extendedNext (p : BitVec 12) : Option (BitVec 12) :=
  pointer (((extendedCapabilityIdBlock m address p) >>> 20).setWidth 12)

def blockPresent (p : BitVec 12) : Bool := extendedCapabilityIdBlock m address p ≠ 0 ∧ extendedId m address p ≠ 0xffff

def extendedStart : Option (BitVec 12) := if blockPresent m address 0x100 then some 0x100 else none

def gnbLibFindPcieExtendedCapability (id : BitVec 16) (fuel : Nat) : Option (Option (BitVec 12)) :=
  (gnbLibPciIsPcieDevice m address fuel).bind fun pcie =>
    if pcie then seekFrom (extendedNext m address) (hasId m address id) fuel (extendedStart m address)
    else some none

/-- Looks only at the capability behind the start. -/
def gnbLibFindNextPcieExtendedCapability (id : BitVec 16) (pcie : Bool) (start : BitVec 12) : Option (BitVec 12) :=
  if pcie && blockPresent m address start then (extendedNext m address start).filter (hasId m address id)
  else none

/-! ## The search -/

variable (vendorId vendorId2 id : BitVec 16)

def dvsecMatches (p : BitVec 12) : Bool :=
  let vendor := (read32 m (address ||| .ofBitVec (p.setWidth 32 + 0x04))).setWidth 16
  (vendor = vendorId ∨ vendor = vendorId2) ∧ read16 m (address ||| .ofBitVec (p.setWidth 32 + 0x08)) = id

/-- `none` when the fuel runs out, `some none` for the result zero. -/
def cxlGetDvsec (fuel : Nat) : Option (Option (BitVec 12)) :=
  (gnbLibPciIsPcieDevice m address fuel).bind fun pcie =>
    (gnbLibFindPcieExtendedCapability m address dvsecCap fuel).bind fun dvsecPtr =>
      seekFrom (gnbLibFindNextPcieExtendedCapability m address dvsecCap pcie)
        (dvsecMatches m address vendorId vendorId2 id) fuel dvsecPtr

/-! ## The walks of the search -/

def LegacyWalk (l : List (BitVec 8)) (q : Option (BitVec 8)) : Prop :=
  Walk (nextCapability m address) (capabilityId m address · = pcieCapId) (firstCapability m address) l q

def ExtendedWalk (l : List (BitVec 12)) (q : Option (BitVec 12)) : Prop :=
  Walk (extendedNext m address) (hasId m address dvsecCap) (extendedStart m address) l q

def DvsecWalk (d : BitVec 12) (l : List (BitVec 12)) (q : Option (BitVec 12)) : Prop :=
  Walk (gnbLibFindNextPcieExtendedCapability m address dvsecCap true) (dvsecMatches m address vendorId vendorId2 id)
    (some d) l q

/-- Each loop that is reached ends. -/
def WalksEnd : Prop :=
  (∃ l q, LegacyWalk m address l q) ∧ ∀ l c, LegacyWalk m address l (some c) →
    (∃ l q, ExtendedWalk m address l q) ∧ ∀ l d, ExtendedWalk m address l (some d) →
      ∃ l q, DvsecWalk m address vendorId vendorId2 id d l q

/-- The result of the search, read off its walks. -/
def Finds (r : Option (BitVec 12)) : Prop :=
  ∃ l q, LegacyWalk m address l q ∧ match q with
    | none => r = none
    | some _ => ∃ l d, ExtendedWalk m address l d ∧ match d with
      | none => r = none
      | some d => ∃ l, DvsecWalk m address vendorId vendorId2 id d l r

/-- The DVSECs from the first one on, up to another capability. -/
def firstRun (l : List (BitVec 12)) : List (BitVec 12) :=
  (l.dropWhile fun p => !hasId m address dvsecCap p).takeWhile (hasId m address dvsecCap)

def isRequested (p : BitVec 12) : Bool := hasId m address dvsecCap p && dvsecMatches m address vendorId vendorId2 id p

end

variable {m : Mem} {address : UInt32} {vendorId vendorId2 id : BitVec 16} {fuel : Nat} {r : Option (BitVec 12)}

theorem toNat_lt_4096 {w : Nat} (hw : w ≤ 12) (p : BitVec w) : p.toNat < 4096 :=
  p.isLt.trans_le (Nat.pow_le_pow_right (by decide) hw)

theorem seekFrom_of_walk {w : Nat} (hw : w ≤ 12) {next : BitVec w → Option (BitVec w)} {found : BitVec w → Bool}
    {p q : Option (BitVec w)} {l : List (BitVec w)} (h : Walk next found p l q) : seekFrom next found 4097 p = some q :=
  h.seekFrom_eq (fun _ _ => BitVec.eq_of_toNat_eq) (toNat_lt_4096 hw)

theorem gnbLibPciIsPcieDevice_of_walk {l : List (BitVec 8)} {q : Option (BitVec 8)} (h : LegacyWalk m address l q) :
    gnbLibPciIsPcieDevice m address 4097 = some q.isSome := by
  rw [gnbLibPciIsPcieDevice, gnbLibFindPciCapability, seekFrom_of_walk (by decide) h, map_some]

theorem gnbLibPciIsPcieDevice_eq_some {pcie : Bool} (h : gnbLibPciIsPcieDevice m address fuel = some pcie) :
    ∃ l q, LegacyWalk m address l q ∧ q.isSome = pcie := by
  obtain ⟨q, hq, hpcie⟩ := map_eq_some_iff.mp h
  obtain ⟨l, hl⟩ := walk_of_seekFrom hq
  exact ⟨l, q, hl, hpcie⟩

theorem finds_of_cxlGetDvsec (h : cxlGetDvsec m address vendorId vendorId2 id fuel = some r) :
    Finds m address vendorId vendorId2 id r := by
  simp only [cxlGetDvsec, gnbLibFindPcieExtendedCapability, bind_eq_some_iff] at h
  obtain ⟨pcie, hpcie, d, ⟨pcie', hsame, hd⟩, hr⟩ := h
  obtain rfl := Option.some.inj (hpcie.symm.trans hsame)
  obtain ⟨l, q, hl, rfl⟩ := gnbLibPciIsPcieDevice_eq_some hpcie
  refine ⟨l, q, hl, ?_⟩
  cases q with
  | none =>
    cases hd
    exact (Option.some.inj hr).symm
  | some c =>
    obtain ⟨l', hext⟩ := walk_of_seekFrom hd
    refine ⟨l', d, hext, ?_⟩
    cases d with
    | none => exact (Option.some.inj hr).symm
    | some d => exact walk_of_seekFrom hr

theorem Finds.cxlGetDvsec_eq (h : Finds m address vendorId vendorId2 id r) :
    cxlGetDvsec m address vendorId vendorId2 id 4097 = some r := by
  obtain ⟨l, q, hl, hq⟩ := h
  rw [cxlGetDvsec, gnbLibFindPcieExtendedCapability, gnbLibPciIsPcieDevice_of_walk hl, bind_some, bind_some]
  cases q with
  | none => exact congrArg some hq.symm
  | some c =>
    obtain ⟨l', d, hext, hd⟩ := hq
    rw [isSome_some, if_pos rfl, seekFrom_of_walk (by decide) hext, bind_some]
    cases d with
    | none => exact congrArg some hd.symm
    | some d =>
      obtain ⟨l'', hdvsec⟩ := hd
      exact seekFrom_of_walk (by decide) hdvsec

theorem exists_finds_iff : (∃ r, Finds m address vendorId vendorId2 id r) ↔ WalksEnd m address vendorId vendorId2 id := by
  constructor
  · rintro ⟨r, l, q, hl, hq⟩
    refine ⟨⟨l, q, hl⟩, fun l' c hc => ?_⟩
    obtain rfl := (hl.unique hc).2
    obtain ⟨k, d, hk, hd⟩ := hq
    refine ⟨⟨k, d, hk⟩, fun k' d' hk' => ?_⟩
    obtain rfl := (hk.unique hk').2
    exact ⟨hd.choose, r, hd.choose_spec⟩
  · rintro ⟨⟨l, q, hl⟩, hrest⟩
    cases q with
    | none => exact ⟨none, l, none, hl, rfl⟩
    | some c =>
      obtain ⟨⟨k, d, hk⟩, hdvsec⟩ := hrest l c hl
      cases d with
      | none => exact ⟨none, l, _, hl, k, none, hk, rfl⟩
      | some d =>
        obtain ⟨j, r, hj⟩ := hdvsec k d hk
        exact ⟨r, l, _, hl, k, _, hk, j, hj⟩

/-- The search returns exactly when the walks it makes end, and then after at most 4097 turns of each loop. -/
theorem cxlGetDvsec_returns_iff (m : Mem) (address : UInt32) (vendorId vendorId2 id : BitVec 16) :
    ((∃ fuel, (cxlGetDvsec m address vendorId vendorId2 id fuel).isSome) ↔ WalksEnd m address vendorId vendorId2 id) ∧
    (WalksEnd m address vendorId vendorId2 id → (cxlGetDvsec m address vendorId vendorId2 id 4097).isSome) := by
  have hend : WalksEnd m address vendorId vendorId2 id → (cxlGetDvsec m address vendorId vendorId2 id 4097).isSome := by
    intro h
    obtain ⟨r, hr⟩ := exists_finds_iff.mpr h
    exact isSome_iff_exists.mpr ⟨r, hr.cxlGetDvsec_eq⟩
  refine ⟨⟨?_, fun h => ⟨4097, hend h⟩⟩, hend⟩
  rintro ⟨fuel, hfuel⟩
  obtain ⟨r, hr⟩ := isSome_iff_exists.mp hfuel
  exact exists_finds_iff.mp ⟨r, finds_of_cxlGetDvsec hr⟩

def device (words : List (Nat × Nat)) : Mem := words.foldl (fun m word => writeLE m word.1 4 word.2) fun _ => 0

/-- The capability at `0x100` is no DVSEC and names itself as the next one. -/
def selfLinked : Mem := device [(0x34, 0x40), (0x40, 0x10), (0x100, 0x10000001)]

theorem selfLinked_not_returning : ¬∃ fuel, (cxlGetDvsec selfLinked 0 0x1e98 0x1e98 8 fuel).isSome := by
  rintro ⟨fuel, hfuel⟩
  obtain ⟨r, hr⟩ := isSome_iff_exists.mp hfuel
  obtain ⟨l, q, hl, hq⟩ := finds_of_cxlGetDvsec hr
  have hpcie : LegacyWalk selfLinked 0 [] (some 0x40) := ⟨path_nil_iff.mpr (by decide), by simp, by decide⟩
  obtain rfl := (hl.unique hpcie).2
  obtain ⟨k, d, hk, -⟩ := hq
  have hstart : extendedStart selfLinked 0 = some 0x100 := by decide
  have hnext : extendedNext selfLinked 0 0x100 = some 0x100 := by decide
  rw [ExtendedWalk, hstart] at hk
  cases k with
  | nil => exact absurd (hk.ended _ hk.path.symm) (by decide)
  | cons a k =>
    -- The rest of the walk is the walk itself.
    obtain rfl := Option.some.inj hk.path.1
    have hrest := hk.tail
    rw [hnext] at hrest
    exact absurd (hrest.unique hk).1 (by simp)

/-! ## What the search finds in a list without a cycle -/

variable {l : List (BitVec 12)} {p : BitVec 12}

theorem hasId_of_mem_firstRun (h : p ∈ firstRun m address l) : hasId m address dvsecCap p = true :=
  mem_takeWhile_imp h

theorem gnbLibFindNextPcieExtendedCapability_of_dvsec (h : hasId m address dvsecCap p = true) :
    gnbLibFindNextPcieExtendedCapability m address dvsecCap true p =
      (extendedNext m address p).filter (hasId m address dvsecCap) := by
  have hid : extendedId m address p = dvsecCap := by simpa [hasId] using h
  have hblock : extendedCapabilityIdBlock m address p ≠ 0 := by
    intro h0
    rw [extendedId, h0] at hid
    exact absurd hid (by decide)
  have hpresent : blockPresent m address p = true := by
    rw [blockPresent, hid]
    exact decide_eq_true ⟨hblock, by decide⟩
  rw [gnbLibFindNextPcieExtendedCapability, hpresent, Bool.and_self, if_pos rfl]

variable {d : BitVec 12}

theorem firstRun_eq (h : l.find? (hasId m address dvsecCap) = some d)
    (hpath : Path (extendedNext m address) (extendedStart m address) l none) :
    ∃ l', Path (extendedNext m address) (some d) l' none ∧
      firstRun m address l = l'.takeWhile (hasId m address dvsecCap) := by
  obtain ⟨hd, front, back, rfl, hfront⟩ := find?_eq_some_iff_append.mp h
  obtain ⟨q, -, hback⟩ := path_append_iff.mp hpath
  obtain rfl := hback.1
  refine ⟨d :: back, hback, ?_⟩
  rw [firstRun, dropWhile_append_of_pos hfront, dropWhile_cons_of_neg (by simp [hd])]

theorem find?_firstRun :
    (firstRun m address l).find? (dvsecMatches m address vendorId vendorId2 id) =
      (firstRun m address l).find? (isRequested m address vendorId vendorId2 id) := by
  refine find?_congr fun p hp => ?_
  rw [isRequested, hasId_of_mem_firstRun hp, Bool.true_and]

theorem exists_dvsecWalk (h : l.find? (hasId m address dvsecCap) = some d)
    (hpath : Path (extendedNext m address) (extendedStart m address) l none) :
    ∃ l', DvsecWalk m address vendorId vendorId2 id d l'
      ((firstRun m address l).find? (isRequested m address vendorId vendorId2 id)) := by
  obtain ⟨l', hl', hrun⟩ := firstRun_eq h hpath
  have hfiltered := hl'.filter (hasId m address dvsecCap)
  rw [filter_some, find?_some h, if_pos rfl, ← hrun] at hfiltered
  have hnext := hfiltered.congr fun p hp =>
    gnbLibFindNextPcieExtendedCapability_of_dvsec (hasId_of_mem_firstRun hp)
  rw [← find?_firstRun]
  exact ⟨_, hnext.walk _⟩

theorem firstRun_of_find?_eq_none (h : l.find? (hasId m address dvsecCap) = none) : firstRun m address l = [] := by
  rw [firstRun, dropWhile_eq_nil_iff.mpr fun p hp => by simpa using find?_eq_none.mp h p hp, takeWhile_nil]

theorem finds_iff_of_path (hpath : Path (extendedNext m address) (extendedStart m address) l none) :
    Finds m address vendorId vendorId2 id r ↔ ∃ pcie, (∃ fuel, gnbLibPciIsPcieDevice m address fuel = some pcie) ∧
      r = if pcie then (firstRun m address l).find? (isRequested m address vendorId vendorId2 id) else none := by
  have hext : ExtendedWalk m address _ (l.find? (hasId m address dvsecCap)) := hpath.walk _
  constructor
  · rintro ⟨k, q, hk, hq⟩
    refine ⟨q.isSome, ⟨4097, gnbLibPciIsPcieDevice_of_walk hk⟩, ?_⟩
    cases q with
    | none => exact hq
    | some c =>
      obtain ⟨j, d, hj, hd⟩ := hq
      obtain rfl := (hext.unique hj).2
      rw [isSome_some, if_pos rfl]
      cases hfind : l.find? (hasId m address dvsecCap) with
      | none =>
        rw [hfind] at hd
        rw [firstRun_of_find?_eq_none hfind]
        exact hd
      | some d =>
        rw [hfind] at hd
        obtain ⟨i, hi⟩ := hd
        obtain ⟨i', hi'⟩ := exists_dvsecWalk hfind hpath
        exact (hi.unique hi').2
  · rintro ⟨pcie, ⟨fuel, hfuel⟩, rfl⟩
    obtain ⟨k, q, hk, rfl⟩ := gnbLibPciIsPcieDevice_eq_some hfuel
    refine ⟨k, q, hk, ?_⟩
    cases q with
    | none => rfl
    | some c =>
      refine ⟨_, _, hext, ?_⟩
      rw [isSome_some, if_pos rfl]
      cases hfind : l.find? (hasId m address dvsecCap) with
      | none =>
        rw [firstRun_of_find?_eq_none hfind]
        rfl
      | some d => exact exists_dvsecWalk hfind hpath

/-- The search gives the first requested DVSEC of the list exactly when it stands among the first DVSECs in a row. -/
theorem cxlGetDvsec_first_iff {l : List (BitVec 12)}
    (hpath : Path (extendedNext m address) (extendedStart m address) l none) (vendorId vendorId2 id : BitVec 16) :
    (∃ fuel, cxlGetDvsec m address vendorId vendorId2 id fuel =
        some (l.find? (isRequested m address vendorId vendorId2 id))) ↔
      ∃ pcie, (∃ fuel, gnbLibPciIsPcieDevice m address fuel = some pcie) ∧
        l.find? (isRequested m address vendorId vendorId2 id) =
          if pcie then (firstRun m address l).find? (isRequested m address vendorId vendorId2 id) else none := by
  rw [← finds_iff_of_path hpath]
  exact ⟨fun ⟨_, h⟩ => finds_of_cxlGetDvsec h, fun h => ⟨4097, h.cxlGetDvsec_eq⟩⟩

/-- A DVSEC of another vendor, a capability that is no DVSEC, and the requested DVSEC. -/
def twoDvsecs : Mem :=
  device [(0x34, 0x40), (0x40, 0x10), (0x100, 0x11000023), (0x110, 0x12000001), (0x120, 0x23), (0x124, 0x1e98), (0x128, 8)]

theorem twoDvsecs_path : Path (extendedNext twoDvsecs 0) (extendedStart twoDvsecs 0) [0x100, 0x110, 0x120] none := by
  simp only [path_cons_iff, path_nil_iff]
  decide

theorem cxlGetDvsec_first_twoDvsecs :
    ∃ fuel, cxlGetDvsec twoDvsecs 0 0 0 0 fuel = some ([0x100, 0x110, 0x120].find? (isRequested twoDvsecs 0 0 0 0)) :=
  (cxlGetDvsec_first_iff twoDvsecs_path 0 0 0).mpr ⟨true, ⟨1, by decide⟩, by decide⟩

theorem twoDvsecs_second_missed :
    Path (extendedNext twoDvsecs 0) (extendedStart twoDvsecs 0) [0x100, 0x110, 0x120] none ∧
    [0x100, 0x110, 0x120].find? (isRequested twoDvsecs 0 0x1e98 0x1e98 8) = some 0x120 ∧
    cxlGetDvsec twoDvsecs 0 0x1e98 0x1e98 8 2 = some none :=
  ⟨twoDvsecs_path, by decide, by decide⟩

end OpenSil.Cxl
