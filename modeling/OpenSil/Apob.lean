import OpenSil.Status
import OpenSil.Lib.Bytes
import OpenSil.Lib.Tiling

/-! # Looking up an APOB entry -/

open OpenSil.Bytes OpenSil.Loop OpenSil.Tiling List

namespace OpenSil.Apob

def apobSignature : Nat := 0x424F5041

def apobEntryInstanceMax : Nat := 0xFF

def sizeofApobTypeHeader : Nat := 48

structure ApobLibInfo where
  supported : Bool
  apobSize : Nat
  apobAddr : Nat

def apobInit (m : Mem) (platformAddress : Nat) (gApobLibInfo : ApobLibInfo) (apobBaseAddress : Nat) :
    SilStatus × ApobLibInfo :=
  if gApobLibInfo.supported = false then
    let apobHeaderPtr := if apobBaseAddress ≠ 0 then apobBaseAddress else platformAddress
    if readLE m apobHeaderPtr 4 ≠ apobSignature then (.silUnsupported, gApobLibInfo)
    else if readLE m (apobHeaderPtr + 8) 4 = 0 ∨ readLE m (apobHeaderPtr + 8) 4 = 0xFFFFFFFF then
      (.silOutOfResources, gApobLibInfo)
    else (.silPass, ⟨true, readLE m (apobHeaderPtr + 8) 4, apobHeaderPtr⟩)
  else (.silPass, gApobLibInfo)

def amdGetApobInfo (m : Mem) (platformAddress : Nat) (gApobLibInfo : ApobLibInfo) (apobAddr : Nat) :
    SilStatus × ApobLibInfo :=
  if gApobLibInfo.supported = false then
    let r := apobInit m platformAddress gApobLibInfo apobAddr
    if r.1 ≠ .silPass then (.silOutOfResources, r.2) else (.silPass, r.2)
  else (.silPass, gApobLibInfo)

def collectEntry (m : Mem) (groupId dataTypeId : UInt32) (a : Nat) (apobEntries : List Nat) : List Nat ⊕ List Nat :=
  if readLE m a 4 = groupId.toNat ∧ readLE m (a + 4) 4 = dataTypeId.toNat then .inl (apobEntries ++ [a])
  else .inl apobEntries

def apobEntryTurn (m : Mem) (apobHeaderPtr : Nat) (groupId dataTypeId : UInt32) :
    Nat × List Nat → Turn (Nat × List Nat) (List Nat) :=
  walkTurn (apobHeaderPtr + readLE m (apobHeaderPtr + 8) 4) (fun a => readLE m (a + 12) 4)
    (collectEntry m groupId dataTypeId) id

/-- `AmdGetApobEntry`: its status, the addresses it puts in the caller's array, and `gApobLibInfo`. The outer `none` is
a walk that has not come to its end in `fuel` turns. -/
def amdGetApobEntry (m : Mem) (platformAddress fuel : Nat) (gApobLibInfo : ApobLibInfo) (groupId dataTypeId : UInt32)
    (apobBaseAddress : Nat) : Option (SilStatus × List Nat × ApobLibInfo) :=
  let info := amdGetApobInfo m platformAddress gApobLibInfo apobBaseAddress
  if info.1 ≠ .silPass then some (info.1, [], info.2)
  else if info.2.supported = false then some (.silUnsupported, [], info.2)
  else
    let apobHeaderPtr := info.2.apobAddr
    if 5 ≤ readLE m (apobHeaderPtr + 4) 4 then
      (run (apobEntryTurn m apobHeaderPtr groupId dataTypeId) fuel
        (apobHeaderPtr + readLE m (apobHeaderPtr + 12) 4, [])).map fun apobEntries =>
          (if apobEntries.length = 0 then .silNotFound else .silPass, apobEntries, info.2)
    else some (.silUnsupported, [], info.2)

def scanInstances (m : Mem) (instanceId : UInt32) (lclApobEntries : List Nat) : Nat × Option Nat :=
  lclApobEntries.foldl
    (fun s a => if readLE m (a + 8) 4 = instanceId.toNat then (s.1 + 1, some a) else s) (0, none)

inductive InstanceResult where
  | returned (status : SilStatus) (apobEntry : Option Nat)
  /-- More entries than the array on the stack holds: stores behind its end. -/
  | overrun
  deriving DecidableEq

/-- `AmdGetApobEntryInstance`, given up after `fuel` turns of the walk, with `gApobLibInfo` after it. -/
def amdGetApobEntryInstance (m : Mem) (platformAddress fuel : Nat) (gApobLibInfo : ApobLibInfo)
    (groupId dataTypeId instanceId : UInt32) (apobBaseAddress : Nat) : Option (InstanceResult × ApobLibInfo) :=
  (amdGetApobEntry m platformAddress fuel gApobLibInfo groupId dataTypeId apobBaseAddress).map fun r =>
    let lclApobEntries := r.2.1
    if apobEntryInstanceMax < lclApobEntries.length then (.overrun, r.2.2)
    else if lclApobEntries.length = 0 then (.returned .silNotFound none, r.2.2)
    else
      let scan := scanInstances m instanceId lclApobEntries
      if scan.1 = 0 then (.returned .silNotFound none, r.2.2)
      else if scan.1 = 1 then (.returned .silPass scan.2, r.2.2)
      else (.returned .silUnsupported none, r.2.2)

/-! ## Images -/

structure Entry where
  address : Nat
  groupId : UInt32
  dataTypeId : UInt32
  instanceId : UInt32
  typeSize : Nat

structure Entry.InMemory (m : Mem) (e : Entry) : Prop where
  groupId : readLE m e.address 4 = e.groupId.toNat
  dataTypeId : readLE m (e.address + 4) 4 = e.dataTypeId.toNat
  instanceId : readLE m (e.address + 8) 4 = e.instanceId.toNat
  typeSize : readLE m (e.address + 12) 4 = e.typeSize

/-- A well-formed image at `a`: a header that `ApobInit` accepts, of version 5 or later, and entries end to end from
`OffsetOfFirstEntry` up to `Size`. -/
structure Image (m : Mem) (a : Nat) (entries : List Entry) : Prop where
  signature : readLE m a 4 = apobSignature
  version : 5 ≤ readLE m (a + 4) 4
  size_ne_zero : readLE m (a + 8) 4 ≠ 0
  size_ne_erased : readLE m (a + 8) 4 ≠ 0xFFFFFFFF
  tiles : Tiles Entry.address Entry.typeSize (a + readLE m (a + 12) 4) entries (a + readLE m (a + 8) 4)
  inMemory : ∀ e ∈ entries, e.InMemory m
  header_le : ∀ e ∈ entries, sizeofApobTypeHeader ≤ e.typeSize

def ofType (groupId dataTypeId : UInt32) (entries : List Entry) : List Entry :=
  entries.filter fun e => e.groupId = groupId ∧ e.dataTypeId = dataTypeId

def ofTriple (groupId dataTypeId instanceId : UInt32) (entries : List Entry) : List Entry :=
  (ofType groupId dataTypeId entries).filter fun e => e.instanceId = instanceId

def apobAddress (platformAddress : Nat) (gApobLibInfo : ApobLibInfo) (apobBaseAddress : Nat) : Nat :=
  if gApobLibInfo.supported then gApobLibInfo.apobAddr
  else if apobBaseAddress ≠ 0 then apobBaseAddress else platformAddress

open Entry

section Walk

variable {m : Mem} {a platformAddress apobBaseAddress : Nat} {entries : List Entry} {gApobLibInfo : ApobLibInfo}

theorem amdGetApobInfo_of_image (h : Image m (apobAddress platformAddress gApobLibInfo apobBaseAddress) entries) :
    ∃ info, amdGetApobInfo m platformAddress gApobLibInfo apobBaseAddress = (.silPass, info) ∧
      info.supported = true ∧ info.apobAddr = apobAddress platformAddress gApobLibInfo apobBaseAddress := by
  obtain ⟨supported, apobSize, apobAddr⟩ := gApobLibInfo
  cases supported with
  | true => exact ⟨_, rfl, rfl, rfl⟩
  | false =>
    simp only [apobAddress, Bool.false_eq_true, if_false] at h ⊢
    simp only [amdGetApobInfo, apobInit, if_true]
    rw [if_neg (not_not.mpr h.signature), if_neg (not_or.mpr ⟨h.size_ne_zero, h.size_ne_erased⟩)]
    exact ⟨_, rfl, rfl, rfl⟩

theorem visitAll_collectEntry (groupId typeId : UInt32) (hmem : ∀ e ∈ entries, e.InMemory m) (acc : List Nat) :
    visitAll (collectEntry m groupId typeId) id (entries.map address) acc =
      acc ++ (ofType groupId typeId entries).map address := by
  induction entries generalizing acc with
  | nil => simp [visitAll, ofType]
  | cons e es ih =>
    have he := hmem e mem_cons_self
    have hes := ih fun x hx => hmem x (mem_cons_of_mem _ hx)
    simp only [map_cons, visitAll, collectEntry, he.groupId, he.dataTypeId, UInt32.toNat_inj]
    by_cases hmatch : e.groupId = groupId ∧ e.dataTypeId = typeId
    · rw [if_pos hmatch]
      simp only [hes, ofType, filter_cons, hmatch, and_self, decide_true, if_true, map_cons,
        append_assoc, singleton_append]
    · rw [if_neg hmatch]
      simp only [hes, ofType, filter_cons, hmatch, decide_false, Bool.false_eq_true, if_false]

theorem Image.walk_returns (h : Image m a entries) (groupId typeId : UInt32) :
    Returns (apobEntryTurn m a groupId typeId) (a + readLE m (a + 12) 4, [])
      ((ofType groupId typeId entries).map address) := by
  have hwalk : Returns (apobEntryTurn m a groupId typeId) (a + readLE m (a + 12) 4, [])
      (visitAll (collectEntry m groupId typeId) id (entries.map address) []) :=
    h.tiles.walk_returns (fun e he => lt_of_lt_of_le (by decide) (h.header_le e he))
      (fun e he => (h.inMemory e he).typeSize) []
  rwa [visitAll_collectEntry groupId typeId h.inMemory, nil_append] at hwalk

theorem scanInstances_eq (inst : UInt32) {es : List Entry} (hmem : ∀ e ∈ es, e.InMemory m) :
    scanInstances m inst (es.map address) =
      ((es.filter fun e => e.instanceId = inst).length,
        (es.filter fun e => e.instanceId = inst).getLast?.map address) := by
  -- Induction from the end: the scan keeps the last match.
  induction es using reverseRecOn with
  | nil => rfl
  | append_singleton es e ih =>
    have he := hmem e (by simp)
    have hes := ih fun x hx => hmem x (mem_append_left _ hx)
    rw [scanInstances] at hes ⊢
    rw [map_append, foldl_append, hes]
    simp only [map_cons, map_nil, foldl_cons, foldl_nil, he.instanceId, UInt32.toNat_inj,
      filter_append, filter_cons, filter_nil]
    by_cases hi : e.instanceId = inst <;> simp [hi]

def intendedResult : List Entry → InstanceResult
  | [] => .returned .silNotFound none
  | [e] => .returned .silPass (some e.address)
  | _ => .returned .silUnsupported none

theorem outcome_of_scan (inst : UInt32) {es : List Entry} (hmem : ∀ e ∈ es, e.InMemory m) :
    (if es.length = 0 then InstanceResult.returned .silNotFound none
      else if (scanInstances m inst (es.map address)).1 = 0 then .returned .silNotFound none
      else if (scanInstances m inst (es.map address)).1 = 1 then
        .returned .silPass (scanInstances m inst (es.map address)).2
      else .returned .silUnsupported none) =
    intendedResult (es.filter fun e => e.instanceId = inst) := by
  rw [scanInstances_eq inst hmem]
  by_cases hnil : es.length = 0
  · rw [length_eq_zero_iff] at hnil
    simp [hnil, intendedResult]
  · rw [if_neg hnil]
    generalize es.filter (fun e => e.instanceId = inst) = found
    rcases found with _ | ⟨e, _ | ⟨e', es'⟩⟩ <;> simp [intendedResult]

theorem amdGetApobEntryInstance_of_image
    (h : Image m (apobAddress platformAddress gApobLibInfo apobBaseAddress) entries)
    (groupId typeId inst : UInt32)
    (hmax : (ofType groupId typeId entries).length ≤ apobEntryInstanceMax) :
    ∃ fuel info, amdGetApobEntryInstance m platformAddress fuel gApobLibInfo groupId typeId inst
        apobBaseAddress = some (intendedResult (ofTriple groupId typeId inst entries), info) := by
  obtain ⟨info, hinfo, hsup, haddr⟩ := amdGetApobInfo_of_image h
  obtain ⟨fuel, hfuel⟩ := h.walk_returns groupId typeId
  refine ⟨fuel, info, ?_⟩
  have hentry : amdGetApobEntry m platformAddress fuel gApobLibInfo groupId typeId apobBaseAddress =
      some (if (ofType groupId typeId entries).length = 0 then .silNotFound else .silPass,
        (ofType groupId typeId entries).map address, info) := by
    simp only [amdGetApobEntry, hinfo, hsup, haddr, ne_eq, not_true_eq_false, if_false, Bool.true_eq_false,
      h.version, if_true, hfuel, Option.map_some, length_map]
  have hmem : ∀ e ∈ ofType groupId typeId entries, e.InMemory m :=
    fun e he => h.inMemory e (mem_of_mem_filter he)
  rw [amdGetApobEntryInstance, hentry, ofTriple, ← outcome_of_scan inst hmem]
  simp only [Option.map_some, length_map, if_neg (Nat.not_lt.mpr hmax)]
  split_ifs <;> rfl

end Walk

/-- On a well-formed image the lookup returns, and its answer says how many entries of the triple the image holds: one,
and then which, none, or several. -/
theorem apob_lookup (m : Mem) (platformAddress apobBaseAddress : Nat) (gApobLibInfo : ApobLibInfo)
    (entries : List Entry) (h : Image m (apobAddress platformAddress gApobLibInfo apobBaseAddress) entries)
    (groupId dataTypeId instanceId : UInt32)
    (hmax : (ofType groupId dataTypeId entries).length ≤ apobEntryInstanceMax) :
    ∃ fuel status apobEntry info,
      amdGetApobEntryInstance m platformAddress fuel gApobLibInfo groupId dataTypeId instanceId apobBaseAddress =
        some (.returned status apobEntry, info) ∧
      (∀ p, status = .silPass ∧ apobEntry = some p ↔
        ∃ e, ofTriple groupId dataTypeId instanceId entries = [e] ∧ e.address = p) ∧
      (status = .silPass ↔ (ofTriple groupId dataTypeId instanceId entries).length = 1) ∧
      (status = .silNotFound ∧ apobEntry = none ↔ ofTriple groupId dataTypeId instanceId entries = []) ∧
      (status = .silUnsupported ↔ 1 < (ofTriple groupId dataTypeId instanceId entries).length) := by
  obtain ⟨fuel, info, hrun⟩ := amdGetApobEntryInstance_of_image h groupId dataTypeId instanceId hmax
  generalize ofTriple groupId dataTypeId instanceId entries = found at hrun ⊢
  rcases found with _ | ⟨e, _ | ⟨e', es⟩⟩
  · exact ⟨fuel, _, _, info, hrun, by simp, by simp, by simp, by simp⟩
  · exact ⟨fuel, _, _, info, hrun, by simp, by simp, by simp, by simp⟩
  · exact ⟨fuel, _, _, info, hrun, by simp, by simp, by simp, by simp⟩

/-- An image at 0x1000 with one entry: group 1, type 2, instance 3. -/
def oneEntryImage : Mem :=
  let m : Mem := fun _ => 0
  let m := writeLE m 0x1000 4 apobSignature
  let m := writeLE m 0x1004 4 5
  let m := writeLE m 0x1008 4 64
  let m := writeLE m 0x100C 4 16
  let m := writeLE m 0x1010 4 1
  let m := writeLE m 0x1014 4 2
  let m := writeLE m 0x1018 4 3
  writeLE m 0x101C 4 48

theorem image_oneEntryImage : Image oneEntryImage 0x1000 [⟨0x1010, 1, 2, 3, 48⟩] where
  signature := by decide
  version := by decide
  size_ne_zero := by decide
  size_ne_erased := by decide
  tiles := ⟨by decide, by unfold Tiles; decide⟩
  inMemory := by
    intro e he
    obtain rfl := mem_singleton.mp he
    constructor <;> decide
  header_le := by
    intro e he
    obtain rfl := mem_singleton.mp he
    decide

theorem apob_lookup_oneEntryImage :
    ∃ fuel info, amdGetApobEntryInstance oneEntryImage 0 fuel ⟨false, 0, 0⟩ 1 2 3 0x1000 =
      some (.returned .silPass (some 0x1010), info) := by
  obtain ⟨fuel, status, apobEntry, info, hrun, hone, -⟩ := apob_lookup oneEntryImage 0 0x1000 ⟨false, 0, 0⟩
    [⟨0x1010, 1, 2, 3, 48⟩] image_oneEntryImage 1 2 3 (by decide)
  obtain ⟨rfl, rfl⟩ := (hone 0x1010).mpr ⟨_, rfl, rfl⟩
  exact ⟨fuel, info, hrun⟩

end OpenSil.Apob
