import Mathlib
import OpenSil.Mpio.AncData

/-! # The ancillary data in memory

All records of `AncData` go through one cursor into the buffer. Pointers are those of x86-64, and the cursor is cut to 32
bits.
-/

namespace OpenSil.Mpio.AncBlob

open List Function Nat

def sizeofRecord : UInt32 := 4

def sizeofGenericAncHeader : Nat := 4

/-! ## The first pass -/

def getPortAncDataTypeSize (type : UInt8) (port : AncPort) : UInt32 :=
  match port.ovrd with
  | none => 0
  | some ovrd => ovrd.foldl (fun size o =>
      if o.type = type then
        if o.type = ancPhyOvrd then size + sizeofRecord
        else if o.type = ancSpeedOvrd then size + sizeofRecord else size
      else size) 0

def mpioAncDataCalcSize (port : AncPort) : UInt32 :=
  let phyOvrdSize := getPortAncDataTypeSize ancPhyOvrd port
  let spdOvrdSize := getPortAncDataTypeSize ancSpeedOvrd port
  if phyOvrdSize + spdOvrdSize = 0 then 0
  else
    (if phyOvrdSize ≠ 0 then sizeofRecord + phyOvrdSize else 0) +
      (if spdOvrdSize ≠ 0 then sizeofRecord + spdOvrdSize else 0) + sizeofRecord + sizeofRecord

/-! ## The second pass -/

abbrev Records := Nat → Option Dword

def behind (dataEntry : Nat) : Nat := dataEntry % 2 ^ 32 + sizeofDword

def dwordOfs (ancillaryData p : Nat) : UInt16 := ((UInt32.ofNat p - UInt32.ofNat ancillaryData) >>> 2).toUInt16

structure Vars where
  mem : Records
  dataEntry : Nat
  phyOvrdHeader : Option Nat
  spdOvrdHeader : Option Nat
  phyDataSize : UInt32
  spdDataSize : UInt32
  phyId : UInt8

def Vars.put (v : Vars) (w : Dword) : Vars :=
  { v with mem := Function.update v.mem v.dataEntry (some w), dataEntry := behind v.dataEntry }

def addPhyOvrdData (v : Vars) (value : UInt32) : Vars :=
  let v := match v.phyOvrdHeader with
    | some _ => v
    | none => { v.put (.phyHeader v.phyId 0) with
        phyOvrdHeader := some v.dataEntry, phyDataSize := v.phyDataSize + sizeofRecord, phyId := v.phyId + 1 }
  { v.put (.phyData value) with phyDataSize := v.phyDataSize + sizeofRecord }

def addSpdOvrdData (v : Vars) (value : UInt32) (lane ovrdType : UInt8) : Vars :=
  let v := match v.spdOvrdHeader with
    | some _ => v
    | none => { v.put (.spdHeader lane ovrdType 0) with
        spdOvrdHeader := some v.dataEntry, spdDataSize := v.spdDataSize + sizeofRecord }
  { v.put (.spdData value) with spdDataSize := v.spdDataSize + sizeofRecord }

def addOvrd (port : AncPort) (v : Vars) (o : AncDataParam) : Vars :=
  if o.type = ancPhyOvrd then addPhyOvrdData v o.value
  else if o.type = ancSpeedOvrd then
    let lane := if port.startLane < port.endLane then port.startLane else port.endLane
    addSpdOvrdData v o.value lane (if port.engineType = mpioPcieEngine then 0 else 1)
  else v

def closeHeader (ancillaryData : Nat) (mem : Records) (header : Option Nat) (dataSize : UInt32) : Records × UInt16 :=
  match header with
  | some p =>
    if dataSize ≠ 0 then
      (Function.update mem p ((mem p).map (setLength dataSize.toNat)), dwordOfs ancillaryData p)
    else (mem, 0)
  | none => (mem, 0)

def addAncListData (v : Vars) (phyHeaderOfs spdHeaderOfs : UInt16) (id : UInt8) : Vars :=
  (v.put (.listHeader id)).put
    (if phyHeaderOfs ≠ 0 then .listData phyHeaderOfs (some spdHeaderOfs) else .listData spdHeaderOfs none)

/-- The state between two ports. `mpioAncDataIdx` has an entry for each port, `none` where nothing is assigned. -/
structure State where
  mem : Records
  dataEntry : Nat
  dataSize : UInt32
  phyId : UInt8
  ancListId : UInt8
  mpioAncDataIdx : List (Option UInt16)

def addAncPort (ancillaryData : Nat) (s : State) (port : AncPort) : State :=
  match port.ovrd with
  | none => { s with mpioAncDataIdx := s.mpioAncDataIdx ++ [none] }
  | some ovrd =>
    if port.engineType = mpioPcieEngine ∨ port.engineType = mpioSATAEngine then
      let v := ovrd.foldl (addOvrd port) ⟨s.mem, s.dataEntry, none, none, 0, 0, s.phyId⟩
      let (mem, phyHeaderOfs) := closeHeader ancillaryData v.mem v.phyOvrdHeader v.phyDataSize
      let (mem, spdHeaderOfs) := closeHeader ancillaryData mem v.spdOvrdHeader v.spdDataSize
      let dataSize := s.dataSize + v.phyDataSize + v.spdDataSize
      if v.phyDataSize + v.spdDataSize ≠ 0 then
        let list := addAncListData { v with mem := mem } phyHeaderOfs spdHeaderOfs s.ancListId
        ⟨list.mem, list.dataEntry, dataSize + sizeofRecord + sizeofRecord, v.phyId, s.ancListId + 1,
          s.mpioAncDataIdx ++ [some (dwordOfs ancillaryData v.dataEntry)]⟩
      else ⟨mem, v.dataEntry, dataSize, v.phyId, s.ancListId, s.mpioAncDataIdx ++ [none]⟩
    else { s with mpioAncDataIdx := s.mpioAncDataIdx ++ [none] }

def mpioAddAncDataOverride (mem : Records) (ancillaryData : Nat) (ports : List AncPort) : State :=
  ports.foldl (addAncPort ancillaryData) ⟨mem, ancillaryData + sizeofGenericAncHeader, 0, 0, 0, []⟩

/-! ## The records are those of `AncData` -/

def place (base i : Nat) : Nat := base + sizeofGenericAncHeader + sizeofDword * i

def Laid (base : Nat) (words : List Dword) (mem : Records) : Prop :=
  ∀ i, i < words.length → mem (place base i) = words[i]?

structure Shows (base : Nat) (e : Emission) (v : Vars) : Prop where
  laid : Laid base e.words v.mem
  dataEntry : v.dataEntry = place base e.words.length
  phyOvrdHeader : v.phyOvrdHeader = e.phyHeader.map (place base)
  spdOvrdHeader : v.spdOvrdHeader = e.spdHeader.map (place base)
  phyDataSize : v.phyDataSize = .ofNat e.phyDataSize
  spdDataSize : v.spdDataSize = .ofNat e.spdDataSize
  phyId : v.phyId = e.phyId

section
variable {base : Nat} {e : Emission} {v : Vars}

theorem place_succ (base n : Nat) : place base (n + 1) = place base n + 4 := rfl

theorem place_le_place (base : Nat) {i n : Nat} (h : i ≤ n) : place base i ≤ place base n := by
  unfold place
  gcongr

theorem place_inj {i j : Nat} : place base i = place base j ↔ i = j := by
  unfold place sizeofDword
  omega

section
variable {words : List Dword} {mem : Records}

theorem Laid.append (h : Laid base words mem) (w : Dword) :
    Laid base (words ++ [w]) (update mem (place base words.length) (some w)) := by
  intro i hi
  rw [length_append, length_singleton] at hi
  rcases Nat.lt_succ_iff_lt_or_eq.mp hi with hlt | rfl
  · rw [update_of_ne (place_inj.not.mpr hlt.ne), getElem?_append_left hlt]
    exact h i hlt
  · rw [update_self, getElem?_concat_length]

theorem Laid.modify (h : Laid base words mem) (i : Nat) (f : Dword → Dword) :
    Laid base (words.modify i f) (update mem (place base i) ((mem (place base i)).map f)) := by
  intro j hj
  rw [length_modify] at hj
  rw [getElem?_modify]
  rcases eq_or_ne i j with rfl | hne
  · simp [h i hj]
  · rw [update_of_ne (place_inj.not.mpr hne.symm), h j hj]
    simp [hne]

theorem Shows.put (h : Shows base e v) (w : Dword) (hfits : place base (e.words.length + 1) ≤ 2 ^ 32) :
    Shows base { e with words := e.words ++ [w] } (v.put w) := by
  refine { h with laid := ?_, dataEntry := ?_ }
  · rw [Vars.put, h.dataEntry]
    exact h.laid.append w
  · rw [Vars.put, h.dataEntry, behind, length_append, length_singleton, place_succ]
    rw [place_succ] at hfits
    rw [mod_eq_of_lt (by omega), sizeofDword]

theorem ofNat_add_sizeof (n : Nat) : UInt32.ofNat (n + sizeofDword) = UInt32.ofNat n + sizeofRecord :=
  UInt32.ofNat_add n 4

section
variable (h : Shows base e v)
include h

theorem Shows.addPhy (value : UInt32) (hfits : place base (Mpio.addPhyOvrdData e value).words.length ≤ 2 ^ 32) :
    Shows base (Mpio.addPhyOvrdData e value) (addPhyOvrdData v value) := by
  have hdata : ∀ {e : Emission} {v : Vars}, Shows base e v → place base (e.words.length + 1) ≤ 2 ^ 32 →
      Shows base { e with words := e.words ++ [.phyData value], phyDataSize := e.phyDataSize + sizeofDword }
        { v.put (.phyData value) with phyDataSize := v.phyDataSize + sizeofRecord } := fun h hfits =>
    { h.put (.phyData value) hfits with phyDataSize := by rw [h.phyDataSize, ofNat_add_sizeof] }
  unfold Mpio.addPhyOvrdData addPhyOvrdData at *
  rw [h.phyOvrdHeader]
  cases hheader : e.phyHeader with
  | some i =>
    rw [hheader] at hfits
    exact hdata h (by simpa using hfits)
  | none =>
    rw [hheader] at hfits
    simp only [length_append, length_singleton] at hfits
    have hheader := h.put (.phyHeader e.phyId 0) ((place_le_place base (by omega)).trans hfits)
    rw [h.phyId]
    refine hdata (e := { e with
      words := e.words ++ [.phyHeader e.phyId 0], phyHeader := some e.words.length
      phyDataSize := e.phyDataSize + sizeofDword, phyId := e.phyId + 1 }) { hheader with
      phyOvrdHeader := by rw [h.dataEntry]; rfl
      phyDataSize := by rw [h.phyDataSize, ofNat_add_sizeof]; rfl
      phyId := rfl } (by simpa using hfits)

theorem Shows.addSpd (value : UInt32) (lane ovrdType : UInt8)
    (hfits : place base (Mpio.addSpdOvrdData e value lane ovrdType).words.length ≤ 2 ^ 32) :
    Shows base (Mpio.addSpdOvrdData e value lane ovrdType) (addSpdOvrdData v value lane ovrdType) := by
  have hdata : ∀ {e : Emission} {v : Vars}, Shows base e v → place base (e.words.length + 1) ≤ 2 ^ 32 →
      Shows base { e with words := e.words ++ [.spdData value], spdDataSize := e.spdDataSize + sizeofDword }
        { v.put (.spdData value) with spdDataSize := v.spdDataSize + sizeofRecord } := fun h hfits =>
    { h.put (.spdData value) hfits with spdDataSize := by rw [h.spdDataSize, ofNat_add_sizeof] }
  unfold Mpio.addSpdOvrdData addSpdOvrdData at *
  rw [h.spdOvrdHeader]
  cases hheader : e.spdHeader with
  | some i =>
    rw [hheader] at hfits
    exact hdata h (by simpa using hfits)
  | none =>
    rw [hheader] at hfits
    simp only [length_append, length_singleton] at hfits
    have hheader := h.put (.spdHeader lane ovrdType 0) ((place_le_place base (by omega)).trans hfits)
    refine hdata (e := { e with
      words := e.words ++ [.spdHeader lane ovrdType 0], spdHeader := some e.words.length
      spdDataSize := e.spdDataSize + sizeofDword }) { hheader with
      spdOvrdHeader := by rw [h.dataEntry]; rfl
      spdDataSize := by rw [h.spdDataSize, ofNat_add_sizeof]; rfl } (by simpa using hfits)

theorem Shows.addOvrd (port : AncPort) (o : AncDataParam)
    (hfits : place base (Mpio.addOvrd port e o).words.length ≤ 2 ^ 32) :
    Shows base (Mpio.addOvrd port e o) (addOvrd port v o) := by
  unfold Mpio.addOvrd AncBlob.addOvrd at *
  by_cases hphy : o.type = ancPhyOvrd
  · simp only [hphy, if_true] at hfits ⊢
    exact h.addPhy o.value hfits
  by_cases hspd : o.type = ancSpeedOvrd
  · simp only [hspd, if_true] at hfits ⊢
    exact h.addSpd o.value _ _ hfits
  · simp only [hphy, hspd, if_false]
    exact h

theorem Shows.addAncListData (phyHeaderOfs spdHeaderOfs : UInt16) (id : UInt8)
    (hfits : place base (e.words.length + 2) ≤ 2 ^ 32) :
    Shows base { e with words := e.words ++ [.listHeader id,
        if phyHeaderOfs ≠ 0 then .listData phyHeaderOfs (some spdHeaderOfs) else .listData spdHeaderOfs none] }
      (addAncListData v phyHeaderOfs spdHeaderOfs id) := by
  have hheader := h.put (.listHeader id) ((place_le_place base (by omega)).trans hfits)
  have hdata := hheader.put (if phyHeaderOfs ≠ 0 then .listData phyHeaderOfs (some spdHeaderOfs)
    else .listData spdHeaderOfs none) (by simpa using hfits)
  rw [append_assoc] at hdata
  exact hdata

end

theorem addOvrd_extends (port : AncPort) (e : Emission) (o : AncDataParam) :
    e.words <+: (Mpio.addOvrd port e o).words := by
  unfold Mpio.addOvrd
  by_cases hphy : o.type = ancPhyOvrd
  · rw [if_pos hphy, Mpio.addPhyOvrdData]
    cases e.phyHeader with
    | some i => exact prefix_append ..
    | none => exact ⟨_, (append_assoc ..).symm⟩
  rw [if_neg hphy]
  by_cases hspd : o.type = ancSpeedOvrd
  · rw [if_pos hspd, Mpio.addSpdOvrdData]
    cases e.spdHeader with
    | some i => exact prefix_append ..
    | none => exact ⟨_, (append_assoc ..).symm⟩
  · rw [if_neg hspd]

theorem foldl_addOvrd_extends (port : AncPort) (ovrd : List AncDataParam) (e : Emission) :
    e.words <+: (ovrd.foldl (Mpio.addOvrd port) e).words := by
  induction ovrd generalizing e with
  | nil => exact prefix_rfl
  | cons o ovrd ih => exact (addOvrd_extends port e o).trans (ih _)

theorem Shows.foldl (h : Shows base e v) (port : AncPort) (ovrd : List AncDataParam)
    (hfits : place base (ovrd.foldl (Mpio.addOvrd port) e).words.length ≤ 2 ^ 32) :
    Shows base (ovrd.foldl (Mpio.addOvrd port) e) (ovrd.foldl (AncBlob.addOvrd port) v) := by
  induction ovrd generalizing e v with
  | nil => exact h
  | cons o ovrd ih =>
    have hstep := (place_le_place base (foldl_addOvrd_extends port ovrd _).length_le).trans hfits
    exact ih (h.addOvrd port o hstep) hfits

theorem dwordOfs_place (base i : Nat) : dwordOfs base (place base i) = .ofNat (i + 1) := by
  have hplace : place base i = 4 * (i + 1) + base := by
    unfold place sizeofGenericAncHeader sizeofDword
    omega
  rw [dwordOfs, hplace, UInt32.ofNat_add, UInt32.add_sub_cancel]
  apply UInt16.toNat_inj.mp
  simp only [UInt32.toNat_toUInt16, UInt32.toNat_shiftRight, UInt32.toNat_ofNat', UInt16.toNat_ofNat',
    shiftRight_eq_div_pow, UInt32.reduceToNat, reduceMod, reducePow]
  omega

theorem ofNat_eq_zero_iff {n : Nat} (h : n < 2 ^ 32) : UInt32.ofNat n = 0 ↔ n = 0 := by
  rw [← UInt32.toNat_inj, UInt32.toNat_ofNat', mod_eq_of_lt h]
  rfl

theorem Laid.closeHeader (h : Laid base words mem) (header : Option Nat) {size : Nat} (hsize : size < 2 ^ 32) :
    Laid base (Mpio.closeHeader words header size).1
        (AncBlob.closeHeader base mem (header.map (place base)) (.ofNat size)).1 ∧
      (AncBlob.closeHeader base mem (header.map (place base)) (.ofNat size)).2 = (Mpio.closeHeader words header size).2 := by
  unfold Mpio.closeHeader AncBlob.closeHeader
  cases header with
  | none => exact ⟨h, rfl⟩
  | some i =>
    simp only [Option.map_some, ne_eq, ofNat_eq_zero_iff hsize]
    by_cases hzero : size = 0
    · simpa only [hzero, not_true_eq_false, if_false, and_true] using h
    · simp only [hzero, not_false_eq_true, if_true, UInt32.toNat_ofNat', mod_eq_of_lt hsize]
      exact ⟨h.modify i _, dwordOfs_place base i⟩

end

end

structure Shown (base : Nat) (blob : Blob) (s : State) : Prop where
  laid : Laid base blob.words s.mem
  dataEntry : s.dataEntry = place base blob.words.length
  dataSize : s.dataSize = .ofNat blob.dataSize
  phyId : s.phyId = blob.phyId
  ancListId : s.ancListId = blob.ancListId
  mpioAncDataIdx : s.mpioAncDataIdx = blob.mpioAncDataIdx

theorem Shown.addAncPort {base : Nat} {blob : Blob} {s : State} (h : Shown base blob s) (port : AncPort)
    (hfits : place base (Mpio.addAncPort blob port).words.length ≤ 2 ^ 32) :
    Shown base (Mpio.addAncPort blob port) (addAncPort base s port) := by
  unfold Mpio.addAncPort AncBlob.addAncPort at *
  cases hovrd : port.ovrd with
  | none => exact { h with mpioAncDataIdx := by rw [h.mpioAncDataIdx] }
  | some ovrd =>
    rw [hovrd] at hfits
    by_cases hengine : port.engineType = mpioPcieEngine ∨ port.engineType = mpioSATAEngine
    · simp only [hengine, if_true] at hfits ⊢
      have hemits := (emits_nil blob.words blob.phyId).foldl port ovrd
      have hstart : Shows base ⟨blob.words, none, none, 0, 0, blob.phyId⟩ ⟨s.mem, s.dataEntry, none, none, 0, 0, s.phyId⟩ :=
        ⟨h.laid, h.dataEntry, rfl, rfl, rfl, rfl, h.phyId⟩
      generalize hv : ovrd.foldl (AncBlob.addOvrd port) ⟨s.mem, s.dataEntry, none, none, 0, 0, s.phyId⟩ = v
      generalize he : ovrd.foldl (Mpio.addOvrd port) ⟨blob.words, none, none, 0, 0, blob.phyId⟩ = e at *
      have hlength : (Mpio.closeHeader (Mpio.closeHeader e.words e.phyHeader e.phyDataSize).1 e.spdHeader
          e.spdDataSize).1.length = e.words.length := by rw [length_closeHeader, length_closeHeader]
      have hplace : place base e.words.length ≤ 2 ^ 32 := by
        refine (place_le_place base ?_).trans hfits
        split_ifs <;> simp [hlength]
      have hshows : Shows base e v := by
        rw [← he, ← hv]
        exact hstart.foldl port ovrd (he ▸ hplace)
      have hsize : e.phyDataSize + e.spdDataSize < 2 ^ 32 := by
        have hwords := hemits.length
        unfold place sizeofGenericAncHeader at hplace
        omega
      rw [hshows.phyOvrdHeader, hshows.spdOvrdHeader, hshows.phyDataSize, hshows.spdDataSize, ← UInt32.ofNat_add, h.dataSize,
        ← UInt32.ofNat_add, ← UInt32.ofNat_add, h.ancListId, h.mpioAncDataIdx]
      obtain ⟨hphy, hphyOfs⟩ := hshows.laid.closeHeader e.phyHeader (by omega : e.phyDataSize < 2 ^ 32)
      obtain ⟨hspd, hspdOfs⟩ := hphy.closeHeader e.spdHeader (by omega : e.spdDataSize < 2 ^ 32)
      rw [hphyOfs, hspdOfs]
      by_cases hzero : e.phyDataSize + e.spdDataSize = 0
      · rw [if_neg (not_not.mpr ((ofNat_eq_zero_iff hsize).mpr hzero)), if_neg (not_not.mpr hzero)]
        exact ⟨hspd, by rw [hlength, hshows.dataEntry], rfl, hshows.phyId, rfl, rfl⟩
      · rw [if_pos hzero, length_append, hlength] at hfits
        rw [if_pos ((ofNat_eq_zero_iff hsize).not.mpr hzero), if_pos hzero]
        have hclosed : Shows base { e with words := _ } { v with mem := _ } :=
          { hshows with laid := hspd, dataEntry := by rw [hlength, hshows.dataEntry] }
        have hlist := hclosed.addAncListData (Mpio.closeHeader e.words e.phyHeader e.phyDataSize).2
          (Mpio.closeHeader (Mpio.closeHeader e.words e.phyHeader e.phyDataSize).1 e.spdHeader e.spdDataSize).2
          blob.ancListId (by rwa [hlength])
        refine ⟨hlist.laid, hlist.dataEntry, ?_, hlist.phyId, rfl, ?_⟩
        · rw [ofNat_add_sizeof, ofNat_add_sizeof]
        · rw [hshows.dataEntry, dwordOfs_place, hlength]
    · simp only [hengine, if_false]
      exact { h with mpioAncDataIdx := by rw [h.mpioAncDataIdx] }

theorem length_le_addAncPort (blob : Blob) (port : AncPort) :
    blob.words.length ≤ (Mpio.addAncPort blob port).words.length := by
  unfold Mpio.addAncPort
  cases port.ovrd with
  | none => exact le_rfl
  | some ovrd =>
    have hle := (foldl_addOvrd_extends port ovrd ⟨blob.words, none, none, 0, 0, blob.phyId⟩).length_le
    dsimp only at hle ⊢
    split_ifs <;> simp only [length_append, length_closeHeader, le_refl] <;> omega

theorem length_le_foldl_addAncPort (ports : List AncPort) (blob : Blob) :
    blob.words.length ≤ (ports.foldl Mpio.addAncPort blob).words.length := by
  induction ports generalizing blob with
  | nil => exact le_rfl
  | cons port ports ih => exact (length_le_addAncPort blob port).trans (ih _)

theorem Shown.foldl {base : Nat} {blob : Blob} {s : State} (h : Shown base blob s)
    (ports : List AncPort) (hfits : place base (ports.foldl Mpio.addAncPort blob).words.length ≤ 2 ^ 32) :
    Shown base (ports.foldl Mpio.addAncPort blob) (ports.foldl (AncBlob.addAncPort base) s) := by
  induction ports generalizing blob s with
  | nil => exact h
  | cons port ports ih =>
    have hstep := (place_le_place base (length_le_foldl_addAncPort ports _)).trans hfits
    exact ih (h.addAncPort port hstep) hfits

theorem shown_mpioAddAncDataOverride (base : Nat) (mem : Records) (ports : List AncPort)
    (hfits : place base (Mpio.mpioAddAncDataOverride ports).words.length ≤ 2 ^ 32) :
    Shown base (Mpio.mpioAddAncDataOverride ports) (mpioAddAncDataOverride mem base ports) :=
  Shown.foldl ⟨fun _ hi => absurd hi (not_lt_zero _), rfl, rfl, rfl, rfl, rfl⟩ ports hfits

/-! ## The size of all records -/

theorem getPortAncDataTypeSize_eq_ofNat (type : UInt8) (port : AncPort) :
    getPortAncDataTypeSize type port = .ofNat (Mpio.getPortAncDataTypeSize type port) := by
  unfold getPortAncDataTypeSize Mpio.getPortAncDataTypeSize
  cases port.ovrd with
  | none => rfl
  | some ovrd =>
    refine foldl_hom UInt32.ofNat fun size o => ?_
    simp only [apply_ite UInt32.ofNat, ofNat_add_sizeof]

theorem mpioAncDataCalcSize_eq_ofNat {port : AncPort} (h : Mpio.mpioAncDataCalcSize port < 2 ^ 32) :
    mpioAncDataCalcSize port = .ofNat (Mpio.mpioAncDataCalcSize port) := by
  unfold mpioAncDataCalcSize Mpio.mpioAncDataCalcSize at *
  rw [getPortAncDataTypeSize_eq_ofNat, getPortAncDataTypeSize_eq_ofNat]
  generalize Mpio.getPortAncDataTypeSize ancPhyOvrd port = phy at *
  generalize Mpio.getPortAncDataTypeSize ancSpeedOvrd port = spd at *
  dsimp only at *
  have hsum : phy + spd < 2 ^ 32 := by
    split_ifs at h <;> omega
  have hrecord : sizeofRecord = .ofNat sizeofDword := rfl
  have hzero : (0 : UInt32) = .ofNat 0 := rfl
  simp only [hrecord, ← UInt32.ofNat_add, ofNat_eq_zero_iff hsum, ofNat_eq_zero_iff (by omega : phy < 2 ^ 32),
    ofNat_eq_zero_iff (by omega : spd < 2 ^ 32), ne_eq]
  simp only [hzero, ← apply_ite UInt32.ofNat, ← UInt32.ofNat_add]

theorem sum_mpioAncDataCalcSize {ports : List AncPort} (h : (ports.map Mpio.mpioAncDataCalcSize).sum < 2 ^ 32) :
    (ports.map mpioAncDataCalcSize).sum = .ofNat (ports.map Mpio.mpioAncDataCalcSize).sum := by
  induction ports with
  | nil => rfl
  | cons port ports ih =>
    simp only [map_cons, sum_cons] at h ⊢
    rw [ih (by omega), mpioAncDataCalcSize_eq_ofNat (by omega), UInt32.ofNat_add]

/-- The first pass announces what the second one returns, and the cursor has advanced by as much. -/
theorem calcSize_eq_dataSize (mem : Records) (ancillaryData : Nat) (ports : List AncPort)
    (hengine : ∀ port ∈ ports, port.engineType = mpioPcieEngine ∨ port.engineType = mpioSATAEngine)
    (hbelow : ancillaryData + sizeofGenericAncHeader + (ports.map Mpio.mpioAncDataCalcSize).sum ≤ 2 ^ 32) :
    (ports.map mpioAncDataCalcSize).sum = (mpioAddAncDataOverride mem ancillaryData ports).dataSize ∧
      (mpioAddAncDataOverride mem ancillaryData ports).dataEntry =
        ancillaryData + sizeofGenericAncHeader + (mpioAddAncDataOverride mem ancillaryData ports).dataSize.toNat := by
  have hemits : ports.filter (·.emits) = ports :=
    filter_eq_self.mpr fun port hport => decide_eq_true (hengine port hport)
  have hsize := dataSize_mpioAddAncDataOverride ports
  have hlength := length_mpioAddAncDataOverride ports
  rw [hemits] at hsize
  have hsum : (ports.map Mpio.mpioAncDataCalcSize).sum < 2 ^ 32 := by
    unfold sizeofGenericAncHeader at hbelow
    omega
  have hshown := shown_mpioAddAncDataOverride ancillaryData mem ports (by rwa [place, hlength, hsize])
  rw [hshown.dataSize, hsize, sum_mpioAncDataCalcSize hsum, hshown.dataEntry, place, hlength, hsize,
    UInt32.toNat_ofNat', mod_eq_of_lt hsum]
  exact ⟨rfl, rfl⟩

def interleavedPort : AncPort :=
  ⟨mpioPcieEngine, 0, 15, some [⟨ancPhyOvrd, 0⟩, ⟨ancSpeedOvrd, 0⟩, ⟨9, 0⟩, ⟨ancPhyOvrd, 0⟩]⟩

theorem calcSize_eq_dataSize_interleaved :
    ([interleavedPort].map mpioAncDataCalcSize).sum = (mpioAddAncDataOverride (fun _ => none) 4096 [interleavedPort]).dataSize ∧
      (mpioAddAncDataOverride (fun _ => none) 4096 [interleavedPort]).dataEntry =
        4096 + sizeofGenericAncHeader + (mpioAddAncDataOverride (fun _ => none) 4096 [interleavedPort]).dataSize.toNat :=
  calcSize_eq_dataSize (fun _ => none) 4096 [interleavedPort] (by decide) (by decide)

end OpenSil.Mpio.AncBlob
