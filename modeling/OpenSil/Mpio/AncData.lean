import OpenSil.Mpio.Topology
import Mathlib.Tactic

/-! # The size of the ancillary data

`MpioParsePlatformTopology` adds up the size of the ancillary data port by port.
-/

namespace OpenSil.Mpio

open List Nat

structure AncDataParam where
  type : UInt8
  value : UInt32
  deriving DecidableEq

structure AncPort where
  engineType : UInt8
  startLane : UInt8
  endLane : UInt8
  ovrd : Option (List AncDataParam)

def mpioSATAEngine : UInt8 := 3
def ancPhyOvrd : UInt8 := 3
def ancSpeedOvrd : UInt8 := 7

/-- What is written, one constructor for a record of 4 bytes; the second offset of a list is not always written. -/
inductive Dword where
  | ancillary (id length : UInt8)
  | phyHeader (id length : UInt8)
  | phyData (value : UInt32)
  | spdHeader (lane ovrdType length : UInt8)
  | spdData (value : UInt32)
  | listHeader (id : UInt8)
  | listData (elementOfs0 : UInt16) (elementOfs1 : Option UInt16)
  deriving DecidableEq

def sizeofDword : Nat := 4

/-! ## The first pass -/

def getPortAncDataTypeSize (type : UInt8) (port : AncPort) : Nat :=
  match port.ovrd with
  | none => 0
  | some ovrd => ovrd.foldl (fun size o =>
      if o.type = type then
        if o.type = ancPhyOvrd then size + sizeofDword else if o.type = ancSpeedOvrd then size + sizeofDword else size
      else size) 0

def mpioAncDataCalcSize (port : AncPort) : Nat :=
  let phyOvrdSize := getPortAncDataTypeSize ancPhyOvrd port
  let spdOvrdSize := getPortAncDataTypeSize ancSpeedOvrd port
  if phyOvrdSize + spdOvrdSize = 0 then 0
  else
    (if phyOvrdSize ≠ 0 then sizeofDword + phyOvrdSize else 0) + (if spdOvrdSize ≠ 0 then sizeofDword + spdOvrdSize else 0) +
      sizeofDword + sizeofDword

/-! ## The second pass -/

structure Emission where
  words : List Dword
  phyHeader : Option Nat
  spdHeader : Option Nat
  phyDataSize : Nat
  spdDataSize : Nat
  phyId : UInt8

def addPhyOvrdData (e : Emission) (value : UInt32) : Emission :=
  let e := match e.phyHeader with
    | some _ => e
    | none => { e with words := e.words ++ [Dword.phyHeader e.phyId 0]
                       phyHeader := some e.words.length
                       phyDataSize := e.phyDataSize + sizeofDword
                       phyId := e.phyId + 1 }
  { e with words := e.words ++ [Dword.phyData value], phyDataSize := e.phyDataSize + sizeofDword }

def addSpdOvrdData (e : Emission) (value : UInt32) (lane ovrdType : UInt8) : Emission :=
  let e := match e.spdHeader with
    | some _ => e
    | none => { e with words := e.words ++ [Dword.spdHeader lane ovrdType 0]
                       spdHeader := some e.words.length
                       spdDataSize := e.spdDataSize + sizeofDword }
  { e with words := e.words ++ [Dword.spdData value], spdDataSize := e.spdDataSize + sizeofDword }

def addOvrd (port : AncPort) (e : Emission) (o : AncDataParam) : Emission :=
  if o.type = ancPhyOvrd then addPhyOvrdData e o.value
  else if o.type = ancSpeedOvrd then
    let lane := if port.startLane < port.endLane then port.startLane else port.endLane
    addSpdOvrdData e o.value lane (if port.engineType = mpioPcieEngine then 0 else 1)
  else e

def setLength (size : Nat) : Dword → Dword
  | .phyHeader id _ => .phyHeader id (.ofNat (size / 4))
  | .spdHeader lane ovrdType _ => .spdHeader lane ovrdType (.ofNat (size / 4))
  | word => word

def closeHeader (words : List Dword) (header : Option Nat) (size : Nat) : List Dword × UInt16 :=
  match header with
  | some index => if size ≠ 0 then (words.modify index (setLength size), .ofNat (index + 1)) else (words, 0)
  | none => (words, 0)

/-- The blob so far: the words, `DataSize`, the two ids, and the index that each port gets. -/
structure Blob where
  words : List Dword
  dataSize : Nat
  phyId : UInt8
  ancListId : UInt8
  mpioAncDataIdx : List (Option UInt16)

def addAncPort (blob : Blob) (port : AncPort) : Blob :=
  match port.ovrd with
  | none => { blob with mpioAncDataIdx := blob.mpioAncDataIdx ++ [none] }
  | some ovrd =>
    if port.engineType = mpioPcieEngine ∨ port.engineType = mpioSATAEngine then
      let e := ovrd.foldl (addOvrd port) ⟨blob.words, none, none, 0, 0, blob.phyId⟩
      let (words, phyHeaderOfs) := closeHeader e.words e.phyHeader e.phyDataSize
      let (words, spdHeaderOfs) := closeHeader words e.spdHeader e.spdDataSize
      let dataSize := blob.dataSize + e.phyDataSize + e.spdDataSize
      if e.phyDataSize + e.spdDataSize ≠ 0 then
        let list := if phyHeaderOfs ≠ 0 then Dword.listData phyHeaderOfs (some spdHeaderOfs) else .listData spdHeaderOfs none
        { words := words ++ [.listHeader blob.ancListId, list]
          dataSize := dataSize + sizeofDword + sizeofDword
          phyId := e.phyId
          ancListId := blob.ancListId + 1
          mpioAncDataIdx := blob.mpioAncDataIdx ++ [some (.ofNat (words.length + 1))] }
      else { blob with words := words, dataSize := dataSize, phyId := e.phyId
                       mpioAncDataIdx := blob.mpioAncDataIdx ++ [none] }
    else { blob with mpioAncDataIdx := blob.mpioAncDataIdx ++ [none] }

def mpioAddAncDataOverride (ports : List AncPort) : Blob := ports.foldl addAncPort ⟨[], 0, 0, 0, []⟩

def mpioCfgAddStrapList : Nat := 0

def initGlobalAncillaryData (socketId : UInt8) (ports : List AncPort) : List Dword × Nat :=
  let blob := mpioAddAncDataOverride ports
  let strapListSize := mpioCfgAddStrapList + blob.dataSize
  if strapListSize ≠ 0 then
    let globalDataSize := strapListSize + sizeofDword
    (.ancillary socketId (.ofNat (globalDataSize / 4)) :: blob.words, globalDataSize)
  else (blob.words, 0)

/-! ## The parser -/

def getGlobalAncillaryDataSize : Nat := 0

def translatedPorts (translates : AncPort → Bool) (ports : List AncPort) : List AncPort :=
  ports.map fun port => if translates port then port else { port with engineType := mpioUnusedEngine }

/-- The outcome, as far as it is about ancillary data. `written` is `none` if no blob is written. -/
structure AncResult where
  askInstanceCount : Nat
  extAttributeSize : Nat
  written : Option (List Dword)
  mismatch : Bool

def mpioParsePlatformTopology (mpioAncDataSupport : Bool) (socketId : UInt8) (translates : AncPort → Bool)
    (socketTopology : List AncPort) : AncResult :=
  let globalSize := if mpioAncDataSupport then getGlobalAncillaryDataSize else 0
  let ports := translatedPorts translates socketTopology
  let asked := ports.filter (·.engineType ≠ mpioUnusedEngine)
  let ancillaryDataSize := globalSize + (asked.map mpioAncDataCalcSize).sum
  if asked.length ≠ 0 ∧ ancillaryDataSize ≠ 0 then
    let (words, size) := initGlobalAncillaryData socketId ports
    ⟨asked.length, ancillaryDataSize, some words, globalSize ≠ size⟩
  else ⟨asked.length, 0, none, false⟩

/-- The size that is reported is that of the words written. -/
def AncResult.Exact (r : AncResult) : Prop :=
  ∀ words, r.written = some words → r.extAttributeSize = sizeofDword * words.length ∧ r.mismatch = false

/-! ## The overrides of one port -/

def countOvrd (type : UInt8) (ovrd : List AncDataParam) : Nat := ovrd.countP (·.type = type)

def groupSize (n : Nat) : Nat := if n = 0 then 0 else sizeofDword + sizeofDword * n

theorem countOvrd_append_singleton (type : UInt8) (ovrd : List AncDataParam) (o : AncDataParam) :
    countOvrd type (ovrd ++ [o]) = countOvrd type ovrd + if o.type = type then 1 else 0 := by
  simp [countOvrd, countP_append, countP_cons]

theorem groupSize_succ (n : Nat) : groupSize (n + 1) = groupSize n + sizeofDword + if n = 0 then sizeofDword else 0 := by
  unfold groupSize sizeofDword
  by_cases h : n = 0
  · simp [h]
  · simp only [h, Nat.add_eq_zero_iff, if_false, false_and]
    omega

theorem groupSize_eq_zero {n : Nat} : groupSize n = 0 ↔ n = 0 := by
  unfold groupSize sizeofDword
  split_ifs with h
  · simp [h]
  · constructor
    · omega
    · exact fun hn => absurd hn h

theorem getPortAncDataTypeSize_eq {type : UInt8} (htype : type = ancPhyOvrd ∨ type = ancSpeedOvrd) (port : AncPort) :
    getPortAncDataTypeSize type port = sizeofDword * (port.ovrd.elim 0 (countOvrd type)) := by
  unfold getPortAncDataTypeSize
  cases port.ovrd with
  | none => rfl
  | some ovrd =>
    have run : ∀ (l : List AncDataParam) (size : Nat), l.foldl (fun size o =>
        if o.type = type then
          if o.type = ancPhyOvrd then size + sizeofDword
          else if o.type = ancSpeedOvrd then size + sizeofDword else size
        else size) size = size + sizeofDword * countOvrd type l := by
      intro l
      induction l with
      | nil => simp [countOvrd]
      | cons o l ih =>
        intro size
        rw [foldl_cons, ih]
        unfold countOvrd sizeofDword
        rw [countP_cons]
        by_cases ho : o.type = type
        · grind
        · simp [ho]
    simpa using run ovrd 0

theorem mpioAncDataCalcSize_eq (port : AncPort) :
    mpioAncDataCalcSize port =
      let phy := port.ovrd.elim 0 (countOvrd ancPhyOvrd)
      let spd := port.ovrd.elim 0 (countOvrd ancSpeedOvrd)
      if phy + spd = 0 then 0 else groupSize phy + groupSize spd + 2 * sizeofDword := by
  unfold mpioAncDataCalcSize groupSize sizeofDword
  rw [getPortAncDataTypeSize_eq (.inl rfl), getPortAncDataTypeSize_eq (.inr rfl)]
  unfold sizeofDword
  dsimp only
  split_ifs <;> omega

structure Emits (words : List Dword) (ovrd : List AncDataParam) (e : Emission) : Prop where
  length : sizeofDword * e.words.length = sizeofDword * words.length + e.phyDataSize + e.spdDataSize
  phySize : e.phyDataSize = groupSize (countOvrd ancPhyOvrd ovrd)
  spdSize : e.spdDataSize = groupSize (countOvrd ancSpeedOvrd ovrd)
  phyHeader : e.phyHeader = none ↔ countOvrd ancPhyOvrd ovrd = 0
  spdHeader : e.spdHeader = none ↔ countOvrd ancSpeedOvrd ovrd = 0

theorem emits_nil (words : List Dword) (phyId : UInt8) : Emits words [] ⟨words, none, none, 0, 0, phyId⟩ :=
  ⟨rfl, rfl, rfl, by simp [countOvrd], by simp [countOvrd]⟩

section
variable {words : List Dword} {ovrd : List AncDataParam} {e : Emission} {o : AncDataParam}

section
variable (h : Emits words ovrd e)
include h

theorem Emits.addPhy (ho : o.type = ancPhyOvrd) :
    Emits words (ovrd ++ [o]) (addPhyOvrdData e o.value) := by
  obtain ⟨hlength, hphy, hspd, hphyHeader, hspdHeader⟩ := h
  have hne : ¬o.type = ancSpeedOvrd := by rw [ho]; decide
  unfold addPhyOvrdData
  cases hheader : e.phyHeader with
  | none =>
    have hzero := hphyHeader.mp hheader
    constructor <;> simp [countOvrd_append_singleton, groupSize_succ, *] <;> grind
  | some index =>
    have hpos : countOvrd ancPhyOvrd ovrd ≠ 0 := fun hz => by simp [hphyHeader.mpr hz] at hheader
    constructor <;> simp [countOvrd_append_singleton, groupSize_succ, *] <;> grind

theorem Emits.addSpd (ho : o.type = ancSpeedOvrd) (lane ovrdType : UInt8) :
    Emits words (ovrd ++ [o]) (addSpdOvrdData e o.value lane ovrdType) := by
  obtain ⟨hlength, hphy, hspd, hphyHeader, hspdHeader⟩ := h
  have hne : ¬o.type = ancPhyOvrd := by rw [ho]; decide
  unfold addSpdOvrdData
  cases hheader : e.spdHeader with
  | none =>
    have hzero := hspdHeader.mp hheader
    constructor <;> simp [countOvrd_append_singleton, groupSize_succ, *] <;> grind
  | some index =>
    have hpos : countOvrd ancSpeedOvrd ovrd ≠ 0 := fun hz => by simp [hspdHeader.mpr hz] at hheader
    constructor <;> simp [countOvrd_append_singleton, groupSize_succ, *] <;> grind

theorem Emits.addOvrd (port : AncPort) (o : AncDataParam) :
    Emits words (ovrd ++ [o]) (addOvrd port e o) := by
  unfold Mpio.addOvrd
  by_cases hphy : o.type = ancPhyOvrd
  · rw [if_pos hphy]
    exact h.addPhy hphy
  rw [if_neg hphy]
  by_cases hspd : o.type = ancSpeedOvrd
  · rw [if_pos hspd]
    exact h.addSpd hspd _ _
  rw [if_neg hspd]
  obtain ⟨hlength, hphySize, hspdSize, hphyHeader, hspdHeader⟩ := h
  constructor <;> simp [countOvrd_append_singleton, *]

theorem Emits.foldl (port : AncPort) (rest : List AncDataParam) :
    Emits words (ovrd ++ rest) (rest.foldl (Mpio.addOvrd port) e) := by
  induction rest generalizing ovrd e with
  | nil => simpa using h
  | cons o rest ih => simpa using ih (h.addOvrd port o)

end

end

/-! ## The whole blob -/

def AncPort.emits (port : AncPort) : Bool :=
  port.engineType = mpioPcieEngine ∨ port.engineType = mpioSATAEngine

theorem length_closeHeader (words : List Dword) (header : Option Nat) (size : Nat) :
    (closeHeader words header size).1.length = words.length := by
  unfold closeHeader
  split
  · split_ifs <;> simp
  · rfl

theorem dataSize_addAncPort (blob : Blob) (port : AncPort) :
    (addAncPort blob port).dataSize = blob.dataSize + if port.emits then mpioAncDataCalcSize port else 0 := by
  rw [mpioAncDataCalcSize_eq]
  unfold addAncPort AncPort.emits
  cases hovrd : port.ovrd with
  | none => simp
  | some ovrd =>
    by_cases hengine : port.engineType = mpioPcieEngine ∨ port.engineType = mpioSATAEngine
    · have he := (emits_nil blob.words blob.phyId).foldl port ovrd
      rw [List.nil_append] at he
      have hzero : countOvrd ancPhyOvrd ovrd + countOvrd ancSpeedOvrd ovrd = 0 ↔
          groupSize (countOvrd ancPhyOvrd ovrd) + groupSize (countOvrd ancSpeedOvrd ovrd) = 0 := by
        simp [Nat.add_eq_zero_iff, groupSize_eq_zero]
      simp only [hengine, if_true, he.phySize, he.spdSize, Option.elim_some, decide_true, hzero]
      split_ifs <;> simp_all <;> omega
    · simp [hengine]

theorem length_addAncPort (blob : Blob) (port : AncPort) (h : sizeofDword * blob.words.length = blob.dataSize) :
    sizeofDword * (addAncPort blob port).words.length = (addAncPort blob port).dataSize := by
  unfold addAncPort
  cases hovrd : port.ovrd with
  | none => exact h
  | some ovrd =>
    by_cases hengine : port.engineType = mpioPcieEngine ∨ port.engineType = mpioSATAEngine
    · have he := ((emits_nil blob.words blob.phyId).foldl port ovrd).length
      simp only [hengine, if_true]
      split_ifs <;> simp [length_closeHeader, mul_add] <;> omega
    · simpa [hengine] using h

theorem foldl_addAncPort (ports : List AncPort) (blob : Blob) (h : sizeofDword * blob.words.length = blob.dataSize) :
    sizeofDword * (ports.foldl addAncPort blob).words.length = (ports.foldl addAncPort blob).dataSize ∧
    (ports.foldl addAncPort blob).dataSize = blob.dataSize + ((ports.filter (·.emits)).map mpioAncDataCalcSize).sum := by
  induction ports generalizing blob with
  | nil => exact ⟨h, by simp⟩
  | cons port ports ih =>
    obtain ⟨hlength, hsize⟩ := ih _ (length_addAncPort blob port h)
    refine ⟨hlength, hsize.trans ?_⟩
    rw [dataSize_addAncPort]
    by_cases hp : port.emits
    · simp only [hp, filter_cons_of_pos, map_cons, sum_cons, if_true]
      omega
    · simp [hp]

theorem length_mpioAddAncDataOverride (ports : List AncPort) :
    sizeofDword * (mpioAddAncDataOverride ports).words.length = (mpioAddAncDataOverride ports).dataSize :=
  (foldl_addAncPort ports _ rfl).1

theorem dataSize_mpioAddAncDataOverride (ports : List AncPort) :
    (mpioAddAncDataOverride ports).dataSize = ((ports.filter (·.emits)).map mpioAncDataCalcSize).sum := by
  unfold mpioAddAncDataOverride
  rw [(foldl_addAncPort ports _ rfl).2, zero_add]

theorem initGlobalAncillaryData_size (socketId : UInt8) (ports : List AncPort) :
    (initGlobalAncillaryData socketId ports).2 = sizeofDword * (initGlobalAncillaryData socketId ports).1.length := by
  have h := length_mpioAddAncDataOverride ports
  unfold initGlobalAncillaryData mpioCfgAddStrapList
  dsimp only
  split_ifs with hsize
  · simp only [length_cons]
    unfold sizeofDword at h ⊢
    omega
  · show 0 = sizeofDword * (mpioAddAncDataOverride ports).words.length
    omega

theorem mpioAncDataCalcSize_eq_zero (port : AncPort) :
    mpioAncDataCalcSize port = 0 ↔
      ∀ ovrd, port.ovrd = some ovrd → ∀ o ∈ ovrd, o.type ≠ ancPhyOvrd ∧ o.type ≠ ancSpeedOvrd := by
  rw [mpioAncDataCalcSize_eq]
  cases port.ovrd with
  | none => simp
  | some ovrd =>
    have hsize : 0 < 2 * sizeofDword := by decide
    have hcount : countOvrd ancPhyOvrd ovrd + countOvrd ancSpeedOvrd ovrd = 0 ↔
        ∀ o ∈ ovrd, o.type ≠ ancPhyOvrd ∧ o.type ≠ ancSpeedOvrd := by
      simp only [countOvrd, Nat.add_eq_zero_iff, List.countP_eq_zero, decide_eq_true_eq]
      exact ⟨fun h o ho => ⟨h.1 o ho, h.2 o ho⟩, fun h => ⟨fun o ho => (h o ho).1, fun o ho => (h o ho).2⟩⟩
    simp only [Option.some.injEq, forall_eq', ← hcount]
    show (if countOvrd ancPhyOvrd ovrd + countOvrd ancSpeedOvrd ovrd = 0 then 0
      else groupSize (countOvrd ancPhyOvrd ovrd) + groupSize (countOvrd ancSpeedOvrd ovrd) + 2 * sizeofDword) = 0 ↔ _
    rw [ite_eq_left_iff]
    omega

variable {ports : List AncPort} {translates : AncPort → Bool}

theorem mem_asked {port : AncPort} :
    port ∈ (translatedPorts translates ports).filter (·.engineType ≠ mpioUnusedEngine) ↔
      port ∈ ports ∧ port.engineType ≠ mpioUnusedEngine ∧ translates port = true := by
  simp only [translatedPorts, mem_filter, mem_map, decide_eq_true_eq]
  constructor
  · grind
  · grind

variable {socketId : UInt8} {support : Bool}

theorem mpioParsePlatformTopology_of_size_zero
    (h : (((translatedPorts translates ports).filter (·.engineType ≠ mpioUnusedEngine)).map mpioAncDataCalcSize).sum = 0) :
    (mpioParsePlatformTopology support socketId translates ports).written = none := by
  unfold mpioParsePlatformTopology getGlobalAncillaryDataSize
  simp only [ite_self, zero_add, h, ne_eq, not_true_eq_false, and_false, if_false]

theorem mpioParsePlatformTopology_of_size_ne_zero
    (h : (((translatedPorts translates ports).filter (·.engineType ≠ mpioUnusedEngine)).map mpioAncDataCalcSize).sum ≠ 0) :
    ¬(mpioParsePlatformTopology support socketId translates ports).Exact := by
  have hasked : ((translatedPorts translates ports).filter (·.engineType ≠ mpioUnusedEngine)).length ≠ 0 := by
    intro hnil
    rw [length_eq_zero_iff.mp hnil] at h
    exact h rfl
  have hwritten := initGlobalAncillaryData_size socketId (translatedPorts translates ports)
  unfold mpioParsePlatformTopology getGlobalAncillaryDataSize
  simp only [ite_self, zero_add, h, hasked, ne_eq, not_false_eq_true, and_self, if_true]
  intro hexact
  obtain ⟨hsize, hmismatch⟩ := hexact _ rfl
  -- no mismatch means that the size returned is 0, so that nothing is written
  have hzero : (initGlobalAncillaryData socketId (translatedPorts translates ports)).2 = 0 := by
    exact (not_not.mp (of_decide_eq_false hmismatch)).symm
  rw [← hwritten, hzero] at hsize
  exact h hsize

/-- The size is exact only where no port that is asked for has a PHY or speed override. -/
theorem ancillary_size_exact_iff (mpioAncDataSupport : Bool) (socketId : UInt8) (translates : AncPort → Bool)
    (ports : List AncPort) :
    (mpioParsePlatformTopology mpioAncDataSupport socketId translates ports).Exact ↔
      ∀ port ∈ ports, port.engineType ≠ mpioUnusedEngine → translates port = true →
        ∀ ovrd, port.ovrd = some ovrd → ∀ o ∈ ovrd, o.type ≠ ancPhyOvrd ∧ o.type ≠ ancSpeedOvrd := by
  have hsum : (((translatedPorts translates ports).filter (·.engineType ≠ mpioUnusedEngine)).map
      mpioAncDataCalcSize).sum = 0 ↔ ∀ port ∈ ports, port.engineType ≠ mpioUnusedEngine → translates port = true →
        ∀ ovrd, port.ovrd = some ovrd → ∀ o ∈ ovrd, o.type ≠ ancPhyOvrd ∧ o.type ≠ ancSpeedOvrd := by
    rw [sum_eq_zero_iff, forall_mem_map]
    simp only [mem_asked, mpioAncDataCalcSize_eq_zero]
    exact ⟨fun h port hport hused ht => h port ⟨hport, hused, ht⟩, fun h port hp => h port hp.1 hp.2.1 hp.2.2⟩
  rw [← hsum]
  constructor
  · exact fun h => not_not.mp fun hne => mpioParsePlatformTopology_of_size_ne_zero hne h
  · intro h words hwritten
    rw [mpioParsePlatformTopology_of_size_zero h] at hwritten
    cases hwritten

def phyOvrdPort : AncPort := ⟨mpioPcieEngine, 0, 15, some [⟨ancPhyOvrd, 0⟩]⟩

/-- 16 bytes are announced, 20 are written, and the mismatch is reported. -/
theorem header_not_counted :
    let r := mpioParsePlatformTopology true 0 (fun _ => true) [phyOvrdPort]
    r.extAttributeSize = 16 ∧ r.written.map List.length = some 5 ∧ r.mismatch = true ∧ ¬r.Exact := by
  refine ⟨by decide, by decide, by decide, fun h => ?_⟩
  exact absurd (h _ rfl).2 (by decide)

end OpenSil.Mpio
