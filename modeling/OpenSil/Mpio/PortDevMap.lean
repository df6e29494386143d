import OpenSil.Status
import OpenSil.Lib.Slots
import OpenSil.Lib.Stores
import Mathlib.Data.Fin.VecNotation

/-! # Device and function numbers of the PCIe bridges -/

namespace OpenSil.Mpio

open List Function Option

def devFunc (device : BitVec 5) (function : BitVec 3) : BitVec 8 := device ++ function

abbrev PortDevMap := Fin 24 → BitVec 8

def defaultPortDevMap : PortDevMap :=
  ![devFunc 1 1, devFunc 1 2, devFunc 1 3, devFunc 1 4, devFunc 1 5, devFunc 1 6, devFunc 1 7, devFunc 2 1,
    devFunc 2 2, devFunc 3 1, devFunc 3 2, devFunc 3 3, devFunc 3 4, devFunc 3 5, devFunc 3 6, devFunc 3 7,
    devFunc 4 1, devFunc 4 2, devFunc 5 1, devFunc 5 2, devFunc 5 3, devFunc 5 4, devFunc 7 1, devFunc 7 2]

structure PortConfig where
  portId : BitVec 4
  pcieBridgeId : BitVec 7
  nativeDevNumber : BitVec 5
  nativeFunNumber : BitVec 3
  initStatus : UInt16

structure PciAddr where
  segment : UInt8
  bus : UInt8
  device : BitVec 5
  function : BitVec 3
  deriving DecidableEq

structure PortData where
  deviceNumber : BitVec 5
  functionNumber : BitVec 3
  address : PciAddr

def initStatusPcieTrainingSuccess : UInt16 := 0x8

def defaultIndex (value : BitVec 8) : Option (Fin 24) := (List.finRange 24).find? (defaultPortDevMap · = value)

def pcieCheckPortPciDeviceMapping (value : BitVec 8) : Bool := (defaultIndex value).isSome

def chosenNumbers (config : PortConfig) (device : BitVec 5) (function : BitVec 3) : BitVec 5 × BitVec 3 :=
  if device = 0 ∧ function = 0 then (config.nativeDevNumber, config.nativeFunNumber) else (device, function)

def nativeIfZero (config : PortConfig) (port : PortData) : PortData :=
  let (device, function) := chosenNumbers config port.deviceNumber port.functionNumber
  { port with deviceNumber := device, functionNumber := function }

/-- `swap` is `SwapLogicalBridgeId` for this engine. -/
def pcieMapPortPciAddress {Ids : Type} (swap : Fin 24 → Ids → Ids) (config : PortConfig) (port : PortData)
    (portDevMap : PortDevMap) (ids : Ids) : SilStatus × PortData × PortDevMap × Ids :=
  if h : config.pcieBridgeId.toNat < 24 then
    let port := nativeIfZero config port
    let value := devFunc port.deviceNumber port.functionNumber
    let ids := (defaultIndex value).elim ids (swap · ids)
    if pcieCheckPortPciDeviceMapping value = false then (.silNotFound, port, portDevMap, ids)
    else if ∃ index, portDevMap index = value then (.silNotFound, port, portDevMap, ids)
    else (.silPass, port, Function.update portDevMap ⟨config.pcieBridgeId.toNat, h⟩ value, ids)
  else (.silPass, port, portDevMap, ids)

def syncEarlyTrainRemap {Ids : Type} (swap : Fin 24 → Ids → Ids) (devFnMap : PortDevMap) (config : PortConfig)
    (port : PortData) (portDevMap : PortDevMap) (ids : Ids) : PortData × PortDevMap × Ids :=
  if config.initStatus = initStatusPcieTrainingSuccess then
    let value := devFunc config.nativeDevNumber config.nativeFunNumber
    -- no value is twice in `DefaultPortDevMap`: the loop acts at one index at most
    match defaultIndex value with
    | none => (port, portDevMap, ids)
    | some index =>
      if portDevMap index = 0 then
        (nativeIfZero config port,
          match defaultIndex (devFnMap index) with
          | none => portDevMap
          | some swapIndex =>
            if index = swapIndex then portDevMap
            else Function.update (Function.update portDevMap index (devFnMap index)) swapIndex value,
          swap index ids)
      else (port, portDevMap, ids)
  else (port, portDevMap, ids)

def dropUsed (portDevMap portDevMapLocal : PortDevMap) (index : Fin 24) : PortDevMap :=
  if portDevMap index ≠ 0 then
    match (List.finRange 24).find? (portDevMapLocal · = portDevMap index) with
    | some devFuncIndex => Function.update portDevMapLocal devFuncIndex 0
    | none => portDevMapLocal
  else portDevMapLocal

def takeUnused (maps : PortDevMap × PortDevMap) (index : Fin 24) : PortDevMap × PortDevMap :=
  let (portDevMap, portDevMapLocal) := maps
  if portDevMap index = 0 then
    match (List.finRange 24).find? (portDevMapLocal · ≠ 0) with
    | some devFuncIndex =>
      (Function.update portDevMap index (portDevMapLocal devFuncIndex), Function.update portDevMapLocal devFuncIndex 0)
    | none => (portDevMap, portDevMapLocal)
  else (portDevMap, portDevMapLocal)

def pcieSetPortPciAddressMap (portDevMap : PortDevMap) : PortDevMap :=
  let portDevMapLocal := (List.finRange 24).foldl (dropUsed portDevMap) defaultPortDevMap
  ((List.finRange 24).foldl takeUnused (portDevMap, portDevMapLocal)).1

/-- The numbers of the default table, in any order. -/
def IsRemap (portDevMap : PortDevMap) : Prop := (List.ofFn portDevMap).Perm (List.ofFn defaultPortDevMap)

/-! ## Values of the default table -/

theorem defaultPortDevMap_injective : Function.Injective defaultPortDevMap := by
  unfold Function.Injective
  decide

theorem defaultPortDevMap_ne_zero (i : Fin 24) : defaultPortDevMap i ≠ 0 := by
  revert i
  decide

variable {value : BitVec 8} {i : Fin 24}

theorem defaultIndex_eq_some : defaultIndex value = some i ↔ defaultPortDevMap i = value := by
  constructor
  · intro h
    simpa using find?_some h
  · rintro rfl
    unfold defaultIndex
    cases hfind : (finRange 24).find? (defaultPortDevMap · = defaultPortDevMap i) with
    | none => simpa using find?_eq_none.mp hfind i (mem_finRange i)
    | some j =>
      have hj : defaultPortDevMap j = defaultPortDevMap i := by simpa using find?_some hfind
      rw [defaultPortDevMap_injective hj]

@[simp] theorem defaultIndex_default (i : Fin 24) : defaultIndex (defaultPortDevMap i) = some i :=
  defaultIndex_eq_some.mpr rfl

@[simp] theorem defaultIndex_zero : defaultIndex 0 = none := by decide

variable {map : PortDevMap}

theorem isRemap_iff :
    IsRemap map ↔ Function.Injective map ∧ ∀ i, ∃ j, map i = defaultPortDevMap j := by
  have hdefault : (ofFn defaultPortDevMap).Nodup := nodup_ofFn.mpr defaultPortDevMap_injective
  constructor
  · intro h
    refine ⟨nodup_ofFn.mp (h.nodup_iff.mpr hdefault), fun i => ?_⟩
    obtain ⟨j, hj⟩ := mem_ofFn.mp (h.mem_iff.mp (mem_ofFn.mpr ⟨i, rfl⟩))
    exact ⟨j, hj.symm⟩
  · rintro ⟨hinj, hmem⟩
    refine (subperm_of_subset (nodup_ofFn.mpr hinj) fun v hv => ?_).perm_of_length_le (by simp)
    obtain ⟨i, rfl⟩ := mem_ofFn.mp hv
    obtain ⟨j, hj⟩ := hmem i
    exact mem_ofFn.mpr ⟨j, hj.symm⟩

/-! ## Completion with unused values

The values that are left in `PortDevMapLocal` are not in the table, and there are enough of them for all bridges
without numbers.
-/

def unassigned (portDevMap : PortDevMap) : Finset (Fin 24) := Finset.univ.filter (portDevMap · = 0)

structure Leftover (portDevMap portDevMapLocal : PortDevMap) : Prop where
  default : ∀ k, portDevMapLocal k ≠ 0 → portDevMapLocal k = defaultPortDevMap k
  unused : ∀ k, portDevMapLocal k ≠ 0 → ∀ i, portDevMap i ≠ portDevMapLocal k
  enough : (unassigned portDevMap).card + (unassigned portDevMapLocal).card ≤ 24

structure Dropped (portDevMap : PortDevMap) (done : List (Fin 24)) (portDevMapLocal : PortDevMap) : Prop where
  default : ∀ k, portDevMapLocal k ≠ 0 → portDevMapLocal k = defaultPortDevMap k
  gone : ∀ i ∈ done, ∀ k, portDevMapLocal k ≠ 0 → portDevMap i ≠ portDevMapLocal k
  count : (unassigned portDevMapLocal).card ≤ done.countP (portDevMap · ≠ 0)

theorem card_unassigned_update (map : PortDevMap) (k : Fin 24) :
    (unassigned (update map k 0)).card ≤ (unassigned map).card + 1 := by
  have hsub : unassigned (update map k 0) ⊆ insert k (unassigned map) := by
    intro i hi
    by_cases hik : i = k
    · simp [hik]
    · simpa [unassigned, hik] using hi
  exact (Finset.card_le_card hsub).trans (Finset.card_insert_le _ _)

theorem card_unassigned_assign {index : Fin 24} (hzero : map index = 0)
    (hvalue : value ≠ 0) :
    (unassigned (update map index value)).card + 1 = (unassigned map).card := by
  have herase : unassigned (update map index value) = (unassigned map).erase index := by
    ext i
    by_cases hi : i = index
    · simpa [unassigned, hi] using hvalue
    · simp [unassigned, hi]
  rw [herase]
  exact Finset.card_erase_add_one (by simp [unassigned, hzero])

theorem of_update_zero_ne_zero {k found : Fin 24}
    (h : update map found 0 k ≠ 0) : k ≠ found ∧ map k ≠ 0 := by
  by_cases hk : k = found
  · simp [hk] at h
  · exact ⟨hk, by simpa [hk] using h⟩

variable {map loc : PortDevMap} {done : List (Fin 24)}

theorem Dropped.step (h : Dropped map done loc) (index : Fin 24) :
    Dropped map (done ++ [index]) (dropUsed map loc index) := by
  obtain ⟨hdefault, hgone, hcount⟩ := h
  unfold dropUsed
  by_cases hzero : map index = 0
  · rw [if_neg (not_not.mpr hzero)]
    refine ⟨hdefault, fun i hi k hk => ?_, by simpa [countP_append, hzero] using hcount⟩
    rcases mem_append.mp hi with hi | hi
    · exact hgone i hi k hk
    · rw [mem_singleton.mp hi, hzero]
      exact hk.symm
  rw [if_pos hzero]
  cases hfind : (finRange 24).find? (loc · = map index) with
  | none =>
    refine ⟨hdefault, fun i hi k hk => ?_, hcount.trans (by simp [countP_append])⟩
    rcases mem_append.mp hi with hi | hi
    · exact hgone i hi k hk
    · grind
  | some found =>
    have hfound : loc found = map index := by simpa using find?_some hfind
    dsimp only
    refine ⟨fun k hk => ?_, fun i hi k hk => ?_, ?_⟩
    · grind
    · obtain ⟨hkf, hk⟩ := of_update_zero_ne_zero hk
      rw [update_of_ne hkf]
      rcases mem_append.mp hi with hi | hi
      · exact hgone i hi k hk
      · -- two indices with this value would be one in the default table
        rw [mem_singleton.mp hi, ← hfound]
        intro hsame
        have hne : loc found ≠ 0 := hfound ▸ hzero
        exact hkf (defaultPortDevMap_injective ((hdefault k hk).symm.trans (hsame.symm.trans (hdefault found hne))))
    · have hcard := card_unassigned_update loc found
      rw [countP_append, countP_singleton, if_pos (decide_eq_true hzero)]
      exact hcard.trans (Nat.succ_le_succ hcount)

theorem Dropped.foldl (h : Dropped map done loc) (rest : List (Fin 24)) :
    Dropped map (done ++ rest) (rest.foldl (dropUsed map) loc) := by
  induction rest generalizing done loc with
  | nil => simpa using h
  | cons index rest ih => simpa using ih (h.step index)

theorem leftover_dropUsed (map : PortDevMap) :
    Leftover map ((finRange 24).foldl (dropUsed map) defaultPortDevMap) := by
  have hstart : Dropped map [] defaultPortDevMap :=
    ⟨fun _ _ => rfl, fun i hi => absurd hi not_mem_nil, by simpa [unassigned] using defaultPortDevMap_ne_zero⟩
  obtain ⟨hdefault, hgone, hcount⟩ := hstart.foldl (finRange 24)
  rw [nil_append] at hgone hcount
  refine ⟨hdefault, fun k hk i => hgone i (mem_finRange i) k hk, ?_⟩
  have hlist : (finRange 24).countP (map · ≠ 0) = (Finset.univ.filter (map · ≠ 0)).card := by
    rw [countP_eq_length_filter]
    rfl
  have hsplit : (unassigned map).card + (Finset.univ.filter (map · ≠ 0)).card = 24 :=
    Finset.card_filter_add_card_filter_not (s := Finset.univ) (map · = 0)
  omega

theorem Leftover.takeUnused (h : Leftover map loc) (index : Fin 24) :
    let maps := Mpio.takeUnused (map, loc) index
    Leftover maps.1 maps.2 ∧ maps.1 index ≠ 0 ∧ (∀ j ≠ index, maps.1 j = map j) ∧
      (map index ≠ 0 → maps.1 index = map index) ∧
      (map index = 0 → (∃ k, maps.1 index = defaultPortDevMap k) ∧ ∀ j, map j ≠ maps.1 index) := by
  obtain ⟨hdefault, hunused, henough⟩ := h
  unfold Mpio.takeUnused
  dsimp only
  by_cases hzero : map index = 0
  · rw [if_pos hzero]
    have hleft : ∃ k, loc k ≠ 0 := by
      by_contra! hnone
      have hall : unassigned loc = Finset.univ := by simp [unassigned, hnone]
      have hone : 0 < (unassigned map).card := Finset.card_pos.mpr ⟨index, by simp [unassigned, hzero]⟩
      rw [hall, Finset.card_univ, Fintype.card_fin] at henough
      omega
    cases hfind : (finRange 24).find? (loc · ≠ 0) with
    | none => simp_all
    | some found =>
      have hfound : loc found ≠ 0 := by simpa using find?_some hfind
      dsimp only
      refine ⟨⟨fun k hk => ?_, fun k hk i => ?_, ?_⟩, ?_, ?_, ?_, ?_⟩
      · grind
      · obtain ⟨hkf, hk⟩ := of_update_zero_ne_zero hk
        rw [update_of_ne hkf]
        by_cases hi : i = index
        · rw [hi, update_self]
          intro hsame
          exact hkf (defaultPortDevMap_injective ((hdefault k hk).symm.trans (hsame.symm.trans (hdefault found hfound))))
        · rw [update_of_ne hi]
          exact hunused k hk i
      · have hassign := card_unassigned_assign hzero hfound
        have hdrop := card_unassigned_update loc found
        omega
      · simpa using hfound
      · intro j hj
        exact update_of_ne hj _ _
      · exact fun h => absurd hzero h
      · grind
  · rw [if_neg hzero]
    exact ⟨⟨hdefault, hunused, henough⟩, hzero, fun _ _ => rfl, fun _ => rfl, fun h => absurd h hzero⟩

theorem Leftover.foldl (h : Leftover map loc) {rest : List (Fin 24)} (hrest : rest.Nodup)
    (hassigned : ∀ i, i ∉ rest → map i ≠ 0) :
    let final := (rest.foldl Mpio.takeUnused (map, loc)).1
    (∀ i, map i ≠ 0 → final i = map i) ∧
    (∀ i, map i = 0 → (∃ k, final i = defaultPortDevMap k) ∧ ∀ j, map j ≠ final i) ∧
    (∀ i j, map i = 0 → final i = final j → i = j) := by
  induction rest generalizing map loc with
  | nil => exact ⟨fun _ _ => rfl, fun i hi => absurd hi (hassigned i not_mem_nil),
      fun i _ hi => absurd hi (hassigned i not_mem_nil)⟩
  | cons index rest ih =>
    obtain ⟨hindex, hnodup⟩ := nodup_cons.mp hrest
    obtain ⟨hleft, hne, hother, hkept, hfresh⟩ := h.takeUnused index
    have hassigned' : ∀ i, i ∉ rest → (Mpio.takeUnused (map, loc) index).1 i ≠ 0 := by
      intro i hi
      by_cases hii : i = index
      · exact hii ▸ hne
      · rw [hother i hii]
        exact hassigned i (by simp [hii, hi])
    obtain ⟨hkept', hfresh', hinj'⟩ := ih hleft hnodup hassigned'
    have hstep : ∀ i, map i ≠ 0 → (Mpio.takeUnused (map, loc) index).1 i = map i := by
      intro i hi
      by_cases hii : i = index
      · subst hii
        exact hkept hi
      · exact hother i hii
    have hfinal := hkept' index hne
    refine ⟨fun i hi => ?_, fun i hi => ?_, fun i j hi hsame => ?_⟩
    · exact (hkept' i (by rwa [hstep i hi])).trans (hstep i hi)
    · grind
    · by_cases hii : i = index
      · subst hii
        by_cases hji : j = i
        · exact hji.symm
        by_cases hj : map j = 0
        · exact (hinj' j i (by rwa [hother j hji]) hsame.symm).symm
        · grind
      · exact hinj' i j (by rwa [hother i hii]) hsame

theorem pcieSetPortPciAddressMap_spec (map : PortDevMap) :
    let final := pcieSetPortPciAddressMap map
    (∀ i, map i ≠ 0 → final i = map i) ∧
    (∀ i, map i = 0 → (∃ k, final i = defaultPortDevMap k) ∧ ∀ j, map j ≠ final i) ∧
    (∀ i j, map i = 0 → final i = final j → i = j) :=
  (leftover_dropUsed map).foldl (nodup_finRange 24) fun i hi => absurd (mem_finRange i) hi

/-! ## The table as slots

A bridge with numbers holds the name of the bridge that has them by default.
-/

/-- Numbers of the default table, or 0 for none. -/
def Valid (portDevMap : PortDevMap) : Prop := ∀ i, portDevMap i ≠ 0 → ∃ k, portDevMap i = defaultPortDevMap k

def slots (portDevMap : PortDevMap) (i : Fin 24) : Option (Fin 24) := defaultIndex (portDevMap i)

section
variable {map : PortDevMap}

theorem slots_eq_some {i k : Fin 24} : slots map i = some k ↔ map i = defaultPortDevMap k := by
  unfold slots
  rw [defaultIndex_eq_some, eq_comm]

theorem Valid.slots_eq_none (h : Valid map) : slots map i = none ↔ map i = 0 := by
  constructor
  · intro hnone
    by_contra hne
    obtain ⟨k, hk⟩ := h i hne
    rw [slots_eq_some.mpr hk] at hnone
    cases hnone
  · intro hzero
    unfold slots
    rw [hzero, defaultIndex_zero]

theorem slots_update (i : Fin 24) (value : BitVec 8) :
    slots (update map i value) = update (slots map) i (defaultIndex value) := by
  funext j
  by_cases hj : j = i
  · simp [slots, hj]
  · simp [slots, hj]

theorem Valid.update (h : Valid map) (i k : Fin 24) : Valid (update map i (defaultPortDevMap k)) := by
  intro j hj
  by_cases hji : j = i
  · exact ⟨k, by rw [hji, update_self]⟩
  · rw [update_of_ne hji] at hj ⊢
    exact h j hj

theorem noClash_slots_of_isRemap (h : IsRemap map) : Slots.NoClash (slots map) := by
  intro i j k hi hj
  rw [slots_eq_some] at hi hj
  exact (isRemap_iff.mp h).1 (hi.trans hj.symm)

theorem isRemap_pcieSetPortPciAddressMap_iff (h : Valid map) :
    IsRemap (pcieSetPortPciAddressMap map) ↔ Slots.NoClash (slots map) := by
  obtain ⟨hkept, hfresh, hinj⟩ := pcieSetPortPciAddressMap_spec map
  rw [isRemap_iff]
  constructor
  · rintro ⟨hfinal, -⟩ i j k hi hj
    rw [slots_eq_some] at hi hj
    have hne := defaultPortDevMap_ne_zero k
    apply hfinal
    rw [hkept i (hi ▸ hne), hkept j (hj ▸ hne), hi, hj]
  · intro hclash
    refine ⟨fun i j hsame => ?_, fun i => ?_⟩
    · by_cases hi : map i = 0
      · exact hinj i j hi hsame
      by_cases hj : map j = 0
      · exact (hinj j i hj hsame.symm).symm
      obtain ⟨k, hk⟩ := h i hi
      have hij : map j = map i := by rw [← hkept i hi, ← hkept j hj, hsame]
      exact hclash i j k (slots_eq_some.mpr hk) (slots_eq_some.mpr (hij.trans hk))
    · by_cases hi : map i = 0
      · exact (hfresh i hi).1
      · rw [hkept i hi]
        exact h i hi

end

/-! ## Requests and early training -/

def accept (portDevMap : PortDevMap) (request : Fin 24 × BitVec 8) : PortDevMap :=
  if pcieCheckPortPciDeviceMapping request.2 = true ∧ ¬∃ index, portDevMap index = request.2 then
    Function.update portDevMap request.1 request.2
  else portDevMap

section
variable (config : PortConfig) (device : BitVec 5) (function : BitVec 3)

def chosen : BitVec 8 :=
  devFunc (chosenNumbers config device function).1 (chosenNumbers config device function).2

def PortConfig.bridge : Option (Fin 24) :=
  if h : config.pcieBridgeId.toNat < 24 then some ⟨config.pcieBridgeId.toNat, h⟩ else none

def requestOf : Option (Fin 24 × BitVec 8) :=
  config.bridge.map (·, chosen config device function)

/-- The index `SwapLogicalBridgeId` is called with. -/
def swapOf : Option (Fin 24) :=
  config.bridge.bind fun _ => defaultIndex (chosen config device function)

end

variable {Ids : Type} (swap : Fin 24 → Ids → Ids) (ids : Ids)

theorem pcieMapPortPciAddress_map (config : PortConfig) (port : PortData) (map : PortDevMap) :
    (pcieMapPortPciAddress swap config port map ids).2.2 =
      (((requestOf config port.deviceNumber port.functionNumber).toList).foldl accept map,
        (swapOf config port.deviceNumber port.functionNumber).elim ids (swap · ids)) := by
  unfold pcieMapPortPciAddress requestOf swapOf PortConfig.bridge
  by_cases h : config.pcieBridgeId.toNat < 24
  · simp only [h, dif_pos, map_some, toList_some, foldl_cons, foldl_nil, bind_some]
    unfold accept chosen nativeIfZero
    split_ifs <;> simp_all
  · simp [h]

def trainedIndex (config : PortConfig) : Option (Fin 24) :=
  if config.initStatus = initStatusPcieTrainingSuccess then
    defaultIndex (devFunc config.nativeDevNumber config.nativeFunNumber)
  else none

theorem noClash_accept (hclash : Slots.NoClash (slots map)) (request : Fin 24 × BitVec 8) :
    Slots.NoClash (slots (accept map request)) := by
  unfold accept
  split_ifs with hok
  · have hnew : ∀ i k, slots map i = some k → defaultPortDevMap k ≠ request.2 := by
      intro i k hi heq
      exact hok.2 ⟨i, (slots_eq_some.mp hi).trans heq⟩
    rw [slots_update]
    intro i j k hi hj
    by_cases hir : i = request.1 <;> by_cases hjr : j = request.1
    · rw [hir, hjr]
    · rw [hir, update_self, defaultIndex_eq_some] at hi
      rw [update_of_ne hjr] at hj
      exact absurd hi (hnew j k hj)
    · rw [hjr, update_self, defaultIndex_eq_some] at hj
      rw [update_of_ne hir] at hi
      exact absurd hj (hnew i k hi)
    · rw [update_of_ne hir] at hi
      rw [update_of_ne hjr] at hj
      exact hclash i j k hi hj
  · exact hclash

section
variable {map : PortDevMap} (h : Valid map)
include h

theorem Valid.accept (request : Fin 24 × BitVec 8) : Valid (accept map request) := by
  unfold Mpio.accept
  split_ifs with hok
  · obtain ⟨k, hk⟩ := isSome_iff_exists.mp hok.1
    rw [← defaultIndex_eq_some.mp hk]
    exact h.update _ k
  · exact h

theorem syncEarlyTrainRemap_ids (devFnMap : PortDevMap) (config : PortConfig) (port : PortData) :
    (syncEarlyTrainRemap swap devFnMap config port map ids).2.2 =
      (trainedIndex config).elim ids fun i => if slots map i = none then swap i ids else ids := by
  unfold syncEarlyTrainRemap trainedIndex
  simp only [h.slots_eq_none]
  split_ifs
  · cases hnative : defaultIndex (devFunc config.nativeDevNumber config.nativeFunNumber) with
    | none => rfl
    | some index =>
      simp only [elim_some]
      split_ifs <;> rfl
  · rfl

theorem syncEarlyTrainRemap_map (devFnMap : PortDevMap) (config : PortConfig) (port : PortData) :
    let result := syncEarlyTrainRemap swap devFnMap config port map ids
    Valid result.2.1 ∧
      slots result.2.1 = ((trainedIndex config).toList).foldl (Slots.swapAt (slots devFnMap)) (slots map) := by
  unfold syncEarlyTrainRemap trainedIndex
  by_cases htrained : config.initStatus = initStatusPcieTrainingSuccess
  · rw [if_pos htrained, if_pos htrained]
    cases hnative : defaultIndex (devFunc config.nativeDevNumber config.nativeFunNumber) with
    | none =>
      simp only [hnative]
      exact ⟨h, rfl⟩
    | some index =>
      have hvalue := defaultIndex_eq_some.mp hnative
      simp only [hnative, toList_some, foldl_cons, foldl_nil]
      unfold Slots.swapAt
      by_cases hfree : map index = 0
      · rw [if_pos hfree, h.slots_eq_none.mpr hfree]
        cases hswap : slots devFnMap index with
        | none =>
          have hdefault : defaultIndex (devFnMap index) = none := hswap
          simp only [hdefault]
          exact ⟨h, trivial⟩
        | some swapIndex =>
          have hdefault : defaultIndex (devFnMap index) = some swapIndex := hswap
          simp only [hdefault]
          by_cases hsame : index = swapIndex
          · simp only [hsame, if_true]
            exact ⟨h, trivial⟩
          · simp only [if_neg hsame, if_neg (Ne.symm hsame)]
            rw [← hvalue, slots_eq_some.mp hswap]
            refine ⟨(h.update _ _).update _ _, ?_⟩
            rw [slots_update, slots_update, defaultIndex_default, defaultIndex_default]
      · rw [if_neg hfree]
        obtain ⟨v, hv⟩ := ne_none_iff_exists'.mp (mt h.slots_eq_none.mp hfree)
        rw [hv]
        exact ⟨h, rfl⟩
  · rw [if_neg htrained, if_neg htrained]
    exact ⟨h, rfl⟩

end

end OpenSil.Mpio
