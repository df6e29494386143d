import OpenSil.Mpio.PortDevMap
import OpenSil.Nbio.TopMem

/-! # The remap registers

`PcieSetPortPciAddressMap` writes every entry of the completed table into a register of the root bridge.
-/

open OpenSil.Nbio List Function

namespace OpenSil.Mpio

def progDeviceRemapAddress : BitVec 32 := 0x13b100b8

def iohcRemapSpace (handle : GnbHandle) (address : BitVec 32) (portIndex : Fin 24) : BitVec 32 :=
  address + handle.rbIndex.setWidth 32 <<< 20 + BitVec.ofNat 32 portIndex <<< 2 + if portIndex < 20 then 0 else 0x280

def remapRegister (handle : GnbHandle) (index : Fin 24) : Nat × Nat × BitVec 32 :=
  (handle.segment, handle.bus, iohcRemapSpace handle progDeviceRemapAddress index)

def setRemap (handle : GnbHandle) (s : (PortDevMap × PortDevMap) × Smn) (index : Fin 24) :
    (PortDevMap × PortDevMap) × Smn :=
  let maps := takeUnused s.1 index
  let deviceRemap := s.2 (remapRegister handle index)
  (maps, Function.update s.2 (remapRegister handle index) (BitField.set deviceRemap 0 (maps.1 index)))

def pcieSetPortPciAddressRemap (handle : GnbHandle) (portDevMap : PortDevMap) (smn : Smn) : PortDevMap × Smn :=
  let portDevMapLocal := (List.finRange 24).foldl (dropUsed portDevMap) defaultPortDevMap
  let s := (List.finRange 24).foldl (setRemap handle) ((portDevMap, portDevMapLocal), smn)
  (s.1.1, s.2)

/-! ## The registers hold the table -/

theorem remapRegister_injective (handle : GnbHandle) : Function.Injective (remapRegister handle) := by
  intro i j h
  have hspace : iohcRemapSpace handle progDeviceRemapAddress i = iohcRemapSpace handle progDeviceRemapAddress j :=
    congrArg (fun loc => loc.2.2) h
  simp only [iohcRemapSpace, BitVec.add_assoc, BitVec.add_right_inj] at hspace
  clear h
  revert i j
  decide +kernel

theorem takeUnused_other (maps : PortDevMap × PortDevMap) {index j : Fin 24} (h : j ≠ index) :
    (takeUnused maps index).1 j = maps.1 j := by
  unfold takeUnused
  dsimp only
  split_ifs with hzero
  · split
    · exact update_of_ne h _ _
    · rfl
  · rfl

variable {rest : List (Fin 24)}

theorem foldl_takeUnused_other {j : Fin 24} (h : j ∉ rest) (maps : PortDevMap × PortDevMap) :
    (rest.foldl takeUnused maps).1 j = maps.1 j :=
  Stores.foldl_keep_of_mem (p := fun maps => maps.1 j)
    (fun _ hi maps => takeUnused_other maps (ne_of_mem_of_not_mem hi h).symm) maps

section
variable (handle : GnbHandle)

theorem foldl_setRemap_maps (rest : List (Fin 24)) (s : (PortDevMap × PortDevMap) × Smn) :
    (rest.foldl (setRemap handle) s).1 = rest.foldl takeUnused s.1 := by
  induction rest generalizing s with
  | nil => rfl
  | cons index rest ih => exact ih (setRemap handle s index)

theorem foldl_setRemap_other {loc : Nat × Nat × BitVec 32} (h : ∀ i ∈ rest, loc ≠ remapRegister handle i)
    (s : (PortDevMap × PortDevMap) × Smn) :
    (rest.foldl (setRemap handle) s).2 loc = s.2 loc :=
  Stores.foldl_keep_of_mem (p := fun s => s.2 loc) (fun i hi _ => update_of_ne (h i hi) _ _) s

theorem foldl_setRemap_register (hrest : rest.Nodup) {i : Fin 24} (hi : i ∈ rest)
    (s : (PortDevMap × PortDevMap) × Smn) :
    (rest.foldl (setRemap handle) s).2 (remapRegister handle i) =
      BitField.set (s.2 (remapRegister handle i)) 0 ((rest.foldl takeUnused s.1).1 i) := by
  induction rest generalizing s with
  | nil => simp at hi
  | cons index rest ih =>
    obtain ⟨hindex, hnodup⟩ := nodup_cons.mp hrest
    rw [foldl_cons, foldl_cons]
    rcases mem_cons.mp hi with rfl | hi
    · have hother : ∀ j ∈ rest, remapRegister handle i ≠ remapRegister handle j := fun j hj hsame =>
        hindex (remapRegister_injective handle hsame ▸ hj)
      rw [foldl_setRemap_other handle hother, foldl_takeUnused_other hindex]
      exact update_self _ _ _
    · have hne : remapRegister handle i ≠ remapRegister handle index :=
        (remapRegister_injective handle).ne fun hsame => hindex (hsame ▸ hi)
      rw [ih hnodup hi]
      exact congrArg (BitField.set · 0 _) (update_of_ne hne _ _)

theorem pcieSetPortPciAddressRemap_map (map : PortDevMap) (smn : Smn) :
    (pcieSetPortPciAddressRemap handle map smn).1 = pcieSetPortPciAddressMap map := by
  unfold pcieSetPortPciAddressRemap pcieSetPortPciAddressMap
  dsimp only
  rw [foldl_setRemap_maps]

theorem pcieSetPortPciAddressRemap_register (map : PortDevMap) (smn : Smn) (i : Fin 24) :
    (pcieSetPortPciAddressRemap handle map smn).2 (remapRegister handle i) =
      BitField.set (smn (remapRegister handle i)) 0 (pcieSetPortPciAddressMap map i) := by
  unfold pcieSetPortPciAddressRemap pcieSetPortPciAddressMap
  dsimp only
  rw [foldl_setRemap_register handle (nodup_finRange 24) (mem_finRange i)]

end

/-! ## The order of the completion -/

def free (portDevMap : PortDevMap) (bridges : List (Fin 24)) : List (Fin 24) := bridges.filter (portDevMap · = 0)

def queue (portDevMapLocal : PortDevMap) : List (Fin 24) := (List.finRange 24).filter (portDevMapLocal · ≠ 0)

variable {loc : PortDevMap} {k : Fin 24}

theorem mem_queue : k ∈ queue loc ↔ loc k ≠ 0 := by simp [queue]

variable {q : List (Fin 24)}

theorem queue_update (h : queue loc = k :: q) : queue (update loc k 0) = q := by
  have herase : queue (update loc k 0) = (queue loc).erase k := by
    have hnodup : (queue loc).Nodup := (nodup_finRange 24).filter _
    rw [hnodup.erase_eq_filter, queue, queue, filter_filter]
    refine filter_congr fun i _ => ?_
    by_cases hi : i = k <;> simp [hi]
  rw [herase, h, erase_cons_head]

variable {maps : PortDevMap × PortDevMap}

theorem takeUnused_of_queue {index k : Fin 24} (hzero : maps.1 index = 0) (h : queue maps.2 = k :: q) :
    takeUnused maps index = (update maps.1 index (maps.2 k), update maps.2 k 0) := by
  have hfind : (finRange 24).find? (maps.2 · ≠ 0) = some k := by
    rw [← head?_filter]
    exact congrArg head? h
  unfold takeUnused
  simp only [hzero, if_true, hfind]

variable {index : Fin 24}

theorem takeUnused_of_ne_zero (h : maps.1 index ≠ 0) : takeUnused maps index = maps := by
  unfold takeUnused
  exact if_neg h

theorem free_takeUnused (maps : PortDevMap × PortDevMap) (h : index ∉ rest) :
    free (takeUnused maps index).1 rest = free maps.1 rest := by
  refine filter_congr fun j hj => ?_
  have hne : j ≠ index := fun heq => h (heq ▸ hj)
  rw [takeUnused_other maps hne]

theorem foldl_takeUnused_free (maps : PortDevMap × PortDevMap)
    (hdefault : ∀ k, maps.2 k ≠ 0 → maps.2 k = defaultPortDevMap k) (hrest : rest.Nodup)
    (henough : (free maps.1 rest).length ≤ (queue maps.2).length) :
    (free maps.1 rest).map (rest.foldl takeUnused maps).1 =
      ((queue maps.2).take (free maps.1 rest).length).map defaultPortDevMap := by
  induction rest generalizing maps with
  | nil => simp [free]
  | cons index rest ih =>
    obtain ⟨hindex, hnodup⟩ := nodup_cons.mp hrest
    by_cases hzero : maps.1 index = 0
    · have hfree : free maps.1 (index :: rest) = index :: free maps.1 rest := by simp [free, hzero]
      rw [hfree, length_cons] at henough
      obtain ⟨k, q, hq⟩ := exists_cons_of_length_pos (Nat.zero_lt_of_lt henough)
      have hk : maps.2 k = defaultPortDevMap k := hdefault k (mem_queue.mp (hq ▸ mem_cons_self))
      have hstep := takeUnused_of_queue hzero hq
      have hsame := free_takeUnused maps hindex
      have hqueue : queue (takeUnused maps index).2 = q := by rw [hstep, queue_update hq]
      have hdefault' : ∀ j, (takeUnused maps index).2 j ≠ 0 → (takeUnused maps index).2 j = defaultPortDevMap j := by
        intro j hj
        rw [hstep] at hj ⊢
        obtain ⟨hjk, hj⟩ := of_update_zero_ne_zero hj
        simpa [hjk] using hdefault j hj
      have hrest' := ih _ hdefault' hnodup (by rw [hsame, hqueue]; simpa [hq] using henough)
      rw [hsame, hqueue] at hrest'
      have hvalue : (takeUnused maps index).1 index = defaultPortDevMap k := by
        rw [hstep, ← hk]
        exact update_self _ _ _
      rw [hfree, foldl_cons, map_cons, hrest', hq, length_cons, take_succ_cons, map_cons,
        foldl_takeUnused_other hindex, hvalue]
    · have hfree : free maps.1 (index :: rest) = free maps.1 rest := filter_cons_of_neg (by simpa using hzero)
      rw [hfree] at henough ⊢
      rw [foldl_cons, takeUnused_of_ne_zero hzero]
      exact ih maps hdefault hnodup henough

theorem foldl_dropUsed_unused {map : PortDevMap} (h : ∀ i, map i ≠ defaultPortDevMap k)
    (rest : List (Fin 24)) (hk : loc k = defaultPortDevMap k) :
    rest.foldl (dropUsed map) loc k = defaultPortDevMap k := by
  induction rest generalizing loc with
  | nil => exact hk
  | cons index rest ih =>
    refine ih ?_
    unfold dropUsed
    split_ifs with hzero
    · cases hfind : (finRange 24).find? (loc · = map index) with
      | none => exact hk
      | some found => grind
    · exact hk

def unusedDefaults (portDevMap : PortDevMap) : List (BitVec 8) :=
  (List.ofFn defaultPortDevMap).filter fun value => decide (∀ i, portDevMap i ≠ value)

theorem map_queue_dropUsed (map : PortDevMap) :
    (queue ((finRange 24).foldl (dropUsed map) defaultPortDevMap)).map defaultPortDevMap =
      unusedDefaults map := by
  obtain ⟨hdefault, hunused, -⟩ := leftover_dropUsed map
  unfold queue unusedDefaults
  rw [ofFn_eq_map, filter_map]
  congr 1
  refine filter_congr fun k _ => ?_
  simp only [comp_apply, ne_eq, decide_eq_decide]
  refine ⟨fun hk => hdefault k hk ▸ hunused k hk, fun h => ?_⟩
  rw [foldl_dropUsed_unused h _ rfl]
  exact defaultPortDevMap_ne_zero k

/-! ## The completed table -/

/-- No number of the default table is given to two bridges. -/
structure Partial (portDevMap : PortDevMap) : Prop where
  valid : Valid portDevMap
  distinct : ∀ i j, portDevMap i ≠ 0 → portDevMap i = portDevMap j → i = j

section
variable {map : PortDevMap} (h : Partial map)
include h

theorem Partial.isRemap : IsRemap (pcieSetPortPciAddressMap map) := by
  refine (isRemap_pcieSetPortPciAddressMap_iff h.valid).mpr fun i j k hi hj => ?_
  rw [slots_eq_some] at hi hj
  exact h.distinct i j (hi ▸ defaultPortDevMap_ne_zero k) (hi.trans hj.symm)

theorem Partial.length_unusedDefaults_le :
    (unusedDefaults map).length ≤ (free map (finRange 24)).length := by
  have hkept := (pcieSetPortPciAddressMap_spec map).1
  have hnodup : (unusedDefaults map).Nodup := (nodup_ofFn.mpr defaultPortDevMap_injective).filter _
  have hsub : unusedDefaults map ⊆
      (free map (finRange 24)).map (pcieSetPortPciAddressMap map) := by
    intro value hvalue
    obtain ⟨hmem, hunused⟩ := mem_filter.mp hvalue
    obtain ⟨i, rfl⟩ := mem_ofFn.mp (h.isRemap.mem_iff.mpr hmem)
    refine mem_map_of_mem (mem_filter.mpr ⟨mem_finRange i, decide_eq_true ?_⟩)
    by_contra hne
    exact of_decide_eq_true hunused i (hkept i hne).symm
  simpa using (subperm_of_subset hnodup hsub).length_le

omit h in
theorem length_free_le (map : PortDevMap) :
    (free map (finRange 24)).length ≤ (unusedDefaults map).length := by
  obtain ⟨-, hfresh, hinj⟩ := pcieSetPortPciAddressMap_spec map
  have hfree : ∀ i ∈ free map (finRange 24), map i = 0 := fun i hi =>
    of_decide_eq_true (mem_filter.mp hi).2
  have hnodup : ((free map (finRange 24)).map (pcieSetPortPciAddressMap map)).Nodup :=
    ((nodup_finRange 24).filter _).map_on fun i hi j _ hsame => hinj i j (hfree i hi) hsame
  have hsub : (free map (finRange 24)).map (pcieSetPortPciAddressMap map) ⊆
      unusedDefaults map := by
    intro value hvalue
    obtain ⟨i, hi, rfl⟩ := mem_map.mp hvalue
    obtain ⟨⟨k, hk⟩, hunused⟩ := hfresh i (hfree i hi)
    exact mem_filter.mpr ⟨mem_ofFn.mpr ⟨k, hk.symm⟩, decide_eq_true hunused⟩
  simpa using (subperm_of_subset hnodup hsub).length_le

theorem Partial.map_free :
    (free map (finRange 24)).map (pcieSetPortPciAddressMap map) = unusedDefaults map := by
  have hcount := length_free_le map
  have hall := h.length_unusedDefaults_le
  rw [← map_queue_dropUsed, length_map] at hcount hall
  have hfilled := foldl_takeUnused_free (map, (finRange 24).foldl (dropUsed map) defaultPortDevMap)
    (leftover_dropUsed map).default (nodup_finRange 24) hcount
  rw [take_of_length_le hall, map_queue_dropUsed] at hfilled
  exact hfilled

end

/-- A partial table is completed to a permutation of the default table, in the order of the unused numbers, and the
registers hold it in their low byte. -/
theorem partial_table_completed {portDevMap : PortDevMap} (h : Partial portDevMap) (handle : GnbHandle) (smn : Smn) :
    let r := pcieSetPortPciAddressRemap handle portDevMap smn
    IsRemap r.1 ∧ (∀ i, portDevMap i ≠ 0 → r.1 i = portDevMap i) ∧
      ((List.finRange 24).filter (portDevMap · = 0)).map r.1 = unusedDefaults portDevMap ∧
      ∀ i, (r.2 (remapRegister handle i)).extractLsb' 0 8 = r.1 i ∧
        (r.2 (remapRegister handle i)).extractLsb' 8 24 = (smn (remapRegister handle i)).extractLsb' 8 24 := by
  dsimp only
  rw [pcieSetPortPciAddressRemap_map]
  refine ⟨h.isRemap, (pcieSetPortPciAddressMap_spec portDevMap).1, h.map_free, fun i => ?_⟩
  rw [pcieSetPortPciAddressRemap_register]
  exact ⟨BitField.extract_set _ _ (by decide), BitField.extract_set_of_disjoint _ _ (by decide)⟩

def movedFirst : PortDevMap := fun i => if i = 2 then devFunc 1 1 else 0

theorem partial_movedFirst : Partial movedFirst where
  valid := by
    unfold Valid
    decide
  distinct := by decide

def movedFirstRemap : PortDevMap × Smn := pcieSetPortPciAddressRemap ⟨0, 0, 3⟩ movedFirst fun _ => 0xFFFFFFFF

theorem partial_table_completed_movedFirst :
    IsRemap movedFirstRemap.1 ∧ (∀ i, movedFirst i ≠ 0 → movedFirstRemap.1 i = movedFirst i) ∧
      ((List.finRange 24).filter (movedFirst · = 0)).map movedFirstRemap.1 = unusedDefaults movedFirst ∧
      ∀ i, (movedFirstRemap.2 (remapRegister ⟨0, 0, 3⟩ i)).extractLsb' 0 8 = movedFirstRemap.1 i ∧
        (movedFirstRemap.2 (remapRegister ⟨0, 0, 3⟩ i)).extractLsb' 8 24 = BitVec.extractLsb' 8 24 0xFFFFFFFF#32 :=
  partial_table_completed partial_movedFirst ⟨0, 0, 3⟩ fun _ => 0xFFFFFFFF

end OpenSil.Mpio
