import OpenSil.Mpio.PortMapping

/-! # The addresses of the engines -/

namespace OpenSil.Mpio

open List Function Option BitVec

variable {n : Nat} [NeZero n] {t : PcieTopology n}

section
variable (t) (topology : List TopologyEntry) (asks : List Ask)

/-- An ASK entry leads to the topology entry and to the engine. -/
def Matched (entry : TopologyEntry) (e : t.EngineId) : Prop := (entry, e) ∈ asks.filterMap (matchAsk t topology)

def bridgeOf (e : t.EngineId) : Option (Fin 24) := (t.engine e).toPortConfig.bridge

def wanted (entry : TopologyEntry) (e : t.EngineId) : BitVec 8 :=
  chosen (t.engine e).toPortConfig entry.deviceNumber entry.functionNumber

def askedBridges (h : Fin n) : Finset (Fin 24) :=
  ((asks.filterMap (matchAsk t topology)).filterMap fun (_, e) => if t.parent e = h then bridgeOf t e else none).toFinset

/-- The address of a port is that in its remap register, and no other port of the root bridge has it. -/
def AddressesAgree (s : Mapping t) : Prop :=
  ∀ entry e bridge, Matched t topology asks entry e → bridgeOf t e = some bridge →
    s.remap (t.parent e) bridge = devFunc (s.ports e).address.device (s.ports e).address.function ∧
    ∀ entry' e' bridge', Matched t topology asks entry' e' → bridgeOf t e' = some bridge' →
      t.parent e' = t.parent e → e' ≠ e → (s.ports e').address ≠ (s.ports e).address

/-- Every ASK entry belongs to an engine of the socket, and two for one engine ask for the same numbers. -/
structure ProperMatch : Prop where
  own : ∀ entry e, Matched t topology asks entry e → t.inSocket (t.parent e) = true
  same : ∀ entry entry' e, Matched t topology asks entry e → Matched t topology asks entry' e →
    wanted t entry e = wanted t entry' e

/-- The requests for a root bridge are valid, for different bridges and for different numbers. -/
def NoConflict : Prop :=
  ∀ entry e bridge, Matched t topology asks entry e → bridgeOf t e = some bridge →
    pcieCheckPortPciDeviceMapping (wanted t entry e) = true ∧
    ∀ entry' e' bridge', Matched t topology asks entry' e' → bridgeOf t e' = some bridge' →
      t.parent e' = t.parent e → e' ≠ e → bridge' ≠ bridge ∧ wanted t entry' e' ≠ wanted t entry e

/-- Early training brings a matched bridge no number but the one that is asked for. -/
def KeptByTraining (devFnMap : Fin n → PortDevMap) : Prop :=
  ∀ entry e bridge, Matched t topology asks entry e → bridgeOf t e = some bridge →
    let σ := slots (devFnMap (t.parent e))
    let swaps := Slots.swapped σ (askedBridges t topology asks (t.parent e)) (trained t (t.parent e))
    ∀ i, Slots.into σ swaps bridge = some i → defaultPortDevMap i = wanted t entry e

end

/-! ## Requests that do not conflict -/

theorem foldl_accept_of_functional {rs : List (Fin 24 × BitVec 8)}
    (hcheck : ∀ r ∈ rs, pcieCheckPortPciDeviceMapping r.2 = true)
    (hfun : ∀ r ∈ rs, ∀ r' ∈ rs, r.1 = r'.1 ↔ r.2 = r'.2) (done rest : List (Fin 24 × BitVec 8))
    (hrs : rs = done ++ rest) {portDevMap : PortDevMap}
    (hdone : ∀ p v, v ≠ 0 → (portDevMap p = v ↔ (p, v) ∈ done)) :
    ∀ p v, v ≠ 0 → (rest.foldl accept portDevMap p = v ↔ (p, v) ∈ rs) := by
  induction rest generalizing done portDevMap with
  | nil =>
    rw [append_nil] at hrs
    exact hrs ▸ hdone
  | cons r rest ih =>
    have hmem : r ∈ rs := by rw [hrs]; simp
    refine ih (done ++ [r]) (by simp [hrs]) fun p v hv => ?_
    have hsub : ∀ r' ∈ done, r' ∈ rs := fun r' hr' => by rw [hrs]; simp [hr']
    have hvalue : r.2 ≠ 0 := by
      intro hzero
      have := hcheck r hmem
      rw [hzero] at this
      exact absurd this (by decide)
    unfold accept
    rw [hcheck r hmem]
    by_cases hused : ∃ index, portDevMap index = r.2
    · rw [if_neg (by simpa using hused)]
      obtain ⟨index, hindex⟩ := hused
      have hbefore := (hdone index r.2 hvalue).mp hindex
      have heq : index = r.1 := (hfun _ (hsub _ hbefore) r hmem).mpr rfl
      have hr : r ∈ done := by rw [heq] at hbefore; exact hbefore
      rw [hdone p v hv, mem_append, mem_singleton]
      exact ⟨.inl, fun h => h.elim id fun h => h ▸ hr⟩
    · grind

/-! ## The address of a matched engine -/

theorem toNat_devFunc (device : BitVec 5) (function : BitVec 3) :
    (devFunc device function).toNat = device.toNat * 8 + function.toNat := by
  unfold devFunc
  rw [toNat_append, ← Nat.shiftLeft_add_eq_or_of_lt function.isLt, Nat.shiftLeft_eq]

theorem devFunc_inj {device device' : BitVec 5} {function function' : BitVec 3} :
    devFunc device function = devFunc device' function' ↔ device = device' ∧ function = function' := by
  constructor
  · intro h
    have hnat := congrArg BitVec.toNat h
    rw [toNat_devFunc, toNat_devFunc] at hnat
    have hlt := function.isLt
    have hlt' := function'.isLt
    exact ⟨eq_of_toNat_eq (by omega), eq_of_toNat_eq (by omega)⟩
  · rintro ⟨rfl, rfl⟩
    rfl

variable {e : t.EngineId}

theorem mapEngine_address_of_ne (s : Mapping t) (found : TopologyEntry × t.EngineId) (h : e ≠ found.2) :
    ((mapEngine s found).ports e).address = (s.ports e).address := by
  unfold mapEngine
  simp [h]

variable {bridge : Fin 24}

theorem mapEngine_address (s : Mapping t) (entry : TopologyEntry) (e : t.EngineId)
    (hb : bridgeOf t e = some bridge) : let address := ((mapEngine s (entry, e)).ports e).address
    address.segment = (t.handles (t.parent e)).segment ∧ address.bus = (t.handles (t.parent e)).bus ∧
      devFunc address.device address.function = wanted t entry e := by
  have hlt : (t.engine e).toPortConfig.pcieBridgeId.toNat < 24 := by
    unfold bridgeOf PortConfig.bridge at hb
    by_contra hge
    simp [hge] at hb
  unfold mapEngine wanted chosen pcieMapPortPciAddress nativeIfZero
  simp only [update_self, hlt, dif_pos]
  split_ifs <;> trivial

theorem foldl_mapEngine_address (found : List (TopologyEntry × t.EngineId)) (s : Mapping t)
    (hb : bridgeOf t e = some bridge) (hfound : ∃ entry, (entry, e) ∈ found) :
    let address := ((found.foldl mapEngine s).ports e).address
    address.segment = (t.handles (t.parent e)).segment ∧ address.bus = (t.handles (t.parent e)).bus ∧
      ∃ entry, (entry, e) ∈ found ∧ devFunc address.device address.function = wanted t entry e := by
  induction found using reverseRecOn with
  | nil => simp at hfound
  | append_singleton found last ih =>
    obtain ⟨lastEntry, lastEngine⟩ := last
    rw [foldl_append, foldl_cons, foldl_nil]
    by_cases he : e = lastEngine
    · subst he
      obtain ⟨hseg, hbus, hnumbers⟩ := mapEngine_address (found.foldl mapEngine s) lastEntry e hb
      exact ⟨hseg, hbus, lastEntry, by simp, hnumbers⟩
    · obtain ⟨entry, hentry⟩ := hfound
      have hmem : (entry, e) ∈ found := by simpa [he] using hentry
      obtain ⟨hseg, hbus, entry', hentry', hnumbers⟩ := ih ⟨entry, hmem⟩
      rw [mapEngine_address_of_ne (found.foldl mapEngine s) (lastEntry, lastEngine) he]
      exact ⟨hseg, hbus, entry', by simp [hentry'], hnumbers⟩

section
variable {topology : List TopologyEntry} {asks : List Ask} (s : Mapping t)

variable {bridge : Fin 24} {entry : TopologyEntry} {e : t.EngineId}

theorem address_of_matched (hproper : ProperMatch t topology asks) (hm : Matched t topology asks entry e)
    (hb : bridgeOf t e = some bridge) :
    let address := ((mpioPortMapping t (some topology) asks s).ports e).address
    address.segment = (t.handles (t.parent e)).segment ∧ address.bus = (t.handles (t.parent e)).bus ∧
      devFunc address.device address.function = wanted t entry e := by
  rw [(mpioPortMapping_spec topology asks s).1 e]
  obtain ⟨hseg, hbus, entry', hentry', hnumbers⟩ := foldl_mapEngine_address (asks.filterMap (matchAsk t topology))
    { s with portDevMap := fun _ _ => 0 } hb ⟨entry, hm⟩
  exact ⟨hseg, hbus, hnumbers.trans (hproper.same entry' entry e hentry' hm)⟩

theorem address_eq_iff (hproper : ProperMatch t topology asks) {entry entry' : TopologyEntry} {e e' : t.EngineId}
    {bridge bridge' : Fin 24} (hm : Matched t topology asks entry e) (hb : bridgeOf t e = some bridge)
    (hmatched' : Matched t topology asks entry' e') (hbridge' : bridgeOf t e' = some bridge')
    (hparent : t.parent e' = t.parent e) :
    ((mpioPortMapping t (some topology) asks s).ports e').address =
        ((mpioPortMapping t (some topology) asks s).ports e).address ↔
      wanted t entry' e' = wanted t entry e := by
  obtain ⟨hseg, hbus, hnumbers⟩ := address_of_matched s hproper hm hb
  obtain ⟨hseg', hbus', hnumbers'⟩ := address_of_matched s hproper hmatched' hbridge'
  rw [← hnumbers, ← hnumbers', devFunc_inj]
  constructor
  · intro h
    rw [h]
    exact ⟨rfl, rfl⟩
  · rintro ⟨hdevice, hfunction⟩
    cases haddress : ((mpioPortMapping t (some topology) asks s).ports e).address
    cases haddress' : ((mpioPortMapping t (some topology) asks s).ports e').address
    simp_all

/-! ## The remap register of a matched engine -/

variable {s}

variable {h : Fin n}

theorem mem_requests (hproper : ProperMatch t topology asks) (hh : t.inSocket h = true) {r : Fin 24 × BitVec 8} :
    r ∈ requests t (asks.filterMap (matchAsk t topology)) (t.rbIndex h) ↔
      ∃ entry e, Matched t topology asks entry e ∧ t.parent e = h ∧ bridgeOf t e = some r.1 ∧ wanted t entry e = r.2 := by
  unfold requests
  rw [mem_filterMap]
  constructor
  · rintro ⟨⟨entry, e⟩, hmem, hr⟩
    dsimp only at hr
    split_ifs at hr with hrb
    have hparent : t.parent e = h :=
      t.rbIndex_inj _ _ (of_decide_eq_true (hproper.own entry e hmem)) (of_decide_eq_true hh) hrb
    obtain ⟨bridge, hb, rfl⟩ := map_eq_some_iff.mp hr
    exact ⟨entry, e, hmem, hparent, hb, rfl⟩
  · rintro ⟨entry, e, hmem, rfl, hb, hwanted⟩
    refine ⟨(entry, e), hmem, (if_pos rfl).trans ?_⟩
    exact map_eq_some_iff.mpr ⟨r.1, hb, Prod.ext rfl hwanted⟩

theorem mem_askedBridges : bridge ∈ askedBridges t topology asks h ↔
    ∃ entry e, Matched t topology asks entry e ∧ t.parent e = h ∧ bridgeOf t e = some bridge := by
  unfold askedBridges
  rw [List.mem_toFinset, List.mem_filterMap]
  constructor
  · rintro ⟨⟨entry, e⟩, hmem, hr⟩
    dsimp only at hr
    split_ifs at hr with hparent
    exact ⟨entry, e, hmem, hparent, hr⟩
  · rintro ⟨entry, e, hmem, rfl, hb⟩
    exact ⟨(entry, e), hmem, (if_pos rfl).trans hb⟩

section
variable (hproper : ProperMatch t topology asks) (hconflict : NoConflict t topology asks)
include hproper hconflict

theorem requested_eq_iff (hh : t.inSocket h = true) (bridge : Fin 24) {value : BitVec 8} (hvalue : value ≠ 0) :
    requested t topology asks h bridge = value ↔
      ∃ entry e, Matched t topology asks entry e ∧ t.parent e = h ∧ bridgeOf t e = some bridge ∧ wanted t entry e = value := by
  rw [← mem_requests hproper hh (r := (bridge, value))]
  refine foldl_accept_of_functional (fun r hr => ?_) (fun r hr r' hr' => ?_) [] _ rfl (fun p v hv => ?_) bridge value hvalue
  · obtain ⟨entry, e, hm, -, hb, hwanted⟩ := (mem_requests hproper hh).mp hr
    exact hwanted ▸ (hconflict entry e _ hm hb).1
  · obtain ⟨entry, e, hm, hparent, hb, hwanted⟩ := (mem_requests hproper hh).mp hr
    obtain ⟨entry', e', hmatched', hparent', hbridge', hwanted'⟩ := (mem_requests hproper hh).mp hr'
    by_cases he : e' = e
    · subst he
      rw [← hwanted, ← hwanted', hproper.same entry entry' e' hm hmatched']
      exact iff_of_true (some.inj (hb.symm.trans hbridge')) rfl
    · obtain ⟨hbridges, hnumbers⟩ :=
        (hconflict entry e _ hm hb).2 entry' e' _ hmatched' hbridge' (hparent'.trans hparent.symm) he
      exact iff_of_false (Ne.symm hbridges) fun heq => hnumbers (hwanted'.trans (heq.symm.trans hwanted.symm))
  · exact iff_of_false (Ne.symm hv) not_mem_nil

theorem assigned_requested (hh : t.inSocket h = true) :
    assigned (requested t topology asks h) = askedBridges t topology asks h := by
  ext bridge
  rw [mem_askedBridges]
  unfold assigned
  rw [Finset.mem_filter, and_iff_right (Finset.mem_univ _)]
  constructor
  · intro hne
    obtain ⟨entry, e, hm, hparent, hb, -⟩ := (requested_eq_iff hproper hconflict hh bridge hne).mp rfl
    exact ⟨entry, e, hm, hparent, hb⟩
  · rintro ⟨entry, e, hm, hparent, hb⟩
    obtain ⟨k, hk⟩ := isSome_iff_exists.mp (hconflict entry e bridge hm hb).1
    have hne : wanted t entry e ≠ 0 := defaultIndex_eq_some.mp hk ▸ defaultPortDevMap_ne_zero k
    rw [(requested_eq_iff hproper hconflict hh bridge hne).mpr ⟨entry, e, hm, hparent, hb, rfl⟩]
    exact hne

theorem remap_eq_wanted_iff (hm : Matched t topology asks entry e) (hb : bridgeOf t e = some bridge) (s : Mapping t) :
    let σ := slots (s.remap (t.parent e))
    let swaps := Slots.swapped σ (askedBridges t topology asks (t.parent e)) (trained t (t.parent e))
    (mpioPortMapping t (some topology) asks s).remap (t.parent e) bridge = wanted t entry e ↔
      ∀ i, Slots.into σ swaps bridge = some i → defaultPortDevMap i = wanted t entry e := by
  intro σ swaps
  have hh := hproper.own entry e hm
  obtain ⟨portDevMap, hvalid, hset, hslots⟩ := (mpioPortMapping_spec topology asks s).2.1 (t.parent e) hh
  obtain ⟨k, hk⟩ := isSome_iff_exists.mp (hconflict entry e bridge hm hb).1
  have hwanted := defaultIndex_eq_some.mp hk
  have hrequested : requested t topology asks (t.parent e) bridge = defaultPortDevMap k :=
    (requested_eq_iff hproper hconflict hh bridge (defaultPortDevMap_ne_zero k)).mpr
      ⟨entry, e, hm, rfl, hb, hwanted.symm⟩
  have hrequestedValid : Valid (requested t topology asks (t.parent e)) := valid_foldl_accept _ valid_zero
  have hnotSwapped : bridge ∉ swaps := fun hmem =>
    (Slots.swapped_cases hmem).1 (mem_askedBridges.mpr ⟨entry, e, hm, rfl, hb⟩)
  have hslot : slots portDevMap bridge = (Slots.into σ swaps bridge).or (some k) := by
    rw [hslots, Slots.foldl_swapAt hrequestedValid.mem_assigned, assigned_requested hproper hconflict hh,
      if_neg hnotSwapped, slots_eq_some.mpr hrequested]
  have hkept := (pcieSetPortPciAddressMap_spec portDevMap).1 bridge
  rw [hset, ← hwanted]
  cases hinto : Slots.into σ swaps bridge with
  | none =>
    rw [hinto, none_or, slots_eq_some] at hslot
    rw [hkept (hslot ▸ defaultPortDevMap_ne_zero k), hslot]
    simp
  | some i =>
    rw [hinto, some_or, slots_eq_some] at hslot
    rw [hkept (hslot ▸ defaultPortDevMap_ne_zero i), hslot]
    simp

end

theorem remap_default (topology : List TopologyEntry) (asks : List Ask) (h : Fin n) (hh : t.inSocket h = true)
    (bridge : Fin 24) (s : Mapping t) :
    ∃ k, (mpioPortMapping t (some topology) asks s).remap h bridge = defaultPortDevMap k := by
  obtain ⟨portDevMap, hvalid, hset, -⟩ := (mpioPortMapping_spec topology asks s).2.1 h hh
  obtain ⟨hkept, hfresh, -⟩ := pcieSetPortPciAddressMap_spec portDevMap
  rw [hset]
  by_cases hzero : portDevMap bridge = 0
  · exact (hfresh bridge hzero).1
  · rw [hkept bridge hzero]
    exact hvalid bridge hzero

theorem noConflict_of_agree (hproper : ProperMatch t topology asks) {s : Mapping t}
    (hagree : AddressesAgree t topology asks (mpioPortMapping t (some topology) asks s)) :
    NoConflict t topology asks := by
  intro entry e bridge hm hb
  obtain ⟨hregister, hdistinct⟩ := hagree entry e bridge hm hb
  rw [(address_of_matched s hproper hm hb).2.2] at hregister
  refine ⟨?_, fun entry' e' bridge' hmatched' hbridge' hparent he => ?_⟩
  · obtain ⟨k, hk⟩ := remap_default topology asks (t.parent e) (hproper.own entry e hm) bridge s
    exact isSome_iff_exists.mpr ⟨k, defaultIndex_eq_some.mpr (hk.symm.trans hregister)⟩
  · have hnumbers : wanted t entry' e' ≠ wanted t entry e := fun heq =>
      hdistinct entry' e' bridge' hmatched' hbridge' hparent he
        ((address_eq_iff s hproper hm hb hmatched' hbridge' hparent).mpr heq)
    refine ⟨fun heq => hnumbers ?_, hnumbers⟩
    -- both engines would have the numbers of one register
    have hregister' := (hagree entry' e' bridge' hmatched' hbridge').1
    rw [(address_of_matched s hproper hmatched' hbridge').2.2, hparent, heq] at hregister'
    exact hregister'.symm.trans hregister

end

theorem addressesAgree_iff (topology : List TopologyEntry) (asks : List Ask) (s : Mapping t)
    (hproper : ProperMatch t topology asks) :
    AddressesAgree t topology asks (mpioPortMapping t (some topology) asks s) ↔
      NoConflict t topology asks ∧ KeptByTraining t topology asks s.remap := by
  constructor
  · intro hagree
    have hconflict := noConflict_of_agree hproper hagree
    refine ⟨hconflict, fun entry e bridge hmatched hbridge => ?_⟩
    refine (remap_eq_wanted_iff hproper hconflict hmatched hbridge s).mp ?_
    rw [← (address_of_matched s hproper hmatched hbridge).2.2]
    exact (hagree entry e bridge hmatched hbridge).1
  · rintro ⟨hconflict, hkept⟩ entry e bridge hmatched hbridge
    refine ⟨?_, fun entry' e' bridge' hmatched' hbridge' hparent he => ?_⟩
    · rw [(address_of_matched s hproper hmatched hbridge).2.2]
      exact (remap_eq_wanted_iff hproper hconflict hmatched hbridge s).mpr (hkept entry e bridge hmatched hbridge)
    · rw [ne_eq, address_eq_iff s hproper hmatched hbridge hmatched' hbridge' hparent]
      exact ((hconflict entry e bridge hmatched hbridge).2 entry' e' bridge' hmatched' hbridge' hparent he).2

/-- No `NULL` pointer is used and the addresses agree with the remap registers where the engines of the last wrapper keep
their ids, requests do not conflict and early training keeps them, and only there. -/
theorem portMapping_addresses_iff (topology : List TopologyEntry) (asks : List Ask) (s : Mapping t)
    {ids : t.EngineId → UInt8} (hids : s.bridgeIds = some ids) (hproper : ProperMatch t topology asks) :
    ((mpioPortMapping t (some topology) asks s).bridgeIds ≠ none ∧
      AddressesAgree t topology asks (mpioPortMapping t (some topology) asks s)) ↔
      LastKept t ids (swapCalls t topology asks s.remap) ∧ NoConflict t topology asks ∧
        KeptByTraining t topology asks s.remap := by
  rw [addressesAgree_iff topology asks s hproper, (mpioPortMapping_spec topology asks s).2.2, hids,
    foldl_swapId_ne_none_iff]

theorem matchAsk_askPort0 :
    [askPort0].filterMap (matchAsk threeEngines [wantsDev1Fn4]) = [(wantsDev1Fn4, (0 : Fin 3))] := by
  rfl

theorem portMapping_addresses_iff_one_request :
    AddressesAgree threeEngines [wantsDev1Fn4] [askPort0]
      (mpioPortMapping threeEngines (some [wantsDev1Fn4]) [askPort0] (mappingFrom defaultPortDevMap)) := by
  have hone : ∀ entry e, Matched threeEngines [wantsDev1Fn4] [askPort0] entry e →
      entry = wantsDev1Fn4 ∧ e = (0 : Fin 3) := by
    intro entry e h
    unfold Matched at h
    rw [matchAsk_askPort0] at h
    exact Prod.mk.inj (mem_singleton.mp h)
  refine ((portMapping_addresses_iff [wantsDev1Fn4] [askPort0] (mappingFrom defaultPortDevMap) rfl ⟨?_, ?_⟩).mpr
    ⟨by unfold LastKept; decide +kernel, ?_, ?_⟩).2
  · intro entry e _
    rfl
  · intro entry entry' e h h'
    rw [(hone entry e h).1, (hone entry' e h').1]
  · intro entry e bridge h _
    obtain ⟨rfl, rfl⟩ := hone entry e h
    refine ⟨by decide, fun entry' e' bridge' h' _ _ hne => ?_⟩
    exact absurd (hone entry' e' h').2 hne
  · intro entry e bridge h _ σ swaps i hi
    have hnone : Slots.swapped (slots defaultPortDevMap) (askedBridges threeEngines [wantsDev1Fn4] [askPort0] 0)
        (trained threeEngines 0) = [] := by
      decide +kernel
    have hswaps : swaps = [] := by
      obtain ⟨rfl, rfl⟩ := hone entry e h
      exact hnone
    rw [hswaps] at hi
    exact absurd hi (by simp [Slots.into])

def wantsDev1Fn4Too : TopologyEntry := ⟨mpioPcieEngine, 8, 1, 4⟩

def askPort1 : Ask := ⟨askTypePcie, 8, 1⟩

/-- The second of two ports with the same request has the address of the first, and other numbers in its register. -/
theorem address_of_rejected_request :
    let topology := [wantsDev1Fn4, wantsDev1Fn4Too]
    let s := mpioPortMapping threeEngines (some topology) [askPort0, askPort1] (mappingFrom defaultPortDevMap)
    s.bridgeIds ≠ none ∧ (s.ports (1 : Fin 3)).address = ⟨0, 0, 1, 4⟩ ∧ (s.ports (0 : Fin 3)).address = ⟨0, 0, 1, 4⟩ ∧
      s.remap 0 0 = devFunc 1 1 ∧ ¬AddressesAgree threeEngines topology [askPort0, askPort1] s := by
  intro topology s
  have haddress : (s.ports (1 : Fin 3)).address = ⟨0, 0, 1, 4⟩ := by decide +kernel
  have hregister : s.remap 0 0 = devFunc 1 1 := by decide +kernel
  refine ⟨by decide +kernel, haddress, by decide +kernel, hregister, fun hagree => ?_⟩
  have hmatched : Matched threeEngines topology [askPort0, askPort1] wantsDev1Fn4Too (1 : Fin 3) :=
    mem_cons_of_mem (wantsDev1Fn4, (0 : Fin 3)) mem_cons_self
  have h := (hagree wantsDev1Fn4Too (1 : Fin 3) 0 hmatched rfl).1
  rw [haddress] at h
  exact absurd (hregister.symm.trans h) (by decide)

end OpenSil.Mpio
