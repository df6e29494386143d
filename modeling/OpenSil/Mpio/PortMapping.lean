import OpenSil.Mpio.Topology
import OpenSil.Mpio.PortDevMap

/-! # Port mapping

`MpioPortMapping` goes over the ASK entries, then over the engines that are trained early.
-/

namespace OpenSil.Mpio

open List Function

def mpioUsbOverPcie : UInt8 := 4
def askTypePcie : UInt8 := 0

structure TopologyEntry where
  engineType : UInt8
  mpioStartLane : UInt8
  deviceNumber : BitVec 5
  functionNumber : BitVec 3
  deriving DecidableEq

structure Ask where
  ctrlType : UInt8
  startLaneIndex : UInt16
  port : BitVec 8

structure RootBridge where
  socketId : UInt8
  rbIndex : UInt8
  segment : UInt8
  bus : UInt8

structure Engine (n : Nat) extends PortConfig where
  handle : Fin n
  startDxioLane : UInt8
  endDxioLane : UInt8
  pcieEngine : Bool
  wrapper : Nat

structure PcieTopology (n : Nat) [NeZero n] where
  handles : Fin n → RootBridge
  engines : List (Engine n)
  /-- The root bridges of a socket have their own index each. -/
  rbIndex_inj : ∀ i j, (handles i).socketId = (handles 0).socketId → (handles j).socketId = (handles 0).socketId →
    (handles i).rbIndex = (handles j).rbIndex → i = j

open Slots

section
variable {n : Nat} [NeZero n] (t : PcieTopology n)

namespace PcieTopology

abbrev EngineId := Fin t.engines.length

def engine (e : t.EngineId) : Engine n := t.engines.get e

def parent (e : t.EngineId) : Fin n := (t.engine e).handle

def rbIndex (h : Fin n) : UInt8 := (t.handles h).rbIndex

def inSocket (h : Fin n) : Bool := (t.handles h).socketId = (t.handles 0).socketId

def socketHandles : List (Fin n) := (List.finRange n).filter t.inSocket

def enginesOf (h : Fin n) : List t.EngineId := (List.finRange t.engines.length).filter (t.parent · = h)

/-- The engines from `e` to `x` belong to one wrapper. -/
def sameWrapper (e x : t.EngineId) : Bool :=
  e ≤ x ∧ ∀ y, e ≤ y → y ≤ x → (t.engine y).wrapper = (t.engine e).wrapper

def inLastWrapper (e : t.EngineId) : Bool := ∀ y, e ≤ y → (t.engine y).wrapper = (t.engine e).wrapper

/-- The ids are missing after a `NULL` pointer is used. -/
abbrev BridgeIds := Option (t.EngineId → UInt8)

/-- The loop asks for the wrapper of the engine behind the last one of a wrapper. -/
def swapLogicalBridgeId (e : t.EngineId) (newBdgIdx : Fin 24) (bridgeIds : t.BridgeIds) : t.BridgeIds := do
  let ids ← bridgeIds
  if ids e = newBdgIdx.val.toUInt8 then some ids
  else if t.inLastWrapper e then none
  else some (Function.update
    (fun x => if t.sameWrapper e x ∧ ids x = newBdgIdx.val.toUInt8 then ids e else ids x) e newBdgIdx.val.toUInt8)

end PcieTopology

def mpioFindTopoForAsk (socketTopology : List TopologyEntry) (ask : Ask) : Option TopologyEntry :=
  socketTopology.find? fun entry =>
    entry.engineType = mpioUsbOverPcie ∨
      (entry.engineType = mpioPcieEngine ∧ entry.mpioStartLane.toUInt16 = ask.startLaneIndex)

def findEngineInNbio (ask : Ask) (h : Fin n) : Option t.EngineId :=
  (t.enginesOf h).reverse.find? fun e =>
    (t.engine e).startDxioLane.toUInt16 ≤ ask.startLaneIndex ∧ ask.startLaneIndex ≤ (t.engine e).endDxioLane.toUInt16 ∧
      (t.engine e).pcieEngine ∧ ask.port = (t.engine e).portId.setWidth 8

def mpioFindEngineForAsk (ask : Ask) : Option t.EngineId := (List.finRange n).findSome? (findEngineInNbio t ask)

/-- The port data and logical bridge ids of the engines, the tables by `RBIndex`, and the remap registers of the root
bridges. -/
structure Mapping where
  ports : t.EngineId → PortData
  bridgeIds : t.BridgeIds
  portDevMap : UInt8 → PortDevMap
  remap : Fin n → PortDevMap

def matchAsk (socketTopology : List TopologyEntry) (ask : Ask) : Option (TopologyEntry × t.EngineId) :=
  if ask.ctrlType = askTypePcie then
    (mpioFindTopoForAsk socketTopology ask).bind fun entry => (mpioFindEngineForAsk t ask).map (entry, ·)
  else none

variable {t}

def mapEngine (s : Mapping t) (found : TopologyEntry × t.EngineId) : Mapping t :=
  let (entry, e) := found
  let handle := t.handles (t.parent e)
  let port := { s.ports e with deviceNumber := entry.deviceNumber, functionNumber := entry.functionNumber }
  let (_, port, portDevMap, bridgeIds) := pcieMapPortPciAddress (t.swapLogicalBridgeId e) (t.engine e).toPortConfig port
    (s.portDevMap handle.rbIndex) s.bridgeIds
  { s with
    ports := Function.update s.ports e
      { port with address := ⟨handle.segment, handle.bus, port.deviceNumber, port.functionNumber⟩ }
    bridgeIds := bridgeIds
    portDevMap := Function.update s.portDevMap handle.rbIndex portDevMap }

def syncEngine (s : Mapping t) (e : t.EngineId) : Mapping t :=
  let rbIndex := t.rbIndex (t.parent e)
  let (port, portDevMap, bridgeIds) := syncEarlyTrainRemap (t.swapLogicalBridgeId e) (s.remap (t.parent e))
    (t.engine e).toPortConfig (s.ports e) (s.portDevMap rbIndex) s.bridgeIds
  { s with ports := Function.update s.ports e port, bridgeIds := bridgeIds
           portDevMap := Function.update s.portDevMap rbIndex portDevMap }

def setAddressMap (s : Mapping t) (h : Fin n) : Mapping t :=
  let portDevMap := pcieSetPortPciAddressMap (s.portDevMap (t.rbIndex h))
  { s with portDevMap := Function.update s.portDevMap (t.rbIndex h) portDevMap
           remap := Function.update s.remap h portDevMap }

variable (t)

/-- `none` if there is no topology for the socket. -/
def mpioPortMapping (socketTopology : Option (List TopologyEntry)) (asks : List Ask) (s : Mapping t) : Mapping t :=
  match socketTopology with
  | none => s
  | some socketTopology =>
    let s := { s with portDevMap := fun _ _ => 0 }
    let s := (asks.filterMap (matchAsk t socketTopology)).foldl mapEngine s
    let s := t.socketHandles.foldl (fun s h => (t.enginesOf h).foldl syncEngine s) s
    t.socketHandles.foldl setAddressMap s

/-! ## What the three passes do to the table of one root bridge -/

def requests (found : List (TopologyEntry × t.EngineId)) (rbIndex : UInt8) : List (Fin 24 × BitVec 8) :=
  found.filterMap fun (entry, e) =>
    if t.rbIndex (t.parent e) = rbIndex then
      requestOf (t.engine e).toPortConfig entry.deviceNumber entry.functionNumber
    else none

def requested (socketTopology : List TopologyEntry) (asks : List Ask) (h : Fin n) : PortDevMap :=
  (requests t (asks.filterMap (matchAsk t socketTopology)) (t.rbIndex h)).foldl accept fun _ => 0

def trained (h : Fin n) : List (Fin 24) := (t.enginesOf h).filterMap fun e => trainedIndex (t.engine e).toPortConfig

def askCalls (found : List (TopologyEntry × t.EngineId)) : List (t.EngineId × Fin 24) :=
  found.filterMap fun (entry, e) =>
    (swapOf (t.engine e).toPortConfig entry.deviceNumber entry.functionNumber).map (e, ·)

def trainedCalls (σ m : Fin 24 → Option (Fin 24)) (es : List t.EngineId) : List (t.EngineId × Fin 24) :=
  freeTurns σ m (es.filterMap fun e => (trainedIndex (t.engine e).toPortConfig).map (e, ·))

/-- The calls of `SwapLogicalBridgeId`: one for each ASK entry that is found and asks for numbers of the default table,
and one for each engine that is trained early and whose bridge is free at its turn. -/
def swapCalls (socketTopology : List TopologyEntry) (asks : List Ask) (devFnMap : Fin n → PortDevMap) :
    List (t.EngineId × Fin 24) :=
  askCalls t (asks.filterMap (matchAsk t socketTopology)) ++ t.socketHandles.flatMap fun h =>
    trainedCalls t (slots (devFnMap h)) (slots (requested t socketTopology asks h)) (t.enginesOf h)

/-- An engine of the last wrapper has the id it is to have already. -/
def LastKept (ids : t.EngineId → UInt8) (calls : List (t.EngineId × Fin 24)) : Prop :=
  ∀ c ∈ calls, t.inLastWrapper c.1 = true → ids c.1 = c.2.val.toUInt8

def swapId (bridgeIds : t.BridgeIds) (call : t.EngineId × Fin 24) : t.BridgeIds :=
  t.swapLogicalBridgeId call.1 call.2 bridgeIds

variable {t}

open PcieTopology

/-! ## The calls of `SwapLogicalBridgeId` -/

theorem inLastWrapper_of_sameWrapper {e x : t.EngineId} (hx : t.inLastWrapper x = true) (h : t.sameWrapper e x = true) :
    t.inLastWrapper e = true := by
  simp only [inLastWrapper, sameWrapper, decide_eq_true_eq] at hx h ⊢
  intro y hy
  rcases le_total y x with hyx | hxy
  · exact h.2 y hy hyx
  · exact (hx y hxy).trans (h.2 x h.1 le_rfl)

theorem swapId_some (ids : t.EngineId → UInt8) (c : t.EngineId × Fin 24) :
    (ids c.1 = c.2.val.toUInt8 → swapId t (some ids) c = some ids) ∧
    (ids c.1 ≠ c.2.val.toUInt8 → t.inLastWrapper c.1 = true → swapId t (some ids) c = none) ∧
    (ids c.1 ≠ c.2.val.toUInt8 → t.inLastWrapper c.1 = false →
      ∃ ids', swapId t (some ids) c = some ids' ∧ ∀ x, t.inLastWrapper x = true → ids' x = ids x) := by
  have hswap : swapId t (some ids) c = if ids c.1 = c.2.val.toUInt8 then some ids
      else if t.inLastWrapper c.1 then none else some _ := rfl
  refine ⟨fun hid => by rw [hswap, if_pos hid], fun hid hlast => by rw [hswap, if_neg hid, if_pos hlast], ?_⟩
  intro hid hlast
  refine ⟨_, by rw [hswap, if_neg hid, if_neg (by simp [hlast])], fun x hx => ?_⟩
  have hne : x ≠ c.1 := fun heq => by simp [← heq, hx] at hlast
  have hother : t.sameWrapper c.1 x = false := by
    by_contra h
    simp [inLastWrapper_of_sameWrapper hx (by simpa using h)] at hlast
  simp [hne, hother]

theorem foldl_swapId_none (calls : List (t.EngineId × Fin 24)) : calls.foldl (swapId t) none = none :=
  foldlRecOn (motive := (· = none)) calls (swapId t) rfl fun _ h _ _ => by rw [h]; rfl

/-- As long as no `NULL` pointer is used, the ids in the last wrapper stay. -/
theorem foldl_swapId_ne_none_iff (ids : t.EngineId → UInt8) (calls : List (t.EngineId × Fin 24)) :
    calls.foldl (swapId t) (some ids) ≠ none ↔ LastKept t ids calls := by
  induction calls generalizing ids with
  | nil => simp [LastKept]
  | cons c calls ih =>
    obtain ⟨hsame, hnull, hswap⟩ := swapId_some ids c
    unfold LastKept at ih ⊢
    rw [foldl_cons, forall_mem_cons]
    by_cases hid : ids c.1 = c.2.val.toUInt8
    · rw [hsame hid, ih]
      simp [hid]
    cases hlast : t.inLastWrapper c.1 with
    | true =>
      rw [hnull hid hlast, foldl_swapId_none]
      simp [hid]
    | false =>
      obtain ⟨ids', hids', hkeep⟩ := hswap hid hlast
      have hkept : (∀ d ∈ calls, t.inLastWrapper d.1 = true → ids' d.1 = d.2.val.toUInt8) ↔
          ∀ d ∈ calls, t.inLastWrapper d.1 = true → ids d.1 = d.2.val.toUInt8 :=
        forall₂_congr fun d _ => imp_congr_right fun hd => by rw [hkeep d.1 hd]
      rw [hids', ih, hkept]
      simp

/-! ## The passes -/

section
variable (rs : List (Fin 24 × BitVec 8)) (s : Mapping t)

theorem mapEngine_portDevMap (found : TopologyEntry × t.EngineId) (rbIndex : UInt8) :
    (mapEngine s found).portDevMap rbIndex = (requests t [found] rbIndex).foldl accept (s.portDevMap rbIndex) := by
  obtain ⟨entry, e⟩ := found
  unfold mapEngine requests
  by_cases h : rbIndex = t.rbIndex (t.parent e)
  · subst h
    have hmap := congrArg Prod.fst <| pcieMapPortPciAddress_map (t.swapLogicalBridgeId e) s.bridgeIds
      (t.engine e).toPortConfig
      { s.ports e with deviceNumber := entry.deviceNumber, functionNumber := entry.functionNumber }
      (s.portDevMap (t.rbIndex (t.parent e)))
    cases hrequest : requestOf (t.engine e).toPortConfig entry.deviceNumber entry.functionNumber with
    | none => simpa [PcieTopology.rbIndex, hrequest] using hmap
    | some request => simpa [PcieTopology.rbIndex, hrequest] using hmap
  · have hne : (t.handles (t.parent e)).rbIndex ≠ rbIndex := fun heq => h heq.symm
    simp [PcieTopology.rbIndex, hne, Ne.symm hne]

theorem foldl_mapEngine_portDevMap (found : List (TopologyEntry × t.EngineId)) (rbIndex : UInt8) :
    (found.foldl mapEngine s).portDevMap rbIndex = (requests t found rbIndex).foldl accept (s.portDevMap rbIndex) := by
  induction found generalizing s with
  | nil => rfl
  | cons a found ih =>
    have happend : requests t (a :: found) rbIndex = requests t [a] rbIndex ++ requests t found rbIndex := by
      unfold requests
      rw [← filterMap_append, singleton_append]
    rw [foldl_cons, ih, mapEngine_portDevMap, happend, foldl_append]

theorem foldl_mapEngine_bridgeIds (found : List (TopologyEntry × t.EngineId)) :
    (found.foldl mapEngine s).bridgeIds = (askCalls t found).foldl (swapId t) s.bridgeIds := by
  induction found generalizing s with
  | nil => rfl
  | cons a found ih =>
    obtain ⟨entry, e⟩ := a
    have hstep : (mapEngine s (entry, e)).bridgeIds =
        (swapOf (t.engine e).toPortConfig entry.deviceNumber entry.functionNumber).elim s.bridgeIds
          (t.swapLogicalBridgeId e · s.bridgeIds) :=
      congrArg Prod.snd (pcieMapPortPciAddress_map (t.swapLogicalBridgeId e) s.bridgeIds _ _ _)
    rw [foldl_cons, ih, hstep]
    cases hswap : swapOf (t.engine e).toPortConfig entry.deviceNumber entry.functionNumber with
    | none => simp [askCalls, hswap]
    | some index => simp [askCalls, hswap, swapId]

theorem foldl_mapEngine_remap (found : List (TopologyEntry × t.EngineId)) :
    (found.foldl mapEngine s).remap = s.remap :=
  Stores.foldl_keep (f := mapEngine) (p := Mapping.remap) (fun _ _ => rfl) found s

structure SyncFrame (s s' : Mapping t) : Prop where
  remap : s'.remap = s.remap
  address : ∀ e, (s'.ports e).address = (s.ports e).address

theorem SyncFrame.trans {s s' s'' : Mapping t} (h : SyncFrame s s') (h' : SyncFrame s' s'') : SyncFrame s s'' :=
  ⟨h'.remap.trans h.remap, fun e => (h'.address e).trans (h.address e)⟩

theorem syncEarlyTrainRemap_address {Ids : Type} (swap : Fin 24 → Ids → Ids) (devFnMap : PortDevMap)
    (config : PortConfig) (port : PortData) (portDevMap : PortDevMap) (ids : Ids) :
    (syncEarlyTrainRemap swap devFnMap config port portDevMap ids).1.address = port.address := by
  unfold syncEarlyTrainRemap nativeIfZero
  dsimp only
  split_ifs
  · split
    · rfl
    · split_ifs <;> rfl
  · rfl

theorem syncEngine_frame (e : t.EngineId) : SyncFrame s (syncEngine s e) := by
  refine ⟨rfl, fun e' => ?_⟩
  unfold syncEngine
  by_cases he : e' = e
  · subst he
    simp [syncEarlyTrainRemap_address]
  · simp [he]

theorem syncEngine_portDevMap_of_ne (e : t.EngineId) {rbIndex : UInt8} (h : rbIndex ≠ t.rbIndex (t.parent e)) :
    (syncEngine s e).portDevMap rbIndex = s.portDevMap rbIndex :=
  update_of_ne h _ _

theorem foldl_syncEngine (h : Fin n) (es : List t.EngineId) (hes : ∀ e ∈ es, t.parent e = h) (s : Mapping t)
    (hvalid : Valid (s.portDevMap (t.rbIndex h))) :
    SyncFrame s (es.foldl syncEngine s) ∧
    (∀ rbIndex, rbIndex ≠ t.rbIndex h → (es.foldl syncEngine s).portDevMap rbIndex = s.portDevMap rbIndex) ∧
    Valid ((es.foldl syncEngine s).portDevMap (t.rbIndex h)) ∧
    slots ((es.foldl syncEngine s).portDevMap (t.rbIndex h)) =
      (es.filterMap fun e => trainedIndex (t.engine e).toPortConfig).foldl (swapAt (slots (s.remap h)))
        (slots (s.portDevMap (t.rbIndex h))) ∧
    (es.foldl syncEngine s).bridgeIds =
      (trainedCalls t (slots (s.remap h)) (slots (s.portDevMap (t.rbIndex h))) es).foldl (swapId t) s.bridgeIds := by
  induction es generalizing s with
  | nil => exact ⟨⟨rfl, fun _ => rfl⟩, fun _ _ => rfl, hvalid, rfl, rfl⟩
  | cons e es ih =>
    have hparent : t.parent e = h := hes e mem_cons_self
    obtain ⟨hvalid', hslots'⟩ :=
      syncEarlyTrainRemap_map (t.swapLogicalBridgeId e) s.bridgeIds hvalid (s.remap h) (t.engine e).toPortConfig (s.ports e)
    have htable : (syncEngine s e).portDevMap (t.rbIndex h) = (syncEarlyTrainRemap (t.swapLogicalBridgeId e) (s.remap h)
        (t.engine e).toPortConfig (s.ports e) (s.portDevMap (t.rbIndex h)) s.bridgeIds).2.1 := by
      unfold syncEngine
      rw [hparent]
      exact update_self _ _ _
    have hids : (syncEngine s e).bridgeIds = (trainedIndex (t.engine e).toPortConfig).elim s.bridgeIds fun i =>
        if slots (s.portDevMap (t.rbIndex h)) i = none then t.swapLogicalBridgeId e i s.bridgeIds else s.bridgeIds := by
      rw [← syncEarlyTrainRemap_ids (t.swapLogicalBridgeId e) s.bridgeIds hvalid (s.remap h) _ (s.ports e)]
      unfold syncEngine
      rw [hparent]
    have hframe := syncEngine_frame s e
    obtain ⟨hframe', hother, hvalid'', hslots'', hids''⟩ :=
      ih (fun e he => hes e (mem_cons_of_mem _ he)) (syncEngine s e) (htable ▸ hvalid')
    refine ⟨hframe.trans hframe', fun rbIndex hne => ?_, hvalid'', ?_, ?_⟩
    · rw [foldl_cons, hother rbIndex hne, syncEngine_portDevMap_of_ne s e (hparent ▸ hne)]
    · rw [foldl_cons, hslots'', htable, hslots', hframe.remap]
      cases htrained : trainedIndex (t.engine e).toPortConfig <;> simp [htrained]
    · rw [foldl_cons, hids'', htable, hslots', hframe.remap, hids]
      unfold trainedCalls
      cases htrained : trainedIndex (t.engine e).toPortConfig with
      | none => simp [htrained]
      | some i =>
        simp only [htrained, filterMap_cons, Option.map_some, freeTurns, foldl_append, Option.elim_some]
        split_ifs <;> rfl

theorem mem_socketHandles {h : Fin n} : h ∈ t.socketHandles ↔ t.inSocket h = true := by
  simp [socketHandles]

theorem PcieTopology.rbIndex_ne {h h' : Fin n} (hh : h ∈ t.socketHandles) (hh' : h' ∈ t.socketHandles) (hne : h ≠ h') :
    t.rbIndex h ≠ t.rbIndex h' := fun heq =>
  hne (t.rbIndex_inj h h' (of_decide_eq_true (mem_socketHandles.mp hh)) (of_decide_eq_true (mem_socketHandles.mp hh')) heq)

section
variable (hs : List (Fin n)) (hnodup : hs.Nodup) (hsocket : ∀ h ∈ hs, h ∈ t.socketHandles)
include hnodup hsocket

theorem foldl_syncEngines (s : Mapping t) (hvalid : ∀ rbIndex, Valid (s.portDevMap rbIndex)) :
    let s' := hs.foldl (fun s h => (t.enginesOf h).foldl syncEngine s) s
    SyncFrame s s' ∧
    (∀ h ∈ t.socketHandles, h ∉ hs → s'.portDevMap (t.rbIndex h) = s.portDevMap (t.rbIndex h)) ∧
    (∀ h ∈ hs, Valid (s'.portDevMap (t.rbIndex h)) ∧
      slots (s'.portDevMap (t.rbIndex h)) =
        (trained t h).foldl (swapAt (slots (s.remap h))) (slots (s.portDevMap (t.rbIndex h)))) ∧
    s'.bridgeIds = (hs.flatMap fun h => trainedCalls t (slots (s.remap h)) (slots (s.portDevMap (t.rbIndex h)))
      (t.enginesOf h)).foldl (swapId t) s.bridgeIds := by
  induction hs generalizing s with
  | nil => exact ⟨⟨rfl, fun _ => rfl⟩, fun _ _ _ => rfl, fun h hh => absurd hh not_mem_nil, rfl⟩
  | cons a hs ih =>
    obtain ⟨ha, hnodup⟩ := nodup_cons.mp hnodup
    have hsa := hsocket a mem_cons_self
    have hengines : ∀ e ∈ t.enginesOf a, t.parent e = a := fun e he => by simpa [enginesOf] using he
    obtain ⟨hframe, hother, hvalida, hslotsa, hidsa⟩ := foldl_syncEngine a (t.enginesOf a) hengines s (hvalid _)
    have hvalid' : ∀ rbIndex, Valid (((t.enginesOf a).foldl syncEngine s).portDevMap rbIndex) := by
      intro rbIndex
      by_cases hrb : rbIndex = t.rbIndex a
      · exact hrb ▸ hvalida
      · rw [hother rbIndex hrb]
        exact hvalid rbIndex
    obtain ⟨hframe', hother', htables, hids⟩ := ih hnodup (fun h hh => hsocket h (mem_cons_of_mem _ hh)) _ hvalid'
    have hkept : ∀ h ∈ hs,
        ((t.enginesOf a).foldl syncEngine s).portDevMap (t.rbIndex h) = s.portDevMap (t.rbIndex h) := fun h hmem =>
      hother _ (rbIndex_ne (hsocket h (mem_cons_of_mem _ hmem)) hsa fun heq => ha (heq ▸ hmem))
    refine ⟨hframe.trans hframe', fun h hh hnot => ?_, fun h hh => ?_, ?_⟩
    · rw [mem_cons, not_or] at hnot
      exact (hother' h hh hnot.2).trans (hother _ (rbIndex_ne hh hsa hnot.1))
    · rcases mem_cons.mp hh with rfl | hmem
      · have hsame := hother' h hsa ha
        rw [foldl_cons, hsame]
        exact ⟨hvalida, hslotsa⟩
      · rw [← hframe.remap, ← hkept h hmem]
        exact htables h hmem
    · rw [foldl_cons, hids, hidsa, flatMap_cons, foldl_append, hframe.remap]
      congr 1
      exact flatMap_congr fun h hmem => by rw [hkept h hmem]

theorem foldl_setAddressMap (s : Mapping t) :
    let s' := hs.foldl setAddressMap s
    s'.ports = s.ports ∧ (∀ h, h ∉ hs → s'.remap h = s.remap h) ∧
      ∀ h ∈ hs, s'.remap h = pcieSetPortPciAddressMap (s.portDevMap (t.rbIndex h)) := by
  induction hs generalizing s with
  | nil => exact ⟨rfl, fun _ _ => rfl, fun h hh => absurd hh not_mem_nil⟩
  | cons a hs ih =>
    obtain ⟨ha, hnodup⟩ := nodup_cons.mp hnodup
    obtain ⟨hports, hother, htables⟩ := ih hnodup (fun h hh => hsocket h (mem_cons_of_mem _ hh)) (setAddressMap s a)
    refine ⟨hports, fun h hnot => ?_, fun h hh => ?_⟩
    · rw [mem_cons, not_or] at hnot
      exact (hother h hnot.2).trans (update_of_ne hnot.1 _ _)
    · rcases mem_cons.mp hh with rfl | hmem
      · exact (hother h ha).trans (update_self _ _ _)
      · have hne : h ≠ a := fun heq => ha (heq ▸ hmem)
        rw [foldl_cons, htables h hmem]
        congr 1
        exact update_of_ne
          (rbIndex_ne (hsocket h hh) (hsocket a mem_cons_self) hne) _ _

end

theorem valid_foldl_accept {portDevMap : PortDevMap} (h : Valid portDevMap) :
    Valid (rs.foldl accept portDevMap) :=
  foldlRecOn rs accept h fun _ h r _ => h.accept r

theorem noClash_foldl_accept {portDevMap : PortDevMap} (h : NoClash (slots portDevMap)) :
    NoClash (slots (rs.foldl accept portDevMap)) :=
  foldlRecOn (motive := (NoClash <| slots ·)) rs accept h fun _ h r _ => noClash_accept h r

theorem valid_zero : Valid fun _ => 0 := fun _ h => absurd rfl h

theorem noClash_zero : NoClash (slots fun _ => 0) := by
  intro i j k hi
  exact absurd (slots_eq_some.mp hi).symm (defaultPortDevMap_ne_zero k)

theorem mpioPortMapping_spec (socketTopology : List TopologyEntry) (asks : List Ask) (s : Mapping t) :
    let found := asks.filterMap (matchAsk t socketTopology)
    let s' := mpioPortMapping t (some socketTopology) asks s
    (∀ e, (s'.ports e).address = ((found.foldl mapEngine { s with portDevMap := fun _ _ => 0 }).ports e).address) ∧
    (∀ h, t.inSocket h = true → ∃ portDevMap, Valid portDevMap ∧
      s'.remap h = pcieSetPortPciAddressMap portDevMap ∧
      slots portDevMap = (trained t h).foldl (swapAt (slots (s.remap h)))
        (slots (requested t socketTopology asks h))) ∧
    s'.bridgeIds = (swapCalls t socketTopology asks s.remap).foldl (swapId t) s.bridgeIds := by
  intro found s'
  have hnodup : t.socketHandles.Nodup := (nodup_finRange n).filter _
  have htables := foldl_mapEngine_portDevMap { s with portDevMap := fun _ _ => 0 } found
  have hremap := foldl_mapEngine_remap { s with portDevMap := fun _ _ => 0 } found
  obtain ⟨hframe, -, hsync, hids⟩ := foldl_syncEngines t.socketHandles hnodup (fun _ h => h)
    (found.foldl mapEngine { s with portDevMap := fun _ _ => 0 })
    (fun rbIndex => by rw [htables]; exact valid_foldl_accept _ valid_zero)
  obtain ⟨hports, -, hset⟩ := foldl_setAddressMap t.socketHandles hnodup (fun _ h => h)
    (t.socketHandles.foldl (fun s h => (t.enginesOf h).foldl syncEngine s)
      (found.foldl mapEngine { s with portDevMap := fun _ _ => 0 }))
  refine ⟨fun e => ?_, fun h hh => ?_, ?_⟩
  · rw [← hframe.address e, ← hports]
    rfl
  · obtain ⟨hvalid, hslots⟩ := hsync h (mem_socketHandles.mpr hh)
    refine ⟨_, hvalid, hset h (mem_socketHandles.mpr hh), ?_⟩
    rw [hslots, hremap, htables]
    rfl
  · rw [foldl_mapEngine_bridgeIds] at hids
    simp only [hremap, htables] at hids
    rw [swapCalls, foldl_append]
    exact (Stores.foldl_keep (f := setAddressMap) (p := Mapping.bridgeIds) (fun _ _ => rfl) _ _).trans hids

end

end

/-! ## The values that are programmed -/

def assigned (portDevMap : PortDevMap) : Finset (Fin 24) := Finset.univ.filter (portDevMap · ≠ 0)

def earlySwaps (devFnMap requested : PortDevMap) (trained : List (Fin 24)) : List (Fin 24) :=
  Slots.swapped (slots devFnMap) (assigned requested) trained

/-- Early training leaves no value twice: where it swaps bridges `i` and `s`, no request for their values stays. -/
def SwapsClean (devFnMap requested : PortDevMap) (trained : List (Fin 24)) : Prop :=
  let swaps := earlySwaps devFnMap requested trained
  let Moved := Slots.Moved (slots devFnMap) swaps
  ∀ i ∈ swaps, (∀ k, requested k = defaultPortDevMap i → Moved k) ∧
    (¬Moved i → ∀ s, devFnMap i = defaultPortDevMap s →
      s ∉ swaps ∧ ∀ k, requested k = defaultPortDevMap s → Moved k)

theorem Valid.mem_assigned {portDevMap : PortDevMap} (h : Valid portDevMap) (i : Fin 24) :
    i ∈ assigned portDevMap ↔ slots portDevMap i ≠ none := by
  rw [ne_eq, h.slots_eq_none]
  simp [assigned]

theorem noClash_swaps_iff {devFnMap requested : PortDevMap} (hdev : IsRemap devFnMap) (hvalid : Valid requested)
    (hclash : NoClash (slots requested)) (trained : List (Fin 24)) :
    NoClash (trained.foldl (swapAt (slots devFnMap)) (slots requested)) ↔
      SwapsClean devFnMap requested trained := by
  rw [noClash_foldl_swapAt_iff (noClash_slots_of_isRemap hdev) hvalid.mem_assigned hclash]
  unfold SwapsClean earlySwaps
  simp only [slots_eq_some]

section
variable {n : Nat} [NeZero n] (t : PcieTopology n)

/-- No `NULL` pointer is used and the remap registers of the socket are permutations again where the engines of the last
wrapper keep their ids and every root bridge has clean swaps, and only there. -/
theorem portMapping_isRemap_iff (socketTopology : Option (List TopologyEntry)) (asks : List Ask) (s : Mapping t)
    {ids : t.EngineId → UInt8} (hids : s.bridgeIds = some ids)
    (hremap : ∀ h, t.inSocket h = true → IsRemap (s.remap h)) :
    ((mpioPortMapping t socketTopology asks s).bridgeIds ≠ none ∧
      ∀ h, t.inSocket h = true → IsRemap ((mpioPortMapping t socketTopology asks s).remap h)) ↔
      ∀ topology, socketTopology = some topology → LastKept t ids (swapCalls t topology asks s.remap) ∧
        ∀ h, t.inSocket h = true → SwapsClean (s.remap h) (requested t topology asks h) (trained t h) := by
  cases socketTopology with
  | none => exact ⟨fun _ _ h => absurd h (by simp), fun _ => ⟨by simp [mpioPortMapping, hids], hremap⟩⟩
  | some topology =>
    simp only [Option.some.injEq, forall_eq']
    obtain ⟨-, htables, hcalls⟩ := mpioPortMapping_spec topology asks s
    rw [hcalls, hids, foldl_swapId_ne_none_iff]
    refine and_congr_right fun _ => forall₂_congr fun h hh => ?_
    obtain ⟨portDevMap, hvalid, hset, hslots⟩ := htables h hh
    rw [hset, isRemap_pcieSetPortPciAddressMap_iff hvalid, hslots]
    exact noClash_swaps_iff (hremap h hh) (valid_foldl_accept _ valid_zero) (noClash_foldl_accept _ noClash_zero) _

end

local instance neZero_one : NeZero 1 := ⟨one_ne_zero⟩

/-- Two engines in one wrapper, and one in the wrapper behind it. -/
def threeEngines : PcieTopology 1 where
  handles := fun _ => ⟨0, 0, 0, 0⟩
  engines := [⟨⟨0, 5, 1, 6, 0⟩, 0, 0, 15, true, 0⟩, ⟨⟨1, 0, 1, 1, 8⟩, 0, 0, 15, true, 0⟩,
    ⟨⟨2, 1, 1, 2, 0⟩, 0, 16, 31, false, 1⟩]
  rbIndex_inj := fun _ _ _ _ _ => Subsingleton.elim _ _

def askPort0 : Ask := ⟨askTypePcie, 0, 0⟩

def wantsDev1Fn4 : TopologyEntry := ⟨mpioPcieEngine, 0, 1, 4⟩

def mappingFrom (devFnMap : PortDevMap) : Mapping threeEngines :=
  ⟨fun _ => ⟨0, 0, ⟨0, 0, 0, 0⟩⟩, some fun e => e.val.toUInt8, fun _ _ => 0, fun _ => devFnMap⟩

theorem isRemap_comp (f : Equiv.Perm (Fin 24)) : IsRemap (defaultPortDevMap ∘ f) :=
  isRemap_iff.mpr ⟨defaultPortDevMap_injective.comp f.injective, fun i => ⟨f i, rfl⟩⟩

theorem portMapping_isRemap_iff_default :
    IsRemap ((mpioPortMapping threeEngines (some [wantsDev1Fn4]) [askPort0] (mappingFrom defaultPortDevMap)).remap 0) := by
  refine ((portMapping_isRemap_iff threeEngines (some [wantsDev1Fn4]) [askPort0] (mappingFrom defaultPortDevMap) rfl
    (fun _ _ => isRemap_comp (Equiv.refl _))).mpr ?_).2 0 (by decide)
  intro topology htopology
  cases htopology
  have hnone : earlySwaps defaultPortDevMap (requested threeEngines [wantsDev1Fn4] [askPort0] 0) (trained threeEngines 0) =
      [] := by
    decide +kernel
  refine ⟨by unfold LastKept; decide +kernel, fun h _ => ?_⟩
  rw [Subsingleton.elim h 0]
  intro i hi
  exact absurd (hnone ▸ hi) not_mem_nil

/-- The hardware has bridges 0 and 3 swapped: device 1, function 4 is given to bridge 0 and to bridge 5. -/
theorem same_numbers_twice :
    let devFnMap := defaultPortDevMap ∘ Equiv.swap 0 3
    let s := mpioPortMapping threeEngines (some [wantsDev1Fn4]) [askPort0] (mappingFrom devFnMap)
    IsRemap devFnMap ∧ s.bridgeIds ≠ none ∧ s.remap 0 0 = devFunc 1 4 ∧ s.remap 0 5 = devFunc 1 4 ∧
      ¬IsRemap (s.remap 0) := by
  intro devFnMap s
  have h0 : s.remap 0 0 = devFunc 1 4 := by decide +kernel
  have h5 : s.remap 0 5 = devFunc 1 4 := by decide +kernel
  refine ⟨isRemap_comp _, by decide +kernel, h0, h5, fun h => ?_⟩
  exact absurd ((isRemap_iff.mp h).1 (h0.trans h5.symm)) (by decide)

end OpenSil.Mpio
