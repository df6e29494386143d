import OpenSil.Mpio.Parser

/-! # From an ASK entry back to its port

`MpioFindTopoForAsk` looks for the port of an ASK entry by its start lane.
-/

namespace OpenSil.Mpio

def FwAskStruct.toAsk (ask : FwAskStruct) (port : BitVec 8) : Ask :=
  ⟨.ofBitVec (ask.ctrlType.setWidth 8), .ofBitVec ask.startLaneIndex, port⟩

def endsSearch (ask : Ask) (entry : TopologyEntry) : Bool :=
  entry.engineType = mpioUsbOverPcie ∨
    (entry.engineType = mpioPcieEngine ∧ entry.mpioStartLane.toUInt16 = ask.startLaneIndex)

def topoIndexForAsk (socketTopology : List TopologyEntry) (ask : Ask) : Option Nat :=
  socketTopology.findIdx? (endsSearch ask)

theorem mpioFindTopoForAsk_eq (socketTopology : List TopologyEntry) (ask : Ask) :
    mpioFindTopoForAsk socketTopology ask = (topoIndexForAsk socketTopology ask).bind (socketTopology[·]?) := by
  show socketTopology.find? (endsSearch ask) = (socketTopology.findIdx? (endsSearch ask)).bind (socketTopology[·]?)
  induction socketTopology with
  | nil => rfl
  | cons entry rest ih => grind

section
variable (topology : LaneTopology)

def ParserPort.AskedAs (engineType : UInt8) (port : ParserPort) : Prop :=
  port.engineType = engineType ∧ port.Asked topology

def ParserPort.dxioLanes (port : ParserPort) : Finset Nat :=
  portLanes (port.translation topology).startDxioLane (port.translation topology).endDxioLane

def LanesDisjoint (ports : List ParserPort) : Prop :=
  ports.Pairwise fun port port' => port.AskedAs topology mpioPcieEngine → port'.AskedAs topology mpioPcieEngine →
    Disjoint (port.dxioLanes topology) (port'.dxioLanes topology)

variable {topology}

theorem endsSearch_iff {ask : FwAskStruct} {r : Translation} (h : ask.Carries r) (n : BitVec 8) (port : ParserPort) :
    endsSearch (ask.toAsk n) ((port.counted topology).filled topology).toTopologyEntry = true ↔
      port.AskedAs topology mpioUsbOverPcie ∨
        (port.AskedAs topology mpioPcieEngine ∧ (port.translation topology).startDxioLane = r.startDxioLane) := by
  have hlane : ∀ lane : UInt8, lane.toUInt16 = UInt16.ofBitVec ask.startLaneIndex ↔ lane = r.startDxioLane := fun lane => by
    rw [← UInt16.toNat_inj, ← UInt8.toNat_inj, UInt8.toNat_toUInt16, ← h.start]
    rfl
  rw [toTopologyEntry_filled, endsSearch, decide_eq_true_iff, FwAskStruct.toAsk, hlane]
  unfold ParserPort.AskedAs ParserPort.counted
  by_cases hasked : port.Asked topology
  · simp [hasked]
  · simp [hasked, mpioUnusedEngine, mpioUsbOverPcie, mpioPcieEngine]

theorem getElem?_asked {ports : List ParserPort} {j : Nat} {port : ParserPort} (hj : ports[j]? = some port)
    (hasked : port.Asked topology) : (asked topology ports)[(asked topology (ports.take j)).length]? = some port := by
  obtain ⟨hlt, rfl⟩ := List.getElem?_eq_some_iff.mp hj
  have hsplit : asked topology ports = asked topology (ports.take j) ++ ports[j] :: asked topology (ports.drop (j + 1)) := by
    conv_lhs => rw [← List.take_append_drop j ports, List.drop_eq_getElem_cons hlt]
    unfold asked
    rw [List.filter_append, List.filter_cons_of_pos (by simpa using hasked)]
  rw [hsplit, List.getElem?_append_right le_rfl, Nat.sub_self, List.getElem?_cons_zero]

theorem LanesDisjoint.start_ne {ports : List ParserPort} (h : LanesDisjoint topology ports) {i j : Nat}
    {port port' : ParserPort} (hij : i < j) (hi : ports[i]? = some port) (hj : ports[j]? = some port')
    (hport : port.AskedAs topology mpioPcieEngine) (hport' : port'.AskedAs topology mpioPcieEngine) :
    (port.translation topology).startDxioLane ≠ (port'.translation topology).startDxioLane := by
  obtain ⟨hilt, rfl⟩ := List.getElem?_eq_some_iff.mp hi
  obtain ⟨hjlt, rfl⟩ := List.getElem?_eq_some_iff.mp hj
  have hdisjoint := List.pairwise_iff_getElem.mp h i j hilt hjlt hij hport hport'
  intro hsame
  refine Finset.disjoint_left.mp hdisjoint Finset.left_mem_uIcc ?_
  rw [hsame]
  exact Finset.left_mem_uIcc

/-- Every PCIe engine is found from its ASK entry if and only if no USB-over-PCIe port comes before one of them. -/
theorem asks_traced_back_iff {platformTopology : List ComplexDescriptor} {ports : List ParserPort}
    (hports : mpioGetTopologyForSocket topology.gnbHandle.socketId platformTopology = some ports)
    (hroom : (asked topology ports).length ≤ maxPortDeviceMapSize) (hdisjoint : LanesDisjoint topology ports)
    (mpioAncDataSupport : Bool) (asks : Nat → FwAskStruct) (cfgEarlyLink : Bool) :
    ∃ r, mpioParsePlatformPorts topology mpioAncDataSupport asks cfgEarlyLink platformTopology = some (.ok r) ∧
      ((∀ j port n, ports[j]? = some port → port.AskedAs topology mpioPcieEngine →
          topoIndexForAsk (r.ports.map ParserPort.toTopologyEntry)
            ((r.asks (asked topology (ports.take j)).length).toAsk n) = some j) ↔
        ∀ (i j : Nat) (usb port : ParserPort), i < j → ports[i]? = some usb → usb.AskedAs topology mpioUsbOverPcie →
          ports[j]? = some port → ¬port.AskedAs topology mpioPcieEngine) := by
  obtain ⟨r, hr, hagrees, hentries⟩ := mpioParsePlatformPorts_agrees hports hroom mpioAncDataSupport asks cfgEarlyLink
  refine ⟨r, hr, ?_⟩
  rw [hentries]
  -- the search for the entry of `port` goes past every port but those before it that stop it
  have hfound : ∀ {j port}, ports[j]? = some port → port.AskedAs topology mpioPcieEngine → ∀ n,
      (topoIndexForAsk (ports.map fun p => ((p.counted topology).filled topology).toTopologyEntry)
        ((r.asks (asked topology (ports.take j)).length).toAsk n) = some j ↔
      ∀ (i : Nat) (usb : ParserPort), i < j → ports[i]? = some usb → ¬usb.AskedAs topology mpioUsbOverPcie) := by
    intro j port hj hport n
    obtain ⟨hk, hget⟩ := List.getElem?_eq_some_iff.mp (getElem?_asked hj hport.2)
    have hcarries := hagrees.filled _ hk
    rw [hget] at hcarries
    obtain ⟨hjlt, hjget⟩ := List.getElem?_eq_some_iff.mp hj
    unfold topoIndexForAsk
    simp only [List.findIdx?_eq_some_iff_getElem, List.length_map, List.getElem_map, endsSearch_iff hcarries n, hjget]
    constructor
    · grind
    · refine fun hnone => ⟨hjlt, .inr ⟨hport, trivial⟩, fun i hij hends => ?_⟩
      have hi := List.getElem?_eq_getElem (hij.trans hjlt)
      rcases hends with husb | ⟨hpcie, hstart⟩
      · exact hnone i _ hij hi husb
      · exact hdisjoint.start_ne hij hi hj hpcie hport hstart
  constructor
  · intro hall i j usb port hij hi husb hj hport
    exact (hfound hj hport 0).mp (hall j port 0 hj hport) i usb hij hi husb
  · grind

end

/-- The ports of `threePorts` that are left share no lanes, and none of them is for USB. -/
theorem asks_traced_back_threePorts :
    ∃ r, mpioParsePlatformPorts twoCores false (fun _ => zeroAsk) false [⟨0, threePorts⟩] = some (.ok r) ∧
      ((∀ j port n, threePorts[j]? = some port → port.AskedAs twoCores mpioPcieEngine →
          topoIndexForAsk (r.ports.map ParserPort.toTopologyEntry)
            ((r.asks (asked twoCores (threePorts.take j)).length).toAsk n) = some j) ↔
        ∀ (i j : Nat) (usb port : ParserPort), i < j → threePorts[i]? = some usb →
          usb.AskedAs twoCores mpioUsbOverPcie → threePorts[j]? = some port → ¬port.AskedAs twoCores mpioPcieEngine) :=
  asks_traced_back_iff rfl (by decide) (by unfold LanesDisjoint ParserPort.AskedAs; decide) false (fun _ => zeroAsk) false

def usbFirst : List ParserPort := [plainPort mpioUsbOverPcie 16 19, plainPort mpioPcieEngine 0 3]

/-- The search for the PCIe engine ends at the USB port in front of it. -/
theorem usbFirst_not_traced_back :
    LanesDisjoint twoCores usbFirst ∧ (plainPort mpioPcieEngine 0 3).AskedAs twoCores mpioPcieEngine ∧
      ∃ r, mpioParsePlatformPorts twoCores false (fun _ => zeroAsk) false [⟨0, usbFirst⟩] = some (.ok r) ∧
        topoIndexForAsk (r.ports.map ParserPort.toTopologyEntry)
          ((r.asks (asked twoCores (usbFirst.take 1)).length).toAsk 0) = some 0 := by
  unfold LanesDisjoint ParserPort.AskedAs
  exact ⟨by decide, by decide, _, rfl, by decide⟩

end OpenSil.Mpio
