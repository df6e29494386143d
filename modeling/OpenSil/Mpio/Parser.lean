import OpenSil.Mpio.AncData
import OpenSil.Mpio.Lanes
import OpenSil.Mpio.PortMapping
import OpenSil.Lib.Fill

/-! # The parser of the platform topology

`MpioParsePlatformTopology` goes over the ports of a socket twice.
-/

namespace OpenSil.Mpio

open List Function Nat Option

/-! ## Ports and ASK entries -/

structure ParserPort where
  engineType : UInt8
  startLane : UInt8
  endLane : UInt8
  gpioGroupId : UInt8
  mpioStartLane : UInt8
  mpioEndLane : UInt8
  portPresent : BitVec 1
  deviceNumber : BitVec 5
  functionNumber : BitVec 3
  linkSpeedCapability : BitVec 3
  targetLinkSpeed : BitVec 3
  linkHotplug : BitVec 4
  isMasterPLL : BitVec 1
  linkComplianceMode : BitVec 1
  sbLink : BitVec 1
  channelType : BitVec 3
  txVetting : BitVec 1
  rxVetting : BitVec 1
  invertPolarity : BitVec 1
  invertPolarity2 : BitVec 1
  txDeEmphasisOride : BitVec 1
  txDeEmphasis : BitVec 2
  mpioAncDataIdx : UInt16
  portParams : List PortParam
  ovrd : Option (List AncDataParam)

def ParserPort.toTopologyEntry (port : ParserPort) : TopologyEntry :=
  ⟨port.engineType, port.mpioStartLane, port.deviceNumber, port.functionNumber⟩

def ParserPort.toAncPort (port : ParserPort) : AncPort := ⟨port.engineType, port.startLane, port.endLane, port.ovrd⟩

structure LinkAttr where
  devfuncnumber : BitVec 32
  portPresent : BitVec 1
  earlyTrainLink : BitVec 1
  linkComplianceMode : BitVec 1
  linkHotplugType : BitVec 4
  maxLinkSpeedCap : BitVec 4
  targetLinkSpeed : BitVec 4
  isMasterPLL : BitVec 1
  invertPolarityRx : BitVec 1
  invertPolarityTx : BitVec 1
  txDeEmphasis : BitVec 2
  txDeEmphasisEn : BitVec 1
  txVetting : BitVec 1
  rxVetting : BitVec 1
  hfcIndex : UInt8
  dfcIndex : UInt8
  deriving DecidableEq

structure FwAskStruct where
  startLaneIndex : BitVec 16
  numberOfLanes : BitVec 6
  reversed : BitVec 1
  ctrlType : BitVec 4
  gpioHandle : BitVec 8
  channelType : BitVec 8
  ancillaryDataIdx : BitVec 16
  linkAttributes : LinkAttr
  deriving DecidableEq

def zeroAsk : FwAskStruct := ⟨0, 0, 0, 0, 0, 0, 0, ⟨0, 0, 0, 0, 0, 0, 0, 0, 0, 0, 0, 0, 0, 0, 0, 0⟩⟩

def maxPortDeviceMapSize : Nat := 24
def askTypeSata : UInt8 := 1
def mpioPpUbmHfcIndex : UInt16 := 54
def mpioPpUbmDfcIndex : UInt16 := 55

def initAskEntryAttributes (attributes : LinkAttr) (port : ParserPort) : LinkAttr :=
  let attributes := { attributes with
    maxLinkSpeedCap := port.linkSpeedCapability.setWidth 4
    targetLinkSpeed := port.targetLinkSpeed.setWidth 4
    devfuncnumber := port.deviceNumber.setWidth 32 <<< 3 ||| port.functionNumber.setWidth 32
    portPresent := port.portPresent
    earlyTrainLink := port.sbLink }
  -- an early link is trained at Gen1
  let attributes := if attributes.earlyTrainLink = 1 then { attributes with targetLinkSpeed := 1 } else attributes
  let attributes := { attributes with
    linkComplianceMode := port.linkComplianceMode
    linkHotplugType := port.linkHotplug
    isMasterPLL := port.isMasterPLL }
  let attributes :=
    if port.txDeEmphasisOride ≠ 0 then { attributes with txDeEmphasisEn := 1, txDeEmphasis := port.txDeEmphasis }
    else attributes
  { attributes with
    txVetting := port.txVetting
    rxVetting := port.rxVetting
    invertPolarityRx := port.invertPolarity
    invertPolarityTx := port.invertPolarity2 }

def addUbmIndices : List PortParam → Nat → LinkAttr → LinkAttr
  | [], _, attributes => attributes
  | param :: params, foundAllParams, attributes =>
    if foundAllParams < 2 then
      let (attributes, foundAllParams) :=
        if param.paramType = mpioPpUbmHfcIndex then
          ({ attributes with hfcIndex := param.paramValue.toUInt8 }, foundAllParams + 1)
        else (attributes, foundAllParams)
      let (attributes, foundAllParams) :=
        if param.paramType = mpioPpUbmDfcIndex then
          ({ attributes with dfcIndex := param.paramValue.toUInt8 }, foundAllParams + 1)
        else (attributes, foundAllParams)
      addUbmIndices params foundAllParams attributes
    else attributes

def fillLanes (r : Translation) (ask : FwAskStruct) : FwAskStruct :=
  let ask := { ask with
    startLaneIndex := r.startDxioLane.toBitVec.setWidth 16
    numberOfLanes := BitVec.ofInt 6 ((r.endDxioLane.toNat - r.startDxioLane.toNat : Int) + 1) }
  if r.reverse then { ask with reversed := 1 } else ask

def fillType (mpioAncDataSupport : Bool) (port : ParserPort) (ask : FwAskStruct) : FwAskStruct :=
  if port.engineType = mpioUsbOverPcie then
    -- `Usb4LaneNumberCfgCallback` does nothing
    let ask := { ask with ctrlType := askTypePcie.toBitVec.setWidth 4, gpioHandle := port.gpioGroupId.toBitVec }
    let attributes := initAskEntryAttributes ask.linkAttributes port
    { ask with linkAttributes := addUbmIndices port.portParams 0 attributes }
  else if port.engineType = mpioPcieEngine then
    let ask := { ask with ctrlType := askTypePcie.toBitVec.setWidth 4, gpioHandle := port.gpioGroupId.toBitVec }
    let attributes := initAskEntryAttributes ask.linkAttributes port
    let ask := { ask with linkAttributes := addUbmIndices port.portParams 0 attributes }
    if mpioAncDataSupport then { ask with ancillaryDataIdx := port.mpioAncDataIdx.toBitVec } else ask
  else if port.engineType = mpioSATAEngine then
    let ask := { ask with ctrlType := askTypeSata.toBitVec.setWidth 4, channelType := port.channelType.setWidth 8 }
    let attributes := { ask.linkAttributes with
      invertPolarityRx := port.invertPolarity, invertPolarityTx := port.invertPolarity2 }
    let attributes := initAskEntryAttributes attributes port
    let ask := { ask with linkAttributes := addUbmIndices port.portParams 0 attributes }
    if mpioAncDataSupport then { ask with ancillaryDataIdx := port.mpioAncDataIdx.toBitVec } else ask
  else ask

def fillAsk (mpioAncDataSupport : Bool) (port : ParserPort) (r : Translation) (ask : FwAskStruct) : FwAskStruct :=
  fillType mpioAncDataSupport port (fillLanes r ask)

def ParserPort.setsEarlyLink (port : ParserPort) : Bool :=
  decide (port.engineType ∈ [mpioUsbOverPcie, mpioPcieEngine, mpioSATAEngine] ∧ port.sbLink = 1)

/-! ## The passes -/

section
variable (topology : LaneTopology)

def ParserPort.translation (port : ParserPort) : Translation :=
  mpioTranslateLanes topology port.startLane port.endLane false

structure Counting where
  ports : List ParserPort
  askInstanceCount : Nat
  ancillaryDataSize : Nat

def countEntry (s : Counting) (port : ParserPort) : Counting :=
  if port.engineType ≠ mpioUnusedEngine then
    if (port.translation topology).found then
      { ports := s.ports ++ [port]
        askInstanceCount := s.askInstanceCount + 1
        ancillaryDataSize := s.ancillaryDataSize + mpioAncDataCalcSize port.toAncPort }
    else { s with ports := s.ports ++ [{ port with engineType := mpioUnusedEngine }] }
  else { s with ports := s.ports ++ [port] }

/-- The variables of the second pass: the entries behind it, the ASK entries of the socket, the index of `AskEntry`, and
`CfgEarlyLink`. -/
structure Filling where
  ports : List ParserPort
  asks : Nat → FwAskStruct
  askEntry : Nat
  cfgEarlyLink : Bool

def fillEntry (mpioAncDataSupport : Bool) (s : Filling) (port : ParserPort) : Option Filling :=
  if port.engineType ≠ mpioUnusedEngine then
    let r := port.translation topology
    if r.found then
      if s.askEntry < maxPortDeviceMapSize then
        let port := { port with mpioStartLane := r.startDxioLane, mpioEndLane := r.endDxioLane }
        some
          { ports := s.ports ++ [port]
            asks := Function.update s.asks s.askEntry (fillAsk mpioAncDataSupport port r (s.asks s.askEntry))
            askEntry := s.askEntry + 1
            cfgEarlyLink := s.cfgEarlyLink || port.setsEarlyLink }
      else none
    else some { s with ports := s.ports ++ [port] }
  else some { s with ports := s.ports ++ [port] }

end

/-! ## The parser -/

/-- `MPIO_DATA`: `MpioAsk` points to the ASK entries of a socket or nowhere, `ExtAttributes` to the ancillary data. -/
structure MpioData where
  mpioAsk : Option UInt8
  mpioAskCount : Nat
  extAttributes : Bool
  extAttributeSize : Nat

structure ComplexDescriptor where
  socketId : UInt8
  pciePortList : List ParserPort

/-- What the parser leaves behind: the ports of the socket, its ASK entries, and the ancillary data if it is written. -/
structure Parsed where
  ports : List ParserPort
  asks : Nat → FwAskStruct
  cfgEarlyLink : Bool
  ancillaryData : Option (List Dword)
  mpioData : MpioData

def setAncDataIdx (ports : List ParserPort) : List ParserPort :=
  ports.zipWith (fun port index => { port with mpioAncDataIdx := index.getD port.mpioAncDataIdx })
    (mpioAddAncDataOverride (ports.map ParserPort.toAncPort)).mpioAncDataIdx

def buildAsk (topology : LaneTopology) (mpioAncDataSupport : Bool) (asks : Nat → FwAskStruct) (cfgEarlyLink : Bool)
    (s : Counting) : Option Parsed :=
  if s.askInstanceCount ≠ 0 then
    let socketId := topology.gnbHandle.socketId
    let written :=
      if s.ancillaryDataSize ≠ 0 then some (initGlobalAncillaryData socketId (s.ports.map ParserPort.toAncPort)).1
      else none
    let ports := if s.ancillaryDataSize ≠ 0 then setAncDataIdx s.ports else s.ports
    if s.askInstanceCount ≤ maxPortDeviceMapSize then
      let cleared := fun k => if k < s.askInstanceCount then zeroAsk else asks k
      (ports.foldlM (fillEntry topology mpioAncDataSupport) ⟨[], cleared, 0, cfgEarlyLink⟩).map fun f =>
        { ports := f.ports
          asks := f.asks
          cfgEarlyLink := f.cfgEarlyLink
          ancillaryData := written
          mpioData := ⟨some socketId, s.askInstanceCount, s.ancillaryDataSize ≠ 0, s.ancillaryDataSize⟩ }
    else none
  else some ⟨s.ports, asks, cfgEarlyLink, none, ⟨none, 0, false, 0⟩⟩

def mpioGetTopologyForSocket (socketNumber : UInt8) (platformTopology : List ComplexDescriptor) :
    Option (List ParserPort) :=
  (platformTopology.find? (·.socketId = socketNumber)).map ComplexDescriptor.pciePortList

def mpioParsePlatformPorts (topology : LaneTopology) (mpioAncDataSupport : Bool) (asks : Nat → FwAskStruct)
    (cfgEarlyLink : Bool) (platformTopology : List ComplexDescriptor) : Option (Except SilStatus Parsed) :=
  match mpioGetTopologyForSocket topology.gnbHandle.socketId platformTopology with
  | none => some (.error .silNotFound)
  | some socketTopology =>
    let globalSize := if mpioAncDataSupport then getGlobalAncillaryDataSize else 0
    let counted := socketTopology.foldl (countEntry topology) ⟨[], 0, globalSize⟩
    (buildAsk topology mpioAncDataSupport asks cfgEarlyLink counted).map .ok

/-! ## The first pass -/

open ParserPort

section
variable (topology : LaneTopology)

def ParserPort.Asked (port : ParserPort) : Prop :=
  port.engineType ≠ mpioUnusedEngine ∧ (port.translation topology).found = true

instance (port : ParserPort) : Decidable (port.Asked topology) := inferInstanceAs (Decidable (_ ∧ _))

def asked (ports : List ParserPort) : List ParserPort := ports.filter fun port => decide (port.Asked topology)

def ParserPort.counted (port : ParserPort) : ParserPort :=
  if port.Asked topology then port else { port with engineType := mpioUnusedEngine }

section
variable (support : Bool) (ports : List ParserPort)

theorem ParserPort.asked_counted (port : ParserPort) :
    (port.counted topology).Asked topology ↔ port.Asked topology := by
  unfold counted
  split_ifs with h
  · rfl
  · exact ⟨fun hcounted => absurd rfl hcounted.1, fun h' => absurd h' h⟩

theorem asked_map_counted :
    asked topology (ports.map (counted topology)) = asked topology ports := by
  unfold asked
  induction ports with
  | nil => rfl
  | cons port ports ih =>
    rw [map_cons, filter_cons, filter_cons, ih]
    simp only [port.asked_counted topology]
    by_cases h : port.Asked topology
    · simp [h, counted]
    · simp [h]

theorem countEntry_eq (s : Counting) (port : ParserPort) :
    countEntry topology s port =
      { ports := s.ports ++ [port.counted topology]
        askInstanceCount := s.askInstanceCount + (asked topology [port]).length
        ancillaryDataSize :=
          s.ancillaryDataSize + ((asked topology [port]).map fun p => mpioAncDataCalcSize p.toAncPort).sum } := by
  unfold countEntry counted asked
  by_cases hused : port.engineType = mpioUnusedEngine
  · have hnot : ¬port.Asked topology := fun h => h.1 hused
    -- marking an unused port as unused changes nothing
    have hsame : { port with engineType := mpioUnusedEngine } = port := by rw [← hused]
    simp [hused, hnot, hsame]
  · by_cases hfound : (port.translation topology).found = true
    · have hasked : port.Asked topology := ⟨hused, hfound⟩
      simp [hused, hfound, hasked]
    · have hnot : ¬port.Asked topology := fun h => hfound h.2
      simp [hused, hfound, hnot]

theorem foldl_countEntry (s : Counting) :
    ports.foldl (countEntry topology) s =
      { ports := s.ports ++ ports.map (counted topology)
        askInstanceCount := s.askInstanceCount + (asked topology ports).length
        ancillaryDataSize :=
          s.ancillaryDataSize + ((asked topology ports).map fun p => mpioAncDataCalcSize p.toAncPort).sum } := by
  induction ports generalizing s with
  | nil => simp [asked]
  | cons port ports ih =>
    have hsplit : asked topology (port :: ports) = asked topology [port] ++ asked topology ports :=
      filter_append [port] ports
    rw [foldl_cons, ih, countEntry_eq, hsplit]
    simp [add_assoc]

/-! ## The second pass -/

def ParserPort.filled (port : ParserPort) : ParserPort :=
  if port.Asked topology then
    { port with
      mpioStartLane := (port.translation topology).startDxioLane
      mpioEndLane := (port.translation topology).endDxioLane }
  else port

theorem fillEntry_of_asked {s : Filling} {port : ParserPort} (h : port.Asked topology)
    (hroom : s.askEntry < maxPortDeviceMapSize) :
    fillEntry topology support s port =
      some
        { ports := s.ports ++ [port.filled topology]
          asks := update s.asks s.askEntry
            (fillAsk support (port.filled topology) (port.translation topology) (s.asks s.askEntry))
          askEntry := s.askEntry + 1
          cfgEarlyLink := s.cfgEarlyLink || (port.filled topology).setsEarlyLink } := by
  unfold fillEntry filled
  simp only [ne_eq, h.1, not_false_eq_true, if_true, h.2, hroom, h]

theorem fillEntry_of_not_asked (s : Filling) {port : ParserPort} (h : ¬port.Asked topology) :
    fillEntry topology support s port = some { s with ports := s.ports ++ [port.filled topology] } := by
  unfold fillEntry filled
  by_cases hused : port.engineType = mpioUnusedEngine
  · simp [hused, h]
  · have hfound : (port.translation topology).found = false := Bool.eq_false_iff.mpr fun hf => h ⟨hused, hf⟩
    simp [hused, hfound, h]

theorem foldlM_fillEntry (s : Filling) (hroom : s.askEntry + (asked topology ports).length ≤ maxPortDeviceMapSize) :
    ports.foldlM (fillEntry topology support) s =
      some
        { ports := s.ports ++ ports.map (filled topology)
          asks := Fill.written (fun k port =>
            fillAsk support (port.filled topology) (port.translation topology) (s.asks k)) s.askEntry
            (asked topology ports) s.asks
          askEntry := s.askEntry + (asked topology ports).length
          cfgEarlyLink := s.cfgEarlyLink ||
            (asked topology ports).any fun port => (port.filled topology).setsEarlyLink } := by
  induction ports generalizing s with
  | nil => simp [asked]
  | cons port ports ih =>
    rw [foldlM_cons]
    by_cases h : port.Asked topology
    · have hcons : asked topology (port :: ports) = port :: asked topology ports :=
        filter_cons_of_pos (by simpa using h)
      rw [hcons, length_cons] at hroom
      rw [fillEntry_of_asked topology support h (by omega), bind_eq_bind, bind_some, ih _ (by
        dsimp only
        omega), hcons, ← Fill.written_cons]
      dsimp only
      -- the entries behind this one are still those of before
      rw [Fill.written_congr fun k hk => by
        funext port'
        rw [update_of_ne (show k ≠ s.askEntry by omega)]]
      simp [add_assoc, add_comm 1, Bool.or_assoc]
    · have hcons : asked topology (port :: ports) = asked topology ports :=
        filter_cons_of_neg (by simpa using h)
      rw [hcons] at hroom ⊢
      rw [fillEntry_of_not_asked topology support s h, bind_eq_bind, bind_some,
        ih { s with ports := s.ports ++ [port.filled topology] } hroom]
      simp

/-! ## The passes agree -/

def ParserPort.lanes (port : ParserPort) : UInt8 × UInt8 × UInt8 := (port.engineType, port.startLane, port.endLane)

theorem ParserPort.translation_congr {port port' : ParserPort} (h : port.lanes = port'.lanes) :
    port.translation topology = port'.translation topology := by
  obtain ⟨-, hstart, hend⟩ : port.engineType = port'.engineType ∧ port.startLane = port'.startLane ∧
      port.endLane = port'.endLane := by simpa [lanes] using h
  unfold translation
  rw [hstart, hend]

theorem ParserPort.asked_congr {port port' : ParserPort} (h : port.lanes = port'.lanes) :
    port.Asked topology ↔ port'.Asked topology := by
  have htype : port.engineType = port'.engineType := congrArg Prod.fst h
  unfold Asked
  rw [htype, translation_congr topology h]

end

theorem asked_lanes_congr {ports ports' : List ParserPort} (h : ports.map lanes = ports'.map lanes) :
    (asked topology ports).map lanes = (asked topology ports').map lanes := by
  induction ports generalizing ports' with
  | nil =>
    obtain rfl : ports' = [] := by simpa using h.symm
    rfl
  | cons port ports ih =>
    obtain ⟨port', rest', rfl, hport, hrest⟩ := map_eq_cons_iff.mp h.symm
    have hiff := asked_congr topology hport
    have hrest' := ih hrest.symm
    unfold asked at hrest' ⊢
    by_cases hasked : port.Asked topology
    · simp_all
    · simp_all

end

theorem length_mpioAncDataIdx (ports : List AncPort) (blob : Blob) :
    (ports.foldl addAncPort blob).mpioAncDataIdx.length = blob.mpioAncDataIdx.length + ports.length := by
  induction ports generalizing blob with
  | nil => rfl
  | cons port ports ih =>
    have hone : (addAncPort blob port).mpioAncDataIdx.length = blob.mpioAncDataIdx.length + 1 := by
      unfold addAncPort
      cases port.ovrd with
      | none => simp
      | some ovrd =>
        dsimp only
        split_ifs <;> simp
    rw [foldl_cons, ih, hone, length_cons]
    omega

theorem map_setAncDataIdx {α : Type} {f : ParserPort → α} (hf : ∀ port i, f { port with mpioAncDataIdx := i } = f port)
    (ports : List ParserPort) : (setAncDataIdx ports).map f = ports.map f := by
  have hlength : ports.length ≤ (mpioAddAncDataOverride (ports.map ParserPort.toAncPort)).mpioAncDataIdx.length := by
    unfold mpioAddAncDataOverride
    rw [length_mpioAncDataIdx]
    simp
  unfold setAncDataIdx
  rw [← List.map_uncurry_zip_eq_zipWith, List.map_map]
  conv_rhs => rw [← List.map_fst_zip hlength, List.map_map]
  exact List.map_congr_left fun entry _ => hf entry.1 _

structure FwAskStruct.Carries (ask : FwAskStruct) (r : Translation) : Prop where
  start : ask.startLaneIndex.toNat = r.startDxioLane.toNat
  lanes : ask.numberOfLanes = BitVec.ofInt 6 ((r.endDxioLane.toNat - r.startDxioLane.toNat : Int) + 1)
  reversed : ask.reversed = if r.reverse then 1 else 0

section
variable (topology : LaneTopology) (support : Bool) (port : ParserPort)

theorem fillType_lanes (ask : FwAskStruct) :
    (fillType support port ask).startLaneIndex = ask.startLaneIndex ∧
      (fillType support port ask).numberOfLanes = ask.numberOfLanes ∧
      (fillType support port ask).reversed = ask.reversed := by
  unfold fillType
  dsimp only
  split_ifs <;> exact ⟨rfl, rfl, rfl⟩

theorem carries_fillLanes (r : Translation) : (fillLanes r zeroAsk).Carries r := by
  unfold fillLanes
  cases hrev : r.reverse with
  | false => exact ⟨by simp, rfl, by simp [hrev, zeroAsk]⟩
  | true => exact ⟨by simp, rfl, by simp [hrev]⟩

theorem carries_fillAsk (r : Translation) :
    (fillAsk support port r zeroAsk).Carries r := by
  obtain ⟨hstart, hlanes, hreversed⟩ := fillType_lanes support port (fillLanes r zeroAsk)
  have h := carries_fillLanes r
  exact ⟨(congrArg BitVec.toNat hstart).trans h.start, hlanes.trans h.lanes, hreversed.trans h.reversed⟩

/-! ## What the parser leaves behind -/

structure Agrees (topology : LaneTopology) (ports : List ParserPort) (asks : Nat → FwAskStruct) (r : Parsed) : Prop where
  count : r.mpioData.mpioAskCount = (asked topology ports).length
  filled : ∀ k (hk : k < (asked topology ports).length),
    (r.asks k).Carries ((asked topology ports)[k].translation topology)
  untouched : ∀ k ≥ (asked topology ports).length, r.asks k = asks k
  unused : r.ports.map (·.engineType) = ports.map fun port =>
    if port.Asked topology then port.engineType else mpioUnusedEngine

theorem toTopologyEntry_filled :
    (port.filled topology).toTopologyEntry =
      ⟨port.engineType, if port.Asked topology then (port.translation topology).startDxioLane else port.mpioStartLane,
        port.deviceNumber, port.functionNumber⟩ := by
  unfold filled
  split_ifs <;> rfl

theorem engineType_filled :
    (port.filled topology).engineType = port.engineType := by
  unfold filled
  split_ifs <;> rfl

theorem engineType_counted :
    (port.counted topology).engineType = if port.Asked topology then port.engineType else mpioUnusedEngine := by
  unfold counted
  split_ifs <;> rfl

theorem agrees_of_fill (asks : Nat → FwAskStruct) {ports ports' : List ParserPort}
    (hlanes : ports'.map lanes = (ports.map (counted topology)).map lanes)
    (hroom : (asked topology ports).length ≤ maxPortDeviceMapSize) (early : Bool) :
    ∃ f, ports'.foldlM (fillEntry topology support)
        ⟨[], fun k => if k < (asked topology ports).length then zeroAsk else asks k, 0, early⟩ = some f ∧
      f.ports = ports'.map (filled topology) ∧ ∀ link data mpioData,
        mpioData.mpioAskCount = (asked topology ports).length →
        Agrees topology ports asks ⟨f.ports, f.asks, link, data, mpioData⟩ := by
  have hasked := asked_lanes_congr topology hlanes
  rw [asked_map_counted] at hasked
  have hlength : (asked topology ports').length = (asked topology ports).length := by
    simpa using congrArg length hasked
  refine ⟨_, foldlM_fillEntry topology support ports' _ (by simpa [hlength] using hroom), nil_append _,
    fun _ _ _ hcount => ⟨hcount, ?_, ?_, ?_⟩⟩
  · intro k hk
    dsimp only
    rw [Fill.written_zero_of_lt _ (by omega), if_pos hk]
    have hkey : (asked topology ports')[k].lanes = (asked topology ports)[k].lanes := by
      have hget := congrArg (·[k]?) hasked
      simpa only [getElem?_map, getElem?_eq_getElem hk, getElem?_eq_getElem (hlength ▸ hk),
        map_some, some.injEq] using hget
    rw [← translation_congr topology hkey]
    exact carries_fillAsk support _ _
  · intro k hk
    dsimp only
    rw [Fill.written_zero_of_le _ (by omega), if_neg (by omega)]
  · have htypes := congrArg (map Prod.fst) hlanes
    simp only [List.map_map] at htypes
    dsimp only
    rw [List.nil_append, List.map_map]
    simpa only [comp_def, engineType_filled, engineType_counted, lanes] using htypes

theorem buildAsk_agrees (asks : Nat → FwAskStruct) (early : Bool) {ports : List ParserPort}
    (hroom : (asked topology ports).length ≤ maxPortDeviceMapSize) (size : Nat) :
    ∃ r, buildAsk topology support asks early
        ⟨ports.map (counted topology), (asked topology ports).length, size⟩ = some r ∧
      Agrees topology ports asks r ∧
      r.ports.map toTopologyEntry =
        ports.map fun port => ((port.counted topology).filled topology).toTopologyEntry := by
  unfold buildAsk
  by_cases hnone : (asked topology ports).length = 0
  · refine ⟨_, if_neg (not_not.mpr hnone), ⟨hnone.symm, fun k hk => absurd hk (by omega), fun _ _ => rfl, ?_⟩, ?_⟩
    · rw [List.map_map]
      simp only [comp_def, engineType_counted]
    · rw [List.map_map]
      refine map_congr_left fun port hport => ?_
      have hnot : ¬(port.counted topology).Asked topology := fun h =>
        filter_eq_nil_iff.mp (length_eq_zero_iff.mp hnone) port hport
          (decide_eq_true ((port.asked_counted topology).mp h))
      rw [comp_apply, filled, if_neg hnot]
  · have hlanes : (if size ≠ 0 then setAncDataIdx (ports.map (counted topology))
        else ports.map (counted topology)).map lanes =
          (ports.map (counted topology)).map lanes := by
      split_ifs
      · exact map_setAncDataIdx (fun _ _ => rfl) _
      · rfl
    obtain ⟨f, hf, hfports, hagrees⟩ := agrees_of_fill topology support asks hlanes hroom early
    dsimp only
    rw [if_pos hnone, if_pos hroom, hf]
    refine ⟨_, rfl, hagrees _ _ _ rfl, ?_⟩
    dsimp only
    rw [hfports, List.map_map]
    trans (ports.map (counted topology)).map (toTopologyEntry ∘ filled topology)
    swap
    · exact map_map
    split_ifs
    · refine map_setAncDataIdx (fun port i => ?_) _
      rw [comp_apply, comp_apply, toTopologyEntry_filled, toTopologyEntry_filled]
      rfl
    · rfl

end

section
variable {topology : LaneTopology} {platformTopology : List ComplexDescriptor} {ports : List ParserPort}

theorem mpioParsePlatformPorts_agrees
    (hports : mpioGetTopologyForSocket topology.gnbHandle.socketId platformTopology = some ports)
    (hroom : (asked topology ports).length ≤ maxPortDeviceMapSize) (sup : Bool)
    (asks : Nat → FwAskStruct) (cfgEarlyLink : Bool) :
    ∃ r, mpioParsePlatformPorts topology sup asks cfgEarlyLink platformTopology = some (.ok r) ∧
      Agrees topology ports asks r ∧
      r.ports.map toTopologyEntry =
        ports.map fun port => ((port.counted topology).filled topology).toTopologyEntry := by
  unfold mpioParsePlatformPorts
  rw [hports]
  dsimp only
  rw [foldl_countEntry, nil_append, zero_add]
  obtain ⟨r, hr, hagrees⟩ := buildAsk_agrees topology sup asks cfgEarlyLink hroom _
  exact ⟨r, by rw [hr]; rfl, hagrees⟩

/-- With no more ports to ask for than the socket has ASK entries, the parser returns, and its passes agree. -/
theorem parser_passes_agree
    (hports : mpioGetTopologyForSocket topology.gnbHandle.socketId platformTopology = some ports)
    (hroom : (asked topology ports).length ≤ maxPortDeviceMapSize) (mpioAncDataSupport : Bool)
    (asks : Nat → FwAskStruct) (cfgEarlyLink : Bool) :
    ∃ r, mpioParsePlatformPorts topology mpioAncDataSupport asks cfgEarlyLink platformTopology = some (.ok r) ∧
      r.mpioData.mpioAskCount = (asked topology ports).length ∧
      (∀ k (hk : k < (asked topology ports).length),
        (r.asks k).Carries ((asked topology ports)[k].translation topology)) ∧
      (∀ k ≥ (asked topology ports).length, r.asks k = asks k) ∧
      r.ports.map (·.engineType) =
        ports.map fun port => if port.Asked topology then port.engineType else mpioUnusedEngine := by
  obtain ⟨r, hr, hagrees, -⟩ := mpioParsePlatformPorts_agrees hports hroom mpioAncDataSupport asks cfgEarlyLink
  exact ⟨r, hr, hagrees.count, hagrees.filled, hagrees.untouched, hagrees.unused⟩

end

def plainPort (engineType startLane endLane : UInt8) : ParserPort :=
  ⟨engineType, startLane, endLane, 0, 0, 0, 0, 0, 0, 0, 0, 0, 0, 0, 0, 0, 0, 0, 0, 0, 0, 0, 0, [], none⟩

def threePorts : List ParserPort :=
  [plainPort mpioPcieEngine 3 0, plainPort mpioPcieEngine 40 43, plainPort mpioSATAEngine 24 31]

theorem parser_passes_agree_threePorts :
    (asked twoCores threePorts).length = 2 ∧
    ∃ r, mpioParsePlatformPorts twoCores false (fun _ => zeroAsk) false [⟨0, threePorts⟩] = some (.ok r) ∧
      r.mpioData.mpioAskCount = (asked twoCores threePorts).length ∧
      (∀ k (hk : k < (asked twoCores threePorts).length),
        (r.asks k).Carries ((asked twoCores threePorts)[k].translation twoCores)) ∧
      (∀ k ≥ (asked twoCores threePorts).length, r.asks k = zeroAsk) ∧
      r.ports.map (·.engineType) =
        threePorts.map fun port => if port.Asked twoCores then port.engineType else mpioUnusedEngine :=
  ⟨by decide, parser_passes_agree rfl (by decide) false (fun _ => zeroAsk) false⟩

def wideCore : LaneTopology := ⟨⟨0, [⟨0, 63, 0, 63, false⟩]⟩, []⟩

/-- The number of lanes does not fit in its field. -/
theorem numberOfLanes_wraps :
    (∃ r, mpioParsePlatformPorts wideCore false (fun _ => zeroAsk) false [⟨0, [plainPort mpioPcieEngine 0 63]⟩] =
        some (.ok r) ∧ r.mpioData.mpioAskCount = 1 ∧ (r.asks 0).numberOfLanes.toNat = 0) ∧
      ((plainPort mpioPcieEngine 0 63).translation wideCore).lanes.card = 64 :=
  ⟨⟨_, rfl, by decide, by decide⟩, by decide⟩

/-! ## Lanes that leave the wrapper -/

def LaneTopology.HasPort (topology : LaneTopology) (startLane endLane : UInt8) : Prop :=
  ∃ wrapper ∈ topology.wrappers, wrapper.HasPhy startLane ∧ wrapper.HasPhy endLane

/-- Lanes that are not on one wrapper are not found, whatever the order of the lanes. -/
def RejectsBadLanes (topology : LaneTopology) (startLane endLane : UInt8) : Prop :=
  ¬topology.HasPort startLane endLane → ∀ reverse, (mpioTranslateLanes topology startLane endLane reverse).found = false ∧
    (mpioTranslateLanes topology startLane endLane reverse).startDxioLane = 0 ∧
    (mpioTranslateLanes topology startLane endLane reverse).endDxioLane = 0

theorem rejectsBadLanes_iff_start (topology : LaneTopology) (startLane endLane : UInt8) :
    RejectsBadLanes topology startLane endLane ↔
      topology.HasPort startLane endLane ∨ ∀ wrapper ∈ topology.wrappers, ¬wrapper.HasPhy startLane := by
  constructor
  · intro hrejects
    by_cases hport : topology.HasPort startLane endLane
    · exact .inl hport
    · obtain ⟨wrapper, -, -, heq⟩ | ⟨hnone, -⟩ := mpioTranslateLanes_cases topology startLane endLane false
      · have hfound := (hrejects hport false).1
        rw [heq] at hfound
        cases hfound
      · exact .inr hnone
  · rintro (hport | hnone) hnot reverse
    · exact absurd hport hnot
    · obtain ⟨wrapper, hmem, hphy, -⟩ | ⟨-, heq⟩ := mpioTranslateLanes_cases topology startLane endLane reverse
      · exact absurd hphy (hnone wrapper hmem)
      · rw [heq]
        exact ⟨rfl, rfl, rfl⟩

def FwAskStruct.lanes (ask : FwAskStruct) : Finset Nat :=
  Finset.Ico ask.startLaneIndex.toNat (ask.startLaneIndex.toNat + ask.numberOfLanes.toNat)

theorem FwAskStruct.Carries.lanes_subset {ask : FwAskStruct} {r : Translation} (h : ask.Carries r)
    (hordered : r.startDxioLane ≤ r.endDxioLane) : ask.lanes ⊆ r.lanes := by
  have hle := UInt8.le_iff_toNat_le.mp hordered
  have hcount : ask.numberOfLanes.toNat ≤ r.endDxioLane.toNat - r.startDxioLane.toNat + 1 := by
    have hnat : (r.endDxioLane.toNat - r.startDxioLane.toNat : Int) + 1 =
        ((r.endDxioLane.toNat - r.startDxioLane.toNat + 1 : Nat) : Int) := by omega
    rw [h.lanes, hnat, BitVec.ofInt_natCast, BitVec.toNat_ofNat]
    exact mod_le _ _
  intro lane hlane
  rw [FwAskStruct.lanes, Finset.mem_Ico, h.start] at hlane
  rw [Translation.lanes, Finset.mem_Icc]
  omega

theorem ParserPort.Asked.translated {topology : LaneTopology} (hvalid : topology.Valid) {port : ParserPort}
    (hasked : port.Asked topology) (hrejects : RejectsBadLanes topology port.startLane port.endLane) :
    ∃ wrapper ∈ topology.wrappers, Translated wrapper port.startLane port.endLane (port.translation topology) := by
  have hport : topology.HasPort port.startLane port.endLane := by
    by_contra hnot
    have hfound := (hrejects hnot false).1
    rw [show mpioTranslateLanes topology port.startLane port.endLane false = port.translation topology from rfl,
      hasked.2] at hfound
    cases hfound
  obtain ⟨wrapper, hmem, hstart, hend⟩ := hport
  refine ⟨wrapper, hmem, ?_⟩
  unfold translation
  rw [hvalid.mpioTranslateLanes_eq hmem hstart]
  exact wrapper.translated (hvalid.width wrapper hmem) hstart hend

/-- Only the start lane is looked up. So lanes that leave a wrapper are rejected if no wrapper has the start lane, and
only a port list whose bad lanes are all of this kind is sure to give ASK entries within wrappers. -/
theorem bad_lanes_rejected_iff (topology : LaneTopology) :
    (∀ startLane endLane, RejectsBadLanes topology startLane endLane ↔
      topology.HasPort startLane endLane ∨ ∀ wrapper ∈ topology.wrappers, ¬wrapper.HasPhy startLane) ∧
    (topology.Valid → ∀ (platformTopology : List ComplexDescriptor) (ports : List ParserPort),
      mpioGetTopologyForSocket topology.gnbHandle.socketId platformTopology = some ports →
      (asked topology ports).length ≤ maxPortDeviceMapSize →
      (∀ port ∈ ports, port.engineType ≠ mpioUnusedEngine →
        RejectsBadLanes topology port.startLane port.endLane) →
      ∀ mpioAncDataSupport asks cfgEarlyLink, ∃ r,
        mpioParsePlatformPorts topology mpioAncDataSupport asks cfgEarlyLink platformTopology = some (.ok r) ∧
        ∀ k < r.mpioData.mpioAskCount, ∃ wrapper ∈ topology.wrappers, (r.asks k).lanes ⊆ wrapper.dxioLanes) := by
  refine ⟨rejectsBadLanes_iff_start topology, ?_⟩
  intro hvalid platformTopology ports hports hroom hrejects mpioAncDataSupport asks cfgEarlyLink
  obtain ⟨r, hr, hagrees, -⟩ := mpioParsePlatformPorts_agrees hports hroom mpioAncDataSupport asks cfgEarlyLink
  refine ⟨r, hr, fun k hk => ?_⟩
  rw [hagrees.count] at hk
  obtain ⟨hmem, hasked⟩ := mem_filter.mp (getElem_mem hk)
  replace hasked := of_decide_eq_true hasked
  obtain ⟨wrapper, hwrapper, htranslated⟩ := hasked.translated hvalid (hrejects _ hmem hasked.1)
  exact ⟨wrapper, hwrapper, ((hagrees.filled k hk).lanes_subset htranslated.ordered).trans htranslated.inside⟩

/-- The port begins in the first core of `twoCores` and ends in the second. -/
theorem bad_lanes_accepted :
    ¬RejectsBadLanes twoCores 0 20 ∧ mpioTranslateLanes twoCores 0 20 false = ⟨true, 16, 36, false⟩ ∧
      ∃ r, mpioParsePlatformPorts twoCores false (fun _ => zeroAsk) false [⟨0, [plainPort mpioPcieEngine 0 20]⟩] =
          some (.ok r) ∧ r.mpioData.mpioAskCount = 1 ∧
        ∀ wrapper ∈ twoCores.wrappers, ¬(r.asks 0).lanes ⊆ wrapper.dxioLanes := by
  refine ⟨fun hrejects => ?_, by decide, _, rfl, by decide, by decide⟩
  obtain hport | hnone := (rejectsBadLanes_iff_start twoCores 0 20).mp hrejects
  · unfold LaneTopology.HasPort at hport
    revert hport
    decide
  · revert hnone
    decide

end OpenSil.Mpio
