import OpenSil.Lib.Scan

/-! # The table of topology entries

`InitializeTopologyEntry`, `AddParameter` and `RemoveEntry` edit a table of port descriptors.
-/

namespace OpenSil.Mpio

structure PortParam where
  paramType : UInt16
  paramValue : UInt16
  deriving DecidableEq

structure PortDescriptor where
  flags : BitVec 32
  engineType : UInt8
  startLane : UInt8
  endLane : UInt8
  gpioGroupId : UInt8
  deviceNumber : UInt8
  functionNumber : UInt8
  portParams : List PortParam
  deriving DecidableEq

def mpioUnusedEngine : UInt8 := 0
def mpioPcieEngine : UInt8 := 1
def pciePortParameterCount : Nat := 64
def descriptorTerminateList : BitVec 32 := 0x80000000

def templateTopologyPort : PortDescriptor where
  flags := 0
  engineType := mpioUnusedEngine
  startLane := 0
  endLane := 0
  gpioGroupId := 0
  deviceNumber := 0
  functionNumber := 0
  portParams := List.replicate pciePortParameterCount ⟨0, 0⟩

namespace PortDescriptor
variable (d : PortDescriptor)

def terminates : Bool := d.flags &&& descriptorTerminateList ≠ 0

def unused : Bool := d.engineType = mpioUnusedEngine ∧ d.startLane = 0 ∧ d.endLane = 0

end PortDescriptor

/-- The bytes from the lowest on are start lane, end lane, type and group. -/
def packHandle (engineType startLane endLane gpioGroupId : UInt8) : UInt64 :=
  .ofNat (startLane.toNat + 2 ^ 8 * endLane.toNat + 2 ^ 16 * engineType.toNat + 2 ^ 24 * gpioGroupId.toNat)

def getDescriptorHandle (d : PortDescriptor) : UInt64 := packHandle d.engineType d.startLane d.endLane d.gpioGroupId

/-- `PciePortList`; `none` is the null pointer. -/
abbrev PortList := Option (List PortDescriptor)

def PortDescriptor.occupy (d : PortDescriptor) (engineType startLane endLane resetId device function : UInt8) :
    PortDescriptor :=
  let d := { d with engineType := engineType, startLane := startLane, endLane := endLane, gpioGroupId := resetId }
  if engineType = mpioPcieEngine then { d with deviceNumber := device &&& 0x1F, functionNumber := function &&& 0x7 } else d

def initializeTopologyEntry (table : PortList) (engineType startLane endLane resetId device function : UInt8) :
    PortList × Option UInt64 × Bool :=
  match table with
  | none => (none, none, false)
  | some entries =>
    match Scan.first PortDescriptor.terminates PortDescriptor.unused entries with
    | none => (some entries, none, false)
    | some counter =>
      let entry := (entries.getD counter templateTopologyPort).occupy engineType startLane endLane resetId device function
      (some (entries.set counter entry), some (getDescriptorHandle entry), true)

/-- `none` if no parameter is unused. -/
def addToParams (parameter : PortParam) : List PortParam → Option (List PortParam)
  | [] => none
  | p :: ps => if p.paramType = 0 then some (parameter :: ps) else (addToParams parameter ps).map (p :: ·)

def addParameter (table : PortList) (entryHandle : UInt64) (parameter : PortParam) : PortList × Bool :=
  match table with
  | none => (none, false)
  | some entries =>
    match Scan.first PortDescriptor.terminates (getDescriptorHandle · = entryHandle) entries with
    | none => (some entries, false)
    | some counter =>
      let entry := entries.getD counter templateTopologyPort
      match addToParams parameter entry.portParams with
      | none => (some entries, false)
      | some params => (some (entries.set counter { entry with portParams := params }), true)

def removeEntry (table : PortList) (entryHandle : UInt64) : PortList × Bool :=
  match table with
  | none => (none, false)
  | some entries =>
    match Scan.first PortDescriptor.terminates (getDescriptorHandle · = entryHandle) entries with
    | none => (some entries, false)
    | some counter => (some (entries.set counter templateTopologyPort), true)

/-! ## Runs -/

inductive Call where
  | initializeTopologyEntry (engineType startLane endLane resetId device function : UInt8)
  | addParameter (entryHandle : UInt64) (parameter : PortParam)
  | removeEntry (entryHandle : UInt64)

def step (table : PortList) : Call → PortList × Option UInt64 × Bool
  | .initializeTopologyEntry engineType startLane endLane resetId device function =>
    initializeTopologyEntry table engineType startLane endLane resetId device function
  | .addParameter entryHandle parameter => let r := addParameter table entryHandle parameter; (r.1, none, r.2)
  | .removeEntry entryHandle => let r := removeEntry table entryHandle; (r.1, none, r.2)

def emptyTable (n : Nat) : PortList :=
  some (List.replicate n templateTopologyPort ++ [{ templateTopologyPort with flags := descriptorTerminateList }])

/-! ## What the calls are for -/

def liveHandles (entries : List PortDescriptor) : List UInt64 :=
  ((entries.takeWhile (!·.terminates)).filter (!·.unused)).map getDescriptorHandle

/-- What a successful call does to its entry. -/
def ActsOn (call : Call) (handle : Option UInt64) (d d' : PortDescriptor) : Prop :=
  match call with
  | .initializeTopologyEntry .. => d.unused ∧ ¬d'.unused ∧ handle = some (getDescriptorHandle d') ∧ d'.flags = d.flags
  | .addParameter entryHandle _ =>
    ¬d.unused ∧ getDescriptorHandle d = entryHandle ∧ ¬d'.unused ∧ getDescriptorHandle d' = entryHandle ∧ d'.flags = d.flags
  | .removeEntry entryHandle =>
    ¬d.unused ∧ getDescriptorHandle d = entryHandle ∧ d'.unused ∧ d'.terminates = d.terminates

/-- A successful call changes one entry as it should, and a failed one changes nothing. -/
def StepOk (table : PortList) (call : Call) : Prop :=
  let (table', handle, success) := step table call
  if success then
    ∃ before d d' after, table = some (before ++ d :: after) ∧ table' = some (before ++ d' :: after) ∧
      (∀ b ∈ before ++ [d], ¬b.terminates) ∧ ActsOn call handle d d'
  else table' = table

/-- Entries in use have different handles. -/
def Unique (table : PortList) : Prop := ∀ entries, table = some entries → (liveHandles entries).Nodup

/-- Handles are unique throughout, and every call does what it should. -/
def RunOk (table : PortList) : List Call → Prop
  | [] => Unique table
  | call :: calls => Unique table ∧ StepOk table call ∧ RunOk (step table call).1 calls

end OpenSil.Mpio
