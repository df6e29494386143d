import OpenSil.CoreTopology

/-! # The CPU map

`xPrfCollectCpuMap` lists the processors of the system, one record for each thread.
-/

namespace OpenSil.XPrf

open CoreTopology Fill List Nat

structure SilCpuInfo where
  processorNumber : Nat
  socketId : BitVec 8
  ccxId : BitVec 8
  dieId : BitVec 8
  coreId : BitVec 8
  threadId : BitVec 8
  deriving DecidableEq

/-- With a processor number of 64 bits, which is the `size_t` of x86-64. -/
def sizeofSilCpuInfo : Nat := 16

def silCpuInfo (map : CcdMap) (index : Nat) (cpu : Cpu) : SilCpuInfo where
  processorNumber := index
  socketId := BitVec.ofNat 8 cpu.socket
  dieId := map.physCcd cpu.ccd
  ccxId := map.physComplex cpu.ccd cpu.ccx
  coreId := map.physCore cpu.ccd cpu.ccx cpu.core
  threadId := BitVec.ofNat 8 cpu.thread

structure Returned where
  status : SilStatus
  silCpuMap : Nat → SilCpuInfo

abbrev CpuMap := Buffer SilCpuInfo

def addCpu (map : CcdMap) (cpu : Cpu) (v : CpuMap) : Except Returned CpuMap :=
  (store sizeofSilCpuInfo (silCpuInfo map) v cpu).mapError fun v => ⟨.silOutOfBounds, v.slots⟩

def addCore (map : CcdMap) (numberOfThreads socket die ccd ccx : Nat) (v : CpuMap) (core : Nat) :
    Except Returned CpuMap := do
  let v ← addCpu map ⟨socket, die, ccd, ccx, core, 0⟩ v
  if numberOfThreads > 1 then addCpu map ⟨socket, die, ccd, ccx, core, 1⟩ v else pure v

def addDie (sys : System) (socket : Nat) (v : CpuMap) (die : Nat) : Except Returned CpuMap :=
  match sys.ccdLogToPhysMap socket die with
  | .error status => .error ⟨status, v.slots⟩
  | .ok map =>
    let counts := apobGetCoreTopologyOnDie map
    forPresent counts.numberOfCcds map.physCcd v fun v ccd =>
      forPresent counts.numberOfComplexes (map.physComplex ccd) v fun v ccx =>
        forPresent counts.numberOfCores (map.physCore ccd ccx) v fun v core =>
          addCore map counts.numberOfThreads socket die ccd ccx v core

def xPrfCollectCpuMap (sys : System) (rasCpuMap : Nat → SilCpuInfo) (cpuMapSize totalCpus : Nat) :
    SilStatus × (Nat → SilCpuInfo) × Nat :=
  let loops := (List.range sys.numberOfSockets).foldlM
    (fun v socket => (List.range (sys.numberOfDies socket)).foldlM (addDie sys socket) v)
    (⟨rasCpuMap, 0, cpuMapSize⟩ : CpuMap)
  match loops with
  | .error r => (r.status, r.silCpuMap, totalCpus)
  | .ok v => (.silPass, v.slots, v.index)

/-! ## The list of the processors -/

def systemCpus (sys : System) (maps : Nat → Nat → CcdMap) : List Cpu :=
  (List.range sys.numberOfSockets).flatMap fun socket =>
    (List.range (sys.numberOfDies socket)).flatMap fun die => dieCpus (maps socket die) socket die

/-- Every die has a map of its CCDs, and cores of one or two threads. -/
structure Described (sys : System) (maps : Nat → Nat → CcdMap) : Prop where
  available : ∀ socket < sys.numberOfSockets, ∀ die < sys.numberOfDies socket,
    sys.ccdLogToPhysMap socket die = .ok (maps socket die)
  threads : ∀ socket < sys.numberOfSockets, ∀ die < sys.numberOfDies socket,
    (apobGetCoreTopologyOnDie (maps socket die)).numberOfThreads ∈ [1, 2]

def systemCpuInfo (maps : Nat → Nat → CcdMap) (index : Nat) (cpu : Cpu) : SilCpuInfo :=
  silCpuInfo (maps cpu.socket cpu.die) index cpu

def cpuRecords (maps : Nat → Nat → CcdMap) (cpus : List Cpu) (rasCpuMap : Nat → SilCpuInfo) : Nat → SilCpuInfo :=
  fun i => (cpus[i]?).elim (rasCpuMap i) (systemCpuInfo maps i)

/-! ## The loops -/

theorem addCore_eq (map : CcdMap) {numberOfThreads : Nat} (hthreads : numberOfThreads ∈ [1, 2])
    (socket die ccd ccx : Nat) (v : CpuMap) (core : Nat) :
    addCore map numberOfThreads socket die ccd ccx v core =
      ((List.range numberOfThreads).map (Cpu.mk socket die ccd ccx core)).foldlM (fun v cpu => addCpu map cpu v) v := by
  rw [mem_pair] at hthreads
  unfold addCore
  rcases hthreads with rfl | rfl
  · simp
  · simp [range_succ]

variable {sys : System}

theorem addDie_eq {map : CcdMap} {socket die : Nat} (hmap : sys.ccdLogToPhysMap socket die = .ok map)
    (hthreads : (apobGetCoreTopologyOnDie map).numberOfThreads ∈ [1, 2]) (v : CpuMap) :
    addDie sys socket v die = (dieCpus map socket die).foldlM (fun v cpu => addCpu map cpu v) v := by
  unfold addDie dieCpus
  rw [hmap]
  simp only [forPresent_eq, foldlM_flatMap, addCore_eq map hthreads]

variable {maps : Nat → Nat → CcdMap}

theorem loops_eq (h : Described sys maps) (v : CpuMap) :
    (List.range sys.numberOfSockets).foldlM
        (fun v socket => (List.range (sys.numberOfDies socket)).foldlM (addDie sys socket) v) v =
      ((systemCpus sys maps).foldlM (store sizeofSilCpuInfo (systemCpuInfo maps)) v).mapError
        fun v => ⟨.silOutOfBounds, v.slots⟩ := by
  rw [← foldlM_mapError]
  unfold systemCpus
  simp only [foldlM_flatMap]
  apply foldlM_congr
  intro socket hsocket v
  apply foldlM_congr
  intro die hdie v
  rw [mem_range] at hsocket hdie
  rw [addDie_eq (h.available socket hsocket die hdie) (h.threads socket hsocket die hdie)]
  apply foldlM_congr
  intro cpu hcpu v
  obtain ⟨rfl, rfl⟩ := mem_dieCpus hcpu
  rfl

theorem written_systemCpuInfo (maps : Nat → Nat → CcdMap) (cpus : List Cpu) (map : Nat → SilCpuInfo) :
    written (systemCpuInfo maps) 0 cpus map = cpuRecords maps cpus map := by
  funext i
  unfold written
  rw [if_pos (zero_le i)]
  rfl

section
variable (h : Described sys maps) (map : Nat → SilCpuInfo) (cpuMapSize totalCpus : Nat)
include h

theorem xPrfCollectCpuMap_eq :
    xPrfCollectCpuMap sys map cpuMapSize totalCpus =
      let cpus := systemCpus sys maps
      if cpus.length * sizeofSilCpuInfo ≤ cpuMapSize then (.silPass, cpuRecords maps cpus map, cpus.length)
      else (.silOutOfBounds, cpuRecords maps (cpus.take (cpuMapSize / sizeofSilCpuInfo)) map, totalCpus) := by
  unfold xPrfCollectCpuMap
  rw [loops_eq h]
  dsimp only
  split_ifs with hroom
  · rw [foldlM_store_of_le _ _ (by rwa [mul_comm])]
    dsimp only [Except.mapError]
    rw [written_systemCpuInfo, zero_add]
  · rw [foldlM_store_of_lt _ _ (by decide) (by rw [mul_comm]; exact Nat.lt_of_not_le hroom)]
    dsimp only [Except.mapError]
    rw [written_systemCpuInfo]

theorem xPrfCollectCpuMap_map :
    (xPrfCollectCpuMap sys map cpuMapSize totalCpus).2.1 =
      cpuRecords maps ((systemCpus sys maps).take (cpuMapSize / sizeofSilCpuInfo)) map := by
  rw [xPrfCollectCpuMap_eq h]
  dsimp only
  split_ifs with hroom
  · rw [take_of_length_le ((le_div_iff_mul_le (by decide)).mpr hroom)]
  · rfl

end

variable {cpus : List Cpu}

theorem cpuRecords_of_some {i : Nat} {cpu : Cpu} (hcpu : cpus[i]? = some cpu) (map : Nat → SilCpuInfo) :
    cpuRecords maps cpus map i = systemCpuInfo maps i cpu := by
  unfold cpuRecords
  rw [hcpu]
  rfl

theorem cpuRecords_of_none {i : Nat} (hcpu : cpus[i]? = none) (map : Nat → SilCpuInfo) :
    cpuRecords maps cpus map i = map i := by
  unfold cpuRecords
  rw [hcpu]
  rfl

/-- The status tells whether the buffer has room for all processors. -/
theorem xPrfCollectCpuMap_spec {sys : System} {maps : Nat → Nat → CcdMap} (h : Described sys maps)
    (rasCpuMap : Nat → SilCpuInfo) (cpuMapSize totalCpus : Nat) :
    let cpus := systemCpus sys maps
    let r := xPrfCollectCpuMap sys rasCpuMap cpuMapSize totalCpus
    (r.1 = .silPass ↔ cpus.length * sizeofSilCpuInfo ≤ cpuMapSize) ∧
    (r.1 = .silPass → r.2.2 = cpus.length ∧ ∀ i cpu, cpus[i]? = some cpu → r.2.1 i = systemCpuInfo maps i cpu) ∧
    (r.1 ≠ .silPass → r.1 = .silOutOfBounds ∧ ∀ i cpu, cpus[i]? = some cpu → (i + 1) * sizeofSilCpuInfo ≤ cpuMapSize →
      r.2.1 i = systemCpuInfo maps i cpu) ∧
    ∀ i, cpus[i]? = none ∨ cpuMapSize < (i + 1) * sizeofSilCpuInfo → r.2.1 i = rasCpuMap i := by
  intro cpus r
  have hmap : r.2.1 = cpuRecords maps (cpus.take (cpuMapSize / sizeofSilCpuInfo)) rasCpuMap :=
    xPrfCollectCpuMap_map h rasCpuMap cpuMapSize totalCpus
  have hfit : ∀ i cpu, cpus[i]? = some cpu → (i + 1) * sizeofSilCpuInfo ≤ cpuMapSize →
      r.2.1 i = systemCpuInfo maps i cpu := by
    intro i cpu hcpu hi
    rw [hmap]
    apply cpuRecords_of_some
    rw [getElem?_take_of_lt ((le_div_iff_mul_le (by decide)).mpr hi), hcpu]
  have hrest : ∀ i, cpus[i]? = none ∨ cpuMapSize < (i + 1) * sizeofSilCpuInfo → r.2.1 i = rasCpuMap i := by
    intro i hi
    rw [hmap]
    apply cpuRecords_of_none
    rw [getElem?_take]
    split_ifs with hlt
    · exact hi.resolve_right (not_lt.mpr ((le_div_iff_mul_le (by decide)).mp hlt))
    · rfl
  have hr : r = _ := xPrfCollectCpuMap_eq h rasCpuMap cpuMapSize totalCpus
  dsimp only at hr
  by_cases hroom : cpus.length * sizeofSilCpuInfo ≤ cpuMapSize
  · rw [if_pos hroom] at hr
    refine ⟨iff_of_true (by rw [hr]) hroom, fun _ => ⟨by rw [hr], fun i cpu hcpu => hfit i cpu hcpu ?_⟩,
      fun hne => absurd (by rw [hr]) hne, hrest⟩
    have hi : i < cpus.length := (List.getElem?_eq_some_iff.mp hcpu).1
    exact (mul_le_mul_right _ hi).trans hroom
  · grind

theorem oneCoreSystem_described : Described oneCoreSystem fun _ _ => oneCoreMap where
  available := fun _ _ _ _ => rfl
  threads := fun _ _ _ _ => by decide

/-- Room for the first of two threads. -/
theorem xPrfCollectCpuMap_spec_one_core :
    Described oneCoreSystem (fun _ _ => oneCoreMap) ∧
    systemCpus oneCoreSystem (fun _ _ => oneCoreMap) = [⟨0, 0, 0, 0, 0, 0⟩, ⟨0, 0, 0, 0, 0, 1⟩] ∧
    (xPrfCollectCpuMap oneCoreSystem (fun _ => ⟨9, 9, 9, 9, 9, 9⟩) 24 0).2.1 0 = ⟨0, 0, 0, 4, 7, 0⟩ := by
  refine ⟨oneCoreSystem_described, by decide, ?_⟩
  have hspec := xPrfCollectCpuMap_spec oneCoreSystem_described (fun _ => ⟨9, 9, 9, 9, 9, 9⟩) 24 0
  have hne : (xPrfCollectCpuMap oneCoreSystem (fun _ => ⟨9, 9, 9, 9, 9, 9⟩) 24 0).1 ≠ .silPass := by
    rw [Ne, hspec.1]
    decide
  exact (hspec.2.2.1 hne).2 0 ⟨0, 0, 0, 0, 0, 0⟩ (by decide) (by decide)

end OpenSil.XPrf
