import OpenSil.Status
import OpenSil.Lib.Fill

/-! # The core topology -/

namespace OpenSil.CoreTopology

def ccxNotPresent : BitVec 8 := 0xFF
def maxCcdsPerDie : Nat := 12
def maxComplexesPerCcd : Nat := 2
def maxCoresPerComplex : Nat := 8
def maxThreadsPerCore : Nat := 2

structure LogicalCoreInfo where
  physCoreNumber : BitVec 8
  isThreadEnabled : Nat → Bool

structure LogicalComplexInfo where
  physComplexNumber : BitVec 8
  coreInfo : Nat → LogicalCoreInfo

structure LogicalCcdInfo where
  physCcdNumber : BitVec 8
  complexMap : Nat → LogicalComplexInfo

def CcdMap : Type := Nat → LogicalCcdInfo

namespace CcdMap
variable (map : CcdMap)

def physCcd (ccd : Nat) : BitVec 8 := (map ccd).physCcdNumber

def physComplex (ccd ccx : Nat) : BitVec 8 := ((map ccd).complexMap ccx).physComplexNumber

def physCore (ccd ccx core : Nat) : BitVec 8 := (((map ccd).complexMap ccx).coreInfo core).physCoreNumber

def isThreadEnabled (ccd ccx core thread : Nat) : Bool :=
  (((map ccd).complexMap ccx).coreInfo core).isThreadEnabled thread

end CcdMap

structure Counts where
  numberOfCcds : Nat
  numberOfComplexes : Nat
  numberOfCores : Nat
  numberOfThreads : Nat
  deriving DecidableEq

def countLeading (max : Nat) (present : Nat → Bool) : Nat := ((List.range max).takeWhile present).length

def apobGetCoreTopologyOnDie (map : CcdMap) : Counts where
  numberOfCcds := countLeading maxCcdsPerDie (map.physCcd · ≠ ccxNotPresent)
  numberOfComplexes := countLeading maxComplexesPerCcd (map.physComplex 0 · ≠ ccxNotPresent)
  numberOfCores := countLeading maxCoresPerComplex (map.physCore 0 0 · ≠ ccxNotPresent)
  numberOfThreads := countLeading maxThreadsPerCore (map.isThreadEnabled 0 0 0 ·)

def getCoreTopologyOnDie (map : Except SilStatus CcdMap) (counts : Counts) : Counts :=
  match map with
  | .error _ => counts
  | .ok map => apobGetCoreTopologyOnDie map

structure Cpu where
  socket : Nat
  die : Nat
  ccd : Nat
  ccx : Nat
  core : Nat
  thread : Nat
  deriving DecidableEq

structure System where
  numberOfSockets : Nat
  numberOfDies : Nat → Nat
  /-- The map of a die of a socket, or the status of `AmdGetApobEntryInstance`. -/
  ccdLogToPhysMap : Nat → Nat → Except SilStatus CcdMap
  sockets_lt : numberOfSockets < 256
  dies_lt : ∀ socket, numberOfDies socket < 256

def forPresent {σ : Type} {m : Type → Type} [Monad m] (count : Nat) (phys : Nat → BitVec 8) (s : σ)
    (body : σ → Nat → m σ) : m σ :=
  (List.range count).foldlM (fun s loop => if phys loop = ccxNotPresent then pure s else body s loop) s

def presentIn (count : Nat) (phys : Nat → BitVec 8) : List Nat := (List.range count).filter (phys · ≠ ccxNotPresent)

theorem forPresent_eq {σ : Type} {m : Type → Type} [Monad m] [LawfulMonad m] (count : Nat) (phys : Nat → BitVec 8)
    (s : σ) (body : σ → Nat → m σ) : forPresent count phys s body = (presentIn count phys).foldlM body s := by
  unfold forPresent presentIn
  rw [List.foldlM_filter]
  simp only [ne_eq, decide_not, Bool.not_eq_eq_eq_not, Bool.not_true, decide_eq_false_iff_not, ite_not]

def dieCpus (map : CcdMap) (socket die : Nat) : List Cpu :=
  let counts := apobGetCoreTopologyOnDie map
  (presentIn counts.numberOfCcds map.physCcd).flatMap fun ccd =>
    (presentIn counts.numberOfComplexes (map.physComplex ccd)).flatMap fun ccx =>
      (presentIn counts.numberOfCores (map.physCore ccd ccx)).flatMap fun core =>
        (List.range counts.numberOfThreads).map fun thread => ⟨socket, die, ccd, ccx, core, thread⟩

theorem mem_dieCpus {map : CcdMap} {socket die : Nat} {cpu : Cpu} (h : cpu ∈ dieCpus map socket die) :
    cpu.socket = socket ∧ cpu.die = die := by
  simp only [dieCpus, List.mem_flatMap, List.mem_map] at h
  obtain ⟨_, _, _, _, _, _, _, _, rfl⟩ := h
  exact ⟨rfl, rfl⟩

def oneCoreMap : CcdMap := fun ccd =>
  ⟨if ccd = 0 then 4 else ccxNotPresent, fun ccx =>
    ⟨if ccx = 0 then 0 else ccxNotPresent, fun core => ⟨if core = 0 then 7 else ccxNotPresent, fun _ => true⟩⟩⟩

def oneCoreSystem : System := ⟨1, fun _ => 1, fun _ _ => .ok oneCoreMap, by decide, fun _ => by decide⟩

end OpenSil.CoreTopology
