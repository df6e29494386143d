import OpenSil.Status
import OpenSil.Lib.Chain

/-! # Descriptors of the PCIe topology -/

namespace OpenSil.Nbio

open Chain

def descriptorTerminateList : BitVec 32 := 0x80000000
def descriptorTerminateGnb : BitVec 32 := 0x40000000
def descriptorTerminateTopology : BitVec 32 := 0x20000000
def descriptorAllocated : BitVec 32 := 0x10000000
def descriptorPlatform : BitVec 32 := 0x08000000
def descriptorComplex : BitVec 32 := 0x04000000
def descriptorSilicon : BitVec 32 := 0x02000000
def descriptorPcieWrapper : BitVec 32 := 0x01000000
def descriptorPcieEngine : BitVec 32 := 0x00800000
def descriptorCxlEngine : BitVec 32 := 0x00200000
def descriptorAllWrappers : BitVec 32 := descriptorPcieWrapper
def descriptorAllEngines : BitVec 32 := descriptorPcieEngine ||| descriptorCxlEngine
def descriptorAllTypes : BitVec 32 :=
  descriptorAllWrappers ||| descriptorAllEngines ||| descriptorSilicon ||| descriptorPlatform

structure DescriptorHeader where
  descriptorFlags : BitVec 32
  parent : BitVec 16
  peer : BitVec 16
  child : BitVec 16
  deriving DecidableEq

def Headers : Type := Nat → DescriptorHeader

namespace Headers
variable (h : Headers)

def has (flags : BitVec 32) (d : Nat) : Bool := (h d).descriptorFlags &&& flags ≠ 0

def childOf (d : Nat) : Option Nat := if (h d).child ≠ 0 then some (d + (h d).child.toNat) else none

def peerOf (d : Nat) : Option Nat := if (h d).peer ≠ 0 then some (d + (h d).peer.toNat) else none

def parentOf (d : Nat) : Option Nat := if (h d).parent ≠ 0 then some (d - (h d).parent.toNat) else none

def nextTopologyDescriptor (d : Nat) : Option Nat :=
  if h.has descriptorTerminateTopology d then none else some (d + (h d).peer.toNat)

/-- `PcieConfigGetNextTopologyDescriptor` with termination flags of the caller. -/
def nextDescriptorUntil (termination : BitVec 32) (d : Nat) : Option Nat :=
  if h.has termination d then none else some (d + (h d).peer.toNat)

/-- `PcieConfigGetNextDescriptor` of an array with elements of `size` bytes. -/
def nextDescriptor (size d : Nat) : Option Nat := if h.has descriptorTerminateList d then none else some (d + size)

end Headers

/-! ## Walks

`fuel` bounds the turns of every loop.
-/

section
variable (fuel : Nat) (h : Headers)

def pcieConfigGetChild (type : BitVec 32) (d : Nat) : Option (Option Nat) := seek h.childOf (h.has type) fuel d

def pcieConfigGetPeer (type : BitVec 32) (d : Nat) : Option (Option Nat) := seek h.peerOf (h.has type) fuel d

def pcieConfigGetParent (type : BitVec 32) (d : Nat) : Option (Option Nat) := seek h.parentOf (h.has type) fuel d

def silStatusUpdate (current aggregated : SilStatus) : SilStatus :=
  if current.ctorIdx > aggregated.ctorIdx then current else aggregated

variable {σ : Type}

def pcieConfigRunProcForAllWrappers (descriptorFlags : BitVec 32) (callback : Nat → σ → σ × SilStatus) (buffer : σ) :
    Option (σ × SilStatus) := do
  let wrapper ← pcieConfigGetChild fuel h descriptorAllWrappers 0
  runWhile h.nextTopologyDescriptor (fun _ => some true)
    (fun s wrapper =>
      if h.has (descriptorFlags &&& descriptorAllWrappers) wrapper then
        ((callback wrapper s.1).1, silStatusUpdate (callback wrapper s.1).2 s.2)
      else s)
    fuel wrapper (buffer, .silPass)

def descriptorSelected (inFlags outFlags : BitVec 32) (d : Nat) : Bool :=
  -- the source joins the second pair of words with `&&`, not with `&`
  h.has inFlags d && !(outFlags ≠ 0 && (h d).descriptorFlags ≠ 0)

def invoke (callback : Nat → σ → σ × SilStatus) (s : σ × SilStatus) (d : Nat) : σ × SilStatus :=
  ((callback d s.1).1, silStatusUpdate (callback d s.1).2 s.2)

def pcieConfigRunProcForAllDescriptors (inFlags outFlags terminationFlags : BitVec 32)
    (callback : Nat → σ → σ × SilStatus) (buffer : σ) : Option (σ × SilStatus) := do
  let descriptor ← pcieConfigGetChild fuel h (inFlags &&& descriptorAllTypes) 0
  runWhile (h.nextDescriptorUntil terminationFlags) (fun _ => some true)
    (fun s d => if descriptorSelected h inFlags outFlags d then invoke callback s d else s)
    fuel descriptor (buffer, .silPass)

def pcieConfigRunProcForAllWrappersInNbio (descriptorFlags : BitVec 32) (callback : Nat → σ → σ) (buffer : σ)
    (gnbHandle : Nat) : Option σ := do
  let wrapper ← pcieConfigGetChild fuel h descriptorAllWrappers gnbHandle
  runWhile h.nextTopologyDescriptor
    (fun wrapper => (pcieConfigGetParent fuel h descriptorSilicon wrapper).map (some gnbHandle == ·))
    (fun s wrapper => if h.has (descriptorFlags &&& descriptorAllWrappers) wrapper then callback wrapper s else s)
    fuel wrapper buffer

def engineSelected (descriptorFlags : BitVec 32) (engine : Nat) : Bool :=
  !(descriptorFlags &&& descriptorAllocated ≠ 0 && !h.has descriptorAllocated engine) &&
    h.has (descriptorAllEngines &&& descriptorFlags) engine

def pcieConfigRunProcForAllEngines (descriptorFlags : BitVec 32) (callback : Nat → σ → σ) (buffer : σ) : Option σ := do
  let engine ← pcieConfigGetChild fuel h descriptorAllEngines 0
  runWhile h.nextTopologyDescriptor (fun _ => some true)
    (fun s engine => if engineSelected h descriptorFlags engine then callback engine s else s) fuel engine buffer

def pcieConfigRunProcForAllEnginesInWrapper (descriptorFlags : BitVec 32) (callback : Nat → σ → σ) (buffer : σ)
    (wrapper : Nat) : Option σ := do
  let engine ← pcieConfigGetChild fuel h descriptorAllEngines wrapper
  runWhile h.nextTopologyDescriptor
    (fun engine => (pcieConfigGetParent fuel h descriptorAllWrappers engine).map (some wrapper == ·))
    (fun s engine => if engineSelected h descriptorFlags engine then callback engine s else s) fuel engine buffer

end

/-! ## The filter of `PcieConfigRunProcForAllDescriptors` -/

section
variable {fuel : Nat} {h : Headers} {inFlags outFlags terminationFlags : BitVec 32} {passed l : List Nat}
  {start : Option Nat}

/-- The descriptors that the parameters ask for. -/
def Headers.wanted (h : Headers) (inFlags outFlags : BitVec 32) (d : Nat) : Bool := h.has inFlags d && !h.has outFlags d

theorem descriptorSelected_eq (d : Nat) : descriptorSelected h inFlags outFlags d = (h.has inFlags d && outFlags == 0) := by
  unfold descriptorSelected
  cases hin : h.has inFlags d with
  | false => rfl
  | true =>
    have hflags : (h d).descriptorFlags ≠ 0 := by
      intro hzero
      simp [Headers.has, hzero] at hin
    simp only [decide_eq_true hflags, Bool.true_and, Bool.and_true, decide_not, Bool.not_not]
    rfl

theorem descriptorSelected_eq_wanted_iff (d : Nat) :
    descriptorSelected h inFlags outFlags d = h.wanted inFlags outFlags d ↔
      (h.has inFlags d = true → outFlags = 0 ∨ h.has outFlags d = true) := by
  rw [descriptorSelected_eq, Headers.wanted]
  by_cases hout : outFlags = 0#32
  · simp [hout, Headers.has]
  · cases h.has inFlags d <;> cases h.has outFlags d <;> simp [hout]

theorem pcieConfigRunProcForAllDescriptors_eq (outFlags : BitVec 32)
    (hstart : Walk h.childOf (h.has (inFlags &&& descriptorAllTypes)) (some 0) passed start)
    (hl : Path (h.nextDescriptorUntil terminationFlags) start l none) (hpassed : passed.length < fuel)
    (hfuel : l.length < fuel) {σ : Type} (callback : Nat → σ → σ × SilStatus) (buffer : σ) :
    pcieConfigRunProcForAllDescriptors fuel h inFlags outFlags terminationFlags callback buffer =
      some ((l.filter (descriptorSelected h inFlags outFlags)).foldl (invoke callback) (buffer, .silPass)) := by
  unfold pcieConfigRunProcForAllDescriptors pcieConfigGetChild
  rw [hstart.seek_eq hpassed, List.foldl_filter]
  exact runWhile_of_path hl (fun _ _ => rfl) (fun _ hc => by cases hc) hfuel _

/-- A callback that records its calls tells any two lists of calls apart. -/
theorem foldl_invoke_record (l r : List Nat) (status : SilStatus) :
    (l.foldl (invoke fun d r => (r ++ [d], .silPass)) (r, status)).1 = r ++ l := by
  induction l generalizing r status with
  | nil => simp
  | cons d l ih => simpa [invoke] using ih (r ++ [d]) _

/-- The callback is run on the descriptors asked for, for any callback, only without flags to exclude or if each
descriptor with a flag to include has one to exclude as well. -/
theorem pcieConfigRunProcForAllDescriptors_wanted_iff
    (hstart : Walk h.childOf (h.has (inFlags &&& descriptorAllTypes)) (some 0) passed start)
    (hl : Path (h.nextDescriptorUntil terminationFlags) start l none) (hpassed : passed.length < fuel)
    (hfuel : l.length < fuel) :
    (∀ (σ : Type) (callback : Nat → σ → σ × SilStatus) (buffer : σ),
      pcieConfigRunProcForAllDescriptors fuel h inFlags outFlags terminationFlags callback buffer =
        some ((l.filter (h.wanted inFlags outFlags)).foldl (invoke callback) (buffer, .silPass))) ↔
      ∀ d ∈ l, h.has inFlags d = true → outFlags = 0 ∨ h.has outFlags d = true := by
  have hrun {σ : Type} := pcieConfigRunProcForAllDescriptors_eq outFlags hstart hl hpassed hfuel (σ := σ)
  constructor
  · intro hall d hd
    have hrecord := Option.some.inj ((hrun _ _).symm.trans (hall _ (fun d r => (r ++ [d], .silPass)) []))
    replace hrecord := congrArg Prod.fst hrecord
    rw [foldl_invoke_record, foldl_invoke_record, List.nil_append, List.nil_append] at hrecord
    have hmem : d ∈ l.filter (descriptorSelected h inFlags outFlags) ↔ d ∈ l.filter (h.wanted inFlags outFlags) := by
      rw [hrecord]
    rw [List.mem_filter, List.mem_filter, and_congr_right_iff] at hmem
    exact (descriptorSelected_eq_wanted_iff d).mp (Bool.eq_iff_iff.mpr (hmem hd))
  · intro hall σ callback buffer
    rw [hrun, List.filter_congr fun d hd => (descriptorSelected_eq_wanted_iff d).mpr (hall d hd)]

/-- A platform with one engine, which is not allocated. -/
def oneEngine : Headers
  | 0 => ⟨descriptorPlatform, 0, 0, 16⟩
  | _ => ⟨descriptorPcieEngine ||| descriptorTerminateTopology, 16, 0, 0⟩

theorem pcieConfigRunProcForAllDescriptors_oneEngine :
    pcieConfigGetChild 3 oneEngine (descriptorAllEngines &&& descriptorAllTypes) 0 = some (some 16) ∧
      Path (oneEngine.nextDescriptorUntil descriptorTerminateTopology) (some 16) [16] none ∧
      oneEngine.wanted descriptorAllEngines descriptorAllocated 16 = true ∧
      pcieConfigRunProcForAllDescriptors 3 oneEngine descriptorAllEngines descriptorAllocated
        descriptorTerminateTopology (fun d r => (r ++ [d], .silPass)) [] = some ([], .silPass) :=
  ⟨by decide, ⟨rfl, rfl⟩, by decide, by decide⟩

theorem pcieConfigRunProcForAllDescriptors_wanted_oneEngine :
    (∀ (σ : Type) (callback : Nat → σ → σ × SilStatus) (buffer : σ),
      pcieConfigRunProcForAllDescriptors 3 oneEngine descriptorAllEngines 0 descriptorTerminateTopology callback buffer =
        some (([16].filter (oneEngine.wanted descriptorAllEngines 0)).foldl (invoke callback) (buffer, .silPass))) ↔
      ∀ d ∈ [16], oneEngine.has descriptorAllEngines d = true → (0 : BitVec 32) = 0 ∨ oneEngine.has 0 d = true := by
  have hstart : Walk oneEngine.childOf (oneEngine.has (descriptorAllEngines &&& descriptorAllTypes)) (some 0) [0]
      (some 16) := ⟨⟨rfl, rfl⟩, by decide, by decide⟩
  exact pcieConfigRunProcForAllDescriptors_wanted_iff hstart ⟨rfl, rfl⟩ (by decide) (by decide)

end

/-! ## Kinds of descriptors -/

def kindMask : BitVec 32 :=
  descriptorPlatform ||| descriptorComplex ||| descriptorSilicon ||| descriptorPcieWrapper ||| descriptorAllEngines

namespace Headers
variable {h : Headers} {d p c : Nat}

def kind (h : Headers) (d : Nat) : BitVec 32 := (h d).descriptorFlags &&& kindMask

theorem has_eq_of_kind {k : BitVec 32} (hkind : h.kind d = k) (type : BitVec 32) (htype : kindMask &&& type = type) :
    h.has type d = decide (k &&& type ≠ 0) := by
  unfold has
  rw [← hkind, kind, BitVec.and_assoc, htype]

/-- A search passes the descriptors of other kinds. -/
theorem seek_of_kinds {next : Nat → Option Nat} {type k : BitVec 32} {a b fuel : Nat} {kinds : List (BitVec 32)}
    (l : List Nat) (hpath : Path next (some a) l (some b)) (hl : List.Forall₂ (fun a k => h.kind a = k) l kinds)
    (hb : h.kind b = k) (hfuel : 5 ≤ fuel) (htype : kindMask &&& type = type ∧ k &&& type ≠ 0 ∧ kinds.length < 5 ∧
      kinds.all (· &&& type == 0) := by decide) : seek next (h.has type) fuel a = some (some b) := by
  obtain ⟨hmask, hown, hlength, hother⟩ := htype
  refine seek_of_path hpath (fun c hc => ?_) ?_ ?_
  · obtain ⟨i, hi, rfl⟩ := List.getElem_of_mem hc
    have hkind : h.kind l[i] = _ := hl.get hi (hl.length_eq ▸ hi)
    rw [has_eq_of_kind hkind _ hmask]
    simpa using List.all_eq_true.mp hother _ (List.get_mem kinds ⟨i, hl.length_eq ▸ hi⟩)
  · rw [has_eq_of_kind hb _ hmask]
    exact decide_eq_true hown
  · rw [hl.length_eq]
    exact hlength.trans_le hfuel

def IsParent (h : Headers) (p d : Nat) : Prop := p < d ∧ p + (h d).parent.toNat = d

def IsChild (h : Headers) (d c : Nat) : Prop := d < c ∧ d + (h d).child.toNat = c

theorem IsParent.parentOf_eq (hp : h.IsParent p d) : h.parentOf d = some p := by
  obtain ⟨hlt, heq⟩ := hp
  have hne : (h d).parent ≠ 0 := by
    intro hzero
    have : (h d).parent.toNat = 0 := by rw [hzero]; rfl
    omega
  unfold parentOf
  rw [if_pos hne]
  congr 1
  omega

theorem IsChild.childOf_eq (hc : h.IsChild d c) : h.childOf d = some c := by
  obtain ⟨hlt, heq⟩ := hc
  have hne : (h d).child ≠ 0 := by
    intro hzero
    have : (h d).child.toNat = 0 := by rw [hzero]; rfl
    omega
  unfold childOf
  rw [if_pos hne, heq]

theorem peerOf_eq_of_next (hnext : h.nextTopologyDescriptor d = some c) (hlt : d < c) : h.peerOf d = some c := by
  unfold nextTopologyDescriptor at hnext
  split_ifs at hnext
  have hpeer := Option.some.inj hnext
  have hne : (h d).peer ≠ 0 := by
    intro hzero
    have : (h d).peer.toNat = 0 := by rw [hzero]; rfl
    omega
  unfold peerOf
  rw [if_pos hne, hpeer]

end Headers

end OpenSil.Nbio
