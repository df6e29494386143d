import OpenSil.RcMgr.Combination

/-! # Root bridges in the order of their buses -/

namespace OpenSil.RcMgr

open Word List Nat

/-! ## The buses of a host bridge -/

def routesTo (cfgBase cfgLimit : Nat → UInt32) (targetFabricId : UInt32) (i : Nat) : Bool :=
  bits (cfgBase i) 0 1 = 1 ∧ bits (cfgBase i) 1 1 = 1 ∧ bits (cfgLimit i) 0 12 = targetFabricId.toNat

def dfXGetHostBridgeBusBase (cfgBase cfgLimit : Nat → UInt32) (targetFabricId : UInt32) : Nat :=
  match (List.range dfXNumberOfBusRegions).find? (routesTo cfgBase cfgLimit targetFabricId) with
  | some i => bits (cfgBase i) 8 8 * 0x100 + bits (cfgBase i) 16 8
  | none => 0xFFFFFFFF

def dfXGetHostBridgeBusLimit (cfgBase cfgLimit : Nat → UInt32) (targetFabricId : UInt32) : Nat :=
  match (List.range dfXNumberOfBusRegions).find? (routesTo cfgBase cfgLimit targetFabricId) with
  | some i => bits (cfgBase i) 8 8 * 0x100 + bits (cfgLimit i) 16 8
  | none => 0xFF

/-! ## The map -/

structure RbLogToPhyMap where
  phySktNum : Nat
  phyRbNum : Nat
  pciBusBase : Nat
  pciBusLimit : Nat

def RbLogToPhyMap.rb (e : RbLogToPhyMap) : Nat × Nat := (e.phySktNum, e.phyRbNum)

section
variable (df : DfAnswers)

def rbMapEntry (rb : Nat × Nat) : RbLogToPhyMap :=
  let fabricId := df.hostBridgeSystemFabricID rb.1 rb.2
  let pciBusBase := dfXGetHostBridgeBusBase (df.cfgBase rb.1) (df.cfgLimit rb.1) fabricId
  let pciBusLimit := dfXGetHostBridgeBusLimit (df.cfgBase rb.1) (df.cfgLimit rb.1) fabricId
  if pciBusLimit < pciBusBase then ⟨rb.1, rb.2, 0xFFFFFFFF, 0⟩ else ⟨rb.1, rb.2, pciBusBase, pciBusLimit⟩

@[simp] theorem rbMapEntry_rb (rb : Nat × Nat) : (rbMapEntry df rb).rb = rb := by
  unfold rbMapEntry
  dsimp only
  split_ifs <;> rfl

def passDown (n i : Nat) : List Nat := (List.range (n - 1 - i)).map fun t => n - 2 - t

def sortByBus (entries : List RbLogToPhyMap) : List RbLogToPhyMap :=
  ((List.range entries.length).flatMap (passDown entries.length)).foldl
    (swapIf fun e e' => e'.pciBusBase < e.pciBusBase) entries

def fabricRbs : List (Nat × Nat) :=
  (List.range df.numberOfProcessorsPresent.toNat).flatMap fun i =>
    (List.range df.rootBridgesOnDie.toNat).map fun k => (i, k)

def logToPhyMap : List RbLogToPhyMap := sortByBus ((fabricRbs df).map (rbMapEntry df))

def dfXSilGetPhySktRbNum (log : Nat × Nat) : Nat × Nat :=
  (((logToPhyMap df)[log.1 * df.rootBridgesOnSocket.toNat + log.2]?).map RbLogToPhyMap.rb).getD (0, 0)

/-! ## Any number of dies -/

/-- The entries in the order in which they are filled; the buses are those of the bridge on its die. -/
def fabricEntries (socketCount dieCount : Nat) (rbCount : Nat → Nat) : List RbLogToPhyMap :=
  (List.range socketCount).flatMap fun i => (List.range dieCount).flatMap fun j => (List.range (rbCount i)).map fun k =>
    { rbMapEntry df (i, k) with phyRbNum := j * rbCount i + k }

structure LogToPhy where
  logToPhyMapInit : Bool
  logToPhyMap : List RbLogToPhyMap

/-- `DfXSilGetPhySktRbNum` with the indicator and the map that its callers keep. -/
def getPhySktRbNum (entries : List RbLogToPhyMap) (rbNumInSkt : Nat) (s : LogToPhy) (log : Nat × Nat) :
    (Nat × Nat) × LogToPhy :=
  let s := if s.logToPhyMapInit then s else ⟨true, sortByBus entries⟩
  (((s.logToPhyMap[log.1 * rbNumInSkt + log.2]?).map RbLogToPhyMap.rb).getD (0, 0), s)

theorem dfXSilGetPhySktRbNum_eq (m : List RbLogToPhyMap) (log : Nat × Nat) :
    dfXSilGetPhySktRbNum df log = (getPhySktRbNum
      (fabricEntries df df.numberOfProcessorsPresent.toNat 1 fun _ => df.rootBridgesOnDie.toNat)
      df.rootBridgesOnSocket.toNat ⟨false, m⟩ log).1 := by
  have hentry (i k : Nat) : ⟨(rbMapEntry df (i, k)).phySktNum, k, (rbMapEntry df (i, k)).pciBusBase,
      (rbMapEntry df (i, k)).pciBusLimit⟩ = rbMapEntry df (i, k) := by
    unfold rbMapEntry
    dsimp only
    split_ifs <;> rfl
  simp [dfXSilGetPhySktRbNum, getPhySktRbNum, logToPhyMap, fabricRbs, fabricEntries, map_flatMap, Function.comp_def,
    hentry, range_one]

theorem rbMapEntry_cases (rb : Nat × Nat) :
    (rbMapEntry df rb).pciBusBase = 0xFFFFFFFF ∧ (rbMapEntry df rb).pciBusLimit = 0 ∨
      (rbMapEntry df rb).pciBusBase ≤ (rbMapEntry df rb).pciBusLimit ∧ (rbMapEntry df rb).pciBusBase ≤ 0xFFFF := by
  unfold rbMapEntry
  dsimp only
  split_ifs with hempty
  · exact .inl ⟨rfl, rfl⟩
  · refine .inr ⟨not_lt.mp hempty, ?_⟩
    unfold dfXGetHostBridgeBusBase dfXGetHostBridgeBusLimit at hempty
    unfold dfXGetHostBridgeBusBase
    split at hempty
    · rename_i i hfind
      unfold Word.bits
      dsimp only
      omega
    · exact absurd (by decide) hempty

end

/-! ## What the sort does -/

theorem sortByBus_perm (entries : List RbLogToPhyMap) : (sortByBus entries).Perm entries := foldl_swapIf_perm _ _ _

def exchange (l : List RbLogToPhyMap) (j : Nat) : List RbLogToPhyMap :=
  swapIf (fun e e' => e'.pciBusBase < e.pciBusBase) l j

section
variable {l : List RbLogToPhyMap}

theorem exchange_zero (x y : RbLogToPhyMap) (l : List RbLogToPhyMap) :
    exchange (x :: y :: l) 0 = if y.pciBusBase < x.pciBusBase then y :: x :: l else x :: y :: l := by
  simp [exchange, swapIf]

theorem exchange_cons_succ (x : RbLogToPhyMap) (l : List RbLogToPhyMap) (j : Nat) :
    exchange (x :: l) (j + 1) = x :: exchange l j := by
  unfold exchange swapIf
  rw [getElem?_cons_succ, getElem?_cons_succ]
  cases l[j]? with
  | none => rfl
  | some a =>
    cases l[j + 1]? with
    | none => rfl
    | some b =>
      dsimp only
      split_ifs <;> rfl

theorem foldl_exchange_cons (x : RbLogToPhyMap) (js : List Nat) :
    (js.map (· + 1)).foldl exchange (x :: l) = x :: js.foldl exchange l := by
  induction js generalizing l with
  | nil => rfl
  | cons j js ih => simp only [map_cons, foldl_cons, exchange_cons_succ, ih]

/-- Entries with one base are never exchanged. -/
theorem exchange_filter (v j : Nat) : (exchange l j).filter (·.pciBusBase = v) = l.filter (·.pciBusBase = v) := by
  induction l generalizing j with
  | nil => rfl
  | cons x l ih =>
    cases j with
    | succ j => simp only [exchange_cons_succ, filter_cons, ih]
    | zero =>
      cases l with
      | nil => rfl
      | cons y l =>
        rw [exchange_zero]
        split_ifs with hlt
        · grind
        · rfl

theorem passDown_succ_succ (n i : Nat) : passDown (n + 1) (i + 1) = (passDown n i).map (· + 1) := by
  unfold passDown
  rw [map_map, show n + 1 - 1 - (i + 1) = n - 1 - i by omega]
  refine map_congr_left fun t ht => ?_
  simp only [mem_range, Function.comp_apply] at ht ⊢
  omega

theorem passDown_zero (n : Nat) : passDown (n + 2) 0 = (passDown (n + 1) 0).map (· + 1) ++ [0] := by
  unfold passDown
  rw [show n + 2 - 1 - 0 = n + 1 by omega, range_succ, map_append, map_map]
  congr 1
  · refine map_congr_left fun t ht => ?_
    simp only [mem_range, Function.comp_apply] at ht ⊢
    omega
  · simp

/-- The first pass brings an entry with the lowest base to the front. -/
theorem foldl_passDown (x : RbLogToPhyMap) (l : List RbLogToPhyMap) :
    ∃ y l', (passDown (l.length + 1) 0).foldl exchange (x :: l) = y :: l' ∧ ∀ z ∈ l', y.pciBusBase ≤ z.pciBusBase := by
  induction l generalizing x with
  | nil => exact ⟨x, [], rfl, by simp⟩
  | cons x' l ih =>
    obtain ⟨y, l', hpass, hlow⟩ := ih x'
    rw [length_cons, passDown_zero, foldl_append, foldl_exchange_cons, hpass, foldl_cons, foldl_nil, exchange_zero]
    split_ifs with hlt
    · exact ⟨y, x :: l', rfl, forall_mem_cons.mpr ⟨hlt.le, hlow⟩⟩
    · grind

theorem sortByBus_sorted (l : List RbLogToPhyMap) : (sortByBus l).Pairwise (·.pciBusBase ≤ ·.pciBusBase) := by
  unfold sortByBus
  show (foldl exchange _ _).Pairwise _
  generalize hn : l.length = n
  induction n generalizing l with
  | zero =>
    obtain rfl := length_eq_zero_iff.mp hn
    exact Pairwise.nil
  | succ n ih =>
    obtain ⟨x, l, rfl⟩ := exists_cons_of_length_eq_add_one hn
    obtain rfl : l.length = n := succ.inj hn
    obtain ⟨y, l', hpass, hlow⟩ := foldl_passDown x l
    have hlength : (y :: l').length = (x :: l).length := by
      rw [← hpass]
      exact (foldl_swapIf_perm _ _ _).length_eq
    -- the later passes are those of the rest of the list
    have hrest : ((range l.length).map succ).flatMap (passDown (l.length + 1)) =
        ((range l.length).flatMap (passDown l.length)).map (· + 1) := by
      rw [map_flatMap, flatMap_map]
      simp only [succ_eq_add_one, passDown_succ_succ]
    rw [range_succ_eq_map, flatMap_cons, foldl_append, hpass, hrest, foldl_exchange_cons]
    refine Pairwise.cons (fun z hz => hlow z ((foldl_swapIf_perm _ _ _).mem_iff.mp hz)) (ih l' ?_)
    exact succ.inj hlength

theorem sortByBus_filter (l : List RbLogToPhyMap) (v : Nat) :
    (sortByBus l).filter (·.pciBusBase = v) = l.filter (·.pciBusBase = v) :=
  Stores.foldl_keep (p := (filter (·.pciBusBase = v) ·)) (fun _ j => exchange_filter v j) _ l

theorem sortByBus_head {x : RbLogToPhyMap} (hx : x ∈ l) (hlow : ∀ y ∈ l, y = x ∨ x.pciBusBase < y.pciBusBase) :
    (sortByBus l)[0]? = some x := by
  have hsorted := sortByBus_sorted l
  have hmem : ∀ y, y ∈ sortByBus l ↔ y ∈ l := fun y => (sortByBus_perm l).mem_iff
  cases hsort : sortByBus l with
  | nil => simp [hsort] at hmem; exact absurd hx (hmem x)
  | cons y l' =>
    rw [hsort] at hsorted hmem
    rcases hlow y ((hmem y).mp mem_cons_self) with rfl | hlt
    · rfl
    · rcases mem_cons.mp ((hmem x).mpr hx) with rfl | hx
      · rfl
      · exact absurd hlt (rel_of_pairwise_cons hsorted hx).not_gt

end

/-! ## The root bridges in their logical order -/

structure CountsMatch (blk : InputBlk) (df : DfAnswers) : Prop where
  sockets : df.numberOfProcessorsPresent = blk.socketNumber
  onDie : df.rootBridgesOnDie = blk.rbsPerSocket
  onSocket : df.rootBridgesOnSocket = blk.rbsPerSocket

theorem flatMap_range_mul {α : Type} (f : Nat → α) (m n : Nat) :
    ((range m).flatMap fun i => (range n).map fun k => f (i * n + k)) = (range (m * n)).map f := by
  induction m with
  | zero => simp
  | succ m ih =>
    rw [range_succ, flatMap_append, ih, succ_mul, range_add, map_append]
    simp

open RbLogToPhyMap

theorem fabricEntries_rb (df : DfAnswers) (socketCount dieCount : Nat) (rbCount : Nat → Nat) :
    (fabricEntries df socketCount dieCount rbCount).map rb =
      (range socketCount).flatMap fun i => (range (dieCount * rbCount i)).map fun n => (i, n) := by
  have hrb (i k n : Nat) : rb { rbMapEntry df (i, k) with phyRbNum := n } = (i, n) := by
    have hskt : (rbMapEntry df (i, k)).phySktNum = i := congrArg Prod.fst (rbMapEntry_rb df (i, k))
    rw [rb, hskt]
  unfold fabricEntries
  simp only [map_flatMap, map_map, Function.comp_def, hrb, ← flatMap_range_mul]

theorem getPhySktRbNum_sorted (df : DfAnswers) (socketCount dieCount rbNumInSkt : Nat) (rbCount : Nat → Nat)
    (m₀ : List RbLogToPhyMap) (log : Nat × Nat) (calls : List (List RbLogToPhyMap × (Nat × Nat))) :
    let entries := fabricEntries df socketCount dieCount rbCount
    let s := (getPhySktRbNum entries rbNumInSkt ⟨false, m₀⟩ log).2
    let m := s.logToPhyMap
    (m.map RbLogToPhyMap.rb).Perm
        ((List.range socketCount).flatMap fun i => (List.range (dieCount * rbCount i)).map fun n => (i, n)) ∧
      m.Pairwise (·.pciBusBase ≤ ·.pciBusBase) ∧
      m.Pairwise (fun e e' => e.pciBusLimit < e.pciBusBase → e'.pciBusLimit < e'.pciBusBase) ∧
      (∀ v, m.filter (·.pciBusBase = v) = entries.filter (·.pciBusBase = v)) ∧
      calls.foldl (fun s call => (getPhySktRbNum call.1 rbNumInSkt s call.2).2) s = s ∧
      ∀ call : List RbLogToPhyMap × (Nat × Nat), (getPhySktRbNum call.1 rbNumInSkt s call.2).1 =
        ((m[call.2.1 * rbNumInSkt + call.2.2]?).map RbLogToPhyMap.rb).getD (0, 0) := by
  intro entries s m
  have hsorted : m.Pairwise (·.pciBusBase ≤ ·.pciBusBase) := sortByBus_sorted entries
  have hcases : ∀ e ∈ m, e.pciBusBase = 0xFFFFFFFF ∧ e.pciBusLimit = 0 ∨
      e.pciBusBase ≤ e.pciBusLimit ∧ e.pciBusBase ≤ 0xFFFF := by
    intro e he
    have hentry : e ∈ entries := (sortByBus_perm entries).mem_iff.mp he
    simp only [entries, fabricEntries, mem_flatMap, mem_map] at hentry
    obtain ⟨i, -, j, -, k, -, rfl⟩ := hentry
    exact rbMapEntry_cases df (i, k)
  refine ⟨?_, hsorted, hsorted.imp_of_mem ?_, sortByBus_filter entries, ?_, fun _ => rfl⟩
  · rw [← fabricEntries_rb df]
    exact (sortByBus_perm entries).map _
  · grind
  · exact foldlRecOn (motive := (· = s)) calls _ rfl fun t ht call _ => by rw [ht]; rfl

section
variable {blk : InputBlk} {df : DfAnswers}

theorem CountsMatch.fabricRbs (h : CountsMatch blk df) : fabricRbs df = rootBridges blk := by
  rw [RcMgr.fabricRbs, h.sockets, h.onDie]
  rfl

theorem CountsMatch.map_phy (h : CountsMatch blk df) :
    (rootBridges blk).map (dfXSilGetPhySktRbNum df) = (logToPhyMap df).map rb := by
  have hlength : (logToPhyMap df).length = blk.socketNumber.toNat * blk.rbsPerSocket.toNat := by
    rw [logToPhyMap, (sortByBus_perm _).length_eq, length_map, h.fabricRbs, rootBridges]
    simp
  have hindex := flatMap_range_mul
    (fun k => (((logToPhyMap df)[k]?).map rb).getD (0, 0)) blk.socketNumber.toNat blk.rbsPerSocket.toNat
  unfold rootBridges dfXSilGetPhySktRbNum
  rw [map_flatMap, h.onSocket]
  simp only [map_map, Function.comp_def]
  rw [hindex, ← hlength]
  apply ext_getElem?
  intro k
  rcases lt_or_ge k (logToPhyMap df).length with hk | hk
  · simp [hk]
  · simp [hk]

theorem CountsMatch.phy_perm (h : CountsMatch blk df) :
    ((rootBridges blk).map (dfXSilGetPhySktRbNum df)).Perm (rootBridges blk) := by
  have hid : (rb ∘ rbMapEntry df) = id := by
    funext rb
    exact rbMapEntry_rb df rb
  have hperm := (sortByBus_perm ((rootBridges blk).map (rbMapEntry df))).map rb
  rw [map_map, hid, map_id] at hperm
  rw [h.map_phy, logToPhyMap, h.fabricRbs]
  exact hperm

end

def busBase (df : DfAnswers) (rb : Nat × Nat) : Nat := (rbMapEntry df rb).pciBusBase

theorem CountsMatch.phy_lowest {blk : InputBlk} {df : DfAnswers} (h : CountsMatch blk df) {rb : Nat × Nat}
    (hrb : rb ∈ rootBridges blk) (hlow : ∀ rb' ∈ rootBridges blk, rb' ≠ rb → busBase df rb < busBase df rb') :
    ∃ rest, (rootBridges blk).map (dfXSilGetPhySktRbNum df) = rb :: rest := by
  have hmem : rbMapEntry df rb ∈ (rootBridges blk).map (rbMapEntry df) := mem_map_of_mem hrb
  have hhead : (logToPhyMap df)[0]? = some (rbMapEntry df rb) := by
    unfold logToPhyMap
    rw [h.fabricRbs]
    refine sortByBus_head hmem fun y hy => ?_
    obtain ⟨rb', hrb', rfl⟩ := mem_map.mp hy
    rcases eq_or_ne rb' rb with rfl | hne
    · exact .inl rfl
    · exact .inr (hlow rb' hrb' hne)
  rw [h.map_phy]
  cases hmap : logToPhyMap df with
  | nil => simp [hmap] at hhead
  | cons e es => simp_all

end OpenSil.RcMgr
