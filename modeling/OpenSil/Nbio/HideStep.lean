import OpenSil.Nbio.HideRemoval

/-! # One core is hidden -/

namespace OpenSil.Nbio

open Chain List Option BitVec

/-- Wrappers with different IDs that follow each other in memory. -/
structure CoreArray (cores : List CoreNode) : Prop where
  contiguous : cores.IsChain fun c d => d.addr = c.addr + wrapperSize
  ids : (cores.map (·.wrapId)).Nodup

structure PcieSib.Topology (sib : PcieSib) (bs : List BridgeNode) : Prop where
  linked : sib.headers.Linked bs
  marked : sib.headers.Marked bs
  layout : Layout bs
  count : bs.length ≤ maxNumberOfComplexes
  arrays : ∀ b ∈ bs, CoreArray b.cores
  bound : ∀ b ∈ bs, ∀ c ∈ b.cores, c.addr < 2 ^ 16 ∧ ∀ e ∈ c.engines, e < 2 ^ 16
  instances : ∀ i b, bs[i]? = some b → (sib.silicon b.silicon).instanceId = BitVec.ofNat 8 i
  wrapIds : ∀ b ∈ bs, ∀ c ∈ b.cores, sib.wrapId c.addr = c.wrapId

def Ample (fuel : Nat) (bs : List BridgeNode) : Prop := Enough fuel bs ∧ ∀ b ∈ bs, b.cores.length < fuel

/-! ## The cores around it -/

section
variable {wrapId : Nat → BitVec 8} {info : HideWrapperInfo}

theorem find_before (l : List CoreNode) (hthis : info.thisPcieCore = none)
    (hl : ∀ c ∈ l, (wrapId c.addr).setWidth 32 ≠ info.pcieCoreNum) :
    (wrappersOf l).foldl (fun s w => findPcieCoreDesc wrapId w s) info =
      { info with prevPcieCore := (wrappersOf l).getLast?.or info.prevPcieCore } := by
  induction l generalizing info with
  | nil => rfl
  | cons c l ih =>
    rw [forall_mem_cons] at hl
    have hstep : findPcieCoreDesc wrapId c.addr info = { info with prevPcieCore := some c.addr } := by
      unfold findPcieCoreDesc
      rw [if_neg hl.1, if_pos hthis]
    show (wrappersOf l).foldl _ (findPcieCoreDesc wrapId c.addr info) = _
    rw [hstep]
    refine (ih ?_ ?_).trans ?_
    · exact hthis
    · exact hl.2
    · show _ = { info with prevPcieCore := (c.addr :: wrappersOf l).getLast?.or info.prevPcieCore }
      rw [getLast?_cons]
      cases (wrappersOf l).getLast? <;> rfl

theorem find_behind (l : List CoreNode) (hthis : info.thisPcieCore ≠ none)
    (hl : ∀ c ∈ l, (wrapId c.addr).setWidth 32 ≠ info.pcieCoreNum) :
    (wrappersOf l).foldl (fun s w => findPcieCoreDesc wrapId w s) info =
      { info with nextPcieCore := info.nextPcieCore.or (wrappersOf l).head? } := by
  induction l generalizing info with
  | nil => simp [wrappersOf]
  | cons c l ih =>
    rw [forall_mem_cons] at hl
    have hstep : findPcieCoreDesc wrapId c.addr info =
        { info with nextPcieCore := info.nextPcieCore.or (some c.addr) } := by
      unfold findPcieCoreDesc
      rw [if_neg hl.1, if_neg hthis]
      cases hnext : info.nextPcieCore with
      | none => rfl
      | some n =>
        rw [if_neg (by simp), some_or, ← hnext]
    show (wrappersOf l).foldl _ (findPcieCoreDesc wrapId c.addr info) = _
    rw [hstep]
    refine (ih ?_ ?_).trans ?_
    · exact hthis
    · exact hl.2
    · cases info.nextPcieCore <;> rfl

theorem find_around {pre post : List CoreNode} {c : CoreNode} {id : BitVec 8} (hc : wrapId c.addr = id)
    (hother : ∀ x ∈ pre ++ post, wrapId x.addr ≠ id) :
    (wrappersOf (pre ++ c :: post)).foldl (fun s w => findPcieCoreDesc wrapId w s)
        ⟨id.setWidth 32, none, none, none, none, none, none⟩ =
      ⟨id.setWidth 32, some c.addr, (wrappersOf pre).getLast?, (wrappersOf post).head?, none, none, none⟩ := by
  have hne : ∀ x ∈ pre ++ post, (wrapId x.addr).setWidth 32 ≠ id.setWidth 32 := by
    intro x hx heq
    apply hother x hx
    have := congrArg (setWidth 8) heq
    simpa using this
  rw [forall_mem_append] at hne
  rw [wrappersOf_append, foldl_append, find_before pre rfl hne.1, or_none]
  have hstep : ∀ prev, findPcieCoreDesc wrapId c.addr ⟨id.setWidth 32, none, prev, none, none, none, none⟩ =
      ⟨id.setWidth 32, some c.addr, prev, none, none, none, none⟩ := by
    intro prev
    unfold findPcieCoreDesc
    rw [if_pos (by rw [hc])]
  show (wrappersOf post).foldl _ (findPcieCoreDesc wrapId c.addr _) = _
  rw [hstep, find_behind post (by simp) hne.2]
  rfl

end

/-! ## The last core of the bridge before -/

section
variable {h : Headers} {cores l : List CoreNode} {x q : CoreNode}

theorem CoreArray.ascending (hcores : CoreArray cores) : cores.Pairwise fun c d => c.addr < d.addr := by
  have hchain : cores.IsChain fun c d => c.addr < d.addr := hcores.contiguous.imp fun c d heq => by
    rw [heq]
    exact Nat.lt_add_of_pos_right (by decide)
  have : IsTrans CoreNode fun c d => c.addr < d.addr := ⟨fun _ _ _ => Nat.lt_trans⟩
  exact isChain_iff_pairwise.mp hchain

theorem path_of_contiguous (hcontiguous : (l ++ [q]).IsChain fun c d => d.addr = c.addr + wrapperSize)
    (hl : ∀ c ∈ l, h.has descriptorTerminateList c.addr = false) (hq : h.has descriptorTerminateList q.addr = true) :
    Path (h.nextDescriptor wrapperSize) (wrappersOf (l ++ [q])).head? (wrappersOf (l ++ [q])) none := by
  induction l with
  | nil =>
    refine ⟨rfl, ?_⟩
    unfold Headers.nextDescriptor
    rw [hq]
    rfl
  | cons c l ih =>
    rw [forall_mem_cons] at hl
    rw [List.cons_append] at hcontiguous
    refine ⟨rfl, ?_⟩
    have hnext : h.nextDescriptor wrapperSize c.addr = (wrappersOf (l ++ [q])).head? := by
      unfold Headers.nextDescriptor
      rw [hl.1, if_neg (by decide)]
      cases l with
      | nil =>
        rw [← (isChain_cons_cons.mp hcontiguous).1]
        rfl
      | cons d l =>
        rw [← (isChain_cons_cons.mp hcontiguous).1]
        rfl
    rw [hnext]
    exact ih hcontiguous.tail hl.2

theorem CoreArray.path (hcores : CoreArray cores) (hx : x ∈ cores) (hq : q ∈ cores) (hle : x.addr ≤ q.addr)
    (hlist : h.has descriptorTerminateList q.addr = true)
    (hnot : ∀ c ∈ cores, c.addr < q.addr → h.has descriptorTerminateList c.addr = false) :
    ∃ l : List CoreNode, l.length < cores.length ∧
      Path (h.nextDescriptor wrapperSize) (some x.addr) (wrappersOf (l ++ [q])) none := by
  have hascending := hcores.ascending
  have hcontiguous := hcores.contiguous
  obtain ⟨l₁, r, rfl⟩ := append_of_mem hx
  have hmem : q ∈ x :: r := by
    rcases mem_append.mp hq with hq | hq
    · exact absurd ((pairwise_append.mp hascending).2.2 q hq x mem_cons_self) (Nat.not_lt.mpr hle)
    · exact hq
  obtain ⟨l, l₂, hsplit⟩ := append_of_mem hmem
  rw [hsplit] at hascending hcontiguous hnot
  have hstart : (wrappersOf (l ++ [q])).head? = some x.addr := by
    cases l with
    | nil => rw [(cons.inj hsplit).1]; rfl
    | cons c l => rw [(cons.inj hsplit).1]; rfl
  refine ⟨l, ?_, ?_⟩
  · rw [hsplit]
    simp only [length_append, length_cons]
    omega
  · rw [← hstart]
    apply path_of_contiguous
    · rw [append_cons] at hcontiguous
      exact (hcontiguous.right_of_append).left_of_append
    · grind
    · exact hlist

end

theorem walk_to_last {fuel a : Nat} {next : Nat → Option Nat} {p : Option Nat} {l : List Nat}
    (hpath : Path next p (l ++ [a]) none)
    (hfuel : (l ++ [a]).length < fuel) (info : HideWrapperInfo) :
    runWhile next (fun _ => some true) (fun info core => { info with prevPcieCore := some core }) fuel p info =
      some { info with prevPcieCore := some a } := by
  refine (runWhile_of_path hpath (fun _ _ => rfl) (by simp) hfuel info).trans (congrArg some ?_)
  refine foldl_overwrite ?_ l a info
  exact fun _ _ _ => rfl

theorem Headers.Placed.getParent_of_wrapper {fuel : Nat} {h : Headers} {b : BridgeNode} {c : CoreNode} (hb : h.Placed b)
    (hplatform : h.kind 0 = descriptorPlatform) (hc : c ∈ b.cores) (hfuel : 5 ≤ fuel) :
    pcieConfigGetParent fuel h descriptorSilicon c.addr = some (some b.silicon) ∧
      pcieConfigGetParent fuel h descriptorPlatform c.addr = some (some 0) := by
  have hcore := hb.core c hc
  refine ⟨hcore.getParent_silicon hb.siliconKind hfuel, ?_⟩
  exact seek_of_kinds [c.addr, b.silicon, b.complex]
    ⟨rfl, hcore.parent.parentOf_eq, hb.siliconParent.parentOf_eq, hb.complexParent.parentOf_eq⟩
    (.cons hcore.kind (.cons hb.siliconKind (.cons hb.complexKind .nil))) hplatform hfuel

theorem Headers.Linked.getChild_silicon {fuel : Nat} {h : Headers} {bs : List BridgeNode} {b : BridgeNode} (t : h.Linked bs)
    (hb : bs.head? = some b) (hfuel : 5 ≤ fuel) : pcieConfigGetChild fuel h descriptorSilicon 0 = some (some b.silicon) := by
  have hplaced := t.placed b (mem_of_mem_head? hb)
  exact seek_of_kinds [0, b.complex] ⟨rfl, (t.platformChild b hb).childOf_eq, hplaced.complexChild.childOf_eq⟩
    (.cons t.platformKind (.cons hplaced.complexKind .nil)) hplaced.siliconKind hfuel

section
variable {fuel : Nat} {sib : PcieSib} {front back : List BridgeNode} {p b : BridgeNode} {c q : CoreNode}

theorem PcieSib.Topology.instance_eq (ht : sib.Topology (front ++ b :: back)) :
    (sib.silicon b.silicon).instanceId = BitVec.ofNat 8 front.length ∧ front.length < maxNumberOfComplexes := by
  refine ⟨ht.instances front.length b (by simp), ?_⟩
  have := ht.count
  simp only [length_append, length_cons] at this
  omega

theorem PcieSib.Topology.instanceId_ne_zero (ht : sib.Topology (front ++ b :: back)) (hfront : front ≠ []) :
    (sib.silicon b.silicon).instanceId ≠ 0 := by
  obtain ⟨hid, hcount⟩ := ht.instance_eq
  have hpos := length_pos_iff.mpr hfront
  rw [hid]
  intro hzero
  have hlength := congrArg BitVec.toNat hzero
  simp only [toNat_ofNat, ofNat_eq_ofNat] at hlength
  unfold maxNumberOfComplexes at hcount
  omega

theorem PcieSib.Topology.findSilicon_eq (ht : sib.Topology (front ++ p :: back)) (hfuel : Enough fuel (front ++ p :: back)) :
    findSilicon fuel sib (BitVec.ofNat 8 front.length) ((front ++ p :: back).map (·.silicon)).head? = some (some p.silicon) := by
  have hlisted := ht.linked.silicons
  unfold Headers.Listed at hlisted
  nth_rewrite 2 [map_append] at hlisted
  rw [map_cons] at hlisted
  obtain ⟨r, hfront, hr, -⟩ := path_append_iff.mp hlisted
  rw [hr] at hfront
  have hstart : ∃ s, ((front ++ p :: back).map (·.silicon)).head? = some s := by cases front <;> exact ⟨_, rfl⟩
  obtain ⟨s, hs⟩ := hstart
  rw [hs] at hfront ⊢
  refine seek_of_path hfront ?_ ?_ ?_
  · intro a ha
    obtain ⟨x, hx, rfl⟩ := mem_map.mp ha
    obtain ⟨i, hi⟩ := getElem?_of_mem hx
    have hlt : i < front.length := (List.getElem?_eq_some_iff.mp hi).1
    rw [ht.instances i x (by rw [getElem?_append_left hlt, hi]), decide_eq_false_iff_not]
    intro heq
    have hcount := ht.instance_eq.2
    have := congrArg BitVec.toNat heq
    rw [toNat_ofNat, toNat_ofNat] at this
    unfold maxNumberOfComplexes at hcount
    omega
  · rw [ht.instance_eq.1]
    exact decide_eq_true rfl
  · have := hfuel.2.1
    rw [length_append] at this
    rw [length_map]
    omega

theorem PcieSib.Topology.findPrevPcieCore_eq (ht : sib.Topology (front ++ p :: b :: back))
    (hfuel : Ample fuel (front ++ p :: b :: back)) (hc : c ∈ b.cores) (hq : q ∈ p.live.getLast?) (info : HideWrapperInfo) :
    findPrevPcieCore fuel sib info (some c.addr) = .ok { info with prevPcieCore := some q.addr } := by
  have hpmem : p ∈ front ++ p :: b :: back := by simp
  obtain ⟨hsilicon, hplatform⟩ := (ht.linked.placed b (by simp)).getParent_of_wrapper ht.linked.platformKind hc hfuel.1.1
  obtain ⟨first, hfirst⟩ : ∃ first, (front ++ p :: b :: back).head? = some first := by cases front <;> exact ⟨_, rfl⟩
  have hchild := ht.linked.getChild_silicon hfirst hfuel.1.1
  have hfind := ht.findSilicon_eq hfuel.1
  rw [head?_map, hfirst, map_some] at hfind
  -- the instance id of the bridge
  have ht' : sib.Topology (front ++ [p] ++ b :: back) := by simpa using ht
  obtain ⟨hid, hcount⟩ := ht'.instance_eq
  rw [length_append, length_singleton] at hid hcount
  unfold maxNumberOfComplexes at hcount
  have hne := ht'.instanceId_ne_zero (by simp)
  have hsub : (sib.silicon b.silicon).instanceId - 1 = BitVec.ofNat 8 front.length := by
    rw [hid]
    apply eq_of_toNat_eq
    rw [toNat_sub_of_le (by rw [le_def]; simp only [toNat_ofNat, ofNat_eq_ofNat]; omega)]
    simp only [toNat_ofNat, ofNat_eq_ofNat]
    omega
  -- the array of the bridge before
  obtain ⟨x, xs, hx⟩ := exists_cons_of_ne_nil (by rintro hnil; rw [hnil] at hq; simp at hq : p.live ≠ [])
  have hcores := (ht.layout.live p hpmem).subset
  have hqmem := mem_of_getLast? hq
  have hwrapper := ht.linked.getChild_of_silicon ht.layout rfl (c := x) (by rw [liveOf_cons, hx]; rfl) hfuel.1.1
  have hle : x.addr ≤ q.addr := by
    have hascending : (wrappersOf p.live).Pairwise (· < ·) := ht.layout.wrappers.sublist ((live_sublist hpmem).map _)
    rw [hx] at hascending hqmem
    rcases mem_cons.mp hqmem with rfl | hmem
    · exact le_refl _
    · exact ((pairwise_cons.mp hascending).1 _ (mem_map_of_mem hmem)).le
  obtain ⟨hlist, hnot⟩ := ht.marked.lists p hpmem q hq
  obtain ⟨l, hlength, hpath⟩ := (ht.arrays p hpmem).path (hcores (by simp [hx])) (hcores hqmem) hle hlist hnot
  rw [wrappersOf_append] at hpath
  have hlast : (wrappersOf l ++ [q.addr]).length < fuel := by
    have := hfuel.2 p hpmem
    simp only [wrappersOf, length_append, length_map, length_singleton]
    omega
  unfold findPrevPcieCore
  simp only [Stop.deref_some, Stop.ok_bind, hplatform, hsilicon, Stop.ofFuel_some, if_neg hne, hchild, hsub, hfind, hwrapper]
  rw [walk_to_last hpath hlast info, Stop.ofFuel_some]

/-! ## All that hiding needs -/

variable {pre post before : List CoreNode} {el cel : List Nat} {lastE lastC : Nat}

theorem PcieSib.Topology.findNextIfLast_eq (ht : sib.Topology (front ++ b :: back)) (hlive : b.live = pre ++ c :: post)
    (num : BitVec 32) (prev : Option Nat) :
    findNextIfLast sib.headers ⟨num, some c.addr, prev, (wrappersOf post).head?, none, none, none⟩ =
      ⟨num, some c.addr, prev, (wrappersOf (post ++ liveOf back)).head?, none, none, none⟩ := by
  cases post with
  | cons x post => rfl
  | nil =>
    have hlisted := ht.linked.wrappers
    rw [liveOf_split, hlive, List.append_assoc, ← List.append_assoc, List.singleton_append, wrappersOf_append] at hlisted
    obtain ⟨r, -, hrest⟩ := path_append_iff.mp hlisted
    have hnext : sib.headers.nextTopologyDescriptor c.addr = (wrappersOf (liveOf back)).head? := by
      rw [Path.start_eq hrest.2, or_none]
      rfl
    unfold findNextIfLast
    simp [wrappersOf] at hnext ⊢
    exact hnext

theorem PcieSib.Topology.findFirstPciePort_eq {bs : List BridgeNode} (ht : sib.Topology bs) (hfuel : Enough fuel bs)
    (after : List CoreNode) (hafter : ∀ x ∈ after, x ∈ liveOf bs) :
    findFirstPciePort fuel sib.headers (wrappersOf after).head? = .ok (enginesOf after).head? := by
  cases after with
  | nil => rfl
  | cons x after =>
    obtain ⟨_, -, -, hcore⟩ := ht.linked.placedCore ht.layout (hafter x mem_cons_self)
    obtain ⟨e, es, hengines, -⟩ := hcore.child
    show Stop.ofFuel (pcieConfigGetChild fuel sib.headers descriptorAllEngines x.addr) = _
    rw [hcore.getChild_engine hfuel.1, hengines]
    simp [enginesOf, hengines]

def lastBefore (front : List BridgeNode) (pre : List CoreNode) : Option CoreNode :=
  pre.getLast?.or (front.getLast?.bind (·.live.getLast?))

theorem lastBefore_split (hq : q ∈ lastBefore front pre) : ∃ before, liveOf front ++ pre = before ++ [q] := by
  unfold lastBefore at hq
  rcases eq_nil_or_concat pre with rfl | ⟨pre, x, rfl⟩
  · rw [getLast?_nil, none_or] at hq
    obtain ⟨p, hp, hlast⟩ := bind_eq_some_iff.mp hq
    obtain ⟨front, rfl⟩ := getLast?_eq_some_iff.mp hp
    obtain ⟨live, hlive⟩ := getLast?_eq_some_iff.mp hlast
    refine ⟨liveOf front ++ live, ?_⟩
    rw [liveOf_append, List.append_nil, List.append_assoc, ← hlive]
    simp [liveOf]
  · grind

section
variable (ht : sib.Topology (front ++ b :: back)) (hfuel : Ample fuel (front ++ b :: back))
include ht hfuel

theorem PcieSib.Topology.findPrevIfFirst_eq (hc : c ∈ b.cores) (hq : q ∈ lastBefore front pre) (num : BitVec 32)
    (next : Option Nat) :
    findPrevIfFirst fuel sib b.silicon ⟨num, some c.addr, (wrappersOf pre).getLast?, next, none, none, none⟩ =
      .ok ⟨num, some c.addr, some q.addr, next, none, none, none⟩ := by
  unfold lastBefore at hq
  unfold findPrevIfFirst
  rcases eq_nil_or_concat pre with rfl | ⟨pre, x, rfl⟩
  · -- the core before is one of another bridge
    rw [getLast?_nil, none_or] at hq
    obtain ⟨p, hp, hlast⟩ := bind_eq_some_iff.mp hq
    obtain ⟨front, rfl⟩ := getLast?_eq_some_iff.mp hp
    rw [if_pos ⟨rfl, ht.instanceId_ne_zero (by simp)⟩]
    rw [List.append_assoc, List.singleton_append] at ht hfuel
    exact ht.findPrevPcieCore_eq hfuel hc hlast _
  · rw [concat_eq_append] at hq ⊢
    obtain rfl : x = q := by simpa using hq
    rw [if_neg (by simp [wrappersOf])]
    simp [wrappersOf]

theorem PcieSib.Topology.findHideInfo_eq (hlive : b.live = pre ++ c :: post) (hq : q ∈ lastBefore front pre)
    (hlastE : q.engines = el ++ [lastE]) (hlastC : c.engines = cel ++ [lastC]) :
    findHideInfo fuel sib b.silicon (c.wrapId.setWidth 32) = .ok
      (⟨c.wrapId.setWidth 32, some c.addr, some q.addr, (wrappersOf (post ++ liveOf back)).head?,
        (enginesOf (post ++ liveOf back)).head?, some lastC, some lastE⟩, pre.isEmpty, post.isEmpty) := by
  have hb : b ∈ front ++ b :: back := by simp
  have hsub := (ht.layout.live b hb)
  have hc : c ∈ b.cores := hsub.subset (by simp [hlive])
  have hids : (b.live.map (·.wrapId)).Nodup := (ht.arrays b hb).ids.sublist (hsub.map _)
  rw [hlive, map_append, map_cons, nodup_middle, nodup_cons] at hids
  have hother : ∀ x ∈ pre ++ post, sib.wrapId x.addr ≠ c.wrapId := by
    intro x hx heq
    have hmem : x ∈ b.live := by
      rw [hlive]
      simp only [mem_append, mem_cons] at hx ⊢
      tauto
    rw [ht.wrapIds b hb x (hsub.subset hmem)] at heq
    apply hids.1
    rw [← heq, ← map_append]
    exact mem_map_of_mem hx
  have hnbio := ht.linked.runProcForAllWrappersInNbio ht.layout hfuel.1 rfl (by simp [liveOf_cons, hlive])
    (findPcieCoreDesc sib.wrapId) ⟨c.wrapId.setWidth 32, none, none, none, none, none, none⟩
  rw [hlive, find_around (ht.wrapIds b hb c hc) hother] at hnbio
  obtain ⟨before, hbefore⟩ := lastBefore_split hq
  have hall := liveOf_before back hlive hbefore
  have hport := ht.findFirstPciePort_eq hfuel.1 (post ++ liveOf back) fun x hx => by
    rw [hall]
    exact mem_append_right _ hx
  -- the last engines of both cores
  have hprevPort : ∀ info, pcieConfigRunProcForAllEnginesInWrapper fuel sib.headers descriptorPcieEngine
      findLastPciePortOnPrevPcieCore info q.addr = some { info with lastPciePortOnPrev := some lastE } := by
    intro info
    rw [ht.linked.runProcForAllEnginesInWrapper ht.layout hfuel.1 (by decide) (by decide) (by rw [hall]; simp), hlastE]
    refine congrArg some (foldl_overwrite ?_ el lastE info)
    exact fun _ _ _ => rfl
  have hthisPort : ∀ info, pcieConfigRunProcForAllEnginesInWrapper fuel sib.headers descriptorPcieEngine
      findLastPciePortOfThisPcieCore info c.addr = some { info with lastPciePortOnThis := some lastC } := by
    intro info
    rw [ht.linked.runProcForAllEnginesInWrapper ht.layout hfuel.1 (by decide) (by decide) (by rw [hall]; simp), hlastC]
    refine congrArg some (foldl_overwrite ?_ cel lastC info)
    exact fun _ _ _ => rfl
  have hfirst : (wrappersOf pre).getLast?.isNone = pre.isEmpty := by cases pre <;> simp [wrappersOf]
  have hlast : (wrappersOf post).head?.isNone = post.isEmpty := by cases post <;> rfl
  unfold findHideInfo
  simp only [hnbio, Stop.ofFuel_some, Stop.ok_bind, ht.findPrevIfFirst_eq hfuel hc hq, ht.findNextIfLast_eq hlive, hport,
    Stop.deref_some, hprevPort, hthisPort, hfirst, hlast, isSome_some, Bool.and_true]

end

end

end OpenSil.Nbio
