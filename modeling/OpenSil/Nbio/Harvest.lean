import OpenSil.Nbio.HideTopology

/-! # Harvesting keeps the topology -/

namespace OpenSil.Nbio

open Chain List Nat BridgeNode

def fullOf (bs : List BridgeNode) : List BridgeNode := bs.map fun b => b.withLive b.cores

def BridgeNode.harvest (harvested : CoreNode → Bool) (b : BridgeNode) : BridgeNode :=
  b.withLive (b.cores.filter fun c => !harvested c)

/-- No bridge loses its first core while the bridge before it has none left, the first bridge keeps its first core, and the
last bridge keeps a core. -/
structure Harvestable (harvested : CoreNode → Bool) (bs : List BridgeNode) : Prop where
  first : ∀ b ∈ bs.head?, ∀ c ∈ b.cores.head?, harvested c = false
  next : bs.IsChain fun p b => (∃ c ∈ p.cores, harvested c = false) ∨ ∀ c ∈ b.cores.head?, harvested c = false
  last : ∀ b ∈ bs.getLast?, ∃ c ∈ b.cores, harvested c = false

variable {bs : List BridgeNode}

theorem liveOf_sublist_full (hbs : Layout bs) : (liveOf bs).Sublist (liveOf (fullOf bs)) := by
  have hall : liveOf (fullOf bs) = bs.flatMap (·.cores) := by
    unfold liveOf fullOf
    rw [flatMap_map]
    rfl
  rw [hall]
  exact Sublist.flatMap_right bs hbs.live

variable {fuel : Nat}

theorem ample_of_full (hbs : Layout bs) (hfuel : Enough fuel (fullOf bs)) : Ample fuel bs := by
  have hsub := liveOf_sublist_full hbs
  obtain ⟨hfive, hcount, hwrappers, hengines⟩ := hfuel
  refine ⟨⟨hfive, ?_, ?_, ?_⟩, fun b hb => ?_⟩
  · simpa [fullOf] using hcount
  · exact (hsub.map _).length_le.trans_lt hwrappers
  · exact (hsub.flatMap _).length_le.trans_lt hengines
  · have hlive := live_sublist (mem_map_of_mem (f := fun b => b.withLive b.cores) hb)
    have hle := (hlive.map CoreNode.addr).length_le
    rw [length_map] at hle
    exact lt_of_le_of_lt hle hwrappers

theorem fullOf_withLive (front back : List BridgeNode) (b : BridgeNode) (live : List CoreNode) :
    fullOf (front ++ b.withLive live :: back) = fullOf (front ++ b :: back) := by
  simp [fullOf, withLive]

/-! ## The cores of a bridge -/

variable {env : FuseAccess} {turns : Nat} {sib : PcieSib} {hv : CoreNode → Bool}

section
variable {front back : List BridgeNode} {b : BridgeNode} {vs todo pre : List CoreNode} {c q : CoreNode}

theorem exists_lastBefore (hprev : (∃ p ∈ front.getLast?, p.live ≠ []) ∨ pre ≠ []) : ∃ q, q ∈ lastBefore front pre := by
  unfold lastBefore
  by_cases hpre : pre = []
  · obtain ⟨p, hp, hlive⟩ := hprev.resolve_right (not_not.mpr hpre)
    rw [hpre, getLast?_nil, Option.none_or]
    exact ⟨_, Option.bind_eq_some_iff.mpr ⟨p, hp, getLast?_eq_some_getLast hlive⟩⟩
  · refine ⟨pre.getLast hpre, ?_⟩
    rw [getLast?_eq_some_getLast hpre]
    rfl

theorem CoreArray.next_eq {h : Headers} (hcores : CoreArray (vs ++ c :: todo))
    (hlist : LastOnly (h.has descriptorTerminateList) (wrappersOf (c :: todo))) :
    h.nextDescriptor wrapperSize c.addr = (wrappersOf todo).head? := by
  unfold Headers.nextDescriptor
  cases todo with
  | nil => exact if_pos hlist
  | cons d todo =>
    have hcontiguous := (isChain_cons_cons.mp hcores.contiguous.right_of_append).1
    refine (if_neg (by rw [hlist.1]; decide)).trans ?_
    rw [← hcontiguous]
    rfl

theorem harvestCores_eq (hcores : b.cores = vs ++ todo)
    (ht : sib.Topology (front ++ b.withLive (vs.filter (fun c => !hv c) ++ todo) :: back))
    (hlist : LastOnly (sib.headers.has descriptorTerminateList) (wrappersOf todo))
    (hfuse : ∀ c ∈ todo, harvestedByFuse env (sib.silicon b.silicon) c.wrapId = .ok (hv c))
    (hfirst : (∃ p ∈ front.getLast?, p.live ≠ []) ∨ ∀ c ∈ b.cores.head?, hv c = false)
    (hlast : liveOf back ≠ [] ∨ ∃ c ∈ b.cores, hv c = false)
    (hfuel : Enough fuel (fullOf (front ++ b :: back))) (hturns : todo.length ≤ turns) :
    ∃ h', harvestCores env fuel b.silicon turns (wrappersOf todo).head? sib = .ok { sib with headers := h' } ∧
      PcieSib.Topology { sib with headers := h' } (front ++ b.harvest hv :: back) := by
  induction todo generalizing vs sib turns with
  | nil =>
    refine ⟨sib.headers, by cases turns <;> rfl, ?_⟩
    unfold harvest
    rw [hcores]
    simpa using ht
  | cons c todo ih =>
    obtain ⟨turns, rfl⟩ := exists_eq_succ_of_ne_zero (ne_zero_of_lt hturns)
    rw [forall_mem_cons] at hfuse
    have hcores' : b.cores = vs ++ [c] ++ todo := by rw [hcores]; simp
    have hmem : b.withLive (vs.filter (fun c => !hv c) ++ c :: todo) ∈
        front ++ b.withLive (vs.filter (fun c => !hv c) ++ c :: todo) :: back := by simp
    have hid : sib.wrapId c.addr = c.wrapId := ht.wrapIds _ hmem c (by rw [withLive, hcores]; simp)
    have harray := ht.arrays _ hmem
    rw [withLive, hcores] at harray
    have htail : LastOnly (sib.headers.has descriptorTerminateList) (wrappersOf todo) := by
      cases todo with
      | nil => trivial
      | cons d todo => exact hlist.2
    have hlength : todo.length ≤ turns := le_of_succ_le_succ hturns
    cases hharvest : hv c with
    | false =>
      have hfilter : (vs ++ [c]).filter (fun c => !hv c) ++ todo =
          vs.filter (fun c => !hv c) ++ c :: todo := by
        simp [filter_append, hharvest]
      obtain ⟨h', hrun, htop⟩ := ih hcores' (hfilter ▸ ht) htail hfuse.2 hlength
      refine ⟨h', ?_, htop⟩
      show harvestCores env fuel b.silicon (turns + 1) (some c.addr) sib = _
      unfold harvestCores
      rw [hid, hfuse.1, hharvest]
      simp only [Stop.ok_bind, Bool.false_eq_true, if_false, harray.next_eq hlist]
      exact hrun
    | true =>
      have hprev : (∃ p ∈ front.getLast?, p.live ≠ []) ∨ vs.filter (fun c => !hv c) ≠ [] := by grind
      obtain ⟨q, hq⟩ := exists_lastBefore hprev
      have hafter : vs.filter (fun c => !hv c) = [] → todo ++ liveOf back ≠ [] := by
        intro hnil happend
        obtain ⟨rfl, hback⟩ := append_eq_nil_iff.mp happend
        obtain ⟨d, hd, hkept⟩ := hlast.resolve_left (not_not.mpr hback)
        rw [hcores] at hd
        rcases mem_append.mp hd with hd | hd
        · exact ne_nil_of_mem (mem_filter.mpr ⟨hd, by simp [hkept]⟩) hnil
        · rw [mem_singleton.mp hd, hharvest] at hkept
          exact absurd hkept (by decide)
      have hample := ample_of_full ht.layout (by rwa [fullOf_withLive] : Enough fuel _)
      obtain ⟨h₁, hhide, htop₁, hframe⟩ := ht.hide hample rfl hq hafter
      -- the flags of this core and of those behind it are as before
      have hbehind : ∀ d ∈ c :: todo, d.addr ≠ q.addr := by
        intro d hd
        obtain ⟨before, hbefore⟩ := lastBefore_split hq
        refine (ht.layout.addr_lt ((liveOf_before back rfl hbefore).trans (append_assoc ..)) (by simp) ?_).ne'
        rw [← append_assoc]
        exact mem_append_left _ hd
      have hflags : ∀ a ∈ wrappersOf (c :: todo),
          h₁.has descriptorTerminateList a = sib.headers.has descriptorTerminateList a := by
        intro a ha
        obtain ⟨d, hd, rfl⟩ := mem_map.mp ha
        have hcore := (ht.linked.placed _ hmem).core d ((ht.layout.live _ hmem).subset (mem_append_right _ hd))
        exact hframe d.addr hcore.kind (hbehind d hd) _
      have hlist₁ : LastOnly (h₁.has descriptorTerminateList) (wrappersOf (c :: todo)) := hlist.congr hflags
      have htail₁ : LastOnly (h₁.has descriptorTerminateList) (wrappersOf todo) :=
        htail.congr fun a ha => hflags a (mem_cons_of_mem _ ha)
      have hfilter : (vs ++ [c]).filter (fun c => !hv c) = vs.filter (fun c => !hv c) := by
        simp [filter_append, hharvest]
      have htop₂ : PcieSib.Topology { sib with headers := h₁ }
          (front ++ b.withLive ((vs ++ [c]).filter (fun c => !hv c) ++ todo) :: back) := by
        rw [hfilter]
        exact htop₁
      obtain ⟨h', hrun, htop⟩ := ih hcores' htop₂ htail₁ hfuse.2 hlength
      refine ⟨h', ?_, htop⟩
      show harvestCores env fuel b.silicon (turns + 1) (some c.addr) sib = _
      have hhide' : pcieComplexHidePcieCore fuel sib b.silicon (c.wrapId.setWidth 32) = .ok { sib with headers := h₁ } := hhide
      unfold harvestCores
      rw [hid, hfuse.1, hharvest]
      simp only [Stop.ok_bind, if_true, hhide', harray.next_eq hlist₁]
      exact hrun

/-! ## The bridges -/

theorem BridgeNode.withLive_of_full (hfull : b.live = b.cores) : b.withLive b.cores = b := by
  rw [← hfull]
  rfl

theorem harvestSilicons_eq (ht : sib.Topology (front ++ b :: back)) (hfull : b.live = b.cores ∧ b.live ≠ [])
    (hfuse : ∀ c ∈ b.cores, harvestedByFuse env (sib.silicon b.silicon) c.wrapId = .ok (hv c))
    (hfirst : (∃ p ∈ front.getLast?, p.live ≠ []) ∨ ∀ c ∈ b.cores.head?, hv c = false)
    (hlast : liveOf back ≠ [] ∨ ∃ c ∈ b.cores, hv c = false)
    (hfuel : Enough fuel (fullOf (front ++ b :: back))) (hturns : 0 < turns) :
    ∃ h', harvestSilicons env fuel turns (some b.silicon) sib = .ok { sib with headers := h' } ∧
      PcieSib.Topology { sib with headers := h' } (front ++ b.harvest hv :: back) := by
  have hb : b ∈ front ++ b :: back := by simp
  have hample := ample_of_full ht.layout hfuel
  obtain ⟨c, cs, hcs⟩ := exists_cons_of_ne_nil hfull.2
  have hchild := ht.linked.getChild_of_silicon ht.layout rfl (c := c) (by rw [liveOf_cons, hcs]; rfl) hample.1.1
  have hstart : (wrappersOf b.cores).head? = some c.addr := by rw [← hfull.1, hcs]; rfl
  have hlist : LastOnly (sib.headers.has descriptorTerminateList) (wrappersOf b.cores) := by
    rcases eq_nil_or_concat b.cores with hnil | ⟨l, last, hconcat⟩
    · rw [hnil]
      trivial
    · rw [concat_eq_append] at hconcat
      obtain ⟨hset, hnot⟩ := ht.marked.lists b hb last (by simp [hfull.1, hconcat])
      have hascending := (ht.arrays b hb).ascending
      rw [hconcat, pairwise_append] at hascending
      rw [hconcat, wrappersOf_append, wrappersOf_singleton, lastOnly_append_singleton_iff]
      refine ⟨fun a ha => ?_, hset⟩
      obtain ⟨d, hd, rfl⟩ := mem_map.mp ha
      exact hnot d (by simp [hconcat, hd]) (hascending.2.2 d hd last mem_cons_self)
  have htop : sib.Topology (front ++ b.withLive ((([] : List CoreNode).filter fun c => !hv c) ++ b.cores) :: back) := by
    rw [filter_nil, nil_append, withLive_of_full hfull.1]
    exact ht
  obtain ⟨h', hrun, htop'⟩ := harvestCores_eq rfl htop hlist hfuse hfirst hlast hfuel (hample.2 b hb).le
  rw [hstart] at hrun
  refine ⟨h', ?_, htop'⟩
  obtain ⟨turns, rfl⟩ := exists_eq_succ_of_ne_zero hturns.ne'
  have hend : h'.nextDescriptor siliconSize b.silicon = none :=
    if_pos (htop'.marked.silicons (b.harvest hv) (by simp)).2
  unfold harvestSilicons
  simp only [hchild, Stop.ofFuel_some, Stop.ok_bind, hrun, hend]
  cases turns <;> rfl

end

variable {todo : List BridgeNode}

theorem harvestComplexes_eq (vs : List BridgeNode) (ht : sib.Topology (vs.map (·.harvest hv) ++ todo))
    (hfull : ∀ b ∈ todo, b.live = b.cores ∧ b.live ≠ [])
    (hcomplexes : todo.IsChain fun b d => d.complex = b.complex + complexSize)
    (hfuse : ∀ b ∈ todo, ∀ c ∈ b.cores, harvestedByFuse env (sib.silicon b.silicon) c.wrapId = .ok (hv c))
    (hharvest : Harvestable hv (vs ++ todo)) (hfuel : Enough fuel (fullOf (vs ++ todo)))
    (hturns : todo.length ≤ turns) :
    ∃ h', harvestComplexes env fuel turns (todo.map (·.complex)).head? sib = .ok { sib with headers := h' } ∧
      PcieSib.Topology { sib with headers := h' } ((vs ++ todo).map (·.harvest hv)) := by
  induction todo generalizing vs sib turns with
  | nil =>
    refine ⟨sib.headers, by cases turns <;> rfl, ?_⟩
    simpa using ht
  | cons b todo ih =>
    obtain ⟨turns, rfl⟩ := exists_eq_succ_of_ne_zero (ne_zero_of_lt hturns)
    rw [forall_mem_cons] at hfull hfuse
    have hfuel' : Enough fuel (fullOf (vs.map (·.harvest hv) ++ b :: todo)) := by
      have : fullOf (vs.map (·.harvest hv)) = fullOf vs := by simp [fullOf, harvest, withLive]
      unfold fullOf at this hfuel ⊢
      rwa [map_append, this, ← map_append]
    have hkept : ∀ p : BridgeNode, (∃ c ∈ p.cores, hv c = false) → (p.harvest hv).live ≠ [] := by
      rintro p ⟨c, hc, hnot⟩
      exact ne_nil_of_mem (mem_filter.mpr ⟨hc, by simp [hnot]⟩)
    have hfirst : (∃ p ∈ (vs.map (·.harvest hv)).getLast?, p.live ≠ []) ∨
        ∀ c ∈ b.cores.head?, hv c = false := by
      rcases eq_nil_or_concat vs with rfl | ⟨l, p, rfl⟩
      · exact Or.inr (hharvest.first b rfl)
      · rw [concat_eq_append] at *
        have hnext := hharvest.next
        rw [append_assoc, singleton_append, isChain_append_cons_cons] at hnext
        exact hnext.2.1.imp_left fun hp => ⟨p.harvest hv, by simp, hkept p hp⟩
    have hlast : liveOf todo ≠ [] ∨ ∃ c ∈ b.cores, hv c = false := by
      cases todo with
      | nil => exact Or.inr (hharvest.last b (by simp))
      | cons d todo =>
        left
        rw [liveOf_cons]
        exact append_ne_nil_of_left_ne_nil (hfull.2 d mem_cons_self).2 _
    obtain ⟨h₁, hrun₁, htop₁⟩ := harvestSilicons_eq ht hfull.1 hfuse.1 hfirst hlast hfuel'
      (lt_of_lt_of_le (by decide) hfuel.1 : 0 < fuel)
    have htop₂ : PcieSib.Topology { sib with headers := h₁ } ((vs ++ [b]).map (·.harvest hv) ++ todo) := by
      rw [map_append, append_assoc]
      exact htop₁
    have hsplit : vs ++ [b] ++ todo = vs ++ b :: todo := by simp
    obtain ⟨h', hrun, htop⟩ := ih (vs ++ [b]) htop₂ hfull.2 hcomplexes.tail hfuse.2 (hsplit ▸ hharvest) (hsplit ▸ hfuel)
      (le_of_succ_le_succ hturns)
    -- down to the silicon descriptor, and on to the next complex
    have hb : b ∈ vs.map (·.harvest hv) ++ b :: todo := by simp
    obtain ⟨c, cs, hcs⟩ := exists_cons_of_ne_nil hfull.1.2
    have hchild := ht.linked.siliconChild _ b todo c rfl (by rw [liveOf_cons, hcs]; rfl)
    have hsilicon := ((ht.linked.placed b hb).getChild_of_complex ((ht.layout.live b hb).subset (hcs ▸ mem_cons_self)) hchild
      hfuel.1).1
    have hnext : (if h₁.has descriptorTerminateTopology b.complex then none else some (b.complex + complexSize)) =
        (todo.map (·.complex)).head? := by
      have hmarks := htop₁.marked.complexes
      rw [map_append] at hmarks
      cases todo with
      | nil => exact if_pos (lastOnly_append_singleton_iff.mp hmarks).2
      | cons d todo =>
        have hnot : h₁.has descriptorTerminateTopology b.complex = false := (lastOnly_append_iff.mp hmarks).2.1
        refine (if_neg (by rw [hnot]; decide)).trans ?_
        rw [← (isChain_cons_cons.mp hcomplexes).1]
        rfl
    refine ⟨h', ?_, by rwa [hsplit] at htop⟩
    show harvestComplexes env fuel (turns + 1) (some b.complex) sib = _
    unfold harvestComplexes
    simp only [hsilicon, Stop.ofFuel_some, Stop.ok_bind, hrun₁, hnext]
    exact hrun

/-! ## All bridges -/

theorem PcieSib.Complete.topology (hs : sib.Complete bs) (hcount : bs.length ≤ maxNumberOfComplexes)
    (harrays : ∀ b ∈ bs, CoreArray b.cores)
    (hbound : ∀ b ∈ bs, ∀ c ∈ b.cores, c.addr < 2 ^ 16 ∧ ∀ e ∈ c.engines, e < 2 ^ 16) : sib.Topology bs :=
  ⟨hs.linked, hs.marked, hs.layout, hcount, harrays, hbound, hs.instances, hs.wrapIds⟩

theorem PcieSib.Complete.complexes_chain (hs : sib.Complete bs) :
    bs.IsChain fun b d => d.complex = b.complex + complexSize := by
  rw [isChain_iff_getElem]
  intro i hi
  have hfirst := hs.complexes i bs[i] (getElem?_eq_getElem (by omega))
  have hsecond := hs.complexes (i + 1) bs[i + 1] (getElem?_eq_getElem hi)
  rw [hfirst, hsecond]
  unfold complexAddr complexSize
  omega

theorem CoreArray.shift {cores : List CoreNode} (h : CoreArray cores) (base : Nat) : CoreArray (cores.map (·.shift base)) where
  contiguous := by
    rw [isChain_map]
    refine h.contiguous.imp fun c d heq => ?_
    rw [CoreNode.shift_addr, CoreNode.shift_addr, heq, add_assoc]
  ids := by
    rw [map_map]
    exact h.ids

variable {bridges : List TreeBridge}

theorem placeBridges_cores (harrays : ∀ b ∈ bridges, CoreArray b.tree.cores) (index base : Nat) :
    ∀ b ∈ placeBridges bridges index base, CoreArray b.cores ∧
      ∀ c ∈ b.cores, c.addr < base + templateBytes bridges ∧ ∀ e ∈ c.engines, e < base + templateBytes bridges := by
  induction bridges generalizing index base with
  | nil => simp [placeBridges]
  | cons b bridges ih =>
    rw [forall_mem_cons] at harrays
    have hbytes : templateBytes (b :: bridges) = b.bridge.template.size + templateBytes bridges := by
      unfold templateBytes
      rw [map_cons, sum_cons]
    rw [placeBridges, forall_mem_cons, hbytes, ← add_assoc]
    refine ⟨⟨harrays.1.shift base, fun c hc => ?_⟩, ih harrays.2 _ _⟩
    obtain ⟨haddr, hengines⟩ := b.tree.bound_node (complexAddr index) base c hc
    exact ⟨Nat.lt_add_right _ haddr, fun e he => Nat.lt_add_right _ (hengines e he)⟩

theorem placeBridges_length (bridges : List TreeBridge) (index base : Nat) :
    (placeBridges bridges index base).length = bridges.length := by
  induction bridges generalizing index base with
  | nil => rfl
  | cons b bridges ih => rw [placeBridges, length_cons, length_cons, ih]

theorem PcieSib.Complete.fullOf_eq (hs : sib.Complete bs) : fullOf bs = bs := by
  unfold fullOf
  rw [map_congr_left fun b hb => withLive_of_full (hs.live b hb).1, map_id']

theorem PcieSib.Complete.getChild_complex {b : BridgeNode} (hs : sib.Complete (b :: bs)) (hfuel : 5 ≤ fuel) :
    pcieConfigGetChild fuel sib.headers descriptorComplex 0 = some (some b.complex) := by
  exact Headers.seek_of_kinds [0] ⟨rfl, (hs.linked.platformChild b rfl).childOf_eq⟩ (.cons hs.linked.platformKind .nil)
    (hs.linked.placed b mem_cons_self).complexKind hfuel

theorem topology_of_built {sib built : PcieSib}
    (hbuilt : pcieConfigurationInit fuel sib (bridges.map (·.bridge)) = some built)
    (hcount : bridges.length ≤ maxNumberOfComplexes) (hbound : complexConfigs + templateBytes bridges < 2 ^ 16)
    (hfuel : Enough fuel (placeBridges bridges 0 complexConfigs)) (harrays : ∀ b ∈ bridges, CoreArray b.tree.cores) :
    built.Complete (placeBridges bridges 0 complexConfigs) ∧ built.Topology (placeBridges bridges 0 complexConfigs) := by
  obtain ⟨_, hrun, hs⟩ := pcieConfigurationInit_complete sib bridges hcount hbound hfuel
  obtain rfl := Option.some.inj (hbuilt.symm.trans hrun)
  have hcores := placeBridges_cores harrays 0 complexConfigs
  have hlength := placeBridges_length bridges 0 complexConfigs
  refine ⟨hs, hs.topology (by omega) (fun b hb => (hcores b hb).1) fun b hb c hc => ?_⟩
  exact ((hcores b hb).2 c hc).imp (·.trans hbound) fun hengines e he => (hengines e he).trans hbound

theorem PcieSib.Complete.harvest {env : FuseAccess} {hv : CoreNode → Bool} (hs : sib.Complete bs)
    (htop : sib.Topology bs) (hfuel : Enough fuel bs)
    (hfuse : ∀ b ∈ bs, ∀ c ∈ b.cores, harvestedByFuse env (sib.silicon b.silicon) c.wrapId = .ok (hv c))
    (hharvest : Harvestable hv bs) :
    ∃ sib', pcieEnumerateAndHarvestWrappers env fuel sib = .ok sib' ∧
      sib'.headers.Walks fuel (bs.map (·.harvest hv)) := by
  unfold pcieEnumerateAndHarvestWrappers
  cases bs with
  | nil =>
    refine ⟨sib, ?_, hs.walks hfuel⟩
    rw [hs.getChild_of_empty (by decide) hfuel.1]
    cases fuel <;> rfl
  | cons b bs =>
    have hfull : Enough fuel (fullOf (b :: bs)) := by rwa [hs.fullOf_eq]
    obtain ⟨h', hloop, htop'⟩ := harvestComplexes_eq [] htop hs.live hs.complexes_chain hfuse hharvest hfull
      hfuel.2.1.le
    refine ⟨{ sib with headers := h' }, ?_, htop'.linked.walks htop'.layout ?_ ?_⟩
    · rw [hs.getChild_complex hfuel.1]
      exact hloop
    · refine (ample_of_full htop'.layout ?_).1
      have hsame : fullOf ((b :: bs).map (·.harvest hv)) = fullOf (b :: bs) := by
        simp [fullOf, harvest, withLive]
      rw [nil_append, hsame]
      exact hfull
    · obtain ⟨last, hlast⟩ : ∃ last, (b :: bs).getLast? = some last := ⟨_, getLast?_eq_some_getLast (by simp)⟩
      obtain ⟨c, hc, hkept⟩ := hharvest.last last hlast
      refine ⟨last.harvest hv, ?_, ne_nil_of_mem (mem_filter.mpr ⟨hc, by simp [hkept]⟩)⟩
      rw [nil_append, getLast?_map, hlast]
      rfl

/-- After harvesting, the walks visit what the fuses leave. -/
theorem pcieEnumerateAndHarvestWrappers_walks (fuel : Nat) (env : FuseAccess) (sib built : PcieSib) (bridges : List TreeBridge)
    (harvested : CoreNode → Bool) (hbuilt : pcieConfigurationInit fuel sib (bridges.map (·.bridge)) = some built)
    (hcount : bridges.length ≤ maxNumberOfComplexes) (hbound : complexConfigs + templateBytes bridges < 2 ^ 16)
    (hfuel : Enough fuel (placeBridges bridges 0 complexConfigs)) (harrays : ∀ b ∈ bridges, CoreArray b.tree.cores)
    (hfuse : ∀ b ∈ placeBridges bridges 0 complexConfigs, ∀ c ∈ b.cores,
      harvestedByFuse env (built.silicon b.silicon) c.wrapId = .ok (harvested c))
    (hharvest : Harvestable harvested (placeBridges bridges 0 complexConfigs)) :
    ∃ sib', pcieEnumerateAndHarvestWrappers env fuel built = .ok sib' ∧
      sib'.headers.Walks fuel ((placeBridges bridges 0 complexConfigs).map (·.harvest harvested)) := by
  obtain ⟨hs, htop⟩ := topology_of_built hbuilt hcount hbound hfuel harrays
  exact hs.harvest htop hfuel hfuse hharvest

def fusedBridges (n : Nat) : List TreeBridge :=
  (List.range n).map fun i => ⟨⟨0, 0, i, n, ⟨0, 0, i, false, false⟩, oneCore⟩, oneCoreTree⟩

def fusedSib (n : Nat) : PcieSib := (pcieConfigurationInit 5 zeroSib ((fusedBridges n).map (·.bridge))).getD zeroSib

def fuseOf (i : Nat) : FuseAccess := ⟨true, fun _ _ _ => fuseMaskPcieCoreAx.getD (2 * i) 0⟩

theorem pcieEnumerateAndHarvestWrappers_walks_three :
    ∃ sib', pcieEnumerateAndHarvestWrappers (fuseOf 1) 5 (fusedSib 3) = .ok sib' ∧
      sib'.headers.Walks 5 ((placeBridges (fusedBridges 3) 0 complexConfigs).map (·.harvest (·.addr == 324))) := by
  have hfuel : Enough 5 (placeBridges (fusedBridges 3) 0 complexConfigs) := ⟨by decide, by decide, by decide, by decide⟩
  apply pcieEnumerateAndHarvestWrappers_walks 5 (fuseOf 1) zeroSib (fusedSib 3) (fusedBridges 3) (·.addr == 324)
  · obtain ⟨built, hrun, -⟩ := pcieConfigurationInit_complete zeroSib (fusedBridges 3) (by decide) (by decide) hfuel
    unfold fusedSib
    rw [hrun]
    rfl
  · decide
  · decide
  · exact hfuel
  · intro b hb
    obtain ⟨i, -, rfl⟩ := mem_map.mp hb
    exact ⟨isChain_singleton _, nodup_singleton _⟩
  · decide +kernel
  · exact ⟨by decide, by decide, by decide⟩

/-- Without the first core of the first bridge, a null pointer is used. -/
theorem first_core_uses_null :
    (match pcieEnumerateAndHarvestWrappers (fuseOf 0) 5 (fusedSib 3) with
      | .ok _ => none
      | .error stop => some stop) = some Stop.null := by
  decide +kernel

end OpenSil.Nbio
