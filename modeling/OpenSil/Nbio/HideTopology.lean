import OpenSil.Lib.BitField
import OpenSil.Nbio.HideStep

/-! # The topology without a core -/

namespace OpenSil.Nbio

open Chain List Option Headers

/-! ## The writes -/

section
variable {fuel : Nat} {h g : Headers} {silicon lastE n f : Nat} {q : CoreNode} {after : List CoreNode}

theorem seek_found {next : Nat → Option Nat} {found : Nat → Bool} {a : Nat} (ha : found a = true) (hfuel : 5 ≤ fuel) :
    seek next found fuel a = some (some a) :=
  seek_of_path (l := []) rfl (by simp) ha (Nat.lt_of_lt_of_le (by simp) hfuel)

theorem hideAttachDescriptors_eq {type : BitVec 32} {base new : Nat} (hbase : h.has type base = true)
    (hgnb : h.has descriptorTerminateGnb base = true) (hnew : h.has type new = true) (hfuel : 5 ≤ fuel) :
    hideAttachDescriptors fuel type (some base) (some new) h = .ok (h.link base new) := by
  have hchild : pcieConfigGetChild fuel h type base = some (some base) := seek_found hbase hfuel
  have hpeer : pcieConfigGetPeer fuel h descriptorTerminateGnb base = some (some base) := seek_found hgnb hfuel
  have hright : pcieConfigGetChild fuel h type new = some (some new) := seek_found hnew hfuel
  unfold hideAttachDescriptors
  simp only [Stop.deref_some, Stop.ok_bind, hchild, Stop.ofFuel_some, hpeer, hright]

def Headers.linked (g : Headers) (q lastE n f : Nat) : Headers := (g.link q n).link lastE f

variable {flags : BitVec 32}

theorem linked_has (a : Nat) (hflags : ~~~descriptorTerminateTopology &&& flags = flags) :
    (g.linked q.addr lastE n f).has flags a = g.has flags a := by
  unfold linked
  rw [link_has _ _ _ _ hflags, link_has _ _ _ _ hflags]

theorem attachChild_has (g : Headers) (p d : Nat) (flags : BitVec 32) (a : Nat) :
    (g.attachChild p d).has flags a = g.has flags a := by
  unfold has attachChild
  by_cases ha : a = p
  · rw [ha, modify_same]
  · rw [modify_ne _ _ ha]

theorem hideAttach_eq {info : HideWrapperInfo} (hprev : info.prevPcieCore = some q.addr) (hnext : info.nextPcieCore = some n)
    (hlast : info.lastPciePortOnPrev = some lastE) (hfirst : info.firstPciePortOnNext = some f)
    (hkind : h.kind q.addr = descriptorPcieWrapper ∧ h.kind n = descriptorPcieWrapper ∧
      h.kind lastE = descriptorPcieEngine ∧ h.kind f = descriptorPcieEngine)
    (hgnb : h.has descriptorTerminateGnb q.addr = true ∧ h.has descriptorTerminateGnb lastE = true) (hfuel : 5 ≤ fuel) :
    hideAttach fuel info h = .ok (h.linked q.addr lastE n f) := by
  obtain ⟨hq, hn, he, hf⟩ := hkind
  have hwrapper : hideAttachDescriptors fuel descriptorPcieWrapper (some q.addr) (some n) h = .ok (h.link q.addr n) :=
    hideAttachDescriptors_eq (has_eq_of_kind hq _ (by decide)) hgnb.1 (has_eq_of_kind hn _ (by decide)) hfuel
  have hengine : hideAttachDescriptors fuel descriptorPcieEngine (some lastE) (some f) (h.link q.addr n) =
      .ok (h.linked q.addr lastE n f) := by
    refine hideAttachDescriptors_eq ?_ ?_ ?_ hfuel
    · rw [link_has _ _ _ _ (by decide)]
      exact has_eq_of_kind he _ (by decide)
    · rw [link_has _ _ _ _ (by decide)]
      exact hgnb.2
    · rw [link_has _ _ _ _ (by decide)]
      exact has_eq_of_kind hf _ (by decide)
  unfold hideAttach
  rw [hprev, hnext, hlast, hfirst, hwrapper]
  exact hengine

theorem attachPeer_eq_link {left right : Nat} (hnot : h.has descriptorTerminateTopology left = false) :
    h.attachPeer left right = h.link left right := by
  have hflags : (h left).descriptorFlags &&& ~~~descriptorTerminateTopology = (h left).descriptorFlags := by
    unfold has at hnot
    rw [decide_eq_false_iff_not, not_not] at hnot
    exact BitField.and_not_of_and_eq_zero hnot
  funext a
  by_cases ha : a = left
  · subst ha
    rw [link_same, hflags]
    exact modify_same _ _ _
  · rw [link_ne _ _ ha]
    exact modify_ne _ _ ha

structure Headers.SameBut (h g : Headers) (q : CoreNode) (lastE : Nat) : Prop where
  same : ∀ a, a ≠ q.addr → a ≠ lastE → g a = h a
  wrapper : h.Agrees g q.addr
  engine : h.Agrees g lastE

theorem Headers.SameBut.refl (h : Headers) (q : CoreNode) (lastE : Nat) : h.SameBut h q lastE :=
  ⟨fun _ _ _ => rfl, agrees_of_eq rfl, agrees_of_eq rfl⟩

variable {a d : Nat}

theorem setDescriptorFlags_agrees (hkind : h.kind d = h.kind a) :
    h.Agrees (h.setDescriptorFlags a (h d).descriptorFlags) a := by
  have hsame : h.setDescriptorFlags a (h d).descriptorFlags a =
      { h a with descriptorFlags := (h a).descriptorFlags ||| (h d).descriptorFlags } := modify_same _ _ _
  constructor
  · unfold kind at hkind ⊢
    rw [hsame]
    dsimp only
    rw [BitVec.and_or_distrib_right, hkind, BitVec.or_self]
  · rw [hsame]
  · rw [hsame]

theorem setDescriptorFlags_has (hflags : h.has flags d = true) :
    (h.setDescriptorFlags a (h d).descriptorFlags).has flags a = true := by
  unfold has at hflags ⊢
  rw [decide_eq_true_eq] at hflags ⊢
  unfold setDescriptorFlags
  rw [modify_same]
  exact BitField.or_and_ne_zero _ hflags

theorem setDescriptorFlags_ne (flags : BitVec 32) (hne : d ≠ a) : h.setDescriptorFlags a flags d = h d :=
  modify_ne _ _ hne

def Headers.flagged (h : Headers) (q lastE c lastC : Nat) : Headers :=
  (h.setDescriptorFlags q (h c).descriptorFlags).setDescriptorFlags lastE
    ((h.setDescriptorFlags q (h c).descriptorFlags) lastC).descriptorFlags

structure Headers.Kinds (h : Headers) (silicon : Nat) (q : CoreNode) (lastE : Nat) : Prop where
  silicon : h.kind silicon = descriptorSilicon
  wrapper : h.kind q.addr = descriptorPcieWrapper
  engine : h.kind lastE = descriptorPcieEngine

section
variable {c lastC : Nat} (hk : h.Kinds silicon q lastE) (hc : h.kind c = descriptorPcieWrapper)
  (hlastC : h.kind lastC = descriptorPcieEngine)
include hk hc hlastC

theorem Headers.Kinds.flagged_sameBut : h.SameBut (h.flagged q.addr lastE c lastC) q lastE := by
  have hqe : lastE ≠ q.addr := ne_of_kind hk.engine hk.wrapper
  have hfirst : h.Agrees (h.setDescriptorFlags q.addr (h c).descriptorFlags) q.addr :=
    setDescriptorFlags_agrees (hc.trans hk.wrapper.symm)
  have hkeep : ∀ {a : Nat}, a ≠ q.addr → h.setDescriptorFlags q.addr (h c).descriptorFlags a = h a :=
    setDescriptorFlags_ne _
  have hkind : ∀ {a : Nat}, h.kind a = descriptorPcieEngine →
      (h.setDescriptorFlags q.addr (h c).descriptorFlags).kind a = descriptorPcieEngine := fun ha =>
    (agrees_of_eq (hkeep (ne_of_kind ha hk.wrapper))).kind.trans ha
  constructor
  · intro a hq he
    exact (setDescriptorFlags_ne _ he).trans (hkeep hq)
  · exact hfirst.trans (agrees_of_eq (setDescriptorFlags_ne _ hqe.symm))
  · exact (agrees_of_eq (hkeep hqe)).trans (setDescriptorFlags_agrees ((hkind hlastC).trans (hkind hk.engine).symm))

omit hc hlastC in
theorem Headers.Kinds.flagged_has_wrapper (hflags : h.has flags c = true) :
    (h.flagged q.addr lastE c lastC).has flags q.addr = true := by
  have hqe : q.addr ≠ lastE := ne_of_kind hk.wrapper hk.engine
  exact (has_of_eq (setDescriptorFlags_ne _ hqe) flags).trans (setDescriptorFlags_has hflags)

omit hc in
theorem Headers.Kinds.flagged_has_engine (hflags : h.has flags lastC = true) :
    (h.flagged q.addr lastE c lastC).has flags lastE = true := by
  have hne : lastC ≠ q.addr := ne_of_kind hlastC hk.wrapper
  refine setDescriptorFlags_has ?_
  rw [has_of_eq (setDescriptorFlags_ne _ hne)]
  exact hflags

end

section
variable (hk : h.Kinds silicon q lastE) (hg : h.SameBut g q lastE)
include hk hg

theorem Headers.SameBut.silicon_eq : g silicon = h silicon :=
  hg.same silicon (ne_of_kind hk.silicon hk.wrapper) (ne_of_kind hk.silicon hk.engine)

theorem Headers.SameBut.relinked (hn : (wrappersOf after).head? = some n) (hf : (enginesOf after).head? = some f)
    (hqn : q.addr < n ∧ n < 2 ^ 16) (hef : lastE < f ∧ f < 2 ^ 16) :
    h.Relinked (g.linked q.addr lastE n f) silicon q lastE after := by
  have hqe : q.addr ≠ lastE := ne_of_kind hk.wrapper hk.engine
  have hsilicon : g.linked q.addr lastE n f silicon = h silicon := by
    unfold linked
    rw [link_ne _ _ (ne_of_kind hk.silicon hk.engine), link_ne _ _ (ne_of_kind hk.silicon hk.wrapper),
      hg.silicon_eq hk]
  constructor
  · intro a hq he _
    unfold linked
    rw [link_ne _ _ he, link_ne _ _ hq, hg.same a hq he]
  · rw [hsilicon]
  · exact (hg.wrapper.trans (link_agrees _ _ _ _)).trans (link_agrees _ _ _ _)
  · exact (hg.engine.trans (link_agrees _ _ _ _)).trans (link_agrees _ _ _ _)
  · rw [hn]
    unfold linked
    rw [next_link_ne _ _ hqe]
    exact next_link_same g hqn.1 hqn.2
  · rw [hf]
    exact next_link_same _ hef.1 hef.2

theorem Headers.SameBut.relinked_end (hafter : after = []) (hq : g.has descriptorTerminateTopology q.addr = true)
    (he : g.has descriptorTerminateTopology lastE = true) : h.Relinked g silicon q lastE after := by
  constructor
  · exact fun a hq he _ => hg.same a hq he
  · rw [hg.silicon_eq hk]
  · exact hg.wrapper
  · exact hg.engine
  · rw [hafter]
    exact if_pos hq
  · rw [hafter]
    exact if_pos he

end

theorem Headers.Relinked.attachChild (hk : h.Kinds silicon q lastE) (r : h.Relinked g silicon q lastE after) (child : Nat) :
    h.Relinked (g.attachChild silicon child) silicon q lastE after := by
  have hne : ∀ {a : Nat}, a ≠ silicon → g.attachChild silicon child a = g a := fun ha => modify_ne _ _ ha
  have hq : g.attachChild silicon child q.addr = g q.addr := hne (ne_of_kind hk.wrapper hk.silicon)
  have he : g.attachChild silicon child lastE = g lastE := hne (ne_of_kind hk.engine hk.silicon)
  constructor
  · exact fun a haq hae ha => (hne ha).trans (r.same a haq hae ha)
  · unfold Headers.attachChild
    rw [modify_same, r.silicon]
  · exact r.wrapper.trans (agrees_of_eq hq)
  · exact r.engine.trans (agrees_of_eq he)
  · exact (next_of_eq hq).trans r.nextWrapper
  · exact (next_of_eq he).trans r.nextEngine

end

/-! ## The three cases -/

variable {h : Headers}

theorem has_of_next {a : Nat} :
    h.has descriptorTerminateTopology a = (h.nextTopologyDescriptor a).isNone := by
  unfold nextTopologyDescriptor
  split_ifs with htop
  · simpa using htop
  · simpa using htop

theorem Headers.Listed.ends_eq {l r : List Nat} {a : Nat} (hl : h.Listed (l ++ [a] ++ r)) :
    h.has descriptorTerminateTopology a = r.head?.isNone := by
  rw [append_assoc] at hl
  obtain ⟨p, -, -, hr⟩ := path_append_iff.mp hl
  rw [has_of_next, Path.start_eq hr, or_none]
  rfl

theorem Headers.Marked.gnb_last {bs : List BridgeNode} {p : BridgeNode} {l : List CoreNode} {q : CoreNode}
    {el : List Nat} {lastE : Nat} (m : h.Marked bs) (hp : p ∈ bs) (hlive : p.live = l ++ [q])
    (hlastE : q.engines = el ++ [lastE]) :
    h.has descriptorTerminateGnb q.addr = true ∧ h.has descriptorTerminateGnb lastE = true := by
  have hwrappers := m.wrappers p hp
  have hengines := m.engines p hp
  have hall : enginesOf p.live = enginesOf l ++ el ++ [lastE] := by
    rw [hlive, enginesOf_append]
    simp [hlastE]
  rw [hlive, wrappersOf_append, wrappersOf_singleton, lastOnly_append_singleton_iff] at hwrappers
  rw [hall, lastOnly_append_singleton_iff] at hengines
  exact ⟨hwrappers.2, hengines.2⟩

theorem getElem?_withLive {front back : List BridgeNode} {b y : BridgeNode} {live : List CoreNode} {i : Nat}
    (hy : (front ++ b.withLive live :: back)[i]? = some y) :
    ∃ y', (front ++ b :: back)[i]? = some y' ∧ y'.silicon = y.silicon := by
  have hmap : (front ++ b.withLive live :: back).map (·.silicon) = (front ++ b :: back).map (·.silicon) := by
    simp
  have hsilicon := congrArg (Option.map BridgeNode.silicon) hy
  rw [← getElem?_map, hmap, getElem?_map] at hsilicon
  exact map_eq_some_iff.mp hsilicon

structure Headers.Hidden (h h' : Headers) (front back : List BridgeNode) (b : BridgeNode) (pre post : List CoreNode)
    (q : CoreNode) (lastE : Nat) : Prop where
  relinked : h.Relinked h' b.silicon q lastE (post ++ liveOf back)
  marked : h'.Marked (front ++ b.withLive (pre ++ post) :: back)
  keep : pre ≠ [] → (h' b.silicon).child = (h b.silicon).child
  child : pre = [] → ∀ x ∈ (post ++ liveOf back).head?, h'.IsChild b.silicon x.addr

variable {fuel : Nat} {sib : PcieSib} {front back : List BridgeNode} {b : BridgeNode} {c q x : CoreNode}
  {pre post before rest : List CoreNode} {el cel : List Nat} {lastE lastC : Nat}

section
variable (ht : sib.Topology (front ++ b :: back)) (hlive : b.live = pre ++ c :: post)
  (hbefore : liveOf front ++ pre = before ++ [q]) (hlastE : q.engines = el ++ [lastE])
include ht hlive hbefore hlastE

theorem PcieSib.Topology.kinds : sib.headers.Kinds b.silicon q lastE := by
  have hall := liveOf_before back hlive hbefore
  obtain ⟨_, -, -, hcore⟩ := ht.linked.placedCore ht.layout (c := q) (by simp [hall])
  exact ⟨(ht.linked.placed b (by simp)).siliconKind, hcore.kind, (hcore.engine lastE (by simp [hlastE])).1⟩

theorem PcieSib.Topology.behind (hafter : post ++ liveOf back = x :: rest) :
    ∃ f, (wrappersOf (post ++ liveOf back)).head? = some x.addr ∧ (enginesOf (post ++ liveOf back)).head? = some f ∧
      (q.addr < x.addr ∧ x.addr < 2 ^ 16) ∧ (lastE < f ∧ f < 2 ^ 16) ∧
        sib.headers.kind x.addr = descriptorPcieWrapper ∧ sib.headers.kind f = descriptorPcieEngine := by
  have hall := liveOf_before back hlive hbefore
  have hxmem : x ∈ liveOf (front ++ b :: back) := by simp [hall, hafter]
  obtain ⟨y, hy, hxy, hcore⟩ := ht.linked.placedCore ht.layout hxmem
  obtain ⟨hxlt, helt⟩ := ht.bound y hy x ((ht.layout.live y hy).subset hxy)
  obtain ⟨f, fs, hengines, -⟩ := hcore.child
  have hhead : enginesOf (post ++ liveOf back) = f :: (fs ++ enginesOf rest) := by
    rw [hafter]
    simp [enginesOf, hengines]
  have hascending := ht.layout.engines
  rw [hall, enginesOf_append, hhead, pairwise_append] at hascending
  refine ⟨f, by rw [hafter]; rfl, by rw [hhead]; rfl, ⟨?_, hxlt⟩, ⟨?_, helt f (by simp [hengines])⟩, hcore.kind,
    (hcore.engine f (by simp [hengines])).1⟩
  · exact ht.layout.addr_lt hall (by simp) (by simp [hafter])
  · refine hascending.2.2 lastE ?_ f mem_cons_self
    simp [enginesOf, hlastE]

def HideWrapperInfo.Around (info : HideWrapperInfo) (q : CoreNode) (lastE : Nat) (after : List CoreNode) : Prop :=
  info.prevPcieCore = some q.addr ∧ info.nextPcieCore = (wrappersOf after).head? ∧
    info.lastPciePortOnPrev = some lastE ∧ info.firstPciePortOnNext = (enginesOf after).head?

section
variable {info : HideWrapperInfo}

theorem PcieSib.Topology.hideFirst_eq {p : BridgeNode} {front' : List BridgeNode} {l : List CoreNode}
    (hfront : front = front' ++ [p]) (hp : p.live = l ++ [q]) (hpre : pre = [])
    (hafter : post ++ liveOf back = x :: rest) (hinfo : info.Around q lastE (post ++ liveOf back)) (hfuel : 5 ≤ fuel) :
    ∃ h', hideFirst fuel sib b.silicon info = .ok h' ∧ sib.headers.Hidden h' front back b pre post q lastE := by
  obtain ⟨f, hn, hf, hqx, hef, hkindx, hkindf⟩ := ht.behind hlive hbefore hlastE hafter
  have hk := ht.kinds hlive hbefore hlastE
  obtain ⟨hprev, hnext, hlast, hfirst⟩ := hinfo
  have hgnb := ht.marked.gnb_last (p := p) (by simp [hfront]) hp hlastE
  have hattach := hideAttach_eq hprev (hnext.trans hn) hlast (hfirst.trans hf) ⟨hk.wrapper, hkindx, hk.engine, hkindf⟩
    hgnb hfuel
  have hid := ht.instanceId_ne_zero (by simp [hfront])
  have hrelinked := ((Headers.SameBut.refl sib.headers q lastE).relinked hk hn hf hqx hef).attachChild hk x.addr
  have hhas : ∀ (flags : BitVec 32) (a : Nat), ~~~descriptorTerminateTopology &&& flags = flags →
      ((sib.headers.linked q.addr lastE x.addr f).attachChild b.silicon x.addr).has flags a = sib.headers.has flags a := by
    intro flags a hflags
    exact (attachChild_has _ _ _ flags a).trans (linked_has a hflags)
  refine ⟨_, ?_, hrelinked, ?_, fun hne => absurd hpre hne, fun _ y hy => ?_⟩
  · unfold hideFirst
    rw [if_pos hid, hattach, hnext, hn]
    rfl
  · exact ht.marked.remove ht.linked ht.layout hlive hbefore hlastE hrelinked (fun a => hhas _ a (by decide))
      (fun a => hhas _ a (by decide)) (Or.inr hpre)
  · obtain rfl : x = y := by simpa [hafter] using hy
    have hchild := ht.linked.siliconChild front b back c rfl (by rw [liveOf_cons, hlive, hpre]; rfl)
    have hcx : c.addr < x.addr := ht.layout.addr_lt (liveOf_before back hlive hbefore) (by simp) (by simp [hafter])
    have hlt := hchild.1.trans hcx
    refine ⟨hlt, ?_⟩
    unfold attachChild
    rw [modify_same]
    dsimp only
    rw [toNat_offsetTo hlt.le hqx.2]
    omega

variable {pre' : List CoreNode}

theorem PcieSib.Topology.hideMiddle_eq (hpre : pre = pre' ++ [q]) (hpost : post ≠ [])
    (hafter : post ++ liveOf back = x :: rest) (hinfo : info.Around q lastE (post ++ liveOf back)) :
    ∃ h', hideMiddle sib info = .ok h' ∧ sib.headers.Hidden h' front back b pre post q lastE := by
  obtain ⟨f, hn, hf, hqx, hef, hkindx, hkindf⟩ := ht.behind hlive hbefore hlastE hafter
  have hk := ht.kinds hlive hbefore hlastE
  obtain ⟨hprev, hnext, hlast, hfirst⟩ := hinfo
  have hall := liveOf_before back hlive hbefore
  -- both have successors, so the flags need no change
  have hwrapper : sib.headers.has descriptorTerminateTopology q.addr = false := by
    have hlisted := ht.linked.wrappers
    rw [hall, append_assoc, wrappersOf_append, wrappersOf_append] at hlisted
    exact hlisted.ends_eq
  have hengine : sib.headers.has descriptorTerminateTopology lastE = false := by
    have hlisted := ht.linked.engines
    obtain ⟨_, -, -, hcore⟩ := ht.linked.placedCore ht.layout (c := c) (by simp [hall])
    obtain ⟨e, es, hce, -⟩ := hcore.child
    have hengines : enginesOf (liveOf (front ++ b :: back)) =
        enginesOf before ++ el ++ [lastE] ++ (e :: (es ++ enginesOf (post ++ liveOf back))) := by
      rw [hall, enginesOf_append, enginesOf_append, enginesOf_append]
      simp [enginesOf, hlastE, hce]
    rw [hengines] at hlisted
    exact hlisted.ends_eq
  have hwrite : (sib.headers.attachPeer q.addr x.addr).attachPeer lastE f = sib.headers.linked q.addr lastE x.addr f := by
    have hne : lastE ≠ q.addr := ne_of_kind hk.engine hk.wrapper
    unfold Headers.linked
    rw [attachPeer_eq_link hwrapper]
    refine attachPeer_eq_link ?_
    rw [has_of_eq (link_ne _ _ hne)]
    exact hengine
  have hrelinked := (Headers.SameBut.refl sib.headers q lastE).relinked hk hn hf hqx hef
  refine ⟨_, ?_, hrelinked, ?_, fun _ => ?_, fun hnil => ?_⟩
  · unfold hideMiddle
    rw [hprev, hnext, hn, hlast, hfirst, hf]
    simp only [Stop.deref_some, Stop.ok_bind, hwrite]
  · exact ht.marked.remove ht.linked ht.layout hlive hbefore hlastE hrelinked (fun a => linked_has a (by decide))
      (fun a => linked_has a (by decide)) (Or.inl hpost)
  · unfold Headers.linked
    rw [link_ne _ _ (ne_of_kind hk.silicon hk.engine),
      link_ne _ _ (ne_of_kind hk.silicon hk.wrapper)]
  · simp [hpre] at hnil

theorem PcieSib.Topology.hideLast_eq (hlastC : c.engines = cel ++ [lastC])
    (hpre : pre = pre' ++ [q]) (hpost : post = []) (hinfo : info.Around q lastE (post ++ liveOf back))
    (hthis : info.thisPcieCore = some c.addr ∧ info.lastPciePortOnThis = some lastC) (hfuel : 5 ≤ fuel) :
    ∃ h', hideLast fuel sib info = .ok h' ∧ sib.headers.Hidden h' front back b pre post q lastE := by
  have hk := ht.kinds hlive hbefore hlastE
  have hb : b ∈ front ++ b :: back := by simp
  have hall := liveOf_before back hlive hbefore
  have hcore := (ht.linked.placed b hb).core c ((ht.layout.live b hb).subset (by simp [hlive]))
  have hkindC := (hcore.engine lastC (by simp [hlastC])).1
  obtain ⟨hprev, hnext, hlast, hfirst⟩ := hinfo
  -- the marks of the core that leaves
  have hgnb := ht.marked.gnb_last hb (hlive.trans (by rw [hpost])) hlastC
  have hlist := (ht.marked.lists b hb c (by simp [hlive, hpost])).1
  have hsame := hk.flagged_sameBut hcore.kind hkindC
  have hgnbq : (sib.headers.flagged q.addr lastE c.addr lastC).has descriptorTerminateGnb q.addr = true :=
    hk.flagged_has_wrapper hgnb.1
  have hgnbe : (sib.headers.flagged q.addr lastE c.addr lastC).has descriptorTerminateGnb lastE = true :=
    hk.flagged_has_engine hkindC hgnb.2
  have hlistq : (sib.headers.flagged q.addr lastE c.addr lastC).has descriptorTerminateList q.addr = true :=
    hk.flagged_has_wrapper hlist
  have hset : hideLast fuel sib info = if info.nextPcieCore.isSome then
      hideAttach fuel info (sib.headers.flagged q.addr lastE c.addr lastC)
      else .ok (sib.headers.flagged q.addr lastE c.addr lastC) := by
    unfold hideLast setDescriptorFlagsOf
    rw [hprev, hthis.1, hlast, hthis.2]
    rfl
  have hmarked : ∀ h', sib.headers.Relinked h' b.silicon q lastE (post ++ liveOf back) →
      h'.has descriptorTerminateGnb q.addr = true ∧ h'.has descriptorTerminateList q.addr = true →
      h'.has descriptorTerminateGnb lastE = true → h'.Marked (front ++ b.withLive (pre ++ post) :: back) := fun h' r =>
    ht.marked.remove_last ht.linked ht.layout hlive hbefore hlastE r hpre hpost
  have hsilicon := hsame.silicon_eq hk
  rw [hset]
  cases hafter : post ++ liveOf back with
  | nil =>
    -- the core ends the topology, and so does the one before it now
    have hrelinked := hsame.relinked_end hk hafter ?_ ?_
    · refine ⟨_, if_neg (by rw [hnext, hafter]; decide), hrelinked, hmarked _ hrelinked ⟨hgnbq, hlistq⟩ hgnbe, fun _ => ?_,
        fun hnil => ?_⟩
      · rw [hsilicon]
      · simp [hpre] at hnil
    · have hlisted := ht.linked.wrappers
      rw [hall, hafter, wrappersOf_append, wrappersOf_append _ [c]] at hlisted
      exact hk.flagged_has_wrapper hlisted.ends_eq
    · have hlisted := ht.linked.engines
      have hengines : enginesOf (liveOf (front ++ b :: back)) = enginesOf (before ++ [q]) ++ cel ++ [lastC] ++ [] := by
        rw [hall, hafter, append_nil, enginesOf_append]
        simp [enginesOf, hlastC]
      rw [hengines] at hlisted
      exact hk.flagged_has_engine hkindC hlisted.ends_eq
  | cons x rest =>
    obtain ⟨f, hn, hf, hqx, hef, hkindx, hkindf⟩ := ht.behind hlive hbefore hlastE hafter
    have hrelinked := hsame.relinked hk hn hf hqx hef
    have hkind : ∀ {a : Nat} {k : BitVec 32}, sib.headers.kind a = k →
        (sib.headers.flagged q.addr lastE c.addr lastC).kind a = k := by
      intro a k ha
      by_cases hq : a = q.addr
      · rw [hq] at ha ⊢
        exact hsame.wrapper.kind.trans ha
      by_cases he : a = lastE
      · rw [he] at ha ⊢
        exact hsame.engine.kind.trans ha
      exact (agrees_of_eq (hsame.same a hq he)).kind.trans ha
    have hattach := hideAttach_eq hprev (hnext.trans hn) hlast (hfirst.trans hf)
      ⟨hkind hk.wrapper, hkind hkindx, hkind hk.engine, hkind hkindf⟩ ⟨hgnbq, hgnbe⟩ hfuel
    refine ⟨_, (if_pos (by rw [hnext, hn]; rfl)).trans hattach, hrelinked, hmarked _ hrelinked ⟨?_, ?_⟩ ?_, fun _ => ?_,
      fun hnil => ?_⟩
    · exact (linked_has _ (by decide)).trans hgnbq
    · exact (linked_has _ (by decide)).trans hlistq
    · exact (linked_has _ (by decide)).trans hgnbe
    · unfold Headers.linked
      rw [link_ne _ _ (ne_of_kind hk.silicon hk.engine),
        link_ne _ _ (ne_of_kind hk.silicon hk.wrapper), hsilicon]
    · simp [hpre] at hnil

end

theorem PcieSib.Topology.remove {h' : Headers} (hprev : pre = [] → ∃ p ∈ front.getLast?, p.live ≠ [])
    (hhidden : sib.headers.Hidden h' front back b pre post q lastE) :
    PcieSib.Topology { sib with headers := h' } (front ++ b.withLive (pre ++ post) :: back) where
  linked := ht.linked.remove ht.layout hlive hbefore hlastE hhidden.relinked hprev hhidden.keep hhidden.child
  marked := hhidden.marked
  layout := ht.layout.remove hlive
  count := by
    have := ht.count
    simpa using this
  arrays := forall_mem_withLive (fun x hx => ht.arrays x (mem_of_other hx)) (ht.arrays b (by simp))
  bound := forall_mem_withLive (fun x hx => ht.bound x (mem_of_other hx)) (ht.bound b (by simp))
  instances i y hy := by
    obtain ⟨y', hy', hsilicon⟩ := getElem?_withLive hy
    rw [← hsilicon]
    exact ht.instances i y' hy'
  wrapIds := forall_mem_withLive (fun x hx => ht.wrapIds x (mem_of_other hx)) (ht.wrapIds b (by simp))

end

/-! ## The step -/

theorem PcieSib.Topology.hide (ht : sib.Topology (front ++ b :: back)) (hfuel : Ample fuel (front ++ b :: back))
    (hlive : b.live = pre ++ c :: post) (hq : q ∈ lastBefore front pre) (hafter : pre = [] → post ++ liveOf back ≠ []) :
    ∃ h', pcieComplexHidePcieCore fuel sib b.silicon (c.wrapId.setWidth 32) = .ok { sib with headers := h' } ∧
      PcieSib.Topology { sib with headers := h' } (front ++ b.withLive (pre ++ post) :: back) ∧
      ∀ a, sib.headers.kind a = descriptorPcieWrapper → a ≠ q.addr → ∀ flags, h'.has flags a = sib.headers.has flags a := by
  obtain ⟨before, hbefore⟩ := lastBefore_split hq
  have hall := liveOf_before back hlive hbefore
  obtain ⟨_, -, -, hqcore⟩ := ht.linked.placedCore ht.layout (c := q) (by simp [hall])
  obtain ⟨_, -, -, hccore⟩ := ht.linked.placedCore ht.layout (c := c) (by simp [hall])
  obtain ⟨el, lastE, hlastE⟩ := hqcore.engines_concat
  obtain ⟨cel, lastC, hlastC⟩ := hccore.engines_concat
  obtain ⟨info, hinfo, haround, hthis⟩ : ∃ info : HideWrapperInfo,
      findHideInfo fuel sib b.silicon (c.wrapId.setWidth 32) = .ok (info, pre.isEmpty, post.isEmpty) ∧
      info.Around q lastE (post ++ liveOf back) ∧ info.thisPcieCore = some c.addr ∧ info.lastPciePortOnThis = some lastC :=
    ⟨_, ht.findHideInfo_eq hfuel hlive hq hlastE hlastC, ⟨rfl, rfl, rfl, rfl⟩, rfl, rfl⟩
  obtain ⟨h', hrun, hhidden, hprev⟩ :
      ∃ h', pcieComplexHidePcieCore fuel sib b.silicon (c.wrapId.setWidth 32) = .ok { sib with headers := h' } ∧
        sib.headers.Hidden h' front back b pre post q lastE ∧ (pre = [] → ∃ p ∈ front.getLast?, p.live ≠ []) := by
    -- what remains is the write for the place of the core
    unfold pcieComplexHidePcieCore
    rw [hinfo]
    rcases eq_nil_or_concat pre with hpre | ⟨pre', y, hpre⟩
    · -- the first core
      obtain ⟨x, rest, hrest⟩ := exists_cons_of_ne_nil (hafter hpre)
      unfold lastBefore at hq
      rw [hpre, getLast?_nil, none_or] at hq
      obtain ⟨p, hp, hplast⟩ := bind_eq_some_iff.mp hq
      obtain ⟨front', hfront⟩ := getLast?_eq_some_iff.mp hp
      obtain ⟨l, hl⟩ := getLast?_eq_some_iff.mp hplast
      obtain ⟨h', hwrite, hhidden⟩ := ht.hideFirst_eq hlive hbefore hlastE hfront hl hpre hrest haround hfuel.1.1
      refine ⟨h', ?_, hhidden, fun _ => ⟨p, hp, by simp [hl]⟩⟩
      simp only [hpre, Stop.ok_bind, isEmpty_nil, if_true, hwrite]
    · rw [concat_eq_append] at hpre
      obtain rfl : y = q := by simpa [lastBefore, hpre] using hq
      have hne : pre.isEmpty = false := by simp [hpre]
      by_cases hpost : post = []
      · obtain ⟨h', hwrite, hhidden⟩ := ht.hideLast_eq hlive hbefore hlastE hlastC hpre hpost haround hthis hfuel.1.1
        refine ⟨h', ?_, hhidden, fun hnil => by simp [hpre] at hnil⟩
        simp only [hne, hpost, Stop.ok_bind, isEmpty_nil, if_true, Bool.false_eq_true, if_false, hwrite]
      · obtain ⟨x, rest, hrest⟩ := exists_cons_of_ne_nil
          (append_ne_nil_of_left_ne_nil hpost (liveOf back))
        have hlast : post.isEmpty = false := by simpa using hpost
        obtain ⟨h', hwrite, hhidden⟩ := ht.hideMiddle_eq hlive hbefore hlastE hpre hpost hrest haround
        refine ⟨h', ?_, hhidden, fun hnil => by simp [hpre] at hnil⟩
        simp only [hne, hlast, Stop.ok_bind, Bool.false_eq_true, if_false, hwrite]
  refine ⟨h', hrun, ht.remove hlive hbefore hlastE hprev hhidden, fun a hkind hne flags => ?_⟩
  exact hhidden.relinked.has hne (ne_of_kind hkind (ht.kinds hlive hbefore hlastE).engine) flags

end OpenSil.Nbio
