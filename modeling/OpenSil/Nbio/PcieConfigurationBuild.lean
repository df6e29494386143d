import OpenSil.Nbio.PcieConfiguration

/-! # The topology that is built -/

namespace OpenSil.Nbio

open Chain List Nat Option BitVec Headers

/-! ## What the writes do -/

theorem toNat_offsetTo {base target : Nat} (hle : base ≤ target) (hlt : target < 2 ^ 16) :
    (offsetTo base target).toNat = target - base := by
  unfold offsetTo
  rw [toNat_ofInt]
  omega

namespace Headers
variable (h : Headers) {left right a : Nat}

@[simp] theorem modify_same (d : Nat) (f : DescriptorHeader → DescriptorHeader) : h.modify d f d = f (h d) := if_pos rfl

theorem modify_ne {d : Nat} (f : DescriptorHeader → DescriptorHeader) (hne : a ≠ d) : h.modify d f a = h a := if_neg hne

theorem link_ne (right : Nat) (hne : a ≠ left) : h.link left right a = h a := by
  unfold link resetDescriptorFlags attachPeer
  rw [modify_ne _ _ hne, modify_ne _ _ hne]

theorem link_same (left right : Nat) : h.link left right left =
    { h left with
      descriptorFlags := (h left).descriptorFlags &&& ~~~descriptorTerminateTopology, peer := offsetTo left right } := by
  unfold link resetDescriptorFlags attachPeer
  rw [modify_same, modify_same]

theorem link_agrees (left right a : Nat) : h.Agrees (h.link left right) a := by
  by_cases ha : a = left
  · subst ha
    constructor
    · unfold kind
      rw [link_same]
      dsimp only
      rw [BitVec.and_assoc, show ~~~descriptorTerminateTopology &&& kindMask = kindMask by decide]
    · rw [link_same]
    · rw [link_same]
  · exact agrees_of_eq (link_ne h right ha)

theorem link_has (left right a : Nat) {flags : BitVec 32} (hflags : ~~~descriptorTerminateTopology &&& flags = flags) :
    (h.link left right).has flags a = h.has flags a := by
  by_cases ha : a = left
  · subst ha
    unfold has
    rw [link_same]
    dsimp only
    rw [BitVec.and_assoc, hflags]
  · exact has_of_eq (link_ne h right ha) flags

theorem next_link_ne (right : Nat) (hne : a ≠ left) :
    (h.link left right).nextTopologyDescriptor a = h.nextTopologyDescriptor a :=
  next_of_eq (link_ne h right hne)

theorem link_not_last (left right : Nat) : (h.link left right).has descriptorTerminateTopology left = false := by
  unfold has
  rw [link_same]
  dsimp only
  rw [BitVec.and_assoc, show ~~~descriptorTerminateTopology &&& descriptorTerminateTopology = 0 by decide]
  simp

theorem next_link_same (hlt : left < right) (hright : right < 2 ^ 16) :
    (h.link left right).nextTopologyDescriptor left = some right := by
  unfold nextTopologyDescriptor
  rw [link_not_last, link_same, if_neg (by decide)]
  dsimp only
  rw [toNat_offsetTo hlt.le hright]
  congr 1
  omega

end Headers

/-! ## Joining two lists -/

namespace Headers
variable {h : Headers} {l r : List Nat} {left right : Nat}

theorem Listed.link_other {h₀ : Headers} {j k : BitVec 32} (hl : h.Listed l) (right : Nat) (hleft : h₀.kind left = j)
    (hkind : ∀ a ∈ l, h₀.kind a = k) (hne : k ≠ j := by decide) : (h.link left right).Listed l :=
  Path.congr hl fun a ha => next_link_ne h right (ne_of_kind (hkind a ha) hleft hne)

theorem Listed.link (hl : h.Listed (l ++ [left])) (hr : h.Listed r) (hright : r.head? = some right)
    (hasc : (l ++ [left] ++ r).Pairwise (· < ·)) (hbound : right < 2 ^ 16) :
    (h.link left right).Listed (l ++ [left] ++ r) := by
  rw [pairwise_append, pairwise_append] at hasc
  obtain ⟨⟨-, -, hbefore⟩, -, hafter⟩ := hasc
  have hnext : ∀ a ∈ l, (h.link left right).nextTopologyDescriptor a = h.nextTopologyDescriptor a := fun a ha =>
    next_link_ne h right (hbefore a ha left mem_cons_self).ne
  have hlt : left < right := hafter left (by simp) right (mem_of_mem_head? hright)
  have hother : (h.link left right).Listed r := Path.congr hr fun a ha =>
    next_link_ne h right (hafter left (by simp) a ha).ne'
  have hjoined := (Path.relink hl hnext (next_link_same h hlt hbound)).append
    (show Path _ (some right) r none from hright ▸ hother)
  unfold Listed
  rwa [head?_append_of_ne_nil _ (by simp)]

theorem getPeer_gnb {fuel first : Nat} {q : Option Nat} (hpath : Path h.nextTopologyDescriptor (some first) (l ++ [left]) q)
    (hasc : (l ++ [left]).Pairwise (· < ·)) (hmark : LastOnly (h.has descriptorTerminateGnb) (l ++ [left]))
    (hfuel : l.length < fuel) : pcieConfigGetPeer fuel h descriptorTerminateGnb first = some (some left) := by
  have hpeers : Path h.peerOf (some first) l (some left) := by
    clear hmark hfuel
    induction l generalizing first with
    | nil => exact hpath.1
    | cons a l ih =>
      rw [List.cons_append] at hpath hasc
      obtain ⟨hfirst, hpath⟩ := hpath
      obtain ⟨hlt, hasc⟩ := pairwise_cons.mp hasc
      obtain ⟨b, hb⟩ : ∃ b, (l ++ [left]).head? = some b := ⟨_, head?_eq_some_head (by simp)⟩
      have hnext : h.nextTopologyDescriptor a = some b := by
        rw [hpath.start_eq, hb]
        rfl
      refine ⟨hfirst, ?_⟩
      rw [peerOf_eq_of_next hnext (hlt b (mem_of_mem_head? hb))]
      exact ih (hnext ▸ hpath) hasc
  rw [lastOnly_append_singleton_iff] at hmark
  exact seek_of_path hpeers hmark.1 hmark.2 hfuel

theorem Placed.getChild_of_complex {fuel : Nat} {b : BridgeNode} {c : CoreNode} (hb : h.Placed b) (hc : c ∈ b.cores)
    (hchild : h.IsChild b.silicon c.addr) (hfuel : 5 ≤ fuel) :
    pcieConfigGetChild fuel h descriptorSilicon b.complex = some (some b.silicon) ∧
      pcieConfigGetChild fuel h descriptorPcieWrapper b.complex = some (some c.addr) ∧
      pcieConfigGetChild fuel h descriptorPcieEngine b.complex = some c.engines.head? := by
  have hcore := hb.core c hc
  obtain ⟨first, rest, hengines, hengine⟩ := hcore.child
  have hfirst := (hcore.engine first (hengines ▸ mem_cons_self)).1
  have hsilicon := hb.complexChild.childOf_eq
  refine ⟨?_, ?_, ?_⟩
  · exact seek_of_kinds [b.complex] ⟨rfl, hsilicon⟩ (.cons hb.complexKind .nil) hb.siliconKind hfuel
  · exact seek_of_kinds [b.complex, b.silicon] ⟨rfl, hsilicon, hchild.childOf_eq⟩
      (.cons hb.complexKind (.cons hb.siliconKind .nil)) hcore.kind hfuel
  · rw [hengines, head?_cons]
    exact seek_of_kinds [b.complex, b.silicon, c.addr] ⟨rfl, hsilicon, hchild.childOf_eq, hengine.childOf_eq⟩
      (.cons hb.complexKind (.cons hb.siliconKind (.cons hcore.kind .nil))) hfirst hfuel

structure Single (h : Headers) (b : BridgeNode) : Prop where
  placed : h.Placed b
  live : b.live.Sublist b.cores
  ends : h.has descriptorTerminateTopology b.silicon = true
  child : ∀ c ∈ b.live.head?, h.IsChild b.silicon c.addr
  wrappers : h.Listed (wrappersOf b.live)
  engines : h.Listed (enginesOf b.live)
  marked : h.Marked [b]

theorem Single.silicons {b : BridgeNode} (hb : h.Single b) : h.Listed [b.silicon] := by
  refine ⟨rfl, ?_⟩
  unfold nextTopologyDescriptor
  rw [hb.ends]
  rfl

section
variable {bs : List BridgeNode} (t : h.Linked bs)
include t

theorem Linked.kind_wrapper (hbs : Layout bs) :
    ∀ a ∈ wrappersOf (liveOf bs), h.kind a = descriptorPcieWrapper := by
  intro a ha
  obtain ⟨c, hc, rfl⟩ := mem_map.mp ha
  obtain ⟨_, -, -, hcore⟩ := t.placedCore hbs hc
  exact hcore.kind

theorem Linked.kind_engine (hbs : Layout bs) :
    ∀ a ∈ enginesOf (liveOf bs), h.kind a = descriptorPcieEngine := by
  intro a ha
  obtain ⟨c, hc, ha⟩ := mem_flatMap.mp ha
  obtain ⟨_, -, -, hcore⟩ := t.placedCore hbs hc
  exact (hcore.engine a ha).1

theorem Linked.kind_silicon :
    ∀ a ∈ bs.map (·.silicon), h.kind a = descriptorSilicon := by
  intro a ha
  obtain ⟨b, hb, rfl⟩ := mem_map.mp ha
  exact (t.placed b hb).siliconKind

end

theorem attachDescriptors_eq {fuel base new first : Nat} {type : BitVec 32}
    (hbase : pcieConfigGetChild fuel h type base = some (some first))
    (hpeer : pcieConfigGetPeer fuel h descriptorTerminateGnb first = some (some left))
    (hnew : pcieConfigGetChild fuel h type new = some (some right)) :
    pcieConfigAttachDescriptors fuel type base new h = some (h.link left right) := by
  unfold pcieConfigAttachDescriptors
  simp [hbase, hpeer, hnew]

end Headers

theorem Layout.append_left {bs bs' : List BridgeNode} (hbs : Layout (bs ++ bs')) : Layout bs where
  live b hb := hbs.live b (mem_append_left _ hb)
  complexes := hbs.complexes.sublist ((sublist_append_left bs bs').map _)
  silicons := hbs.silicons.sublist ((sublist_append_left bs bs').map _)
  wrappers := hbs.wrappers.sublist (((sublist_append_left bs bs').flatMap _).map _)
  engines := hbs.engines.sublist (((sublist_append_left bs bs').flatMap _).flatMap _)

/-! ## Joining two bridges -/

def Headers.joined (h : Headers) (p b : BridgeNode) (lastW firstW lastE firstE : Nat) : Headers :=
  (((h.link p.complex b.complex).link p.silicon b.silicon).link lastW firstW).link lastE firstE

section
variable {h : Headers} {p b : BridgeNode} {lastW firstW lastE firstE : Nat}

theorem Headers.joined_agrees (a : Nat) : h.Agrees (h.joined p b lastW firstW lastE firstE) a :=
  (((link_agrees _ _ _ a).trans (link_agrees _ _ _ a)).trans (link_agrees _ _ _ a)).trans (link_agrees _ _ _ a)

theorem Headers.joined_has (a : Nat) {flags : BitVec 32} (hflags : ~~~descriptorTerminateTopology &&& flags = flags) :
    (h.joined p b lastW firstW lastE firstE).has flags a = h.has flags a := by
  unfold joined
  rw [link_has _ _ _ _ hflags, link_has _ _ _ _ hflags, link_has _ _ _ _ hflags, link_has _ _ _ _ hflags]

theorem Headers.joined_of_ne {a : Nat} (hcomplex : a ≠ p.complex) (hsilicon : a ≠ p.silicon) (hwrapper : a ≠ lastW)
    (hengine : a ≠ lastE) : h.joined p b lastW firstW lastE firstE a = h a := by
  unfold joined
  rw [link_ne _ _ hengine, link_ne _ _ hwrapper, link_ne _ _ hsilicon, link_ne _ _ hcomplex]

end

section
variable {fuel : Nat} {h : Headers} {front : List BridgeNode} {p b : BridgeNode} {pre rest : List CoreNode}
  {last first : CoreNode} {el er : List Nat} {lastE firstE : Nat}
  (t : h.Linked (front ++ [p])) (hb : h.Single b) (hlayout : Layout (front ++ [p] ++ [b]))
  (hlast : p.live = pre ++ [last]) (hlastE : last.engines = el ++ [lastE])
  (hfirst : b.live = first :: rest) (hfirstE : first.engines = firstE :: er)
include t hb hlayout hlast hlastE hfirst hfirstE

theorem Headers.attachComplexes_eq (m : h.Marked (front ++ [p])) (hfuel : Enough fuel (front ++ [p])) :
    pcieConfigAttachComplexes fuel p.complex b.complex h =
      some (h.joined p b last.addr first.addr lastE firstE) := by
  have hbs := hlayout.append_left
  have hp : p ∈ front ++ [p] := by simp
  obtain ⟨c, cs, hc⟩ : ∃ c cs, p.live = c :: cs := exists_cons_of_ne_nil (by simp [hlast])
  have hcores : c ∈ p.cores := (hbs.live p hp).subset (hc ▸ mem_cons_self)
  have hchild : h.IsChild p.silicon c.addr := t.siliconChild front p [] c rfl (by simp [liveOf, hc])
  have hlastMem : last ∈ p.live := by simp [hlast]
  have hlastCore := (t.placed p hp).core last ((hbs.live p hp).subset hlastMem)
  have hwrappers : h.Listed (wrappersOf p.live) := (wrappersOf_concat front p ▸ t.wrappers).of_append
  have hengines : h.Listed (enginesOf p.live) := (enginesOf_concat front p ▸ t.engines).of_append
  have hkindW : ∀ a ∈ wrappersOf p.live, h.kind a = descriptorPcieWrapper := fun a ha =>
    t.kind_wrapper hbs a (by rw [wrappersOf_concat]; exact mem_append_right _ ha)
  have hkindE : ∀ a ∈ enginesOf p.live, h.kind a = descriptorPcieEngine := fun a ha =>
    t.kind_engine hbs a (by rw [enginesOf_concat]; exact mem_append_right _ ha)
  let h₁ := h.link p.complex b.complex
  let h₂ := h₁.link p.silicon b.silicon
  let h₃ := h₂.link last.addr first.addr
  have hdownP : ∀ h', (∀ a, h.Agrees h' a) → _ := fun h' ha =>
    ((t.placed p hp).congr_all ha).getChild_of_complex hcores (hchild.congr (ha _).child) hfuel.1
  have hdownB : ∀ h', (∀ a, h.Agrees h' a) → _ := fun h' ha =>
    (hb.placed.congr_all ha).getChild_of_complex (hb.live.subset (hfirst ▸ mem_cons_self))
      ((hb.child first (by simp [hfirst])).congr (ha _).child) hfuel.1
  -- silicon
  have ha₁ : ∀ a, h.Agrees h₁ a := link_agrees h _ _
  have hstep₁ : pcieConfigAttachDescriptors fuel descriptorSilicon p.complex b.complex h₁ = some h₂ := by
    refine attachDescriptors_eq (hdownP _ ha₁).1 (getPeer_gnb (l := []) ⟨rfl, rfl⟩ (by simp) ?_ ?_) (hdownB _ ha₁).1
    · exact (link_has h _ _ _ (by decide)).trans (m.silicons p hp).1
    · exact lt_of_lt_of_le (by simp) hfuel.1
  -- wrappers
  have hgnb : ∀ a, h₂.has descriptorTerminateGnb a = h.has descriptorTerminateGnb a := fun a =>
    (link_has h₁ _ _ a (by decide)).trans (link_has h _ _ a (by decide))
  have ha₂ : ∀ a, h.Agrees h₂ a := fun a => (ha₁ a).trans (link_agrees _ _ _ a)
  have hW : wrappersOf p.live = wrappersOf pre ++ [last.addr] := by rw [hlast, wrappersOf_append]; rfl
  have hstep₂ : pcieConfigAttachDescriptors fuel descriptorPcieWrapper p.complex b.complex h₂ = some h₃ := by
    have hlisted := (hwrappers.link_other b.complex (t.placed p hp).complexKind hkindW).link_other b.silicon
      (t.placed p hp).siliconKind hkindW
    have hstart : (wrappersOf p.live).head? = some c.addr := by rw [hc]; rfl
    have hmark := (m.wrappers p hp).congr fun a _ => hgnb a
    have hasc := hbs.wrappers
    have hlength := hfuel.2.2.1
    rw [wrappersOf_concat, hW] at hasc hlength
    simp only [length_append] at hlength
    unfold Listed at hlisted
    rw [hstart, hW] at hlisted
    refine attachDescriptors_eq (hdownP _ ha₂).2.1 (getPeer_gnb hlisted ?_ (hW ▸ hmark) (by omega)) (hdownB _ ha₂).2.1
    exact (pairwise_append.mp hasc).2.1
  -- engines
  have ha₃ : ∀ a, h.Agrees h₃ a := fun a => (ha₂ a).trans (link_agrees _ _ _ a)
  have hE : enginesOf p.live = (enginesOf pre ++ el) ++ [lastE] := by
    rw [hlast, enginesOf_append]
    simp [hlastE]
  have hstep₃ : pcieConfigAttachDescriptors fuel descriptorPcieEngine p.complex b.complex h₃ =
      some (h.joined p b last.addr first.addr lastE firstE) := by
    have hlisted := ((hengines.link_other b.complex (t.placed p hp).complexKind hkindE).link_other b.silicon
      (t.placed p hp).siliconKind hkindE).link_other first.addr hlastCore.kind hkindE
    obtain ⟨e, es, hcons, -⟩ := ((t.placed p hp).core c hcores).child
    have hstart : (enginesOf p.live).head? = some e := by simp [hc, enginesOf, hcons]
    have hmark := (m.engines p hp).congr fun a _ =>
      (link_has h₂ last.addr first.addr a (by decide)).trans (hgnb a)
    have hasc := hbs.engines
    have hlength := hfuel.2.2.2
    rw [enginesOf_concat, hE] at hasc hlength
    simp only [length_append] at hlength
    unfold Listed at hlisted
    rw [hstart, hE] at hlisted
    have hchildP := (hdownP _ ha₃).2.2
    have hchildB := (hdownB _ ha₃).2.2
    rw [hcons] at hchildP
    rw [hfirstE] at hchildB
    refine attachDescriptors_eq hchildP (getPeer_gnb hlisted ?_ (hE ▸ hmark) ?_) hchildB
    · exact (pairwise_append.mp hasc).2.1
    · simp only [length_append]
      omega
  unfold pcieConfigAttachComplexes
  rw [hstep₁, bind_eq_bind, bind_some, hstep₂, bind_some, hstep₃]

theorem Headers.joined_linked
    (hbound : b.silicon < 2 ^ 16 ∧ first.addr < 2 ^ 16 ∧ firstE < 2 ^ 16) :
    (h.joined p b last.addr first.addr lastE firstE).Linked (front ++ [p] ++ [b]) := by
  have hbs := hlayout.append_left
  have hp : p ∈ front ++ [p] := by simp
  have hplaced := t.placed p hp
  have hlastMem : last ∈ p.live := by simp [hlast]
  have hlastCore := hplaced.core last ((hbs.live p hp).subset hlastMem)
  have hkindLastE := (hlastCore.engine lastE (by simp [hlastE])).1
  have hfirstCore := hb.placed.core first (hb.live.subset (by simp [hfirst]))
  have hcoresB : ∀ c ∈ b.live, h.PlacedCore b.silicon c := fun c hc => hb.placed.core c (hb.live.subset hc)
  have hkindWB : ∀ a ∈ wrappersOf b.live, h.kind a = descriptorPcieWrapper := by
    intro a ha
    obtain ⟨c, hc, rfl⟩ := mem_map.mp ha
    exact (hcoresB c hc).kind
  have hkindEB : ∀ a ∈ enginesOf b.live, h.kind a = descriptorPcieEngine := by
    intro a ha
    obtain ⟨c, hc, ha⟩ := mem_flatMap.mp ha
    exact ((hcoresB c hc).engine a ha).1
  constructor
  · exact (joined_agrees 0).kind.trans t.platformKind
  · intro x hx
    rw [head?_append_of_ne_nil _ (by simp)] at hx
    exact (t.platformChild x hx).congr (joined_agrees 0).child
  · intro x hx
    rcases mem_append.mp hx with hx | hx
    · exact (t.placed x hx).congr_all joined_agrees
    · obtain rfl := mem_singleton.mp hx
      exact hb.placed.congr_all joined_agrees
  · have hS : (front ++ [p]).map (·.silicon) = front.map (·.silicon) ++ [p.silicon] := by simp
    have hold : h.Listed (front.map (·.silicon) ++ [p.silicon]) := hS ▸ t.silicons
    have hkind := t.kind_silicon
    rw [hS] at hkind
    have hasc := hlayout.silicons
    rw [map_append, hS] at hasc
    rw [map_append, hS]
    have hkindAll : ∀ a ∈ front.map (·.silicon) ++ [p.silicon] ++ [b.silicon], h.kind a = descriptorSilicon := by
      intro a ha
      rcases mem_append.mp ha with ha | ha
      · exact hkind a ha
      · rw [mem_singleton.mp ha]
        exact hb.placed.siliconKind
    refine ((Listed.link ?_ ?_ rfl hasc hbound.1).link_other _ hlastCore.kind hkindAll).link_other _ hkindLastE hkindAll
    · exact hold.link_other _ hplaced.complexKind hkind
    · refine hb.silicons.link_other _ hplaced.complexKind (k := descriptorSilicon) ?_ (by decide)
      simpa using hb.placed.siliconKind
  · have hW : wrappersOf (liveOf (front ++ [p])) = (wrappersOf (liveOf front) ++ wrappersOf pre) ++ [last.addr] := by
      rw [wrappersOf_concat, hlast, wrappersOf_append, List.append_assoc]
      rfl
    have hold := t.wrappers
    have hkind := t.kind_wrapper hbs
    rw [hW] at hold hkind
    have hasc := hlayout.wrappers
    rw [wrappersOf_concat, hW] at hasc
    rw [wrappersOf_concat, hW]
    have hkindAll : ∀ a ∈ wrappersOf (liveOf front) ++ wrappersOf pre ++ [last.addr] ++ wrappersOf b.live,
        h.kind a = descriptorPcieWrapper := fun a ha => (mem_append.mp ha).elim (hkind a) (hkindWB a)
    refine (Listed.link ?_ ?_ (by rw [hfirst]; rfl) hasc hbound.2.1).link_other _ hkindLastE hkindAll
    · exact (hold.link_other _ hplaced.complexKind hkind).link_other _ hplaced.siliconKind hkind
    · exact (hb.wrappers.link_other _ hplaced.complexKind hkindWB).link_other _ hplaced.siliconKind hkindWB
  · have hE : enginesOf (liveOf (front ++ [p])) = (enginesOf (liveOf front) ++ enginesOf pre ++ el) ++ [lastE] := by
      rw [enginesOf_concat, hlast, enginesOf_append]
      simp [hlastE]
    have hold := t.engines
    have hkind := t.kind_engine hbs
    rw [hE] at hold hkind
    have hasc := hlayout.engines
    rw [enginesOf_concat, hE] at hasc
    rw [enginesOf_concat, hE]
    refine Listed.link ?_ ?_ (by rw [hfirst]; simp [enginesOf, hfirstE]) hasc hbound.2.2
    · exact ((hold.link_other _ hplaced.complexKind hkind).link_other _ hplaced.siliconKind hkind).link_other _
        hlastCore.kind hkind
    · exact ((hb.engines.link_other _ hplaced.complexKind hkindEB).link_other _ hplaced.siliconKind hkindEB).link_other _
        hlastCore.kind hkindEB
  · intro front' b' back c hsplit hc
    apply IsChild.congr _ (joined_agrees _).child
    rcases eq_nil_or_concat back with rfl | ⟨back, x, rfl⟩
    · obtain ⟨-, rfl⟩ := append_inj' hsplit rfl |>.imp_right (cons.inj · |>.1)
      exact hb.child c (by simpa [liveOf] using hc)
    · rw [List.concat_eq_append, ← List.cons_append, ← List.append_assoc] at hsplit
      obtain ⟨hsplit, -⟩ := append_inj' hsplit rfl
      refine t.siliconChild front' b' back c hsplit ?_
      rw [List.concat_eq_append, ← List.cons_append, liveOf_append, head?_append_of_ne_nil] at hc
      · exact hc
      · -- `p` is among these bridges and has a live core
        intro hnil
        have hpback : p ∈ b' :: back := by
          have := congrArg getLast? hsplit
          rw [getLast?_append_of_ne_nil _ (by simp), getLast?_append_of_ne_nil _ (by simp)] at this
          exact mem_of_getLast? this.symm
        have : last ∈ liveOf (b' :: back) := mem_liveOf.mpr ⟨p, hpback, hlastMem⟩
        rw [hnil] at this
        simp at this

omit hfirst hfirstE in
theorem Headers.joined_marked (m : h.Marked (front ++ [p])) :
    (h.joined p b last.addr first.addr lastE firstE).Marked (front ++ [p] ++ [b]) := by
  have hbs := hlayout.append_left
  have hp : p ∈ front ++ [p] := by simp
  have hlastCore := (t.placed p hp).core last ((hbs.live p hp).subset (by simp [hlast]))
  have hkindLastE := (hlastCore.engine lastE (by simp [hlastE])).1
  have hgnb : ∀ a, (h.joined p b last.addr first.addr lastE firstE).has descriptorTerminateGnb a =
      h.has descriptorTerminateGnb a := fun a => joined_has a (by decide)
  have hlist : ∀ a, (h.joined p b last.addr first.addr lastE firstE).has descriptorTerminateList a =
      h.has descriptorTerminateList a := fun a => joined_has a (by decide)
  constructor
  · -- of the complexes, only the last one of `front ++ [p]` changes
    have hold := m.complexes
    have hasc := hlayout.complexes
    rw [map_append, map_singleton] at hold
    rw [map_append, map_append, map_singleton, map_singleton] at hasc ⊢
    rw [pairwise_append, pairwise_append] at hasc
    obtain ⟨⟨-, -, hfront⟩, -, hall⟩ := hasc
    rw [lastOnly_append_singleton_iff] at hold ⊢
    have hother : ∀ x ∈ front ++ [p] ++ [b], x.complex ≠ p.complex →
        h.joined p b last.addr first.addr lastE firstE x.complex = h x.complex := by
      intro x hx hne
      have hkind : h.kind x.complex = descriptorComplex := by
        rcases mem_append.mp hx with hx | hx
        · exact (t.placed x hx).complexKind
        · rw [mem_singleton.mp hx]
          exact hb.placed.complexKind
      exact joined_of_ne hne (ne_of_kind hkind (t.placed p hp).siliconKind)
        (ne_of_kind hkind hlastCore.kind) (ne_of_kind hkind hkindLastE)
    constructor
    · intro a ha
      rcases mem_append.mp ha with ha | ha
      · obtain ⟨x, hx, rfl⟩ := mem_map.mp ha
        rw [has_of_eq (hother x (by simp [hx]) (hfront _ ha _ mem_cons_self).ne)]
        exact hold.1 _ ha
      · rw [mem_singleton.mp ha]
        unfold joined
        have hkind := (t.placed p hp).complexKind
        rw [has_of_eq (link_ne _ _ (ne_of_kind hkind hkindLastE)),
          has_of_eq (link_ne _ _ (ne_of_kind hkind hlastCore.kind)),
          has_of_eq (link_ne _ _ (ne_of_kind hkind (t.placed p hp).siliconKind))]
        exact link_not_last h _ _
    · rw [has_of_eq (hother b (by simp) (hall _ (by simp) _ mem_cons_self).ne')]
      exact hb.marked.complexes
  · intro x hx
    rw [hgnb, hlist]
    exact (mem_append.mp hx).elim (m.silicons x) (hb.marked.silicons x)
  · intro x hx
    exact ((mem_append.mp hx).elim (m.wrappers x) (hb.marked.wrappers x)).congr fun a _ => hgnb a
  · intro x hx
    exact ((mem_append.mp hx).elim (m.engines x) (hb.marked.engines x)).congr fun a _ => hgnb a
  · intro x hx
    simp only [hlist]
    exact (mem_append.mp hx).elim (m.lists x) (hb.marked.lists x)

end

/-! ## Templates -/

namespace CoreNode

def shift (base : Nat) (c : CoreNode) : CoreNode := ⟨base + c.addr, c.wrapId, c.engines.map (base + ·)⟩

theorem shift_addr (base : Nat) (c : CoreNode) : (c.shift base).addr = base + c.addr := rfl

end CoreNode

/-- A template is a tree of a silicon descriptor, wrappers and engines, in lists that end with the template. -/
structure ComplexTree (t : ComplexTemplate) where
  cores : List CoreNode
  cores_ne : cores ≠ []
  siliconKind : t.headers.kind 0 = descriptorSilicon
  siliconEnds : ∀ flags ∈ [descriptorTerminateTopology, descriptorTerminateGnb, descriptorTerminateList],
    t.headers.has flags 0 = true
  siliconChild : ∀ c ∈ cores.head?, t.headers.IsChild 0 c.addr
  core : ∀ c ∈ cores, t.headers.PlacedCore 0 c
  wrappers : t.headers.Listed (wrappersOf cores)
  engines : t.headers.Listed (enginesOf cores)
  gnbWrappers : LastOnly (t.headers.has descriptorTerminateGnb) (wrappersOf cores)
  gnbEngines : LastOnly (t.headers.has descriptorTerminateGnb) (enginesOf cores)
  listWrappers : LastOnly (t.headers.has descriptorTerminateList) (wrappersOf cores)
  wrapIds : ∀ c ∈ cores, t.wrapId c.addr = c.wrapId
  ascendingWrappers : (wrappersOf cores).Pairwise (· < ·)
  ascendingEngines : (enginesOf cores).Pairwise (· < ·)
  bound : ∀ c ∈ cores, c.addr < t.size ∧ ∀ e ∈ c.engines, e < t.size

open CoreNode

theorem wrappersOf_shift (base : Nat) (cs : List CoreNode) :
    wrappersOf (cs.map (·.shift base)) = (wrappersOf cs).map (base + ·) := by
  simp [wrappersOf, shift]

theorem enginesOf_shift (base : Nat) (cs : List CoreNode) :
    enginesOf (cs.map (·.shift base)) = (enginesOf cs).map (base + ·) := by
  simp [enginesOf, shift, flatMap_map, map_flatMap]

section
variable {t : ComplexTemplate} {h : Headers} {base : Nat}
  (hcopy : ∀ a, 0 < a → a < t.size → h (base + a) = t.headers a)
include hcopy

theorem next_copied {a : Nat} (hpos : 0 < a) (hlt : a < t.size) :
    h.nextTopologyDescriptor (base + a) = (t.headers.nextTopologyDescriptor a).map (base + ·) := by
  unfold nextTopologyDescriptor has
  rw [hcopy a hpos hlt]
  split_ifs
  · rfl
  · simp [add_assoc]

theorem placedCore_copied {c : CoreNode} (hc : t.headers.PlacedCore 0 c) (haddr : c.addr < t.size)
    (hengines : ∀ e ∈ c.engines, e < t.size) : h.PlacedCore base (c.shift base) := by
  have hpos := hc.parent.1
  have heq := hcopy c.addr hpos haddr
  have hengine : ∀ e ∈ c.engines, h (base + e) = t.headers e := fun e he =>
    hcopy e (hpos.trans (hc.engine e he).2.1) (hengines e he)
  constructor
  · unfold kind
    rw [shift_addr, heq]
    exact hc.kind
  · refine ⟨Nat.lt_add_of_pos_right hpos, ?_⟩
    have := hc.parent.2
    rw [shift_addr, heq]
    omega
  · obtain ⟨first, rest, hengines, hchild⟩ := hc.child
    refine ⟨base + first, rest.map (base + ·), by simp [shift, hengines], ?_⟩
    have := hchild.2
    refine ⟨Nat.add_lt_add_left hchild.1 base, ?_⟩
    rw [shift_addr, heq]
    omega
  · intro _ hmem
    obtain ⟨e, he, rfl⟩ := mem_map.mp hmem
    obtain ⟨hkind, hlt, hparent⟩ := hc.engine e he
    refine ⟨?_, Nat.add_lt_add_left hlt base, ?_⟩
    · unfold kind
      rw [hengine e he]
      exact hkind
    · rw [shift_addr, hengine e he]
      omega

end

def ComplexTree.node {t : ComplexTemplate} (tree : ComplexTree t) (complex base : Nat) : BridgeNode :=
  ⟨complex, base, tree.cores.map (·.shift base), tree.cores.map (·.shift base)⟩

def Headers.placed (h : Headers) (t : ComplexTemplate) (complex base : Nat) : Headers :=
  ((((h.attachChild complex base).attachParent 0 complex).setDescriptorFlags complex complexFlags).copy base t.size
    t.headers).attachParent complex base

section
variable {h : Headers} {t : ComplexTemplate} {cx base : Nat} {source : Headers} {a size : Nat}

theorem Headers.copy_outside (hlt : a < base) : h.copy base size source a = h a :=
  if_neg (by omega)

theorem Headers.copy_inside (hlt : a < size) :
    h.copy base size source (base + a) = source a :=
  (if_pos (by omega)).trans (by rw [Nat.add_sub_cancel_left])

theorem Headers.placed_below {a : Nat} (hlt : a < base) (hne : a ≠ cx) : h.placed t cx base a = h a := by
  unfold placed attachParent setDescriptorFlags attachChild
  rw [modify_ne _ _ hlt.ne, copy_outside hlt, modify_ne _ _ hne, modify_ne _ _ hne, modify_ne _ _ hne]

theorem Headers.placed_complex (hlt : cx < base) : h.placed t cx base cx =
    ⟨(h cx).descriptorFlags ||| complexFlags, offsetTo 0 cx, (h cx).peer, offsetTo cx base⟩ := by
  unfold placed attachParent setDescriptorFlags attachChild
  rw [modify_ne _ _ hlt.ne, copy_outside hlt, modify_same, modify_same, modify_same]

theorem Headers.placed_silicon (hsize : 0 < t.size) : h.placed t cx base base =
    { t.headers 0 with parent := offsetTo cx base } := by
  unfold placed attachParent
  rw [modify_same, show base = base + 0 from rfl, copy_inside hsize]

theorem Headers.placed_copied (a : Nat) (hpos : 0 < a) (hlt : a < t.size) :
    h.placed t cx base (base + a) = t.headers a := by
  unfold placed attachParent
  rw [modify_ne _ _ (by omega), copy_inside hlt]

theorem Headers.placed_has_silicon (hsize : 0 < t.size) (flags : BitVec 32) :
    (h.placed t cx base).has flags base = t.headers.has flags 0 := by
  unfold has
  rw [placed_silicon hsize]

theorem Headers.placed_has_copied {a : Nat} (hpos : 0 < a) (hlt : a < t.size) (flags : BitVec 32) :
    (h.placed t cx base).has flags (base + a) = t.headers.has flags a := by
  unfold has
  rw [placed_copied a hpos hlt]

theorem Headers.Listed.copied {l : List Nat} (hl : t.headers.Listed l) (hbound : ∀ a ∈ l, 0 < a ∧ a < t.size) :
    (h.placed t cx base).Listed (l.map (base + ·)) := by
  have hcopy : ∀ a, 0 < a → a < t.size → h.placed t cx base (base + a) = t.headers a := placed_copied
  have := Chain.Path.map hl (f := (base + ·)) fun a ha => next_copied hcopy (hbound a ha).1 (hbound a ha).2
  unfold Listed
  rwa [head?_map]

end

namespace ComplexTree
variable {t : ComplexTemplate} (tree : ComplexTree t)

theorem bound_wrapper : ∀ a ∈ wrappersOf tree.cores, 0 < a ∧ a < t.size := by
  intro a ha
  obtain ⟨c, hc, rfl⟩ := mem_map.mp ha
  exact ⟨(tree.core c hc).parent.1, (tree.bound c hc).1⟩

theorem bound_engine : ∀ a ∈ enginesOf tree.cores, 0 < a ∧ a < t.size := by
  intro a ha
  obtain ⟨c, hc, ha⟩ := mem_flatMap.mp ha
  exact ⟨zero_lt_of_lt ((tree.core c hc).engine a ha).2.1, (tree.bound c hc).2 a ha⟩

include tree in
theorem size_pos : 0 < t.size := by
  obtain ⟨c, hc⟩ := exists_mem_of_ne_nil _ tree.cores_ne
  exact zero_lt_of_lt (tree.bound c hc).1

variable {h : Headers} {cx base : Nat}

theorem marked_node (hlt : cx < base) (hfresh : h cx = ⟨0, 0, 0, 0⟩) :
    (h.placed t cx base).Marked [tree.node cx base] := by
  have hlist : ∀ (a : Nat) (flags : BitVec 32), 0 < a ∧ a < t.size →
      (h.placed t cx base).has flags (base + a) = t.headers.has flags a := fun a flags ha =>
    placed_has_copied ha.1 ha.2 flags
  constructor
  · show (h.placed t cx base).has descriptorTerminateTopology cx = true
    unfold has
    rw [decide_eq_true_eq, placed_complex hlt, hfresh]
    dsimp only
    decide
  · intro b hb
    rw [mem_singleton.mp hb]
    exact ⟨(placed_has_silicon tree.size_pos _).trans (tree.siliconEnds _ (by simp)),
      (placed_has_silicon tree.size_pos _).trans (tree.siliconEnds _ (by simp))⟩
  · intro b hb
    rw [mem_singleton.mp hb, node, wrappersOf_shift]
    exact tree.gnbWrappers.map fun a ha => hlist a _ (tree.bound_wrapper a ha)
  · intro b hb
    rw [mem_singleton.mp hb, node, enginesOf_shift]
    exact tree.gnbEngines.map fun a ha => hlist a _ (tree.bound_engine a ha)
  · intro b hb last hlast
    rw [mem_singleton.mp hb] at hlast ⊢
    obtain ⟨front, c, hcores⟩ : ∃ front c, tree.cores = front ++ [c] := by
      obtain ⟨front, c, hconcat⟩ := (eq_nil_or_concat tree.cores).resolve_left tree.cores_ne
      exact ⟨front, c, hconcat.trans concat_eq_append⟩
    have hlast : last = c.shift base := by
      simpa [node, hcores, eq_comm] using hlast
    have hmarks := tree.listWrappers
    rw [hcores, wrappersOf_append, wrappersOf_singleton, lastOnly_append_singleton_iff] at hmarks
    have hmem : ∀ d ∈ tree.cores, 0 < d.addr ∧ d.addr < t.size := fun d hd =>
      tree.bound_wrapper d.addr (mem_map.mpr ⟨d, hd, rfl⟩)
    subst hlast
    refine ⟨(hlist _ _ (hmem c (by simp [hcores]))).trans hmarks.2, ?_⟩
    intro _ hshifted hlt
    obtain ⟨d, hd, rfl⟩ := mem_map.mp hshifted
    refine (hlist _ _ (hmem d hd)).trans ?_
    rw [hcores] at hd
    rcases mem_append.mp hd with hd | hd
    · exact hmarks.1 _ (mem_map.mpr ⟨d, hd, rfl⟩)
    · rw [mem_singleton.mp hd] at hlt
      exact absurd hlt (lt_irrefl _)

theorem single_node (hpos : 0 < cx) (hlt : cx < base) (hfresh : h cx = ⟨0, 0, 0, 0⟩)
    (hbound : base + t.size < 2 ^ 16) : (h.placed t cx base).Single (tree.node cx base) := by
  have hcomplex := placed_complex (h := h) (t := t) hlt
  rw [hfresh] at hcomplex
  have hcopy : ∀ a, 0 < a → a < t.size → h.placed t cx base (base + a) = t.headers a := placed_copied
  have hsilicon : h.placed t cx base base = { t.headers 0 with parent := offsetTo cx base } :=
    placed_silicon tree.size_pos
  refine ⟨⟨?_, ?_, ?_, ?_, ?_, ?_⟩, Sublist.refl _, ?_, ?_, ?_, ?_, tree.marked_node hlt hfresh⟩
  · unfold kind node
    rw [hcomplex]
    dsimp only
    decide
  · refine ⟨hpos, ?_⟩
    unfold node
    rw [hcomplex]
    dsimp only
    rw [toNat_offsetTo (zero_le _) (by omega)]
    omega
  · refine ⟨hlt, ?_⟩
    unfold node
    rw [hcomplex]
    dsimp only
    rw [toNat_offsetTo hlt.le (by omega)]
    omega
  · unfold kind node
    rw [hsilicon]
    exact tree.siliconKind
  · refine ⟨hlt, ?_⟩
    unfold node
    rw [hsilicon]
    dsimp only
    rw [toNat_offsetTo hlt.le (by omega)]
    omega
  · intro d hd
    obtain ⟨c, hc, rfl⟩ := mem_map.mp hd
    exact placedCore_copied hcopy (tree.core c hc) (tree.bound c hc).1 (tree.bound c hc).2
  · exact (placed_has_silicon tree.size_pos _).trans (tree.siliconEnds _ (by simp))
  · intro d hd
    unfold node at hd
    rw [head?_map] at hd
    obtain ⟨c, hc, rfl⟩ := map_eq_some_iff.mp hd
    obtain ⟨hcpos, hchild⟩ := tree.siliconChild c hc
    refine ⟨Nat.lt_add_of_pos_right hcpos, ?_⟩
    unfold node
    rw [hsilicon, shift_addr]
    dsimp only
    omega
  · unfold node
    rw [wrappersOf_shift]
    exact tree.wrappers.copied tree.bound_wrapper
  · unfold node
    rw [enginesOf_shift]
    exact tree.engines.copied tree.bound_engine

end ComplexTree

end OpenSil.Nbio
