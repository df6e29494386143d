import OpenSil.Nbio.PcieConfigurationBuild

/-! # All root bridges -/

namespace OpenSil.Nbio

open Chain List Nat Option Headers

structure Built (s : Building) (bs : List BridgeNode) : Prop where
  index : s.complexIndex = bs.length
  complexes : ∀ i b, bs[i]? = some b → b.complex = complexAddr i
  platformChild : s.sib.headers.IsChild 0 (complexAddr 0)
  linked : s.sib.headers.Linked bs
  marked : s.sib.headers.Marked bs
  layout : Layout bs
  live : ∀ b ∈ bs, b.live = b.cores ∧ b.live ≠ []
  bound : ∀ b ∈ bs, b.silicon < s.buffer ∧ ∀ c ∈ b.cores, c.addr < s.buffer ∧ ∀ e ∈ c.engines, e < s.buffer
  buffer : complexConfigs ≤ s.buffer
  fresh : ∀ i, bs.length ≤ i → i < maxNumberOfComplexes → s.sib.headers (complexAddr i) = ⟨0, 0, 0, 0⟩
  instances : ∀ i b, bs[i]? = some b → (s.sib.silicon b.silicon).instanceId = BitVec.ofNat 8 i
  wrapIds : ∀ b ∈ bs, ∀ c ∈ b.cores, s.sib.wrapId c.addr = c.wrapId

theorem built_start (sib : PcieSib) : Built ⟨startSib sib, complexConfigs, 0⟩ [] := by
  have hzero : (startSib sib).headers 0 =
      ⟨0 ||| (descriptorPlatform ||| descriptorTerminateList ||| descriptorTerminateTopology), 0, 0,
        offsetTo 0 (complexAddr 0)⟩ := by
    rfl
  constructor
  · rfl
  · simp
  · refine ⟨by decide, ?_⟩
    show 0 + ((startSib sib).headers 0).child.toNat = _
    rw [hzero]
    decide
  · constructor
    · unfold kind
      show ((startSib sib).headers 0).descriptorFlags &&& _ = _
      rw [hzero]
      decide
    · simp
    · simp
    · rfl
    · rfl
    · rfl
    · simp
  · exact ⟨trivial, by simp, by simp, by simp, by simp⟩
  · exact ⟨by simp, by simp, by simp, Pairwise.nil, Pairwise.nil⟩
  · simp
  · simp
  · exact le_refl _
  · intro i _ hi
    have hpos : complexAddr i ≠ 0 := by unfold complexAddr; omega
    have hlt : complexAddr i < complexConfigs := by unfold complexAddr complexConfigs complexAddr; omega
    unfold startSib setDescriptorFlags attachChild
    dsimp only
    rw [modify_ne _ _ hpos, modify_ne _ _ hpos]
    exact if_pos hlt
  · simp
  · simp

theorem complexAddr_lt {i : Nat} (hi : i < maxNumberOfComplexes) : complexAddr i < complexConfigs := by
  unfold complexConfigs complexAddr
  omega

theorem complexAddr_injective {i j : Nat} (h : complexAddr i = complexAddr j) : i = j := by
  unfold complexAddr at h
  omega

open ComplexTree

section
variable {fuel : Nat} {s : Building} {bs : List BridgeNode} {bridge : RootBridge}

/-! ## One bridge -/

namespace Built
variable (hs : Built s bs) (hindex : bs.length < maxNumberOfComplexes)
include hs hindex

theorem complex_lt : complexAddr bs.length < s.buffer := (complexAddr_lt hindex).trans_le hs.buffer

theorem kind_fresh : s.sib.headers.kind (complexAddr bs.length) = 0 := by
  unfold kind
  rw [hs.fresh bs.length (le_refl _) hindex]
  rfl

theorem same_placed (t : ComplexTemplate) {b : BridgeNode} (hb : b ∈ bs) :
    s.sib.headers.SameBridge (s.sib.headers.placed t (complexAddr bs.length) s.buffer) b := by
  have hplaced := hs.linked.placed b hb
  obtain ⟨hsilicon, hcores⟩ := hs.bound b hb
  have hne : ∀ {a : Nat} {k : BitVec 32}, s.sib.headers.kind a = k → k ≠ 0 → a ≠ complexAddr bs.length :=
    fun hkind hk => ne_of_kind hkind (hs.kind_fresh hindex) hk
  refine ⟨?_, placed_below hsilicon (hne hplaced.siliconKind (by decide)), fun c hc => ?_⟩
  · obtain ⟨i, hi⟩ := getElem?_of_mem hb
    have hlt : i < bs.length := (List.getElem?_eq_some_iff.mp hi).1
    have hcomplex := hs.complexes i b hi
    have hbelow : b.complex < s.buffer := by
      rw [hcomplex]
      exact (complexAddr_lt (hlt.trans hindex)).trans_le hs.buffer
    refine placed_below hbelow (hne hplaced.complexKind (by decide))
  · have hcore := hplaced.core c hc
    obtain ⟨haddr, hengines⟩ := hcores c hc
    exact ⟨placed_below haddr (hne hcore.kind (by decide)), fun e he =>
      placed_below (hengines e he) (hne (hcore.engine e he).1 (by decide))⟩

omit hindex in
theorem layout_concat {t : ComplexTemplate} (tree : ComplexTree t) :
    Layout (bs ++ [tree.node (complexAddr bs.length) s.buffer]) := by
  have hbs := hs.layout
  constructor
  · intro b hb
    rcases mem_append.mp hb with hb | hb
    · exact hbs.live b hb
    · rw [mem_singleton.mp hb]
      exact Sublist.refl _
  · rw [map_append, pairwise_append]
    refine ⟨hbs.complexes, pairwise_singleton _ _, ?_⟩
    intro a ha a' ha'
    obtain ⟨b, hb, rfl⟩ := mem_map.mp ha
    obtain ⟨i, hi⟩ := getElem?_of_mem hb
    have hlt : i < bs.length := (List.getElem?_eq_some_iff.mp hi).1
    rw [map_singleton, mem_singleton] at ha'
    rw [ha', hs.complexes i b hi]
    unfold node complexAddr
    dsimp only
    omega
  · rw [map_append, pairwise_append]
    refine ⟨hbs.silicons, pairwise_singleton _ _, ?_⟩
    intro a ha a' ha'
    obtain ⟨b, hb, rfl⟩ := mem_map.mp ha
    rw [map_singleton, mem_singleton] at ha'
    rw [ha']
    exact (hs.bound b hb).1
  · rw [wrappersOf_concat, pairwise_append, node, wrappersOf_shift]
    refine ⟨hbs.wrappers, tree.ascendingWrappers.map _ fun _ _ hlt => Nat.add_lt_add_left hlt _, ?_⟩
    intro a ha a' ha'
    obtain ⟨c, hc, rfl⟩ := mem_map.mp ha
    obtain ⟨b, hb, hc⟩ := mem_liveOf.mp hc
    obtain ⟨d, -, rfl⟩ := mem_map.mp ha'
    exact Nat.lt_add_right _ ((hs.bound b hb).2 c ((hbs.live b hb).subset hc)).1
  · rw [enginesOf_concat, pairwise_append, node, enginesOf_shift]
    refine ⟨hbs.engines, tree.ascendingEngines.map _ fun _ _ hlt => Nat.add_lt_add_left hlt _, ?_⟩
    intro a ha a' ha'
    obtain ⟨c, hc, ha⟩ := mem_flatMap.mp ha
    obtain ⟨b, hb, hc⟩ := mem_liveOf.mp hc
    obtain ⟨d, -, rfl⟩ := mem_map.mp ha'
    exact Nat.lt_add_right _ (((hs.bound b hb).2 c ((hbs.live b hb).subset hc)).2 a ha)

end Built

theorem getChild_attachParent (h : Headers) (p c d : Nat) (type : BitVec 32) :
    pcieConfigGetChild fuel (h.attachParent p c) type d = pcieConfigGetChild fuel h type d := by
  have hflags : ∀ a, (h.attachParent p c a).descriptorFlags = (h a).descriptorFlags := by
    intro a
    unfold Headers.attachParent Headers.modify
    split_ifs <;> rfl
  have hchild : ∀ a, (h.attachParent p c a).child = (h a).child := by
    intro a
    unfold Headers.attachParent Headers.modify
    split_ifs <;> rfl
  unfold pcieConfigGetChild
  congr 1
  · funext a
    unfold childOf
    rw [hchild]
  · funext a
    unfold has
    rw [hflags]

variable {h : Headers}

theorem attachSilicons_eq {complex silicon : Nat} (hfuel : 5 ≤ fuel)
    (hends : (h.attachParent complex silicon).has descriptorTerminateTopology silicon = true) :
    attachSilicons complex fuel (some silicon) h = some (h.attachParent complex silicon) := by
  obtain ⟨fuel, rfl⟩ := exists_eq_succ_of_ne_zero (by omega : fuel ≠ 0)
  unfold attachSilicons nextTopologyDescriptor
  rw [if_pos hends]
  cases fuel <;> rfl

def joinLast (fuel index : Nat) (h : Headers) : Option Headers :=
  if index > 0 then pcieConfigAttachComplexes fuel (complexAddr (index - 1)) (complexAddr index) h else some h

theorem buildComplex_eq (tree : ComplexTree bridge.template) {h' : Headers} (hfuel : 5 ≤ fuel)
    (hsingle : (s.sib.headers.placed bridge.template (complexAddr s.complexIndex) s.buffer).Single
      (tree.node (complexAddr s.complexIndex) s.buffer))
    (hjoin : joinLast fuel s.complexIndex
      (s.sib.headers.placed bridge.template (complexAddr s.complexIndex) s.buffer) = some h') :
    buildComplex fuel s bridge = some
      ⟨{ headers := h'
         silicon a := if s.buffer = a then siliconOf bridge s.complexIndex bridge.template.silicon else s.sib.silicon a
         wrapId := (s.sib.copy s.buffer bridge.template).wrapId },
        s.buffer + bridge.template.size, s.complexIndex + 1⟩ := by
  obtain ⟨c, hc⟩ : ∃ c, c ∈ (tree.node (complexAddr s.complexIndex) s.buffer).live.head? :=
    ⟨_, head?_eq_some_head (by simpa [node] using tree.cores_ne)⟩
  have hchild := (hsingle.placed.getChild_of_complex (hsingle.live.subset (mem_of_mem_head? hc))
    (hsingle.child c hc) hfuel).1
  unfold placed at hchild
  rw [getChild_attachParent] at hchild
  have hattach := attachSilicons_eq hfuel hsingle.ends
  have hsilicon : ∀ a, (if some s.buffer = some a then
        siliconOf bridge s.complexIndex (if a = s.buffer then bridge.template.silicon else s.sib.silicon a)
      else if a = s.buffer then bridge.template.silicon else s.sib.silicon a) =
      if s.buffer = a then siliconOf bridge s.complexIndex bridge.template.silicon else s.sib.silicon a := by
    intro a
    by_cases ha : s.buffer = a
    · subst ha
      simp
    · simp [ha, Ne.symm ha]
  unfold node at hchild hattach
  unfold joinLast placed at hjoin
  unfold buildComplex PcieSib.copy
  dsimp only at hchild hattach ⊢
  simp only [bind_eq_bind, hchild, hattach, bind_some, hsilicon]
  split_ifs at hjoin ⊢
  · rw [hjoin, bind_some]
  · rw [some.inj hjoin]

theorem ComplexTree.bound_node {t : ComplexTemplate} (tree : ComplexTree t) (complex base : Nat) :
    ∀ c ∈ (tree.node complex base).cores, c.addr < base + t.size ∧ ∀ e ∈ c.engines, e < base + t.size := by
  intro d hd
  obtain ⟨c, hc, rfl⟩ := mem_map.mp hd
  refine ⟨Nat.add_lt_add_left (tree.bound c hc).1 base, fun _ hmem => ?_⟩
  obtain ⟨e, he, rfl⟩ := mem_map.mp hmem
  exact Nat.add_lt_add_left ((tree.bound c hc).2 e he) base

theorem attachComplexes_join {front : List BridgeNode} {p b : BridgeNode} (t : h.Linked (front ++ [p]))
    (m : h.Marked (front ++ [p])) (hb : h.Single b) (hlayout : Layout (front ++ [p] ++ [b]))
    (hp : p.live ≠ []) (hne : b.live ≠ [])
    (hbound : b.silicon < 2 ^ 16 ∧ ∀ c ∈ b.cores, c.addr < 2 ^ 16 ∧ ∀ e ∈ c.engines, e < 2 ^ 16)
    (hfuel : Enough fuel (front ++ [p])) :
    ∃ h', pcieConfigAttachComplexes fuel p.complex b.complex h = some h' ∧ h'.Linked (front ++ [p] ++ [b]) ∧
      h'.Marked (front ++ [p] ++ [b]) ∧ (∀ a, h.Agrees h' a) ∧ ∀ a, h.kind a = 0 → h' a = h a := by
  have hmem : p ∈ front ++ [p] := by simp
  obtain ⟨pre, last, hlast⟩ := eq_nil_or_concat p.live |>.resolve_left hp
  rw [concat_eq_append] at hlast
  have hlastCore := (t.placed p hmem).core last ((hlayout.append_left.live p hmem).subset (by simp [hlast]))
  obtain ⟨el, lastE, hlastE⟩ := hlastCore.engines_concat
  obtain ⟨first, rest, hfirst⟩ := exists_cons_of_ne_nil hne
  have hfirstMem : first ∈ b.cores := hb.live.subset (hfirst ▸ mem_cons_self)
  obtain ⟨firstE, er, hfirstE, -⟩ := (hb.placed.core first hfirstMem).child
  obtain ⟨haddr, hengines⟩ := hbound.2 first hfirstMem
  have hless := And.intro hbound.1 (And.intro haddr (hengines firstE (by simp [hfirstE])))
  refine ⟨_, attachComplexes_eq t hb hlayout hlast hlastE hfirst hfirstE m hfuel,
    joined_linked t hb hlayout hlast hlastE hfirst hfirstE hless, joined_marked t hb hlayout hlast hlastE m, joined_agrees, ?_⟩
  intro a ha
  exact joined_of_ne (ne_of_kind ha (t.placed p hmem).complexKind)
    (ne_of_kind ha (t.placed p hmem).siliconKind) (ne_of_kind ha hlastCore.kind)
    (ne_of_kind ha (hlastCore.engine lastE (by simp [hlastE])).1)

theorem linked_single {b : BridgeNode} (hb : h.Single b) (hplatform : h.kind 0 = descriptorPlatform)
    (hchild : h.IsChild 0 b.complex) : h.Linked [b] where
  platformKind := hplatform
  platformChild x hx := some.inj hx ▸ hchild
  placed x hx := mem_singleton.mp hx ▸ hb.placed
  silicons := hb.silicons
  wrappers := by simpa [liveOf] using hb.wrappers
  engines := by simpa [liveOf] using hb.engines
  siliconChild front x back c hsplit hc := by
    obtain ⟨rfl, rfl, rfl⟩ : front = [] ∧ x = b ∧ back = [] := by simpa [singleton_eq_append_iff] using hsplit
    exact hb.child c (by simpa [liveOf] using hc)

theorem Built.joinLast_eq (hs : Built s bs) (hindex : bs.length < maxNumberOfComplexes) {t : ComplexTemplate}
    (tree : ComplexTree t) (hbound : s.buffer + t.size < 2 ^ 16) (hfuel : Enough fuel bs) :
    ∃ h', joinLast fuel bs.length (s.sib.headers.placed t (complexAddr bs.length) s.buffer) = some h' ∧
      h'.Linked (bs ++ [tree.node (complexAddr bs.length) s.buffer]) ∧
      h'.Marked (bs ++ [tree.node (complexAddr bs.length) s.buffer]) ∧
      (∀ a, (s.sib.headers.placed t (complexAddr bs.length) s.buffer).Agrees h' a) ∧
      ∀ a, (s.sib.headers.placed t (complexAddr bs.length) s.buffer).kind a = 0 →
        h' a = s.sib.headers.placed t (complexAddr bs.length) s.buffer a := by
  have hlt := hs.complex_lt hindex
  have hsingle := tree.single_node (by unfold complexAddr; omega) hlt (hs.fresh _ (le_refl _) hindex) hbound
  have hlayout := hs.layout_concat tree
  have hzero : s.sib.headers.placed t (complexAddr bs.length) s.buffer 0 = s.sib.headers 0 :=
    placed_below (zero_lt_of_lt hlt) (by unfold complexAddr; omega)
  have hlinked := hs.linked.congr hs.layout (fun _ => hs.same_placed hindex t) (agrees_of_eq hzero).kind
    (agrees_of_eq hzero).child
  have hmarked := hs.marked.congr hs.layout fun _ => hs.same_placed hindex t
  rcases eq_nil_or_concat bs with rfl | ⟨front, p, rfl⟩
  · -- the first bridge has no one to join
    refine ⟨_, rfl, ?_, hsingle.marked, fun _ => agrees_of_eq rfl, fun _ _ => rfl⟩
    exact linked_single hsingle hlinked.platformKind (hs.platformChild.congr (agrees_of_eq hzero).child)
  · rw [concat_eq_append] at *
    have hcomplex : p.complex = complexAddr ((front ++ [p]).length - 1) := hs.complexes _ p (by simp)
    have hne : (tree.node (complexAddr (front ++ [p]).length) s.buffer).live ≠ [] := by
      simpa [node] using tree.cores_ne
    have hless : ∀ c ∈ (tree.node (complexAddr (front ++ [p]).length) s.buffer).cores,
        c.addr < 2 ^ 16 ∧ ∀ e ∈ c.engines, e < 2 ^ 16 := fun c hc =>
      (tree.bound_node _ _ c hc).imp (·.trans hbound) fun hengines e he => (hengines e he).trans hbound
    have hjoin := attachComplexes_join hlinked hmarked hsingle hlayout (hs.live p (by simp)).2 hne
      ⟨lt_of_le_of_lt (le_add_right _ _) hbound, hless⟩ hfuel
    unfold joinLast
    rw [if_pos (by simp), ← hcomplex]
    exact hjoin

theorem forall_getElem?_concat {α : Type} {l : List α} {x : α} {P : Nat → α → Prop} (hl : ∀ i y, l[i]? = some y → P i y)
    (hx : P l.length x) : ∀ i y, (l ++ [x])[i]? = some y → P i y := by
  intro i y hy
  rw [getElem?_append] at hy
  split_ifs at hy with hlt
  · exact hl i y hy
  · grind

theorem Built.step (hs : Built s bs) (hindex : bs.length < maxNumberOfComplexes) (tree : ComplexTree bridge.template)
    (hbound : s.buffer + bridge.template.size < 2 ^ 16) (hfuel : Enough fuel bs) :
    ∃ s', buildComplex fuel s bridge = some s' ∧ s'.buffer = s.buffer + bridge.template.size ∧
      Built s' (bs ++ [tree.node (complexAddr bs.length) s.buffer]) := by
  have hlt := hs.complex_lt hindex
  have hsingle := tree.single_node (by unfold complexAddr; omega) hlt (hs.fresh _ (le_refl _) hindex) hbound
  obtain ⟨h', hjoin, hlinked, hmarked, hagrees, hkept⟩ := hs.joinLast_eq hindex tree hbound hfuel
  have hbelow : ∀ {a : Nat}, a < s.buffer → a ≠ complexAddr bs.length →
      s.sib.headers.placed bridge.template (complexAddr bs.length) s.buffer a = s.sib.headers a := placed_below
  refine ⟨_, buildComplex_eq tree hfuel.1 (by rw [hs.index]; exact hsingle) (by rw [hs.index]; exact hjoin), rfl, ?_⟩
  constructor
  · rw [length_append, hs.index]
    rfl
  · exact forall_getElem?_concat hs.complexes rfl
  · exact (hs.platformChild.congr (agrees_of_eq
      (hbelow (zero_lt_of_lt hlt) (by unfold complexAddr; omega))).child).congr (hagrees 0).child
  · exact hlinked
  · exact hmarked
  · exact hs.layout_concat tree
  · rw [forall_mem_append, forall_mem_singleton]
    exact ⟨hs.live, rfl, by simpa [node] using tree.cores_ne⟩
  · rw [forall_mem_append, forall_mem_singleton]
    refine ⟨fun b hb => ?_, Nat.lt_add_of_pos_right tree.size_pos, tree.bound_node _ _⟩
    obtain ⟨hsilicon, hcores⟩ := hs.bound b hb
    exact ⟨Nat.lt_add_right _ hsilicon, fun c hc =>
      ⟨Nat.lt_add_right _ (hcores c hc).1, fun e he => Nat.lt_add_right _ ((hcores c hc).2 e he)⟩⟩
  · exact le_add_right_of_le hs.buffer
  · intro i hi hlast
    rw [length_append, length_singleton] at hi
    have hsame := hbelow ((complexAddr_lt hlast).trans_le hs.buffer) fun heq =>
      absurd (complexAddr_injective heq) (by omega)
    have hzero := hs.fresh i (by omega) hlast
    refine (hkept _ ?_).trans (hsame.trans hzero)
    unfold kind
    rw [hsame, hzero]
    rfl
  · refine forall_getElem?_concat (fun i b hb => ?_) ?_
    · dsimp only
      rw [if_neg (hs.bound b (mem_of_getElem? hb)).1.ne']
      exact hs.instances i b hb
    · dsimp only [node]
      rw [if_pos rfl, siliconOf, hs.index]
  · rw [forall_mem_append, forall_mem_singleton]
    unfold PcieSib.copy
    constructor
    · intro b hb c hc
      have := ((hs.bound b hb).2 c hc).1
      dsimp only
      rw [if_neg (by omega)]
      exact hs.wrapIds b hb c hc
    · intro d hd
      obtain ⟨c, hc, rfl⟩ := mem_map.mp hd
      have := (tree.bound c hc).1
      dsimp only
      rw [CoreNode.shift_addr, if_pos (by omega), Nat.add_sub_cancel_left]
      exact tree.wrapIds c hc

end

/-! ## The loop -/

structure TreeBridge where
  bridge : RootBridge
  tree : ComplexTree bridge.template

def placeBridges : List TreeBridge → Nat → Nat → List BridgeNode
  | [], _, _ => []
  | b :: bridges, index, base =>
    b.tree.node (complexAddr index) base :: placeBridges bridges (index + 1) (base + b.bridge.template.size)

/-- The bytes of the templates. -/
def templateBytes (bridges : List TreeBridge) : Nat := (bridges.map (·.bridge.template.size)).sum

variable {fuel : Nat}

theorem Enough.of_append {bs bs' : List BridgeNode} (h : Enough fuel (bs ++ bs')) : Enough fuel bs := by
  unfold Enough at *
  rw [liveOf_append, wrappersOf_append, enginesOf_append] at h
  simp only [length_append] at h
  omega

variable {bs : List BridgeNode} {s : Building}

theorem Built.run (bridges : List TreeBridge) (hs : Built s bs)
    (hcount : bs.length + bridges.length ≤ maxNumberOfComplexes) (hbound : s.buffer + templateBytes bridges < 2 ^ 16)
    (hfuel : Enough fuel (bs ++ placeBridges bridges bs.length s.buffer)) :
    ∃ s', (bridges.map (·.bridge)).foldlM (buildComplex fuel) s = some s' ∧
      Built s' (bs ++ placeBridges bridges bs.length s.buffer) := by
  induction bridges generalizing s bs with
  | nil => exact ⟨s, rfl, by simpa [placeBridges] using hs⟩
  | cons b bridges ih =>
    unfold templateBytes at hbound
    rw [map_cons, sum_cons] at hbound
    rw [length_cons] at hcount
    obtain ⟨s', hstep, hbuffer, hs'⟩ := hs.step (by omega) b.tree (by omega) hfuel.of_append
    have hrest : bs ++ placeBridges (b :: bridges) bs.length s.buffer =
        bs ++ [b.tree.node (complexAddr bs.length) s.buffer] ++
          placeBridges bridges (bs ++ [b.tree.node (complexAddr bs.length) s.buffer]).length s'.buffer := by
      rw [hbuffer, length_append]
      simp [placeBridges]
    rw [hrest] at hfuel ⊢
    obtain ⟨s'', hrun, hs''⟩ := ih hs' (by simp only [length_append, length_singleton]; omega)
      (by unfold templateBytes; omega) hfuel
    refine ⟨s'', ?_, hs''⟩
    rw [map_cons, foldlM_cons, hstep]
    exact hrun

/-! ## The block that is built -/

structure PcieSib.Complete (sib : PcieSib) (bs : List BridgeNode) : Prop where
  linked : sib.headers.Linked bs
  marked : sib.headers.Marked bs
  layout : Layout bs
  platformChild : sib.headers.IsChild 0 (complexAddr 0)
  empty : bs = [] → sib.headers (complexAddr 0) = ⟨0, 0, 0, 0⟩
  complexes : ∀ i b, bs[i]? = some b → b.complex = complexAddr i
  live : ∀ b ∈ bs, b.live = b.cores ∧ b.live ≠ []
  instances : ∀ i b, bs[i]? = some b → (sib.silicon b.silicon).instanceId = BitVec.ofNat 8 i
  wrapIds : ∀ b ∈ bs, ∀ c ∈ b.cores, sib.wrapId c.addr = c.wrapId

theorem Built.complete (hs : Built s bs) (parent : BitVec 16) :
    PcieSib.Complete { s.sib with headers := s.sib.headers.modify 0 ({ · with parent := parent }) } bs := by
  have hplatform := hs.linked.platformKind
  have hsame : ∀ b ∈ bs, s.sib.headers.SameBridge (s.sib.headers.modify 0 ({ · with parent := parent })) b := by
    intro b hb
    have hplaced := hs.linked.placed b hb
    refine ⟨modify_ne _ _ (ne_of_kind hplaced.complexKind hplatform),
      modify_ne _ _ (ne_of_kind hplaced.siliconKind hplatform), fun c hc => ?_⟩
    have hcore := hplaced.core c hc
    exact ⟨modify_ne _ _ (ne_of_kind hcore.kind hplatform), fun e he =>
      modify_ne _ _ (ne_of_kind (hcore.engine e he).1 hplatform)⟩
  have hzero := modify_same s.sib.headers 0 ({ · with parent := parent })
  have hkind : (s.sib.headers.modify 0 ({ · with parent := parent })).kind 0 = s.sib.headers.kind 0 := by
    unfold kind
    rw [hzero]
  have hchild : (s.sib.headers.modify 0 ({ · with parent := parent }) 0).child = (s.sib.headers 0).child := by rw [hzero]
  constructor
  · exact hs.linked.congr hs.layout hsame hkind hchild
  · exact hs.marked.congr hs.layout hsame
  · exact hs.layout
  · exact hs.platformChild.congr hchild
  · rintro rfl
    have hne : complexAddr 0 ≠ 0 := by decide
    exact (modify_ne _ ({ · with parent := parent }) hne).trans (hs.fresh 0 (le_refl _) (by decide))
  · exact hs.complexes
  · exact hs.live
  · exact hs.instances
  · exact hs.wrapIds

theorem pcieConfigurationInit_complete (sib : PcieSib) (bridges : List TreeBridge)
    (hcount : bridges.length ≤ maxNumberOfComplexes) (hbound : complexConfigs + templateBytes bridges < 2 ^ 16)
    (hfuel : Enough fuel (placeBridges bridges 0 complexConfigs)) :
    ∃ sib', pcieConfigurationInit fuel sib (bridges.map (·.bridge)) = some sib' ∧
      sib'.Complete (placeBridges bridges 0 complexConfigs) := by
  obtain ⟨s, hrun, hs⟩ := (built_start sib).run bridges (by simpa using hcount) hbound hfuel
  refine ⟨_, ?_, hs.complete (offsetTo 0 s.buffer)⟩
  unfold pcieConfigurationInit
  rw [hrun]
  rfl

/-! ## Walks over the block -/

section
variable {fuel : Nat} {sib : PcieSib} {bs : List BridgeNode}

theorem PcieSib.Complete.getChild_of_empty (hs : sib.Complete []) {type : BitVec 32}
    (htype : descriptorPlatform &&& type = 0 ∧ kindMask &&& type = type) (hfuel : 5 ≤ fuel) :
    pcieConfigGetChild fuel sib.headers type 0 = some none := by
  have hzero := hs.empty rfl
  have hdown : Path sib.headers.childOf (some 0) [0, complexAddr 0] none := by
    refine ⟨rfl, hs.platformChild.childOf_eq, ?_⟩
    unfold childOf
    rw [hzero]
    rfl
  apply seek_of_path_none hdown
  · rw [forall_mem_cons, forall_mem_singleton]
    constructor
    · rw [has_eq_of_kind hs.linked.platformKind _ htype.2, htype.1]
      rfl
    · unfold has
      rw [hzero]
      simp
  · exact lt_of_lt_of_le (by simp) hfuel

theorem PcieSib.Complete.walks (hs : sib.Complete bs) (hfuel : Enough fuel bs) : sib.headers.Walks fuel bs := by
  rcases eq_nil_or_concat bs with rfl | ⟨front, b, rfl⟩
  · -- no callback at all
    constructor
    · intro σ callback buffer
      unfold pcieConfigRunProcForAllWrappers
      rw [hs.getChild_of_empty (by decide) hfuel.1]
      cases fuel <;> rfl
    · intro σ callback buffer
      unfold pcieConfigRunProcForAllEngines
      rw [hs.getChild_of_empty (by decide) hfuel.1]
      cases fuel <;> rfl
    · simp
    · simp [liveOf]
    · exact ⟨nodup_nil, nodup_nil⟩
  · rw [concat_eq_append] at *
    exact hs.linked.walks hs.layout hfuel ⟨b, by simp, (hs.live b (by simp)).2⟩

end

/-- With as many bridges as `ComplexList` has entries, the walks visit all that the templates hold, and the ways up from an
engine lead to its own wrapper, to its silicon and to the platform. -/
theorem pcieConfigurationInit_topology (fuel : Nat) (sib : PcieSib) (template : Nat → Nat → ComplexTemplate)
    (system : List (List (List RootBridgeInfo))) (bridges : List TreeBridge)
    (hbridges : bridges.map (·.bridge) = rootBridges template system) (hcount : bridges.length ≤ maxNumberOfComplexes)
    (hbound : complexConfigs + templateBytes bridges < 2 ^ 16) (hfuel : Enough fuel (placeBridges bridges 0 complexConfigs)) :
    ∃ sib', pcieConfigurationInit fuel sib (rootBridges template system) = some sib' ∧
      sib'.headers.Walks fuel (placeBridges bridges 0 complexConfigs) ∧
      ∀ b ∈ placeBridges bridges 0 complexConfigs, b.live = b.cores ∧ ∀ c ∈ b.cores, ∀ e ∈ c.engines,
        pcieConfigGetParent fuel sib'.headers descriptorAllWrappers e = some (some c.addr) ∧
        pcieConfigGetParent fuel sib'.headers descriptorSilicon e = some (some b.silicon) ∧
        pcieConfigGetParent fuel sib'.headers descriptorPlatform e = some (some 0) := by
  obtain ⟨sib', hrun, hs⟩ := pcieConfigurationInit_complete sib bridges hcount hbound hfuel
  rw [hbridges] at hrun
  refine ⟨sib', hrun, hs.walks hfuel, fun b hb => ⟨(hs.live b hb).1, fun c hc e he => ?_⟩⟩
  exact (hs.linked.placed b hb).getParent hs.linked.platformKind hc he hfuel.1

def oneCore : ComplexTemplate where
  size := 60
  headers a :=
    if a = 0 then
      ⟨descriptorSilicon ||| descriptorTerminateList ||| descriptorTerminateGnb ||| descriptorTerminateTopology, 0, 0, 26⟩
    else if a = 26 then
      ⟨descriptorPcieWrapper ||| descriptorTerminateList ||| descriptorTerminateGnb ||| descriptorTerminateTopology, 26, 0, 22⟩
    else if a = 48 then
      ⟨descriptorPcieEngine ||| descriptorTerminateList ||| descriptorTerminateGnb ||| descriptorTerminateTopology, 22, 0, 0⟩
    else ⟨0, 0, 0, 0⟩
  silicon := ⟨0, 0, 0, 0, 0, 0, 0, 0, 0, false, false, 0⟩
  wrapId _ := 0

def oneCoreTree : ComplexTree oneCore where
  cores := [⟨26, 0, [48]⟩]
  cores_ne := by decide
  siliconKind := by decide
  siliconEnds := by
    simp only [List.forall_mem_cons, List.not_mem_nil, IsEmpty.forall_iff, implies_true, and_true]
    exact ⟨by decide, by decide, by decide⟩
  siliconChild c hc := Option.some.inj hc ▸ ⟨by decide, by decide⟩
  core c hc := by
    obtain rfl := List.mem_singleton.mp hc
    refine ⟨by decide, ⟨by decide, by decide⟩, ⟨48, [], rfl, by decide, by decide⟩, fun e he => ?_⟩
    obtain rfl := List.mem_singleton.mp he
    exact ⟨by decide, by decide, by decide⟩
  wrappers := ⟨rfl, (by decide : oneCore.headers.nextTopologyDescriptor 26 = none)⟩
  engines := ⟨rfl, (by decide : oneCore.headers.nextTopologyDescriptor 48 = none)⟩
  gnbWrappers := (by decide : oneCore.headers.has descriptorTerminateGnb 26 = true)
  gnbEngines := (by decide : oneCore.headers.has descriptorTerminateGnb 48 = true)
  listWrappers := (by decide : oneCore.headers.has descriptorTerminateList 26 = true)
  wrapIds _ _ := List.mem_singleton.mp ‹_› ▸ rfl
  ascendingWrappers := List.pairwise_singleton _ _
  ascendingEngines := List.pairwise_singleton _ _
  bound c hc := by
    obtain rfl := List.mem_singleton.mp hc
    decide

def oneDie (n : Nat) : List (List (List RootBridgeInfo)) := [[List.replicate n ⟨0, 0, 0, false, false⟩]]

def zeroSib : PcieSib := ⟨fun _ => ⟨0, 0, 0, 0⟩, fun _ => oneCore.silicon, fun _ => 0⟩

def oneDieBridges (n : Nat) : List TreeBridge :=
  (List.range n).map fun i => ⟨⟨0, 0, i, n, ⟨0, 0, 0, false, false⟩, oneCore⟩, oneCoreTree⟩

theorem pcieConfigurationInit_topology_two :
    ∃ sib', pcieConfigurationInit 5 zeroSib (rootBridges (fun _ _ => oneCore) (oneDie 2)) = some sib' ∧
      sib'.headers.Walks 5 (placeBridges (oneDieBridges 2) 0 complexConfigs) := by
  obtain ⟨sib', hrun, hwalks, -⟩ := pcieConfigurationInit_topology 5 zeroSib (fun _ _ => oneCore) (oneDie 2)
    (oneDieBridges 2) rfl (by decide) (by decide) ⟨by decide, by decide, by decide, by decide⟩
  exact ⟨sib', hrun, hwalks⟩

/-- The seventeenth complex descriptor is where the silicon descriptor of the first bridge is, and only one of the
seventeen wrappers is visited. -/
theorem seventeenth_complex_overlays :
    (oneDieBridges 17).map (·.bridge) = rootBridges (fun _ _ => oneCore) (oneDie 17) ∧
      complexConfigs + templateBytes (oneDieBridges 17) < 2 ^ 16 ∧
      (do
        let sib ← pcieConfigurationInit 40 zeroSib (rootBridges (fun _ _ => oneCore) (oneDie 17))
        pcieConfigRunProcForAllWrappers 40 sib.headers descriptorAllWrappers (fun w l => (l ++ [w], .silPass)) []) =
        some ([1224], .silPass) ∧
      (wrappersOf (liveOf (placeBridges (oneDieBridges 17) 0 complexConfigs))).length = 17 :=
  ⟨rfl, by decide +kernel⟩

end OpenSil.Nbio
