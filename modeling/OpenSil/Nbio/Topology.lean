import OpenSil.Nbio.Descriptor

/-! # The PCIe topology as a tree -/

namespace OpenSil.Nbio

open Chain List

structure CoreNode where
  addr : Nat
  wrapId : BitVec 8
  engines : List Nat
  deriving DecidableEq

structure BridgeNode where
  complex : Nat
  silicon : Nat
  cores : List CoreNode
  live : List CoreNode

def liveOf (bs : List BridgeNode) : List CoreNode := bs.flatMap (·.live)

def wrappersOf (cs : List CoreNode) : List Nat := cs.map (·.addr)

def enginesOf (cs : List CoreNode) : List Nat := cs.flatMap (·.engines)

structure Headers.PlacedCore (h : Headers) (silicon : Nat) (c : CoreNode) : Prop where
  kind : h.kind c.addr = descriptorPcieWrapper
  parent : h.IsParent silicon c.addr
  child : ∃ first rest, c.engines = first :: rest ∧ h.IsChild c.addr first
  engine : ∀ e ∈ c.engines, h.kind e = descriptorPcieEngine ∧ h.IsParent c.addr e

/-- The headers of a bridge have their kinds, and their offsets lead up and down the tree. -/
structure Headers.Placed (h : Headers) (b : BridgeNode) : Prop where
  complexKind : h.kind b.complex = descriptorComplex
  complexParent : h.IsParent 0 b.complex
  complexChild : h.IsChild b.complex b.silicon
  siliconKind : h.kind b.silicon = descriptorSilicon
  siliconParent : h.IsParent b.complex b.silicon
  core : ∀ c ∈ b.cores, h.PlacedCore b.silicon c

/-- Descriptors are visited in the order of their addresses. -/
structure Layout (bs : List BridgeNode) : Prop where
  live : ∀ b ∈ bs, b.live.Sublist b.cores
  complexes : (bs.map (·.complex)).Pairwise (· < ·)
  silicons : (bs.map (·.silicon)).Pairwise (· < ·)
  wrappers : (wrappersOf (liveOf bs)).Pairwise (· < ·)
  engines : (enginesOf (liveOf bs)).Pairwise (· < ·)

def Headers.Listed (h : Headers) (l : List Nat) : Prop := Path h.nextTopologyDescriptor l.head? l none

/-- The offsets link the bridges to a tree, and the descriptors of each kind to a list. -/
structure Headers.Linked (h : Headers) (bs : List BridgeNode) : Prop where
  platformKind : h.kind 0 = descriptorPlatform
  platformChild : ∀ b ∈ bs.head?, h.IsChild 0 b.complex
  placed : ∀ b ∈ bs, h.Placed b
  silicons : h.Listed (bs.map (·.silicon))
  wrappers : h.Listed (wrappersOf (liveOf bs))
  engines : h.Listed (enginesOf (liveOf bs))
  /-- The child of the silicon is its first live core, or that of a later bridge. -/
  siliconChild : ∀ front b back c, bs = front ++ b :: back → (liveOf (b :: back)).head? = some c → h.IsChild b.silicon c.addr

/-- The last descriptor of every list is marked, and no other. -/
structure Headers.Marked (h : Headers) (bs : List BridgeNode) : Prop where
  complexes : LastOnly (h.has descriptorTerminateTopology) (bs.map (·.complex))
  silicons : ∀ b ∈ bs, h.has descriptorTerminateGnb b.silicon = true ∧ h.has descriptorTerminateList b.silicon = true
  wrappers : ∀ b ∈ bs, LastOnly (h.has descriptorTerminateGnb) (wrappersOf b.live)
  engines : ∀ b ∈ bs, LastOnly (h.has descriptorTerminateGnb) (enginesOf b.live)
  lists : ∀ b ∈ bs, ∀ last ∈ b.live.getLast?, h.has descriptorTerminateList last.addr = true ∧
    ∀ c ∈ b.cores, c.addr < last.addr → h.has descriptorTerminateList c.addr = false

def Enough (fuel : Nat) (bs : List BridgeNode) : Prop :=
  5 ≤ fuel ∧ bs.length < fuel ∧ (wrappersOf (liveOf bs)).length < fuel ∧ (enginesOf (liveOf bs)).length < fuel

/-! ## Headers that agree -/

structure Headers.Agrees (h h' : Headers) (a : Nat) : Prop where
  kind : h'.kind a = h.kind a
  parent : (h' a).parent = (h a).parent
  child : (h' a).child = (h a).child

theorem Headers.Agrees.trans {h₁ h₂ h₃ : Headers} {a : Nat} (h : h₁.Agrees h₂ a) (h' : h₂.Agrees h₃ a) : h₁.Agrees h₃ a :=
  ⟨h'.kind.trans h.kind, h'.parent.trans h.parent, h'.child.trans h.child⟩

section
variable {h h' : Headers} {p d : Nat}

theorem Headers.agrees_of_eq {a : Nat} (heq : h' a = h a) : h.Agrees h' a where
  kind := by unfold kind; rw [heq]
  parent := by rw [heq]
  child := by rw [heq]

theorem Headers.next_of_eq {a : Nat} (heq : h' a = h a) : h'.nextTopologyDescriptor a = h.nextTopologyDescriptor a := by
  unfold nextTopologyDescriptor has
  rw [heq]

theorem Headers.has_of_eq {a : Nat} (heq : h' a = h a) (flags : BitVec 32) : h'.has flags a = h.has flags a := by
  unfold has
  rw [heq]

theorem Headers.IsParent.congr (hp : h.IsParent p d) (hsame : (h' d).parent = (h d).parent) : h'.IsParent p d := by
  unfold IsParent
  rwa [hsame]

theorem Headers.IsChild.congr (hp : h.IsChild d p) (hsame : (h' d).child = (h d).child) : h'.IsChild d p := by
  unfold IsChild
  rwa [hsame]

theorem Headers.PlacedCore.congr {silicon : Nat} {c : CoreNode} (hc : h.PlacedCore silicon c) (haddr : h.Agrees h' c.addr)
    (hengines : ∀ e ∈ c.engines, h.Agrees h' e) : h'.PlacedCore silicon c where
  kind := haddr.kind.trans hc.kind
  parent := hc.parent.congr haddr.parent
  child := by
    obtain ⟨first, rest, heq, hchild⟩ := hc.child
    exact ⟨first, rest, heq, hchild.congr haddr.child⟩
  engine e he := ⟨(hengines e he).kind.trans (hc.engine e he).1, (hc.engine e he).2.congr (hengines e he).parent⟩

theorem Headers.Placed.congr {b : BridgeNode} (hb : h.Placed b) (hcomplex : h.Agrees h' b.complex)
    (hsiliconKind : h'.kind b.silicon = h.kind b.silicon) (hsiliconParent : (h' b.silicon).parent = (h b.silicon).parent)
    (hcores : ∀ c ∈ b.cores, h.Agrees h' c.addr ∧ ∀ e ∈ c.engines, h.Agrees h' e) : h'.Placed b where
  complexKind := hcomplex.kind.trans hb.complexKind
  complexParent := hb.complexParent.congr hcomplex.parent
  complexChild := hb.complexChild.congr hcomplex.child
  siliconKind := hsiliconKind.trans hb.siliconKind
  siliconParent := hb.siliconParent.congr hsiliconParent
  core c hc := (hb.core c hc).congr (hcores c hc).1 (hcores c hc).2

theorem Headers.Placed.congr_all {b : BridgeNode} (hb : h.Placed b) (hall : ∀ a, h.Agrees h' a) : h'.Placed b :=
  hb.congr (hall _) (hall _).kind (hall _).parent fun _ _ => ⟨hall _, fun _ _ => hall _⟩

theorem Headers.ne_of_kind {a b : Nat} {j k : BitVec 32} (ha : h.kind a = j) (hb : h.kind b = k)
    (hne : j ≠ k := by decide) : a ≠ b := by
  rintro rfl
  exact hne (ha.symm.trans hb)

end

def Headers.SameBridge (h h' : Headers) (b : BridgeNode) : Prop :=
  h' b.complex = h b.complex ∧ h' b.silicon = h b.silicon ∧ ∀ c ∈ b.cores, h' c.addr = h c.addr ∧ ∀ e ∈ c.engines, h' e = h e

section
variable {h h' : Headers} {bs : List BridgeNode} (hbs : Layout bs) (hsame : ∀ b ∈ bs, h.SameBridge h' b)
include hbs hsame

theorem same_wrapper : ∀ a ∈ wrappersOf (liveOf bs), h' a = h a := by
  intro a ha
  obtain ⟨c, hc, rfl⟩ := mem_map.mp ha
  obtain ⟨b, hb, hc⟩ := mem_flatMap.mp hc
  exact ((hsame b hb).2.2 c ((hbs.live b hb).subset hc)).1

theorem same_engine : ∀ a ∈ enginesOf (liveOf bs), h' a = h a := by
  intro a ha
  obtain ⟨c, hc, ha⟩ := mem_flatMap.mp ha
  obtain ⟨b, hb, hc⟩ := mem_flatMap.mp hc
  exact ((hsame b hb).2.2 c ((hbs.live b hb).subset hc)).2 a ha

theorem Headers.Linked.congr (t : h.Linked bs) (hkind : h'.kind 0 = h.kind 0) (hchild : (h' 0).child = (h 0).child) :
    h'.Linked bs where
  platformKind := hkind.trans t.platformKind
  platformChild b hb := (t.platformChild b hb).congr hchild
  placed b hb := by
    obtain ⟨hcomplex, hsilicon, hcores⟩ := hsame b hb
    refine (t.placed b hb).congr (agrees_of_eq hcomplex) (agrees_of_eq hsilicon).kind (agrees_of_eq hsilicon).parent ?_
    exact fun c hc => ⟨agrees_of_eq (hcores c hc).1, fun e he => agrees_of_eq ((hcores c hc).2 e he)⟩
  silicons := by
    refine Chain.Path.congr t.silicons fun a ha => ?_
    obtain ⟨b, hb, rfl⟩ := mem_map.mp ha
    exact next_of_eq (hsame b hb).2.1
  wrappers := Chain.Path.congr t.wrappers fun a ha => next_of_eq (same_wrapper hbs hsame a ha)
  engines := Chain.Path.congr t.engines fun a ha => next_of_eq (same_engine hbs hsame a ha)
  siliconChild front b back c hsplit hc :=
    (t.siliconChild front b back c hsplit hc).congr (agrees_of_eq (hsame b (by simp [hsplit])).2.1).child

theorem Headers.Marked.congr (m : h.Marked bs) : h'.Marked bs where
  complexes := by
    refine m.complexes.congr fun a ha => ?_
    obtain ⟨b, hb, rfl⟩ := mem_map.mp ha
    exact has_of_eq (hsame b hb).1 _
  silicons b hb := by
    rw [has_of_eq (hsame b hb).2.1, has_of_eq (hsame b hb).2.1]
    exact m.silicons b hb
  wrappers b hb := by
    refine (m.wrappers b hb).congr fun a ha => ?_
    obtain ⟨c, hc, rfl⟩ := mem_map.mp ha
    exact has_of_eq ((hsame b hb).2.2 c ((hbs.live b hb).subset hc)).1 _
  engines b hb := by
    refine (m.engines b hb).congr fun a ha => ?_
    obtain ⟨c, hc, ha⟩ := mem_flatMap.mp ha
    exact has_of_eq (((hsame b hb).2.2 c ((hbs.live b hb).subset hc)).2 a ha) _
  lists b hb last hlast := by
    have hcore : ∀ c ∈ b.cores, h'.has descriptorTerminateList c.addr = h.has descriptorTerminateList c.addr :=
      fun c hc => has_of_eq ((hsame b hb).2.2 c hc).1 _
    rw [hcore last ((hbs.live b hb).subset (mem_of_getLast? hlast))]
    refine ⟨(m.lists b hb last hlast).1, fun c hc hlt => ?_⟩
    rw [hcore c hc]
    exact (m.lists b hb last hlast).2 c hc hlt

end

/-! ## Up and down the tree -/

variable {fuel : Nat} {h : Headers} {bs front back : List BridgeNode} {b : BridgeNode} {c : CoreNode} {e : Nat}

theorem Headers.PlacedCore.getParent_silicon {silicon : Nat} (hc : h.PlacedCore silicon c)
    (hsilicon : h.kind silicon = descriptorSilicon) (hfuel : 5 ≤ fuel) :
    pcieConfigGetParent fuel h descriptorSilicon c.addr = some (some silicon) := by
  exact seek_of_kinds [c.addr] ⟨rfl, hc.parent.parentOf_eq⟩ (.cons hc.kind .nil) hsilicon hfuel

theorem Headers.PlacedCore.getParent_wrapper {silicon : Nat} (hc : h.PlacedCore silicon c) (he : e ∈ c.engines)
    (hfuel : 5 ≤ fuel) : pcieConfigGetParent fuel h descriptorAllWrappers e = some (some c.addr) := by
  obtain ⟨hkind, hparent⟩ := hc.engine e he
  exact seek_of_kinds [e] ⟨rfl, hparent.parentOf_eq⟩ (.cons hkind .nil) hc.kind hfuel

theorem Headers.Placed.getParent (hb : h.Placed b) (hplatform : h.kind 0 = descriptorPlatform) (hc : c ∈ b.cores)
    (he : e ∈ c.engines) (hfuel : 5 ≤ fuel) :
    pcieConfigGetParent fuel h descriptorAllWrappers e = some (some c.addr) ∧
      pcieConfigGetParent fuel h descriptorSilicon e = some (some b.silicon) ∧
      pcieConfigGetParent fuel h descriptorPlatform e = some (some 0) := by
  have hcore := hb.core c hc
  obtain ⟨hkind, hparent⟩ := hcore.engine e he
  refine ⟨hcore.getParent_wrapper he hfuel, ?_, ?_⟩
  · exact seek_of_kinds [e, c.addr] ⟨rfl, hparent.parentOf_eq, hcore.parent.parentOf_eq⟩
      (.cons hkind (.cons hcore.kind .nil)) hb.siliconKind hfuel
  · exact seek_of_kinds [e, c.addr, b.silicon, b.complex]
      ⟨rfl, hparent.parentOf_eq, hcore.parent.parentOf_eq, hb.siliconParent.parentOf_eq, hb.complexParent.parentOf_eq⟩
      (.cons hkind (.cons hcore.kind (.cons hb.siliconKind (.cons hb.complexKind .nil)))) hplatform hfuel

theorem Headers.PlacedCore.engines_concat {silicon : Nat} (hc : h.PlacedCore silicon c) :
    ∃ es last, c.engines = es ++ [last] := by
  obtain ⟨first, rest, hengines, -⟩ := hc.child
  rw [hengines]
  exact ⟨_, _, (dropLast_concat_getLast (cons_ne_nil first rest)).symm⟩

theorem Headers.PlacedCore.getChild_engine {silicon : Nat} (hc : h.PlacedCore silicon c) (hfuel : 5 ≤ fuel) :
    pcieConfigGetChild fuel h descriptorAllEngines c.addr = some c.engines.head? := by
  obtain ⟨first, rest, hengines, hchild⟩ := hc.child
  have hfirst := (hc.engine first (hengines ▸ mem_cons_self)).1
  rw [hengines, head?_cons]
  exact seek_of_kinds [c.addr] ⟨rfl, hchild.childOf_eq⟩ (.cons hc.kind .nil) hfirst hfuel

theorem mem_liveOf : c ∈ liveOf bs ↔ ∃ b ∈ bs, c ∈ b.live := mem_flatMap

theorem liveOf_append (bs bs' : List BridgeNode) : liveOf (bs ++ bs') = liveOf bs ++ liveOf bs' :=
  flatMap_append

theorem liveOf_cons (b : BridgeNode) (bs : List BridgeNode) : liveOf (b :: bs) = b.live ++ liveOf bs :=
  flatMap_cons

theorem wrappersOf_append (cs cs' : List CoreNode) : wrappersOf (cs ++ cs') = wrappersOf cs ++ wrappersOf cs' :=
  map_append

theorem enginesOf_append (cs cs' : List CoreNode) : enginesOf (cs ++ cs') = enginesOf cs ++ enginesOf cs' :=
  flatMap_append

@[simp] theorem wrappersOf_singleton (c : CoreNode) : wrappersOf [c] = [c.addr] := rfl

@[simp] theorem enginesOf_singleton (c : CoreNode) : enginesOf [c] = c.engines := by simp [enginesOf]

theorem Layout.addr_lt (hbs : Layout bs) {l r : List CoreNode} (hlive : liveOf bs = l ++ r) {d : CoreNode} (hc : c ∈ l)
    (hd : d ∈ r) : c.addr < d.addr := by
  have := hbs.wrappers
  rw [hlive, wrappersOf_append, pairwise_append] at this
  exact this.2.2 _ (mem_map_of_mem hc) _ (mem_map_of_mem hd)

theorem wrappersOf_concat (bs : List BridgeNode) (b : BridgeNode) :
    wrappersOf (liveOf (bs ++ [b])) = wrappersOf (liveOf bs) ++ wrappersOf b.live := by
  rw [liveOf_append, wrappersOf_append]
  simp [liveOf]

theorem enginesOf_concat (bs : List BridgeNode) (b : BridgeNode) :
    enginesOf (liveOf (bs ++ [b])) = enginesOf (liveOf bs) ++ enginesOf b.live := by
  rw [liveOf_append, enginesOf_append]
  simp [liveOf]

theorem Headers.Listed.of_append {l l' : List Nat} (hl : h.Listed (l ++ l')) : h.Listed l' := by
  obtain ⟨r, -, hl'⟩ := path_append_iff.mp hl
  have hstart := hl'.start_eq
  rw [Option.or_none] at hstart
  unfold Listed
  rwa [← hstart]

section
variable (t : h.Linked bs) (hbs : Layout bs)
include t hbs

theorem Headers.Linked.placedCore (hc : c ∈ liveOf bs) :
    ∃ b ∈ bs, c ∈ b.live ∧ h.PlacedCore b.silicon c := by
  obtain ⟨b, hb, hc⟩ := mem_liveOf.mp hc
  exact ⟨b, hb, hc, (t.placed b hb).core c ((hbs.live b hb).subset hc)⟩

theorem Headers.Linked.getChild_of_silicon (hsplit : bs = front ++ b :: back) (hc : (liveOf (b :: back)).head? = some c)
    (hfuel : 5 ≤ fuel) :
    pcieConfigGetChild fuel h descriptorAllWrappers b.silicon = some (some c.addr) := by
  have hb : b ∈ bs := by simp [hsplit]
  have hlive : c ∈ liveOf bs := by
    rw [hsplit, liveOf_append]
    exact mem_append_right _ (mem_of_mem_head? hc)
  obtain ⟨_, -, -, hcore⟩ := t.placedCore hbs hlive
  exact seek_of_kinds [b.silicon] ⟨rfl, (t.siliconChild front b back c hsplit hc).childOf_eq⟩
    (.cons (t.placed b hb).siliconKind .nil) hcore.kind hfuel

theorem Headers.Linked.getChild_of_platform (hc : (liveOf bs).head? = some c) (hfuel : 5 ≤ fuel) :
    pcieConfigGetChild fuel h descriptorAllWrappers 0 = some (some c.addr) ∧
      pcieConfigGetChild fuel h descriptorAllEngines 0 = some c.engines.head? := by
  obtain ⟨_, -, -, hcore⟩ := t.placedCore hbs (mem_of_mem_head? hc)
  obtain ⟨first, rest, hengines, hchild⟩ := hcore.child
  have hfirst := (hcore.engine first (hengines ▸ mem_cons_self)).1
  cases bs with
  | nil => simp [liveOf] at hc
  | cons b bs =>
    have hb := t.placed b mem_cons_self
    have hcomplex := (t.platformChild b rfl).childOf_eq
    have hsilicon := hb.complexChild.childOf_eq
    have hwrapper := (t.siliconChild [] b bs c rfl hc).childOf_eq
    constructor
    · exact seek_of_kinds [0, b.complex, b.silicon] ⟨rfl, hcomplex, hsilicon, hwrapper⟩
        (.cons t.platformKind (.cons hb.complexKind (.cons hb.siliconKind .nil))) hcore.kind hfuel
    · rw [hengines, head?_cons]
      exact seek_of_kinds [0, b.complex, b.silicon, c.addr] ⟨rfl, hcomplex, hsilicon, hwrapper, hchild.childOf_eq⟩
        (.cons t.platformKind (.cons hb.complexKind (.cons hb.siliconKind (.cons hcore.kind .nil)))) hfirst hfuel

end

/-! ## Walks over live cores and engines -/

theorem Headers.PlacedCore.selected {h : Headers} {silicon : Nat} {c : CoreNode} (hc : h.PlacedCore silicon c) {e : Nat}
    (he : e ∈ c.engines) {flags : BitVec 32} (hallocated : flags &&& descriptorAllocated = 0)
    (hflags : descriptorPcieEngine &&& (descriptorAllEngines &&& flags) ≠ 0) : engineSelected h flags e = true := by
  unfold engineSelected
  rw [Headers.has_eq_of_kind (hc.engine e he).1 (descriptorAllEngines &&& flags)
    (by rw [← BitVec.and_assoc, show kindMask &&& descriptorAllEngines = descriptorAllEngines by decide]), hallocated]
  simpa using hflags

section
variable {σ : Type} (t : h.Linked bs) (hbs : Layout bs) (hfuel : Enough fuel bs)
include t hbs hfuel

theorem Headers.Linked.runProcForAllWrappers (hne : liveOf bs ≠ []) (callback : Nat → σ → σ × SilStatus) (buffer : σ) :
    pcieConfigRunProcForAllWrappers fuel h descriptorAllWrappers callback buffer =
      some ((wrappersOf (liveOf bs)).foldl
        (fun s w => ((callback w s.1).1, silStatusUpdate (callback w s.1).2 s.2)) (buffer, .silPass)) := by
  obtain ⟨c, cs, hcs⟩ := exists_cons_of_ne_nil hne
  have hhead : (liveOf bs).head? = some c := by rw [hcs, head?_cons]
  have hstart : (wrappersOf (liveOf bs)).head? = some c.addr := by rw [hcs]; rfl
  have hpath := t.wrappers
  unfold Listed at hpath
  rw [hstart] at hpath
  unfold pcieConfigRunProcForAllWrappers
  rw [(t.getChild_of_platform hbs hhead hfuel.1).1]
  refine (runWhile_of_path hpath (fun _ _ => rfl) (by simp) hfuel.2.2.1 _).trans (congrArg some ?_)
  refine foldl_ext _ _ _ fun s w hw => if_pos ?_
  obtain ⟨c, hc, rfl⟩ := mem_map.mp hw
  obtain ⟨_, -, -, hcore⟩ := t.placedCore hbs hc
  exact has_eq_of_kind hcore.kind _ (by decide)

theorem Headers.Linked.runProcForAllEngines (hne : liveOf bs ≠ []) (callback : Nat → σ → σ) (buffer : σ) :
    pcieConfigRunProcForAllEngines fuel h descriptorAllEngines callback buffer =
      some ((enginesOf (liveOf bs)).foldl (fun s e => callback e s) buffer) := by
  obtain ⟨c, cs, hcs⟩ := exists_cons_of_ne_nil hne
  have hhead : (liveOf bs).head? = some c := by rw [hcs, head?_cons]
  obtain ⟨_, -, -, hcore⟩ := t.placedCore hbs (mem_of_mem_head? hhead)
  obtain ⟨first, rest, hengines, -⟩ := hcore.child
  have hstart : (enginesOf (liveOf bs)).head? = c.engines.head? := by
    rw [hcs, hengines]
    simp [enginesOf, hengines]
  have hpath := t.engines
  unfold Listed at hpath
  rw [hstart] at hpath
  unfold pcieConfigRunProcForAllEngines
  rw [(t.getChild_of_platform hbs hhead hfuel.1).2]
  refine (runWhile_of_path hpath (fun _ _ => rfl) (by simp) hfuel.2.2.2 _).trans (congrArg some ?_)
  refine foldl_ext _ _ _ fun s e he => if_pos ?_
  obtain ⟨c, hc, he⟩ := mem_flatMap.mp he
  obtain ⟨_, -, -, hcore⟩ := t.placedCore hbs hc
  exact hcore.selected he (by decide) (by decide)

theorem Headers.Linked.runProcForAllWrappersInNbio (hsplit : bs = front ++ b :: back) (hne : liveOf (b :: back) ≠ [])
    (callback : Nat → σ → σ) (buffer : σ) :
    pcieConfigRunProcForAllWrappersInNbio fuel h descriptorAllWrappers callback buffer b.silicon =
      some ((wrappersOf b.live).foldl (fun s w => callback w s) buffer) := by
  obtain ⟨c, cs, hcs⟩ := exists_cons_of_ne_nil hne
  have hhead : (liveOf (b :: back)).head? = some c := by rw [hcs, head?_cons]
  have hpath := t.wrappers
  unfold Listed at hpath
  rw [hsplit, liveOf_append, liveOf_cons, wrappersOf_append, wrappersOf_append] at hpath
  obtain ⟨p, -, hpath⟩ := path_append_iff.mp hpath
  have hstart : p = some c.addr := by
    rw [hpath.start_eq, ← wrappersOf_append, ← liveOf_cons, hcs]
    rfl
  obtain ⟨q, hlive, hback⟩ := path_append_iff.mp hpath
  rw [hstart] at hlive
  have hcores : ∀ b' ∈ bs, ∀ c ∈ b'.live, h.PlacedCore b'.silicon c := fun b' hb' c hc =>
    (t.placed b' hb').core c ((hbs.live b' hb').subset hc)
  have hparent : ∀ b' ∈ bs, ∀ c ∈ b'.live,
      pcieConfigGetParent fuel h descriptorSilicon c.addr = some (some b'.silicon) := fun b' hb' c hc =>
    (hcores b' hb' c hc).getParent_silicon (t.placed b' hb').siliconKind hfuel.1
  have hlength : (wrappersOf b.live).length < fuel := by
    have := hfuel.2.2.1
    rw [hsplit, liveOf_append, liveOf_cons, wrappersOf_append, wrappersOf_append] at this
    simp only [length_append] at this
    omega
  unfold pcieConfigRunProcForAllWrappersInNbio
  rw [t.getChild_of_silicon hbs hsplit hhead hfuel.1]
  refine (runWhile_of_path hlive ?_ ?_ hlength _).trans (congrArg some ?_)
  · intro w hw
    obtain ⟨c, hc, rfl⟩ := mem_map.mp hw
    rw [hparent b (by simp [hsplit]) c hc]
    simp
  · -- the next core in the list is one of another bridge
    intro w hw
    have hmem : w ∈ wrappersOf (liveOf back) := by
      rw [hback.start_eq] at hw
      exact mem_of_mem_head? (by simpa using hw)
    obtain ⟨c, hc, rfl⟩ := mem_map.mp hmem
    obtain ⟨b', hb', hc⟩ := mem_liveOf.mp hc
    rw [hparent b' (by simp [hsplit, hb']) c hc]
    have hlt : b.silicon < b'.silicon := by
      have := hbs.silicons
      rw [hsplit, map_append, map_cons, pairwise_append, pairwise_cons] at this
      exact this.2.1.1 _ (mem_map.mpr ⟨b', hb', rfl⟩)
    simp [hlt.ne]
  · refine foldl_ext _ _ _ fun s w hw => if_pos ?_
    obtain ⟨c, hc, rfl⟩ := mem_map.mp hw
    exact has_eq_of_kind (hcores b (by simp [hsplit]) c hc).kind _ (by decide)

theorem Headers.Linked.runProcForAllEnginesInWrapper {flags : BitVec 32} (hallocated : flags &&& descriptorAllocated = 0)
    (hflags : descriptorPcieEngine &&& (descriptorAllEngines &&& flags) ≠ 0) (hc : c ∈ liveOf bs)
    (callback : Nat → σ → σ) (buffer : σ) :
    pcieConfigRunProcForAllEnginesInWrapper fuel h flags callback buffer c.addr =
      some (c.engines.foldl (fun s e => callback e s) buffer) := by
  obtain ⟨_, -, -, hcore⟩ := t.placedCore hbs hc
  obtain ⟨first, rest, hengines, -⟩ := hcore.child
  obtain ⟨pre, post, hsplit⟩ := append_of_mem hc
  have hall : enginesOf (liveOf bs) = enginesOf pre ++ (c.engines ++ enginesOf post) := by
    rw [hsplit, enginesOf_append]
    rfl
  have hpath := t.engines
  unfold Listed at hpath
  rw [hall] at hpath
  obtain ⟨p, -, hpath⟩ := path_append_iff.mp hpath
  have hstart : p = c.engines.head? := by
    rw [hpath.start_eq, hengines]
    rfl
  obtain ⟨q, hown, hrest⟩ := path_append_iff.mp hpath
  rw [hstart] at hown
  have hlength : c.engines.length < fuel := by
    have := hfuel.2.2.2
    rw [hall] at this
    simp only [length_append] at this
    omega
  unfold pcieConfigRunProcForAllEnginesInWrapper
  rw [hcore.getChild_engine hfuel.1]
  refine (runWhile_of_path hown ?_ ?_ hlength _).trans (congrArg some ?_)
  · intro e he
    rw [hcore.getParent_wrapper he hfuel.1]
    simp
  · -- the next engine in the list is one of another core
    intro e he
    have hmem : e ∈ enginesOf post := by
      rw [hrest.start_eq] at he
      exact mem_of_mem_head? (by simpa using he)
    obtain ⟨c', hc', he'⟩ := mem_flatMap.mp hmem
    obtain ⟨_, -, -, hcore'⟩ := t.placedCore hbs (by rw [hsplit]; simp [hc'] : c' ∈ liveOf bs)
    rw [hcore'.getParent_wrapper he' hfuel.1]
    have hlt : c.addr < c'.addr := hbs.addr_lt (hsplit.trans (append_cons ..)) (by simp) hc'
    simp [hlt.ne]
  · exact foldl_ext _ _ _ fun s e he => if_pos (hcore.selected he hallocated hflags)

end

/-- Each walk runs its callback on the live descriptors in order, once on each. -/
structure Headers.Walks (h : Headers) (fuel : Nat) (bs : List BridgeNode) : Prop where
  allWrappers : ∀ (σ : Type) (callback : Nat → σ → σ × SilStatus) (buffer : σ),
    pcieConfigRunProcForAllWrappers fuel h descriptorAllWrappers callback buffer =
      some ((wrappersOf (liveOf bs)).foldl
        (fun s w => ((callback w s.1).1, silStatusUpdate (callback w s.1).2 s.2)) (buffer, .silPass))
  allEngines : ∀ (σ : Type) (callback : Nat → σ → σ) (buffer : σ),
    pcieConfigRunProcForAllEngines fuel h descriptorAllEngines callback buffer =
      some ((enginesOf (liveOf bs)).foldl (fun s e => callback e s) buffer)
  wrappersInNbio : ∀ b ∈ bs, ∀ (σ : Type) (callback : Nat → σ → σ) (buffer : σ),
    pcieConfigRunProcForAllWrappersInNbio fuel h descriptorAllWrappers callback buffer b.silicon =
      some ((wrappersOf b.live).foldl (fun s w => callback w s) buffer)
  enginesInWrapper : ∀ c ∈ liveOf bs, ∀ (σ : Type) (callback : Nat → σ → σ) (buffer : σ),
    pcieConfigRunProcForAllEnginesInWrapper fuel h descriptorAllEngines callback buffer c.addr =
      some (c.engines.foldl (fun s e => callback e s) buffer)
  once : (wrappersOf (liveOf bs)).Nodup ∧ (enginesOf (liveOf bs)).Nodup

theorem Headers.Linked.walks {fuel : Nat} {h : Headers} {bs : List BridgeNode} (t : h.Linked bs) (hbs : Layout bs)
    (hfuel : Enough fuel bs) (hlast : ∃ b ∈ bs.getLast?, b.live ≠ []) : h.Walks fuel bs := by
  have htail : ∀ front b back, bs = front ++ b :: back → liveOf (b :: back) ≠ [] := by
    rintro front b back rfl
    obtain ⟨last, hmem, hne⟩ := hlast
    rw [getLast?_append_of_ne_nil _ (by simp)] at hmem
    obtain ⟨c, hc⟩ := exists_mem_of_ne_nil _ hne
    exact ne_nil_of_mem (mem_liveOf.mpr ⟨last, mem_of_getLast? hmem, hc⟩)
  have hne : liveOf bs ≠ [] := by
    obtain ⟨last, hmem, -⟩ := hlast
    cases bs with
    | nil => simp at hmem
    | cons b bs => exact htail [] b bs rfl
  constructor
  · intro σ callback buffer
    exact t.runProcForAllWrappers hbs hfuel hne callback buffer
  · intro σ callback buffer
    exact t.runProcForAllEngines hbs hfuel hne callback buffer
  · intro b hb σ callback buffer
    obtain ⟨front, back, hsplit⟩ := append_of_mem hb
    exact t.runProcForAllWrappersInNbio hbs hfuel hsplit (htail front b back hsplit) callback buffer
  · intro c hc σ callback buffer
    exact t.runProcForAllEnginesInWrapper hbs hfuel (by decide) (by decide) hc callback buffer
  · exact ⟨hbs.wrappers.imp fun hlt => hlt.ne, hbs.engines.imp fun hlt => hlt.ne⟩

end OpenSil.Nbio
