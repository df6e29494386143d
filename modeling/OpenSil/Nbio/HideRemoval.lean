import OpenSil.Nbio.HidePcieCore

/-! # A core leaves the lists -/

namespace OpenSil.Nbio

open Chain List

@[simps] def BridgeNode.withLive (b : BridgeNode) (live : List CoreNode) : BridgeNode := { b with live := live }

section
variable {h h' : Headers} {front back : List BridgeNode} {b : BridgeNode} {pre post before : List CoreNode} {c q : CoreNode}
  {el : List Nat} {lastE : Nat}

/-! ## The headers -/

/-- The core `q` and its last engine point to the cores `after`, and the child of the silicon may change. -/
structure Headers.Relinked (h h' : Headers) (silicon : Nat) (q : CoreNode) (lastE : Nat) (after : List CoreNode) : Prop where
  same : ∀ a, a ≠ q.addr → a ≠ lastE → a ≠ silicon → h' a = h a
  silicon : h' silicon = { h silicon with child := (h' silicon).child }
  wrapper : h.Agrees h' q.addr
  engine : h.Agrees h' lastE
  nextWrapper : h'.nextTopologyDescriptor q.addr = (wrappersOf after).head?
  nextEngine : h'.nextTopologyDescriptor lastE = (enginesOf after).head?

namespace Headers.Relinked
variable {silicon : Nat} {after : List CoreNode} (r : h.Relinked h' silicon q lastE after)
include r

theorem agrees {a : Nat} (ha : a ≠ silicon) : h.Agrees h' a := by
  by_cases hq : a = q.addr
  · exact hq ▸ r.wrapper
  by_cases he : a = lastE
  · exact he ▸ r.engine
  exact agrees_of_eq (r.same a hq he ha)

theorem kind_silicon : h'.kind silicon = h.kind silicon := by
  unfold kind
  rw [r.silicon]

theorem parent_silicon : (h' silicon).parent = (h silicon).parent := by
  rw [r.silicon]

theorem next {a : Nat} (hq : a ≠ q.addr) (he : a ≠ lastE) : h'.nextTopologyDescriptor a = h.nextTopologyDescriptor a := by
  by_cases ha : a = silicon
  · unfold nextTopologyDescriptor has
    rw [ha, r.silicon]
  · exact next_of_eq (r.same a hq he ha)

theorem has {a : Nat} (hq : a ≠ q.addr) (he : a ≠ lastE) (flags : BitVec 32) : h'.has flags a = h.has flags a := by
  by_cases ha : a = silicon
  · unfold Headers.has
    rw [ha, r.silicon]
  · exact has_of_eq (r.same a hq he ha) flags

end Headers.Relinked

/-! ## The lists -/

theorem liveOf_split (front back : List BridgeNode) (b : BridgeNode) :
    liveOf (front ++ b :: back) = liveOf front ++ (b.live ++ liveOf back) := by
  rw [liveOf_append, liveOf_cons]

theorem Layout.remove (hbs : Layout (front ++ b :: back)) (hlive : b.live = pre ++ c :: post) :
    Layout (front ++ b.withLive (pre ++ post) :: back) := by
  have hsub : (pre ++ post).Sublist b.live := by
    rw [hlive]
    exact List.Sublist.append_left (sublist_cons_self c post) pre
  have hall : (liveOf (front ++ b.withLive (pre ++ post) :: back)).Sublist (liveOf (front ++ b :: back)) := by
    rw [liveOf_split, liveOf_split]
    exact (hsub.append (List.Sublist.refl _)).append_left _
  constructor
  · intro x hx
    rcases mem_append.mp hx with hx | hx
    · exact hbs.live x (mem_append_left _ hx)
    · rcases mem_cons.mp hx with rfl | hx
      · exact hsub.trans (hbs.live b (by simp))
      · exact hbs.live x (by simp [hx])
  · simpa using hbs.complexes
  · simpa using hbs.silicons
  · exact hbs.wrappers.sublist (hall.map _)
  · exact hbs.engines.sublist (hall.flatMap _)

theorem Headers.Listed.cut {l m r : List Nat} {a : Nat} (hl : h.Listed (l ++ [a] ++ m ++ r))
    (hsame : ∀ x ∈ l ++ r, h'.nextTopologyDescriptor x = h.nextTopologyDescriptor x)
    (ha : h'.nextTopologyDescriptor a = r.head?) : h'.Listed (l ++ [a] ++ r) := by
  rw [forall_mem_append] at hsame
  have hcut := Path.cut hl hsame.1 hsame.2 (by rw [ha, Option.or_none])
  unfold Listed
  rw [append_assoc (l ++ [a]), head?_append_of_ne_nil _ (by simp)] at hcut
  rwa [head?_append_of_ne_nil _ (by simp)]

theorem ne_of_pairwise {l m r : List Nat} {a x : Nat} (h : (l ++ [a] ++ m ++ r).Pairwise (· < ·))
    (hx : x ∈ l ++ r) : x ≠ a := by
  have hnodup : (l ++ a :: (m ++ r)).Nodup := by
    unfold List.Nodup
    simpa using h.imp fun hlt => hlt.ne
  rw [nodup_middle, nodup_cons] at hnodup
  rintro rfl
  apply hnodup.1
  simp only [mem_append] at hx ⊢
  tauto

section
variable {bs : List BridgeNode} {after : List CoreNode} {silicon : Nat} (t : h.Linked bs) (hbs : Layout bs)
  (hall : liveOf bs = before ++ [q] ++ [c] ++ after) (hlastE : q.engines = el ++ [lastE])
  (r : h.Relinked h' silicon q lastE after)
include t hbs hall hlastE r

theorem Headers.Linked.wrappers_remove : h'.Listed (wrappersOf (before ++ [q] ++ after)) := by
  obtain ⟨_, -, -, hq⟩ := t.placedCore hbs (c := q) (by simp [hall])
  have hlisted := t.wrappers
  have hkind := t.kind_wrapper hbs
  have hascending := hbs.wrappers
  simp only [hall, wrappersOf_append] at hlisted hkind hascending ⊢
  refine hlisted.cut (fun a ha => r.next (ne_of_pairwise hascending ha) ?_) r.nextWrapper
  exact ne_of_kind (hkind a (by simp only [mem_append] at ha ⊢; tauto)) (hq.engine lastE (by simp [hlastE])).1

theorem Headers.Linked.engines_remove : h'.Listed (enginesOf (before ++ [q] ++ after)) := by
  obtain ⟨_, -, -, hq⟩ := t.placedCore hbs (c := q) (by simp [hall])
  have hlisted := t.engines
  have hkind := t.kind_engine hbs
  have hascending := hbs.engines
  have hsplit : ∀ l, enginesOf (before ++ [q] ++ l) = enginesOf before ++ el ++ [lastE] ++ enginesOf l := by
    intro l
    rw [enginesOf_append, enginesOf_append, enginesOf_singleton, hlastE, append_assoc _ el]
  have hold : enginesOf (before ++ [q] ++ [c] ++ after) =
      enginesOf before ++ el ++ [lastE] ++ c.engines ++ enginesOf after := by
    rw [enginesOf_append, hsplit, enginesOf_singleton]
  rw [hall, hold] at hlisted hkind hascending
  rw [hsplit]
  refine hlisted.cut (fun a ha => r.next ?_ (ne_of_pairwise hascending ha)) r.nextEngine
  exact ne_of_kind (hkind a (by simp only [mem_append] at ha ⊢; tauto)) hq.kind

end

theorem forall_mem_withLive {P : BridgeNode → Prop} {live : List CoreNode} (hother : ∀ x ∈ front ++ back, P x)
    (hself : P (b.withLive live)) : ∀ x ∈ front ++ b.withLive live :: back, P x := by
  intro x hx
  rcases mem_append.mp hx with hx | hx
  · exact hother x (mem_append_left _ hx)
  · rcases mem_cons.mp hx with rfl | hx
    · exact hself
    · exact hother x (mem_append_right _ hx)

variable {x : BridgeNode}

theorem mem_of_other (hx : x ∈ front ++ back) : x ∈ front ++ b :: back := by
  rw [mem_append] at hx
  simp only [mem_append, mem_cons]
  tauto

theorem Layout.silicon_ne (hbs : Layout (front ++ b :: back)) (hx : x ∈ front ++ back) :
    x.silicon ≠ b.silicon := by
  have := hbs.silicons
  rw [map_append, map_cons] at this
  exact ne_of_pairwise (m := []) (by simpa using this) (by simpa using mem_map_of_mem hx)

theorem Headers.IsParent.unique {p p' d : Nat} (hp : h.IsParent p d) (hp' : h.IsParent p' d) : p = p' :=
  Nat.add_right_cancel (hp.2.trans hp'.2.symm)

theorem live_sublist {bs : List BridgeNode} (hx : x ∈ bs) : x.live.Sublist (liveOf bs) := by
  obtain ⟨front, back, rfl⟩ := append_of_mem hx
  rw [liveOf_split]
  exact (sublist_append_left _ _).trans (sublist_append_right _ _)

theorem liveOf_before (back : List BridgeNode) (hlive : b.live = pre ++ c :: post)
    (hbefore : liveOf front ++ pre = before ++ [q]) :
    liveOf (front ++ b :: back) = before ++ [q] ++ [c] ++ (post ++ liveOf back) := by
  rw [liveOf_split, hlive, ← hbefore]
  simp

theorem liveOf_removed (hbefore : liveOf front ++ pre = before ++ [q]) :
    liveOf (front ++ b.withLive (pre ++ post) :: back) = before ++ [q] ++ (post ++ liveOf back) := by
  rw [liveOf_split, ← hbefore]
  simp

section
variable (t : h.Linked (front ++ b :: back)) (hbs : Layout (front ++ b :: back)) (hlive : b.live = pre ++ c :: post)
  (hbefore : liveOf front ++ pre = before ++ [q]) (hlastE : q.engines = el ++ [lastE])
  (r : h.Relinked h' b.silicon q lastE (post ++ liveOf back))
include t hbs hlive hbefore hlastE r

omit hbs hlive hbefore hlastE in
theorem Headers.Linked.placed_remove (hx : x ∈ front ++ b :: back) : h'.Placed x := by
  have hplaced := t.placed x hx
  have hsilicon := (t.placed b (by simp)).siliconKind
  have hagrees : ∀ {a : Nat} {k : BitVec 32}, h.kind a = k → k ≠ descriptorSilicon → h.Agrees h' a := fun hkind hk =>
    r.agrees (ne_of_kind hkind hsilicon hk)
  refine hplaced.congr (hagrees hplaced.complexKind (by decide)) ?_ ?_ fun c hc => ?_
  · by_cases heq : x.silicon = b.silicon
    · rw [heq]
      exact r.kind_silicon
    · exact (r.agrees heq).kind
  · by_cases heq : x.silicon = b.silicon
    · rw [heq]
      exact r.parent_silicon
    · exact (r.agrees heq).parent
  · have hcore := hplaced.core c hc
    exact ⟨hagrees hcore.kind (by decide), fun e he => hagrees (hcore.engine e he).1 (by decide)⟩

omit hbefore hlastE in
theorem Headers.Linked.siliconChild_remove (hprev : pre = [] → ∃ p ∈ front.getLast?, p.live ≠ [])
    (hkeep : pre ≠ [] → (h' b.silicon).child = (h b.silicon).child)
    (hchild : pre = [] → ∀ x ∈ (post ++ liveOf back).head?, h'.IsChild b.silicon x.addr)
    {front' back' : List BridgeNode} {b' : BridgeNode} {x : CoreNode}
    (hsplit : front ++ b.withLive (pre ++ post) :: back = front' ++ b' :: back') (hx : (liveOf (b' :: back')).head? = some x) :
    h'.IsChild b'.silicon x.addr := by
  have hother : ∀ b' ∈ front ++ back, (h' b'.silicon).child = (h b'.silicon).child := by
    intro b' hb'
    exact (r.agrees (hbs.silicon_ne hb')).child
  -- the bridge itself
  have hself : (liveOf (b.withLive (pre ++ post) :: back)).head? = some x → h'.IsChild b.silicon x.addr := by
    intro hx
    rw [liveOf_cons] at hx
    cases pre with
    | nil => exact hchild rfl x hx
    | cons y pre =>
      refine (t.siliconChild front b back x rfl ?_).congr (hkeep (by simp))
      rw [liveOf_cons, hlive]
      exact hx
  rcases append_eq_append_iff.mp hsplit with ⟨as, rfl, hback⟩ | ⟨as, rfl, hback⟩
  · cases as with
    | nil =>
      obtain ⟨rfl, rfl⟩ := List.cons.inj hback
      exact hself hx
    | cons y as =>
      obtain ⟨rfl, rfl⟩ := List.cons.inj hback
      exact (t.siliconChild (front ++ b :: as) b' back' x (by simp) hx).congr (hother b' (by simp))
  · cases as with
    | nil =>
      obtain ⟨rfl, rfl⟩ := List.cons.inj hback
      exact hself hx
    | cons y as =>
      -- a bridge before it: some live core stands between
      rw [cons_append] at hback
      obtain ⟨rfl, rfl⟩ := List.cons.inj hback
      refine (t.siliconChild front' b' (as ++ b :: back) x (by simp) ?_).congr (hother b' (by simp))
      have hne : liveOf (b' :: as) ++ pre ≠ [] := by
        intro hnil
        obtain ⟨hfront, hpre⟩ := append_eq_nil_iff.mp hnil
        obtain ⟨p, hp, hplive⟩ := hprev hpre
        rw [getLast?_append_of_ne_nil _ (by simp)] at hp
        obtain ⟨y, hy⟩ := exists_mem_of_ne_nil _ hplive
        exact ne_nil_of_mem (mem_liveOf.mpr ⟨p, mem_of_getLast? hp, hy⟩) hfront
      have hold : liveOf (b' :: as ++ b :: back) = liveOf (b' :: as) ++ pre ++ c :: (post ++ liveOf back) := by
        rw [liveOf_split, hlive]
        simp
      have hnew : liveOf (b' :: as ++ b.withLive (pre ++ post) :: back) =
          liveOf (b' :: as) ++ pre ++ (post ++ liveOf back) := by
        rw [liveOf_split]
        simp
      rw [← cons_append, hnew, head?_append_of_ne_nil _ hne] at hx
      rw [← cons_append, hold, head?_append_of_ne_nil _ hne]
      exact hx

theorem Headers.Linked.remove (hprev : pre = [] → ∃ p ∈ front.getLast?, p.live ≠ [])
    (hkeep : pre ≠ [] → (h' b.silicon).child = (h b.silicon).child)
    (hchild : pre = [] → ∀ x ∈ (post ++ liveOf back).head?, h'.IsChild b.silicon x.addr) :
    h'.Linked (front ++ b.withLive (pre ++ post) :: back) := by
  have hall := liveOf_before back hlive hbefore
  obtain ⟨_, -, -, hq⟩ := t.placedCore hbs (c := q) (by simp [hall])
  have hsilicon := (t.placed b (by simp)).siliconKind
  have hzero := r.agrees (ne_of_kind t.platformKind hsilicon)
  constructor
  · exact hzero.kind.trans t.platformKind
  · intro x hx
    cases front with
    | nil =>
      obtain rfl := Option.some.inj hx
      exact (t.platformChild b rfl).congr hzero.child
    | cons y front => exact (t.platformChild x hx).congr hzero.child
  · refine forall_mem_withLive (fun x hx => t.placed_remove r (mem_of_other hx)) ?_
    obtain ⟨h₁, h₂, h₃, h₄, h₅, h₆⟩ := t.placed_remove r (x := b) (by simp)
    exact ⟨h₁, h₂, h₃, h₄, h₅, h₆⟩
  · have hmap : (front ++ b.withLive (pre ++ post) :: back).map (·.silicon) = (front ++ b :: back).map (·.silicon) := by
      simp
    rw [hmap]
    refine Path.congr t.silicons fun a ha => ?_
    have hkind := t.kind_silicon a ha
    exact r.next (ne_of_kind hkind hq.kind)
      (ne_of_kind hkind (hq.engine lastE (by simp [hlastE])).1)
  · rw [liveOf_removed hbefore]
    exact t.wrappers_remove hbs hall hlastE r
  · rw [liveOf_removed hbefore]
    exact t.engines_remove hbs hall hlastE r
  · intro front' b' back' x hsplit hx
    exact t.siliconChild_remove hbs hlive r hprev hkeep hchild hsplit hx

/-! ## The marks -/

section
variable (m : h.Marked (front ++ b :: back))
include m

theorem Headers.Marked.complexes_remove :
    LastOnly (h'.has descriptorTerminateTopology) ((front ++ b.withLive (pre ++ post) :: back).map (·.complex)) := by
  have hmap : (front ++ b.withLive (pre ++ post) :: back).map (·.complex) = (front ++ b :: back).map (·.complex) := by
    simp
  rw [hmap]
  refine m.complexes.congr fun a ha => ?_
  obtain ⟨x, hx, rfl⟩ := mem_map.mp ha
  have hkind := (t.placed x hx).complexKind
  obtain ⟨_, -, -, hq⟩ := t.placedCore hbs (c := q) (by simp [liveOf_before back hlive hbefore])
  exact has_of_eq (r.same _ (ne_of_kind hkind hq.kind)
    (ne_of_kind hkind (hq.engine lastE (by simp [hlastE])).1)
    (ne_of_kind hkind (t.placed b (by simp)).siliconKind)) _

theorem Headers.Marked.remove (hgnb : ∀ a, h'.has descriptorTerminateGnb a = h.has descriptorTerminateGnb a)
    (hlist : ∀ a, h'.has descriptorTerminateList a = h.has descriptorTerminateList a) (hpost : post ≠ [] ∨ pre = []) :
    h'.Marked (front ++ b.withLive (pre ++ post) :: back) := by
  have hb : b ∈ front ++ b :: back := by simp
  have hengines : enginesOf post ≠ [] ∨ enginesOf pre = [] := by
    refine hpost.imp (fun hne => ?_) fun hnil => by simp [hnil, enginesOf]
    obtain ⟨x, hx⟩ := exists_mem_of_ne_nil _ hne
    obtain ⟨e, _, he, -⟩ := ((t.placed b hb).core x ((hbs.live b hb).subset (by simp [hlive, hx]))).child
    exact ne_nil_of_mem (mem_flatMap.mpr ⟨x, hx, he ▸ mem_cons_self⟩)
  constructor
  · exact m.complexes_remove t hbs hlive hbefore hlastE r
  · refine forall_mem_withLive (fun x hx => ?_) ?_
    · rw [hgnb, hlist]
      exact m.silicons x (mem_of_other hx)
    · rw [hgnb, hlist]
      exact m.silicons b hb
  · refine forall_mem_withLive (fun x hx => (m.wrappers x (mem_of_other hx)).congr fun a _ => hgnb a) ?_
    have hold := m.wrappers b hb
    rw [hlive, append_cons, wrappersOf_append, wrappersOf_append] at hold
    have hne : wrappersOf post ≠ [] ∨ wrappersOf pre = [] := by simpa [wrappersOf] using hpost
    have hnew : LastOnly (h'.has descriptorTerminateGnb) _ := (hold.remove hne).congr fun a _ => hgnb a
    rwa [← wrappersOf_append] at hnew
  · refine forall_mem_withLive (fun x hx => (m.engines x (mem_of_other hx)).congr fun a _ => hgnb a) ?_
    have hold := m.engines b hb
    rw [hlive, append_cons, enginesOf_append, enginesOf_append] at hold
    have hnew : LastOnly (h'.has descriptorTerminateGnb) _ := (hold.remove hengines).congr fun a _ => hgnb a
    rwa [← enginesOf_append] at hnew
  · simp only [hlist]
    refine forall_mem_withLive (fun x hx => m.lists x (mem_of_other hx)) fun last hlast => m.lists b hb last ?_
    have hne : post ≠ [] := by
      rintro rfl
      rw [hpost.resolve_left (by simp)] at hlast
      simp at hlast
    unfold BridgeNode.withLive at hlast
    rw [hlive, getLast?_append_of_ne_nil _ (by simp), getLast?_cons_of_ne_nil hne]
    rwa [getLast?_append_of_ne_nil _ hne] at hlast

theorem Headers.Marked.remove_last {pre' : List CoreNode} (hpre : pre = pre' ++ [q]) (hpost : post = [])
    (hwrapper : h'.has descriptorTerminateGnb q.addr = true ∧ h'.has descriptorTerminateList q.addr = true)
    (hengine : h'.has descriptorTerminateGnb lastE = true) : h'.Marked (front ++ b.withLive (pre ++ post) :: back) := by
  have hb : b ∈ front ++ b :: back := by simp
  have hcores := fun x hx => (t.placed x hx).core
  have hq := hcores b hb q ((hbs.live b hb).subset (by simp [hlive, hpre]))
  have hc := hcores b hb c ((hbs.live b hb).subset (by simp [hlive]))
  obtain ⟨hkindE, hparentE⟩ := hq.engine lastE (by simp [hlastE])
  -- descriptors of other bridges are others
  have hotherW : ∀ x ∈ front ++ back, ∀ y ∈ x.cores, ∀ flags, h'.has flags y.addr = h.has flags y.addr := by
    intro x hx y hy flags
    have hcore := hcores x (mem_of_other hx) y hy
    refine r.has (fun heq => hbs.silicon_ne hx ?_) (ne_of_kind hcore.kind hkindE) flags
    exact (heq ▸ hcore.parent).unique hq.parent
  have hotherE : ∀ x ∈ front ++ back, ∀ y ∈ x.cores, ∀ e ∈ y.engines, ∀ flags, h'.has flags e = h.has flags e := by
    intro x hx y hy e he flags
    have hcore := hcores x (mem_of_other hx) y hy
    refine r.has (ne_of_kind (hcore.engine e he).1 hq.kind) (fun heq => hbs.silicon_ne hx ?_) flags
    have haddr : y.addr = q.addr := (heq ▸ (hcore.engine e he).2).unique hparentE
    exact (haddr ▸ hcore.parent).unique hq.parent
  have hliveSub : ∀ x ∈ front ++ back, ∀ y ∈ x.live, y ∈ x.cores := fun x hx _ hy =>
    (hbs.live x (mem_of_other hx)).subset hy
  subst hpost hpre
  constructor
  · exact m.complexes_remove t hbs hlive hbefore hlastE r
  · have hmarks : ∀ x ∈ front ++ b :: back, h'.has descriptorTerminateGnb x.silicon = true ∧
        h'.has descriptorTerminateList x.silicon = true := by
      intro x hx
      have hkind := (t.placed x hx).siliconKind
      rw [r.has (ne_of_kind hkind hq.kind) (ne_of_kind hkind hkindE),
        r.has (ne_of_kind hkind hq.kind) (ne_of_kind hkind hkindE)]
      exact m.silicons x hx
    exact forall_mem_withLive (fun x hx => hmarks x (mem_of_other hx)) (hmarks b hb)
  · refine forall_mem_withLive (fun x hx => (m.wrappers x (mem_of_other hx)).congr fun a ha => ?_) ?_
    · obtain ⟨y, hy, rfl⟩ := mem_map.mp ha
      exact hotherW x hx y (hliveSub x hx y hy) _
    · have hold := m.wrappers b hb
      have hascending : (wrappersOf b.live).Pairwise (· < ·) := hbs.wrappers.sublist ((live_sublist hb).map _)
      rw [hlive, wrappersOf_append, wrappersOf_append] at hascending
      rw [hlive, wrappersOf_append, wrappersOf_singleton, lastOnly_append_singleton_iff] at hold
      show LastOnly _ (wrappersOf (pre' ++ [q] ++ []))
      rw [append_nil, wrappersOf_append, wrappersOf_singleton, lastOnly_append_singleton_iff]
      refine ⟨fun a ha => ?_, hwrapper.1⟩
      obtain ⟨y, hy, rfl⟩ := mem_map.mp ha
      have hcore := hcores b hb y ((hbs.live b hb).subset (by simp [hlive, hy]))
      have hne : y.addr ≠ q.addr := by
        rw [← append_nil (_ ++ _ ++ _)] at hascending
        exact ne_of_pairwise hascending (by simpa using ha)
      rw [r.has hne (ne_of_kind hcore.kind hkindE)]
      exact hold.1 _ (by rw [wrappersOf_append]; exact mem_append_left _ ha)
  · refine forall_mem_withLive (fun x hx => (m.engines x (mem_of_other hx)).congr fun a ha => ?_) ?_
    · obtain ⟨y, hy, ha⟩ := mem_flatMap.mp ha
      exact hotherE x hx y (hliveSub x hx y hy) a ha _
    · have hold := m.engines b hb
      have hascending : (enginesOf b.live).Pairwise (· < ·) := hbs.engines.sublist ((live_sublist hb).flatMap _)
      obtain ⟨ce, le, hce⟩ := hc.engines_concat
      have hall : enginesOf b.live = enginesOf pre' ++ el ++ [lastE] ++ ce ++ [le] := by
        rw [hlive, enginesOf_append, enginesOf_append]
        simp [hlastE, hce]
      rw [hall] at hascending hold
      rw [lastOnly_append_singleton_iff] at hold
      have hnew : enginesOf (pre' ++ [q] ++ []) = enginesOf pre' ++ el ++ [lastE] := by
        rw [append_nil, enginesOf_append]
        simp [hlastE]
      show LastOnly _ (enginesOf (pre' ++ [q] ++ []))
      rw [hnew, lastOnly_append_singleton_iff]
      refine ⟨fun a ha => ?_, hengine⟩
      have hkind : h.kind a = descriptorPcieEngine := by
        refine t.kind_engine hbs a (((live_sublist hb).flatMap _).subset ?_)
        show a ∈ enginesOf b.live
        rw [hall]
        simp only [mem_append] at ha ⊢
        tauto
      have hne : a ≠ lastE := ne_of_pairwise hascending (mem_append_left _ ha)
      rw [r.has (ne_of_kind hkind hq.kind) hne]
      refine hold.1 a ?_
      simp only [mem_append] at ha ⊢
      tauto
  · refine forall_mem_withLive (fun x hx last hlast => ?_) fun last hlast => ?_
    · rw [hotherW x hx last (hliveSub x hx last (mem_of_getLast? hlast))]
      refine ⟨(m.lists x (mem_of_other hx) last hlast).1, fun y hy hlt => ?_⟩
      rw [hotherW x hx y hy]
      exact (m.lists x (mem_of_other hx) last hlast).2 y hy hlt
    · obtain rfl : q = last := by simpa using hlast
      refine ⟨hwrapper.2, fun y hy hlt => ?_⟩
      have hcore := hcores b hb y hy
      rw [r.has hlt.ne (ne_of_kind hcore.kind hkindE)]
      have hqc : q.addr < c.addr := hbs.addr_lt ((liveOf_before back hlive hbefore).trans (append_assoc ..)) (by simp) (by simp)
      exact (m.lists b hb c (by simp [hlive])).2 y hy (hlt.trans hqc)

end

end

end

end OpenSil.Nbio
