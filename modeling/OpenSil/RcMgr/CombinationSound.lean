import OpenSil.RcMgr.Combination
import OpenSil.RcMgr.Window

/-! # When a combination is sound -/

namespace OpenSil.RcMgr

open Word Place List Function UInt64

/-! ## The pools of one root bridge -/

def blockBelow4G (blk : InputBlk) (rb : Nat × Nat) : PoolKind → Block
  | .nonPci => ⟨rcMgrNonPciMmioAlignMask, sizeNonPci blk⟩
  | .prefetch => (blk.prefetchableMmioSizeBelow4G rb.1 rb.2).block
  | .nonPrefetch => (blk.nonPrefetchableMmioSizeBelow4G rb.1 rb.2).block

def queueBelow4G (blk : InputBlk) (rb : Nat × Nat) (bigAlignFirst : Bool) : List PoolKind :=
  let p := (blk.prefetchableMmioSizeBelow4G rb.1 rb.2).alignment
  let np := (blk.nonPrefetchableMmioSizeBelow4G rb.1 rb.2).alignment
  if bigAlignFirst then
    if np ≤ p then [.prefetch, .nonPrefetch, .nonPci] else [.nonPrefetch, .prefetch, .nonPci]
  else
    if p ≤ np then [.nonPci, .prefetch, .nonPrefetch] else [.nonPci, .nonPrefetch, .prefetch]

variable {blk : InputBlk} {df : DfAnswers} {rb : Nat × Nat} {c : UInt64} {big : Bool}

theorem stacked_of_order {block : PoolKind → Block} {base size : PoolKind → UInt64} (x y z : PoolKind)
    (hkinds : ∀ k, k = x ∨ k = y ∨ k = z) (hmask : ∀ k, IsMask (block k).mask) (h : NoWrap block c [x, y, z])
    (hx : size x ≠ 0 → base x = alignUp c (block x).mask)
    (hy : size y ≠ 0 → base y = alignUp (alignUp c (block x).mask + (block x).size) (block y).mask)
    (hz : size z ≠ 0 → base z =
      alignUp (alignUp (alignUp c (block x).mask + (block x).size) (block y).mask + (block y).size) (block z).mask)
    (hsx : size x = (block x).size ∨
      size x = alignUp (alignUp c (block x).mask + (block x).size) (block y).mask - alignUp c (block x).mask)
    (hsy : size y =
      alignUp (alignUp (alignUp c (block x).mask + (block x).size) (block y).mask + (block y).size) (block z).mask -
        alignUp (alignUp c (block x).mask + (block x).size) (block y).mask)
    (hsz : size z = (block z).size) :
    Stacked (fun _ => True) block base size c.toNat (finish block c [x, y, z]).toNat := by
  obtain ⟨h0, h1, h2, h3⟩ := h.three hmask
  have hgap := add_gap h1
  have hgap' := add_gap h2
  have hlow : (block x).size ≤ size x ∧ (alignUp c (block x).mask).toNat + (size x).toNat ≤
      (alignUp (alignUp c (block x).mask + (block x).size) (block y).mask).toNat := by
    rcases hsx with hsx | hsx
    · rw [hsx]
      exact ⟨UInt64.le_refl _, h1⟩
    · rw [hsx]
      exact ⟨hgap.1, hgap.2.le⟩
  have htop := (stacked_nil le_rfl).cons z _ le_rfl (hsz ▸ h3.le) (hsz ▸ UInt64.le_refl _)
    (fun _ => alignUp_and_mask _ _) hz
  have hmiddle := htop.cons y _ le_rfl (hsy ▸ hgap'.2.le) (hsy ▸ hgap'.1) (fun _ => alignUp_and_mask _ _) hy
  refine (hmiddle.cons x _ h0 hlow.2 hlow.1 (fun _ => alignUp_and_mask _ _) hx).mono_dom fun k _ => ?_
  rcases hkinds k with hk | hk | hk
  · exact .inl hk
  · exact .inr (.inl hk)
  · exact .inr (.inr (.inl hk))

theorem mmioCeiling_eq :
    (layoutBelow4G blk rb big c).mmioCeiling = finish (blockBelow4G blk rb) c (queueBelow4G blk rb big) := by
  unfold layoutBelow4G layout queueBelow4G
  dsimp only
  split_ifs <;> rfl

variable {l : Layout}

theorem region_basePrefetch (h : (regionBelow4G blk rb l.clearEmpty false).size .prefetch ≠ 0) :
    (regionBelow4G blk rb l.clearEmpty false).base .prefetch = l.basePrefetch :=
  if_neg h

theorem region_baseNonPrefetch (h : (regionBelow4G blk rb l.clearEmpty false).size .nonPrefetch ≠ 0) :
    (regionBelow4G blk rb l.clearEmpty false).base .nonPrefetch = l.baseNonPrefetch :=
  if_neg h

theorem region_stacked (hmask : ∀ k, IsMask (blockBelow4G blk rb k).mask)
    (h : NoWrap (blockBelow4G blk rb) c (queueBelow4G blk rb big)) :
    Stacked (fun _ => True) (blockBelow4G blk rb) (regionBelow4G blk rb (layoutBelow4G blk rb big c) false).base
      (regionBelow4G blk rb (layoutBelow4G blk rb big c) false).size c.toNat
      (layoutBelow4G blk rb big c).mmioCeiling.toNat := by
  rw [mmioCeiling_eq]
  unfold queueBelow4G at h ⊢
  unfold layoutBelow4G layout
  dsimp only at h ⊢
  split_ifs at h ⊢ with hbig horder horder'
  · exact stacked_of_order .prefetch .nonPrefetch .nonPci (by rintro (_ | _ | _) <;> simp) hmask h region_basePrefetch
      region_baseNonPrefetch (fun _ => rfl) (.inr rfl) rfl rfl
  · exact stacked_of_order .nonPrefetch .prefetch .nonPci (by rintro (_ | _ | _) <;> simp) hmask h
      region_baseNonPrefetch region_basePrefetch (fun _ => rfl) (.inr rfl) rfl rfl
  · exact stacked_of_order .nonPci .prefetch .nonPrefetch (by rintro (_ | _ | _) <;> simp) hmask h (fun _ => rfl)
      region_basePrefetch region_baseNonPrefetch (.inl rfl) rfl rfl
  · exact stacked_of_order .nonPci .nonPrefetch .prefetch (by rintro (_ | _ | _) <;> simp) hmask h (fun _ => rfl)
      region_baseNonPrefetch region_basePrefetch (.inl rfl) rfl rfl

/-! ## Which root bridges ask for something -/

def AsksBelow4G (blk : InputBlk) (rb : Nat × Nat) : Prop :=
  (blk.prefetchableMmioSizeBelow4G rb.1 rb.2).size ≠ 0 ∨ (blk.nonPrefetchableMmioSizeBelow4G rb.1 rb.2).size ≠ 0 ∨
    sizeNonPci blk ≠ 0

instance : DecidablePred (AsksBelow4G blk) := fun _ => inferInstanceAs (Decidable (_ ∨ _ ∨ _))

theorem asksBelow4G_of_not (h : ¬ AsksBelow4G blk rb) : asksBelow4G blk rb = false := by
  unfold AsksBelow4G at h
  push Not at h
  unfold asksBelow4G
  rw [h.1, h.2.1, h.2.2]
  rfl

theorem queueBelow4G_perm : (queueBelow4G blk rb big).Perm [.nonPci, .prefetch, .nonPrefetch] := by
  unfold queueBelow4G
  dsimp only
  split_ifs <;> decide

theorem asksBelow4G_of_noWrap (hasks : AsksBelow4G blk rb) (hmask : ∀ k, IsMask (blockBelow4G blk rb k).mask)
    (h : NoWrap (blockBelow4G blk rb) c (queueBelow4G blk rb big)) : asksBelow4G blk rb = true := by
  have hsum := h.add_sum_le fun k _ => hmask k
  rw [(queueBelow4G_perm.map fun k => (blockBelow4G blk rb k).size.toNat).sum_eq] at hsum
  simp only [map_cons, map_nil, sum_cons, sum_nil, blockBelow4G, AddrAperture.block] at hsum
  have hlt := (finish (blockBelow4G blk rb) c (queueBelow4G blk rb big)).toNat_lt
  unfold AsksBelow4G at hasks
  simp only [ne_eq, ← UInt64.toNat_inj, UInt64.toNat_zero] at hasks
  unfold asksBelow4G
  simp only [ne_eq, decide_eq_true_eq, ← UInt64.toNat_inj, UInt64.toNat_add, UInt64.toNat_zero]
  omega

/-! ## The run as a placement of blocks -/

def queueOfSide (blk : InputBlk) (mmioIsAbovePcieCfg : Nat → Bool) (side : Side) :
    Bool → List (Nat × Nat) → List ((Nat × Nat) × PoolKind)
  | _, [] => []
  | big, rb :: rbs =>
    if AsksBelow4G blk rb ∧ sideOf mmioIsAbovePcieCfg rb = side then
      (queueBelow4G blk rb big).map (rb, ·) ++ queueOfSide blk mmioIsAbovePcieCfg side (!big) rbs
    else queueOfSide blk mmioIsAbovePcieCfg side big rbs

section
variable (blk : InputBlk) (mmioIsAbovePcieCfg : Nat → Bool) (c : Side → UInt64) (big : Side → Bool) (rbs : List (Nat × Nat))

/-- On neither side does an address of the layout leave 64 bits. -/
def NoSumWraps : Prop :=
  ∀ side, NoWrap (fun i => blockBelow4G blk i.1 i.2) (c side) (queueOfSide blk mmioIsAbovePcieCfg side (big side) rbs)

instance : Decidable (NoSumWraps blk mmioIsAbovePcieCfg c big rbs) :=
  inferInstanceAs (Decidable (∀ _, NoWrap _ _ _))

/-- The layout of each side that is used ends below its limit. -/
def Fits : Prop :=
  ∀ side, queueOfSide blk mmioIsAbovePcieCfg side (big side) rbs ≠ [] →
    finish (fun i => blockBelow4G blk i.1 i.2) (c side) (queueOfSide blk mmioIsAbovePcieCfg side (big side) rbs) ≤
      mmioLimit blk side

instance : Decidable (Fits blk mmioIsAbovePcieCfg c big rbs) :=
  inferInstanceAs (Decidable (∀ _, _ → _))

end

structure RbWindow where
  rb : Nat × Nat
  base : UInt64
  ceiling : UInt64

def RbWindow.range (w : RbWindow) : Nat × Nat := (w.base.toNat, w.ceiling.toNat - w.base.toNat)

/-- The root bridges placed so far have their windows on the two sides and their pools in them. -/
structure Combined (blk : InputBlk) (df : DfAnswers) (mmioIsAbovePcieCfg : Nat → Bool) (block : Nat × Nat → PoolKind → Block)
    (start hi : Side → UInt64) (ws : List RbWindow) (out : MmioState) : Prop where
  order : ∀ w ∈ ws, w.rb ∈ combinationOrder blk df
  stacked : ∀ w ∈ ws, Stacked (fun _ => True) (block w.rb)
    (out.manager.mmioRegionBelow4G w.rb.1 w.rb.2).base (out.manager.mmioRegionBelow4G w.rb.1 w.rb.2).size
    w.base.toNat w.ceiling.toNat
  packed : ∀ side, Packed (fun w => w ∈ ws ∧ sideOf mmioIsAbovePcieCfg w.rb = side) RbWindow.range
    (start side).toNat (hi side).toNat
  allocated : ∀ w ∈ ws, out.manager.allocateMmioBelow4GOnThisRb w.rb.1 w.rb.2 = true

variable {a : Nat → Bool} {start hi : Side → UInt64}
  {block : Nat × Nat → PoolKind → Block} {ws : List RbWindow} {out : MmioState}

variable {region : MmioRegion}

theorem setBelow4G_region_of_ne {rb rb' : Nat × Nat} {base length : UInt64} (h : rb' ≠ rb) :
    (out.setBelow4G blk df rb region base length).manager.mmioRegionBelow4G rb'.1 rb'.2 =
      out.manager.mmioRegionBelow4G rb'.1 rb'.2 :=
  Table.set_of_ne _ _ fun heq => h (Prod.ext heq.1 heq.2)

variable {side : Side}
open RbWindow

theorem Combined.add {length : UInt64} (h : Combined blk df a block start hi ws out) (w : RbWindow)
    (horder : w.rb ∈ combinationOrder blk df) (hnew : ∀ w' ∈ ws, w'.rb ≠ w.rb)
    (hside : sideOf a w.rb = side) (hbase : w.base = hi side)
    (hst : Stacked (fun _ => True) (block w.rb) region.base region.size w.base.toNat w.ceiling.toNat) :
    let out' := out.setBelow4G blk df w.rb region w.base length
    Combined blk df a block start (update hi side w.ceiling) (ws ++ [w]) out' := by
  intro out'
  have hcases : ∀ w' ∈ ws ++ [w], w' ∈ ws ∧ w'.rb ≠ w.rb ∨ w' = w := by
    intro w' hw'
    rcases mem_append.mp hw' with hw' | hw'
    · exact .inl ⟨hw', hnew w' hw'⟩
    · exact .inr (mem_singleton.mp hw')
  constructor
  · intro w' hw'
    rcases hcases w' hw' with ⟨hw', -⟩ | rfl
    · exact h.order w' hw'
    · exact horder
  · intro w' hw'
    rcases hcases w' hw' with ⟨hw', hne⟩ | rfl
    · rw [setBelow4G_region_of_ne hne]
      exact h.stacked w' hw'
    · have hself : out'.manager.mmioRegionBelow4G w'.rb.1 w'.rb.2 = region := Table.set_self _ _ _ _
      rw [hself]
      exact hst
  · intro side'
    by_cases hs : side' = side
    · subst hs
      rw [update_self]
      have hle := hst.packed.le
      have hwin : Packed (· = w) range (hi side').toNat w.ceiling.toNat := by
        refine packed_singleton (hbase ▸ hle) fun b hlo hhi => ?_
        unfold RbWindow.range at hlo hhi
        rw [← hbase]
        omega
      exact ((h.packed side').append hwin).mono_dom fun w' hw' =>
        (hcases w' hw'.1).imp (fun hd => ⟨hd.1, hw'.2⟩) id
    · rw [update_of_ne hs]
      refine (h.packed side').mono_dom fun w' hw' => ⟨?_, hw'.2⟩
      rcases hcases w' hw'.1 with ⟨hd, -⟩ | rfl
      · exact hd
      · exact absurd (hw'.2.symm.trans hside) hs
  · intro w' hw'
    rcases hcases w' hw' with ⟨hw', hne⟩ | rfl
    · exact (Table.set_of_ne _ _ fun heq => hne (Prod.ext heq.1 heq.2)).trans (h.allocated w' hw')
    · exact Table.set_self _ _ _ _

/-! ## One step of the run -/

variable {s : TryState} {setDf : Bool}

theorem tryRb_of_not_asks (h : ¬ AsksBelow4G blk rb) : tryRb blk df a setDf s rb = s := by
  unfold tryRb
  rw [asksBelow4G_of_not h]
  rfl

/-- With this layout, the space for other devices moves to the other side. -/
abbrev TryState.moves (blk : InputBlk) (df : DfAnswers) (s : TryState) (side : Side) (rb : Nat × Nat) (l : Layout) : Bool :=
  (s.advance blk side l.mmioCeiling).canMoveNonPci blk df side rb l.deltaSize

open TryState

theorem canMoveNonPci_of {delta : UInt64} (h : rb ≠ primaryRb df ∨ hasSparePair blk = false ∨ s.overSizeFlag = false) :
    s.canMoveNonPci blk df side rb delta = false := by
  unfold canMoveNonPci
  rcases h with h | h | h <;> simp [h]

@[simp] theorem recordIf_overSizeFlag {base : UInt64} :
    (s.recordIf blk df setDf side rb base l).overSizeFlag = s.overSizeFlag := by
  unfold recordIf record
  split_ifs <;> rfl

section
variable (hasks : asksBelow4G blk rb = true) (hside : sideOf a rb = side)
  (hl : layoutBelow4G blk rb (s.bigAlignFirst side) (s.mmioBaseAddr side) = l)
include hasks hside hl

theorem tryRb_of_not_move (hmove : s.moves blk df side rb l = false) :
    tryRb blk df a setDf s rb =
      (s.advance blk side l.mmioCeiling).recordIf blk df setDf side rb (s.mmioBaseAddr side) l := by
  subst hside hl
  unfold tryRb placeRb
  rw [if_pos hasks]
  simp only [hmove, Bool.false_eq_true, if_false]

theorem tryRb_out (hmove : s.moves blk df side rb l = false)
    (hover : (tryRb blk df a true s rb).overSizeFlag = false) (hat2nd : s.nonPciAt2ndRegion = false) :
    (∃ length, (tryRb blk df a true s rb).out =
      s.out.setBelow4G blk df rb (regionBelow4G blk rb l false) (s.mmioBaseAddr side) length) ∧
    l.mmioCeiling ≤ mmioLimit blk side := by
  rw [tryRb_of_not_move hasks hside hl hmove] at hover ⊢
  rw [recordIf_overSizeFlag] at hover
  have hspace := (Bool.or_eq_false_iff.mp hover).2
  have hat : (s.advance blk side l.mmioCeiling).nonPciAt2ndRegion = false := hat2nd
  refine ⟨?_, by simpa using hspace⟩
  unfold recordIf record
  rw [if_pos (by rw [hover]; rfl), hat]
  split_ifs <;> exact ⟨_, rfl⟩

theorem tryRb_of_ne (setDf : Bool) (hne : rb ≠ primaryRb df) :
    let t := tryRb blk df a setDf s rb
    t.mmioBaseAddr = update s.mmioBaseAddr side l.mmioCeiling ∧
    t.bigAlignFirst = update s.bigAlignFirst side (!s.bigAlignFirst side) ∧
    t.nonPciAt2ndRegion = s.nonPciAt2ndRegion := by
  rw [tryRb_of_not_move hasks hside hl (canMoveNonPci_of (.inl hne))]
  unfold recordIf record
  rw [if_neg hne]
  split_ifs <;> exact ⟨rfl, rfl, rfl⟩

end

theorem overSizeFlag_of_tryRb (hne : rb ≠ primaryRb df ∨ hasSparePair blk = false)
    (h : (tryRb blk df a setDf s rb).overSizeFlag = false) : s.overSizeFlag = false := by
  cases hasks : asksBelow4G blk rb with
  | false => simpa [tryRb, hasks] using h
  | true =>
    rw [tryRb_of_not_move hasks rfl rfl (canMoveNonPci_of (hne.imp id .inl)), recordIf_overSizeFlag] at h
    exact (Bool.or_eq_false_iff.mp h).1

variable {rbs rest : List (Nat × Nat)}

theorem overSizeFlag_of_foldl (hne : ∀ rb ∈ rbs, rb ≠ primaryRb df)
    (h : (rbs.foldl (tryRb blk df a setDf) s).overSizeFlag = false) :
    s.overSizeFlag = false := by
  induction rbs generalizing s with
  | nil => exact h
  | cons rb rbs ih =>
    rw [forall_mem_cons] at hne
    exact overSizeFlag_of_tryRb (.inl hne.1) (ih hne.2 h)

section
variable (hasks : AsksBelow4G blk rb) (hside : sideOf a rb = side)
include hasks hside

theorem queueOfSide_cons_of : queueOfSide blk a side big (rb :: rbs) =
      (queueBelow4G blk rb big).map (rb, ·) ++ queueOfSide blk a side (!big) rbs :=
  if_pos ⟨hasks, hside⟩

theorem noWrap_queueOfSide_cons :
    NoWrap (fun i => blockBelow4G blk i.1 i.2) c (queueOfSide blk a side big (rb :: rbs)) ↔
      NoWrap (blockBelow4G blk rb) c (queueBelow4G blk rb big) ∧
      NoWrap (fun i => blockBelow4G blk i.1 i.2) (layoutBelow4G blk rb big c).mmioCeiling
        (queueOfSide blk a side (!big) rbs) := by
  rw [mmioCeiling_eq, queueOfSide_cons_of hasks hside, noWrap_append, noWrap_map, finish_map]

theorem finish_queueOfSide_cons :
    finish (fun i => blockBelow4G blk i.1 i.2) c (queueOfSide blk a side big (rb :: rbs)) =
      finish (fun i => blockBelow4G blk i.1 i.2) (layoutBelow4G blk rb big c).mmioCeiling
        (queueOfSide blk a side (!big) rbs) := by
  rw [mmioCeiling_eq, queueOfSide_cons_of hasks hside, finish_append, finish_map]

theorem queueOfSide_ne_nil : queueOfSide blk a side big (rb :: rbs) ≠ [] := by
  rw [queueOfSide_cons_of hasks hside]
  intro hnil
  have hlen := congrArg length (append_eq_nil_iff.mp hnil).1
  rw [length_map, queueBelow4G_perm.length_eq] at hlen
  cases hlen

end

theorem queueOfSide_cons_of_not (h : ¬ (AsksBelow4G blk rb ∧ sideOf a rb = side)) :
    queueOfSide blk a side big (rb :: rbs) = queueOfSide blk a side big rbs :=
  if_neg h

section
variable {c : Side → UInt64} {big : Side → Bool}

theorem NoSumWraps.head (h : NoSumWraps blk a c big (rb :: rest)) (hasks : AsksBelow4G blk rb)
    (hside : sideOf a rb = side) : NoWrap (blockBelow4G blk rb) (c side) (queueBelow4G blk rb (big side)) :=
  ((noWrap_queueOfSide_cons hasks hside).mp (h side)).1

theorem NoSumWraps.asks (h : NoSumWraps blk a c big (rb :: rest)) (hasks : AsksBelow4G blk rb)
    (hmask : ∀ k, IsMask (blockBelow4G blk rb k).mask) : asksBelow4G blk rb = true :=
  asksBelow4G_of_noWrap hasks hmask (h.head hasks rfl)

theorem NoSumWraps.tail (h : NoSumWraps blk a c big (rb :: rest)) (hasks : AsksBelow4G blk rb)
    (hside : sideOf a rb = side) : NoSumWraps blk a
      (update c side (layoutBelow4G blk rb (big side) (c side)).mmioCeiling)
      (update big side (!big side)) rest := by
  intro side'
  by_cases hs : side' = side
  · subst hs
    rw [update_self, update_self]
    exact ((noWrap_queueOfSide_cons hasks hside).mp (h side')).2
  · rw [update_of_ne hs, update_of_ne hs,
      ← queueOfSide_cons_of_not fun h => hs (h.2.symm.trans hside)]
    exact h side'

theorem NoSumWraps.skip (h : NoSumWraps blk a c big (rb :: rest)) (hasks : ¬ AsksBelow4G blk rb) :
    NoSumWraps blk a c big rest := by
  intro side
  rw [← queueOfSide_cons_of_not fun h => hasks h.1]
  exact h side

end

section
variable (hs : Combined blk df a (blockBelow4G blk) start s.mmioBaseAddr ws s.out)
  (horder : rb ∈ combinationOrder blk df) (hnew : ∀ w ∈ ws, w.rb ≠ rb) (hasks : AsksBelow4G blk rb)
  (hmask : ∀ k, IsMask (blockBelow4G blk rb k).mask)
  (hnowrap : NoSumWraps blk a s.mmioBaseAddr s.bigAlignFirst (rb :: rest)) (hside : sideOf a rb = side)
  (hl : layoutBelow4G blk rb (s.bigAlignFirst side) (s.mmioBaseAddr side) = l)
  (hover : (tryRb blk df a true s rb).overSizeFlag = false) (hat2nd : s.nonPciAt2ndRegion = false)
include hs horder hnew hasks hmask hnowrap hside hl hover hat2nd

theorem Combined.stay (hstay : s.moves blk df side rb l = false) :
    Combined blk df a (blockBelow4G blk) start (update s.mmioBaseAddr side l.mmioCeiling)
        (ws ++ [⟨rb, s.mmioBaseAddr side, l.mmioCeiling⟩]) (tryRb blk df a true s rb).out ∧
      l.mmioCeiling ≤ mmioLimit blk side := by
  have hst := region_stacked hmask (hnowrap.head hasks hside)
  rw [hl] at hst
  obtain ⟨⟨length, hout⟩, hle⟩ := tryRb_out (hnowrap.asks hasks hmask) hside hl hstay hover hat2nd
  rw [hout]
  exact ⟨hs.add ⟨rb, _, _⟩ horder hnew hside rfl hst, hle⟩

theorem Combined.step (hne : rb ≠ primaryRb df) :
    let t := tryRb blk df a true s rb
    t.nonPciAt2ndRegion = false ∧ t.mmioBaseAddr = update s.mmioBaseAddr side l.mmioCeiling ∧
      l.mmioCeiling ≤ mmioLimit blk side ∧
      Combined blk df a (blockBelow4G blk) start t.mmioBaseAddr
        (ws ++ [⟨rb, s.mmioBaseAddr side, l.mmioCeiling⟩]) t.out ∧
      NoSumWraps blk a t.mmioBaseAddr t.bigAlignFirst rest := by
  have htail := hnowrap.tail hasks hside
  obtain ⟨hbase, hbig, hat⟩ := tryRb_of_ne (hnowrap.asks hasks hmask) hside hl true hne
  obtain ⟨hcomb, hle⟩ := hs.stay horder hnew hasks hmask hnowrap hside hl hover hat2nd (canMoveNonPci_of (.inl hne))
  rw [hl] at htail
  refine ⟨hat.trans hat2nd, hbase, hle, hbase ▸ hcomb, ?_⟩
  rw [hbase, hbig]
  exact htail

end

theorem Combined.foldl (rbs rest : List (Nat × Nat)) (horder : ∀ rb ∈ rbs, rb ∈ combinationOrder blk df)
    (hne : ∀ rb ∈ rbs, rb ≠ primaryRb df) (hnodup : rbs.Nodup) (hnew : ∀ w ∈ ws, w.rb ∉ rbs)
    (hmask : ∀ rb ∈ rbs, ∀ k, IsMask (blockBelow4G blk rb k).mask)
    (hnowrap : NoSumWraps blk a s.mmioBaseAddr s.bigAlignFirst (rbs ++ rest))
    (hs : Combined blk df a (blockBelow4G blk) start s.mmioBaseAddr ws s.out)
    (hover : (rbs.foldl (tryRb blk df a true) s).overSizeFlag = false)
    (hat2nd : s.nonPciAt2ndRegion = false) :
    let s' := rbs.foldl (tryRb blk df a true) s
    s'.nonPciAt2ndRegion = false ∧ ∃ ws', ws'.map RbWindow.rb = rbs.filter (AsksBelow4G blk ·) ∧
      Combined blk df a (blockBelow4G blk) start s'.mmioBaseAddr (ws ++ ws') s'.out ∧
      (∀ side, s'.mmioBaseAddr side = s.mmioBaseAddr side ∨ s'.mmioBaseAddr side ≤ mmioLimit blk side) ∧
      NoSumWraps blk a s'.mmioBaseAddr s'.bigAlignFirst rest := by
  induction rbs generalizing s ws with
  | nil => exact ⟨hat2nd, [], rfl, by simpa using hs, fun _ => .inl rfl, hnowrap⟩
  | cons rb rbs ih =>
    rw [forall_mem_cons] at horder hne hmask
    rw [nodup_cons] at hnodup
    have hnew' : ∀ w ∈ ws, w.rb ≠ rb ∧ w.rb ∉ rbs := fun w hw => not_or.mp (mt mem_cons.mpr (hnew w hw))
    by_cases hasks : AsksBelow4G blk rb
    · obtain ⟨hat, hbase, hle, hcomb, hqueue⟩ := hs.step horder.1 (fun w hw => (hnew' w hw).1) hasks hmask.1
        hnowrap rfl rfl (overSizeFlag_of_foldl hne.2 hover) hat2nd hne.1
      generalize sideOf a rb = side at hbase hle hcomb
      generalize hw : RbWindow.mk rb (s.mmioBaseAddr side) _ = w at hcomb
      have hws : ∀ w' ∈ ws ++ [w], w'.rb ∉ rbs := by
        intro w' hw'
        rcases mem_append.mp hw' with hw' | hw'
        · exact (hnew' w' hw').2
        · rw [mem_singleton.mp hw', ← hw]
          exact hnodup.1
      obtain ⟨hat', ws', hmap, hcomb', hlimit', hqueue'⟩ :=
        ih horder.2 hne.2 hnodup.2 hws hmask.2 hqueue hcomb hover hat
      refine ⟨hat', w :: ws', ?_, ?_, fun side' => ?_, hqueue'⟩
      · rw [map_cons, hmap, ← hw, filter_cons_of_pos (by simpa using hasks)]
      · rwa [append_cons]
      · rcases hlimit' side' with hsame | hle'
        · rw [foldl_cons, hsame, hbase]
          by_cases hs' : side' = side
          · subst hs'
            rw [update_self]
            exact .inr hle
          · exact .inl (update_of_ne hs' _ _)
        · exact .inr hle'
    · -- Nothing is placed, and the queues of both sides are those of the rest.
      rw [foldl_cons, tryRb_of_not_asks hasks] at hover ⊢
      rw [filter_cons_of_neg (by simpa using hasks)]
      exact ih horder.2 hne.2 hnodup.2 (fun w hw => (hnew' w hw).2) hmask.2 (hnowrap.skip hasks) hs hover hat2nd

/-! ## Requests that fit -/

theorem mem_queueOfSide {i : (Nat × Nat) × PoolKind} (h : i ∈ queueOfSide blk a side big rbs) :
    i.1 ∈ rbs ∧ AsksBelow4G blk i.1 ∧ sideOf a i.1 = side := by
  induction rbs generalizing big with
  | nil => cases h
  | cons rb rbs ih =>
    unfold queueOfSide at h
    split_ifs at h with hrb
    · rcases mem_append.mp h with h | h
      · obtain ⟨k, -, rfl⟩ := mem_map.mp h
        exact ⟨mem_cons_self, hrb⟩
      · exact ⟨mem_cons_of_mem _ (ih h).1, (ih h).2⟩
    · exact ⟨mem_cons_of_mem _ (ih h).1, (ih h).2⟩

theorem Fits.skip {c : Side → UInt64} {big : Side → Bool} (hfits : Fits blk a c big (rb :: rest))
    (hasks : ¬ AsksBelow4G blk rb) : Fits blk a c big rest := by
  intro side hne
  rw [← queueOfSide_cons_of_not fun h => hasks h.1] at hne ⊢
  exact hfits side hne

section
variable {c : Side → UInt64} {big : Side → Bool} (hfits : Fits blk a c big (rb :: rest))
  (hasks : AsksBelow4G blk rb) (hside : sideOf a rb = side)
include hfits hasks hside

theorem Fits.ceiling_le (hmask : ∀ rb' ∈ rest, ∀ k, IsMask (blockBelow4G blk rb' k).mask)
    (hnowrap : NoWrap (fun i => blockBelow4G blk i.1 i.2) (c side)
      (queueOfSide blk a side (big side) (rb :: rest))) :
    (layoutBelow4G blk rb (big side) (c side)).mmioCeiling ≤ mmioLimit blk side := by
  have htail := ((noWrap_queueOfSide_cons hasks hside).mp hnowrap).2.add_sum_le fun i hi =>
    hmask i.1 (mem_queueOfSide hi).1 i.2
  have hle := hfits side (queueOfSide_ne_nil hasks hside)
  rw [finish_queueOfSide_cons hasks hside, le_iff_toNat_le] at hle
  rw [le_iff_toNat_le]
  omega

theorem Fits.tail : Fits blk a
    (update c side (layoutBelow4G blk rb (big side) (c side)).mmioCeiling)
    (update big side (!big side)) rest := by
  intro side' hne
  by_cases hs : side' = side
  · subst hs
    rw [update_self, update_self, ← finish_queueOfSide_cons hasks hside]
    exact hfits side' (queueOfSide_ne_nil hasks hside)
  · rw [update_of_ne hs] at hne ⊢
    rw [update_of_ne hs]
    rw [← queueOfSide_cons_of_not fun h => hs (h.2.symm.trans hside)] at hne ⊢
    exact hfits side' hne

end

theorem Fits.foldl {rbs rest : List (Nat × Nat)} (hne : ∀ rb ∈ rbs, rb ≠ primaryRb df)
    (hmask : ∀ rb ∈ rbs ++ rest, ∀ k, IsMask (blockBelow4G blk rb k).mask)
    (hnowrap : NoSumWraps blk a s.mmioBaseAddr s.bigAlignFirst (rbs ++ rest))
    (hfits : Fits blk a s.mmioBaseAddr s.bigAlignFirst (rbs ++ rest))
    (hover : s.overSizeFlag = false) : let s' := rbs.foldl (tryRb blk df a setDf) s
    s'.overSizeFlag = false ∧ Fits blk a s'.mmioBaseAddr s'.bigAlignFirst rest := by
  induction rbs generalizing s with
  | nil => exact ⟨hover, hfits⟩
  | cons rb rbs ih =>
    rw [forall_mem_cons] at hne
    rw [cons_append, forall_mem_cons] at hmask
    by_cases hasks : AsksBelow4G blk rb
    · generalize hside : sideOf a rb = side
      have hasks' := hnowrap.asks hasks hmask.1
      obtain ⟨hbase, hbig, -⟩ := tryRb_of_ne hasks' hside rfl setDf hne.1
      have hle := hfits.ceiling_le hasks hside hmask.2 (hnowrap side)
      refine ih hne.2 hmask.2 ?_ ?_ ?_
      · rw [hbase, hbig]
        exact hnowrap.tail hasks hside
      · rw [hbase, hbig]
        exact hfits.tail hasks hside
      · rw [tryRb_of_not_move hasks' hside rfl (canMoveNonPci_of (.inl hne.1)), recordIf_overSizeFlag]
        exact Bool.or_eq_false_iff.mpr ⟨hover, by simpa using hle⟩
    · rw [foldl_cons, tryRb_of_not_asks hasks]
      exact ih hne.2 hmask.2 (hnowrap.skip hasks) (hfits.skip hasks) hover

/-- The NonPci block of the primary root bridge stays where the last request fits. -/
theorem Fits.not_moves (hfits : Fits blk a s.mmioBaseAddr s.bigAlignFirst [primaryRb df]) (hover : s.overSizeFlag = false)
    (hnowrap : NoSumWraps blk a s.mmioBaseAddr s.bigAlignFirst [primaryRb df])
    (hasks : AsksBelow4G blk (primaryRb df)) (hside : sideOf a (primaryRb df) = side)
    (hl : layoutBelow4G blk (primaryRb df) (s.bigAlignFirst side) (s.mmioBaseAddr side) = l) :
    s.moves blk df side (primaryRb df) l = false := by
  have hle := hfits.ceiling_le hasks hside (by simp) (hnowrap side)
  rw [hl] at hle
  exact canMoveNonPci_of (.inr (.inr (Bool.or_eq_false_iff.mpr ⟨hover, by simpa using hle⟩)))

/-! ## The whole combination -/

theorem ne_of_mem_otherRootBridges : ∀ rb ∈ otherRootBridges blk df, rb ≠ primaryRb df := by
  intro rb h
  simpa using (mem_filter.mp h).2

theorem nodup_otherRootBridges (blk : InputBlk) (df : DfAnswers) : (otherRootBridges blk df).Nodup :=
  (nodup_reverse.mpr (nodup_rootBridges blk)).filter _

theorem primaryRb_mem (blk : InputBlk) (df : DfAnswers) : primaryRb df ∈ combinationOrder blk df :=
  mem_append_right _ (mem_singleton_self _)

theorem runCombination_eq : runCombination blk df start a setDf out =
    tryRb blk df a setDf ((otherRootBridges blk df).foldl
      (tryRb blk df a setDf) (.start start out)) (primaryRb df) :=
  foldl_append

theorem combined_others (hmask : ∀ rb ∈ combinationOrder blk df, ∀ k, IsMask (blockBelow4G blk rb k).mask)
    (hnowrap : NoSumWraps blk a start (fun _ => true) (combinationOrder blk df))
    (hs : (otherRootBridges blk df).foldl (tryRb blk df a true) (.start start out) = s)
    (hover : s.overSizeFlag = false) :
    s.nonPciAt2ndRegion = false ∧ ∃ ws, ws.map RbWindow.rb = (otherRootBridges blk df).filter (AsksBelow4G blk ·) ∧
      Combined blk df a (blockBelow4G blk) start s.mmioBaseAddr ws s.out ∧
      (∀ side, s.mmioBaseAddr side = start side ∨ s.mmioBaseAddr side ≤ mmioLimit blk side) ∧
      NoSumWraps blk a s.mmioBaseAddr s.bigAlignFirst [primaryRb df] := by
  have hstart : Combined blk df a (blockBelow4G blk) start start [] out :=
    ⟨by simp, by simp, fun side => packed_empty le_rfl (by simp), by simp⟩
  have hrun := hstart.foldl (s := .start start out) (otherRootBridges blk df) [primaryRb df]
    (fun rb h => mem_append_left _ h) ne_of_mem_otherRootBridges (nodup_otherRootBridges blk df) (by simp)
    (fun rb h => hmask rb (mem_append_left _ h)) hnowrap (hs ▸ hover) rfl
  rwa [hs] at hrun

section
variable (hws : ws.map RbWindow.rb = (otherRootBridges blk df).filter (AsksBelow4G blk ·))
include hws

theorem map_rb_append {w : RbWindow} (hw : w.rb = primaryRb df) (hasks : AsksBelow4G blk (primaryRb df)) :
    (ws ++ [w]).map RbWindow.rb = (combinationOrder blk df).filter (AsksBelow4G blk ·) := by
  unfold combinationOrder
  rw [map_append, hws, filter_append, filter_cons_of_pos (by simpa using hasks), ← hw]
  rfl

theorem map_rb_of_not_asks (hasks : ¬ AsksBelow4G blk (primaryRb df)) :
    ws.map RbWindow.rb = (combinationOrder blk df).filter (AsksBelow4G blk ·) := by
  unfold combinationOrder
  rw [hws, filter_append, filter_cons_of_neg (by simpa using hasks), filter_nil, append_nil]

theorem ne_primaryRb_of_map :
    ∀ w ∈ ws, w.rb ≠ primaryRb df := by
  intro w hw
  have hmem := mem_map_of_mem (f := rb) hw
  rw [hws] at hmem
  exact ne_of_mem_otherRootBridges _ (mem_filter.mp hmem).1

end

theorem combined_run (hmask : ∀ rb ∈ combinationOrder blk df, ∀ k, IsMask (blockBelow4G blk rb k).mask)
    (hnowrap : NoSumWraps blk a start (fun _ => true) (combinationOrder blk df))
    (hmove : hasSparePair blk = false ∨
      Fits blk a start (fun _ => true) (combinationOrder blk df))
    (hover : (runCombination blk df start a true out).overSizeFlag = false) :
    ∃ hi ws, ws.map RbWindow.rb = (combinationOrder blk df).filter (AsksBelow4G blk ·) ∧
      Combined blk df a (blockBelow4G blk) start hi ws
        (runCombination blk df start a true out).out ∧
      ∀ side, hi side = start side ∨ hi side ≤ mmioLimit blk side := by
  rw [runCombination_eq] at hover ⊢
  generalize hs : (otherRootBridges blk df).foldl (tryRb blk df a true) (.start start out) = s
    at hover ⊢
  have hspace : s.overSizeFlag = false ∧ (hasSparePair blk = false ∨
      Fits blk a s.mmioBaseAddr s.bigAlignFirst [primaryRb df]) := by
    rcases hmove with hspare | hfits
    · exact ⟨overSizeFlag_of_tryRb (.inr hspare) hover, .inl hspare⟩
    · rw [← hs]
      exact (Fits.foldl ne_of_mem_otherRootBridges hmask hnowrap hfits rfl).imp id .inr
  obtain ⟨hat, ws, hws, hcomb, hlimit, htail⟩ := combined_others hmask hnowrap hs hspace.1
  by_cases hasks : AsksBelow4G blk (primaryRb df)
  · generalize hside : sideOf a (primaryRb df) = side
    generalize hl : layoutBelow4G blk (primaryRb df) (s.bigAlignFirst side) (s.mmioBaseAddr side) = l
    have hstay : s.moves blk df side (primaryRb df) l = false := by
      rcases hspace.2 with hspare | hfits
      · exact canMoveNonPci_of (.inr (.inl hspare))
      · exact hfits.not_moves hspace.1 htail hasks hside hl
    have hmem := primaryRb_mem blk df
    obtain ⟨hcomb', hle⟩ :=
      hcomb.stay hmem (ne_primaryRb_of_map hws) hasks (hmask _ hmem) htail hside hl hover hat hstay
    refine ⟨_, _, map_rb_append hws rfl hasks, hcomb', ?_⟩
    exact (forall_update_iff _ fun side c => c = start side ∨ c ≤ mmioLimit blk side).mpr
      ⟨.inr hle, fun side' _ => hlimit side'⟩
  · rw [tryRb_of_not_asks hasks]
    exact ⟨s.mmioBaseAddr, ws, map_rb_of_not_asks hws hasks, hcomb, hlimit⟩

/-- Below the PCIe configuration space the MMIO range starts behind the DRAM, above it behind the space. -/
def sideStart (blk : InputBlk) (sys : SystemInfo) : Side → Nat
  | .below => sys.tom.toNat
  | .above => blk.pciExpressBaseAddress.toNat + sys.pciCfgSpace.toNat

/-- The regions of the root bridges that ask for something hold what was requested, are aligned and disjoint, and lie
below the PCIe configuration space or between it and the reserved region, as the combination says. -/
structure SoundBelow4G (blk : InputBlk) (sys : SystemInfo) (df : DfAnswers) (mmioIsAbovePcieCfg : Nat → Bool)
    (region : Table MmioRegion) : Prop where
  size : ∀ rb ∈ combinationOrder blk df, AsksBelow4G blk rb → ∀ k,
    (blockBelow4G blk rb k).size ≤ (region rb.1 rb.2).size k
  aligned : ∀ rb ∈ combinationOrder blk df, AsksBelow4G blk rb → ∀ k, (region rb.1 rb.2).size k ≠ 0 →
    (region rb.1 rb.2).base k &&& (blockBelow4G blk rb k).mask = 0
  inside : ∀ rb ∈ combinationOrder blk df, AsksBelow4G blk rb → ∀ k,
    Inside ((region rb.1 rb.2).range k) (sideStart blk sys (sideOf mmioIsAbovePcieCfg rb))
      (mmioLimit blk (sideOf mmioIsAbovePcieCfg rb)).toNat
  apart : ∀ rb ∈ combinationOrder blk df, ∀ rb' ∈ combinationOrder blk df, AsksBelow4G blk rb → AsksBelow4G blk rb' →
    ∀ k k', (rb, k) ≠ (rb', k') → Bump.Apart ((region rb.1 rb.2).range k) ((region rb'.1 rb'.2).range k')

variable {sys : SystemInfo} {w : RbWindow}

section
variable (h : Combined blk df a block start hi ws out) (hw : w ∈ ws) (k : PoolKind)
include h hw

theorem Combined.inside_window :
    Inside ((out.manager.mmioRegionBelow4G w.rb.1 w.rb.2).range k) w.range.1 (w.range.1 + w.range.2) := by
  have hle := (h.stacked w hw).packed.le
  refine ((h.stacked w hw).packed.inside k trivial).mono le_rfl ?_
  unfold RbWindow.range
  omega

theorem Combined.inside_side :
    Inside ((out.manager.mmioRegionBelow4G w.rb.1 w.rb.2).range k) (start (sideOf a w.rb)).toNat
      (hi (sideOf a w.rb)).toNat := fun b h1 h2 =>
  have hin := h.inside_window hw k b h1 h2
  (h.packed _).inside w ⟨hw, rfl⟩ b hin.1 hin.2

end

theorem inside_of_side (hlimit : ∀ side, hi side = mmioStart blk sys side ∨ hi side ≤ mmioLimit blk side)
    {r : Nat × Nat} (h : Inside r (mmioStart blk sys side).toNat (hi side).toNat) :
    Inside r (sideStart blk sys side) (mmioLimit blk side).toNat := by
  rcases hlimit side with hsame | hle
  · rw [hsame] at h
    exact h.of_empty le_rfl
  rw [le_iff_toNat_le] at hle
  cases side with
  | below => exact h.mono le_rfl hle
  | above =>
    unfold mmioStart at h
    dsimp only at h
    split at h
    · -- Nothing fits above a configuration space that is itself above 4G.
      exact h.of_empty hle
    · rename_i hpcie
      have hspace := (pciCfgSpace_bounds sys).2
      rw [UInt64.not_le, UInt64.lt_iff_toNat_lt] at hpcie
      simp only [reduceToNat] at hpcie
      rw [toNat_add_eq (by omega)] at h
      exact h.mono le_rfl hle

theorem sides_apart {r r' : Nat × Nat} {side side' : Side} (hne : side ≠ side')
    (h : Inside r (sideStart blk sys side) (mmioLimit blk side).toNat)
    (h' : Inside r' (sideStart blk sys side') (mmioLimit blk side').toNat) : Bump.Apart r r' := by
  rintro a ⟨ha, ha'⟩
  have hin := h a ha.1 ha.2
  have hin' := h' a ha'.1 ha'.2
  cases side <;> cases side' <;> simp only [sideStart, mmioLimit, ne_eq, not_true_eq_false] at hne hin hin'
  all_goals omega

theorem exists_window (hws : ws.map RbWindow.rb = (combinationOrder blk df).filter (AsksBelow4G blk ·))
    (hrb : rb ∈ combinationOrder blk df) (hasks : AsksBelow4G blk rb) : ∃ w ∈ ws, w.rb = rb := by
  rw [← mem_map, hws]
  exact mem_filter.mpr ⟨hrb, by simpa using hasks⟩

theorem Combined.sound (h : Combined blk df a (blockBelow4G blk) (mmioStart blk sys) hi ws out)
    (hws : ws.map RbWindow.rb = (combinationOrder blk df).filter (AsksBelow4G blk ·))
    (hlimit : ∀ side, hi side = mmioStart blk sys side ∨ hi side ≤ mmioLimit blk side) :
    SoundBelow4G blk sys df a out.manager.mmioRegionBelow4G := by
  have hinside : ∀ w ∈ ws, ∀ k, Inside ((out.manager.mmioRegionBelow4G w.rb.1 w.rb.2).range k)
      (sideStart blk sys (sideOf a w.rb)) (mmioLimit blk (sideOf a w.rb)).toNat :=
    fun w hw k => inside_of_side hlimit (h.inside_side hw k)
  constructor
  · intro rb hrb hasks k
    obtain ⟨w, hw, rfl⟩ := exists_window hws hrb hasks
    exact (h.stacked w hw).size_ge k trivial
  · intro rb hrb hasks k
    obtain ⟨w, hw, rfl⟩ := exists_window hws hrb hasks
    exact (h.stacked w hw).aligned k trivial
  · intro rb hrb hasks k
    obtain ⟨w, hw, rfl⟩ := exists_window hws hrb hasks
    exact hinside w hw k
  · intro rb hrb rb' hrb' hasks hasks' k k' hne
    obtain ⟨w, hw, rfl⟩ := exists_window hws hrb hasks
    by_cases hsame : w.rb = rb'
    · subst hsame
      exact (h.stacked w hw).packed.apart k k' trivial trivial fun hk => hne (by rw [hk])
    obtain ⟨w', hw', rfl⟩ := exists_window hws hrb' hasks'
    by_cases hside : sideOf a w.rb = sideOf a w'.rb
    · have hapart := (h.packed _).apart w w' ⟨hw, hside⟩ ⟨hw', rfl⟩ fun heq => hsame (heq ▸ rfl)
      exact Apart.mono hapart (h.inside_window hw k) (h.inside_window hw' k')
    · -- The two sides have the configuration space between them.
      exact sides_apart hside (hinside w hw k) (hinside w' hw' k')

/-! ## The registers for what is left -/

theorem spareSlot_free {m : MmioManager} {slot : Nat × Nat} (h : spareSlot m = some slot) :
    m.allocateMmioBelow4GOnThisRb slot.1 slot.2 = false := by
  simpa using find?_some h

theorem of_accepted {out' : MmioState} (h : silTryThisCombination blk df start a true out = some (true, out')) :
    let s := runCombination blk df start a true out
    s.overSizeFlag = false ∧ ∃ t, s.addSecondRegion blk df = some t ∧
      out' = silAdditionalMmioSetting4 blk df t.reservedRegionAlreadySet t.out := by
  intro s
  unfold silTryThisCombination at h
  cases hflag : s.overSizeFlag with
  | true => simp [s, hflag] at h
  | false =>
    simp only [s, hflag, Bool.not_false, Bool.and_true, if_true] at h
    obtain ⟨t, ht, hout⟩ := Option.bind_eq_some_iff.mp h
    exact ⟨rfl, t, ht, (congrArg Prod.snd (Option.some.inj hout)).symm⟩

theorem addSecondRegion_region {t : TryState} (ht : s.addSecondRegion blk df = some t)
    (h : s.out.manager.allocateMmioBelow4GOnThisRb rb.1 rb.2 = true) :
    t.out.manager.mmioRegionBelow4G rb.1 rb.2 = s.out.manager.mmioRegionBelow4G rb.1 rb.2 := by
  obtain ⟨rfl, -⟩ | ⟨slot, region, -, hslot, -, rfl⟩ := addSecondRegion_cases blk df ht
  · rfl
  · refine Table.set_of_ne _ _ fun heq => ?_
    have hfree := spareSlot_free hslot
    rw [← heq.1, ← heq.2, h] at hfree
    cases hfree

theorem silAdditionalMmioSetting4_manager {reserved : Bool} :
    (silAdditionalMmioSetting4 blk df reserved out).manager = out.manager := by
  unfold silAdditionalMmioSetting4
  split
  · split <;> rfl
  · rfl

theorem SoundBelow4G.congr {region region' : Table MmioRegion} (h : SoundBelow4G blk sys df a region)
    (hsame : ∀ rb ∈ combinationOrder blk df, AsksBelow4G blk rb → region' rb.1 rb.2 = region rb.1 rb.2) :
    SoundBelow4G blk sys df a region' := by
  constructor
  · intro rb hrb hasks
    rw [hsame rb hrb hasks]
    exact h.size rb hrb hasks
  · intro rb hrb hasks
    rw [hsame rb hrb hasks]
    exact h.aligned rb hrb hasks
  · intro rb hrb hasks
    rw [hsame rb hrb hasks]
    exact h.inside rb hrb hasks
  · intro rb hrb rb' hrb' hasks hasks'
    rw [hsame rb hrb hasks, hsame rb' hrb' hasks']
    exact h.apart rb hrb rb' hrb' hasks hasks'

def MasksBelow4G (blk : InputBlk) (df : DfAnswers) : Prop :=
  ∀ rb ∈ combinationOrder blk df, IsMask (blk.prefetchableMmioSizeBelow4G rb.1 rb.2).alignment ∧
    IsMask (blk.nonPrefetchableMmioSizeBelow4G rb.1 rb.2).alignment

theorem isMask_nonPci : IsMask rcMgrNonPciMmioAlignMask := ⟨16, by decide⟩

theorem isMask_blockBelow4G {blk : InputBlk} {df : DfAnswers} (h : MasksBelow4G blk df) :
    ∀ rb ∈ combinationOrder blk df, ∀ k, IsMask (blockBelow4G blk rb k).mask := by
  intro rb hrb k
  cases k with
  | nonPci => exact isMask_nonPci
  | prefetch => exact (h rb hrb).1
  | nonPrefetch => exact (h rb hrb).2

/-- An accepted combination is sound if no sum wraps, and if either there are eight root bridges or all requests fit
without a second region. -/
theorem silTryThisCombination_sound (blk : InputBlk) (sys : SystemInfo) (df : DfAnswers)
    (mmioIsAbovePcieCfg : Nat → Bool) (out out' : MmioState) (hmask : MasksBelow4G blk df)
    (hnowrap : NoSumWraps blk mmioIsAbovePcieCfg (mmioStart blk sys) (fun _ => true) (combinationOrder blk df))
    (hmove : 8 ≤ rootBridgeCount blk ∨
      Fits blk mmioIsAbovePcieCfg (mmioStart blk sys) (fun _ => true) (combinationOrder blk df))
    (h : silTryThisCombination blk df (mmioStart blk sys) mmioIsAbovePcieCfg true out = some (true, out')) :
    SoundBelow4G blk sys df mmioIsAbovePcieCfg out'.manager.mmioRegionBelow4G := by
  have hspare : 8 ≤ rootBridgeCount blk → hasSparePair blk = false := fun hle => decide_eq_false (not_lt.mpr hle)
  obtain ⟨hover, t, ht, hresult⟩ := of_accepted h
  generalize hs : runCombination blk df (mmioStart blk sys) mmioIsAbovePcieCfg true out = s at hover ht
  obtain ⟨hi, ws, hws, hcomb, hlimit⟩ := combined_run (isMask_blockBelow4G hmask) hnowrap (hmove.imp hspare id) (hs ▸ hover)
  rw [hs] at hcomb
  refine (hcomb.sound hws hlimit).congr fun rb hrb hasks => ?_
  have halloc : s.out.manager.allocateMmioBelow4GOnThisRb rb.1 rb.2 = true := by
    obtain ⟨w, hw, rfl⟩ := exists_window hws hrb hasks
    exact hcomb.allocated w hw
  rw [hresult, silAdditionalMmioSetting4_manager]
  exact addSecondRegion_region ht halloc

def MmioState.zero : MmioState := ⟨.zero, fun _ _ => ⟨0, 0, 0⟩⟩

theorem silTryThisCombination_sound_plain :
    ∃ out, silTryThisCombination (plainBlk 0xE0000000) plainDf
        (mmioStart (plainBlk 0xE0000000) (plainSystem 0x100000000)) (fun _ => true) true .zero = some (true, out) ∧
      SoundBelow4G (plainBlk 0xE0000000) (plainSystem 0x100000000) plainDf (fun _ => true) out.manager.mmioRegionBelow4G :=
  have hnone : IsMask 0 := ⟨0, by decide⟩
  ⟨_, rfl, silTryThisCombination_sound _ _ _ _ .zero _ (fun _ _ => ⟨hnone, hnone⟩) (by decide +kernel)
    (.inr (by decide +kernel)) rfl⟩

/-- The primary root bridge asks for so much that its pool for other devices has to move: 1M of prefetchable space at a
multiple of 1M, and 209M of space at a multiple of 16M. -/
def movedBlk : InputBlk :=
  { plainBlk 0xE0000000 with
    mmioSizePerRbForNonPciDevice := 0x100000
    prefetchableMmioSizeBelow4G := fun _ rb => if rb = 2 then ⟨0x100000, 0xFFFFF⟩ else ⟨0, 0⟩
    nonPrefetchableMmioSizeBelow4G := fun _ rb => if rb = 2 then ⟨0xD100000, 0xFFFFFF⟩ else ⟨0, 0⟩ }

theorem movedBlk_masks : MasksBelow4G movedBlk plainDf := by
  intro rb _
  have hnone : IsMask 0 := ⟨0, by decide⟩
  have h1M : IsMask 0xFFFFF := ⟨20, by decide⟩
  have h16M : IsMask 0xFFFFFF := ⟨24, by decide⟩
  unfold movedBlk
  dsimp only
  split
  · exact ⟨h1M, h16M⟩
  · exact ⟨hnone, hnone⟩

/-- The 209M move down with the prefetchable space by 1M, and are no longer at a multiple of 16M. -/
theorem moved_region_is_unaligned :
    MasksBelow4G movedBlk plainDf ∧ ∃ out, silTryThisCombination movedBlk plainDf
      (mmioStart movedBlk (plainSystem 0x100000000)) (fun _ => true) true .zero = some (true, out) ∧
    (out.manager.mmioRegionBelow4G 0 2).baseNonPrefetch = 0xF0F00000 ∧
    ¬ SoundBelow4G movedBlk (plainSystem 0x100000000) plainDf (fun _ => true) out.manager.mmioRegionBelow4G := by
  refine ⟨movedBlk_masks, _, rfl, by decide +kernel, fun hsound => ?_⟩
  have haligned := hsound.aligned (0, 2) (by decide +kernel) (.inl (by decide)) .nonPrefetch (by decide +kernel)
  revert haligned
  decide +kernel

end OpenSil.RcMgr
