import OpenSil.Lib.Bump

/-! # Placing blocks one after another

A cursor moves up through the address space.
-/

namespace OpenSil.Place

open Word Bump List UInt64

universe u

/-- So many addresses, from a multiple of `mask + 1` on. -/
structure Block where
  mask : UInt64
  size : UInt64

namespace Block

def start (b : Block) (c : UInt64) : UInt64 := alignUp c b.mask

def finish (b : Block) (c : UInt64) : UInt64 := b.start c + b.size

/-- Neither the alignment nor the size carries the cursor out of the address space. -/
def NoWrap (b : Block) (c : UInt64) : Prop :=
  c.toNat + b.mask.toNat < 2 ^ 64 ∧ (b.start c).toNat + b.size.toNat < 2 ^ 64

variable {b : Block} {c : UInt64}

theorem NoWrap.toNat_start (h : b.NoWrap c) (hmask : IsMask b.mask) :
    (b.start c).toNat = roundUp c.toNat b.mask.toNat := by
  obtain ⟨k, hk⟩ := hmask
  unfold start
  rw [toNat_alignUp c hk, if_pos h.1]

theorem NoWrap.le_start (h : b.NoWrap c) (hmask : IsMask b.mask) : c.toNat ≤ (b.start c).toNat := by
  rw [h.toNat_start hmask]
  exact le_roundUp _ _

theorem NoWrap.toNat_finish (h : b.NoWrap c) : (b.finish c).toNat = (b.start c).toNat + b.size.toNat := by
  unfold finish
  rw [toNat_add_eq h.2]

theorem NoWrap.le_finish (h : b.NoWrap c) (hmask : IsMask b.mask) : c.toNat ≤ (b.finish c).toNat := by
  rw [h.toNat_finish]
  exact (h.le_start hmask).trans (Nat.le_add_right _ _)

end Block

/-! ## Ranges packed between two addresses -/

/-- Every address of the range is one from `lo` up to `hi`. -/
def Inside (r : Nat × Nat) (lo hi : Nat) : Prop := ∀ a, r.1 ≤ a → a < r.1 + r.2 → lo ≤ a ∧ a < hi

variable {ι : Type u}

/-- The ranges of a family lie between two addresses, and no two of them share one. -/
structure Packed (dom : ι → Prop) (range : ι → Nat × Nat) (lo hi : Nat) : Prop where
  le : lo ≤ hi
  inside : ∀ i, dom i → Inside (range i) lo hi
  apart : ∀ i j, dom i → dom j → i ≠ j → Apart (range i) (range j)

section
variable {r : Nat × Nat} {lo lo' hi hi' : Nat} (h : Inside r lo hi)
include h

theorem Inside.mono (hlo : lo' ≤ lo) (hhi : hi ≤ hi') :
    Inside r lo' hi' := by
  intro a h1 h2
  have := h a h1 h2
  omega

theorem Inside.of_empty (hle : hi ≤ lo) : Inside r lo' hi' := by
  intro a h1 h2
  have := h a h1 h2
  omega

end

theorem Apart.mono {r r' q q' : Nat × Nat} (h : Apart q q') (hr : Inside r q.1 (q.1 + q.2))
    (hr' : Inside r' q'.1 (q'.1 + q'.2)) : Apart r r' :=
  fun a ha => h a ⟨hr a ha.1.1 ha.1.2, hr' a ha.2.1 ha.2.2⟩

theorem Inside.apart {r r' : Nat × Nat} {lo mid hi : Nat} (h : Inside r lo mid) (h' : Inside r' mid hi) : Apart r r' := by
  rintro a ⟨ha, ha'⟩
  have := h a ha.1 ha.2
  have := h' a ha'.1 ha'.2
  omega

theorem Apart.symm {r r' : Nat × Nat} (h : Apart r r') : Apart r' r := fun a ha => h a ⟨ha.2, ha.1⟩

variable {dom dom' : ι → Prop} {range range' : ι → Nat × Nat} {lo mid hi : Nat}

theorem packed_empty (h : lo ≤ hi) (hdom : ∀ i, ¬ dom i) : Packed dom range lo hi :=
  ⟨h, fun i hi => absurd hi (hdom i), fun i _ hi => absurd hi (hdom i)⟩

variable {i : ι}

theorem packed_singleton (h : lo ≤ hi) (hin : Inside (range i) lo hi) : Packed (· = i) range lo hi := by
  refine ⟨h, ?_, ?_⟩
  · rintro j rfl
    exact hin
  · rintro j j' rfl rfl hne
    exact absurd rfl hne

theorem Packed.congr (h : Packed dom range lo hi) (hrange : ∀ i, dom i → range' i = range i) :
    Packed dom range' lo hi where
  le := h.le
  inside i hi := hrange i hi ▸ h.inside i hi
  apart i j hi hj hne := by
    rw [hrange i hi, hrange j hj]
    exact h.apart i j hi hj hne

variable {κ : Type u}

/-- A family that is read off another one, without reading the same range twice. -/
theorem Packed.comap {dom' : κ → Prop} (h : Packed dom range lo hi) (f : κ → ι)
    (hdom : ∀ j, dom' j → dom (f j)) (hinj : ∀ i j, dom' i → dom' j → f i = f j → i = j) :
    Packed dom' (fun j => range (f j)) lo hi where
  le := h.le
  inside j hj := h.inside (f j) (hdom j hj)
  apart i j hi hj hne := h.apart (f i) (f j) (hdom i hi) (hdom j hj) fun heq => hne (hinj i j hi hj heq)

theorem Packed.mono_dom (h : Packed dom range lo hi) (hdom : ∀ i, dom' i → dom i) : Packed dom' range lo hi :=
  h.comap id hdom fun _ _ _ _ heq => heq

theorem Packed.append (h : Packed dom range lo mid) (h' : Packed dom' range mid hi) :
    Packed (fun i => dom i ∨ dom' i) range lo hi where
  le := h.le.trans h'.le
  inside i hi := by
    rcases hi with hi | hi
    · exact (h.inside i hi).mono le_rfl h'.le
    · exact (h'.inside i hi).mono h.le le_rfl
  apart i j hi hj hne := by
    rcases hi with hi | hi <;> rcases hj with hj | hj
    · exact h.apart i j hi hj hne
    · exact (h.inside i hi).apart (h'.inside j hj)
    · exact Apart.symm ((h.inside j hj).apart (h'.inside i hi))
    · exact h'.apart i j hi hj hne

/-! ## Blocks with the gaps behind them -/

/-- The pools of a family hold their blocks, start at multiples of the alignments, and are packed. -/
structure Stacked (dom : ι → Prop) (block : ι → Block) (base size : ι → UInt64) (lo hi : Nat) : Prop where
  size_ge : ∀ i, dom i → (block i).size ≤ size i
  aligned : ∀ i, dom i → size i ≠ 0 → base i &&& (block i).mask = 0
  packed : Packed dom (fun i => ((base i).toNat, (size i).toNat)) lo hi

variable {block : ι → Block} {base size : ι → UInt64}

theorem stacked_nil (h : lo ≤ hi) : Stacked (fun _ : ι => False) block base size lo hi :=
  ⟨fun _ => False.elim, fun _ => False.elim, packed_empty h fun _ => id⟩

theorem Stacked.cons (i : ι) (start : UInt64) (htail : Stacked dom block base size mid hi) (hlo : lo ≤ start.toNat)
    (hend : start.toNat + (size i).toNat ≤ mid) (hsize : (block i).size ≤ size i)
    (haligned : size i ≠ 0 → start &&& (block i).mask = 0) (hbase : size i ≠ 0 → base i = start) :
    Stacked (fun j => j = i ∨ dom j) block base size lo hi where
  size_ge j hj := by
    rcases hj with rfl | hj
    · exact hsize
    · exact htail.size_ge j hj
  aligned j hj hne := by
    rcases hj with rfl | hj
    · rw [hbase hne, haligned hne]
    · exact htail.aligned j hj hne
  packed := by
    refine (packed_singleton (by omega) fun a hle hlt => ?_).append htail.packed
    have hne : size i ≠ 0 := by
      rintro hz
      simp only [hz, UInt64.toNat_zero] at hle hlt
      omega
    simp only [hbase hne] at hle hlt
    omega

theorem Stacked.mono_dom (h : Stacked dom block base size lo hi) (hdom : ∀ i, dom' i → dom i) :
    Stacked dom' block base size lo hi :=
  ⟨fun i hi => h.size_ge i (hdom i hi), fun i hi => h.aligned i (hdom i hi), h.packed.mono_dom hdom⟩

/-- A pool that takes in the gap up to the next start. -/
theorem add_gap {start next n : UInt64} (h : start.toNat + n.toNat ≤ next.toNat) :
    n ≤ next - start ∧ start.toNat + (next - start).toNat = next.toNat := by
  have hle : start ≤ next := le_iff_toNat_le.mpr (by omega)
  rw [le_iff_toNat_le, UInt64.toNat_sub_of_le _ _ hle]
  omega

/-! ## A queue of blocks -/

/-- The cursor behind the blocks of a queue. -/
def finish (block : ι → Block) (c : UInt64) (queue : List ι) : UInt64 := queue.foldl (fun c i => (block i).finish c) c

/-- No block of the queue wraps. -/
def NoWrap (block : ι → Block) : UInt64 → List ι → Prop
  | _, [] => True
  | c, i :: queue => (block i).NoWrap c ∧ NoWrap block ((block i).finish c) queue

instance {block : ι → Block} : ∀ (c : UInt64) (queue : List ι), Decidable (NoWrap block c queue)
  | _, [] => inferInstanceAs (Decidable True)
  | c, i :: queue =>
    have : Decidable (NoWrap block ((block i).finish c) queue) := instDecidableNoWrap _ queue
    inferInstanceAs (Decidable ((_ ∧ _) ∧ _))

variable {c : UInt64} {queue queue' : List ι}

theorem finish_append : finish block c (queue ++ queue') = finish block (finish block c queue) queue' :=
  foldl_append

theorem noWrap_append :
    NoWrap block c (queue ++ queue') ↔ NoWrap block c queue ∧ NoWrap block (finish block c queue) queue' := by
  induction queue generalizing c with
  | nil => simp [NoWrap, finish]
  | cons i queue ih =>
    simp only [cons_append, NoWrap, ih, and_assoc]
    rfl

theorem finish_map (f : κ → ι) (queue : List κ) :
    finish block c (queue.map f) = finish (fun j => block (f j)) c queue :=
  foldl_map

theorem noWrap_map (f : κ → ι) (queue : List κ) :
    NoWrap block c (queue.map f) ↔ NoWrap (fun j => block (f j)) c queue := by
  induction queue generalizing c with
  | nil => exact Iff.rfl
  | cons j queue ih => exact and_congr_right fun _ => ih

/-- If all sizes are multiples of a granule, the cursor stays at its multiples. -/
theorem dvd_finish {g : Nat} (hg : g ≤ 64) (hmask : ∀ i ∈ queue, IsMask (block i).mask)
    (hsize : ∀ i ∈ queue, 2 ^ g ∣ (block i).size.toNat) (hc : 2 ^ g ∣ c.toNat) :
    2 ^ g ∣ (finish block c queue).toNat := by
  induction queue generalizing c with
  | nil => exact hc
  | cons i queue ih =>
    rw [forall_mem_cons] at hmask hsize
    exact ih hmask.2 hsize.2 (dvd_toNat_add hg (dvd_alignUp hmask.1 hc) hsize.1)

/-- One block aligned to the granule brings the cursor to its multiples. -/
theorem dvd_finish_of_mem {g : Nat} (hg : g ≤ 64) (hmask : ∀ i ∈ queue, IsMask (block i).mask)
    (hsize : ∀ i ∈ queue, 2 ^ g ∣ (block i).size.toNat) {i : ι} (hi : i ∈ queue)
    (hgranule : (block i).mask.toNat + 1 = 2 ^ g) :
    2 ^ g ∣ (finish block c queue).toNat := by
  obtain ⟨before, behind, rfl⟩ := append_of_mem hi
  rw [finish_append]
  change 2 ^ g ∣ (finish block ((block i).finish (finish block c before)) behind).toNat
  refine dvd_finish hg (fun j hj => hmask j (mem_append_right _ (mem_cons_of_mem _ hj)))
    (fun j hj => hsize j (mem_append_right _ (mem_cons_of_mem _ hj))) (dvd_toNat_add hg ?_ (hsize i hi))
  have hlow := congrArg UInt64.toNat (alignUp_and_mask (finish block c before) (block i).mask)
  rw [toNat_and_mask _ hgranule] at hlow
  exact Nat.dvd_of_mod_eq_zero hlow

/-- A placement from a lower cursor, lower by a multiple of all alignments. -/
theorem finish_of_shift {c' : UInt64} {d : Nat} (h : NoWrap block c queue) (h' : NoWrap block c' queue)
    (hmask : ∀ i ∈ queue, IsMask (block i).mask ∧ (block i).mask.toNat + 1 ∣ d) (hc : c'.toNat + d = c.toNat) :
    (finish block c' queue).toNat + d = (finish block c queue).toNat := by
  induction queue generalizing c c' with
  | nil => exact hc
  | cons i queue ih =>
    rw [forall_mem_cons] at hmask
    refine ih h.2 h'.2 hmask.2 ?_
    rw [h'.1.toNat_finish, h.1.toNat_finish, h'.1.toNat_start hmask.1.1, h.1.toNat_start hmask.1.1, ← hc,
      roundUp_add hmask.1.2]
    omega

theorem NoWrap.three {i j k : ι} (h : NoWrap block c [i, j, k]) (hmask : ∀ i, IsMask (block i).mask) :
    let start := (block i).start c
    let start' := (block j).start (start + (block i).size)
    let start'' := (block k).start (start' + (block j).size)
    c.toNat ≤ start.toNat ∧ start.toNat + (block i).size.toNat ≤ start'.toNat ∧
      start'.toNat + (block j).size.toNat ≤ start''.toNat ∧
      start''.toNat + (block k).size.toNat = (finish block c [i, j, k]).toNat :=
  ⟨h.1.le_start (hmask i), h.1.toNat_finish.ge.trans (h.2.1.le_start (hmask j)),
    h.2.1.toNat_finish.ge.trans (h.2.2.1.le_start (hmask k)), h.2.2.1.toNat_finish.symm⟩

/-- Nothing wraps if there is room for all blocks with all gaps. -/
theorem noWrap_of_sum_lt (hmask : ∀ i ∈ queue, IsMask (block i).mask)
    (h : c.toNat + (queue.map fun i => (block i).mask.toNat + (block i).size.toNat).sum < 2 ^ 64) :
    NoWrap block c queue := by
  induction queue generalizing c with
  | nil => trivial
  | cons i queue ih =>
    rw [forall_mem_cons] at hmask
    rw [map_cons, sum_cons] at h
    have hstart : ((block i).start c).toNat ≤ c.toNat + (block i).mask.toNat := by
      obtain ⟨k, hk⟩ := hmask.1
      unfold Block.start
      rw [toNat_alignUp c hk, if_pos (by omega)]
      exact roundUp_le _ _
    have hhead : (block i).NoWrap c := ⟨by omega, by omega⟩
    exact ⟨hhead, ih hmask.2 (by rw [hhead.toNat_finish]; omega)⟩

section
variable (h : NoWrap block c queue) (hmask : ∀ i ∈ queue, IsMask (block i).mask)
include h hmask

theorem NoWrap.finish_le :
    (finish block c queue).toNat ≤
      c.toNat + (queue.map fun i => (block i).mask.toNat + (block i).size.toNat).sum := by
  induction queue generalizing c with
  | nil => exact le_rfl
  | cons i queue ih =>
    rw [forall_mem_cons] at hmask
    have htail := ih h.2 hmask.2
    have hstart := roundUp_le c.toNat (block i).mask.toNat
    rw [h.1.toNat_finish, h.1.toNat_start hmask.1] at htail
    rw [map_cons, sum_cons]
    exact htail.trans (by omega)

theorem NoWrap.add_sum_le :
    c.toNat + (queue.map fun i => (block i).size.toNat).sum ≤ (finish block c queue).toNat := by
  induction queue generalizing c with
  | nil => exact le_rfl
  | cons i queue ih =>
    rw [forall_mem_cons] at hmask
    have htail := ih h.2 hmask.2
    have hstart := h.1.le_start hmask.1
    rw [h.1.toNat_finish] at htail
    rw [map_cons, sum_cons]
    exact le_trans (by omega) htail

end

variable [DecidableEq ι]

/-- One block: where the cursor moves, and where the block starts. -/
def place (block : ι → Block) (s : UInt64 × (ι → UInt64)) (i : ι) : UInt64 × (ι → UInt64) :=
  ((block i).finish s.1, Function.update s.2 i ((block i).start s.1))

variable {starts : ι → UInt64}

theorem place_fst : (queue.foldl (place block) (c, starts)).1 = finish block c queue := by
  induction queue generalizing c starts with
  | nil => rfl
  | cons i queue ih => exact ih

theorem place_snd_of_notMem (h : i ∉ queue) : (queue.foldl (place block) (c, starts)).2 i = starts i := by
  induction queue generalizing c starts with
  | nil => rfl
  | cons j queue ih =>
    rw [mem_cons, not_or] at h
    refine (ih h.2).trans ?_
    exact Function.update_of_ne h.1 _ _

theorem place_snd_head (h : i ∉ queue) :
    ((i :: queue).foldl (place block) (c, starts)).2 i = (block i).start c :=
  (place_snd_of_notMem h).trans (Function.update_self _ _ _)

theorem place_aligned (hnodup : queue.Nodup) (hi : i ∈ queue) :
    (queue.foldl (place block) (c, starts)).2 i &&& (block i).mask = 0 := by
  induction queue generalizing c starts with
  | nil => cases hi
  | cons j queue ih =>
    rw [nodup_cons] at hnodup
    rcases mem_cons.mp hi with rfl | hi
    · rw [place_snd_head hnodup.1]
      exact alignUp_and_mask _ _
    · exact ih hnodup.2 hi

/-- The blocks of a queue are packed between the cursor before and the cursor behind them. -/
theorem packed_place (starts : ι → UInt64) (hmask : ∀ i ∈ queue, IsMask (block i).mask) (hnodup : queue.Nodup)
    (h : NoWrap block c queue)
    {range : ι → Nat × Nat} (hsize : ∀ i ∈ queue, (range i).2 = (block i).size.toNat)
    (hstart : ∀ i ∈ queue, (range i).2 ≠ 0 →
      (range i).1 = ((queue.foldl (place block) (c, starts)).2 i).toNat) :
    Packed (· ∈ queue) range c.toNat (finish block c queue).toNat := by
  induction queue generalizing c starts with
  | nil => exact packed_empty le_rfl fun i => not_mem_nil
  | cons i queue ih =>
    rw [nodup_cons] at hnodup
    rw [forall_mem_cons] at hmask hsize hstart
    have hhead : Packed (· = i) range c.toNat ((block i).finish c).toNat := by
      refine packed_singleton (h.1.le_finish hmask.1) fun a hlo hhi => ?_
      have hbase := hstart.1 (by omega)
      rw [place_snd_head hnodup.1] at hbase
      have hle := h.1.le_start hmask.1
      have hfin := h.1.toNat_finish
      have := hsize.1
      omega
    have htail := ih _ hmask.2 hnodup.2 h.2 hsize.2 hstart.2
    exact (hhead.append htail).mono_dom fun j hj => mem_cons.mp hj

end OpenSil.Place
