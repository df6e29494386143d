import OpenSil.Lib.Loop

/-! # Records laid end to end

`Tiles` says that records fill a range without gap or overlap.
-/

namespace OpenSil.Tiling

open OpenSil.Loop List Nat

universe u v

variable {ι : Type u} {start len : ι → Nat}

/-- The records of the list fill the range from `lo` up to `hi`, in order. -/
def Tiles (start len : ι → Nat) (lo : Nat) : List ι → Nat → Prop
  | [], hi => lo = hi
  | x :: xs, hi => start x = lo ∧ Tiles start len (lo + len x) xs hi

variable {xs : List ι} {lo hi : Nat}

theorem Tiles.concat {x : ι} (h : Tiles start len lo xs hi) (hx : start x = hi) :
    Tiles start len lo (xs ++ [x]) (hi + len x) := by
  induction xs generalizing lo with
  | nil =>
    obtain rfl : lo = hi := h
    exact ⟨hx, rfl⟩
  | cons y ys ih => exact ⟨h.1, ih h.2⟩

theorem Tiles.of_concat {x : ι} (h : Tiles start len lo (xs ++ [x]) hi) :
    Tiles start len lo xs (start x) ∧ start x + len x = hi := by
  induction xs generalizing lo with
  | nil =>
    obtain ⟨hx, hend⟩ := h
    exact ⟨hx.symm, hx ▸ hend⟩
  | cons y ys ih => exact ⟨⟨h.1, (ih h.2).1⟩, (ih h.2).2⟩

theorem Tiles.le (h : Tiles start len lo xs hi) : lo ≤ hi := by
  induction xs generalizing lo with
  | nil => exact le_of_eq h
  | cons x xs ih => exact (le_add_right _ _).trans (ih h.2)

theorem Tiles.end_unique {lo hi hi' : Nat} (h : Tiles start len lo xs hi) (h' : Tiles start len lo xs hi') :
    hi = hi' := by
  induction xs generalizing lo with
  | nil => exact Eq.trans (Eq.symm h) h'
  | cons x xs ih => exact ih h.2 h'.2

section
variable (h : Tiles start len lo xs hi)
include h

theorem Tiles.bounds_of_mem {x : ι} (hx : x ∈ xs) :
    lo ≤ start x ∧ start x + len x ≤ hi := by
  induction xs generalizing lo with
  | nil => simp at hx
  | cons y ys ih =>
    obtain ⟨hy, hrest⟩ := h
    rcases mem_cons.mp hx with rfl | hx
    · exact ⟨hy.ge, hy ▸ hrest.le⟩
    · have := ih hrest hx
      omega

theorem Tiles.pairwise : xs.Pairwise fun x y => start x + len x ≤ start y := by
  induction xs generalizing lo with
  | nil => exact .nil
  | cons x xs ih =>
    obtain ⟨hx, hrest⟩ := h
    exact pairwise_cons.mpr ⟨fun y hy => hx ▸ (hrest.bounds_of_mem hy).1, ih hrest⟩

theorem Tiles.eq_or_disjoint {x y : ι} (hx : x ∈ xs) (hy : y ∈ xs) :
    x = y ∨ start x + len x ≤ start y ∨ start y + len y ≤ start x := by
  induction xs generalizing lo with
  | nil => simp at hx
  | cons z zs ih =>
    obtain ⟨hz, hrest⟩ := h
    rcases mem_cons.mp hx with rfl | hx' <;> rcases mem_cons.mp hy with rfl | hy'
    · exact Or.inl rfl
    · have := (hrest.bounds_of_mem hy').1
      omega
    · have := (hrest.bounds_of_mem hx').1
      omega
    · exact ih hrest hx' hy'

end

theorem Tiles.ends_le_iff {lo hi n : Nat} (h : Tiles start len lo xs hi) :
    (∀ x ∈ xs, start x + len x ≤ n) ↔ xs = [] ∨ hi ≤ n := by
  constructor
  · intro hall
    induction xs generalizing lo with
    | nil => exact Or.inl rfl
    | cons x xs ih =>
      right
      rcases ih h.2 fun y hy => hall y (mem_cons_of_mem _ hy) with rfl | hle
      · have hend : lo + len x = hi := h.2
        have := hall x mem_cons_self
        have := h.1
        omega
      · exact hle
  · rintro (rfl | hle) x hx
    · simp at hx
    · exact (h.bounds_of_mem hx).2.trans hle

theorem Tiles.covers {lo hi n : Nat} (h : Tiles start len lo xs hi) (hlo : lo ≤ n) (hhi : n < hi) :
    ∃ x ∈ xs, start x ≤ n ∧ n < start x + len x := by
  induction xs generalizing lo with
  | nil =>
    obtain rfl : lo = hi := h
    omega
  | cons x xs ih =>
    obtain ⟨hx, hrest⟩ := h
    by_cases hn : n < start x + len x
    · exact ⟨x, mem_cons_self, by omega, hn⟩
    · obtain ⟨y, hy, hrange⟩ := ih hrest (by omega)
      exact ⟨y, mem_cons_of_mem _ hy, hrange⟩

/-! ## Walking -/

variable {α : Type u} {ρ : Type v}

/-- The loop that visits the record at an offset and steps over it, from a first offset up to `hi`. -/
def walkTurn (hi : Nat) (size : Nat → Nat) (visit : Nat → α → α ⊕ ρ) (finish : α → ρ) (s : Nat × α) :
    Turn (Nat × α) ρ :=
  if s.1 < hi then
    match visit s.1 s.2 with
    | .inl acc => .next (s.1 + size s.1, acc)
    | .inr r => .done r
  else
    .done (finish s.2)

/-- What the visits of a list of offsets give, one after the other. -/
def visitAll (visit : Nat → α → α ⊕ ρ) (finish : α → ρ) : List Nat → α → ρ
  | [], acc => finish acc
  | a :: as, acc =>
    match visit a acc with
    | .inl acc' => visitAll visit finish as acc'
    | .inr r => r

/-- The loop visits the records of the tiling, one after the other. -/
theorem Tiles.walk_returns {size : Nat → Nat} {visit : Nat → α → α ⊕ ρ} {finish : α → ρ}
    (h : Tiles start len lo xs hi) (hpos : ∀ x ∈ xs, 0 < len x) (hsize : ∀ x ∈ xs, size (start x) = len x) (acc : α) :
    Returns (walkTurn hi size visit finish) (lo, acc) (visitAll visit finish (xs.map start) acc) := by
  induction xs generalizing lo acc with
  | nil =>
    obtain rfl : lo = hi := h
    exact (returns_done_iff (r := finish acc) (by simp [walkTurn])).mpr rfl
  | cons x xs ih =>
    obtain ⟨rfl, hrest⟩ := h
    have hlt : start x < hi := by
      have := hrest.le
      have := hpos x mem_cons_self
      omega
    rw [map_cons, visitAll]
    cases hv : visit (start x) acc with
    | inl acc' =>
      have hturn : walkTurn hi size visit finish (start x, acc) = .next (start x + len x, acc') := by
        simp [walkTurn, hlt, hv, hsize x mem_cons_self]
      exact (returns_next_iff hturn).mpr (ih hrest (fun y hy => hpos y (mem_cons_of_mem _ hy))
        (fun y hy => hsize y (mem_cons_of_mem _ hy)) acc')
    | inr r =>
      exact (returns_done_iff (by simp [walkTurn, hlt, hv])).mpr rfl

/-! ## Walking over arbitrary records -/

/-- From `lo` on, the records at these offsets follow each other, the last one up to `hi` or beyond. -/
def Steps (size : Nat → Nat) (ok : Nat → Prop) (hi : Nat) : Nat → List Nat → Prop
  | lo, [] => hi ≤ lo
  | lo, x :: xs => x = lo ∧ lo < hi ∧ ok lo ∧ 0 < size lo ∧ Steps size ok hi (lo + size lo) xs

section
variable {size : Nat → Nat} {ok : Nat → Prop} {hi lo : Nat} {xs : List Nat} {f : α → Nat → α} {finish : α → ρ} {acc : α}
  {visit : Nat → α → α ⊕ ρ}

theorem walkTurn_of_lt (hvisit : ∀ a acc, visit a acc = .inl (f acc a)) (h : lo < hi) :
    walkTurn hi size visit finish (lo, acc) = .next (lo + size lo, f acc lo) := by
  simp [walkTurn, h, hvisit]

theorem walkTurn_of_le (h : hi ≤ lo) : walkTurn hi size visit finish (lo, acc) = .done (finish acc) := by
  simp [walkTurn, not_lt.mpr h]

section
variable (hvisit : ∀ a acc, visit a acc = .inl (f acc a))
include hvisit

/-- The walk comes to the end of the records with all of them visited, and leaves. -/
theorem Steps.returns (h : Steps size ok hi lo xs) :
    Returns (walkTurn hi size visit finish) (lo, acc) (finish (xs.foldl f acc)) ∧
    ∃ last, hi ≤ last ∧ Reached (walkTurn hi size visit finish) (lo, acc) (last, xs.foldl f acc) := by
  induction xs generalizing lo acc with
  | nil => exact ⟨(returns_done_iff (walkTurn_of_le h)).mpr rfl, lo, h, .refl⟩
  | cons x xs ih =>
    obtain ⟨rfl, hlt, -, -, hrest⟩ := h
    have hturn : walkTurn hi size visit finish (x, acc) = .next (x + size x, f acc x) := walkTurn_of_lt hvisit hlt
    refine ⟨(returns_next_iff hturn).mpr (ih hrest).1, ?_⟩
    obtain ⟨last, hle, hreached⟩ : ∃ last, hi ≤ last ∧
        Reached (walkTurn hi size visit finish) (x + size x, f acc x) (last, xs.foldl f (f acc x)) := (ih hrest).2
    exact ⟨last, hle, hreached.head hturn⟩

/-- Every state at the head of the walk has some of the records behind it and the others before it. -/
theorem Steps.of_reached (h : Steps size ok hi lo xs) {s : Nat × α}
    (hs : Reached (walkTurn hi size visit finish) (lo, acc) s) :
    ∃ done rest, xs = done ++ rest ∧ Steps size ok hi s.1 rest ∧ s.2 = done.foldl f acc := by
  refine hs.invariant (fun s => ∃ done rest, xs = done ++ rest ∧ Steps size ok hi s.1 rest ∧ s.2 = done.foldl f acc)
    ⟨[], xs, rfl, h, rfl⟩ ?_
  rintro ⟨c, acc'⟩ s' ⟨done, rest, rfl, hrest, rfl⟩ hturn
  cases rest with
  | nil =>
    rw [walkTurn_of_le hrest] at hturn
    cases hturn
  | cons x rest =>
    obtain ⟨rfl, hlt, -, -, hrest⟩ := hrest
    rw [walkTurn_of_lt hvisit hlt] at hturn
    cases hturn
    exact ⟨done ++ [x], rest, by simp, hrest, by simp⟩

/-- A record of length 0 keeps the walk for ever. -/
theorem run_eq_none_of_size_zero (hlt : lo < hi) (hzero : size lo = 0) (fuel : Nat) :
    run (walkTurn hi size visit finish) fuel (lo, acc) = none := by
  induction fuel generalizing acc with
  | zero => rfl
  | succ fuel ih =>
    rw [run_succ_next (walkTurn_of_lt hvisit hlt), hzero, add_zero]
    exact ih

/-- A walk that leaves, and finds only records that are `ok`, has stepped from record to record. -/
theorem steps_of_run {fuel : Nat} {r : ρ} (hrun : run (walkTurn hi size visit finish) fuel (lo, acc) = some r)
    (hok : ∀ s, Reached (walkTurn hi size visit finish) (lo, acc) s → s.1 < hi → ok s.1) :
    ∃ xs, Steps size ok hi lo xs := by
  induction fuel generalizing lo acc with
  | zero => cases hrun
  | succ fuel ih =>
    rcases lt_or_ge lo hi with hlt | hge
    · have hturn : walkTurn hi size visit finish (lo, acc) = .next (lo + size lo, f acc lo) := walkTurn_of_lt hvisit hlt
      have hpos : 0 < size lo := by
        by_contra hzero
        rw [run_eq_none_of_size_zero hvisit hlt (by omega)] at hrun
        cases hrun
      rw [run_succ_next hturn] at hrun
      obtain ⟨xs, hxs⟩ := ih hrun fun s hs => hok s (hs.head hturn)
      exact ⟨lo :: xs, rfl, hlt, hok _ .refl hlt, hpos, hxs⟩
    · exact ⟨[], hge⟩

end

end

end OpenSil.Tiling
