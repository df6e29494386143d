import OpenSil.Lib.Word

/-! # Bump allocation from many pools

Every pool hands out its addresses in order.
-/

namespace OpenSil.Bump

open List

universe u

/-- A range of addresses of which the first `used` are gone. -/
structure Pool where
  base : Nat
  size : Nat
  used : Nat

def Pool.Has (p : Pool) (a : Nat) : Prop := p.base ≤ a ∧ a < p.base + p.size

/-- What is left of the pool behind its next free address, once that is aligned. -/
def Pool.room (p : Pool) (mask : Nat) : Nat := p.base + p.size - Word.roundUp (p.base + p.used) mask

/-- A range that was handed out, and the pool it came from. -/
structure Grant (ι : Type u) where
  pool : ι
  start : Nat
  len : Nat

variable {ι : Type u}

/-- No address is in both of two ranges, each a start and a length. -/
def Apart (r r' : Nat × Nat) : Prop := ∀ a, ¬ ((r.1 ≤ a ∧ a < r.1 + r.2) ∧ r'.1 ≤ a ∧ a < r'.1 + r'.2)

def Grant.range (g : Grant ι) : Nat × Nat := (g.start, g.len)

/-- No address is in two of the pools of `dom`. -/
def PoolsDisjoint (dom : ι → Prop) (ps : ι → Pool) : Prop :=
  ∀ i j, dom i → dom j → i ≠ j → ∀ a, ¬ ((ps i).Has a ∧ (ps j).Has a)

/-- What one grant does to the pools. -/
structure Grants (ps : ι → Pool) (g : Grant ι) (ps' : ι → Pool) : Prop where
  start_ge : (ps g.pool).base + (ps g.pool).used ≤ g.start
  end_le : g.start + g.len ≤ (ps g.pool).base + (ps g.pool).size
  base : ∀ i, (ps' i).base = (ps i).base
  size : ∀ i, (ps' i).size = (ps i).size
  used_self : (ps' g.pool).base + (ps' g.pool).used = g.start + g.len
  used_other : ∀ i, i ≠ g.pool → (ps' i).used = (ps i).used

/-- What holds of the pools of `dom` and of the grants made from them so far. -/
structure Inv (dom : ι → Prop) (ps : ι → Pool) (log : List (Grant ι)) : Prop where
  pools : PoolsDisjoint dom ps
  used_le : ∀ i, dom i → (ps i).used ≤ (ps i).size
  from_dom : ∀ g ∈ log, dom g.pool
  start_ge : ∀ g ∈ log, (ps g.pool).base ≤ g.start
  end_le : ∀ g ∈ log, g.start + g.len ≤ (ps g.pool).base + (ps g.pool).used
  apart : (log.map Grant.range).Pairwise Apart

theorem inv_nil {dom : ι → Prop} {ps : ι → Pool} (hpools : PoolsDisjoint dom ps)
    (h : ∀ i, dom i → (ps i).used ≤ (ps i).size) : Inv dom ps [] :=
  ⟨hpools, h, by simp, by simp, by simp, List.Pairwise.nil⟩

variable {dom : ι → Prop} {ps ps' : ι → Pool} {g : Grant ι}

theorem PoolsDisjoint.grants (h : PoolsDisjoint dom ps) (hg : Grants ps g ps') : PoolsDisjoint dom ps' := by
  intro i j hi hj hne a
  unfold Pool.Has
  rw [hg.base i, hg.base j, hg.size i, hg.size j]
  exact h i j hi hj hne a

theorem Grants.used_le (hg : Grants ps g ps') (i : ι) : (ps i).used ≤ (ps' i).used := by
  by_cases hi : i = g.pool
  · subst hi
    have h1 := hg.used_self
    have h2 := hg.start_ge
    have h3 := hg.base g.pool
    omega
  · rw [hg.used_other i hi]

/-- One grant from a pool of `dom` keeps the invariant. -/
theorem Inv.grants {log : List (Grant ι)} (h : Inv dom ps log) (hdom : dom g.pool) (hg : Grants ps g ps') :
    Inv dom ps' (log ++ [g]) := by
  constructor
  · exact h.pools.grants hg
  · intro i hi
    by_cases he : i = g.pool
    · subst he
      have h1 := hg.used_self
      have h2 := hg.end_le
      have h3 := hg.base g.pool
      have h4 := hg.size g.pool
      omega
    · rw [hg.used_other i he, hg.size i]
      exact h.used_le i hi
  · intro g' hg'
    rcases mem_append.mp hg' with hg' | hg'
    · exact h.from_dom g' hg'
    · exact mem_singleton.mp hg' ▸ hdom
  · intro g' hg'
    rw [hg.base]
    rcases mem_append.mp hg' with hg' | hg'
    · exact h.start_ge g' hg'
    · obtain rfl := mem_singleton.mp hg'
      exact (Nat.le_add_right _ _).trans hg.start_ge
  · intro g' hg'
    rcases mem_append.mp hg' with hg' | hg'
    · rw [hg.base]
      exact (h.end_le g' hg').trans (Nat.add_le_add_left (hg.used_le _) _)
    · obtain rfl := mem_singleton.mp hg'
      exact hg.used_self.ge
  · rw [map_append, pairwise_append]
    refine ⟨h.apart, pairwise_singleton _ _, fun r hr r' hr' a ha => ?_⟩
    obtain ⟨g', hg', rfl⟩ := mem_map.mp hr
    obtain ⟨g'', hg'', rfl⟩ := mem_map.mp hr'
    obtain rfl := mem_singleton.mp hg''
    obtain ⟨⟨hlo', hhi'⟩, hlo, hhi⟩ := ha
    unfold Grant.range at hlo' hhi' hlo hhi
    simp only at hlo' hhi' hlo hhi
    have hin := h.end_le g' hg'
    have hstart := hg.start_ge
    -- An older grant of the same pool lies below the new one, one of another pool in another range.
    by_cases hp : g'.pool = g''.pool
    · rw [hp] at hin
      omega
    · have hle := h.used_le _ (h.from_dom g' hg')
      have hge := h.start_ge g' hg'
      have hend := hg.end_le
      exact h.pools _ _ (h.from_dom g' hg') hdom hp a ⟨⟨by omega, by omega⟩, ⟨by omega, by omega⟩⟩

end OpenSil.Bump
