import Mathlib.Data.Set.Basic

/-! # Loops that mark

A turn marks some keys in the state, or it stops.
-/

namespace OpenSil.Marks

open List Option

section
variable {σ τ α : Type*} {view : σ → τ} {f : σ → α → Option σ} {ok : α → Prop} {step : τ → α → τ}

/-- A turn on `a` stops unless `ok a`; otherwise what is seen of the state takes a step. -/
structure Tracking (view : σ → τ) (f : σ → α → Option σ) (ok : α → Prop) (step : τ → α → τ) : Prop where
  next : ∀ s a, ok a → ∃ s', f s a = some s' ∧ view s' = step (view s) a
  stop : ∀ s a, ¬ok a → f s a = none

theorem Tracking.loop (h : Tracking view f ok step) :
    Tracking view (fun s (l : List α) => l.foldlM f s) (fun l => ∀ a ∈ l, ok a) (fun t l => l.foldl step t) where
  next s l hl := by
    induction l generalizing s with
    | nil => exact ⟨s, rfl, rfl⟩
    | cons a l ih =>
      obtain ⟨s₁, h₁, hs₁⟩ := h.next s a (hl a mem_cons_self)
      obtain ⟨s₂, h₂, hs₂⟩ := ih s₁ fun b hb => hl b (mem_cons_of_mem a hb)
      refine ⟨s₂, ?_, by rw [hs₂, hs₁, foldl_cons]⟩
      simp only [foldlM_cons, h₁, bind_eq_bind, bind_some, h₂]
  stop s l hl := by
    induction l generalizing s with
    | nil => simp at hl
    | cons a l ih =>
      simp only [foldlM_cons, bind_eq_bind]
      by_cases ha : ok a
      · obtain ⟨s₁, h₁, -⟩ := h.next s a ha
        rw [h₁, bind_some]
        refine ih s₁ fun hrest => hl ?_
        simpa [ha] using hrest
      · rw [h.stop s a ha, bind_none]

end

variable {σ α κ : Type*} {marked : σ → Set κ} {f : σ → α → Option σ} {ok : α → Prop} {keys : α → Set κ}

/-- A turn on `a` stops unless `ok a`; otherwise it marks `keys a` and nothing else. -/
structure Marking (marked : σ → Set κ) (f : σ → α → Option σ) (ok : α → Prop) (keys : α → Set κ) : Prop where
  next : ∀ s a, ok a → ∃ s', f s a = some s' ∧ marked s' = marked s ∪ keys a
  stop : ∀ s a, ¬ok a → f s a = none

theorem Marking.tracking (h : Marking marked f ok keys) : Tracking marked f ok fun t a => t ∪ keys a := ⟨h.next, h.stop⟩

theorem foldl_union (l : List α) (t : Set κ) :
    l.foldl (fun t a => t ∪ keys a) t = t ∪ {k | ∃ a ∈ l, k ∈ keys a} := by
  induction l generalizing t with
  | nil => simp
  | cons a l ih =>
    rw [foldl_cons, ih, Set.union_assoc]
    congr 1
    ext k
    simp

theorem Marking.loop (h : Marking marked f ok keys) :
    Marking marked (fun s (l : List α) => l.foldlM f s) (fun l => ∀ a ∈ l, ok a)
      (fun l => {k | ∃ a ∈ l, k ∈ keys a}) where
  next s l hl := by
    obtain ⟨s', hs', hview⟩ := h.tracking.loop.next s l hl
    exact ⟨s', hs', hview.trans (foldl_union l _)⟩
  stop := h.tracking.loop.stop

theorem last_of_foldlM_range {β : Type*} {f : σ → Nat → Option σ} {get : σ → β} {val : Nat → β}
    (h : ∀ s n s', f s n = some s' → get s' = val n) {n : Nat} (hn : 0 < n) {s s' : σ}
    (hs : (List.range n).foldlM f s = some s') : get s' = val (n - 1) := by
  obtain ⟨n, rfl⟩ := Nat.exists_eq_add_one.mpr hn
  rw [range_succ, foldlM_append, bind_eq_bind, bind_eq_some_iff] at hs
  obtain ⟨s₁, -, hs₁⟩ := hs
  rw [foldlM_cons, bind_eq_bind, bind_eq_some_iff] at hs₁
  obtain ⟨s₂, hs₂, hnil⟩ := hs₁
  cases hnil
  exact h s₁ n s' hs₂

end OpenSil.Marks
