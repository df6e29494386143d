import Mathlib.Tactic

/-! # Stores to a register file

A register file has a value for every key.
-/

namespace OpenSil.Stores

open List Function

universe u v

variable {κ : Type u} {ν : Type v} [DecidableEq κ]

/-- The register file after the stores, one after the other. -/
def store (l : List (κ × ν)) (f : κ → ν) : κ → ν := l.foldl (fun f p => Function.update f p.1 p.2) f

variable {l : List (κ × ν)} {f : κ → ν} {k : κ} {v : ν}

theorem store_of_notMem (h : ∀ v, (k, v) ∉ l) : store l f k = f k := by
  induction l generalizing f with
  | nil => rfl
  | cons p l ih =>
    have hne : k ≠ p.1 := fun hk => h p.2 (hk ▸ mem_cons_self)
    show store l (update f p.1 p.2) k = f k
    rw [ih fun v hv => h v (mem_cons_of_mem _ hv), update_of_ne hne]

theorem store_of_mem (h : (k, v) ∈ l) (honly : ∀ v', (k, v') ∈ l → v' = v) : store l f k = v := by
  induction l generalizing f with
  | nil => simp at h
  | cons p l ih =>
    show store l (update f p.1 p.2) k = v
    by_cases hlater : (k, v) ∈ l
    · exact ih hlater fun v' hv' => honly v' (mem_cons_of_mem _ hv')
    · obtain rfl : (k, v) = p := (mem_cons.mp h).resolve_right hlater
      rw [store_of_notMem, update_self]
      intro v' hv'
      obtain rfl := honly v' (mem_cons_of_mem _ hv')
      exact hlater hv'

/-! ## Loops whose turns each store one value -/

section
universe w x
variable {σ : Type w} {α : Type x} {f : σ → α → σ} {β : Type*}

theorem foldl_keep_of_mem {p : σ → β} {as : List α} (h : ∀ a ∈ as, ∀ s, p (f s a) = p s) (s : σ) :
    p (as.foldl f s) = p s :=
  foldlRecOn (motive := fun t => p t = p s) as f rfl fun t ht a ha => (h a ha t).trans ht

theorem foldl_keep {p : σ → β} (h : ∀ s a, p (f s a) = p s) (as : List α) (s : σ) :
    p (as.foldl f s) = p s :=
  foldl_keep_of_mem (fun a _ s => h s a) s

variable (get : σ → κ → ν) (key : α → κ) (val : α → ν) {as : List α}

theorem foldl_of_notMem (h : ∀ s a, get (f s a) = update (get s) (key a) (val a)) (hk : k ∉ as.map key)
    (s : σ) : get (as.foldl f s) k = get s k := by
  induction as generalizing s with
  | nil => rfl
  | cons a as ih =>
    rw [map_cons, mem_cons, not_or] at hk
    rw [foldl_cons, ih hk.2, h, update_of_ne hk.1]

theorem foldl_of_mem (h : ∀ s a, get (f s a) = update (get s) (key a) (val a)) (hnodup : (as.map key).Nodup)
    {a : α} (ha : a ∈ as) (s : σ) : get (as.foldl f s) (key a) = val a := by
  induction as generalizing s with
  | nil => simp at ha
  | cons b as ih =>
    rw [map_cons, nodup_cons] at hnodup
    rw [foldl_cons]
    rcases mem_cons.mp ha with rfl | ha
    · rw [foldl_of_notMem get key val h hnodup.1, h, update_self]
    · exact ih hnodup.2 ha _

end

/-! ## Two register files -/

/-- The two files have the same values, except perhaps for the listed keys. -/
def AgreeOff (ks : List κ) (f g : κ → ν) : Prop := ∀ k, k ∉ ks → f k = g k

section
variable {ks : List κ} {g : κ → ν}

omit [DecidableEq κ] in
theorem AgreeOff.eq (h : AgreeOff [] f g) : f = g := funext fun k => h k not_mem_nil

/-- A key that is stored in both files is no exception any more. -/
theorem AgreeOff.update (h : AgreeOff (k :: ks) f g) (v : ν) :
    AgreeOff ks (update f k v) (update g k v) := by
  intro k' hk'
  by_cases heq : k' = k
  · subst heq
    rw [update_self, update_self]
  · rw [update_of_ne heq, update_of_ne heq]
    exact h k' (by simp [heq, hk'])

theorem AgreeOff.store (h : AgreeOff ks f g) (k : κ) (v : ν) :
    AgreeOff ks (Function.update f k v) (Function.update g k v) :=
  AgreeOff.update (fun k' hk' => h k' fun hmem => hk' (mem_cons_of_mem _ hmem)) v

end

/-- A loop from two states, whose turns each settle what they are about. -/
theorem foldl_settle {σ α : Type*} {f : σ → α → σ} {R : List α → σ → σ → Prop}
    (h : ∀ a as s t, R (a :: as) s t → R as (f s a) (f t a)) (as : List α) {s t : σ} (hst : R as s t) :
    R [] (as.foldl f s) (as.foldl f t) := by
  induction as generalizing s t with
  | nil => exact hst
  | cons a as ih => exact ih (h a as s t hst)

end OpenSil.Stores
