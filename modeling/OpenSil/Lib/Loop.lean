import Mathlib.Tactic

/-! # Loops

A `while` loop as a function from the state at its head to one turn.
-/

namespace OpenSil.Loop

universe u v

/-- One turn of a loop: back to the head with a new state, or out with a result. -/
inductive Turn (σ : Type u) (ρ : Type v) where
  | next (s : σ)
  | done (r : ρ)

variable {σ : Type u} {ρ : Type v}

def run (turn : σ → Turn σ ρ) : Nat → σ → Option ρ
  | 0, _ => none
  | fuel + 1, s =>
    match turn s with
    | .next s' => run turn fuel s'
    | .done r => some r

/-- The loop entered at `s` leaves with `r`. -/
def Returns (turn : σ → Turn σ ρ) (s : σ) (r : ρ) : Prop := ∃ fuel, run turn fuel s = some r

variable {turn : σ → Turn σ ρ} {s s' : σ} {r r' : ρ} {fuel : Nat}

theorem run_succ_next (h : turn s = .next s') : run turn (fuel + 1) s = run turn fuel s' := by
  simp [run, h]

theorem run_succ_done (h : turn s = .done r) : run turn (fuel + 1) s = some r := by
  simp [run, h]

theorem returns_done_iff (h : turn s = .done r) : Returns turn s r' ↔ r' = r := by
  constructor
  · rintro ⟨_ | fuel, hf⟩
    · simp [run] at hf
    · rw [run_succ_done h] at hf
      exact (Option.some.inj hf).symm
  · rintro rfl
    exact ⟨1, run_succ_done h⟩

theorem returns_next_iff (h : turn s = .next s') : Returns turn s r ↔ Returns turn s' r := by
  constructor
  · rintro ⟨_ | fuel, hf⟩
    · simp [run] at hf
    · exact ⟨fuel, by rwa [run_succ_next h] at hf⟩
  · rintro ⟨fuel, hf⟩
    exact ⟨fuel + 1, by rwa [run_succ_next h]⟩

theorem run_some_mono (h : run turn fuel s = some r) (more : Nat) :
    run turn (fuel + more) s = some r := by
  induction fuel generalizing s with
  | zero => simp [run] at h
  | succ fuel ih =>
    rw [Nat.add_right_comm]
    cases ht : turn s with
    | next s' => rw [run_succ_next ht] at h ⊢; exact ih h
    | done q => rw [run_succ_done ht] at h ⊢; exact h

theorem Returns.unique (h : Returns turn s r) (h' : Returns turn s r') : r = r' := by
  obtain ⟨n, hn⟩ := h
  obtain ⟨m, hm⟩ := h'
  have h1 := run_some_mono hn m
  have h2 := run_some_mono hm n
  rw [Nat.add_comm] at h2
  exact Option.some.inj (h1.symm.trans h2)

/-- Partial correctness: what every turn keeps, the result of a loop that leaves has. -/
theorem Returns.of_invariant (h : Returns turn s r) (inv : σ → Prop) (post : ρ → Prop) (h0 : inv s)
    (hnext : ∀ s s', inv s → turn s = .next s' → inv s')
    (hdone : ∀ s r, inv s → turn s = .done r → post r) : post r := by
  obtain ⟨fuel, hf⟩ := h
  induction fuel generalizing s with
  | zero => simp [run] at hf
  | succ fuel ih =>
    cases ht : turn s with
    | next s' => exact ih (hnext s s' h0 ht) (by rwa [run_succ_next ht] at hf)
    | done q =>
      rw [run_succ_done ht] at hf
      exact Option.some.inj hf ▸ hdone s q h0 ht

/-- Total correctness: with an invariant and a measure that every turn lowers, the loop leaves. -/
theorem returns_of_measure (inv : σ → Prop) (post : ρ → Prop) (measure : σ → Nat)
    (hturn : ∀ s, inv s →
      (∃ s', turn s = .next s' ∧ inv s' ∧ measure s' < measure s) ∨ ∃ r, turn s = .done r ∧ post r)
    (h0 : inv s) : ∃ r, Returns turn s r ∧ post r := by
  -- Induction on the measure, for every state at once.
  induction hm : measure s using Nat.strong_induction_on generalizing s with
  | _ n ih =>
    rcases hturn s h0 with ⟨s', ht, hi, hlt⟩ | ⟨r, ht, hp⟩
    · obtain ⟨r, hr, hp⟩ := ih (measure s') (by omega) hi rfl
      exact ⟨r, (returns_next_iff ht).mpr hr, hp⟩
    · exact ⟨r, (returns_done_iff ht).mpr rfl, hp⟩

/-! ## The states at the head of the loop -/

/-- The loop entered at `s` comes to its head with the state `s'`. -/
def Reached (turn : σ → Turn σ ρ) : σ → σ → Prop := Relation.ReflTransGen fun s s' => turn s = .next s'

theorem Reached.head (hturn : turn s = .next s') {t : σ} (h : Reached turn s' t) : Reached turn s t :=
  Relation.ReflTransGen.head hturn h

/-- What holds at the start and is kept by every turn holds of every state at the head. -/
theorem Reached.invariant {t : σ} (h : Reached turn s t) (inv : σ → Prop) (h0 : inv s)
    (hnext : ∀ s s', inv s → turn s = .next s' → inv s') : inv t := by
  induction h with
  | refl => exact h0
  | tail _ hturn ih => exact hnext _ _ ih hturn

end OpenSil.Loop
