import OpenSil.Lib.Chain
import OpenSil.Lib.Loop

/-! # Searching along a successor function

A loop that goes from one state to its successor until a state is accepted or has no successor.
-/

namespace OpenSil.Search

open Loop

universe u

variable {σ : Type u}

/-- One turn: leave with the state if it is accepted, or if it is the last one. -/
def turn (accept : σ → Bool) (next : σ → Option σ) (s : σ) : Turn σ (Bool × σ) :=
  if accept s then .done (true, s)
  else
    match next s with
    | none => .done (false, s)
    | some s' => .next s'

/-- The `n`-th successor of `s` is `s'`. -/
def Path (next : σ → Option σ) : Nat → σ → σ → Prop
  | 0, s, s' => s' = s
  | n + 1, s, s' => ∃ t, next s = some t ∧ Path next n t s'

variable {accept : σ → Bool} {next : σ → Option σ} {s s' t : σ} {n m fuel : Nat}

theorem Path.trans (h : Path next n s t) (h' : Path next m t s') : Path next (n + m) s s' := by
  induction n generalizing s with
  | zero =>
    obtain rfl : t = s := h
    rwa [Nat.zero_add]
  | succ n ih =>
    obtain ⟨u, hu, hpath⟩ := h
    rw [Nat.succ_add]
    exact ⟨u, hu, ih hpath⟩

theorem Path.single (h : next s = some t) : Path next 1 s t := ⟨t, h, rfl⟩

/-- A search that gives up has rejected everything on its way. -/
theorem reject_of_run (h : run (turn accept next) fuel s = some (false, t)) (hpath : Path next n s s') :
    accept s' = false := by
  induction fuel generalizing s n with
  | zero => cases h
  | succ fuel ih =>
    cases hs : accept s with
    | true =>
      rw [run_succ_done (r := (true, s)) (by simp [turn, hs])] at h
      cases h
    | false =>
      cases n with
      | zero =>
        obtain rfl : s' = s := hpath
        exact hs
      | succ n =>
        obtain ⟨u, hu, hpath⟩ := hpath
        have hturn : turn accept next s = .next u := by simp [turn, hs, hu]
        rw [run_succ_next hturn] at h
        exact ih h hpath

theorem Path.invariant {inv : σ → Prop} (hpath : Path next n s t) (h : inv s)
    (hstep : ∀ s s', inv s → next s = some s' → inv s') : inv t := by
  induction n generalizing s with
  | zero =>
    obtain rfl : t = s := hpath
    exact h
  | succ n ih =>
    obtain ⟨u, hu, hpath⟩ := hpath
    exact ih hpath (hstep s u h hu)

/-- What a search finds is accepted, and on its way. -/
theorem accept_of_run (h : run (turn accept next) fuel s = some (true, t)) : accept t = true ∧ ∃ n, Path next n s t := by
  induction fuel generalizing s with
  | zero => cases h
  | succ fuel ih =>
    unfold run at h
    cases hs : accept s with
    | true =>
      simp only [turn, hs, if_true] at h
      cases h
      exact ⟨hs, 0, rfl⟩
    | false =>
      cases hnext : next s with
      | none => simp [turn, hs, hnext] at h
      | some u =>
        simp only [turn, hs, hnext, Bool.false_eq_true, if_false] at h
        obtain ⟨haccept, n, hpath⟩ := ih h
        exact ⟨haccept, n + 1, u, hnext, hpath⟩

/-- A search returns if the way to the last state is short enough. -/
theorem run_isSome (hpath : Path next n s t) (hlast : next t = none) (hfuel : n < fuel) :
    ∃ r, run (turn accept next) fuel s = some r := by
  induction fuel generalizing s n with
  | zero => cases hfuel
  | succ fuel ih =>
    cases hs : accept s with
    | true => exact ⟨_, run_succ_done (r := (true, s)) (by simp [turn, hs])⟩
    | false =>
      cases n with
      | zero =>
        obtain rfl : t = s := hpath
        exact ⟨_, run_succ_done (r := (false, t)) (by simp [turn, hs, hlast])⟩
      | succ n =>
        obtain ⟨u, hu, hpath⟩ := hpath
        have hturn : turn accept next s = .next u := by simp [turn, hs, hu]
        rw [run_succ_next hturn]
        exact ih hpath (Nat.lt_of_succ_lt_succ hfuel)

/-- The way to the last state is a list of states with every successor of the first one. -/
theorem Path.exists_chain (hpath : Path next n s t) (hlast : next t = none) :
    ∃ l, Chain.Path next (some s) l none ∧ l.getLast? = some t ∧ ∀ m s', Path next m s s' → s' ∈ l := by
  induction n generalizing s with
  | zero =>
    obtain rfl : t = s := hpath
    refine ⟨[t], ⟨rfl, hlast⟩, rfl, fun m s' h => ?_⟩
    cases m with
    | zero => exact List.mem_singleton.mpr h
    | succ m =>
      obtain ⟨u, hu, -⟩ := h
      cases hlast.symm.trans hu
  | succ n ih =>
    obtain ⟨u, hu, hpath⟩ := hpath
    obtain ⟨l, hl, hend, hall⟩ := ih hpath
    refine ⟨s :: l, ⟨rfl, hu ▸ hl⟩, ?_, fun m s' h => ?_⟩
    · rw [List.getLast?_cons, hend]
      rfl
    · cases m with
      | zero => exact h ▸ List.mem_cons_self
      | succ m =>
        obtain ⟨v, hv, h⟩ := h
        obtain rfl := Option.some.inj (hu.symm.trans hv)
        exact List.mem_cons_of_mem _ (hall m s' h)

/-! ## Searching and taking notes -/

section
universe v
variable {α : Type v} {note : σ → α → α} {x y : α}

/-- One turn that first notes something about the state. -/
def noteTurn (accept : σ → Bool) (note : σ → α → α) (next : σ → Option σ) (p : σ × α) : Turn (σ × α) (Bool × σ × α) :=
  let notes := note p.1 p.2
  if accept p.1 then .done (true, p.1, notes)
  else
    match next p.1 with
    | none => .done (false, p.1, notes)
    | some s' => .next (s', notes)

theorem noteTurn_accept (h : accept s = true) : noteTurn accept note next (s, x) = .done (true, s, note s x) := by
  simp [noteTurn, h]

theorem noteTurn_last (h : accept s = false) (hnext : next s = none) :
    noteTurn accept note next (s, x) = .done (false, s, note s x) := by
  simp [noteTurn, h, hnext]

theorem noteTurn_next (h : accept s = false) (hnext : next s = some s') :
    noteTurn accept note next (s, x) = .next (s', note s x) := by
  simp [noteTurn, h, hnext]

theorem run_noteTurn (accept : σ → Bool) (note : σ → α → α) (next : σ → Option σ) (fuel : Nat) (s : σ) (x : α) :
    (run (noteTurn accept note next) fuel (s, x)).map (fun r => (r.1, r.2.1)) = run (turn accept next) fuel s := by
  induction fuel generalizing s x with
  | zero => rfl
  | succ fuel ih =>
    cases hs : accept s with
    | true =>
      rw [run_succ_done (noteTurn_accept hs), run_succ_done (r := (true, s)) (by simp [turn, hs])]
      rfl
    | false =>
      cases hnext : next s with
      | none =>
        rw [run_succ_done (noteTurn_last hs hnext), run_succ_done (r := (false, s)) (by simp [turn, hs, hnext])]
        rfl
      | some s' =>
        have hturn : turn accept next s = .next s' := by simp [turn, hs, hnext]
        rw [run_succ_next (noteTurn_next hs hnext), run_succ_next hturn]
        exact ih s' _

variable (p : α → Prop) (hkeep : ∀ s x, accept s = false → p x → p (note s x))
include hkeep

/-- What the notes about rejected states keep, the notes of a search that gives up have. -/
theorem notes_of_run (hset : accept s = false → p (note s x))
    (h : run (noteTurn accept note next) fuel (s, x) = some (false, t, y)) : p y := by
  induction fuel generalizing s x with
  | zero => cases h
  | succ fuel ih =>
    cases hs : accept s with
    | true =>
      rw [run_succ_done (noteTurn_accept hs)] at h
      cases h
    | false =>
      cases hnext : next s with
      | none =>
        rw [run_succ_done (noteTurn_last hs hnext)] at h
        cases h
        exact hset hs
      | some s' =>
        rw [run_succ_next (noteTurn_next hs hnext)] at h
        exact ih (fun hs' => hkeep _ _ hs' (hset hs)) h

end

end OpenSil.Search
