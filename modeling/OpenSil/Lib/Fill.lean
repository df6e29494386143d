import Mathlib.Tactic

/-! # Filling a buffer

Loops in loops as one loop over a list, and a loop that stores one record for each element until the room runs out.
-/

namespace OpenSil.Fill

open List Nat

universe u v
variable {α : Type u} {ρ : Type}

section
variable {σ : Type u} {m : Type u → Type v} [Monad m] {γ : Type*} {δ : Type*}

theorem foldlM_congr {l : List γ} {f g : σ → γ → m σ} (h : ∀ a ∈ l, ∀ s, f s a = g s a) (s : σ) :
    l.foldlM f s = l.foldlM g s := by
  induction l generalizing s with
  | nil => rfl
  | cons a l ih =>
    rw [forall_mem_cons] at h
    rw [foldlM_cons, foldlM_cons, h.1]
    exact bind_congr (ih h.2)

variable [LawfulMonad m]

/-- The loop of an inner loop runs over the concatenation of the inner lists. -/
theorem foldlM_flatMap (l : List γ) (f : γ → List δ) (g : σ → δ → m σ) (s : σ) :
    (l.flatMap f).foldlM g s = l.foldlM (fun s a => (f a).foldlM g s) s := by
  induction l generalizing s with
  | nil => simp
  | cons a l ih => simp [ih]

end

theorem foldlM_mapError {ε ε' σ γ : Type} (g : ε → ε') (f : σ → γ → Except ε σ) (l : List γ) (s : σ) :
    l.foldlM (fun s a => (f s a).mapError g) s = (l.foldlM f s).mapError g := by
  induction l generalizing s with
  | nil => rfl
  | cons a l ih =>
    rw [foldlM_cons, foldlM_cons]
    cases f s a with
    | error e => rfl
    | ok s => exact ih s

/-- An array of records with the index of the next one and the bytes that are left. -/
structure Buffer (ρ : Type) where
  slots : Nat → ρ
  index : Nat
  remaining : Nat

/-- Store the record of `a`, or stop if there is no room for it. -/
def store (size : Nat) (record : Nat → α → ρ) (b : Buffer ρ) (a : α) : Except (Buffer ρ) (Buffer ρ) :=
  if b.remaining < size then .error b
  else .ok ⟨Function.update b.slots b.index (record b.index a), b.index + 1, b.remaining - size⟩

/-- The array with the records of `l` from `start` on. -/
def written (record : Nat → α → ρ) (start : Nat) (l : List α) (slots : Nat → ρ) : Nat → ρ := fun i =>
  if start ≤ i then (l[i - start]?).elim (slots i) (record i) else slots i

variable {record : Nat → α → ρ} {size : Nat}

@[simp] theorem written_nil (start : Nat) (slots : Nat → ρ) : written record start [] slots = slots := by
  funext i
  simp [written]

theorem written_cons (start : Nat) (a : α) (l : List α) (slots : Nat → ρ) :
    written record (start + 1) l (Function.update slots start (record start a)) = written record start (a :: l) slots := by
  funext i
  unfold written
  rcases lt_trichotomy i start with h | rfl | h
  · rw [if_neg (by omega), if_neg (by omega), Function.update_of_ne (by omega)]
  · simp
  · obtain ⟨k, rfl⟩ := Nat.exists_eq_add_of_lt h
    rw [if_pos (by omega), if_pos (by omega), Function.update_of_ne (by omega)]
    simp [show start + k + 1 - (start + 1) = k by omega, show start + k + 1 - start = k + 1 by omega]

theorem foldlM_store_of_le (l : List α) (b : Buffer ρ) (h : size * l.length ≤ b.remaining) :
    l.foldlM (store size record) b =
      .ok ⟨written record b.index l b.slots, b.index + l.length, b.remaining - size * l.length⟩ := by
  induction l generalizing b with
  | nil => simp; rfl
  | cons a l ih =>
    rw [length_cons, mul_succ] at h
    have hroom : ¬ b.remaining < size := by omega
    rw [foldlM_cons, store, if_neg hroom]
    refine (ih _ (by dsimp only; omega)).trans ?_
    dsimp only
    rw [written_cons, List.length_cons, Nat.mul_succ, Nat.sub_sub, Nat.add_comm size, Nat.add_assoc, Nat.add_comm 1]

theorem foldlM_store_of_lt (l : List α) (b : Buffer ρ) (hsize : 0 < size) (h : b.remaining < size * l.length) :
    l.foldlM (store size record) b = .error
      ⟨written record b.index (l.take (b.remaining / size)) b.slots, b.index + b.remaining / size, b.remaining % size⟩ := by
  induction l generalizing b with
  | nil => simp at h
  | cons a l ih =>
    rw [length_cons, mul_succ] at h
    rw [foldlM_cons, store]
    by_cases hroom : b.remaining < size
    · rw [if_pos hroom, div_eq_of_lt hroom, mod_eq_of_lt hroom]
      simp; rfl
    · rw [if_neg hroom]
      refine (ih _ (by dsimp only; omega)).trans ?_
      have hdiv : b.remaining / size = (b.remaining - size) / size + 1 := div_eq_sub_div hsize (by omega)
      have hmod : b.remaining % size = (b.remaining - size) % size := mod_eq_sub_mod (by omega)
      dsimp only
      rw [written_cons, hdiv, hmod, take_succ_cons, add_right_comm, add_assoc]

theorem written_congr {record' : Nat → α → ρ} {start : Nat} (h : ∀ i ≥ start, record i = record' i) (l : List α)
    (slots : Nat → ρ) : written record start l slots = written record' start l slots := by
  funext i
  unfold written
  split_ifs with hi
  · rw [h i hi]
  · rfl

theorem written_zero_of_lt {l : List α} (slots : Nat → ρ) {k : Nat} (h : k < l.length) :
    written record 0 l slots k = record k l[k] := by
  unfold written
  rw [if_pos (Nat.zero_le k), Nat.sub_zero, List.getElem?_eq_getElem h]
  rfl

theorem written_zero_of_le {l : List α} (slots : Nat → ρ) {k : Nat} (h : l.length ≤ k) :
    written record 0 l slots k = slots k := by
  unfold written
  rw [if_pos (Nat.zero_le k), Nat.sub_zero, List.getElem?_eq_none h]
  rfl

/-! ## Only some elements -/

/-- Store the record of `a` if it is wanted. -/
def storeIf (wanted : α → Bool) (record : Nat → α → ρ) (room : Nat) (b : (Nat → ρ) × Nat) (a : α) :
    Option ((Nat → ρ) × Nat) :=
  if wanted a then if b.2 < room then some (Function.update b.1 b.2 (record b.2 a), b.2 + 1) else none else some b

theorem foldlM_storeIf {wanted : α → Bool} {room : Nat} (l : List α) (slots : Nat → ρ) {n : Nat}
    (h : n + (l.filter wanted).length ≤ room) :
    l.foldlM (storeIf wanted record room) (slots, n) =
      some (written record n (l.filter wanted) slots, n + (l.filter wanted).length) := by
  induction l generalizing slots n with
  | nil => simp
  | cons a l ih =>
    rw [foldlM_cons, storeIf]
    cases hwanted : wanted a with
    | false =>
      rw [filter_cons_of_neg (by simp [hwanted])] at h ⊢
      simpa using ih slots h
    | true =>
      rw [filter_cons_of_pos hwanted, length_cons] at h ⊢
      rw [if_pos rfl, if_pos (show n < room by omega), Option.bind_eq_bind, Option.bind_some,
        ih _ (show n + 1 + (l.filter wanted).length ≤ room by omega), written_cons]
      simp [add_assoc, add_comm 1]

end OpenSil.Fill
