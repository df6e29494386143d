import Mathlib.Tactic

/-! # Scans of a terminated list

A list whose end is marked by an entry of its own: a scan looks at the entries in front of the mark.
-/

namespace OpenSil.Scan

variable {α : Type}

/-- The index of the first entry with `p` in front of the first one that ends the list. -/
def first (ends p : α → Bool) : List α → Option Nat
  | [] => none
  | a :: l => if ends a then none else if p a then some 0 else (first ends p l).map (· + 1)

variable {ends p : α → Bool} {l rest : List α} {mark : α}

theorem first_eq_some (hmark : ends mark = true) {i : Nat}
    (h : first ends p (l ++ mark :: rest) = some i) :
    ∃ before a after, l = before ++ a :: after ∧ before.length = i ∧ p a = true := by
  induction l generalizing i with
  | nil => simp [first, hmark] at h
  | cons a l ih =>
    rw [List.cons_append, first] at h
    split_ifs at h with hends hp
    · obtain rfl : 0 = i := by simpa using h
      exact ⟨[], a, l, rfl, rfl, hp⟩
    · obtain ⟨j, hj, rfl⟩ := Option.map_eq_some_iff.mp h
      obtain ⟨before, b, after, rfl, hlen, hb⟩ := ih hj
      exact ⟨a :: before, b, after, rfl, by simp [hlen], hb⟩

theorem first_eq_none (hmark : ends mark = true) (hl : ∀ a ∈ l, ends a = false) :
    first ends p (l ++ mark :: rest) = none ↔ ∀ a ∈ l, p a = false := by
  induction l with
  | nil => simp [first, hmark]
  | cons a l ih =>
    obtain ⟨ha, hl⟩ := List.forall_mem_cons.mp hl
    rw [List.forall_mem_cons, ← ih hl, List.cons_append, first]
    cases p a <;> simp [ha]

theorem getD_set_append_cons (before after rest : List α) (a b default : α) :
    (before ++ a :: after ++ rest).getD before.length default = a ∧
      (before ++ a :: after ++ rest).set before.length b = before ++ b :: after ++ rest := by
  simp

end OpenSil.Scan
