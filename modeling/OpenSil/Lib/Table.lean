import Mathlib.Tactic

/-! # Tables

A table has an entry for every row and column.
-/

namespace OpenSil

universe u

abbrev Table (α : Type u) := Nat → Nat → α

namespace Table

variable {α : Type u}

def set (t : Table α) (i j : Nat) (v : α) : Table α := fun i' j' => if i' = i ∧ j' = j then v else t i' j'

@[simp] theorem set_self (t : Table α) (i j : Nat) (v : α) : t.set i j v i j = v := by
  simp [set]

theorem set_of_ne (t : Table α) {i j i' j' : Nat} (v : α) (h : ¬ (i' = i ∧ j' = j)) : t.set i j v i' j' = t i' j' := by
  rw [set, if_neg h]

/-- An entry by its row and column. -/
def entry (t : Table α) (p : Nat × Nat) : α := t p.1 p.2

theorem entry_set (t : Table α) (p : Nat × Nat) (v : α) : entry (t.set p.1 p.2 v) = Function.update (entry t) p v := by
  funext q
  by_cases h : q = p
  · subst h
    rw [Function.update_self]
    exact set_self t _ _ v
  · rw [Function.update_of_ne h]
    exact set_of_ne t v fun heq => h (Prod.ext heq.1 heq.2)

end Table

end OpenSil
