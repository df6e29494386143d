import Mathlib.Data.Finset.Insert
import Mathlib.Logic.Function.Basic
import Mathlib.Tactic.Common

/-! # Swaps in a table of slots

A slot is free or holds the name of a slot.
-/

namespace OpenSil.Slots

open List

variable {ι : Type*} [DecidableEq ι]

/-- No name is in two slots. -/
def NoClash (m : ι → Option ι) : Prop := ∀ j k v, m j = some v → m k = some v → j = k

def swapAt (σ m : ι → Option ι) (i : ι) : ι → Option ι :=
  match m i, σ i with
  | none, some s => if s = i then m else Function.update (Function.update m i (some s)) s (some i)
  | _, _ => m

/-- The slots of `l` at which a swap takes place, in order, if the slots in `taken` are not free. -/
def swapped (σ : ι → Option ι) : Finset ι → List ι → List ι
  | _, [] => []
  | taken, i :: l =>
    match σ i with
    | some s => if i ∈ taken ∨ s = i then swapped σ taken l else i :: swapped σ (insert s (insert i taken)) l
    | none => swapped σ taken l

/-- The members of `l` whose slot is free at their turn. -/
def freeTurns {κ : Type*} (σ : ι → Option ι) : (ι → Option ι) → List (κ × ι) → List (κ × ι)
  | _, [] => []
  | m, a :: l => (if m a.2 = none then [a] else []) ++ freeTurns σ (swapAt σ m a.2) l

/-- The last of the swaps that writes slot `k` from outside. -/
def into (σ : ι → Option ι) (swaps : List ι) (k : ι) : Option ι := swaps.reverse.find? (σ · = some k)

/-- A swap at another slot writes slot `k`. -/
def Moved (σ : ι → Option ι) (swaps : List ι) (k : ι) : Prop := ∃ i ∈ swaps, σ i = some k

variable {σ : ι → Option ι} {m : ι → Option ι} {taken : Finset ι} {l : List ι} {i k : ι}

theorem swapped_cases (h : i ∈ swapped σ taken l) : i ∉ taken ∧ ∃ s, σ i = some s ∧ s ≠ i := by
  induction l generalizing taken with
  | nil => cases h
  | cons a l ih =>
    unfold swapped at h
    split at h
    next s hs =>
      split_ifs at h with hskip
      · exact ih h
      · rw [not_or] at hskip
        rcases mem_cons.mp h with rfl | h
        · exact ⟨hskip.1, s, hs, hskip.2⟩
        · obtain ⟨hfree, hswap⟩ := ih h
          exact ⟨fun hi => hfree (by simp [hi]), hswap⟩
    next => exact ih h

theorem into_eq_none : into σ l k = none ↔ ¬Moved σ l k := by
  simp [into, Moved]

theorem into_cons (a : ι) (l : List ι) (k : ι) :
    into σ (a :: l) k = (into σ l k).or (if σ a = some k then some a else none) := by
  simp [into, find?_append, find?_singleton]

theorem foldl_swapAt (htaken : ∀ j, j ∈ taken ↔ m j ≠ none) (l : List ι) (k : ι) :
    l.foldl (swapAt σ) m k =
      (into σ (swapped σ taken l) k).or (if k ∈ swapped σ taken l then σ k else m k) := by
  induction l generalizing m taken with
  | nil => simp [into, swapped]
  | cons a l ih =>
    rw [foldl_cons]
    cases hs : σ a with
    | none =>
      have hstep : swapAt σ m a = m := by unfold swapAt; rw [hs]; split <;> simp_all
      have hswapped : swapped σ taken (a :: l) = swapped σ taken l := by
        conv_lhs => unfold swapped
        simp only [hs]
      rw [hstep, hswapped, ih htaken]
    | some s =>
      by_cases hskip : a ∈ taken ∨ s = a
      · have hstep : swapAt σ m a = m := by
          unfold swapAt
          rw [hs]
          cases hm : m a with
          | none => exact if_pos (hskip.resolve_left fun h => (htaken a).mp h hm)
          | some v => rfl
        have hswapped : swapped σ taken (a :: l) = swapped σ taken l := by
          conv_lhs => unfold swapped
          simp only [hs, if_pos hskip]
        rw [hstep, hswapped, ih htaken]
      · have hswapped : swapped σ taken (a :: l) = a :: swapped σ (insert s (insert a taken)) l := by
          conv_lhs => unfold swapped
          simp only [hs, if_neg hskip]
        rw [not_or] at hskip
        have hfree : m a = none := not_not.mp (mt (htaken a).mpr hskip.1)
        have hstep : swapAt σ m a = Function.update (Function.update m a (some s)) s (some a) := by
          unfold swapAt
          rw [hs, hfree]
          exact if_neg hskip.2
        have htaken' : ∀ j, j ∈ insert s (insert a taken) ↔ swapAt σ m a j ≠ none := by
          intro j
          rw [hstep]
          by_cases hjs : j = s
          · simp [hjs]
          by_cases hja : j = a
          · simp [hja, Ne.symm hskip.2]
          · simp [hjs, hja, htaken j]
        rw [ih htaken', hswapped, into_cons, Option.or_assoc]
        congr 1
        -- slots `a` and `s` are no longer free, so that they are not among the later swaps
        by_cases hk : k ∈ swapped σ (insert s (insert a taken)) l
        · have hout := (swapped_cases hk).1
          simp only [Finset.mem_insert, not_or] at hout
          simp [hk, hs, Ne.symm hout.1]
        · rw [if_neg hk, hstep, hs]
          by_cases hks : k = s
          · simp [hks]
          by_cases hka : k = a
          · simp [hka, hs, hskip.2, Ne.symm hskip.2]
          · simp [hks, Ne.symm hks, hka, hk]

section
variable (hσ : NoClash σ) (htaken : ∀ j, j ∈ taken ↔ m j ≠ none)
include hσ htaken

theorem foldl_swapAt_eq_some {v : ι} : l.foldl (swapAt σ) m k = some v ↔
    (v ∈ swapped σ taken l ∧ σ v = some k) ∨
    (k ∈ swapped σ taken l ∧ ¬Moved σ (swapped σ taken l) k ∧ σ k = some v) ∨
    (k ∉ swapped σ taken l ∧ ¬Moved σ (swapped σ taken l) k ∧ m k = some v) := by
  rw [foldl_swapAt htaken]
  cases hinto : into σ (swapped σ taken l) k with
  | none =>
    have hmoved := into_eq_none.mp hinto
    have hleft : ¬(v ∈ swapped σ taken l ∧ σ v = some k) := fun h => hmoved ⟨v, h⟩
    by_cases hk : k ∈ swapped σ taken l <;> simp [hk, hmoved, hleft]
  | some i =>
    have hi : i ∈ swapped σ taken l ∧ σ i = some k := by
      refine ⟨mem_reverse.mp (mem_of_find?_eq_some hinto), ?_⟩
      simpa using find?_some hinto
    have hmoved : Moved σ (swapped σ taken l) k := ⟨i, hi⟩
    rw [Option.some_or, Option.some.injEq]
    constructor
    · rintro rfl
      exact .inl hi
    · rintro (hv | hv | hv)
      · exact hσ i v k hi.2 hv.2
      · exact absurd hmoved hv.2.1
      · exact absurd hmoved hv.2.1

theorem noClash_foldl_swapAt_iff (hm : NoClash m) : NoClash (l.foldl (swapAt σ) m) ↔
    ∀ i ∈ swapped σ taken l,
      (∀ k, m k = some i → Moved σ (swapped σ taken l) k) ∧
      (¬Moved σ (swapped σ taken l) i → ∀ s, σ i = some s →
        s ∉ swapped σ taken l ∧ ∀ k, m k = some s → Moved σ (swapped σ taken l) k) := by
  have hfree : ∀ {k v}, m k = some v → k ∉ swapped σ taken l := fun {k v} hk hmem =>
    (swapped_cases hmem).1 ((htaken k).mpr (by simp [hk]))
  constructor
  · intro h i hi
    obtain ⟨-, s, hs, -⟩ := swapped_cases hi
    have hat : l.foldl (swapAt σ) m s = some i := (foldl_swapAt_eq_some hσ htaken).mpr (.inl ⟨hi, hs⟩)
    have hkept : ∀ {k v}, m k = some v → ¬Moved σ (swapped σ taken l) k → l.foldl (swapAt σ) m k = some v :=
      fun hk hmoved => (foldl_swapAt_eq_some hσ htaken).mpr (.inr (.inr ⟨hfree hk, hmoved, hk⟩))
    constructor
    · intro k hk
      by_contra hmoved
      cases h k s i (hkept hk hmoved) hat
      exact hmoved ⟨i, hi, hs⟩
    · intro hmoved s' hs'
      have hown : l.foldl (swapAt σ) m i = some s' := (foldl_swapAt_eq_some hσ htaken).mpr (.inr (.inl ⟨hi, hmoved, hs'⟩))
      constructor
      · intro hmem
        obtain ⟨-, r, hr, -⟩ := swapped_cases hmem
        cases h i r s' hown ((foldl_swapAt_eq_some hσ htaken).mpr (.inl ⟨hmem, hr⟩))
        exact hmoved ⟨s', hmem, hr⟩
      · intro k hk
        by_contra hkmoved
        cases h i k s' hown (hkept hk hkmoved)
        exact hfree hk hi
  · intro h j k v hj hk
    rw [foldl_swapAt_eq_some hσ htaken] at hj hk
    rcases hj with ⟨hvj, hσj⟩ | ⟨hj, hjmoved, hσj⟩ | ⟨-, hjmoved, hmj⟩ <;>
      rcases hk with ⟨hvk, hσk⟩ | ⟨hk, hkmoved, hσk⟩ | ⟨-, hkmoved, hmk⟩
    · exact Option.some.inj (hσj.symm.trans hσk)
    · exact absurd hvj ((h k hk).2 hkmoved v hσk).1
    · exact absurd ((h v hvj).1 k hmk) hkmoved
    · exact absurd hvk ((h j hj).2 hjmoved v hσj).1
    · exact hσ j k v hσj hσk
    · exact absurd (((h j hj).2 hjmoved v hσj).2 k hmk) hkmoved
    · exact absurd ((h v hvk).1 j hmj) hjmoved
    · exact absurd (((h k hk).2 hkmoved v hσk).2 j hmj) hjmoved
    · exact hm j k v hmj hmk

end

end OpenSil.Slots
