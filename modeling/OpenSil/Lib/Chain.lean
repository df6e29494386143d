import Mathlib.Tactic

/-! # Linked lists

A list in memory is a function `next` from nodes to pointers, where the null pointer is `none`.
-/

namespace OpenSil.Chain

open List Nat

universe u v
variable {α : Type u} {σ : Type v}

def Path (next : α → Option α) : Option α → List α → Option α → Prop
  | p, [], q => p = q
  | p, a :: l, q => p = some a ∧ Path next (next a) l q

/-- From `a` on to the first node with `found`, or to the end of the list. `none` is a lack of fuel. -/
def seek (next : α → Option α) (found : α → Bool) : Nat → α → Option (Option α)
  | 0, _ => none
  | fuel + 1, a =>
    if found a then some (some a)
    else
      match next a with
      | none => some none
      | some b => seek next found fuel b

/-- The loop `while (p != NULL && cond (p)) { step (p); p = next (p); }`, with a condition that may itself have no result. -/
def runWhile (next : α → Option α) (cond : α → Option Bool) (step : σ → α → σ) : Nat → Option α → σ → Option σ
  | _, none, s => some s
  | 0, some _, _ => none
  | fuel + 1, some a, s =>
    match cond a with
    | none => none
    | some false => some s
    | some true => runWhile next cond step fuel (next a) (step s a)

/-- The search from `p` passes the nodes of `l` and ends at `q`, a node with `found` or the end of the list. -/
structure Walk (next : α → Option α) (found : α → Bool) (p : Option α) (l : List α) (q : Option α) : Prop where
  path : Path next p l q
  passed : ∀ c ∈ l, found c = false
  ended : ∀ b ∈ q, found b = true

def seekFrom (next : α → Option α) (found : α → Bool) (fuel : Nat) (p : Option α) : Option (Option α) :=
  p.elim (some none) (seek next found fuel)

section
variable {next next' : α → Option α} {p q r : Option α} {l l' : List α} {a b : α}

@[simp] theorem path_nil_iff : Path next p [] q ↔ p = q := Iff.rfl

@[simp] theorem path_cons_iff : Path next p (a :: l) q ↔ p = some a ∧ Path next (next a) l q := Iff.rfl

theorem path_append_iff : Path next p (l ++ l') q ↔ ∃ r, Path next p l r ∧ Path next r l' q := by
  induction l generalizing p with
  | nil => simp
  | cons a l ih => simp [ih, and_assoc]

theorem Path.append (h : Path next p l r) (h' : Path next r l' q) : Path next p (l ++ l') q :=
  path_append_iff.mpr ⟨r, h, h'⟩

section
variable (h : Path next p l q)
include h

/-- The start of a path is its first node, or where it leads to. -/
theorem Path.start_eq : p = l.head?.or q := by
  cases l with
  | nil => simpa using h
  | cons a l => simpa using h.1

/-- What the first node has and every next one keeps, all nodes have. -/
theorem Path.invariant (inv : α → Prop) (h0 : ∀ a ∈ p, inv a) (hnext : ∀ a b, inv a → next a = some b → inv b) :
    ∀ a ∈ l, inv a := by
  induction l generalizing p with
  | nil => simp
  | cons a l ih =>
    have ha := h0 a h.1
    exact forall_mem_cons.mpr ⟨ha, ih h.2 fun b hb => hnext a b ha hb⟩

theorem Path.congr (hnext : ∀ a ∈ l, next' a = next a) : Path next' p l q := by
  induction l generalizing p with
  | nil => exact h
  | cons a l ih =>
    rw [forall_mem_cons] at hnext
    refine ⟨h.1, ?_⟩
    rw [hnext.1]
    exact ih h.2 hnext.2

theorem Path.map {β : Type*} {f : α → β} {next' : β → Option β} (hnext : ∀ a ∈ l, next' (f a) = (next a).map f) :
    Path next' (p.map f) (l.map f) (q.map f) := by
  induction l generalizing p with
  | nil => exact congrArg (Option.map f) h
  | cons a l ih =>
    rw [forall_mem_cons] at hnext
    refine ⟨congrArg (Option.map f) h.1, ?_⟩
    rw [hnext.1]
    exact ih h.2 hnext.2

end

theorem Path.relink (h : Path next p (l ++ [a]) q) (hnext : ∀ b ∈ l, next' b = next b) (ha : next' a = r) :
    Path next' p (l ++ [a]) r := by
  obtain ⟨s, hl, hs, -⟩ := path_append_iff.mp h
  exact (hl.congr hnext).append ⟨hs, ha⟩

theorem Path.cut {front back : List α} (h : Path next p (front ++ [a] ++ l' ++ back) q)
    (hfront : ∀ b ∈ front, next' b = next b) (hback : ∀ b ∈ back, next' b = next b)
    (ha : next' a = back.head?.or q) : Path next' p (front ++ [a] ++ back) q := by
  obtain ⟨r, hl, hr⟩ := path_append_iff.mp h
  obtain ⟨s, hl, -⟩ := path_append_iff.mp hl
  refine (hl.relink hfront ha).append ?_
  rw [← hr.start_eq]
  exact hr.congr hback

section
variable {found : α → Bool} {q' : Option α} {fuel : Nat}

theorem Walk.tail (h : Walk next found p (a :: l) q) : Walk next found (next a) l q :=
  ⟨h.path.2, (forall_mem_cons.mp h.passed).2, h.ended⟩

theorem Walk.unique (h : Walk next found p l q) (h' : Walk next found p l' q') : l = l' ∧ q = q' := by
  have hstop : ∀ {l p q a}, Walk next found p (a :: l) q → ¬found a = true := fun h ha =>
    Bool.false_ne_true ((h.passed _ mem_cons_self).symm.trans ha)
  induction l generalizing p l' with
  | nil =>
    obtain rfl : p = q := h.path
    cases l' with
    | nil => exact ⟨rfl, h'.path⟩
    | cons b l' => exact absurd (h.ended b h'.path.1) (hstop h')
  | cons a l ih =>
    cases l' with
    | nil =>
      obtain rfl : p = q' := h'.path
      exact absurd (h'.ended a h.path.1) (hstop h)
    | cons b l' =>
      obtain rfl := Option.some.inj (h.path.1.symm.trans h'.path.1)
      obtain ⟨rfl, rfl⟩ := ih h.tail h'.tail
      exact ⟨rfl, rfl⟩

/-- A search that ends passes no node twice. -/
theorem Walk.nodup (h : Walk next found p l q) : l.Nodup := by
  induction l generalizing p with
  | nil => exact nodup_nil
  | cons a l ih =>
    refine nodup_cons.mpr ⟨fun hmem => ?_, ih h.tail⟩
    -- the walk from the second visit would be the one from the first
    obtain ⟨before, after, rfl⟩ := append_of_mem hmem
    obtain ⟨r, -, hr⟩ := path_append_iff.mp h.tail.path
    have hagain : Walk next found p (a :: after) q :=
      ⟨⟨h.path.1, hr.2⟩, fun c hc => h.passed c (mem_cons_of_mem _ (mem_append_right _ hc)), h.ended⟩
    have hlength := congrArg List.length (h.unique hagain).1
    simp only [length_cons, length_append] at hlength
    omega

theorem Walk.length_le (h : Walk next found p l q) {f : α → Nat} (hf : Function.Injective f) {n : Nat} (hn : ∀ a, f a < n) :
    l.length ≤ n := by
  have hsub : l.map f ⊆ List.range n := fun x hx => by
    obtain ⟨a, -, rfl⟩ := mem_map.mp hx
    exact mem_range.mpr (hn a)
  simpa using (subperm_of_subset (h.nodup.map hf) hsub).length_le

theorem Walk.seek_eq (h : Walk next found (some a) l q) (hfuel : l.length < fuel) : seek next found fuel a = some q := by
  obtain ⟨fuel, rfl⟩ := exists_eq_succ_of_ne_zero (ne_zero_of_lt hfuel)
  induction l generalizing a fuel with
  | nil =>
    obtain rfl : some a = q := h.path
    exact if_pos (h.ended a rfl)
  | cons c l ih =>
    obtain rfl := Option.some.inj h.path.1
    unfold seek
    rw [if_neg (by simp [h.passed a])]
    cases hnext : next a with
    | none =>
      have htail := h.tail
      rw [hnext] at htail
      cases l with
      | nil => exact congrArg some htail.path
      | cons d l => cases htail.path.1
    | some d =>
      obtain ⟨fuel, rfl⟩ := exists_eq_succ_of_ne_zero (ne_zero_of_lt (lt_of_succ_lt_succ hfuel))
      exact ih (hnext ▸ h.tail) fuel (lt_of_succ_lt_succ hfuel)

theorem seek_of_path (h : Path next (some a) l (some b)) (hl : ∀ c ∈ l, found c = false) (hb : found b = true)
    (hfuel : l.length < fuel) : seek next found fuel a = some (some b) :=
  Walk.seek_eq ⟨h, hl, fun _ hc => Option.some.inj hc ▸ hb⟩ hfuel

theorem seek_of_path_none (h : Path next (some a) l none) (hl : ∀ c ∈ l, found c = false) (hfuel : l.length < fuel) :
    seek next found fuel a = some none :=
  Walk.seek_eq ⟨h, hl, fun _ hc => by cases hc⟩ hfuel

theorem walk_of_seek (h : seek next found fuel a = some q) : ∃ l, Walk next found (some a) l q := by
  induction fuel generalizing a with
  | zero => cases h
  | succ fuel ih =>
    unfold seek at h
    split_ifs at h with hfound
    · cases h
      exact ⟨[], rfl, fun _ hc => absurd hc not_mem_nil, fun b hb => Option.some.inj hb ▸ hfound⟩
    · have hpassed : found a = false := Bool.eq_false_iff.mpr hfound
      cases hnext : next a with
      | none =>
        rw [hnext] at h
        cases h
        exact ⟨[a], ⟨rfl, hnext⟩, forall_mem_singleton.mpr hpassed, fun _ hb => by cases hb⟩
      | some b =>
        rw [hnext] at h
        obtain ⟨l, hl⟩ := ih h
        exact ⟨a :: l, ⟨rfl, hnext ▸ hl.path⟩, forall_mem_cons.mpr ⟨hpassed, hl.passed⟩, hl.ended⟩

theorem walk_of_seekFrom (h : seekFrom next found fuel p = some q) : ∃ l, Walk next found p l q := by
  cases p with
  | none =>
    cases h
    exact ⟨[], rfl, fun _ hc => absurd hc not_mem_nil, fun _ hb => by cases hb⟩
  | some a => exact walk_of_seek h

theorem Walk.seekFrom_eq (h : Walk next found p l q) {f : α → Nat} (hf : Function.Injective f) (hn : ∀ a, f a < fuel) :
    seekFrom next found (fuel + 1) p = some q := by
  cases p with
  | none =>
    cases l with
    | nil => exact congrArg some h.path
    | cons a l => cases h.path.1
  | some a => exact h.seek_eq (lt_succ_of_le (h.length_le hf hn))

theorem Path.walk (h : Path next p l none) (found : α → Bool) :
    Walk next found p (l.takeWhile (!found ·)) (l.find? found) := by
  induction l generalizing p with
  | nil => exact ⟨h, fun _ hc => absurd hc not_mem_nil, fun _ hb => by cases hb⟩
  | cons a l ih =>
    cases ha : found a with
    | true => exact ⟨by simpa [ha] using h.1, by simp [ha], by simp [ha]⟩
    | false =>
      have hrest := ih h.2
      simp only [takeWhile_cons, ha, find?_cons, Bool.not_false, if_true]
      exact ⟨⟨h.1, hrest.path⟩, forall_mem_cons.mpr ⟨ha, hrest.passed⟩, hrest.ended⟩

theorem Path.nodup (h : Path next p l none) : l.Nodup := by
  have hwalk : Walk next (fun _ => false) p l none := ⟨h, fun _ _ => rfl, fun _ hb => by cases hb⟩
  exact hwalk.nodup

theorem Path.filter (h : Path next p l none) (f : α → Bool) :
    Path (fun a => (next a).filter f) (p.filter f) (l.takeWhile f) none := by
  induction l generalizing p with
  | nil =>
    obtain rfl : p = none := h
    rfl
  | cons a l ih =>
    obtain ⟨rfl, hl⟩ := h
    cases ha : f a with
    | true =>
      simp only [takeWhile_cons, ha, if_true]
      exact ⟨by simp [ha], ih hl⟩
    | false => simp [ha]

end

/-- The loop runs over the nodes of the path, and stops at its end if nothing is there or the condition fails. -/
theorem runWhile_of_path {cond : α → Option Bool} {step : σ → α → σ} {fuel : Nat} (h : Path next p l q)
    (hl : ∀ c ∈ l, cond c = some true) (hq : ∀ c ∈ q, cond c = some false) (hfuel : l.length < fuel) (s : σ) :
    runWhile next cond step fuel p s = some (l.foldl step s) := by
  induction l generalizing p fuel s with
  | nil =>
    obtain ⟨fuel, rfl⟩ := exists_eq_succ_of_ne_zero (ne_zero_of_lt hfuel)
    obtain rfl := h
    cases p with
    | none => rfl
    | some c =>
      unfold runWhile
      rw [hq c rfl]
      rfl
  | cons c l ih =>
    obtain ⟨fuel, rfl⟩ := exists_eq_succ_of_ne_zero (ne_zero_of_lt hfuel)
    obtain ⟨rfl, hl'⟩ := h
    rw [forall_mem_cons] at hl
    unfold runWhile
    rw [hl.1]
    exact ih hl' hl.2 (lt_of_succ_lt_succ hfuel) _

/-- A loop in which every turn overwrites what the one before it wrote. -/
theorem foldl_overwrite {f : σ → α → σ} (hf : ∀ s a b, f (f s a) b = f s b) (l : List α) (a : α) (s : σ) :
    (l ++ [a]).foldl f s = f s a := by
  induction l generalizing s with
  | nil => rfl
  | cons b l ih => exact (ih (f s b)).trans (hf s b a)

end

/-! ## Marks of the last node -/

/-- Of the nodes of the list, only the last one has the mark. -/
def LastOnly (mark : α → Bool) : List α → Prop
  | [] => True
  | [a] => mark a = true
  | a :: b :: l => mark a = false ∧ LastOnly mark (b :: l)

section
variable {mark mark' : α → Bool} {l : List α} {a : α}

theorem LastOnly.cons (h : LastOnly mark (a :: l)) : mark a = l.isEmpty ∧ LastOnly mark l := by
  cases l with
  | nil => exact ⟨h, trivial⟩
  | cons b l => exact h

theorem lastOnly_append_iff {b : α} {r : List α} :
    LastOnly mark (l ++ b :: r) ↔ (∀ a ∈ l, mark a = false) ∧ LastOnly mark (b :: r) := by
  induction l with
  | nil => simp
  | cons c l ih =>
    cases l with
    | nil => simp [LastOnly]
    | cons d l => simp_all [LastOnly, and_assoc]

theorem lastOnly_append_singleton_iff : LastOnly mark (l ++ [a]) ↔ (∀ b ∈ l, mark b = false) ∧ mark a = true :=
  lastOnly_append_iff

theorem LastOnly.map {β : Type*} {f : α → β} {mark' : β → Bool} (h : LastOnly mark l)
    (hmark : ∀ a ∈ l, mark' (f a) = mark a) : LastOnly mark' (l.map f) := by
  rcases eq_nil_or_concat l with rfl | ⟨front, a, rfl⟩
  · trivial
  · rw [concat_eq_append] at h hmark ⊢
    rw [map_append, map_singleton, lastOnly_append_singleton_iff]
    rw [lastOnly_append_singleton_iff] at h
    rw [forall_mem_append, forall_mem_singleton] at hmark
    exact ⟨forall_mem_map.mpr fun b hb => (hmark.1 b hb).trans (h.1 b hb), hmark.2.trans h.2⟩

/-- Without nodes in the middle, or at the start, the mark is still at the end. -/
theorem LastOnly.remove {m r : List α} (h : LastOnly mark (l ++ m ++ r)) (hr : r ≠ [] ∨ l = []) : LastOnly mark (l ++ r) := by
  rcases eq_nil_or_concat r with rfl | ⟨r, a, rfl⟩
  · rw [hr.resolve_left (by simp)]
    trivial
  · rw [concat_eq_append, ← append_assoc, lastOnly_append_singleton_iff] at h ⊢
    refine ⟨fun b hb => h.1 b ?_, h.2⟩
    rw [mem_append] at hb
    simp only [mem_append]
    tauto

theorem LastOnly.congr (h : LastOnly mark l) (hmark : ∀ a ∈ l, mark' a = mark a) : LastOnly mark' l := by
  have := h.map (f := id) hmark
  rwa [map_id] at this

end

end OpenSil.Chain
