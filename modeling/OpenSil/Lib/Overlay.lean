import OpenSil.Lib.Bytes

/-! # Records with bits that are not written

A record in memory is a list of bytes.
-/

namespace OpenSil.Overlay

open Bytes List Nat

/-- `m` after the bytes of `l` are stored from `a` on. -/
def overlay (a : Nat) (l : List (UInt8 × UInt8)) (m : Mem) : Mem := fun x =>
  if a ≤ x then (l[x - a]?).elim (m x) fun c => c.1 ||| (m x &&& c.2) else m x

/-- The bits that are not written are zero in memory. -/
def Clean (l : List (UInt8 × UInt8)) (m : Mem) : Prop := ∀ i c, l[i]? = some c → m i &&& c.2 = 0

/-- Memory starts with the bytes of `l`. -/
def StartsWith (m : Mem) (l : List UInt8) : Prop := ∀ i b, l[i]? = some b → m i = b

variable {a x : Nat} {l l' : List (UInt8 × UInt8)} {m : Mem}

@[simp] theorem overlay_nil : overlay a [] m = m := by
  funext x
  simp [overlay]

theorem overlay_of_lt (h : x < a) : overlay a l m x = m x := if_neg (not_le.mpr h)

theorem overlay_of_ge (h : a + l.length ≤ x) : overlay a l m x = m x := by
  unfold overlay
  rw [if_pos (by omega), getElem?_eq_none (by omega)]
  rfl

theorem overlay_append : overlay (a + l.length) l' (overlay a l m) = overlay a (l ++ l') m := by
  funext x
  rcases lt_or_ge x (a + l.length) with h | h
  · rw [overlay_of_lt h]
    unfold overlay
    split_ifs with ha
    · rw [getElem?_append_left (by omega)]
    · rfl
  · have hold : overlay a l m x = m x := overlay_of_ge h
    unfold overlay at hold ⊢
    rw [if_pos h, hold, if_pos (by omega), List.getElem?_append_right (by omega), Nat.sub_sub]

theorem overlay_comm {b : Nat} (h : a + l.length ≤ b) : overlay a l (overlay b l' m) = overlay b l' (overlay a l m) := by
  funext x
  rcases lt_or_ge x b with hx | hx
  · have hold : overlay b l' m x = m x := overlay_of_lt hx
    rw [overlay_of_lt hx]
    unfold overlay at hold ⊢
    rw [hold]
  · have hold : overlay a l m x = m x := overlay_of_ge (h.trans hx)
    rw [overlay_of_ge (h.trans hx)]
    unfold overlay at hold ⊢
    rw [hold]

/-! ## The parts of a record -/

/-- A number of `w` bytes. -/
def field (v w : Nat) : List (UInt8 × UInt8) := (List.range w).map fun i => (UInt8.ofNat (v / 256 ^ i), 0)

/-- Reserved bytes: zero, but not written. -/
def reserved (n : Nat) : List (UInt8 × UInt8) := List.replicate n (0, 0xFF)

@[simp] theorem length_field (v w : Nat) : (field v w).length = w := by simp [field]

@[simp] theorem length_reserved (n : Nat) : (reserved n).length = n := by simp [reserved]

theorem writeLE_eq_overlay (v w : Nat) : writeLE m a w v = overlay a (field v w) m := by
  funext x
  rcases lt_or_ge x a with h | h
  · rw [overlay_of_lt h, writeLE, if_neg (by omega)]
  rcases lt_or_ge x (a + w) with hw | hw
  · rw [writeLE, if_pos ⟨h, hw⟩, overlay, if_pos h, field, getElem?_map, getElem?_range (by omega)]
    simp
  · rw [overlay_of_ge (by rwa [length_field]), writeLE, if_neg (by omega)]

theorem update_eq_overlay (v k : UInt8) : Function.update m a (v ||| (m a &&& k)) = overlay a [(v, k)] m := by
  funext x
  rcases lt_trichotomy x a with h | rfl | h
  · rw [overlay_of_lt h, Function.update_of_ne (by omega)]
  · simp [overlay]
  · rw [overlay_of_ge (by simpa using h), Function.update_of_ne (by omega)]

@[simp] theorem overlay_reserved (n : Nat) : overlay a (reserved n) m = m := by
  funext x
  unfold overlay reserved
  split_ifs with h
  · rw [getElem?_replicate]
    split_ifs
    · have hand : m x &&& 0xFF = m x := UInt8.toBitVec_inj.mp BitVec.and_allOnes
      simp [hand]
    · rfl
  · rfl

/-- No byte has a value in the bits that it leaves alone. -/
def Masked (l : List (UInt8 × UInt8)) : Prop := ∀ c ∈ l, c.1 &&& c.2 = 0

theorem masked_append : Masked (l ++ l') ↔ Masked l ∧ Masked l' := forall_mem_append

theorem masked_field (v w : Nat) : Masked (field v w) := by
  simp [Masked, field]

theorem masked_reserved (n : Nat) : Masked (reserved n) := by
  intro c hc
  rw [eq_of_mem_replicate hc]
  decide

/-! ## Reading back -/

theorem or_keep_eq_iff {v k o : UInt8} (h : v &&& k = 0) : v ||| (o &&& k) = v ↔ o &&& k = 0 := by
  constructor
  · intro heq
    have hdistrib : (v ||| (o &&& k)) &&& k = v &&& k ||| (o &&& k) &&& k :=
      UInt8.toBitVec_inj.mp (BitVec.and_or_distrib_right ..)
    rw [heq, h, UInt8.zero_or, UInt8.and_assoc, UInt8.and_self] at hdistrib
    exact hdistrib.symm
  · intro hzero
    rw [hzero, UInt8.or_zero]

/-- What is read back is what was meant exactly if the other bits were zero before. -/
theorem startsWith_overlay_iff (hl : Masked l) : StartsWith (overlay 0 l m) (l.map Prod.fst) ↔ Clean l m := by
  have hbyte : ∀ i c, l[i]? = some c → overlay 0 l m i = c.1 ||| (m i &&& c.2) := by
    intro i c hc
    unfold overlay
    rw [if_pos (Nat.zero_le i), Nat.sub_zero, hc]
    rfl
  constructor
  · intro h i c hc
    have hi := h i c.1 (by rw [getElem?_map, hc]; rfl)
    rw [hbyte i c hc] at hi
    exact (or_keep_eq_iff (hl c (mem_of_getElem? hc))).mp hi
  · intro h i b hb
    rw [getElem?_map, Option.map_eq_some_iff] at hb
    obtain ⟨c, hc, rfl⟩ := hb
    rw [hbyte i c hc]
    exact (or_keep_eq_iff (hl c (mem_of_getElem? hc))).mpr (h i c hc)

end OpenSil.Overlay
