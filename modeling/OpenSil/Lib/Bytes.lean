import Mathlib.Tactic

/-! # Byte memory

Memory is a byte for every address.
-/

namespace OpenSil.Bytes

open List Nat

abbrev Mem := Nat → UInt8

/-- The number in the `w` bytes at `a`. -/
def readLE (m : Mem) (a : Nat) : Nat → Nat
  | 0 => 0
  | w + 1 => (m a).toNat + 256 * readLE m (a + 1) w

/-- `m` after `v` is stored in the `w` bytes at `a`. -/
def writeLE (m : Mem) (a w v : Nat) : Mem :=
  fun x => if a ≤ x ∧ x < a + w then UInt8.ofNat (v / 256 ^ (x - a)) else m x

/-- `m` after the `n` bytes at `a` are set to `b`. -/
def fill (m : Mem) (a n : Nat) (b : UInt8) : Mem := fun x => if a ≤ x ∧ x < a + n then b else m x

/-- The two memories agree on the bytes from `lo` up to `hi`. -/
def AgreeOn (m m' : Mem) (lo hi : Nat) : Prop := ∀ x, lo ≤ x → x < hi → m x = m' x

variable {m m' : Mem}

theorem AgreeOn.mono {lo hi lo' hi' : Nat} (h : AgreeOn m m' lo hi) (hlo : lo ≤ lo') (hhi : hi' ≤ hi) :
    AgreeOn m m' lo' hi' := fun x h1 h2 => h x (hlo.trans h1) (h2.trans_le hhi)

theorem AgreeOn.trans {m'' : Mem} {lo hi : Nat} (h : AgreeOn m m' lo hi) (h' : AgreeOn m' m'' lo hi) :
    AgreeOn m m'' lo hi := fun x h1 h2 => (h x h1 h2).trans (h' x h1 h2)

theorem AgreeOn.readLE_eq {a w : Nat} (h : AgreeOn m m' a (a + w)) : readLE m a w = readLE m' a w := by
  induction w generalizing a with
  | zero => rfl
  | succ w ih =>
    rw [readLE, readLE, h a (by omega) (by omega), ih (h.mono (by omega) (by omega))]

theorem readLE_lt (m : Mem) (a w : Nat) : readLE m a w < 256 ^ w := by
  induction w generalizing a with
  | zero => simp [readLE]
  | succ w ih =>
    have hb := (m a).toNat_lt
    have hr := ih (a + 1)
    rw [readLE, pow_succ]
    omega

/-! ## Stores outside what is read -/

theorem agreeOn_writeLE {a w v lo hi : Nat} (h : hi ≤ a ∨ a + w ≤ lo) : AgreeOn (writeLE m a w v) m lo hi := by
  intro x h1 h2
  rw [writeLE, if_neg (by omega)]

theorem agreeOn_fill {a n lo hi : Nat} {b : UInt8} (h : hi ≤ a ∨ a + n ≤ lo) : AgreeOn (fill m a n b) m lo hi := by
  intro x h1 h2
  rw [fill, if_neg (by omega)]

theorem agreeOn_update {a lo hi : Nat} {b : UInt8} (h : a < lo ∨ hi ≤ a) :
    AgreeOn (Function.update m a b) m lo hi := by
  intro x h1 h2
  rw [Function.update_of_ne (by omega)]

theorem readLE_writeLE_of_disjoint {a w v b k : Nat} (h : b + k ≤ a ∨ a + w ≤ b) :
    readLE (writeLE m a w v) b k = readLE m b k := (agreeOn_writeLE h).readLE_eq

theorem readLE_fill_of_disjoint {a n b k : Nat} {c : UInt8} (h : b + k ≤ a ∨ a + n ≤ b) :
    readLE (fill m a n c) b k = readLE m b k := (agreeOn_fill h).readLE_eq

/-! ## Reading back what was stored -/

theorem readLE_of_bytes {a w v : Nat} (h : ∀ i, i < w → m (a + i) = UInt8.ofNat (v / 256 ^ i)) :
    readLE m a w = v % 256 ^ w := by
  induction w generalizing a v with
  | zero => simp [readLE, mod_one]
  | succ w ih =>
    have h0 : m a = UInt8.ofNat v := by simpa using h 0 (by omega)
    have hrest : readLE m (a + 1) w = v / 256 % 256 ^ w := by
      apply ih
      intro i hi
      rw [Nat.div_div_eq_div_mul, ← pow_succ', add_right_comm, Nat.add_assoc]
      exact h (i + 1) (by omega)
    rw [readLE, hrest, h0, pow_succ', mod_mul, UInt8.toNat_ofNat']

theorem readLE_writeLE (m : Mem) (a w v : Nat) : readLE (writeLE m a w v) a w = v % 256 ^ w := by
  apply readLE_of_bytes
  intro i hi
  rw [writeLE, if_pos (by omega), Nat.add_sub_cancel_left]

/-! ## A run of bytes -/

/-- The bytes of a number, the lowest first. -/
def leBytes (v w : Nat) : List UInt8 := (List.range w).map fun i => UInt8.ofNat (v / 256 ^ i)

/-- From `a` on memory holds these bytes. -/
def Holds (m : Mem) (a : Nat) (l : List UInt8) : Prop := ∀ i b, l[i]? = some b → m (a + i) = b

@[simp] theorem length_leBytes (v w : Nat) : (leBytes v w).length = w := by simp [leBytes]

theorem holds_append {a : Nat} {l l' : List UInt8} : Holds m a (l ++ l') ↔ Holds m a l ∧ Holds m (a + l.length) l' := by
  constructor
  · intro h
    constructor
    · intro i b hb
      have hi : i < l.length := (List.getElem?_eq_some_iff.mp hb).1
      exact h i b (by rwa [getElem?_append_left hi])
    · intro i b hb
      rw [Nat.add_assoc]
      exact h _ b (by rwa [List.getElem?_append_right (Nat.le_add_right _ _), Nat.add_sub_cancel_left])
  · rintro ⟨hl, hl'⟩ i b hb
    rcases lt_or_ge i l.length with hi | hi
    · exact hl i b (by rwa [getElem?_append_left hi] at hb)
    · rw [List.getElem?_append_right hi] at hb
      have hbyte := hl' _ b hb
      rwa [Nat.add_assoc, Nat.add_sub_cancel' hi] at hbyte

theorem readLE_of_holds {a v w : Nat} (h : Holds m a (leBytes v w)) : readLE m a w = v % 256 ^ w :=
  readLE_of_bytes fun i hi => h i _ (by simp [leBytes, getElem?_range hi])

/-- Memory with these bytes from 0 on. -/
def ofBytes (l : List UInt8) : Mem := fun x => l.getD x 0

theorem holds_ofBytes (l : List UInt8) : Holds (ofBytes l) 0 l := by
  intro i b hb
  rw [zero_add, ofBytes, getD_eq_getElem?_getD, hb]
  rfl

theorem leBytes_inj {v v' w : Nat} (hv : v < 256 ^ w) (hv' : v' < 256 ^ w) : leBytes v w = leBytes v' w ↔ v = v' := by
  refine ⟨fun h => ?_, fun h => by rw [h]⟩
  have hread := readLE_of_holds (holds_ofBytes (leBytes v w))
  have hread' := readLE_of_holds (holds_ofBytes (leBytes v' w))
  rw [h, hread', mod_eq_of_lt hv, mod_eq_of_lt hv'] at hread
  exact hread.symm

end OpenSil.Bytes
