import Mathlib.Tactic

/-! # Memory with machine addresses

Addresses have `w` bits and wrap around.
-/

namespace OpenSil.Memcpy

open List Option BitVec

variable {w : Nat}

abbrev Ram (w : Nat) := BitVec w → UInt8

/-- `m` after the bytes of `l` are stored from `a` on. -/
def copyTo (m : Ram w) (a : BitVec w) (l : List UInt8) : Ram w := fun x => (l[(x - a).toNat]?).getD (m x)

/-- The `n` bytes from `a` on. -/
def bytesAt (m : Ram w) (a : BitVec w) (n : Nat) : List UInt8 := (List.range n).map fun i => m (a + .ofNat w i)

/-- Stores one after the other. -/
def copyAll (m : Ram w) (stores : List (BitVec w × List UInt8)) : Ram w :=
  stores.foldl (fun m store => copyTo m store.1 store.2) m

variable {m m' : Ram w} {a base x : BitVec w} {l : List UInt8} {n off off' : Nat}

@[simp] theorem length_bytesAt : (bytesAt m a n).length = n := by simp [bytesAt]

theorem copyTo_of_le (h : l.length ≤ (x - a).toNat) : copyTo m a l x = m x := by
  rw [copyTo, List.getElem?_eq_none h, Option.getD_none]

theorem copyTo_bytesAt (x : BitVec w) : copyTo m' a (bytesAt m a n) x = if (x - a).toNat < n then m x else m' x := by
  split_ifs with hx
  · have hback : a + BitVec.ofNat w (x - a).toNat = x := by
      rw [BitVec.ofNat_toNat, BitVec.setWidth_eq, BitVec.add_comm, BitVec.sub_add_cancel]
    rw [copyTo, bytesAt, getElem?_map, getElem?_range hx, map_some, getD_some, hback]
  · exact copyTo_of_le (by simpa using hx)

/-! ## Offsets from a base -/

theorem sub_place : x - (base + .ofNat w off) = x - base - .ofNat w off := by
  rw [BitVec.sub_eq_add_neg, BitVec.neg_add, BitVec.sub_eq_add_neg, ← BitVec.add_assoc, ← BitVec.sub_eq_add_neg,
    ← sub_eq_add_neg]

theorem toNat_sub_place (hoff : off ≤ (x - base).toNat) : (x - (base + .ofNat w off)).toNat = (x - base).toNat - off := by
  have hlt := (x - base).isLt
  have hoff' : (BitVec.ofNat w off).toNat = off := by rw [BitVec.toNat_ofNat, Nat.mod_eq_of_lt (by omega)]
  rw [sub_place, toNat_sub_of_le (by rw [le_def, hoff']; exact hoff), hoff']

theorem toNat_sub_place_of_lt (hlt : (x - base).toNat < off) (hoff : off < 2 ^ w) :
    (x - (base + .ofNat w off)).toNat = 2 ^ w - off + (x - base).toNat := by
  rw [sub_place, toNat_sub, toNat_ofNat, Nat.mod_eq_of_lt hoff, Nat.mod_eq_of_lt (by omega)]

theorem toNat_place_sub {i : Nat} (h : off + i < 2 ^ w) : (base + .ofNat w off + .ofNat w i - base).toNat = off + i := by
  rw [BitVec.add_assoc, ← BitVec.ofNat_add, BitVec.add_comm, BitVec.add_sub_cancel, BitVec.toNat_ofNat, Nat.mod_eq_of_lt h]

/-- Stores inside `n` bytes leave all bytes outside as they are. -/
theorem copyAll_outside {stores : List (Nat × List UInt8)} (h : ∀ store ∈ stores, store.1 + store.2.length ≤ n)
    (hx : n ≤ (x - base).toNat) :
    copyAll m (stores.map fun store => (base + .ofNat w store.1, store.2)) x = m x := by
  unfold copyAll
  induction stores generalizing m with
  | nil => rfl
  | cons store stores ih =>
    have hfits := h store mem_cons_self
    rw [map_cons, foldl_cons, ih fun s hs => h s (mem_cons_of_mem store hs)]
    refine copyTo_of_le ?_
    rw [toNat_sub_place (by omega)]
    dsimp only
    omega

theorem bytesAt_copyTo_inside (hle : off ≤ off') (hin : off' + n ≤ off + l.length) (hfits : off + l.length ≤ 2 ^ w) :
    bytesAt (copyTo m (base + .ofNat w off) l) (base + .ofNat w off') n = (l.drop (off' - off)).take n := by
  apply ext_getElem?
  intro i
  unfold bytesAt
  rcases Nat.lt_or_ge i n with hi | hi
  · have hplace : (base + .ofNat w off' + .ofNat w i - base).toNat = off' + i := toNat_place_sub (by omega)
    have hindex : off' + i - off = off' - off + i := by omega
    rw [getElem?_map, getElem?_range hi, getElem?_take_of_lt hi, getElem?_drop, map_some,
      copyTo, toNat_sub_place (by omega), hplace, hindex, List.getElem?_eq_getElem (by omega), Option.getD_some]
  · rw [List.getElem?_eq_none (by simpa using hi), List.getElem?_eq_none (by simp; omega)]

theorem bytesAt_copyTo_apart (hapart : off' + n ≤ off ∨ off + l.length ≤ off') (hfits : off + l.length < 2 ^ w)
    (hfits' : off' + n ≤ 2 ^ w) :
    bytesAt (copyTo m (base + .ofNat w off) l) (base + .ofNat w off') n = bytesAt m (base + .ofNat w off') n := by
  unfold bytesAt
  refine map_congr_left fun i hi => copyTo_of_le ?_
  rw [mem_range] at hi
  have hplace : (base + .ofNat w off' + .ofNat w i - base).toNat = off' + i := toNat_place_sub (by omega)
  rcases hapart with hbefore | hbehind
  · rw [toNat_sub_place_of_lt (by omega) (by omega), hplace]
    omega
  · rw [toNat_sub_place (by omega), hplace]
    omega

/-- What is read back is what the last store to it has put there. -/
theorem bytesAt_copyAll {before after : List (Nat × List UInt8)} (hle : off ≤ off') (hin : off' + n ≤ off + l.length)
    (hfits : off + l.length ≤ 2 ^ w)
    (hafter : ∀ store ∈ after, (off' + n ≤ store.1 ∨ store.1 + store.2.length ≤ off') ∧
      store.1 + store.2.length < 2 ^ w) :
    bytesAt (copyAll m ((before ++ (off, l) :: after).map fun store => (base + .ofNat w store.1, store.2)))
      (base + .ofNat w off') n = (l.drop (off' - off)).take n := by
  rw [map_append, map_cons, copyAll, foldl_append, foldl_cons]
  generalize foldl _ m _ = m₁
  have hinside : bytesAt (copyTo m₁ (base + .ofNat w off) l) (base + .ofNat w off') n = (l.drop (off' - off)).take n :=
    bytesAt_copyTo_inside hle hin hfits
  rw [← hinside]
  generalize copyTo m₁ (base + .ofNat w off) l = m₂
  induction after generalizing m₂ with
  | nil => rfl
  | cons store after ih =>
    obtain ⟨hapart, hstore⟩ := hafter store mem_cons_self
    rw [map_cons, foldl_cons, ih fun s hs => hafter s (mem_cons_of_mem store hs)]
    exact bytesAt_copyTo_apart hapart hstore (by omega)

end OpenSil.Memcpy
