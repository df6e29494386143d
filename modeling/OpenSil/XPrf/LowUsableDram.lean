import OpenSil.Lib.Loop
import OpenSil.Status

/-! # The top of low usable DRAM

`xPrfGetLowUsableDramAddress` takes the lowest base of the holes below 4 GB.
-/

open OpenSil.Loop Nat UInt64

namespace OpenSil.LowUsableDram

structure MemoryHoleDescriptor where
  base : UInt64
  size : UInt64

structure SystemMemoryMap where
  topOfSystemMemory : UInt64
  numberOfHoles : UInt32
  holeInfo : Nat → MemoryHoleDescriptor

def holeTurn (map : SystemMemoryMap) (s : UInt8 × UInt64) : Turn (UInt8 × UInt64) UInt64 :=
  if s.1.toUInt32 < map.numberOfHoles then
    let hole := map.holeInfo s.1.toNat
    .next (s.1 + 1,
      if hole.base < 4 * 0x40000000 ∧ 0 < hole.size then if hole.base < s.2 then hole.base else s.2 else s.2)
  else .done s.2

/-- `xPrfGetLowUsableDramAddress`, with the entry of the APOB or the status of a failed search; `none` if `fuel` turns are
not enough. -/
def xPrfGetLowUsableDramAddress (fuel : Nat) (apobEntry : Except SilStatus SystemMemoryMap) : Option UInt32 :=
  match apobEntry with
  | .error _ => some 0
  | .ok map =>
    if map.numberOfHoles = 0 then some 0
    else (run (holeTurn map) fuel (0, map.topOfSystemMemory)).map UInt64.toUInt32

/-! ## What the result is for -/

structure Usable (map : SystemMemoryMap) (r : Nat) : Prop where
  low : r ≤ min map.topOfSystemMemory.toNat (2 ^ 32)
  noHole : ∀ i < map.numberOfHoles.toNat, (map.holeInfo i).size ≠ 0 →
    ∀ a < r, ¬((map.holeInfo i).base.toNat ≤ a ∧ a < (map.holeInfo i).base.toNat + (map.holeInfo i).size.toNat)

def IsLowTop (map : SystemMemoryMap) (r : Nat) : Prop := Usable map r ∧ ∀ r' < 2 ^ 32, r < r' → ¬Usable map r'

def LowHole (map : SystemMemoryMap) (i : Nat) : Prop := (map.holeInfo i).base.toNat < 2 ^ 32 ∧ (map.holeInfo i).size ≠ 0

instance (map : SystemMemoryMap) (i : Nat) : Decidable (LowHole map i) := inferInstanceAs (Decidable (_ ∧ _))

variable {map : SystemMemoryMap}

theorem usable_iff {r : Nat} (hr : r < 2 ^ 32) :
    Usable map r ↔ r ≤ map.topOfSystemMemory.toNat ∧
      ∀ i < map.numberOfHoles.toNat, LowHole map i → r ≤ (map.holeInfo i).base.toNat := by
  constructor
  · rintro ⟨hlow, hno⟩
    refine ⟨hlow.trans (min_le_left _ _), fun i hi hhole => ?_⟩
    by_contra hlt
    -- The base of the hole is below `r`, and in the hole.
    have hsize : 0 < (map.holeInfo i).size.toNat := pos_of_ne_zero fun h0 => hhole.2 (UInt64.toNat_inj.mp h0)
    exact hno i hi hhole.2 _ (not_le.mp hlt) ⟨le_refl _, by omega⟩
  · rintro ⟨htop, hholes⟩
    refine ⟨le_min htop hr.le, fun i hi hsize a ha hin => ?_⟩
    by_cases hbase : (map.holeInfo i).base.toNat < 2 ^ 32
    · have := hholes i hi ⟨hbase, hsize⟩
      omega
    · omega

/-! ## The scan -/

theorem lowHole_iff (i : Nat) :
    (map.holeInfo i).base < 4 * 0x40000000 ∧ 0 < (map.holeInfo i).size ↔ LowHole map i := by
  rw [LowHole, UInt64.lt_iff_toNat_lt, UInt64.pos_iff_ne_zero]
  rfl

theorem holeTurn_next {k : UInt8} (hk : k.toNat < map.numberOfHoles.toNat) (v : UInt64) :
    holeTurn map (k, v) = .next (k + 1,
      if LowHole map k.toNat then if (map.holeInfo k.toNat).base < v then (map.holeInfo k.toNat).base else v else v) := by
  have hlt : k.toUInt32 < map.numberOfHoles := by
    rwa [UInt32.lt_iff_toNat_lt, UInt8.toNat_toUInt32]
  unfold holeTurn
  simp only [hlt, if_true, lowHole_iff]

theorem run_holeTurn (hn : map.numberOfHoles.toNat ≤ 255) (n k : Nat) (v : UInt64)
    (hk : k + n = map.numberOfHoles.toNat) :
    ∃ t, run (holeTurn map) (n + 1) (.ofNat k, v) = some t ∧ t.toNat ≤ v.toNat ∧
      (∀ i, k ≤ i → i < map.numberOfHoles.toNat → LowHole map i → t.toNat ≤ (map.holeInfo i).base.toNat) ∧
      (t = v ∨ ∃ i, i < map.numberOfHoles.toNat ∧ LowHole map i ∧ t = (map.holeInfo i).base) := by
  induction n generalizing k v with
  | zero =>
    have hturn : holeTurn map (.ofNat k, v) = .done v := by
      refine if_neg ?_
      dsimp only
      rw [UInt32.lt_iff_toNat_lt, UInt8.toNat_toUInt32, UInt8.toNat_ofNat', mod_eq_of_lt (by omega)]
      omega
    exact ⟨v, run_succ_done hturn, le_refl _, fun i hi hlt => absurd hlt (by omega), .inl rfl⟩
  | succ n ih =>
    have hidx : (UInt8.ofNat k).toNat = k := by rw [UInt8.toNat_ofNat', mod_eq_of_lt (by omega)]
    have hturn : holeTurn map (.ofNat k, v) = _ := holeTurn_next (by omega) v
    have hnext : UInt8.ofNat k + 1 = UInt8.ofNat (k + 1) := by simp
    rw [hidx, hnext] at hturn
    set w := if LowHole map k then if (map.holeInfo k).base < v then (map.holeInfo k).base else v else v with hw
    obtain ⟨t, hrun, hle, hall, hwhich⟩ := ih (k + 1) w (by omega)
    have hwv : w.toNat ≤ v.toNat ∧ (LowHole map k → w.toNat ≤ (map.holeInfo k).base.toNat) ∧
        (w = v ∨ LowHole map k ∧ w = (map.holeInfo k).base) := by
      simp only [hw, UInt64.lt_iff_toNat_lt]
      split_ifs with hlow hlt
      · exact ⟨hlt.le, fun _ => le_refl _, .inr ⟨hlow, rfl⟩⟩
      · exact ⟨le_refl _, fun _ => not_lt.mp hlt, .inl rfl⟩
      · exact ⟨le_refl _, fun h => absurd h hlow, .inl rfl⟩
    refine ⟨t, by rw [run_succ_next hturn, hrun], hle.trans hwv.1, fun i hi hlt hlow => ?_, ?_⟩
    · rcases eq_or_lt_of_le hi with rfl | hgt
      · exact hle.trans (hwv.2.1 hlow)
      · exact hall i hgt hlt hlow
    · rcases hwhich with rfl | hhole
      · exact hwv.2.2.imp_right fun h => ⟨k, by omega, h⟩
      · exact .inr hhole

theorem run_holeTurn_none (hn : 255 < map.numberOfHoles.toNat) (fuel : Nat) (s : UInt8 × UInt64) :
    run (holeTurn map) fuel s = none := by
  induction fuel generalizing s with
  | zero => rfl
  | succ fuel ih =>
    have hlt := s.1.toNat_lt
    rw [run_succ_next (holeTurn_next (k := s.1) (by omega) s.2), ih]

/-! ## Which maps get the right value -/

/-- The function ends, and with a hole its result is the largest usable address. -/
def EndsRight (map : SystemMemoryMap) : Prop :=
  ∃ fuel r, xPrfGetLowUsableDramAddress fuel (.ok map) = some r ∧ (map.numberOfHoles ≠ 0 → IsLowTop map r.toNat)

theorem isLowTop_of_min {t : Nat} (ht : t < 2 ^ 32) (htop : t ≤ map.topOfSystemMemory.toNat)
    (hall : ∀ i < map.numberOfHoles.toNat, LowHole map i → t ≤ (map.holeInfo i).base.toNat)
    (hwhich : t = map.topOfSystemMemory.toNat ∨
      ∃ i < map.numberOfHoles.toNat, LowHole map i ∧ t = (map.holeInfo i).base.toNat) : IsLowTop map t := by
  refine ⟨(usable_iff ht).mpr ⟨htop, hall⟩, fun r hr hlt husable => ?_⟩
  obtain ⟨hrtop, hrall⟩ := (usable_iff hr).mp husable
  rcases hwhich with h | ⟨i, hi, hlow, h⟩
  · omega
  · have := hrall i hi hlow
    omega

theorem isLowTop_iff_of_high (htop : 2 ^ 32 ≤ map.topOfSystemMemory.toNat)
    (hnone : ∀ i < map.numberOfHoles.toNat, ¬LowHole map i) {t : Nat} (ht : t < 2 ^ 32) :
    IsLowTop map t ↔ t = 2 ^ 32 - 1 := by
  have husable : ∀ r < 2 ^ 32, Usable map r := fun r hr =>
    (usable_iff hr).mpr ⟨by omega, fun i hi hlow => absurd hlow (hnone i hi)⟩
  constructor
  · rintro ⟨-, hmax⟩
    by_contra hne
    exact hmax (2 ^ 32 - 1) (by decide) (by omega) (husable _ (by decide))
  · rintro rfl
    exact ⟨husable _ (by decide), fun r hr hlt => by omega⟩

theorem endsRight_iff_of_returns (hholes : map.numberOfHoles ≠ 0) {t : UInt64}
    (h : Returns (holeTurn map) (0, map.topOfSystemMemory) t) : EndsRight map ↔ IsLowTop map (t.toNat % 2 ^ 32) := by
  constructor
  · rintro ⟨fuel, r, hr, hright⟩
    rw [xPrfGetLowUsableDramAddress, if_neg hholes] at hr
    obtain ⟨t', hrun, rfl⟩ := Option.map_eq_some_iff.mp hr
    obtain rfl : t = t' := h.unique ⟨fuel, hrun⟩
    rw [← toNat_toUInt32]
    exact hright hholes
  · intro hlow
    obtain ⟨fuel, hrun⟩ := h
    refine ⟨fuel, t.toUInt32, ?_, fun _ => ?_⟩
    · rw [xPrfGetLowUsableDramAddress, if_neg hholes, hrun]
      rfl
    · rwa [toNat_toUInt32]

/-- The result is right if and only if there are at most 255 holes, and with a hole at all one of them is below 4 GB, or
the memory ends below 4 GB, or the low half of the top happens to be the last address below 4 GB. -/
theorem xPrfGetLowUsableDramAddress_endsRight_iff (map : SystemMemoryMap) :
    EndsRight map ↔ map.numberOfHoles.toNat ≤ 255 ∧
      (map.numberOfHoles = 0 ∨ (∃ i < map.numberOfHoles.toNat, LowHole map i) ∨
        map.topOfSystemMemory.toNat < 2 ^ 32 ∨ map.topOfSystemMemory.toNat % 2 ^ 32 = 2 ^ 32 - 1) := by
  by_cases hzero : map.numberOfHoles = 0
  · have hends : EndsRight map := ⟨0, 0, if_pos hzero, fun h => absurd hzero h⟩
    have hnat : map.numberOfHoles.toNat = 0 := by
      rw [hzero]
      rfl
    exact iff_of_true hends ⟨by omega, .inl hzero⟩
  by_cases hmany : map.numberOfHoles.toNat ≤ 255
  · obtain ⟨t, hrun, hle, hall, hwhich⟩ := run_holeTurn hmany map.numberOfHoles.toNat 0 map.topOfSystemMemory (by omega)
    rw [endsRight_iff_of_returns hzero ⟨_, hrun⟩]
    simp only [hmany, true_and, hzero, false_or]
    replace hall := fun i => hall i (zero_le i)
    have hwhich' : t.toNat = map.topOfSystemMemory.toNat ∨
        ∃ i < map.numberOfHoles.toNat, LowHole map i ∧ t.toNat = (map.holeInfo i).base.toNat := by
      rcases hwhich with rfl | ⟨i, hi, hlow, rfl⟩
      · exact .inl rfl
      · exact .inr ⟨i, hi, hlow, rfl⟩
    by_cases hlt : t.toNat < 2 ^ 32
    · -- Nothing is cut off.
      rw [mod_eq_of_lt hlt]
      refine iff_of_true (isLowTop_of_min hlt hle hall hwhich') ?_
      rcases hwhich' with h | ⟨i, hi, hlow, -⟩
      · exact .inr (.inl (by omega))
      · exact .inl ⟨i, hi, hlow⟩
    · have hnone : ∀ i < map.numberOfHoles.toNat, ¬LowHole map i := by
        intro i hi hlow
        have h1 := hall i hi hlow
        have h2 := hlow.1
        omega
      have htop : t.toNat = map.topOfSystemMemory.toNat := hwhich'.resolve_right fun ⟨i, hi, hlow, _⟩ => hnone i hi hlow
      have hnoex : ¬∃ i < map.numberOfHoles.toNat, LowHole map i := fun ⟨i, hi, hlow⟩ => hnone i hi hlow
      rw [isLowTop_iff_of_high (by omega) hnone (mod_lt _ (by decide)), htop]
      simp only [hnoex, false_or, show ¬map.topOfSystemMemory.toNat < 2 ^ 32 by omega]
  · refine iff_of_false ?_ fun h => hmany h.1
    rintro ⟨fuel, r, hr, -⟩
    rw [xPrfGetLowUsableDramAddress, if_neg hzero, run_holeTurn_none (by omega)] at hr
    cases hr

def highHole : SystemMemoryMap := ⟨0x200000000, 1, fun _ => ⟨0x180000000, 0x10000⟩⟩

def manyHoles : SystemMemoryMap := ⟨0x200000000, 256, fun _ => ⟨0xC0000000, 0x10000⟩⟩

/-- Everything below 4 GB is usable and the result is 0. With 256 holes there is no result. -/
theorem xPrfGetLowUsableDramAddress_cuts_top :
    xPrfGetLowUsableDramAddress 2 (.ok highHole) = some 0 ∧ Usable highHole 0xFFFFFFFF ∧ ¬EndsRight highHole ∧
      ∀ fuel, xPrfGetLowUsableDramAddress fuel (.ok manyHoles) = none := by
  refine ⟨by decide, (usable_iff (by decide)).mpr ⟨by decide, by decide⟩, ?_, fun fuel => ?_⟩
  · have hreturns : Returns (holeTurn highHole) (0, highHole.topOfSystemMemory) 0x200000000 := ⟨2, by decide⟩
    rw [endsRight_iff_of_returns (by decide) hreturns,
      isLowTop_iff_of_high (by decide) (by decide) (mod_lt _ (by decide))]
    decide
  · rw [xPrfGetLowUsableDramAddress, if_neg (by decide), run_holeTurn_none (by decide)]
    rfl

end OpenSil.LowUsableDram
