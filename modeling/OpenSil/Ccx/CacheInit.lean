import OpenSil.CommonLib.Utils
import OpenSil.Lib.BitField
import OpenSil.Lib.Dyadic
import OpenSil.Lib.Pack
import OpenSil.Msr
import OpenSil.Status

/-! # Variable MTRRs

`InitializeVariableMtrrs` makes the memory up to the top write-back, by pairs of a base and a mask.
-/

open OpenSil.Loop OpenSil.Utils OpenSil.Dyadic OpenSil.Tiling OpenSil.Pack List Function Nat Option BitVec

namespace OpenSil.CacheInit

def mtrrVariableBase0 : BitVec 32 := 0x200

def cacheWriteBack : BitVec 32 := 6

structure MtrrState where
  curBase : BitVec 32
  curLimit : BitVec 32
  curAddr : BitVec 32
  msrs : Msrs

def bitAt (pos : Int) : BitVec 32 := 1 <<< (if pos = -1 then 31 else pos.toNat)

def nextRange (cache32bTOP curBase : BitVec 32) : Option (BitVec 32 × BitVec 32) := do
  let curSize := bitAt (← xUslLowBitSet32 curBase)
  let curLimit := curSize + curBase
  if curBase = 0 ∨ cache32bTOP < curLimit then
    let curSize := bitAt (← xUslHighBitSet32 (cache32bTOP - curBase))
    return (curSize, curSize + curBase)
  else return (curSize, curLimit)

def baseMsr (curBase : BitVec 32) : BitVec 64 := (curBase <<< 16 ||| cacheWriteBack).setWidth 64

def maskMsr (curSize : BitVec 32) : BitVec 64 :=
  0xFFFF00000000 ||| ((~~~(curSize - 1)) <<< 16).setWidth 64 ||| ((1 : BitVec 32) <<< 11).setWidth 64

def mtrrTurn (cache32bTOP : BitVec 32) (s : MtrrState) : Turn MtrrState (Option MtrrState) :=
  if 0x200 ≤ s.curAddr ∧ s.curAddr < 0x20E ∧ s.curBase < cache32bTOP then
    match nextRange cache32bTOP s.curBase with
    | none => .done none
    | some (curSize, curLimit) => .next
        { curBase := curLimit
          curLimit := curLimit
          curAddr := s.curAddr + 1 + 1
          msrs := xUslWrMsr (xUslWrMsr s.msrs s.curAddr (baseMsr s.curBase)) (s.curAddr + 1) (maskMsr curSize) }
  else .done (some s)

def clearTurn (s : BitVec 32 × Msrs) : Turn (BitVec 32 × Msrs) Msrs :=
  if 0x200 ≤ s.1 ∧ s.1 ≤ 0x20F then
    if s.1 % 2 = 0 then .next (s.1 + 2, xUslWrMsr (xUslWrMsr s.2 (s.1 + 1) 0) s.1 0)
    else .next (s.1 + 1, s.2)
  else .done s.2

/-- `InitializeVariableMtrrs`; `none` if one of its loops does not end. -/
def initializeVariableMtrrs (msrs : Msrs) : Option (SilStatus × Msrs) := do
  let cache32bTOP := ((msrs Msr.tom >>> 16) &&& 0xFFFFFFFF).setWidth 32
  let s ← (run (mtrrTurn cache32bTOP) 8 ⟨0, cache32bTOP, mtrrVariableBase0, msrs⟩).join
  if s.curLimit < cache32bTOP then return (.silOutOfResources, s.msrs)
  else return (.silPass, ← run clearTurn 17 (s.curAddr, s.msrs))

/-! ## The next range -/

theorem bitAt_natCast (k : Nat) : bitAt (k : Int) = .ofNat 32 (2 ^ k) := by
  have hne : (k : Int) ≠ -1 := by omega
  apply BitVec.eq_of_toNat_eq
  simp [bitAt, hne, Nat.shiftLeft_eq]

section
variable {top : BitVec 32} {ps : List (BitVec 64 × BitVec 64)}

theorem nextRange_eq {top base : BitVec 32} {rest : Nat} (htop : top.toNat < 2 ^ 16)
    (hsum : base.toNat + rest = top.toNat) (hrest : rest ≠ 0) (hfits : Fits base.toNat rest) :
    nextRange top base = some (.ofNat 32 (2 ^ rest.log2), .ofNat 32 (base.toNat + 2 ^ rest.log2)) := by
  have hsub : (top - base).toNat = rest := by
    rw [toNat_sub_of_le (le_def.mpr (by omega))]
    omega
  have hne : top - base ≠ 0 := fun h0 => hrest (by rw [← hsub, h0]; rfl)
  have hlimit : BitVec.ofNat 32 (2 ^ rest.log2) + base = .ofNat 32 (base.toNat + 2 ^ rest.log2) := by
    rw [add_comm, ofNat_add, ofNat_toNat, setWidth_eq]
  unfold nextRange
  rw [xUslHighBitSet32_eq hne, hsub]
  by_cases hzero : base = 0
  · subst hzero
    simp [xUslLowBitSet32, bitAt_natCast]
  · obtain ⟨k, hlow, hbit⟩ := xUslLowBitSet32_spec hzero
    have hover : top < BitVec.ofNat 32 (2 ^ k) + base := by
      -- The lowest bit of the base is above what is left.
      obtain ⟨m, hlt, q, hq⟩ := hfits
      have hmk : m ≤ k := by
        by_contra hkm
        rw [hq, testBit_two_pow_mul] at hbit
        simp [hkm] at hbit
      have hpow : 2 ^ m ≤ 2 ^ k := Nat.pow_le_pow_right (by decide) hmk
      have hle : 2 ^ k ≤ base.toNat := ge_two_pow_of_testBit hbit
      rw [lt_def, toNat_add, toNat_ofNat, mod_eq_of_lt (show 2 ^ k < 2 ^ 32 by omega),
        mod_eq_of_lt (by omega)]
      omega
    simp only [hlow, bitAt_natCast, hover, or_true, if_true, bind_eq_bind, bind_some, hlimit,
      Option.pure_def]

/-! ## The loops -/

def writePairs : Nat → List (BitVec 64 × BitVec 64) → Msrs → Msrs
  | _, [], msrs => msrs
  | addr, p :: ps, msrs =>
    writePairs (addr + 2) ps (xUslWrMsr (xUslWrMsr msrs (.ofNat 32 addr) p.1) (.ofNat 32 (addr + 1)) p.2)

def pairOf (p : Nat × Nat) : BitVec 64 × BitVec 64 := (baseMsr (.ofNat 32 p.1), maskMsr (.ofNat 32 (2 ^ p.2)))

theorem writePairs_append (addr : Nat) (ps qs : List (BitVec 64 × BitVec 64)) (msrs : Msrs) :
    writePairs addr (ps ++ qs) msrs = writePairs (addr + 2 * ps.length) qs (writePairs addr ps msrs) := by
  induction ps generalizing addr msrs with
  | nil => rfl
  | cons p ps ih =>
    rw [List.cons_append, writePairs, writePairs, ih, List.length_cons, Nat.mul_add, Nat.mul_one, Nat.add_assoc addr,
      add_comm 2]

theorem ofNat_ne {a b : Nat} (ha : a < 2 ^ 32) (hb : b < 2 ^ 32) (h : a ≠ b) : BitVec.ofNat 32 a ≠ BitVec.ofNat 32 b := by
  intro heq
  have := congrArg BitVec.toNat heq
  rw [toNat_ofNat, toNat_ofNat, mod_eq_of_lt ha, mod_eq_of_lt hb] at this
  exact h this

theorem writePairs_of_lt {addr a : Nat} (ps : List (BitVec 64 × BitVec 64)) (msrs : Msrs) (ha : a < addr)
    (hfit : addr + 2 * ps.length < 2 ^ 32) : writePairs addr ps msrs (.ofNat 32 a) = msrs (.ofNat 32 a) := by
  induction ps generalizing addr msrs with
  | nil => rfl
  | cons p ps ih =>
    rw [List.length_cons] at hfit
    rw [writePairs, ih _ (by omega) (by omega), xUslWrMsr, update_of_ne (ofNat_ne (by omega) (by omega) (by omega)),
      xUslWrMsr, update_of_ne (ofNat_ne (by omega) (by omega) (by omega))]

theorem writePairs_getElem {addr : Nat} {i : Nat} {p : BitVec 64 × BitVec 64} (hp : ps[i]? = some p)
    (hfit : addr + 2 * ps.length < 2 ^ 32) (msrs : Msrs) :
    writePairs addr ps msrs (.ofNat 32 (addr + 2 * i)) = p.1 ∧
      writePairs addr ps msrs (.ofNat 32 (addr + 2 * i + 1)) = p.2 := by
  induction ps generalizing addr i msrs with
  | nil => cases hp
  | cons q ps ih =>
    rw [List.length_cons] at hfit
    cases i with
    | zero =>
      obtain rfl : q = p := by simpa using hp
      rw [writePairs, writePairs_of_lt _ _ (by omega) (by omega), writePairs_of_lt _ _ (by omega) (by omega)]
      refine ⟨?_, update_self ..⟩
      rw [xUslWrMsr, update_of_ne (ofNat_ne (by omega) (by omega) (by omega))]
      exact update_self ..
    | succ i =>
      rw [writePairs, show addr + 2 * (i + 1) = addr + 2 + 2 * i by omega]
      exact ih hp (by omega) _

theorem toNat_ofNat32 {a : Nat} (h : a < 2 ^ 32) : (BitVec.ofNat 32 a).toNat = a := by
  rw [toNat_ofNat, mod_eq_of_lt h]

theorem mtrrTurn_next (htop : top.toNat < 2 ^ 16) {a base rest : Nat} (hlo : 0x200 ≤ a) (hhi : a < 0x20E)
    (hsum : base + rest = top.toNat) (hrest : rest ≠ 0) (hfits : Fits base rest) (limit : BitVec 32) (msrs : Msrs) :
    mtrrTurn top ⟨.ofNat 32 base, limit, .ofNat 32 a, msrs⟩ = .next
      { curBase := .ofNat 32 (base + 2 ^ rest.log2)
        curLimit := .ofNat 32 (base + 2 ^ rest.log2)
        curAddr := .ofNat 32 (a + 2)
        msrs := xUslWrMsr (xUslWrMsr msrs (.ofNat 32 a) (pairOf (base, rest.log2)).1) (.ofNat 32 (a + 1))
          (pairOf (base, rest.log2)).2 } := by
  have hbase : (BitVec.ofNat 32 base).toNat = base := toNat_ofNat32 (by omega)
  have hin : (0x200 : BitVec 32) ≤ .ofNat 32 a ∧ .ofNat 32 a < (0x20E : BitVec 32) ∧ .ofNat 32 base < top := by
    simp only [le_def, lt_def, toNat_ofNat32 (show a < 2 ^ 32 by omega), hbase]
    exact ⟨hlo, hhi, by omega⟩
  have hrange : nextRange top (.ofNat 32 base) = _ := nextRange_eq htop (by rw [hbase, hsum]) hrest (by rwa [hbase])
  rw [hbase] at hrange
  unfold mtrrTurn
  simp only [if_pos hin, hrange, BitVec.ofNat_add, BitVec.add_assoc]
  rfl

theorem mtrrTurn_done {s : MtrrState} (h : top ≤ s.curBase ∨ 0x20E ≤ s.curAddr) :
    mtrrTurn top s = .done (some s) := by
  refine if_neg ?_
  rintro ⟨-, haddr, hbase⟩
  rcases h with h | h
  · exact absurd hbase (BitVec.not_lt.mpr h)
  · exact absurd haddr (BitVec.not_lt.mpr h)

theorem run_mtrrTurn (htop : top.toNat < 2 ^ 16) (n base rest : Nat) (limit : BitVec 32) (msrs : Msrs)
    (hsum : base + rest = top.toNat) (hfits : Fits base rest) (hn : n ≤ 7)
    (hlimit : limit = .ofNat 32 base ∨ 0 < n ∧ rest ≠ 0) :
    run (mtrrTurn top) (n + 1) ⟨.ofNat 32 base, limit, .ofNat 32 (0x20E - 2 * n), msrs⟩ = some (some
      { curBase := .ofNat 32 (top.toNat - left n rest)
        curLimit := .ofNat 32 (top.toNat - left n rest)
        curAddr := .ofNat 32 (0x20E - 2 * n + 2 * (pieces n base rest).length)
        msrs := writePairs (0x20E - 2 * n) ((pieces n base rest).map pairOf) msrs }) := by
  induction n generalizing base rest limit msrs with
  | zero =>
    obtain rfl : limit = .ofNat 32 base := hlimit.resolve_right (by simp)
    rw [run_succ_done (mtrrTurn_done (.inr (BitVec.le_refl _)))]
    simp [pieces, left, writePairs, show top.toNat - rest = base by omega]
  | succ n ih =>
    by_cases hrest : rest = 0
    · obtain rfl : limit = .ofNat 32 base := hlimit.resolve_right (by simp [hrest])
      have hbase : base = top.toNat := by omega
      have hdone : top ≤ BitVec.ofNat 32 base := by
        rw [le_def, toNat_ofNat32 (by omega), hbase]
      rw [run_succ_done (mtrrTurn_done (.inl hdone))]
      simp [pieces, left, writePairs, hrest, hbase]
    · have hsize := two_pow_log2_le hrest
      have haddr : 0x20E - 2 * (n + 1) + 2 = 0x20E - 2 * n := by omega
      rw [run_succ_next (mtrrTurn_next htop (by omega) (by omega) hsum hrest hfits limit msrs), haddr,
        ih _ _ _ _ (by omega) (hfits.step hrest) (by omega) (.inl rfl)]
      simp only [pieces, left, if_neg hrest, length_cons, map_cons, writePairs, haddr,
        show 0x20E - 2 * (n + 1) + 2 * ((pieces n (base + 2 ^ rest.log2) (rest - 2 ^ rest.log2)).length + 1) =
          0x20E - 2 * n + 2 * (pieces n (base + 2 ^ rest.log2) (rest - 2 ^ rest.log2)).length by omega]

theorem clearTurn_even {a : Nat} (hlo : 0x200 ≤ a) (hhi : a ≤ 0x20F) (heven : a % 2 = 0) (msrs : Msrs) :
    clearTurn (.ofNat 32 a, msrs) =
      .next (.ofNat 32 (a + 2), xUslWrMsr (xUslWrMsr msrs (.ofNat 32 a) 0) (.ofNat 32 (a + 1)) 0) := by
  have hin : (0x200 : BitVec 32) ≤ .ofNat 32 a ∧ .ofNat 32 a ≤ (0x20F : BitVec 32) := by
    simp only [le_def, toNat_ofNat, mod_eq_of_lt (show a < 2 ^ 32 by omega)]
    exact ⟨hlo, hhi⟩
  have hmod : BitVec.ofNat 32 a % 2 = 0 := by
    apply eq_of_toNat_eq
    rw [toNat_umod, toNat_ofNat, mod_eq_of_lt (show a < 2 ^ 32 by omega)]
    exact heven
  have hne : BitVec.ofNat 32 a ≠ .ofNat 32 (a + 1) := ofNat_ne (by omega) (by omega) (by omega)
  unfold clearTurn xUslWrMsr
  rw [if_pos hin, if_pos hmod, update_comm hne, ofNat_add, ofNat_add]
  rfl

theorem run_clearTurn (n : Nat) (msrs : Msrs) (hn : n ≤ 8) :
    run clearTurn (n + 1) (.ofNat 32 (0x210 - 2 * n), msrs) =
      some (writePairs (0x210 - 2 * n) (replicate n (0, 0)) msrs) := by
  induction n generalizing msrs with
  | zero => rfl
  | succ n ih =>
    have haddr : 0x210 - 2 * (n + 1) + 2 = 0x210 - 2 * n := by omega
    rw [run_succ_next (clearTurn_even (by omega) (by omega) (by omega) msrs), haddr, ih _ (by omega), List.replicate_succ,
      writePairs, haddr]

theorem initializeVariableMtrrs_eq {msrs : Msrs} {top : Nat} (htom : (msrs Msr.tom).toNat < 2 ^ 32)
    (htop : top = (msrs Msr.tom).toNat / 2 ^ 16) :
    initializeVariableMtrrs msrs =
      if ones top ≤ 7 then
        some (.silPass,
          writePairs 0x200 ((pieces 7 0 top).map pairOf ++ replicate (8 - ones top) (0, 0)) msrs)
      else some (.silOutOfResources, writePairs 0x200 ((pieces 7 0 top).map pairOf) msrs) := by
  obtain ⟨cache32bTOP, hcache⟩ : ∃ x, x = ((msrs Msr.tom >>> 16) &&& 0xFFFFFFFF).setWidth 32 := ⟨_, rfl⟩
  have hnat : cache32bTOP.toNat = top := by
    rw [hcache, toNat_setWidth, toNat_and, toNat_ushiftRight, shiftRight_eq_div_pow]
    change ((msrs Msr.tom).toNat / 2 ^ 16 &&& (2 ^ 32 - 1)) % 2 ^ 32 = top
    rw [and_two_pow_sub_one_eq_mod]
    omega
  have hlt : cache32bTOP.toNat < 2 ^ 16 := by omega
  have hlimit : cache32bTOP = .ofNat 32 0 ∨ 0 < 7 ∧ top ≠ 0 := by
    by_cases h0 : top = 0
    · exact .inl (eq_of_toNat_eq (by rw [hnat, h0]; rfl))
    · exact .inr ⟨by decide, h0⟩
  have hrun := run_mtrrTurn hlt 7 0 top cache32bTOP msrs (by omega) (fits_zero _) (le_refl _) hlimit
  have hleft := left_le 7 top
  have hshort : BitVec.ofNat 32 (cache32bTOP.toNat - left 7 top) < cache32bTOP ↔ ¬ones top ≤ 7 := by
    rw [lt_def, toNat_ofNat32 (by omega), ← left_eq_zero_iff]
    omega
  unfold initializeVariableMtrrs
  rw [← hcache]
  change (do
    let s ← (run (mtrrTurn cache32bTOP) (7 + 1) ⟨.ofNat 32 0, cache32bTOP, .ofNat 32 (0x20E - 2 * 7), msrs⟩).join
    if s.curLimit < cache32bTOP then return (.silOutOfResources, s.msrs)
      else return (.silPass, ← run clearTurn 17 (s.curAddr, s.msrs)) : Option (SilStatus × Msrs)) = _
  rw [hrun]
  simp only [join_some, bind_eq_bind, bind_some, hshort]
  by_cases hones : ones top ≤ 7
  · have hlen : (pieces 7 0 top).length = ones top := by
      rw [length_pieces, min_eq_right hones]
    have haddr : 0x20E - 2 * 7 + 2 * (pieces 7 0 top).length = 0x210 - 2 * (8 - ones top) := by omega
    have hclear := run_some_mono (run_clearTurn (8 - ones top)
      (writePairs (0x20E - 2 * 7) ((pieces 7 0 top).map pairOf) msrs) (by omega)) (8 + ones top)
    rw [show 8 - ones top + 1 + (8 + ones top) = 17 by omega] at hclear
    rw [if_neg (not_not.mpr hones), if_pos hones, haddr, hclear, writePairs_append, List.length_map, ← haddr]
    rfl
  · rw [if_pos hones, if_neg hones]
    rfl

/-! ## The memory that a pair covers -/

def physBits (v : BitVec 64) : BitVec 48 := v.setWidth 48 &&& 0xFFFFFFFFF000

def Decodes (p : BitVec 64 × BitVec 64) (a : BitVec 48) : Prop :=
  p.2.getLsbD 11 = true ∧ a &&& physBits p.2 = physBits p.1 &&& physBits p.2

def WriteBack (p : BitVec 64 × BitVec 64) : Prop := p.1.setWidth 8 = cacheWriteBack.setWidth 8

theorem toNat_baseMsr {b : Nat} (h : b < 2 ^ 16) : (baseMsr (.ofNat 32 b)).toNat = b * 2 ^ 16 + 6 := by
  have hshift : (BitVec.ofNat 32 b <<< 16).toNat = b <<< 16 := by
    rw [toNat_shiftLeft, toNat_ofNat32 (by omega), mod_eq_of_lt]
    rw [Nat.shiftLeft_eq]
    omega
  rw [baseMsr, toNat_setWidth, toNat_or, hshift]
  change (b <<< 16 ||| 6) % 2 ^ 64 = _
  rw [shiftLeft_or (by decide), mod_eq_of_lt (by omega)]

theorem toNat_physBits (v : BitVec 64) : (physBits v).toNat = v.toNat % 2 ^ 48 / 2 ^ 12 * 2 ^ 12 := by
  have hones : (0xFFFFFFFFF000 : BitVec 48).toNat = 2 ^ 48 - 2 ^ 12 := by decide
  rw [physBits, BitField.toNat_and_ones _ hones (by decide), toNat_setWidth, mod_mod]

theorem toNat_physBits_maskMsr {k : Nat} (h : k < 16) :
    (physBits (maskMsr (.ofNat 32 (2 ^ k)))).toNat = 2 ^ 48 - 2 ^ (16 + k) := by
  interval_cases k <;> decide

theorem getLsbD_maskMsr {k : Nat} (h : k < 16) : (maskMsr (.ofNat 32 (2 ^ k))).getLsbD 11 = true := by
  interval_cases k <;> decide

theorem decodes_pairOf {b k : Nat} (hk : k < 16) (hb : b + 2 ^ k ≤ 2 ^ 16) (hdvd : 2 ^ k ∣ b) (a : BitVec 48) :
    Decodes (pairOf (b, k)) a ↔ b * 2 ^ 16 ≤ a.toNat ∧ a.toNat < (b + 2 ^ k) * 2 ^ 16 := by
  have hpos : 0 < 2 ^ k := Nat.two_pow_pos k
  have hmask : ∀ v : BitVec 48, (v &&& physBits (maskMsr (.ofNat 32 (2 ^ k)))).toNat =
      v.toNat / 2 ^ (16 + k) * 2 ^ (16 + k) := by
    intro v
    rw [BitField.toNat_and_ones v (toNat_physBits_maskMsr hk) (by omega), mod_eq_of_lt v.isLt]
  have hbase : (physBits (baseMsr (.ofNat 32 b))).toNat = b * 2 ^ 16 := by
    rw [toNat_physBits, toNat_baseMsr (by omega)]
    omega
  obtain ⟨q, rfl⟩ := hdvd
  have hq : 2 ^ k * q * 2 ^ 16 = q * 2 ^ (16 + k) := by
    rw [pow_add]
    ring
  have hend : (2 ^ k * q + 2 ^ k) * 2 ^ 16 = (q + 1) * 2 ^ (16 + k) := by
    rw [pow_add]
    ring
  have hsize : 0 < 2 ^ (16 + k) := Nat.two_pow_pos _
  unfold Decodes pairOf
  simp only [getLsbD_maskMsr hk, true_and]
  rw [← BitVec.toNat_inj, hmask, hmask, hbase, hq, Nat.mul_div_cancel _ hsize, hend, ← Nat.le_div_iff_mul_le hsize,
    ← Nat.div_lt_iff_lt_mul hsize, Nat.mul_left_inj hsize.ne']
  omega

theorem writeBack_pairOf {b k : Nat} (h : b < 2 ^ 16) : WriteBack (pairOf (b, k)) := by
  apply eq_of_toNat_eq
  rw [pairOf, toNat_setWidth, toNat_baseMsr h]
  change (b * 2 ^ 16 + 6) % 2 ^ 8 = 6
  omega

/-! ## The cover -/

def pairAt (msrs : Msrs) (i : Nat) : BitVec 64 × BitVec 64 :=
  (msrs (.ofNat 32 (0x200 + 2 * i)), msrs (.ofNat 32 (0x200 + 2 * i + 1)))

/-- The first `n` pairs cover the memory below `top`, with aligned ranges that do not meet. -/
structure Covers (msrs : Msrs) (n top : Nat) : Prop where
  writeBack : ∀ i < n, WriteBack (pairAt msrs i)
  aligned : ∀ i < n, ∃ base k, 2 ^ k ∣ base ∧
    ∀ a, Decodes (pairAt msrs i) a ↔ base ≤ a.toNat ∧ a.toNat < base + 2 ^ k
  disjoint : ∀ i < n, ∀ j < n, i ≠ j → ∀ a, ¬(Decodes (pairAt msrs i) a ∧ Decodes (pairAt msrs j) a)
  union : ∀ a, (∃ i < n, Decodes (pairAt msrs i) a) ↔ a.toNat < top
  rest : ∀ i, n ≤ i → i < 8 → pairAt msrs i = (0, 0)

theorem pairAt_writePairs (hlen : ps.length ≤ 8) {i : Nat} (hi : i < ps.length) (msrs : Msrs) :
    pairAt (writePairs 0x200 ps msrs) i = ps[i] := by
  obtain ⟨h1, h2⟩ := writePairs_getElem (getElem?_eq_getElem hi) (show 0x200 + 2 * ps.length < 2 ^ 32 by omega) msrs
  exact Prod.ext h1 h2

theorem covers_of_tiles {msrs : Msrs} {ps : List (Nat × Nat)} {top : Nat} (htop : top < 2 ^ 16)
    (htiles : Tiles Prod.fst (fun p : Nat × Nat => 2 ^ p.2) 0 ps top) (hdvd : ∀ p ∈ ps, 2 ^ p.2 ∣ p.1)
    (hpair : ∀ (i : Nat) (hi : i < ps.length), pairAt msrs i = pairOf ps[i])
    (hrest : ∀ i, ps.length ≤ i → i < 8 → pairAt msrs i = (0, 0)) : Covers msrs ps.length (top * 2 ^ 16) := by
  have hpiece : ∀ p ∈ ps, p.2 < 16 ∧ p.1 + 2 ^ p.2 ≤ 2 ^ 16 := by
    intro p hp
    have hle := (htiles.bounds_of_mem hp).2
    have hpow : 2 ^ p.2 < 2 ^ 16 := by omega
    exact ⟨(Nat.pow_lt_pow_iff_right (by decide)).mp hpow, by omega⟩
  have hdecodes : ∀ (i : Nat) (hi : i < ps.length) (a : BitVec 48), Decodes (pairAt msrs i) a ↔
      ps[i].1 ≤ a.toNat / 2 ^ 16 ∧ a.toNat / 2 ^ 16 < ps[i].1 + 2 ^ ps[i].2 := by
    intro i hi a
    have hmem := getElem_mem hi
    have hsize : 0 < 2 ^ 16 := by decide
    rw [hpair i hi, decodes_pairOf (hpiece _ hmem).1 (hpiece _ hmem).2 (hdvd _ hmem), le_div_iff_mul_le hsize,
      div_lt_iff_lt_mul hsize]
  refine ⟨fun i hi => ?_, fun i hi => ?_, fun i hi j hj hne a => ?_, fun a => ?_, hrest⟩
  · have hle := (hpiece _ (getElem_mem hi)).2
    have hlt : ps[i].1 < 2 ^ 16 := lt_of_lt_of_le (Nat.lt_add_of_pos_right (Nat.two_pow_pos _)) hle
    rw [hpair i hi]
    exact writeBack_pairOf hlt
  · have hmem := getElem_mem hi
    refine ⟨ps[i].1 * 2 ^ 16, ps[i].2 + 16, ?_, fun a => ?_⟩
    · rw [pow_add]
      exact mul_dvd_mul_right (hdvd _ hmem) _
    · grind
  · rw [hdecodes i hi, hdecodes j hj]
    have hapart := pairwise_iff_getElem.mp htiles.pairwise
    rcases lt_or_gt_of_ne hne with hij | hij
    · have := hapart i j hi hj hij
      omega
    · have := hapart j i hj hi hij
      omega
  · rw [← div_lt_iff_lt_mul (by decide)]
    constructor
    · rintro ⟨i, hi, hdec⟩
      rw [hdecodes i hi] at hdec
      have := (htiles.bounds_of_mem (getElem_mem hi)).2
      omega
    · intro hlt
      obtain ⟨p, hp, hrange⟩ := htiles.covers (zero_le _) hlt
      obtain ⟨i, hi, rfl⟩ := getElem_of_mem hp
      exact ⟨i, hi, (hdecodes i hi a).mpr hrange⟩

theorem covers_pieces {top : Nat} (htop : top < 2 ^ 16) (hones : ones top ≤ 7) (msrs : Msrs) :
    Covers (writePairs 0x200 ((pieces 7 0 top).map pairOf ++ replicate (8 - ones top) (0, 0)) msrs)
      (pieces 7 0 top).length (top * 2 ^ 16) := by
  have htiles := tiles_pieces 7 0 top
  rw [(left_eq_zero_iff 7 top).mpr hones, Nat.zero_add, Nat.sub_zero] at htiles
  have hlen : (pieces 7 0 top).length = ones top := by rw [length_pieces, min_eq_right hones]
  have hall : ((pieces 7 0 top).map pairOf ++ replicate (8 - ones top) (0, 0)).length = 8 := by
    rw [length_append, length_map, length_replicate, hlen]
    omega
  refine covers_of_tiles htop htiles (fun p hp => dvd_of_mem_pieces (fits_zero _) hp) (fun i hi => ?_) fun i hle hi => ?_
  · rw [pairAt_writePairs hall.le (by omega), getElem_append_left (by rwa [length_map]), getElem_map]
  · rw [pairAt_writePairs hall.le (by omega), List.getElem_append_right (by rwa [List.length_map]), List.getElem_replicate]

end

/-- For every top of memory below 4 GB the function ends. It passes if and only if bits 31:16 have at most seven ones,
and then the write-back ranges are exactly the memory below the top, rounded down to 64 KB. -/
theorem initializeVariableMtrrs_covers (msrs : Msrs) (htom : (msrs Msr.tom).toNat < 2 ^ 32) :
    let count := (List.range 16).countP fun i => (msrs Msr.tom).getLsbD (16 + i)
    ∃ status msrs', initializeVariableMtrrs msrs = some (status, msrs') ∧ (status = .silPass ↔ count ≤ 7) ∧
      (count ≤ 7 → ∃ n ≤ 7, Covers msrs' n ((msrs Msr.tom).toNat / 2 ^ 16 * 2 ^ 16)) ∧
      (7 < count → status = .silOutOfResources) := by
  intro count
  have hcount : count = ones ((msrs Msr.tom).toNat / 2 ^ 16) := by
    have hbits : (fun i => (msrs Msr.tom).getLsbD (16 + i)) = ((msrs Msr.tom).toNat / 2 ^ 16).testBit := by
      funext i
      rw [testBit_div_two_pow, add_comm]
      rfl
    rw [ones_eq_countP (show (msrs Msr.tom).toNat / 2 ^ 16 < 2 ^ 16 by omega), ← hbits]
  have heq := initializeVariableMtrrs_eq htom rfl
  rw [hcount]
  by_cases hones : ones ((msrs Msr.tom).toNat / 2 ^ 16) ≤ 7
  · rw [if_pos hones] at heq
    refine ⟨_, _, heq, iff_of_true rfl hones, fun _ => ⟨_, ?_, covers_pieces (by omega) hones msrs⟩, by omega⟩
    rw [length_pieces]
    exact min_le_left _ _
  · grind

def lowTop : Msrs := fun a => if a = Msr.tom then 0xE0010000 else 0

theorem initializeVariableMtrrs_covers_lowTop :
    (lowTop Msr.tom).toNat < 2 ^ 32 ∧
    let count := (List.range 16).countP fun i => (lowTop Msr.tom).getLsbD (16 + i)
    ∃ status msrs', initializeVariableMtrrs lowTop = some (status, msrs') ∧ (status = .silPass ↔ count ≤ 7) ∧
      (count ≤ 7 → ∃ n ≤ 7, Covers msrs' n ((lowTop Msr.tom).toNat / 2 ^ 16 * 2 ^ 16)) ∧
      (7 < count → status = .silOutOfResources) :=
  ⟨by decide, initializeVariableMtrrs_covers lowTop (by decide)⟩

end OpenSil.CacheInit
