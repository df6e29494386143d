import OpenSil.Lib.Loop

/-! # PCI byte tables of the FCH

The pointer goes from entry to entry and reads each one on its way, so that it is also the number of entries read.
-/

namespace OpenSil.Fch

open Loop

structure Reg8Mask where
  regIndex : UInt8
  andMask : UInt8
  orMask : UInt8

def Reg8Mask.delimits (e : Reg8Mask) : Bool := e.regIndex == 0xFF && e.andMask == 0xFF && e.orMask == 0xFF

structure PciByteWalk (σ : Type) where
  i : UInt8
  pPciByteTable : Nat
  dbBusNo : UInt8
  dbDevFnNo : UInt8
  pci : σ

section
variable {σ : Type} (xUSLPciReadModifyWrite8 : UInt32 → UInt8 → UInt8 → σ → σ) (mem : Nat → Reg8Mask)
  (dwTableSize : UInt16)

def Reg8Mask.perform (e : Reg8Mask) (dbBusNo dbDevFnNo : UInt8) (s : σ) : σ :=
  xUSLPciReadModifyWrite8 (dbBusNo.toUInt32 <<< 20 + dbDevFnNo.toUInt32 <<< 12 + e.regIndex.toUInt32) e.andMask e.orMask s

def pciByteTurn (w : PciByteWalk σ) : Turn (PciByteWalk σ) (PciByteWalk σ) :=
  if w.i.toNat < dwTableSize.toNat then
    let e := mem w.pPciByteTable
    if e.delimits then
      let device := mem (w.pPciByteTable + 1)
      .next ⟨w.i + 1 + 1, w.pPciByteTable + 2, device.regIndex, device.andMask, w.pci⟩
    else
      .next { w with
        i := w.i + 1, pPciByteTable := w.pPciByteTable + 1
        pci := e.perform xUSLPciReadModifyWrite8 w.dbBusNo w.dbDevFnNo w.pci }
  else .done w

def programPciByteTable (fuel : Nat) (s : σ) : Option (PciByteWalk σ) :=
  run (pciByteTurn xUSLPciReadModifyWrite8 mem dwTableSize) fuel
    ⟨1, 1, (mem 0).regIndex, (mem 0).andMask, s⟩

end

/-! ## What a table declares -/

section
variable {σ : Type} (rmw : UInt32 → UInt8 → UInt8 → σ → σ) (mem : Nat → Reg8Mask)

/-- The `k` entries from `p` on: each register entry once, in order, for the bus and device behind the closest
delimiter. -/
def declared : Nat → Nat → UInt8 → UInt8 → σ → σ
  | 0, _, _, _, s => s
  | 1, p, bus, dev, s => if (mem p).delimits then s else (mem p).perform rmw bus dev s
  | k + 2, p, bus, dev, s =>
    if (mem p).delimits then declared k (p + 2) (mem (p + 1)).regIndex (mem (p + 1)).andMask s
    else declared (k + 1) (p + 1) bus dev ((mem p).perform rmw bus dev s)

/-- The last of the `k` entries is no delimiter. -/
def complete : Nat → Nat → Bool
  | 0, _ => true
  | 1, p => !(mem p).delimits
  | k + 2, p => if (mem p).delimits then complete k (p + 2) else complete (k + 1) (p + 1)

end

/-- The first entry selects a device, too. -/
def Programs (mem : Nat → Reg8Mask) (dwTableSize : UInt16) : Prop :=
  ∀ (σ : Type) (rmw : UInt32 → UInt8 → UInt8 → σ → σ) (s : σ), ∃ w,
    (∃ fuel, programPciByteTable rmw mem dwTableSize fuel s = some w) ∧ w.pPciByteTable ≤ dwTableSize.toNat ∧
      w.pci = declared rmw mem (dwTableSize.toNat - 1) 1 (mem 0).regIndex (mem 0).andMask s

/-! ## The loop -/

section
variable {σ : Type} {rmw : UInt32 → UInt8 → UInt8 → σ → σ} {mem : Nat → Reg8Mask} {n : UInt16} {p : Nat}
  {i bus dev : UInt8} {s : σ} {w w' : PciByteWalk σ}

theorem pciByteTurn_delimiter (hi : i.toNat < n.toNat) (he : (mem p).delimits = true) :
    pciByteTurn rmw mem n ⟨i, p, bus, dev, s⟩ =
      .next ⟨i + 1 + 1, p + 2, (mem (p + 1)).regIndex, (mem (p + 1)).andMask, s⟩ := by
  simp [pciByteTurn, hi, he]

theorem pciByteTurn_register (hi : i.toNat < n.toNat) (he : (mem p).delimits = false) :
    pciByteTurn rmw mem n ⟨i, p, bus, dev, s⟩ = .next ⟨i + 1, p + 1, bus, dev, (mem p).perform rmw bus dev s⟩ := by
  simp [pciByteTurn, hi, he]

theorem pciByteTurn_end (hi : ¬w.i.toNat < n.toNat) : pciByteTurn rmw mem n w = .done w := if_neg hi

theorem lt_of_next (h : pciByteTurn rmw mem n w = .next w') : w.pPciByteTable < w'.pPciByteTable := by
  unfold pciByteTurn at h
  split_ifs at h
  dsimp only at h
  split_ifs at h <;> cases h <;> simp

theorem of_done (h : pciByteTurn rmw mem n w = .done w') : w' = w ∧ n.toNat < 256 := by
  unfold pciByteTurn at h
  dsimp only at h
  split_ifs at h with hi
  cases h
  -- the counter stays below 256
  exact ⟨rfl, (not_lt.mp hi).trans_lt w.i.toNat_lt⟩

theorem of_returns (h : Returns (pciByteTurn rmw mem n) w w') :
    w.pPciByteTable ≤ w'.pPciByteTable ∧ n.toNat < 256 := by
  refine h.of_invariant (w.pPciByteTable ≤ ·.pPciByteTable) (w.pPciByteTable ≤ ·.pPciByteTable ∧ n.toNat < 256) le_rfl
    (fun t t' ht hturn => ht.trans (lt_of_next hturn).le) fun t t' ht hturn => ?_
  obtain ⟨rfl, hn⟩ := of_done hturn
  exact ⟨ht, hn⟩

theorem toNat_succ_of_lt (hi : i.toNat < 255) : (i + 1).toNat = i.toNat + 1 := by
  rw [UInt8.toNat_add]
  exact Nat.mod_eq_of_lt (show i.toNat + 1 < 256 by omega)

/-- From the entry `p` on, with `k` entries ahead. -/
theorem pciByte_returns (rmw : UInt32 → UInt8 → UInt8 → σ → σ) (mem : Nat → Reg8Mask) (bus dev : UInt8) (s : σ)
    (hn : n.toNat < 256) {k : Nat} (hp : p + k = n.toNat) (hi : i.toNat = p) :
    if complete mem k p then
      ∃ w, Returns (pciByteTurn rmw mem n) ⟨i, p, bus, dev, s⟩ w ∧ w.pPciByteTable = n.toNat ∧
        w.pci = declared rmw mem k p bus dev s
    else ∀ w, Returns (pciByteTurn rmw mem n) ⟨i, p, bus, dev, s⟩ w → n.toNat < w.pPciByteTable := by
  induction k using Nat.twoStepInduction generalizing p i bus dev s with
  | zero => exact ⟨_, (returns_done_iff (pciByteTurn_end (show ¬i.toNat < n.toNat by omega))).mpr rfl, hp, rfl⟩
  | one =>
    have hlt : i.toNat < n.toNat := by omega
    cases he : (mem p).delimits with
    | true =>
      -- the entry behind the table is read
      simp only [complete, he, returns_next_iff (pciByteTurn_delimiter hlt he)]
      intro w hw
      have hle : p + 2 ≤ w.pPciByteTable := (of_returns hw).1
      omega
    | false =>
      have hout : ¬(i + 1).toNat < n.toNat := by
        rw [toNat_succ_of_lt (by omega)]
        omega
      simp only [complete, declared, he, returns_next_iff (pciByteTurn_register hlt he)]
      exact ⟨_, (returns_done_iff (pciByteTurn_end hout)).mpr rfl, hp, rfl⟩
  | more k ih ih' =>
    have hlt : i.toNat < n.toNat := by omega
    have hsucc := toNat_succ_of_lt (i := i) (by omega)
    cases he : (mem p).delimits with
    | true =>
      have hsucc' := toNat_succ_of_lt (i := i + 1) (by omega)
      simp only [complete, declared, he, if_true, returns_next_iff (pciByteTurn_delimiter hlt he)]
      exact ih _ _ _ (p := p + 2) (by omega) (by omega)
    | false =>
      simp only [complete, declared, he, Bool.false_eq_true, if_false, returns_next_iff (pciByteTurn_register hlt he)]
      exact ih' _ _ _ (p := p + 1) (by omega) (by omega)

end

/-- A table of 256 entries or more keeps the loop for ever, and for a delimiter at the end the entry behind the table is
read, as the first one is if there is none. -/
theorem programPciByteTable_programs_iff (mem : Nat → Reg8Mask) (dwTableSize : UInt16) :
    Programs mem dwTableSize ↔ 0 < dwTableSize.toNat ∧ dwTableSize.toNat < 256 ∧
      complete mem (dwTableSize.toNat - 1) 1 = true := by
  have hwalk {σ : Type} (rmw : UInt32 → UInt8 → UInt8 → σ → σ) (s : σ) (hpos : 0 < dwTableSize.toNat) hlt :=
    pciByte_returns (i := 1) (p := 1) rmw mem (mem 0).regIndex (mem 0).andMask s hlt (Nat.add_sub_cancel' hpos)
      rfl
  constructor
  · intro h
    obtain ⟨w, hreturns, hle, -⟩ := h Unit (fun _ _ _ s => s) ()
    obtain ⟨hfirst, hlt⟩ := of_returns hreturns
    have hpos : 0 < dwTableSize.toNat := lt_of_lt_of_le hfirst hle
    refine ⟨hpos, hlt, ?_⟩
    by_contra hcomplete
    have hbehind := hwalk (fun _ _ _ s => s) () hpos hlt
    rw [if_neg hcomplete] at hbehind
    exact absurd hle (not_le.mpr (hbehind w hreturns))
  · rintro ⟨hpos, hlt, hcomplete⟩ σ rmw s
    have hreturns := hwalk rmw s hpos hlt
    rw [if_pos hcomplete] at hreturns
    obtain ⟨w, hw, hp, hpci⟩ := hreturns
    exact ⟨w, hw, hp.le, hpci⟩

def fchInitHwAcpiPciTable : List Reg8Mask := [⟨0x00, 0xA0, 0⟩, ⟨0xFF, 0xFF, 0xFF⟩]

/-- Of the two entries, the second is a delimiter: a third one is read. -/
theorem programPciByteTable_reads_behind :
    (programPciByteTable (fun _ _ _ s => s) (fchInitHwAcpiPciTable.getD · ⟨0, 0, 0⟩) 2 2 ()).map
        (·.pPciByteTable) = some 3 ∧
      ¬Programs (fchInitHwAcpiPciTable.getD · ⟨0, 0, 0⟩) 2 := by
  refine ⟨by decide, fun h => ?_⟩
  obtain ⟨w, hreturns, hle, -⟩ := h Unit (fun _ _ _ s => s) ()
  obtain rfl := Returns.unique hreturns ⟨2, rfl⟩
  exact absurd hle (by decide)

end OpenSil.Fch
