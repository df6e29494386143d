import OpenSil.Status
import OpenSil.Msr

/-! # P-states

`GetPstateInfo` decodes the register of a P-state.
-/

namespace OpenSil.Pstates

/-! ## The fields of `PSTATE_DEF_STRUCT` -/

section
variable (v : BitVec 64)

def cpuFid : Nat := (v.extractLsb' 0 8).toNat
def cpuDfsId : Nat := (v.extractLsb' 8 6).toNat
def cpuVid : Nat := (v.extractLsb' 14 8).toNat
def iddValue : Nat := (v.extractLsb' 22 8).toNat
def iddDiv : Nat := (v.extractLsb' 30 2).toNat
def pstateEn : Bool := v.getLsbD 63

/-- In MHz. -/
def frequency : Nat :=
  if cpuDfsId v = 0 then 0
  else if 8 ≤ cpuDfsId v ∧ cpuDfsId v ≤ 0x3C then 200 * cpuFid v / cpuDfsId v
  else 25 * cpuFid v

/-- In microvolts. -/
def voltage : Nat := if 0xF8 ≤ cpuVid v ∧ cpuVid v ≤ 0xFF then 0 else 1550000 - 6250 * cpuVid v

/-- Odd divisors over 0x1A are reserved. -/
def dfsIdReserved : Bool := 0x1A < cpuDfsId v && cpuDfsId v % 2 = 1

/-- In milliwatts. -/
def power : Nat := voltage v / 10 * iddValue v / 10 ^ (iddDiv v + 2)

def decodes : Bool := !dfsIdReserved v && iddDiv v < 3

end

structure PstateOutputs where
  frequency : Nat
  voltageInuV : Nat
  powerInmW : Nat
  pstateStatus : Bool

def pstateMsr (msrs : Msrs) (pstate : Nat) : BitVec 64 := msrs (Msr.pstateDef + BitVec.ofNat 32 pstate)

def getPstateInfo (msrs : Msrs) (pstate : Nat) (out : PstateOutputs) : SilStatus × PstateOutputs :=
  let v := pstateMsr msrs pstate
  if pstateEn v = false then (.silPass, { out with pstateStatus := false })
  else if dfsIdReserved v then (.silAborted, out)
  else
    let out := { out with frequency := frequency v, voltageInuV := voltage v }
    let powerInmW := voltage v / 10 * iddValue v
    match iddDiv v with
    | 0 => (.silPass, { out with powerInmW := powerInmW / 100, pstateStatus := true })
    | 1 => (.silPass, { out with powerInmW := powerInmW / 1000, pstateStatus := true })
    | 2 => (.silPass, { out with powerInmW := powerInmW / 10000, pstateStatus := true })
    | _ => (.silAborted, { out with powerInmW := 0 })

def getPstateNumber (msrs : Msrs) : Nat := ((msrs Msr.pstateCurLim).extractLsb' 4 3).toNat

variable {msrs : Msrs} {pstate : Nat}

theorem getPstateInfo_of_disabled (h : pstateEn (pstateMsr msrs pstate) = false) (out : PstateOutputs) :
    getPstateInfo msrs pstate out = (.silPass, { out with pstateStatus := false }) := by
  unfold getPstateInfo
  exact if_pos h

theorem getPstateInfo_of_decodes (h : pstateEn (pstateMsr msrs pstate) = true)
    (hdec : decodes (pstateMsr msrs pstate) = true) (out : PstateOutputs) :
    getPstateInfo msrs pstate out = (.silPass, ⟨frequency (pstateMsr msrs pstate), voltage (pstateMsr msrs pstate),
      power (pstateMsr msrs pstate), true⟩) := by
  unfold getPstateInfo power
  unfold decodes at hdec
  rw [Bool.and_eq_true, Bool.not_eq_true', decide_eq_true_eq] at hdec
  dsimp only
  rw [if_neg (by simp [h]), if_neg (by simp [hdec.1])]
  have hdiv : iddDiv (pstateMsr msrs pstate) < 3 := hdec.2
  generalize iddDiv (pstateMsr msrs pstate) = d at hdiv ⊢
  interval_cases d <;> rfl

theorem getPstateInfo_of_not_decodes (h : pstateEn (pstateMsr msrs pstate) = true)
    (hdec : decodes (pstateMsr msrs pstate) = false) (out : PstateOutputs) :
    (getPstateInfo msrs pstate out).1 = .silAborted := by
  unfold getPstateInfo
  dsimp only
  rw [if_neg (by simp [h])]
  split_ifs with hdfs
  · rfl
  · have hdiv : ¬ iddDiv (pstateMsr msrs pstate) < 3 := by
      intro hlt
      simp [decodes, hdfs, hlt] at hdec
    generalize iddDiv (pstateMsr msrs pstate) = d at hdiv ⊢
    match d, hdiv with
    | 0, hdiv | 1, hdiv | 2, hdiv => exact absurd (by decide) hdiv
    | _ + 3, _ => rfl

end OpenSil.Pstates
