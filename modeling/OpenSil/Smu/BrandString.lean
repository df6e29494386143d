import OpenSil.Lib.Loop
import OpenSil.Lib.Overlay
import OpenSil.Status

/-! # The brand string

`SmuReadBrandStringCommon` asks the SMU for the brand string four bytes at a time.
-/

namespace OpenSil.Smu

open Bytes Loop Overlay List Nat

structure GnbHandle where
  socketId : UInt8
  address : UInt32

structure Response where
  result : UInt32
  arg0 : UInt32

def smcResultOk : UInt32 := 1
def stringCountLimit : Nat := 4

/-- Without an API of NBIO there are no handles. -/
def smuGetGnbHandleCommon (nbio : Option (List GnbHandle)) (instanceId : UInt32) : Except SilStatus GnbHandle :=
  match nbio with
  | none => .error .silNotFound
  | some handles =>
    match handles.find? (·.socketId.toUInt32 = instanceId) with
    | none => .error .silInvalidParameter
    | some handle => .ok handle

structure Vars where
  mem : Mem
  stringPtr : Nat
  stringCount : Nat
  iteration : Nat

def memcpy (mem : Mem) (dst : Nat) (src : List UInt8) : Mem := overlay dst (src.map (·, 0)) mem

/-- `request n arg` is the response to the request number `n` with the argument `arg`. -/
def turn (request : Nat → UInt32 → Response) (v : Vars) : Turn Vars (SilStatus × Vars) :=
  if v.stringCount ≠ 0 then
    let response := request v.iteration (.ofNat v.iteration)
    if response.result = smcResultOk then
      let byteCount := if v.stringCount < stringCountLimit then v.stringCount else stringCountLimit
      .next ⟨memcpy v.mem v.stringPtr ((leBytes response.arg0.toNat 4).take byteCount), v.stringPtr + byteCount,
        v.stringCount - byteCount, v.iteration + 1⟩
    else .done (.silInvalidParameter, { v with iteration := v.iteration + 1 })
  else .done (.silPass, v)

/-- `SmuReadBrandStringCommon` returns this status, with memory and the number of requests after it. -/
def ReadsBrandString (xfer : Bool) (nbio : Option (List GnbHandle)) (smu : GnbHandle → Nat → UInt32 → Response)
    (instanceId brandStringLength : UInt32) (mem : Mem) (brandString : Nat) (status : SilStatus) (mem' : Mem)
    (requests : Nat) : Prop :=
  if xfer = false then status = .silNotFound ∧ mem' = mem ∧ requests = 0
  else
    match smuGetGnbHandleCommon nbio instanceId with
    | .error error => status = error ∧ mem' = mem ∧ requests = 0
    | .ok handle => ∃ v, v.mem = mem' ∧ v.iteration = requests ∧
        Returns (turn (smu handle)) ⟨mem, brandString, brandStringLength.toNat, 0⟩ (status, v)

/-! ## What is read -/

section
variable (request : Nat → UInt32 → Response)

def Ok (k : Nat) : Prop := (request k (.ofNat k)).result = smcResultOk

def received (k : Nat) : List UInt8 := (List.range k).flatMap fun i => leBytes (request i (.ofNat i)).arg0.toNat 4

variable {request} {m : Mem} {p L k : Nat}

theorem length_received : (received request k).length = 4 * k := by
  simp [received, length_flatMap, mul_comm]

theorem received_succ : received request (k + 1) = received request k ++ leBytes (request k (.ofNat k)).arg0.toNat 4 := by
  simp [received, range_succ]

def after (request : Nat → UInt32 → Response) (mem : Mem) (p L k : Nat) : Vars :=
  ⟨memcpy mem p ((received request k).take L), p + min (4 * k) L, L - 4 * k, k⟩

theorem turn_after (hk : 4 * k < L) (hok : Ok request k) :
    turn request (after request m p L k) = .next (after request m p L (k + 1)) := by
  have hcount : (if L - 4 * k < stringCountLimit then L - 4 * k else stringCountLimit) = min 4 (L - 4 * k) := by
    unfold stringCountLimit
    split_ifs <;> omega
  have hlength : ((received request k).take L).length = min (4 * k) L := by
    rw [length_take, length_received, min_comm]
  -- the chunk is what `L` leaves of the next four bytes
  have htake : (received request (k + 1)).take L =
      (received request k).take L ++ (leBytes (request k (.ofNat k)).arg0.toNat 4).take (min 4 (L - 4 * k)) := by
    rw [received_succ, take_append, length_received, take_eq_take_min (i := L - 4 * k), length_leBytes,
      min_comm 4]
  have hok' : (request k (.ofNat k)).result = smcResultOk := hok
  unfold turn after
  dsimp only
  rw [if_pos (by omega), if_pos hok', hcount, htake]
  unfold memcpy
  rw [map_append, ← overlay_append, length_map, hlength]
  congr 2 <;> omega

theorem returns_after (hk : 4 * k < L + 4) (hok : ∀ j < k, Ok request j) (r : SilStatus × Vars) :
    Returns (turn request) ⟨m, p, L, 0⟩ r ↔ Returns (turn request) (after request m p L k) r := by
  induction k with
  | zero =>
    have hstart : after request m p L 0 = ⟨m, p, L, 0⟩ := by
      simp [after, received, memcpy]
    rw [hstart]
  | succ k ih =>
    rw [ih (by omega) fun j hj => hok j (by omega), returns_next_iff (turn_after (by omega) (hok k (by omega)))]

theorem returns_of_all_ok (hok : ∀ k < (L + 3) / 4, Ok request k) :
    ∃ v, v.mem = memcpy m p ((received request ((L + 3) / 4)).take L) ∧ v.iteration = (L + 3) / 4 ∧
      Returns (turn request) ⟨m, p, L, 0⟩ (.silPass, v) := by
  refine ⟨after request m p L ((L + 3) / 4), rfl, rfl, (returns_after (by omega) hok _).mpr
    ((returns_done_iff ?_).mpr rfl)⟩
  exact if_neg (not_not.mpr (by unfold after; dsimp only; omega))

theorem returns_of_failure (hk : 4 * k < L) (hok : ∀ j < k, Ok request j) (hnot : ¬Ok request k) :
    ∃ v, v.mem = memcpy m p (received request k) ∧ v.iteration = k + 1 ∧
      Returns (turn request) ⟨m, p, L, 0⟩ (.silInvalidParameter, v) := by
  refine ⟨{ after request m p L k with iteration := k + 1 }, ?_, rfl, (returns_after (by omega) hok _).mpr
    ((returns_done_iff ?_).mpr rfl)⟩
  · unfold after
    rw [take_of_length_le (by rw [length_received]; omega)]
  · rw [turn, if_pos (by unfold after; dsimp only; omega)]
    exact if_neg hnot

theorem all_ok_or_failure (request : Nat → UInt32 → Response) (n : Nat) :
    (∀ k < n, Ok request k) ∨ ∃ k < n, (∀ j < k, Ok request j) ∧ ¬Ok request k := by
  classical
  by_cases h : ∃ k, k < n ∧ ¬Ok request k
  · refine .inr ⟨Nat.find h, (Nat.find_spec h).1, fun j hj => ?_, (Nat.find_spec h).2⟩
    by_contra hnot
    exact Nat.find_min h hj ⟨hj.trans (Nat.find_spec h).1, hnot⟩
  · push Not at h
    exact .inl h

theorem memcpy_outside {l : List UInt8} (hl : l.length ≤ L) {x : Nat} (hx : x < p ∨ p + L ≤ x) : memcpy m p l x = m x := by
  rcases hx with hx | hx
  · exact overlay_of_lt hx
  · exact overlay_of_ge (by rw [length_map]; omega)

end

end OpenSil.Smu
