import OpenSil.Lib.Bytes

/-! # The list of CXL devices for MPIO

`CxlDevListGenerate` with its callback. A list has 16 words for each socket, then the two counts.
-/

namespace OpenSil.Cxl

open Bytes List Function

structure CxlEngine where
  function : BitVec 3
  device : BitVec 5
  bus : BitVec 8
  portId : BitVec 8
  cxlDeviceType : BitVec 8

structure Silicon where
  socketId : BitVec 8
  rbIndex : BitVec 8
  engines : List CxlEngine

def Silicon.secondary (gnb : Silicon) : Bool := gnb.socketId != 0

def cxlEngines (pcie : List Silicon) : List (Silicon × CxlEngine) := pcie.flatMap fun gnb => gnb.engines.map (gnb, ·)

def cxlDeviceInfo : Silicon × CxlEngine → BitVec 32
  | (gnb, e) => 0#4 ++ e.cxlDeviceType.setWidth 4 ++ e.portId.setWidth 4 ++ gnb.rbIndex.setWidth 4 ++ e.bus ++
    e.device ++ e.function

def cxlInfo (list : Nat) (secondary : Bool) : Nat := list + 64 * secondary.toNat

def cxlPortCount (list : Nat) (secondary : Bool) : Nat := list + 128 + secondary.toNat

def cxlReportToMpio (buffer : Nat) (m : Mem) (e : Silicon × CxlEngine) : Mem :=
  let count := cxlPortCount buffer e.1.secondary
  let thisDevice := cxlInfo buffer e.1.secondary + 4 * (m count).toNat
  writeLE (update m count (m count + 1)) thisDevice 4 (cxlDeviceInfo e).toNat

/-- Memory after the callbacks. They get the address `pointer` of the parameter `CxlInfo` for that of the list. -/
def cxlReported (pcie : List Silicon) (pointer : Nat) (m : Mem) : Mem :=
  let list := readLE m pointer 8
  (cxlEngines pcie).foldl (cxlReportToMpio pointer)
    (update (update m (cxlPortCount list false) 0) (cxlPortCount list true) 0)

/-- `MPIO_MSG_CXL_INITIALIZE` with its arguments. -/
structure Message where
  gnb : Silicon
  info : Nat
  count : UInt8

def cxlDevListGenerate (pcie : List Silicon) (pointer : Nat) (m : Mem) : List Message :=
  let m := cxlReported pcie pointer m
  let list := readLE m pointer 8
  let request (secondary : Bool) (gnb : Silicon) : Option Message :=
    let count := m (cxlPortCount list secondary)
    if count = 0 then none else some ⟨gnb, cxlInfo list secondary % 2 ^ 32, count⟩
  (pcie.head?.bind (request false)).toList ++ ((pcie.find? Silicon.secondary).bind (request true)).toList

def Message.devices (m : Mem) (message : Message) : List Nat :=
  (range message.count.toNat).map fun i => readLE m (message.info + 4 * i) 4

def devicesOf (pcie : List Silicon) (secondary : Bool) : List Nat :=
  ((cxlEngines pcie).filter (·.1.secondary == secondary)).map fun e => (cxlDeviceInfo e).toNat

/-- Whatever is in memory, a socket with CXL engines gets one message, with these engines. -/
def Reports (pcie : List Silicon) : Prop :=
  ∀ pointer m list, readLE m pointer 8 = list → list + 130 ≤ pointer ∨ pointer + 8 ≤ list → list + 130 ≤ 2 ^ 32 →
    ∀ secondary, ((cxlDevListGenerate pcie pointer m).filter (·.gnb.secondary == secondary)).map
      (Message.devices (cxlReported pcie pointer m)) = [devicesOf pcie secondary].filter (!·.isEmpty)

variable {pcie : List Silicon} {m : Mem} {pointer : Nat}

theorem cxlDevListGenerate_of_zero {list : Nat} (hlist : readLE (cxlReported pcie pointer m) pointer 8 = list)
    (hzero : ∀ secondary, cxlReported pcie pointer m (cxlPortCount list secondary) = 0) :
    cxlDevListGenerate pcie pointer m = [] := by
  simp [cxlDevListGenerate, hlist, hzero]

theorem reports_of_none (h : cxlEngines pcie = []) : Reports pcie := by
  intro pointer m list hlist hapart _ secondary
  have hread : readLE (cxlReported pcie pointer m) pointer 8 = list := by
    rw [cxlReported, h, foldl_nil, ← hlist]
    refine ((agreeOn_update ?_).trans (agreeOn_update ?_)).readLE_eq <;> simp [cxlPortCount, hlist] <;> omega
  rw [cxlDevListGenerate_of_zero hread]
  · simp [devicesOf, h]
  · simp [cxlReported, h, hlist, cxlPortCount, update]

/-- With counts from 33 on behind the pointer, the callback stays behind it. -/
theorem foldl_cxlReportToMpio {es : List (Silicon × CxlEngine)}
    (h : ∀ secondary, 33 ≤ (m (cxlPortCount pointer secondary)).toNat ∧
      (m (cxlPortCount pointer secondary)).toNat + (es.filter (·.1.secondary == secondary)).length < 256) :
    AgreeOn (es.foldl (cxlReportToMpio pointer) m) m 0 (pointer + 128) := by
  induction es generalizing m with
  | nil => exact fun _ _ _ => rfl
  | cons e es ih =>
    have he := h e.1.secondary
    unfold cxlPortCount at h he ih
    refine AgreeOn.trans (ih fun secondary => ?_) ((agreeOn_writeLE ?_).trans (agreeOn_update ?_))
    · have hs := h secondary
      have := secondary.toNat_lt
      rw [cxlReportToMpio, cxlInfo, cxlPortCount, writeLE, if_neg (by omega)]
      by_cases heq : e.1.secondary = secondary
      · subst heq
        rw [filter_cons_of_pos (by simp), length_cons] at hs
        rw [update_self, UInt8.toNat_add, Nat.mod_eq_of_lt (by simp; omega)]
        simp
        omega
      · rw [filter_cons_of_neg (by simpa using heq)] at hs
        rwa [update_of_ne]
        revert heq
        cases secondary <;> cases e.1.secondary <;> simp
    · dsimp only [cxlInfo, cxlPortCount]
      omega
    · dsimp only [cxlPortCount]
      omega

/-- The pointer at `0x2000` to a list of zeros at `0x1000`, and what other calls have left behind it. -/
def staleStack : Mem := fun x => if x = 0x2001 then 0x10 else if 0x2080 ≤ x then 64 else 0

theorem cxlDevListGenerate_staleStack (h : ∀ secondary, (devicesOf pcie secondary).length ≤ 16) :
    cxlDevListGenerate pcie 0x2000 staleStack = [] := by
  have hkept : AgreeOn (cxlReported pcie 0x2000 staleStack) staleStack 0 (0x2000 + 128) := by
    have hlist : readLE staleStack 0x2000 8 = 0x1000 := by decide
    rw [cxlReported, hlist, update_eq_self_iff.mpr (by decide), update_eq_self_iff.mpr (by decide)]
    refine foldl_cxlReportToMpio fun secondary => ?_
    have hcount : staleStack (cxlPortCount 0x2000 secondary) = 64 := by cases secondary <;> decide
    have hlength := h secondary
    rw [devicesOf, length_map] at hlength
    rw [hcount]
    exact ⟨by decide, Nat.add_lt_add_left (m := 192) (by omega) 64⟩
  have hread : readLE (cxlReported pcie 0x2000 staleStack) 0x2000 8 = 0x1000 :=
    (hkept.mono (Nat.zero_le _) (by decide)).readLE_eq.trans (by decide)
  refine cxlDevListGenerate_of_zero hread fun secondary => ?_
  rw [hkept _ (Nat.zero_le _) (by cases secondary <;> decide)]
  cases secondary <;> decide

theorem cxlDevListGenerate_reports_iff (h : ∀ secondary, (devicesOf pcie secondary).length ≤ 16) :
    Reports pcie ↔ cxlEngines pcie = [] := by
  refine ⟨fun hreports => eq_nil_iff_forall_not_mem.mpr fun e he => ?_, reports_of_none⟩
  have hnone := hreports 0x2000 staleStack 0x1000 (by decide) (by decide) (by decide) e.1.secondary
  rw [cxlDevListGenerate_staleStack h] at hnone
  have hempty : devicesOf pcie e.1.secondary = [] := by simpa using hnone.symm
  rw [devicesOf, map_eq_nil_iff, filter_eq_nil_iff] at hempty
  exact hempty e he (by simp)

def oneDevice : List Silicon := [⟨0, 0, [⟨0, 0, 0x20, 0, 2⟩]⟩]

theorem cxlDevListGenerate_reports_iff_oneDevice : ¬ Reports oneDevice := by
  rw [cxlDevListGenerate_reports_iff fun secondary => by cases secondary <;> decide]
  simp [cxlEngines, oneDevice]

theorem cxlDevListGenerate_lost : cxlDevListGenerate oneDevice 0x2000 staleStack = [] ∧
    devicesOf oneDevice false = [0x2002000] := by decide

end OpenSil.Cxl
