import OpenSil.Status

/-! # IP record lists -/

namespace OpenSil.XSim

universe u

abbrev Callback (ω : Type u) := ω → SilStatus × ω

structure IpRecord (ω : Type u) where
  ipID : Nat
  blkRequestSize : UInt32
  setInput : Option (Callback ω)
  initializeFn : Option (Callback ω)
  apiInit : Option (Callback ω)

def IpRecord.listEnd {ω : Type u} : IpRecord ω := ⟨silIdListEnd, 0, none, none, none⟩

structure IpTable (ω : Type u) where
  records : List (IpRecord ω)
  terminator : IpRecord ω
  below : ∀ r ∈ records, r.ipID < silIdListEnd
  ended : silIdListEnd ≤ terminator.ipID

namespace IpTable

variable {ω : Type u}

def recordAt (t : IpTable ω) (i : Nat) : IpRecord ω := t.records.getD i t.terminator

theorem recordAt_of_lt (t : IpTable ω) {i : Nat} (h : i < t.records.length) : t.recordAt i = t.records[i] := by
  simp [recordAt, h]

theorem recordAt_of_drop (t : IpTable ω) {i : Nat} {r : IpRecord ω} {rest : List (IpRecord ω)}
    (h : t.records.drop i = r :: rest) : t.recordAt i = r := by
  have hi : i < t.records.length := by
    by_contra hlt
    rw [List.drop_eq_nil_of_le (by omega)] at h
    cases h
  rw [List.drop_eq_getElem_cons hi] at h
  rw [recordAt_of_lt t hi]
  exact (List.cons.inj h).1

theorem recordAt_lt_listEnd_iff (t : IpTable ω) (i : Nat) :
    (t.recordAt i).ipID < silIdListEnd ↔ i < t.records.length := by
  constructor
  · intro h
    by_contra hi
    have hat : t.recordAt i = t.terminator := by simp [recordAt, List.getElem?_eq_none (Nat.not_lt.mp hi)]
    have := t.ended
    rw [hat] at h
    omega
  · intro h
    rw [recordAt_of_lt t h]
    exact t.below _ (List.getElem_mem h)

end IpTable

end OpenSil.XSim
