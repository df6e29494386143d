import OpenSil.Apob

/-! # The walk over an arbitrary APOB

`AmdGetApobEntry` trusts the sizes that it finds in memory.
-/

open OpenSil.Bytes OpenSil.Loop OpenSil.Tiling List Nat

namespace OpenSil.Apob

/-- The bytes of an entry header that the lookup reads: group, type, instance and size. -/
def headerRead : Nat := 16

def walkHeader (m : Mem) (platformAddress : Nat) (gApobLibInfo : ApobLibInfo) (apobBaseAddress : Nat) : Option Nat :=
  let info := amdGetApobInfo m platformAddress gApobLibInfo apobBaseAddress
  if info.1 = .silPass ∧ info.2.supported = true ∧ 5 ≤ readLE m (info.2.apobAddr + 4) 4 then some info.2.apobAddr
  else none

def walkStart (m : Mem) (apobHeaderPtr : Nat) : Nat := apobHeaderPtr + readLE m (apobHeaderPtr + 12) 4

def walkEnd (m : Mem) (apobHeaderPtr : Nat) : Nat := apobHeaderPtr + readLE m (apobHeaderPtr + 8) 4

def typeSize (m : Mem) (a : Nat) : Nat := readLE m (a + 12) 4

/-- The lookup comes to its end, reads entry headers only up to the end of the APOB, and never has more matches than
the array on its stack holds. -/
structure Robust (m : Mem) (platformAddress : Nat) (gApobLibInfo : ApobLibInfo) (groupId dataTypeId instanceId : UInt32)
    (apobBaseAddress : Nat) : Prop where
  terminates : ∃ fuel r,
    amdGetApobEntryInstance m platformAddress fuel gApobLibInfo groupId dataTypeId instanceId apobBaseAddress = some r
  inside : ∀ a, walkHeader m platformAddress gApobLibInfo apobBaseAddress = some a →
    ∀ s, Reached (apobEntryTurn m a groupId dataTypeId) (walkStart m a, []) s → s.1 < walkEnd m a →
      a ≤ s.1 ∧ s.1 + headerRead ≤ walkEnd m a
  room : ∀ a, walkHeader m platformAddress gApobLibInfo apobBaseAddress = some a →
    ∀ s, Reached (apobEntryTurn m a groupId dataTypeId) (walkStart m a, []) s → s.2.length ≤ apobEntryInstanceMax

def isOfType (m : Mem) (groupId dataTypeId : UInt32) (a : Nat) : Bool :=
  readLE m a 4 = groupId.toNat ∧ readLE m (a + 4) 4 = dataTypeId.toNat

/-- The sizes of the entries lead to the end, with a whole header at each of them. -/
def WellSized (m : Mem) (apobHeaderPtr : Nat) (entries : List Nat) : Prop :=
  Steps (typeSize m) (fun a => a + headerRead ≤ walkEnd m apobHeaderPtr) (walkEnd m apobHeaderPtr)
    (walkStart m apobHeaderPtr) entries

section
variable {m : Mem} {a addr base : Nat} {gApobLibInfo : ApobLibInfo} {groupId typeId : UInt32}

theorem apobEntryTurn_eq : apobEntryTurn m a groupId typeId =
    walkTurn (walkEnd m a) (typeSize m) (collectEntry m groupId typeId) id := rfl

def note (m : Mem) (groupId dataTypeId : UInt32) (apobEntries : List Nat) (a : Nat) : List Nat :=
  if isOfType m groupId dataTypeId a then apobEntries ++ [a] else apobEntries

theorem collectEntry_eq (a : Nat) (acc : List Nat) :
    collectEntry m groupId typeId a acc = .inl (note m groupId typeId acc a) := by
  unfold collectEntry note isOfType
  simp only [decide_eq_true_eq]
  split_ifs <;> rfl

theorem foldl_note (entries acc : List Nat) :
    entries.foldl (note m groupId typeId) acc = acc ++ entries.filter (isOfType m groupId typeId) := by
  induction entries generalizing acc with
  | nil => simp
  | cons a entries ih =>
    rw [foldl_cons, ih, filter_cons]
    unfold note
    split_ifs <;> simp

theorem amdGetApobEntryInstance_of_none
    (h : walkHeader m addr gApobLibInfo base = none) (instanceId : UInt32) :
    ∃ r, amdGetApobEntryInstance m addr 0 gApobLibInfo groupId typeId instanceId base =
      some r := by
  unfold walkHeader at h
  unfold amdGetApobEntryInstance amdGetApobEntry
  dsimp only at h ⊢
  generalize amdGetApobInfo m addr gApobLibInfo base = info at h ⊢
  rw [ite_eq_right_iff] at h
  split_ifs with h1 h2 h3
  · exact ⟨_, rfl⟩
  · exact ⟨_, rfl⟩
  · exact absurd (h ⟨not_not.mp h1, by simpa using h2, h3⟩) (by simp)
  · exact ⟨_, rfl⟩

theorem amdGetApobEntryInstance_isSome_iff (h : walkHeader m addr gApobLibInfo base = some a)
    (fuel : Nat) (instanceId : UInt32) :
    (∃ r, amdGetApobEntryInstance m addr fuel gApobLibInfo groupId typeId instanceId base =
      some r) ↔ ∃ r, run (apobEntryTurn m a groupId typeId) fuel (walkStart m a, []) = some r := by
  unfold walkHeader at h
  unfold amdGetApobEntryInstance amdGetApobEntry
  dsimp only at h ⊢
  generalize amdGetApobInfo m addr gApobLibInfo base = info at h ⊢
  rw [Option.ite_none_right_eq_some] at h
  obtain ⟨⟨h1, h2, h3⟩, haddr⟩ := h
  cases haddr
  simp only [h1, h2, h3, ne_eq, not_true_eq_false, if_false, Bool.true_eq_false, if_true]
  unfold walkStart
  cases run (apobEntryTurn m info.2.apobAddr groupId typeId) fuel _ <;> simp

theorem WellSized.returns {entries : List Nat} (h : WellSized m a entries) (groupId typeId : UInt32) :
    Returns (apobEntryTurn m a groupId typeId) (walkStart m a, [])
      (entries.filter (isOfType m groupId typeId)) ∧
    ∃ last, Reached (apobEntryTurn m a groupId typeId) (walkStart m a, [])
      (last, entries.filter (isOfType m groupId typeId)) := by
  obtain ⟨hreturns, last, -, hreached⟩ := Steps.returns (f := note m groupId typeId) collectEntry_eq h
  rw [foldl_note, nil_append] at hreturns hreached
  exact ⟨hreturns, last, hreached⟩

theorem header_le_of_reached {s : Nat × List Nat}
    (hs : Reached (apobEntryTurn m a groupId typeId) (walkStart m a, []) s) : a ≤ s.1 := by
  refine hs.invariant (fun s => a ≤ s.1) (le_add_right _ _) ?_
  rintro ⟨c, acc⟩ s' hc hturn
  rcases lt_or_ge c (walkEnd m a) with hlt | hge
  · rw [apobEntryTurn_eq, walkTurn_of_lt collectEntry_eq hlt] at hturn
    cases hturn
    exact le_add_right_of_le hc
  · rw [apobEntryTurn_eq, walkTurn_of_le hge] at hturn
    cases hturn

section
variable {entries : List Nat} {s : Nat × List Nat} (h : WellSized m a entries)
  (hs : Reached (apobEntryTurn m a groupId typeId) (walkStart m a, []) s)
include h hs

theorem WellSized.inside (hlt : s.1 < walkEnd m a) : s.1 + headerRead ≤ walkEnd m a := by
  obtain ⟨done, rest, -, hrest, -⟩ := Steps.of_reached collectEntry_eq h hs
  cases rest with
  | nil => exact absurd hlt (not_lt.mpr hrest)
  | cons x rest => exact hrest.2.2.1

theorem WellSized.length_le : s.2.length ≤ (entries.filter (isOfType m groupId typeId)).length := by
  obtain ⟨done, rest, rfl, -, hnoted⟩ := Steps.of_reached collectEntry_eq h hs
  rw [hnoted, foldl_note, nil_append, filter_append, length_append]
  exact le_add_right _ _

end

end

/-- The lookup is robust exactly if the entries have sizes that lead to the end, with all headers before it, and if no
more of them match than there is room for. -/
theorem robust_iff (m : Mem) (platformAddress : Nat) (gApobLibInfo : ApobLibInfo)
    (groupId dataTypeId instanceId : UInt32) (apobBaseAddress : Nat) :
    Robust m platformAddress gApobLibInfo groupId dataTypeId instanceId apobBaseAddress ↔
      ∀ a, walkHeader m platformAddress gApobLibInfo apobBaseAddress = some a →
        ∃ entries, WellSized m a entries ∧
          (entries.filter (isOfType m groupId dataTypeId)).length ≤ apobEntryInstanceMax := by
  constructor
  · intro h a ha
    obtain ⟨fuel, hrun⟩ := h.terminates
    obtain ⟨r, hrun⟩ := (amdGetApobEntryInstance_isSome_iff ha fuel instanceId).mp hrun
    obtain ⟨entries, hentries⟩ : ∃ entries, WellSized m a entries :=
      steps_of_run collectEntry_eq hrun fun s hs hlt => (h.inside a ha s hs hlt).2
    obtain ⟨-, last, hreached⟩ := hentries.returns groupId dataTypeId
    exact ⟨entries, hentries, h.room a ha _ hreached⟩
  · intro h
    refine ⟨?_, ?_, ?_⟩
    · cases ha : walkHeader m platformAddress gApobLibInfo apobBaseAddress with
      | none => exact ⟨0, amdGetApobEntryInstance_of_none ha instanceId⟩
      | some a =>
        obtain ⟨entries, hentries, -⟩ := h a ha
        obtain ⟨⟨fuel, hrun⟩, -⟩ := hentries.returns groupId dataTypeId
        exact ⟨fuel, (amdGetApobEntryInstance_isSome_iff ha fuel instanceId).mpr ⟨_, hrun⟩⟩
    · intro a ha s hs hlt
      obtain ⟨entries, hentries, -⟩ := h a ha
      exact ⟨header_le_of_reached hs, hentries.inside hs hlt⟩
    · intro a ha s hs
      obtain ⟨entries, hentries, hroom⟩ := h a ha
      exact (hentries.length_le hs).trans hroom

/-- A version 5 APOB at 0x1000 of 64 bytes: its entry says that it has no bytes. -/
def emptyEntryImage : Mem := writeLE oneEntryImage 0x101C 4 0

/-- An entry of the size 0 keeps the lookup for ever. -/
theorem lookup_does_not_return :
    (∀ fuel, amdGetApobEntryInstance emptyEntryImage 0 fuel ⟨false, 0, 0⟩ 1 2 3 0x1000 = none) ∧
    ¬ Robust emptyEntryImage 0 ⟨false, 0, 0⟩ 1 2 3 0x1000 := by
  have hheader : walkHeader emptyEntryImage 0 ⟨false, 0, 0⟩ 0x1000 = some 0x1000 := by decide +kernel
  have hstay (fuel : Nat) :
      ¬ ∃ r, amdGetApobEntryInstance emptyEntryImage 0 fuel ⟨false, 0, 0⟩ 1 2 3 0x1000 = some r := by
    rw [amdGetApobEntryInstance_isSome_iff hheader, apobEntryTurn_eq,
      run_eq_none_of_size_zero collectEntry_eq (by decide +kernel) (by decide +kernel)]
    rintro ⟨r, hr⟩
    cases hr
  constructor
  · intro fuel
    exact Option.eq_none_iff_forall_ne_some.mpr fun r hr => hstay fuel ⟨r, hr⟩
  · intro h
    obtain ⟨fuel, hrun⟩ := h.terminates
    exact hstay fuel hrun

end OpenSil.Apob
