import OpenSil.Lib.Loop
import OpenSil.XSim.IpRecord

/-! # The timepoint driver

`xSimInitializeIps` of xSIM.c calls the Initialize callbacks of one timepoint's IP list.
-/

open OpenSil.Loop List Option

namespace OpenSil.XSim

universe u

variable {ω : Type u}

def Deferred (s : SilStatus) : Prop := s = .silResetRequestColdDef ∨ s = .silResetRequestWarmDef

instance (s : SilStatus) : Decidable (Deferred s) := inferInstanceAs (Decidable (_ ∨ _))

def setDeferredResetType (mDeferredResetType resetType : SilStatus) : SilStatus :=
  if mDeferredResetType ≠ .silResetRequestColdDef then
    if resetType = .silResetRequestWarmDef ∨ resetType = .silResetRequestColdDef then resetType
    else .silResetRequestColdDef
  else mDeferredResetType

structure Driver (ω : Type u) where
  lclIpRecord : Nat
  lclStatus : SilStatus
  mDeferredResetType : SilStatus
  world : ω
  calls : List Nat

def Driver.callInitialize (d : Driver ω) (r : IpRecord ω) : Driver ω :=
  match r.initializeFn with
  | none => { d with lclStatus := .silPass }
  | some f =>
    { d with lclStatus := (f d.world).1, world := (f d.world).2, calls := d.calls ++ [d.lclIpRecord] }

def initializeIpsTurn (t : IpTable ω) (d : Driver ω) : Turn (Driver ω) (Driver ω) :=
  if (t.recordAt d.lclIpRecord).ipID < silIdListEnd then
    let d := d.callInitialize (t.recordAt d.lclIpRecord)
    if d.lclStatus ≠ .silPass then
      if d.lclStatus = .silResetRequestColdDef ∨ d.lclStatus = .silResetRequestWarmDef then
        -- `continue` jumps over `LclIpRecord++`.
        .next { d with mDeferredResetType := setDeferredResetType d.mDeferredResetType d.lclStatus }
      else
        .done d
    else
      .next { d with lclIpRecord := d.lclIpRecord + 1 }
  else
    .done d

structure Outcome (ω : Type u) where
  status : SilStatus
  mDeferredResetType : SilStatus
  world : ω
  calls : List Nat

def Driver.start (mDeferredResetType : SilStatus) (world : ω) : Driver ω :=
  ⟨0, .silPass, mDeferredResetType, world, []⟩

def Driver.finish (d : Driver ω) : Outcome ω where
  status := if d.mDeferredResetType ≠ .silPass then d.mDeferredResetType else d.lclStatus
  mDeferredResetType := d.mDeferredResetType
  world := d.world
  calls := d.calls

def xSimInitializeIps (t : IpTable ω) (fuel : Nat) (mDeferredResetType : SilStatus) (world : ω) : Option (Outcome ω) :=
  (run (initializeIpsTurn t) fuel (Driver.start mDeferredResetType world)).map Driver.finish

/-! ## The intended run -/

structure Call where
  position : Nat
  status : SilStatus
  deriving DecidableEq

/-- The calls the driver is meant to make for the records from position `i` on: in list order, on past a deferred
request, and no further than the first other failure. -/
def intendedCalls : List (IpRecord ω) → Nat → ω → List Call
  | [], _, _ => []
  | r :: rest, i, w =>
    match r.initializeFn with
    | none => intendedCalls rest (i + 1) w
    | some f =>
      ⟨i, (f w).1⟩ ::
        if (f w).1 = .silPass ∨ Deferred (f w).1 then intendedCalls rest (i + 1) (f w).2 else []

/-- The status a timepoint is meant to return: a deferred cold reset before a warm one before the last answer. -/
def verdict (calls : List Call) : SilStatus :=
  if .silResetRequestColdDef ∈ calls.map Call.status then .silResetRequestColdDef
  else if .silResetRequestWarmDef ∈ calls.map Call.status then .silResetRequestWarmDef
  else (calls.map Call.status).getLast?.getD .silPass

/-- The driver ends, makes the calls it is meant to make and reports what they call for. -/
def RunsAsIntended (t : IpTable ω) (w : ω) : Prop :=
  ∃ fuel out, xSimInitializeIps t fuel .silPass w = some out ∧
    out.calls = (intendedCalls t.records 0 w).map Call.position ∧
    out.status = verdict (intendedCalls t.records 0 w)

section
variable {r : IpRecord ω} (rest : List (IpRecord ω)) (i : Nat) (w : ω)

theorem intendedCalls_null (h : r.initializeFn = none) :
    intendedCalls (r :: rest) i w = intendedCalls rest (i + 1) w := by
  simp [intendedCalls, h]

theorem intendedCalls_call {f : Callback ω} (h : r.initializeFn = some f) :
    intendedCalls (r :: rest) i w = ⟨i, (f w).1⟩ ::
      if (f w).1 = .silPass ∨ Deferred (f w).1 then intendedCalls rest (i + 1) (f w).2 else [] := by
  simp [intendedCalls, h]

end

theorem position_ge_of_mem_intendedCalls {rest : List (IpRecord ω)} {i : Nat} {w : ω} {c : Call}
    (h : c ∈ intendedCalls rest i w) : i ≤ c.position := by
  induction rest generalizing i w with
  | nil => simp [intendedCalls] at h
  | cons r rest ih =>
    cases hf : r.initializeFn with
    | none =>
      rw [intendedCalls_null rest i w hf] at h
      have := ih h
      omega
    | some f =>
      rw [intendedCalls_call rest i w hf, mem_cons] at h
      rcases h with rfl | h
      · exact le_refl _
      · split at h
        · have := ih h
          omega
        · simp at h

theorem intendedCalls_nodup (rest : List (IpRecord ω)) (i : Nat) (w : ω) :
    ((intendedCalls rest i w).map Call.position).Nodup := by
  induction rest generalizing i w with
  | nil => simp [intendedCalls]
  | cons r rest ih =>
    cases hf : r.initializeFn with
    | none => rw [intendedCalls_null rest i w hf]; exact ih (i + 1) w
    | some f =>
      rw [intendedCalls_call rest i w hf]
      split
      · refine nodup_cons.mpr ⟨?_, ih (i + 1) (f w).2⟩
        rintro hmem
        obtain ⟨c, hc, hpos⟩ := mem_map.mp hmem
        have := position_ge_of_mem_intendedCalls hc
        simp only at hpos
        omega
      · simp

/-! ## One turn of the driver -/

open Driver

section Turn

variable {t : IpTable ω} {d d' : Driver ω} {r : IpRecord ω} {rest : List (IpRecord ω)} {f : Callback ω}

@[simps] def Driver.called (d : Driver ω) (f : Callback ω) : Driver ω :=
  { d with lclStatus := (f d.world).1, world := (f d.world).2, calls := d.calls ++ [d.lclIpRecord] }

theorem turn_at_end (h : t.records.drop d.lclIpRecord = []) : initializeIpsTurn t d = .done d := by
  have hlen : ¬ d.lclIpRecord < t.records.length := by simpa using h
  rw [initializeIpsTurn, if_neg (by rwa [t.recordAt_lt_listEnd_iff])]

section
variable (h : t.records.drop d.lclIpRecord = r :: rest)
include h

theorem turn_inside :
    (t.recordAt d.lclIpRecord).ipID < silIdListEnd ∧ t.recordAt d.lclIpRecord = r := by
  have hat := t.recordAt_of_drop h
  have hmem : r ∈ t.records := mem_of_mem_drop (h ▸ mem_cons_self)
  exact ⟨hat ▸ t.below r hmem, hat⟩

theorem turn_null (hf : r.initializeFn = none) :
    initializeIpsTurn t d = .next { d with lclStatus := .silPass, lclIpRecord := d.lclIpRecord + 1 } := by
  obtain ⟨hlt, hat⟩ := turn_inside h
  rw [initializeIpsTurn, if_pos hlt, hat]
  simp [callInitialize, hf]

theorem turn_call (hf : r.initializeFn = some f) :
    initializeIpsTurn t d =
      if (f d.world).1 = .silPass then .next { d.called f with lclIpRecord := d.lclIpRecord + 1 }
      else if Deferred (f d.world).1 then
        .next { d.called f with
          mDeferredResetType := setDeferredResetType d.mDeferredResetType (f d.world).1 }
      else .done (d.called f) := by
  obtain ⟨hlt, hat⟩ := turn_inside h
  rw [initializeIpsTurn, if_pos hlt, hat]
  simp only [callInitialize, hf, called, Deferred, ne_eq, ite_not]
  rfl

theorem drop_succ_of_drop :
    t.records.drop (d.lclIpRecord + 1) = rest := by
  rw [← tail_drop, h, tail_cons]

end

theorem calls_prefix_turn (h : initializeIpsTurn t d = .next d' ∨ initializeIpsTurn t d = .done d') :
    d.calls <+: d'.calls := by
  cases hd : t.records.drop d.lclIpRecord with
  | nil =>
    rw [turn_at_end hd] at h
    rcases h with h | h <;> cases h
    exact prefix_refl _
  | cons r rest =>
    cases hf : r.initializeFn with
    | none =>
      rw [turn_null hd hf] at h
      rcases h with h | h <;> cases h
      exact prefix_refl _
    | some f =>
      rw [turn_call hd hf] at h
      split_ifs at h <;> rcases h with h | h <;> cases h <;> exact prefix_append _ _

theorem calls_prefix_of_returns (h : Returns (initializeIpsTurn t) d d') : d.calls <+: d'.calls := by
  refine h.of_invariant (fun x => d.calls <+: x.calls) (fun x => d.calls <+: x.calls) (prefix_refl _) ?_ ?_
  · intro x x' hx ht
    exact hx.trans (calls_prefix_turn (Or.inl ht))
  · intro x x' hx ht
    exact hx.trans (calls_prefix_turn (Or.inr ht))

end Turn

/-! ## Runs without and with a deferred request -/

section Runs

variable {t : IpTable ω}

theorem verdict_of_no_deferred {calls : List Call} (h : ∀ c ∈ calls, ¬ Deferred c.status) :
    verdict calls = (calls.map Call.status).getLast?.getD .silPass := by
  have hcold : SilStatus.silResetRequestColdDef ∉ calls.map Call.status := by
    intro hm
    obtain ⟨c, hc, hs⟩ := mem_map.mp hm
    exact h c hc (Or.inl hs)
  have hwarm : SilStatus.silResetRequestWarmDef ∉ calls.map Call.status := by
    intro hm
    obtain ⟨c, hc, hs⟩ := mem_map.mp hm
    exact h c hc (Or.inr hs)
  rw [verdict, if_neg hcold, if_neg hwarm]

section
variable (rest : List (IpRecord ω)) (d : Driver ω) (hd : t.records.drop d.lclIpRecord = rest)
include hd

theorem returns_of_no_deferred (hno : ∀ c ∈ intendedCalls rest d.lclIpRecord d.world, ¬ Deferred c.status)
    (hpass : d.lclStatus = .silPass) :
    ∃ d', Returns (initializeIpsTurn t) d d' ∧
      d'.calls = d.calls ++ (intendedCalls rest d.lclIpRecord d.world).map Call.position ∧
      d'.mDeferredResetType = d.mDeferredResetType ∧
      d'.lclStatus =
        ((intendedCalls rest d.lclIpRecord d.world).map Call.status).getLast?.getD .silPass := by
  induction rest generalizing d with
  | nil => exact ⟨d, (returns_done_iff (turn_at_end hd)).mpr rfl, by simp [intendedCalls], rfl,
      by simp [intendedCalls, hpass]⟩
  | cons r rest ih =>
    cases hf : r.initializeFn with
    | none =>
      rw [intendedCalls_null rest _ _ hf] at hno ⊢
      obtain ⟨d', hret, hcalls, hdef, hst⟩ := ih
        { d with lclStatus := .silPass, lclIpRecord := d.lclIpRecord + 1 } (drop_succ_of_drop hd) hno rfl
      exact ⟨d', (returns_next_iff (turn_null hd hf)).mpr hret, hcalls, hdef, hst⟩
    | some f =>
      have hturn := turn_call hd hf
      rw [intendedCalls_call rest _ _ hf] at hno ⊢
      have hnd : ¬ Deferred (f d.world).1 := hno _ mem_cons_self
      by_cases hp : (f d.world).1 = .silPass
      · rw [if_pos hp] at hturn
        rw [if_pos (Or.inl hp)] at hno ⊢
        obtain ⟨d', hret, hcalls, hdef, hst⟩ := ih { d.called f with lclIpRecord := d.lclIpRecord + 1 }
          (drop_succ_of_drop hd) (fun c hc => hno c (mem_cons_of_mem _ hc)) hp
        refine ⟨d', (returns_next_iff hturn).mpr hret, ?_, hdef, ?_⟩
        · rw [hcalls]
          simp
        · -- The answer of this call counts only when no later callback is called.
          rw [hst]
          simp only [called]
          cases intendedCalls rest (d.lclIpRecord + 1) (f d.world).2 with
          | nil => simp [hp]
          | cons c cs => simp [getLast?_cons_cons]
      · rw [if_neg hp, if_neg hnd] at hturn
        rw [if_neg (by simp [hp, hnd])]
        exact ⟨d.called f, (returns_done_iff hturn).mpr rfl, by simp, rfl, by simp⟩

theorem called_twice_of_deferred {c : Call} (hc : c ∈ intendedCalls rest d.lclIpRecord d.world)
    (hdef : Deferred c.status) {d' : Driver ω} (hret : Returns (initializeIpsTurn t) d d') :
    ∃ before i, before ++ [i, i] <+: d'.calls := by
  induction rest generalizing d with
  | nil => simp [intendedCalls] at hc
  | cons r rest ih =>
    cases hf : r.initializeFn with
    | none =>
      rw [intendedCalls_null rest _ _ hf] at hc
      exact ih { d with lclStatus := .silPass, lclIpRecord := d.lclIpRecord + 1 } (drop_succ_of_drop hd) hc
        ((returns_next_iff (turn_null hd hf)).mp hret)
    | some f =>
      have hturn := turn_call hd hf
      rw [intendedCalls_call rest _ _ hf] at hc
      by_cases hp : (f d.world).1 = .silPass
      · -- This callback passed, so the deferred request is a later one.
        rw [if_pos hp] at hturn
        rw [if_pos (Or.inl hp)] at hc
        rcases mem_cons.mp hc with rfl | hc
        · simp [Deferred, hp] at hdef
        · exact ih { d.called f with lclIpRecord := d.lclIpRecord + 1 } (drop_succ_of_drop hd) hc
            ((returns_next_iff hturn).mp hret)
      · by_cases hfd : Deferred (f d.world).1
        · rw [if_neg hp, if_pos hfd] at hturn
          have hret' := (returns_next_iff hturn).mp hret
          -- The pointer has not moved: the next turn calls the same record.
          refine ⟨d.calls, d.lclIpRecord, ?_⟩
          have hagain := turn_call (d := { d.called f with
            mDeferredResetType := setDeferredResetType d.mDeferredResetType (f d.world).1 }) hd hf
          have hstep : ∀ x : Driver ω, x.calls = d.calls ++ [d.lclIpRecord, d.lclIpRecord] →
              (Returns (initializeIpsTurn t) x d' ∨ x = d') →
              d.calls ++ [d.lclIpRecord, d.lclIpRecord] <+: d'.calls := by
            rintro x hx (hr | rfl)
            · exact hx ▸ calls_prefix_of_returns hr
            · rw [hx]
          split_ifs at hagain
          · exact hstep _ (by simp) (Or.inl ((returns_next_iff hagain).mp hret'))
          · exact hstep _ (by simp) (Or.inl ((returns_next_iff hagain).mp hret'))
          · exact hstep _ (by simp) (Or.inr ((returns_done_iff hagain).mp hret').symm)
        · simp_all

end

/-- The driver does what is intended exactly when no Initialize callback of the intended run answers with a deferred
reset request. -/
theorem xSimInitializeIps_as_intended_iff (t : IpTable ω) (w : ω) :
    RunsAsIntended t w ↔ ∀ c ∈ intendedCalls t.records 0 w, ¬ Deferred c.status := by
  constructor
  · rintro ⟨fuel, out, hrun, hcalls, -⟩ c hc hdef
    obtain ⟨d', hd', rfl⟩ := map_eq_some_iff.mp hrun
    obtain ⟨before, i, hpre⟩ := called_twice_of_deferred t.records (start .silPass w) rfl hc hdef ⟨fuel, hd'⟩
    -- A record called twice is not in a list of distinct positions.
    have hnodup : d'.calls.Nodup := (show d'.calls = _ from hcalls) ▸ intendedCalls_nodup t.records 0 w
    have := hnodup.sublist hpre.sublist
    simp [nodup_append] at this
  · intro hno
    obtain ⟨d', ⟨fuel, hrun⟩, hcalls, hdef, hst⟩ :=
      returns_of_no_deferred t.records (start .silPass w) rfl hno rfl
    refine ⟨fuel, d'.finish, by rw [xSimInitializeIps, hrun]; rfl, ?_, ?_⟩
    · simpa [finish, start] using hcalls
    · rw [verdict_of_no_deferred hno]
      simp only [start] at hdef hst
      simp [finish, hdef, hst]

end Runs

def coldResetTable : IpTable Unit where
  records := [{ ipID := 0, blkRequestSize := 0, setInput := none, apiInit := none,
                initializeFn := some fun _ => (.silResetRequestColdDef, ()) }]
  terminator := IpRecord.listEnd
  below := by decide
  ended := by decide

/-- On that list the driver calls the IP again and again, and never returns. -/
theorem coldResetTable_never_returns :
    (∀ fuel, xSimInitializeIps coldResetTable fuel .silPass () = none) ∧ ¬ RunsAsIntended coldResetTable () := by
  have hloop : ∀ fuel, xSimInitializeIps coldResetTable fuel .silPass () = none := by
    intro fuel
    rw [xSimInitializeIps, map_eq_none_iff, eq_none_iff_forall_ne_some]
    intro d hrun
    refine Returns.of_invariant ⟨fuel, hrun⟩ (fun d : Driver Unit => d.lclIpRecord = 0) (fun _ => False) rfl ?_ ?_
    all_goals
      intro s s' hs ht
      have hturn := turn_call (t := coldResetTable) (d := s) (by rw [hs]; rfl) rfl
      rw [if_neg (by simp), if_pos (show Deferred _ from Or.inl rfl)] at hturn
      rw [hturn] at ht
      cases ht
    exact hs
  refine ⟨hloop, ?_⟩
  rintro ⟨fuel, out, hrun, -⟩
  rw [hloop fuel] at hrun
  cases hrun

end OpenSil.XSim
