import OpenSil.RcMgr.Types

/-! # The resource manager's entry point

`InitializeResourceManagerDfXTp1` runs up to five sub-initialisations.
-/

namespace OpenSil.RcMgr

universe u

inductive SubInit where
  | mmioBasedOnNvVariable
  | mmioEqually
  | ioBasedOnNvVariable
  | ioEqually
  | pciBusBasedOnNvVariable
  deriving DecidableEq

def SubInit.isMmio : SubInit → Bool
  | mmioBasedOnNvVariable | mmioEqually => true
  | _ => false

def SubInit.isIo : SubInit → Bool
  | ioBasedOnNvVariable | ioEqually => true
  | _ => false

def SubInit.isPciBus : SubInit → Bool
  | pciBusBasedOnNvVariable => true
  | _ => false

structure Progress (σ : Type u) where
  status : SilStatus
  calledStatus : SilStatus
  state : σ
  calls : List (SubInit × SilStatus)

variable {σ : Type u}

def Progress.start (s : σ) : Progress σ := ⟨.silPass, .silPass, s, []⟩

section
variable (sub : SubInit → σ → SilStatus × σ)

def Progress.call (i : SubInit) (p : Progress σ) : Progress σ :=
  { p with
    calledStatus := (sub i p.state).1
    state := (sub i p.state).2
    calls := p.calls ++ [(i, (sub i p.state).1)] }

def Progress.callAndReport (i : SubInit) (p : Progress σ) : Progress σ :=
  { p.call sub i with status := (sub i p.state).1 }

/-- MMIO and IO are initialised alike: from the NV variable if there is one, and equally if that was not possible. -/
def initWithFallback (setRcBasedOnNv : Bool) (onNv equally : SubInit) (p : Progress σ) : Progress σ :=
  let p := if setRcBasedOnNv then p.call sub onNv else p
  if p.calledStatus ≠ .silPass ∨ ¬ setRcBasedOnNv then p.callAndReport sub equally else p

def initMmio (setRcBasedOnNv : Bool) : Progress σ → Progress σ :=
  initWithFallback sub setRcBasedOnNv .mmioBasedOnNvVariable .mmioEqually

def initIo (setRcBasedOnNv : Bool) : Progress σ → Progress σ :=
  initWithFallback sub setRcBasedOnNv .ioBasedOnNvVariable .ioEqually

def initPciBus (setRcBasedOnNv mcptEnable : Bool) (p : Progress σ) : Progress σ :=
  if setRcBasedOnNv ∧ ¬ mcptEnable then p.callAndReport sub .pciBusBasedOnNvVariable else p

/-- `none` is an input block that `SilFindStructure` does not find. -/
def initializeResourceManagerDfXTp1 (silData : Option InputBlk) (s : σ) : Progress σ :=
  match silData with
  | none => { Progress.start s with status := .silNotFound }
  | some blk =>
    initPciBus sub blk.setRcBasedOnNv blk.mcptEnable
      (initIo sub blk.setRcBasedOnNv (initMmio sub blk.setRcBasedOnNv (Progress.start s)))

end

/-! ## The reported status -/

def Progress.last (kind : SubInit → Bool) (p : Progress σ) : Option SilStatus :=
  ((p.calls.filter (kind ·.1)).getLast?).map (·.2)

/-- A reported success means that the last call for MMIO, for IO and for buses has passed. -/
def Progress.ReportsFailures (p : Progress σ) : Prop :=
  p.status = .silPass →
    (∀ c ∈ p.last SubInit.isMmio, c = .silPass) ∧
    (∀ c ∈ p.last SubInit.isIo, c = .silPass) ∧
    ∀ c ∈ p.last SubInit.isPciBus, c = .silPass

def answers (result : SubInit → SilStatus) (i : SubInit) (s : σ) : SilStatus × σ := (result i, s)

def lastResult (result : SubInit → SilStatus) (setRcBasedOnNv : Bool) (onNv equally : SubInit) : SilStatus :=
  if setRcBasedOnNv ∧ result onNv = .silPass then .silPass else result equally

/-- The call that sets the status last passes only if the ones before it did. -/
def NoFailureLost (blk : InputBlk) (result : SubInit → SilStatus) : Prop :=
  let mmio := lastResult result blk.setRcBasedOnNv .mmioBasedOnNvVariable .mmioEqually
  let io := lastResult result blk.setRcBasedOnNv .ioBasedOnNvVariable .ioEqually
  if blk.setRcBasedOnNv ∧ ¬ blk.mcptEnable then
    result .pciBusBasedOnNvVariable = .silPass → mmio = .silPass ∧ io = .silPass
  else if blk.setRcBasedOnNv ∧ result .ioBasedOnNvVariable = .silPass then True
  else result .ioEqually = .silPass → mmio = .silPass

open Progress

section
variable {sub : SubInit → σ → SilStatus × σ} {kind : SubInit → Bool} {i : SubInit} {p : Progress σ}

theorem last_call : (p.call sub i).last kind = if kind i then some (sub i p.state).1 else p.last kind := by
  unfold last call
  rw [List.filter_append]
  cases h : kind i <;> simp [h]

theorem last_callAndReport :
    (p.callAndReport sub i).last kind = if kind i then some (sub i p.state).1 else p.last kind :=
  last_call

end

theorem initWithFallback_cases (sub : SubInit → σ → SilStatus × σ) (nv : Bool) (onNv equally : SubInit)
    (p : Progress σ) :
    (nv = true ∧ (sub onNv p.state).1 = .silPass ∧ initWithFallback sub nv onNv equally p = p.call sub onNv) ∨
    (nv = true ∧ (sub onNv p.state).1 ≠ .silPass ∧
      initWithFallback sub nv onNv equally p = (p.call sub onNv).callAndReport sub equally) ∨
    (nv = false ∧ initWithFallback sub nv onNv equally p = p.callAndReport sub equally) := by
  unfold initWithFallback
  cases nv with
  | false => exact .inr (.inr ⟨rfl, by simp⟩)
  | true =>
    by_cases h : (sub onNv p.state).1 = .silPass
    · exact .inl ⟨rfl, h, by simp [call, h]⟩
    · exact .inr (.inl ⟨rfl, h, by simp [call, h]⟩)

section
variable {result : SubInit → SilStatus} {nv : Bool} {kind : SubInit → Bool} {onNv equally : SubInit} {p : Progress σ}

theorem initWithFallback_status : (initWithFallback (answers result) nv onNv equally p).status =
    if nv ∧ result onNv = .silPass then p.status else result equally := by
  rcases initWithFallback_cases (answers result) nv onNv equally p with ⟨hnv, hr, h⟩ | ⟨hnv, hr, h⟩ | ⟨hnv, h⟩
  · rw [h, if_pos ⟨hnv, hr⟩]
    rfl
  · rw [h, if_neg (fun hc => hr hc.2)]
    rfl
  · rw [h, if_neg (by simp [hnv])]
    rfl

theorem initWithFallback_last_of_kind (hk : kind onNv) (hk' : kind equally) :
    (initWithFallback (answers result) nv onNv equally p).last kind = some (lastResult result nv onNv equally) := by
  unfold lastResult
  rcases initWithFallback_cases (answers result) nv onNv equally p with ⟨hnv, hr, h⟩ | ⟨hnv, hr, h⟩ | ⟨hnv, h⟩
  · rw [h, last_call, if_pos hk, if_pos ⟨hnv, hr⟩, hr]
  · rw [h, last_callAndReport, if_pos hk', if_neg (fun hc => hr hc.2)]
    rfl
  · rw [h, last_callAndReport, if_pos hk', if_neg (by simp [hnv])]
    rfl

theorem initWithFallback_last_of_other (hk : kind onNv = false) (hk' : kind equally = false) :
    (initWithFallback (answers result) nv onNv equally p).last kind = p.last kind := by
  rcases initWithFallback_cases (answers result) nv onNv equally p with ⟨-, -, h⟩ | ⟨-, -, h⟩ | ⟨-, h⟩ <;>
    simp [h, last_call, last_callAndReport, hk, hk']

end

theorem reportsFailures_answers_iff (blk : InputBlk) (result : SubInit → SilStatus) (s : σ) :
    (initializeResourceManagerDfXTp1 (answers result) (some blk) s).ReportsFailures ↔ NoFailureLost blk result := by
  have hmmio : (initIo (answers result) blk.setRcBasedOnNv
      (initMmio (answers result) blk.setRcBasedOnNv (start s))).last SubInit.isMmio =
      some (lastResult result blk.setRcBasedOnNv .mmioBasedOnNvVariable .mmioEqually) := by
    unfold initIo initMmio
    rw [initWithFallback_last_of_other rfl rfl, initWithFallback_last_of_kind rfl rfl]
  have hio : (initIo (answers result) blk.setRcBasedOnNv
      (initMmio (answers result) blk.setRcBasedOnNv (start s))).last SubInit.isIo =
      some (lastResult result blk.setRcBasedOnNv .ioBasedOnNvVariable .ioEqually) := by
    unfold initIo
    rw [initWithFallback_last_of_kind rfl rfl]
  have hpci : (initIo (answers result) blk.setRcBasedOnNv
      (initMmio (answers result) blk.setRcBasedOnNv (start s))).last SubInit.isPciBus = none := by
    unfold initIo initMmio
    rw [initWithFallback_last_of_other rfl rfl, initWithFallback_last_of_other rfl rfl]
    rfl
  unfold initializeResourceManagerDfXTp1 initPciBus NoFailureLost ReportsFailures
  simp only
  split
  · -- The PCI bus initialisation sets the status last.
    rw [last_callAndReport, last_callAndReport, last_callAndReport, hmmio, hio]
    simp [callAndReport, answers, SubInit.isMmio, SubInit.isIo, SubInit.isPciBus]
    tauto
  · rw [hmmio, hio, hpci]
    unfold initIo initMmio
    rw [initWithFallback_status, initWithFallback_status]
    by_cases h : blk.setRcBasedOnNv ∧ result .ioBasedOnNvVariable = .silPass
    · -- The status is that of the MMIO initialisation.
      simp [h, lastResult, start]
    · rw [lastResult.eq_def result _ .ioBasedOnNvVariable, if_neg h, if_neg h, if_neg h]
      simp only [Option.mem_def, Option.some.injEq, forall_eq', reduceCtorEq]
      tauto

/-! ## Callees with a state

A run whose callees work on a state makes the calls of a run with the same answers.
-/

structure Progress.Alike {τ : Type u} (p : Progress σ) (q : Progress τ) : Prop where
  status : p.status = q.status
  calledStatus : p.calledStatus = q.calledStatus
  calls : p.calls = q.calls

section
variable {τ : Type u} {sub : SubInit → σ → SilStatus × σ} {result : SubInit → SilStatus} {p : Progress σ}
  {q : Progress τ} {i : SubInit}

theorem Progress.Alike.call (h : p.Alike q) (hr : result i = (sub i p.state).1) :
    (p.call sub i).Alike (q.call (answers result) i) :=
  ⟨h.status, hr.symm, by simp [Progress.call, answers, h.calls, hr]⟩

theorem Progress.Alike.callAndReport (h : p.Alike q) (hr : result i = (sub i p.state).1) :
    (p.callAndReport sub i).Alike (q.callAndReport (answers result) i) :=
  ⟨hr.symm, hr.symm, (h.call hr).calls⟩

theorem Progress.Alike.initWithFallback (nv : Bool) (onNv equally : SubInit) (h : p.Alike q)
    (hr : result onNv = (sub onNv p.state).1)
    (hr' : result equally = (sub equally (if nv then (sub onNv p.state).2 else p.state)).1) :
    (RcMgr.initWithFallback sub nv onNv equally p).Alike
      (RcMgr.initWithFallback (answers result) nv onNv equally q) := by
  unfold RcMgr.initWithFallback
  cases nv with
  | false => simpa using h.callAndReport (by simpa using hr')
  | true =>
    have hcall := h.call hr
    simp only [if_true, hcall.calledStatus]
    split
    · exact hcall.callAndReport hr'
    · exact hcall

end

def ownAnswers (sub : SubInit → σ → SilStatus × σ) (nv : Bool) (s : σ) : SubInit → SilStatus
  | .mmioBasedOnNvVariable => (sub .mmioBasedOnNvVariable s).1
  | .mmioEqually => (sub .mmioEqually (if nv then (sub .mmioBasedOnNvVariable s).2 else s)).1
  | .ioBasedOnNvVariable => (sub .ioBasedOnNvVariable (initMmio sub nv (.start s)).state).1
  | .ioEqually =>
    let s := (initMmio sub nv (.start s)).state
    (sub .ioEqually (if nv then (sub .ioBasedOnNvVariable s).2 else s)).1
  | .pciBusBasedOnNvVariable => (sub .pciBusBasedOnNvVariable (initIo sub nv (initMmio sub nv (.start s))).state).1

theorem alike_ownAnswers (sub : SubInit → σ → SilStatus × σ) (blk : InputBlk) (s : σ) :
    (initializeResourceManagerDfXTp1 sub (some blk) s).Alike
      (initializeResourceManagerDfXTp1 (answers (ownAnswers sub blk.setRcBasedOnNv s)) (some blk) s) := by
  have hmmio : (initMmio sub blk.setRcBasedOnNv (.start s)).Alike
      (initMmio (answers (ownAnswers sub blk.setRcBasedOnNv s)) blk.setRcBasedOnNv (.start s)) :=
    .initWithFallback _ _ _ ⟨rfl, rfl, rfl⟩ rfl rfl
  have hio : (initIo sub blk.setRcBasedOnNv (initMmio sub blk.setRcBasedOnNv (.start s))).Alike
      (initIo (answers (ownAnswers sub blk.setRcBasedOnNv s)) blk.setRcBasedOnNv
        (initMmio (answers (ownAnswers sub blk.setRcBasedOnNv s)) blk.setRcBasedOnNv (.start s))) :=
    .initWithFallback _ _ _ hmmio rfl rfl
  unfold initializeResourceManagerDfXTp1 initPciBus
  simp only
  split
  · exact hio.callAndReport rfl
  · exact hio

/-- The reported status hides no failure exactly when none is lost behind the initialisation that sets it last. -/
theorem reports_failures_iff (sub : SubInit → σ → SilStatus × σ) (blk : InputBlk) (s : σ) :
    (initializeResourceManagerDfXTp1 sub (some blk) s).ReportsFailures ↔
      NoFailureLost blk (ownAnswers sub blk.setRcBasedOnNv s) := by
  have halike := alike_ownAnswers sub blk s
  rw [← reportsFailures_answers_iff blk _ s]
  unfold ReportsFailures last
  rw [halike.status, halike.calls]

/-- The MMIO space does not suffice, the IO space does, and the caller is told that all is well. -/
theorem mmio_failure_lost :
    ¬ (initializeResourceManagerDfXTp1
        (answers fun i => if i = .mmioEqually then .silOutOfResources else .silPass)
        (some { plainBlk 0xE0000000 with setRcBasedOnNv := false }) ()).ReportsFailures := by
  intro h
  exact absurd ((h rfl).1 .silOutOfResources rfl) (by decide)

end OpenSil.RcMgr
