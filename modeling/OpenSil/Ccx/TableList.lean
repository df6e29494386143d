import OpenSil.Lib.Loop

/-! # Register tables for the roles of a core -/

open OpenSil.Loop List

namespace OpenSil.AmdTable

inductive TableCoreSelector where
  | allCores
  | computeUnitPrimary
  | complexPrimary
  | diePrimary
  | primaryCores
  | bscCore
  deriving DecidableEq

namespace TableCoreSelector

def all : List TableCoreSelector := [allCores, computeUnitPrimary, complexPrimary, diePrimary, primaryCores, bscCore]

def code (selector : TableCoreSelector) : UInt32 := .ofNat selector.ctorIdx

end TableCoreSelector

structure CoreRoles where
  xUslIsBsp : Bool
  xUslIsComputeUnitPrimary : Bool
  xUslIsCoreComplexPrimary : Bool
  xUslIsDiePrimary : Bool
  xUslIsSocketPrimary : Bool

def isCoreSelector (core : CoreRoles) : TableCoreSelector → Bool
  | .allCores => true
  | .computeUnitPrimary => core.xUslIsComputeUnitPrimary
  | .complexPrimary => core.xUslIsCoreComplexPrimary
  | .diePrimary => core.xUslIsDiePrimary
  | .primaryCores => core.xUslIsSocketPrimary
  | .bscCore => core.xUslIsBsp

structure RegisterTable where
  selector : UInt32
  table : Nat

section
variable (fuel : Nat) (tables : List RegisterTable) (selector : TableCoreSelector)

/-- The NULL at the end of the list is at the position behind `tables`. -/
def skipTurn (nextTable : Nat) : Turn Nat Nat :=
  match tables[nextTable]? with
  | some t => if t.selector ≠ selector.code then .next (nextTable + 1) else .done nextTable
  | none => .done nextTable

def getNextRegisterTable (registerTableHandle : Option Nat) : Option (Nat × Option Nat) :=
  (run (skipTurn tables selector) fuel (registerTableHandle.elim 0 (· + 1))).map fun nextTable =>
    (nextTable, tables[nextTable]?.map fun _ => nextTable)

variable {σ : Type} (runTable : Nat → σ → Option σ)

/-- The loop over the tables of one selector, where `runTable` is `SetRegistersFromTable`. The result is `none` if `fuel`
is not enough or a table has no end. -/
def tableListTurn (r : (Nat × Option Nat) × σ) : Turn ((Nat × Option Nat) × σ) (Option σ) :=
  match tables[r.1.1]? with
  | none => .done (some r.2)
  | some t =>
    match runTable t.table r.2, getNextRegisterTable fuel tables selector r.1.2 with
    | some s, some next => .next (next, s)
    | _, _ => .done none

end

section
variable {σ : Type} (fuel : Nat) (core : CoreRoles) (runTable : Nat → σ → Option σ)
  (tables : List RegisterTable)

def setRegistersFrom : List TableCoreSelector → σ → Option σ
  | [], s => some s
  | selector :: rest, s =>
    if isCoreSelector core selector then do
      let first ← getNextRegisterTable fuel tables selector none
      let s ← (run (tableListTurn fuel tables selector runTable) fuel (first, s)).join
      setRegistersFrom rest s
    else some s

def setRegistersFromTableList (s : σ) : Option σ :=
  setRegistersFrom fuel core runTable tables TableCoreSelector.all s

/-- The tables with the selector, in the order of the list. -/
def tablesOf (selector : TableCoreSelector) : List RegisterTable := tables.filter (·.selector = selector.code)

end

variable {σ : Type} {fuel : Nat} {tables : List RegisterTable} {selector : TableCoreSelector}
  {runTable : Nat → σ → Option σ}

variable {front rest : List RegisterTable}

theorem run_skipTurn (htables : tables = front ++ rest) (hfuel : rest.length < fuel) :
    run (skipTurn tables selector) fuel front.length =
      some (front.length + rest.findIdx (·.selector = selector.code)) := by
  obtain ⟨fuel, rfl⟩ := Nat.exists_eq_succ_of_ne_zero (Nat.ne_zero_of_lt hfuel)
  induction rest generalizing front fuel with
  | nil => exact run_succ_done (by simp [skipTurn, htables])
  | cons t rest ih =>
    by_cases ht : t.selector = selector.code
    · rw [run_succ_done (by simp [skipTurn, htables, ht]; rfl)]
      simp [findIdx_cons, ht]
    · rw [run_succ_next (by simp [skipTurn, htables, ht]; rfl)]
      obtain ⟨fuel, rfl⟩ := Nat.exists_eq_succ_of_ne_zero (Nat.ne_zero_of_lt (Nat.lt_of_succ_lt_succ hfuel))
      have hfront : tables = (front ++ [t]) ++ rest := by simpa using htables
      have hrest := ih hfront fuel (Nat.lt_of_succ_lt_succ hfuel)
      rw [length_append, length_singleton] at hrest
      rw [hrest]
      simp [findIdx_cons, ht]
      omega

/-- What the iterator returns when it goes on behind `front`. -/
def found (tables front rest : List RegisterTable) (selector : TableCoreSelector) : Nat × Option Nat :=
  let nextTable := front.length + rest.findIdx (·.selector = selector.code)
  (nextTable, tables[nextTable]?.map fun _ => nextTable)

theorem getNextRegisterTable_eq {handle : Option Nat} (htables : tables = front ++ rest)
    (hhandle : handle.elim 0 (· + 1) = front.length) (hfuel : tables.length < fuel) :
    getNextRegisterTable fuel tables selector handle = some (found tables front rest selector) := by
  have hrest : rest.length < fuel := lt_of_le_of_lt (by simp [htables]) hfuel
  rw [getNextRegisterTable, hhandle, run_skipTurn htables hrest]
  rfl

theorem run_tableListTurn {turns : Nat} (htables : tables = front ++ rest)
    (hfuel : tables.length < fuel) (hturns : rest.length < turns) (s : σ) :
    (run (tableListTurn fuel tables selector runTable) turns (found tables front rest selector, s)).join =
      (tablesOf rest selector).foldlM (fun s t => runTable t.table s) s := by
  -- induction on the tables that the iterator has not passed
  induction rest generalizing front turns s with
  | nil =>
    obtain ⟨turns, rfl⟩ := Nat.exists_eq_succ_of_ne_zero (Nat.ne_zero_of_lt hturns)
    rw [run_succ_done (r := some s) (by simp [tableListTurn, found, htables])]
    rfl
  | cons t rest ih =>
    have hfront : tables = (front ++ [t]) ++ rest := by simpa using htables
    by_cases ht : t.selector = selector.code
    · obtain ⟨turns, rfl⟩ := Nat.exists_eq_succ_of_ne_zero (Nat.ne_zero_of_lt hturns)
      have hfound : found tables front (t :: rest) selector = (front.length, some front.length) := by
        simp [found, findIdx_cons, ht, htables]
      have hnext : getNextRegisterTable fuel tables selector (some front.length) =
          some (found tables (front ++ [t]) rest selector) := getNextRegisterTable_eq hfront (by simp) hfuel
      have hfilter : tablesOf (t :: rest) selector = t :: tablesOf rest selector := by simp [tablesOf, ht]
      rw [hfound, hfilter, foldlM_cons]
      cases hset : runTable t.table s with
      | none =>
        rw [run_succ_done (r := none) (by simp [tableListTurn, htables, hset])]
        rfl
      | some s' =>
        have hturn : tableListTurn fuel tables selector runTable ((front.length, some front.length), s) =
            .next (found tables (front ++ [t]) rest selector, s') := by
          simp only [tableListTurn, hnext]
          simp [htables, hset]
        rw [run_succ_next hturn]
        exact ih hfront (Nat.lt_of_succ_lt_succ hturns) s'
    · have hfound : found tables front (t :: rest) selector = found tables (front ++ [t]) rest selector := by
        have hindex : front.length + (t :: rest).findIdx (·.selector = selector.code) =
            (front ++ [t]).length + rest.findIdx (·.selector = selector.code) := by
          simp [findIdx_cons, ht]
          omega
        unfold found
        rw [hindex]
      have hfilter : tablesOf (t :: rest) selector = tablesOf rest selector := by simp [tablesOf, ht]
      rw [hfound, hfilter]
      exact ih hfront (Nat.lt_of_succ_lt hturns) s

/-- With enough fuel: the tables of the selectors up to the first that the core does not match, in order. -/
theorem setRegistersFromTableList_runs (core : CoreRoles) (hfuel : tables.length < fuel) (s : σ) :
    setRegistersFromTableList fuel core runTable tables s =
      ((TableCoreSelector.all.takeWhile (isCoreSelector core)).flatMap (tablesOf tables)).foldlM
        (fun s t => runTable t.table s) s := by
  unfold setRegistersFromTableList
  generalize TableCoreSelector.all = selectors
  induction selectors generalizing s with
  | nil => rfl
  | cons selector rest ih =>
    unfold setRegistersFrom
    cases hcore : isCoreSelector core selector with
    | false => simp [hcore]
    | true =>
      have hfirst : getNextRegisterTable fuel tables selector none = some (found tables [] tables selector) :=
        getNextRegisterTable_eq rfl rfl hfuel
      simp only [if_true, hfirst, Option.bind_eq_bind, Option.bind_some, takeWhile_cons, hcore, flatMap_cons]
      rw [run_tableListTurn (nil_append tables).symm hfuel hfuel, foldlM_append]
      simp only [ih]
      rfl

theorem setRegistersFromTableList_runs_two :
    setRegistersFromTableList 4 ⟨false, true, false, true, true⟩ (fun table s => some (s ++ [table]))
        [⟨1, 0x100⟩, ⟨0, 0x200⟩, ⟨3, 0x300⟩] [] = some [0x200, 0x100] :=
  (setRegistersFromTableList_runs _ (by decide) _).trans (by decide)

end OpenSil.AmdTable
