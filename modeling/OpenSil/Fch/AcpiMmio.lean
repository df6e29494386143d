import Mathlib.Data.List.TakeWhile
import Mathlib.Tactic

/-! # ACPI MMIO tables of the FCH -/

open List

namespace OpenSil.Fch

structure AcpiRegWrite where
  mmioBase : UInt8
  mmioReg : UInt8
  dataAndMask : UInt8
  dataOrMask : UInt8
  deriving DecidableEq

def acpiMmioBase : UInt32 := 0xFED80000

/-- The first entry of a table. -/
def tableSignature : AcpiRegWrite := ⟨0, 0, 0xB0, 0xAC⟩

section
variable {σ : Type} (xUSLMemReadModifyWrite8 : UInt32 → UInt8 → UInt8 → σ → σ)

def AcpiRegWrite.perform (e : AcpiRegWrite) (s : σ) : σ :=
  xUSLMemReadModifyWrite8 (acpiMmioBase ||| e.mmioBase.toUInt32 <<< 8 ||| e.mmioReg.toUInt32) e.dataAndMask e.dataOrMask s

/-- The loop over the entries; `none` if it leaves the table. -/
def programEntries : List AcpiRegWrite → σ → Option σ
  | [], _ => none
  | e :: rest, s => if e.mmioBase < 0x1D then programEntries rest (e.perform xUSLMemReadModifyWrite8 s) else some s

def programFchAcpiMmioTbl (acpiTbl : Option (List AcpiRegWrite)) (s : σ) : Option σ :=
  match acpiTbl with
  | none => some s
  | some [] => none
  | some (first :: rest) =>
    if first = tableSignature then programEntries xUSLMemReadModifyWrite8 rest s else some s

theorem programEntries_eq (entries rest : List AcpiRegWrite) {terminator : AcpiRegWrite}
    (hterminator : terminator.mmioBase = 0xFF) (s : σ) :
    programEntries xUSLMemReadModifyWrite8 (entries ++ terminator :: rest) s =
      some ((entries.takeWhile (·.mmioBase < 0x1D)).foldl (fun s e => e.perform xUSLMemReadModifyWrite8 s) s) := by
  induction entries generalizing s with
  | nil => simp [programEntries, hterminator]
  | cons e entries ih =>
    rw [cons_append, programEntries]
    split_ifs with he
    · rw [ih, takeWhile_cons_of_pos (by simpa using he), foldl_cons]
    · rw [takeWhile_cons_of_neg (by simpa using he), foldl_nil]

end

/-- The entries before the terminator are performed in order; nothing is, without the signature. -/
def Executed (entries : List AcpiRegWrite) : Prop :=
  ∀ (σ : Type) (rmw : UInt32 → UInt8 → UInt8 → σ → σ) (s : σ) (e : AcpiRegWrite) (rest : List AcpiRegWrite),
    (e.mmioBase = 0xFF → programFchAcpiMmioTbl rmw (some (tableSignature :: (entries ++ e :: rest))) s =
      some (entries.foldl (fun s e => e.perform rmw s) s)) ∧
    (e ≠ tableSignature → programFchAcpiMmioTbl rmw (some (e :: rest)) s = some s)

theorem programFchAcpiMmioTbl_executed_iff (entries : List AcpiRegWrite) :
    Executed entries ↔ ∀ e ∈ entries, e.mmioBase < 0x1D := by
  constructor
  · intro hexecuted
    -- count the accesses
    have hcount := (hexecuted Nat (fun _ _ _ n => n + 1) 0 ⟨0xFF, 0xFF, 0xFF, 0xFF⟩ []).1 rfl
    rw [programFchAcpiMmioTbl, if_pos rfl, programEntries_eq _ _ _ rfl, Option.some.injEq] at hcount
    have hlength : ∀ (l : List AcpiRegWrite) n,
        l.foldl (fun s e => e.perform (fun _ _ _ n => n + 1) s) n = n + l.length := by
      intro l
      induction l with
      | nil => simp
      | cons e l ih =>
        intro n
        rw [foldl_cons, ih, length_cons]
        show n + 1 + l.length = _
        omega
    rw [hlength, hlength, Nat.zero_add, Nat.zero_add] at hcount
    have hall : entries.takeWhile (·.mmioBase < 0x1D) = entries :=
      List.takeWhile_prefix _ |>.eq_of_length hcount
    simpa using takeWhile_eq_self_iff.mp hall
  · intro hall σ rmw s e rest
    refine ⟨fun he => ?_, fun hne => if_neg hne⟩
    have htake : entries.takeWhile (·.mmioBase < 0x1D) = entries := takeWhile_eq_self_iff.mpr (by simpa using hall)
    rw [programFchAcpiMmioTbl, if_pos rfl, programEntries_eq _ _ _ he, htake]

/-- `FchInitHwAcpiResetPreliminaryMmioTable` between signature and terminator. -/
def resetPreliminaryEntries : List AcpiRegWrite :=
  [⟨0x03, 0x04, 0xFD, 0x02⟩, ⟨0x1E, 0x95, 0x3F, 0x00⟩, ⟨0x03, 0x0A, 0xEF, 0x10⟩, ⟨0x03, 0xC8, 0xEF, 0x00⟩,
   ⟨0x03, 0xD2, 0xBF, 0x00⟩, ⟨0x03, 0xC0, 0x00, 0x02⟩, ⟨0x0E, 0x52, 0xEF, 0x10⟩, ⟨0x0E, 0x52, 0xEF, 0x00⟩]

/-- Of its eight entries, only the first is performed: the second is for the block 0x1E. -/
theorem programFchAcpiMmioTbl_resetPreliminary :
    programFchAcpiMmioTbl (fun address and or s => s ++ [(address, and, or)])
        (some (tableSignature :: (resetPreliminaryEntries ++ [⟨0xFF, 0xFF, 0xFF, 0xFF⟩]))) [] =
      some [(0xFED80304, 0xFD, 0x02)] ∧
    resetPreliminaryEntries.length = 8 ∧ ∀ e ∈ resetPreliminaryEntries, e.mmioBase ≠ 0xFF := by
  decide

end OpenSil.Fch
