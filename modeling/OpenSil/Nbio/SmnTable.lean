import OpenSil.Lib.Bytes
import OpenSil.Status

/-! # The SMN table interpreter

`ProgramNbioSmnTable` walks over the bytes of a table: entries of six types, up to a terminator.
-/

open OpenSil.Bytes

namespace OpenSil.SmnTable

/-- The accesses to SMN registers by segment, bus and address, on the states `σ` of the hardware. -/
structure SmnAccess (σ : Type) where
  xUSLSmnRead : UInt32 → UInt32 → UInt32 → σ → UInt32 × σ
  xUSLSmnWrite : UInt32 → UInt32 → UInt32 → UInt32 → σ → σ

structure GnbHandle where
  segment : UInt32
  bus : UInt32

def xUSLSmnReadModifyWrite {σ : Type} (hw : SmnAccess σ) (segmentNumber iohcBus smnAddress andMask orMask : UInt32)
    (s : σ) : σ :=
  let regValue := hw.xUSLSmnRead segmentNumber iohcBus smnAddress s
  hw.xUSLSmnWrite segmentNumber iohcBus smnAddress (regValue.1 &&& andMask ||| orMask) regValue.2

/-! ## Entries -/

inductive SmnTableEntryType where
  | smnEntryWr
  | smnEntryRmw
  | smnEntryPropertyWr
  | smnEntryPropertyRmw
  | smnTableEntry
  | smnTableEntryProperty
  | smnEntryTerminate
  deriving DecidableEq

def entryType (b : UInt8) : Option SmnTableEntryType :=
  match b.toNat with
  | 0 => some .smnEntryWr
  | 1 => some .smnEntryRmw
  | 2 => some .smnEntryPropertyWr
  | 3 => some .smnEntryPropertyRmw
  | 4 => some .smnTableEntry
  | 5 => some .smnTableEntryProperty
  | 0xFF => some .smnEntryTerminate
  | _ => none

structure SmnTableEntryWr where
  address : UInt32
  value : UInt32
  deriving DecidableEq

structure SmnTableEntryRmw where
  address : UInt32
  andMask : UInt32
  orMask : UInt32
  deriving DecidableEq

structure SmnTableEntryPropertyWr where
  property : UInt32
  address : UInt32
  value : UInt32
  deriving DecidableEq

structure SmnTableEntryPropertyRmw where
  property : UInt32
  address : UInt32
  andMask : UInt32
  orMask : UInt32
  deriving DecidableEq

inductive PointerWidth where
  | bits32
  | bits64

def PointerWidth.bytes : PointerWidth → Nat
  | bits32 => 4
  | bits64 => 8

section
variable (m : Mem) (width : PointerWidth) (p : Nat)

def read32 : UInt32 := UInt32.ofNat (readLE m p 4)

def readWr : SmnTableEntryWr := ⟨read32 m (p + 4), read32 m (p + 8)⟩

def readRmw : SmnTableEntryRmw := ⟨read32 m (p + 4), read32 m (p + 8), read32 m (p + 12)⟩

def readPropertyWr : SmnTableEntryPropertyWr := ⟨read32 m (p + 4), read32 m (p + 8), read32 m (p + 12)⟩

def readPropertyRmw : SmnTableEntryPropertyRmw :=
  ⟨read32 m (p + 4), read32 m (p + 8), read32 m (p + 12), read32 m (p + 16)⟩

def readTable : Nat := readLE m (p + width.bytes) width.bytes

def readPropertyTable : Nat := readLE m (p + 8) width.bytes

end

def entrySize (width : PointerWidth) : SmnTableEntryType → Nat
  | .smnEntryWr => 12
  | .smnEntryRmw => 16
  | .smnEntryPropertyWr => 16
  | .smnEntryPropertyRmw => 20
  | .smnTableEntry => 2 * width.bytes
  | .smnTableEntryProperty => 8 + width.bytes
  | .smnEntryTerminate => 0

/-! ## The interpreter -/

section
variable {σ : Type} (hw : SmnAccess σ) (gnbHandle : GnbHandle) (m : Mem) (width : PointerWidth)
  (modifier property : UInt32)

def programNbioSmnTable : Nat → Nat → σ → Option (SilStatus × σ)
  | 0, _, _ => none
  | fuel + 1, p, s =>
    match entryType (m p) with
    | some .smnEntryTerminate => some (.silPass, s)
    | some .smnEntryWr =>
      let e := readWr m p
      programNbioSmnTable fuel (p + entrySize width .smnEntryWr)
        (hw.xUSLSmnWrite gnbHandle.segment gnbHandle.bus (e.address + modifier) e.value s)
    | some .smnEntryRmw =>
      let e := readRmw m p
      programNbioSmnTable fuel (p + entrySize width .smnEntryRmw)
        (xUSLSmnReadModifyWrite hw gnbHandle.segment gnbHandle.bus (e.address + modifier) (~~~e.andMask) e.orMask s)
    | some .smnEntryPropertyWr =>
      let e := readPropertyWr m p
      programNbioSmnTable fuel (p + entrySize width .smnEntryPropertyWr)
        (if property &&& e.property = e.property then
          hw.xUSLSmnWrite gnbHandle.segment gnbHandle.bus (e.address + modifier) e.value s
        else s)
    | some .smnEntryPropertyRmw =>
      let e := readPropertyRmw m p
      programNbioSmnTable fuel (p + entrySize width .smnEntryPropertyRmw)
        (if property &&& e.property = e.property then
          xUSLSmnReadModifyWrite hw gnbHandle.segment gnbHandle.bus (e.address + modifier) (~~~e.andMask) e.orMask s
        else s)
    | some .smnTableEntry =>
      (programNbioSmnTable fuel (readTable m width p) s).bind fun r =>
        programNbioSmnTable fuel (p + entrySize width .smnTableEntry) r.2
    | some .smnTableEntryProperty =>
      let entryProperty := read32 m (p + 4)
      if property &&& entryProperty = entryProperty then
        (programNbioSmnTable fuel (readPropertyTable m width p) s).bind fun r =>
          programNbioSmnTable fuel (p + entrySize width .smnTableEntryProperty) r.2
      else programNbioSmnTable fuel (p + entrySize width .smnTableEntryProperty) s
    | none => some (.silInvalidParameter, s)

end

/-! ## Tables -/

inductive Table where
  | terminate
  | invalid
  | wr (entry : SmnTableEntryWr) (rest : Table)
  | rmw (entry : SmnTableEntryRmw) (rest : Table)
  | propertyWr (entry : SmnTableEntryPropertyWr) (rest : Table)
  | propertyRmw (entry : SmnTableEntryPropertyRmw) (rest : Table)
  | table (inner rest : Table)
  | propertyTable (property : UInt32) (inner rest : Table)

/-- The bytes at this address are the table. -/
def Table.At (m : Mem) (width : PointerWidth) : Table → Nat → Prop
  | .terminate, p => entryType (m p) = some .smnEntryTerminate
  | .invalid, p => entryType (m p) = none
  | .wr entry rest, p =>
    entryType (m p) = some .smnEntryWr ∧ readWr m p = entry ∧ rest.At m width (p + entrySize width .smnEntryWr)
  | .rmw entry rest, p =>
    entryType (m p) = some .smnEntryRmw ∧ readRmw m p = entry ∧ rest.At m width (p + entrySize width .smnEntryRmw)
  | .propertyWr entry rest, p =>
    entryType (m p) = some .smnEntryPropertyWr ∧ readPropertyWr m p = entry ∧
      rest.At m width (p + entrySize width .smnEntryPropertyWr)
  | .propertyRmw entry rest, p =>
    entryType (m p) = some .smnEntryPropertyRmw ∧ readPropertyRmw m p = entry ∧
      rest.At m width (p + entrySize width .smnEntryPropertyRmw)
  | .table inner rest, p =>
    entryType (m p) = some .smnTableEntry ∧ inner.At m width (readTable m width p) ∧
      rest.At m width (p + entrySize width .smnTableEntry)
  | .propertyTable property inner rest, p =>
    entryType (m p) = some .smnTableEntryProperty ∧ read32 m (p + 4) = property ∧
      inner.At m width (readPropertyTable m width p) ∧ rest.At m width (p + entrySize width .smnTableEntryProperty)

def Table.depth : Table → Nat
  | .terminate | .invalid => 1
  | .wr _ rest | .rmw _ rest | .propertyWr _ rest | .propertyRmw _ rest => rest.depth + 1
  | .table inner rest | .propertyTable _ inner rest => max inner.depth rest.depth + 1

/-- No entry is invalid, in inner tables neither. -/
def Table.WellFormed : Table → Prop
  | .terminate => True
  | .invalid => False
  | .wr _ rest | .rmw _ rest | .propertyWr _ rest | .propertyRmw _ rest => rest.WellFormed
  | .table inner rest | .propertyTable _ inner rest => inner.WellFormed ∧ rest.WellFormed

/-! ## What a table means -/

inductive SmnOperation where
  | write (address value : UInt32)
  | readModifyWrite (address cleared set : UInt32)
  deriving DecidableEq

section
variable (modifier property : UInt32)

def ifKept (p : UInt32) (operations : List SmnOperation) : List SmnOperation :=
  if property &&& p = p then operations else []

def Table.operations : Table → List SmnOperation
  | .terminate | .invalid => []
  | .wr entry rest => .write (entry.address + modifier) entry.value :: rest.operations
  | .rmw entry rest => .readModifyWrite (entry.address + modifier) entry.andMask entry.orMask :: rest.operations
  | .propertyWr entry rest =>
    ifKept property entry.property [.write (entry.address + modifier) entry.value] ++ rest.operations
  | .propertyRmw entry rest =>
    ifKept property entry.property [.readModifyWrite (entry.address + modifier) entry.andMask entry.orMask] ++
      rest.operations
  | .table inner rest => inner.operations ++ rest.operations
  | .propertyTable p inner rest => ifKept property p inner.operations ++ rest.operations

end

def Table.status : Table → SilStatus
  | .terminate => .silPass
  | .invalid => .silInvalidParameter
  | .wr _ rest | .rmw _ rest | .propertyWr _ rest | .propertyRmw _ rest | .table _ rest | .propertyTable _ _ rest =>
    rest.status

section
variable {σ : Type} (hw : SmnAccess σ) (gnbHandle : GnbHandle)

def perform (s : σ) : SmnOperation → σ
  | .write address value => hw.xUSLSmnWrite gnbHandle.segment gnbHandle.bus address value s
  | .readModifyWrite address cleared set =>
    let old := hw.xUSLSmnRead gnbHandle.segment gnbHandle.bus address s
    hw.xUSLSmnWrite gnbHandle.segment gnbHandle.bus address (old.1 &&& ~~~cleared ||| set) old.2

def performAll (operations : List SmnOperation) (s : σ) : σ := operations.foldl (perform hw gnbHandle) s

@[simp]
theorem performAll_cons (op : SmnOperation) (l : List SmnOperation) (s : σ) :
    performAll hw gnbHandle (op :: l) s = performAll hw gnbHandle l (perform hw gnbHandle s op) := rfl

theorem performAll_append (l l' : List SmnOperation) (s : σ) :
    performAll hw gnbHandle (l ++ l') s = performAll hw gnbHandle l' (performAll hw gnbHandle l s) :=
  List.foldl_append

theorem performAll_ifKept (property p : UInt32) (l : List SmnOperation) (s : σ) :
    performAll hw gnbHandle (ifKept property p l) s =
      if property &&& p = p then performAll hw gnbHandle l s else s := by
  unfold ifKept
  split_ifs <;> rfl

end

/-! ## The interpreter does what the table means -/

open SmnTable.Table

section
variable {σ : Type} (hw : SmnAccess σ) (gnbHandle : GnbHandle) {m : Mem} {width : PointerWidth}
  (modifier property : UInt32)

theorem programNbioSmnTable_eq {table : Table} {p : Nat} (h : table.At m width p) {fuel : Nat}
    (hfuel : table.depth ≤ fuel) (s : σ) :
    programNbioSmnTable hw gnbHandle m width modifier property fuel p s =
      some (table.status, performAll hw gnbHandle (table.operations modifier property) s) := by
  induction table generalizing p fuel s with
  | terminate | invalid =>
    obtain ⟨fuel, rfl⟩ := Nat.exists_eq_add_of_lt hfuel
    simp only [programNbioSmnTable, show entryType (m p) = _ from h]
    rfl
  | wr entry rest ih | rmw entry rest ih =>
    obtain ⟨htype, rfl, hrest⟩ := h
    obtain ⟨fuel, rfl⟩ := Nat.exists_eq_add_of_lt (Nat.zero_lt_of_lt hfuel)
    simp only [Nat.zero_add, programNbioSmnTable, htype]
    rw [ih hrest (by simpa [depth] using hfuel)]
    rfl
  | propertyWr entry rest ih | propertyRmw entry rest ih =>
    obtain ⟨htype, rfl, hrest⟩ := h
    obtain ⟨fuel, rfl⟩ := Nat.exists_eq_add_of_lt (Nat.zero_lt_of_lt hfuel)
    simp only [Nat.zero_add, programNbioSmnTable, htype]
    rw [ih hrest (by simpa [depth] using hfuel), operations, performAll_append, performAll_ifKept]
    rfl
  | table inner rest ihInner ihRest =>
    obtain ⟨htype, hinner, hrest⟩ := h
    obtain ⟨fuel, rfl⟩ := Nat.exists_eq_add_of_lt (Nat.zero_lt_of_lt hfuel)
    obtain ⟨hfuelInner, hfuelRest⟩ : inner.depth ≤ fuel ∧ rest.depth ≤ fuel := by
      simpa [depth] using hfuel
    simp only [Nat.zero_add, programNbioSmnTable, htype]
    rw [ihInner hinner hfuelInner, Option.bind_some, ihRest hrest hfuelRest, operations, performAll_append]
    rfl
  | propertyTable p inner rest ihInner ihRest =>
    obtain ⟨htype, rfl, hinner, hrest⟩ := h
    obtain ⟨fuel, rfl⟩ := Nat.exists_eq_add_of_lt (Nat.zero_lt_of_lt hfuel)
    obtain ⟨hfuelInner, hfuelRest⟩ : inner.depth ≤ fuel ∧ rest.depth ≤ fuel := by
      simpa [depth] using hfuel
    simp only [Nat.zero_add, programNbioSmnTable, htype]
    rw [ihInner hinner hfuelInner, Option.bind_some, operations, performAll_append, performAll_ifKept]
    split_ifs
    · exact ihRest hrest hfuelRest _
    · exact ihRest hrest hfuelRest _

end

theorem Table.WellFormed.status_eq {table : Table} (h : table.WellFormed) : table.status = .silPass := by
  induction table with
  | terminate => rfl
  | invalid => exact h.elim
  | wr _ _ ih | rmw _ _ ih | propertyWr _ _ ih | propertyRmw _ _ ih => exact ih h
  | table _ _ _ ih | propertyTable _ _ _ _ ih => exact ih h.2

/-- A well-formed table is run to its end, whatever the hardware does, and the operations on the registers are those of
the table, depth first. -/
theorem programNbioSmnTable_wellFormed {m : Mem} {width : PointerWidth} {table : Table} {p : Nat}
    (hat : table.At m width p) (hwell : table.WellFormed) (modifier property : UInt32) :
    ∃ n, ∀ fuel ≥ n, ∀ (σ : Type) (hw : SmnAccess σ) (gnbHandle : GnbHandle) (s : σ),
      programNbioSmnTable hw gnbHandle m width modifier property fuel p s =
        some (.silPass, performAll hw gnbHandle (table.operations modifier property) s) :=
  ⟨table.depth, fun _ hfuel _ hw gnbHandle s => by
    rw [programNbioSmnTable_eq hw gnbHandle modifier property hat hfuel, hwell.status_eq]⟩

/-- A table with an inner one for property 2 and an entry that replaces the low byte of the register 0x10. The inner
table, at 32, writes 7 to the register 0x20. -/
def nestedBytes : Mem := ofBytes (
  leBytes 5 4 ++ leBytes 2 4 ++ leBytes 32 4 ++
  leBytes 1 4 ++ leBytes 0x10 4 ++ leBytes 0xFF 4 ++ leBytes 1 4 ++ leBytes 0xFF 4 ++
  leBytes 0 4 ++ leBytes 0x20 4 ++ leBytes 7 4 ++ leBytes 0xFF 4)

def nested : Table := .propertyTable 2 (.wr ⟨0x20, 7⟩ .terminate) (.rmw ⟨0x10, 0xFF, 1⟩ .terminate)

theorem nested_at : nested.At nestedBytes .bits32 0 := ⟨rfl, rfl, ⟨rfl, rfl, rfl⟩, rfl, rfl, rfl⟩

theorem programNbioSmnTable_wellFormed_nested :
    nested.operations 0x1000 3 = [.write 0x1020 7, .readModifyWrite 0x1010 0xFF 1] ∧
    ∃ n, ∀ fuel ≥ n, ∀ (σ : Type) (hw : SmnAccess σ) (gnbHandle : GnbHandle) (s : σ),
      programNbioSmnTable hw gnbHandle nestedBytes .bits32 0x1000 3 fuel 0 s =
        some (.silPass, performAll hw gnbHandle (nested.operations 0x1000 3) s) :=
  ⟨by decide, programNbioSmnTable_wellFormed nested_at ⟨trivial, trivial⟩ 0x1000 3⟩

/-! ## Invalid entries -/

section
variable (modifier property : UInt32)

def Table.reaches : Table → Bool
  | .terminate => false
  | .invalid => true
  | .wr _ rest | .rmw _ rest | .propertyWr _ rest | .propertyRmw _ rest => rest.reaches
  | .table inner rest => inner.reaches || rest.reaches
  | .propertyTable p inner rest => (decide (property &&& p = p) && inner.reaches) || rest.reaches

def Table.before : Table → List SmnOperation
  | .terminate | .invalid => []
  | .wr entry rest => .write (entry.address + modifier) entry.value :: rest.before
  | .rmw entry rest => .readModifyWrite (entry.address + modifier) entry.andMask entry.orMask :: rest.before
  | .propertyWr entry rest =>
    ifKept property entry.property [.write (entry.address + modifier) entry.value] ++ rest.before
  | .propertyRmw entry rest =>
    ifKept property entry.property [.readModifyWrite (entry.address + modifier) entry.andMask entry.orMask] ++
      rest.before
  | .table inner rest => inner.before ++ if inner.reaches property then [] else rest.before
  | .propertyTable p inner rest =>
    ifKept property p inner.before ++ if property &&& p = p ∧ inner.reaches property then [] else rest.before

def Table.after : Table → List SmnOperation
  | .terminate | .invalid => []
  | .wr _ rest | .rmw _ rest | .propertyWr _ rest | .propertyRmw _ rest => rest.after
  | .table inner rest =>
    if inner.reaches property then inner.after ++ rest.operations modifier property else rest.after
  | .propertyTable p inner rest =>
    if property &&& p = p ∧ inner.reaches property then inner.after ++ rest.operations modifier property
    else rest.after

theorem Table.after_eq_nil {table : Table} (h : table.reaches property = false) : table.after modifier property = [] := by
  induction table with
  | terminate => rfl
  | invalid => rfl
  | wr _ _ ih | rmw _ _ ih | propertyWr _ _ ih | propertyRmw _ _ ih => exact ih h
  | table inner rest _ ih =>
    obtain ⟨hinner, hrest⟩ := Bool.or_eq_false_iff.mp h
    rw [after, if_neg (by simp [hinner]), ih hrest]
  | propertyTable p inner rest _ ih =>
    obtain ⟨hinner, hrest⟩ := Bool.or_eq_false_iff.mp h
    rw [after, if_neg (by simpa using hinner), ih hrest]

theorem Table.operations_eq (table : Table) :
    table.operations modifier property = table.before modifier property ++ table.after modifier property := by
  induction table with
  | terminate => rfl
  | invalid => rfl
  | wr entry rest ih | rmw entry rest ih | propertyWr entry rest ih | propertyRmw entry rest ih =>
    simp [operations, before, after, ih]
  | table inner rest ihInner ihRest =>
    rw [operations, before, after]
    by_cases h : inner.reaches property
    · simp [h, ihInner]
    · simp only [h, Bool.false_eq_true, if_false, ihInner, ihRest, after_eq_nil modifier property
        (Bool.eq_false_iff.mpr h), List.append_nil, List.append_assoc]
  | propertyTable p inner rest ihInner ihRest =>
    rw [operations, before, after]
    unfold ifKept
    by_cases hp : property &&& p = p
    · by_cases h : inner.reaches property
      · simp [hp, h, ihInner]
      · simp only [hp, h, Bool.false_eq_true, and_false, if_true, if_false, ihInner, ihRest,
          after_eq_nil modifier property (Bool.eq_false_iff.mpr h), List.append_nil, List.append_assoc]
    · simp [hp, ihRest]

end

def counter : SmnAccess Nat where
  xUSLSmnRead _ _ _ n := (0, n)
  xUSLSmnWrite _ _ _ _ n := n + 1

theorem performAll_counter (gnbHandle : GnbHandle) (l : List SmnOperation) (n : Nat) :
    performAll counter gnbHandle l n = n + l.length := by
  induction l generalizing n with
  | nil => rfl
  | cons op l ih =>
    have hone : perform counter gnbHandle n op = n + 1 := by cases op <;> rfl
    rw [performAll_cons, hone, ih, List.length_cons]
    omega

section
variable (m : Mem) (width : PointerWidth) (modifier property : UInt32)

/-- The run from `p` is given up at the first invalid entry that is reached, with `SilInvalidParameter`. -/
def ReportsInvalid (table : Table) (p : Nat) : Prop :=
  ∃ n, ∀ fuel ≥ n, ∀ (σ : Type) (hw : SmnAccess σ) (gnbHandle : GnbHandle) (s : σ),
    programNbioSmnTable hw gnbHandle m width modifier property fuel p s =
      some (.silInvalidParameter, performAll hw gnbHandle (table.before modifier property) s)

end

/-- A caller drops the status of an inner table and goes on. So the invalid entry is reported only if the outermost table
has one as well, and nothing is programmed between the two. -/
theorem reportsInvalid_iff {m : Mem} {width : PointerWidth} {table : Table} {p : Nat} (hat : table.At m width p)
    (modifier property : UInt32) :
    ReportsInvalid m width modifier property table p ↔
      table.status = .silInvalidParameter ∧ table.after modifier property = [] := by
  have hrun := fun {σ : Type} (hw : SmnAccess σ) (gnbHandle : GnbHandle) (s : σ) (fuel : Nat)
    (hfuel : table.depth ≤ fuel) => programNbioSmnTable_eq hw gnbHandle modifier property hat hfuel s
  constructor
  · rintro ⟨n, hreports⟩
    have heq := (hrun counter ⟨0, 0⟩ 0 (max n table.depth) (le_max_right _ _)).symm.trans
      (hreports _ (le_max_left _ _) Nat counter ⟨0, 0⟩ 0)
    obtain ⟨hstatus, hcount⟩ := Prod.mk.inj (Option.some.inj heq)
    refine ⟨hstatus, ?_⟩
    rw [performAll_counter, performAll_counter, operations_eq, List.length_append] at hcount
    exact List.eq_nil_of_length_eq_zero (by omega)
  · rintro ⟨hstatus, hafter⟩
    refine ⟨table.depth, fun fuel hfuel σ hw gnbHandle s => ?_⟩
    rw [hrun hw gnbHandle s fuel hfuel, hstatus, operations_eq, hafter, List.append_nil]

/-- The first entry points to a table at 24 that has nothing but an unknown type. After it the register 0x10 is written.
-/
def droppedBytes : Mem := ofBytes (
  leBytes 4 4 ++ leBytes 24 4 ++ leBytes 0 4 ++ leBytes 0x10 4 ++ leBytes 1 4 ++ leBytes 0xFF 4 ++ leBytes 6 4)

def dropped : Table := .table .invalid (.wr ⟨0x10, 1⟩ .terminate)

theorem dropped_at : dropped.At droppedBytes .bits32 0 := ⟨rfl, rfl, rfl, rfl, rfl⟩

theorem dropped_not_reported :
    dropped.At droppedBytes .bits32 0 ∧ dropped.reaches 0 = true ∧
      programNbioSmnTable counter ⟨0, 0⟩ droppedBytes .bits32 0 0 3 0 0 = some (.silPass, 1) ∧
      ¬ReportsInvalid droppedBytes .bits32 0 0 dropped 0 := by
  refine ⟨dropped_at, rfl, by decide, ?_⟩
  rintro ⟨n, hreports⟩
  have heq := (programNbioSmnTable_eq counter ⟨0, 0⟩ 0 0 dropped_at (le_max_right n _) 0).symm.trans
    (hreports _ (le_max_left _ _) Nat counter ⟨0, 0⟩ 0)
  exact absurd (congrArg Prod.fst (Option.some.inj heq)) (by decide)

def endedBytes : Mem := ofBytes (leBytes 4 4 ++ leBytes 8 4 ++ leBytes 6 4)

theorem reportsInvalid_ended : ReportsInvalid endedBytes .bits32 0 0 (.table .invalid .invalid) 0 :=
  (reportsInvalid_iff (show (table .invalid .invalid).At endedBytes .bits32 0 from ⟨rfl, rfl, rfl⟩) 0 0).mpr
    ⟨rfl, rfl⟩

end OpenSil.SmnTable
