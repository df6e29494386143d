import OpenSil.CoreTopology
import OpenSil.Lib.Overlay

/-! # SRAT entries

`xPrfCreateSratApicEntry` writes an affinity structure for every thread.
-/

namespace OpenSil.XPrf

open CoreTopology Bytes Overlay List Nat

def apicCompatibilityMode : Nat := 0
def xApicMode : Nat := 1
def x2ApicMode : Nat := 2

def silXapicIdMax : BitVec 32 := 0xFF

def sizeofSilSratApic : Nat := 16
def sizeofSilSratX2Apic : Nat := 24

/-! ## The two structures -/

def storeSratApic (m : Mem) (a : Nat) (domain apicId : BitVec 32) : Mem :=
  let m := writeLE m a 1 0
  let m := writeLE m (a + 1) 1 sizeofSilSratApic
  let m := writeLE m (a + 2) 1 domain.toNat
  let m := writeLE m (a + 9) 3 (domain.toNat / 256)
  let m := writeLE m (a + 3) 1 apicId.toNat
  let m := Function.update m (a + 4) (1 ||| m (a + 4) &&& 0xFE)
  let m := writeLE m (a + 8) 1 0
  writeLE m (a + 12) 4 0

def storeSratX2Apic (m : Mem) (a : Nat) (domain apicId : BitVec 32) : Mem :=
  let m := writeLE m a 1 2
  let m := writeLE m (a + 1) 1 sizeofSilSratX2Apic
  let m := writeLE m (a + 4) 4 domain.toNat
  let m := writeLE m (a + 8) 4 apicId.toNat
  let m := Function.update m (a + 12) (1 ||| m (a + 12) &&& 0xFE)
  writeLE m (a + 16) 4 0

/-! ## The loops -/

structure SratVars where
  sratApic : Mem
  /-- How far the pointer `SratApic` has moved. -/
  cursor : Nat
  apicId : BitVec 32
  numberOfApicIds : Nat

def needsX2 (apicMode : Nat) (apicId : BitVec 32) : Bool :=
  apicMode = x2ApicMode || apicMode = apicCompatibilityMode && silXapicIdMax ≤ apicId

variable {mode : Nat}

theorem needsX2_iff {apicId : BitVec 32} : needsX2 mode apicId = true ↔
    mode = x2ApicMode ∨ mode = apicCompatibilityMode ∧ silXapicIdMax ≤ apicId := by
  simp [needsX2]

def addSratEntry (apicMode : Nat) (v : SratVars) (domain apicId : BitVec 32) : SratVars :=
  if needsX2 apicMode apicId then
    ⟨storeSratX2Apic v.sratApic v.cursor domain apicId, v.cursor + sizeofSilSratX2Apic, apicId, v.numberOfApicIds + 1⟩
  else if apicId < silXapicIdMax then
    ⟨storeSratApic v.sratApic v.cursor domain apicId, v.cursor + sizeofSilSratApic, apicId, v.numberOfApicIds + 1⟩
  else { v with apicId := apicId }

variable (sys : System) (dfDomainXlat : Nat → Nat → Nat → Nat → Option (BitVec 32)) (calcLocalApic : Cpu → BitVec 32)

def sratDie (apicMode socket : Nat) (v : SratVars) (die : Nat) : SratVars :=
  match sys.ccdLogToPhysMap socket die with
  -- no CCD has a physical number then
  | .error _ => v
  | .ok map =>
    let counts := apobGetCoreTopologyOnDie map
    Id.run <| forPresent counts.numberOfCcds map.physCcd v fun v ccd =>
      forPresent counts.numberOfComplexes (map.physComplex ccd) v fun v ccx =>
        match dfDomainXlat socket die ccd ccx with
        | none => pure v
        | some domain =>
          forPresent counts.numberOfCores (map.physCore ccd ccx) v fun v core =>
            (List.range counts.numberOfThreads).foldlM
              (fun v thread => pure (addSratEntry apicMode v domain (calcLocalApic ⟨socket, die, ccd, ccx, core, thread⟩))) v

def sratLoops (apicMode : Nat) (v : SratVars) : SratVars :=
  (List.range sys.numberOfSockets).foldl
    (fun v socket => (List.range (sys.numberOfDies socket)).foldl
      (sratDie sys dfDomainXlat calcLocalApic apicMode socket) v) v

def totalNumberApicId : Nat :=
  let counts := getCoreTopologyOnDie (sys.ccdLogToPhysMap 0 0) ⟨0, 0, 0, 0⟩
  let numberOfDies := if 0 < sys.numberOfSockets then sys.numberOfDies 0 else 0
  sys.numberOfSockets * numberOfDies * counts.numberOfCcds * counts.numberOfComplexes * counts.numberOfCores *
    counts.numberOfThreads % 2 ^ 32

def sratSizeMatches (apicModeValue sratApicSize : Nat) : Bool :=
  apicModeValue = xApicMode && sizeofSilSratApic * totalNumberApicId sys ≤ sratApicSize ||
    apicModeValue = x2ApicMode && sizeofSilSratX2Apic * totalNumberApicId sys ≤ sratApicSize

def sratLength (apicMode : Nat) (apicId : BitVec 32) (numberOfApicIds sratTableLength : Nat) : Nat :=
  if needsX2 apicMode apicId then numberOfApicIds * sizeofSilSratX2Apic
  else if apicId < silXapicIdMax then numberOfApicIds * sizeofSilSratApic
  else sratTableLength

def xPrfCreateSratApicEntry (ccxData : Option Nat) (sratApic : Mem) (sratApicSize apicModeValue sratTableLength : Nat)
    (stack : BitVec 32) : SilStatus × Mem × Nat :=
  if sratSizeMatches sys apicModeValue sratApicSize then
    match ccxData with
    | none => (.silNotFound, sratApic, sratTableLength)
    | some apicMode =>
      let v := sratLoops sys dfDomainXlat calcLocalApic apicMode ⟨sratApic, 0, stack, 0⟩
      (.silPass, v.sratApic, sratLength apicMode v.apicId v.numberOfApicIds sratTableLength)
  else (.silOutOfBounds, sratApic, sratTableLength)

/-! ## Well-formed entries -/

abbrev SratThread := BitVec 32 × BitVec 32

inductive SratEntry where
  | apic (domain apicId : BitVec 32)
  | x2Apic (domain apicId : BitVec 32)

def flagsImage : List (UInt8 × UInt8) := [(1, 0xFE)] ++ reserved 3

/-- The bytes of an entry, with the bits of each that the code leaves alone. -/
def SratEntry.image : SratEntry → List (UInt8 × UInt8)
  | .apic domain apicId =>
    field 0 1 ++ field sizeofSilSratApic 1 ++ field domain.toNat 1 ++ field apicId.toNat 1 ++ flagsImage ++
      field 0 1 ++ field (domain.toNat / 256) 3 ++ field 0 4
  | .x2Apic domain apicId =>
    field 2 1 ++ field sizeofSilSratX2Apic 1 ++ reserved 2 ++ field domain.toNat 4 ++ field apicId.toNat 4 ++ flagsImage ++
      field 0 4 ++ reserved 4

def SratEntry.size : SratEntry → Nat
  | .apic .. => sizeofSilSratApic
  | .x2Apic .. => sizeofSilSratX2Apic

def SratEntry.isX2 : SratEntry → Bool
  | .apic .. => false
  | .x2Apic .. => true

theorem SratEntry.length_image (e : SratEntry) : e.image.length = e.size := by
  cases e <;> rfl

theorem SratEntry.masked_image (e : SratEntry) : Masked e.image := by
  have hflag : Masked [(1, 0xFE)] := by simp only [Masked, forall_mem_singleton]; decide
  cases e <;> simp only [image, flagsImage, masked_append, masked_field, masked_reserved, hflag, and_true]

open SratEntry

theorem storeSratApic_eq (m : Mem) (a : Nat) (domain apicId : BitVec 32) :
    storeSratApic m a domain apicId = overlay a (apic domain apicId).image m := by
  simp only [storeSratApic, image, flagsImage, ← overlay_append, writeLE_eq_overlay, update_eq_overlay,
    overlay_reserved, length_append, length_field, length_reserved, length_singleton]
  -- the upper bytes of the domain are stored before the fields in front of them
  rw [overlay_comm (a := a + 3) (b := a + 9) (by simp), overlay_comm (a := a + 4) (b := a + 9) (by simp),
    overlay_comm (a := a + 8) (b := a + 9) (by simp)]

theorem storeSratX2Apic_eq (m : Mem) (a : Nat) (domain apicId : BitVec 32) :
    storeSratX2Apic m a domain apicId = overlay a (x2Apic domain apicId).image m := by
  simp only [storeSratX2Apic, image, flagsImage, ← overlay_append, writeLE_eq_overlay, update_eq_overlay,
    overlay_reserved, length_append, length_field, length_reserved, length_singleton]

/-! ## What the loops write -/

def writtenEntry (apicMode : Nat) (t : SratThread) : Option SratEntry :=
  if needsX2 apicMode t.2 then some (.x2Apic t.1 t.2)
  else if t.2 < silXapicIdMax then some (.apic t.1 t.2)
  else none

def images (entries : List SratEntry) : List (UInt8 × UInt8) := entries.flatMap SratEntry.image

theorem addSratEntry_eq (mode : Nat) (v : SratVars) (t : SratThread) :
    addSratEntry mode v t.1 t.2 =
      let entries := (writtenEntry mode t).toList
      ⟨overlay v.cursor (images entries) v.sratApic, v.cursor + (images entries).length, t.2,
        v.numberOfApicIds + entries.length⟩ := by
  unfold addSratEntry writtenEntry images
  split_ifs
  · simp [storeSratX2Apic_eq, SratEntry.length_image, SratEntry.size]
  · simp [storeSratApic_eq, SratEntry.length_image, SratEntry.size]
  · simp

theorem foldl_addSratEntry (mode : Nat) (ts : List SratThread) (v : SratVars) :
    ts.foldl (fun v t => addSratEntry mode v t.1 t.2) v =
      let entries := ts.filterMap (writtenEntry mode)
      ⟨overlay v.cursor (images entries) v.sratApic, v.cursor + (images entries).length,
        (ts.getLast?.map Prod.snd).getD v.apicId, v.numberOfApicIds + entries.length⟩ := by
  induction ts generalizing v with
  | nil => simp [images]
  | cons t ts ih =>
    have hentries : (t :: ts).filterMap (writtenEntry mode) =
        (writtenEntry mode t).toList ++ ts.filterMap (writtenEntry mode) := by
      rw [filterMap_cons]
      cases writtenEntry mode t <;> rfl
    have himages : ∀ l l', images (l ++ l') = images l ++ images l' := fun _ _ => flatMap_append
    have hlast : ((t :: ts).getLast?.map Prod.snd).getD v.apicId = (ts.getLast?.map Prod.snd).getD t.2 := by
      rw [getLast?_cons]
      cases ts.getLast? <;> rfl
    rw [foldl_cons, ih, addSratEntry_eq]
    dsimp only
    rw [hentries, himages, overlay_append, hlast, length_append, length_append, add_assoc, add_assoc]

def presentCpus (socket die : Nat) : List Cpu :=
  match sys.ccdLogToPhysMap socket die with
  | .error _ => []
  | .ok map => dieCpus map socket die

def sratThread (cpu : Cpu) : Option SratThread :=
  (dfDomainXlat cpu.socket cpu.die cpu.ccd cpu.ccx).map fun domain => (domain, calcLocalApic cpu)

def sratThreads : List SratThread :=
  ((List.range sys.numberOfSockets).flatMap fun socket =>
    (List.range (sys.numberOfDies socket)).flatMap (presentCpus sys socket)).filterMap (sratThread dfDomainXlat calcLocalApic)

theorem sratDie_eq (mode socket : Nat) (v : SratVars) (die : Nat) :
    sratDie sys dfDomainXlat calcLocalApic mode socket v die =
      ((presentCpus sys socket die).filterMap (sratThread dfDomainXlat calcLocalApic)).foldl
        (fun v t => addSratEntry mode v t.1 t.2) v := by
  unfold sratDie presentCpus
  cases sys.ccdLogToPhysMap socket die with
  | error status => rfl
  | ok map =>
    simp only [forPresent_eq, idRun_foldlM, dieCpus, foldl_filterMap, foldl_flatMap, foldl_map,
      sratThread]
    refine foldl_ext _ _ _ fun v ccd _ => foldl_ext _ _ _ fun v ccx _ => ?_
    cases dfDomainXlat socket die ccd ccx with
    | none => simp
    | some domain => simp only [idRun_foldlM, Id.run_pure, Option.map_some]

theorem sratLoops_eq (mode : Nat) (v : SratVars) :
    sratLoops sys dfDomainXlat calcLocalApic mode v =
      (sratThreads sys dfDomainXlat calcLocalApic).foldl (fun v t => addSratEntry mode v t.1 t.2) v := by
  unfold sratLoops sratThreads
  rw [filterMap_flatMap, foldl_flatMap]
  refine foldl_ext _ _ _ fun v socket _ => ?_
  rw [filterMap_flatMap, foldl_flatMap]
  exact foldl_ext _ _ _ fun v die _ => sratDie_eq sys dfDomainXlat calcLocalApic mode socket v die

/-! ## What should be written -/

def sratEntry (apicMode : Nat) (t : SratThread) : SratEntry :=
  if apicMode = x2ApicMode ∨ silXapicIdMax ≤ t.2 then .x2Apic t.1 t.2 else .apic t.1 t.2

def sratEntries (apicMode : Nat) (threads : List SratThread) : List SratEntry := threads.map (sratEntry apicMode)

/-- The buffer starts with the entries of the threads, `length` is their length, and nothing behind them is written. -/
structure SratCorrect (apicMode : Nat) (threads : List SratThread) (sratApicSize : Nat) (before after : Mem)
    (length : Nat) : Prop where
  length_eq : length = (images (sratEntries apicMode threads)).length
  bytes : StartsWith after ((images (sratEntries apicMode threads)).map Prod.fst)
  fits : length ≤ sratApicSize
  rest : ∀ x, length ≤ x → after x = before x

def SratUniform (apicMode : Nat) (threads : List SratThread) : Prop :=
  apicMode = x2ApicMode ∨
  (apicMode = apicCompatibilityMode ∧ ((∀ t ∈ threads, silXapicIdMax ≤ t.2) ∨ ∀ t ∈ threads, t.2 < silXapicIdMax)) ∨
  (apicMode ≠ x2ApicMode ∧ apicMode ≠ apicCompatibilityMode ∧ threads ≠ [] ∧ ∀ t ∈ threads, t.2 < silXapicIdMax)

theorem length_images (entries : List SratEntry) :
    (images entries).length = 16 * entries.length + 8 * entries.countP isX2 := by
  induction entries with
  | nil => rfl
  | cons e entries ih =>
    unfold images at ih ⊢
    rw [flatMap_cons, length_append, ih, length_image, countP_cons, length_cons]
    cases e <;> simp [SratEntry.size, SratEntry.isX2, sizeofSilSratApic, sizeofSilSratX2Apic] <;> omega

theorem isX2_sratEntry (mode : Nat) (t : SratThread) :
    (sratEntry mode t).isX2 = true ↔ mode = x2ApicMode ∨ silXapicIdMax ≤ t.2 := by
  unfold sratEntry
  split_ifs with h
  · exact iff_of_true rfl h
  · exact iff_of_false Bool.false_ne_true h

variable {ts : List SratThread}

theorem countP_sratEntries_eq_length :
    (sratEntries mode ts).countP isX2 = ts.length ↔
      ∀ t ∈ ts, mode = x2ApicMode ∨ silXapicIdMax ≤ t.2 := by
  unfold sratEntries
  rw [← length_map (sratEntry mode), countP_eq_length, forall_mem_map]
  simp only [isX2_sratEntry]

theorem countP_sratEntries_eq_zero (hmode : mode ≠ x2ApicMode) :
    (sratEntries mode ts).countP isX2 = 0 ↔ ∀ t ∈ ts, t.2 < silXapicIdMax := by
  unfold sratEntries
  rw [countP_eq_zero, forall_mem_map]
  simp only [isX2_sratEntry, hmode, false_or, BitVec.not_le]

def lastApicId (threads : List SratThread) (stack : BitVec 32) : BitVec 32 := (threads.getLast?.map Prod.snd).getD stack

theorem lastApicId_mem (h : ts ≠ []) (stack : BitVec 32) : ∃ t ∈ ts, lastApicId ts stack = t.2 := by
  refine ⟨ts.getLast h, getLast_mem h, ?_⟩
  unfold lastApicId
  rw [getLast?_eq_getLast_of_ne_nil h]
  rfl

theorem writtenEntry_eq {t : SratThread}
    (h : mode = x2ApicMode ∨ mode = apicCompatibilityMode ∨ t.2 < silXapicIdMax) :
    writtenEntry mode t = some (sratEntry mode t) := by
  unfold writtenEntry sratEntry needsX2
  rcases h with rfl | rfl | hlt
  · simp
  · by_cases hid : silXapicIdMax ≤ t.2
    · simp [hid]
    · simp [hid, BitVec.not_le.mp hid, show apicCompatibilityMode ≠ x2ApicMode by decide]
  · grind

theorem filterMap_writtenEntry
    (h : ∀ t ∈ ts, mode = x2ApicMode ∨ mode = apicCompatibilityMode ∨ t.2 < silXapicIdMax) :
    ts.filterMap (writtenEntry mode) = sratEntries mode ts := by
  unfold sratEntries
  rw [← filterMap_eq_map]
  exact filterMap_congr fun t ht => writtenEntry_eq (h t ht)

theorem SratUniform.writes (h : SratUniform mode ts) :
    ts.filterMap (writtenEntry mode) = sratEntries mode ts := by
  apply filterMap_writtenEntry
  intro t ht
  rcases h with h | ⟨h, -⟩ | ⟨-, -, -, h⟩
  · exact .inl h
  · exact .inr (.inl h)
  · exact .inr (.inr (h t ht))

def countedEntries (apicMode : Nat) (threads : List SratThread) : Nat := (threads.filterMap (writtenEntry apicMode)).length

theorem SratUniform.length_eq (h : SratUniform mode ts) (stack : BitVec 32) (len : Nat) :
    sratLength mode (lastApicId ts stack) (countedEntries mode ts) len =
      (images (sratEntries mode ts)).length := by
  have hn : (sratEntries mode ts).length = ts.length := length_map _
  have hx2 : needsX2 mode (lastApicId ts stack) = true →
      (∀ t ∈ ts, mode = x2ApicMode ∨ silXapicIdMax ≤ t.2) → sratLength mode (lastApicId ts stack)
        ts.length len = (images (sratEntries mode ts)).length := by
    intro hneeds hall
    rw [sratLength, if_pos hneeds, length_images, hn, countP_sratEntries_eq_length.mpr hall, sizeofSilSratX2Apic]
    omega
  have hx : mode ≠ x2ApicMode → lastApicId ts stack < silXapicIdMax → (∀ t ∈ ts, t.2 < silXapicIdMax) →
      sratLength mode (lastApicId ts stack) ts.length len =
        (images (sratEntries mode ts)).length := by
    intro hmode hlast hall
    have hneeds : ¬ needsX2 mode (lastApicId ts stack) = true := by
      rw [needsX2_iff]
      exact not_or.mpr ⟨hmode, fun hid => BitVec.not_le.mpr hlast hid.2⟩
    rw [sratLength, if_neg hneeds, if_pos hlast, length_images, hn, (countP_sratEntries_eq_zero hmode).mpr hall,
      sizeofSilSratApic]
    omega
  rw [countedEntries, h.writes, hn]
  rcases h with hmode | ⟨hmode, h⟩ | ⟨hmode, -, hne, hall⟩
  · exact hx2 (needsX2_iff.mpr (.inl hmode)) fun _ _ => .inl hmode
  · have hmode' : mode ≠ x2ApicMode := hmode ▸ by decide
    by_cases hne : ts = []
    · -- no entries: the variable decides between two lengths of 0
      subst hne
      by_cases hid : silXapicIdMax ≤ lastApicId [] stack
      · exact hx2 (needsX2_iff.mpr (.inr ⟨hmode, hid⟩)) (by simp)
      · exact hx hmode' (BitVec.not_le.mp hid) (by simp)
    · obtain ⟨t, ht, hlast⟩ := lastApicId_mem hne stack
      rcases h with hall | hall
      · exact hx2 (needsX2_iff.mpr (.inr ⟨hmode, hlast ▸ hall t ht⟩)) fun t ht => .inr (hall t ht)
      · exact hx hmode' (hlast ▸ hall t ht) hall
  · obtain ⟨t, ht, hlast⟩ := lastApicId_mem hne stack
    exact hx hmode (hlast ▸ hall t ht) hall

theorem sratUniform_of_length
    (h : ∀ stack len, sratLength mode (lastApicId ts stack) (countedEntries mode ts)
      len = (images (sratEntries mode ts)).length) : SratUniform mode ts := by
  have hn : (sratEntries mode ts).length = ts.length := length_map _
  by_cases hx2 : mode = x2ApicMode
  · exact .inl hx2
  by_cases hcompat : mode = apicCompatibilityMode
  · have hcount : countedEntries mode ts = ts.length := by
      unfold countedEntries
      rw [filterMap_writtenEntry fun _ _ => .inr (.inl hcompat), hn]
    have hlen := h 0 0
    rw [hcount, length_images, hn] at hlen
    refine .inr (.inl ⟨hcompat, ?_⟩)
    by_cases hid : silXapicIdMax ≤ lastApicId ts 0
    · left
      rw [sratLength, if_pos (needsX2_iff.mpr (.inr ⟨hcompat, hid⟩)), sizeofSilSratX2Apic] at hlen
      have := countP_sratEntries_eq_length.mp (show (sratEntries mode ts).countP isX2 = _ by omega)
      exact fun t ht => (this t ht).resolve_left hx2
    · right
      have hneeds : ¬ needsX2 mode (lastApicId ts 0) = true := by
        rw [needsX2_iff]
        exact not_or.mpr ⟨hx2, fun h => hid h.2⟩
      rw [sratLength, if_neg hneeds, if_pos (BitVec.not_le.mp hid), sizeofSilSratApic] at hlen
      exact (countP_sratEntries_eq_zero hx2).mp (by omega)
  · -- a length that is not written would have to be right by chance
    have hlen := h silXapicIdMax ((images (sratEntries mode ts)).length + 1)
    have hneeds : ¬ needsX2 mode (lastApicId ts silXapicIdMax) = true := by simp [needsX2, hx2, hcompat]
    rw [sratLength, if_neg hneeds] at hlen
    split_ifs at hlen with hid
    · have hle : countedEntries mode ts ≤ ts.length := length_filterMap_le _ _
      rw [length_images, hn, sizeofSilSratApic] at hlen
      refine .inr (.inr ⟨hx2, hcompat, ?_, (countP_sratEntries_eq_zero hx2).mp (by omega)⟩)
      rintro rfl
      exact absurd hid (by decide)
    · omega

/-! ## The buffer of the host -/

theorem masked_images (entries : List SratEntry) : Masked (images entries) := by
  intro c hc
  obtain ⟨e, -, hc⟩ := mem_flatMap.mp hc
  exact e.masked_image c hc

theorem xPrfCreateSratApicEntry_eq (mode : Nat) (sratApic : Mem) (sratApicSize apicModeValue len : Nat)
    (stack : BitVec 32) (h : sratSizeMatches sys apicModeValue sratApicSize = true) :
    xPrfCreateSratApicEntry sys dfDomainXlat calcLocalApic (some mode) sratApic sratApicSize apicModeValue
        len stack =
      let ts := sratThreads sys dfDomainXlat calcLocalApic
      (.silPass, overlay 0 (images (ts.filterMap (writtenEntry mode))) sratApic,
        sratLength mode (lastApicId ts stack) (countedEntries mode ts) len) := by
  unfold xPrfCreateSratApicEntry
  rw [if_pos h]
  dsimp only
  rw [sratLoops_eq, foldl_addSratEntry]
  dsimp only
  rw [zero_add]
  rfl

/-- Whatever the variables held before, the entries are right exactly if all threads have one kind of entry, the buffer
has room for them, and their reserved bits are zero in it. -/
theorem xPrfCreateSratApicEntry_correct_iff (apicMode : Nat) (sratApic : Mem) (sratApicSize apicModeValue : Nat) :
    let threads := sratThreads sys dfDomainXlat calcLocalApic
    (∀ sratTableLength stack,
      let r := xPrfCreateSratApicEntry sys dfDomainXlat calcLocalApic (some apicMode) sratApic sratApicSize apicModeValue
        sratTableLength stack
      r.1 = .silPass → SratCorrect apicMode threads sratApicSize sratApic r.2.1 r.2.2) ↔
    (sratSizeMatches sys apicModeValue sratApicSize = true →
      SratUniform apicMode threads ∧ (images (sratEntries apicMode threads)).length ≤ sratApicSize ∧
        Clean (images (sratEntries apicMode threads)) sratApic) := by
  intro threads
  have hrun := xPrfCreateSratApicEntry_eq sys dfDomainXlat calcLocalApic apicMode sratApic sratApicSize apicModeValue
  constructor
  · intro h hsize
    have hcorrect : ∀ sratTableLength stack, SratCorrect apicMode threads sratApicSize sratApic
        (overlay 0 (images (threads.filterMap (writtenEntry apicMode))) sratApic)
        (sratLength apicMode (lastApicId threads stack) (countedEntries apicMode threads) sratTableLength) := by
      intro sratTableLength stack
      have hr := h sratTableLength stack
      rw [hrun sratTableLength stack hsize] at hr
      exact hr rfl
    have huniform : SratUniform apicMode threads :=
      sratUniform_of_length fun stack sratTableLength => (hcorrect sratTableLength stack).length_eq
    have hc := hcorrect 0 0
    refine ⟨huniform, ?_, ?_⟩
    · rw [← huniform.length_eq 0 0]
      exact hc.fits
    · rw [← startsWith_overlay_iff (masked_images _)]
      have hbytes := hc.bytes
      rwa [huniform.writes] at hbytes
  · intro h sratTableLength stack r hpass
    have hsize : sratSizeMatches sys apicModeValue sratApicSize = true := by
      by_contra hsize
      have : r.1 = .silOutOfBounds := by
        show (xPrfCreateSratApicEntry ..).1 = _
        rw [xPrfCreateSratApicEntry, if_neg hsize]
      rw [this] at hpass
      exact absurd hpass (by decide)
    obtain ⟨huniform, hroom, hclean⟩ := h hsize
    have hr : r = _ := hrun sratTableLength stack hsize
    have hlength : r.2.2 = (images (sratEntries apicMode threads)).length := by
      rw [hr]
      exact huniform.length_eq stack sratTableLength
    have hmem : r.2.1 = overlay 0 (images (sratEntries apicMode threads)) sratApic := by
      rw [hr, ← huniform.writes]
    refine ⟨hlength, ?_, hlength.trans_le hroom, fun x hx => ?_⟩
    · rw [hmem]
      exact (startsWith_overlay_iff (masked_images _)).mpr hclean
    · rw [hmem]
      exact overlay_of_ge (by rw [zero_add, ← hlength]; exact hx)

/-- The check for xAPIC entries passes, and x2APIC entries are written over the end of the buffer. -/
theorem x2_entries_overrun :
    let r := xPrfCreateSratApicEntry oneCoreSystem (fun _ _ _ _ => some 0) (fun cpu => BitVec.ofNat 32 cpu.thread)
      (some x2ApicMode) (fun _ => 0) 32 xApicMode 0 0
    r.1 = .silPass ∧ r.2.2 = 48 ∧ r.2.1 32 = 1 ∧
      ¬ SratCorrect x2ApicMode (sratThreads oneCoreSystem (fun _ _ _ _ => some 0) fun cpu => BitVec.ofNat 32 cpu.thread)
        32 (fun _ => 0) r.2.1 r.2.2 := by
  refine ⟨by decide +kernel, by decide +kernel, by decide +kernel, fun h => ?_⟩
  exact absurd h.fits (by decide +kernel)

end OpenSil.XPrf
