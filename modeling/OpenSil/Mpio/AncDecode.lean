import OpenSil.Mpio.AncBlob

/-! # Reading the ancillary data back -/

namespace OpenSil.Mpio.AncBlob

open List Nat Option

def dword (b0 b1 b2 b3 : UInt8) : UInt32 := .ofNat (b0.toNat + 256 * (b1.toNat + 256 * (b2.toNat + 256 * b3.toNat)))

def value : Dword → UInt32
  | .ancillary id length => dword 1 id length 0
  | .phyHeader id length => dword ancPhyOvrd id length 0
  | .phyData value => value
  | .spdHeader lane ovrdType length => dword ancSpeedOvrd ovrdType length lane
  | .spdData value => value
  | .listHeader id => dword 2 id 2 0
  | .listData ofs0 ofs1 => .ofNat (ofs0.toNat + 65536 * (ofs1.getD 0).toNat)

def recordValues (mem : Records) (p : Nat) (length : UInt8) : List UInt32 :=
  (List.range (length.toNat - 1)).map fun i => (mem (p + sizeofDword * (i + 1))).elim 0 value

/-- The length of a header, and which group it starts. -/
def headerKind : Dword → Option (UInt8 × (List UInt32 → List UInt32 × List UInt32))
  | .phyHeader _ length => some (length, (·, []))
  | .spdHeader _ _ length => some (length, ([], ·))
  | _ => none

def decodeElement (mem : Records) (base : Nat) (ofs : UInt16) : Option (List UInt32 × List UInt32) :=
  let p := base + sizeofDword * ofs.toNat
  if ofs = 0 then some ([], [])
  else ((mem p).bind headerKind).map fun header => header.2 (recordValues mem p header.1)

def decodeList (stale : UInt16) (mem : Records) (base : Nat) (idx : UInt16) : Option (List UInt32 × List UInt32) :=
  let p := base + sizeofDword * idx.toNat
  match mem p, mem (p + sizeofDword) with
  | some (.listHeader _), some (.listData ofs0 ofs1) => do
    let first ← decodeElement mem base ofs0
    let second ← decodeElement mem base (ofs1.getD stale)
    some (first.1 ++ second.1, first.2 ++ second.2)
  | _, _ => none

def decode (stale : UInt16) (mem : Records) (base : Nat) (idx : Option UInt16) : Option (List UInt32 × List UInt32) :=
  idx.elim (some ([], [])) (decodeList stale mem base)

def ofType (type : UInt8) (port : AncPort) : List AncDataParam := (port.ovrd.getD []).filter (·.type = type)

def known (port : AncPort) : List AncDataParam :=
  (port.ovrd.getD []).filter fun o => o.type = ancPhyOvrd ∨ o.type = ancSpeedOvrd

/-- The overrides of each type stand together. -/
def Grouped (port : AncPort) : Prop :=
  known port = ofType ancPhyOvrd port ++ ofType ancSpeedOvrd port ∨
    known port = ofType ancSpeedOvrd port ++ ofType ancPhyOvrd port

def ovrdValues (port : AncPort) : List UInt32 × List UInt32 :=
  ((ofType ancPhyOvrd port).map (·.value), (ofType ancSpeedOvrd port).map (·.value))

/-! ## One group -/

/-- The records of a group. Without values there are none. -/
def groupWords (kind : UInt8 → Dword) (data : UInt32 → Dword) (length : UInt8) (vs : List UInt32) : List Dword :=
  if vs = [] then [] else kind length :: vs.map data

/-- The header of a group behind `n` records. -/
def headerAt (n : Nat) (vs : List UInt32) : Option Nat := if vs = [] then none else some n

def ofsOf (header : Option Nat) : UInt16 := header.elim 0 fun i => .ofNat (i + 1)

/-- Header and data of one kind of group, and where its values are read to. -/
structure IsKind (kind : UInt8 → Dword) (data : UInt32 → Dword)
    (read : List UInt32 → List UInt32 × List UInt32) : Prop where
  setLength : ∀ size, setLength size (kind 0) = kind (.ofNat (size / 4))
  header : ∀ length, headerKind (kind length) = some (length, read)
  read_nil : read [] = ([], [])
  value : ∀ v, value (data v) = v

section
variable {base n : Nat} {words front back : List Dword} {mem : Records} {kind : UInt8 → Dword} {data : UInt32 → Dword}
  {read : List UInt32 → List UInt32 × List UInt32} {vs : List UInt32}

theorem length_append_groupWords (kind : UInt8 → Dword) (data : UInt32 → Dword) (front : List Dword)
    (vs : List UInt32) (length length' : UInt8) :
    (front ++ groupWords kind data length vs).length = (front ++ groupWords kind data length' vs).length := by
  unfold groupWords
  split_ifs <;> simp

theorem modify_length_append (front back : List Dword) (w : Dword) (f : Dword → Dword) :
    (front ++ w :: back).modify front.length f = front ++ f w :: back := by
  rw [modify_eq_take_drop]
  simp

theorem IsKind.closeHeader (h : IsKind kind data read) (hwords : words = front ++ groupWords kind data 0 vs ++ back)
    (hn : n = front.length) :
    Mpio.closeHeader words (headerAt n vs) (groupSize vs.length) =
      (front ++ groupWords kind data (.ofNat (vs.length + 1)) vs ++ back, ofsOf (headerAt n vs)) := by
  subst hwords hn
  cases vs with
  | nil => rfl
  | cons v vs =>
    have hsize : groupSize (v :: vs).length / 4 = (v :: vs).length + 1 := by
      rw [groupSize, if_neg (by simp), sizeofDword]
      omega
    simp only [groupWords, headerAt, reduceCtorEq, if_false, Mpio.closeHeader]
    rw [if_pos (groupSize_eq_zero.not.mpr (by simp)), append_assoc, cons_append, modify_length_append,
      h.setLength, hsize, append_assoc, cons_append]
    rfl

theorem base_add_ofs {ofs : Nat} (h : ofs + 1 < 2 ^ 16) :
    base + sizeofDword * (UInt16.ofNat (ofs + 1)).toNat = place base ofs := by
  rw [UInt16.toNat_ofNat', mod_eq_of_lt h, place, sizeofDword, sizeofGenericAncHeader]
  omega

theorem ofNat_succ_ne_zero {ofs : Nat} (h : ofs + 1 < 2 ^ 16) : UInt16.ofNat (ofs + 1) ≠ 0 := by
  rw [ne_eq, ← UInt16.toNat_inj, UInt16.toNat_ofNat', mod_eq_of_lt h]
  exact succ_ne_zero ofs

theorem Laid.of_getElem? {i : Nat} (h : Laid base words mem) {w : Dword} (hw : words[i]? = some w) :
    mem (place base i) = some w := by
  rw [h i (List.getElem?_eq_some_iff.mp hw).1, hw]

theorem IsKind.decodeElement (h : IsKind kind data read) (hmem : Laid base words mem)
    (hwords : words = front ++ groupWords kind data (.ofNat (vs.length + 1)) vs ++ back) (hn : n = front.length)
    (hvs : vs.length ≤ 254) (hofs : n + 1 < 2 ^ 16) : decodeElement mem base (ofsOf (headerAt n vs)) = some (read vs) := by
  subst hn
  rcases eq_or_ne vs [] with rfl | hne
  · rw [h.read_nil]
    rfl
  rw [hwords, groupWords, if_neg hne] at hmem
  have hheader := hmem.of_getElem? (i := front.length) (w := kind (.ofNat (vs.length + 1))) (by simp)
  have hvalues : recordValues mem (place base front.length) (.ofNat (vs.length + 1)) = vs := by
    unfold recordValues
    rw [UInt8.toNat_ofNat', Nat.mod_eq_of_lt (by omega), Nat.add_sub_cancel]
    refine ext_getElem (by simp) fun k _ hk => ?_
    have hplace : place base front.length + sizeofDword * (k + 1) = place base (front.length + (k + 1)) := by
      unfold place
      ring
    have hword := hmem.of_getElem? (i := front.length + (k + 1)) (w := data vs[k]) (by
      rw [List.append_assoc, List.getElem?_append_right (by omega), Nat.add_sub_cancel_left, List.cons_append,
        getElem?_cons_succ, getElem?_append_left (by simpa using hk), getElem?_map,
        getElem?_eq_getElem hk, map_some])
    simp only [getElem_map, getElem_range, hplace, hword, elim_some, h.value]
  rw [headerAt, if_neg hne, ofsOf, elim_some, AncBlob.decodeElement,
    if_neg (ofNat_succ_ne_zero hofs), base_add_ofs hofs, hheader, bind_some, h.header, map_some, hvalues]

theorem IsKind.decodeElement_pair {kind' : UInt8 → Dword} {data' : UInt32 → Dword} {vs' : List UInt32}
    {read' : List UInt32 → List UInt32 × List UInt32} (h : IsKind kind data read) (h' : IsKind kind' data' read')
    (hvs : vs.length ≤ 254) (hvs' : vs'.length ≤ 254) (hwords : words = front ++
      groupWords kind data (.ofNat (vs.length + 1)) vs ++ groupWords kind' data' (.ofNat (vs'.length + 1)) vs')
    (hmem : Laid base (words ++ back) mem) (hofs : words.length + 1 < 2 ^ 16) :
    AncBlob.decodeElement mem base (ofsOf (headerAt front.length vs)) = some (read vs) ∧
      AncBlob.decodeElement mem base (ofsOf (headerAt (front ++ groupWords kind data 0 vs).length vs')) = some (read' vs') := by
  have hlength := length_append_groupWords kind data front vs 0 (.ofNat (vs.length + 1))
  subst hwords
  rw [length_append, ← hlength] at hofs
  have hle := le_add_right front.length (groupWords kind data 0 vs).length
  rw [← length_append] at hle
  exact ⟨h.decodeElement hmem (append_assoc ..) rfl hvs (by omega),
    h'.decodeElement hmem rfl hlength hvs' (by omega)⟩

end

/-! ## The groups of a port -/

def spdHeaderOf (port : AncPort) (length : UInt8) : Dword :=
  .spdHeader (if port.startLane < port.endLane then port.startLane else port.endLane)
    (if port.engineType = mpioPcieEngine then 0 else 1) length

section
variable {port : AncPort} {l : List AncDataParam} {e : Emission}

theorem foldl_known (port : AncPort) (e : Emission) :
    (port.ovrd.getD []).foldl (Mpio.addOvrd port) e = (known port).foldl (Mpio.addOvrd port) e := by
  rw [known, foldl_filter]
  refine foldl_ext _ _ _ fun e o _ => ?_
  by_cases ho : o.type = ancPhyOvrd ∨ o.type = ancSpeedOvrd
  · simp [ho]
  · rw [not_or] at ho
    simp [Mpio.addOvrd, ho.1, ho.2]

theorem foldl_phyData (hl : ∀ o ∈ l, o.type = ancPhyOvrd) {i : Nat} (he : e.phyHeader = some i) :
    l.foldl (Mpio.addOvrd port) e =
      { e with words := e.words ++ (l.map (·.value)).map .phyData, phyDataSize := e.phyDataSize + sizeofDword * l.length } := by
  induction l generalizing e with
  | nil => simp
  | cons o l ih =>
    rw [forall_mem_cons] at hl
    rw [foldl_cons, Mpio.addOvrd, if_pos hl.1, Mpio.addPhyOvrdData, he]
    refine (ih hl.2 ?_).trans ?_
    · exact he
    · simp [he]
      ring

theorem foldl_spdData (hl : ∀ o ∈ l, o.type = ancSpeedOvrd) {i : Nat} (he : e.spdHeader = some i) :
    l.foldl (Mpio.addOvrd port) e =
      { e with words := e.words ++ (l.map (·.value)).map .spdData, spdDataSize := e.spdDataSize + sizeofDword * l.length } := by
  induction l generalizing e with
  | nil => simp
  | cons o l ih =>
    rw [forall_mem_cons] at hl
    have hphy : o.type ≠ ancPhyOvrd := by rw [hl.1]; decide
    rw [foldl_cons, Mpio.addOvrd, if_neg hphy, if_pos hl.1, Mpio.addSpdOvrdData, he]
    refine (ih hl.2 ?_).trans ?_
    · exact he
    · simp [he]
      ring

theorem foldl_phy (port : AncPort) (e : Emission) (hl : ∀ o ∈ l, o.type = ancPhyOvrd) (he : e.phyHeader = none) :
    let e' := l.foldl (Mpio.addOvrd port) e
    e'.words = e.words ++ groupWords (.phyHeader e.phyId) .phyData 0 (l.map (·.value)) ∧
      e'.phyHeader = headerAt e.words.length (l.map (·.value)) ∧ e'.spdHeader = e.spdHeader := by
  cases l with
  | nil => exact ⟨(append_nil _).symm, he, rfl⟩
  | cons o l =>
    rw [forall_mem_cons] at hl
    dsimp only
    rw [foldl_cons, Mpio.addOvrd, if_pos hl.1, Mpio.addPhyOvrdData, he, foldl_phyData hl.2 rfl]
    simp [groupWords, headerAt]

theorem foldl_spd (port : AncPort) (e : Emission) (hl : ∀ o ∈ l, o.type = ancSpeedOvrd) (he : e.spdHeader = none) :
    let e' := l.foldl (Mpio.addOvrd port) e
    e'.words = e.words ++ groupWords (spdHeaderOf port) .spdData 0 (l.map (·.value)) ∧
      e'.spdHeader = headerAt e.words.length (l.map (·.value)) ∧ e'.phyHeader = e.phyHeader ∧ e'.phyId = e.phyId := by
  cases l with
  | nil => exact ⟨(append_nil _).symm, he, rfl, rfl⟩
  | cons o l =>
    rw [forall_mem_cons] at hl
    have hphy : o.type ≠ ancPhyOvrd := by rw [hl.1]; decide
    dsimp only
    rw [foldl_cons, Mpio.addOvrd, if_neg hphy, if_pos hl.1, Mpio.addSpdOvrdData, he, foldl_spdData hl.2 rfl]
    simp [groupWords, headerAt, spdHeaderOf]

theorem type_of_mem_ofType (type : UInt8) (port : AncPort) : ∀ o ∈ ofType type port, o.type = type := fun _ ho =>
  of_decide_eq_true (mem_filter.mp ho).2

theorem isKind_phy (id : UInt8) : IsKind (.phyHeader id) .phyData (·, []) :=
  ⟨fun _ => rfl, fun _ => rfl, rfl, fun _ => rfl⟩

theorem isKind_spd (port : AncPort) : IsKind (spdHeaderOf port) .spdData ([], ·) :=
  ⟨fun _ => rfl, fun _ => rfl, rfl, fun _ => rfl⟩

end

/-! ## The whole blob -/

/-- From the records `words`, whatever comes behind them, the two offsets lead to the values. -/
def Decodes (base : Nat) (words : List Dword) (phyOfs spdOfs : UInt16) (phy spd : List UInt32) : Prop :=
  ∀ rest mem, Laid base (words ++ rest) mem → words.length + 1 < 2 ^ 16 →
    decodeElement mem base phyOfs = some (phy, []) ∧ decodeElement mem base spdOfs = some ([], spd)

theorem Grouped.decodes {port : AncPort} (h : Grouped port) (base : Nat) (words : List Dword) (id : UInt8)
    (hphyLe : (ovrdValues port).1.length ≤ 254) (hspdLe : (ovrdValues port).2.length ≤ 254) :
    let e := (port.ovrd.getD []).foldl (Mpio.addOvrd port) ⟨words, none, none, 0, 0, id⟩
    let phy := Mpio.closeHeader e.words e.phyHeader (groupSize (ovrdValues port).1.length)
    let spd := Mpio.closeHeader phy.1 e.spdHeader (groupSize (ovrdValues port).2.length)
    words <+: spd.1 ∧ Decodes base spd.1 phy.2 spd.2 (ovrdValues port).1 (ovrdValues port).2 := by
  have hphy := type_of_mem_ofType ancPhyOvrd port
  have hspd := type_of_mem_ofType ancSpeedOvrd port
  dsimp only [ovrdValues] at hphyLe hspdLe ⊢
  rw [foldl_known]
  rcases h with hknown | hknown <;> rw [hknown, foldl_append]
  · obtain ⟨hwords, hheader, hnone⟩ := foldl_phy port ⟨words, none, none, 0, 0, id⟩ hphy rfl
    obtain ⟨hwords', hheader', hkept, -⟩ := foldl_spd port _ hspd hnone
    rw [hwords', hheader', hkept, hheader, hwords]
    dsimp only
    rw [(isKind_phy id).closeHeader rfl rfl,
      (isKind_spd port).closeHeader (append_nil _).symm (length_append_groupWords ..), append_nil]
    refine ⟨ prefix_append_of_prefix (prefix_append _ _), fun rest mem hmem hofs => ?_⟩
    exact (isKind_phy id).decodeElement_pair (isKind_spd port) hphyLe hspdLe rfl hmem hofs
  · obtain ⟨hwords, hheader, hnone, hid⟩ := foldl_spd port ⟨words, none, none, 0, 0, id⟩ hspd rfl
    obtain ⟨hwords', hheader', hkept⟩ := foldl_phy port _ hphy hnone
    rw [hwords', hheader', hkept, hheader, hwords, hid]
    dsimp only
    rw [(isKind_phy id).closeHeader (append_nil _).symm rfl,
      append_nil, (isKind_spd port).closeHeader rfl rfl]
    refine ⟨ prefix_append_of_prefix (prefix_append _ _), fun rest mem hmem hofs => ?_⟩
    exact ((isKind_spd port).decodeElement_pair (isKind_phy id) hspdLe hphyLe rfl hmem hofs).symm

theorem decodeList_eq {base : Nat} {words rest : List Dword} {mem : Records} {phyOfs spdOfs : UInt16} {id : UInt8}
    {phy spd : List UInt32} (h : Decodes base words phyOfs spdOfs phy spd) (hofs : words.length + 1 < 2 ^ 16) :
    let list : Dword := if phyOfs ≠ 0 then .listData phyOfs (some spdOfs) else .listData spdOfs none
    Laid base (words ++ [.listHeader id, list] ++ rest) mem →
      decodeList 0 mem base (.ofNat (words.length + 1)) = some (phy, spd) := by
  intro list hmem
  obtain ⟨hphyOfs, hspdOfs⟩ := h _ mem (by rwa [← append_assoc]) hofs
  have hheader := hmem.of_getElem? (i := words.length) (w := .listHeader id) (by simp)
  have hlist := hmem.of_getElem? (i := words.length + 1) (w := list) (by simp)
  unfold decodeList
  rw [base_add_ofs hofs]
  dsimp only
  rw [hheader, sizeofDword, ← place_succ, hlist]
  unfold list
  split_ifs with hzero
  · simp [hphyOfs, hspdOfs]
  · simp_all

def Adds (base : Nat) (blob blob' : Blob) (expected : List (List UInt32 × List UInt32)) : Prop :=
  ∃ new idxs, blob'.words = blob.words ++ new ∧ blob'.mpioAncDataIdx = blob.mpioAncDataIdx ++ idxs ∧
    ∀ rest mem, Laid base (blob.words ++ new ++ rest) mem → (blob.words ++ new).length + 1 < 2 ^ 16 →
      idxs.map (decode 0 mem base) = expected.map some

/-- The counters of the records can hold the overrides of each type. -/
def Held (port : AncPort) : Prop :=
  (ofType ancPhyOvrd port).length ≤ 254 ∧ (ofType ancSpeedOvrd port).length ≤ 254

theorem adds_addAncPort (base : Nat) (blob : Blob) {port : AncPort}
    (hengine : port.engineType = mpioPcieEngine ∨ port.engineType = mpioSATAEngine) (hgrouped : Grouped port)
    (hheld : Held port) : Adds base blob (Mpio.addAncPort blob port) [ovrdValues port] := by
  obtain ⟨hphyLe, hspdLe⟩ := hheld
  rw [← length_map (f := (·.value))] at hphyLe hspdLe
  have hdecodes := hgrouped.decodes base blob.words blob.phyId hphyLe hspdLe
  cases hovrd : port.ovrd with
  | none =>
    refine ⟨[], [none], ?_, ?_, fun _ _ _ _ => ?_⟩ <;> simp [Mpio.addAncPort, hovrd, decode, ovrdValues, ofType]
  | some ovrd =>
  have hemits := (emits_nil blob.words blob.phyId).foldl port ovrd
  have hcount : ∀ type, countOvrd type ovrd = ((ofType type port).map (·.value)).length := fun type => by
    rw [length_map, ofType, hovrd, getD_some, countOvrd, countP_eq_length_filter]
  have hphySize := hemits.phySize
  have hspdSize := hemits.spdSize
  rw [nil_append, hcount] at hphySize hspdSize
  unfold Mpio.addAncPort
  unfold ovrdValues at hdecodes ⊢
  rw [hovrd] at hdecodes ⊢
  simp only [hengine, if_true, getD_some] at hdecodes ⊢
  generalize (ofType ancPhyOvrd port).map (·.value) = phy at *
  generalize (ofType ancSpeedOvrd port).map (·.value) = spd at *
  generalize ovrd.foldl (Mpio.addOvrd port) ⟨blob.words, none, none, 0, 0, blob.phyId⟩ = e at *
  rw [hphySize, hspdSize]
  generalize Mpio.closeHeader e.words e.phyHeader _ = closed at *
  generalize Mpio.closeHeader closed.1 e.spdHeader _ = closed' at *
  obtain ⟨⟨new, hnew⟩, hdecodes⟩ := hdecodes
  by_cases hzero : groupSize phy.length + groupSize spd.length = 0
  · rw [if_neg (not_not.mpr hzero)]
    rw [Nat.add_eq_zero_iff, groupSize_eq_zero, groupSize_eq_zero, length_eq_zero_iff, length_eq_zero_iff] at hzero
    exact ⟨new, [none], hnew.symm, rfl, fun _ _ _ _ => by simp [decode, hzero]⟩
  · rw [if_pos hzero]
    refine ⟨new ++ [_, _], [some _], by rw [← append_assoc, hnew], rfl, fun rest mem hmem hlength => ?_⟩
    rw [← append_assoc, hnew] at hmem hlength
    rw [length_append] at hlength
    simp only [map_cons, map_nil, decode, elim_some]
    rw [decodeList_eq hdecodes (by omega) hmem]

theorem Adds.trans {base : Nat} {blob blob₁ blob₂ : Blob} {l₁ l₂ : List (List UInt32 × List UInt32)}
    (h₁ : Adds base blob blob₁ l₁) (h₂ : Adds base blob₁ blob₂ l₂) : Adds base blob blob₂ (l₁ ++ l₂) := by
  obtain ⟨new₁, idxs₁, hwords₁, hidxs₁, hdecode₁⟩ := h₁
  obtain ⟨new₂, idxs₂, hwords₂, hidxs₂, hdecode₂⟩ := h₂
  rw [hwords₁, append_assoc] at hwords₂
  rw [hidxs₁, append_assoc] at hidxs₂
  rw [hwords₁] at hdecode₂
  refine ⟨new₁ ++ new₂, idxs₁ ++ idxs₂, hwords₂, hidxs₂, fun rest mem hmem hlength => ?_⟩
  rw [← append_assoc] at hmem hlength
  rw [map_append, map_append, hdecode₂ rest mem hmem hlength]
  rw [append_assoc (blob.words ++ new₁)] at hmem
  rw [length_append] at hlength
  rw [hdecode₁ (new₂ ++ rest) mem hmem (by omega)]

theorem adds_foldl (base : Nat) {ports : List AncPort} (blob : Blob)
    (hengine : ∀ port ∈ ports, port.engineType = mpioPcieEngine ∨ port.engineType = mpioSATAEngine)
    (hgrouped : ∀ port ∈ ports, Grouped port) (hheld : ∀ port ∈ ports, Held port) :
    Adds base blob (ports.foldl Mpio.addAncPort blob) (ports.map ovrdValues) := by
  induction ports generalizing blob with
  | nil => exact ⟨[], [], by simp, by simp, fun _ _ _ _ => rfl⟩
  | cons port ports ih =>
    rw [forall_mem_cons] at hengine hgrouped hheld
    exact (adds_addAncPort base blob hengine.1 hgrouped.1 hheld.1).trans (ih _ hengine.2 hgrouped.2 hheld.2)

def maxAncillaryDataSize : Nat := 6076

/-- The overrides of every port are read back when those of a type are together, at most 254 of them, and the buffer is
cleared and ends below 4 GB as far as it is used. -/
theorem decode_mpioAddAncDataOverride (mem : Records) (ancillaryData : Nat) (ports : List AncPort)
    (hengine : ∀ port ∈ ports, port.engineType = mpioPcieEngine ∨ port.engineType = mpioSATAEngine)
    (hfits : sizeofGenericAncHeader + (ports.map Mpio.mpioAncDataCalcSize).sum ≤ maxAncillaryDataSize)
    (hbelow : ancillaryData + sizeofGenericAncHeader + (ports.map Mpio.mpioAncDataCalcSize).sum ≤ 2 ^ 32)
    (hgrouped : ∀ port ∈ ports, Grouped port) (hheld : ∀ port ∈ ports, Held port) :
    let s := mpioAddAncDataOverride mem ancillaryData ports
    s.mpioAncDataIdx.map (decode 0 s.mem ancillaryData) = ports.map fun port => some (ovrdValues port) := by
  have hemits : ports.filter (·.emits) = ports :=
    filter_eq_self.mpr fun port hport => decide_eq_true (hengine port hport)
  have hsize := dataSize_mpioAddAncDataOverride ports
  rw [hemits, ← length_mpioAddAncDataOverride] at hsize
  unfold maxAncillaryDataSize at hfits
  have hshown := shown_mpioAddAncDataOverride ancillaryData mem ports (by rw [place]; omega)
  obtain ⟨new, idxs, hwords, hidxs, hdecode⟩ := adds_foldl ancillaryData ⟨[], 0, 0, 0, []⟩ hengine hgrouped hheld
  unfold sizeofDword at hsize
  rw [← Mpio.mpioAddAncDataOverride] at hwords hidxs
  rw [nil_append] at hwords hidxs
  dsimp only
  rw [hshown.mpioAncDataIdx, hidxs]
  refine (hdecode [] _ ?_ ?_).trans map_map
  · rw [append_nil, nil_append, ← hwords]
    exact hshown.laid
  · rw [nil_append, ← hwords]
    omega

def groupedPorts : List AncPort :=
  [⟨mpioSATAEngine, 3, 3, some [⟨ancSpeedOvrd, 4⟩]⟩,
    ⟨mpioPcieEngine, 0, 15, some [⟨ancPhyOvrd, 1⟩, ⟨9, 0⟩, ⟨ancPhyOvrd, 2⟩, ⟨ancSpeedOvrd, 3⟩]⟩]

theorem decode_groupedPorts :
    (mpioAddAncDataOverride (fun _ => none) 4096 groupedPorts).mpioAncDataIdx.map
        (decode 0 (mpioAddAncDataOverride (fun _ => none) 4096 groupedPorts).mem 4096) =
      [some ([], [4]), some ([1, 2], [3])] :=
  decode_mpioAddAncDataOverride (fun _ => none) 4096 groupedPorts (by decide) (by decide) (by decide)
    (by unfold Grouped; decide) (by unfold Held; decide)

/-- The PHY header of a port whose speed override comes between counts two double words, and the second of them is
the speed header. -/
theorem decode_interleavedPort_ne :
    interleavedPort.engineType = mpioPcieEngine ∧
      sizeofGenericAncHeader + Mpio.mpioAncDataCalcSize interleavedPort ≤ maxAncillaryDataSize ∧
      (mpioAddAncDataOverride (fun _ => none) 4096 [interleavedPort]).mpioAncDataIdx.map
          (decode 0 (mpioAddAncDataOverride (fun _ => none) 4096 [interleavedPort]).mem 4096) ≠
        [some (ovrdValues interleavedPort)] := by
  decide

end OpenSil.Mpio.AncBlob
