import OpenSil.Lib.Loop
import OpenSil.Mpio.AncData

/-! # UBM discovery

`MpioUbmDiscovery` asks the firmware for the DFCs of every HFC and makes a topology entry of each.
-/

namespace OpenSil.Mpio.Ubm

open Loop List Nat Option

structure Dfc where
  hfcIdx : UInt8
  event : UInt8
  numDfcs : UInt16
  laneStart : UInt8
  laneWidth : UInt8
  type : BitVec 3
  slot : UInt8

structure Answer where
  response : UInt32
  dfc : Dfc

def Answer.ok (answer : Answer) : Bool := answer.response &&& 0xFF = 1 ∨ answer.response &&& 0xFF = 0

structure Hfc where
  nodeType : UInt8
  startLane : UInt8
  npemEnable : UInt16
  npemCap : UInt16

def nodeTypeUbm : UInt8 := 0
def nodeTypeOcp : UInt8 := 1
def dfcTypeSataSas : BitVec 3 := 4
def dfcTypeQuadPci : BitVec 3 := 5
def dfcTypeEmpty : BitVec 3 := 7
def eventDisconnected : UInt8 := 0
def eventConnected : UInt8 := 1
def eventNotPresent : UInt8 := 2

/-- `tables` are the complex descriptors behind the first one, `answers` those to the requests for devices, in their
order. -/
structure Discovery where
  pointers : Bool
  table : PortList
  tables : List PortList
  hfcs : Nat → Hfc
  hfcListSize : Nat
  socket1Index : Nat
  enumerated : UInt32
  answers : Nat → Answer

/-- `dfc` has `DfcIndex` and `DfcCount` at the head of the inner loop, and is `none` at that of the outer one. -/
structure State where
  table : PortList
  tables : List PortList
  entryCount : Nat
  result : Bool
  entryHandle : UInt64
  hfcIndex : Nat
  dfc : Option (Nat × Nat)
  asked : Nat
  visited : List (Nat × Nat)
  added : List (Nat × Nat)

/-- `none` is a list whose end is not in it behind the first entry. -/
def countEntries (entries : List PortDescriptor) : Option Nat := (entries.tail.findIdx? (·.terminates)).map (· + 2)

def increaseTableSize (table : PortList) (_newSize : Nat) : PortList × Bool := (table, false)

def startLane (hfc : Hfc) (dfc : Dfc) : UInt8 := hfc.startLane + dfc.laneStart

def endLane (hfc : Hfc) (dfc : Dfc) : UInt8 :=
  if dfc.laneWidth = 0 then startLane hfc dfc else startLane hfc dfc + dfc.laneWidth - 1

def ocpPort (hfc : Hfc) (dfc : Dfc) : Bool :=
  hfc.nodeType = nodeTypeOcp ∧
    (dfc.event = eventConnected ∨ dfc.event = eventNotPresent ∨ dfc.event = eventDisconnected) ∧
    startLane hfc dfc ≠ endLane hfc dfc

def inits (hfc : Hfc) (dfc : Dfc) : List UInt8 :=
  (if hfc.nodeType = nodeTypeUbm then
    (if dfc.type = dfcTypeQuadPci ∨ dfc.type = dfcTypeEmpty then [mpioPcieEngine] else []) ++
      (if dfc.type = dfcTypeSataSas then [mpioSATAEngine] else [])
  else []) ++ if ocpPort hfc dfc then [mpioPcieEngine] else []

def params (hfc : Hfc) (dfc : Dfc) (dfcIndex : Nat) : List PortParam :=
  let present (value : UInt16) : PortParam := ⟨3, value⟩
  let npem : List PortParam := if hfc.npemEnable ≠ 0 then [⟨84, hfc.npemEnable⟩, ⟨85, hfc.npemCap⟩] else []
  let hfcParam : PortParam := ⟨54, dfc.hfcIdx.toUInt16⟩
  let dfcParam : PortParam := ⟨55, .ofNat dfcIndex⟩
  let event : PortParam := ⟨56, dfc.event.toUInt16⟩
  (if hfc.nodeType = nodeTypeUbm then
    (if dfc.type = dfcTypeEmpty then [present 0] else []) ++
    (if dfc.type = dfcTypeQuadPci then [present 1] else []) ++
    (if dfc.type = dfcTypeSataSas then [present 1] else []) ++
    (if dfc.type = dfcTypeQuadPci ∨ dfc.type = dfcTypeEmpty then
      npem ++ [⟨6, 6⟩, hfcParam, dfcParam, ⟨20, dfc.slot.toUInt16⟩, event] else []) ++
    (if dfc.type = dfcTypeSataSas then [⟨6, 6⟩, hfcParam, dfcParam] else [])
  else []) ++
  if ocpPort hfc dfc then present 1 :: npem ++ [⟨6, 7⟩, event, hfcParam, dfcParam] else []

def State.init (hfc : Hfc) (dfc : Dfc) (pair : Nat × Nat) (s : State) (engineType : UInt8) : State :=
  let (table, handle, success) := initializeTopologyEntry s.table engineType (startLane hfc dfc) (endLane hfc dfc) 0 0 0
  { s with table := table, result := success, entryHandle := handle.getD s.entryHandle
           added := if success then s.added ++ [pair] else s.added }

def State.addParameter (s : State) (parameter : PortParam) : State :=
  let (table, success) := Mpio.addParameter s.table s.entryHandle parameter
  { s with table := table, result := success }

def State.advance (s : State) (dfcIndex dfcCount : Nat) : State :=
  if dfcIndex < dfcCount then { s with dfc := some (dfcIndex, dfcCount) }
  else { s with hfcIndex := s.hfcIndex + 1, dfc := none }

section
variable (increase : PortList → Nat → PortList × Bool) (d : Discovery)

def State.grow (s : State) (dfc : Dfc) (dfcIndex dfcCount : Nat) : State × Nat :=
  if dfcIndex = 0 then
    let entryCount := s.entryCount + dfc.numDfcs.toNat
    let (table, success) := increase s.table entryCount
    ({ s with table := table, entryCount := entryCount, result := success }, dfc.numDfcs.toNat)
  else (s, dfcCount)

def answered (s : State) (dfc : Dfc) (dfcIndex dfcCount : Nat) : Turn State State :=
  let hfc := d.hfcs s.hfcIndex
  let pair := (s.hfcIndex, dfcIndex)
  let s := { s with visited := s.visited ++ [pair] }
  let (s, dfcCount) := s.grow increase dfc dfcIndex dfcCount
  if dfcIndex = 0 ∧ s.result = false then .done s
  else
    let s := (inits hfc dfc).foldl (State.init hfc dfc pair) s
    if s.result = false then .done s
    else .next (((params hfc dfc dfcIndex).foldl State.addParameter s).advance (dfcIndex + 1) dfcCount)

def turn (s : State) : Turn State State :=
  match s.dfc with
  | none =>
    if s.hfcIndex < d.hfcListSize then
      if s.hfcIndex = d.socket1Index then
        match s.tables with
        | [] => .done s
        | table :: tables => .next { s with table := table, tables := tables, dfc := some (0, 1) }
      else .next { s with dfc := some (0, 1) }
    else .done s
  | some (dfcIndex, dfcCount) =>
    let answer := d.answers s.asked
    let s := { s with asked := s.asked + 1 }
    if answer.ok then answered increase d s answer.dfc dfcIndex dfcCount else .next (s.advance dfcIndex dfcCount)

end

def Discovery.start (d : Discovery) (entryCount : Nat) : State :=
  ⟨d.table, d.tables, entryCount, false, 0, 0, none, 0, [], []⟩

inductive Outcome where
  | returned (s : State)
  | overrun

def mpioUbmDiscovery (d : Discovery) (fuel : Nat) : Option Outcome :=
  if d.pointers = false then some (.returned (d.start 0))
  else if d.enumerated &&& 0xFF ≠ 1 then some (.returned (d.start 0))
  else
    match d.table.bind countEntries with
    | none => some .overrun
    | some entryCount => (run (turn increaseTableSize d) fuel (d.start entryCount)).map .returned

/-! ## No pair twice -/

/-- No pair is visited twice, and only visited pairs are added. -/
structure Safe (s : State) : Prop where
  nodup : s.visited.Nodup
  added : s.added.Sublist s.visited

def State.Past (s : State) (pair : Nat × Nat) : Prop :=
  pair.1 < s.hfcIndex ∨ pair.1 = s.hfcIndex ∧ ∃ i n, s.dfc = some (i, n) ∧ pair.2 < i

def Inv (s : State) : Prop := Safe s ∧ ∀ pair ∈ s.visited, s.Past pair

def Kept : Turn State State → Prop
  | .next s => Inv s
  | .done r => Safe r

theorem inits_cases (hfc : Hfc) (dfc : Dfc) : inits hfc dfc = [] ∨ ∃ engineType, inits hfc dfc = [engineType] := by
  unfold inits ocpPort
  by_cases hubm : hfc.nodeType = nodeTypeUbm
  · have hocp : hfc.nodeType ≠ nodeTypeOcp := by rw [hubm]; decide
    by_cases hpci : dfc.type = dfcTypeQuadPci ∨ dfc.type = dfcTypeEmpty
    · have hsata : dfc.type ≠ dfcTypeSataSas := by rcases hpci with h | h <;> rw [h] <;> decide
      simp [hubm, hpci, hsata, nodeTypeUbm, nodeTypeOcp]
    · grind
  · rw [if_neg hubm, nil_append]
    split_ifs <;> simp

open State

theorem State.grow_keeps (s : State) (increase : PortList → Nat → PortList × Bool) (dfc : Dfc) (i n : Nat) :
    (s.grow increase dfc i n).1.visited = s.visited ∧ (s.grow increase dfc i n).1.added = s.added ∧
      (s.grow increase dfc i n).1.hfcIndex = s.hfcIndex := by
  unfold grow
  split_ifs <;> exact ⟨rfl, rfl, rfl⟩

theorem foldl_addParameter (l : List PortParam) (s : State) :
    (l.foldl State.addParameter s).visited = s.visited ∧ (l.foldl State.addParameter s).added = s.added ∧
      (l.foldl State.addParameter s).hfcIndex = s.hfcIndex := by
  induction l generalizing s with
  | nil => exact ⟨rfl, rfl, rfl⟩
  | cons parameter l ih => exact ih (s.addParameter parameter)

theorem foldl_init (hfc : Hfc) (dfc : Dfc) (pair : Nat × Nat) (s : State) :
    ((inits hfc dfc).foldl (init hfc dfc pair) s).visited = s.visited ∧
      ((inits hfc dfc).foldl (init hfc dfc pair) s).added.Sublist (s.added ++ [pair]) ∧
      ((inits hfc dfc).foldl (init hfc dfc pair) s).hfcIndex = s.hfcIndex := by
  rcases inits_cases hfc dfc with hnone | ⟨engineType, hone⟩
  · rw [hnone]
    exact ⟨rfl, sublist_append_left .., rfl⟩
  · rw [hone]
    refine ⟨rfl, ?_, rfl⟩
    rw [foldl_cons, foldl_nil, init]
    dsimp only
    split_ifs
    · exact Sublist.refl _
    · exact sublist_append_left ..

theorem answered_cases (increase : PortList → Nat → PortList × Bool) (d : Discovery) (s : State) (dfc : Dfc)
    (i n : Nat) :
    ∃ s' : State, s'.visited = s.visited ++ [(s.hfcIndex, i)] ∧
      s'.added.Sublist (s.added ++ [(s.hfcIndex, i)]) ∧ s'.hfcIndex = s.hfcIndex ∧
      (answered increase d s dfc i n = .done s' ∨
        ∃ m, answered increase d s dfc i n = .next (s'.advance (i + 1) m)) := by
  unfold answered
  dsimp only
  generalize hnoted : { s with visited := s.visited ++ [(s.hfcIndex, i)] } = noted
  obtain ⟨hvisited, hadded, hhfc⟩ := noted.grow_keeps increase dfc i n
  generalize noted.grow increase dfc i n = grown at *
  subst hnoted
  split_ifs with hfull hfailed
  · exact ⟨_, hvisited, hadded ▸ sublist_append_left .., hhfc, .inl rfl⟩
  all_goals
    obtain ⟨hv, ha, hh⟩ := foldl_init (d.hfcs s.hfcIndex) dfc (s.hfcIndex, i) grown.1
    rw [hadded] at ha
  · exact ⟨_, hv.trans hvisited, ha, hh.trans hhfc, .inl rfl⟩
  · obtain ⟨hv', ha', hh'⟩ := foldl_addParameter (params (d.hfcs s.hfcIndex) dfc i)
      ((inits (d.hfcs s.hfcIndex) dfc).foldl (State.init (d.hfcs s.hfcIndex) dfc (s.hfcIndex, i)) grown.1)
    exact ⟨_, hv'.trans (hv.trans hvisited), ha' ▸ ha, hh'.trans (hh.trans hhfc), .inr ⟨_, rfl⟩⟩

theorem State.advance_keeps (s : State) (i n : Nat) :
    (s.advance i n).visited = s.visited ∧ (s.advance i n).added = s.added := by
  unfold advance
  split_ifs <;> exact ⟨rfl, rfl⟩

theorem State.past_advance {s : State} {pair : Nat × Nat} {i : Nat}
    (h : pair.1 < s.hfcIndex ∨ pair.1 = s.hfcIndex ∧ pair.2 < i) (n : Nat) :
    (s.advance i n).Past pair := by
  unfold advance Past
  split_ifs
  · exact h.imp_right fun ⟨heq, hlt⟩ => ⟨heq, i, n, rfl, hlt⟩
  · exact .inl (by dsimp only; omega)

section
variable {increase : PortList → Nat → PortList × Bool} {d : Discovery} {s : State}

theorem Inv.past (h : Inv s) {i n : Nat} (hdfc : s.dfc = some (i, n)) :
    ∀ pair ∈ s.visited, pair.1 < s.hfcIndex ∨ pair.1 = s.hfcIndex ∧ pair.2 < i := by
  intro pair hpair
  refine (h.2 pair hpair).imp_right fun ⟨heq, j, m, hsome, hlt⟩ => ⟨heq, ?_⟩
  rw [hdfc, some.injEq, Prod.mk.injEq] at hsome
  rwa [hsome.1]

theorem Inv.answered (h : Inv s) {i n : Nat} (hdfc : s.dfc = some (i, n)) (dfc : Dfc) :
    Kept (answered increase d s dfc i n) := by
  obtain ⟨s', hvisited, hadded, hhfc, hturn⟩ := answered_cases increase d s dfc i n
  have hpast := h.past hdfc
  have hsafe : Safe s' := by
    refine ⟨?_, ?_⟩
    · rw [hvisited, nodup_append]
      refine ⟨h.1.nodup, nodup_singleton _, fun pair hpair pair' hpair' heq => ?_⟩
      rw [mem_singleton.mp hpair'] at heq
      have hp := hpast pair hpair
      rw [heq] at hp
      omega
    · rw [hvisited]
      exact hadded.trans (h.1.added.append (Sublist.refl _))
  rcases hturn with hdone | ⟨m, hnext⟩
  · rw [hdone]
    exact hsafe
  · rw [hnext]
    obtain ⟨hv, ha⟩ := s'.advance_keeps (i + 1) m
    refine ⟨⟨hv ▸ hsafe.nodup, hv ▸ ha ▸ hsafe.added⟩, fun pair hpair => past_advance ?_ m⟩
    rw [hv, hvisited, mem_append, mem_singleton] at hpair
    rw [hhfc]
    rcases hpair with hpair | rfl
    · exact (hpast pair hpair).imp_right fun ⟨heq, hlt⟩ => ⟨heq, hlt.trans (lt_succ_self _)⟩
    · exact .inr ⟨rfl, lt_succ_self _⟩

theorem Inv.advance (h : Inv s) {i n : Nat} (hdfc : s.dfc = some (i, n)) :
    Inv (s.advance i n) := by
  obtain ⟨hv, ha⟩ := s.advance_keeps i n
  refine ⟨⟨hv ▸ h.1.nodup, hv ▸ ha ▸ h.1.added⟩, fun pair hpair => past_advance ?_ _⟩
  exact h.past hdfc pair (hv ▸ hpair)

theorem Inv.turn (h : Inv s) (increase : PortList → Nat → PortList × Bool) (d : Discovery) :
    Kept (turn increase d s) := by
  unfold Ubm.turn
  cases hdfc : s.dfc with
  | none =>
    -- at the head of the outer loop every pair is one of an HFC before
    have hpast : ∀ pair ∈ s.visited, pair.1 < s.hfcIndex := fun pair hpair =>
      (h.2 pair hpair).resolve_right fun ⟨_, i, n, hsome, _⟩ => by rw [hdfc] at hsome; cases hsome
    dsimp only
    split_ifs
    · split
      · exact h.1
      · exact ⟨⟨h.1.nodup, h.1.added⟩, fun p hp => .inl (hpast p hp)⟩
    · exact ⟨⟨h.1.nodup, h.1.added⟩, fun p hp => .inl (hpast p hp)⟩
    · exact h.1
  | some pair =>
    have hasked : Inv { s with asked := s.asked + 1 } := ⟨⟨h.1.nodup, h.1.added⟩, h.2⟩
    dsimp only
    rw [← hdfc]
    split_ifs
    · exact hasked.answered hdfc _
    · exact hasked.advance hdfc

theorem inv_start (d : Discovery) (entryCount : Nat) : Inv (d.start entryCount) :=
  ⟨⟨nodup_nil, Sublist.refl _⟩, fun _ hpair => absurd hpair not_mem_nil⟩

/-! ## When it ends -/

theorem turn_of_ok (hdfc : s.dfc = some (0, 1)) (hok : (d.answers s.asked).ok = true) :
    ∃ r, turn increaseTableSize d s = .done r := by
  rw [turn, hdfc]
  dsimp only
  rw [if_pos hok]
  exact ⟨_, rfl⟩

theorem turn_of_not_ok (hdfc : s.dfc = some (0, 1)) (hok : (d.answers s.asked).ok = false) :
    turn increase d s = .next { s with asked := s.asked + 1 } := by
  rw [turn, hdfc]
  dsimp only
  rw [hok, if_neg Bool.false_ne_true, advance, if_pos one_pos, ← hdfc]

theorem returns_request_iff (hdfc : s.dfc = some (0, 1)) :
    (∃ r, Returns (turn increaseTableSize d) s r) ↔ ∃ k, (d.answers (s.asked + k)).ok = true := by
  constructor
  · rintro ⟨r, fuel, hfuel⟩
    induction fuel generalizing s with
    | zero => cases hfuel
    | succ fuel ih =>
      cases hok : (d.answers s.asked).ok with
      | true => exact ⟨0, hok⟩
      | false =>
        rw [run_succ_next (turn_of_not_ok hdfc hok)] at hfuel
        obtain ⟨k, hk⟩ := ih (s := { s with asked := s.asked + 1 }) hdfc hfuel
        exact ⟨k + 1, by rwa [add_comm k, ← add_assoc]⟩
  · rintro ⟨k, hk⟩
    induction k generalizing s with
    | zero =>
      obtain ⟨r, hr⟩ := turn_of_ok hdfc hk
      exact ⟨r, (returns_done_iff hr).mpr rfl⟩
    | succ k ih =>
      cases hok : (d.answers s.asked).ok with
      | true =>
        obtain ⟨r, hr⟩ := turn_of_ok hdfc hok
        exact ⟨r, (returns_done_iff hr).mpr rfl⟩
      | false =>
        obtain ⟨r, hr⟩ := ih (s := { s with asked := s.asked + 1 }) hdfc (by rwa [add_assoc, add_comm 1])
        exact ⟨r, (returns_next_iff (turn_of_not_ok hdfc hok)).mpr hr⟩

end

def Discovery.noTable (d : Discovery) : Prop := d.socket1Index = 0 ∧ d.tables = []

theorem returns_start_iff (d : Discovery) (entryCount : Nat) :
    (∃ r, Returns (turn increaseTableSize d) (d.start entryCount) r) ↔
      d.hfcListSize = 0 ∨ d.noTable ∨ ∃ k, (d.answers k).ok = true := by
  have hdone : ∀ {r : State}, turn increaseTableSize d (d.start entryCount) = .done r →
      ∃ r, Returns (turn increaseTableSize d) (d.start entryCount) r := fun h => ⟨_, (returns_done_iff h).mpr rfl⟩
  have hnext : ∀ {s : State}, turn increaseTableSize d (d.start entryCount) = .next s → s.dfc = some (0, 1) →
      s.asked = 0 → ((∃ r, Returns (turn increaseTableSize d) (d.start entryCount) r) ↔
        ∃ k, (d.answers k).ok = true) := by
    intro s h hdfc hasked
    simp only [returns_next_iff h, returns_request_iff hdfc, hasked, zero_add]
  unfold Discovery.noTable
  by_cases hsize : d.hfcListSize = 0
  · exact ⟨fun _ => .inl hsize, fun _ => hdone (r := d.start entryCount) (by simp [turn, Discovery.start, hsize])⟩
  have hpos := pos_of_ne_zero hsize
  by_cases hsocket : d.socket1Index = 0
  · cases htables : d.tables with
    | nil =>
      refine ⟨fun _ => .inr (.inl ⟨hsocket, rfl⟩), fun _ => hdone (r := d.start entryCount) ?_⟩
      simp [turn, Discovery.start, hpos, hsocket, htables]
    | cons table tables =>
      rw [hnext (by simp [turn, Discovery.start, hpos, hsocket, htables]; rfl) rfl rfl]
      simp [hsize]
  · rw [hnext (by simp [turn, Discovery.start, hpos, Ne.symm hsocket]; rfl) rfl rfl]
    simp [hsize, hsocket]

/-- Discovery returns if it is not started, or if the list of entries goes on behind its first one and some request is
answered. -/
theorem mpioUbmDiscovery_returns_iff (d : Discovery) :
    ((∃ fuel s, mpioUbmDiscovery d fuel = some (.returned s)) ↔
      d.pointers = false ∨ d.enumerated &&& 0xFF ≠ 1 ∨ (d.table.bind countEntries ≠ none ∧
        (d.hfcListSize = 0 ∨ d.noTable ∨ ∃ k, (d.answers k).ok = true))) ∧
    ∀ increase entryCount, (∀ s, Reached (turn increase d) (d.start entryCount) s → Safe s) ∧
      ∀ r, Returns (turn increase d) (d.start entryCount) r → Safe r := by
  refine ⟨?_, fun increase entryCount => ?_⟩
  · unfold mpioUbmDiscovery
    by_cases hpointers : d.pointers = false
    · simp [hpointers]
    by_cases henum : d.enumerated &&& 0xFF ≠ 1
    · simp [hpointers, henum]
    simp only [if_neg hpointers, if_neg henum, or_iff_right hpointers, or_iff_right henum]
    cases hcount : d.table.bind countEntries with
    | none => simp
    | some entryCount =>
      rw [← returns_start_iff d entryCount]
      simp only [map_eq_some_iff, Outcome.returned.injEq, exists_eq_right, ne_eq, reduceCtorEq, not_false_eq_true,
        true_and]
      exact exists_comm
  · have hnext : ∀ s s', Inv s → turn increase d s = .next s' → Inv s' := fun s s' h ht => by
      have hkept := h.turn increase d
      rwa [ht] at hkept
    have hdone : ∀ s r, Inv s → turn increase d s = .done r → Safe r := fun s r h ht => by
      have hkept := h.turn increase d
      rwa [ht] at hkept
    exact ⟨fun s h => (h.invariant Inv (inv_start d entryCount) hnext).1,
      fun r h => h.of_invariant Inv Safe (inv_start d entryCount) hnext hdone⟩

def oneHfc (table : PortList) (response : UInt32) : Discovery :=
  ⟨true, table, [], fun _ => ⟨nodeTypeUbm, 0, 0, 0⟩, 1, 1, 1, fun _ => ⟨response, ⟨0, 1, 1, 0, 4, dfcTypeQuadPci, 0⟩⟩⟩

/-- A response of 0xFF is waited for to change, and a list of one entry is read behind its end. -/
theorem mpioUbmDiscovery_not_returning :
    (¬∃ fuel outcome, mpioUbmDiscovery (oneHfc (emptyTable 1) 0xFF) fuel = some outcome) ∧
      mpioUbmDiscovery (oneHfc (emptyTable 0) 1) 1 = some .overrun := by
  refine ⟨?_, rfl⟩
  rintro ⟨fuel, outcome, h⟩
  have hreturned : ∃ s, outcome = .returned s := by
    obtain ⟨s, -, hs⟩ := map_eq_some_iff.mp h
    exact ⟨s, hs.symm⟩
  obtain ⟨s, rfl⟩ := hreturned
  obtain ⟨r, hr, -⟩ := map_eq_some_iff.mp h
  rcases (returns_start_iff _ 2).mp ⟨r, fuel, hr⟩ with hsize | ⟨hsocket, -⟩ | ⟨k, hk⟩
  · cases hsize
  · cases hsocket
  · have hnot : ¬(Answer.mk 0xFF ⟨0, 1, 1, 0, 4, dfcTypeQuadPci, 0⟩).ok = true := by decide
    exact hnot hk

end OpenSil.Mpio.Ubm
