import OpenSil.Lib.Search
import OpenSil.RcMgr.CombinationSound

/-! # The search for a combination

`SilInitMmioBasedOnNvVariable4` first tries the stored combination.
-/

namespace OpenSil.RcMgr

open Loop List Nat Option

/-! ## The next combination -/

def memset (a : Nat → Bool) (start count : Nat) (value : Bool) : Nat → Bool :=
  fun i => if start ≤ i ∧ i < start + count then value else a i

def resetTheseRbs (numberOfRbBelowPcieCfg : Nat) (a : Nat → Bool) : Nat :=
  ((List.range numberOfRbBelowPcieCfg).find? fun i => a i).getD numberOfRbBelowPcieCfg

def moveThisOne (count reset : Nat) (a : Nat → Bool) : Nat :=
  ((List.range' (reset + 1) (count - (reset + 1))).find? fun i => !a i).getD (max (reset + 1) count)

def silGetNextCombination (numberOfRbBelowPcieCfg count : Nat) (a : Nat → Bool) : Option (Nat → Bool) :=
  let reset := resetTheseRbs numberOfRbBelowPcieCfg a
  if reset = numberOfRbBelowPcieCfg then none
  else
    let move := moveThisOne count reset a
    let a := Function.update (Function.update a move true) (move - 1) false
    some (memset (memset a 0 reset true) (move - 1 - reset) reset false)

def firstCombination (numberOfRbBelowPcieCfg count : Nat) : Nat → Bool :=
  memset (fun _ => true) (count - numberOfRbBelowPcieCfg) numberOfRbBelowPcieCfg false

/-! ## The search below 4G -/

section
variable (blk : InputBlk) (df : DfAnswers) (mmioBaseAddr : Side → UInt64)

def triesCombination (enoughAbovePcieSpaceForPrimaryRb : Bool) (out : MmioState) (a : Nat → Bool) : Bool :=
  let primaryIsAbove := a ((primaryRb df).1 * dfXMaxHostBridgesPerSocket + (primaryRb df).2)
  if (enoughAbovePcieSpaceForPrimaryRb && primaryIsAbove) || (!enoughAbovePcieSpaceForPrimaryRb && !primaryIsAbove) then
    (silTryThisCombination blk df mmioBaseAddr a false out).any Prod.fst
  else false

/-- The loop over the combinations with a given number of root bridges below the configuration space. -/
def searchCombinations (enough : Bool) (out : MmioState) (numberOfRbBelowPcieCfg : Nat) : Option (Bool × (Nat → Bool)) :=
  run (Search.turn (triesCombination blk df mmioBaseAddr enough out)
    (silGetNextCombination numberOfRbBelowPcieCfg (rootBridgeCount blk))) (2 ^ rootBridgeCount blk)
    (firstCombination numberOfRbBelowPcieCfg (rootBridgeCount blk))

def findCombination (enough : Bool) (out : MmioState) : List Nat → Option (Option (Nat → Bool))
  | [] => some none
  | number :: numbers => do
    let (found, a) ← searchCombinations blk df mmioBaseAddr enough out number
    if found then some (some a)
    else if blk.pciExpressBaseAddress = mmioBaseAddr .below then some none
    else findCombination enough out numbers

def silArrangeMmioBelow4G (enough setDfRegisters : Bool) (out : MmioState) : Option (Bool × MmioState) := do
  match ← findCombination blk df mmioBaseAddr enough out (List.range (rootBridgeCount blk + 1)) with
  | none => some (false, out)
  | some a => (silTryThisCombination blk df mmioBaseAddr a setDfRegisters out).map (true, ·.2)

end

/-! ## The whole initialisation -/

def enoughAbovePcieSpaceForPrimaryRb (blk : InputBlk) (sys : SystemInfo) (df : DfAnswers) : Bool :=
  (blk.prefetchableMmioSizeBelow4G (primaryRb df).1 (primaryRb df).2).size +
      (blk.nonPrefetchableMmioSizeBelow4G (primaryRb df).1 (primaryRb df).2).size + sizeNonPci blk ≤
    mmioLimit blk .above - mmioStart blk sys .above

/-- `SilInitMmioBasedOnNvVariable4`, without the space that is missing. The result is `none` if a search does not come
to its end or a division is by zero. -/
def silInitMmioBasedOnNvVariable4 (blk : InputBlk) (sys : SystemInfo) (df : DfAnswers) (setDfRegisters : Bool)
    (out : MmioState) : Option (SilStatus × MmioState) :=
  let above := silArrangeMmioAbove4G blk df (nvWindow blk sys).base (nvWindow blk sys).limit setDfRegisters out
  if !above.enoughSpaceAbove4G then some (.silOutOfResources, above.out)
  else do
    let stored ← silTryThisCombination blk df (mmioStart blk sys) blk.resourceDistributionNv setDfRegisters above.out
    if stored.1 then some (.silPass, stored.2)
    else
      let enough := enoughAbovePcieSpaceForPrimaryRb blk sys df
      let (found, out) ← silArrangeMmioBelow4G blk df (mmioStart blk sys) enough setDfRegisters stored.2
      if found then some (.silPass, out)
      else if enough then
        let (found, out) ← silArrangeMmioBelow4G blk df (mmioStart blk sys) false setDfRegisters out
        some (if found then .silPass else .silOutOfResources, out)
      else some (.silOutOfResources, out)

/-! ## Every combination is reached -/

def Shows (a : Nat → Bool) (l : List Bool) : Prop := ∀ i (h : i < l.length), a i = l[i]

open Search

section
variable {a : Nat → Bool} {l rest : List Bool} {r n k : Nat}

theorem resetTheseRbs_of_lt (h : r < k) (hbelow : ∀ i < r, a i = false) (habove : a r = true) : resetTheseRbs k a = r := by
  have hfind : (range k).find? (fun i => a i) = some r := by simp_all
  unfold resetTheseRbs
  rw [hfind]
  rfl

theorem resetTheseRbs_eq (hbelow : ∀ i < k, a i = false) : resetTheseRbs k a = k := by
  have hfind : (range k).find? (fun i => a i) = none := by
    rw [find?_range_eq_none]
    exact fun i hi => by simp [hbelow i hi]
  unfold resetTheseRbs
  rw [hfind]
  rfl

theorem moveThisOne_eq {count m : Nat} (hr : r < m) (hm : m < count) (habove : ∀ i, r < i → i < m → a i = true)
    (hbelow : a m = false) : moveThisOne count r a = m := by
  have hfind : (range' (r + 1) (count - (r + 1))).find? (fun i => !a i) = some m := by
    rw [find?_range'_eq_some]
    refine ⟨by simp [hbelow], mem_range'_1.mpr (by omega), fun i h1 h2 => ?_⟩
    simp [habove i (by omega) h2]
  unfold moveThisOne
  rw [hfind]
  rfl

theorem next_shows (m : Nat) (h : Shows a (replicate r false ++ replicate (m + 1) true ++ false :: rest))
    (hk : r < k) :
    let count := r + (m + 1) + 1 + rest.length
    resetTheseRbs k a = r ∧ moveThisOne count r a < count ∧ ∃ a', silGetNextCombination k count a = some a' ∧
      Shows a' (replicate m true ++ replicate (r + 1) false ++ true :: rest) ∧ ∀ i, count ≤ i → a' i = a i := by
  have hlow : ∀ i < r, a i = false := fun i hi => by
    rw [h i (by simp; omega)]
    grind
  have hmid : ∀ i, r ≤ i → i < r + (m + 1) → a i = true := fun i h1 h2 => by
    rw [h i (by simp; omega)]
    grind
  have hmove : a (r + (m + 1)) = false := by
    rw [h _ (by simp)]
    grind
  have hrest : ∀ i (hi : i < rest.length), a (r + (m + 1) + 1 + i) = rest[i] := fun i hi => by
    rw [h _ (by simp; omega)]
    grind
  have hreset : resetTheseRbs k a = r := resetTheseRbs_of_lt hk hlow (hmid r le_rfl (by omega))
  have hmovethis : moveThisOne (r + (m + 1) + 1 + rest.length) r a = r + (m + 1) :=
    moveThisOne_eq (by omega) (by omega) (fun i h1 h2 => hmid i h1.le h2) hmove
  refine ⟨hreset, by rw [hmovethis]; omega, ?_⟩
  unfold silGetNextCombination
  simp only [hreset, hmovethis, if_neg (Nat.ne_of_lt hk)]
  refine ⟨_, rfl, fun i hi => ?_, fun i hi => by grind [memset, Function.update_apply]⟩
  unfold memset
  simp only [Function.update_apply, List.length_append, List.length_replicate, List.length_cons] at hi ⊢
  rcases lt_or_ge i (r + (m + 1) + 1) with hlt | hge
  · grind
  · -- Nothing changes behind the root bridge that moves.
    obtain ⟨j, rfl⟩ := Nat.exists_eq_add_of_le hge
    have hj := hrest j (by omega)
    grind

theorem path_shows (n k : Nat) (rest q : List Bool) (a : Nat → Bool) (hlen : q.length = n) (hcount : q.count false = k)
    (h : Shows a (replicate (n - k) true ++ replicate k false ++ rest)) :
    ∃ j a', j < 2 ^ n ∧
      Path (silGetNextCombination (k + rest.count false) (n + rest.length)) j a a' ∧ Shows a' (q ++ rest) := by
  induction n generalizing k rest q a with
  | zero =>
    obtain rfl := length_eq_zero_iff.mp hlen
    obtain rfl : 0 = k := hcount
    exact ⟨0, a, by decide, rfl, by simpa using h⟩
  | succ n ih =>
    -- As long as the last root bridge stays below, those before it go through all their combinations.
    have hstay : ∀ k' q', k = k' + 1 → q'.length = n → q'.count false = k' → ∃ j a', j < 2 ^ n ∧
        Path (silGetNextCombination (k + rest.count false) (n + 1 + rest.length)) j a a' ∧
        Shows a' (q' ++ false :: rest) := by
      rintro k' q' rfl hlen' hcount'
      have hshows : Shows a (replicate (n - k') true ++ replicate k' false ++ false :: rest) := by
        rw [Nat.add_sub_add_right, List.replicate_succ'] at h
        simpa using h
      have hpath := ih k' (false :: rest) q' a hlen' hcount' hshows
      rw [count_cons_self, length_cons] at hpath
      rwa [add_right_comm k', add_right_comm n]
    obtain rfl | ⟨q', b, rfl⟩ := eq_nil_or_concat' q
    · cases hlen
    rw [length_append, length_singleton, add_right_cancel_iff] at hlen
    rw [count_append] at hcount
    rw [append_assoc, singleton_append]
    cases b with
    | false => grind
    | true =>
      have hk : q'.count false = k := by simpa using hcount
      have hle : k ≤ n := by
        rw [← hk, ← hlen]
        exact count_le_length
      -- Then the last one is above, and the others start again.
      have hagain : ∃ j a', j < 2 ^ n + 1 ∧
          Path (silGetNextCombination (k + rest.count false) (n + 1 + rest.length)) j a a' ∧
          Shows a' (replicate (n - k) true ++ replicate k false ++ true :: rest) := by
        cases k with
        | zero => exact ⟨0, a, succ_pos _, rfl, by simpa [replicate_succ'] using h⟩
        | succ k =>
          obtain ⟨m, rfl⟩ := Nat.exists_eq_add_of_le hle
          obtain ⟨j, a1, hj, hpath, hshows⟩ := hstay k (replicate k false ++ replicate (m + 1) true) rfl
            (by simp; omega) (by simp [count_replicate])
          obtain ⟨-, -, a2, hnext, hshows', -⟩ := next_shows (k := k + 1 + rest.count false) m hshows (by omega)
          refine ⟨j + 1, a2, by omega, hpath.trans (Path.single ?_), ?_⟩
          · rw [← hnext]
            congr 1
            omega
          · rwa [Nat.add_sub_cancel_left]
      obtain ⟨j, a1, hj, hpath, hshows⟩ := hagain
      obtain ⟨j', a2, hj', hpath', hshows'⟩ := ih k (true :: rest) q' a1 hlen hk hshows
      refine ⟨j + j', a2, by rw [pow_succ]; omega, hpath.trans ?_, hshows'⟩
      rwa [count_cons_of_ne (by decide), length_cons, ← add_assoc, add_right_comm n] at hpath'

/-- A list of bits splits behind the first ones that are `b`. -/
theorem exists_replicate_append (b : Bool) (q : List Bool) : ∃ n rest, q = replicate n b ++ rest ∧ rest.head? ≠ some b := by
  induction q with
  | nil => exact ⟨0, [], rfl, by simp⟩
  | cons c q ih =>
    by_cases hc : c = b
    · obtain ⟨n, rest, rfl, hrest⟩ := ih
      exact ⟨n + 1, rest, by rw [hc]; rfl, hrest⟩
    · exact ⟨0, c :: q, rfl, by simpa using hc⟩

theorem combination_cases {q : List Bool} (hcount : q.count false = k) :
    (∃ n, q = replicate k false ++ replicate n true) ∨
      ∃ r m rest, r < k ∧ q = replicate r false ++ replicate (m + 1) true ++ false :: rest := by
  obtain ⟨r, q, rfl, hq⟩ := exists_replicate_append false q
  cases q with
  | nil => exact .inl ⟨0, by simp_all⟩
  | cons b q =>
    obtain rfl : b = true := by simpa using hq
    obtain ⟨m, rest, rfl, hrest⟩ := exists_replicate_append true q
    cases rest with
    | nil => exact .inl ⟨m + 1, by simp_all [count_replicate, replicate_succ]⟩
    | cons b rest =>
      obtain rfl : b = false := by simpa using hrest
      refine .inr ⟨r, m, rest, ?_, by simp [replicate_succ]⟩
      simp [count_replicate] at hcount
      omega

theorem firstCombination_shows {count number : Nat} :
    Shows (firstCombination number count)
      (replicate (count - number) true ++ replicate number false ++ []) := by
  intro i hi
  unfold firstCombination memset
  grind

theorem path_of_combination {q : List Bool} (hlen : q.length = n) (hcount : q.count false = k) :
    ∃ j a, j < 2 ^ n ∧ Path (silGetNextCombination k n) j (firstCombination k n) a ∧ Shows a q := by
  have hpath := path_shows n k [] q _ hlen hcount firstCombination_shows
  simpa using hpath

theorem silGetNextCombination_last (count : Nat) (h : Shows a (replicate k false ++ replicate n true)) :
    resetTheseRbs k a = k ∧ silGetNextCombination k count a = none := by
  have hreset : resetTheseRbs k a = k := resetTheseRbs_eq fun i hi => by
    rw [h i (by simp; omega)]
    grind
  refine ⟨hreset, ?_⟩
  unfold silGetNextCombination
  simp only [hreset, if_true]

def combinationOf (count : Nat) (a : Nat → Bool) : List Bool := (List.range count).map a

theorem shows_combinationOf (count : Nat) (a : Nat → Bool) : Shows a (combinationOf count a) := by
  intro i hi
  simp [combinationOf]

theorem Shows.combinationOf_eq (h : Shows a l) (hlength : l.length = n) : combinationOf n a = l := by
  subst hlength
  refine ext_getElem (by simp [combinationOf]) fun i _ hi => ?_
  simpa [combinationOf] using h i hi

/-- What the calls keep: the number of root bridges below, and all that is behind the root bridges. -/
structure Visited (k count : Nat) (start a : Nat → Bool) : Prop where
  below : (combinationOf count a).count false = k
  behind : ∀ i, count ≤ i → a i = start i

theorem Visited.step {count : Nat} {start : Nat → Bool} (h : Visited k count start a) :
    (resetTheseRbs k a ≠ k → moveThisOne count (resetTheseRbs k a) a < count) ∧
      ∀ a', silGetNextCombination k count a = some a' → Visited k count start a' := by
  have hshows := shows_combinationOf count a
  have hlength : (combinationOf count a).length = count := by simp [combinationOf]
  obtain ⟨n, hq⟩ | ⟨r, m, rest, hr, hq⟩ := combination_cases h.below
  · rw [hq] at hshows
    obtain ⟨hreset, hnext⟩ := silGetNextCombination_last count hshows
    exact ⟨fun hne => absurd hreset hne, fun a' ha' => by cases hnext.symm.trans ha'⟩
  · rw [hq] at hshows hlength
    obtain rfl : r + (m + 1) + 1 + rest.length = count := by
      simp only [length_append, length_replicate, length_cons] at hlength
      omega
    obtain ⟨hreset, hmove, a', hnext, hshows', hbehind⟩ := next_shows m hshows hr
    refine ⟨fun _ => hreset ▸ hmove, fun b hb => ?_⟩
    obtain rfl := some.inj (hnext.symm.trans hb)
    refine ⟨?_, fun i hi => (hbehind i hi).trans (h.behind i hi)⟩
    have hbelow := h.below
    rw [hshows'.combinationOf_eq (by simp; omega)]
    rw [hq] at hbelow
    simp [count_replicate] at hbelow ⊢
    omega

theorem silGetNextCombination_enumerates {count : Nat} (hk : k ≤ count)
    (h : Shows a (List.replicate (count - k) true ++ List.replicate k false)) :
    ∃ visited, Chain.Path (silGetNextCombination k count) (some a) visited none ∧
      (visited.map (combinationOf count)).Nodup ∧
      (∀ q, q ∈ visited.map (combinationOf count) ↔ q.length = count ∧ q.count false = k) ∧
      visited.getLast?.map (combinationOf count) =
        some (List.replicate k false ++ List.replicate (count - k) true) ∧
      ∀ b ∈ visited, resetTheseRbs k b ≠ k → moveThisOne count (resetTheseRbs k b) b < count := by
  have hreach : ∀ q : List Bool, q.length = count → q.count false = k →
      ∃ j b, Path (silGetNextCombination k count) j a b ∧ Shows b q := by
    intro q hlength hcount
    obtain ⟨j, b, -, hpath, hshows⟩ := path_shows count k [] q a hlength hcount (by simpa using h)
    exact ⟨j, b, by simpa using hpath, by simpa using hshows⟩
  have hlength : (replicate k false ++ replicate (count - k) true).length = count := by
    simp only [length_append, length_replicate]
    omega
  obtain ⟨j, last, hpath, hlast⟩ := hreach _ hlength (by simp [count_replicate])
  obtain ⟨visited, hvisited, hend, hall⟩ := hpath.exists_chain (silGetNextCombination_last count hlast).2
  have hstart : Visited k count a a := by
    refine ⟨?_, fun _ _ => rfl⟩
    rw [h.combinationOf_eq (by simp; omega)]
    simp [count_replicate]
  have hinv := hvisited.invariant (Visited k count a) (fun b hb => some.inj hb ▸ hstart)
    fun b b' hb hnext => hb.step.2 b' hnext
  refine ⟨visited, hvisited, ?_, fun q => ⟨?_, ?_⟩, ?_, fun b hb => (hinv b hb).step.1⟩
  · -- two visited assignments that agree on the root bridges agree behind them as well
    refine hvisited.nodup.map_on fun b hb c hc heq => funext fun i => ?_
    rcases lt_or_ge i count with hi | hi
    · have := congrArg (·[i]?) heq
      simpa [combinationOf, hi] using this
    · rw [(hinv b hb).behind i hi, (hinv c hc).behind i hi]
  · rw [List.mem_map]
    rintro ⟨b, hb, rfl⟩
    exact ⟨by simp [combinationOf], (hinv b hb).below⟩
  · rintro ⟨rfl, hcount⟩
    obtain ⟨j, b, hpath, hshows⟩ := hreach q rfl hcount
    exact mem_map.mpr ⟨b, hall j b hpath, hshows.combinationOf_eq rfl⟩
  · rw [hend, map_some, hlast.combinationOf_eq hlength]

theorem silGetNextCombination_enumerates_two_of_four :
    ∃ visited, Chain.Path (silGetNextCombination 2 4) (some (firstCombination 2 4)) visited none ∧
      (visited.map (combinationOf 4)).Nodup ∧
      (∀ q, q ∈ visited.map (combinationOf 4) ↔ q.length = 4 ∧ q.count false = 2) ∧
      visited.getLast?.map (combinationOf 4) = some [false, false, true, true] ∧
      ∀ b ∈ visited, resetTheseRbs 2 b ≠ 2 → moveThisOne 4 (resetTheseRbs 2 b) b < 4 :=
  silGetNextCombination_enumerates (by decide) (by simpa using @firstCombination_shows 4 2)

theorem searchCombinations_isSome {blk : InputBlk} (df : DfAnswers) (start : Side → UInt64) (enough : Bool)
    (out : MmioState) {number : Nat} (h : number ≤ rootBridgeCount blk) :
    ∃ r, searchCombinations blk df start enough out number = some r := by
  have hlen : (replicate number false ++ replicate (rootBridgeCount blk - number) true).length =
      rootBridgeCount blk := by
    simp only [length_append, length_replicate]
    omega
  obtain ⟨j, last, hj, hpath, hshows⟩ := path_of_combination (k := number) hlen (by simp [count_replicate])
  exact run_isSome hpath (silGetNextCombination_last _ hshows).2 hj

end

/-! ## What decides whether a combination is accepted -/

section
variable {blk : InputBlk} {df : DfAnswers} {start : Side → UInt64} {a a' : Nat → Bool} {setDf setDf' : Bool}
  {s t : TryState} {rb : Nat × Nat} {out out' : MmioState}

structure TryState.Agrees (s t : TryState) : Prop where
  mmioBaseAddr : s.mmioBaseAddr = t.mmioBaseAddr
  bigAlignFirst : s.bigAlignFirst = t.bigAlignFirst
  overSizeFlag : s.overSizeFlag = t.overSizeFlag

theorem TryState.Agrees.overSizeFlag_tryRb (blk : InputBlk) (df : DfAnswers) (setDf setDf' : Bool) (h : s.Agrees t)
    (hside : sideOf a rb = sideOf a' rb) :
    (tryRb blk df a setDf s rb).overSizeFlag = (tryRb blk df a' setDf' t rb).overSizeFlag := by
  obtain ⟨hbase, hbig, hover⟩ := h
  unfold tryRb
  rw [hside]
  split_ifs
  · unfold placeRb canMoveNonPci advance
    simp only [hbase, hbig, hover]
    split_ifs
    · simp only [recordIf_overSizeFlag]
      rfl
    · simp only [recordIf_overSizeFlag]
  · exact hover

theorem TryState.Agrees.tryRb (h : s.Agrees t) (hne : rb ≠ primaryRb df) (hside : sideOf a rb = sideOf a' rb) :
    (tryRb blk df a setDf s rb).Agrees (tryRb blk df a' setDf' t rb) := by
  have hover := h.overSizeFlag_tryRb blk df setDf setDf' hside
  cases hasks : asksBelow4G blk rb with
  | false =>
    refine ⟨?_, ?_, hover⟩
    · simpa [RcMgr.tryRb, hasks] using h.mmioBaseAddr
    · simpa [RcMgr.tryRb, hasks] using h.bigAlignFirst
  | true =>
    obtain ⟨hbase, hbig, -⟩ := tryRb_of_ne (s := s) hasks rfl rfl setDf hne
    obtain ⟨hbase', hbig', -⟩ := tryRb_of_ne (s := t) hasks rfl rfl setDf' hne
    refine ⟨?_, ?_, hover⟩
    · rw [hbase, hbase', hside, h.mmioBaseAddr, h.bigAlignFirst]
    · rw [hbig, hbig', hside, h.bigAlignFirst]

theorem TryState.Agrees.foldl {rbs : List (Nat × Nat)} (h : s.Agrees t) (hne : ∀ rb ∈ rbs, rb ≠ primaryRb df)
    (hside : ∀ rb ∈ rbs, sideOf a rb = sideOf a' rb) :
    (rbs.foldl (RcMgr.tryRb blk df a setDf) s).Agrees (rbs.foldl (RcMgr.tryRb blk df a' setDf') t) := by
  induction rbs generalizing s t with
  | nil => exact h
  | cons rb rbs ih =>
    rw [forall_mem_cons] at hne hside
    exact ih (h.tryRb hne.1 hside.1) hne.2 hside.2

/-- Whether a combination is accepted: what is recorded does not matter for it. -/
def accepts (blk : InputBlk) (df : DfAnswers) (start : Side → UInt64) (a : Nat → Bool) : Bool :=
  !(runCombination blk df start a false .zero).overSizeFlag

theorem overSizeFlag_congr (setDf setDf' : Bool) (out out' : MmioState)
    (hside : ∀ rb ∈ combinationOrder blk df, sideOf a rb = sideOf a' rb) :
    (runCombination blk df start a setDf out).overSizeFlag = (runCombination blk df start a' setDf' out').overSizeFlag := by
  have hagrees : (TryState.start start out).Agrees (.start start out') := ⟨rfl, rfl, rfl⟩
  rw [runCombination_eq, runCombination_eq]
  exact (hagrees.foldl ne_of_mem_otherRootBridges fun rb h => hside rb (mem_append_left _ h)).overSizeFlag_tryRb
    _ _ _ _ (hside _ (primaryRb_mem blk df))

theorem accepts_congr (hside : ∀ rb ∈ combinationOrder blk df, sideOf a rb = sideOf a' rb) :
    accepts blk df start a = accepts blk df start a' :=
  congrArg not (overSizeFlag_congr _ _ _ _ hside)

theorem not_overSizeFlag (setDf : Bool) (out : MmioState) :
    (!(runCombination blk df start a setDf out).overSizeFlag) = accepts blk df start a :=
  congrArg not (overSizeFlag_congr _ _ _ _ fun _ _ => rfl)

theorem silTryThisCombination_rejected (h : accepts blk df start a = false) (setDf : Bool) (out : MmioState) :
    silTryThisCombination blk df start a setDf out = some (false, (runCombination blk df start a setDf out).out) := by
  unfold silTryThisCombination
  simp only [not_overSizeFlag, h, Bool.false_and, Bool.false_eq_true, if_false]

theorem silTryThisCombination_accepted (h : accepts blk df start a = true) (setDf : Bool) (out : MmioState) :
    silTryThisCombination blk df start a setDf out =
      (silTryThisCombination blk df start a setDf out).map (true, ·.2) := by
  unfold silTryThisCombination
  simp only [not_overSizeFlag, h, Bool.true_and]
  split_ifs
  · cases (runCombination blk df start a setDf out).addSecondRegion blk df <;> rfl
  · rfl

theorem silTryThisCombination_dry (out : MmioState) : (silTryThisCombination blk df start a false out) =
    some (accepts blk df start a, (runCombination blk df start a false out).out) := by
  unfold silTryThisCombination
  simp only [not_overSizeFlag, Bool.and_false, Bool.false_eq_true, if_false]

/-! ## What the search comes to -/

variable {enough : Bool} {numbers : List Nat}

def primaryIndex (df : DfAnswers) : Nat := (primaryRb df).1 * dfXMaxHostBridgesPerSocket + (primaryRb df).2

theorem triesCombination_eq_true : triesCombination blk df start enough out a = true ↔
    a (primaryIndex df) = enough ∧ accepts blk df start a = true := by
  unfold triesCombination
  rw [silTryThisCombination_dry]
  change (if (enough && a (primaryIndex df)) || (!enough && !a (primaryIndex df)) then _ else _) = true ↔ _
  cases a (primaryIndex df) <;> cases enough <;> simp

/-- The calls with `k` root bridges below come to exactly the combinations with that many, and with all root bridges
above whose index is behind the count. -/
theorem path_iff_visited {k count : Nat} (hk : k ≤ count) :
    (∃ j, Path (silGetNextCombination k count) j (firstCombination k count) a) ↔ Visited k count (fun _ => true) a := by
  have hfirst := @firstCombination_shows count k
  rw [append_nil] at hfirst
  have hstart : Visited k count (fun _ => true) (firstCombination k count) := by
    refine ⟨?_, fun i hi => ?_⟩
    · rw [hfirst.combinationOf_eq (by simp; omega)]
      simp [count_replicate]
    · unfold firstCombination memset
      grind
  constructor
  · rintro ⟨j, hpath⟩
    exact hpath.invariant hstart fun b b' hb hnext => hb.step.2 b' hnext
  · intro h
    obtain ⟨j, b, -, hpath, hshows⟩ := path_of_combination (n := count) (by simp [combinationOf]) h.below
    have hb := hpath.invariant hstart fun b b' hb hnext => hb.step.2 b' hnext
    obtain rfl : b = a := by
      funext i
      rcases lt_or_ge i count with hi | hi
      · simpa [combinationOf] using hshows i (by simpa [combinationOf] using hi)
      · rw [hb.behind i hi, h.behind i hi]
    exact ⟨j, hpath⟩

theorem searchCombinations_spec (df : DfAnswers) (start : Side → UInt64) (enough : Bool) (out : MmioState) {number : Nat}
    (h : number ≤ rootBridgeCount blk) :
    (∃ a, searchCombinations blk df start enough out number = some (true, a) ∧ a (primaryIndex df) = enough ∧
      accepts blk df start a = true ∧ Visited number (rootBridgeCount blk) (fun _ => true) a) ∨
    ((∃ a, searchCombinations blk df start enough out number = some (false, a)) ∧
      ∀ a, Visited number (rootBridgeCount blk) (fun _ => true) a → a (primaryIndex df) = enough →
        accepts blk df start a = false) := by
  obtain ⟨⟨found, a⟩, hrun⟩ := searchCombinations_isSome df start enough out h
  cases found with
  | true =>
    obtain ⟨haccept, hpath⟩ := accept_of_run hrun
    obtain ⟨hside, haccept⟩ := triesCombination_eq_true.mp haccept
    exact .inl ⟨a, hrun, hside, haccept, (path_iff_visited h).mp hpath⟩
  | false =>
    refine .inr ⟨⟨a, hrun⟩, fun b hb hside => ?_⟩
    obtain ⟨j, hpath⟩ := (path_iff_visited h).mpr hb
    have hreject := reject_of_run hrun hpath
    by_contra haccept
    rw [triesCombination_eq_true.mpr ⟨hside, by simpa using haccept⟩] at hreject
    cases hreject

theorem findCombination_spec (df : DfAnswers) (start : Side → UInt64) (enough : Bool) (out : MmioState)
    (hle : ∀ number ∈ numbers, number ≤ rootBridgeCount blk) :
    let tried := if blk.pciExpressBaseAddress = start .below then numbers.take 1 else numbers
    (∃ a, findCombination blk df start enough out numbers = some (some a) ∧ a (primaryIndex df) = enough ∧
      accepts blk df start a = true ∧ ∃ number ∈ tried, Visited number (rootBridgeCount blk) (fun _ => true) a) ∨
    (findCombination blk df start enough out numbers = some none ∧ ∀ number ∈ tried, ∀ a,
      Visited number (rootBridgeCount blk) (fun _ => true) a → a (primaryIndex df) = enough →
        accepts blk df start a = false) := by
  induction numbers with
  | nil => exact .inr ⟨rfl, by simp⟩
  | cons number numbers ih =>
    rw [forall_mem_cons] at hle
    unfold findCombination
    rcases searchCombinations_spec df start enough out hle.1 with
      ⟨a, hrun, hside, haccept, hvisited⟩ | ⟨⟨a, hrun⟩, hreject⟩
    · refine .inl ⟨a, by simp [hrun], hside, haccept, number, ?_, hvisited⟩
      split_ifs <;> simp
    · simp only [hrun, bind_eq_bind, bind_some, Bool.false_eq_true, if_false]
      split_ifs with hpcie
      · exact .inr ⟨rfl, by simpa using hreject⟩
      · simp only [if_neg hpcie] at ih
        rcases ih hle.2 with ⟨a, hrun', hside, haccept, number', hmem, hvisited⟩ | ⟨hrun', hreject'⟩
        · exact .inl ⟨a, hrun', hside, haccept, number', mem_cons_of_mem _ hmem, hvisited⟩
        · exact .inr ⟨hrun', forall_mem_cons.mpr ⟨hreject, hreject'⟩⟩

theorem exists_visited_iff {tomIsBase : Prop} [Decidable tomIsBase] {count : Nat} :
    (∃ number ∈ if tomIsBase then (range (count + 1)).take 1 else range (count + 1),
      Visited number count (fun _ => true) a) ↔
      (∀ i, count ≤ i → a i = true) ∧ (tomIsBase → ∀ i, a i = true) := by
  have hall : (combinationOf count a).count false = 0 ↔ ∀ i < count, a i = true := by
    simp [combinationOf, count_eq_zero]
  constructor
  · rintro ⟨number, hmem, h⟩
    refine ⟨h.behind, fun hbase i => ?_⟩
    rw [if_pos hbase] at hmem
    obtain rfl : number = 0 := by simpa [range_succ_eq_map] using hmem
    exact (lt_or_ge i count).elim (hall.mp h.below i) (h.behind i)
  · rintro ⟨hbehind, hbase⟩
    refine ⟨_, ?_, rfl, hbehind⟩
    split_ifs with htom
    · rw [hall.mpr fun i _ => hbase htom i]
      simp [range_succ_eq_map]
    · rw [mem_range, Nat.lt_succ_iff]
      exact count_le_length.trans_eq (by simp [combinationOf])

theorem findCombination_congr (enough : Bool) (out out' : MmioState) :
    findCombination blk df start enough out numbers = findCombination blk df start enough out' numbers := by
  have htries : triesCombination blk df start enough out = triesCombination blk df start enough out' := by
    funext a
    rw [Bool.eq_iff_iff, triesCombination_eq_true, triesCombination_eq_true]
  induction numbers with
  | nil => rfl
  | cons number numbers ih =>
    unfold findCombination searchCombinations
    rw [htries, ih]

section
variable (blk : InputBlk) (sys : SystemInfo) (df : DfAnswers)

/-- The combinations the calls of `SilGetNextCombination` come to. -/
def Enumerated (a : Nat → Bool) : Prop :=
  (∀ i, rootBridgeCount blk ≤ i → a i = true) ∧ (blk.pciExpressBaseAddress = sys.tom → ∀ i, a i = true)

/-- The combinations that are tried: the primary root bridge is above the configuration space only if it fits there. -/
def Searched (a : Nat → Bool) : Prop :=
  Enumerated blk sys a ∧ (a (primaryIndex df) = true → enoughAbovePcieSpaceForPrimaryRb blk sys df = true)

/-- The combination that `SilInitMmioBasedOnNvVariable4` takes. -/
def takenCombination : Option (Nat → Bool) :=
  let find := fun enough =>
    (findCombination blk df (mmioStart blk sys) enough .zero (List.range (rootBridgeCount blk + 1))).join
  if accepts blk df (mmioStart blk sys) blk.resourceDistributionNv then some blk.resourceDistributionNv
  else (find (enoughAbovePcieSpaceForPrimaryRb blk sys df)).or
    (if enoughAbovePcieSpaceForPrimaryRb blk sys df then find false else none)

theorem findCombination_cases (enough : Bool) :
    (∃ a, (∀ out, findCombination blk df (mmioStart blk sys) enough out (range (rootBridgeCount blk + 1)) = some (some a)) ∧
      accepts blk df (mmioStart blk sys) a = true ∧ a (primaryIndex df) = enough ∧ Enumerated blk sys a) ∨
    ((∀ out, findCombination blk df (mmioStart blk sys) enough out (range (rootBridgeCount blk + 1)) = some none) ∧
      ∀ a, a (primaryIndex df) = enough → Enumerated blk sys a → accepts blk df (mmioStart blk sys) a = false) := by
  have hle : ∀ number ∈ range (rootBridgeCount blk + 1), number ≤ rootBridgeCount blk :=
    fun number h => le_of_lt_succ (mem_range.mp h)
  rcases findCombination_spec df (mmioStart blk sys) enough .zero hle with
    ⟨a, hfind, hside, haccept, hvisited⟩ | ⟨hfind, hreject⟩
  · exact .inl ⟨a, fun out => (findCombination_congr enough out .zero).trans hfind, haccept, hside,
      exists_visited_iff.mp hvisited⟩
  · refine .inr ⟨fun out => (findCombination_congr enough out .zero).trans hfind, fun a hside ha => ?_⟩
    obtain ⟨number, hmem, hvisited⟩ := exists_visited_iff.mpr ha
    exact hreject number hmem a hvisited hside

theorem takenCombination_cases :
    (∃ a, takenCombination blk sys df = some a ∧ accepts blk df (mmioStart blk sys) a = true ∧
      (a = blk.resourceDistributionNv ∨ Searched blk sys df a)) ∨
    (takenCombination blk sys df = none ∧ accepts blk df (mmioStart blk sys) blk.resourceDistributionNv = false ∧
      ∀ a, Searched blk sys df a → accepts blk df (mmioStart blk sys) a = false) := by
  unfold takenCombination
  cases hstored : accepts blk df (mmioStart blk sys) blk.resourceDistributionNv with
  | true => exact .inl ⟨_, rfl, hstored, .inl rfl⟩
  | false =>
    simp only [Bool.false_eq_true, if_false]
    rcases findCombination_cases blk sys df (enoughAbovePcieSpaceForPrimaryRb blk sys df) with
      ⟨a, hfind, haccept, hside, ha⟩ | ⟨hfind, hreject⟩
    · exact .inl ⟨a, by simp [hfind], haccept, .inr ⟨ha, hside.symm.trans⟩⟩
    cases henough : enoughAbovePcieSpaceForPrimaryRb blk sys df with
    | false =>
      rw [henough] at hfind hreject
      refine .inr ⟨by simp [hfind], trivial, fun a ha => hreject a ?_ ha.1⟩
      cases habove : a (primaryIndex df) with
      | false => rfl
      | true => exact (ha.2 habove).symm.trans henough
    | true =>
      rw [henough] at hfind hreject
      rcases findCombination_cases blk sys df false with ⟨a, hfind', haccept, hside, ha⟩ | ⟨hfind', hreject'⟩
      · exact .inl ⟨a, by simp [hfind, hfind'], haccept, .inr ⟨ha, fun _ => henough⟩⟩
      · refine .inr ⟨by simp [hfind, hfind'], trivial, fun a ha => ?_⟩
        cases habove : a (primaryIndex df) with
        | false => exact hreject' a habove ha.1
        | true => exact hreject a habove ha.1

/-! ## What comes out -/

theorem silArrangeMmioBelow4G_eq (enough setDf : Bool) (out : MmioState) :
    silArrangeMmioBelow4G blk df (mmioStart blk sys) enough setDf out =
      (findCombination blk df (mmioStart blk sys) enough .zero (range (rootBridgeCount blk + 1))).join.elim
        (some (false, out)) fun a => (silTryThisCombination blk df (mmioStart blk sys) a setDf out).map (true, ·.2) := by
  unfold silArrangeMmioBelow4G
  rcases findCombination_cases blk sys df enough with ⟨a, hfind, -⟩ | ⟨hfind, -⟩ <;> simp [hfind]

/-- The state that the taken combination starts from. -/
def beforeTaken (setDf : Bool) (out : MmioState) : MmioState :=
  if accepts blk df (mmioStart blk sys) blk.resourceDistributionNv then out
  else (runCombination blk df (mmioStart blk sys) blk.resourceDistributionNv setDf out).out

theorem silInitMmioBasedOnNvVariable4_eq (setDf : Bool) (out : MmioState) :
    let above := silArrangeMmioAbove4G blk df (nvWindow blk sys).base (nvWindow blk sys).limit setDf out
    silInitMmioBasedOnNvVariable4 blk sys df setDf out =
      if above.enoughSpaceAbove4G then
        (takenCombination blk sys df).elim (some (.silOutOfResources, beforeTaken blk sys df setDf above.out)) fun a =>
          (silTryThisCombination blk df (mmioStart blk sys) a setDf (beforeTaken blk sys df setDf above.out)).map
            (.silPass, ·.2)
      else some (.silOutOfResources, above.out) := by
  dsimp only
  unfold silInitMmioBasedOnNvVariable4 takenCombination beforeTaken
  simp only [silArrangeMmioBelow4G_eq]
  generalize silArrangeMmioAbove4G blk df (nvWindow blk sys).base (nvWindow blk sys).limit setDf out = above
  cases above.enoughSpaceAbove4G with
  | false => rfl
  | true =>
    cases hstored : accepts blk df (mmioStart blk sys) blk.resourceDistributionNv with
    | true =>
      have haccept := silTryThisCombination_accepted hstored setDf above.out
      simp only [Bool.not_true, Bool.false_eq_true, if_false, if_true, Option.elim_some]
      rw [haccept]
      cases silTryThisCombination blk df (mmioStart blk sys) blk.resourceDistributionNv setDf above.out <;> rfl
    | false =>
      simp only [silTryThisCombination_rejected hstored, Bool.not_true, Bool.false_eq_true, if_false, if_true,
        bind_eq_bind, bind_some]
      generalize (runCombination blk df (mmioStart blk sys) blk.resourceDistributionNv setDf above.out).out = mid
      generalize (findCombination blk df (mmioStart blk sys) (enoughAbovePcieSpaceForPrimaryRb blk sys df) .zero
        (range (rootBridgeCount blk + 1))).join = first
      generalize (findCombination blk df (mmioStart blk sys) false .zero (range (rootBridgeCount blk + 1))).join = second
      cases first with
      | some a =>
        simp only [Option.elim_some, some_or]
        cases silTryThisCombination blk df (mmioStart blk sys) a setDf mid <;> rfl
      | none =>
        cases enoughAbovePcieSpaceForPrimaryRb blk sys df with
        | false => rfl
        | true =>
          cases second with
          | none => rfl
          | some a =>
            simp only [Option.elim_some, Option.elim_none, none_or, if_true, bind_some, Bool.false_eq_true, if_false]
            cases silTryThisCombination blk df (mmioStart blk sys) a setDf mid <;> rfl

end

variable {sys : SystemInfo} {setDf : Bool} {out out' : MmioState}

theorem silInitMmioBasedOnNvVariable4_pass
    (h : silInitMmioBasedOnNvVariable4 blk sys df setDf out = some (.silPass, out')) :
    let above := silArrangeMmioAbove4G blk df (nvWindow blk sys).base (nvWindow blk sys).limit setDf out
    above.enoughSpaceAbove4G = true ∧ ∃ a, takenCombination blk sys df = some a ∧
      silTryThisCombination blk df (mmioStart blk sys) a setDf (beforeTaken blk sys df setDf above.out) =
        some (true, out') := by
  intro above
  have heq := silInitMmioBasedOnNvVariable4_eq blk sys df setDf out
  dsimp only at heq
  rw [h] at heq
  split_ifs at heq with henough
  · rcases takenCombination_cases blk sys df with ⟨a, htaken, haccept, -⟩ | ⟨hnone, -⟩
    · rw [htaken, Option.elim_some] at heq
      obtain ⟨r, hr, hpass⟩ := map_eq_some_iff.mp heq.symm
      refine ⟨henough, a, htaken, ?_⟩
      rw [silTryThisCombination_accepted haccept, hr, ← (Prod.mk.inj hpass).2]
      rfl
    · rw [hnone] at heq
      cases heq
  · cases heq

theorem silInitMmioBasedOnNvVariable4_fail {status : SilStatus}
    (h : silInitMmioBasedOnNvVariable4 blk sys df setDf out = some (status, out')) (hfail : status ≠ .silPass) :
    let above := silArrangeMmioAbove4G blk df (nvWindow blk sys).base (nvWindow blk sys).limit setDf out
    out' = above.out ∨ out' = beforeTaken blk sys df setDf above.out := by
  intro above
  have heq := silInitMmioBasedOnNvVariable4_eq blk sys df setDf out
  dsimp only at heq
  rw [h] at heq
  split_ifs at heq
  · cases htaken : takenCombination blk sys df with
    | none =>
      rw [htaken] at heq
      exact .inr (Prod.mk.inj (some.inj heq)).2
    | some a =>
      rw [htaken, Option.elim_some] at heq
      obtain ⟨r, -, hpass⟩ := map_eq_some_iff.mp heq.symm
      exact absurd (Prod.mk.inj hpass).1.symm hfail
  · exact .inl (Prod.mk.inj (some.inj heq)).2

end

end OpenSil.RcMgr
