import OpenSil.Mpio.Topology

/-! # Runs on the topology table

The table stands for a set of at most `n` handles.
-/

namespace OpenSil.Mpio

open List PortDescriptor Scan

/-! ## Handles -/

theorem packHandle_eq_zero {kind lo hi gpioGroupId : UInt8}
    (h : packHandle kind lo hi gpioGroupId = 0) : kind = 0 ∧ lo = 0 ∧ hi = 0 := by
  have h0 := kind.toNat_lt
  have h1 := lo.toNat_lt
  have h2 := hi.toNat_lt
  have h3 := gpioGroupId.toNat_lt
  have hnat := congrArg UInt64.toNat h
  have hlt : lo.toNat + 2 ^ 8 * hi.toNat + 2 ^ 16 * kind.toNat + 2 ^ 24 * gpioGroupId.toNat < 2 ^ 64 := by
    omega
  unfold packHandle at hnat
  rw [UInt64.toNat_ofNat_of_lt' hlt, UInt64.toNat_zero] at hnat
  simp only [← UInt8.toNat_inj, UInt8.toNat_zero]
  omega

theorem unused_of_handle_zero {d : PortDescriptor} (h : getDescriptorHandle d = 0) : d.unused = true := by
  unfold unused
  exact decide_eq_true (packHandle_eq_zero h)

theorem handle_template : getDescriptorHandle templateTopologyPort = 0 := by decide

/-! ## The set of handles -/

def handlesOf (es : List PortDescriptor) : List UInt64 := (es.filter (!·.unused)).map getDescriptorHandle

theorem handlesOf_used (before after : List PortDescriptor) {d : PortDescriptor} (h : d.unused = false) :
    handlesOf (before ++ d :: after) = handlesOf before ++ getDescriptorHandle d :: handlesOf after := by
  simp [handlesOf, h]

theorem handlesOf_free (before after : List PortDescriptor) :
    handlesOf (before ++ templateTopologyPort :: after) = handlesOf before ++ handlesOf after := by
  simp [handlesOf, show templateTopologyPort.unused = true by decide]

/-- The entries in use have the handles `live`, one each, and the others are free. -/
structure Holds (n : Nat) (live : Finset UInt64) (es : List PortDescriptor) : Prop where
  length : es.length = n
  marks : ∀ d ∈ es, d.terminates = false
  free : ∀ d ∈ es, d.unused = true → d = templateTopologyPort
  nodup : (handlesOf es).Nodup
  handles : ∀ h, h ∈ handlesOf es ↔ h ∈ live

variable {n : Nat} {live : Finset UInt64} {es : List PortDescriptor} {mark : PortDescriptor}

theorem liveHandles_eq (hmark : mark.terminates = true) (hes : ∀ d ∈ es, d.terminates = false) :
    liveHandles (es ++ [mark]) = handlesOf es := by
  unfold liveHandles handlesOf
  rw [takeWhile_append_of_pos (by simpa using hes), takeWhile_cons_of_neg (by simpa using hmark), append_nil]

theorem Holds.card (h : Holds n live es) : live.card + es.countP unused = n := by
  have hlive : live = (handlesOf es).toFinset := by
    ext x
    rw [mem_toFinset, h.handles]
  have hlen := length_eq_countP_add_countP unused (l := es)
  rw [hlive, toFinset_card_of_nodup h.nodup, handlesOf, length_map, ← countP_eq_length_filter, ← h.length, hlen]
  simp [Nat.add_comm]

theorem Holds.exists_unused_iff (h : Holds n live es) : (∃ d ∈ es, d.unused = true) ↔ live.card < n := by
  rw [← countP_pos_iff]
  have := h.card
  omega

variable {d : PortDescriptor}

theorem Holds.used (h : Holds n live es) (hd : d ∈ es) (hrule : live.card < n → getDescriptorHandle d ≠ 0) :
    d.unused = false ∧ getDescriptorHandle d ∈ live := by
  cases hu : d.unused with
  | false =>
    refine ⟨rfl, (h.handles _).mp ?_⟩
    exact mem_map.mpr ⟨d, mem_filter.mpr ⟨hd, by simp [hu]⟩, rfl⟩
  | true =>
    have hzero := hrule (h.exists_unused_iff.mp ⟨d, hd, hu⟩)
    rw [h.free d hd hu] at hzero
    exact absurd handle_template hzero

variable {before after : List PortDescriptor}

theorem Holds.front (h : Holds n live (before ++ d :: after)) : ∀ b ∈ before ++ [d], ¬b.terminates = true := by
  intro b hb
  have hmem : b ∈ before ++ d :: after := by
    rw [append_cons]
    exact mem_append_left _ hb
  simp [h.marks b hmem]

theorem Holds.marks_replace {d d' : PortDescriptor} (h : Holds n live (before ++ d :: after))
    (hmark : d'.terminates = false) : ∀ e ∈ before ++ d' :: after, e.terminates = false := by
  intro e he
  rcases mem_append.mp he with he | he
  · exact h.marks e (by simp [he])
  · rcases mem_cons.mp he with rfl | he
    · exact hmark
    · exact h.marks e (by simp [he])

theorem Holds.replace {d d' : PortDescriptor} {live' : Finset UInt64} (h : Holds n live (before ++ d :: after))
    (hmark : d'.terminates = false) (hfree : d'.unused = true → d' = templateTopologyPort)
    (hnodup : (handlesOf (before ++ d' :: after)).Nodup)
    (hhandles : ∀ x, x ∈ handlesOf (before ++ d' :: after) ↔ x ∈ live') : Holds n live' (before ++ d' :: after) := by
  have hlen := h.length
  refine ⟨by simpa using hlen, h.marks_replace hmark, ?_, hnodup, hhandles⟩
  intro e he
  rcases mem_append.mp he with he | he
  · exact h.free e (by simp [he])
  · rcases mem_cons.mp he with rfl | he
    · exact hfree
    · exact h.free e (by simp [he])

/-! ## The calls on the set -/

def Call.onHandles (n : Nat) (live : Finset UInt64) : Call → Finset UInt64
  | .initializeTopologyEntry engineType startLane endLane resetId _ _ =>
    if live.card < n then insert (packHandle engineType startLane endLane resetId) live else live
  | .addParameter _ _ => live
  | .removeEntry entryHandle => live.erase entryHandle

/-- While an entry is free, new entries look used and have a new handle, and no handle is 0. -/
def Call.Allowed (n : Nat) (live : Finset UInt64) : Call → Prop
  | .initializeTopologyEntry engineType startLane endLane resetId _ _ => live.card < n →
    ¬(engineType = mpioUnusedEngine ∧ startLane = 0 ∧ endLane = 0) ∧ packHandle engineType startLane endLane resetId ∉ live
  | .addParameter entryHandle _ => live.card < n → entryHandle ≠ 0
  | .removeEntry entryHandle => live.card < n → entryHandle ≠ 0

def RunAllowed (n : Nat) (live : Finset UInt64) : List Call → Prop
  | [] => True
  | call :: calls => call.Allowed n live ∧ RunAllowed n (call.onHandles n live) calls

/-! ## One call -/

theorem addToParams_template (parameter : PortParam) :
    ∃ params, addToParams parameter templateTopologyPort.portParams = some params := ⟨_, rfl⟩

theorem occupy_spec (kind lo hi resetId device function : UInt8) :
    let d := templateTopologyPort.occupy kind lo hi resetId device function
    d.flags = 0 ∧ getDescriptorHandle d = packHandle kind lo hi resetId ∧
      (d.unused = true ↔ kind = mpioUnusedEngine ∧ lo = 0 ∧ hi = 0) := by
  unfold occupy
  simp only
  split <;> exact ⟨rfl, rfl, by simp [unused]⟩

section
variable (h : Holds n live es) (hmark : mark.terminates = true)
include h hmark

theorem Holds.initialize_free (hcard : live.card < n) (kind lo hi resetId device function : UInt8) :
    ∃ before after, es = before ++ templateTopologyPort :: after ∧
      let d := templateTopologyPort.occupy kind lo hi resetId device function
      initializeTopologyEntry (some (es ++ [mark])) kind lo hi resetId device function =
        (some (before ++ d :: after ++ [mark]), some (getDescriptorHandle d), true) := by
  unfold initializeTopologyEntry
  simp only
  cases hfirst : first terminates unused (es ++ [mark]) with
  | none =>
    obtain ⟨d, hd, hunused⟩ := h.exists_unused_iff.mpr hcard
    rw [(first_eq_none hmark h.marks).mp hfirst d hd] at hunused
    exact absurd hunused (by decide)
  | some counter =>
    obtain ⟨before, d, after, rfl, rfl, hunused⟩ := first_eq_some hmark hfirst
    obtain rfl := h.free d (by simp) hunused
    obtain ⟨hget, hset⟩ := getD_set_append_cons before after [mark] templateTopologyPort
      (templateTopologyPort.occupy kind lo hi resetId device function) templateTopologyPort
    refine ⟨before, after, rfl, ?_⟩
    simp only [hget, hset]

theorem Holds.initialize_full (hcard : ¬live.card < n) (kind lo hi resetId device function : UInt8) :
    initializeTopologyEntry (some (es ++ [mark])) kind lo hi resetId device function =
      (some (es ++ [mark]), none, false) := by
  have hnone : first terminates unused (es ++ [mark]) = none := by
    rw [first_eq_none hmark h.marks]
    intro d hd
    by_contra hunused
    exact hcard (h.exists_unused_iff.mp ⟨d, hd, by simpa using hunused⟩)
  unfold initializeTopologyEntry
  simp only [hnone]

theorem Holds.first_handle (entry : UInt64) :
    (∃ before d after, es = before ++ d :: after ∧ getDescriptorHandle d = entry ∧
      first terminates (getDescriptorHandle · = entry) (es ++ [mark]) = some before.length) ∨
    (entry ∉ live ∧ (live.card < n → entry ≠ 0) ∧
      first terminates (getDescriptorHandle · = entry) (es ++ [mark]) = none) := by
  cases hfirst : first terminates (getDescriptorHandle · = entry) (es ++ [mark]) with
  | some counter =>
    obtain ⟨before, d, after, rfl, rfl, hhandle⟩ := first_eq_some hmark hfirst
    exact .inl ⟨before, d, after, rfl, by simpa using hhandle, rfl⟩
  | none =>
    rw [first_eq_none hmark h.marks] at hfirst
    refine .inr ⟨?_, ?_, rfl⟩
    · rw [← h.handles]
      intro hmem
      obtain ⟨d, hd, hhandle⟩ := mem_map.mp hmem
      simpa [hhandle] using hfirst d (mem_filter.mp hd).1
    · intro hcard hzero
      obtain ⟨d, hd, hunused⟩ := h.exists_unused_iff.mpr hcard
      obtain rfl := h.free d hd hunused
      simpa [handle_template, hzero] using hfirst _ hd

def StepHolds (n : Nat) (live' : Finset UInt64) (mark : PortDescriptor) (table : PortList) (call : Call) : Prop :=
  StepOk table call ∧ ∃ es', (step table call).1 = some (es' ++ [mark]) ∧ Holds n live' es'

theorem Holds.initialize_allowed {kind lo hi resetId : UInt8} (device function : UInt8)
    (hallowed : (Call.initializeTopologyEntry kind lo hi resetId device function).Allowed n live) :
    StepHolds n ((Call.initializeTopologyEntry kind lo hi resetId device function).onHandles n live) mark
      (some (es ++ [mark])) (.initializeTopologyEntry kind lo hi resetId device function) := by
  unfold StepHolds StepOk Call.onHandles step
  by_cases hcard : live.card < n
  · obtain ⟨hused, hfresh⟩ := hallowed hcard
    obtain ⟨before, after, rfl, heq⟩ := h.initialize_free hmark hcard kind lo hi resetId device function
    obtain ⟨hflags, hhandle, hunused⟩ := occupy_spec kind lo hi resetId device function
    simp only at heq hflags hhandle hunused
    generalize templateTopologyPort.occupy kind lo hi resetId device function = d at *
    have hd : d.unused = false := Bool.eq_false_iff.mpr fun hu => hused (hunused.mp hu)
    have hsplit := handlesOf_used before after hd
    have hnot : getDescriptorHandle d ∉ handlesOf before ++ handlesOf after := by
      rw [← handlesOf_free, h.handles, hhandle]
      exact hfresh
    simp only [heq, if_true, if_pos hcard]
    refine ⟨⟨before, templateTopologyPort, d, after ++ [mark], by simp, by simp, ?_, ?_⟩, before ++ d :: after, rfl,
      h.replace ?_ ?_ ?_ ?_⟩
    · exact h.front
    · exact ⟨by decide, by simp [hd], rfl, hflags⟩
    · unfold terminates
      rw [hflags]
      decide
    · simp [hd]
    · have hnodup := h.nodup
      rw [handlesOf_free] at hnodup
      rw [hsplit]
      exact (nodup_middle).mpr (nodup_cons.mpr ⟨hnot, hnodup⟩)
    · intro x
      rw [hsplit, Finset.mem_insert, ← h.handles, handlesOf_free, hhandle]
      simp only [mem_append, mem_cons]
      exact or_left_comm
  · simp only [h.initialize_full hmark hcard, if_neg hcard]
    exact ⟨by simp, es, rfl, h⟩

variable {entry : UInt64}

theorem Holds.addParameter_allowed (parameter : PortParam)
    (hallowed : (Call.addParameter entry parameter).Allowed n live) :
    StepHolds n live mark (some (es ++ [mark])) (.addParameter entry parameter) := by
  unfold StepHolds StepOk step addParameter
  rcases h.first_handle hmark entry with ⟨before, d, after, rfl, rfl, hfirst⟩ | ⟨-, -, hfirst⟩
  · obtain ⟨hget, -⟩ := getD_set_append_cons before after [mark] d d templateTopologyPort
    simp only [hfirst, hget]
    cases hadd : addToParams parameter d.portParams with
    | none => exact ⟨by simp, before ++ d :: after, rfl, h⟩
    | some params =>
      obtain ⟨-, hset⟩ := getD_set_append_cons before after [mark] d { d with portParams := params } templateTopologyPort
      have hmem : d ∈ before ++ d :: after := by simp
      obtain ⟨hused, -⟩ := h.used hmem hallowed
      have hused' : unused { d with portParams := params } = false := hused
      have hsame : handlesOf (before ++ { d with portParams := params } :: after) = handlesOf (before ++ d :: after) := by
        rw [handlesOf_used _ _ hused, handlesOf_used _ _ hused']
        rfl
      simp only [hset, if_true]
      refine ⟨⟨before, d, { d with portParams := params }, after ++ [mark], by simp, by simp, h.front, ?_⟩, _, rfl,
        h.replace (h.marks d hmem) ?_ (hsame ▸ h.nodup) (hsame ▸ h.handles)⟩
      · exact ⟨by simp [hused], rfl, by simp [hused'], rfl, rfl⟩
      · simp [hused']
  · simp only [hfirst]
    exact ⟨by simp, es, rfl, h⟩

theorem Holds.removeEntry_allowed (hallowed : (Call.removeEntry entry).Allowed n live) :
    StepHolds n (live.erase entry) mark (some (es ++ [mark])) (.removeEntry entry) := by
  unfold StepHolds StepOk step removeEntry
  rcases h.first_handle hmark entry with ⟨before, d, after, rfl, rfl, hfirst⟩ | ⟨hnot, -, hfirst⟩
  · obtain ⟨-, hset⟩ := getD_set_append_cons before after [mark] d templateTopologyPort templateTopologyPort
    have hmem : d ∈ before ++ d :: after := by simp
    obtain ⟨hused, -⟩ := h.used hmem hallowed
    have hold := handlesOf_used before after hused
    have hnew := handlesOf_free before after
    have hnodup := h.nodup
    rw [hold, nodup_middle, nodup_cons] at hnodup
    simp only [hfirst, hset, if_true]
    refine ⟨⟨before, d, templateTopologyPort, after ++ [mark], by simp, by simp, h.front, ?_⟩, _, rfl,
      h.replace (by decide) (fun _ => rfl) (hnew ▸ hnodup.2) ?_⟩
    · exact ⟨by simp [hused], rfl, by decide, by rw [h.marks d hmem]; decide⟩
    · intro x
      rw [hnew, Finset.mem_erase, ← h.handles, hold]
      constructor
      · grind
      · rintro ⟨hne, hx⟩
        simpa [hne] using hx
  · simp_all

theorem Holds.initialize_not_allowed {kind lo hi resetId device function : UInt8}
    (hnot : ¬(Call.initializeTopologyEntry kind lo hi resetId device function).Allowed n live) :
    ¬(StepOk (some (es ++ [mark])) (.initializeTopologyEntry kind lo hi resetId device function) ∧
      Unique (step (some (es ++ [mark]))
        (.initializeTopologyEntry kind lo hi resetId device function)).1) := by
  unfold Call.Allowed at hnot
  obtain ⟨hcard, hnot⟩ := Classical.not_imp.mp hnot
  obtain ⟨before, after, rfl, heq⟩ := h.initialize_free hmark hcard kind lo hi resetId device function
  obtain ⟨hflags, hhandle, hunused⟩ := occupy_spec kind lo hi resetId device function
  simp only at heq hflags hhandle hunused
  unfold StepOk step
  simp only [heq, if_true]
  generalize templateTopologyPort.occupy kind lo hi resetId device function = d at *
  rintro ⟨⟨before', e, e', after', htable, htable', -, hfree, hused, -, -⟩, hunique⟩
  by_cases hnull : kind = mpioUnusedEngine ∧ lo = 0 ∧ hi = 0
  · -- The number of free entries has not changed, but a free entry has become occupied.
    have hd := hunused.mpr hnull
    have hused' : e'.unused = false := Bool.eq_false_iff.mpr hused
    have hcount := congrArg (countP unused) (Option.some.inj htable)
    have hcount' := congrArg (countP unused) (Option.some.inj htable')
    simp only [countP_append, countP_cons, hd, hfree, hused', show templateTopologyPort.unused = true by decide,
      if_true, Bool.false_eq_true, if_false] at hcount hcount'
    omega
  · have htaken : packHandle kind lo hi resetId ∈ live := by
      by_contra hfresh
      exact hnot ⟨hnull, hfresh⟩
    have hd : d.unused = false := Bool.eq_false_iff.mpr fun hu => hnull (hunused.mp hu)
    have hdmark : d.terminates = false := by
      unfold terminates
      rw [hflags]
      decide
    have hnodup := hunique _ rfl
    rw [liveHandles_eq hmark (h.marks_replace hdmark), handlesOf_used _ _ hd, nodup_middle, nodup_cons] at hnodup
    rw [← h.handles, handlesOf_free, ← hhandle] at htaken
    exact hnodup.1 htaken

theorem Holds.addParameter_not_allowed {parameter : PortParam}
    (hnot : ¬(Call.addParameter entry parameter).Allowed n live) :
    ¬StepOk (some (es ++ [mark])) (.addParameter entry parameter) := by
  unfold Call.Allowed at hnot
  obtain ⟨hcard, hzero⟩ := Classical.not_imp.mp hnot
  rw [not_ne_iff] at hzero
  unfold StepOk step addParameter
  rcases h.first_handle hmark entry with ⟨before, d, after, rfl, hhandle, hfirst⟩ | ⟨-, hrule, -⟩
  · obtain rfl := h.free d (by simp) (unused_of_handle_zero (hhandle.trans hzero))
    obtain ⟨hget, -⟩ := getD_set_append_cons before after [mark] templateTopologyPort templateTopologyPort
      templateTopologyPort
    obtain ⟨params, hparams⟩ := addToParams_template parameter
    simp only [hfirst, hget, hparams, if_true]
    rintro ⟨-, e, -, -, -, -, -, hused, hhandle', -⟩
    exact hused (unused_of_handle_zero (hhandle'.trans hzero))
  · exact absurd hzero (hrule hcard)

theorem Holds.removeEntry_not_allowed (hnot : ¬(Call.removeEntry entry).Allowed n live) :
    ¬StepOk (some (es ++ [mark])) (.removeEntry entry) := by
  unfold Call.Allowed at hnot
  obtain ⟨hcard, hzero⟩ := Classical.not_imp.mp hnot
  rw [not_ne_iff] at hzero
  unfold StepOk step removeEntry
  rcases h.first_handle hmark entry with ⟨before, d, after, rfl, hhandle, hfirst⟩ | ⟨-, hrule, -⟩
  · simp only [hfirst, if_true]
    rintro ⟨-, e, -, -, -, -, -, hused, hhandle', -⟩
    exact hused (unused_of_handle_zero (hhandle'.trans hzero))
  · exact absurd hzero (hrule hcard)

variable {call : Call}

theorem Holds.step_allowed (hallowed : call.Allowed n live) :
    StepHolds n (call.onHandles n live) mark (some (es ++ [mark])) call := by
  cases call with
  | initializeTopologyEntry kind lo hi resetId device function =>
    exact h.initialize_allowed hmark device function hallowed
  | addParameter entry parameter => exact h.addParameter_allowed hmark parameter hallowed
  | removeEntry entry => exact h.removeEntry_allowed hmark hallowed

theorem Holds.step_not_allowed (hnot : ¬call.Allowed n live) :
    ¬(StepOk (some (es ++ [mark])) call ∧ Unique (step (some (es ++ [mark])) call).1) := by
  cases call with
  | initializeTopologyEntry kind lo hi resetId device function =>
    exact h.initialize_not_allowed hmark hnot
  | addParameter entry parameter => exact fun hok => h.addParameter_not_allowed hmark hnot hok.1
  | removeEntry entry => exact fun hok => h.removeEntry_not_allowed hmark hnot hok.1

end

/-! ## Runs -/

theorem RunOk.unique {table : PortList} {calls : List Call} (h : RunOk table calls) : Unique table := by
  cases calls with
  | nil => exact h
  | cons call calls => exact h.1

section
variable (h : Holds n live es) (hmark : mark.terminates = true)
include h hmark

theorem Holds.unique :
    Unique (some (es ++ [mark])) := by
  rintro entries heq
  rw [← Option.some.inj heq, liveHandles_eq hmark h.marks]
  exact h.nodup

theorem Holds.runOk_iff (calls : List Call) :
    RunOk (some (es ++ [mark])) calls ↔ RunAllowed n live calls := by
  induction calls generalizing live es with
  | nil => exact ⟨fun _ => trivial, fun _ => h.unique hmark⟩
  | cons call calls ih =>
    unfold RunOk RunAllowed
    by_cases hallowed : call.Allowed n live
    · obtain ⟨hok, es', hnext, h'⟩ := h.step_allowed hmark hallowed
      rw [hnext, ih h']
      simp [h.unique hmark, hok, hallowed]
    · constructor
      · rintro ⟨-, hok, hrun⟩
        exact absurd ⟨hok, hrun.unique⟩ (h.step_not_allowed hmark hallowed)
      · exact fun hrun => absurd hrun.1 hallowed

end

theorem holds_replicate (n : Nat) : Holds n ∅ (replicate n templateTopologyPort) := by
  have hnil : handlesOf (replicate n templateTopologyPort) = [] := by
    unfold handlesOf
    rw [filter_eq_nil_iff.mpr, map_nil]
    intro d hd
    rw [eq_of_mem_replicate hd]
    decide
  refine ⟨length_replicate, ?_, ?_, by simp [hnil], by simp [hnil]⟩
  · intro d hd
    rw [eq_of_mem_replicate hd]
    decide
  · exact fun d hd _ => eq_of_mem_replicate hd

/-- From an empty table of any size, every call does what it should and handles stay unique exactly if the caller never
asks for a handle in use or for an entry that looks free, and never passes the handle 0, while there is a free entry. -/
theorem topology_run_ok_iff (n : Nat) (calls : List Call) : RunOk (emptyTable n) calls ↔ RunAllowed n ∅ calls :=
  (holds_replicate n).runOk_iff (by decide) calls

def pcieLanes0To15 : Call := .initializeTopologyEntry mpioPcieEngine 0 15 1 1 1

/-- Two entries for the same lanes get one handle. -/
theorem same_handle_twice :
    ((step (step (emptyTable 2) pcieLanes0To15).1 pcieLanes0To15).1.map liveHandles = some [0x1010F00, 0x1010F00]) ∧
    ¬RunOk (emptyTable 2) [pcieLanes0To15, pcieLanes0To15] := by
  have hlive : (step (step (emptyTable 2) pcieLanes0To15).1 pcieLanes0To15).1.map liveHandles =
      some [0x1010F00, 0x1010F00] := by decide
  refine ⟨hlive, fun h => ?_⟩
  obtain ⟨entries, hentries, hhandles⟩ := Option.map_eq_some_iff.mp hlive
  have hnodup := h.2.2.2.2 entries hentries
  rw [hhandles] at hnodup
  exact absurd hnodup (by decide)

end OpenSil.Mpio
