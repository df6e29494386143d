import Mathlib.Logic.Equiv.Basic
import OpenSil.Nbio.HidePcieCore

/-! # Logical bridge ids

`SwapLogicalBridgeId` gives an engine a new id.
-/

open OpenSil.Nbio OpenSil.Chain List Function Nat Option

namespace OpenSil.Mpio

abbrev BridgeIds := Nat → UInt8

section
variable (fuel : Nat) (h : Headers)

def swapSearch (wrapper : Option Nat) (engine : Nat) (newBdgIdx : UInt8) :
    Nat → Option Nat → Option Nat → BridgeIds → Except Stop BridgeIds
  | _, none, _, ids => .ok ids
  | 0, some _, _, _ => .error .fuel
  | turns + 1, some engineList, tempWrapper, ids =>
    if wrapper = tempWrapper then do
      let ids := if ids engineList = newBdgIdx then Function.update ids engineList (ids engine) else ids
      let next := h.nextTopologyDescriptor engineList
      let tempWrapper ← Stop.ofFuel (pcieConfigGetParent fuel h descriptorAllWrappers (← Stop.deref next))
      swapSearch wrapper engine newBdgIdx turns next tempWrapper ids
    else .ok ids

def swapLogicalBridgeId (ids : BridgeIds) (engine : Nat) (newBdgIdx : UInt8) : Except Stop BridgeIds :=
  if ids engine = newBdgIdx then .ok ids
  else do
    let wrapper ← Stop.ofFuel (pcieConfigGetParent fuel h descriptorAllWrappers engine)
    let engineList ← Stop.ofFuel (pcieConfigGetChild fuel h descriptorAllEngines engine)
    let tempWrapper ← Stop.ofFuel (pcieConfigGetParent fuel h descriptorAllWrappers (← Stop.deref engineList))
    let ids ← swapSearch fuel h wrapper engine newBdgIdx fuel engineList tempWrapper ids
    .ok (Function.update ids engine newBdgIdx)

end

/-! ## One call -/

def renamed (l : List Nat) (engine : Nat) (newBdgIdx : UInt8) (ids : BridgeIds) : BridgeIds := fun x =>
  if x ∈ l ∧ ids x = newBdgIdx then ids engine else ids x

@[simp] theorem renamed_nil (engine : Nat) (bdg : UInt8) (ids : BridgeIds) :
    renamed [] engine bdg ids = ids := by
  funext x
  simp [renamed]

variable {fuel : Nat} {h : Headers} {ids : BridgeIds} {engine : Nat} {bdg : UInt8}

theorem renamed_cons (hne : ids engine ≠ bdg) (a : Nat) (l : List Nat) :
    renamed l engine bdg
        (if ids a = bdg then update ids a (ids engine) else ids) =
      renamed (a :: l) engine bdg ids := by
  by_cases ha : ids a = bdg
  · have hengine : a ≠ engine := fun hsame => hne (hsame ▸ ha)
    rw [if_pos ha]
    funext x
    unfold renamed
    rw [update_of_ne hengine.symm]
    by_cases hx : x = a
    · simp [hx, ha, hne]
    · simp [hx]
  · rw [if_neg ha]
    funext x
    unfold renamed
    by_cases hx : x = a
    · simp [hx, ha]
    · simp [hx]

section
variable {wrapper : Nat} {l : List Nat} {first : Nat} {turns : Nat}

theorem swapSearch_of_path {stop : Option Nat} (hpath : Path h.nextTopologyDescriptor (some first) l stop)
    (hl : ∀ e ∈ l, pcieConfigGetParent fuel h descriptorAllWrappers e = some (some wrapper))
    (hstop : ∀ e, stop = some e →
      ∃ other, pcieConfigGetParent fuel h descriptorAllWrappers e = some (some other) ∧ other ≠ wrapper)
    (hid : ids engine ≠ bdg) (hturns : l.length < turns) :
    ∃ temp, pcieConfigGetParent fuel h descriptorAllWrappers first = some temp ∧
      swapSearch fuel h (some wrapper) engine bdg turns (some first) temp ids =
        stop.elim (.error .null) fun _ => .ok (renamed l engine bdg ids) := by
  obtain ⟨turns, rfl⟩ := exists_eq_succ_of_ne_zero (ne_zero_of_lt hturns)
  induction l generalizing first turns ids with
  | nil =>
    obtain rfl : some first = stop := hpath
    obtain ⟨other, hother, hne⟩ := hstop first rfl
    refine ⟨some other, hother, ?_⟩
    have hleave : ¬some wrapper = some other := fun heq => hne (some.inj heq).symm
    rw [swapSearch, if_neg hleave, renamed_nil, elim_some]
  | cons a l ih =>
    obtain ⟨hfirst, hrest⟩ := hpath
    obtain rfl := some.inj hfirst
    rw [forall_mem_cons] at hl
    refine ⟨some wrapper, hl.1, ?_⟩
    rw [swapSearch, if_pos rfl]
    cases hnext : h.nextTopologyDescriptor first with
    | none =>
      -- Nothing is behind the engine, and its parent is asked for all the same.
      obtain rfl : stop = none := by
        rw [hnext] at hrest
        cases l with
        | nil => exact hrest.symm
        | cons b l => exact nomatch hrest.1
      rfl
    | some next =>
      rw [hnext] at hrest
      have hid' : (if ids first = bdg then update ids first (ids engine) else ids) engine ≠ bdg := by
        by_cases ha : ids first = bdg
        · grind
        · rwa [if_neg ha]
      obtain ⟨turns, rfl⟩ := exists_eq_succ_of_ne_zero (ne_zero_of_lt (lt_of_succ_lt_succ hturns))
      obtain ⟨temp, htemp, hrun⟩ := ih hrest hl.2 hid' turns (lt_of_succ_lt_succ hturns)
      simp only [Stop.deref_some, Stop.ok_bind, htemp, Stop.ofFuel_some, hrun, renamed_cons hid]

end

section
variable {bs : List BridgeNode} {pre rest : List CoreNode} {c : CoreNode} {before after : List Nat}

section
variable (t : h.Linked bs) (hbs : Layout bs) (hfuel : Enough fuel bs)
include t hbs hfuel

theorem getParent_engine (hc : c ∈ liveOf bs) {e : Nat} (he : e ∈ c.engines) :
    pcieConfigGetParent fuel h descriptorAllWrappers e = some (some c.addr) := by
  obtain ⟨_, -, -, hcore⟩ := t.placedCore hbs hc
  exact hcore.getParent_wrapper he hfuel.1

theorem getChild_self (hc : c ∈ liveOf bs) {e : Nat} (he : e ∈ c.engines) :
    pcieConfigGetChild fuel h descriptorAllEngines e = some (some e) := by
  obtain ⟨_, -, -, hcore⟩ := t.placedCore hbs hc
  exact Headers.seek_of_kinds [] rfl .nil (hcore.engine e he).1 hfuel.1

end

variable (t : h.Linked bs) (hbs : Layout bs) (hfuel : Enough fuel bs) (hlive : liveOf bs = pre ++ c :: rest)
  (hengines : c.engines = before ++ engine :: after)
include hlive hengines

theorem engines_split : enginesOf (liveOf bs) = enginesOf pre ++ before ++ (engine :: after ++ enginesOf rest) := by
  rw [hlive, enginesOf_append, show enginesOf (c :: rest) = c.engines ++ enginesOf rest from flatMap_cons, hengines]
  simp

include t in
theorem engines_path : Path h.nextTopologyDescriptor (some engine) (engine :: after) (enginesOf rest).head? := by
  have hlisted := t.engines
  unfold Headers.Listed at hlisted
  rw [engines_split hlive hengines] at hlisted
  obtain ⟨r, -, hfrom⟩ := path_append_iff.mp hlisted
  obtain rfl : r = some engine := hfrom.start_eq
  obtain ⟨q, hown, hrest⟩ := path_append_iff.mp hfrom
  rw [hrest.start_eq, or_none] at hown
  exact hown

include hfuel in
theorem length_after_lt : (engine :: after).length < fuel := by
  have hall := hfuel.2.2.2
  rw [engines_split hlive hengines] at hall
  simp only [length_append, length_cons] at hall ⊢
  omega

include t hbs hfuel

theorem getParent_from :
    ∀ e ∈ engine :: after, pcieConfigGetParent fuel h descriptorAllWrappers e = some (some c.addr) :=
  fun _ he => getParent_engine t hbs hfuel (hlive ▸ mem_append_right _ mem_cons_self)
    (hengines ▸ mem_append_right _ he)

theorem swapLogicalBridgeId_eq_search {bdg : UInt8} (hid : ids engine ≠ bdg) :
    swapLogicalBridgeId fuel h ids engine bdg =
      (swapSearch fuel h (some c.addr) engine bdg fuel (some engine) (some c.addr) ids).map
        (update · engine bdg) := by
  have hc : c ∈ liveOf bs := by simp [hlive]
  have hengine : engine ∈ c.engines := by simp [hengines]
  unfold swapLogicalBridgeId
  rw [if_neg hid]
  simp only [getParent_engine t hbs hfuel hc hengine, getChild_self t hbs hfuel hc hengine, Stop.ofFuel_some,
    Stop.deref_some, Stop.ok_bind]
  cases swapSearch fuel h (some c.addr) engine bdg fuel (some engine) (some c.addr) ids <;> rfl

/-- At the last core of the list, the parent is asked for of the engine behind its last one, which is none. -/
theorem swapLogicalBridgeId_eq (bdg : UInt8) (hid : ids engine ≠ bdg) :
    swapLogicalBridgeId fuel h ids engine bdg =
      if rest = [] then .error .null
      else .ok (update (renamed (engine :: after) engine bdg ids) engine bdg) := by
  have hown := getParent_from t hbs hfuel hlive hengines
  have hbehind : ∀ e, (enginesOf rest).head? = some e →
      ∃ other, pcieConfigGetParent fuel h descriptorAllWrappers e = some (some other) ∧ other ≠ c.addr := by
    intro e he
    obtain ⟨next, hnext, hmem⟩ := mem_flatMap.mp (mem_of_head? he)
    have hlt : c.addr < next.addr := hbs.addr_lt (hlive.trans (append_cons ..)) (by simp) hnext
    exact ⟨_, getParent_engine t hbs hfuel (by simp [hlive, hnext]) hmem, hlt.ne'⟩
  obtain ⟨temp, htemp, hrun⟩ := swapSearch_of_path (engines_path t hlive hengines) hown hbehind hid
    (length_after_lt hfuel hlive hengines)
  obtain rfl : some c.addr = temp := some.inj ((hown engine mem_cons_self).symm.trans htemp)
  rw [swapLogicalBridgeId_eq_search t hbs hfuel hlive hengines hid, hrun]
  cases rest with
  | nil => rfl
  | cons next rest =>
    obtain ⟨_, -, -, hcore⟩ := t.placedCore hbs (c := next) (by simp [hlive])
    obtain ⟨other, others, hothers, -⟩ := hcore.child
    have hhead : (enginesOf (next :: rest)).head? = some other := by simp [enginesOf, hothers]
    rw [hhead, if_neg (cons_ne_nil _ _)]
    rfl

end

/-! ## Sequences of calls -/

def DistinctIds (c : CoreNode) (ids : BridgeIds) : Prop :=
  ∀ x ∈ c.engines, ∀ y ∈ c.engines, ids x = ids y → x = y

instance (c : CoreNode) (ids : BridgeIds) : Decidable (DistinctIds c ids) :=
  inferInstanceAs (Decidable (∀ x ∈ c.engines, ∀ y ∈ c.engines, ids x = ids y → x = y))

def exchange (c : CoreNode) (ids : BridgeIds) (engine : Nat) (newBdgIdx : UInt8) : BridgeIds := fun x =>
  if x ∈ c.engines then Equiv.swap (ids engine) newBdgIdx (ids x) else ids x

variable {c : CoreNode}

theorem exchange_engine (he : engine ∈ c.engines) (ids : BridgeIds) (bdg : UInt8) :
    exchange c ids engine bdg engine = bdg := by
  rw [exchange, if_pos he, Equiv.swap_apply_left]

theorem exchange_self (c : CoreNode) (ids : BridgeIds) (engine : Nat) : exchange c ids engine (ids engine) = ids := by
  funext x
  simp [exchange]

theorem DistinctIds.exchange (hd : DistinctIds c ids) (engine : Nat) (bdg : UInt8) :
    DistinctIds c (exchange c ids engine bdg) := by
  intro x hx y hy hsame
  unfold Mpio.exchange at hsame
  rw [if_pos hx, if_pos hy] at hsame
  exact hd x hx y hy ((Equiv.swap _ _).injective hsame)

theorem update_renamed_eq_exchange {before after : List Nat} (hengines : c.engines = before ++ engine :: after)
    (hd : DistinctIds c ids) (hbefore : ∀ x ∈ before, ids x ≠ bdg) :
    update (renamed (engine :: after) engine bdg ids) engine bdg =
      exchange c ids engine bdg := by
  have hengine : engine ∈ c.engines := by simp [hengines]
  funext x
  by_cases hx : x = engine
  · rw [hx, update_self, exchange_engine hengine]
  rw [update_of_ne hx]
  unfold renamed exchange
  by_cases hmem : x ∈ c.engines
  · have hne : ids x ≠ ids engine := fun hsame => hx (hd x hmem engine hengine hsame)
    rw [if_pos hmem]
    by_cases hnew : ids x = bdg
    · grind
    · rw [if_neg fun hown => hnew hown.2, Equiv.swap_apply_of_ne_of_ne hne hnew]
  · simp_all

/-- A call that reaches the owner of the new id: the engine has the id already, or no engine in front of it in the core
has it and the search ends at a core behind. -/
def Reaches (bs : List BridgeNode) (c : CoreNode) (ids : BridgeIds) (engine : Nat) (newBdgIdx : UInt8) : Prop :=
  ids engine = newBdgIdx ∨
    (∃ next ∈ liveOf bs, c.addr < next.addr) ∧ ∀ x ∈ c.engines, x < engine → ids x ≠ newBdgIdx

section
variable {bs : List BridgeNode}

theorem engines_around (hbs : Layout bs) (hc : c ∈ liveOf bs) {before after : List Nat}
    (hengines : c.engines = before ++ engine :: after) :
    (∀ x ∈ before, x < engine) ∧ ∀ x ∈ engine :: after, engine ≤ x := by
  have hascending : c.engines.Pairwise (· < ·) :=
    hbs.engines.sublist (sublist_flatten_of_mem (mem_map_of_mem hc))
  rw [hengines, pairwise_append, pairwise_cons] at hascending
  obtain ⟨-, ⟨hafter, -⟩, hbefore⟩ := hascending
  exact ⟨fun x hx => hbefore x hx engine mem_cons_self,
    forall_mem_cons.mpr ⟨le_rfl, fun x hx => (hafter x hx).le⟩⟩

theorem exists_behind_iff (hbs : Layout bs) {pre rest : List CoreNode} (hlive : liveOf bs = pre ++ c :: rest) :
    (∃ next ∈ liveOf bs, c.addr < next.addr) ↔ rest ≠ [] := by
  constructor
  · rintro ⟨next, hnext, hlt⟩ rfl
    rw [hlive, mem_append, mem_singleton] at hnext
    obtain hnext | rfl := hnext
    · exact hlt.asymm (hbs.addr_lt hlive hnext mem_cons_self)
    · exact hlt.false
  · intro hrest
    obtain ⟨next, rest, rfl⟩ := exists_cons_of_ne_nil hrest
    exact ⟨next, by simp [hlive], hbs.addr_lt (hlive.trans (append_cons ..)) (by simp) mem_cons_self⟩

variable (t : h.Linked bs) (hbs : Layout bs) (hfuel : Enough fuel bs) (hc : c ∈ liveOf bs)
  (hengine : engine ∈ c.engines)
include t hbs hfuel hc hengine

theorem swapLogicalBridgeId_of_reaches (hd : DistinctIds c ids) (hr : Reaches bs c ids engine bdg) :
    swapLogicalBridgeId fuel h ids engine bdg = .ok (exchange c ids engine bdg) := by
  by_cases hid : ids engine = bdg
  · rw [swapLogicalBridgeId, if_pos hid, ← hid, exchange_self]
  obtain ⟨hbehind, hearly⟩ := hr.resolve_left hid
  obtain ⟨pre, rest, hlive⟩ := append_of_mem hc
  obtain ⟨before, after, hengines⟩ := append_of_mem hengine
  have hbefore : ∀ x ∈ before, ids x ≠ bdg := fun x hx =>
    hearly x (hengines ▸ mem_append_left _ hx) ((engines_around hbs hc hengines).1 x hx)
  rw [swapLogicalBridgeId_eq t hbs hfuel hlive hengines bdg hid,
    if_neg ((exists_behind_iff hbs hlive).mp hbehind), update_renamed_eq_exchange hengines hd hbefore]

theorem reaches_of_distinct {ids' : BridgeIds}
    (hrun : swapLogicalBridgeId fuel h ids engine bdg = .ok ids') (hnew : ids' engine = bdg)
    (hd' : DistinctIds c ids') : Reaches bs c ids engine bdg := by
  by_cases hid : ids engine = bdg
  · exact .inl hid
  obtain ⟨pre, rest, hlive⟩ := append_of_mem hc
  obtain ⟨before, after, hengines⟩ := append_of_mem hengine
  rw [swapLogicalBridgeId_eq t hbs hfuel hlive hengines bdg hid] at hrun
  by_cases hlast : rest = []
  · rw [if_pos hlast] at hrun
    exact nomatch hrun
  · rw [if_neg hlast] at hrun
    refine .inr ⟨(exists_behind_iff hbs hlive).mpr hlast, fun x hx hlt howner => hlt.ne ?_⟩
    have hkeeps : ids' x = bdg := by
      have hearly : x ∉ engine :: after := fun hlate => hlt.not_ge ((engines_around hbs hc hengines).2 x hlate)
      rw [← Except.ok.inj hrun, update_of_ne hlt.ne, renamed, if_neg fun hown => hearly hown.1, howner]
    exact hd' x hx engine hengine (hkeeps.trans hnew.symm)

end

/-- Every call gives the engine its ID and leaves the IDs distinct. -/
def KeepsDistinct (fuel : Nat) (h : Headers) (c : CoreNode) : BridgeIds → List (Nat × UInt8) → Prop
  | _, [] => True
  | ids, (engine, newBdgIdx) :: calls =>
    ∃ ids', swapLogicalBridgeId fuel h ids engine newBdgIdx = .ok ids' ∧ ids' engine = newBdgIdx ∧
      DistinctIds c ids' ∧ KeepsDistinct fuel h c ids' calls

/-- Each call of the sequence reaches the owner of the new id, where the calls before it have made their exchanges. -/
def AllReach (bs : List BridgeNode) (c : CoreNode) : BridgeIds → List (Nat × UInt8) → Prop
  | _, [] => True
  | ids, (engine, newBdgIdx) :: calls =>
    Reaches bs c ids engine newBdgIdx ∧ AllReach bs c (exchange c ids engine newBdgIdx) calls

/-- The ids stay distinct over exactly the sequences whose searches reach the owners. -/
theorem keepsDistinct_iff_allReach {fuel : Nat} {h : Headers} {bs : List BridgeNode} {c : CoreNode} (t : h.Linked bs)
    (hbs : Layout bs) (hfuel : Enough fuel bs) (hc : c ∈ liveOf bs) {ids : BridgeIds} (hd : DistinctIds c ids)
    {calls : List (Nat × UInt8)} (hcalls : ∀ call ∈ calls, call.1 ∈ c.engines) :
    KeepsDistinct fuel h c ids calls ↔ AllReach bs c ids calls := by
  induction calls generalizing ids with
  | nil => exact Iff.rfl
  | cons call calls ih =>
    obtain ⟨engine, newBdgIdx⟩ := call
    rw [forall_mem_cons] at hcalls
    obtain ⟨hengine, hcalls⟩ := hcalls
    constructor
    · rintro ⟨ids', hrun, hnew, hd', hrest⟩
      have hr := reaches_of_distinct t hbs hfuel hc hengine hrun hnew hd'
      obtain rfl : exchange c ids engine newBdgIdx = ids' :=
        Except.ok.inj ((swapLogicalBridgeId_of_reaches t hbs hfuel hc hengine hd hr).symm.trans hrun)
      exact ⟨hr, (ih hd' hcalls).mp hrest⟩
    · rintro ⟨hr, hrest⟩
      have hd' := hd.exchange engine newBdgIdx
      exact ⟨_, swapLogicalBridgeId_of_reaches t hbs hfuel hc hengine hd hr, exchange_engine hengine ids newBdgIdx, hd',
        (ih hd' hcalls).mpr hrest⟩

def portPair : CoreNode := ⟨30, 0, [40, 41]⟩

def portPairBridge : BridgeNode := ⟨10, 20, [portPair, ⟨35, 1, [50]⟩], [portPair, ⟨35, 1, [50]⟩]⟩

def portPairHeaders : Headers
  | 0 => ⟨descriptorPlatform, 0, 0, 10⟩
  | 10 => ⟨descriptorComplex, 10, 0, 10⟩
  | 20 => ⟨descriptorSilicon ||| descriptorTerminateTopology, 10, 0, 10⟩
  | 30 => ⟨descriptorPcieWrapper, 10, 5, 10⟩
  | 35 => ⟨descriptorPcieWrapper ||| descriptorTerminateTopology, 15, 0, 15⟩
  | 40 => ⟨descriptorPcieEngine, 10, 1, 0⟩
  | 41 => ⟨descriptorPcieEngine, 11, 9, 0⟩
  | 50 => ⟨descriptorPcieEngine ||| descriptorTerminateTopology, 15, 0, 0⟩
  | _ => ⟨0, 0, 0, 0⟩

theorem linked_portPair : portPairHeaders.Linked [portPairBridge] where
  platformKind := rfl
  platformChild := by
    intro b hb
    obtain rfl := mem_some.mp hb
    exact ⟨by decide, rfl⟩
  placed := by
    refine forall_mem_singleton.mpr
      ⟨rfl, ⟨by decide, rfl⟩, ⟨by decide, rfl⟩, rfl, ⟨by decide, rfl⟩, forall_mem_cons.mpr ⟨?_, ?_⟩⟩
    · refine ⟨rfl, ⟨by decide, rfl⟩, ⟨40, [41], rfl, by decide, rfl⟩, forall_mem_cons.mpr ⟨?_, ?_⟩⟩
      · exact ⟨rfl, by decide, rfl⟩
      · exact forall_mem_singleton.mpr ⟨rfl, by decide, rfl⟩
    · refine forall_mem_singleton.mpr ⟨rfl, ⟨by decide, rfl⟩, ⟨50, [], rfl, by decide, rfl⟩, ?_⟩
      exact forall_mem_singleton.mpr ⟨rfl, by decide, rfl⟩
  silicons := ⟨rfl, rfl⟩
  wrappers := ⟨rfl, rfl, rfl⟩
  engines := ⟨rfl, rfl, rfl, rfl⟩
  siliconChild := by
    intro front b back c hsplit hfirst
    obtain ⟨rfl, hb⟩ := (append_eq_singleton_iff.mp hsplit.symm).resolve_right (by simp)
    obtain ⟨rfl, rfl⟩ := cons.inj hb
    obtain rfl := some.inj hfirst
    exact ⟨by decide, rfl⟩

theorem layout_portPair : Layout [portPairBridge] where
  live := by decide
  complexes := by decide
  silicons := by decide
  wrappers := by decide
  engines := by decide

/-- The engine at 41 takes the id of the one in front of it, which keeps it. -/
theorem swapped_ids_equal :
    portPairHeaders.Linked [portPairBridge] ∧ portPair ∈ liveOf [portPairBridge] ∧
      ∃ ids : BridgeIds, DistinctIds portPair ids ∧
        ∃ ids', swapLogicalBridgeId 5 portPairHeaders ids 41 0 = .ok ids' ∧ ids' 40 = 0 ∧ ids' 41 = 0 := by
  refine ⟨linked_portPair, mem_cons_self, fun e => if e = 40 then 0 else 1, by decide, ?_⟩
  exact ⟨_, rfl, by decide, by decide⟩

/-- The engine at 40 takes the id of the one behind it and gives it back. -/
theorem keepsDistinct_iff_allReach_portPair :
    ∃ ids : BridgeIds, KeepsDistinct 5 portPairHeaders portPair ids [(40, 1), (40, 0)] := by
  have hbehind : ∃ next ∈ liveOf [portPairBridge], portPair.addr < next.addr :=
    ⟨_, mem_cons_of_mem _ mem_cons_self, by decide⟩
  refine ⟨fun e => if e = 40 then 0 else 1, ?_⟩
  apply (keepsDistinct_iff_allReach linked_portPair layout_portPair ⟨by decide, by decide, by decide, by decide⟩
    mem_cons_self (by decide) (by decide)).mpr
  exact ⟨.inr ⟨hbehind, by decide⟩, .inr ⟨hbehind, by decide⟩, trivial⟩

end OpenSil.Mpio
