import OpenSil.RcMgr.IoPartition
import OpenSil.RcMgr.PciBus

/-! # The buses are partitioned -/

namespace OpenSil.RcMgr

open Word Stores Tiling List BusWindow

/-! ## What a register holds -/

theorem toNat_busRegister {low : UInt32} (hlow : low.toNat < 2 ^ 16) (bus : UInt16) :
    (busRegister low bus).toNat = (bus.toNat % 0x100) * 2 ^ 16 + low.toNat := by
  have hbus : (bus.toUInt32 &&& 0xFF).toNat = bus.toNat % 0x100 := by
    rw [UInt32.toNat_and, UInt16.toNat_toUInt32]
    exact Nat.and_two_pow_sub_one_eq_mod _ 8
  rw [busRegister, toNat_or_shiftLeft_sixteen hlow (by omega), hbus]

structure CfgWindow where
  dstFabricID : Nat
  busNumBase : Nat
  busNumLimit : Nat
  deriving DecidableEq

def cfgWindow (base limit : UInt32) : Option CfgWindow :=
  if bits base 0 1 = 1 ∧ bits base 1 1 = 1 then
    some ⟨bits limit 0 12, bits base 8 8 * 0x100 + bits base 16 8, bits base 8 8 * 0x100 + bits limit 16 8⟩
  else none

def cfgPair (regs : FabricRegs) (socket target i : Nat) : UInt32 × UInt32 :=
  (regs (socket, cfgBaseAddressReg i, target), regs (socket, cfgLimitAddressReg i, target))

def cfgWindows (regs : FabricRegs) (socket target : Nat) : List CfgWindow :=
  (List.range dfXNumberOfBusRegions).filterMap fun i =>
    cfgWindow (cfgPair regs socket target i).1 (cfgPair regs socket target i).2

def cfgPairFor (df : DfAnswers) (w : BusWindow) : UInt32 × UInt32 :=
  (cfgAddrMapReg w.pciBusBase,
    cfgAddrLimitReg (df.hostBridgeSystemFabricID w.rb.1 (w.rb.2 % df.rootBridgesOnDie.toNat)) w.pciBusLimit)

theorem cfgWindow_of (dstFabricID : UInt32) {base limit : UInt16} (hbase : base.toNat < 0x100)
    (hlimit : limit.toNat < 0x100) :
    cfgWindow (cfgAddrMapReg base) (cfgAddrLimitReg dstFabricID limit) =
      some ⟨(dstFabricID &&& 0xFFF).toNat, base.toNat, limit.toNat⟩ := by
  have hid : (dstFabricID &&& 0xFFF).toNat < 2 ^ 12 := by
    rw [UInt32.toNat_and]
    exact Nat.and_le_right.trans_lt (by decide)
  have hmap : (cfgAddrMapReg base).toNat = base.toNat % 0x100 * 2 ^ 16 + 3 := toNat_busRegister (by decide) base
  have hcontrol : (cfgAddrLimitReg dstFabricID limit).toNat =
      limit.toNat % 0x100 * 2 ^ 16 + (dstFabricID &&& 0xFFF).toNat := toNat_busRegister (by omega) limit
  unfold cfgWindow bits
  rw [hmap, hcontrol, if_pos ⟨by omega, by omega⟩]
  congr 2 <;> omega

theorem cfgWindow_zero (limit : UInt32) : cfgWindow 0 limit = none := rfl

/-! ## The stores of one window -/

variable {blk : InputBlk} {req : BusRequest} {df : DfAnswers} {answer : Nat → Nat} {idx : UInt8} {w : BusWindow}
  {ws : List BusWindow} {regs : FabricRegs}

variable {i offset target : Nat}

theorem mem_cfgAddrMapStores {map control v : UInt32} :
    ((i, offset, target), v) ∈ cfgAddrMapStores blk req df idx map control ↔
      i < blk.socketNumber.toNat ∧ target ∈ cfgInstances blk req df.rootBridgesOnSocket.toNat i ∧
        (offset = cfgBaseAddressReg idx.toNat ∧ v = map ∨ offset = cfgLimitAddressReg idx.toNat ∧ v = control) := by
  simp only [cfgAddrMapStores, mem_flatMap, mem_range, mem_cons, Prod.mk.injEq, not_mem_nil, or_false]
  constructor
  · grind
  · rintro ⟨hi, ht, ⟨rfl, rfl⟩ | ⟨rfl, rfl⟩⟩
    · exact ⟨i, hi, target, ht, .inl ⟨⟨rfl, rfl, rfl⟩, rfl⟩⟩
    · exact ⟨i, hi, target, ht, .inr ⟨⟨rfl, rfl, rfl⟩, rfl⟩⟩

theorem cfgBase_ne_cfgLimit (i k : Nat) : cfgBaseAddressReg i ≠ cfgLimitAddressReg k := by
  unfold cfgBaseAddressReg cfgLimitAddressReg
  omega

theorem cfgBase_injective : Function.Injective cfgBaseAddressReg := by
  intro i k h
  unfold cfgBaseAddressReg at h
  omega

theorem cfgLimit_injective : Function.Injective cfgLimitAddressReg := by
  intro i k h
  unfold cfgLimitAddressReg at h
  omega

def IsCfgMap (offset : Nat) : Prop := ∃ k, offset = cfgBaseAddressReg k ∨ offset = cfgLimitAddressReg k

theorem IsCfgMap.ne_cntl {offset : Nat} (h : IsCfgMap offset) : offset ≠ cfgAddressCntlReg := by
  obtain ⟨k, rfl | rfl⟩ := h
  · simp only [cfgBaseAddressReg, cfgAddressCntlReg]
    omega
  · simp only [cfgLimitAddressReg, cfgAddressCntlReg]
    omega

theorem programBus_apply (h : IsCfgMap offset) :
    programBus blk req df idx w regs (i, offset, target) =
      silSetCfgAddrMapReg4 blk req df idx w.rb w.pciBusBase w.pciBusLimit regs (i, offset, target) := by
  refine Function.update_of_ne ?_ _ _
  simp [h.ne_cntl]

theorem programBus_self {i target : Nat} (hi : i < blk.socketNumber.toNat)
    (htarget : target ∈ cfgInstances blk req df.rootBridgesOnSocket.toNat i) :
    cfgPair (programBus blk req df idx w regs) i target idx.toNat = cfgPairFor df w := by
  unfold cfgPair
  rw [programBus_apply ⟨_, .inl rfl⟩, programBus_apply ⟨_, .inr rfl⟩]
  unfold silSetCfgAddrMapReg4
  refine Prod.ext ?_ ?_
  · refine store_of_mem (mem_cfgAddrMapStores.mpr ⟨hi, htarget, .inl ⟨rfl, rfl⟩⟩) fun v hv => ?_
    obtain ⟨-, -, ⟨-, hv⟩ | ⟨hoffset, -⟩⟩ := mem_cfgAddrMapStores.mp hv
    · exact hv
    · exact absurd hoffset (cfgBase_ne_cfgLimit _ _)
  · refine store_of_mem (mem_cfgAddrMapStores.mpr ⟨hi, htarget, .inr ⟨rfl, rfl⟩⟩) fun v hv => ?_
    obtain ⟨-, -, ⟨hoffset, -⟩ | ⟨-, hv⟩⟩ := mem_cfgAddrMapStores.mp hv
    · exact absurd hoffset.symm (cfgBase_ne_cfgLimit _ _)
    · exact hv

variable {i k target : Nat}

theorem programBus_other (hk : k ≠ idx.toNat) :
    cfgPair (programBus blk req df idx w regs) i target k = cfgPair regs i target k := by
  unfold cfgPair
  rw [programBus_apply ⟨_, .inl rfl⟩, programBus_apply ⟨_, .inr rfl⟩]
  unfold silSetCfgAddrMapReg4
  refine Prod.ext ?_ ?_
  · refine store_of_notMem fun v hv => ?_
    obtain ⟨-, -, ⟨hoffset, -⟩ | ⟨hoffset, -⟩⟩ := mem_cfgAddrMapStores.mp hv
    · exact hk (cfgBase_injective hoffset)
    · exact cfgBase_ne_cfgLimit _ _ hoffset
  · refine store_of_notMem fun v hv => ?_
    obtain ⟨-, -, ⟨hoffset, -⟩ | ⟨hoffset, -⟩⟩ := mem_cfgAddrMapStores.mp hv
    · exact cfgBase_ne_cfgLimit _ _ hoffset.symm
    · exact hk (cfgLimit_injective hoffset)

theorem clearCfgAddrMaps_base (hi : i < blk.socketNumber.toNat) (hk : k < 8)
    (htarget : target ∈ cfgInstances blk req blk.rbsPerSocket.toNat i) :
    clearCfgAddrMaps blk req regs (i, cfgBaseAddressReg k, target) = 0 := by
  unfold clearCfgAddrMaps
  apply store_of_mem
  · grind
  · grind

/-! ## The windows of the walk -/

def busWindows (req : BusRequest) : UInt16 → List ((Nat × Nat) × Bool) → List BusWindow
  | _, [] => []
  | pciBusLimit, turn :: turns =>
    let w := nextBusWindow req pciBusLimit turn.1 turn.2
    w :: busWindows req w.pciBusLimit turns

def programBuses (blk : InputBlk) (req : BusRequest) (df : DfAnswers) : UInt8 → List BusWindow → FabricRegs → FabricRegs
  | _, [], regs => regs
  | regIndex, w :: ws, regs => programBuses blk req df (regIndex + 1) ws (programBus blk req df regIndex w regs)

def busTurns (blk : InputBlk) (df : DfAnswers) : List ((Nat × Nat) × Bool) :=
  (primaryRb df, false) :: (busWalk blk).filter fun turn => turn.1 ≠ primaryRb df

theorem foldl_assignBus (turns : List ((Nat × Nat) × Bool)) (s : BusState) :
    (turns.foldl (assignBus blk req df) s).regs = programBuses blk req df (s.regIndex + 1)
      (busWindows req s.pciBusLimit (turns.filter fun turn => turn.1 ≠ primaryRb df)) s.regs := by
  induction turns generalizing s with
  | nil => rfl
  | cons turn turns ih =>
    rw [foldl_cons, ih]
    unfold assignBus
    by_cases hturn : turn.1 = primaryRb df
    · simp [hturn]
    · simp only [hturn, if_false, ne_eq, not_false_eq_true, decide_true, filter_cons_of_pos]
      rfl

theorem silInitPciBus_eq (hneed : needReallocate blk req df answer regs = true) :
    (silInitPciBusBasedOnNvVariable4 blk req df answer regs).2 =
      programBuses blk req df 0 (busWindows req 0xFFFF (busTurns blk df)) (clearCfgAddrMaps blk req regs) := by
  unfold silInitPciBusBasedOnNvVariable4
  rw [if_pos hneed]
  dsimp only
  rw [foldl_assignBus]
  unfold busTurns
  rw [busWindows, programBuses]
  have hfirst : nextBusWindow req 0xFFFF (primaryRb df) false =
      ⟨primaryRb df, 0, req.pciBusNumber (primaryRb df).1 (primaryRb df).2 - 1⟩ := by
    simp [nextBusWindow]
  simp only [hfirst]

theorem programBuses_other (hlen : idx.toNat + ws.length < 256)
    (hk : k < idx.toNat ∨ idx.toNat + ws.length ≤ k) :
    cfgPair (programBuses blk req df idx ws regs) i target k = cfgPair regs i target k := by
  induction ws generalizing idx regs with
  | nil => rfl
  | cons w ws ih =>
    rw [length_cons] at hlen hk
    have hsucc : (idx + 1).toNat = idx.toNat + 1 := toNat_regIndex_succ (by omega)
    rw [programBuses, ih (by omega) (by omega), programBus_other (by omega)]

theorem programBuses_self {i j target : Nat} (hlen : idx.toNat + ws.length < 256)
    (hi : i < blk.socketNumber.toNat) (htarget : target ∈ cfgInstances blk req df.rootBridgesOnSocket.toNat i)
    (hw : ws[j]? = some w) :
    cfgPair (programBuses blk req df idx ws regs) i target (idx.toNat + j) = cfgPairFor df w := by
  induction ws generalizing idx regs j with
  | nil => simp at hw
  | cons w' ws ih =>
    rw [length_cons] at hlen
    have hsucc : (idx + 1).toNat = idx.toNat + 1 := toNat_regIndex_succ (by omega)
    rw [programBuses]
    cases j with
    | zero =>
      obtain rfl : w' = w := by simpa using hw
      rw [programBuses_other (by omega) (by omega)]
      exact programBus_self hi htarget
    | succ j =>
      have hindex : idx.toNat + (j + 1) = (idx + 1).toNat + j := by omega
      rw [hindex]
      exact ih (by omega) (by simpa using hw)

/-! ## The windows fill the buses -/

structure BusWindow.Good (req : BusRequest) (w : BusWindow) : Prop where
  le : w.pciBusBase.toNat ≤ w.pciBusLimit.toNat
  lt : w.pciBusLimit.toNat < 0x100
  enough : w.pciBusBase.toNat + (req.pciBusNumber w.rb.1 w.rb.2).toNat ≤ w.pciBusLimit.toNat + 1

def busCount (req : BusRequest) (rb : Nat × Nat) : Nat := (req.pciBusNumber rb.1 rb.2).toNat

def BusWindow.count (w : BusWindow) : Nat := w.pciBusLimit.toNat + 1 - w.pciBusBase.toNat

def BusTiles (lo : Nat) (ws : List BusWindow) (hi : Nat) : Prop :=
  Tiles (fun w : BusWindow => w.pciBusBase.toNat) BusWindow.count lo ws hi

variable {rb : Nat × Nat} {limit : UInt16}

theorem nextBusWindow_limit (hpos : 1 ≤ busCount req rb) (hle : (limit + 1).toNat + busCount req rb ≤ 0x100) :
    (nextBusWindow req limit rb false).pciBusLimit.toNat = (limit + 1).toNat + busCount req rb - 1 := by
  unfold busCount at hpos hle ⊢
  show (limit + 1 + req.pciBusNumber rb.1 rb.2 - 1).toNat = _
  have hadd : (limit + 1 + req.pciBusNumber rb.1 rb.2).toNat =
      (limit + 1).toNat + (req.pciBusNumber rb.1 rb.2).toNat := by
    rw [UInt16.toNat_add _ (req.pciBusNumber _ _)]
    exact Nat.mod_eq_of_lt (by omega)
  rw [UInt16.toNat_sub_of_le _ _ (by rw [UInt16.le_iff_toNat_le, hadd]; simp; omega), hadd]
  rfl

theorem nextBusWindow_good (takesRest : Bool) (hpos : 1 ≤ busCount req rb)
    (hle : (limit + 1).toNat + busCount req rb ≤ 0x100) :
    (nextBusWindow req limit rb takesRest).Good req := by
  have hlimit := nextBusWindow_limit hpos hle
  have hbase : (nextBusWindow req limit rb takesRest).pciBusBase = limit + 1 := rfl
  have hlast : (limit + 1).toNat + busCount req rb - 1 ≤
        (nextBusWindow req limit rb takesRest).pciBusLimit.toNat ∧
      (nextBusWindow req limit rb takesRest).pciBusLimit.toNat < 0x100 := by
    cases takesRest with
    | true => exact ⟨show _ ≤ 0xFF by omega, show 0xFF < 0x100 by omega⟩
    | false => omega
  constructor
  · rw [hbase]
    omega
  · exact hlast.2
  · rw [hbase]
    show _ + busCount req rb ≤ _
    omega

theorem nextBusWindow_count (hpos : 1 ≤ busCount req rb) (hle : (limit + 1).toNat + busCount req rb ≤ 0x100) :
    (nextBusWindow req limit rb false).count = busCount req rb := by
  unfold BusWindow.count
  rw [nextBusWindow_limit hpos hle]
  show _ - (limit + 1).toNat = _
  omega

theorem busWindows_tiles {rbs : List (Nat × Nat)} {last : Nat × Nat} (takesRest : Bool)
    (hpos : ∀ rb ∈ rbs ++ [last], 1 ≤ busCount req rb)
    (hsum : (limit + 1).toNat + ((rbs ++ [last]).map (busCount req)).sum ≤ 0x100) :
    let ws := busWindows req limit (rbs.map (·, false) ++ [(last, takesRest)])
    BusTiles (limit + 1).toNat ws (if takesRest then 0x100 else
      (limit + 1).toNat + ((rbs ++ [last]).map (busCount req)).sum) ∧
    (∀ w ∈ ws, w.Good req) ∧ ws.map BusWindow.rb = rbs ++ [last] := by
  induction rbs generalizing limit with
  | nil =>
    simp only [nil_append, mem_singleton, forall_eq, map_cons, map_nil, sum_singleton]
      at hpos hsum ⊢
    refine ⟨⟨rfl, ?_⟩, ?_, rfl⟩
    · cases takesRest with
      | true =>
        show (limit + 1).toNat + (0xFF + 1 - (limit + 1).toNat) = 0x100
        omega
      | false => exact congrArg _ (nextBusWindow_count hpos hsum)
    · simp only [busWindows, mem_singleton, forall_eq]
      exact nextBusWindow_good takesRest hpos hsum
  | cons rb rbs ih =>
    simp only [cons_append, forall_mem_cons, map_cons, sum_cons] at hpos hsum ⊢
    have hle : (limit + 1).toNat + busCount req rb ≤ 0x100 := by omega
    have hcount := nextBusWindow_count hpos.1 hle
    have hrest : 1 ≤ ((rbs ++ [last]).map (busCount req)).sum := by grind
    have hnext : ((nextBusWindow req limit rb false).pciBusLimit + 1).toNat =
        (limit + 1).toNat + busCount req rb := by
      have hlimit := nextBusWindow_limit hpos.1 hle
      rw [UInt16.toNat_add _ 1, UInt16.toNat_one, Nat.mod_eq_of_lt (by omega)]
      omega
    have hsum' : ((nextBusWindow req limit rb false).pciBusLimit + 1).toNat +
        ((rbs ++ [last]).map (busCount req)).sum ≤ 0x100 := by omega
    obtain ⟨htiles, hgood, hrbs⟩ := ih hpos.2 hsum'
    rw [hnext, Nat.add_assoc] at htiles
    refine ⟨⟨rfl, ?_⟩, ?_, ?_⟩
    · show Tiles _ _ ((limit + 1).toNat + (nextBusWindow req limit rb false).count) _ _
      rw [hcount]
      exact htiles
    · exact forall_mem_cons.mpr ⟨nextBusWindow_good false hpos.1 hle, hgood⟩
    · exact congrArg _ hrbs

/-! ## What an instance holds -/

def BusWindow.decoded (df : DfAnswers) (w : BusWindow) : CfgWindow :=
  ⟨(df.hostBridgeSystemFabricID w.rb.1 w.rb.2).toNat, w.pciBusBase.toNat, w.pciBusLimit.toNat⟩

/-- The system fabric IDs fit the field of the registers, and tell the root bridges apart. -/
structure FabricIds (blk : InputBlk) (df : DfAnswers) : Prop where
  lt : ∀ rb ∈ rootBridges blk, (df.hostBridgeSystemFabricID rb.1 rb.2).toNat < 0x1000
  nodup : ((rootBridges blk).map fun rb => (df.hostBridgeSystemFabricID rb.1 rb.2).toNat).Nodup

theorem cfgWindow_pairFor (hcounts : CountsMatch blk df) (hids : FabricIds blk df) {w : BusWindow}
    (hw : w.Good req) (hrb : w.rb ∈ rootBridges blk) :
    cfgWindow (cfgPairFor df w).1 (cfgPairFor df w).2 = some (w.decoded df) := by
  have hle := hw.le
  have hlt := hw.lt
  have hmod : w.rb.2 % df.rootBridgesOnDie.toNat = w.rb.2 := by
    rw [hcounts.onDie]
    exact Nat.mod_eq_of_lt (mem_rootBridges.mp hrb).2
  have hid : (df.hostBridgeSystemFabricID w.rb.1 w.rb.2 &&& 0xFFF).toNat =
      (df.hostBridgeSystemFabricID w.rb.1 w.rb.2).toNat := by
    rw [UInt32.toNat_and]
    exact (Nat.and_two_pow_sub_one_eq_mod _ 12).trans (Nat.mod_eq_of_lt (hids.lt _ hrb))
  unfold cfgPairFor
  rw [hmod, cfgWindow_of _ (by omega) hlt, hid]
  rfl

theorem filterMap_range_eq {α : Type} {f : Nat → Option α} {l : List α} {n : Nat} (hlen : l.length ≤ n)
    (h : ∀ k < n, f k = l[k]?) : (range n).filterMap f = l := by
  induction l generalizing f n with
  | nil =>
    rw [filterMap_eq_nil_iff]
    intro k hk
    exact h k (mem_range.mp hk)
  | cons x l ih =>
    obtain ⟨m, rfl⟩ : ∃ m, n = m + 1 := Nat.exists_eq_succ_of_ne_zero (by simp at hlen; omega)
    have hfirst : f 0 = some x := h 0 (by omega)
    rw [range_succ_eq_map, filterMap_cons_some hfirst, filterMap_map]
    exact congrArg _ (ih (by simpa using hlen) fun k hk => h (k + 1) (by omega))

variable {ws : List BusWindow}

theorem cfgWindows_programBuses (hcounts : CountsMatch blk df) (hids : FabricIds blk df)
    (hlen : ws.length ≤ 8) (hgood : ∀ w ∈ ws, w.Good req ∧ w.rb ∈ rootBridges blk) {i target : Nat}
    (hi : i < blk.socketNumber.toNat) (htarget : target ∈ cfgInstances blk req df.rootBridgesOnSocket.toNat i) :
    cfgWindows (programBuses blk req df 0 ws (clearCfgAddrMaps blk req regs)) i target =
      ws.map (decoded df) := by
  refine filterMap_range_eq (by rw [length_map]; exact hlen) fun k hk => ?_
  have hzero : (0 : UInt8).toNat = 0 := rfl
  rw [getElem?_map]
  rcases Nat.lt_or_ge k ws.length with hlt | hge
  · have hself : ws[k]? = some ws[k] := getElem?_eq_getElem hlt
    have hpair : cfgPair (programBuses blk req df 0 ws (clearCfgAddrMaps blk req regs)) i target (0 + k) =
        cfgPairFor df ws[k] := programBuses_self (by omega) hi htarget hself
    obtain ⟨hw, hrb⟩ := hgood _ (mem_of_getElem? hself)
    rw [Nat.zero_add] at hpair
    rw [hpair, hself]
    exact cfgWindow_pairFor hcounts hids hw hrb
  · -- The pairs behind the last window are the cleared ones.
    have hbase : clearCfgAddrMaps blk req regs (i, cfgBaseAddressReg k, target) = 0 :=
      clearCfgAddrMaps_base hi hk (hcounts.onSocket ▸ htarget)
    rw [programBuses_other (by omega) (by omega), getElem?_eq_none hge]
    unfold cfgPair
    rw [hbase]
    exact cfgWindow_zero _

/-! ## Reading the buses back -/

theorem routesTo_eq (base limit : Nat → UInt32) (targetFabricId : UInt32) :
    routesTo base limit targetFabricId =
      fun i => (cfgWindow (base i) (limit i)).any fun w => w.dstFabricID = targetFabricId.toNat := by
  funext i
  unfold routesTo cfgWindow
  by_cases h : bits (base i) 0 1 = 1 ∧ bits (base i) 1 1 = 1
  · simp [h]
  · rw [if_neg h]
    simpa using fun h1 h2 => absurd ⟨h1, h2⟩ h

theorem find?_eq_of_nodup {α β : Type} [DecidableEq β] {f : α → β} {l : List α} {x : α} {y : β}
    (hnodup : (l.map f).Nodup) (hx : x ∈ l) (hy : f x = y) : l.find? (fun a => f a = y) = some x := by
  obtain ⟨x', hx'⟩ : ∃ x', l.find? (fun a => f a = y) = some x' := by
    rw [← Option.isSome_iff_exists, find?_isSome]
    exact ⟨x, hx, by simpa using hy⟩
  have hy' : f x' = y := by simpa using find?_some hx'
  rw [hx', inj_on_of_nodup_map hnodup (mem_of_find?_eq_some hx') hx (hy'.trans hy.symm)]

theorem busOn_of_window {w : CfgWindow} (hnodup : ((cfgWindows regs rb.1 (answer rb.1)).map CfgWindow.dstFabricID).Nodup)
    (hw : w ∈ cfgWindows regs rb.1 (answer rb.1))
    (hid : w.dstFabricID = (df.hostBridgeSystemFabricID rb.1 rb.2).toNat) :
    busBaseOn answer df regs rb = w.busNumBase ∧ busLimitOn answer df regs rb = w.busNumLimit := by
  have hfind := find?_eq_of_nodup hnodup hw hid
  unfold cfgWindows at hfind
  rw [find?_filterMap] at hfind
  obtain ⟨i, hi, hwindow⟩ := Option.bind_eq_some_iff.mp hfind
  unfold busBaseOn busLimitOn dfXGetHostBridgeBusBase dfXGetHostBridgeBusLimit
  rw [routesTo_eq]
  unfold cfgPair at hi hwindow
  rw [hi]
  unfold cfgWindow at hwindow
  split_ifs at hwindow
  obtain rfl := Option.some.inj hwindow
  exact ⟨rfl, rfl⟩

/-! ## The partition -/

/-- Every instance with the map has one window for each root bridge, with what it asks for. -/
structure BusPartition (blk : InputBlk) (req : BusRequest) (df : DfAnswers) (answer : Nat → Nat) (regs : FabricRegs)
    (socket target : Nat) : Prop where
  one_each : ((cfgWindows regs socket target).map CfgWindow.dstFabricID).Perm
    ((rootBridges blk).map fun rb => (df.hostBridgeSystemFabricID rb.1 rb.2).toNat)
  disjoint : (cfgWindows regs socket target).Pairwise fun w w' =>
    w.busNumLimit < w'.busNumBase ∨ w'.busNumLimit < w.busNumBase
  covers : ∀ bus, bus < 0x100 ↔ ∃ w ∈ cfgWindows regs socket target, w.busNumBase ≤ bus ∧ bus ≤ w.busNumLimit
  enough : ∀ rb ∈ rootBridges blk, ∀ w ∈ cfgWindows regs socket target,
    w.dstFabricID = (df.hostBridgeSystemFabricID rb.1 rb.2).toNat → w.busNumBase + busCount req rb ≤ w.busNumLimit + 1
  read_back : ∀ rb ∈ rootBridges blk, ∀ w ∈ cfgWindows regs socket target,
    w.dstFabricID = (df.hostBridgeSystemFabricID rb.1 rb.2).toNat →
      busBaseOn answer df regs rb = w.busNumBase ∧ busLimitOn answer df regs rb = w.busNumLimit

theorem busTurns_eq (hsockets : blk.socketNumber.toNat = 1 ∨ blk.socketNumber.toNat = 2)
    (hrbs : blk.rbsPerSocket.toNat = 4) (hprimary : primaryRb df ∈ rootBridges blk) :
    ∃ rbs last, busTurns blk df =
        rbs.map (·, false) ++ [(last, decide (primaryRb df ≠ (blk.socketNumber.toNat - 1, 2)))] ∧
      (rbs ++ [last]).Perm (rootBridges blk) := by
  have hall : ∀ sockets ∈ [1, 2], ∀ socket < sockets, ∀ rb < 4,
      let turns := ((socket, rb), false) :: ((range sockets).flatMap fun i =>
        (range 4).reverse.map fun j =>
          ((i, iosRbLoopToRbAssignOrder.getD j 0), decide (i = sockets - 1 ∧ j = 0))).filter (·.1 ≠ (socket, rb))
      turns = (turns.dropLast.map Prod.fst).map (·, false) ++
          [((turns.map Prod.fst).getLastD (0, 0), decide ((socket, rb) ≠ (sockets - 1, 2)))] ∧
        (turns.dropLast.map Prod.fst ++ [(turns.map Prod.fst).getLastD (0, 0)]).Perm
          ((range sockets).flatMap fun i => (range 4).map fun j => (i, j)) := by
    decide +kernel
  obtain ⟨hsocket, hrb⟩ := mem_rootBridges.mp hprimary
  rw [hrbs] at hrb
  have hthis := hall blk.socketNumber.toNat (by simpa using hsockets) _ hsocket _ hrb
  unfold busTurns busWalk rootBridges
  rw [hrbs]
  exact ⟨_, _, hthis.1, hthis.2⟩

def busTotal (blk : InputBlk) (req : BusRequest) : Nat := ((rootBridges blk).map (busCount req)).sum

theorem busWindows_busTurns (hsockets : blk.socketNumber.toNat = 1 ∨ blk.socketNumber.toNat = 2)
    (hrbs : blk.rbsPerSocket.toNat = 4) (hprimary : primaryRb df ∈ rootBridges blk)
    (hpos : ∀ rb ∈ rootBridges blk, 1 ≤ busCount req rb) (hsum : busTotal blk req ≤ 0x100) :
    let ws := busWindows req 0xFFFF (busTurns blk df)
    BusTiles 0 ws (if primaryRb df ≠ (blk.socketNumber.toNat - 1, 2) then 0x100 else busTotal blk req) ∧
    (∀ w ∈ ws, w.Good req) ∧ (ws.map BusWindow.rb).Perm (rootBridges blk) := by
  obtain ⟨rbs, last, hturns, hperm⟩ := busTurns_eq hsockets hrbs hprimary
  have htotal : ((rbs ++ [last]).map (busCount req)).sum = busTotal blk req := (hperm.map _).sum_eq
  have hstart : ((0xFFFF : UInt16) + 1).toNat = 0 := rfl
  have hle : ((0xFFFF : UInt16) + 1).toNat + ((rbs ++ [last]).map (busCount req)).sum ≤ 0x100 := by omega
  obtain ⟨htiles, hgood, hmap⟩ := busWindows_tiles (decide (primaryRb df ≠ (blk.socketNumber.toNat - 1, 2)))
    (fun rb hrb => hpos rb (hperm.mem_iff.mp hrb)) hle
  rw [hturns]
  refine ⟨?_, hgood, hmap ▸ hperm⟩
  rw [htotal, hstart, Nat.zero_add] at htiles
  simpa only [decide_eq_true_eq] using htiles

theorem busPartition_iff {hi socket target : Nat} (hids : FabricIds blk df)
    (htiles : BusTiles 0 ws hi) (hgood : ∀ w ∈ ws, w.Good req) (hperm : (ws.map BusWindow.rb).Perm (rootBridges blk))
    (hthis : cfgWindows regs socket target = ws.map (decoded df))
    (hanswer : ∀ rb ∈ rootBridges blk, cfgWindows regs rb.1 (answer rb.1) = ws.map (decoded df)) :
    BusPartition blk req df answer regs socket target ↔ hi = 0x100 := by
  have hone : ((ws.map (decoded df)).map CfgWindow.dstFabricID).Perm
      ((rootBridges blk).map fun rb => (df.hostBridgeSystemFabricID rb.1 rb.2).toNat) := by
    have := hperm.map fun rb : Nat × Nat => (df.hostBridgeSystemFabricID rb.1 rb.2).toNat
    rw [map_map] at this ⊢
    exact this
  have hnodup : ((ws.map (decoded df)).map CfgWindow.dstFabricID).Nodup := hone.symm.nodup hids.nodup
  have hcount : ∀ w ∈ ws, w.pciBusBase.toNat + w.count = w.pciBusLimit.toNat + 1 := by
    intro w hw
    have := (hgood w hw).le
    unfold BusWindow.count
    omega
  have hcovers : ∀ bus, (∃ w ∈ ws.map (decoded df), w.busNumBase ≤ bus ∧ bus ≤ w.busNumLimit) ↔ bus < hi := by
    intro bus
    constructor
    · rintro ⟨_, hmem, _, hle⟩
      obtain ⟨w, hw, rfl⟩ := mem_map.mp hmem
      have hle : bus ≤ w.pciBusLimit.toNat := hle
      have hcount' := hcount w hw
      have := (htiles.bounds_of_mem hw).2
      omega
    · intro hlt
      obtain ⟨w, hw, hbase, hend⟩ := htiles.covers (Nat.zero_le bus) hlt
      have hcount' := hcount w hw
      exact ⟨w.decoded df, mem_map_of_mem hw, hbase, show bus ≤ w.pciBusLimit.toNat by omega⟩
  constructor
  · intro h
    have hbuses := h.covers
    rw [hthis] at hbuses
    have hlast := (hbuses 0xFF).trans (hcovers 0xFF)
    have hbehind := (hbuses 0x100).trans (hcovers 0x100)
    omega
  · rintro rfl
    constructor
    case one_each => rwa [hthis]
    case disjoint =>
      rw [hthis]
      refine (Nodup.of_map _ hnodup).pairwise_of_forall_ne ?_
      intro a ha b hb hne
      obtain ⟨w, hw, rfl⟩ := mem_map.mp ha
      obtain ⟨w', hw', rfl⟩ := mem_map.mp hb
      show w.pciBusLimit.toNat < w'.pciBusBase.toNat ∨ w'.pciBusLimit.toNat < w.pciBusBase.toNat
      have hcount' := hcount w hw
      have hcount'' := hcount w' hw'
      rcases htiles.eq_or_disjoint hw hw' with rfl | h
      · exact absurd rfl hne
      · omega
    case covers =>
      intro bus
      rw [hthis]
      exact (hcovers bus).symm
    case enough =>
      intro rb hrb _ hmem hid
      rw [hthis] at hmem
      obtain ⟨w, hw, rfl⟩ := mem_map.mp hmem
      have hsame : w.rb = rb :=
        inj_on_of_nodup_map hids.nodup (hperm.mem_iff.mp (mem_map_of_mem hw)) hrb hid
      exact hsame ▸ (hgood w hw).enough
    case read_back =>
      intro rb hrb w hw hid
      rw [hthis] at hw
      have hwindows := hanswer rb hrb
      exact busOn_of_window (by rwa [hwindows]) (by rwa [hwindows]) hid

/-- With four root bridges in each of one or two sockets, the buses are partitioned exactly if the last turn is not that
of the primary root bridge, or nothing is left for it. -/
theorem pciBus_partition_iff (blk : InputBlk) (req : BusRequest) (df : DfAnswers) (answer : Nat → Nat)
    (regs : FabricRegs) (hcounts : CountsMatch blk df) (hids : FabricIds blk df)
    (hsockets : blk.socketNumber.toNat = 1 ∨ blk.socketNumber.toNat = 2) (hrbs : blk.rbsPerSocket.toNat = 4)
    (hprimary : primaryRb df ∈ rootBridges blk)
    (hanswer : ∀ i < blk.socketNumber.toNat, answer i ∈ cfgInstances blk req df.rootBridgesOnSocket.toNat i)
    (hpos : ∀ rb ∈ rootBridges blk, 1 ≤ busCount req rb) (hsum : busTotal blk req ≤ 0x100)
    (hneed : needReallocate blk req df answer regs = true) :
    (∀ i < blk.socketNumber.toNat, ∀ target ∈ cfgInstances blk req df.rootBridgesOnSocket.toNat i,
      BusPartition blk req df answer (silInitPciBusBasedOnNvVariable4 blk req df answer regs).2 i target) ↔
      primaryRb df ≠ (blk.socketNumber.toNat - 1, 2) ∨ busTotal blk req = 0x100 := by
  obtain ⟨htiles, hgood, hperm⟩ := busWindows_busTurns hsockets hrbs hprimary hpos hsum
  have hlen : (busWindows req 0xFFFF (busTurns blk df)).length ≤ 8 := by
    have hlength := hperm.length_eq
    rw [length_map, length_rootBridges, hrbs] at hlength
    omega
  have hwindows : ∀ i < blk.socketNumber.toNat, ∀ target ∈ cfgInstances blk req df.rootBridgesOnSocket.toNat i,
      cfgWindows (silInitPciBusBasedOnNvVariable4 blk req df answer regs).2 i target =
        (busWindows req 0xFFFF (busTurns blk df)).map (BusWindow.decoded df) := by
    intro i hi target htarget
    rw [silInitPciBus_eq hneed]
    exact cfgWindows_programBuses hcounts hids hlen
      (fun w hw => ⟨hgood w hw, hperm.mem_iff.mp (mem_map_of_mem hw)⟩) hi htarget
  have hiff : ∀ i < blk.socketNumber.toNat, ∀ target ∈ cfgInstances blk req df.rootBridgesOnSocket.toNat i,
      (BusPartition blk req df answer (silInitPciBusBasedOnNvVariable4 blk req df answer regs).2 i target ↔
        primaryRb df ≠ (blk.socketNumber.toNat - 1, 2) ∨ busTotal blk req = 0x100) := by
    intro i hi target htarget
    rw [busPartition_iff hids htiles hgood hperm (hwindows i hi target htarget) fun rb hrb =>
      hwindows rb.1 (mem_rootBridges.mp hrb).1 _ (hanswer rb.1 (mem_rootBridges.mp hrb).1)]
    split_ifs with hplace
    · exact iff_of_true rfl (.inl hplace)
    · exact ⟨.inr, fun h => h.resolve_left hplace⟩
  constructor
  · intro h
    have hfirst : 0x10 ∈ cfgInstances blk req df.rootBridgesOnSocket.toNat 0 := by simp [cfgInstances, ccmInstances]
    exact (hiff 0 (by omega) 0x10 hfirst).mp (h 0 (by omega) 0x10 hfirst)
  · intro h i hi target htarget
    exact (hiff i hi target htarget).mpr h

def equalBuses (pciBusNumber : UInt16) : BusRequest := ⟨fun _ _ => pciBusNumber, 0, 0⟩

theorem fabricIds_busDf : FabricIds (plainBlk 0xE0000000) busDf := by
  constructor <;> decide +kernel

/-- 64 buses for each of four root bridges leave nothing over. -/
theorem pciBus_partition_64 :
    FabricIds (plainBlk 0xE0000000) busDf ∧
    ∀ i < 1, ∀ target ∈ cfgInstances (plainBlk 0xE0000000) (equalBuses 64) 4 i,
      BusPartition (plainBlk 0xE0000000) (equalBuses 64) busDf (fun _ => 0x10)
        (silInitPciBusBasedOnNvVariable4 (plainBlk 0xE0000000) (equalBuses 64) busDf (fun _ => 0x10) fun _ => 0).2
        i target :=
  ⟨fabricIds_busDf, (pciBus_partition_iff (plainBlk 0xE0000000) (equalBuses 64) busDf (fun _ => 0x10) (fun _ => 0)
    (countsMatch_busDf _) fabricIds_busDf (by decide) (by decide) (by decide) (by decide +kernel) (by decide) (by decide)
    (by decide +kernel)).mpr (.inr (by decide))⟩

/-- With one socket the last turn is that of the primary root bridge 2. -/
theorem pciBus_not_partitioned :
    (∀ rb ∈ rootBridges (plainBlk 0xE0000000), 1 ≤ busCount (equalBuses 32) rb) ∧
    busTotal (plainBlk 0xE0000000) (equalBuses 32) ≤ 0x100 ∧
    needReallocate (plainBlk 0xE0000000) (equalBuses 32) busDf (fun _ => 0x10) (fun _ => 0) = true ∧
    cfgWindows (silInitPciBusBasedOnNvVariable4 (plainBlk 0xE0000000) (equalBuses 32) busDf (fun _ => 0x10)
      fun _ => 0).2 0 0x10 = [⟨0x22, 0, 31⟩, ⟨0x20, 32, 63⟩, ⟨0x21, 64, 95⟩, ⟨0x23, 96, 127⟩] ∧
    ¬ BusPartition (plainBlk 0xE0000000) (equalBuses 32) busDf (fun _ => 0x10)
      (silInitPciBusBasedOnNvVariable4 (plainBlk 0xE0000000) (equalBuses 32) busDf (fun _ => 0x10) fun _ => 0).2
      0 0x10 := by
  have hwindows : cfgWindows (silInitPciBusBasedOnNvVariable4 (plainBlk 0xE0000000) (equalBuses 32) busDf
      (fun _ => 0x10) fun _ => 0).2 0 0x10 = [⟨0x22, 0, 31⟩, ⟨0x20, 32, 63⟩, ⟨0x21, 64, 95⟩, ⟨0x23, 96, 127⟩] := by
    decide +kernel
  refine ⟨by decide, by decide, by decide +kernel, hwindows, fun h => ?_⟩
  have hbus := (h.covers 200).mp (by decide)
  rw [hwindows] at hbus
  exact absurd hbus (by decide)

end OpenSil.RcMgr
