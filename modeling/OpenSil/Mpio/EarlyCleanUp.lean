import OpenSil.Lib.Bytes
import OpenSil.Lib.Chain
import OpenSil.Lib.Stores

/-! # The clean-up of bridges behind early trained ports

`MpioCleanUpEarlyInitSP5` with `MpioCleanUpEarlyBridge`.
-/

namespace OpenSil.Mpio.EarlyCleanUp

open Bytes Chain Stores List Nat

/-- The configuration space of every function, by segment, bus, device and function number. -/
abbrev Config := Nat → Mem

def displayControllerType : Nat := 3
def bridgeDeviceType : Nat := 6

def deviceType (m : Mem) : Nat := readLE m 0x08 4 >>> 24

/-- Function 0 of device 0 on the secondary bus of `f`, if `f` has bus numbers. -/
def downstream (c : Config) (f : Nat) : Option Nat :=
  let value := readLE (c f) 0x18 4
  if value &&& 0x00FFFF00 ≠ 0 then some (f >>> 16 <<< 16 + ((value &&& 0x0000FF00) >>> 8) <<< 8) else none

def windows (width : Nat) : List (Nat × Nat) :=
  [(0x1C, 2), (0x20, width), (0x24, width), (0x28, width), (0x2C, width), (0x30, width), (0x04, width)]

def zero (registers : List (Nat × Nat)) (m : Mem) : Mem := registers.foldl (fun m r => writeLE m r.1 r.2 0) m

/-- A bridge is cleaned with accesses of four bytes, the root port with accesses of two. -/
def cleanBridge (width : Nat) (m : Mem) : Mem :=
  let m := zero (windows width) m
  writeLE m 0x18 width (readLE m 0x18 width &&& 0xFF0000FF)

def cleanDisplay (m : Mem) : Mem := zero ((0x04, 4) :: (List.range 6).map fun i => (0x10 + 4 * i, 4)) m

/-- The functions that are written, in order, with what is in their configuration space then. -/
abbrev Visits := List (Nat × Mem)

def mpioCleanUpEarlyBridge (c : Config) : Nat → Nat → Option Visits
  | 0, _ => none
  | fuel + 1, endpoint =>
    if deviceType (c endpoint) = displayControllerType then some [(endpoint, cleanDisplay (c endpoint))]
    else if deviceType (c endpoint) = bridgeDeviceType then
      match downstream c endpoint with
      | none => some []
      | some d => (mpioCleanUpEarlyBridge c fuel d).map fun below =>
          below ++ [(endpoint, cleanBridge 4 (store below c endpoint))]
    else some []

def cleanRootPort (fuel : Nat) (c : Config) (port : Nat) : Option Visits :=
  match downstream c port with
  | none => some []
  | some d => (mpioCleanUpEarlyBridge c fuel d).map fun below => below ++ [(port, cleanBridge 2 (store below c port))]

/-- The second half of the function, over the engines of the root bridges with the index of the die. -/
def mpioCleanUpEarlyInitSP5 (fuel : Nat) (c : Config) (ports : List Nat) : Option Visits :=
  ports.foldlM (fun visits port => (cleanRootPort fuel (store visits c) port).map (visits ++ ·)) []

/-! ## Chains -/

def nextBelow (c : Config) (f : Nat) : Option Nat :=
  if deviceType (c f) = bridgeDeviceType then downstream c f else none

def clearedOffsets : List Nat := [0x04, 0x05, 0x19, 0x1A, 0x1C, 0x1D] ++ List.range' 0x20 20

def Cleaned (m : Mem) : Prop := ∀ o ∈ clearedOffsets, m o = 0

def upperOffsets : List Nat := [0x1A, 0x22, 0x23, 0x26, 0x27, 0x2A, 0x2B, 0x2E, 0x2F, 0x32, 0x33]

/-- Every root port has a chain of bridges below it, and no function is on two of them. -/
structure Chains (c : Config) (ports : List Nat) (chain : Nat → List Nat) : Prop where
  path : ∀ port ∈ ports, Path (nextBelow c) (downstream c port) (chain port) none
  nodup : (ports.flatMap fun port => (port :: chain port).reverse).Nodup

/-- No function below another one is written after it. -/
def BottomUp (visits : Visits) (functions : List Nat) : Prop :=
  ∀ above f below, functions = above ++ f :: below → visits.Pairwise fun v v' => v.1 = f → v'.1 ∉ below

/-- Every bridge of the chains and every port with bus numbers is clean. -/
def AllCleaned (c c' : Config) (ports : List Nat) (chain : Nat → List Nat) : Prop :=
  ∀ port ∈ ports, (downstream c port ≠ none → Cleaned (c' port)) ∧
    ∀ f ∈ chain port, deviceType (c f) = bridgeDeviceType → Cleaned (c' f)

/-- What a chain does not clear was clear before: the upper halves of a root port, and a last bridge without bus numbers. -/
def RestClear (c : Config) (ports : List Nat) (chain : Nat → List Nat) : Prop :=
  ∀ port ∈ ports, (downstream c port ≠ none → ∀ o ∈ upperOffsets, c port o = 0) ∧
    ∀ f ∈ chain port, deviceType (c f) = bridgeDeviceType → downstream c f = none → Cleaned (c f)

/-! ## One function -/

def covers (registers : List (Nat × Nat)) (o : Nat) : Bool := registers.any fun r => r.1 ≤ o && o < r.1 + r.2

theorem zero_apply (registers : List (Nat × Nat)) (m : Mem) (o : Nat) :
    zero registers m o = if covers registers o then 0 else m o := by
  induction registers generalizing m with
  | nil => rfl
  | cons r registers ih =>
    show zero registers (writeLE m r.1 r.2 0) o = _
    rw [ih, covers, covers, any_cons, ← Bool.decide_and]
    by_cases hr : r.1 ≤ o ∧ o < r.1 + r.2
    · simp [writeLE, hr]
    · rw [decide_eq_false hr, Bool.false_or, writeLE, if_neg hr]

theorem byte_masked (v i : Nat) (hi : i = 1 ∨ i = 2) : UInt8.ofNat ((v &&& 0xFF0000FF) / 256 ^ i) = 0 := by
  have hmod : (v &&& 0xFF0000FF) / 256 ^ i % 256 = 0 := by
    rw [show 256 ^ i = 2 ^ (8 * i) from by rw [pow_mul]; rfl, ← shiftRight_eq_div_pow, shiftRight_and_distrib,
      show (256 : Nat) = 2 ^ 8 from rfl, and_mod_two_pow]
    rcases hi with rfl | rfl
    · exact and_zero _
    · exact and_zero _
  exact UInt8.toNat_inj.mp (by simpa using hmod)

theorem cleanBridge_apply (width : Nat) (m : Mem) (o : Nat) (h : ¬(0x18 ≤ o ∧ o < 0x18 + width)) :
    cleanBridge width m o = if covers (windows width) o then 0 else m o := by
  rw [cleanBridge, writeLE, if_neg h, zero_apply]

theorem cleanBridge_bus {width o : Nat} (m : Mem) (h : 0x18 ≤ o ∧ o < 0x18 + width) (ho : o = 0x19 ∨ o = 0x1A) :
    cleanBridge width m o = 0 := by
  rw [cleanBridge, writeLE, if_pos h, byte_masked _ _ (by omega)]

theorem cleaned_cleanBridge (m : Mem) : Cleaned (cleanBridge 4 m) := by
  have hcases : ∀ o ∈ clearedOffsets, (o = 0x19 ∨ o = 0x1A) ∨
      (¬(0x18 ≤ o ∧ o < 0x18 + 4) ∧ covers (windows 4) o = true) := by decide
  intro o ho
  rcases hcases o ho with hbus | ⟨hout, hcovered⟩
  · exact cleanBridge_bus m (by omega) hbus
  · rw [cleanBridge_apply 4 m o hout, if_pos hcovered]

theorem cleaned_rootPort_iff (m : Mem) : Cleaned (cleanBridge 2 m) ↔ ∀ o ∈ upperOffsets, m o = 0 := by
  have hupper : ∀ o ∈ upperOffsets, o ∈ clearedOffsets ∧ ¬(0x18 ≤ o ∧ o < 0x18 + 2) ∧ covers (windows 2) o = false := by decide
  have hlower : ∀ o ∈ clearedOffsets, o ∈ upperOffsets ∨ o = 0x19 ∨
      (¬(0x18 ≤ o ∧ o < 0x18 + 2) ∧ covers (windows 2) o = true) := by decide
  have hkept : ∀ o ∈ upperOffsets, cleanBridge 2 m o = m o := fun o ho => by
    rw [cleanBridge_apply 2 m o (hupper o ho).2.1, (hupper o ho).2.2]
    rfl
  constructor
  · intro h o ho
    rw [← hkept o ho]
    exact h o (hupper o ho).1
  · intro h o ho
    rcases hlower o ho with hupper | rfl | ⟨hout, hcovered⟩
    · rw [hkept o hupper, h o hupper]
    · exact cleanBridge_bus m (by omega) (Or.inl rfl)
    · rw [cleanBridge_apply 2 m o hout, if_pos hcovered]

theorem path_none_iff {next : Nat → Option Nat} {l : List Nat} : Path next none l none ↔ l = [] := by
  cases l with
  | nil => exact iff_of_true rfl rfl
  | cons a l => exact iff_of_false (fun h => by cases h.1) (by simp)

/-! ## Visits -/

def visitsOf (g : Nat → Option Mem) (l : List Nat) : Visits := l.filterMap fun f => (g f).map (f, ·)

section
variable {g : Nat → Option Mem} {c : Config} {l : List Nat} {f : Nat} {m : Mem}

theorem mem_visitsOf_iff : (f, m) ∈ visitsOf g l ↔ f ∈ l ∧ g f = some m := by
  simp only [visitsOf, mem_filterMap, Option.map_eq_some_iff, Prod.mk.injEq]
  constructor
  · rintro ⟨_, hf, _, hm, rfl, rfl⟩
    exact ⟨hf, hm⟩
  · rintro ⟨hf, hm⟩
    exact ⟨f, hf, m, hm, rfl, rfl⟩

theorem store_visitsOf (hf : f ∈ l) : store (visitsOf g l) c f = (g f).getD (c f) := by
  cases hg : g f with
  | none => exact store_of_notMem fun m hm => by simp [mem_visitsOf_iff, hg] at hm
  | some m =>
    refine store_of_mem (mem_visitsOf_iff.mpr ⟨hf, hg⟩) fun m' hm' => ?_
    exact Option.some.inj ((mem_visitsOf_iff.mp hm').2.symm.trans hg)

theorem store_visitsOf_of_notMem (hf : f ∉ l) : store (visitsOf g l) c f = c f :=
  store_of_notMem fun _ hm => hf (mem_visitsOf_iff.mp hm).1

theorem visitsOf_append (l l' : List Nat) : visitsOf g (l ++ l') = visitsOf g l ++ visitsOf g l' := filterMap_append

theorem map_fst_visitsOf_sublist (l : List Nat) : ((visitsOf g l).map Prod.fst).Sublist l := by
  induction l with
  | nil => exact List.Sublist.refl _
  | cons f l ih =>
    rw [visitsOf, filterMap_cons]
    cases g f with
    | none => exact ih.cons f
    | some m => exact ih.cons_cons f

/-! ## One chain -/

def cleanedUp (c : Config) (f : Nat) : Option Mem :=
  if deviceType (c f) = displayControllerType then some (cleanDisplay (c f))
  else (nextBelow c f).map fun _ => cleanBridge 4 (c f)

theorem visitsOf_singleton (f : Nat) : visitsOf g [f] = ((g f).map (f, ·)).toList := by
  rw [visitsOf, filterMap_cons]
  cases g f <;> rfl

theorem mpioCleanUpEarlyBridge_eq {fuel : Nat} (hpath : Path (nextBelow c) (some f) l none)
    (hg : ∀ f ∈ l, g f = cleanedUp c f) (hfuel : l.length ≤ fuel) :
    mpioCleanUpEarlyBridge c fuel f = some (visitsOf g l.reverse) := by
  induction l generalizing f fuel with
  | nil => cases hpath
  | cons a l ih =>
    have hnodup := nodup_cons.mp (Path.nodup hpath)
    obtain ⟨heq, hrest⟩ := hpath
    obtain rfl := Option.some.inj heq
    obtain ⟨hl, hga⟩ : (∀ f ∈ l, g f = cleanedUp c f) ∧ g f = cleanedUp c f :=
      ⟨fun a ha => hg a (mem_cons_of_mem _ ha), hg f mem_cons_self⟩
    cases fuel with
    | zero => simp at hfuel
    | succ fuel =>
      rw [reverse_cons, visitsOf_append, visitsOf_singleton, hga, mpioCleanUpEarlyBridge, cleanedUp]
      cases hnext : nextBelow c f with
      | none =>
        rw [hnext] at hrest
        obtain rfl := path_none_iff.mp hrest
        by_cases hdisplay : deviceType (c f) = displayControllerType
        · simp [hdisplay, visitsOf]
        · rw [if_neg hdisplay, if_neg hdisplay]
          by_cases hbridge : deviceType (c f) = bridgeDeviceType
          · have hdown : downstream c f = none := by simpa [nextBelow, hbridge] using hnext
            simp [hbridge, hdown, visitsOf]
          · simp [hbridge, visitsOf]
      | some d =>
        obtain ⟨hbridge, hdown⟩ : deviceType (c f) = bridgeDeviceType ∧ downstream c f = some d := by
          simpa [nextBelow] using hnext
        have hdisplay : deviceType (c f) ≠ displayControllerType := by
          rw [hbridge]
          decide
        rw [hnext] at hrest
        rw [if_neg hdisplay, if_neg hdisplay, if_pos hbridge, hdown]
        show (mpioCleanUpEarlyBridge c fuel d).map _ = _
        rw [ih hrest hl (by simpa using hfuel)]
        simp [store_visitsOf_of_notMem (fun h => hnodup.1 (mem_reverse.mp h))]

theorem cleanRootPort_eq {port fuel : Nat} (hpath : Path (nextBelow c) (downstream c port) l none) (hport : port ∉ l)
    (hg : ∀ f ∈ l, g f = cleanedUp c f) (hgport : g port = (downstream c port).map fun _ => cleanBridge 2 (c port))
    (hfuel : l.length ≤ fuel) : cleanRootPort fuel c port = some (visitsOf g (port :: l).reverse) := by
  rw [reverse_cons, visitsOf_append, visitsOf_singleton, hgport, cleanRootPort]
  cases hdown : downstream c port with
  | none =>
    rw [hdown] at hpath
    obtain rfl := path_none_iff.mp hpath
    rfl
  | some d =>
    rw [hdown] at hpath
    show (mpioCleanUpEarlyBridge c fuel d).map _ = _
    rw [mpioCleanUpEarlyBridge_eq hpath hg hfuel]
    simp [store_visitsOf_of_notMem (fun h => hport (mem_reverse.mp h))]

/-! ## All ports -/

section
variable {c' : Config} (h : c' f = c f)
include h

theorem downstream_congr : downstream c' f = downstream c f := by
  rw [downstream, downstream, h]

theorem nextBelow_congr : nextBelow c' f = nextBelow c f := by
  rw [nextBelow, nextBelow, downstream_congr h, h]

theorem cleanedUp_congr : cleanedUp c' f = cleanedUp c f := by
  rw [cleanedUp, cleanedUp, nextBelow_congr h, h]

end

end

def expected (c : Config) (ports : List Nat) (f : Nat) : Option Mem :=
  if f ∈ ports then (downstream c f).map fun _ => cleanBridge 2 (c f) else cleanedUp c f

def order (chain : Nat → List Nat) (ports : List Nat) : List Nat := ports.flatMap fun port => (port :: chain port).reverse

section
variable {c : Config} {ports : List Nat} {chain : Nat → List Nat}

theorem notMem_ports (h : Chains c ports chain) {port f : Nat} (hport : port ∈ ports) (hf : f ∈ chain port) : f ∉ ports := by
  intro hmem
  obtain ⟨hown, hdisjoint⟩ := nodup_flatMap.mp h.nodup
  by_cases hne : f = port
  · subst hne
    exact (nodup_cons.mp (nodup_reverse.mp (hown f hport))).1 hf
  · have : Std.Symm (Function.onFun List.Disjoint fun port => (port :: chain port).reverse) :=
      ⟨fun _ _ h => List.Disjoint.symm h⟩
    have hapart := hdisjoint.forall hmem hport hne
    exact hapart (mem_reverse.mpr mem_cons_self) (mem_reverse.mpr (mem_cons_of_mem _ hf))

/-- The ports behind `done` are met as they were. -/
theorem foldlM_cleanRootPort (h : Chains c ports chain) (fuel : Nat) (hfuel : ∀ port ∈ ports, (chain port).length ≤ fuel)
    (done rest : List Nat) (hports : ports = done ++ rest) :
    rest.foldlM (fun visits port => (cleanRootPort fuel (store visits c) port).map (visits ++ ·))
        (visitsOf (expected c ports) (order chain done)) =
      some (visitsOf (expected c ports) (order chain ports)) := by
  induction rest generalizing done with
  | nil => rw [hports, append_nil]; rfl
  | cons port rest ih =>
    have hport : port ∈ ports := by simp [hports]
    have hsame : ∀ f ∈ port :: chain port, store (visitsOf (expected c ports) (order chain done)) c f = c f := by
      intro f hf
      refine store_visitsOf_of_notMem fun hdone => ?_
      have hnodup := h.nodup
      rw [hports, flatMap_append, flatMap_cons, nodup_append] at hnodup
      exact hnodup.2.2 f hdone f (mem_append_left _ (mem_reverse.mpr hf)) rfl
    have hdown := downstream_congr (hsame port mem_cons_self)
    have hpath : Path (nextBelow (store (visitsOf (expected c ports) (order chain done)) c)) (downstream c port)
        (chain port) none :=
      (h.path port hport).congr fun f hf => nextBelow_congr (hsame f (mem_cons_of_mem _ hf))
    have hown := nodup_cons.mp (nodup_reverse.mp ((nodup_flatMap.mp h.nodup).1 port hport))
    have hrun : cleanRootPort fuel (store (visitsOf (expected c ports) (order chain done)) c) port =
        some (visitsOf (expected c ports) (port :: chain port).reverse) := by
      refine cleanRootPort_eq (hdown ▸ hpath) hown.1 (fun f hf => ?_) ?_ (hfuel port hport)
      · rw [expected, if_neg (notMem_ports h hport hf), cleanedUp_congr (hsame f (mem_cons_of_mem _ hf))]
      · rw [expected, if_pos hport, hdown, hsame port mem_cons_self]
    rw [foldlM_cons, hrun]
    show rest.foldlM _ (_ ++ _) = _
    rw [← visitsOf_append]
    have hdone : order chain done ++ (port :: chain port).reverse = order chain (done ++ [port]) := by
      simp [order]
    rw [hdone]
    exact ih (done ++ [port]) (by simp [hports])

theorem pairwise_of_nodup {front back below : List Nat} {f : Nat} (h : (front ++ f :: back).Nodup)
    (hbelow : ∀ x ∈ below, x ∈ front) : (front ++ f :: back).Pairwise fun x y => x = f → y ∉ below := by
  obtain ⟨-, hback, hapart⟩ := nodup_append.mp h
  have hfront : ∀ x ∈ front, x ≠ f := fun x hx => hapart x hx f mem_cons_self
  refine pairwise_append.mpr ⟨?_, pairwise_cons.mpr ⟨?_, ?_⟩, ?_⟩
  · exact pairwise_of_forall_mem_list fun x hx _ _ heq => absurd heq (hfront x hx)
  · exact fun y hy _ hmem => hapart y (hbelow y hmem) y (mem_cons_of_mem _ hy) rfl
  · refine pairwise_of_forall_mem_list fun x hx _ _ heq => ?_
    exact absurd (heq ▸ hx) (nodup_cons.mp hback).1
  · exact fun x hx _ _ heq => absurd heq (hfront x hx)

theorem bottomUp_visits (h : Chains c ports chain) {port : Nat} (hport : port ∈ ports) :
    BottomUp (visitsOf (expected c ports) (order chain ports)) (port :: chain port) := by
  intro above f below hsplit
  obtain ⟨before, after, hports⟩ := append_of_mem hport
  have horder : order chain ports = (order chain before ++ below.reverse) ++ f :: (above.reverse ++ order chain after) := by
    rw [order, hports, flatMap_append, flatMap_cons, hsplit]
    simp [order]
  have hnodup : (order chain ports).Nodup := h.nodup
  rw [horder] at hnodup
  have hpairs := pairwise_of_nodup hnodup fun x hx => mem_append_right _ (mem_reverse.mpr hx)
  rw [← horder] at hpairs
  exact pairwise_map.mp (hpairs.sublist (map_fst_visitsOf_sublist _))

theorem store_visits {port f : Nat} (hport : port ∈ ports) (hf : f ∈ port :: chain port) :
    store (visitsOf (expected c ports) (order chain ports)) c f = (expected c ports f).getD (c f) :=
  store_visitsOf (mem_flatMap.mpr ⟨port, hport, mem_reverse.mpr hf⟩)

theorem allCleaned_iff (h : Chains c ports chain) :
    AllCleaned c (store (visitsOf (expected c ports) (order chain ports)) c) ports chain ↔ RestClear c ports chain := by
  refine forall₂_congr fun port hport => and_congr ?_ (forall₂_congr fun f hf => forall_congr' fun hbridge => ?_)
  · rw [store_visits hport mem_cons_self, expected, if_pos hport]
    cases downstream c port with
    | none => simp
    | some d => simp [cleaned_rootPort_iff]
  · have hdisplay : deviceType (c f) ≠ displayControllerType := by
      rw [hbridge]
      decide
    rw [store_visits hport (mem_cons_of_mem _ hf), expected, if_neg (notMem_ports h hport hf), cleanedUp,
      if_neg hdisplay, nextBelow, if_pos hbridge]
    cases downstream c f with
    | none => simp
    | some d => simp [cleaned_cleanBridge]

/-- The clean-up ends, works from the bottom up, and clears all bridges with bus numbers; root ports are written in halves. -/
theorem mpioCleanUpEarlyInitSP5_cleans_iff (h : Chains c ports chain) :
    ∃ visits, (∃ enough, ∀ fuel ≥ enough, mpioCleanUpEarlyInitSP5 fuel c ports = some visits) ∧
      (∀ port ∈ ports, BottomUp visits (port :: chain port)) ∧
      (AllCleaned c (store visits c) ports chain ↔ RestClear c ports chain) := by
  refine ⟨_, ⟨(ports.map fun port => (chain port).length).sum, fun fuel hfuel => ?_⟩, fun port => bottomUp_visits h,
    allCleaned_iff h⟩
  have hlength : ∀ port ∈ ports, (chain port).length ≤ fuel := fun port hport =>
    (le_sum_of_mem (mem_map_of_mem hport)).trans hfuel
  exact foldlM_cleanRootPort h fuel hlength [] ports rfl

end

/-- A port at function 0x19, a bridge on bus 1 below it, and a display controller on bus 2. -/
def earlyBridge : Config := fun f =>
  if f = 0x19 then fun o => if o = 0x19 then 1 else if o = 0x1A then 2 else 0
  else if f = 0x100 then
    fun o => if o = 0x0B then 6 else if o = 0x19 ∨ o = 0x1A then 2 else if o = 0x22 then 0xFF else 0
  else if f = 0x200 then fun o => if o = 0x0B then 3 else 0
  else fun _ => 0xFF

theorem earlyBridge_chains : Chains earlyBridge [0x19] fun _ => [0x100, 0x200] where
  path := by
    intro port hport
    obtain rfl := mem_singleton.mp hport
    simp only [path_cons_iff, path_nil_iff]
    decide
  nodup := by decide

theorem earlyBridge_cleans_iff :
    ∃ visits, (∃ enough, ∀ fuel ≥ enough, mpioCleanUpEarlyInitSP5 fuel earlyBridge [0x19] = some visits) ∧
      (∀ port ∈ [0x19], BottomUp visits (port :: [0x100, 0x200])) ∧
      (AllCleaned earlyBridge (store visits earlyBridge) [0x19] (fun _ => [0x100, 0x200]) ↔
        RestClear earlyBridge [0x19] fun _ => [0x100, 0x200]) :=
  mpioCleanUpEarlyInitSP5_cleans_iff earlyBridge_chains

/-- A port at function 0x19 with a display controller on bus 1. -/
def earlyPort : Config := fun f =>
  if f = 0x19 then fun o => if o = 0x19 ∨ o = 0x1A then 1 else if o = 0x22 then 0xFF else 0
  else if f = 0x100 then fun o => if o = 0x0B then 3 else 0
  else fun _ => 0xFF

/-- The subordinate bus number and the memory limit of the port stay. -/
theorem earlyPort_subordinate_kept :
    (mpioCleanUpEarlyInitSP5 1 earlyPort [0x19]).map (fun visits =>
      (store visits earlyPort 0x19 0x19, store visits earlyPort 0x19 0x1A, store visits earlyPort 0x19 0x22)) =
      some (0, 1, 0xFF) := by
  decide

end OpenSil.Mpio.EarlyCleanUp
