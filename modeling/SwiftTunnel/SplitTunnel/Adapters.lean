/-
# Which adapter is intercepted

`interceptor.rs`: `get_default_route_interface_index` and the choice that `find_physical_adapter`
makes among the adapters that the driver is bound to.  Virtual adapters are skipped, and so are those
without a name, except the one of the default route; the rest are scored.

What Windows says about routes and adapters is data here: the rows of the forward table, and for
each adapter the name that the first successful lookup gives and its interface index.

The default route is worth a thousand points and everything else together less, so a real adapter
with the default route is beaten only by another one with it (`selectAdapter_default_route`).  Points
for the place in the list stop at the tenth, so scores can be equal, and `max_by_key` takes the last.

* `bestRoute_isBest`: the loop over the rows ends with the first default route of the least metric.
* `selectAdapter_some`: the candidate of the greatest score is chosen, and among equals the last.
* `find_ok`: what is known of the adapter that is found (`BestAdapter`).

A default route whose metric is the greatest number of 32 bits is not found at all: the loop starts
with that number and asks for less.
-/
import SwiftTunnel.Vpn.RelayChoice

namespace SwiftTunnel

open Rust

/-! ## 1. The default route -/

/-- A row of `MIB_IPFORWARDTABLE`. -/
structure ForwardRow where
  dest : UInt32
  mask : UInt32
  nextHop : UInt32
  metric : UInt32
  ifIndex : UInt32
  deriving DecidableEq, Repr

def ForwardRow.isDefault (row : ForwardRow) : Bool :=
  row.dest == 0 && row.mask == 0 && row.nextHop != 0

/-- `best_metric` and `best_if_index` after the loop over the rows. -/
def bestRoute (entries : List ForwardRow) : UInt32 × Option UInt32 :=
  entries.foldl (fun best row =>
    if row.isDefault && row.metric < best.1 then (row.metric, some row.ifIndex) else best)
    (0xFFFFFFFF, none)

/-- `get_default_route_interface_index`; `GetIpForwardTable` may fail. -/
def getDefaultRouteInterfaceIndex (table : Option (List ForwardRow)) : Option UInt32 :=
  table.bind fun entries => (bestRoute entries).2

/-- A default route of the least metric, and the first of those. -/
structure IsFirstLeast (entries : List ForwardRow) (row : ForwardRow) : Prop where
  isDefault : row.isDefault = true
  split : ∃ before after, entries = before ++ row :: after ∧
    (∀ row' ∈ before, row'.isDefault = true → row.metric < row'.metric) ∧
    ∀ row' ∈ after, row'.isDefault = true → row.metric ≤ row'.metric

/-- A row that does not beat the first of the least leaves it that. -/
theorem IsFirstLeast.concat {entries : List ForwardRow} {row row' : ForwardRow}
    (h : IsFirstLeast entries row) (hle : row'.isDefault = true → row.metric ≤ row'.metric) :
    IsFirstLeast (entries ++ [row']) row := by
  obtain ⟨hdefault, before, after, rfl, hbefore, hafter⟩ := h
  refine ⟨hdefault, before, after ++ [row'], by simp, hbefore, fun other hmem hother => ?_⟩
  rcases List.mem_append.mp hmem with hmem | hmem
  · exact hafter other hmem hother
  · obtain rfl := List.mem_singleton.mp hmem
    exact hle hother

/-- The loop holds the first default route of the least metric. -/
structure IsBest (entries : List ForwardRow) (best : UInt32 × Option UInt32) : Prop where
  least : ∀ row ∈ entries, row.isDefault = true → best.1 ≤ row.metric
  found : ∀ idx, best.2 = some idx →
    ∃ row, IsFirstLeast entries row ∧ row.metric = best.1 ∧ row.ifIndex = idx
  none : best.2 = none → best.1 = 0xFFFFFFFF

theorem bestRoute_isBest (entries : List ForwardRow) : IsBest entries (bestRoute entries) := by
  induction entries using List.reverseRecOn with
  | nil => refine ⟨fun _ h => (List.not_mem_nil h).elim, fun _ h => (Option.some_ne_none _ h.symm).elim,
      fun _ => rfl⟩
  | append_singleton entries row ih =>
    rw [bestRoute, List.foldl_append, ← bestRoute]
    simp only [List.foldl_cons, List.foldl_nil]
    split
    · -- strictly less than all before it
      rename_i h
      obtain ⟨hdefault, hless⟩ := Bool.and_eq_true_iff.mp h
      have hless : row.metric < (bestRoute entries).1 := of_decide_eq_true hless
      have hbefore : ∀ row' ∈ entries, row'.isDefault = true → row.metric < row'.metric :=
        fun row' hmem h' => UInt32.lt_of_lt_of_le hless (ih.least row' hmem h')
      refine ⟨fun row' hmem h' => ?_, fun idx hidx => ?_, fun h => (Option.some_ne_none _ h).elim⟩
      · rcases List.mem_append.mp hmem with hmem | hmem
        · exact UInt32.le_of_lt (hbefore row' hmem h')
        · obtain rfl := List.mem_singleton.mp hmem
          exact UInt32.le_refl _
      · exact ⟨row, ⟨hdefault, entries, [], rfl, hbefore, fun _ h => (List.not_mem_nil h).elim⟩, rfl,
          Option.some.inj hidx⟩
    · rename_i h
      have hrow : row.isDefault = true → (bestRoute entries).1 ≤ row.metric := by
        intro h'
        rw [h', Bool.true_and, decide_eq_true_eq] at h
        exact UInt32.not_lt.mp h
      refine ⟨fun row' hmem h' => ?_, fun idx hidx => ?_, ih.none⟩
      · rcases List.mem_append.mp hmem with hmem | hmem
        · exact ih.least row' hmem h'
        · obtain rfl := List.mem_singleton.mp hmem
          exact hrow h'
      · obtain ⟨best, hbest, hmetric, hindex⟩ := ih.found idx hidx
        exact ⟨best, hbest.concat fun h' => hmetric ▸ hrow h', hmetric, hindex⟩

/-- The interface that is found is that of the first default route of the least metric. -/
theorem getDefaultRouteInterfaceIndex_some {entries : List ForwardRow} {idx : UInt32}
    (h : getDefaultRouteInterfaceIndex (some entries) = some idx) :
    ∃ row, IsFirstLeast entries row ∧ row.ifIndex = idx := by
  obtain ⟨row, hfirst, -, hidx⟩ := (bestRoute_isBest entries).found idx h
  exact ⟨row, hfirst, hidx⟩

/-! ## 2. The choice -/

/-- An adapter that the driver is bound to, with what Windows says about it. -/
structure BoundAdapter where
  internalName : String
  /-- What the first of the three lookups that succeeds gives. -/
  friendlyName : Option String
  /-- `get_adapter_interface_index`. -/
  interfaceIndex : Option UInt32
  deriving DecidableEq, Repr

/-- The words of the names that are skipped. -/
def virtualWords : List String :=
  ["loopback", "isatap", "teredo", "swifttunnel", "wintun", "radmin", "hamachi", "zerotier",
    "tailscale", "wireguard", "openvpn", "tap-windows", "nordvpn", "expressvpn", "surfshark",
    "proton", "mullvad", "private internet", "cyberghost"]

def containsAny (text : String) (words : List String) : Bool := words.any (contains text)

namespace BoundAdapter

variable (lower : String → String)

/-- `friendly_name`, empty where no lookup succeeds. -/
def friendly (adapter : BoundAdapter) : String := adapter.friendlyName.getD ""

def isVirtual (adapter : BoundAdapter) : Bool :=
  contains (lower adapter.internalName) "loopback" ||
    containsAny (lower adapter.friendly) virtualWords ||
    (lower adapter.friendly != "" &&
      containsAny (lower adapter.friendly) ["virtual", "vpn", "tunnel"])

def hasDefaultRoute (defaultRoute : Option UInt32) (adapter : BoundAdapter) : Bool :=
  adapter.interfaceIndex.isSome && defaultRoute.isSome && adapter.interfaceIndex == defaultRoute

/-- An adapter that is not skipped. -/
def isCandidate (defaultRoute : Option UInt32) (adapter : BoundAdapter) : Bool :=
  !(adapter.isVirtual lower ||
    (adapter.friendly == "" && !adapter.hasDefaultRoute defaultRoute))

/-- `score`, for the adapter at `idx`. -/
def score (defaultRoute : Option UInt32) (idx : Nat) (adapter : BoundAdapter) : Nat :=
  (if adapter.hasDefaultRoute defaultRoute then 1000 else 0) +
  (if containsAny (lower adapter.friendly) ["ethernet", "intel", "realtek", "broadcom"] then 100
    else 0) +
  (if containsAny (lower adapter.friendly) ["wi-fi", "wifi", "wireless"] then 80 else 0) +
  (if adapter.friendly != "" then 50 else 0) + (10 - min idx 10)

end BoundAdapter

/-- An adapter with its place in the list. -/
abbrev Candidate := Nat × BoundAdapter

/-- `physical_candidates`. -/
def physicalCandidates (lower : String → String) (defaultRoute : Option UInt32)
    (adapters : List BoundAdapter) : List Candidate :=
  (adapters.zipIdx.map Prod.swap).filter fun c => c.2.isCandidate lower defaultRoute

def Candidate.score (lower : String → String) (defaultRoute : Option UInt32) (c : Candidate) : Nat :=
  c.2.score lower defaultRoute c.1

/-- `max_by_key` answers with the last of the greatest. -/
def selectAdapter (lower : String → String) (defaultRoute : Option UInt32)
    (adapters : List BoundAdapter) : Option Candidate :=
  (physicalCandidates lower defaultRoute adapters).reverse.argmax
    (Candidate.score lower defaultRoute)

section Select

variable {lower : String → String} {defaultRoute : Option UInt32} {adapters : List BoundAdapter}

theorem mem_physicalCandidates {c : Candidate} :
    c ∈ physicalCandidates lower defaultRoute adapters ↔
      adapters[c.1]? = some c.2 ∧ c.2.isCandidate lower defaultRoute = true := by
  rw [physicalCandidates, List.mem_filter, List.mem_map]
  refine and_congr_left fun _ => ?_
  constructor
  · rintro ⟨⟨adapter, idx⟩, hmem, rfl⟩
    exact List.mem_zipIdx_iff_getElem?.mp hmem
  · exact fun h => ⟨(c.2, c.1), List.mem_zipIdx_iff_getElem?.mpr h, rfl⟩

theorem score_default_route {c : Candidate} :
    1000 ≤ c.score lower defaultRoute ↔ c.2.hasDefaultRoute defaultRoute = true := by
  rw [Candidate.score, BoundAdapter.score]
  cases c.2.hasDefaultRoute defaultRoute with
  | true =>
    refine iff_of_true ?_ rfl
    rw [if_pos rfl]
    omega
  | false =>
    refine iff_of_false ?_ Bool.false_ne_true
    rw [if_neg Bool.false_ne_true]
    split <;> split <;> split <;> omega

/-- The candidates are in the order of the adapters. -/
theorem physicalCandidates_pairwise :
    (physicalCandidates lower defaultRoute adapters).Pairwise fun c c' => c.1 < c'.1 := by
  refine List.Pairwise.filter _ ?_
  rw [List.pairwise_map]
  have h := List.pairwise_lt_range' (s := 0) (n := adapters.length)
  rw [← List.zipIdx_map_snd, List.pairwise_map] at h
  exact h

/-- Of the greatest, the last is chosen. -/
theorem argmax_reverse_last {α : Type} {f : α → Nat} {r : α → α → Prop} {l : List α} {m a : α}
    (hl : l.Pairwise r) (hm : m ∈ l.reverse.argmax f) (ha : a ∈ l) (hle : f m ≤ f a) :
    a = m ∨ r a m := by
  induction l using List.reverseRecOn with
  | nil => cases ha
  | append_singleton l x ih =>
    obtain ⟨hl, -, hx⟩ := List.pairwise_append.mp hl
    rw [List.reverse_append, List.reverse_singleton, List.singleton_append, List.argmax_cons] at hm
    have hbefore : ∀ b ∈ l, r b x := fun b hb => hx b hb x List.mem_cons_self
    rcases List.mem_append.mp ha with ha | ha
    · -- the last one, `x`, is chosen unless it is less
      cases hrest : l.reverse.argmax f with
      | none =>
        rw [hrest] at hm
        obtain rfl := Option.some.inj hm
        exact Or.inr (hbefore a ha)
      | some c =>
        rw [hrest] at hm
        dsimp only at hm
        split at hm
        · exact ih hl (hrest.trans hm) ha
        · obtain rfl := Option.some.inj hm
          exact Or.inr (hbefore a ha)
    · obtain rfl := List.mem_singleton.mp ha
      cases hrest : l.reverse.argmax f with
      | none =>
        rw [hrest] at hm
        exact Or.inl (Option.some.inj hm)
      | some c =>
        rw [hrest] at hm
        dsimp only at hm
        split at hm
        · rename_i hlt
          obtain rfl := Option.some.inj hm
          omega
        · exact Or.inl (Option.some.inj hm)

/-- An adapter that is selected is not skipped; it has the greatest score, and is the last of those that
have it. -/
theorem selectAdapter_some {c : Candidate}
    (h : selectAdapter lower defaultRoute adapters = some c) :
    adapters[c.1]? = some c.2 ∧ c.2.isCandidate lower defaultRoute = true ∧
      ∀ (i : Nat) (adapter : BoundAdapter), adapters[i]? = some adapter →
        adapter.isCandidate lower defaultRoute = true →
          adapter.score lower defaultRoute i < c.score lower defaultRoute ∨
            adapter.score lower defaultRoute i = c.score lower defaultRoute ∧ i ≤ c.1 := by
  obtain ⟨hat, hcandidate⟩ := mem_physicalCandidates.mp (List.mem_reverse.mp (List.argmax_mem h))
  refine ⟨hat, hcandidate, fun i adapter hi hadapter => ?_⟩
  have hmem : (i, adapter) ∈ physicalCandidates lower defaultRoute adapters :=
    mem_physicalCandidates.mpr ⟨hi, hadapter⟩
  have hle : Candidate.score lower defaultRoute (i, adapter) ≤ c.score lower defaultRoute :=
    List.le_of_mem_argmax (List.mem_reverse.mpr hmem) h
  rcases hle.lt_or_eq with hlt | heq
  · exact Or.inl hlt
  · refine Or.inr ⟨heq, ?_⟩
    rcases argmax_reverse_last physicalCandidates_pairwise h hmem heq.ge with rfl | hlt
    · exact le_refl _
    · exact Nat.le_of_lt hlt

/-- **The default route counts more than all the rest.** -/
theorem selectAdapter_default_route {c : Candidate}
    (h : selectAdapter lower defaultRoute adapters = some c) {adapter : BoundAdapter}
    (hmem : adapter ∈ adapters) (hreal : adapter.isVirtual lower = false)
    (hroute : adapter.hasDefaultRoute defaultRoute = true) :
    c.2.hasDefaultRoute defaultRoute = true := by
  obtain ⟨i, hi⟩ := List.mem_iff_getElem?.mp hmem
  have hcandidate : adapter.isCandidate lower defaultRoute = true := by
    rw [BoundAdapter.isCandidate, hreal, hroute, Bool.not_true, Bool.and_false, Bool.or_false,
      Bool.not_false]
  have hscore : 1000 ≤ Candidate.score lower defaultRoute (i, adapter) :=
    score_default_route.mpr hroute
  rw [← score_default_route]
  obtain ⟨-, -, hgreatest⟩ := selectAdapter_some h
  rcases hgreatest i adapter hi hcandidate with hlt | ⟨heq, -⟩
  · exact Nat.le_trans hscore (Nat.le_of_lt hlt)
  · exact heq ▸ hscore

end Select

/-! ## 3. One look at the adapters -/

/-- What one `find_physical_adapter` gets from Windows. -/
structure AdapterScan where
  routes : Option (List ForwardRow)
  /-- `Ndisapi::new`. -/
  driver : Except String Unit
  /-- `get_tcpip_bound_adapters_info`. -/
  adapters : Except String (List BoundAdapter)

namespace AdapterScan

def defaultRoute (scan : AdapterScan) : Option UInt32 :=
  getDefaultRouteInterfaceIndex scan.routes

/-- The adapter that `find_physical_adapter` selects. -/
def find (lower : String → String) (scan : AdapterScan) : Except SdkError Candidate :=
  match scan.driver with
  | .error e => .error (.splitTunnel ("Failed to open driver: " ++ e))
  | .ok () => match scan.adapters with
    | .error e => .error (.splitTunnel ("Failed to enumerate adapters: " ++ e))
    | .ok adapters => match selectAdapter lower scan.defaultRoute adapters with
      | none => .error (.splitTunnel "No physical adapter found")
      | some c => .ok c

end AdapterScan

/-- The adapter at `idx` is the one to take. -/
structure BestAdapter (lower : String → String) (scan : AdapterScan) (adapters : List BoundAdapter)
    (idx : Nat) (adapter : BoundAdapter) : Prop where
  listed : scan.adapters = .ok adapters ∧ adapters[idx]? = some adapter
  real : adapter.isVirtual lower = false
  greatest : ∀ (i : Nat) (other : BoundAdapter), adapters[i]? = some other →
    other.isCandidate lower scan.defaultRoute = true →
      other.score lower scan.defaultRoute i < adapter.score lower scan.defaultRoute idx ∨
        other.score lower scan.defaultRoute i = adapter.score lower scan.defaultRoute idx ∧ i ≤ idx
  /-- It has the first default route of the least metric, if a real adapter has it. -/
  route : (∃ other ∈ adapters, other.isVirtual lower = false ∧
    other.hasDefaultRoute scan.defaultRoute = true) →
      ∃ entries row, scan.routes = some entries ∧ IsFirstLeast entries row ∧
        adapter.interfaceIndex = some row.ifIndex

theorem find_ok {lower : String → String} {scan : AdapterScan} {c : Candidate}
    (h : scan.find lower = .ok c) : ∃ adapters, BestAdapter lower scan adapters c.1 c.2 := by
  rw [AdapterScan.find] at h
  cases hdriver : scan.driver with
  | error e =>
    rw [hdriver] at h
    cases h
  | ok =>
    rw [hdriver] at h
    cases hadapters : scan.adapters with
    | error e =>
      rw [hadapters] at h
      cases h
    | ok adapters =>
      rw [hadapters] at h
      dsimp only at h
      cases hselect : selectAdapter lower scan.defaultRoute adapters with
      | none =>
        rw [hselect] at h
        cases h
      | some c' =>
        rw [hselect] at h
        obtain rfl := Except.ok.inj h
        obtain ⟨hlisted, hcandidate, hgreatest⟩ := selectAdapter_some hselect
        rw [BoundAdapter.isCandidate, Bool.not_eq_true', Bool.or_eq_false_iff] at hcandidate
        refine ⟨adapters, ⟨hadapters, hlisted⟩, hcandidate.1, hgreatest, ?_⟩
        rintro ⟨other, hmem, hreal, hroute⟩
        have hdefault := selectAdapter_default_route hselect hmem hreal hroute
        rw [BoundAdapter.hasDefaultRoute, Bool.and_eq_true_iff, Bool.and_eq_true_iff] at hdefault
        obtain ⟨⟨-, hsome⟩, hequal⟩ := hdefault
        obtain ⟨idx, hidx⟩ := Option.isSome_iff_exists.mp hsome
        rw [AdapterScan.defaultRoute] at hidx
        cases hroutes : scan.routes with
        | none =>
          rw [hroutes] at hidx
          cases hidx
        | some entries =>
          rw [hroutes] at hidx
          obtain ⟨row, hfirst, rfl⟩ := getDefaultRouteInterfaceIndex_some hidx
          refine ⟨entries, row, rfl, hfirst, ?_⟩
          rw [eq_of_beq hequal, AdapterScan.defaultRoute, hroutes, hidx]

end SwiftTunnel
