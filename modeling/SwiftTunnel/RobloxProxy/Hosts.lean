/-
# The operations on the pins

`apply_bootstrap_overrides`, `apply_relay_resolved_overrides`, `remove_overrides` and
`learn_direct_only_bootstrap_ip` of `hosts.rs`: each edits the hosts file, the process-wide sets
that steer the classifier, or both.

For each there is one lemma that says everything a call can do (`_cases`); what later modules
need of an operation follows from it.

* `applyBootstrapOverrides_cases`: under a country ban the routing flag is raised before anything
  is resolved, and stays when that fails.  The list of applied pins is published before the file is
  written, the address sets after.
* `applyRelayResolvedOverrides_cases`: the answers are merged into that list, whatever they are.
* `pinsCleared_of_removeOverrides`: a removal that returns `Ok` leaves nothing behind in the file
  and in the sets.  It leaves the list of applied pins, of which `PinsCleared` says nothing.
* `learnDirectOnlyBootstrapIp_cases`: learning records at most one address.

A call that fails at the hosts file may have torn it; each lemma says what then stands there.  The
pools in which the resolved hosts come are data of `Doh`, and which pins are written is the matter
of `Pins` and `Allocation`.
-/
import SwiftTunnel.RobloxProxy.Pins
import SwiftTunnel.RobloxProxy.Doh

namespace SwiftTunnel

open Rust

/-! ## 1. Pins from DNS repair -/

/-- `enter_country_ban_routing`. -/
def enterCountryBanRouting (g : SharedState) : SharedState :=
  { g with countryBanBypassRouting := true, directOnlyBootstrapIps := ∅ }

/-- The split that `apply_bootstrap_overrides` makes. -/
def allocatePins (countryBanBypass : Bool) (resolved : List HostOverride) : PinAllocation :=
  if countryBanBypass then
    let (active, directOnly) := countryBanSplitIpsFromOverrides resolved
    ⟨resolved, active, directOnly⟩
  else allocateRouteAssistPins resolved

/-- `apply_bootstrap_overrides`; `resolved` is what `resolve_bootstrap_overrides` returns. -/
def applyBootstrapOverrides (countryBanBypass : Bool)
    (resolved : Except String (List HostOverride)) (io : HostsIo) (g : SharedState) :
    Except String Unit × SharedState :=
  let g := if countryBanBypass then enterCountryBanRouting g else g
  match resolved with
  | .error e => (.error e, g)
  | .ok resolved =>
    let pins := allocatePins countryBanBypass resolved
    let written := writeOverrides pins.writable io g.hostsFile
    let g := { g with lastAppliedOverrides := pins.writable, hostsFile := written.2 }
    match written.1 with
    | .error e => (.error e, g)
    | .ok () =>
      (.ok (), { g with
        activeBootstrapIps := pins.active
        directOnlyBootstrapIps := pins.directOnly })

/-- What is written was resolved, under either split. -/
theorem mem_of_mem_allocatePins {ban : Bool} {es : List HostOverride} {e : HostOverride}
    (h : e ∈ (allocatePins ban es).writable) : e ∈ es := by
  cases ban with
  | false => exact mem_of_mem_writable h
  | true => exact h

/-- The state in which a failed call leaves the sets: the relayed addresses as they were, with
country-ban routing entered when it was asked for. -/
structure BootstrapFailed (ban : Bool) (g g' : SharedState) : Prop where
  active : g'.activeBootstrapIps = g.activeBootstrapIps
  directOnly : g'.directOnlyBootstrapIps = if ban then ∅ else g.directOnlyBootstrapIps
  routing : g'.countryBanBypassRouting = (ban || g.countryBanBypassRouting)
  excluded : g'.excludedIps = g.excludedIps
  asset : g'.assetIps = g.assetIps

/-- **What a call of `apply_bootstrap_overrides` can do.** -/
theorem applyBootstrapOverrides_cases (ban : Bool) (resolved : Except String (List HostOverride))
    (io : HostsIo) (g : SharedState) :
    (∃ es, resolved = .ok es ∧ ((allocatePins ban es).writable ≠ [] ∧ io = HostsIo.ok) ∧
      (applyBootstrapOverrides ban resolved io g).1 = .ok () ∧
      (applyBootstrapOverrides ban resolved io g).2 =
        { g with
          hostsFile := withBlock g.hostsFile (allocatePins ban es).writable
          lastAppliedOverrides := (allocatePins ban es).writable
          activeBootstrapIps := (allocatePins ban es).active
          directOnlyBootstrapIps := (allocatePins ban es).directOnly
          countryBanBypassRouting := ban || g.countryBanBypassRouting }) ∨
    ((∃ e, (applyBootstrapOverrides ban resolved io g).1 = .error e) ∧
      BootstrapFailed ban g (applyBootstrapOverrides ban resolved io g).2 ∧
      ((applyBootstrapOverrides ban resolved io g).2.hostsFile = g.hostsFile ∨
        ∃ es, resolved = .ok es ∧ (allocatePins ban es).writable ≠ [] ∧ ∃ n, io.Tears n ∧
          (applyBootstrapOverrides ban resolved io g).2.hostsFile =
            cutBytes n (withBlock g.hostsFile (allocatePins ban es).writable)) ∧
      ((applyBootstrapOverrides ban resolved io g).2.lastAppliedOverrides = g.lastAppliedOverrides ∨
        ∃ es, resolved = .ok es ∧ (applyBootstrapOverrides ban resolved io g).2.lastAppliedOverrides =
          (allocatePins ban es).writable)) := by
  cases resolved with
  | error e =>
    refine Or.inr ⟨⟨e, rfl⟩, ?_, Or.inl ?_, Or.inl ?_⟩
    · cases ban <;> exact ⟨rfl, rfl, rfl, rfl, rfl⟩
    · cases ban <;> rfl
    · cases ban <;> rfl
  | ok es =>
    have hfile : (if ban = true then enterCountryBanRouting g else g).hostsFile = g.hostsFile := by
      cases ban <;> rfl
    simp only [applyBootstrapOverrides, hfile]
    rcases writeOverrides_cases (allocatePins ban es).writable io g.hostsFile with
      ⟨hok, hne, htext⟩ | ⟨⟨e, herr⟩, htext⟩
    · refine Or.inl ⟨es, rfl, hne, ?_, ?_⟩
      · rw [hok]
      · rw [hok, htext]
        cases ban <;> rfl
    · refine Or.inr ⟨⟨e, ?_⟩, ?_, ?_, Or.inr ⟨es, rfl, ?_⟩⟩
      · rw [herr]
      · rw [herr]
        cases ban <;> exact ⟨rfl, rfl, rfl, rfl, rfl⟩
      · rw [herr]
        rcases htext with htext | ⟨hne, n, htears, htext⟩
        · exact Or.inl htext
        · exact Or.inr ⟨es, rfl, hne, n, htears, htext⟩
      · rw [herr]

/-- A call whose overrides leave something to write succeeds when the system lets it. -/
theorem applyBootstrapOverrides_ok {ban : Bool} {es : List HostOverride}
    (h : (allocatePins ban es).writable ≠ []) (g : SharedState) :
    (applyBootstrapOverrides ban (.ok es) HostsIo.ok g).1 = .ok () := by
  simp only [applyBootstrapOverrides, writeOverrides, if_neg h, HostsIo.ok]

/-- What it leaves of the hosts file when the file can be read. -/
theorem applyBootstrapOverrides_leaves {ban : Bool} {es : List HostOverride}
    (h : (allocatePins ban es).writable ≠ []) {io : HostsIo} (hread : io.readErr = none)
    (g : SharedState) : (applyBootstrapOverrides ban (.ok es) io g).2.hostsFile =
      io.leaves g.hostsFile (withBlock g.hostsFile (allocatePins ban es).writable) := by
  have hfile : (if ban = true then enterCountryBanRouting g else g).hostsFile = g.hostsFile := by
    cases ban <;> rfl
  simp only [applyBootstrapOverrides, writeOverrides, if_neg h, hread, hfile, HostsIo.leaves]
  cases io.write <;> rfl

/-! ## 2. Pins from the relay -/

/-- The pins that a relay's answers ask for. -/
def relayEntries (resolved : Map String (List Ipv4Addr)) : List HostOverride :=
  resolved.entries.flatMap (fun d => (d.2.take maxPinnedIpsPerDomain).map (fun ip => ⟨ip, d.1⟩))

/-- The merge loop: the first of each pair of domain, ignoring case, and address. -/
def mergePins : List (String × Ipv4Addr) → List HostOverride → List HostOverride
  | _, [] => []
  | seen, e :: es =>
    if (toAsciiLowercase e.domain, e.ip) ∈ seen then mergePins seen es
    else e :: mergePins ((toAsciiLowercase e.domain, e.ip) :: seen) es

/-- `active.entry(entry.ip).or_insert_with(…)` for each entry. -/
def orInsertAll (entries : List HostOverride) (active : Map Ipv4Addr String) :
    Map Ipv4Addr String :=
  entries.foldl (fun m e => if e.ip ∈ m then m else m.insert e.ip e.domain) active

/-- `apply_relay_resolved_overrides`. -/
def applyRelayResolvedOverrides (resolved : Map String (List Ipv4Addr)) (io : HostsIo)
    (g : SharedState) : Except String Unit × SharedState :=
  let newEntries := relayEntries resolved
  if newEntries = [] then (.ok (), g)
  else
    let merged := mergePins [] (g.lastAppliedOverrides ++ newEntries)
    let written := writeOverrides merged io g.hostsFile
    let g := { g with hostsFile := written.2 }
    match written.1 with
    | .error e => (.error e, g)
    | .ok () =>
      (.ok (), { g with
        lastAppliedOverrides := merged
        activeBootstrapIps := orInsertAll merged g.activeBootstrapIps })

theorem mergePins_sublist : ∀ (seen : List (String × Ipv4Addr)) (es : List HostOverride),
    (mergePins seen es).Sublist es
  | _, [] => List.Sublist.refl _
  | seen, e :: es => by
    rw [mergePins]
    split
    · exact (mergePins_sublist seen es).cons e
    · exact (mergePins_sublist _ es).cons_cons e

/-- **What a call of `apply_relay_resolved_overrides` can do.** -/
theorem applyRelayResolvedOverrides_cases (resolved : Map String (List Ipv4Addr)) (io : HostsIo)
    (g : SharedState) :
    ((applyRelayResolvedOverrides resolved io g).2 = g) ∨
    (relayEntries resolved ≠ [] ∧ ∃ n, io.Tears n ∧
      (applyRelayResolvedOverrides resolved io g).2 = { g with hostsFile := cutBytes n (withBlock
        g.hostsFile (mergePins [] (g.lastAppliedOverrides ++ relayEntries resolved))) }) ∨
    ((relayEntries resolved ≠ [] ∧ io = HostsIo.ok) ∧ (applyRelayResolvedOverrides resolved io g).1 = .ok () ∧
      ∃ merged, merged = mergePins [] (g.lastAppliedOverrides ++ relayEntries resolved) ∧
        (applyRelayResolvedOverrides resolved io g).2 =
          { g with
            hostsFile := withBlock g.hostsFile merged
            lastAppliedOverrides := merged
            activeBootstrapIps := orInsertAll merged g.activeBootstrapIps }) := by
  by_cases hne : relayEntries resolved = []
  · refine Or.inl ?_
    simp only [applyRelayResolvedOverrides, if_pos hne]
  · simp only [applyRelayResolvedOverrides, if_neg hne]
    rcases writeOverrides_cases (mergePins [] (g.lastAppliedOverrides ++ relayEntries resolved)) io
      g.hostsFile with ⟨hok, hio, htext⟩ | ⟨⟨e, herr⟩, htext | ⟨-, n, htears, htext⟩⟩
    · refine Or.inr (Or.inr ⟨⟨hne, hio.2⟩, ?_, _, rfl, ?_⟩)
      · rw [hok]
      · rw [hok, htext]
    · refine Or.inl ?_
      rw [herr, htext]
    · refine Or.inr (Or.inl ⟨hne, n, htears, ?_⟩)
      rw [herr, htext]

/-! ## 3. Removal -/

/-- `clear_bootstrap_ip_sets`. -/
def clearBootstrapIpSets (g : SharedState) : SharedState :=
  { g with countryBanBypassRouting := false, activeBootstrapIps := ∅, directOnlyBootstrapIps := ∅ }

/-- `remove_overrides`. -/
def removeOverrides (io : HostsIo) (g : SharedState) : Except String Unit × SharedState :=
  let result := removeOverridesInner io g.hostsFile
  (result.1, clearBootstrapIpSets { g with hostsFile := result.2 })

/-- Nothing of a session is left in the hosts file and in the sets that steer the classifier. -/
structure PinsCleared (g : SharedState) : Prop where
  hostsFile : NoMarker g.hostsFile
  active : g.activeBootstrapIps = ∅
  directOnly : g.directOnlyBootstrapIps = ∅
  routing : g.countryBanBypassRouting = false

/-- **A removal that returns `Ok` leaves nothing behind**, whatever had been pinned. -/
theorem pinsCleared_of_removeOverrides {io : HostsIo} {g : SharedState}
    (h : (removeOverrides io g).1 = .ok ()) : PinsCleared (removeOverrides io g).2 := by
  refine ⟨?_, rfl, rfl, rfl⟩
  rcases removeOverridesInner_cases io g.hostsFile with ⟨-, htext⟩ | ⟨⟨e, herr⟩, -⟩
  · change NoMarker (removeOverridesInner io g.hostsFile).2
    rw [htext]
    exact noMarker_removeMarkerBlock g.hostsFile
  · change (removeOverridesInner io g.hostsFile).1 = .ok () at h
    rw [herr] at h
    exact nomatch h

/-! ## 4. Learning from a relayed flow -/

/-- `learn_direct_only_bootstrap_ip`. -/
def learnDirectOnlyBootstrapIp (serverName : String) (ip : Ipv4Addr) (g : SharedState) :
    Bool × SharedState :=
  if isRouteAssistDirectDomain serverName = false then (false, g)
  else if g.countryBanBypassRouting then (false, g)
  else if g.isActiveBootstrapIp ip then (false, g)
  else (decide (ip ∉ g.directOnlyBootstrapIps),
    { g with directOnlyBootstrapIps := insert ip g.directOnlyBootstrapIps })

/-- The address is recorded: the server is reached directly, and the address is not relayed. -/
def Learns (serverName : String) (ip : Ipv4Addr) (g : SharedState) : Prop :=
  isRouteAssistDirectDomain serverName = true ∧ g.countryBanBypassRouting = false ∧
    ip ∉ g.activeBootstrapIps

/-- Learning records at most the one address, and only when it answers so. -/
theorem learnDirectOnlyBootstrapIp_cases (serverName : String) (ip : Ipv4Addr) (g : SharedState) :
    (learnDirectOnlyBootstrapIp serverName ip g = (false, g)) ∨
    (learnDirectOnlyBootstrapIp serverName ip g = (decide (ip ∉ g.directOnlyBootstrapIps),
      { g with directOnlyBootstrapIps := insert ip g.directOnlyBootstrapIps }) ∧
      Learns serverName ip g) := by
  simp only [learnDirectOnlyBootstrapIp]
  split
  · exact Or.inl rfl
  · rename_i hd
    split
    · exact Or.inl rfl
    · rename_i hc
      split
      · exact Or.inl rfl
      · rename_i ha
        exact Or.inr ⟨rfl, by simpa using hd, by simpa using hc, fun h => ha (decide_eq_true h)⟩

/-- An address that is not recorded changes nothing. -/
theorem learnDirectOnlyBootstrapIp_of_not {serverName : String} {ip : Ipv4Addr} {g : SharedState}
    (h : ¬ Learns serverName ip g) : learnDirectOnlyBootstrapIp serverName ip g = (false, g) :=
  (learnDirectOnlyBootstrapIp_cases serverName ip g).resolve_right fun hlearned => h hlearned.2

end SwiftTunnel
