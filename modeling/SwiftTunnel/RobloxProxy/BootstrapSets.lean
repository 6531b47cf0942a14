/-
# The relayed and the direct addresses stay apart

Five operations write the two sets that steer the classifier, and several of them write only one
when they fail.  What keeps an address out of both is the country-ban flag: a session of full
bypass has raised it and has emptied the direct set, and nothing is learned while it is up.  The
flag outlives a session that is not removed, and then the direct set may be filled beside it, by
the next Route Assist session; but that session makes no relay pins.

`SetsInv` is that argument as an invariant: the sets are apart, and in a session of full bypass the
flag is up and nothing is direct.  Which session runs is kept beside the statics (`SessionState`),
since the statics alone do not tell.

* `setsInv_step`: every call keeps it, with DNS repair, relay answers and writes that may all fail.
* `bootstrap_sets_apart`: in every sequence of sessions no address is in both sets, and learning
  neither removes nor shadows a relayed one.

That relay pins are made in a session of full bypass only is how `connect_ex` calls; a program that
calls the operations in another order is not covered.
-/
import SwiftTunnel.Lib.Run
import SwiftTunnel.RobloxProxy.Hosts

namespace SwiftTunnel

/-! ## 1. Sessions -/

/-- A call that writes the sets.  What DNS repair resolves, what the relay answers and whether
the hosts file can be written are part of the call. -/
inductive SetsOp where
  | applyBootstrap (countryBanBypass : Bool) (resolved : Except String (List HostOverride))
      (io : HostsIo)
  | applyRelayResolved (resolved : Map String (List Ipv4Addr)) (io : HostsIo)
  | learn (serverName : String) (ip : Ipv4Addr)
  | remove (io : HostsIo)

/-- The statics, and whether the session that runs was opened with full bypass. -/
structure SessionState where
  shared : SharedState
  fullBypass : Bool

/-- What the call does to the statics. -/
def SetsOp.apply (g : SharedState) : SetsOp → SharedState
  | .applyBootstrap ban resolved io => (applyBootstrapOverrides ban resolved io g).2
  | .applyRelayResolved resolved io => (applyRelayResolvedOverrides resolved io g).2
  | .learn serverName ip => (learnDirectOnlyBootstrapIp serverName ip g).2
  | .remove io => (removeOverrides io g).2

/-- Which session runs after the call: `apply_bootstrap_overrides` opens one, whether or not it
succeeds. -/
def SetsOp.bypassAfter (before : Bool) : SetsOp → Bool
  | .applyBootstrap ban _ _ => ban
  | .applyRelayResolved _ _ => before
  | .learn _ _ => before
  | .remove _ => false

/-- One call.  `connect_ex` asks the relay for pins in a session of full bypass only. -/
structure SetsStep (s : SessionState) (op : SetsOp) (_ : Unit) (s' : SessionState) : Prop where
  shared : s'.shared = op.apply s.shared
  fullBypass : s'.fullBypass = op.bypassAfter s.fullBypass
  relay : ∀ resolved io, op = .applyRelayResolved resolved io → s.fullBypass = true

/-- A new process, before its first session. -/
def SessionState.start (hostsFile : Rust.Text) : SessionState := ⟨SharedState.fresh hostsFile, false⟩

/-! ## 2. The invariant -/

/-- No address is in both sets. -/
def SetsApart (g : SharedState) : Prop :=
  ∀ ip, ip ∈ g.activeBootstrapIps → ip ∉ g.directOnlyBootstrapIps

/-- A session of full bypass has the flag up and nothing direct. -/
structure SetsInv (s : SessionState) : Prop where
  apart : SetsApart s.shared
  routing : s.fullBypass = true → s.shared.countryBanBypassRouting = true
  direct : s.fullBypass = true → s.shared.directOnlyBootstrapIps = ∅

theorem setsInv_start (hostsFile : Rust.Text) : SetsInv (SessionState.start hostsFile) where
  apart ip _ := Finset.notMem_empty ip
  routing h := nomatch h
  direct h := nomatch h

theorem setsApart_of_empty {g : SharedState} (h : g.directOnlyBootstrapIps = ∅) : SetsApart g := by
  intro ip _
  rw [h]
  exact Finset.notMem_empty ip

/-- Both splits keep the two kinds of address apart. -/
theorem allocatePins_apart {ban : Bool} {es : List HostOverride} {ip : Ipv4Addr}
    (h : ip ∈ (allocatePins ban es).active) : ip ∉ (allocatePins ban es).directOnly := by
  cases ban with
  | true => exact Finset.notMem_empty ip
  | false =>
    intro hd
    exact notMem_active_of_directOnly hd h

theorem setsInv_applyBootstrap {s : SessionState} (h : SetsInv s) (ban : Bool)
    (resolved : Except String (List HostOverride)) (io : HostsIo) :
    SetsInv ⟨(applyBootstrapOverrides ban resolved io s.shared).2, ban⟩ := by
  rcases applyBootstrapOverrides_cases ban resolved io s.shared with
    ⟨es, -, -, -, heq⟩ | ⟨-, hfail, -⟩
  · rw [heq]
    refine ⟨fun ip hip => allocatePins_apart hip, ?_, ?_⟩
    · rintro rfl
      rfl
    · rintro rfl
      rfl
  · have hrouting := hfail.routing
    have hdirect := hfail.directOnly
    refine ⟨?_, ?_, ?_⟩
    · cases ban with
      | true => exact setsApart_of_empty hdirect
      | false =>
        intro ip hip
        rw [hfail.active] at hip
        rw [hdirect]
        exact h.apart ip hip
    · rintro rfl
      exact hrouting
    · rintro rfl
      exact hdirect

/-- The relay's pins come on top of what is relayed; nothing is direct to be shadowed. -/
theorem setsInv_applyRelayResolved {s : SessionState} (h : SetsInv s) (hfull : s.fullBypass = true)
    (resolved : Map String (List Ipv4Addr)) (io : HostsIo) :
    SetsInv ⟨(applyRelayResolvedOverrides resolved io s.shared).2, s.fullBypass⟩ := by
  have hdirect := h.direct hfull
  rcases applyRelayResolvedOverrides_cases resolved io s.shared with
    heq | ⟨-, n, -, heq⟩ | ⟨-, -, merged, -, heq⟩
  · rw [heq]
    exact h
  · rw [heq]
    exact ⟨h.apart, h.routing, h.direct⟩
  · rw [heq]
    exact ⟨setsApart_of_empty hdirect, h.routing, h.direct⟩

/-- Learning adds an address that is not relayed. -/
theorem setsApart_learn {g : SharedState} (h : SetsApart g) (serverName : String) (ip : Ipv4Addr) :
    SetsApart (learnDirectOnlyBootstrapIp serverName ip g).2 := by
  rcases learnDirectOnlyBootstrapIp_cases serverName ip g with heq | ⟨heq, -, -, hip⟩
  · rw [heq]
    exact h
  · rw [heq]
    intro a ha
    rw [Finset.mem_insert, not_or]
    refine ⟨?_, h a ha⟩
    rintro rfl
    exact hip ha

/-- Nothing is learned while the flag is up. -/
theorem setsInv_learn {s : SessionState} (h : SetsInv s) (serverName : String) (ip : Ipv4Addr) :
    SetsInv ⟨(learnDirectOnlyBootstrapIp serverName ip s.shared).2, s.fullBypass⟩ := by
  have hapart := setsApart_learn h.apart serverName ip
  rcases learnDirectOnlyBootstrapIp_cases serverName ip s.shared with heq | ⟨heq, -, hflag, -⟩
  · rw [heq]
    exact h
  · rw [heq] at hapart ⊢
    refine ⟨hapart, h.routing, ?_⟩
    intro hfull
    rw [h.routing hfull] at hflag
    exact nomatch hflag

/-- Learning leaves the relayed addresses as they are. -/
theorem learnDirectOnlyBootstrapIp_active (serverName : String) (ip : Ipv4Addr) (g : SharedState) :
    (learnDirectOnlyBootstrapIp serverName ip g).2.activeBootstrapIps = g.activeBootstrapIps := by
  rcases learnDirectOnlyBootstrapIp_cases serverName ip g with heq | ⟨heq, -⟩
  · rw [heq]
  · rw [heq]

theorem setsInv_remove (s : SessionState) (io : HostsIo) :
    SetsInv ⟨(removeOverrides io s.shared).2, false⟩ where
  apart := setsApart_of_empty rfl
  routing h := nomatch h
  direct h := nomatch h

/-- **Every call keeps the invariant.** -/
theorem setsInv_step {s s' : SessionState} {op : SetsOp} {u : Unit} (hstep : SetsStep s op u s')
    (h : SetsInv s) : SetsInv s' := by
  obtain ⟨g', full'⟩ := s'
  obtain ⟨hg, hfull, hrelay⟩ := hstep
  simp only at hg hfull
  subst hg hfull
  cases op with
  | applyBootstrap ban resolved io => exact setsInv_applyBootstrap h ban resolved io
  | applyRelayResolved resolved io =>
    exact setsInv_applyRelayResolved h (hrelay resolved io rfl) resolved io
  | learn serverName ip => exact setsInv_learn h serverName ip
  | remove io => exact setsInv_remove s io

/-! ## 3. Every sequence of sessions -/

/-- **The two sets stay apart**: after any sequence of sessions no address is in both, and
whatever is learned next leaves the relayed addresses as they are and makes none of them
direct. -/
theorem bootstrap_sets_apart {hostsFile : Rust.Text} {es : List (SetsOp × Unit)} {s : SessionState}
    (hrun : Run SetsStep (SessionState.start hostsFile) es s) :
    SetsApart s.shared ∧ ∀ serverName ip,
      (learnDirectOnlyBootstrapIp serverName ip s.shared).2.activeBootstrapIps =
          s.shared.activeBootstrapIps ∧
        ∀ a ∈ s.shared.activeBootstrapIps,
          a ∉ (learnDirectOnlyBootstrapIp serverName ip s.shared).2.directOnlyBootstrapIps := by
  have hinv : SetsInv s :=
    hrun.preserves (fun _ _ _ _ hstep h => setsInv_step hstep h) (setsInv_start hostsFile)
  refine ⟨hinv.apart, ?_⟩
  intro serverName ip
  have hactive := learnDirectOnlyBootstrapIp_active serverName ip s.shared
  refine ⟨hactive, ?_⟩
  intro a ha
  rw [← hactive] at ha
  exact setsApart_learn hinv.apart serverName ip a ha

/-- A full-bypass session whose DNS repair fails and whose relay answers, left without removal,
and a Route Assist session after it. -/
def banThenAssist : List SetsOp :=
  [.applyBootstrap true (.error "blocked") HostsIo.ok,
    .applyRelayResolved ((∅ : Map String (List Ipv4Addr)).insert "gamejoin.roblox.com"
      [⟨128, 116, 1, 1⟩]) HostsIo.ok,
    .applyBootstrap false (.ok [⟨⟨128, 116, 1, 1⟩, "gamejoin.roblox.com"⟩,
      ⟨⟨128, 116, 1, 9⟩, "auth.roblox.com"⟩]) HostsIo.ok,
    .learn "clientsettings.roblox.com" ⟨128, 116, 1, 1⟩]

/-- The state after a call. -/
def SessionState.next (s : SessionState) (op : SetsOp) : SessionState :=
  ⟨op.apply s.shared, op.bypassAfter s.fullBypass⟩

theorem setsStep_next (s : SessionState) (op : SetsOp)
    (hrelay : ∀ resolved io, op = .applyRelayResolved resolved io → s.fullBypass = true) :
    SetsStep s op () (s.next op) := ⟨rfl, rfl, hrelay⟩

/-- The runs that `bootstrap_sets_apart` is about include sessions that leave the flag up and
fill both sets. -/
theorem banThenAssist_apart :
    (banThenAssist.foldl SessionState.next (SessionState.start [])).shared.countryBanBypassRouting =
        true ∧
      SetsApart (banThenAssist.foldl SessionState.next (SessionState.start [])).shared := by
  have hrun : Run SetsStep (SessionState.start []) (banThenAssist.map fun op => (op, ()))
      (banThenAssist.foldl SessionState.next (SessionState.start [])) := by
    refine Run.cons (setsStep_next _ _ ?_) (Run.cons (setsStep_next _ _ ?_)
      (Run.cons (setsStep_next _ _ ?_) (Run.cons (setsStep_next _ _ ?_) (Run.nil _))))
    · intro resolved io h
      exact nomatch h
    · intro resolved io h
      rfl
    · intro resolved io h
      exact nomatch h
    · intro resolved io h
      exact nomatch h
  exact ⟨by decide +kernel, (bootstrap_sets_apart hrun).1⟩

end SwiftTunnel
