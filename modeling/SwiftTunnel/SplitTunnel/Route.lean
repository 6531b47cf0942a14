/-
# `should_route_to_relay`: the decision, the URL log and SNI learning

`interceptor.rs`.  A worker asks for the tunnel decision, notes the destination in the URL log,
and, when it relays a TLS ClientHello, may record the destination as direct-only.  That record
is in a set which the classifier reads before it looks at its flow cache.

Of the state that workers share, a packet changes that set alone, and only adds to it (`OnlyLearned`);
of the worker's own, its cache grows (`RouteGrows`).  Both are transitive, so they hold over runs, in
which other workers may learn as well.

* `shouldRouteToRelay_spec`: the decision is `classify_packet`'s, and the only other effect is
  one learned address.
* `relayed_flow_kept_iff`: a relayed flow stays on the relay until its destination is recorded.
* `learning_reroutes_flow`: the flow from which it was learned leaves the relay.

The URL log is what `url_log::record` is given; the log itself is not modelled.
-/
import SwiftTunnel.RobloxProxy.Hosts
import SwiftTunnel.RobloxProxy.TlsSni
import SwiftTunnel.SplitTunnel.Decision

namespace SwiftTunnel

open Rust

/-! ## 1. Learning from a ClientHello -/

/-- `tcp_payload`. -/
def tcpPayload (data : Bytes) (ipStart transportStart : Nat) : Option Bytes := do
  let totalLen ← getBe16 data (ipStart + 2)
  let ipEnd := min (ipStart + totalLen.toNat) data.length
  let headerLen := ((← data[transportStart + 12]?) >>> 4).toNat * 4
  if headerLen < 20 then none
  else
    let payloadStart := transportStart + headerLen
    if payloadStart ≥ ipEnd then none
    else getRange data payloadStart ipEnd

/-- `maybe_learn_direct_only_destination`. -/
def maybeLearnDirectOnlyDestination (data : Bytes) (ipStart transportStart : Nat)
    (dstIp : Ipv4Addr) (g : SharedState) : Checked SharedState :=
  match tcpPayload data ipStart transportStart with
  | none => .ok g
  | some payload => do
    if (← looksLikeClientHello payload) = false then .ok g
    else match ← parseClientHelloSni payload with
      | none => .ok g
      | some serverName => .ok (learnDirectOnlyBootstrapIp serverName dstIp g).2

/-- The SNI part of `should_route_to_relay`. -/
def learnFromRelayed (data : Bytes) (g : SharedState) : Checked SharedState :=
  if 14 + 20 + 4 < data.length then do
    if (← index data (ipStart + 9)) = 6 then
      let transportStart := ipStart + ihlOf (← index data ipStart)
      if transportStart + 3 < data.length then
        let dstPort ← indexBe16 data (transportStart + 2)
        if dstPort = 443 then
          let dstIp ← Ipv4Addr.index data (ipStart + 16)
          maybeLearnDirectOnlyDestination data ipStart transportStart dstIp g
        else .ok g
      else .ok g
    else .ok g
  else .ok g

/-! ## 2. The URL log -/

/-- What `url_log::record` is given. -/
structure UrlLogEntry where
  dstIp : Ipv4Addr
  dstPort : UInt16
  proto : UInt8
  tunneled : Bool
  host : Option String
  relayAddr : Option SocketAddr

/-- The name under which a destination is logged: the user's exclusion, the asset host, or the
bootstrap host. -/
def hostForIp (g : SharedState) (ip : Ipv4Addr) : Option String :=
  ((g.excludedIps.lookup ip).or (g.assetIps.lookup ip)).or (g.activeBootstrapIps.lookup ip)

/-- `log_destination`: the entry it records, if any. -/
def logDestination (g : SharedState) (data : Bytes) (s : ProcessSnapshot) (tunneled : Bool)
    (relayAddr : Option SocketAddr) : Checked (Option UrlLogEntry) :=
  if data.length < 14 + 20 + 4 then .ok none
  else do
    if (← indexBe16 data 12) ≠ 0x0800 then .ok none
    else
      let first ← index data ipStart
      if (first >>> 4) &&& 0xF ≠ 4 then .ok none
      else
        let proto ← index data (ipStart + 9)
        match protocolOf proto with
        | none => .ok none
        | some protocol =>
          let srcIp ← Ipv4Addr.index data (ipStart + 12)
          let dstIp ← Ipv4Addr.index data (ipStart + 16)
          let transportStart := ipStart + ihlOf first
          if data.length < transportStart + 4 then .ok none
          else
            let srcPort ← indexBe16 data transportStart
            let dstPort ← indexBe16 data (transportStart + 2)
            if s.isTunnelSource srcIp srcPort protocol || isRobloxGameServerIp dstIp ||
                g.isExcludedIp dstIp || g.isAssetIp dstIp then
              .ok (some ⟨dstIp, dstPort, proto, tunneled, hostForIp g dstIp, relayAddr⟩)
            else .ok none

/-! ## 3. The route of a packet -/

/-- What `should_route_to_relay` returns, and what it leaves behind. -/
structure RouteResult where
  decision : Bool
  cache : InlineCache
  shared : SharedState
  logged : Option UrlLogEntry

/-- `should_route_to_relay`. -/
def shouldRouteToRelay (g : SharedState) (data : Bytes) (s : ProcessSnapshot) (cache : InlineCache)
    (apiTunneling udpTunneling : Bool) (relayAddr : Option SocketAddr) : Checked RouteResult := do
  let (decision, cache) ← classifyPacket g data s cache apiTunneling udpTunneling
  let logged ← logDestination g data s decision relayAddr
  if decision && apiTunneling then
    let g ← learnFromRelayed data g
    return ⟨decision, cache, g, logged⟩
  else return ⟨decision, cache, g, logged⟩

theorem logDestination_ok (g : SharedState) (data : Bytes) (s : ProcessSnapshot) (tunneled : Bool)
    (relayAddr : Option SocketAddr) : ∃ e, logDestination g data s tunneled relayAddr = .ok e := by
  have hip : ipStart = 14 := rfl
  rw [logDestination]
  by_cases hlen : data.length < 14 + 20 + 4
  · exact ⟨none, if_pos hlen⟩
  · rw [if_neg hlen, indexBe16_of_lt (by omega)]
    simp only [bind, Except.bind]
    split
    · exact ⟨none, rfl⟩
    · rw [index_of_lt (by omega)]
      simp only
      split
      · exact ⟨none, rfl⟩
      · rw [index_of_lt (by omega)]
        simp only
        split
        · exact ⟨none, rfl⟩
        · rw [Ipv4Addr.index_of_lt (by omega), Ipv4Addr.index_of_lt (by omega)]
          simp only
          split
          · exact ⟨none, rfl⟩
          · rw [indexBe16_of_lt (by omega), indexBe16_of_lt (by omega)]
            simp only
            split
            · exact ⟨_, rfl⟩
            · exact ⟨none, rfl⟩

/-- Nothing but direct-only addresses is added to the shared state. -/
structure OnlyLearned (g g' : SharedState) : Prop where
  grows : g.directOnlyBootstrapIps ⊆ g'.directOnlyBootstrapIps
  rest : g' = { g with directOnlyBootstrapIps := g'.directOnlyBootstrapIps }

theorem OnlyLearned.refl (g : SharedState) : OnlyLearned g g := ⟨Finset.Subset.refl _, rfl⟩

theorem OnlyLearned.trans {a b c : SharedState} (hab : OnlyLearned a b) (hbc : OnlyLearned b c) :
    OnlyLearned a c := by
  refine ⟨hab.grows.trans hbc.grows, ?_⟩
  rw [hbc.rest, hab.rest]

theorem onlyLearned_learn (serverName : String) (ip : Ipv4Addr) (g : SharedState) :
    OnlyLearned g (learnDirectOnlyBootstrapIp serverName ip g).2 := by
  rcases learnDirectOnlyBootstrapIp_cases serverName ip g with h | ⟨h, -⟩
  · rw [h]
    exact OnlyLearned.refl g
  · rw [h]
    exact ⟨Finset.subset_insert _ _, rfl⟩

theorem maybeLearn_ok (data : Bytes) (ipStart transportStart : Nat) (dstIp : Ipv4Addr)
    (g : SharedState) :
    ∃ g', maybeLearnDirectOnlyDestination data ipStart transportStart dstIp g = .ok g' ∧
      OnlyLearned g g' := by
  rw [maybeLearnDirectOnlyDestination]
  split
  · exact ⟨g, rfl, OnlyLearned.refl g⟩
  · rename_i payload _
    obtain ⟨b, hb⟩ := looksLikeClientHello_ok payload
    obtain ⟨r, hr⟩ := parseClientHelloSni_ok payload
    rw [hb]
    simp only [bind, Except.bind]
    split
    · exact ⟨g, rfl, OnlyLearned.refl g⟩
    · rw [hr]
      cases r with
      | none => exact ⟨g, rfl, OnlyLearned.refl g⟩
      | some name => exact ⟨_, rfl, onlyLearned_learn name dstIp g⟩

theorem learnFromRelayed_ok (data : Bytes) (g : SharedState) :
    ∃ g', learnFromRelayed data g = .ok g' ∧ OnlyLearned g g' := by
  have hip : ipStart = 14 := rfl
  rw [learnFromRelayed]
  by_cases hlen : 14 + 20 + 4 < data.length
  · rw [if_pos hlen, index_of_lt (by omega)]
    simp only [bind, Except.bind]
    split
    · rw [index_of_lt (by omega)]
      simp only
      split
      · rw [indexBe16_of_lt (by omega)]
        simp only
        split
        · rw [Ipv4Addr.index_of_lt (by omega)]
          exact maybeLearn_ok data _ _ _ g
        · exact ⟨g, rfl, OnlyLearned.refl g⟩
      · exact ⟨g, rfl, OnlyLearned.refl g⟩
    · exact ⟨g, rfl, OnlyLearned.refl g⟩
  · exact ⟨g, if_neg hlen, OnlyLearned.refl g⟩

/-- **The route is the decision of `classify_packet`.**  It returns on every frame, and adds at
most direct-only addresses to the shared state. -/
theorem shouldRouteToRelay_spec (g : SharedState) (data : Bytes) (s : ProcessSnapshot)
    (cache : InlineCache) (api udp : Bool) (relayAddr : Option SocketAddr) :
    ∃ r, shouldRouteToRelay g data s cache api udp relayAddr = .ok r ∧
      classifyPacket g data s cache api udp = .ok (r.decision, r.cache) ∧
      OnlyLearned g r.shared := by
  obtain ⟨b, c', hc, -⟩ := classifyPacket_ok g data s cache api udp
  obtain ⟨logged, hl⟩ := logDestination_ok g data s b relayAddr
  obtain ⟨g', hg', hlearn⟩ := learnFromRelayed_ok data g
  rw [shouldRouteToRelay, hc]
  simp only [bind, Except.bind, hl]
  split
  · rw [hg']
    exact ⟨_, rfl, rfl, hlearn⟩
  · exact ⟨_, rfl, rfl, OnlyLearned.refl g⟩

/-! ## 4. Runs of one worker -/

/-- The state a worker's packets read and write: its cache, and what all workers share. -/
structure RouteState where
  cache : InlineCache
  shared : SharedState

/-- What happens next: the worker gets a frame, or another worker learns an address. -/
inductive RouteInput where
  | packet (data : Bytes)
  | learnedElsewhere (serverName : String) (ip : Ipv4Addr)

section Run

variable (s : ProcessSnapshot) (api udp : Bool) (relayAddr : Option SocketAddr)

/-- One event, with the decision for a frame, or whether the address is new. -/
def RouteStep (st : RouteState) (i : RouteInput) (o : Bool) (st' : RouteState) : Prop :=
  match i with
  | .packet data =>
    ∃ r, shouldRouteToRelay st.shared data s st.cache api udp relayAddr = .ok r ∧
      o = r.decision ∧ st' = ⟨r.cache, r.shared⟩
  | .learnedElsewhere serverName ip =>
    o = (learnDirectOnlyBootstrapIp serverName ip st.shared).1 ∧
      st' = ⟨st.cache, (learnDirectOnlyBootstrapIp serverName ip st.shared).2⟩

/-- What every event respects: the cache keeps its entries, and the shared state only learns. -/
structure RouteGrows (st st' : RouteState) : Prop where
  cache : st.cache ⊆ st'.cache
  shared : OnlyLearned st.shared st'.shared

variable {s api udp relayAddr}

/-- A frame is decided by the rules of its header, and a relayed one is remembered. -/
theorem routeStep_packet {st st' : RouteState} {data : Bytes} {d : Bool} {h : PacketHeader}
    (hr : ReadsAs data h) (hstep : RouteStep s api udp relayAddr st (.packet data) d st') :
    (d = true ↔ Admissible st.shared api udp h ∧ Reason st.shared s st.cache h) ∧
      (d = true → st.cache.card < 10000 → h.key ∈ st'.cache) := by
  obtain ⟨r, hroute, rfl, rfl⟩ := hstep
  obtain ⟨r', hroute', hclass, -⟩ := shouldRouteToRelay_spec st.shared data s st.cache api udp relayAddr
  rw [hroute] at hroute'
  obtain rfl := Except.ok.inj hroute'
  rcases classifyPacket_cases st.shared data s st.cache api udp with ⟨h', hr', hu, e⟩ | ⟨hno, e⟩
  · obtain rfl := hr.unique hr'
    rw [e, Except.ok.injEq] at hclass
    have hd : r.decision = (classifyHeader st.shared s st.cache api h).1 := by rw [hclass]
    have hc : r.cache = (classifyHeader st.shared s st.cache api h).2 := by rw [hclass]
    constructor
    · rw [hd]
      exact classifyHeader_iff hu
    · intro ht hroom
      simp only [hc]
      exact mem_cache_of_tunneled (hd ▸ ht) hroom
  · rw [e, Except.ok.injEq, Prod.mk.injEq] at hclass
    rw [← hclass.1]
    constructor
    · constructor
      · intro hf
        exact nomatch hf
      · rintro ⟨ha, -⟩
        exact absurd ha.enabled (hno h hr)
    · intro hf
      exact nomatch hf

theorem classifyPacket_cache_subset {g : SharedState} {data : Bytes} {cache cache' : InlineCache}
    {d : Bool} (h : classifyPacket g data s cache api udp = .ok (d, cache')) : cache ⊆ cache' := by
  obtain ⟨b, c', e, hc⟩ := classifyPacket_ok g data s cache api udp
  rw [h, Except.ok.injEq, Prod.mk.injEq] at e
  rw [e.2]
  exact hc

theorem routeStep_grows {st st' : RouteState} {i : RouteInput} {o : Bool}
    (hstep : RouteStep s api udp relayAddr st i o st') : RouteGrows st st' := by
  cases i with
  | packet data =>
    obtain ⟨r, hroute, -, rfl⟩ := hstep
    obtain ⟨r', hroute', hclass, hlearn⟩ :=
      shouldRouteToRelay_spec st.shared data s st.cache api udp relayAddr
    rw [hroute] at hroute'
    obtain rfl := Except.ok.inj hroute'
    exact ⟨classifyPacket_cache_subset hclass, hlearn⟩
  | learnedElsewhere serverName ip =>
    obtain ⟨-, hst'⟩ := hstep
    have hlearn := onlyLearned_learn serverName ip st.shared
    generalize (learnDirectOnlyBootstrapIp serverName ip st.shared).2 = g' at hst' hlearn
    subst hst'
    exact ⟨Finset.Subset.refl st.cache, hlearn⟩

theorem routeRun_grows {st st' : RouteState} {es : List (RouteInput × Bool)}
    (hrun : Run (RouteStep s api udp relayAddr) st es st') : RouteGrows st st' := by
  refine hrun.relates ?_ ?_ ?_
  · intro a
    exact ⟨Finset.Subset.refl _, OnlyLearned.refl _⟩
  · intro a b c hab hbc
    exact ⟨hab.cache.trans hbc.cache, hab.shared.trans hbc.shared⟩
  · intro a i o b hstep
    exact routeStep_grows hstep

/-- The rules that a learned address does not touch. -/
theorem admissible_after_learning {g g' : SharedState} {h h' : PacketHeader}
    (ha : Admissible g api udp h) (hl : OnlyLearned g g') (hproto : h'.protocol = h.protocol)
    (hip : h'.dstIp = h.dstIp) (hport : h'.dstPort = h.dstPort) :
    Admissible g' api udp h' ↔ ¬ (h'.protocol = .tcp ∧ h'.dstIp ∈ g'.directOnlyBootstrapIps) := by
  constructor
  · intro ha'
    exact ha'.notDirect
  · intro hd
    have hexcl : g'.excludedIps = g.excludedIps := by rw [hl.rest]
    refine ⟨?_, ?_, hd, ?_, ?_⟩
    · rw [hproto]
      exact ha.enabled
    · rw [hexcl, hip]
      exact ha.notExcluded
    · rw [hport]
      exact ha.notDns
    · rw [hproto]
      exact ha.carried

/-- **A relayed flow stays on the relay until its destination is recorded as direct-only.**
Between a relayed packet and a later one of the same TCP flow anything can happen; the later one
is relayed exactly when its destination has not been recorded in between. -/
theorem relayed_flow_kept_iff {st₀ st₁ st₂ st₃ : RouteState} {p q : Bytes} {hp hq : PacketHeader}
    {es : List (RouteInput × Bool)} {d : Bool} (hpr : ReadsAs p hp) (hqr : ReadsAs q hq)
    (htcp : hp.protocol = .tcp) (hkey : hq.key = hp.key) (hdst : hq.dstIp = hp.dstIp)
    (hport : hq.dstPort = hp.dstPort) (hroom : st₀.cache.card < 10000)
    (hfirst : RouteStep s api udp relayAddr st₀ (.packet p) true st₁)
    (hrun : Run (RouteStep s api udp relayAddr) st₁ es st₂)
    (hlater : RouteStep s api udp relayAddr st₂ (.packet q) d st₃) :
    (d = true ↔ hq.dstIp ∉ st₂.shared.directOnlyBootstrapIps) ∧
      hq.dstIp ∉ st₀.shared.directOnlyBootstrapIps := by
  obtain ⟨hdec, hrem⟩ := routeStep_packet hpr hfirst
  obtain ⟨ha, -⟩ := hdec.mp rfl
  have hproto : hq.protocol = hp.protocol := by
    simp only [PacketHeader.key, Prod.mk.injEq] at hkey
    exact hkey.2.2
  have hgrow₁ := routeStep_grows hfirst
  have hgrow₂ := routeRun_grows hrun
  have hcached : hq.key ∈ st₂.cache := by
    rw [hkey]
    exact hgrow₂.cache (hrem rfl hroom)
  have hadm := admissible_after_learning ha (hgrow₁.shared.trans hgrow₂.shared) hproto hdst hport
  constructor
  · rw [(routeStep_packet hqr hlater).1, hadm, hproto, htcp]
    constructor
    · rintro ⟨hd, -⟩ hmem
      exact hd ⟨rfl, hmem⟩
    · intro hmem
      exact ⟨fun hd => hmem hd.2, Reason.cached hcached⟩
  · intro hmem
    rw [hdst] at hmem
    exact ha.notDirect ⟨htcp, hmem⟩

/-- The state after a frame. -/
def routeNext (s : ProcessSnapshot) (api udp : Bool) (relayAddr : Option SocketAddr)
    (st : RouteState) (data : Bytes) : RouteState :=
  match shouldRouteToRelay st.shared data s st.cache api udp relayAddr with
  | .ok r => ⟨r.cache, r.shared⟩
  | .error _ => st

theorem routeStep_next {st : RouteState} {data : Bytes} {d : Bool}
    (h : (shouldRouteToRelay st.shared data s st.cache api udp relayAddr).map (·.decision) = .ok d) :
    RouteStep s api udp relayAddr st (.packet data) d (routeNext s api udp relayAddr st data) := by
  obtain ⟨r, hr, -⟩ := shouldRouteToRelay_spec st.shared data s st.cache api udp relayAddr
  rw [hr] at h
  refine ⟨r, hr, (Except.ok.inj h).symm, ?_⟩
  rw [routeNext, hr]

end Run

/-- The snapshot in which the game owns the TCP socket `192.168.1.5:50000`. -/
def gameTcpSnapshot : ProcessSnapshot :=
  ((LockFreeProcessCache.new toAsciiLowercase ["RobloxPlayerBeta.exe"]).update toAsciiLowercase
    ((∅ : Map ConnectionKey Pid).insert ⟨⟨192, 168, 1, 5⟩, 50000, .tcp⟩ 7)
    ((∅ : Map Pid String).insert 7 "RobloxPlayerBeta.exe")).current

/-- A segment of a connection from that socket to a web server. -/
def webSegment : PacketHeader := ⟨.tcp, ⟨192, 168, 1, 5⟩, ⟨65, 9, 168, 80⟩, 50000, 443, false⟩

/-- The segment with the ClientHello for a settings host. -/
def settingsHello : Bytes :=
  frameOf webSegment (buildClientHello "clientsettings.roblox.com".toUTF8.data.toList)

def freshRoute : RouteState := ⟨∅, SharedState.fresh []⟩

/-- **Learning re-routes the flow it learned from**: the ClientHello is relayed, and the next
segment of the same connection is not. -/
theorem learning_reroutes_flow :
    ReadsAs settingsHello webSegment ∧ ReadsAs (frameOf webSegment []) webSegment ∧
      RouteStep gameTcpSnapshot true true none freshRoute (.packet settingsHello) true
        (routeNext gameTcpSnapshot true true none freshRoute settingsHello) ∧
      ∃ st, RouteStep gameTcpSnapshot true true none
        (routeNext gameTcpSnapshot true true none freshRoute settingsHello)
        (.packet (frameOf webSegment [])) false st :=
  ⟨frameOf_reads (by decide) _, frameOf_reads (by decide) _, routeStep_next (by decide +kernel),
    _, routeStep_next (by decide +kernel)⟩

/-- Two segments of a connection in which nothing is learned. -/
theorem plain_flow_kept :
    (true = true ↔ webSegment.dstIp ∉ (routeNext gameTcpSnapshot true true none freshRoute
      (frameOf webSegment [])).shared.directOnlyBootstrapIps) ∧
      webSegment.dstIp ∉ freshRoute.shared.directOnlyBootstrapIps :=
  relayed_flow_kept_iff (frameOf_reads (by decide) []) (frameOf_reads (by decide) []) rfl rfl rfl rfl
    (by decide) (routeStep_next (s := gameTcpSnapshot) (by decide +kernel)) (Run.nil _)
    (routeStep_next (d := true) (by decide +kernel))

end SwiftTunnel
