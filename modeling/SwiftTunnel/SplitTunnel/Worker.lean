/-
# `run_packet_worker`: what becomes of each frame

`interceptor.rs`.  A worker keeps a snapshot, which it takes anew every tenth item, and a flow
cache, which it clears when the new snapshot has another version.  Each outbound frame is
forwarded to the relay, sent on directly, or dropped while a lookup for its destination is
pending.

What the worker reads of other threads (the published snapshot, the flags, the auto-router's
answers) comes with each item.  A forwarded frame loses its Ethernet header and has its
checksums repaired on the way; the bytes are not part of the outcome here.

A turn is a refresh, a step of `Route`, and what the loop does with the decision (`dispose`).  The
last depends on the frame through its destination alone (`dispose_reads`), so whether a frame is
forwarded is the decision of `Decision` and one condition on the auto-router (`Hindered`).

* `workerStep_forwarded_iff`: when a frame is forwarded.
* `mem_cache_of_no_new_version`: the flow cache holds a flow until a new version comes.
* `bootstrap_flow_kept_iff`: when a later packet of a flow is forwarded, whose initial SYN was.
* `refreshed_flow_bypassed`: a flow that loses its route to a refresh.

Bytes and sockets join in `DataPath`, queues in `Pipeline`.
-/
import SwiftTunnel.SplitTunnel.Route

namespace SwiftTunnel

open Rust

/-! ## 1. One turn of the loop -/

/-- What the auto-router answers while an item is handled. -/
structure RouterView where
  /-- `is_bypassed()`. -/
  bypassed : Bool
  /-- `is_lookup_pending(dst_ip)`, after `evaluate_game_server(dst_ip)`. -/
  lookupPending : Bool

/-- One item of the worker's queue, with what the worker reads of other threads meanwhile. -/
structure WorkItem where
  data : Bytes
  isOutbound : Bool
  /-- `process_cache.get_snapshot()`. -/
  published : ProcessSnapshot
  api : Bool
  udp : Bool
  relayAddr : SocketAddr
  /-- `auto_router`, when there is one. -/
  router : Option RouterView

/-- The variables of the loop, and the state that all workers share. -/
structure WorkerState where
  snapshot : ProcessSnapshot
  snapshotVersion : UInt64
  snapshotCheckCounter : Nat
  cache : InlineCache
  shared : SharedState

/-- What becomes of an item. -/
inductive Disposition where
  /-- Inbound items are not looked at. -/
  | ignored
  /-- `send_bypass_packet`. -/
  | bypassed
  /-- `continue`: the frame goes nowhere. -/
  | dropped
  /-- `relay.forward`. -/
  | forwarded
  deriving DecidableEq, Repr

/-- What a turn does to the outside. -/
structure WorkOutcome where
  disposition : Disposition
  /-- The address given to `evaluate_game_server`. -/
  evaluated : Option Ipv4Addr
  deriving DecidableEq, Repr

namespace WorkerState

/-- The state in which a worker starts. -/
def start (snapshot : ProcessSnapshot) (shared : SharedState) : WorkerState :=
  ⟨snapshot, snapshot.version, 0, ∅, shared⟩

/-- The periodic refresh of the snapshot. -/
def refresh (st : WorkerState) (published : ProcessSnapshot) : WorkerState :=
  let counter := st.snapshotCheckCounter + 1
  if counter ≥ 10 then
    if published.version ≠ st.snapshotVersion then
      { st with
        snapshot := published
        snapshotVersion := published.version
        snapshotCheckCounter := 0
        cache := ∅ }
    else { st with snapshot := published, snapshotCheckCounter := 0 }
  else { st with snapshotCheckCounter := counter }

@[simp] theorem refresh_shared (st : WorkerState) (published : ProcessSnapshot) :
    (st.refresh published).shared = st.shared := by
  simp only [refresh]
  split
  · split
    · rfl
    · rfl
  · rfl

/-- A refresh that finds no new version keeps the cache. -/
theorem refresh_cache {st : WorkerState} {published : ProcessSnapshot}
    (h : (st.refresh published).snapshotVersion = st.snapshotVersion) :
    (st.refresh published).cache = st.cache := by
  simp only [refresh] at h ⊢
  split
  · rename_i hc
    rw [if_pos hc] at h
    split
    · rename_i hne
      rw [if_pos hne] at h
      exact absurd h hne
    · rfl
  · rfl

end WorkerState

/-- `is_roblox_game_server_ip(dst_ip)` and then `evaluate_game_server`: the address evaluated. -/
def gameServerOf (dstIp : Ipv4Addr) : Option Ipv4Addr :=
  if isRobloxGameServerIp dstIp then some dstIp else none

/-- What the loop does with a frame after the decision; `relayCtx` is whether there is a relay. -/
def dispose (relayCtx : Bool) (w : WorkItem) (shouldTunnel : Bool) : Checked WorkOutcome :=
  let autoRoutingBypass := shouldTunnel && (w.router.map (·.bypassed)).getD false
  if autoRoutingBypass then
    if 14 + 20 ≤ w.data.length then do
      let dstIp ← Ipv4Addr.index w.data (ipStart + 16)
      return ⟨.bypassed, gameServerOf dstIp⟩
    else .ok ⟨.bypassed, none⟩
  else if shouldTunnel then
    if w.data.length ≤ 14 then .ok ⟨.dropped, none⟩
    else
      let ipPacket := w.data.drop 14
      if 20 ≤ ipPacket.length then do
        let dstIp ← Ipv4Addr.index ipPacket 16
        let evaluated := if w.router.isSome then gameServerOf dstIp else none
        if evaluated.isSome && (w.router.map (·.lookupPending)).getD false then
          return ⟨.dropped, evaluated⟩
        else if relayCtx then return ⟨.forwarded, evaluated⟩
        else return ⟨.bypassed, evaluated⟩
      else if relayCtx then .ok ⟨.forwarded, none⟩
      else .ok ⟨.bypassed, none⟩
  else .ok ⟨.bypassed, none⟩

/-- One turn of the loop of `run_packet_worker`. -/
def workerStep (relayCtx : Bool) (st : WorkerState) (w : WorkItem) :
    Checked (WorkOutcome × WorkerState) :=
  let st := st.refresh w.published
  if w.isOutbound = false then .ok (⟨.ignored, none⟩, st)
  else do
    let relayAddr := if relayCtx then some w.relayAddr else none
    let r ← shouldRouteToRelay st.shared w.data st.snapshot st.cache w.api w.udp relayAddr
    let o ← dispose relayCtx w r.decision
    return (o, { st with cache := r.cache, shared := r.shared })

/-- A turn that ends, as a step. -/
def WorkerStep (relayCtx : Bool) (st : WorkerState) (w : WorkItem) (o : WorkOutcome)
    (st' : WorkerState) : Prop :=
  workerStep relayCtx st w = .ok (o, st')

/-! ## 2. When a frame is forwarded -/

/-- The auto-router keeps the frame from the relay: it bypasses the relay, or it holds frames to
this game server back until it has looked the server up. -/
def WorkItem.Hindered (w : WorkItem) (h : PacketHeader) : Prop :=
  ∃ v, w.router = some v ∧
    (v.bypassed = true ∨ (isRobloxGameServerIp h.dstIp = true ∧ v.lookupPending = true))

theorem ofBytesAt_drop (data : Bytes) (n i : Nat) :
    Ipv4Addr.ofBytesAt (data.drop n) i = Ipv4Addr.ofBytesAt data (n + i) := by
  simp only [Ipv4Addr.ofBytesAt, byteAt_drop, Nat.add_assoc]

theorem isSome_gameServerOf {ip : Ipv4Addr} :
    (gameServerOf ip).isSome = true ↔ isRobloxGameServerIp ip = true := by
  rw [gameServerOf]
  split
  · rename_i h
    simp [h]
  · rename_i h
    simp [h]

theorem dispose_ok (relayCtx : Bool) (w : WorkItem) (b : Bool) :
    ∃ o, dispose relayCtx w b = .ok o := by
  have hip : ipStart = 14 := rfl
  simp only [dispose]
  by_cases hb : (b && (w.router.map (·.bypassed)).getD false) = true
  · rw [if_pos hb]
    by_cases hlen : 14 + 20 ≤ w.data.length
    · rw [if_pos hlen, Ipv4Addr.index_of_lt (by omega)]
      exact ⟨_, rfl⟩
    · rw [if_neg hlen]
      exact ⟨_, rfl⟩
  · rw [if_neg hb]
    by_cases ht : b = true
    · rw [if_pos ht]
      by_cases h14 : w.data.length ≤ 14
      · rw [if_pos h14]
        exact ⟨_, rfl⟩
      · rw [if_neg h14]
        by_cases h20 : 20 ≤ (w.data.drop 14).length
        · rw [if_pos h20, Ipv4Addr.index_of_lt (by omega)]
          simp only [bind, Except.bind]
          repeat' split
          all_goals exact ⟨_, rfl⟩
        · rw [if_neg h20]
          cases relayCtx with
          | false => exact ⟨_, rfl⟩
          | true => exact ⟨_, rfl⟩
    · rw [if_neg ht]
      exact ⟨_, rfl⟩

/-- What becomes of a frame to an address. -/
def disposeTo (relayCtx : Bool) (router : Option RouterView) (shouldTunnel : Bool)
    (dstIp : Ipv4Addr) : WorkOutcome :=
  let evaluated := if router.isSome then gameServerOf dstIp else none
  if shouldTunnel && (router.map (·.bypassed)).getD false then ⟨.bypassed, gameServerOf dstIp⟩
  else if shouldTunnel then
    if evaluated.isSome && (router.map (·.lookupPending)).getD false then ⟨.dropped, evaluated⟩
    else if relayCtx then ⟨.forwarded, evaluated⟩
    else ⟨.bypassed, evaluated⟩
  else ⟨.bypassed, none⟩

/-- Of a frame with a header, the destination matters. -/
theorem dispose_reads {w : WorkItem} {h : PacketHeader} (hr : ReadsAs w.data h)
    (relayCtx b : Bool) : dispose relayCtx w b = .ok (disposeTo relayCtx w.router b h.dstIp) := by
  have hlong := hr.long
  have hip : ipStart = 14 := rfl
  have hdrop : (w.data.drop 14).length = w.data.length - 14 := List.length_drop
  have hdst : Ipv4Addr.index w.data (ipStart + 16) = .ok h.dstIp := by
    rw [Ipv4Addr.index_of_lt (by omega), hr.dstIp]
    rfl
  have hdst' : Ipv4Addr.index (w.data.drop 14) 16 = .ok h.dstIp := by
    rw [Ipv4Addr.index_of_lt (by omega), ofBytesAt_drop, hr.dstIp]
  simp only [dispose, disposeTo, apply_ite Except.ok]
  rw [if_pos (show 14 + 20 ≤ w.data.length by omega), if_neg (show ¬ w.data.length ≤ 14 by omega),
    if_pos (show 20 ≤ (w.data.drop 14).length by omega), hdst, hdst']
  rfl

theorem hindered_iff {w : WorkItem} {h : PacketHeader} :
    w.Hindered h ↔ (w.router.map (·.bypassed)).getD false = true ∨
      ((if w.router.isSome then gameServerOf h.dstIp else none).isSome = true ∧
        (w.router.map (·.lookupPending)).getD false = true) := by
  cases hrouter : w.router with
  | none => simp [WorkItem.Hindered, hrouter]
  | some v => simp [WorkItem.Hindered, hrouter, isSome_gameServerOf]

/-- A frame with a header is forwarded when it was decided to tunnel it, there is a relay, and the
auto-router does not hinder it. -/
theorem dispose_forwarded_iff {relayCtx : Bool} {w : WorkItem} {b : Bool} {o : WorkOutcome}
    {h : PacketHeader} (hr : ReadsAs w.data h) (ho : dispose relayCtx w b = .ok o) :
    o.disposition = .forwarded ↔ b = true ∧ relayCtx = true ∧ ¬ w.Hindered h := by
  rw [dispose_reads hr] at ho
  obtain rfl := Except.ok.inj ho
  rw [hindered_iff, disposeTo]
  generalize (w.router.map (·.bypassed)).getD false = bypassed
  generalize (w.router.map (·.lookupPending)).getD false = pending
  generalize (if w.router.isSome then gameServerOf h.dstIp else none) = evaluated
  cases b with
  | false => simp
  | true => cases bypassed with
    | true => simp
    | false =>
      simp only [Bool.and_false, Bool.false_eq_true, if_false, if_true]
      by_cases hp : evaluated.isSome = true ∧ pending = true
      · simp [hp]
      · rw [if_neg (by rwa [Bool.and_eq_true])]
        cases relayCtx with
        | false => simp
        | true => simp [hp]

/-- **What a turn does.**  It always ends; an outbound frame is routed under the refreshed
snapshot and cache, and what becomes of it follows from the decision. -/
theorem workerStep_outbound {relayCtx : Bool} {st st' : WorkerState} {w : WorkItem}
    {o : WorkOutcome} (hstep : WorkerStep relayCtx st w o st') (hout : w.isOutbound = true) :
    ∃ r, shouldRouteToRelay st.shared w.data (st.refresh w.published).snapshot
        (st.refresh w.published).cache w.api w.udp (if relayCtx then some w.relayAddr else none) =
          .ok r ∧
      dispose relayCtx w r.decision = .ok o ∧
      st' = { st.refresh w.published with cache := r.cache, shared := r.shared } := by
  obtain ⟨r, hr, -⟩ := shouldRouteToRelay_spec st.shared w.data (st.refresh w.published).snapshot
    (st.refresh w.published).cache w.api w.udp (if relayCtx then some w.relayAddr else none)
  obtain ⟨o', ho'⟩ := dispose_ok relayCtx w r.decision
  have hne : ¬ w.isOutbound = false := by simp [hout]
  simp only [WorkerStep, workerStep, if_neg hne, WorkerState.refresh_shared, hr, bind, Except.bind,
    ho', pure, Except.pure, Except.ok.injEq, Prod.mk.injEq] at hstep
  obtain ⟨rfl, rfl⟩ := hstep
  exact ⟨r, hr, ho', rfl⟩

/-- Every turn ends. -/
theorem workerStep_ok (relayCtx : Bool) (st : WorkerState) (w : WorkItem) :
    ∃ o st', WorkerStep relayCtx st w o st' := by
  simp only [WorkerStep, workerStep]
  by_cases hout : w.isOutbound = false
  · exact ⟨_, _, if_pos hout⟩
  · obtain ⟨r, hr, -⟩ := shouldRouteToRelay_spec (st.refresh w.published).shared w.data
      (st.refresh w.published).snapshot (st.refresh w.published).cache w.api w.udp
      (if relayCtx then some w.relayAddr else none)
    obtain ⟨o, ho⟩ := dispose_ok relayCtx w r.decision
    rw [if_neg hout, hr, ok_bind, ho]
    exact ⟨_, _, rfl⟩

theorem workerStep_inbound {relayCtx : Bool} {st st' : WorkerState} {w : WorkItem}
    {o : WorkOutcome} (hstep : WorkerStep relayCtx st w o st') (hin : w.isOutbound = false) :
    o = ⟨.ignored, none⟩ ∧ st' = st.refresh w.published := by
  simp only [WorkerStep, workerStep, if_pos hin, Except.ok.injEq, Prod.mk.injEq] at hstep
  exact ⟨hstep.1.symm, hstep.2.symm⟩

/-- The route part of a turn is a step of `RouteStep`. -/
theorem workerStep_route {relayCtx : Bool} {st st' : WorkerState} {w : WorkItem} {o : WorkOutcome}
    (hstep : WorkerStep relayCtx st w o st') (hout : w.isOutbound = true) :
    ∃ b, RouteStep (st.refresh w.published).snapshot w.api w.udp
        (if relayCtx then some w.relayAddr else none)
        ⟨(st.refresh w.published).cache, st.shared⟩ (.packet w.data) b ⟨st'.cache, st'.shared⟩ ∧
      dispose relayCtx w b = .ok o := by
  obtain ⟨r, hr, ho, rfl⟩ := workerStep_outbound hstep hout
  exact ⟨r.decision, ⟨r, hr, rfl, rfl⟩, ho⟩

/-- **When a frame is forwarded**: by the rules of its header under the refreshed snapshot and
cache, where the auto-router does not hinder it. -/
theorem workerStep_forwarded_iff {relayCtx : Bool} {st st' : WorkerState} {w : WorkItem}
    {o : WorkOutcome} {h : PacketHeader} (hstep : WorkerStep relayCtx st w o st')
    (hout : w.isOutbound = true) (hr : ReadsAs w.data h) :
    o.disposition = .forwarded ↔ (relayCtx = true ∧ ¬ w.Hindered h) ∧
      Admissible st.shared w.api w.udp h ∧
      Reason st.shared (st.refresh w.published).snapshot (st.refresh w.published).cache h := by
  obtain ⟨b, hroute, ho⟩ := workerStep_route hstep hout
  rw [dispose_forwarded_iff hr ho, (routeStep_packet hr hroute).1]
  constructor
  · rintro ⟨hd, hrel⟩
    exact ⟨hrel, hd⟩
  · rintro ⟨hrel, hd⟩
    exact ⟨hd, hrel⟩

/-! ## 3. The flow cache over a run -/

section Flow

variable {relayCtx : Bool}

/-- A turn that finds no new version keeps what is cached. -/
theorem workerStep_cache_subset {st st' : WorkerState} {w : WorkItem} {o : WorkOutcome}
    (hstep : WorkerStep relayCtx st w o st')
    (hver : (st.refresh w.published).snapshotVersion = st.snapshotVersion) :
    st.cache ⊆ st'.cache := by
  rw [← WorkerState.refresh_cache hver]
  cases hout : w.isOutbound with
  | false =>
    rw [(workerStep_inbound hstep hout).2]
  | true =>
    obtain ⟨b, hroute, -⟩ := workerStep_route hstep hout
    exact (routeStep_grows hroute).cache

/-- **The cache holds a flow until a new version comes**: a source that was forwarded when there
was room is found as long as no refresh has brought another version. -/
theorem mem_cache_of_no_new_version {st₀ st₁ st₂ : WorkerState} {w : WorkItem} {o : WorkOutcome}
    {h : PacketHeader} {es : List (WorkItem × WorkOutcome)} (hstep : WorkerStep relayCtx st₀ w o st₁)
    (hout : w.isOutbound = true) (hr : ReadsAs w.data h) (hfwd : o.disposition = .forwarded)
    (hroom : (st₀.refresh w.published).cache.card < 10000)
    (hrun : Run (fun st w o st' => WorkerStep relayCtx st w o st' ∧
      (st.refresh w.published).snapshotVersion = st.snapshotVersion) st₁ es st₂) :
    h.key ∈ st₂.cache := by
  obtain ⟨b, hroute, ho⟩ := workerStep_route hstep hout
  have hb : b = true := ((dispose_forwarded_iff hr ho).mp hfwd).1
  refine hrun.preserves (P := fun st => h.key ∈ st.cache) ?_ ((routeStep_packet hr hroute).2 hb hroom)
  intro s i o s' hs hmem
  exact workerStep_cache_subset hs.1 hs.2 hmem

/-! ## 4. A flow whose initial SYN was forwarded -/

/-- Two packets of one flow. -/
structure SameFlow (h h' : PacketHeader) : Prop where
  key : h.key = h'.key
  dstIp : h.dstIp = h'.dstIp
  dstPort : h.dstPort = h'.dstPort

/-- A turn with Route Assist on that leaves the sets alone. -/
structure QuietStep (relayCtx : Bool) (st : WorkerState) (w : WorkItem) (o : WorkOutcome)
    (st' : WorkerState) : Prop where
  step : WorkerStep relayCtx st w o st'
  api : w.api = true
  shared : st'.shared = st.shared

theorem quietRun_shared {st st' : WorkerState} {es : List (WorkItem × WorkOutcome)}
    (hrun : Run (QuietStep relayCtx) st es st') : st'.shared = st.shared := by
  refine hrun.relates (R := fun a b => b.shared = a.shared) ?_ ?_ ?_
  · intro a
    rfl
  · intro a b c hab hbc
    exact hbc.trans hab
  · intro a i o b hstep
    exact hstep.shared

/-- **When a bootstrap flow keeps its route.**  After the initial SYN of a flow has been forwarded,
with any turns in between that leave the sets alone, a later packet of the flow is forwarded
exactly when the auto-router does not hinder it and the worker still knows the flow: by its
cache, by the owner of the socket, by the destination, or because it is an initial SYN again. -/
theorem bootstrap_flow_kept_iff {st₀ st₁ st₂ st₃ : WorkerState} {w₀ w : WorkItem}
    {o₀ o : WorkOutcome} {h₀ h : PacketHeader} {es : List (WorkItem × WorkOutcome)}
    (hout₀ : w₀.isOutbound = true) (hr₀ : ReadsAs w₀.data h₀)
    (hsyn : BootstrapSyn st₀.shared (st₀.refresh w₀.published).snapshot h₀)
    (hstep₀ : QuietStep relayCtx st₀ w₀ o₀ st₁) (hfwd : o₀.disposition = .forwarded)
    (hrun : Run (QuietStep relayCtx) st₁ es st₂)
    (hout : w.isOutbound = true) (hr : ReadsAs w.data h) (hflow : SameFlow h h₀)
    (hstep : QuietStep relayCtx st₂ w o st₃) :
    o.disposition = .forwarded ↔ ¬ w.Hindered h ∧
      (h.key ∈ (st₂.refresh w.published).cache ∨ Owned (st₂.refresh w.published).snapshot h ∨
        ToGameServer h ∨
        (h.isTcpInitialSyn = true ∧ (st₂.refresh w.published).snapshot.tunnelApps ≠ ∅)) := by
  obtain ⟨⟨hrelay, -⟩, hadm₀, -⟩ := (workerStep_forwarded_iff hstep₀.step hout₀ hr₀).mp hfwd
  have hshared : st₂.shared = st₀.shared := (quietRun_shared hrun).trans hstep₀.shared
  have htcp : h.protocol = .tcp := by
    have hkey := hflow.key
    simp only [PacketHeader.key, Prod.mk.injEq] at hkey
    exact hkey.2.2.trans hsyn.tcp
  have hadm : Admissible st₂.shared w.api w.udp h := by
    refine ⟨?_, ?_, ?_, ?_, Or.inr hstep.api⟩
    · intro hudp
      rw [htcp] at hudp
      cases hudp
    · rw [hshared, hflow.dstIp]
      exact hadm₀.notExcluded
    · rw [hshared, hflow.dstIp]
      rintro ⟨-, hd⟩
      exact hadm₀.notDirect ⟨hsyn.tcp, hd⟩
    · rw [hflow.dstPort]
      exact hadm₀.notDns
  rw [workerStep_forwarded_iff hstep.step hout hr]
  constructor
  · rintro ⟨⟨-, hh⟩, -, hre⟩
    refine ⟨hh, ?_⟩
    cases hre with
    | owned ho => exact Or.inr (Or.inl ho)
    | cached hc => exact Or.inl hc
    | tunnelPort hp =>
      have hudp := hp.1
      rw [htcp] at hudp
      cases hudp
    | gameServer hg => exact Or.inr (Or.inr (Or.inl hg))
    | bootstrapSyn hb => exact Or.inr (Or.inr (Or.inr ⟨hb.syn, hb.app⟩))
  · rintro ⟨hh, hknown⟩
    refine ⟨⟨hrelay, hh⟩, hadm, ?_⟩
    rcases hknown with hc | ho | hg | ⟨hs, ha⟩
    · exact Reason.cached hc
    · exact Reason.owned ho
    · exact Reason.gameServer hg
    · refine Reason.bootstrapSyn ⟨htcp, hs, ?_, ?_, ha⟩
      · rw [hflow.dstPort]
        exact hsyn.port
      · rw [hshared, hflow.dstIp]
        exact hsyn.active

end Flow

/-! ## 5. A flow that loses its route -/

/-- A run of the worker's loop over a list of items. -/
def workerRun (relayCtx : Bool) : WorkerState → List WorkItem → Checked (List WorkOutcome × WorkerState)
  | st, [] => .ok ([], st)
  | st, w :: ws => do
    let (o, st) ← workerStep relayCtx st w
    let (os, st) ← workerRun relayCtx st ws
    return (o :: os, st)

/-- A cache refresher that has found no sockets yet. -/
def processCacheAtStart : LockFreeProcessCache :=
  LockFreeProcessCache.new toAsciiLowercase ["RobloxPlayerBeta.exe"]

/-- The sets after DNS repair has pinned one relayed host. -/
def sharedWithPin : SharedState :=
  { SharedState.fresh [] with
    activeBootstrapIps := (∅ : Map Ipv4Addr String).insert ⟨65, 9, 168, 80⟩ "games.roblox.com" }

/-- An item with Route Assist on and no auto-router. -/
def plainItem (data : Bytes) (isOutbound : Bool) (published : ProcessSnapshot) : WorkItem :=
  ⟨data, isOutbound, published, true, true, ⟨.v4 ⟨203, 0, 114, 9⟩, 51821⟩, none⟩

/-- A segment of a connection to the pinned address. -/
def pinnedSegment (syn : Bool) : PacketHeader :=
  ⟨.tcp, ⟨192, 168, 1, 5⟩, ⟨65, 9, 168, 80⟩, 50000, 443, syn⟩

/-- Eight inbound items, the SYN, and a later segment with which a new snapshot arrives. -/
def refreshedFlow : List WorkItem :=
  List.replicate 8 (plainItem [] false processCacheAtStart.current) ++
    [plainItem (frameOf (pinnedSegment true) []) true processCacheAtStart.current,
      plainItem (frameOf (pinnedSegment false) []) true
        (processCacheAtStart.update toAsciiLowercase ∅ ∅).current]

/-- **A bootstrap flow loses its route to a snapshot refresh.**  The SYN is forwarded, the sets
stay as they are, and the next segment is bypassed, because a new snapshot has emptied the
cache. -/
theorem refreshed_flow_bypassed :
    ReadsAs (frameOf (pinnedSegment true) []) (pinnedSegment true) ∧
      ReadsAs (frameOf (pinnedSegment false) []) (pinnedSegment false) ∧
      SameFlow (pinnedSegment false) (pinnedSegment true) ∧
      BootstrapSyn sharedWithPin processCacheAtStart.current (pinnedSegment true) ∧
      (workerRun true (WorkerState.start processCacheAtStart.current sharedWithPin)
        refreshedFlow).map (fun r => (r.1.map (·.disposition), r.2.shared.directOnlyBootstrapIps)) =
          .ok (List.replicate 8 .ignored ++ [.forwarded, .bypassed], ∅) := by
  refine ⟨frameOf_reads (by decide) [], frameOf_reads (by decide) [], ⟨rfl, rfl, rfl⟩, ?_,
    by decide +kernel⟩
  exact ⟨rfl, rfl, Or.inr rfl, by decide, by decide⟩

/-- The state after an item. -/
def workerNext (relayCtx : Bool) (st : WorkerState) (w : WorkItem) : WorkerState :=
  match workerStep relayCtx st w with
  | .ok (_, st') => st'
  | .error _ => st

/-- A turn as a quiet step, from its outcome and what it leaves in the direct-only set. -/
theorem quietStep_next {relayCtx : Bool} {st : WorkerState} {w : WorkItem} {o : WorkOutcome}
    (ho : (workerStep relayCtx st w).map (·.1) = .ok o) (hout : w.isOutbound = true)
    (hapi : w.api = true)
    (hquiet : (workerNext relayCtx st w).shared.directOnlyBootstrapIps =
      st.shared.directOnlyBootstrapIps) :
    QuietStep relayCtx st w o (workerNext relayCtx st w) := by
  have hstep : WorkerStep relayCtx st w o (workerNext relayCtx st w) := by
    cases hw : workerStep relayCtx st w with
    | error e =>
      rw [hw] at ho
      exact nomatch ho
    | ok r =>
      rw [hw] at ho
      obtain rfl := Except.ok.inj ho
      rw [WorkerStep, workerNext, hw]
  refine ⟨hstep, hapi, ?_⟩
  obtain ⟨b, hroute, -⟩ := workerStep_route hstep hout
  have hrest := (routeStep_grows hroute).shared.rest
  simp only at hrest
  rw [hrest, hquiet]

/-- The segments as outbound items, under the first snapshot. -/
def pinnedItem (syn : Bool) : WorkItem :=
  plainItem (frameOf (pinnedSegment syn) []) true processCacheAtStart.current

def workerAtStart : WorkerState := WorkerState.start processCacheAtStart.current sharedWithPin

/-- A SYN and a later segment under one snapshot. -/
theorem plain_bootstrap_flow_kept :
    (⟨.forwarded, none⟩ : WorkOutcome).disposition = .forwarded ↔
      ¬ (pinnedItem false).Hindered (pinnedSegment false) ∧
      ((pinnedSegment false).key ∈ ((workerNext true workerAtStart (pinnedItem true)).refresh
          (pinnedItem false).published).cache ∨
        Owned ((workerNext true workerAtStart (pinnedItem true)).refresh
          (pinnedItem false).published).snapshot (pinnedSegment false) ∨
        ToGameServer (pinnedSegment false) ∨
        ((pinnedSegment false).isTcpInitialSyn = true ∧
          ((workerNext true workerAtStart (pinnedItem true)).refresh
            (pinnedItem false).published).snapshot.tunnelApps ≠ ∅)) := by
  have hsyn : BootstrapSyn workerAtStart.shared
      (workerAtStart.refresh (pinnedItem true).published).snapshot (pinnedSegment true) :=
    ⟨rfl, rfl, Or.inr rfl, by decide, by decide⟩
  have hstep₀ : QuietStep true workerAtStart (pinnedItem true) ⟨.forwarded, none⟩
      (workerNext true workerAtStart (pinnedItem true)) :=
    quietStep_next (by decide +kernel) rfl rfl (by decide +kernel)
  have hstep : QuietStep true (workerNext true workerAtStart (pinnedItem true)) (pinnedItem false)
      ⟨.forwarded, none⟩
      (workerNext true (workerNext true workerAtStart (pinnedItem true)) (pinnedItem false)) :=
    quietStep_next (by decide +kernel) rfl rfl (by decide +kernel)
  have hr₀ : ReadsAs (pinnedItem true).data (pinnedSegment true) := frameOf_reads (by decide) []
  have hr : ReadsAs (pinnedItem false).data (pinnedSegment false) := frameOf_reads (by decide) []
  exact bootstrap_flow_kept_iff rfl hr₀ hsyn hstep₀ rfl (Run.nil _) rfl hr ⟨rfl, rfl, rfl⟩ hstep

end SwiftTunnel
