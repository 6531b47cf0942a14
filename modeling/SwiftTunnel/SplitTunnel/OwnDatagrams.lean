/-
# The SDK's own datagrams

`interceptor.rs` and `relay.rs`.  What `forward_outbound` sends goes through the adapter that the
workers read, and comes to `should_route_to_relay` like any other frame.  The relay's address
reaches that function for the URL log only: no rule looks at it, or at whether the socket is the
SDK's own.  So what keeps a relayed packet from being wrapped again is that no positive rule holds
of the relay's socket and address.

The rules are those of `Decision`.  Of the positive ones a UDP frame can meet four: its source is
cached, its socket is a tunnel app's, it comes from a port of one, or it goes to a game server
(`UdpReason`); the ones about bootstrap addresses are for TCP.

* `own_datagram_relayed_iff`: when a frame to the relay is routed to the relay.
* `own_datagram_wrapped_again`: one that is, as its sender is a tunnel app.
* `own_datagram_sent`: with the game as the only tunnel app it goes out as it is.

Nothing is said of what a relay does with a packet to itself.
-/
import SwiftTunnel.SplitTunnel.Route
import SwiftTunnel.Vpn.Relay

namespace SwiftTunnel

open Rust

/-! ## 1. Frames to the relay -/

/-- A frame to the relay's current address, so far as the workers can read it. -/
def ToRelay (r : Relay.UdpRelay) (data : Bytes) : Prop :=
  ∀ h, ReadsAs data h → h.protocol = .udp ∧ r.relayAddr = ⟨.v4 h.dstIp, h.dstPort⟩

/-- The positive rules that a UDP frame can meet. -/
def UdpReason (s : ProcessSnapshot) (cache : InlineCache) (h : PacketHeader) : Prop :=
  Owned s h ∨ h.srcPort ∈ s.tunnelUdpPorts ∨ h.key ∈ cache ∨
    (isRobloxGameServerIp h.dstIp = true ∧ 49152 ≤ h.dstPort)

theorem reason_udp_iff {g : SharedState} {s : ProcessSnapshot} {cache : InlineCache}
    {h : PacketHeader} (hudp : h.protocol = .udp) : Reason g s cache h ↔ UdpReason s cache h := by
  constructor
  · intro hr
    cases hr with
    | owned ho => exact Or.inl ho
    | tunnelPort hp => exact Or.inr (Or.inl hp.2)
    | cached hc => exact Or.inr (Or.inr (Or.inl hc))
    | gameServer hg => exact Or.inr (Or.inr (Or.inr ⟨hg.1, hg.2 hudp⟩))
    | bootstrapSyn hb =>
      have htcp := hb.tcp
      rw [hudp] at htcp
      cases htcp
  · rintro (ho | hp | hc | ⟨hip, hport⟩)
    · exact Reason.owned ho
    · exact Reason.tunnelPort ⟨hudp, hp⟩
    · exact Reason.cached hc
    · exact Reason.gameServer ⟨hip, fun _ => hport⟩

theorem admissible_udp_iff {g : SharedState} {api udp : Bool} {h : PacketHeader}
    (hudp : h.protocol = .udp) :
    Admissible g api udp h ↔ udp = true ∧ h.dstIp ∉ g.excludedIps ∧ h.dstPort ≠ 53 := by
  constructor
  · intro ha
    exact ⟨ha.enabled hudp, ha.notExcluded, ha.notDns⟩
  · rintro ⟨hon, hexcl, hdns⟩
    refine ⟨fun _ => hon, hexcl, ?_, hdns, Or.inl hudp⟩
    rintro ⟨htcp, -⟩
    rw [hudp] at htcp
    cases htcp

/-- **When the SDK's own datagram is wrapped again.**  A frame to the relay is routed to the relay
exactly when UDP is tunnelled, the relay's address is not excluded, its port is not that of DNS,
and the frame's source is a tunnel app's, a tunnel port or cached, or the relay stands in
`ROBLOX_RANGES` with a game port. -/
theorem own_datagram_relayed_iff (r : Relay.UdpRelay) {data : Bytes} (hto : ToRelay r data)
    (g : SharedState) (s : ProcessSnapshot) (cache : InlineCache) (api udp : Bool) :
    ∃ out, shouldRouteToRelay g data s cache api udp (some r.relayAddr) = .ok out ∧
      (out.decision = true ↔ ∃ h, ReadsAs data h ∧
        (udp = true ∧ h.dstIp ∉ g.excludedIps ∧ h.dstPort ≠ 53) ∧ UdpReason s cache h) := by
  obtain ⟨out, hout, hclass, -⟩ := shouldRouteToRelay_spec g data s cache api udp (some r.relayAddr)
  obtain ⟨b, cache', hb, hiff, -⟩ := classifyPacket_exact g data s cache api udp
  rw [hclass, Except.ok.injEq, Prod.mk.injEq] at hb
  refine ⟨out, hout, ?_⟩
  rw [hb.1, hiff]
  refine exists_congr fun h => and_congr_right fun hr => ?_
  have hudp := (hto h hr).1
  rw [admissible_udp_iff hudp, reason_udp_iff hudp]

/-! ## 2. A launcher that is a tunnel app -/

def sampleRelay : Relay.UdpRelay :=
  Relay.UdpRelay.new 0 ⟨.v4 ⟨10, 0, 0, 1⟩, 51821⟩ [1, 2, 3, 4, 5, 6, 7, 8] Relay.exampleSession_length

/-- The header under which the relay's socket, `192.168.1.5:50000`, sends. -/
def ownDatagram : PacketHeader := ⟨.udp, ⟨192, 168, 1, 5⟩, ⟨10, 0, 0, 1⟩, 50000, 51821, false⟩

/-- The process that runs the SDK owns the relay's socket, with these tunnel apps configured. -/
def launcherSnapshot (tunnelApps : List String) : ProcessSnapshot :=
  ((LockFreeProcessCache.new toAsciiLowercase tunnelApps).update toAsciiLowercase
    ((∅ : Map ConnectionKey Pid).insert ⟨⟨192, 168, 1, 5⟩, 50000, .udp⟩ 7)
    ((∅ : Map Pid String).insert 7 "launcher.exe")).current

theorem ownDatagram_toRelay (payload : Bytes) : ToRelay sampleRelay (frameOf ownDatagram payload) := by
  intro h hr
  obtain rfl := hr.unique (frameOf_reads (by decide) payload)
  exact ⟨rfl, rfl⟩

/-- **A relayed packet that is wrapped again**: the launcher is one of the tunnel apps. -/
theorem own_datagram_wrapped_again :
    (sampleRelay.forwardOutbound 0 [0x45] (.sent 9) (.sent 9)).datagrams =
        [([1, 2, 3, 4, 5, 6, 7, 8, 0x45], sampleRelay.relayAddr)] ∧
      ToRelay sampleRelay (frameOf ownDatagram [1, 2, 3, 4, 5, 6, 7, 8, 0x45]) ∧
      (shouldRouteToRelay (SharedState.fresh [])
        (frameOf ownDatagram [1, 2, 3, 4, 5, 6, 7, 8, 0x45]) (launcherSnapshot ["launcher.exe"]) ∅
        false true (some sampleRelay.relayAddr)).map (·.decision) = .ok true :=
  ⟨by decide, ownDatagram_toRelay _, by decide +kernel⟩

/-- With the game as the only tunnel app it goes out as it is. -/
theorem own_datagram_sent :
    (shouldRouteToRelay (SharedState.fresh [])
      (frameOf ownDatagram [1, 2, 3, 4, 5, 6, 7, 8, 0x45]) (launcherSnapshot ["RobloxPlayerBeta.exe"])
      ∅ false true (some sampleRelay.relayAddr)).map (·.decision) = .ok false := by
  obtain ⟨out, hout, hiff⟩ := own_datagram_relayed_iff sampleRelay
    (ownDatagram_toRelay [1, 2, 3, 4, 5, 6, 7, 8, 0x45]) (SharedState.fresh [])
    (launcherSnapshot ["RobloxPlayerBeta.exe"]) ∅ false true
  rw [hout]
  refine congrArg Except.ok (Bool.eq_false_iff.mpr fun hd => ?_)
  obtain ⟨h, hr, -, hreason⟩ := hiff.mp hd
  obtain rfl := hr.unique (frameOf_reads (by decide) _)
  rcases hreason with ⟨pid, howner, htunnel⟩ | hport | hcached | ⟨hip, -⟩
  · have hpid : (launcherSnapshot ["RobloxPlayerBeta.exe"]).ownerPid ownDatagram.srcIp
        ownDatagram.srcPort ownDatagram.protocol = some 7 := by decide
    rw [hpid] at howner
    obtain rfl := Option.some.inj howner
    exact absurd htunnel (by decide)
  · exact absurd hport (by decide)
  · exact absurd hcached (Finset.notMem_empty _)
  · exact absurd hip (by decide)

end SwiftTunnel
