/-
# From a frame to the relay

`interceptor.rs`: `RelayForwardContext`, and the part of `run_packet_worker` that hands a frame to
it.  The frame loses its Ethernet header, gets its checksums, and goes to the gameplay relay, or
for an asset host to one of the asset relays, by its source port.

A build for release ends the process on a panic, so every function that a frame or a datagram
passes has to return on whatever bytes it is given.  Each has a lemma that it does, beside its
definition; a turn of a worker is put together from them (`workerTurn_ok`), and the only place left
where it could fault is the sum of a checksum.

* `workerTurn_relay`, `workerTurn_elsewhere`: what a turn does, by what `Worker` says of the frame.
* `data_path_safe`: nothing faults, where the sums of the checksums fit their `u32`, as they do for
  packets of up to 131064 bytes; a worker's buffer holds 1600.
* `headless_packet_overflows`: one byte more.

Datagrams that come back from a relay are in `Relay` and `Inject`.
-/
import SwiftTunnel.SplitTunnel.Checksums
import SwiftTunnel.SplitTunnel.Ports
import SwiftTunnel.SplitTunnel.Worker
import SwiftTunnel.Vpn.Relay

namespace SwiftTunnel

open Rust

/-! ## 1. The choice of a relay -/

/-- `x % n`. -/
def checkedRem (x n : Nat) : Checked Nat := if n = 0 then .error .divisionByZero else .ok (x % n)

def assetRelayIndex (ipPacket : Bytes) (n : Nat) : Checked Nat :=
  if ipPacket.length < 20 then .ok 0
  else do
    let ihl := ihlOf (← index ipPacket 0)
    if ipPacket.length < ihl + 2 then return 0
    else
      let srcPort ← indexBe16 ipPacket ihl
      checkedRem srcPort.toNat n

/-- The index is one of the pool. -/
theorem assetRelayIndex_ok (ipPacket : Bytes) {n : Nat} (hn : 0 < n) :
    ∃ i < n, assetRelayIndex ipPacket n = .ok i := by
  rw [assetRelayIndex]
  by_cases h20 : ipPacket.length < 20
  · exact ⟨0, hn, if_pos h20⟩
  rw [if_neg h20, index_of_lt (by omega), ok_bind]
  by_cases hihl : ipPacket.length < ihlOf (byteAt ipPacket 0) + 2
  · exact ⟨0, hn, if_pos hihl⟩
  refine ⟨(be16At ipPacket (ihlOf (byteAt ipPacket 0))).toNat % n, Nat.mod_lt _ hn, ?_⟩
  simp only
  rw [if_neg hihl, indexBe16_of_lt (by omega), ok_bind, checkedRem, if_neg (by omega)]

structure RelayForwardContext where
  relay : Relay.UdpRelay
  assetRelays : List Relay.UdpRelay

/-- What the sockets of the relays are given, and say. -/
structure SocketView where
  now : Instant
  first : Relay.UdpRelay.SendReply
  retry : Relay.UdpRelay.SendReply

/-- `forward`: what the relay that is chosen does, and the relays afterwards. -/
def RelayForwardContext.forward (ctx : RelayForwardContext) (g : SharedState) (io : SocketView)
    (ipPacket : Bytes) (dstIp : Ipv4Addr) :
    Checked (Relay.UdpRelay.Outbound × RelayForwardContext) :=
  if ctx.assetRelays ≠ [] ∧ g.isAssetIp dstIp = true then do
    let idx ← assetRelayIndex ipPacket ctx.assetRelays.length
    match ctx.assetRelays[idx]? with
    | none => .error .outOfBounds
    | some relay =>
      let out := relay.forwardOutbound io.now ipPacket io.first io.retry
      return (out, { ctx with assetRelays := ctx.assetRelays.set idx out.relay })
  else
    let out := ctx.relay.forwardOutbound io.now ipPacket io.first io.retry
    .ok (out, { ctx with relay := out.relay })

/-! ## 2. A frame on its way -/

/-- The end of a turn of `run_packet_worker`, for a frame that is to be forwarded. -/
def forwardFrame (ctx : RelayForwardContext) (g : SharedState) (io : SocketView) (data : Bytes) :
    Checked (Relay.UdpRelay.Outbound × RelayForwardContext) := do
  let ipPacket ← slice data 14 data.length
  let (_, pktBuf) ← fixPacketChecksums ipPacket
  let fwdDstIp ← if 20 ≤ pktBuf.length then Ipv4Addr.index pktBuf 16
    else .ok Ipv4Addr.unspecified
  ctx.forward g io pktBuf fwdDstIp

/-- What a turn with a relay leaves: the outcome, the state, and the datagrams for the sockets. -/
structure TurnResult where
  outcome : WorkOutcome
  state : WorkerState
  ctx : RelayForwardContext
  datagrams : List (Bytes × SocketAddr)

/-- A turn of `run_packet_worker` when there is a relay. -/
def workerTurn (ctx : RelayForwardContext) (io : SocketView) (st : WorkerState) (w : WorkItem) :
    Checked TurnResult := do
  let (outcome, st) ← workerStep true st w
  if outcome.disposition = .forwarded then
    let (out, ctx) ← forwardFrame ctx st.shared io w.data
    return ⟨outcome, st, ctx, out.datagrams⟩
  else return ⟨outcome, st, ctx, []⟩

theorem forward_ok (ctx : RelayForwardContext) (g : SharedState) (io : SocketView)
    (ipPacket : Bytes) (dstIp : Ipv4Addr) : ∃ r, ctx.forward g io ipPacket dstIp = .ok r := by
  rw [RelayForwardContext.forward]
  by_cases h : ctx.assetRelays ≠ [] ∧ g.isAssetIp dstIp = true
  · obtain ⟨i, hi, hidx⟩ := assetRelayIndex_ok ipPacket (List.length_pos_iff.mpr h.1)
    rw [if_pos h, hidx, ok_bind, List.getElem?_eq_getElem hi]
    exact ⟨_, rfl⟩
  · exact ⟨_, if_neg h⟩

/-- **A frame that fits is forwarded without a fault.** -/
theorem forwardFrame_ok (ctx : RelayForwardContext) (g : SharedState) (io : SocketView)
    {data : Bytes} (h14 : 14 ≤ data.length) (hlen : data.length ≤ 14 + safeLen) :
    ∃ r, forwardFrame ctx g io data = .ok r := by
  have hpacket : (data.drop 14).length ≤ safeLen := by
    rw [List.length_drop]
    omega
  obtain ⟨⟨b, pktBuf⟩, hfix⟩ := fixPacketChecksums_ok hpacket
  rw [forwardFrame, slice_of_le h14 (Nat.le_refl _), List.take_length, ok_bind, hfix, ok_bind]
  by_cases h20 : 20 ≤ pktBuf.length
  · simp only [if_pos h20]
    rw [Ipv4Addr.index_of_lt (by omega), ok_bind]
    exact forward_ok ctx g io pktBuf _
  · simp only [if_neg h20]
    exact forward_ok ctx g io pktBuf _

/-- A turn on a frame that is not handed to the relay. -/
theorem workerTurn_elsewhere {ctx : RelayForwardContext} {io : SocketView} {st st' : WorkerState}
    {w : WorkItem} {o : WorkOutcome} (hstep : workerStep true st w = .ok (o, st'))
    (ho : o.disposition ≠ .forwarded) : workerTurn ctx io st w = .ok ⟨o, st', ctx, []⟩ := by
  rw [workerTurn, hstep, ok_bind]
  exact if_neg ho

/-- A turn on a frame that is. -/
theorem workerTurn_relay {ctx : RelayForwardContext} {io : SocketView} {st st' : WorkerState}
    {w : WorkItem} {o : WorkOutcome} (hstep : workerStep true st w = .ok (o, st'))
    (ho : o.disposition = .forwarded) {out : Relay.UdpRelay.Outbound} {ctx' : RelayForwardContext}
    (hout : forwardFrame ctx st'.shared io w.data = .ok (out, ctx')) :
    workerTurn ctx io st w = .ok ⟨o, st', ctx', out.datagrams⟩ := by
  rw [workerTurn, hstep, ok_bind]
  refine (if_pos ho).trans ?_
  rw [hout, ok_bind]
  rfl

/-- Only a frame with something behind its Ethernet header is forwarded. -/
theorem long_of_forwarded {relayCtx : Bool} {w : WorkItem} {b : Bool} {o : WorkOutcome}
    (ho : dispose relayCtx w b = .ok o) (hf : o.disposition = .forwarded) : 14 < w.data.length := by
  by_contra hshort
  have h14 : w.data.length ≤ 14 := by omega
  have h34 : ¬ 14 + 20 ≤ w.data.length := by omega
  simp only [dispose, if_pos h14, if_neg h34] at ho
  split at ho
  · obtain rfl := Except.ok.inj ho
    cases hf
  · split at ho
    · obtain rfl := Except.ok.inj ho
      cases hf
    · obtain rfl := Except.ok.inj ho
      cases hf

/-- **A turn never faults**, on anything that fits the buffer of a work item. -/
theorem workerTurn_ok (ctx : RelayForwardContext) (io : SocketView) (st : WorkerState)
    {w : WorkItem} (hbuf : w.data.length ≤ maxPacketSize) :
    ∃ r, workerTurn ctx io st w = .ok r := by
  have hmax : maxPacketSize = 1600 := rfl
  have hsafe : safeLen = 131064 := rfl
  obtain ⟨o, st', hstep⟩ := workerStep_ok true st w
  by_cases ho : o.disposition = .forwarded
  · have hlong : 14 < w.data.length := by
      cases hout : w.isOutbound with
      | false =>
        obtain ⟨rfl, -⟩ := workerStep_inbound hstep hout
        exact nomatch ho
      | true =>
        obtain ⟨r, -, hdispose, -⟩ := workerStep_outbound hstep hout
        exact long_of_forwarded hdispose ho
    have hfits : w.data.length ≤ 14 + safeLen := by omega
    obtain ⟨⟨out, ctx'⟩, hforward⟩ := forwardFrame_ok ctx st'.shared io hlong.le hfits
    exact ⟨_, workerTurn_relay hstep ho hforward⟩
  · exact ⟨_, workerTurn_elsewhere hstep ho⟩

/-! ## 3. No bytes end the process -/

/-- **Nothing on the data path faults.**  On every frame the parsers, the decision, the URL log,
the learning and the choice of a relay return; the checksum code can only leave its `u32`, and
not on a packet of up to 131064 bytes; and the parser of a resolve response returns for every
length within the buffer, and does so without the bytes behind it. -/
theorem data_path_safe (frame : Bytes) :
    (∃ r, parsePorts frame = .ok r) ∧
      (∀ g s cache api udp, ∃ r, classifyPacket g frame s cache api udp = .ok r) ∧
      (∀ g s cache api udp addr, ∃ r, shouldRouteToRelay g frame s cache api udp addr = .ok r) ∧
      (∀ g s tunneled addr, ∃ r, logDestination g frame s tunneled addr = .ok r) ∧
      (∀ g, ∃ r, learnFromRelayed frame g = .ok r) ∧
      (∃ r, looksLikeClientHello frame = .ok r) ∧ (∃ r, parseClientHelloSni frame = .ok r) ∧
      (∀ n > 0, ∃ i < n, assetRelayIndex (frame.drop 14) n = .ok i) ∧
      (∀ e, fixPacketChecksums (frame.drop 14) = .error e → e = .overflow) ∧
      ((frame.drop 14).length ≤ safeLen → ∃ r, fixPacketChecksums (frame.drop 14) = .ok r) ∧
      ∀ len ≤ frame.length, ∃ r, parseResolveResponse frame len = .ok r ∧
        parseResolveResponse (frame.take len) len = .ok r := by
  refine ⟨?_, ?_, ?_, ?_, ?_, ?_, ?_, ?_, ?_, ?_, ?_⟩
  · obtain ⟨r, hr, -⟩ := parsePorts_spec frame
    exact ⟨r, hr⟩
  · intro g s cache api udp
    obtain ⟨b, cache', h, -⟩ := classifyPacket_ok g frame s cache api udp
    exact ⟨_, h⟩
  · intro g s cache api udp addr
    obtain ⟨r, hr, -⟩ := shouldRouteToRelay_spec g frame s cache api udp addr
    exact ⟨r, hr⟩
  · intro g s tunneled addr
    exact logDestination_ok g frame s tunneled addr
  · intro g
    obtain ⟨g', hg', -⟩ := learnFromRelayed_ok frame g
    exact ⟨g', hg'⟩
  · exact looksLikeClientHello_ok frame
  · exact parseClientHelloSni_ok frame
  · intro n hn
    exact assetRelayIndex_ok _ hn
  · intro e he
    rcases fixPacketChecksums_spec (frame.drop 14) with ⟨r, hr⟩ | ⟨_, _, -, -, -, -, hover⟩
    · rw [hr] at he
      exact nomatch he
    · rw [hover] at he
      exact (Except.error.inj he).symm
  · intro hlen
    exact fixPacketChecksums_ok hlen
  · intro len hlen
    obtain ⟨r, hr⟩ := parseResolveResponse_ok hlen
    exact ⟨r, hr, (parseResolveResponse_take hlen).trans hr⟩

/-- The frame with a ClientHello, and three asset relays. -/
theorem settingsHello_safe :
    (∃ i < 3, assetRelayIndex (settingsHello.drop 14) 3 = .ok i) ∧
      (∃ r, fixPacketChecksums (settingsHello.drop 14) = .ok r) ∧
      ∃ r, parseResolveResponse settingsHello 40 = .ok r ∧
        parseResolveResponse (settingsHello.take 40) 40 = .ok r := by
  obtain ⟨-, -, -, -, -, -, -, hindex, -, hfix, hparse⟩ := data_path_safe settingsHello
  exact ⟨hindex 3 (by decide), hfix (by decide +kernel), hparse 40 (by decide +kernel)⟩

/-- The first bytes of a UDP packet that claims to have no header, all else set. -/
def headlessStart : Bytes :=
  [0x40, 0xFF, 0xFF, 0xFF, 0xFF, 0xFF, 0xFF, 0xFF, 0xFF, 17,
    0xFF, 0xFF, 0xFF, 0xFF, 0xFF, 0xFF, 0xFF, 0xFF, 0xFF, 0xFF]

/-- An Ethernet header and one byte more than is safe. -/
def headlessFrame : Bytes :=
  List.replicate 14 0 ++ (headlessStart ++ List.replicate (2 * 65522 + 1) 0xFF)

/-- **One byte more and the sum leaves the `u32`.** -/
theorem headless_packet_overflows :
    (headlessFrame.drop 14).length = safeLen + 1 ∧
      fixPacketChecksums (headlessFrame.drop 14) = .error .overflow := by
  have hsafe : safeLen = 131064 := rfl
  have hdrop : headlessFrame.drop 14 =
      headlessStart ++ List.replicate (2 * 65522 + 1) 0xFF := rfl
  rw [hdrop]
  generalize htail : List.replicate (2 * 65522 + 1) (0xFF : UInt8) = tail
  have htlen : tail.length = 2 * 65522 + 1 := by rw [← htail, List.length_replicate]
  have htsum : wordSum tail = 65535 * 65522 + 65280 := by rw [← htail, wordSum_replicate_odd]
  have hslen : headlessStart.length = 20 := rfl
  have hlen : (headlessStart ++ tail).length = safeLen + 1 := by
    rw [List.length_append]
    omega
  have hihl : ihlOf 0x40 = 0 := by decide
  have hhead : headerLen (headlessStart ++ tail) = 0 := hihl
  have hseg : HasSegment (headlessStart ++ tail) .udp := by
    refine ⟨rfl, ?_⟩
    rw [hhead, headerSize]
    omega
  obtain ⟨c, hc⟩ := exists_headerChecksum (headlessStart ++ tail)
  have hempty : calculateIpChecksum [] = .ok 0xFFFF := rfl
  have hcalc := hc.calculated
  rw [hhead, List.take_zero, hempty] at hcalc
  obtain rfl := Except.ok.inj hcalc
  have hput : put16 (put16 (headlessStart ++ tail) 10 0xFFFF)
      (checksumField (headlessStart ++ tail) .udp) 0 = put16 headlessStart 6 0 ++ tail := by
    rw [put16_append (by omega), checksumField, hhead]
    exact put16_append (by decide) _ _
  have hsum : 2 ^ 32 ≤ protocolTotal .udp (put16 headlessStart 6 0 ++ tail) 0 := by
    have hstart :
        put16 (put16 headlessStart 6 0 ++ tail) 6 0 = put16 headlessStart 6 0 ++ tail := by
      rw [put16_append (by decide), put16_put16]
    have hpseudo : wordSum (((put16 headlessStart 6 0 ++ tail).take 20).drop 12) = 65535 * 4 := rfl
    have hwords : wordSum (put16 headlessStart 6 0) = 540681 := rfl
    have hnum : (protocolNum .udp).toNat = 17 := rfl
    have htotal : (put16 headlessStart 6 0 ++ tail).length = 131065 := by
      rw [List.length_append, length_put16]
      omega
    rw [protocolTotal, segmentTotal, hpseudo, hnum, htotal, checksumOffset, List.drop_zero, hstart,
      wordSum_append (by decide), hwords, htsum]
    omega
  refine ⟨hlen, ?_⟩
  rw [fixPacketChecksums_segment (by omega) hc hseg, hput, hhead,
    calculateChecksum_overflow .udp (by simp [hslen]) (by simp [hslen, headerSize]; omega) hsum]
  rfl

end SwiftTunnel
