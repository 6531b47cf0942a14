/-
# Ethernet trailers

A frame may be longer than the IPv4 packet in it; what follows the packet is the trailer.  The
decision reads the headers alone, and `tcp_payload` stops at the total length of the packet, so a
trailer changes neither what a worker decides nor what it learns (`workerStep_trailed`).  The
forwarder takes all that follows the Ethernet header, and so do the lengths in
`fix_packet_checksums`: the trailer goes to the relay as a part of the packet.

Two turns are compared, with and without the trailer, for frames with whole headers
(`WholeHeaders`).  What the turn reads of such a frame are its header and its payload, and both are
the same; what the relay is handed is a packet as long as what follows the Ethernet header, so the
datagrams differ whenever there is one (`datagrams_eq_iff`).

* `trailer_ignored_iff`: when a trailer makes no difference at all.
* `trailer_forwarded`: two bytes that do.
-/
import SwiftTunnel.SplitTunnel.Intact

namespace SwiftTunnel

open Rust

/-! ## 1. Frames with whole headers -/

/-- An IPv4 header without gaps, and after it a transport header. -/
structure WholeHeaders (data : Bytes) (h : PacketHeader) : Prop where
  reads : ReadsAs data h
  ihl : 20 ≤ ihlOf (byteAt data 14)
  header : transportStart data + headerSize h.protocol ≤ data.length

/-- The frame ends where its packet does. -/
structure PlainFrame (data : Bytes) (h : PacketHeader) : Prop extends WholeHeaders data h where
  exact : data.length = 14 + (be16At data 16).toNat

theorem transportStart_eq (data : Bytes) : transportStart data = 14 + ihlOf (byteAt data 14) := rfl

theorem WholeHeaders.fits {data : Bytes} {h : PacketHeader} (hw : WholeHeaders data h) :
    HeadersFit data := by
  have hheader := hw.header
  have hports := hw.reads.ports
  rw [← transportStart_eq] at hports
  refine ⟨hw.reads.long, hports, fun h6 => ?_⟩
  have htcp : h.protocol = .tcp := by
    have hnum := hw.reads.protocol
    rw [h6] at hnum
    cases hp : h.protocol with
    | tcp => rfl
    | udp =>
      rw [hp] at hnum
      exact absurd hnum (by decide)
  rw [htcp, headerSize] at hheader
  omega

theorem WholeHeaders.append {data : Bytes} {h : PacketHeader} (hw : WholeHeaders data h)
    (trailer : Bytes) : WholeHeaders (data ++ trailer) h := by
  have hlong := hw.reads.long
  have hheader := hw.header
  have h14 := byteAt_append (show 14 < data.length by omega) trailer
  refine ⟨(readsAs_append_iff hw.fits trailer).mpr hw.reads, ?_, ?_⟩
  · rw [h14]
    exact hw.ihl
  · rw [transportStart_eq, h14, List.length_append]
    rw [transportStart_eq] at hheader
    omega

/-! ## 2. What the headers determine -/

/-- What is logged for a header. -/
def logEntryOf (g : SharedState) (s : ProcessSnapshot) (tunneled : Bool)
    (relayAddr : Option SocketAddr) (h : PacketHeader) : Option UrlLogEntry :=
  if s.isTunnelSource h.srcIp h.srcPort h.protocol || isRobloxGameServerIp h.dstIp ||
      g.isExcludedIp h.dstIp || g.isAssetIp h.dstIp then
    some ⟨h.dstIp, h.dstPort, protocolNum h.protocol, tunneled, hostForIp g h.dstIp, relayAddr⟩
  else none

section Reads

variable {data : Bytes} {h : PacketHeader}

/-- The URL log sees the header. -/
theorem logDestination_reads (hr : ReadsAs data h) (g : SharedState) (s : ProcessSnapshot)
    (tunneled : Bool) (relayAddr : Option SocketAddr) :
    logDestination g data s tunneled relayAddr = .ok (logEntryOf g s tunneled relayAddr h) := by
  have hlong := hr.long
  have hports : ipStart + ihlOf (byteAt data ipStart) + 4 ≤ data.length := hr.ports
  have hip : ipStart = 14 := rfl
  have hver : ¬ (byteAt data ipStart >>> 4) &&& 0xF ≠ 4 := not_not_intro hr.version
  have hproto : protocolOf (byteAt data (ipStart + 9)) = some h.protocol :=
    protocolOf_iff.mpr hr.protocol
  rw [logDestination, if_neg (by omega), indexBe16_of_lt (by omega), ok_bind,
    if_neg (not_not_intro hr.ethertype), index_of_lt (by omega), ok_bind]
  simp only
  rw [if_neg hver, index_of_lt (by omega), ok_bind]
  simp only [hproto]
  rw [Ipv4Addr.index_of_lt (by omega), Ipv4Addr.index_of_lt (by omega), ok_bind, ok_bind,
    if_neg (by omega), indexBe16_of_lt (by omega), indexBe16_of_lt (by omega), ok_bind, ok_bind,
    logEntryOf, hr.srcIp, hr.dstIp, hr.srcPort, hr.dstPort, ← hr.protocol]
  exact (apply_ite Except.ok _ _ _).symm

/-- Learning sees the header, and the payload of a TCP segment to port 443. -/
theorem learnFromRelayed_reads (hw : WholeHeaders data h) (g : SharedState) :
    learnFromRelayed data g =
      if h.protocol = .tcp ∧ h.dstPort = 443 then
        maybeLearnDirectOnlyDestination data 14 (transportStart data) h.dstIp g
      else .ok g := by
  have hr := hw.reads
  have hlong := hr.long
  have hports := hr.ports
  have hheader := hw.header
  have hihl := hw.ihl
  have hip : ipStart = 14 := rfl
  have hsize : 8 ≤ headerSize h.protocol := by
    cases h.protocol with
    | tcp => decide
    | udp => decide
  rw [← transportStart_eq] at hports
  rw [transportStart_eq] at hheader
  rw [learnFromRelayed, if_pos (by omega), index_of_lt (by omega), ok_bind]
  cases hp : h.protocol with
  | udp =>
    have hnum : ¬ byteAt data (ipStart + 9) = 6 := by
      rw [show byteAt data (ipStart + 9) = protocolNum h.protocol from hr.protocol, hp]
      decide
    rw [if_neg hnum, if_neg (by simp)]
  | tcp =>
    have hnum : byteAt data (ipStart + 9) = 6 := by
      rw [show byteAt data (ipStart + 9) = protocolNum h.protocol from hr.protocol, hp]
      rfl
    rw [if_pos hnum, index_of_lt (by omega), ok_bind]
    simp only
    rw [if_pos (by rw [hip]; omega), indexBe16_of_lt (by rw [hip]; omega), ok_bind]
    have hport : be16At data (ipStart + ihlOf (byteAt data ipStart) + 2) = h.dstPort :=
      hr.dstPort.symm
    rw [hport]
    by_cases h443 : h.dstPort = 443
    · rw [if_pos h443, if_pos ⟨trivial, h443⟩, Ipv4Addr.index_of_lt (by omega), ok_bind, hr.dstIp]
      rfl
    · rw [if_neg h443, if_neg (fun e => h443 e.2)]

end Reads

/-! ## 3. A trailer and the decision -/

theorem getBe16_append {data : Bytes} {i : Nat} (h : i + 1 < data.length) (more : Bytes) :
    getBe16 (data ++ more) i = getBe16 data i := by
  have h0 : i < data.length := by omega
  simp only [getBe16, List.getElem?_append_left h0, List.getElem?_append_left h]

/-- **The payload ends with the packet.** -/
theorem tcpPayload_append {data : Bytes} (hexact : data.length = 14 + (be16At data 16).toNat)
    {transportStart : Nat} (hdata : transportStart + 12 < data.length) (h17 : 17 < data.length)
    (trailer : Bytes) :
    tcpPayload (data ++ trailer) 14 transportStart = tcpPayload data 14 transportStart := by
  have htotal : getBe16 data 16 = some (be16At data 16) := by
    have h16 : 16 < data.length := by omega
    simp [getBe16, be16At, byteAt, h16, h17]
  have hlen : (data ++ trailer).length = data.length + trailer.length := List.length_append
  have hrange : ∀ a, getRange (data ++ trailer) a data.length = getRange data a data.length := by
    intro a
    simp [getRange]
  simp only [tcpPayload]
  rw [getBe16_append h17, htotal, List.getElem?_append_left hdata]
  simp only [Option.bind_eq_bind, Option.bind_some, ← hexact, hlen,
    Nat.min_eq_left (Nat.le_add_right _ _), Nat.min_self, hrange]

section Frame

variable {data : Bytes} {h : PacketHeader}

theorem learnFromRelayed_append (hf : PlainFrame data h) (trailer : Bytes) (g : SharedState) :
    learnFromRelayed (data ++ trailer) g = learnFromRelayed data g := by
  have hlong := hf.reads.long
  have hts : transportStart (data ++ trailer) = transportStart data := by
    rw [transportStart_eq, transportStart_eq, byteAt_append (by omega)]
  rw [learnFromRelayed_reads (hf.append trailer), learnFromRelayed_reads hf.toWholeHeaders, hts]
  by_cases hc : h.protocol = .tcp ∧ h.dstPort = 443
  · have hheader := hf.header
    rw [hc.1, headerSize] at hheader
    rw [if_pos hc, if_pos hc, maybeLearnDirectOnlyDestination, maybeLearnDirectOnlyDestination,
      tcpPayload_append hf.exact (by omega) (by omega)]
  · rw [if_neg hc, if_neg hc]

/-- **A trailer does not show in the route**: the decision, the flow cache, what is learned and
what is logged are those of the frame without it. -/
theorem shouldRouteToRelay_append (hf : PlainFrame data h) (trailer : Bytes) (g : SharedState)
    (s : ProcessSnapshot) (cache : InlineCache) (api udp : Bool) (relayAddr : Option SocketAddr) :
    shouldRouteToRelay g (data ++ trailer) s cache api udp relayAddr =
      shouldRouteToRelay g data s cache api udp relayAddr := by
  have hreads : ∀ h', ReadsAs (data ++ trailer) h' ↔ ReadsAs data h' := fun _ =>
    readsAs_append_iff hf.fits trailer
  have hclass := classifyPacket_congr hreads g s cache api udp
  obtain ⟨b, cache', hb, -⟩ := classifyPacket_ok g data s cache api udp
  rw [shouldRouteToRelay, shouldRouteToRelay, hclass, hb, ok_bind, ok_bind]
  simp only
  rw [logDestination_reads (hf.append trailer).reads, logDestination_reads hf.reads, ok_bind,
    ok_bind, learnFromRelayed_append hf]

end Frame

/-- A work item with a trailer behind its frame. -/
def WorkItem.trailed (w : WorkItem) (trailer : Bytes) : WorkItem :=
  { w with data := w.data ++ trailer }

section Item

variable {w : WorkItem} {h : PacketHeader}

/-- **A trailer does not show in a turn**: the frame goes the same way, and the worker's state
and the sets are the same after it. -/
theorem workerStep_trailed (hf : PlainFrame w.data h) (trailer : Bytes) (relayCtx : Bool)
    (st : WorkerState) : workerStep relayCtx st (w.trailed trailer) = workerStep relayCtx st w := by
  have hroute := shouldRouteToRelay_append hf trailer
  have hdispose : ∀ b, dispose relayCtx (w.trailed trailer) b = dispose relayCtx w b := by
    intro b
    rw [dispose_reads hf.reads]
    exact dispose_reads (hf.append trailer).reads relayCtx b
  simp only [workerStep, hdispose]
  simp only [WorkItem.trailed, hroute]

end Item

/-! ## 4. A trailer and the relay -/

theorem assetRelayIndex_eq {packet : Bytes} (h20 : 20 ≤ packet.length)
    (hports : headerLen packet + 2 ≤ packet.length) (n : Nat) :
    assetRelayIndex packet n = checkedRem (be16At packet (headerLen packet)).toNat n := by
  have hnot : ¬ packet.length < ihlOf (byteAt packet 0) + 2 := Nat.not_lt.mpr hports
  rw [assetRelayIndex, if_neg (by omega), index_of_lt (by omega), ok_bind]
  simp only
  rw [if_neg hnot, indexBe16_of_lt (by rw [headerLen] at hports; omega), ok_bind, headerLen]

/-- The relay for a header: by its destination, and in the pool by its source port. -/
def RelayForwardContext.relayFor (ctx : RelayForwardContext) (g : SharedState) (h : PacketHeader) :
    Relay.UdpRelay :=
  if ctx.assetRelays ≠ [] ∧ g.isAssetIp h.dstIp = true then
    ctx.assetRelays.getD (h.srcPort.toNat % ctx.assetRelays.length) ctx.relay
  else ctx.relay

theorem forward_relay (ctx : RelayForwardContext) (g : SharedState) (io : SocketView)
    {packet : Bytes} {h : PacketHeader} (h20 : 20 ≤ packet.length)
    (hports : headerLen packet + 2 ≤ packet.length)
    (hsrc : be16At packet (headerLen packet) = h.srcPort) :
    ∃ ctx', ctx.forward g io packet h.dstIp =
      .ok ((ctx.relayFor g h).forwardOutbound io.now packet io.first io.retry, ctx') := by
  rw [RelayForwardContext.forward, RelayForwardContext.relayFor]
  by_cases hasset : ctx.assetRelays ≠ [] ∧ g.isAssetIp h.dstIp = true
  · have hpos := List.length_pos_iff.mpr hasset.1
    have hidx := Nat.mod_lt h.srcPort.toNat hpos
    rw [if_pos hasset, if_pos hasset, assetRelayIndex_eq h20 hports, hsrc, checkedRem,
      if_neg (by omega), ok_bind]
    simp only [List.getD_eq_getElem?_getD, List.getElem?_eq_getElem hidx, Option.getD_some]
    exact ⟨_, rfl⟩
  · rw [if_neg hasset, if_neg hasset]
    exact ⟨_, rfl⟩

/-- Two calls hand the same datagrams to the socket if their payloads are equal, or both are too
long. -/
theorem datagrams_eq_iff (r : Relay.UdpRelay) (io : SocketView) (payload payload' : Bytes) :
    (r.forwardOutbound io.now payload' io.first io.retry).datagrams =
        (r.forwardOutbound io.now payload io.first io.retry).datagrams ↔
      payload' = payload ∨
        (Relay.maxPayloadSize < payload.length ∧ Relay.maxPayloadSize < payload'.length) := by
  have hlong : ∀ p : Bytes, Relay.maxPayloadSize < p.length →
      (r.forwardOutbound io.now p io.first io.retry).datagrams = [] := by
    intro p hp
    rw [Relay.UdpRelay.forwardOutbound, if_pos hp]
  have hfits : ∀ p : Bytes, ¬ Relay.maxPayloadSize < p.length →
      ((r.forwardOutbound io.now p io.first io.retry).datagrams).head? =
        some (r.sessionId ++ p, r.relayAddr) := by
    intro p hp
    rw [Relay.UdpRelay.forwardOutbound, if_neg hp]
    cases io.first with
    | sent n => rfl
    | failed e => rfl
    | wouldBlock => cases io.retry with
      | sent n => rfl
      | failed e => rfl
      | wouldBlock => rfl
  constructor
  · intro heq
    by_cases hp : Relay.maxPayloadSize < payload.length
    · by_cases hp' : Relay.maxPayloadSize < payload'.length
      · exact Or.inr ⟨hp, hp'⟩
      · have hhead := hfits payload' hp'
        rw [heq, hlong payload hp] at hhead
        exact nomatch hhead
    · have hhead := hfits payload hp
      by_cases hp' : Relay.maxPayloadSize < payload'.length
      · rw [← heq, hlong payload' hp'] at hhead
        exact nomatch hhead
      · rw [← heq, hfits payload' hp'] at hhead
        have hbytes := congrArg Prod.fst (Option.some.inj hhead)
        exact Or.inl (List.append_cancel_left hbytes)
  · rintro (rfl | ⟨hp, hp'⟩)
    · rfl
    · rw [hlong payload hp, hlong payload' hp']

/-- **A frame with whole headers reaches its relay** as a packet of the length that follows the
Ethernet header. -/
theorem forwardFrame_whole {data : Bytes} {h : PacketHeader} (hw : WholeHeaders data h)
    (hsize : data.length ≤ 14 + safeLen) (ctx : RelayForwardContext) (g : SharedState)
    (io : SocketView) :
    ∃ pktBuf ctx', pktBuf.length = data.length - 14 ∧ forwardFrame ctx g io data =
      .ok ((ctx.relayFor g h).forwardOutbound io.now pktBuf io.first io.retry, ctx') := by
  have hlong := hw.reads.long
  have hports := hw.reads.ports
  have hihl := hw.ihl
  have hheader := hw.header
  have hdrop : (data.drop 14).length = data.length - 14 := List.length_drop
  have hhead : headerLen (data.drop 14) = ihlOf (byteAt data 14) := by
    rw [headerLen, byteAt_drop]
  rw [transportStart_eq] at hheader
  have hseg : HasSegment (data.drop 14) h.protocol := by
    refine ⟨?_, by omega⟩
    rw [byteAt_drop]
    exact hw.reads.protocol
  have hoffset : 6 ≤ checksumOffset h.protocol := by
    cases h.protocol with
    | tcp => decide
    | udp => decide
  obtain ⟨c, checksum, -, -, hfix⟩ := fixPacketChecksums_words (by omega) hseg (by omega)
  have hfield : checksumField (data.drop 14) h.protocol =
      ihlOf (byteAt data 14) + checksumOffset h.protocol := by
    rw [checksumField, hhead]
  generalize hout : put16 (put16 (data.drop 14) 10 c) (checksumField (data.drop 14) h.protocol)
    checksum = pktBuf at hfix
  have hlen : pktBuf.length = data.length - 14 := by
    rw [← hout, length_put16, length_put16, hdrop]
  -- the checksums lie outside of what the forwarder reads
  have hsame : ∀ i, i ≠ 10 → i ≠ 11 → i < ihlOf (byteAt data 14) + 6 →
      byteAt pktBuf i = byteAt data (14 + i) := by
    intro i h10 h11 hi
    rw [← hout, byteAt_put16_of_ne (by omega) (by omega), byteAt_put16_of_ne h10 h11, byteAt_drop]
  have hhead' : headerLen pktBuf = ihlOf (byteAt data 14) := by
    rw [headerLen, hsame 0 (by omega) (by omega) (by omega)]
  have hdst : Ipv4Addr.ofBytesAt pktBuf 16 = h.dstIp := by
    rw [hw.reads.dstIp, Ipv4Addr.ofBytesAt, hsame 16 (by omega) (by omega) (by omega),
      hsame 17 (by omega) (by omega) (by omega), hsame 18 (by omega) (by omega) (by omega),
      hsame 19 (by omega) (by omega) (by omega)]
    rfl
  have hsrc : be16At pktBuf (headerLen pktBuf) = h.srcPort := by
    rw [hw.reads.srcPort, hhead', transportStart_eq, be16At, be16At,
      hsame _ (by omega) (by omega) (by omega), hsame _ (by omega) (by omega) (by omega)]
    rfl
  obtain ⟨ctx', hforward⟩ := forward_relay ctx g io (by omega) (by omega) hsrc
  refine ⟨pktBuf, ctx', hlen, ?_⟩
  rw [forwardFrame, slice_of_le (by omega) (Nat.le_refl _), List.take_length, ok_bind, hfix,
    ok_bind]
  simp only
  rw [if_pos (by omega), Ipv4Addr.index_of_lt (by omega), ok_bind, hdst, hforward]

/-! ## 5. When a trailer makes no difference -/

/-- The worker hands the frame to the relay: by the rules of its header, where the auto-router
does not hinder it. -/
structure Relayed (st : WorkerState) (w : WorkItem) (h : PacketHeader) : Prop where
  outbound : w.isOutbound = true
  unhindered : ¬ w.Hindered h
  admissible : Admissible st.shared w.api w.udp h
  reason : Reason st.shared (st.refresh w.published).snapshot (st.refresh w.published).cache h

/-- The trailer makes no difference: not to the decision and what is learned, not to the turn,
and not to the datagrams for the relay. -/
structure TrailerIgnored (ctx : RelayForwardContext) (io : SocketView) (st : WorkerState)
    (w : WorkItem) (trailer : Bytes) : Prop where
  route : ∀ relayAddr, shouldRouteToRelay st.shared (w.data ++ trailer)
      (st.refresh w.published).snapshot (st.refresh w.published).cache w.api w.udp relayAddr =
    shouldRouteToRelay st.shared w.data (st.refresh w.published).snapshot
      (st.refresh w.published).cache w.api w.udp relayAddr
  turn : ∃ r r', workerTurn ctx io st w = .ok r ∧
    workerTurn ctx io st (w.trailed trailer) = .ok r' ∧ r'.outcome = r.outcome ∧
    r'.state = r.state ∧ r'.datagrams = r.datagrams

/-- Which frames the relay gets, in terms of the state before the turn. -/
theorem forwarded_iff_relayed {st st' : WorkerState} {w : WorkItem} {h : PacketHeader}
    {o : WorkOutcome} (hr : ReadsAs w.data h) (hstep : workerStep true st w = .ok (o, st')) :
    o.disposition = .forwarded ↔ Relayed st w h := by
  cases hout : w.isOutbound with
  | false =>
    obtain ⟨rfl, -⟩ := workerStep_inbound hstep hout
    constructor
    · intro hd
      exact nomatch hd
    · intro hrel
      have hout' := hrel.outbound
      rw [hout] at hout'
      exact nomatch hout'
  | true =>
    rw [workerStep_forwarded_iff hstep hout hr]
    constructor
    · rintro ⟨⟨-, hh⟩, ha, hreason⟩
      exact ⟨hout, hh, ha, hreason⟩
    · intro hrel
      exact ⟨⟨rfl, hrel.unhindered⟩, hrel.admissible, hrel.reason⟩

/-- **When a trailer makes no difference**: there is none, or the frame is not relayed, or it is
too long for the relay without it. -/
theorem trailer_ignored_iff {ctx : RelayForwardContext} {io : SocketView} {st : WorkerState}
    {w : WorkItem} {h : PacketHeader} {trailer : Bytes} (hf : PlainFrame w.data h)
    (hsize : w.data.length + trailer.length ≤ 1522) :
    TrailerIgnored ctx io st w trailer ↔
      trailer = [] ∨ ¬ Relayed st w h ∨ Relay.maxPayloadSize < w.data.length - 14 := by
  have hsafe : safeLen = 131064 := rfl
  have hlen : (w.data ++ trailer).length = w.data.length + trailer.length := List.length_append
  obtain ⟨o, st', hstep⟩ := workerStep_ok true st w
  have hstep' : workerStep true st (w.trailed trailer) = .ok (o, st') :=
    (workerStep_trailed hf trailer true st).trans hstep
  have hrelayed := forwarded_iff_relayed hf.reads hstep
  have hroute := fun relayAddr => shouldRouteToRelay_append hf trailer st.shared
    (st.refresh w.published).snapshot (st.refresh w.published).cache w.api w.udp relayAddr
  obtain ⟨p, ctx₁, hp, hout⟩ := forwardFrame_whole hf.toWholeHeaders (by omega) ctx st'.shared io
  obtain ⟨p', ctx₂, hp', hout'⟩ :=
    forwardFrame_whole (hf.append trailer) (by omega) ctx st'.shared io
  have hdatagrams := datagrams_eq_iff (ctx.relayFor st'.shared h) io p p'
  constructor
  · rintro ⟨-, r, r', hr, hr', -, -, hsame⟩
    by_cases ho : o.disposition = .forwarded
    · rw [workerTurn_relay hstep ho hout] at hr
      rw [workerTurn_relay hstep' ho hout'] at hr'
      obtain rfl := Except.ok.inj hr
      obtain rfl := Except.ok.inj hr'
      rcases hdatagrams.mp hsame with heq | ⟨hlong, -⟩
      · refine Or.inl (List.length_eq_zero_iff.mp ?_)
        have := congrArg List.length heq
        have := hf.reads.long
        omega
      · exact Or.inr (Or.inr (by omega))
    · exact Or.inr (Or.inl fun hrel => ho (hrelayed.mpr hrel))
  · intro hwhy
    by_cases ho : o.disposition = .forwarded
    · refine ⟨hroute, _, _, workerTurn_relay hstep ho hout, workerTurn_relay hstep' ho hout', rfl,
        rfl, ?_⟩
      rcases hwhy with rfl | hno | hlong
      · rw [List.append_nil, hout] at hout'
        have hpair := congrArg Prod.fst (Except.ok.inj hout'.symm)
        exact congrArg Relay.UdpRelay.Outbound.datagrams hpair
      · exact absurd (hrelayed.mp ho) hno
      · exact hdatagrams.mpr (Or.inr ⟨by omega, by omega⟩)
    · exact ⟨hroute, _, _, workerTurn_elsewhere hstep ho, workerTurn_elsewhere hstep' ho, rfl, rfl,
        rfl⟩

/-- The header of `gameDatagram`. -/
def gameHeader : PacketHeader := ⟨.udp, ⟨192, 168, 195, 80⟩, ⟨128, 116, 1, 1⟩, 51001, 50000, false⟩

theorem gameDatagram_plain : PlainFrame gameDatagram gameHeader where
  reads := frameOf_reads (by decide) []
  ihl := (by decide : 20 ≤ ihlOf 0x45)
  header := by decide
  exact := by decide

/-- The datagram in a queue, with UDP tunnelling on and no auto-router. -/
def gameItem : WorkItem :=
  ⟨gameDatagram, true, ProcessSnapshot.empty ∅, false, true, ⟨.v4 ⟨127, 0, 0, 1⟩, 51821⟩, none⟩

def gameWorker : WorkerState := WorkerState.start (ProcessSnapshot.empty ∅) (SharedState.fresh [])

def oneRelay : RelayForwardContext :=
  ⟨Relay.UdpRelay.new 0 ⟨.v4 ⟨127, 0, 0, 1⟩, 51821⟩ [1, 2, 3, 4, 5, 6, 7, 8]
    Relay.exampleSession_length, []⟩

def readySocket : SocketView := ⟨0, .sent 36, .wouldBlock⟩

/-- No trailer, no difference. -/
theorem gameItem_untrailed : TrailerIgnored oneRelay readySocket gameWorker gameItem [] :=
  (trailer_ignored_iff gameDatagram_plain (by decide)).mpr (Or.inl rfl)

/-- **A trailer is forwarded**: two bytes behind the packet are two bytes more for the relay. -/
theorem trailer_forwarded :
    PlainFrame gameItem.data gameHeader ∧ gameItem.data.length + [0, 0].length ≤ 1522 ∧
      ¬ TrailerIgnored oneRelay readySocket gameWorker gameItem [0, 0] := by
  refine ⟨gameDatagram_plain, by decide, ?_⟩
  rintro ⟨-, r, r', hr, hr', -, -, hsame⟩
  have hlen : (workerTurn oneRelay readySocket gameWorker gameItem).map
      (fun r => r.datagrams.map fun d => d.1.length) = .ok [36] := rfl
  have hlen' : (workerTurn oneRelay readySocket gameWorker (gameItem.trailed [0, 0])).map
      (fun r => r.datagrams.map fun d => d.1.length) = .ok [38] := rfl
  rw [hr] at hlen
  rw [hr'] at hlen'
  have hone : r.datagrams.map (fun d => d.1.length) = [36] := Except.ok.inj hlen
  have htwo : r'.datagrams.map (fun d => d.1.length) = [38] := Except.ok.inj hlen'
  rw [hsame, hone] at htwo
  exact absurd htwo (by decide)

end SwiftTunnel
