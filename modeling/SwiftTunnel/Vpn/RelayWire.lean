/-
# What a relay is told

`relay.rs`: the four kinds of datagrams that a client sends.  All begin with the session id; the
next byte, if there is one, is a frame type or the first byte of an IPv4 packet, and nothing else
tells them apart.  That this is enough hangs on the packet workers, which hand over IPv4 packets
only.

A message is what the client has to say (`ClientMessage`), and its bytes are a function of it.  A
keepalive has no byte behind the session id, a hello and a request begin with their frame types, and
no IPv4 packet begins with either (`packet_lead`).  The fields with a length before them form codes
that tell where they end (`PrefixCode`), which gives `body_injective`: on messages whose lengths fit
their fields, equal bytes are equal messages.

* `workerTurn_handed`: what the workers hand over, so that the packets of a run are as assumed.
* `run_datagrams`: every datagram of a run is a message of the session with which the run began.
* `relay_datagrams_unambiguous`: over all runs of any two sessions, equal datagrams mean the same
  thing for the same session.
* `relay_counters`: what the counters and the activity clock of a relay have counted.

Not claimed: that a relay can tell a client's datagram from one that somebody else made up.  The
session id is all that it has, and this is about the client's side.
-/
import SwiftTunnel.Lib.PrefixCode
import SwiftTunnel.SplitTunnel.DataPath
import SwiftTunnel.Vpn.RelayAuth
import SwiftTunnel.Vpn.ResolveFormat
import SwiftTunnel.Vpn.ResolveRuns

namespace SwiftTunnel.Relay

open Rust

/-! ## 1. Messages -/

/-- `RESOLVE_REQUEST_FRAME_TYPE`. -/
def resolveRequestFrameType : UInt8 := 0xA6

/-- `RESOLVE_MAX_HOSTNAME_LEN`. -/
def resolveMaxHostnameLen : Nat := 64

/-- What a client has to say to a relay. -/
inductive ClientMessage where
  | keepalive
  | hello (token : Bytes)
  | resolve (requestId : UInt16) (hosts : List Bytes)
  | packet (bytes : Bytes)
  deriving DecidableEq

namespace ClientMessage

/-- The bytes of a message behind the session id. -/
def body : ClientMessage → Bytes
  | keepalive => []
  | hello token => authHelloFrameType :: (wordBytes (UInt16.ofNat token.length) ++ token)
  | resolve requestId hosts => resolveRequestFrameType ::
      (wordBytes requestId ++ UInt8.ofNat hosts.length :: hosts.flatMap countedBytes)
  | packet bytes => bytes

/-- The lengths fit their fields, and a packet is an IPv4 packet. -/
def WellFormed : ClientMessage → Prop
  | keepalive => True
  | hello token => token ≠ [] ∧ token.length ≤ 65535
  | resolve _ hosts => hosts.length ≤ resolveMaxHostsPerRequest ∧
      ∀ host ∈ hosts, host.length ≤ resolveMaxHostnameLen
  | packet bytes => bytes ≠ [] ∧ (byteAt bytes 0 >>> 4) &&& 0xF = 4

/-- The byte behind the session id. -/
def lead (m : ClientMessage) : Option UInt8 := m.body.head?

/-- An IPv4 packet does not begin with a frame type. -/
theorem packet_lead {bytes : Bytes} (h : (packet bytes).WellFormed) :
    ∃ b, (packet bytes).lead = some b ∧ b ≠ authHelloFrameType ∧ b ≠ resolveRequestFrameType := by
  obtain ⟨hne, hversion⟩ := h
  cases bytes with
  | nil => exact absurd rfl hne
  | cons b rest =>
    refine ⟨b, rfl, ?_, ?_⟩
    · rintro rfl
      exact absurd hversion (by decide : (authHelloFrameType >>> 4) &&& 0xF ≠ 4)
    · rintro rfl
      exact absurd hversion (by decide : (resolveRequestFrameType >>> 4) &&& 0xF ≠ 4)

theorem hello_inj {token token' : Bytes} (heq : (hello token).body = (hello token').body) :
    token = token' :=
  (List.append_inj (List.cons.inj heq).2 rfl).2

/-- **A resolve request is read in one way.** -/
theorem resolve_inj {rid rid' : UInt16} {hosts hosts' : List Bytes}
    (h : (resolve rid hosts).WellFormed) (h' : (resolve rid' hosts').WellFormed)
    (heq : (resolve rid hosts).body = (resolve rid' hosts').body) :
    rid = rid' ∧ hosts = hosts' := by
  have h16 : resolveMaxHostsPerRequest = 16 := rfl
  have h64 : resolveMaxHostnameLen = 64 := rfl
  obtain ⟨hcount, hsizes⟩ := h
  obtain ⟨hcount', hsizes'⟩ := h'
  obtain ⟨rfl, hrest⟩ := selfDelimiting_wordBytes trivial trivial (List.cons.inj heq).2
  obtain ⟨hlen, hhosts⟩ := List.cons.inj hrest
  have hnat := congrArg UInt8.toNat hlen
  rw [toNat_ofNat_of_le (by omega), toNat_ofNat_of_le (by omega)] at hnat
  refine ⟨rfl, (selfDelimiting_countedBytes.flatMap hosts.length).injective ⟨rfl, ?_⟩
    ⟨hnat.symm, ?_⟩ hhosts⟩
  · intro host hmem
    have := hsizes host hmem
    omega
  · intro host hmem
    have := hsizes' host hmem
    omega

/-- **Messages are told apart by their bytes.** -/
theorem body_injective {m m' : ClientMessage} (h : m.WellFormed) (h' : m'.WellFormed)
    (heq : m.body = m'.body) : m = m' := by
  have hlead : m.lead = m'.lead := congrArg List.head? heq
  cases m with
  | keepalive =>
    cases m' with
    | keepalive => rfl
    | hello _ => exact nomatch hlead
    | resolve _ _ => exact nomatch hlead
    | packet _ => exact absurd heq.symm h'.1
  | hello token =>
    cases m' with
    | keepalive => exact nomatch hlead
    | hello token' => exact congrArg hello (hello_inj heq)
    | resolve _ _ => exact absurd (Option.some.inj hlead) (by decide)
    | packet bytes =>
      obtain ⟨b, hb, hne, -⟩ := packet_lead h'
      exact absurd (Option.some.inj (hb.symm.trans hlead.symm)) hne
  | resolve rid hosts =>
    cases m' with
    | keepalive => exact nomatch hlead
    | hello _ => exact absurd (Option.some.inj hlead) (by decide)
    | resolve rid' hosts' =>
      obtain ⟨rfl, rfl⟩ := resolve_inj h h' heq
      rfl
    | packet bytes =>
      obtain ⟨b, hb, -, hne⟩ := packet_lead h'
      exact absurd (Option.some.inj (hb.symm.trans hlead.symm)) hne
  | packet bytes =>
    cases m' with
    | keepalive => exact absurd heq h.1
    | hello _ =>
      obtain ⟨b, hb, hne, -⟩ := packet_lead h
      exact absurd (Option.some.inj (hb.symm.trans hlead)) hne
    | resolve _ _ =>
      obtain ⟨b, hb, -, hne⟩ := packet_lead h
      exact absurd (Option.some.inj (hb.symm.trans hlead)) hne
    | packet bytes' => exact congrArg packet heq

end ClientMessage

/-! ## 2. Sending -/

/-- `KEEPALIVE_INTERVAL`. -/
def keepaliveInterval : Duration := Duration.fromSecs 15

/-- The datagrams that a call hands to the socket, what it returns, and the relay afterwards. -/
structure Sent where
  datagrams : List (Bytes × SocketAddr)
  result : Except String Unit
  relay : UdpRelay

/-- `host.as_bytes()`. -/
def hostBytes (host : String) : Bytes := host.toUTF8.data.toList

namespace UdpRelay

/-- `send_keepalive_now`. -/
def sendKeepaliveNow (r : UdpRelay) (now : Instant) (reply : Except String Unit) : Sent :=
  match reply with
  | .ok _ => ⟨[(r.sessionId, r.relayAddr)], .ok (), { r with lastActivity := now }⟩
  | .error e => ⟨[(r.sessionId, r.relayAddr)], .error ("Failed to send keepalive: " ++ e), r⟩

/-- `send_keepalive_burst`.  The address is read once, and only the first send can fail the
call. -/
def sendKeepaliveBurst (r : UdpRelay) (now : Instant) (first : Except String Unit) : Sent :=
  match first with
  | .ok _ =>
    ⟨List.replicate 3 (r.sessionId, r.relayAddr), .ok (), { r with lastActivity := now }⟩
  | .error e => ⟨[(r.sessionId, r.relayAddr)], .error ("Keepalive burst failed: " ++ e), r⟩

/-- `send_keepalive`. -/
def sendKeepalive (r : UdpRelay) (now : Instant) (reply : Except String Unit) : Sent :=
  if keepaliveInterval ≤ durationSince now r.lastActivity then r.sendKeepaliveNow now reply
  else ⟨[], .ok (), r⟩

/-- The frame of `send_resolve_request`. -/
def resolveRequest (r : UdpRelay) (requestId : UInt16) (hosts : List String) : Bytes :=
  let count := min hosts.length resolveMaxHostsPerRequest
  r.sessionId ++ [resolveRequestFrameType] ++ wordBytes requestId ++ [UInt8.ofNat count] ++
    (hosts.take count).flatMap fun host =>
      let hb := hostBytes host
      let hlen := min hb.length resolveMaxHostnameLen
      UInt8.ofNat hlen :: hb.take hlen

end UdpRelay

/-- The hosts as a resolve request names them. -/
def askedHosts (hosts : List String) : List Bytes :=
  (hosts.take resolveMaxHostsPerRequest).map fun host =>
    (hostBytes host).take resolveMaxHostnameLen

theorem askedHosts_wellFormed (requestId : UInt16) (hosts : List String) :
    (ClientMessage.resolve requestId (askedHosts hosts)).WellFormed := by
  refine ⟨?_, ?_⟩
  · rw [askedHosts, List.length_map]
    exact List.length_take_le _ _
  · intro host hmem
    obtain ⟨h, -, rfl⟩ := List.mem_map.mp hmem
    exact List.length_take_le _ _

/-- **The frame is the message.** -/
theorem resolveRequest_eq (r : UdpRelay) (requestId : UInt16) (hosts : List String) :
    r.resolveRequest requestId hosts =
      r.sessionId ++ (ClientMessage.resolve requestId (askedHosts hosts)).body := by
  have htake : ∀ {α : Type} (xs : List α) (n : Nat), xs.take (min xs.length n) = xs.take n := by
    intro α xs n
    rw [Nat.min_comm, ← List.take_eq_take_min]
  have hcount := htake hosts resolveMaxHostsPerRequest
  have hhost : ∀ host : String, (UInt8.ofNat (min (hostBytes host).length resolveMaxHostnameLen) ::
      (hostBytes host).take (min (hostBytes host).length resolveMaxHostnameLen)) =
        countedBytes ((hostBytes host).take resolveMaxHostnameLen) := by
    intro host
    rw [countedBytes, List.length_take, htake, Nat.min_comm]
  have hlen : (askedHosts hosts).length = min hosts.length resolveMaxHostsPerRequest := by
    rw [askedHosts, List.length_map, List.length_take, Nat.min_comm]
  rw [ClientMessage.body, hlen, askedHosts, List.flatMap_map]
  simp only [UdpRelay.resolveRequest, hcount, hhost, List.append_assoc, List.cons_append,
    List.nil_append]

/-! ## 3. What the workers hand over -/

/-- A packet that `run_packet_worker` hands to a relay: accepted, and with its checksums fixed. -/
def Handed (payload : Bytes) : Prop :=
  ∃ g data s cache cache' api udp done, classifyPacket g data s cache api udp = .ok (true, cache') ∧
    fixPacketChecksums (data.drop 14) = .ok (done, payload)

/-- The checksums do not reach the first byte, nor the length. -/
theorem fixPacketChecksums_keeps {packet out : Bytes} {done : Bool}
    (h : fixPacketChecksums packet = .ok (done, out)) :
    out.length = packet.length ∧ byteAt out 0 = byteAt packet 0 := by
  by_cases hshort : packet.length < 20 ∨ packet.length < headerLen packet
  · rw [fixPacketChecksums_short hshort] at h
    obtain ⟨-, rfl⟩ := Prod.mk.inj (Except.ok.inj h)
    exact ⟨rfl, rfl⟩
  · obtain ⟨h20, hihl⟩ := not_or.mp hshort
    obtain ⟨c, hc⟩ := exists_headerChecksum packet
    by_cases hseg : ∃ p, HasSegment packet p
    · obtain ⟨p, hp⟩ := hseg
      have hfield : 6 ≤ checksumField packet p := by
        cases p <;> simp only [checksumField, checksumOffset] <;> omega
      rw [fixPacketChecksums_segment (by omega) hc hp] at h
      cases hck : calculateChecksum p (put16 (put16 packet 10 c) (checksumField packet p) 0)
          (headerLen packet) with
      | error e =>
        rw [hck] at h
        cases h
      | ok checksum =>
        rw [hck] at h
        obtain ⟨-, rfl⟩ := Prod.mk.inj (Except.ok.inj h)
        refine ⟨by simp, ?_⟩
        rw [byteAt_put16_of_ne (by omega) (by omega), byteAt_put16_of_ne (by omega) (by omega)]
    · rw [fixPacketChecksums_plain (by omega) (by omega) hc fun p hp => hseg ⟨p, hp⟩] at h
      obtain ⟨-, rfl⟩ := Prod.mk.inj (Except.ok.inj h)
      refine ⟨by simp, ?_⟩
      rw [byteAt_put16_of_ne (by omega) (by omega)]

/-- **What is handed over is an IPv4 packet.** -/
theorem Handed.wellFormed {payload : Bytes} (h : Handed payload) :
    (ClientMessage.packet payload).WellFormed := by
  obtain ⟨g, data, s, cache, cache', api, udp, done, hclass, hfix⟩ := h
  obtain ⟨hlen, hfirst⟩ := fixPacketChecksums_keeps hfix
  rcases classifyPacket_cases g data s cache api udp with ⟨h, hr, -⟩ | ⟨-, e⟩
  · have hlong := hr.long
    have hversion := hr.version
    rw [List.length_drop] at hlen
    rw [byteAt_drop] at hfirst
    refine ⟨?_, ?_⟩
    · rintro rfl
      rw [List.length_nil] at hlen
      omega
    · rw [hfirst]
      exact hversion
  · rw [e] at hclass
    cases congrArg Prod.fst (Except.ok.inj hclass)

/-- A relay sends the session id and the packet, to its address, or nothing. -/
theorem forwardOutbound_datagrams {r : UdpRelay} {now : Instant} {payload : Bytes}
    {first retry : UdpRelay.SendReply} :
    ∀ d ∈ (r.forwardOutbound now payload first retry).datagrams,
      d = (r.sessionId ++ payload, r.relayAddr) := by
  intro d hd
  rw [UdpRelay.forwardOutbound] at hd
  split at hd
  · cases hd
  · cases first with
    | sent n => exact List.mem_singleton.mp hd
    | failed e => exact List.mem_singleton.mp hd
    | wouldBlock =>
      cases retry <;> simpa using hd

/-- The packet goes to one of the relays of the context. -/
theorem forward_datagrams {ctx ctx' : RelayForwardContext} {g : SharedState} {io : SocketView}
    {payload : Bytes} {dstIp : Ipv4Addr} {out : UdpRelay.Outbound}
    (h : ctx.forward g io payload dstIp = .ok (out, ctx')) :
    ∀ d ∈ out.datagrams, ∃ r ∈ ctx.relay :: ctx.assetRelays,
      d = (r.sessionId ++ payload, r.relayAddr) := by
  intro d hd
  rw [RelayForwardContext.forward] at h
  split at h
  · rename_i hasset
    obtain ⟨i, hi, hidx⟩ := assetRelayIndex_ok payload (List.length_pos_iff.mpr hasset.1)
    rw [hidx, ok_bind, List.getElem?_eq_getElem hi] at h
    obtain ⟨rfl, -⟩ := Prod.mk.inj (Except.ok.inj h)
    exact ⟨_, List.mem_cons_of_mem _ (List.getElem_mem hi), forwardOutbound_datagrams d hd⟩
  · obtain ⟨rfl, -⟩ := Prod.mk.inj (Except.ok.inj h)
    exact ⟨_, List.mem_cons_self, forwardOutbound_datagrams d hd⟩

/-- A frame that is forwarded becomes a packet with its checksums fixed. -/
theorem forwardFrame_datagrams {ctx ctx' : RelayForwardContext} {g : SharedState} {io : SocketView}
    {data : Bytes} {out : UdpRelay.Outbound} (h : forwardFrame ctx g io data = .ok (out, ctx')) :
    ∃ done payload, fixPacketChecksums (data.drop 14) = .ok (done, payload) ∧
      ∀ d ∈ out.datagrams, ∃ r ∈ ctx.relay :: ctx.assetRelays,
        d = (r.sessionId ++ payload, r.relayAddr) := by
  rw [forwardFrame] at h
  by_cases h14 : 14 ≤ data.length
  · rw [slice_of_le h14 (Nat.le_refl _), List.take_length, ok_bind] at h
    cases hfix : fixPacketChecksums (data.drop 14) with
    | error e =>
      rw [hfix] at h
      cases h
    | ok r =>
      obtain ⟨done, payload⟩ := r
      rw [hfix, ok_bind] at h
      simp only at h
      refine ⟨done, payload, rfl, ?_⟩
      by_cases h20 : 20 ≤ payload.length
      · rw [if_pos h20, Ipv4Addr.index_of_lt (by omega), ok_bind] at h
        exact forward_datagrams h
      · rw [if_neg h20, ok_bind] at h
        exact forward_datagrams h
  · rw [slice, getRange, if_neg (fun h => h14 h.1)] at h
    cases h

/-- **The workers hand over what they have accepted**, to one of their relays. -/
theorem workerTurn_handed {ctx : RelayForwardContext} {io : SocketView} {st : WorkerState}
    {w : WorkItem} {t : TurnResult} (h : workerTurn ctx io st w = .ok t) :
    ∀ d ∈ t.datagrams, ∃ r ∈ ctx.relay :: ctx.assetRelays, ∃ payload, Handed payload ∧
      d = (r.sessionId ++ payload, r.relayAddr) := by
  rw [workerTurn] at h
  obtain ⟨o, st', hstep⟩ := workerStep_ok true st w
  rw [show workerStep true st w = .ok (o, st') from hstep, ok_bind] at h
  simp only at h
  split at h
  · rename_i ho
    cases hout : w.isOutbound with
    | false =>
      obtain ⟨rfl, -⟩ := workerStep_inbound hstep hout
      cases ho
    | true =>
      obtain ⟨route, hroute, hdispose, -⟩ := workerStep_outbound hstep hout
      cases hforward : forwardFrame ctx st'.shared io w.data with
      | error e =>
        rw [hforward] at h
        cases h
      | ok r =>
        obtain ⟨out, ctx'⟩ := r
        rw [hforward, ok_bind] at h
        obtain rfl := Except.ok.inj h
        obtain ⟨done, payload, hfix, hdatagrams⟩ := forwardFrame_datagrams hforward
        -- A bypassed frame is not forwarded, so this one was accepted.
        have haccepted : route.decision = true := by
          by_contra hnot
          rw [Bool.eq_false_iff.mpr hnot] at hdispose
          obtain rfl := Except.ok.inj hdispose
          cases ho
        obtain ⟨route', hroute', hclass, -⟩ := shouldRouteToRelay_spec st.shared w.data
          (st.refresh w.published).snapshot (st.refresh w.published).cache w.api w.udp
          (if true then some w.relayAddr else none)
        obtain rfl := Except.ok.inj (hroute.symm.trans hroute')
        rw [haccepted] at hclass
        intro d hd
        obtain ⟨r, hr, hd⟩ := hdatagrams d hd
        exact ⟨r, hr, payload, ⟨_, _, _, _, _, _, _, _, hclass, hfix⟩, hd⟩
  · obtain rfl := Except.ok.inj h
    intro d hd
    cases hd

/-! ## 4. Runs -/

/-- A call on a relay by any of its owner's threads. -/
inductive RelayCall where
  | forward (payload : Bytes) (first retry : UdpRelay.SendReply)
  | keepaliveNow (reply : Except String Unit)
  | keepaliveBurst (first : Except String Unit)
  | keepalive (reply : Except String Unit)
  | hello (token : Bytes) (target : SocketAddr) (reply : Except String Unit)
  | resolve (requestId : UInt16) (hosts : List String)
  /-- A switch, an authentication's begin or end, a receive, or time. -/
  | event (i : RelayInput)

namespace RelayCall

/-- What the call says to the relay, if it says anything. -/
def message : RelayCall → Option ClientMessage
  | forward payload _ _ => some (.packet payload)
  | keepaliveNow _ | keepaliveBurst _ | keepalive _ => some .keepalive
  | hello token _ _ => some (.hello token)
  | resolve requestId hosts => some (.resolve requestId (askedHosts hosts))
  | event _ => none

/-- The callers' side: packets come from the workers. -/
def Allowed : RelayCall → Prop
  | forward payload _ _ => Handed payload
  | _ => True

end RelayCall

/-- What a call does to the outside, and whether it counts as activity of the relay. -/
structure Effect where
  datagrams : List (Bytes × SocketAddr)
  /-- A packet has been sent. -/
  sent : Bool
  /-- A payload has been delivered. -/
  received : Bool
  /-- A keepalive has been sent. -/
  kept : Bool

def Effect.active (e : Effect) : Bool := e.sent || e.received || e.kept

/-- The effect of a keepalive call. -/
def Sent.effect (s : Sent) : Effect :=
  ⟨s.datagrams, false, false, s.result.isOk && !s.datagrams.isEmpty⟩

/-- A call of `receive_inbound` returned a payload. -/
def UdpRelay.Inbound.delivers (out : UdpRelay.Inbound) : Bool :=
  match out.result with
  | .ok payload => payload.isSome
  | .error _ => false

/-- The event delivers a payload. -/
def RelayState.delivers (st : RelayState) : RelayInput → Bool
  | .receive recv buffer => match st.relay.receiveInbound st.now recv buffer with
    | .ok out => out.delivers
    | .error _ => false
  | _ => false

/-- A call, as a step. -/
def RelayState.call (st : RelayState) (c : RelayCall) : Effect × RelayState :=
  match c with
  | .forward payload first retry =>
    let out := st.relay.forwardOutbound st.now payload first retry
    (⟨out.datagrams, out.result.isOk && !out.datagrams.isEmpty, false, false⟩,
      ⟨st.now, out.relay⟩)
  | .keepaliveNow reply =>
    let out := st.relay.sendKeepaliveNow st.now reply
    (out.effect, ⟨st.now, out.relay⟩)
  | .keepaliveBurst first =>
    let out := st.relay.sendKeepaliveBurst st.now first
    (out.effect, ⟨st.now, out.relay⟩)
  | .keepalive reply =>
    let out := st.relay.sendKeepalive st.now reply
    (out.effect, ⟨st.now, out.relay⟩)
  | .hello token target reply =>
    (⟨(st.relay.sendAuthHelloTo token target reply).1, false, false, false⟩, st)
  | .resolve requestId hosts =>
    (⟨[(st.relay.resolveRequest requestId hosts, st.relay.relayAddr)], false, false, false⟩, st)
  | .event i =>
    (⟨[], false, st.delivers i, false⟩, st.next i)

/-- A call that its caller may make. -/
def RelayCallStep (st : RelayState) (c : RelayCall) (e : Effect) (st' : RelayState) : Prop :=
  c.Allowed ∧ st.call c = (e, st')

section Step

variable {st st' : RelayState} {c : RelayCall} {e : Effect}

/-- **A datagram is a message** of the session, with lengths that fit. -/
theorem call_datagrams (hstep : RelayCallStep st c e st') :
    ∀ d ∈ e.datagrams, ∃ m, c.message = some m ∧ m.WellFormed ∧
      d.1 = st.relay.sessionId ++ m.body := by
  obtain ⟨hallowed, hcall⟩ := hstep
  obtain ⟨rfl, -⟩ := Prod.mk.inj hcall
  -- A keepalive is the session id alone.
  have hkeep : ∀ {d : Bytes × SocketAddr}, d = (st.relay.sessionId, st.relay.relayAddr) →
      ∃ m, some ClientMessage.keepalive = some m ∧ m.WellFormed ∧
        d.1 = st.relay.sessionId ++ m.body := by
    rintro d rfl
    exact ⟨.keepalive, rfl, trivial, (List.append_nil _).symm⟩
  have hnow : ∀ reply, ∀ d ∈ (st.relay.sendKeepaliveNow st.now reply).datagrams,
      d = (st.relay.sessionId, st.relay.relayAddr) := by
    intro reply d hd
    cases reply <;> exact List.mem_singleton.mp hd
  intro d hd
  cases c with
  | forward payload first retry =>
    obtain rfl := forwardOutbound_datagrams d hd
    exact ⟨.packet payload, rfl, Handed.wellFormed hallowed, rfl⟩
  | keepaliveNow reply => exact hkeep (hnow reply d hd)
  | keepaliveBurst first =>
    cases first with
    | error e => exact hkeep (List.mem_singleton.mp hd)
    | ok u => exact hkeep (List.eq_of_mem_replicate hd)
  | keepalive reply =>
    simp only [Sent.effect, UdpRelay.sendKeepalive] at hd
    split at hd
    · exact hkeep (hnow reply d hd)
    · cases hd
  | hello token target reply =>
    simp only [UdpRelay.sendAuthHelloTo] at hd
    split at hd
    · cases hd
    · rename_i hlen
      obtain rfl := List.mem_singleton.mp hd
      rw [not_or, not_lt] at hlen
      exact ⟨.hello token, rfl, hlen, rfl⟩
  | resolve requestId hosts =>
    obtain rfl := List.mem_singleton.mp hd
    exact ⟨_, rfl, askedHosts_wellFormed requestId hosts, resolveRequest_eq _ _ _⟩
  | event i => cases hd

/-- What one call adds to the counters, and when it sets the clock. -/
structure Counted (st : RelayState) (e : Effect) (st' : RelayState) : Prop where
  sessionId : st'.relay.sessionId = st.relay.sessionId
  sent : st'.relay.packetsSent = st.relay.packetsSent + if e.sent then 1 else 0
  received : st'.relay.packetsReceived = st.relay.packetsReceived + if e.received then 1 else 0
  activity : st'.relay.lastActivity = if e.active then st'.now else st.relay.lastActivity

/-- The session, the counters and the clock are the same. -/
structure Uncounted (r r' : UdpRelay) : Prop where
  sessionId : r'.sessionId = r.sessionId
  sent : r'.packetsSent = r.packetsSent
  received : r'.packetsReceived = r.packetsReceived
  activity : r'.lastActivity = r.lastActivity

/-- A call that does not count. -/
theorem counted_quiet {datagrams : List (Bytes × SocketAddr)}
    (h : Uncounted st.relay st'.relay) : Counted st ⟨datagrams, false, false, false⟩ st' where
  sessionId := h.sessionId
  sent := by simp [h.sent]
  received := by simp [h.received]
  activity := by simp [h.activity, Effect.active]

theorem counted_forward (st : RelayState) (payload : Bytes)
    (first retry : UdpRelay.SendReply) :
    Counted st (st.call (.forward payload first retry)).1
      (st.call (.forward payload first retry)).2 := by
  simp only [RelayState.call, UdpRelay.forwardOutbound]
  split
  · exact counted_quiet ⟨rfl, rfl, rfl, rfl⟩
  · cases first with
    | sent n => exact ⟨rfl, rfl, by simp, rfl⟩
    | failed e => exact counted_quiet ⟨rfl, rfl, rfl, rfl⟩
    | wouldBlock =>
      cases retry with
      | sent n => exact ⟨rfl, rfl, by simp, rfl⟩
      | failed e => exact counted_quiet ⟨rfl, rfl, rfl, rfl⟩
      | wouldBlock => exact counted_quiet ⟨rfl, rfl, rfl, rfl⟩

theorem counted_keepalive (st : RelayState) (reply : Except String Unit) :
    Counted st (st.relay.sendKeepaliveNow st.now reply).effect
      ⟨st.now, (st.relay.sendKeepaliveNow st.now reply).relay⟩ := by
  cases reply with
  | ok u => exact ⟨rfl, by simp [Sent.effect, UdpRelay.sendKeepaliveNow],
      by simp [Sent.effect, UdpRelay.sendKeepaliveNow], rfl⟩
  | error e => exact counted_quiet ⟨rfl, rfl, rfl, rfl⟩

/-- A datagram whose sender is accepted sets the clock if it is delivered. -/
theorem receiveAccepted_activity {r : UdpRelay} {now : Instant} {bytes buffer : Bytes}
    {out : UdpRelay.Inbound}
    (h : r.receiveAccepted now (UdpRelay.recvBufOf bytes) bytes.length buffer = .ok out) :
    (∃ n, out.result = .ok (some n) ∧ out.relay = r.delivered now) ∨
      (out.result = .ok none ∧ Uncounted r out.relay) := by
  rw [UdpRelay.receiveAccepted_eq] at h
  split at h
  · obtain rfl := Except.ok.inj h
    exact .inr ⟨rfl, rfl, rfl, rfl, rfl⟩
  · rename_i hid
    split at h
    · cases hparse : parseResolveResponse (UdpRelay.recvBufOf bytes) bytes.length with
      | error e =>
        rw [hparse] at h
        cases h
      | ok parsed =>
        rw [hparse] at h
        obtain rfl := Except.ok.inj h
        exact .inr ⟨rfl, rfl, rfl, rfl, rfl⟩
    · rw [UdpRelay.deliver_ok r now buffer (UdpRelay.le_length_of_session (not_not.mp hid))] at h
      split at h
      · obtain rfl := Except.ok.inj h
        exact .inl ⟨_, rfl, rfl⟩
      · obtain rfl := Except.ok.inj h
        exact .inr ⟨rfl, rfl, rfl, rfl, rfl⟩

/-- **A receive sets the clock exactly if it delivers.** -/
theorem receiveInbound_activity {r : UdpRelay} {now : Instant} {recv : UdpRelay.Recv}
    {buffer : Bytes} {out : UdpRelay.Inbound} (h : r.receiveInbound now recv buffer = .ok out) :
    (∃ n, out.result = .ok (some n) ∧ out.relay = r.delivered now) ∨
      ((∀ n, out.result ≠ .ok (some n)) ∧ Uncounted r out.relay) := by
  cases recv with
  | nothing =>
    obtain rfl := Except.ok.inj h
    exact .inr ⟨by simp, rfl, rfl, rfl, rfl⟩
  | failed e =>
    obtain rfl := Except.ok.inj h
    exact .inr ⟨by simp, rfl, rfl, rfl, rfl⟩
  | datagram bytes fits sender =>
    rw [UdpRelay.receiveInbound] at h
    split at h
    · obtain ⟨ack, hack⟩ := r.recordAuthAck_ok bytes sender
      rw [hack] at h
      obtain rfl := Except.ok.inj h
      exact .inr ⟨by simp, rfl, rfl, rfl, rfl⟩
    · split at h
      · obtain rfl := Except.ok.inj h
        exact .inr ⟨by simp, rfl, rfl, rfl, rfl⟩
      · rcases receiveAccepted_activity h with h | ⟨hnone, hsame⟩
        · exact .inl h
        · exact .inr ⟨by simp [hnone], hsame⟩

/-- A call of `receive_inbound` counts what it delivers. -/
theorem counted_receive (st : RelayState) (recv : UdpRelay.Recv) (buffer : Bytes) :
    Counted st ⟨[], false, st.delivers (.receive recv buffer), false⟩
      (st.next (.receive recv buffer)) := by
  obtain ⟨out, hout⟩ := RelayState.receiveInbound_ok st.relay st.now recv buffer
  rw [RelayState.next, RelayState.delivers, hout]
  rcases receiveInbound_activity hout with ⟨n, hn, hrelay⟩ | ⟨hnone, hsame⟩
  · obtain ⟨result, buffer', relay⟩ := out
    obtain rfl : result = .ok (some n) := hn
    obtain rfl : relay = st.relay.delivered st.now := hrelay
    exact ⟨rfl, by simp [UdpRelay.delivered], rfl, rfl⟩
  · have hno : out.delivers = false := by
      rw [UdpRelay.Inbound.delivers]
      split
      · rename_i payload hok
        cases payload with
        | none => rfl
        | some n => exact absurd hok (hnone n)
      · rfl
    simp only [hno]
    exact counted_quiet hsame

theorem counted_call (st : RelayState) (c : RelayCall) :
    Counted st (st.call c).1 (st.call c).2 := by
  cases c with
  | forward payload first retry => exact counted_forward st payload first retry
  | keepaliveNow reply => exact counted_keepalive st reply
  | keepaliveBurst first =>
    cases first with
    | ok u => exact ⟨rfl, by simp [RelayState.call, Sent.effect, UdpRelay.sendKeepaliveBurst],
        by simp [RelayState.call, Sent.effect, UdpRelay.sendKeepaliveBurst], rfl⟩
    | error e => exact counted_quiet ⟨rfl, rfl, rfl, rfl⟩
  | keepalive reply =>
    simp only [RelayState.call, UdpRelay.sendKeepalive]
    split
    · exact counted_keepalive st reply
    · exact counted_quiet ⟨rfl, rfl, rfl, rfl⟩
  | hello token target reply => exact counted_quiet ⟨rfl, rfl, rfl, rfl⟩
  | resolve requestId hosts => exact counted_quiet ⟨rfl, rfl, rfl, rfl⟩
  | event i =>
    cases i with
    | receive recv buffer => exact counted_receive st recv buffer
    | _ => exact counted_quiet ⟨rfl, rfl, rfl, rfl⟩

end Step

section Runs

variable {st₀ st st₀' st' : RelayState} {es es' : List (RelayCall × Effect)}

/-- The session id is that of the start, and every datagram is a message of that session. -/
theorem run_datagrams (hrun : Run RelayCallStep st₀ es st) :
    st.relay.sessionId = st₀.relay.sessionId ∧ ∀ c e, (c, e) ∈ es → ∀ d ∈ e.datagrams,
      ∃ m, c.message = some m ∧ m.WellFormed ∧ d.1 = st₀.relay.sessionId ++ m.body := by
  refine hrun.history (P := fun es st => st.relay.sessionId = st₀.relay.sessionId ∧
    ∀ c e, (c, e) ∈ es → ∀ d ∈ e.datagrams,
      ∃ m, c.message = some m ∧ m.WellFormed ∧ d.1 = st₀.relay.sessionId ++ m.body) ?_ ?_
  · exact ⟨rfl, fun c e hmem => nomatch hmem⟩
  · rintro es s c e s' - ⟨hid, hes⟩ hstep
    have hdatagrams := call_datagrams hstep
    rw [hid] at hdatagrams
    obtain ⟨-, hcall⟩ := hstep
    have hcounted := counted_call s c
    rw [hcall] at hcounted
    refine ⟨hcounted.sessionId.trans hid, ?_⟩
    intro c' e' hmem
    rcases List.mem_append.mp hmem with hmem | hmem
    · exact hes c' e' hmem
    · obtain ⟨rfl, rfl⟩ := Prod.mk.inj (List.mem_singleton.mp hmem)
      exact hdatagrams

/-- **A relay never mistakes one message for another.**  In all runs of any two sessions, with
packets from the workers, hellos with any ticket, resolve requests for any hosts and keepalives in
any order: two datagrams with the same bytes are of the same session and were sent for the same
message.  No packet looks like a hello, no keepalive like anything else, and a resolve request has
one reading. -/
theorem relay_datagrams_unambiguous (hrun : Run RelayCallStep st₀ es st)
    (hrun' : Run RelayCallStep st₀' es' st') {c c' : RelayCall} {e e' : Effect}
    (hmem : (c, e) ∈ es) (hmem' : (c', e') ∈ es') {d d' : Bytes × SocketAddr}
    (hd : d ∈ e.datagrams) (hd' : d' ∈ e'.datagrams) (hsame : d.1 = d'.1) :
    st₀.relay.sessionId = st₀'.relay.sessionId ∧
      ∃ m, c.message = some m ∧ c'.message = some m ∧ m.WellFormed := by
  obtain ⟨m, hm, hwf, hbytes⟩ := (run_datagrams hrun).2 c e hmem d hd
  obtain ⟨m', hm', hwf', hbytes'⟩ := (run_datagrams hrun').2 c' e' hmem' d' hd'
  have hlen := st₀.relay.sessionId_length.trans st₀'.relay.sessionId_length.symm
  obtain ⟨hid, hbody⟩ := List.append_inj (hbytes.symm.trans (hsame.trans hbytes')) hlen
  obtain rfl := ClientMessage.body_injective hwf hwf' hbody
  exact ⟨hid, m, hm, hm', hwf⟩

/-- The last active call of a run, and the calls after it. -/
structure LastActive (st₀ : RelayState) (es : List (RelayCall × Effect)) (st : RelayState)
    (es₁ es₂ : List (RelayCall × Effect)) (st₁ : RelayState) : Prop where
  split : es = es₁ ++ es₂
  before : Run RelayCallStep st₀ es₁ st₁
  after : Run RelayCallStep st₁ es₂ st
  active : ∀ ev ∈ es₁.getLast?, ev.2.active = true
  quiet : ∀ ev ∈ es₂, ev.2.active = false

/-- The clock holds the time of the last active call. -/
theorem lastActive_run (hstart : st₀.relay.lastActivity = st₀.now)
    (hrun : Run RelayCallStep st₀ es st) :
    ∃ es₁ es₂ st₁, LastActive st₀ es st es₁ es₂ st₁ ∧ st.relay.lastActivity = st₁.now := by
  refine hrun.history (P := fun es st => ∃ es₁ es₂ st₁, LastActive st₀ es st es₁ es₂ st₁ ∧
    st.relay.lastActivity = st₁.now) ?_ ?_
  · exact ⟨[], [], st₀, ⟨rfl, Run.nil _, Run.nil _, by simp, by simp⟩, hstart⟩
  · rintro es s c e s' hrun ⟨es₁, es₂, st₁, h, hclock⟩ hstep
    have hactivity := (counted_call s c).activity
    rw [hstep.2] at hactivity
    by_cases hactive : e.active = true
    · refine ⟨es ++ [(c, e)], [], s', ⟨by simp, ?_, Run.nil _, by simpa using hactive, by simp⟩, ?_⟩
      · exact run_concat_iff.mpr ⟨s, hrun, hstep⟩
      · rw [hactivity, if_pos hactive]
    · refine ⟨es₁, es₂ ++ [(c, e)], st₁, ⟨?_, h.before, ?_, h.active, ?_⟩, ?_⟩
      · rw [h.split, List.append_assoc]
      · exact run_concat_iff.mpr ⟨s, h.after, hstep⟩
      · exact List.forall_mem_append.mpr ⟨h.quiet, by simpa using hactive⟩
      · rw [hactivity, if_neg hactive, hclock]

theorem count_concat (p : RelayCall × Effect → Bool) (es : List (RelayCall × Effect))
    (ev : RelayCall × Effect) : UInt64.ofNat ((es ++ [ev]).countP p) =
      UInt64.ofNat (es.countP p) + if p ev then 1 else 0 := by
  rw [List.countP_append, UInt64.ofNat_add, List.countP_singleton]
  split <;> rfl

/-- The counters hold how often they were raised. -/
theorem counts_run (hsent : st₀.relay.packetsSent = 0) (hreceived : st₀.relay.packetsReceived = 0)
    (hrun : Run RelayCallStep st₀ es st) :
    st.relay.packetsSent = UInt64.ofNat (es.countP fun ev => ev.2.sent) ∧
      st.relay.packetsReceived = UInt64.ofNat (es.countP fun ev => ev.2.received) := by
  refine hrun.history (P := fun es st =>
    st.relay.packetsSent = UInt64.ofNat (es.countP fun ev => ev.2.sent) ∧
      st.relay.packetsReceived = UInt64.ofNat (es.countP fun ev => ev.2.received)) ?_ ?_
  · exact ⟨hsent, hreceived⟩
  · rintro es s c e s' - ⟨ihsent, ihreceived⟩ hstep
    have hcounted := counted_call s c
    rw [hstep.2] at hcounted
    rw [count_concat, count_concat, ← ihsent, ← ihreceived]
    exact ⟨hcounted.sent, hcounted.received⟩

/-- A keepalive, and a hello after sixteen seconds. -/
def idleCalls : List (RelayCall × Effect) :=
  [(.keepaliveNow (.ok ()), ⟨[(newRelay.sessionId, newRelay.relayAddr)], false, false, true⟩),
    (.event (.tick 16000000000), ⟨[], false, false, false⟩),
    (.hello [0x74] newRelay.relayAddr (.ok ()),
      ⟨[(newRelay.authHello [0x74], newRelay.relayAddr)], false, false, false⟩)]

theorem idleCalls_run :
    Run RelayCallStep ⟨0, newRelay⟩ idleCalls ⟨16000000000, newRelay⟩ :=
  Run.cons ⟨trivial, rfl⟩ (Run.cons ⟨trivial, rfl⟩ (Run.cons ⟨trivial, rfl⟩ (Run.nil _)))

/-- The hello reads as a hello, and as nothing else. -/
theorem idleCalls_hello_read : newRelay.sessionId = newRelay.sessionId ∧
    ∃ m, (RelayCall.hello [0x74] newRelay.relayAddr (.ok ())).message = some m ∧
      (RelayCall.hello [0x74] newRelay.relayAddr (.ok ())).message = some m ∧ m.WellFormed := by
  have hmem : (.hello [0x74] newRelay.relayAddr (.ok ()),
      ⟨[(newRelay.authHello [0x74], newRelay.relayAddr)], false, false, false⟩) ∈ idleCalls :=
    .tail _ (.tail _ (.head _))
  exact relay_datagrams_unambiguous idleCalls_run idleCalls_run hmem hmem (.head _) (.head _) rfl

/-- **What a relay has counted.**  In every run of a new relay, the counters hold how many packets
were sent and how many payloads delivered, whatever else was sent or dropped; the activity clock
holds the time of the last call that sent a packet or a keepalive or delivered a payload; and so
a keepalive goes out exactly when fifteen seconds have passed since. -/
theorem relay_counters {now : Instant} {addr : SocketAddr} {sessionId : Bytes}
    {hid : sessionId.length = sessionIdLen}
    (hrun : Run RelayCallStep ⟨now, UdpRelay.new now addr sessionId hid⟩ es st) :
    st.relay.packetsSent = UInt64.ofNat (es.countP fun ev => ev.2.sent) ∧
      st.relay.packetsReceived = UInt64.ofNat (es.countP fun ev => ev.2.received) ∧
      ∃ es₁ es₂ st₁, LastActive ⟨now, UdpRelay.new now addr sessionId hid⟩ es st es₁ es₂ st₁ ∧
        st.relay.lastActivity = st₁.now ∧
        ∀ reply, (st.relay.sendKeepalive st.now reply).datagrams =
          if keepaliveInterval ≤ durationSince st.now st₁.now then
            [(sessionId, st.relay.relayAddr)] else [] := by
  obtain ⟨hsent, hreceived⟩ := counts_run rfl rfl hrun
  obtain ⟨es₁, es₂, st₁, hlast, hclock⟩ := lastActive_run rfl hrun
  refine ⟨hsent, hreceived, es₁, es₂, st₁, hlast, hclock, ?_⟩
  have hsession : st.relay.sessionId = sessionId := (run_datagrams hrun).1
  intro reply
  rw [UdpRelay.sendKeepalive, hclock]
  split
  · cases reply <;> simp only [UdpRelay.sendKeepaliveNow, hsession]
  · rfl

/-- Its clock holds the time of the keepalive, so another one is due. -/
theorem idleCalls_counted :
    newRelay.packetsSent = UInt64.ofNat (idleCalls.countP fun ev => ev.2.sent) ∧
      newRelay.packetsReceived = UInt64.ofNat (idleCalls.countP fun ev => ev.2.received) ∧
      ∃ es₁ es₂ st₁, LastActive ⟨0, newRelay⟩ idleCalls ⟨16000000000, newRelay⟩ es₁ es₂ st₁ ∧
        newRelay.lastActivity = st₁.now ∧
        ∀ reply, (newRelay.sendKeepalive 16000000000 reply).datagrams =
          if keepaliveInterval ≤ durationSince 16000000000 st₁.now then
            [([1, 2, 3, 4, 5, 6, 7, 8], newRelay.relayAddr)] else [] :=
  relay_counters idleCalls_run

end Runs

end SwiftTunnel.Relay
