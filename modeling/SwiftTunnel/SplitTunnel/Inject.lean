/-
# Injecting what the relay delivers

`interceptor.rs`, `run_v3_inbound_receiver` and `inject_inbound_packet`.  The receiver takes a
payload from `receive_inbound`, puts an Ethernet header before it and copies the frame into a
buffer of the packet driver.  Four lengths bound the payload on its way: the 1600 bytes of the
relay's buffer, the 8 of the session id, the 2048 of the receiver's buffer, and the 1522 that a
frame may have.  The driver's buffer has 1514.

A copy into the front of a buffer that is too short panics (`copyToFront`).  The check before it is
against 1522, so the frames from 1515 to 1522 bytes pass the check and not the copy, and
`injectInboundPacket_cases` says that no others do.  From there it is a matter of which datagrams
deliver such a payload, which is known from `Relay`.

* `inbound_frame_fits_iff`: which datagrams end the process.
* `overlong_datagram_panics`: one that does.

The adapter that a frame goes to, and what the driver answers, are inputs.
-/
import SwiftTunnel.Vpn.Relay

namespace SwiftTunnel

open Rust Relay

/-! ## 1. A frame for the driver -/

/-- The bytes that an `IntermediateBuffer` of ndisapi holds, which is built without jumbo frames. -/
def intermediateBufferLen : Nat := 1514

/-- `IntermediateBuffer`. -/
structure IntermediateBuffer where
  deviceFlags : DirectionFlags
  length : UInt32
  buffer : Bytes
  deriving DecidableEq, Repr

/-- `InboundConfig`, without the name by which the receiver finds its adapter. -/
structure InboundConfig where
  adapterMac : Bytes
  adapterMac_length : adapterMac.length = 6

/-- What the driver says to a frame: `push`, and `send_packets_to_mstcp`. -/
structure MstcpReply where
  pushed : Bool
  sent : Bool

/-- `MAX_ETHER_FRAME`. -/
def maxEtherFrame : Nat := 1522

/-- The source address of an injected frame. -/
def relayMac : Bytes := [0x02, 0x00, 0x00, 0x00, 0x00, 0x01]

/-- `dst[..src.len()].copy_from_slice(src)`. -/
def copyToFront (dst src : Bytes) : Checked Bytes :=
  if src.length ≤ dst.length then .ok (src ++ dst.drop src.length) else .error .outOfBounds

/-- The frame that `inject_inbound_packet` builds, unless it would be too long. -/
def inboundFrame (config : InboundConfig) (ipPacket : Bytes) : Option Bytes :=
  if maxEtherFrame < 14 + ipPacket.length then none
  else some (config.adapterMac ++ relayMac ++ [0x08, 0x00] ++ ipPacket)

/-- `inject_inbound_packet`: what it returns, and the buffer that it sends. -/
def injectInboundPacket (config : InboundConfig) (reply : MstcpReply) (ipPacket : Bytes) :
    Checked (Bool × Option IntermediateBuffer) :=
  match inboundFrame config ipPacket with
  | none => .ok (false, none)
  | some frame => do
    let buffer ← copyToFront (List.replicate intermediateBufferLen 0) frame
    let sent : IntermediateBuffer := ⟨.onReceive, UInt32.ofNat frame.length, buffer⟩
    return if reply.pushed then (reply.sent, some sent) else (false, none)

/-! ## 2. One turn of the receiver -/

/-- `vec![0u8; 2048]`. -/
def receiverBufLen : Nat := 2048

/-- The variables of the loop, and the relay. -/
structure ReceiverState where
  relay : Relay.UdpRelay
  recvBuf : Bytes
  packetsReceived : Nat
  packetsInjected : Nat
  /-- `throughput.bytes_rx`. -/
  bytesRx : Nat

namespace ReceiverState

/-- The turn after `receive_inbound`. -/
def handle (st : ReceiverState) (config : InboundConfig) (reply : MstcpReply)
    (result : Except String (Option Nat)) : Checked ReceiverState :=
  match result with
  | .error _ => .ok st
  | .ok none => .ok st
  | .ok (some n) => do
    let ipPacket ← slice st.recvBuf 0 n
    if ipPacket.length < 20 then return st
    else
      let (injected, _) ← injectInboundPacket config reply ipPacket
      return { st with
        packetsReceived := st.packetsReceived + 1
        packetsInjected := if injected then st.packetsInjected + 1 else st.packetsInjected
        bytesRx := st.bytesRx + ipPacket.length }

/-- One turn of `run_v3_inbound_receiver`. -/
def turn (st : ReceiverState) (now : Instant) (config : InboundConfig) (reply : MstcpReply)
    (recv : Relay.UdpRelay.Recv) : Checked ReceiverState := do
  let inbound ← st.relay.receiveInbound now recv st.recvBuf
  handle { st with relay := inbound.relay, recvBuf := inbound.buffer } config reply inbound.result

end ReceiverState

/-! ## 3. Which payloads fit -/

variable {config : InboundConfig} {reply : MstcpReply}

theorem length_of_inboundFrame {ipPacket frame : Bytes}
    (h : inboundFrame config ipPacket = some frame) : frame.length = 14 + ipPacket.length := by
  rw [inboundFrame] at h
  split at h
  · cases h
  · obtain rfl := Option.some.inj h
    simp only [List.length_append, config.adapterMac_length, relayMac, List.length_cons,
      List.length_nil]

/-- A payload that is neither rejected nor short enough. -/
def Overruns (ipPacket : Bytes) : Prop :=
  intermediateBufferLen < 14 + ipPacket.length ∧ 14 + ipPacket.length ≤ maxEtherFrame

/-- **The copy goes out of range exactly for such a payload.** -/
theorem injectInboundPacket_cases (config : InboundConfig) (reply : MstcpReply) (ipPacket : Bytes) :
    (Overruns ipPacket ∧ injectInboundPacket config reply ipPacket = .error .outOfBounds) ∨
      (¬ Overruns ipPacket ∧ ∃ out, injectInboundPacket config reply ipPacket = .ok out) := by
  rw [injectInboundPacket, Overruns]
  by_cases hlong : maxEtherFrame < 14 + ipPacket.length
  · have hnone : inboundFrame config ipPacket = none := if_pos hlong
    rw [hnone]
    exact Or.inr ⟨by omega, _, rfl⟩
  · obtain ⟨frame, hframe⟩ : ∃ frame, inboundFrame config ipPacket = some frame :=
      ⟨_, if_neg hlong⟩
    have hlen := length_of_inboundFrame hframe
    rw [hframe]
    dsimp only
    rw [copyToFront, List.length_replicate]
    by_cases hfit : frame.length ≤ intermediateBufferLen
    · rw [if_pos hfit]
      exact Or.inr ⟨by omega, _, rfl⟩
    · rw [if_neg hfit]
      exact Or.inl ⟨by omega, rfl⟩

/-! ## 4. Which datagrams end the process -/

namespace ReceiverState

variable {st : ReceiverState} {now : Instant} {bytes : Bytes} {sender : SocketAddr}

theorem handle_payload {payload rest : Bytes} (h : st.recvBuf = payload ++ rest) :
    st.handle config reply (.ok (some payload.length)) =
      if payload.length < 20 then .ok st
      else (injectInboundPacket config reply payload).map fun out =>
        { st with
          packetsReceived := st.packetsReceived + 1
          packetsInjected := if out.1 then st.packetsInjected + 1 else st.packetsInjected
          bytesRx := st.bytesRx + payload.length } := by
  have hle : payload.length ≤ st.recvBuf.length := by
    rw [h, List.length_append]
    exact Nat.le_add_right _ _
  rw [handle, slice_of_le (Nat.zero_le _) hle, h, List.take_left, List.drop_zero, ok_bind]
  split
  · rfl
  · cases injectInboundPacket config reply payload with
    | error fault => rfl
    | ok out => rfl

/-- A turn in which nothing is delivered. -/
theorem turn_undelivered (fits : bytes.length ≤ recvBufLen)
    (h : ¬ (Relay.UdpRelay.Accepts st.relay now sender ∧
      Relay.UdpRelay.Deliverable st.relay bytes st.recvBuf)) :
    ∃ st', st.turn now config reply (.datagram bytes fits sender) = .ok st' := by
  obtain ⟨out, hout, -, ⟨hdel, -⟩ | ⟨-, hun⟩⟩ :=
    st.relay.receiveInbound_spec now fits sender st.recvBuf
  · exact absurd hdel h
  · rw [turn, hout, ok_bind, hun.result]
    exact ⟨_, rfl⟩

/-- A turn in which a payload is delivered. -/
theorem turn_delivered (config : InboundConfig) (reply : MstcpReply)
    (fits : bytes.length ≤ recvBufLen)
    (hacc : Relay.UdpRelay.Accepts st.relay now sender)
    (hdel : Relay.UdpRelay.Deliverable st.relay bytes st.recvBuf) :
    (Overruns (bytes.drop sessionIdLen) ∧
        st.turn now config reply (.datagram bytes fits sender) = .error .outOfBounds) ∨
      (¬ Overruns (bytes.drop sessionIdLen) ∧
        ∃ st', st.turn now config reply (.datagram bytes fits sender) = .ok st') := by
  obtain ⟨out, hout, -, ⟨-, rfl⟩ | ⟨hnot, -⟩⟩ :=
    st.relay.receiveInbound_spec now fits sender st.recvBuf
  · rw [turn, hout, ok_bind, handle_payload rfl]
    rcases injectInboundPacket_cases config reply (bytes.drop sessionIdLen) with
      ⟨hover, herr⟩ | ⟨hover, injected, hok⟩
    · refine Or.inl ⟨hover, ?_⟩
      have hlong : ¬ (bytes.drop sessionIdLen).length < 20 := by
        have hmany : intermediateBufferLen < 14 + (bytes.drop sessionIdLen).length := hover.1
        rw [intermediateBufferLen] at hmany
        omega
      rw [if_neg hlong, herr]
      rfl
    · refine Or.inr ⟨hover, ?_⟩
      rw [hok]
      split
      · exact ⟨_, rfl⟩
      · exact ⟨_, rfl⟩
  · exact absurd ⟨hacc, hdel⟩ hnot

/-- **When a datagram is injected safely.**  In a turn with the receiver's own buffer, no copy goes
out of range and any frame built from an accepted payload fits the driver's buffer, unless the
datagram is accepted, deliverable and of 1509 to 1516 bytes. -/
theorem inbound_frame_fits_iff (hbuf : st.recvBuf.length = receiverBufLen) (now : Instant)
    (fits : bytes.length ≤ recvBufLen) (sender : SocketAddr) (config : InboundConfig)
    (reply : MstcpReply) :
    ((∃ st', st.turn now config reply (.datagram bytes fits sender) = .ok st') ∧
        (Relay.UdpRelay.Accepts st.relay now sender →
          Relay.UdpRelay.Deliverable st.relay bytes st.recvBuf →
            ∀ frame ∈ inboundFrame config (bytes.drop sessionIdLen),
              frame.length = 14 + (bytes.drop sessionIdLen).length ∧
                frame.length ≤ intermediateBufferLen)) ↔
      ¬ (Relay.UdpRelay.Accepts st.relay now sender ∧ bytes.take sessionIdLen = st.relay.sessionId ∧
        bytes[sessionIdLen]? ≠ some resolveResponseFrameType ∧
        1509 ≤ bytes.length ∧ bytes.length ≤ 1516) := by
  have hid : sessionIdLen = 8 := rfl
  have hcap : intermediateBufferLen = 1514 := rfl
  have hmax : maxEtherFrame = 1522 := rfl
  have hrecv : recvBufLen = 1600 := rfl
  have hroom : (bytes.drop sessionIdLen).length ≤ st.recvBuf.length := by
    rw [hbuf, receiverBufLen, List.length_drop]
    omega
  have hover : Overruns (bytes.drop sessionIdLen) ↔ 1509 ≤ bytes.length ∧ bytes.length ≤ 1516 := by
    rw [Overruns, List.length_drop]
    omega
  by_cases hdel : Relay.UdpRelay.Accepts st.relay now sender ∧
      Relay.UdpRelay.Deliverable st.relay bytes st.recvBuf
  · obtain ⟨hacc, hdel⟩ := hdel
    rcases turn_delivered config reply fits hacc hdel with
      ⟨hlong, herr⟩ | ⟨hshort, hok⟩
    · refine iff_of_false ?_ ?_
      · rintro ⟨⟨st', hok⟩, -⟩
        rw [herr] at hok
        cases hok
      · exact not_not.mpr ⟨hacc, hdel.session, hdel.notResolve, hover.mp hlong⟩
    · refine iff_of_true ⟨hok, fun _ _ frame hframe => ?_⟩ ?_
      · have hlen := length_of_inboundFrame hframe
        refine ⟨hlen, ?_⟩
        by_contra hbig
        refine hshort ⟨by omega, ?_⟩
        by_contra hrejected
        rw [inboundFrame, if_pos (Nat.lt_of_not_le hrejected)] at hframe
        cases hframe
      · rintro ⟨-, -, -, hsize⟩
        exact hshort (hover.mpr hsize)
  · refine iff_of_true ⟨turn_undelivered fits hdel, fun hacc hd => absurd ⟨hacc, hd⟩ hdel⟩ ?_
    rintro ⟨hacc, hsession, htype, -⟩
    exact hdel ⟨hacc, hsession, htype, hroom⟩

/-- A receiver whose relay has been set up. -/
def fresh : ReceiverState where
  relay :=
    Relay.UdpRelay.new 0 ⟨.v4 ⟨127, 0, 0, 1⟩, 51821⟩ [1, 2, 3, 4, 5, 6, 7, 8] exampleSession_length
  recvBuf := List.replicate receiverBufLen 0
  packetsReceived := 0
  packetsInjected := 0
  bytesRx := 0

def sampleConfig : InboundConfig := ⟨[0x02, 0, 0, 0, 0, 0x07], rfl⟩

/-- A datagram of the session, with a payload of zeros. -/
def sessionDatagram (n : Nat) : Bytes := [1, 2, 3, 4, 5, 6, 7, 8] ++ List.replicate n 0

theorem sessionDatagram_length (n : Nat) : (sessionDatagram n).length = 8 + n := by
  rw [sessionDatagram, List.length_append, List.length_replicate]
  rfl

theorem sessionDatagram_fits {n : Nat} (h : n ≤ 1592) : (sessionDatagram n).length ≤ recvBufLen := by
  rw [sessionDatagram_length, recvBufLen]
  omega

theorem fresh_accepts : Relay.UdpRelay.Accepts fresh.relay 0 ⟨.v4 ⟨127, 0, 0, 1⟩, 51821⟩ :=
  ⟨by decide, Or.inl rfl⟩

/-- **1508 bytes of payload end the process.** -/
theorem overlong_datagram_panics :
    fresh.recvBuf.length = receiverBufLen ∧
      fresh.turn 0 sampleConfig ⟨true, true⟩ (.datagram (sessionDatagram 1508)
        (sessionDatagram_fits (by decide)) ⟨.v4 ⟨127, 0, 0, 1⟩, 51821⟩) = .error .outOfBounds := by
  have hbuf : fresh.recvBuf.length = receiverBufLen := List.length_replicate
  refine ⟨hbuf, ?_⟩
  have hpayload : (sessionDatagram 1508).drop sessionIdLen = List.replicate 1508 0 := rfl
  have hdel : Relay.UdpRelay.Deliverable fresh.relay (sessionDatagram 1508) fresh.recvBuf := by
    refine ⟨rfl, by decide, ?_⟩
    rw [hbuf, hpayload, List.length_replicate, receiverBufLen]
    omega
  rcases turn_delivered sampleConfig ⟨true, true⟩ (sessionDatagram_fits (by decide)) fresh_accepts
    hdel with ⟨-, herr⟩ | ⟨hshort, -⟩
  · exact herr
  · refine absurd ?_ hshort
    rw [hpayload, Overruns, List.length_replicate, intermediateBufferLen, maxEtherFrame]
    omega

/-- A datagram of the usual size is injected. -/
theorem usual_datagram_injected :
    (∃ st', fresh.turn 0 sampleConfig ⟨true, true⟩ (.datagram (sessionDatagram 1500)
      (sessionDatagram_fits (by decide)) ⟨.v4 ⟨127, 0, 0, 1⟩, 51821⟩) = .ok st') := by
  refine ((inbound_frame_fits_iff List.length_replicate 0 (sessionDatagram_fits (by decide)) _ _ _).mpr
    ?_).1
  rintro ⟨-, -, -, hsize⟩
  rw [sessionDatagram_length] at hsize
  omega

end ReceiverState

end SwiftTunnel
