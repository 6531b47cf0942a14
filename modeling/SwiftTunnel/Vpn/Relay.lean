/-
# `UdpRelay`: what leaves through the relay, and what is let in

`relay.rs`.  A relay has one socket.  What it sends goes to the current relay address; what
arrives may come from anyone, and `receive_inbound` lets through what the current relay sends
and, for a while after a switch, what the previous one sends.

A call of `receive_inbound` reads the socket once; what the socket gives it is an argument.  The
address swaps of `switch_relay` are one step: a call of another thread comes before or after.
The connection manager knows a relay by its address alone; this is the whole of it.

The receive buffer is longer than a datagram, so every read of a field has to stay within what has
been received; `receiveAccepted_eq` goes through the branches once and shows that none panics.  Who
is let in is `Accepts`, what is delivered `Deliverable`, and the parts that no call touches are
`SameRoute`.

* `receiveInbound_spec`: when a datagram is delivered, and what a call that delivers nothing
  leaves alone.
* `previous_wasRelay`, `wasRelay_of_inGrace`: the invariant of a run.  The address before the last
  switch was the relay's when that switch was made.
* `inbound_acceptance`: over every run of switches, authentications and arrivals, the sender of
  a delivered datagram is the relay of that moment, or was less than two seconds before.

A sender is what the socket reports.  That an address can be forged is not a matter of this code.
-/
import SwiftTunnel.Lib.Run
import SwiftTunnel.Vpn.AutoRouting
import SwiftTunnel.Vpn.Resolve

namespace SwiftTunnel.Relay

open Rust

/-! ## 1. The relay -/

/-- `RelayAuthAckStatus`. -/
inductive RelayAuthAckStatus where
  | ok
  | badFormat
  | badSignature
  | expired
  | sidMismatch
  | serverMismatch
  | authDisabled
  | replay
  deriving DecidableEq, Repr

/-- `from_u8`. -/
def RelayAuthAckStatus.fromU8 (value : UInt8) : Option RelayAuthAckStatus :=
  if value = 0 then some ok
  else if value = 1 then some badFormat
  else if value = 2 then some badSignature
  else if value = 3 then some expired
  else if value = 4 then some sidMismatch
  else if value = 5 then some serverMismatch
  else if value = 6 then some authDisabled
  else if value = 7 then some replay
  else none

/-- `UdpRelay`, without its socket and the stop flag of its owner. -/
structure UdpRelay where
  relayAddr : SocketAddr
  previousRelayAddr : Option SocketAddr
  switchTime : Option Instant
  sessionId : Bytes
  sessionId_length : sessionId.length = sessionIdLen
  packetsSent : UInt64
  packetsReceived : UInt64
  lastActivity : Instant
  /-- The address being authenticated while a session runs. -/
  pendingAuthAddr : Option SocketAddr
  lastAuthAck : Option (SocketAddr × RelayAuthAckStatus)
  lastResolveResponse : ResolveSlot

def maxPayloadSize : Nat := 1500

def relaySwitchGracePeriod : Duration := Duration.fromSecs 2

/-- `AUTH_ACK_FRAME_TYPE`. -/
def authAckFrameType : UInt8 := 0xA2

/-- `RESOLVE_RESPONSE_FRAME_TYPE`. -/
def resolveResponseFrameType : UInt8 := 0xA7

/-- `[0u8; 1600]`, the length of the receive buffer. -/
def recvBufLen : Nat := 1600

namespace UdpRelay

/-- `new`, once the socket is bound. -/
def new (now : Instant) (relayAddr : SocketAddr) (sessionId : Bytes)
    (hid : sessionId.length = sessionIdLen) : UdpRelay where
  relayAddr := relayAddr
  previousRelayAddr := none
  switchTime := none
  sessionId := sessionId
  sessionId_length := hid
  packetsSent := 0
  packetsReceived := 0
  lastActivity := now
  pendingAuthAddr := none
  lastAuthAck := none
  lastResolveResponse := none

def switchRelay (r : UdpRelay) (now : Instant) (newAddr : SocketAddr) : UdpRelay :=
  { r with
    previousRelayAddr := some r.relayAddr
    switchTime := some now
    relayAddr := newAddr }

/-- The start of `authenticate_addr_with_ticket`. -/
def beginAuth (r : UdpRelay) (target : SocketAddr) : UdpRelay :=
  { r with pendingAuthAddr := some target, lastAuthAck := none }

/-- The end of `authenticate_addr_with_ticket`. -/
def endAuth (r : UdpRelay) : UdpRelay := { r with pendingAuthAddr := none }

/-! ### Sending -/

/-- What the socket says to a `send_to`. -/
inductive SendReply where
  | sent (n : Nat)
  | wouldBlock
  | failed (e : String)

/-- What a call of `forward_outbound` does: the datagrams it hands to the socket, and what it
returns. -/
structure Outbound where
  datagrams : List (Bytes × SocketAddr)
  result : Except String Nat
  relay : UdpRelay

/-- `forward_outbound`; `first` and `retry` are the socket's answers. -/
def forwardOutbound (r : UdpRelay) (now : Instant) (payload : Bytes) (first retry : SendReply) :
    Outbound :=
  if maxPayloadSize < payload.length then ⟨[], .ok 0, r⟩
  else
    let packet := (r.sessionId ++ payload, r.relayAddr)
    let counted := { r with packetsSent := r.packetsSent + 1, lastActivity := now }
    match first with
    | .sent n => ⟨[packet], .ok n, counted⟩
    | .failed e => ⟨[packet], .error e, r⟩
    | .wouldBlock => match retry with
      | .sent n => ⟨[packet, packet], .ok n, counted⟩
      | .failed e => ⟨[packet, packet], .error ("Retry send failed: " ++ e), r⟩
      | .wouldBlock => ⟨[packet, packet], .error "Retry send failed: would block", r⟩

/-! ### Receiving -/

/-- What a `recv_from` gives: a datagram that fits the buffer and its sender, nothing before the
timeout, or an error. -/
inductive Recv where
  | datagram (bytes : Bytes) (fits : bytes.length ≤ recvBufLen) (sender : SocketAddr)
  | nothing
  | failed (e : String)

/-- What a call of `receive_inbound` returns, the caller's buffer after it, and the relay. -/
structure Inbound where
  result : Except String (Option Nat)
  buffer : Bytes
  relay : UdpRelay

/-- The acknowledgement in a datagram from the address being authenticated. -/
def recordAuthAck (r : UdpRelay) (recvBuf : Bytes) (len : Nat) (sender : SocketAddr) :
    Checked UdpRelay :=
  if sessionIdLen + 2 ≤ len then do
    let id ← slice recvBuf 0 sessionIdLen
    let frameType ← index recvBuf sessionIdLen
    if id = r.sessionId ∧ frameType = authAckFrameType then
      let value ← index recvBuf (sessionIdLen + 1)
      let status := (RelayAuthAckStatus.fromU8 value).getD .badFormat
      return { r with lastAuthAck := some (sender, status) }
    else return r
  else return r

/-- `in_grace`: the sender is the relay before the last switch, and that was not long ago. -/
def inGrace (r : UdpRelay) (now : Instant) (sender : SocketAddr) : Bool :=
  match r.previousRelayAddr, r.switchTime with
  | some prev, some switchedAt =>
    sender == prev && decide (durationSince now switchedAt < relaySwitchGracePeriod)
  | _, _ => false

/-- The end of `receive_inbound`, for a datagram of the session. -/
def deliver (r : UdpRelay) (now : Instant) (recvBuf : Bytes) (len : Nat) (buffer : Bytes) :
    Checked Inbound :=
  let payloadLen := len - sessionIdLen
  if buffer.length < payloadLen then .ok ⟨.ok none, buffer, r⟩
  else do
    let payload ← slice recvBuf sessionIdLen len
    return ⟨.ok (some payloadLen), payload ++ buffer.drop payloadLen,
      { r with packetsReceived := r.packetsReceived + 1, lastActivity := now }⟩

/-- The part of `receive_inbound` after the sender has been accepted. -/
def receiveAccepted (r : UdpRelay) (now : Instant) (recvBuf : Bytes) (len : Nat) (buffer : Bytes) :
    Checked Inbound :=
  if len < sessionIdLen then .ok ⟨.ok none, buffer, r⟩
  else do
    if (← slice recvBuf 0 sessionIdLen) ≠ r.sessionId then return ⟨.ok none, buffer, r⟩
    else if sessionIdLen < len then
      if (← index recvBuf sessionIdLen) = resolveResponseFrameType then
        match ← parseResolveResponse recvBuf len with
        | some parsed => return ⟨.ok none, buffer, { r with lastResolveResponse := some parsed }⟩
        | none => return ⟨.ok none, buffer, r⟩
      else r.deliver now recvBuf len buffer
    else r.deliver now recvBuf len buffer

/-- `recv_buf` after a datagram has come. -/
def recvBufOf (bytes : Bytes) : Bytes := bytes ++ List.replicate (recvBufLen - bytes.length) 0

/-- `receive_inbound`. -/
def receiveInbound (r : UdpRelay) (now : Instant) (recv : Recv) (buffer : Bytes) :
    Checked Inbound :=
  match recv with
  | .nothing => .ok ⟨.ok none, buffer, r⟩
  | .failed e => .ok ⟨.error e, buffer, r⟩
  | .datagram bytes _ sender =>
    let recvBuf := recvBufOf bytes
    if r.pendingAuthAddr = some sender then do
      let r ← r.recordAuthAck recvBuf bytes.length sender
      return ⟨.ok none, buffer, r⟩
    else if sender ≠ r.relayAddr ∧ r.inGrace now sender = false then .ok ⟨.ok none, buffer, r⟩
    else r.receiveAccepted now recvBuf bytes.length buffer

/-! ## 2. What a call does -/

theorem recvBufOf_length {bytes : Bytes} (fits : bytes.length ≤ recvBufLen) :
    (recvBufOf bytes).length = recvBufLen := by
  simp only [recvBufOf, List.length_append, List.length_replicate]
  omega

/-- In the received part of the buffer the bytes are those of the datagram. -/
theorem slice_recvBufOf {bytes : Bytes} {a b : Nat} (hab : a ≤ b) (hb : b ≤ bytes.length) :
    slice (recvBufOf bytes) a b = .ok ((bytes.take b).drop a) := by
  rw [slice_of_le hab (by simp only [recvBufOf, List.length_append]; omega), recvBufOf,
    List.take_append_of_le_length hb]

theorem index_recvBufOf {bytes : Bytes} {i : Nat} (hi : i < bytes.length) :
    index (recvBufOf bytes) i = .ok (byteAt bytes i) := by
  simp only [index, recvBufOf, byteAt, List.getElem?_append_left hi, List.getElem?_eq_getElem hi,
    List.getD_eq_getElem?_getD, Option.getD_some]

section Receive

variable {r : UdpRelay} {now : Instant} {bytes buffer : Bytes} {sender : SocketAddr}

/-- The relay lets the sender through: it is not being authenticated, and it is the relay of the
moment or the one before within its grace. -/
structure Accepts (r : UdpRelay) (now : Instant) (sender : SocketAddr) : Prop where
  notPending : r.pendingAuthAddr ≠ some sender
  known : sender = r.relayAddr ∨ r.inGrace now sender = true

/-- A datagram of the session that is for the caller and that fits the caller's buffer. -/
structure Deliverable (r : UdpRelay) (bytes buffer : Bytes) : Prop where
  session : bytes.take sessionIdLen = r.sessionId
  notResolve : bytes[sessionIdLen]? ≠ some resolveResponseFrameType
  fits : (bytes.drop sessionIdLen).length ≤ buffer.length

/-- What a call that delivers nothing leaves alone. -/
structure Undelivered (r : UdpRelay) (buffer : Bytes) (out : Inbound) : Prop where
  result : out.result = .ok none
  buffer : out.buffer = buffer
  received : out.relay.packetsReceived = r.packetsReceived

/-- What no call of `receive_inbound` touches. -/
structure SameRoute (r r' : UdpRelay) : Prop where
  relayAddr : r'.relayAddr = r.relayAddr
  previousRelayAddr : r'.previousRelayAddr = r.previousRelayAddr
  switchTime : r'.switchTime = r.switchTime
  sessionId : r'.sessionId = r.sessionId
  pendingAuthAddr : r'.pendingAuthAddr = r.pendingAuthAddr

theorem SameRoute.refl (r : UdpRelay) : SameRoute r r := ⟨rfl, rfl, rfl, rfl, rfl⟩

/-- The relay after a delivery. -/
def delivered (r : UdpRelay) (now : Instant) : UdpRelay :=
  { r with packetsReceived := r.packetsReceived + 1, lastActivity := now }

/-- An acknowledgement goes to its slot, and nowhere else. -/
theorem recordAuthAck_ok (r : UdpRelay) (bytes : Bytes) (sender : SocketAddr) :
    ∃ ack, r.recordAuthAck (recvBufOf bytes) bytes.length sender =
      .ok { r with lastAuthAck := ack } := by
  rw [recordAuthAck]
  by_cases hlen : sessionIdLen + 2 ≤ bytes.length
  · rw [if_pos hlen, slice_recvBufOf (by omega) (by omega), index_recvBufOf (by omega)]
    simp only [bind, Except.bind]
    split
    · rw [index_recvBufOf (by omega)]
      exact ⟨_, rfl⟩
    · exact ⟨r.lastAuthAck, rfl⟩
  · exact ⟨r.lastAuthAck, if_neg hlen⟩

theorem deliver_ok (r : UdpRelay) (now : Instant) (buffer : Bytes) {bytes : Bytes}
    (hlen : sessionIdLen ≤ bytes.length) :
    r.deliver now (recvBufOf bytes) bytes.length buffer =
      if (bytes.drop sessionIdLen).length ≤ buffer.length then
        .ok ⟨.ok (some (bytes.drop sessionIdLen).length),
          bytes.drop sessionIdLen ++ buffer.drop (bytes.drop sessionIdLen).length, r.delivered now⟩
      else .ok ⟨.ok none, buffer, r⟩ := by
  rw [deliver, List.length_drop]
  by_cases hfit : buffer.length < bytes.length - sessionIdLen
  · rw [if_pos hfit, if_neg (by omega)]
  · rw [if_neg hfit, if_pos (by omega), slice_recvBufOf hlen (Nat.le_refl _), List.take_length]
    rfl

theorem le_length_of_session {r : UdpRelay} {bytes : Bytes}
    (h : bytes.take sessionIdLen = r.sessionId) : sessionIdLen ≤ bytes.length := by
  have hid := congrArg List.length h
  rw [List.length_take, r.sessionId_length] at hid
  omega

/-- **The call on a datagram whose sender is accepted**: one of another session is dropped, a
resolve response goes to its slot, and all others are delivered. -/
theorem receiveAccepted_eq (r : UdpRelay) (now : Instant) (bytes buffer : Bytes) :
    r.receiveAccepted now (recvBufOf bytes) bytes.length buffer =
      if bytes.take sessionIdLen ≠ r.sessionId then .ok ⟨.ok none, buffer, r⟩
      else if bytes[sessionIdLen]? = some resolveResponseFrameType then
        (parseResolveResponse (recvBufOf bytes) bytes.length).map fun parsed =>
          ⟨.ok none, buffer, { r with lastResolveResponse := parsed.or r.lastResolveResponse }⟩
      else r.deliver now (recvBufOf bytes) bytes.length buffer := by
  rw [receiveAccepted]
  by_cases hshort : bytes.length < sessionIdLen
  · have hid : bytes.take sessionIdLen ≠ r.sessionId := fun h =>
      Nat.not_le.mpr hshort (le_length_of_session h)
    rw [if_pos hshort, if_pos hid]
  · rw [if_neg hshort, slice_recvBufOf (Nat.zero_le _) (Nat.not_lt.mp hshort), List.drop_zero]
    simp only [bind, Except.bind]
    by_cases hid : bytes.take sessionIdLen ≠ r.sessionId
    · rw [if_pos hid, if_pos hid]
      rfl
    · rw [if_neg hid, if_neg hid]
      by_cases hmore : sessionIdLen < bytes.length
      · have hbyte : bytes[sessionIdLen]? = some (byteAt bytes sessionIdLen) := by
          simp [byteAt, List.getElem?_eq_getElem hmore]
        simp only [if_pos hmore, index_recvBufOf hmore, hbyte, Option.some.injEq]
        by_cases htype : byteAt bytes sessionIdLen = resolveResponseFrameType
        · rw [if_pos htype, if_pos htype]
          cases parseResolveResponse (recvBufOf bytes) bytes.length with
          | error e => rfl
          | ok parsed => cases parsed <;> rfl
        · rw [if_neg htype, if_neg htype]
      · have hnone : bytes[sessionIdLen]? = none :=
          List.getElem?_eq_none (Nat.not_lt.mp hmore)
        rw [if_neg hmore, hnone, if_neg (by simp)]

/-- A datagram of the session that is no resolve response is delivered when it fits. -/
theorem deliver_spec {r : UdpRelay} (now : Instant) {bytes buffer : Bytes}
    (hid : bytes.take sessionIdLen = r.sessionId)
    (hnot : bytes[sessionIdLen]? ≠ some resolveResponseFrameType) :
    ∃ out, r.deliver now (recvBufOf bytes) bytes.length buffer = .ok out ∧
      SameRoute r out.relay ∧
      ((Deliverable r bytes buffer ∧ out = ⟨.ok (some (bytes.drop sessionIdLen).length),
          bytes.drop sessionIdLen ++ buffer.drop (bytes.drop sessionIdLen).length,
          r.delivered now⟩) ∨
        (¬ Deliverable r bytes buffer ∧ Undelivered r buffer out)) := by
  rw [deliver_ok r now buffer (le_length_of_session hid)]
  by_cases hfit : (bytes.drop sessionIdLen).length ≤ buffer.length
  · exact ⟨_, if_pos hfit, ⟨rfl, rfl, rfl, rfl, rfl⟩, Or.inl ⟨⟨hid, hnot, hfit⟩, rfl⟩⟩
  · exact ⟨_, if_neg hfit, SameRoute.refl r, Or.inr ⟨fun hd => hfit hd.fits, rfl, rfl, rfl⟩⟩

theorem receiveAccepted_spec (r : UdpRelay) (now : Instant) (bytes buffer : Bytes)
    (hbuf : bytes.length ≤ recvBufLen) :
    ∃ out, r.receiveAccepted now (recvBufOf bytes) bytes.length buffer = .ok out ∧
      SameRoute r out.relay ∧
      ((Deliverable r bytes buffer ∧ out = ⟨.ok (some (bytes.drop sessionIdLen).length),
          bytes.drop sessionIdLen ++ buffer.drop (bytes.drop sessionIdLen).length,
          r.delivered now⟩) ∨
        (¬ Deliverable r bytes buffer ∧ Undelivered r buffer out)) := by
  rw [receiveAccepted_eq]
  by_cases hid : bytes.take sessionIdLen = r.sessionId
  · rw [if_neg (not_not.mpr hid)]
    by_cases htype : bytes[sessionIdLen]? = some resolveResponseFrameType
    · have hlen : bytes.length ≤ (recvBufOf bytes).length := (recvBufOf_length hbuf).symm ▸ hbuf
      obtain ⟨parsed, hparsed⟩ := parseResolveResponse_ok hlen
      rw [if_pos htype, hparsed]
      exact ⟨_, rfl, ⟨rfl, rfl, rfl, rfl, rfl⟩,
        Or.inr ⟨fun hd => hd.notResolve htype, rfl, rfl, rfl⟩⟩
    · rw [if_neg htype]
      exact deliver_spec now hid htype
  · rw [if_pos hid]
    exact ⟨_, rfl, SameRoute.refl r, Or.inr ⟨fun hd => hid hd.session, rfl, rfl, rfl⟩⟩

/-- **What a call does with a datagram**: it delivers the bytes after the session id when the
sender is accepted and the datagram deliverable, and otherwise nothing.  It never panics. -/
theorem receiveInbound_spec (r : UdpRelay) (now : Instant) (fits : bytes.length ≤ recvBufLen)
    (sender : SocketAddr) (buffer : Bytes) :
    ∃ out, r.receiveInbound now (.datagram bytes fits sender) buffer = .ok out ∧
      SameRoute r out.relay ∧
      (((Accepts r now sender ∧ Deliverable r bytes buffer) ∧
          out = ⟨.ok (some (bytes.drop sessionIdLen).length),
            bytes.drop sessionIdLen ++ buffer.drop (bytes.drop sessionIdLen).length,
            r.delivered now⟩) ∨
        (¬ (Accepts r now sender ∧ Deliverable r bytes buffer) ∧ Undelivered r buffer out)) := by
  rw [receiveInbound]
  by_cases hpend : r.pendingAuthAddr = some sender
  · obtain ⟨ack, hack⟩ := recordAuthAck_ok r bytes sender
    rw [if_pos hpend, hack]
    exact ⟨_, rfl, ⟨rfl, rfl, rfl, rfl, rfl⟩,
      Or.inr ⟨fun h => h.1.notPending hpend, rfl, rfl, rfl⟩⟩
  · rw [if_neg hpend]
    by_cases hstrange : sender ≠ r.relayAddr ∧ r.inGrace now sender = false
    · refine ⟨_, if_pos hstrange, SameRoute.refl r, Or.inr ⟨?_, rfl, rfl, rfl⟩⟩
      rintro ⟨hacc, -⟩
      rcases hacc.known with h | h
      · exact hstrange.1 h
      · rw [hstrange.2] at h
        exact nomatch h
    · have hacc : Accepts r now sender := by
        refine ⟨hpend, ?_⟩
        rw [not_and_or, not_not, Bool.not_eq_false] at hstrange
        exact hstrange
      rw [if_neg hstrange]
      obtain ⟨out, hout, hsame, hcase⟩ := receiveAccepted_spec r now bytes buffer fits
      refine ⟨out, hout, hsame, ?_⟩
      rcases hcase with ⟨hd, heq⟩ | ⟨hd, hun⟩
      · exact Or.inl ⟨⟨hacc, hd⟩, heq⟩
      · exact Or.inr ⟨fun h => hd h.2, hun⟩

end Receive

end UdpRelay

/-! ## 3. Runs -/

/-- A relay and the time. -/
structure RelayState where
  now : Instant
  relay : UdpRelay

/-- What happens next. -/
inductive RelayInput where
  | switchRelay (addr : SocketAddr)
  | beginAuth (target : SocketAddr)
  | endAuth
  | receive (recv : UdpRelay.Recv) (buffer : Bytes)
  /-- Time passes. -/
  | tick (d : Duration)

/-- One event; a receive shows its result and the caller's buffer. -/
def RelayStep (st : RelayState) (i : RelayInput)
    (o : Option (Except String (Option Nat) × Bytes)) (st' : RelayState) : Prop :=
  match i with
  | .switchRelay addr => o = none ∧ st' = ⟨st.now, st.relay.switchRelay st.now addr⟩
  | .beginAuth target => o = none ∧ st' = ⟨st.now, st.relay.beginAuth target⟩
  | .endAuth => o = none ∧ st' = ⟨st.now, st.relay.endAuth⟩
  | .receive recv buffer =>
    ∃ out, st.relay.receiveInbound st.now recv buffer = .ok out ∧
      o = some (out.result, out.buffer) ∧ st' = ⟨st.now, out.relay⟩
  | .tick d => o = none ∧ st' = ⟨st.now + d, st.relay⟩

/-- In this run, `addr` was the relay address at the time `t`. -/
def WasRelay (st₀ : RelayState)
    (es : List (RelayInput × Option (Except String (Option Nat) × Bytes))) (st : RelayState)
    (addr : SocketAddr) (t : Instant) : Prop :=
  ∃ es₁ es₂ st₁, es = es₁ ++ es₂ ∧ Run RelayStep st₀ es₁ st₁ ∧ Run RelayStep st₁ es₂ st ∧
    st₁.relay.relayAddr = addr ∧ st₁.now = t

section Runs

variable {st₀ st st' : RelayState}
  {es : List (RelayInput × Option (Except String (Option Nat) × Bytes))} {i : RelayInput}
  {o : Option (Except String (Option Nat) × Bytes)}

/-- What was the relay at some time still was it after another event. -/
theorem wasRelay_concat {addr : SocketAddr} {t : Instant} (h : WasRelay st₀ es st addr t)
    (hstep : RelayStep st i o st') : WasRelay st₀ (es ++ [(i, o)]) st' addr t := by
  obtain ⟨es₁, es₂, st₁, rfl, h1, h2, haddr, ht⟩ := h
  exact ⟨es₁, es₂ ++ [(i, o)], st₁, List.append_assoc es₁ es₂ _, h1,
    run_concat_iff.mpr ⟨st, h2, hstep⟩, haddr, ht⟩

/-- The switch history is that of the event before, or it is written by a switch. -/
theorem relayStep_cases (hstep : RelayStep st i o st') :
    (st'.relay.previousRelayAddr = st.relay.previousRelayAddr ∧
      st'.relay.switchTime = st.relay.switchTime) ∨
    (st'.relay.previousRelayAddr = some st.relay.relayAddr ∧
      st'.relay.switchTime = some st.now) := by
  cases i with
  | switchRelay addr =>
    obtain ⟨-, rfl⟩ := hstep
    exact Or.inr ⟨rfl, rfl⟩
  | beginAuth target =>
    obtain ⟨-, rfl⟩ := hstep
    exact Or.inl ⟨rfl, rfl⟩
  | endAuth =>
    obtain ⟨-, rfl⟩ := hstep
    exact Or.inl ⟨rfl, rfl⟩
  | tick d =>
    obtain ⟨-, rfl⟩ := hstep
    exact Or.inl ⟨rfl, rfl⟩
  | receive recv buffer =>
    obtain ⟨out, hout, -, rfl⟩ := hstep
    refine Or.inl ?_
    cases recv with
    | datagram bytes fits sender =>
      obtain ⟨out', hout', hsame, -⟩ := st.relay.receiveInbound_spec st.now fits sender buffer
      rw [hout] at hout'
      obtain rfl := Except.ok.inj hout'
      exact ⟨hsame.previousRelayAddr, hsame.switchTime⟩
    | nothing =>
      obtain rfl := Except.ok.inj hout
      exact ⟨rfl, rfl⟩
    | failed e =>
      obtain rfl := Except.ok.inj hout
      exact ⟨rfl, rfl⟩

/-- **The previous address was the relay at the time of the switch.** -/
theorem previous_wasRelay (hnew : st₀.relay.previousRelayAddr = none)
    (hrun : Run RelayStep st₀ es st) : ∀ prev t, st.relay.previousRelayAddr = some prev →
      st.relay.switchTime = some t → WasRelay st₀ es st prev t := by
  refine hrun.history (P := fun es st => ∀ prev t, st.relay.previousRelayAddr = some prev →
    st.relay.switchTime = some t → WasRelay st₀ es st prev t) ?_ ?_
  · intro prev t hprev _
    rw [hnew] at hprev
    exact nomatch hprev
  · intro es st i o st' hrun ih hstep prev t hprev ht
    rcases relayStep_cases hstep with ⟨hp, hs⟩ | ⟨hp, hs⟩
    · rw [hp] at hprev
      rw [hs] at ht
      exact wasRelay_concat (ih prev t hprev ht) hstep
    · rw [hp] at hprev
      rw [hs] at ht
      exact ⟨es, [(i, o)], st, rfl, hrun, Run.cons hstep (Run.nil st'),
        Option.some.inj hprev, Option.some.inj ht⟩

/-- A sender within its grace was the relay less than two seconds ago. -/
theorem wasRelay_of_inGrace (hnew : st₀.relay.previousRelayAddr = none)
    (hrun : Run RelayStep st₀ es st) {sender : SocketAddr}
    (h : st.relay.inGrace st.now sender = true) :
    ∃ t, WasRelay st₀ es st sender t ∧ durationSince st.now t < relaySwitchGracePeriod := by
  rw [UdpRelay.inGrace] at h
  split at h
  · rename_i prev switchedAt hprev hswitch
    rw [Bool.and_eq_true, beq_iff_eq, decide_eq_true_eq] at h
    obtain ⟨rfl, hago⟩ := h
    exact ⟨switchedAt, previous_wasRelay hnew hrun _ _ hprev hswitch, hago⟩
  · exact nomatch h

end Runs

/-- **Inbound acceptance over relay switches.**  In every run of a new relay, a datagram is
delivered only if it is of the session and no resolve response, its sender is not being
authenticated, and its sender is the relay address or was it less than two seconds ago; what is
delivered are the bytes after the session id.  Such a datagram from the current relay that fits
the caller's buffer is delivered; a call that delivers nothing leaves the buffer and the counter
as they were. -/
theorem inbound_acceptance {now : Instant} {addr : SocketAddr} {sessionId : Bytes}
    {hid : sessionId.length = sessionIdLen}
    {es : List (RelayInput × Option (Except String (Option Nat) × Bytes))} {st : RelayState}
    (hrun : Run RelayStep ⟨now, UdpRelay.new now addr sessionId hid⟩ es st) (bytes : Bytes)
    (fits : bytes.length ≤ recvBufLen) (sender : SocketAddr) (buffer : Bytes) :
    ∃ out, st.relay.receiveInbound st.now (.datagram bytes fits sender) buffer = .ok out ∧
      (∀ n, out.result = .ok (some n) →
        (bytes.take sessionIdLen = st.relay.sessionId ∧
          bytes[sessionIdLen]? ≠ some resolveResponseFrameType ∧
          st.relay.pendingAuthAddr ≠ some sender ∧
          (sender = st.relay.relayAddr ∨
            ∃ t, WasRelay ⟨now, UdpRelay.new now addr sessionId hid⟩ es st sender t ∧
              durationSince st.now t < relaySwitchGracePeriod)) ∧
        n = (bytes.drop sessionIdLen).length ∧
        out.buffer = bytes.drop sessionIdLen ++ buffer.drop n) ∧
      (bytes.take sessionIdLen = st.relay.sessionId →
        bytes[sessionIdLen]? ≠ some resolveResponseFrameType →
        st.relay.pendingAuthAddr ≠ some sender → sender = st.relay.relayAddr →
        (bytes.drop sessionIdLen).length ≤ buffer.length →
        out.result = .ok (some (bytes.drop sessionIdLen).length)) ∧
      ((∀ n, out.result ≠ .ok (some n)) → out.buffer = buffer ∧
        out.relay.packetsReceived = st.relay.packetsReceived) := by
  obtain ⟨out, hout, -, hcase⟩ := st.relay.receiveInbound_spec st.now fits sender buffer
  refine ⟨out, hout, ?_⟩
  rcases hcase with ⟨⟨hacc, hdel⟩, rfl⟩ | ⟨hnot, hun⟩
  · refine ⟨?_, fun _ _ _ _ _ => rfl, fun hnone => absurd rfl (hnone _)⟩
    intro n hn
    obtain rfl : (bytes.drop sessionIdLen).length = n := Option.some.inj (Except.ok.inj hn)
    refine ⟨⟨hdel.session, hdel.notResolve, hacc.notPending, ?_⟩, rfl, rfl⟩
    exact hacc.known.imp_right (wasRelay_of_inGrace rfl hrun)
  · refine ⟨?_, ?_, fun _ => ⟨hun.buffer, hun.received⟩⟩
    · intro n hn
      rw [hun.result] at hn
      exact nomatch hn
    · intro hsession htype hpend hsender hfit
      exact absurd ⟨⟨hpend, Or.inl hsender⟩, ⟨hsession, htype, hfit⟩⟩ hnot

theorem exampleSession_length : ([1, 2, 3, 4, 5, 6, 7, 8] : Bytes).length = sessionIdLen := rfl

/-- A relay that has been switched to another server one second ago. -/
def switchedRelay : UdpRelay :=
  (UdpRelay.new 0 ⟨.v4 ⟨127, 0, 0, 1⟩, 51821⟩ [1, 2, 3, 4, 5, 6, 7, 8] rfl).switchRelay 0
    ⟨.v4 ⟨127, 0, 0, 1⟩, 51822⟩

/-- A datagram of the session. -/
def helloDatagram : Bytes := [1, 2, 3, 4, 5, 6, 7, 8, 0x68, 0x65, 0x6C, 0x6C, 0x6F]

/-- The previous server's datagram is let in, and its address was the relay's within the grace. -/
theorem previous_relay_let_in :
    (switchedRelay.receiveInbound 1000000000 (.datagram helloDatagram (by decide)
        ⟨.v4 ⟨127, 0, 0, 1⟩, 51821⟩) (List.replicate 64 0)).map (·.result) = .ok (.ok (some 5)) ∧
      ∃ t, WasRelay ⟨0, UdpRelay.new 0 ⟨.v4 ⟨127, 0, 0, 1⟩, 51821⟩ [1, 2, 3, 4, 5, 6, 7, 8] rfl⟩
          [(.switchRelay ⟨.v4 ⟨127, 0, 0, 1⟩, 51822⟩, none), (.tick 1000000000, none)]
          ⟨1000000000, switchedRelay⟩ ⟨.v4 ⟨127, 0, 0, 1⟩, 51821⟩ t ∧
        durationSince 1000000000 t < relaySwitchGracePeriod := by
  have hres : (switchedRelay.receiveInbound 1000000000 (.datagram helloDatagram (by decide)
      ⟨.v4 ⟨127, 0, 0, 1⟩, 51821⟩) (List.replicate 64 0)).map (·.result) = .ok (.ok (some 5)) := by
    decide +kernel
  refine ⟨hres, ?_⟩
  have hrun : Run RelayStep
      ⟨0, UdpRelay.new 0 ⟨.v4 ⟨127, 0, 0, 1⟩, 51821⟩ [1, 2, 3, 4, 5, 6, 7, 8] rfl⟩
      [(.switchRelay ⟨.v4 ⟨127, 0, 0, 1⟩, 51822⟩, none), (.tick 1000000000, none)]
      ⟨1000000000, switchedRelay⟩ :=
    Run.cons ⟨rfl, rfl⟩ (Run.cons ⟨rfl, rfl⟩ (Run.nil _))
  obtain ⟨out, hout, hdel, -⟩ := inbound_acceptance hrun helloDatagram (by decide)
    ⟨.v4 ⟨127, 0, 0, 1⟩, 51821⟩ (List.replicate 64 0)
  rw [hout] at hres
  obtain ⟨⟨-, -, -, hsender⟩, -⟩ := hdel 5 (Except.ok.inj hres)
  exact hsender.resolve_left (by decide)

end SwiftTunnel.Relay
