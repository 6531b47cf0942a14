/-
# The authentication handshake with a relay

`relay.rs`: `authenticate_with_ticket` sends a hello with the ticket and waits for the relay's
acknowledgement, with retransmits; `connection.rs`: `authenticate_relay_handshake` makes the
session's relay mode of it.

Both block on the socket.  What a `recv_from` gives, and how long it takes, is an input; a call
that has read all of a finite part of that input and still waits is `Wait.waiting`, so a
statement about all finite parts is one about every run of the socket.

One wait reads until something ends it: an acknowledgement, an error of the socket, or its deadline,
which is looked at between two reads only and so can be overrun by one of them.  `Waited` is that
description, and `Heard` the same for the attempts of a handshake taken together.  `Attempted` adds
the budget: while `k` full delays are left, at most `k` more waits of a full delay begin.

* `authAckStatus_eq`: the checks on a datagram find the acknowledgements of the session and read no
  byte outside the buffer.
* `waitForAuthAckUntil_spec`: one wait, with what it reads and when it ends.
* `relay_handshake`: the first acknowledgement of the session decides, at most three hellos are
  sent, and the budget bounds the call.
* `relay_handshake_mode`: the session counts as authenticated for one status byte only.

What the relay does with a ticket, and how the ticket is fetched, is outside: the request for it
either gives a token or does not.
-/
import Mathlib.Tactic.Linarith
import SwiftTunnel.Lib.Layout
import SwiftTunnel.Vpn.Relay

namespace SwiftTunnel.Relay

open Rust

/-! ## 1. The functions -/

/-- `AUTH_HELLO_FRAME_TYPE`. -/
def authHelloFrameType : UInt8 := 0xA1

def authHandshakeTotalTimeout : Duration := Duration.fromMillis 1500

def authHandshakeRetryDelay : Duration := Duration.fromMillis 500

def authHandshakeAttempts : Nat := 4

/-- `is_authenticated`. -/
def RelayAuthAckStatus.isAuthenticated (status : RelayAuthAckStatus) : Bool :=
  match status with
  | ok => true
  | _ => false

/-- A `recv_from`, and how long it blocks. -/
structure TimedRecv where
  took : Duration
  recv : UdpRelay.Recv

/-- What the `send_to` of each attempt says, and how long it takes. -/
structure Sends where
  took : Nat → Duration
  reply : Nat → Except String Unit

/-- How a call stands after a finite part of what the socket gives: it has returned, with the
rest unread, or it is waiting for more. -/
inductive Wait (α : Type) where
  | returned (result : α) (now : Instant) (rest : List TimedRecv)
  | waiting (now : Instant)

/-- What a handshake comes to. -/
abbrev HandshakeResult := Except String (Option RelayAuthAckStatus)

/-- The datagrams that a handshake hands to the socket, and how it stands. -/
structure Handshake where
  hellos : List (Bytes × SocketAddr)
  outcome : Wait HandshakeResult

namespace UdpRelay

/-- The frame of `send_auth_hello_to`. -/
def authHello (r : UdpRelay) (token : Bytes) : Bytes :=
  r.sessionId ++ authHelloFrameType :: (wordBytes (UInt16.ofNat token.length) ++ token)

/-- `send_auth_hello_to`, for the bytes of the token: what goes out, and what is returned. -/
def sendAuthHelloTo (r : UdpRelay) (token : Bytes) (target : SocketAddr)
    (reply : Except String Unit) : List (Bytes × SocketAddr) × Except String Unit :=
  if token = [] ∨ 65535 < token.length then
    ([], .error "Relay auth token length must be between 1 and 65535 bytes")
  else ([(r.authHello token, target)],
    reply.mapError ("Failed to send relay auth hello: " ++ ·))

/-- `send_auth_hello`. -/
def sendAuthHello (r : UdpRelay) (token : Bytes) (reply : Except String Unit) :
    List (Bytes × SocketAddr) × Except String Unit :=
  r.sendAuthHelloTo token r.relayAddr reply

/-- The checks of `wait_for_auth_ack` on a datagram. -/
def authAckStatus (r : UdpRelay) (recvBuf : Bytes) (len : Nat) (sender : SocketAddr) :
    Checked (Option RelayAuthAckStatus) :=
  if sender ≠ r.relayAddr then .ok none
  else if len < sessionIdLen + 2 then .ok none
  else do
    if (← slice recvBuf 0 sessionIdLen) ≠ r.sessionId then return none
    else if (← index recvBuf sessionIdLen) ≠ authAckFrameType then return none
    else
      let value ← index recvBuf (sessionIdLen + 1)
      return some ((RelayAuthAckStatus.fromU8 value).getD .badFormat)

/-- The loop of `wait_for_auth_ack`. -/
def waitForAuthAckUntil (r : UdpRelay) (deadline : Instant) :
    Instant → List TimedRecv → Checked (Wait HandshakeResult)
  | now, [] => .ok (if now < deadline then .waiting now else .returned (.ok none) now [])
  | now, x :: rest =>
    if now < deadline then
      match x.recv with
      | .datagram bytes _ sender => do
        match ← r.authAckStatus (recvBufOf bytes) bytes.length sender with
        | none => r.waitForAuthAckUntil deadline (now + x.took) rest
        | some status => return .returned (.ok (some status)) (now + x.took) rest
      | .nothing => r.waitForAuthAckUntil deadline (now + x.took) rest
      | .failed e => .ok (.returned (.error e) (now + x.took) rest)
    else .ok (.returned (.ok none) now (x :: rest))

/-- `wait_for_auth_ack`. -/
def waitForAuthAck (r : UdpRelay) (timeout : Duration) (now : Instant) (recvs : List TimedRecv) :
    Checked (Wait HandshakeResult) :=
  r.waitForAuthAckUntil (now + timeout) now recvs

/-- The loop of `authenticate_with_ticket`, with the number of attempts that are left. -/
def authenticateAttempts (r : UdpRelay) (token : Bytes) (sends : Sends) (deadline : Instant) :
    Nat → Instant → List TimedRecv → Checked Handshake
  | 0, now, recvs => .ok ⟨[], .returned (.ok none) now recvs⟩
  | n + 1, now, recvs =>
    let attempt := authHandshakeAttempts - (n + 1)
    let remaining := durationSince deadline now
    if remaining = 0 then .ok ⟨[], .returned (.ok none) now recvs⟩
    else
      let (sent, result) := r.sendAuthHello token (sends.reply attempt)
      let now := now + sends.took attempt
      match result with
      | .error e => .ok ⟨sent, .returned (.error e) now recvs⟩
      | .ok _ => do
        let isLastAttempt := attempt + 1 = authHandshakeAttempts
        let attemptTimeout := if isLastAttempt then remaining
          else min authHandshakeRetryDelay remaining
        match ← r.waitForAuthAck attemptTimeout now recvs with
        | .waiting now => return ⟨sent, .waiting now⟩
        | .returned (.error e) now rest => return ⟨sent, .returned (.error e) now rest⟩
        | .returned (.ok (some status)) now rest =>
          return ⟨sent, .returned (.ok (some status)) now rest⟩
        | .returned (.ok none) now rest =>
          let more ← r.authenticateAttempts token sends deadline n now rest
          return ⟨sent ++ more.hellos, more.outcome⟩

/-- `authenticate_with_ticket`. -/
def authenticateWithTicket (r : UdpRelay) (token : Bytes) (sends : Sends) (now : Instant)
    (recvs : List TimedRecv) : Checked Handshake :=
  r.authenticateAttempts token sends (now + authHandshakeTotalTimeout) authHandshakeAttempts now
    recvs

end UdpRelay

/-- `authenticate_relay_handshake`, from what the ticket request and the blocking task with the
handshake in it come to.  The arms that end alike differ in the line they log. -/
def relayAuthMode (ticket : Except String Bytes) (handshake : Except String HandshakeResult) :
    String :=
  match ticket with
  | .error _ => "legacy_fallback"
  | .ok _ => match handshake with
    | .ok (.ok (some status)) =>
      if status.isAuthenticated then "authenticated" else "legacy_fallback"
    | .ok (.ok none) => "legacy_fallback"
    | .ok (.error _) => "legacy_fallback"
    | .error _ => "legacy_fallback"

/-! ## 2. Acknowledgements -/

/-- The status in an acknowledgement of the session from its relay. -/
def UdpRelay.ackIn (r : UdpRelay) (recv : UdpRelay.Recv) : Option RelayAuthAckStatus :=
  match recv with
  | .datagram bytes _ sender =>
    if sender = r.relayAddr ∧ sessionIdLen + 2 ≤ bytes.length ∧
        bytes.take sessionIdLen = r.sessionId ∧ byteAt bytes sessionIdLen = authAckFrameType then
      some ((RelayAuthAckStatus.fromU8 (byteAt bytes (sessionIdLen + 1))).getD .badFormat)
    else none
  | .nothing => none
  | .failed _ => none

/-- The call reads on behind such answers of the socket. -/
def UdpRelay.Ignores (r : UdpRelay) (xs : List TimedRecv) : Prop :=
  ∀ x ∈ xs, r.ackIn x.recv = none ∧ ∀ e, x.recv ≠ .failed e

/-- How long the calls block together. -/
def blocked (xs : List TimedRecv) : Duration := (xs.map (·.took)).sum

@[simp] theorem blocked_nil : blocked [] = 0 := rfl

@[simp] theorem blocked_cons (x : TimedRecv) (xs : List TimedRecv) :
    blocked (x :: xs) = x.took + blocked xs := rfl

namespace UdpRelay

section Acks

variable {r : UdpRelay} {bytes : Bytes} {sender : SocketAddr}

/-- **The checks find the acknowledgements**, and read no byte outside the buffer. -/
theorem authAckStatus_eq (r : UdpRelay) (fits : bytes.length ≤ recvBufLen) (sender : SocketAddr) :
    r.authAckStatus (recvBufOf bytes) bytes.length sender =
      .ok (r.ackIn (.datagram bytes fits sender)) := by
  rw [authAckStatus, ackIn]
  by_cases hsender : sender = r.relayAddr
  · by_cases hlen : sessionIdLen + 2 ≤ bytes.length
    · rw [if_neg (not_not.mpr hsender), if_neg (by omega),
        slice_recvBufOf (by omega) (by omega), index_recvBufOf (by omega),
        index_recvBufOf (by omega), List.drop_zero]
      simp only [bind, Except.bind, hsender, hlen, true_and]
      by_cases hid : bytes.take sessionIdLen = r.sessionId
      · by_cases htype : byteAt bytes sessionIdLen = authAckFrameType
        · rw [if_neg (not_not.mpr hid), if_neg (not_not.mpr htype), if_pos ⟨hid, htype⟩]
          rfl
        · rw [if_neg (not_not.mpr hid), if_pos htype, if_neg (fun h => htype h.2)]
          rfl
      · rw [if_pos hid, if_neg (fun h => hid h.1)]
        rfl
    · rw [if_neg (not_not.mpr hsender), if_pos (by omega), if_neg (fun h => hlen h.2.1)]
  · rw [if_pos hsender, if_neg (fun h => hsender h.1)]

/-- **An acknowledgement, by its bytes.** -/
theorem ackIn_eq_some_iff {recv : Recv} {status : RelayAuthAckStatus} :
    r.ackIn recv = some status ↔ ∃ value more fits,
      recv = .datagram (r.sessionId ++ authAckFrameType :: value :: more) fits r.relayAddr ∧
        status = (RelayAuthAckStatus.fromU8 value).getD .badFormat := by
  have hid := r.sessionId_length
  constructor
  · intro h
    cases recv with
    | nothing => cases h
    | failed e => cases h
    | datagram bytes fits sender =>
      rw [ackIn] at h
      split at h
      · rename_i hack
        obtain ⟨rfl, hlen, hsession, htype⟩ := hack
        have hbytes : bytes = r.sessionId ++ authAckFrameType ::
            byteAt bytes (sessionIdLen + 1) :: bytes.drop (sessionIdLen + 2) := by
          rw [← hsession, ← htype]
          conv_lhs => rw [← List.take_append_drop sessionIdLen bytes]
          congr 1
          rw [List.drop_eq_getElem_cons (by omega), List.drop_eq_getElem_cons (by omega)]
          simp [byteAt, show sessionIdLen < bytes.length by omega,
            show sessionIdLen + 1 < bytes.length by omega]
        have hfits := fits
        rw [hbytes] at hfits
        refine ⟨_, _, hfits, ?_, (Option.some.inj h).symm⟩
        congr 1
      · cases h
  · rintro ⟨value, more, fits, rfl, rfl⟩
    have htake : (r.sessionId ++ authAckFrameType :: value :: more).take sessionIdLen =
        r.sessionId := by
      rw [← hid, List.take_left]
    have hat : ∀ i, byteAt (r.sessionId ++ authAckFrameType :: value :: more) (sessionIdLen + i) =
        byteAt (authAckFrameType :: value :: more) i := by
      intro i
      simp [byteAt, ← hid, List.getElem?_append_right]
    rw [ackIn, if_pos ⟨rfl, by simp [hid], htake, hat 0⟩, hat 1]
    rfl

end Acks

/-! ## 3. One wait -/

/-- What an answer of the socket ends a wait with. -/
inductive Ends (r : UdpRelay) : Recv → HandshakeResult → Prop
  | acked {recv : Recv} {status : RelayAuthAckStatus} (h : r.ackIn recv = some status) :
      Ends r recv (.ok (some status))
  | failed (e : String) : Ends r (.failed e) (.error e)

/-- A wait from `now` until `deadline`: how it stands after `recvs`. -/
inductive Waited (r : UdpRelay) (deadline now : Instant) :
    List TimedRecv → Wait HandshakeResult → Prop
  | ended {read rest : List TimedRecv} {x : TimedRecv} {result : HandshakeResult}
      (hread : r.Ignores read) (hx : Ends r x.recv result) (hbefore : now + blocked read < deadline) :
      Waited r deadline now (read ++ x :: rest)
        (.returned result (now + blocked (read ++ [x])) rest)
  | expired {read rest : List TimedRecv} (hread : r.Ignores read)
      (hafter : deadline ≤ now + blocked read)
      (hbefore : ∀ x ∈ read.getLast?, now + blocked read < deadline + x.took) :
      Waited r deadline now (read ++ rest) (.returned (.ok none) (now + blocked read) rest)
  | waiting {recvs : List TimedRecv} (hread : r.Ignores recvs)
      (hbefore : now + blocked recvs < deadline) :
      Waited r deadline now recvs (.waiting (now + blocked recvs))

theorem ignores_cons {r : UdpRelay} {x : TimedRecv} {xs : List TimedRecv}
    (hack : r.ackIn x.recv = none) (hfail : ∀ e, x.recv ≠ .failed e) (h : r.Ignores xs) :
    r.Ignores (x :: xs) :=
  List.forall_mem_cons.mpr ⟨⟨hack, hfail⟩, h⟩

/-- A wait that reads one more answer first and goes on. -/
theorem Waited.cons {r : UdpRelay} {deadline now : Instant} {x : TimedRecv}
    {recvs : List TimedRecv} {w : Wait HandshakeResult} (hnow : now < deadline)
    (hack : r.ackIn x.recv = none) (hfail : ∀ e, x.recv ≠ .failed e)
    (h : Waited r deadline (now + x.took) recvs w) : Waited r deadline now (x :: recvs) w := by
  have hsum : ∀ xs, now + x.took + (blocked xs : Int) = now + (blocked (x :: xs) : Int) := by
    intro xs
    rw [blocked_cons, Int.natCast_add]
    exact Int.add_assoc _ _ _
  cases h with
  | ended hread hx hbefore =>
    rename_i read rest y result
    rw [hsum] at hbefore ⊢
    exact .ended (ignores_cons hack hfail hread) hx hbefore
  | expired hread hafter hbefore =>
    rename_i read rest
    rw [hsum] at hafter ⊢
    refine .expired (ignores_cons hack hfail hread) hafter ?_
    intro y hy
    rw [← hsum]
    cases read with
    | nil =>
      obtain rfl : x = y := by simpa using hy
      simpa using hnow
    | cons z zs =>
      rw [List.getLast?_cons_cons] at hy
      exact hbefore y hy
  | waiting hread hbefore =>
    rw [hsum] at hbefore ⊢
    exact .waiting (ignores_cons hack hfail hread) hbefore

theorem ignores_nil (r : UdpRelay) : r.Ignores [] := by
  simp [Ignores]

/-- A wait whose deadline has passed reads nothing. -/
theorem waited_late {r : UdpRelay} {deadline now : Instant} (h : deadline ≤ now)
    (recvs : List TimedRecv) : Waited r deadline now recvs (.returned (.ok none) now recvs) := by
  have hw : Waited r deadline now ([] ++ recvs)
      (.returned (.ok none) (now + blocked []) recvs) :=
    .expired (ignores_nil r) (by simpa using h) (by simp)
  simpa using hw

/-- A wait that the first answer ends. -/
theorem waited_first {r : UdpRelay} {deadline now : Instant} (hnow : now < deadline)
    {x : TimedRecv} {result : HandshakeResult} (hx : Ends r x.recv result)
    (rest : List TimedRecv) :
    Waited r deadline now (x :: rest) (.returned result (now + x.took) rest) := by
  have hw : Waited r deadline now ([] ++ x :: rest)
      (.returned result (now + blocked ([] ++ [x])) rest) :=
    .ended (ignores_nil r) hx (by simpa using hnow)
  simpa using hw

/-- A wait with nothing read. -/
theorem waited_begun {r : UdpRelay} {deadline now : Instant} (hnow : now < deadline) :
    Waited r deadline now [] (.waiting now) := by
  have hw : Waited r deadline now [] (.waiting (now + blocked [])) :=
    .waiting (ignores_nil r) (by simpa using hnow)
  simpa using hw

/-- **One wait.**  It ends at the first acknowledgement or socket error that it reads, and else
with the first answer that comes after the deadline. -/
theorem waitForAuthAckUntil_spec (r : UdpRelay) (deadline : Instant) (recvs : List TimedRecv)
    (now : Instant) :
    ∃ w, r.waitForAuthAckUntil deadline now recvs = .ok w ∧ Waited r deadline now recvs w := by
  induction recvs generalizing now with
  | nil =>
    rw [waitForAuthAckUntil]
    by_cases hnow : now < deadline
    · rw [if_pos hnow]
      exact ⟨_, rfl, waited_begun hnow⟩
    · rw [if_neg hnow]
      exact ⟨_, rfl, waited_late (not_lt.mp hnow) []⟩
  | cons x rest ih =>
    rw [waitForAuthAckUntil]
    by_cases hnow : now < deadline
    · rw [if_pos hnow]
      obtain ⟨w, hw, hspec⟩ := ih (now + x.took)
      cases hrecv : x.recv with
      | datagram bytes fits sender =>
        simp only [authAckStatus_eq r fits, bind, Except.bind]
        cases hack : r.ackIn (.datagram bytes fits sender) with
        | none =>
          exact ⟨w, hw, hspec.cons hnow (hrecv ▸ hack) (by simp [hrecv])⟩
        | some status => exact ⟨_, rfl, waited_first hnow (.acked (hrecv ▸ hack)) rest⟩
      | nothing => exact ⟨w, hw, hspec.cons hnow (hrecv ▸ rfl) (by simp [hrecv])⟩
      | failed e => exact ⟨_, rfl, waited_first hnow (hrecv ▸ .failed e) rest⟩
    · rw [if_neg hnow]
      exact ⟨_, rfl, waited_late (not_lt.mp hnow) (x :: rest)⟩

/-! ## 4. The attempts -/

/-- How a handshake stands with what the socket has given. -/
inductive Heard (r : UdpRelay) : List TimedRecv → Wait HandshakeResult → Prop
  | ended {read rest : List TimedRecv} {x : TimedRecv} {result : HandshakeResult} {t : Instant}
      (hread : r.Ignores read) (hx : Ends r x.recv result) :
      Heard r (read ++ x :: rest) (.returned result t rest)
  | unsent {read rest : List TimedRecv} {e : String} {t : Instant} (hread : r.Ignores read) :
      Heard r (read ++ rest) (.returned (.error e) t rest)
  | expired {read rest : List TimedRecv} {t : Instant} (hread : r.Ignores read) :
      Heard r (read ++ rest) (.returned (.ok none) t rest)
  | waiting {recvs : List TimedRecv} {t : Instant} (hread : r.Ignores recvs) :
      Heard r recvs (.waiting t)

theorem Waited.heard {r : UdpRelay} {deadline now : Instant} {recvs : List TimedRecv}
    {w : Wait HandshakeResult} (h : Waited r deadline now recvs w) : Heard r recvs w := by
  cases h with
  | ended hread hx _ => exact .ended hread hx
  | expired hread _ _ => exact .expired hread
  | waiting hread _ => exact .waiting hread

/-- A handshake that has read some answers in vain before. -/
theorem Heard.append {r : UdpRelay} {read recvs : List TimedRecv} {w : Wait HandshakeResult}
    (hread : r.Ignores read) (h : Heard r recvs w) : Heard r (read ++ recvs) w := by
  have happ : ∀ {xs}, r.Ignores xs → r.Ignores (read ++ xs) := fun hxs =>
    List.forall_mem_append.mpr ⟨hread, hxs⟩
  cases h with
  | ended hxs hx =>
    rw [← List.append_assoc]
    exact .ended (happ hxs) hx
  | unsent hxs =>
    rw [← List.append_assoc]
    exact .unsent (happ hxs)
  | expired hxs =>
    rw [← List.append_assoc]
    exact .expired (happ hxs)
  | waiting hxs => exact .waiting (happ hxs)

end UdpRelay

/-- The time of a call that has returned or waits. -/
def Wait.time {α : Type} : Wait α → Instant
  | .returned _ now _ => now
  | .waiting now => now

namespace UdpRelay

/-- What is known of a handshake that may begin `k` more waits of the full delay. -/
structure Attempted (r : UdpRelay) (token : Bytes) (sends : Sends) (deadline now : Instant) (k : Nat)
    (recvs : List TimedRecv) (h : Handshake) : Prop where
  hellos : ∀ d ∈ h.hellos, d = (r.authHello token, r.relayAddr)
  count : h.hellos.length ≤ k
  heard : Heard r recvs h.outcome
  silent : ∀ t rest, h.outcome = .returned (.ok none) t rest → deadline ≤ t
  bounded : ∀ send recv : Duration, (∀ i, sends.took i ≤ send) → (∀ x ∈ recvs, x.took ≤ recv) →
    now ≤ deadline + send + recv → h.outcome.time ≤ deadline + send + recv
  waiting : ∀ t, h.outcome = .waiting t → now + blocked recvs ≤ t ∧
    ∃ i, t < deadline + sends.took i

theorem sendAuthHello_cases (r : UdpRelay) (token : Bytes) (reply : Except String Unit) :
    (∃ e, r.sendAuthHello token reply = ([], .error e)) ∨
    (∃ e, r.sendAuthHello token reply = ([(r.authHello token, r.relayAddr)], .error e)) ∨
    r.sendAuthHello token reply = ([(r.authHello token, r.relayAddr)], .ok ()) := by
  rw [sendAuthHello, sendAuthHelloTo]
  split
  · exact .inl ⟨_, rfl⟩
  · cases reply with
    | error e => exact .inr (.inl ⟨_, rfl⟩)
    | ok u => exact .inr (.inr rfl)

/-- A wait of one attempt lasts a full delay or to the deadline. -/
theorem attempt_expired {deadline now t : Instant} {k : Nat} {sent timeout : Duration}
    (hk : deadline ≤ now + ((k + 1) * authHandshakeRetryDelay : Nat))
    (htimeout : timeout = durationSince deadline now ∨
      timeout = min authHandshakeRetryDelay (durationSince deadline now))
    (ht : now + sent + timeout ≤ t) : deadline ≤ t + (k * authHandshakeRetryDelay : Nat) := by
  have hrem : deadline - now ≤ (durationSince deadline now : Int) := Int.self_le_toNat _
  rw [Nat.succ_mul] at hk
  generalize authHandshakeRetryDelay = delay at *
  generalize durationSince deadline now = remaining at *
  generalize k * delay = m at *
  rcases htimeout with rfl | rfl
  · push_cast at *
    linarith
  · rcases Nat.le_total delay remaining with hle | hle
    · rw [Nat.min_eq_left hle] at ht
      push_cast at *
      linarith
    · rw [Nat.min_eq_right hle] at ht
      push_cast at *
      linarith

@[simp] theorem blocked_append (xs ys : List TimedRecv) :
    blocked (xs ++ ys) = blocked xs + blocked ys := by
  simp [blocked]

/-- A wait ends at most one answer after its deadline. -/
theorem Waited.time_le {r : UdpRelay} {deadline now bound : Instant} {recv : Duration}
    {recvs : List TimedRecv} {w : Wait HandshakeResult} (h : Waited r deadline now recvs w)
    (hnow : now ≤ bound) (hdeadline : deadline ≤ bound) (hrecv : ∀ x ∈ recvs, x.took ≤ recv) :
    w.time ≤ bound + recv := by
  cases h with
  | ended hread hx hbefore =>
    rename_i read rest x result
    have hx' : x.took ≤ recv := hrecv x (by simp)
    simp only [Wait.time, blocked_append, blocked_cons, blocked_nil]
    push_cast
    linarith [(Int.ofNat_le).mpr hx']
  | expired hread hafter hbefore =>
    rename_i read rest
    cases hlast : read.getLast? with
    | none =>
      obtain rfl := List.getLast?_eq_none_iff.mp hlast
      simp only [Wait.time, blocked_nil]
      push_cast
      linarith
    | some x =>
      have hx' : x.took ≤ recv :=
        hrecv x (List.mem_append_left rest (List.mem_of_getLast? hlast))
      have hlt := hbefore x hlast
      simp only [Wait.time]
      linarith [(Int.ofNat_le).mpr hx']
  | waiting hread hbefore =>
    simp only [Wait.time]
    linarith

/-- A handshake whose budget is spent. -/
theorem attempted_spent {r : UdpRelay} {token : Bytes} {sends : Sends} {deadline now : Instant}
    {k : Nat} (h : deadline ≤ now) (recvs : List TimedRecv) :
    Attempted r token sends deadline now k recvs ⟨[], .returned (.ok none) now recvs⟩ where
  hellos := by simp
  count := Nat.zero_le k
  heard := show Heard r ([] ++ recvs) _ from .expired (ignores_nil r)
  silent := by
    rintro t rest hout
    injection hout with _ ht _
    exact ht ▸ h
  bounded := fun _ _ _ _ hle => hle
  waiting := fun _ hout => nomatch hout

/-- A handshake whose hello is refused. -/
theorem attempted_refused {r : UdpRelay} {token : Bytes} {sends : Sends} {deadline now : Instant}
    {k : Nat} (hnow : now < deadline) (attempt : Nat) (e : String) (recvs : List TimedRecv)
    {sent : List (Bytes × SocketAddr)} (hsent : ∀ d ∈ sent, d = (r.authHello token, r.relayAddr))
    (hcount : sent.length ≤ k) :
    Attempted r token sends deadline now k recvs
      ⟨sent, .returned (.error e) (now + sends.took attempt) recvs⟩ where
  hellos := hsent
  count := hcount
  heard := show Heard r ([] ++ recvs) _ from .unsent (ignores_nil r)
  silent := fun _ _ hout => nomatch hout
  bounded := by
    intro send recv hsend _ _
    have hle := (Int.ofNat_le).mpr (hsend attempt)
    simp only [Wait.time]
    linarith
  waiting := fun _ hout => nomatch hout

/-- A handshake that is decided in the wait after a hello, or still in that wait. -/
theorem attempted_waited {r : UdpRelay} {token : Bytes} {sends : Sends} {deadline now : Instant}
    {k attempt : Nat} {timeout : Duration} {recvs : List TimedRecv} {w : Wait HandshakeResult}
    (hw : Waited r (now + sends.took attempt + timeout) (now + sends.took attempt) recvs w)
    (htimeout : now + timeout ≤ deadline) (hnot : ∀ t rest, w ≠ .returned (.ok none) t rest) :
    Attempted r token sends deadline now (k + 1) recvs
      ⟨[(r.authHello token, r.relayAddr)], w⟩ where
  hellos := by simp
  count := Nat.succ_le_succ (Nat.zero_le k)
  heard := hw.heard
  silent := fun t rest hout => absurd hout (hnot t rest)
  bounded := by
    intro send recv hsend hrecv _
    have hle := (Int.ofNat_le).mpr (hsend attempt)
    refine hw.time_le ?_ ?_ hrecv
    · linarith
    · linarith
  waiting := by
    rintro t rfl
    cases hw with
    | waiting hread hbefore =>
      refine ⟨?_, attempt, ?_⟩
      · linarith
      · linarith

/-- A wait in vain. -/
theorem Waited.silent {r : UdpRelay} {deadline now t : Instant} {recvs rest : List TimedRecv}
    (h : Waited r deadline now recvs (.returned (.ok none) t rest)) :
    ∃ read, recvs = read ++ rest ∧ r.Ignores read ∧ t = now + blocked read ∧ deadline ≤ t := by
  generalize hw : Wait.returned (.ok none : HandshakeResult) t rest = w at h
  cases h with
  | ended hread hx _ =>
    injection hw with hresult _ _
    subst hresult
    generalize hy : TimedRecv.recv _ = recv at hx
    cases hx
  | expired hread hafter _ =>
    injection hw with _ ht hrest
    subst ht hrest
    exact ⟨_, rfl, hread, rfl, hafter⟩
  | waiting _ _ => cases hw

/-- A handshake that goes on after a wait in vain. -/
theorem Attempted.next {r : UdpRelay} {token : Bytes} {sends : Sends} {deadline now t : Instant}
    {k attempt : Nat} {timeout : Duration} {recvs rest : List TimedRecv} {more : Handshake}
    (hw : Waited r (now + sends.took attempt + timeout) (now + sends.took attempt) recvs
      (.returned (.ok none) t rest))
    (htimeout : now + timeout ≤ deadline) (h : Attempted r token sends deadline t k rest more) :
    Attempted r token sends deadline now (k + 1) recvs
      ⟨[(r.authHello token, r.relayAddr)] ++ more.hellos, more.outcome⟩ := by
  obtain ⟨read, rfl, hread, ht, -⟩ := hw.silent
  constructor
  case hellos => exact List.forall_mem_append.mpr ⟨by simp, h.hellos⟩
  case count =>
    have hcount := h.count
    simp only [List.length_append, List.length_singleton]
    omega
  case heard => exact h.heard.append hread
  case silent => exact h.silent
  case bounded =>
    intro send recv hsend hrecv _
    have hle := (Int.ofNat_le).mpr (hsend attempt)
    have ht : t ≤ deadline + send + recv := hw.time_le (by linarith) (by linarith) hrecv
    exact h.bounded send recv hsend (fun x hx => hrecv x (List.mem_append_right read hx)) ht
  case waiting =>
    intro t' hout
    obtain ⟨ht', hlt⟩ := h.waiting t' hout
    refine ⟨?_, hlt⟩
    rw [blocked_append]
    push_cast
    linarith

/-- **The attempts**, from a time at which `k` full delays reach the deadline. -/
theorem authenticateAttempts_spec (r : UdpRelay) (token : Bytes) (sends : Sends)
    (deadline : Instant) (n : Nat) : ∀ {k : Nat}, k ≤ n → ∀ {now : Instant},
      deadline ≤ now + (k * authHandshakeRetryDelay : Nat) → ∀ recvs,
      ∃ h, r.authenticateAttempts token sends deadline n now recvs = .ok h ∧
        Attempted r token sends deadline now k recvs h := by
  induction n with
  | zero =>
    intro k hk now hnow recvs
    obtain rfl : k = 0 := Nat.le_zero.mp hk
    exact ⟨_, rfl, attempted_spent (by simpa using hnow) recvs⟩
  | succ n ih =>
    intro k hk now hnow recvs
    rw [authenticateAttempts]
    simp only
    by_cases hspent : durationSince deadline now = 0
    · rw [if_pos hspent]
      exact ⟨_, rfl, attempted_spent (by simpa [durationSince] using hspent) recvs⟩
    · rw [if_neg hspent]
      have hlt : now < deadline := by
        by_contra hle
        exact hspent (by simpa [durationSince] using hle)
      cases k with
      | zero => exact absurd hlt (not_lt.mpr (by simpa using hnow))
      | succ k =>
        generalize authHandshakeAttempts - (n + 1) = attempt
        rcases r.sendAuthHello_cases token (sends.reply attempt) with
          ⟨e, hsend⟩ | ⟨e, hsend⟩ | hsend
        · rw [hsend]
          exact ⟨_, rfl, attempted_refused hlt attempt e recvs (by simp) (by simp)⟩
        · rw [hsend]
          exact ⟨_, rfl, attempted_refused hlt attempt e recvs (by simp) (by simp)⟩
        · rw [hsend]
          simp only
          -- Either branch of the timeout is at most what remains.
          generalize htimeout : (if attempt + 1 = authHandshakeAttempts then
            durationSince deadline now
            else min authHandshakeRetryDelay (durationSince deadline now)) = timeout
          have hform : timeout = durationSince deadline now ∨
              timeout = min authHandshakeRetryDelay (durationSince deadline now) := by
            rw [← htimeout]
            split
            · exact .inl rfl
            · exact .inr rfl
          have hrem : (durationSince deadline now : Int) = deadline - now :=
            Int.toNat_of_nonneg (by linarith)
          have hle : now + timeout ≤ deadline := by
            have hmin : timeout ≤ durationSince deadline now := by
              rcases hform with rfl | rfl
              · exact Nat.le_refl _
              · exact Nat.min_le_right _ _
            have hmin' := (Int.ofNat_le).mpr hmin
            linarith
          obtain ⟨w, hwait, hw⟩ := r.waitForAuthAckUntil_spec (now + sends.took attempt + timeout)
            recvs (now + sends.took attempt)
          rw [waitForAuthAck, hwait]
          simp only [bind, Except.bind]
          cases w with
          | waiting t =>
            exact ⟨_, rfl, attempted_waited hw hle (fun _ _ => by simp)⟩
          | returned result t rest =>
            cases result with
            | error e => exact ⟨_, rfl, attempted_waited hw hle (fun _ _ => by simp)⟩
            | ok answer =>
              cases answer with
              | some status => exact ⟨_, rfl, attempted_waited hw hle (fun _ _ => by simp)⟩
              | none =>
                obtain ⟨-, -, -, -, hafter⟩ := hw.silent
                obtain ⟨more, hmore, hspec⟩ := ih (Nat.le_of_succ_le_succ hk)
                  (attempt_expired hnow hform hafter) rest
                simp only [hmore]
                exact ⟨_, rfl, hspec.next hw hle⟩

end UdpRelay

/-! ## 5. The handshake -/

/-- **The handshake with a relay.**  Whatever the socket gives, the call never panics, and at most
three hellos with the ticket go out, all to the relay, although four attempts are allowed: three
waits use up the budget.  It returns a status only for the first acknowledgement of the session
that comes from the relay, and it gives up without one only after the whole budget and with no
acknowledgement read.  Where no call of the socket takes longer than `send` or `recv`, it has
returned by that much after the budget. -/
theorem relay_handshake (r : UdpRelay) (token : Bytes) (sends : Sends) (now : Instant)
    (recvs : List TimedRecv) :
    ∃ h, r.authenticateWithTicket token sends now recvs = .ok h ∧
      (∀ d ∈ h.hellos, d = (r.authHello token, r.relayAddr)) ∧ h.hellos.length ≤ 3 ∧
      (∀ status t rest, h.outcome = .returned (.ok (some status)) t rest →
        ∃ read took value more fits, recvs = read ++
            ⟨took, .datagram (r.sessionId ++ authAckFrameType :: value :: more) fits
              r.relayAddr⟩ :: rest ∧
          r.Ignores read ∧ status = (RelayAuthAckStatus.fromU8 value).getD .badFormat) ∧
      (∀ t rest, h.outcome = .returned (.ok none) t rest →
        (∃ read, recvs = read ++ rest ∧ r.Ignores read) ∧ now + authHandshakeTotalTimeout ≤ t) ∧
      (∀ send recv : Duration, (∀ i, sends.took i ≤ send) → (∀ x ∈ recvs, x.took ≤ recv) →
        h.outcome.time ≤ now + authHandshakeTotalTimeout + send + recv ∧
          (authHandshakeTotalTimeout + send ≤ blocked recvs →
            ∃ result t rest, h.outcome = .returned result t rest)) := by
  obtain ⟨h, hh, hspec⟩ := r.authenticateAttempts_spec token sends
    (now + authHandshakeTotalTimeout) authHandshakeAttempts (k := 3) (by decide) (le_refl _) recvs
  refine ⟨h, hh, hspec.hellos, hspec.count, ?_, ?_, ?_⟩
  · intro status t rest hout
    have hheard := hspec.heard
    rw [hout] at hheard
    generalize hrecvs : recvs = recvs' at hheard
    cases hheard with
    | ended hread hx =>
      rename_i read x
      obtain ⟨took, recv⟩ := x
      cases hx with
      | acked hack =>
        obtain ⟨value, more, fits, rfl, hstatus⟩ := UdpRelay.ackIn_eq_some_iff.mp hack
        exact ⟨read, took, value, more, fits, rfl, hread, hstatus⟩
  · intro t rest hout
    refine ⟨?_, hspec.silent t rest hout⟩
    have hheard := hspec.heard
    rw [hout] at hheard
    generalize hresult : (.ok none : HandshakeResult) = result at hheard
    cases hheard with
    | ended hread hx =>
      generalize TimedRecv.recv _ = recv at hx
      subst hresult
      cases hx
    | unsent _ => cases hresult
    | expired hread => exact ⟨_, rfl, hread⟩
  · intro send recv hsend hrecv
    refine ⟨hspec.bounded send recv hsend hrecv ?_, ?_⟩
    · linarith [Int.natCast_nonneg authHandshakeTotalTimeout, Int.natCast_nonneg send,
        Int.natCast_nonneg recv]
    · intro hblocked
      cases hout : h.outcome with
      | returned result t rest => exact ⟨result, t, rest, rfl⟩
      | waiting t =>
        obtain ⟨hge, i, hlt⟩ := hspec.waiting t hout
        have hi := (Int.ofNat_le).mpr (hsend i)
        have hb := (Int.ofNat_le).mpr hblocked
        push_cast at hb
        exact absurd hlt (not_lt.mpr (by linarith))

/-- Of all status bytes only zero is the one that authenticates. -/
theorem isAuthenticated_fromU8 (value : UInt8) :
    ((RelayAuthAckStatus.fromU8 value).getD .badFormat).isAuthenticated = true ↔ value = 0 := by
  constructor
  · intro h
    by_contra hne
    rw [RelayAuthAckStatus.fromU8, if_neg hne] at h
    split_ifs at h <;> exact nomatch h
  · rintro rfl
    rfl

/-- A handshake that returned right behind an acknowledgement returned for it. -/
theorem UdpRelay.Heard.result_of_ack {r : UdpRelay} {read rest : List TimedRecv} {x : TimedRecv}
    {result : HandshakeResult} {t : Instant} {status : RelayAuthAckStatus}
    (h : Heard r (read ++ x :: rest) (.returned result t rest)) (hx : r.ackIn x.recv = some status) :
    result = .ok (some status) := by
  -- The answers read end with the acknowledgement, so they were not all ignored.
  have hignored : ∀ {read'}, r.Ignores read' → read' ++ rest ≠ read ++ x :: rest := by
    intro read' hread' heq
    rw [List.append_cons] at heq
    obtain rfl := List.append_cancel_right heq
    have hnone := (hread' x (by simp)).1
    rw [hx] at hnone
    cases hnone
  generalize hrecvs : read ++ x :: rest = recvs at h hignored
  cases h with
  | ended hread' hy =>
    rw [List.append_cons, List.append_cons _ _ rest] at hrecvs
    have hlast := (List.append_inj' (List.append_cancel_right hrecvs) rfl).2
    obtain rfl := List.singleton_inj.mp hlast
    generalize x.recv = recv at hx hy
    cases hy with
    | acked hack => rw [← hack.symm.trans hx]
    | failed e => cases hx
  | unsent hread' => exact absurd rfl (hignored hread')
  | expired hread' => exact absurd rfl (hignored hread')

/-- Only a status that authenticates makes the mode. -/
theorem relayAuthMode_iff {ticket : Except String Bytes}
    {handshake : Except String HandshakeResult} :
    relayAuthMode ticket handshake = "authenticated" ↔ (∃ token, ticket = .ok token) ∧
      ∃ status, handshake = .ok (.ok (some status)) ∧ status.isAuthenticated = true := by
  constructor
  · intro h
    unfold relayAuthMode at h
    split at h
    · exact absurd h (by decide)
    · rename_i token
      split at h
      · rename_i status
        split at h
        · rename_i hstatus
          exact ⟨⟨token, rfl⟩, status, rfl, hstatus⟩
        · exact absurd h (by decide)
      all_goals exact absurd h (by decide)
  · rintro ⟨⟨token, rfl⟩, status, rfl, hstatus⟩
    exact if_pos hstatus

/-- **Who is authenticated.**  A session counts as authenticated exactly when the ticket request
and the blocking task succeeded and the last answer that the handshake read is an
acknowledgement of this session from its relay, with status byte zero and no acknowledgement
before it.  Every rejection, timeout, error and unknown status byte is a session in legacy
mode. -/
theorem relay_handshake_mode (r : UdpRelay) (token : Bytes) (sends : Sends) (now t : Instant)
    (recvs rest : List TimedRecv) (h : Handshake) (result : HandshakeResult)
    (hrun : r.authenticateWithTicket token sends now recvs = .ok h)
    (hout : h.outcome = .returned result t rest) (ticket : Except String Bytes)
    (handshake : Except String HandshakeResult)
    (hjoin : ∀ result', handshake = .ok result' → result' = result) :
    relayAuthMode ticket handshake = "authenticated" ↔
      (∃ token, ticket = .ok token) ∧ (∃ result', handshake = .ok result') ∧
        ∃ read took more fits, recvs = read ++
            ⟨took, .datagram (r.sessionId ++ authAckFrameType :: 0 :: more) fits
              r.relayAddr⟩ :: rest ∧ r.Ignores read := by
  obtain ⟨h', hrun', -, -, hacked, -, -⟩ := relay_handshake r token sends now recvs
  obtain rfl : h = h' := Except.ok.inj (hrun.symm.trans hrun')
  rw [relayAuthMode_iff]
  refine and_congr_right fun _ => ?_
  constructor
  · rintro ⟨status, rfl, hstatus⟩
    obtain rfl := hjoin _ rfl
    obtain ⟨read, took, value, more, fits, hrecvs, hread, rfl⟩ := hacked status t rest hout
    obtain rfl := (isAuthenticated_fromU8 value).mp hstatus
    exact ⟨⟨_, rfl⟩, read, took, more, fits, hrecvs, hread⟩
  · rintro ⟨⟨result', rfl⟩, read, took, more, fits, hrecvs, hread⟩
    obtain rfl := hjoin _ rfl
    obtain ⟨h', hrun', hspec⟩ := r.authenticateAttempts_spec token sends
      (now + authHandshakeTotalTimeout) authHandshakeAttempts (k := 3) (by decide) (le_refl _) recvs
    obtain rfl : h = h' := Except.ok.inj (hrun.symm.trans hrun')
    have hheard := hspec.heard
    rw [hout, hrecvs] at hheard
    have hack := UdpRelay.ackIn_eq_some_iff.mpr ⟨0, more, fits, rfl, rfl⟩
    exact ⟨.ok, by rw [hheard.result_of_ack hack]; rfl, rfl⟩

theorem newSessionId : ([1, 2, 3, 4, 5, 6, 7, 8] : Bytes).length = sessionIdLen := rfl

/-- The relay of a new session. -/
def newRelay : UdpRelay :=
  UdpRelay.new 0 ⟨.v4 ⟨127, 0, 0, 1⟩, 51821⟩ [1, 2, 3, 4, 5, 6, 7, 8] newSessionId

/-- A socket that times out once and then gives an acknowledgement. -/
def ackedRecvs : List TimedRecv :=
  [⟨10000000, .nothing⟩,
    ⟨2000000, .datagram [1, 2, 3, 4, 5, 6, 7, 8, 0xA2, 0] (by decide) newRelay.relayAddr⟩]

set_option maxRecDepth 8000 in
/-- A relay that accepts the ticket makes the session authenticated. -/
theorem acked_session_authenticated :
    relayAuthMode (.ok [0x74]) (.ok (.ok (some .ok))) = "authenticated" ∧
      ∃ read took more fits, ackedRecvs = read ++
        ⟨took, .datagram (newRelay.sessionId ++ authAckFrameType :: 0 :: more) fits
          newRelay.relayAddr⟩ :: [] ∧ newRelay.Ignores read := by
  have hmode : relayAuthMode (.ok [0x74]) (.ok (.ok (some .ok))) = "authenticated" := by decide
  obtain ⟨-, -, hlast⟩ := (relay_handshake_mode newRelay [0x74] ⟨fun _ => 0, fun _ => .ok ()⟩ 0
    12000000 ackedRecvs [] ⟨[(newRelay.authHello [0x74], newRelay.relayAddr)],
      .returned (.ok (some .ok)) 12000000 []⟩ (.ok (some .ok)) rfl rfl (.ok [0x74])
    (.ok (.ok (some .ok))) (fun _ h => (Except.ok.inj h).symm)).mp hmode
  exact ⟨hmode, hlast⟩

end SwiftTunnel.Relay
