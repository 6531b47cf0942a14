/-
# Host names resolved through the relay

`relay.rs`: the parser of the resolve response (frame type `0xA7`) and the loop of
`resolve_roblox_hosts` that sends the requests in batches and collects what comes back.

A datagram lies in a receive buffer that is larger than it, so the parser is given the buffer
and the length of the datagram.

* `parseResolveResponse_ok`: it reads no byte outside the buffer, whatever the bytes are.
* `parseResolveResponse_take`: and no byte behind the datagram, where the buffer may still hold one
  that came before.

What the network delivers between two polls of the loop is an input: of each batch, whether the
request could be sent, and what the slot has seen before each poll.  `ResolveRuns` has the same
function step by step and shows that every run of it finds such an input; the format of a response
is in `ResolveFormat`.
-/
import SwiftTunnel.Net
import SwiftTunnel.RobloxProxy.Domains

namespace SwiftTunnel

open Rust

/-! ## 1. The response -/

/-- `SESSION_ID_LEN`. -/
def sessionIdLen : Nat := 8

/-- Resolved hosts, in the order of a response. -/
abbrev ResolveAnswers := List (String × List Ipv4Addr)

/-- The inner loop of `parse_resolve_response`: `n` addresses from `off` on. -/
def readIps (frame : Bytes) : Nat → Nat → Checked (List Ipv4Addr)
  | 0, _ => .ok []
  | n + 1, off => do
    let ip ← Ipv4Addr.index frame off
    let rest ← readIps frame n (off + 4)
    return ip :: rest

/-- The outer loop of `parse_resolve_response`: `n` answers from `off` on. -/
def readAnswers (frame : Bytes) (len : Nat) : Nat → Nat → Checked (Option ResolveAnswers)
  | 0, _ => .ok (some [])
  | n + 1, off =>
    if off ≥ len then .ok none
    else do
      let hlen := (← index frame off).toNat
      let off := off + 1
      if off + hlen > len then .ok none
      else do
        let hostBytes ← slice frame off (off + hlen)
        match Rust.fromUtf8 hostBytes with
        | none => .ok none
        | some host =>
          let off := off + hlen
          if off ≥ len then .ok none
          else do
            let ipCount := (← index frame off).toNat
            let off := off + 1
            if off + ipCount * 4 > len then .ok none
            else do
              let ips ← readIps frame ipCount off
              match ← readAnswers frame len n (off + ipCount * 4) with
              | none => .ok none
              | some rest => .ok (some ((host, ips) :: rest))

/-- `parse_resolve_response`. -/
def parseResolveResponse (frame : Bytes) (len : Nat) :
    Checked (Option (UInt16 × ResolveAnswers)) :=
  let header := sessionIdLen + 1
  if len < header + 3 then .ok none
  else do
    let requestId ← indexBe16 frame header
    let answerCount := (← index frame (header + 2)).toNat
    match ← readAnswers frame len answerCount (header + 3) with
    | none => .ok none
    | some answers => .ok (some (requestId, answers))

/-- A response as a relay sends it: the session id, the frame type, the request id, and the
answers with their lengths. -/
def responseBytes (sessionId : Bytes) (requestId : UInt16) (answers : ResolveAnswers) : Bytes :=
  sessionId ++ [0xA7, hiByte requestId, requestId.toUInt8, UInt8.ofNat answers.length] ++
    answers.flatMap (fun a =>
      UInt8.ofNat a.1.toUTF8.size :: a.1.toUTF8.data.toList ++
        UInt8.ofNat a.2.length :: a.2.flatMap (fun ip => [ip.a, ip.b, ip.c, ip.d]))

theorem readIps_ok (frame : Bytes) : ∀ (n off : Nat), off + n * 4 ≤ frame.length →
    ∃ ips, readIps frame n off = .ok ips
  | 0, off, _ => ⟨[], rfl⟩
  | n + 1, off, h => by
    obtain ⟨rest, hrest⟩ := readIps_ok frame n (off + 4) (by omega)
    refine ⟨Ipv4Addr.ofBytesAt frame off :: rest, ?_⟩
    rw [readIps, Ipv4Addr.index_of_lt (by omega), hrest]
    rfl

theorem readAnswers_ok {frame : Bytes} {len : Nat} (hlen : len ≤ frame.length) :
    ∀ (n off : Nat), ∃ r, readAnswers frame len n off = .ok r
  | 0, off => ⟨some [], rfl⟩
  | n + 1, off => by
    rw [readAnswers]
    split
    · exact ⟨none, rfl⟩
    · rename_i h0
      rw [index_of_lt (by omega)]
      simp only [bind, Except.bind]
      split
      · exact ⟨none, rfl⟩
      · rename_i h1
        rw [slice_of_le (by omega) (by omega)]
        simp only
        split
        · exact ⟨none, rfl⟩
        · split
          · exact ⟨none, rfl⟩
          · rename_i h2
            rw [index_of_lt (by omega)]
            simp only
            split
            · exact ⟨none, rfl⟩
            · rename_i h3
              obtain ⟨ips, hips⟩ := readIps_ok frame
                (byteAt frame (off + 1 + (byteAt frame off).toNat)).toNat
                (off + 1 + (byteAt frame off).toNat + 1) (by omega)
              rw [hips]
              simp only
              obtain ⟨r, hr⟩ := readAnswers_ok hlen n _
              rw [hr]
              cases r with
              | none => exact ⟨none, rfl⟩
              | some rest => exact ⟨some _, rfl⟩

/-- **No datagram can make the parser panic.** -/
theorem parseResolveResponse_ok {frame : Bytes} {len : Nat} (hlen : len ≤ frame.length) :
    ∃ r, parseResolveResponse frame len = .ok r := by
  have hid : sessionIdLen = 8 := rfl
  unfold parseResolveResponse
  by_cases h : len < sessionIdLen + 1 + 3
  · exact ⟨none, if_pos h⟩
  · obtain ⟨r, hr⟩ := readAnswers_ok hlen (byteAt frame (sessionIdLen + 1 + 2)).toNat
      (sessionIdLen + 1 + 3)
    simp only [if_neg h]
    rw [indexBe16_of_lt (by omega), index_of_lt (by omega)]
    simp only [bind, Except.bind, hr]
    cases r with
    | none => exact ⟨none, rfl⟩
    | some answers => exact ⟨some _, rfl⟩

/-! ### What lies behind the datagram

The buffer is longer than the datagram.  A read in the cut buffer that returns is a read before
the cut, so a run that is the same there has read nothing behind it. -/

theorem ipv4Index_take {bs : Bytes} {n i : Nat} (h : i + 3 < n) :
    Ipv4Addr.index (bs.take n) i = Ipv4Addr.index bs i := by
  simp only [Ipv4Addr.index]
  rw [index_take (by omega), index_take (by omega), index_take (by omega), index_take h]

theorem readIps_take {frame : Bytes} {len : Nat} (n : Nat) {off : Nat} (h : off + n * 4 ≤ len) :
    readIps (frame.take len) n off = readIps frame n off := by
  induction n generalizing off with
  | zero => rfl
  | succ n ih =>
    rw [readIps, readIps, ipv4Index_take (by omega), ih (by omega)]

theorem readAnswers_take {frame : Bytes} {len : Nat} (hlen : len ≤ frame.length) (n : Nat)
    (off : Nat) : readAnswers (frame.take len) len n off = readAnswers frame len n off := by
  induction n generalizing off with
  | zero => rfl
  | succ n ih =>
    rw [readAnswers, readAnswers]
    by_cases h0 : off ≥ len
    · rw [if_pos h0, if_pos h0]
    rw [if_neg h0, if_neg h0, index_take (by omega), index_of_lt (by omega)]
    simp only [bind, Except.bind]
    by_cases h1 : off + 1 + (byteAt frame off).toNat > len
    · rw [if_pos h1, if_pos h1]
    rw [if_neg h1, if_neg h1, slice_take (by omega) hlen, slice_of_le (by omega) (by omega)]
    simp only
    cases Rust.fromUtf8 ((frame.take (off + 1 + (byteAt frame off).toNat)).drop (off + 1)) with
    | none => rfl
    | some host =>
      simp only
      by_cases h2 : off + 1 + (byteAt frame off).toNat ≥ len
      · rw [if_pos h2, if_pos h2]
      rw [if_neg h2, if_neg h2, index_take (by omega), index_of_lt (by omega)]
      simp only
      generalize (byteAt frame (off + 1 + (byteAt frame off).toNat)).toNat = ipCount
      by_cases h3 : off + 1 + (byteAt frame off).toNat + 1 + ipCount * 4 > len
      · rw [if_pos h3, if_pos h3]
      rw [if_neg h3, if_neg h3, readIps_take ipCount (by omega), ih]

/-- **The parser reads nothing behind the datagram.** -/
theorem parseResolveResponse_take {frame : Bytes} {len : Nat} (hlen : len ≤ frame.length) :
    parseResolveResponse (frame.take len) len = parseResolveResponse frame len := by
  have hid : sessionIdLen = 8 := rfl
  unfold parseResolveResponse
  by_cases h : len < sessionIdLen + 1 + 3
  · simp only [if_pos h]
  · simp only [if_neg h, indexBe16]
    rw [index_take (by omega), index_take (by omega), index_take (by omega)]
    simp only [readAnswers_take hlen]

/-! ## 2. The collector -/

/-- A resolve response as `receive_inbound` finds it in its buffer. -/
structure Datagram where
  buf : Bytes
  len : Nat
  len_le : len ≤ buf.length

/-- `last_resolve_response`. -/
abbrev ResolveSlot := Option (UInt16 × ResolveAnswers)

/-- `receive_inbound` on a resolve response: a response that parses replaces the stored one. -/
def recordResponse (slot : ResolveSlot) (d : Datagram) : ResolveSlot :=
  match parseResolveResponse d.buf d.len with
  | .ok (some parsed) => some parsed
  | _ => slot

/-- One batch: whether the request could be sent, and the responses recorded before each poll
of the slot.  The last poll is the one after which the deadline has passed. -/
structure ResolveBatch where
  sent : Bool
  polls : List (List Datagram)

/-- The poll loop: the answers to this request, once the slot holds them. -/
def pollResponse (requestId : UInt16) : ResolveSlot → List (List Datagram) → Option ResolveAnswers
  | _, [] => none
  | slot, arrived :: rest =>
    let slot := arrived.foldl recordResponse slot
    match slot with
    | some (rid, answers) =>
      if rid = requestId then some answers else pollResponse requestId slot rest
    | none => pollResponse requestId slot rest

/-- `for (host, ips) in answers { if !ips.is_empty() { out.entry(host).or_default().extend(ips) } }`. -/
def mergeAnswers (out : Map String (List Ipv4Addr)) (answers : ResolveAnswers) :
    Map String (List Ipv4Addr) :=
  answers.foldl (fun m a => if a.2 = [] then m
    else m.insert a.1 ((m.lookup a.1).getD [] ++ a.2)) out

/-- The answers that one batch contributes. -/
def batchAnswers (requestId : UInt16) (b : ResolveBatch) : ResolveAnswers :=
  if b.sent then (pollResponse requestId none b.polls).getD [] else []

/-- The loop over the batches; `requestId` wraps. -/
def resolveBatches (env : Nat → ResolveBatch) :
    Nat → Nat → UInt16 → Map String (List Ipv4Addr) → Map String (List Ipv4Addr)
  | 0, _, _, out => out
  | n + 1, i, requestId, out =>
    resolveBatches env n (i + 1) (requestId + 1) (mergeAnswers out (batchAnswers requestId (env i)))

/-- `RESOLVE_MAX_HOSTS_PER_REQUEST`. -/
def resolveMaxHostsPerRequest : Nat := 16

/-- `hosts.chunks(RESOLVE_MAX_HOSTS_PER_REQUEST).len()`. -/
def chunkCount (hosts : List String) : Nat :=
  (hosts.length + resolveMaxHostsPerRequest - 1) / resolveMaxHostsPerRequest

/-- `resolve_roblox_hosts`.  The answers are collected whatever they are for, so of the hosts only
the number of batches matters. -/
def resolveRobloxHosts (hosts : List String) (env : Nat → ResolveBatch) :
    Map String (List Ipv4Addr) :=
  resolveBatches env (chunkCount hosts) 0 1 ∅

/-- What `resolve_roblox_hosts` can return: its map, iterated in any order. -/
structure RelayAnswer where
  hosts : List String
  env : Nat → ResolveBatch
  resolved : Map String (List Ipv4Addr)
  perm : resolved.entries.Perm (resolveRobloxHosts hosts env).entries

/-- The answers of a relay that replies to the first request with the given hosts. -/
def relayReplying (answers : ResolveAnswers) : RelayAnswer :=
  let buf := responseBytes [0, 0, 0, 0, 0, 0, 0, 0] 1 answers
  let env := fun _ => ⟨true, [[⟨buf, buf.length, le_refl _⟩]]⟩
  { hosts := robloxBootstrapDomains
    env := env
    resolved := resolveRobloxHosts robloxBootstrapDomains env
    perm := List.Perm.refl _ }

end SwiftTunnel
