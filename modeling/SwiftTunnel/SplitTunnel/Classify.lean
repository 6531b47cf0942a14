/-
# `classify_packet`: the tunnel decision for one outbound frame

`interceptor.rs`.  The function reads the headers of an Ethernet frame and then decides, in
phases, whether the frame belongs to a tunnelled flow; it remembers the source sockets it has
tunnelled in a cache that each worker owns.

The model keeps the two halves apart: `readHeader` is everything up to the port numbers, with
each slice index the source makes, and `classifyHeader` is phases 0 to 5.

* `ReadsAs`: in terms of bytes, which frames carry which header.  It is a relation between bytes
  and fields and says nothing of the order in which they are read.
* `readHeader_spec`: `readHeader` indexes no frame out of bounds, whatever its bytes, and accepts
  exactly the frames of `ReadsAs`.
* `ReadsAs.unique`: a frame is read in one way only.
* `frameOf_reads`: every header occurs, so that results over all frames are results over all headers.

What the phases come to together, without their order, is in `Decision`.  IPv6 frames and other
protocols are read as nothing and bypassed, as the source does.
-/
import SwiftTunnel.Shared
import SwiftTunnel.SplitTunnel.ProcessCache

namespace SwiftTunnel

open Rust

/-! ## 1. Headers -/

/-- `(src_ip, src_port, protocol)`, the key of the per-worker cache. -/
abbrev SourceKey := Ipv4Addr × UInt16 × Protocol

/-- `inline_cache`.  The source keeps a map to `bool`, but it inserts only `true` and reads only
`contains_key` and `len`. -/
abbrev InlineCache := Finset SourceKey

/-- What `classify_packet` reads of a frame. -/
structure PacketHeader where
  protocol : Protocol
  srcIp : Ipv4Addr
  dstIp : Ipv4Addr
  srcPort : UInt16
  dstPort : UInt16
  isTcpInitialSyn : Bool
  deriving DecidableEq, Repr

/-- `cache_key`. -/
def PacketHeader.key (h : PacketHeader) : SourceKey := (h.srcIp, h.srcPort, h.protocol)

/-- `ip_start`: where the IPv4 header stands after the Ethernet header. -/
def ipStart : Nat := 14

/-- The length of an IPv4 header, from its first byte. -/
def ihlOf (first : UInt8) : Nat := (first &&& 0xF).toNat * 4

theorem ihlOf_le (first : UInt8) : ihlOf first ≤ 60 := by
  have h : (first &&& 0xF).toNat ≤ 15 := by
    rw [UInt8.toNat_and]
    exact Nat.and_le_right
  simp only [ihlOf]
  omega

/-- `flags & 0x02 != 0 && flags & 0x10 == 0`. -/
def isInitialSyn (flags : UInt8) : Bool := flags &&& 0x02 != 0 && flags &&& 0x10 == 0

/-- `match protocol_num { 6 => Tcp, 17 => Udp, _ => … }`. -/
def protocolOf (num : UInt8) : Option Protocol :=
  if num = 6 then some .tcp else if num = 17 then some .udp else none

/-- `is_tcp_initial_syn`: the flags are read only where the segment is long enough. -/
def readInitialSyn (data : Bytes) (protocol : Protocol) (transportStart : Nat) : Checked Bool :=
  if protocol = .tcp ∧ transportStart + 13 < data.length then do
    let flags ← index data (transportStart + 13)
    return isInitialSyn flags
  else .ok false

/-- The part of `classify_packet` before phase 0, and the TCP flags. -/
def readHeader (data : Bytes) (udpTunneling : Bool) : Checked (Option PacketHeader) :=
  if data.length < 14 + 20 + 4 then .ok none
  else do
    let ethertype ← indexBe16 data 12
    if ethertype ≠ 0x0800 then .ok none
    else do
      let first ← index data ipStart
      if (first >>> 4) &&& 0xF ≠ 4 then .ok none
      else do
        let protocolNum ← index data (ipStart + 9)
        if protocolNum = 17 ∧ udpTunneling = false then .ok none
        else match protocolOf protocolNum with
          | none => .ok none
          | some protocol => do
            let srcIp ← Ipv4Addr.index data (ipStart + 12)
            let dstIp ← Ipv4Addr.index data (ipStart + 16)
            let transportStart := ipStart + ihlOf first
            if data.length < transportStart + 4 then .ok none
            else do
              let srcPort ← indexBe16 data transportStart
              let dstPort ← indexBe16 data (transportStart + 2)
              let syn ← readInitialSyn data protocol transportStart
              return some ⟨protocol, srcIp, dstIp, srcPort, dstPort, syn⟩

/-! ## 2. What a frame says -/

/-- Where the transport header of a frame stands. -/
def transportStart (data : Bytes) : Nat := ipStart + ihlOf (byteAt data ipStart)

/-- The IP protocol number. -/
def protocolNum : Protocol → UInt8
  | .tcp => 6
  | .udp => 17

/-- `data` is an Ethernet frame around an IPv4 TCP or UDP packet with the fields of `h`. -/
structure ReadsAs (data : Bytes) (h : PacketHeader) : Prop where
  long : 38 ≤ data.length
  ethertype : be16At data 12 = 0x0800
  version : (byteAt data 14 >>> 4) &&& 0xF = 4
  ports : 14 + ihlOf (byteAt data 14) + 4 ≤ data.length
  protocol : byteAt data 23 = protocolNum h.protocol
  srcIp : h.srcIp = Ipv4Addr.ofBytesAt data 26
  dstIp : h.dstIp = Ipv4Addr.ofBytesAt data 30
  srcPort : h.srcPort = be16At data (transportStart data)
  dstPort : h.dstPort = be16At data (transportStart data + 2)
  syn : h.isTcpInitialSyn = true ↔ h.protocol = .tcp ∧ transportStart data + 13 < data.length ∧
    isInitialSyn (byteAt data (transportStart data + 13)) = true

theorem protocolOf_iff {num : UInt8} {p : Protocol} : protocolOf num = some p ↔ num = protocolNum p := by
  unfold protocolOf protocolNum
  split
  · rename_i h
    subst h
    cases p <;> simp
  · rename_i h
    split
    · rename_i h2
      subst h2
      cases p <;> simp
    · cases p <;> simp_all

/-- A frame is read in one way only. -/
theorem ReadsAs.unique {data : Bytes} {h h' : PacketHeader} (hr : ReadsAs data h)
    (hr' : ReadsAs data h') : h = h' := by
  have hp : h.protocol = h'.protocol := by
    have e : protocolOf (byteAt data 23) = some h.protocol := protocolOf_iff.mpr hr.protocol
    rw [protocolOf_iff.mpr hr'.protocol] at e
    exact (Option.some.inj e).symm
  have hs : h.isTcpInitialSyn = h'.isTcpInitialSyn := by
    rw [Bool.eq_iff_iff, hr.syn, hr'.syn, hp]
  obtain ⟨p, si, di, sp, dp, syn⟩ := h
  obtain ⟨p', si', di', sp', dp', syn'⟩ := h'
  have h1 := hr.srcIp.trans hr'.srcIp.symm
  have h2 := hr.dstIp.trans hr'.dstIp.symm
  have h3 := hr.srcPort.trans hr'.srcPort.symm
  have h4 := hr.dstPort.trans hr'.dstPort.symm
  simp only at hp hs h1 h2 h3 h4
  subst hp hs h1 h2 h3 h4
  rfl

theorem readInitialSyn_ok (data : Bytes) (p : Protocol) (ts : Nat) :
    readInitialSyn data p ts = .ok (decide (p = .tcp ∧ ts + 13 < data.length) &&
      isInitialSyn (byteAt data (ts + 13))) := by
  unfold readInitialSyn
  split
  · rename_i h
    rw [index_of_lt h.2, decide_eq_true h]
    rfl
  · rename_i h
    rw [decide_eq_false h]
    rfl

/-- Where nothing is to be read, `None` is right. -/
theorem none_reads {α : Type} {P : α → Prop} (hno : ∀ a, ¬ P a) :
    ∃ r, (.ok none : Checked (Option α)) = .ok r ∧ ∀ a, r = some a ↔ P a := by
  refine ⟨none, rfl, fun a => ⟨fun hsome => ?_, fun ha => absurd ha (hno a)⟩⟩
  cases hsome

/-- **The header reader never panics, and accepts exactly the frames of `ReadsAs`**, those of
UDP only with UDP tunnelling on. -/
theorem readHeader_spec (data : Bytes) (udp : Bool) :
    ∃ r, readHeader data udp = .ok r ∧
      ∀ h, r = some h ↔ ReadsAs data h ∧ (h.protocol = .udp → udp = true) := by
  have hstart : ipStart = 14 := rfl
  unfold readHeader
  split
  · rename_i hlen
    refine none_reads fun h hr => ?_
    have hlong := hr.1.long
    omega
  rename_i hlen
  rw [indexBe16_of_lt (by omega)]
  simp only [bind, Except.bind]
  split
  · rename_i het
    exact none_reads fun h hr => het hr.1.ethertype
  rename_i het
  rw [index_of_lt (show ipStart < data.length by omega)]
  simp only
  split
  · rename_i hver
    exact none_reads fun h hr => hver hr.1.version
  rename_i hver
  rw [index_of_lt (show ipStart + 9 < data.length by omega)]
  simp only
  split
  · rename_i hudp
    refine none_reads fun h hread => ?_
    obtain ⟨hr, hu⟩ := hread
    have hp : protocolNum h.protocol = 17 := hr.protocol.symm.trans hudp.1
    have hproto : h.protocol = .udp := by
      cases hc : h.protocol with
      | udp => rfl
      | tcp => rw [hc] at hp; exact absurd hp (by decide)
    rw [hu hproto] at hudp
    exact absurd hudp.2 (by decide)
  rename_i hudp
  split
  · rename_i hp
    refine none_reads fun h hr => ?_
    have e : protocolOf (byteAt data (ipStart + 9)) = some h.protocol :=
      protocolOf_iff.mpr hr.1.protocol
    rw [hp] at e
    cases e
  rename_i p hp
  have hnum := protocolOf_iff.mp hp
  rw [Ipv4Addr.index_of_lt (show ipStart + 12 + 3 < data.length by omega),
    Ipv4Addr.index_of_lt (show ipStart + 16 + 3 < data.length by omega)]
  simp only
  split
  · rename_i hts
    refine none_reads fun h hr => ?_
    have hports := hr.1.ports
    rw [hstart] at hts
    omega
  rename_i hts
  rw [indexBe16_of_lt (by omega), indexBe16_of_lt (by omega), readInitialSyn_ok]
  simp only [pure, Except.pure]
  refine ⟨_, rfl, fun h => ?_⟩
  have hread : ReadsAs data
      ⟨p, Ipv4Addr.ofBytesAt data 26, Ipv4Addr.ofBytesAt data 30,
        be16At data (transportStart data), be16At data (transportStart data + 2),
        decide (p = .tcp ∧ transportStart data + 13 < data.length) &&
          isInitialSyn (byteAt data (transportStart data + 13))⟩ := by
    refine ⟨by omega, not_not.mp het, not_not.mp hver, ?_, hnum, rfl, rfl, rfl, rfl, ?_⟩
    · rw [hstart] at hts
      omega
    · simp [and_assoc]
  constructor
  · intro e
    obtain rfl := Option.some.inj e
    refine ⟨hread, fun hpu => ?_⟩
    simp only at hpu
    subst hpu
    by_contra hu
    exact hudp ⟨hnum, by simpa using hu⟩
  · rintro ⟨hr, -⟩
    exact congrArg some (hread.unique hr)

/-- The transport header after the ports, and the payload: a TCP header without options, or the
length and checksum of a UDP datagram. -/
def transportRest (h : PacketHeader) (payload : Bytes) : Bytes :=
  match h.protocol with
  | .tcp =>
    [0, 0, 0, 0, 0, 0, 0, 0, 0x50, if h.isTcpInitialSyn then 0x02 else 0x10, 0, 0, 0, 0, 0, 0] ++
      payload
  | .udp =>
    let len := UInt16.ofNat (8 + payload.length)
    [hiByte len, len.toUInt8, 0, 0] ++ payload

/-- A frame with the header `h`: an IPv4 header without options, with its total length. -/
def frameOf (h : PacketHeader) (payload : Bytes) : Bytes :=
  let len := UInt16.ofNat (24 + (transportRest h payload).length)
  [0, 0, 0, 0, 0, 0, 0, 0, 0, 0, 0, 0, 0x08, 0x00,
    0x45, 0, hiByte len, len.toUInt8, 0, 0, 0, 0, 64, protocolNum h.protocol, 0, 0,
    h.srcIp.a, h.srcIp.b, h.srcIp.c, h.srcIp.d, h.dstIp.a, h.dstIp.b, h.dstIp.c, h.dstIp.d,
    hiByte h.srcPort, h.srcPort.toUInt8, hiByte h.dstPort, h.dstPort.toUInt8] ++
    transportRest h payload

/-- Every header occurs: only a TCP segment can open a connection, and there is no other
condition on the fields. -/
theorem frameOf_reads {h : PacketHeader} (hs : h.isTcpInitialSyn = true → h.protocol = .tcp)
    (payload : Bytes) : ReadsAs (frameOf h payload) h := by
  obtain ⟨p, si, di, sp, dp, syn⟩ := h
  have hfirst : byteAt (frameOf ⟨p, si, di, sp, dp, syn⟩ payload) 14 = 0x45 := rfl
  have hihl : ihlOf 0x45 = 20 := by decide
  have hts : transportStart (frameOf ⟨p, si, di, sp, dp, syn⟩ payload) = 34 := by
    simp only [transportStart, ipStart, hfirst, hihl]
  have hethertype : be16 0x08 0x00 = 0x0800 := by decide
  have hversion : (0x45 : UInt8) >>> 4 &&& 0xF = 4 := by decide
  refine ⟨?_, hethertype, hfirst ▸ hversion, ?_, rfl, rfl, rfl, ?_, ?_, ?_⟩
  · simp [frameOf]
  · simp only [hfirst, hihl]
    simp [frameOf]
  · rw [hts]
    exact (be16_hiByte sp).symm
  · rw [hts]
    exact (be16_hiByte dp).symm
  · rw [hts]
    cases p with
    | tcp =>
      have hflags : byteAt (frameOf ⟨.tcp, si, di, sp, dp, syn⟩ payload) 47 =
          if syn then 0x02 else 0x10 := rfl
      have hsyn : isInitialSyn 0x02 = true := by decide
      have hack : isInitialSyn 0x10 = false := by decide
      rw [hflags]
      cases syn with
      | false => simp [hack]
      | true => simp [hsyn, frameOf, transportRest]
    | udp =>
      cases syn with
      | false => simp
      | true => exact absurd (hs rfl) (by simp)

/-! ## 3. The decision -/

/-- `inline_cache.insert(cache_key, true)`, unless the cache is full. -/
def remember (cache : InlineCache) (key : SourceKey) : InlineCache :=
  if cache.card < 10000 then insert key cache else cache

/-- Phases 0 to 5 of `classify_packet`. -/
def classifyHeader (g : SharedState) (s : ProcessSnapshot) (cache : InlineCache) (api : Bool)
    (h : PacketHeader) : Bool × InlineCache :=
  if g.isExcludedIp h.dstIp then (false, cache)
  else if h.protocol = .tcp ∧ g.isDirectOnlyBootstrapIp h.dstIp = true then (false, cache)
  else if s.shouldTunnelV3 h.srcIp h.srcPort h.protocol h.dstIp h.dstPort api then
    (true, remember cache h.key)
  else if h.key ∈ cache then (isLikelyGameTraffic h.dstPort h.protocol api, cache)
  else if s.shouldTunnelByPortFallback h.srcPort h.protocol then
    (isLikelyGameTraffic h.dstPort h.protocol api, remember cache h.key)
  else if isGameServer h.dstIp h.dstPort h.protocol api then (true, remember cache h.key)
  else if api = true ∧ h.protocol = .tcp ∧ h.isTcpInitialSyn = true ∧
      (h.dstPort = 80 ∨ h.dstPort = 443) ∧ s.tunnelApps ≠ ∅ ∧
      g.isActiveBootstrapIp h.dstIp = true ∧ g.isDirectOnlyBootstrapIp h.dstIp = false then
    (true, remember cache h.key)
  else (false, cache)

/-- `classify_packet`. -/
def classifyPacket (g : SharedState) (data : Bytes) (s : ProcessSnapshot) (cache : InlineCache)
    (apiTunneling udpTunneling : Bool) : Checked (Bool × InlineCache) := do
  match ← readHeader data udpTunneling with
  | none => return (false, cache)
  | some h => return classifyHeader g s cache apiTunneling h

end SwiftTunnel
