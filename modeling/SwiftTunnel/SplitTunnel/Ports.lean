/-
# `parse_ports`, and how much of a frame the headers take

`interceptor.rs`.  The packet reader has a header parser of its own, which it uses to choose a
worker.  A malformed frame would reach a worker under a wrong port if the two parsers differed.

What follows the headers does not change how a frame is read: neither the reader's cut to
`MAX_PACKET_SIZE` bytes nor an Ethernet trailer.  `HeadersFit` says how much of a frame has to be
there for that, which is less than the whole packet: in a segment cut before its flags a SYN is not
seen as one.

* `parsePorts_spec`: `parse_ports` returns on every frame, and gives the ports of those that
  `classify_packet` can read and of no others.
* `readsAs_append_iff`: bytes behind the headers make no difference.
* `readsAs_take_iff`, `classifyPacket_take`: nor does the cut.
-/
import SwiftTunnel.SplitTunnel.Decision

namespace SwiftTunnel

open Rust

/-! ## 1. The reader's parser -/

def parsePorts (data : Bytes) : Checked (Option (UInt16 × UInt16)) :=
  if data.length < 14 + 20 + 4 then .ok none
  else do
    let ethertype ← indexBe16 data 12
    if ethertype ≠ 0x0800 then .ok none
    else do
      let first ← index data 14
      if (first >>> 4) &&& 0xF ≠ 4 then .ok none
      else do
        let protocol ← index data (14 + 9)
        if protocol ≠ 6 ∧ protocol ≠ 17 then .ok none
        else
          let transportStart := 14 + ihlOf first
          if data.length < transportStart + 4 then .ok none
          else do
            let srcPort ← indexBe16 data transportStart
            let dstPort ← indexBe16 data (transportStart + 2)
            return some (srcPort, dstPort)

/-- The header that `classify_packet` reads, whatever the flags. -/
theorem exists_readsAs {data : Bytes} (hlen : 38 ≤ data.length)
    (het : be16At data 12 = 0x0800) (hver : (byteAt data 14 >>> 4) &&& 0xF = 4)
    (hports : 14 + ihlOf (byteAt data 14) + 4 ≤ data.length)
    (hproto : byteAt data 23 = 6 ∨ byteAt data 23 = 17) : ∃ h, ReadsAs data h := by
  obtain ⟨p, hp⟩ : ∃ p, byteAt data 23 = protocolNum p := by
    rcases hproto with h | h
    · exact ⟨.tcp, h⟩
    · exact ⟨.udp, h⟩
  refine ⟨⟨p, Ipv4Addr.ofBytesAt data 26, Ipv4Addr.ofBytesAt data 30,
    be16At data (transportStart data), be16At data (transportStart data + 2),
    decide (p = .tcp ∧ transportStart data + 13 < data.length) &&
      isInitialSyn (byteAt data (transportStart data + 13))⟩, ?_⟩
  exact ⟨hlen, het, hver, hports, hp, rfl, rfl, rfl, rfl, by simp [and_assoc]⟩

theorem ReadsAs.protocol_eq {data : Bytes} {h : PacketHeader} (hr : ReadsAs data h) :
    byteAt data 23 = 6 ∨ byteAt data 23 = 17 := by
  rw [hr.protocol]
  cases h.protocol with
  | tcp => exact Or.inl rfl
  | udp => exact Or.inr rfl

/-- **The two parsers agree**: `parse_ports` returns on every frame, and gives the ports of those
that `classify_packet` can read and of no others. -/
theorem parsePorts_spec (data : Bytes) :
    ∃ r, parsePorts data = .ok r ∧
      ∀ ports, r = some ports ↔ ∃ h, ReadsAs data h ∧ ports = (h.srcPort, h.dstPort) := by
  have hnone : (∀ h, ¬ ReadsAs data h) → ∀ ports, (none : Option (UInt16 × UInt16)) = some ports ↔
      ∃ h, ReadsAs data h ∧ ports = (h.srcPort, h.dstPort) := by
    intro hno ports
    constructor
    · exact fun e => nomatch e
    · rintro ⟨h, hr, -⟩
      exact absurd hr (hno h)
  unfold parsePorts
  by_cases hlen : data.length < 14 + 20 + 4
  · rw [if_pos hlen]
    refine ⟨none, rfl, hnone fun h hr => ?_⟩
    have := hr.long
    omega
  rw [if_neg hlen, indexBe16_of_lt (by omega), index_of_lt (by omega), index_of_lt (by omega)]
  simp only [bind, Except.bind]
  by_cases het : be16At data 12 = 0x0800
  case neg =>
    rw [if_pos het]
    exact ⟨none, rfl, hnone fun h hr => het hr.ethertype⟩
  rw [if_neg (not_not_intro het)]
  by_cases hver : (byteAt data 14 >>> 4) &&& 0xF = 4
  case neg =>
    rw [if_pos hver]
    exact ⟨none, rfl, hnone fun h hr => hver hr.version⟩
  rw [if_neg (not_not_intro hver)]
  by_cases hproto : byteAt data (14 + 9) ≠ 6 ∧ byteAt data (14 + 9) ≠ 17
  · rw [if_pos hproto]
    refine ⟨none, rfl, hnone fun h hr => ?_⟩
    exact hr.protocol_eq.elim hproto.1 hproto.2
  rw [if_neg hproto]
  by_cases hts : data.length < 14 + ihlOf (byteAt data 14) + 4
  · rw [if_pos hts]
    refine ⟨none, rfl, hnone fun h hr => ?_⟩
    have := hr.ports
    omega
  rw [if_neg hts, indexBe16_of_lt (by omega), indexBe16_of_lt (by omega)]
  refine ⟨_, rfl, fun ports => ?_⟩
  obtain ⟨h, hr⟩ := exists_readsAs (by omega) het hver (by omega)
    (or_iff_not_and_not.mpr hproto)
  have hports : (h.srcPort, h.dstPort) =
      (be16At data (14 + ihlOf (byteAt data 14)), be16At data (14 + ihlOf (byteAt data 14) + 2)) :=
    Prod.ext hr.srcPort hr.dstPort
  rw [← hports]
  constructor
  · intro e
    exact ⟨h, hr, (Option.some.inj e).symm⟩
  · rintro ⟨h', hr', rfl⟩
    rw [hr.unique hr']

theorem parsePorts_some_iff {data : Bytes} {ports : UInt16 × UInt16} :
    parsePorts data = .ok (some ports) ↔ ∃ h, ReadsAs data h ∧ ports = (h.srcPort, h.dstPort) := by
  obtain ⟨r, hr, hspec⟩ := parsePorts_spec data
  rw [hr, Except.ok.injEq, hspec]

theorem parsePorts_none_iff {data : Bytes} :
    parsePorts data = .ok none ↔ ∀ h, ¬ ReadsAs data h := by
  obtain ⟨r, hr, hspec⟩ := parsePorts_spec data
  rw [hr, Except.ok.injEq]
  constructor
  · rintro rfl h hread
    exact nomatch (hspec _).mpr ⟨h, hread, rfl⟩
  · intro hno
    cases r with
    | none => rfl
    | some ports =>
      obtain ⟨h, hread, -⟩ := (hspec ports).mp rfl
      exact absurd hread (hno h)

/-! ## 2. What follows the headers -/

/-- The frame holds its addresses, its ports and, in a TCP segment, the flags. -/
structure HeadersFit (data : Bytes) : Prop where
  addresses : 38 ≤ data.length
  ports : transportStart data + 4 ≤ data.length
  flags : byteAt data 23 = 6 → transportStart data + 13 < data.length

/-- **What follows the headers does not change how a frame is read.** -/
theorem readsAs_append_iff {data : Bytes} (hfit : HeadersFit data) (more : Bytes)
    {h : PacketHeader} : ReadsAs (data ++ more) h ↔ ReadsAs data h := by
  obtain ⟨h38, h4, h13⟩ := hfit
  have h14 := byteAt_append (show 14 < data.length by omega) more
  have h23 := byteAt_append (show 23 < data.length by omega) more
  have hts : transportStart (data ++ more) = transportStart data := by
    rw [transportStart, transportStart, ipStart, h14]
  have hts' : 14 + ihlOf (byteAt data 14) = transportStart data := rfl
  have hsrc := be16At_append (show transportStart data + 1 < data.length by omega) more
  have hdst := be16At_append (show transportStart data + 2 + 1 < data.length by omega) more
  have het := be16At_append (show 12 + 1 < data.length by omega) more
  have hip : ∀ i, i + 3 < data.length →
      Ipv4Addr.ofBytesAt (data ++ more) i = Ipv4Addr.ofBytesAt data i := by
    intro i hi
    simp only [Ipv4Addr.ofBytesAt]
    rw [byteAt_append (by omega), byteAt_append (by omega), byteAt_append (by omega),
      byteAt_append hi]
  have hsyn : h.protocol = .tcp → byteAt data 23 = protocolNum h.protocol →
      (transportStart data + 13 < (data ++ more).length ↔ transportStart data + 13 < data.length) ∧
        byteAt (data ++ more) (transportStart data + 13) =
          byteAt data (transportStart data + 13) := by
    intro htcp hproto
    rw [htcp] at hproto
    have hlt := h13 hproto
    refine ⟨⟨fun _ => hlt, fun _ => ?_⟩, byteAt_append hlt more⟩
    rw [List.length_append]
    omega
  constructor
  · rintro ⟨-, e1, e2, -, e4, e5, e6, e7, e8, e9⟩
    rw [het] at e1
    rw [h14] at e2
    rw [h23] at e4
    rw [hip 26 (by omega)] at e5
    rw [hip 30 (by omega)] at e6
    rw [hts, hsrc] at e7
    rw [hts, hdst] at e8
    refine ⟨h38, e1, e2, by omega, e4, e5, e6, e7, e8, ?_⟩
    rw [e9, hts]
    refine and_congr_right fun htcp => ?_
    obtain ⟨hlt, hflags⟩ := hsyn htcp e4
    rw [hlt, hflags]
  · rintro ⟨-, e1, e2, e3, e4, e5, e6, e7, e8, e9⟩
    refine ⟨?_, het.trans e1, ?_, ?_, h23.trans e4, ?_, ?_, ?_, ?_, ?_⟩
    · rw [List.length_append]
      omega
    · rw [h14]
      exact e2
    · rw [h14, List.length_append]
      omega
    · rw [hip 26 (by omega)]
      exact e5
    · rw [hip 30 (by omega)]
      exact e6
    · rw [hts, hsrc]
      exact e7
    · rw [hts, hdst]
      exact e8
    · rw [e9, hts]
      refine and_congr_right fun htcp => ?_
      obtain ⟨hlt, hflags⟩ := hsyn htcp e4
      rw [hlt, hflags]

/-- Frames that are read in the same way are decided in the same way. -/
theorem classifyPacket_congr {data data' : Bytes} (h : ∀ h, ReadsAs data' h ↔ ReadsAs data h)
    (g : SharedState) (s : ProcessSnapshot) (cache : InlineCache) (api udp : Bool) :
    classifyPacket g data' s cache api udp = classifyPacket g data s cache api udp := by
  obtain ⟨r, hr, hspec⟩ := readHeader_spec data udp
  obtain ⟨r', hr', hspec'⟩ := readHeader_spec data' udp
  have hsame : r' = r := by
    refine Option.ext fun hd => ?_
    rw [hspec, hspec', h]
  rw [classifyPacket, classifyPacket, hr, hr', hsame]

/-- `MAX_PACKET_SIZE`. -/
def maxPacketSize : Nat := 1600

theorem headersFit_take {data : Bytes} (h : maxPacketSize < data.length) :
    HeadersFit (data.take maxPacketSize) := by
  have hmax : maxPacketSize = 1600 := rfl
  have hlen : (data.take maxPacketSize).length = 1600 := by
    rw [List.length_take]
    omega
  have hts : transportStart (data.take maxPacketSize) ≤ 74 := by
    have := ihlOf_le (byteAt (data.take maxPacketSize) ipStart)
    rw [transportStart, ipStart]
    rw [ipStart] at this
    omega
  exact ⟨by omega, by omega, fun _ => by omega⟩

/-- **The reader's cut does not change the decision.** -/
theorem readsAs_take_iff {data : Bytes} {h : PacketHeader} :
    ReadsAs (data.take maxPacketSize) h ↔ ReadsAs data h := by
  by_cases hlen : maxPacketSize < data.length
  · have hiff := readsAs_append_iff (headersFit_take hlen) (data.drop maxPacketSize) (h := h)
    rw [List.take_append_drop] at hiff
    exact hiff.symm
  · rw [List.take_of_length_le (by omega)]

theorem classifyPacket_take (g : SharedState) (data : Bytes) (s : ProcessSnapshot)
    (cache : InlineCache) (api udp : Bool) :
    classifyPacket g (data.take maxPacketSize) s cache api udp =
      classifyPacket g data s cache api udp :=
  classifyPacket_congr (fun _ => readsAs_take_iff) g s cache api udp

end SwiftTunnel
