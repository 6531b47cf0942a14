/-
# What forwarding changes in a packet

`fix_packet_checksums` writes the IPv4 header checksum and, where a transport header fits, a
transport checksum behind the header.  `classify_packet` lets through packets in which that place
is something else: a fragment that is not the first has payload there, and behind a header of
less than 20 bytes it may lie in the addresses.

`Intact` is what a packet on its way to the relay may lose: the checksums at the places that a
checksum has (`ChecksumPlace`), and nothing else.  The checksum that is written is determined by
residues (`totalOf_residue`), so a packet that is treated wrongly gets through intact only if its
bytes happen to be the checksum already (`AlreadyThere`).  The cases are a packet without room for
a transport header, one whose checksum has its place, one whose checksum comes to lie on that of
the header, and the rest.

* `fixed_intact_iff`: which packets `fix_packet_checksums` leaves intact.
* `forwarded_intact_iff`: which accepted frames are forwarded intact.
* `accepted_frames_altered`: two that are not.
-/
import Mathlib.Tactic.Ring
import SwiftTunnel.SplitTunnel.DataPath

namespace SwiftTunnel

open Rust

/-! ## 1. What may change -/

/-- The fragment offset of an IPv4 header, in units of eight bytes. -/
def fragmentOffset (packet : Bytes) : UInt16 := be16At packet 6 &&& 0x1FFF

/-- The places that a checksum has: in the IPv4 header, and in the TCP or UDP header that a
full IPv4 header is followed by, unless the packet is a later fragment. -/
inductive ChecksumPlace (packet : Bytes) (i : Nat) : Prop
  | header (h : i = 10 ∨ i = 11)
  | transport {p : Protocol} (hnum : byteAt packet 9 = protocolNum p)
      (hfull : 20 ≤ headerLen packet) (hfirst : fragmentOffset packet = 0)
      (h : i = checksumField packet p ∨ i = checksumField packet p + 1)

/-- The packet as it is forwarded differs in checksums alone. -/
structure Intact (packet out : Bytes) : Prop where
  length : out.length = packet.length
  bytes : ∀ i, byteAt out i ≠ byteAt packet i → ChecksumPlace packet i

/-- No checksum stands where the addresses do. -/
theorem Intact.addresses {packet out : Bytes} (h : Intact packet out) {i : Nat} (h12 : 12 ≤ i)
    (h20 : i < 20) : byteAt out i = byteAt packet i := by
  by_contra hne
  cases h.bytes i hne with
  | header h => omega
  | @transport p hnum hfull hfirst h =>
    rw [checksumField] at h
    omega

/-- A later fragment keeps all that follows the header checksum. -/
theorem Intact.fragment {packet out : Bytes} (h : Intact packet out)
    (hfrag : fragmentOffset packet ≠ 0) {i : Nat} (h12 : 12 ≤ i) :
    byteAt out i = byteAt packet i := by
  by_contra hne
  cases h.bytes i hne with
  | header h => omega
  | transport hnum hfull hfirst h => exact hfrag hfirst

/-! ## 2. The checksum that is written -/

/-- The packet with both checksums taken out. -/
def blank (packet : Bytes) (p : Protocol) : Bytes :=
  put16 (put16 packet 10 0) (checksumField packet p) 0

/-- The pseudo-header and the segment, as a residue.  Behind a header of up to 8 bytes the place
of the header checksum belongs to the segment, and the header checksum counts there as the
opposite of the header. -/
def segmentResidue (packet : Bytes) (p : Protocol) : ZMod 65535 :=
  (wordSum (((blank packet p).take 20).drop 12) + (protocolNum p).toNat +
      (packet.length - headerLen packet) + wordSum ((blank packet p).drop (headerLen packet)) : Nat) -
    (if headerLen packet ≤ 8 then wordSum ((blank packet p).take (headerLen packet)) else 0 : Nat)

/-- The two bytes at the place of the transport checksum are the checksum of the packet, in the
protocol's way of writing zero. -/
structure AlreadyThere (packet : Bytes) (p : Protocol) : Prop where
  residue : (((be16At packet (checksumField packet p)).toNat : Nat) : ZMod 65535) =
    -segmentResidue packet p
  zero : be16At packet (checksumField packet p) ≠ unusedZero p

/-- **The sum behind the checksum, by the bytes of the packet alone.** -/
theorem totalOf_residue {packet : Bytes} {c : UInt16} {p : Protocol} (hc : HeaderChecksum packet c)
    (hfield : checksumField packet p ≠ 10) (hlen : packet.length < 2 ^ 32)
    (h20 : 20 ≤ packet.length) :
    ((totalOf packet c p : Nat) : ZMod 65535) = segmentResidue packet p := by
  have heven := checksumField_even packet p
  have hplace : checksumField packet p = headerLen packet + checksumOffset p := rfl
  have hihl : headerLen packet % 4 = 0 := by
    rw [headerLen, ihlOf]
    omega
  have hsmall : (packet.length - headerLen packet) % 2 ^ 32 = packet.length - headerLen packet :=
    Nat.mod_eq_of_lt (by omega)
  -- the header checksum in the packet without the transport checksum
  have hinner : blank packet p = put16 (put16 packet (checksumField packet p) 0) 10 0 :=
    put16_comm (by omega)
  have hswap : put16 (put16 packet 10 c) (checksumField packet p) 0 =
      put16 (blank packet p) 10 c := by
    rw [hinner, put16_put16]
    exact put16_comm (by omega)
  have hblank : put16 (blank packet p) 10 0 = blank packet p := by rw [hinner, put16_put16]
  have hlen' : (put16 (blank packet p) 10 c).length = packet.length := by
    rw [length_put16, blank, length_put16, length_put16]
  have haddr : ((put16 (blank packet p) 10 c).take 20).drop 12 =
      ((blank packet p).take 20).drop 12 := by
    rw [take_put16, drop_put16_of_le (Nat.le_refl _)]
  have hsegment :
      put16 ((put16 (blank packet p) 10 c).drop (headerLen packet)) (checksumOffset p) 0 =
        (put16 (blank packet p) 10 c).drop (headerLen packet) := by
    rw [← hswap, hplace, drop_put16, put16_put16]
  rw [totalOf, protocolTotal, segmentTotal, hswap, haddr, hsegment, hlen', hsmall, segmentResidue]
  by_cases h8 : headerLen packet ≤ 8
  · have hplace10 : headerLen packet + (10 - headerLen packet) = 10 := by omega
    have hcut : ∀ x : UInt16, (put16 (blank packet p) 10 x).drop (headerLen packet) =
        put16 ((blank packet p).drop (headerLen packet)) (10 - headerLen packet) x := by
      intro x
      have hdrop := drop_put16 (blank packet p) (headerLen packet) (10 - headerLen packet) x
      rwa [hplace10] at hdrop
    have hroom : 10 - headerLen packet + 1 < ((blank packet p).drop (headerLen packet)).length := by
      rw [List.length_drop, blank, length_put16, length_put16]
      omega
    have hsum : wordSum ((put16 (blank packet p) 10 c).drop (headerLen packet)) =
        c.toNat + wordSum ((blank packet p).drop (headerLen packet)) := by
      rw [hcut c, wordSum_put16 (by omega) hroom, ← hcut 0, hblank]
    have hhead : (blank packet p).take (headerLen packet) =
        (put16 packet 10 0).take (headerLen packet) := take_put16_of_le (by omega)
    rw [hsum, if_pos h8, hhead]
    push_cast
    rw [hc.residue]
    ring
  · rw [if_neg h8, drop_put16_of_le (by omega)]
    simp

/-! ## 3. Which packets stay intact -/

/-- What keeps a packet with a transport header intact: the checksum has its place there, or it
comes to lie on that of the header checksum, or it is there already. -/
def Spared (packet : Bytes) (p : Protocol) : Prop :=
  (20 ≤ headerLen packet ∧ fragmentOffset packet = 0) ∨ checksumField packet p = 10 ∨
    AlreadyThere packet p

theorem intact_header {packet : Bytes} {c : UInt16} : Intact packet (put16 packet 10 c) := by
  refine ⟨length_put16 _ _ _, fun i hne => ChecksumPlace.header ?_⟩
  by_contra h
  obtain ⟨h10, h11⟩ := not_or.mp h
  exact hne (byteAt_put16_of_ne h10 h11)

/-- With a transport checksum written, the two bytes at its place decide. -/
theorem intact_iff_of_not_place {packet : Bytes} {c checksum : UInt16} {p : Protocol}
    (h : HasSegment packet p) (hplace : ¬ (20 ≤ headerLen packet ∧ fragmentOffset packet = 0))
    (hfield : checksumField packet p ≠ 10) :
    Intact packet (put16 (put16 packet 10 c) (checksumField packet p) checksum) ↔
      checksum = be16At packet (checksumField packet p) := by
  have heven := checksumField_even packet p
  have hlt := checksumField_lt h
  have hlt' : checksumField packet p + 1 < (put16 packet 10 c).length := by rwa [length_put16]
  have hword := be16At_put16 hlt' checksum
  have hnot : ∀ i, i = checksumField packet p ∨ i = checksumField packet p + 1 →
      ¬ ChecksumPlace packet i := by
    intro i hi hp
    cases hp with
    | header h10 => omega
    | transport _ hfull hfirst _ => exact hplace ⟨hfull, hfirst⟩
  constructor
  · intro hintact
    have hbyte : ∀ i, i = checksumField packet p ∨ i = checksumField packet p + 1 →
        byteAt (put16 (put16 packet 10 c) (checksumField packet p) checksum) i =
          byteAt packet i := by
      intro i hi
      by_contra hne
      exact hnot i hi (hintact.bytes i hne)
    rw [← hword, be16At, be16At, hbyte _ (Or.inl rfl), hbyte _ (Or.inr rfl)]
  · intro hsame
    rw [hsame] at hword
    obtain ⟨hhi, hlo⟩ := be16_inj hword
    refine ⟨by rw [length_put16, length_put16], fun i hne => ?_⟩
    by_cases h0 : i = checksumField packet p
    · rw [hsame, h0] at hne
      exact absurd hhi hne
    by_cases h1 : i = checksumField packet p + 1
    · rw [hsame, h1] at hne
      exact absurd hlo hne
    · rw [byteAt_put16_of_ne h0 h1] at hne
      exact intact_header.bytes i hne

theorem intact_segment {packet : Bytes} {c checksum : UInt16} {p : Protocol}
    (h : HasSegment packet p)
    (hwhy : (20 ≤ headerLen packet ∧ fragmentOffset packet = 0) ∨ checksumField packet p = 10) :
    Intact packet (put16 (put16 packet 10 c) (checksumField packet p) checksum) := by
  refine ⟨by rw [length_put16, length_put16], fun i hne => ?_⟩
  by_cases hi : i = checksumField packet p ∨ i = checksumField packet p + 1
  · rcases hwhy with ⟨hfull, hfirst⟩ | h10
    · exact ChecksumPlace.transport h.num hfull hfirst hi
    · exact ChecksumPlace.header (by omega)
  · obtain ⟨h0, h1⟩ := not_or.mp hi
    rw [byteAt_put16_of_ne h0 h1] at hne
    exact intact_header.bytes i hne

/-- **When a packet stays intact.** -/
theorem fixed_intact_iff {packet : Bytes} (h20 : 20 ≤ packet.length)
    (hihl : headerLen packet ≤ packet.length) (hlen : packet.length ≤ safeLen) :
    (∃ done out, fixPacketChecksums packet = .ok (done, out) ∧ Intact packet out) ↔
      ∀ p, HasSegment packet p → Spared packet p := by
  have hsafe : safeLen = 131064 := rfl
  by_cases hseg : ∃ p, HasSegment packet p
  · obtain ⟨p, hp⟩ := hseg
    have hone : (∀ p, HasSegment packet p → Spared packet p) ↔ Spared packet p :=
      ⟨fun h => h p hp, fun h p' hp' => hp.unique hp' ▸ h⟩
    obtain ⟨c, checksum, hc, hword, hfix⟩ := fixPacketChecksums_words h20 hp hlen
    have hout : (∃ done out, fixPacketChecksums packet = .ok (done, out) ∧ Intact packet out) ↔
        Intact packet (put16 (put16 packet 10 c) (checksumField packet p) checksum) := by
      constructor
      · rintro ⟨done, out, he, hintact⟩
        rw [hfix] at he
        obtain ⟨rfl, rfl⟩ := Prod.mk.inj (Except.ok.inj he)
        exact hintact
      · intro hintact
        exact ⟨true, _, hfix, hintact⟩
    rw [hone, hout]
    by_cases hplace : 20 ≤ headerLen packet ∧ fragmentOffset packet = 0
    · exact ⟨fun _ => Or.inl hplace, fun _ => intact_segment hp (Or.inl hplace)⟩
    by_cases hfield : checksumField packet p = 10
    · exact ⟨fun _ => Or.inr (Or.inl hfield), fun _ => intact_segment hp (Or.inr hfield)⟩
    have htotal := totalOf_residue hc hfield (by omega) h20
    rw [intact_iff_of_not_place hp hplace hfield, hword, htotal]
    constructor
    · rintro ⟨hres, hzero⟩
      exact Or.inr (Or.inr ⟨hres, hzero⟩)
    · rintro (h | h | h)
      · exact absurd h hplace
      · exact absurd h hfield
      · exact ⟨h.residue, h.zero⟩
  · constructor
    · intro _ p hp
      exact absurd ⟨p, hp⟩ hseg
    · intro _
      obtain ⟨c, hc⟩ := exists_headerChecksum packet
      exact ⟨true, _, fixPacketChecksums_plain h20 hihl hc fun p hp => hseg ⟨p, hp⟩, intact_header⟩

/-- **Which accepted frames are forwarded intact.** -/
theorem forwarded_intact_iff {g : SharedState} {data : Bytes} {s : ProcessSnapshot}
    {cache cache' : InlineCache} {api udp : Bool}
    (htunnel : classifyPacket g data s cache api udp = .ok (true, cache'))
    (hsize : data.length ≤ maxPacketSize) :
    (∃ done out, fixPacketChecksums (data.drop 14) = .ok (done, out) ∧ Intact (data.drop 14) out) ↔
      ∀ p, HasSegment (data.drop 14) p → Spared (data.drop 14) p := by
  have hmax : maxPacketSize = 1600 := rfl
  have hsafe : safeLen = 131064 := rfl
  rcases classifyPacket_cases g data s cache api udp with ⟨h, hr, -⟩ | ⟨-, e⟩
  · have hlong := hr.long
    have hports := hr.ports
    have hhead : headerLen (data.drop 14) = ihlOf (byteAt data 14) := by
      rw [headerLen, byteAt_drop]
    have hdrop : (data.drop 14).length = data.length - 14 := List.length_drop
    exact fixed_intact_iff (by omega) (by omega) (by omega)
  · rw [e] at htunnel
    cases congrArg Prod.fst (Except.ok.inj htunnel)

/-- A datagram to a game server from a source that no process is known for. -/
def gameDatagram : Bytes :=
  frameOf ⟨.udp, ⟨192, 168, 195, 80⟩, ⟨128, 116, 1, 1⟩, 51001, 50000, false⟩ []

/-- Its only fragment stays intact. -/
theorem gameDatagram_intact :
    ∃ done out, fixPacketChecksums (gameDatagram.drop 14) = .ok (done, out) ∧
      Intact (gameDatagram.drop 14) out := by
  have htunnel : classifyPacket (SharedState.fresh []) gameDatagram (ProcessSnapshot.empty ∅) ∅ false
      true = .ok (true, {(⟨192, 168, 195, 80⟩, 51001, .udp)}) := rfl
  refine (forwarded_intact_iff htunnel (by decide)).mpr fun p _ => Or.inl ⟨?_, rfl⟩
  exact (by decide : 20 ≤ ihlOf 0x45)

/-- **Accepted frames that are not forwarded intact**: a later fragment has payload overwritten,
and the destination address changes behind a header of 12 bytes. -/
theorem accepted_frames_altered :
    ((classifyPacket (SharedState.fresh []) (put16 gameDatagram 20 185) (ProcessSnapshot.empty ∅) ∅
        false true).map Prod.fst = .ok true ∧
      ¬ ∃ done out, fixPacketChecksums ((put16 gameDatagram 20 185).drop 14) = .ok (done, out) ∧
        Intact ((put16 gameDatagram 20 185).drop 14) out) ∧
    ((classifyPacket (SharedState.fresh []) (gameDatagram.set 14 0x43) (ProcessSnapshot.empty ∅) ∅
        false true).map Prod.fst = .ok true ∧
      ∃ done out, fixPacketChecksums ((gameDatagram.set 14 0x43).drop 14) = .ok (done, out) ∧
        Ipv4Addr.ofBytesAt out 16 ≠ Ipv4Addr.ofBytesAt ((gameDatagram.set 14 0x43).drop 14) 16) := by
  refine ⟨⟨rfl, ?_⟩, rfl, _, _, rfl, by decide⟩
  intro h
  have hseg : HasSegment ((put16 gameDatagram 20 185).drop 14) .udp := ⟨rfl, by decide⟩
  rcases (fixed_intact_iff (by decide) (by decide) (by decide)).mp h .udp hseg with h | h | h
  · exact absurd h.2 (by decide)
  · exact absurd h (by decide)
  · exact h.zero rfl

end SwiftTunnel
