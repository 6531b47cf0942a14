/-
# `fix_packet_checksums` as a receiver sees it

`Checksums` says which words the function writes.  A receiver adds up the words of the header,
and those of the pseudo-header and the segment, and accepts when each sum is all ones.

The function adds the addresses, the protocol number and the segment in parts; that these are the
words of pseudo-header and segment is `wordSum_pseudoHeader`.  Writing the opposite of a sum at a
place that counted as zero makes the whole verify, which is a general fact about ones'-complement
sums (`OnesComplement`).  The two checksums do not disturb each other: the first lies before the
segment, and the second is not part of the header.

* `fixPacketChecksums_repairs`: both sums verify, the rest of the packet is as it was, and a
  second repair finds nothing to do.

The function reads neither the total length nor the fragment fields nor the length field of UDP,
so nothing is asked of them: where they are exact the segment is the datagram.  What it does to a
packet in which they are not is in `Intact`.
-/
import SwiftTunnel.SplitTunnel.Checksums

namespace SwiftTunnel

open Rust

/-! ## 1. What the sums are over -/

/-- The transport header and what follows it. -/
def segmentOf (packet : Bytes) : Bytes := packet.drop (headerLen packet)

/-- The pseudo-header: the addresses, a zero byte, the protocol number and the length of the
segment. -/
def pseudoHeader (packet : Bytes) (p : Protocol) : Bytes :=
  let len := UInt16.ofNat (segmentOf packet).length
  (packet.take 20).drop 12 ++ [0, protocolNum p, hiByte len, len.toUInt8]

/-- **What the receiver adds up** is what the sender did, and the checksum. -/
theorem wordSum_pseudoHeader {packet : Bytes} {p : Protocol} (h20 : 20 ≤ packet.length)
    (hp : HasSegment packet p) (hlen : packet.length ≤ 65535) :
    wordSum (pseudoHeader packet p ++ segmentOf packet) =
      (be16At packet (checksumField packet p)).toNat +
        protocolTotal p packet (headerLen packet) := by
  have hsize : (segmentOf packet).length = packet.length - headerLen packet := List.length_drop
  have hword : (UInt16.ofNat (segmentOf packet).length).toNat = (segmentOf packet).length :=
    UInt16.toNat_ofNat_of_lt' (by rw [hsize, show UInt16.size = 65536 from rfl]; omega)
  have haddr : ((packet.take 20).drop 12).length = 8 := by
    rw [List.length_drop, List.length_take]
    omega
  have hzero : (0 : UInt8).toNat = 0 := rfl
  have hpseudo : wordSum (pseudoHeader packet p) = wordSum ((packet.take 20).drop 12) +
      ((protocolNum p).toNat + (segmentOf packet).length) := by
    rw [pseudoHeader, wordSum_append (by rw [haddr])]
    simp only [wordSum_cons_cons, wordSum_nil, be16_hiByte, hword, be16_toNat, hzero]
    omega
  have hfield := checksumField_lt hp
  rw [checksumField] at hfield ⊢
  have heven : checksumOffset p % 2 = 0 := by cases p <;> rfl
  have hsegment : wordSum (segmentOf packet) = (be16At packet
      (headerLen packet + checksumOffset p)).toNat +
        wordSum (put16 (segmentOf packet) (checksumOffset p) 0) := by
    rw [wordSum_eq heven (by rw [hsize]; omega), segmentOf, be16At_drop]
  have hsmall : (packet.length - headerLen packet) % 2 ^ 32 = packet.length - headerLen packet :=
    Nat.mod_eq_of_lt (by omega)
  rw [wordSum_append (by simp [pseudoHeader, haddr]), hpseudo, hsegment, protocolTotal,
    segmentTotal, hsmall, hsize, segmentOf]
  omega

/-! ## 2. The repaired packet -/

/-- A packet as a repair leaves it. -/
structure ChecksumsRepaired (packet fixed : Bytes) (p : Protocol) : Prop where
  header : Verifies (fixed.take (headerLen fixed))
  transport : Verifies (pseudoHeader fixed p ++ segmentOf fixed)
  /-- A UDP checksum of zero would say that there is none. -/
  udpChecksum : p = .udp → be16At fixed (checksumField fixed p) ≠ 0
  length : fixed.length = packet.length
  untouched : ∀ i, i ≠ 10 → i ≠ 11 → i ≠ checksumField packet p →
    i ≠ checksumField packet p + 1 → byteAt fixed i = byteAt packet i
  again : fixPacketChecksums fixed = .ok (true, fixed)

/-- A packet with both checksums set. -/
def withChecksums (packet : Bytes) (p : Protocol) (c w : UInt16) : Bytes :=
  put16 (put16 packet 10 c) (checksumField packet p) w

section

variable {packet : Bytes} {p : Protocol} {c w : UInt16}

@[simp] theorem length_withChecksums : (withChecksums packet p c w).length = packet.length := by
  simp [withChecksums]

theorem headerLen_withChecksums (h20 : 20 ≤ headerLen packet) :
    headerLen (withChecksums packet p c w) = headerLen packet := by
  have hfield : headerLen packet ≤ checksumField packet p := Nat.le_add_right _ _
  rw [withChecksums, headerLen_put16 _ _ (by omega), headerLen_put16 _ _ (by omega)]

theorem checksumField_withChecksums (h20 : 20 ≤ headerLen packet) :
    checksumField (withChecksums packet p c w) p = checksumField packet p := by
  rw [checksumField, headerLen_withChecksums h20, checksumField]

theorem hasSegment_withChecksums (h20 : 20 ≤ headerLen packet) (hp : HasSegment packet p) :
    HasSegment (withChecksums packet p c w) p := by
  have hfield : headerLen packet ≤ checksumField packet p := Nat.le_add_right _ _
  exact (hasSegment_put16 (by omega)).mpr ((hasSegment_put16 (by omega)).mpr hp)

/-- The header holds the first of the two. -/
theorem take_withChecksums : (withChecksums packet p c w).take (headerLen packet) =
    put16 (packet.take (headerLen packet)) 10 c := by
  have hfield : headerLen packet ≤ checksumField packet p := Nat.le_add_right _ _
  rw [withChecksums, take_put16_of_le hfield, take_put16]

theorem be16At_checksumField (hp : HasSegment packet p) :
    be16At (withChecksums packet p c w) (checksumField packet p) = w := by
  have hfield := checksumField_lt hp
  rw [withChecksums, be16At_put16 (by rwa [length_put16])]

theorem put16_withChecksums (h20 : 20 ≤ headerLen packet) :
    put16 (withChecksums packet p c w) 10 c = withChecksums packet p c w := by
  have hfield : headerLen packet ≤ checksumField packet p := Nat.le_add_right _ _
  rw [withChecksums, put16_comm (by omega), put16_put16]

/-- Setting them again leaves them. -/
theorem withChecksums_again (h20 : 20 ≤ headerLen packet) :
    withChecksums (withChecksums packet p c w) p c w = withChecksums packet p c w := by
  rw [withChecksums, checksumField_withChecksums h20, put16_withChecksums h20, withChecksums,
    put16_put16]

theorem headerChecksum_withChecksums (h20 : 20 ≤ headerLen packet) (hc : HeaderChecksum packet c)
    {c' : UInt16} (hc' : HeaderChecksum (withChecksums packet p c w) c') : c' = c := by
  have hheader : (put16 (withChecksums packet p c w) 10 0).take (headerLen packet) =
      (put16 packet 10 0).take (headerLen packet) := by
    rw [take_put16, take_withChecksums, put16_put16, take_put16]
  have hcalc := hc'.calculated
  rw [headerLen_withChecksums h20, hheader, hc.calculated] at hcalc
  exact (Except.ok.inj hcalc).symm

/-- The sum behind the transport checksum does not read it. -/
theorem protocolTotal_put16 {ihl : Nat} (h20 : 20 ≤ ihl) (x : UInt16) :
    protocolTotal p (put16 packet (ihl + checksumOffset p) x) ihl = protocolTotal p packet ihl := by
  rw [protocolTotal, segmentTotal, take_put16_of_le (by omega), drop_put16, put16_put16,
    length_put16]
  rfl

theorem protocolTotal_withChecksums (h20 : 20 ≤ headerLen packet) :
    protocolTotal p (withChecksums packet p c w) (headerLen packet) = totalOf packet c p := by
  rw [totalOf, withChecksums, checksumField, protocolTotal_put16 h20, protocolTotal_put16 h20]

theorem totalOf_withChecksums (h20 : 20 ≤ headerLen packet) :
    totalOf (withChecksums packet p c w) c p = totalOf packet c p := by
  rw [totalOf, put16_withChecksums h20, headerLen_withChecksums h20,
    checksumField_withChecksums h20, checksumField, protocolTotal_put16 h20,
    protocolTotal_withChecksums h20]

/-- A header of five words or more does not begin with a zero byte. -/
theorem wordSum_header_pos {bs : Bytes} (h20 : 20 ≤ headerLen bs) (hlong : 20 ≤ bs.length) :
    0 < wordSum (bs.take (headerLen bs)) := by
  have hfirst : 0 < (byteAt bs 0).toNat := by
    rw [headerLen, ihlOf, UInt8.toNat_and] at h20
    by_contra hzero
    have hnil : (byteAt bs 0).toNat = 0 := by omega
    rw [hnil] at h20
    simp at h20
  have hroom : 0 + 1 < (bs.take (headerLen bs)).length := by
    rw [List.length_take]
    omega
  have hsum := wordSum_drop hroom
  rw [List.drop_zero, be16At_take (by omega), be16At, be16_toNat] at hsum
  omega

end

/-- **Checksum repair is correct**: the header and the segment verify, a UDP checksum is never
stored as zero, no other byte changes, no sum overflows, and a second repair changes nothing. -/
theorem fixPacketChecksums_repairs {packet : Bytes} {p : Protocol} (h20 : 20 ≤ headerLen packet)
    (hp : HasSegment packet p) (hlen : packet.length ≤ 65535) :
    ∃ fixed, fixPacketChecksums packet = .ok (true, fixed) ∧ ChecksumsRepaired packet fixed p := by
  have hsafe : safeLen = 131064 := rfl
  have hfits := hp.fits
  obtain ⟨c, w, hc, hword, hfix⟩ := fixPacketChecksums_words (by omega) hp (by omega)
  change fixPacketChecksums packet = .ok (true, withChecksums packet p c w) at hfix
  obtain ⟨hresidue, hunused⟩ := (hword w).mp rfl
  have hseg : HasSegment (withChecksums packet p c w) p := hasSegment_withChecksums h20 hp
  have hhead : headerLen (withChecksums packet p c w) = headerLen packet :=
    headerLen_withChecksums h20
  refine ⟨_, hfix, ?_, ?_, ?_, length_withChecksums, ?_, ?_⟩
  · -- the header checksum is opposite to the rest of the header
    have hroom : 10 + 1 < (packet.take (headerLen packet)).length := by
      rw [List.length_take]
      omega
    have hpos := wordSum_header_pos (hhead.ge.trans' h20) (by rw [length_withChecksums]; omega)
    refine verifies_iff.mpr ⟨hpos, ?_⟩
    rw [hhead, take_withChecksums, wordSum_put16 rfl hroom, ← take_put16]
    push_cast
    rw [hc.residue, neg_add_cancel]
  · -- and the transport checksum to everything else that the receiver adds up
    have hsum := wordSum_pseudoHeader (by rw [length_withChecksums]; omega) hseg
      (by rwa [length_withChecksums])
    rw [hhead, checksumField_withChecksums h20, be16At_checksumField hp,
      protocolTotal_withChecksums h20] at hsum
    refine verifies_iff.mpr ⟨?_, ?_⟩
    · have hpos : 0 < totalOf packet c p := protocolTotal_pos _ _ _
      omega
    · rw [hsum]
      push_cast
      rw [hresidue, neg_add_cancel]
  · rintro rfl
    rw [checksumField_withChecksums h20, be16At_checksumField hp]
    exact hunused
  · intro i h10 h11 hfield hfield'
    rw [withChecksums, byteAt_put16_of_ne hfield hfield', byteAt_put16_of_ne h10 h11]
  · obtain ⟨c', w', hc', hword', hfix'⟩ := fixPacketChecksums_words
      (by rw [length_withChecksums]; omega) hseg (by rw [length_withChecksums]; omega)
    obtain rfl := headerChecksum_withChecksums h20 hc hc'
    obtain rfl : w' = w := by
      refine (hword' w).mpr ?_
      rw [totalOf_withChecksums h20]
      exact ⟨hresidue, hunused⟩
    rw [hfix']
    exact congrArg (fun fixed => Except.ok (true, fixed)) (withChecksums_again h20)

/-- A datagram of three bytes between two hosts, with no checksum yet. -/
def oddDatagram : Bytes :=
  [0x45, 0, 0, 31, 0, 0, 0, 0, 64, 17, 0, 0, 192, 168, 195, 80, 128, 116, 1, 1,
    0xC7, 0x39, 0xC3, 0x50, 0, 11, 0, 0, 1, 2, 3]

theorem oddDatagram_repaired :
    ∃ fixed, fixPacketChecksums oddDatagram = .ok (true, fixed) ∧
      ChecksumsRepaired oddDatagram fixed .udp :=
  fixPacketChecksums_repairs (by decide) ⟨rfl, by decide⟩ (by decide)

end SwiftTunnel
