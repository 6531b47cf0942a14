/-
# `fix_packet_checksums`: the bytes that are forwarded

`interceptor.rs`, the checksum utilities.  A packet on its way to the relay gets its IPv4 header
checksum and its TCP or UDP checksum anew, since the driver takes it before the network card
would have filled them in.

The sums are kept in a `u32`.  Adding in parts fails exactly when adding the whole does
(`addU32_bind`), so each loop is one addition (`sumWords_eq`), and a checksum depends on its sum
through `finishChecksum` alone.  The loop leaves out the word at the place of the checksum, which is
as good as a zero there (`without`).

The two transport checksums differ in the least length of a header, in the place of the checksum and
in how they write zero; `calculateChecksum_eq` brings both into one form, so the results below are
about either.

* `calculateChecksum_spec`: a transport checksum is the word opposite to the sum.
* `fixPacketChecksums_segment`, `fixPacketChecksums_plain`: what the function writes, with and
  without a transport checksum.
* `fixPacketChecksums_spec`, `fixPacketChecksums_ok`: it returns unless the sum of the segment
  leaves the `u32`, which takes more than 131064 bytes.

The mathematics of the sums modulo 65535 is in `OnesComplement`; here it is applied.
-/
import SwiftTunnel.Lib.OnesComplement
import SwiftTunnel.SplitTunnel.Classify

namespace SwiftTunnel

open Rust

/-! ## 1. The sums -/

/-- `sum += x`, on a `u32`. -/
def addU32 (sum x : Nat) : Checked Nat :=
  if sum + x < 2 ^ 32 then .ok (sum + x) else .error .overflow

/-- The loop over the words of `bs` from `i` on, and the odd byte after it; the word at `skip`
is left out. -/
def sumWords (bs : Bytes) (skip : Option Nat) : Nat → Nat → Nat → Checked Nat
  | 0, _, _ => .error .outOfFuel
  | fuel + 1, i, sum =>
    if i + 1 < bs.length then
      if skip = some i then sumWords bs skip fuel (i + 2) sum
      else do
        let word ← indexBe16 bs i
        let sum ← addU32 sum word.toNat
        sumWords bs skip fuel (i + 2) sum
    else if i < bs.length then do
      let last ← index bs i
      addU32 sum (last.toNat <<< 8)
    else .ok sum

/-- `while (sum >> 16) != 0 { sum = (sum & 0xFFFF) + (sum >> 16); }` -/
def foldSum : Nat → Nat → Checked Nat
  | 0, _ => .error .outOfFuel
  | fuel + 1, sum =>
    if sum >>> 16 ≠ 0 then do
      let sum ← addU32 (sum &&& 0xFFFF) (sum >>> 16)
      foldSum fuel sum
    else .ok sum

/-- `!(sum as u16)`, once the carries are folded in; a `u32` takes two rounds. -/
def finishChecksum (sum : Nat) : Checked UInt16 := do
  let sum ← foldSum 3 sum
  return ~~~ UInt16.ofNat sum

def calculateIpChecksum (header : Bytes) : Checked UInt16 := do
  let sum ← sumWords header none (header.length + 1) 0 0
  finishChecksum sum

/-- The sum of the pseudo-header and of the segment, which the TCP and the UDP checksum share;
`skip` is the place of the checksum in the segment. -/
def segmentSum (packet : Bytes) (ihl protocol skip : Nat) : Checked Nat := do
  let srcIp ← slice packet 12 16
  let dstIp ← slice packet 16 20
  let segment ← slice packet ihl packet.length
  let sum ← addU32 0 (← indexBe16 srcIp 0).toNat
  let sum ← addU32 sum (← indexBe16 srcIp 2).toNat
  let sum ← addU32 sum (← indexBe16 dstIp 0).toNat
  let sum ← addU32 sum (← indexBe16 dstIp 2).toNat
  let sum ← addU32 sum protocol
  let sum ← addU32 sum ((packet.length - ihl) % 2 ^ 32)
  sumWords segment (some skip) (segment.length + 1) 0 sum

def calculateTcpChecksum (packet : Bytes) (ihl : Nat) : Checked UInt16 :=
  if packet.length < ihl + 20 then .ok 0
  else do
    let sum ← segmentSum packet ihl 6 16
    finishChecksum sum

def calculateUdpChecksum (packet : Bytes) (ihl : Nat) : Checked UInt16 :=
  if packet.length < ihl + 8 then .ok 0
  else do
    let sum ← segmentSum packet ihl 17 6
    let checksum ← finishChecksum sum
    return if checksum = 0 then 0xFFFF else checksum

/-- A checksum is cleared, calculated and written. -/
def fixTransportChecksum (packet : Bytes) (field : Nat) (calculate : Bytes → Checked UInt16) :
    Checked (Bool × Bytes) := do
  let packet ← setBe16 packet field 0
  let checksum ← calculate packet
  let packet ← setBe16 packet field checksum
  return (true, packet)

/-- `fix_packet_checksums` from the protocol number on. -/
def fixTransport (packet : Bytes) (ihl : Nat) : Checked (Bool × Bytes) := do
  let protocol ← index packet 9
  if protocol = 6 ∧ ihl + 20 ≤ packet.length then
    fixTransportChecksum packet (ihl + 16) fun packet => calculateTcpChecksum packet ihl
  else if protocol = 17 ∧ ihl + 8 ≤ packet.length then
    fixTransportChecksum packet (ihl + 6) fun packet => calculateUdpChecksum packet ihl
  else return (true, packet)

/-- `fix_packet_checksums`, with the packet it leaves. -/
def fixPacketChecksums (packet : Bytes) : Checked (Bool × Bytes) :=
  if packet.length < 20 then .ok (false, packet)
  else do
    let ihl := ihlOf (← index packet 0)
    if packet.length < ihl then return (false, packet)
    else
      let packet ← setBe16 packet 10 0
      let header ← slice packet 0 ihl
      let ipChecksum ← calculateIpChecksum header
      let packet ← setBe16 packet 10 ipChecksum
      fixTransport packet ihl

/-! ## 2. A sum is one addition -/

theorem addU32_of_lt {sum x : Nat} (h : sum + x < 2 ^ 32) : addU32 sum x = .ok (sum + x) := if_pos h

theorem addU32_of_ge {sum x : Nat} (h : 2 ^ 32 ≤ sum + x) : addU32 sum x = .error .overflow :=
  if_neg (Nat.not_lt.mpr h)

theorem addU32_zero {sum : Nat} (h : sum < 2 ^ 32) : addU32 sum 0 = .ok sum := addU32_of_lt h

/-- **Adding in two parts** fails when adding at once does. -/
theorem addU32_bind (sum x y : Nat) :
    (addU32 sum x >>= fun sum => addU32 sum y) = addU32 sum (x + y) := by
  by_cases h : sum + x < 2 ^ 32
  · rw [addU32_of_lt h]
    simp only [bind, Except.bind, addU32, Nat.add_assoc]
  · rw [addU32_of_ge (by omega), addU32_of_ge (by omega)]
    rfl

/-- A loop that adds is one addition, from any sum. -/
theorem addU32_bind_of {sum x y : Nat} {f : Nat → Checked Nat}
    (hf : sum + x < 2 ^ 32 → f (sum + x) = addU32 (sum + x) y) :
    (addU32 sum x >>= f) = addU32 sum (x + y) := by
  rw [← addU32_bind]
  by_cases h : sum + x < 2 ^ 32
  · rw [addU32_of_lt h]
    exact hf h
  · rw [addU32_of_ge (by omega)]
    rfl

/-- The bytes with the word that a loop leaves out set to zero. -/
def without (bs : Bytes) : Option Nat → Bytes
  | none => bs
  | some skip => put16 bs skip 0

@[simp] theorem length_without (bs : Bytes) (skip : Option Nat) :
    (without bs skip).length = bs.length := by
  cases skip with
  | none => rfl
  | some skip => simp [without]

/-- The word that the loop meets at `i`. -/
theorem be16At_without {bs : Bytes} {skip : Option Nat} {i : Nat}
    (heven : ∀ s ∈ skip, s % 2 = i % 2) (h : i + 1 < bs.length) :
    be16At (without bs skip) i = if skip = some i then 0 else be16At bs i := by
  cases skip with
  | none => rfl
  | some skip =>
    have hs := heven skip rfl
    by_cases hi : skip = i
    · subst hi
      rw [if_pos rfl]
      exact be16At_put16 h 0
    · rw [if_neg (fun e => hi (Option.some.inj e)), be16At, be16At, without,
        byteAt_put16_of_ne (by omega) (by omega), byteAt_put16_of_ne (by omega) (by omega)]

/-- **The loop is one addition** of what it meets from `i` on.  The induction is on the fuel; the
word left out is at an even distance. -/
theorem sumWords_from {bs : Bytes} {skip : Option Nat}
    (hskip : ∀ s ∈ skip, s % 2 = 0 ∧ s + 1 < bs.length) (fuel : Nat) {i sum : Nat}
    (hfuel : bs.length < i + fuel) (hi : i ≤ bs.length) (heven : i % 2 = 0) (hsum : sum < 2 ^ 32) :
    sumWords bs skip fuel i sum = addU32 sum (wordSum ((without bs skip).drop i)) := by
  induction fuel generalizing i sum with
  | zero => omega
  | succ fuel ih =>
    have hzero : (0 : UInt16).toNat = 0 := rfl
    rw [sumWords]
    by_cases hword : i + 1 < bs.length
    · have hword' : i + 1 < (without bs skip).length := by rwa [length_without]
      have hnext := wordSum_drop hword'
      rw [be16At_without (fun s hs => by rw [(hskip s hs).1, heven]) hword] at hnext
      rw [if_pos hword, hnext]
      by_cases hs : skip = some i
      · rw [if_pos hs, if_pos hs, ih (by omega) (by omega) (by omega) hsum, hzero, Nat.zero_add]
      · rw [if_neg hs, if_neg hs, indexBe16_of_lt hword]
        exact addU32_bind_of fun h => ih (by omega) (by omega) (by omega) h
    · rw [if_neg hword]
      by_cases hlast : i < bs.length
      · have hbyte : byteAt (without bs skip) i = byteAt bs i := by
          cases skip with
          | none => rfl
          | some skip =>
            obtain ⟨hs, hs'⟩ := hskip skip rfl
            exact byteAt_put16_of_ne (by omega) (by omega)
        rw [if_pos hlast, index_of_lt hlast, wordSum_drop_last (by rw [length_without]; omega),
          hbyte]
        simp only [bind, Except.bind, Nat.shiftLeft_eq]
      · rw [if_neg hlast, List.drop_of_length_le (by rw [length_without]; omega), wordSum_nil,
          addU32_zero hsum]

theorem sumWords_eq {bs : Bytes} {skip : Option Nat}
    (hskip : ∀ s ∈ skip, s % 2 = 0 ∧ s + 1 < bs.length) {sum : Nat} (hsum : sum < 2 ^ 32) :
    sumWords bs skip (bs.length + 1) 0 sum = addU32 sum (wordSum (without bs skip)) := by
  rw [sumWords_from hskip _ (by omega) (Nat.zero_le _) rfl hsum, List.drop_zero]

/-- The sum of the addresses, which stand at 12 to 19. -/
theorem wordSum_addresses {packet : Bytes} (h20 : 20 ≤ packet.length) :
    wordSum ((packet.take 20).drop 12) = (be16At packet 12).toNat + (be16At packet 14).toNat +
      (be16At packet 16).toNat + (be16At packet 18).toNat := by
  have hlen : (packet.take 20).length = 20 := by
    rw [List.length_take]
    omega
  have hword : ∀ i, i + 1 < 20 → wordSum ((packet.take 20).drop i) =
      (be16At packet i).toNat + wordSum ((packet.take 20).drop (i + 2)) := by
    intro i hi
    rw [wordSum_drop (by omega), be16At_take hi]
  have hend : wordSum ((packet.take 20).drop 20) = 0 := by
    rw [List.drop_of_length_le (by omega), wordSum_nil]
  rw [hword 12 (by omega), hword 14 (by omega), hword 16 (by omega), hword 18 (by omega), hend]
  omega

/-- The whole sum behind a transport checksum. -/
def segmentTotal (packet : Bytes) (ihl protocol skip : Nat) : Nat :=
  wordSum ((packet.take 20).drop 12) + protocol + (packet.length - ihl) % 2 ^ 32 +
    wordSum (put16 (packet.drop ihl) skip 0)

/-- **The sum of a segment is one addition.** -/
theorem segmentSum_eq {packet : Bytes} {ihl protocol skip : Nat} (h20 : 20 ≤ packet.length)
    (heven : skip % 2 = 0) (hskip : ihl + skip + 1 < packet.length) :
    segmentSum packet ihl protocol skip = addU32 0 (segmentTotal packet ihl protocol skip) := by
  have hread : ∀ a i, a + 4 ≤ 20 → i + 1 < 4 →
      indexBe16 ((packet.take (a + 4)).drop a) i = .ok (be16At packet (a + i)) := by
    intro a i ha hi
    rw [indexBe16_of_lt, be16At_drop, be16At_take (by omega)]
    rw [List.length_drop, List.length_take]
    omega
  have hloop : ∀ sum, sum < 2 ^ 32 →
      sumWords (packet.drop ihl) (some skip) ((packet.drop ihl).length + 1) 0 sum =
        addU32 sum (wordSum (put16 (packet.drop ihl) skip 0)) := by
    intro sum hsum
    refine sumWords_eq ?_ hsum
    rintro s hs
    obtain rfl := Option.some.inj hs
    refine ⟨heven, ?_⟩
    rw [List.length_drop]
    omega
  rw [segmentSum, slice_of_le (by omega) (by omega), slice_of_le (by omega) (by omega),
    slice_of_le (by omega) (Nat.le_refl _), List.take_length]
  simp only [ok_bind]
  rw [hread 12 0 (by omega) (by omega), hread 12 2 (by omega) (by omega),
    hread 16 0 (by omega) (by omega), hread 16 2 (by omega) (by omega)]
  simp only [ok_bind]
  refine Eq.trans (addU32_bind_of fun _ => addU32_bind_of fun _ => addU32_bind_of fun _ =>
    addU32_bind_of fun _ => addU32_bind_of fun _ => addU32_bind_of fun h => hloop _ h) ?_
  rw [segmentTotal, wordSum_addresses h20]
  simp only [Nat.reduceAdd]
  congr 1
  omega

/-! ## 3. The checksums -/

theorem foldSum_word {sum : Nat} (h : sum < 65536) (fuel : Nat) :
    foldSum (fuel + 1) sum = .ok sum := by
  have hshift : sum >>> 16 = 0 := by
    rw [Nat.shiftRight_eq_div_pow]
    omega
  rw [foldSum, if_neg (not_not_intro hshift)]

theorem foldSum_carry {sum : Nat} (h : 65536 ≤ sum) (hsum : sum < 2 ^ 32) (fuel : Nat) :
    foldSum (fuel + 1) sum = foldSum fuel (foldCarry sum) := by
  have hmask : sum &&& 0xFFFF = sum % 65536 := Nat.and_two_pow_sub_one_eq_mod sum 16
  have hshift : sum >>> 16 = sum / 65536 := Nat.shiftRight_eq_div_pow sum 16
  rw [foldSum, hmask, hshift, if_pos (by omega), addU32_of_lt (by omega)]
  rfl

/-- **Folding ends with a word**, of the same residue, and zero only for zero. -/
theorem foldSum_spec {sum : Nat} (hsum : sum < 2 ^ 32) :
    ∃ f, foldSum 3 sum = .ok f ∧ f < 65536 ∧ ((f : Nat) : ZMod 65535) = sum ∧
      (0 < sum → 0 < f) := by
  have hzero : ∀ s, foldCarry s = 0 ↔ s = 0 := fun s => foldCarry_eq_zero
  have hpos := hzero sum
  have hpos' := hzero (foldCarry sum)
  have htwice := foldCarry_twice_lt hsum
  by_cases h : sum < 65536
  · exact ⟨sum, foldSum_word h 2, h, rfl, id⟩
  rw [foldSum_carry (by omega) hsum]
  by_cases h' : foldCarry sum < 65536
  · exact ⟨foldCarry sum, foldSum_word h' 1, h', foldCarry_cast sum, fun _ => by omega⟩
  · have hlt : foldCarry sum < 2 ^ 32 := by
      rw [foldCarry]
      omega
    rw [foldSum_carry (by omega) hlt]
    refine ⟨foldCarry (foldCarry sum), foldSum_word htwice 0, htwice, ?_, fun _ => by omega⟩
    rw [foldCarry_cast, foldCarry_cast]

/-- **A checksum is opposite to its sum.**  Of the two words for zero it is the first. -/
theorem finishChecksum_spec {sum : Nat} (hpos : 0 < sum) (hsum : sum < 2 ^ 32) :
    ∃ f, finishChecksum sum = .ok (~~~ UInt16.ofNat f) ∧ 0 < f ∧ f < 65536 ∧
      ((f : Nat) : ZMod 65535) = sum := by
  obtain ⟨f, hf, hlt, hcast, hfpos⟩ := foldSum_spec hsum
  refine ⟨f, ?_, hfpos hpos, hlt, hcast⟩
  rw [finishChecksum, hf]
  rfl

/-- The checksum of a header is opposite to the sum of its words. -/
theorem calculateIpChecksum_spec {header : Bytes} (h60 : header.length ≤ 60) :
    ∃ c, calculateIpChecksum header = .ok c ∧
      ((c.toNat : Nat) : ZMod 65535) = -((wordSum header : Nat) : ZMod 65535) := by
  have hle := wordSum_le header
  have hsum : wordSum header < 2 ^ 32 := by omega
  obtain ⟨f, hf, hlt, hcast, -⟩ := foldSum_spec hsum
  refine ⟨~~~ UInt16.ofNat f, ?_, ?_⟩
  · have hloop : sumWords header none (header.length + 1) 0 0 =
        addU32 0 (wordSum (without header none)) :=
      sumWords_eq (by simp) (by omega)
    rw [calculateIpChecksum, hloop, addU32_of_lt (by rw [without]; omega), ok_bind, Nat.zero_add,
      without, finishChecksum, hf]
    rfl
  · rw [← hcast, toNat_eq_neg_iff, toNat_complement hlt]
    omega

/-- The least length of a transport header. -/
def headerSize : Protocol → Nat
  | .tcp => 20
  | .udp => 8

/-- The place of the checksum in a transport header. -/
def checksumOffset : Protocol → Nat
  | .tcp => 16
  | .udp => 6

/-- The word for zero that is no checksum of the protocol. -/
def unusedZero : Protocol → UInt16
  | .tcp => 0xFFFF
  | .udp => 0

/-- `calculate_tcp_checksum` or `calculate_udp_checksum`. -/
def calculateChecksum : Protocol → Bytes → Nat → Checked UInt16
  | .tcp => calculateTcpChecksum
  | .udp => calculateUdpChecksum

/-- The sum behind the checksum of a segment. -/
def protocolTotal (p : Protocol) (packet : Bytes) (ihl : Nat) : Nat :=
  segmentTotal packet ihl (protocolNum p).toNat (checksumOffset p)

theorem protocolTotal_pos (p : Protocol) (packet : Bytes) (ihl : Nat) :
    0 < protocolTotal p packet ihl := by
  have hnum : 0 < (protocolNum p).toNat := by
    cases p with
    | tcp => decide
    | udp => decide
  rw [protocolTotal, segmentTotal]
  omega

theorem protocolSum_eq (p : Protocol) {packet : Bytes} {ihl : Nat} (h20 : 20 ≤ packet.length)
    (hfits : ihl + headerSize p ≤ packet.length) :
    segmentSum packet ihl (protocolNum p).toNat (checksumOffset p) =
      addU32 0 (protocolTotal p packet ihl) := by
  cases p with
  | tcp => exact segmentSum_eq h20 rfl (by simp only [checksumOffset, headerSize] at *; omega)
  | udp => exact segmentSum_eq h20 rfl (by simp only [checksumOffset, headerSize] at *; omega)

/-- A checksum as the protocol writes it. -/
def written : Protocol → UInt16 → UInt16
  | .tcp, checksum => checksum
  | .udp, checksum => if checksum = 0 then 0xFFFF else checksum

/-- The two checksums differ in their constants and in how they write zero. -/
theorem calculateChecksum_eq (p : Protocol) {packet : Bytes} {ihl : Nat}
    (hfits : ihl + headerSize p ≤ packet.length) :
    calculateChecksum p packet ihl =
      (segmentSum packet ihl (protocolNum p).toNat (checksumOffset p) >>= finishChecksum).map
        (written p) := by
  have hlong : ¬ packet.length < ihl + headerSize p := Nat.not_lt.mpr hfits
  cases p with
  | tcp =>
    have hwritten : written .tcp = id := rfl
    rw [calculateChecksum, calculateTcpChecksum, hwritten, Except.map_id]
    exact if_neg hlong
  | udp =>
    rw [calculateChecksum, calculateUdpChecksum]
    refine (if_neg hlong).trans ?_
    change (segmentSum packet ihl 17 6 >>= fun sum => finishChecksum sum >>= fun checksum =>
      Except.ok (if checksum = 0 then 0xFFFF else checksum)) =
        (segmentSum packet ihl 17 6 >>= finishChecksum).map (written .udp)
    cases segmentSum packet ihl 17 6 with
    | error e => rfl
    | ok sum =>
      simp only [ok_bind]
      cases finishChecksum sum with
      | error e => rfl
      | ok checksum => rfl

/-- **What a transport checksum is**: the word opposite to the sum, in the protocol's way of
writing zero. -/
theorem calculateChecksum_spec (p : Protocol) {packet : Bytes} {ihl : Nat}
    (h20 : 20 ≤ packet.length) (hfits : ihl + headerSize p ≤ packet.length)
    (hsum : protocolTotal p packet ihl < 2 ^ 32) :
    ∃ c, calculateChecksum p packet ihl = .ok c ∧ ∀ w : UInt16, c = w ↔
      ((w.toNat : Nat) : ZMod 65535) = -((protocolTotal p packet ihl : Nat) : ZMod 65535) ∧
        w ≠ unusedZero p := by
  have heq := protocolSum_eq p h20 hfits
  rw [addU32_of_lt (by omega), Nat.zero_add] at heq
  obtain ⟨f, hf, hpos, hlt, hcast⟩ := finishChecksum_spec (protocolTotal_pos p packet ihl) hsum
  refine ⟨written p (~~~ UInt16.ofNat f), ?_, ?_⟩
  · rw [calculateChecksum_eq p hfits, heq, ok_bind, hf]
    rfl
  · intro w
    rw [← hcast]
    cases p with
    | tcp => exact eq_complement_iff hpos hlt
    | udp => exact eq_complement_nonzero_iff hpos hlt

theorem calculateChecksum_overflow (p : Protocol) {packet : Bytes} {ihl : Nat}
    (h20 : 20 ≤ packet.length) (hfits : ihl + headerSize p ≤ packet.length)
    (hsum : 2 ^ 32 ≤ protocolTotal p packet ihl) :
    calculateChecksum p packet ihl = .error .overflow := by
  rw [calculateChecksum_eq p hfits, protocolSum_eq p h20 hfits, addU32_of_ge (by omega)]
  rfl

/-! ## 4. What is written -/

/-- The length of the header of a packet, by its own account. -/
def headerLen (packet : Bytes) : Nat := ihlOf (byteAt packet 0)

/-- The packet has room for the transport header of its protocol. -/
structure HasSegment (packet : Bytes) (p : Protocol) : Prop where
  num : byteAt packet 9 = protocolNum p
  fits : headerLen packet + headerSize p ≤ packet.length

theorem HasSegment.unique {packet : Bytes} {p p' : Protocol} (h : HasSegment packet p)
    (h' : HasSegment packet p') : p = p' := by
  have e := h.num.symm.trans h'.num
  cases p with
  | tcp => cases p' with
    | tcp => rfl
    | udp => exact absurd e (by decide)
  | udp => cases p' with
    | tcp => exact absurd e (by decide)
    | udp => rfl

/-- Where the transport checksum is written. -/
def checksumField (packet : Bytes) (p : Protocol) : Nat := headerLen packet + checksumOffset p

theorem checksumField_lt {packet : Bytes} {p : Protocol} (h : HasSegment packet p) :
    checksumField packet p + 1 < packet.length := by
  have hfits := h.fits
  rw [checksumField]
  cases p with
  | tcp =>
    simp only [headerSize, checksumOffset] at *
    omega
  | udp =>
    simp only [headerSize, checksumOffset] at *
    omega

theorem checksumField_even (packet : Bytes) (p : Protocol) : checksumField packet p % 2 = 0 := by
  rw [checksumField, headerLen, ihlOf]
  cases p with
  | tcp =>
    simp only [checksumOffset]
    omega
  | udp =>
    simp only [checksumOffset]
    omega

theorem headerLen_put16 (packet : Bytes) {i : Nat} (x : UInt16) (h : 0 < i) :
    headerLen (put16 packet i x) = headerLen packet := by
  rw [headerLen, headerLen, byteAt_put16_of_ne (by omega) (by omega)]

theorem fixTransportChecksum_eq {packet : Bytes} {field : Nat} (h : field + 1 < packet.length)
    (calculate : Bytes → Checked UInt16) :
    fixTransportChecksum packet field calculate =
      (calculate (put16 packet field 0)).map fun checksum => (true, put16 packet field checksum) := by
  rw [fixTransportChecksum, setBe16_of_lt h, ok_bind]
  cases calculate (put16 packet field 0) with
  | error e => rfl
  | ok checksum =>
    rw [ok_bind, setBe16_of_lt (by rwa [length_put16]), put16_put16]
    rfl

/-- With room for a transport header, its checksum is calculated from the packet as it then is. -/
theorem fixTransport_segment {packet : Bytes} {p : Protocol} (h9 : 9 < packet.length)
    (h : HasSegment packet p) :
    fixTransport packet (headerLen packet) =
      (calculateChecksum p (put16 packet (checksumField packet p) 0) (headerLen packet)).map
        fun checksum => (true, put16 packet (checksumField packet p) checksum) := by
  have hfield := checksumField_lt h
  have hfits := h.fits
  have hnum := h.num
  rw [fixTransport, index_of_lt h9, ok_bind]
  cases p with
  | tcp =>
    rw [if_pos ⟨hnum, hfits⟩]
    exact fixTransportChecksum_eq hfield _
  | udp =>
    have hnot : ¬ (byteAt packet 9 = 6 ∧ headerLen packet + 20 ≤ packet.length) := by
      rintro ⟨h6, -⟩
      rw [hnum] at h6
      exact absurd h6 (by decide)
    rw [if_neg hnot, if_pos ⟨hnum, hfits⟩]
    exact fixTransportChecksum_eq hfield _

theorem fixTransport_plain {packet : Bytes} (h9 : 9 < packet.length)
    (h : ∀ p, ¬ HasSegment packet p) :
    fixTransport packet (headerLen packet) = .ok (true, packet) := by
  have htcp : ¬ (byteAt packet 9 = 6 ∧ headerLen packet + 20 ≤ packet.length) :=
    fun e => h .tcp ⟨e.1, e.2⟩
  have hudp : ¬ (byteAt packet 9 = 17 ∧ headerLen packet + 8 ≤ packet.length) :=
    fun e => h .udp ⟨e.1, e.2⟩
  rw [fixTransport, index_of_lt h9, ok_bind, if_neg htcp, if_neg hudp]
  rfl

/-- The header checksum that the function finds for a packet. -/
structure HeaderChecksum (packet : Bytes) (c : UInt16) : Prop where
  calculated : calculateIpChecksum ((put16 packet 10 0).take (headerLen packet)) = .ok c
  residue : ((c.toNat : Nat) : ZMod 65535) =
    -((wordSum ((put16 packet 10 0).take (headerLen packet)) : Nat) : ZMod 65535)

theorem exists_headerChecksum (packet : Bytes) : ∃ c, HeaderChecksum packet c := by
  have hlen : ((put16 packet 10 0).take (headerLen packet)).length ≤ 60 := by
    have := ihlOf_le (byteAt packet 0)
    rw [List.length_take, headerLen]
    omega
  obtain ⟨c, hc, hres⟩ := calculateIpChecksum_spec hlen
  exact ⟨c, hc, hres⟩

/-- The header checksum is written first. -/
theorem fixPacketChecksums_header {packet : Bytes} {c : UInt16} (h20 : 20 ≤ packet.length)
    (hihl : headerLen packet ≤ packet.length) (hc : HeaderChecksum packet c) :
    fixPacketChecksums packet = fixTransport (put16 packet 10 c) (headerLen packet) := by
  have hlen : (put16 packet 10 0).length = packet.length := length_put16 _ _ _
  have hihl' : ¬ packet.length < ihlOf (byteAt packet 0) := Nat.not_lt.mpr hihl
  rw [fixPacketChecksums, if_neg (by omega), index_of_lt (by omega), ok_bind]
  simp only
  rw [if_neg hihl', setBe16_of_lt (by omega), ok_bind,
    show ihlOf (byteAt packet 0) = headerLen packet from rfl, slice_of_le (by omega) (by omega),
    ok_bind, List.drop_zero, hc.calculated, ok_bind, setBe16_of_lt (by omega), ok_bind,
    put16_put16]

theorem hasSegment_put16 {packet : Bytes} {i : Nat} {x : UInt16} (hi : 9 < i) {p : Protocol} :
    HasSegment (put16 packet i x) p ↔ HasSegment packet p := by
  have h9 : byteAt (put16 packet i x) 9 = byteAt packet 9 :=
    byteAt_put16_of_ne (by omega) (by omega)
  have hlen := headerLen_put16 packet x (show 0 < i by omega)
  constructor
  · rintro ⟨hnum, hfits⟩
    rw [h9] at hnum
    rw [hlen, length_put16] at hfits
    exact ⟨hnum, hfits⟩
  · rintro ⟨hnum, hfits⟩
    refine ⟨h9.trans hnum, ?_⟩
    rwa [hlen, length_put16]

/-- **A packet without room for a transport header** has its header checksum set. -/
theorem fixPacketChecksums_plain {packet : Bytes} {c : UInt16} (h20 : 20 ≤ packet.length)
    (hihl : headerLen packet ≤ packet.length) (hc : HeaderChecksum packet c)
    (h : ∀ p, ¬ HasSegment packet p) :
    fixPacketChecksums packet = .ok (true, put16 packet 10 c) := by
  have h9 : 9 < (put16 packet 10 c).length := by
    rw [length_put16]
    omega
  have hplain := fixTransport_plain h9 fun p hp => h p ((hasSegment_put16 (by omega)).mp hp)
  rw [headerLen_put16 packet c (by omega)] at hplain
  rw [fixPacketChecksums_header h20 hihl hc, hplain]

/-- **A packet with a transport header** has both checksums set; the second sum reads the packet
with the first one in it. -/
theorem fixPacketChecksums_segment {packet : Bytes} {c : UInt16} {p : Protocol}
    (h20 : 20 ≤ packet.length) (hc : HeaderChecksum packet c) (h : HasSegment packet p) :
    fixPacketChecksums packet =
      (calculateChecksum p (put16 (put16 packet 10 c) (checksumField packet p) 0)
        (headerLen packet)).map
          fun checksum => (true, put16 (put16 packet 10 c) (checksumField packet p) checksum) := by
  have hihl : headerLen packet ≤ packet.length := (Nat.le_add_right _ _).trans h.fits
  have hseg : HasSegment (put16 packet 10 c) p := (hasSegment_put16 (by omega)).mpr h
  have hfix := fixTransport_segment (by rw [length_put16]; omega) hseg
  rw [checksumField, headerLen_put16 packet c (by omega)] at hfix
  rw [fixPacketChecksums_header h20 hihl hc, hfix, checksumField]

theorem fixPacketChecksums_short {packet : Bytes}
    (h : packet.length < 20 ∨ packet.length < headerLen packet) :
    fixPacketChecksums packet = .ok (false, packet) := by
  rw [fixPacketChecksums]
  by_cases h20 : packet.length < 20
  · exact if_pos h20
  · rw [if_neg h20, index_of_lt (by omega), ok_bind]
    exact if_pos (h.resolve_left h20)

/-! ## 5. The function returns -/

/-- The sum behind the transport checksum of a packet. -/
def totalOf (packet : Bytes) (c : UInt16) (p : Protocol) : Nat :=
  protocolTotal p (put16 (put16 packet 10 c) (checksumField packet p) 0) (headerLen packet)

/-- **The only fault is a sum that leaves the `u32`.** -/
theorem fixPacketChecksums_spec (packet : Bytes) :
    (∃ r, fixPacketChecksums packet = .ok r) ∨
      (∃ c p, HeaderChecksum packet c ∧ HasSegment packet p ∧ 20 ≤ packet.length ∧
        2 ^ 32 ≤ totalOf packet c p ∧ fixPacketChecksums packet = .error .overflow) := by
  by_cases hshort : packet.length < 20 ∨ packet.length < headerLen packet
  · exact Or.inl ⟨_, fixPacketChecksums_short hshort⟩
  obtain ⟨h20, hihl⟩ := not_or.mp hshort
  obtain ⟨c, hc⟩ := exists_headerChecksum packet
  by_cases hseg : ∃ p, HasSegment packet p
  · obtain ⟨p, hp⟩ := hseg
    have hlen : (put16 (put16 packet 10 c) (checksumField packet p) 0).length = packet.length := by
      rw [length_put16, length_put16]
    have hfits := hp.fits
    rw [← hlen] at hfits
    have hfix := fixPacketChecksums_segment (by omega) hc hp
    by_cases hsum : totalOf packet c p < 2 ^ 32
    · obtain ⟨checksum, hck, -⟩ := calculateChecksum_spec p (by omega) hfits hsum
      rw [hck] at hfix
      exact Or.inl ⟨_, hfix⟩
    · rw [calculateChecksum_overflow p (by omega) hfits (Nat.not_lt.mp hsum)] at hfix
      exact Or.inr ⟨c, p, hc, hp, by omega, Nat.not_lt.mp hsum, hfix⟩
  · exact Or.inl ⟨_, fixPacketChecksums_plain (by omega) (by omega) hc fun p hp => hseg ⟨p, hp⟩⟩

/-- The packets whose sums fit a `u32`, whatever their bytes. -/
def safeLen : Nat := 131064

/-- In a UDP packet without a header the protocol number is a byte of the segment, so that one of
its words is not the largest. -/
theorem wordSum_headless {bs : Bytes} (hnum : byteAt bs 9 = 17) (h : 9 < bs.length) :
    65535 + 238 + wordSum (put16 bs 6 0) ≤ 65535 * ((bs.length + 1) / 2) := by
  have hmax : (0xFFFF : UInt16).toNat = 65535 := rfl
  have hlen : (put16 bs 6 0xFFFF).length = bs.length := length_put16 _ _ _
  have hword : (be16At (put16 bs 6 0xFFFF) 8).toNat ≤ 65297 := by
    have h17 : (17 : UInt8).toNat = 17 := rfl
    have hlt := (byteAt (put16 bs 6 0xFFFF) 8).toNat_lt
    have h9 : byteAt (put16 bs 6 0xFFFF) (8 + 1) = 17 := by
      rw [byteAt_put16_of_ne (by omega) (by omega), hnum]
    rw [be16At, be16_toNat, h9, h17]
    omega
  have hle := wordSum_put16_le (i := 8) rfl (show 8 + 1 < (put16 bs 6 0xFFFF).length by omega)
  have heq := wordSum_eq (i := 8) rfl (show 8 + 1 < (put16 bs 6 0xFFFF).length by omega)
  rw [wordSum_put16 rfl (by omega), hmax] at heq
  rw [hlen] at hle
  omega

theorem totalOf_lt {packet : Bytes} {c : UInt16} {p : Protocol} (h20 : 20 ≤ packet.length)
    (h : HasSegment packet p) (hlen : packet.length ≤ safeLen) : totalOf packet c p < 2 ^ 32 := by
  have hsafe : safeLen = 131064 := rfl
  have hihl : headerLen packet % 4 = 0 := by
    rw [headerLen, ihlOf]
    omega
  have hfits := h.fits
  rw [totalOf, protocolTotal, segmentTotal]
  generalize hq : put16 (put16 packet 10 c) (checksumField packet p) 0 = q
  have hqlen : q.length = packet.length := by rw [← hq, length_put16, length_put16]
  have hpseudo := wordSum_le ((q.take 20).drop 12)
  rw [List.length_drop, List.length_take] at hpseudo
  have hseg : (q.drop (headerLen packet)).length = packet.length - headerLen packet := by
    rw [List.length_drop, hqlen]
  cases p with
  | tcp =>
    simp only [headerSize] at hfits
    have hnum : (protocolNum .tcp).toNat = 6 := rfl
    have hle := wordSum_put16_le (i := 16) rfl
      (show 16 + 1 < (q.drop (headerLen packet)).length by omega)
    simp only [checksumOffset, hnum]
    omega
  | udp =>
    simp only [headerSize] at hfits
    have hnum : (protocolNum .udp).toNat = 17 := rfl
    simp only [checksumOffset, hnum]
    by_cases hzero : headerLen packet = 0
    · have h9 : byteAt q 9 = 17 := by
        rw [← hq, checksumField, hzero, byteAt_put16_of_ne (by simp [checksumOffset])
          (by simp [checksumOffset]), byteAt_put16_of_ne (by omega) (by omega)]
        exact h.num
      have hle := wordSum_headless h9 (by omega)
      rw [hzero, List.drop_zero]
      omega
    · have hle := wordSum_put16_le (i := 6) rfl
        (show 6 + 1 < (q.drop (headerLen packet)).length by omega)
      omega

/-- **The function returns on every packet of up to 131064 bytes**, whatever they are. -/
theorem fixPacketChecksums_ok {packet : Bytes} (hlen : packet.length ≤ safeLen) :
    ∃ r, fixPacketChecksums packet = .ok r := by
  rcases fixPacketChecksums_spec packet with h | ⟨c, p, -, hp, h20, hsum, -⟩
  · exact h
  · have hlt := totalOf_lt (c := c) h20 hp hlen
    omega

/-- A packet with a transport header and a safe length gets two words. -/
theorem fixPacketChecksums_words {packet : Bytes} {p : Protocol} (h20 : 20 ≤ packet.length)
    (hp : HasSegment packet p) (hlen : packet.length ≤ safeLen) :
    ∃ c checksum, HeaderChecksum packet c ∧
      (∀ w : UInt16, checksum = w ↔ ((w.toNat : Nat) : ZMod 65535) =
        -((totalOf packet c p : Nat) : ZMod 65535) ∧ w ≠ unusedZero p) ∧
      fixPacketChecksums packet =
        .ok (true, put16 (put16 packet 10 c) (checksumField packet p) checksum) := by
  obtain ⟨c, hc⟩ := exists_headerChecksum packet
  have hlen' : (put16 (put16 packet 10 c) (checksumField packet p) 0).length = packet.length := by
    rw [length_put16, length_put16]
  have hfits := hp.fits
  rw [← hlen'] at hfits
  have hsum : totalOf packet c p < 2 ^ 32 := totalOf_lt h20 hp hlen
  obtain ⟨checksum, hck, hword⟩ := calculateChecksum_spec p (by omega) hfits hsum
  refine ⟨c, checksum, hc, hword, ?_⟩
  rw [fixPacketChecksums_segment h20 hc hp, hck]
  rfl

end SwiftTunnel
