/-
# The format of a resolve response

What `parse_resolve_response` accepts, said without the parser: the bytes behind the frame type
begin with the encoding of the request id and the answers (`resolveBody`).  The encoding counts
answers, the bytes of a host and its addresses in one byte each, so it is one of the answers only
where these counts fit (`Encodable`).

The proof follows the parser from the inside out, each loop by induction on the number of turns that
it has left:

* `holdsAt_ips`: addresses are read as they are written;
* `answerAt_iff`: one turn of the outer loop reads the encoding of one answer and nothing else;
* `readAnswers_iff`: the loop reads as many answers as it is told to, one behind the other;
* `parseResolveResponse_exact`: nothing valid is rejected and nothing invalid accepted, parsing
  inverts encoding, and the result is unique.

Bytes behind the last answer are allowed.  The parser does not ask for them to be absent, and neither
does the encoding.
-/
import SwiftTunnel.Lib.Layout
import SwiftTunnel.Vpn.Resolve

namespace SwiftTunnel

open Rust

/-! ## 1. The encoding -/

def ipBytes (ip : Ipv4Addr) : Bytes := [ip.a, ip.b, ip.c, ip.d]

/-- A host with its length, and its addresses with their number. -/
def answerBytes (answer : String × List Ipv4Addr) : Bytes :=
  UInt8.ofNat answer.1.toUTF8.size :: (answer.1.toUTF8.data.toList ++
    UInt8.ofNat answer.2.length :: answer.2.flatMap ipBytes)

/-- The request id, the number of answers, and the answers. -/
def resolveBody (requestId : UInt16) (answers : ResolveAnswers) : Bytes :=
  wordBytes requestId ++ UInt8.ofNat answers.length :: answers.flatMap answerBytes

/-- The answer's two counts fit a byte. -/
def Sized (answer : String × List Ipv4Addr) : Prop :=
  answer.1.toUTF8.size ≤ 255 ∧ answer.2.length ≤ 255

/-- Every count fits a byte. -/
structure Encodable (answers : ResolveAnswers) : Prop where
  count : answers.length ≤ 255
  sized : ∀ answer ∈ answers, Sized answer

theorem toNat_ofNat_of_le {n : Nat} (h : n ≤ 255) : (UInt8.ofNat n).toNat = n :=
  UInt8.toNat_ofNat_of_lt' (Nat.lt_succ_of_le h)

theorem length_flatMap_ipBytes (ips : List Ipv4Addr) :
    (ips.flatMap ipBytes).length = ips.length * 4 := by
  induction ips with
  | nil => rfl
  | cons ip ips ih =>
    rw [List.flatMap_cons, List.length_append, ih, List.length_cons]
    simp only [ipBytes, List.length_cons, List.length_nil]
    omega

theorem length_answerBytes (answer : String × List Ipv4Addr) :
    (answerBytes answer).length = 1 + answer.1.toUTF8.size + 1 + answer.2.length * 4 := by
  have hhost : answer.1.toUTF8.data.toList.length = answer.1.toUTF8.size := rfl
  simp only [answerBytes, List.length_cons, List.length_append, length_flatMap_ipBytes, hhost]
  omega

/-- A response is a session id, the frame type and a body. -/
theorem responseBytes_eq (sessionId : Bytes) (requestId : UInt16) (answers : ResolveAnswers) :
    responseBytes sessionId requestId answers = sessionId ++ 0xA7 :: resolveBody requestId answers := by
  have hanswer : (fun a : String × List Ipv4Addr =>
      UInt8.ofNat a.1.toUTF8.size :: a.1.toUTF8.data.toList ++
        UInt8.ofNat a.2.length :: a.2.flatMap (fun ip => [ip.a, ip.b, ip.c, ip.d])) =
      answerBytes := rfl
  rw [responseBytes, hanswer, resolveBody, wordBytes]
  simp

/-! ## 2. Addresses -/

/-- Some addresses from a place on. -/
def ipsAt (frame : Bytes) : Nat → Nat → List Ipv4Addr
  | 0, _ => []
  | n + 1, off => Ipv4Addr.ofBytesAt frame off :: ipsAt frame n (off + 4)

theorem readIps_eq {frame : Bytes} (n : Nat) {off : Nat} (h : off + n * 4 ≤ frame.length) :
    readIps frame n off = .ok (ipsAt frame n off) := by
  induction n generalizing off with
  | zero => rfl
  | succ n ih =>
    rw [readIps, Ipv4Addr.index_of_lt (by omega), ih (by omega)]
    rfl

/-- **Addresses are read as they are written.** -/
theorem holdsAt_ips {frame : Bytes} {ips : List Ipv4Addr} {off : Nat}
    (h : off + ips.length * 4 ≤ frame.length) :
    HoldsAt frame off (ips.flatMap ipBytes) ↔ ipsAt frame ips.length off = ips := by
  induction ips generalizing off with
  | nil => simpa [holdsAt_nil, ipsAt] using h
  | cons ip ips ih =>
    rw [List.length_cons] at h
    obtain ⟨a, b, c, d⟩ := ip
    simp only [List.flatMap_cons, ipBytes, List.cons_append, List.nil_append, holdsAt_byte,
      List.length_cons, ipsAt, List.cons.injEq, Ipv4Addr.ofBytesAt, Ipv4Addr.mk.injEq]
    rw [ih (by omega)]
    constructor
    · rintro ⟨-, ha, -, hb, -, hc, -, hd, hrest⟩
      exact ⟨⟨ha, hb, hc, hd⟩, hrest⟩
    · rintro ⟨⟨ha, hb, hc, hd⟩, hrest⟩
      exact ⟨by omega, ha, by omega, hb, by omega, hc, by omega, hd, hrest⟩

/-! ## 3. One turn of the loop -/

/-- The answer that the loop reads at a place, if its checks pass. -/
def answerAt (frame : Bytes) (off : Nat) : Option (String × List Ipv4Addr) :=
  let hlen := (byteAt frame off).toNat
  let ipCount := (byteAt frame (off + 1 + hlen)).toNat
  if off < frame.length ∧ off + 1 + hlen < frame.length ∧
      off + 1 + hlen + 1 + ipCount * 4 ≤ frame.length then
    match Rust.fromUtf8 ((frame.take (off + 1 + hlen)).drop (off + 1)) with
    | none => none
    | some host => some (host, ipsAt frame ipCount (off + 1 + hlen + 1))
  else none

@[simp] theorem length_ipsAt (frame : Bytes) (n off : Nat) : (ipsAt frame n off).length = n := by
  induction n generalizing off with
  | zero => rfl
  | succ n ih => rw [ipsAt, List.length_cons, ih]

/-- The counts that the loop reads are those of the answer. -/
theorem answerAt_sizes {frame : Bytes} {off : Nat} {answer : String × List Ipv4Addr}
    (h : answerAt frame off = some answer) : answer.1.toUTF8.size = (byteAt frame off).toNat ∧
      answer.2.length = (byteAt frame (off + 1 + (byteAt frame off).toNat)).toNat := by
  simp only [answerAt] at h
  split at h
  · rename_i hfits
    split at h
    · cases h
    · rename_i host hhost
      obtain rfl := Option.some.inj h
      have hbytes := congrArg List.length (fromUtf8_iff.mp hhost)
      rw [List.length_drop, List.length_take] at hbytes
      change host.toUTF8.size = _ at hbytes
      exact ⟨by dsimp only; omega, length_ipsAt _ _ _⟩
  · cases h

/-- **An answer is read as it is written**, and nothing else is read as one. -/
theorem answerAt_iff {frame : Bytes} {off : Nat} {answer : String × List Ipv4Addr} :
    answerAt frame off = some answer ↔ Sized answer ∧ HoldsAt frame off (answerBytes answer) := by
  have hsize : answer.1.toUTF8.data.toList.length = answer.1.toUTF8.size := rfl
  rw [answerBytes, holdsAt_byte, holdsAt_append, holdsAt_byte, hsize, Sized]
  constructor
  · intro h
    obtain ⟨hhost, hips⟩ := answerAt_sizes h
    simp only [answerAt] at h
    rw [← hhost] at h hips
    rw [← hips] at h
    split at h
    · rename_i hfits
      obtain ⟨h0, h1, h2⟩ := hfits
      split at h
      · cases h
      · rename_i host hutf8
        obtain ⟨rfl, haddr⟩ := Prod.ext_iff.mp (Option.some.inj h)
        have hhost' := (byteAt frame off).toNat_lt
        have hips' := (byteAt frame (off + 1 + answer.1.toUTF8.size)).toNat_lt
        refine ⟨⟨by omega, by omega⟩, h0, ?_, holdsAt_iff.mpr ⟨by omega, ?_⟩, h1, ?_, ?_⟩
        · rw [← UInt8.toNat_inj, toNat_ofNat_of_le (by omega), hhost]
        · rw [hsize]
          exact (fromUtf8_iff.mp hutf8).symm
        · rw [← UInt8.toNat_inj, toNat_ofNat_of_le (by omega), hips]
        · exact (holdsAt_ips h2).mpr haddr
    · cases h
  · rintro ⟨⟨hhost, hips⟩, hlt, hb, hname, hlt', hc, haddr⟩
    have hroom := haddr.le_length
    rw [length_flatMap_ipBytes] at hroom
    obtain ⟨-, hutf8⟩ := holdsAt_iff.mp hname
    rw [hsize] at hutf8
    have haddr' := (holdsAt_ips hroom).mp haddr
    simp only [answerAt, hb, toNat_ofNat_of_le hhost, hc, toNat_ofNat_of_le hips]
    rw [if_pos ⟨hlt, hlt', hroom⟩, fromUtf8_iff.mpr hutf8.symm, haddr']

/-! ## 4. The loop, and the parser -/

/-- **One turn of the loop** reads an answer and goes on behind it. -/
theorem readAnswers_succ (frame : Bytes) (n off : Nat) :
    readAnswers frame frame.length (n + 1) off =
      match answerAt frame off with
      | none => .ok none
      | some answer =>
        (readAnswers frame frame.length n (off + (answerBytes answer).length)).map
          fun rest => rest.map (answer :: ·) := by
  have hnext : ∀ answer, answerAt frame off = some answer → off + (answerBytes answer).length =
      off + 1 + (byteAt frame off).toNat + 1 +
        (byteAt frame (off + 1 + (byteAt frame off).toNat)).toNat * 4 := by
    intro answer h
    obtain ⟨hhost, hips⟩ := answerAt_sizes h
    rw [length_answerBytes, hhost, hips]
    omega
  rw [readAnswers]
  by_cases h0 : off ≥ frame.length
  · rw [if_pos h0, answerAt, if_neg (by omega)]
  rw [if_neg h0, index_of_lt (by omega), ok_bind]
  dsimp only
  by_cases h1 : off + 1 + (byteAt frame off).toNat > frame.length
  · rw [if_pos h1, answerAt, if_neg (by omega)]
  rw [if_neg h1, slice_of_le (by omega) (by omega), ok_bind]
  cases hutf8 : Rust.fromUtf8
      ((frame.take (off + 1 + (byteAt frame off).toNat)).drop (off + 1)) with
  | none =>
    have hnone : answerAt frame off = none := by
      rw [answerAt, hutf8]
      exact ite_self none
    rw [hnone]
  | some host =>
    dsimp only
    by_cases h2 : off + 1 + (byteAt frame off).toNat ≥ frame.length
    · rw [if_pos h2, answerAt, if_neg (by omega)]
    rw [if_neg h2, index_of_lt (by omega), ok_bind]
    by_cases h3 : off + 1 + (byteAt frame off).toNat + 1 +
        (byteAt frame (off + 1 + (byteAt frame off).toNat)).toNat * 4 > frame.length
    · rw [if_pos h3, answerAt, if_neg (by omega)]
    have hsome : answerAt frame off = some (host, ipsAt frame
        (byteAt frame (off + 1 + (byteAt frame off).toNat)).toNat
          (off + 1 + (byteAt frame off).toNat + 1)) := by
      rw [answerAt, if_pos ⟨by omega, by omega, by omega⟩, hutf8]
    rw [if_neg h3, readIps_eq _ (by omega), ok_bind, hsome]
    dsimp only
    rw [hnext _ hsome]
    cases readAnswers frame frame.length n (off + 1 + (byteAt frame off).toNat + 1 +
        (byteAt frame (off + 1 + (byteAt frame off).toNat)).toNat * 4) with
    | error e => rfl
    | ok rest =>
      cases rest with
      | none => rfl
      | some rest => rfl

/-- **The loop reads as many answers as it is told to**, one behind the other. -/
theorem readAnswers_iff {frame : Bytes} {n off : Nat} (hoff : off ≤ frame.length)
    {answers : ResolveAnswers} :
    readAnswers frame frame.length n off = .ok (some answers) ↔
      answers.length = n ∧ (∀ answer ∈ answers, Sized answer) ∧
        HoldsAt frame off (answers.flatMap answerBytes) := by
  induction n generalizing off answers with
  | zero =>
    rw [readAnswers, Except.ok.injEq, Option.some.injEq, List.length_eq_zero_iff]
    constructor
    · rintro rfl
      exact ⟨rfl, by simp, holdsAt_nil.mpr hoff⟩
    · rintro ⟨rfl, -⟩
      rfl
  | succ n ih =>
    rw [readAnswers_succ]
    constructor
    · intro h
      cases hanswer : answerAt frame off with
      | none =>
        rw [hanswer] at h
        cases h
      | some answer =>
        obtain ⟨hsized, hat⟩ := answerAt_iff.mp hanswer
        rw [hanswer] at h
        dsimp only at h
        cases hr : readAnswers frame frame.length n (off + (answerBytes answer).length) with
        | error e =>
          rw [hr] at h
          cases h
        | ok r =>
          rw [hr] at h
          cases r with
          | none => cases h
          | some rest =>
            obtain rfl := Option.some.inj (Except.ok.inj h)
            obtain ⟨hlen, hall, hrest⟩ := (ih hat.le_length).mp hr
            refine ⟨by rw [List.length_cons, hlen], List.forall_mem_cons.mpr ⟨hsized, hall⟩, ?_⟩
            rw [List.flatMap_cons]
            exact holdsAt_append.mpr ⟨hat, hrest⟩
    · rintro ⟨hlen, hall, hat⟩
      cases answers with
      | nil => cases hlen
      | cons answer rest =>
        obtain ⟨hsized, hall⟩ := List.forall_mem_cons.mp hall
        rw [List.flatMap_cons, holdsAt_append] at hat
        rw [answerAt_iff.mpr ⟨hsized, hat.1⟩]
        dsimp only
        rw [(ih hat.1.le_length).mpr ⟨Nat.succ.inj hlen, hall, hat.2⟩]
        rfl

/-- With room for the counts, the parser returns what the loop does. -/
theorem parseResolveResponse_eq {data : Bytes} (h : sessionIdLen + 1 + 3 ≤ data.length)
    {requestId : UInt16} {answers : ResolveAnswers} :
    parseResolveResponse data data.length = .ok (some (requestId, answers)) ↔
      be16At data (sessionIdLen + 1) = requestId ∧
        readAnswers data data.length (byteAt data (sessionIdLen + 1 + 2)).toNat
          (sessionIdLen + 1 + 3) = .ok (some answers) := by
  obtain ⟨r, hr⟩ := readAnswers_ok (le_refl data.length)
    (byteAt data (sessionIdLen + 1 + 2)).toNat (sessionIdLen + 1 + 3)
  rw [parseResolveResponse]
  dsimp only
  rw [if_neg (by omega), indexBe16_of_lt (by omega), ok_bind, index_of_lt (by omega), ok_bind, hr,
    ok_bind]
  cases r with
  | none => simp
  | some rest => simp [and_comm]

/-- **The parser accepts a body** behind the session id and the frame type. -/
theorem parseResolveResponse_iff (data : Bytes) (requestId : UInt16) (answers : ResolveAnswers) :
    parseResolveResponse data data.length = .ok (some (requestId, answers)) ↔
      Encodable answers ∧ HoldsAt data (sessionIdLen + 1) (resolveBody requestId answers) := by
  rw [resolveBody, holdsAt_word, holdsAt_byte]
  by_cases hlong : sessionIdLen + 1 + 3 ≤ data.length
  · rw [parseResolveResponse_eq hlong, readAnswers_iff hlong]
    constructor
    · rintro ⟨hid, hcount, hsized, hat⟩
      have hbyte := (byteAt data (sessionIdLen + 1 + 2)).toNat_lt
      refine ⟨⟨by omega, hsized⟩, by omega, hid, by omega, ?_, hat⟩
      rw [← UInt8.toNat_inj, toNat_ofNat_of_le (by omega), hcount]
    · rintro ⟨henc, -, hid, -, hcount, hat⟩
      refine ⟨hid, ?_, henc.sized, hat⟩
      rw [hcount, toNat_ofNat_of_le henc.count]
  · have hshort : parseResolveResponse data data.length = .ok none := if_pos (by omega)
    refine iff_of_false (fun h => ?_) ?_
    · rw [hshort] at h
      cases h
    · rintro ⟨-, -, -, hlt, -⟩
      omega

/-- **Resolve responses are parsed exactly.**  What is accepted is what begins, behind the frame
type, with the encoding of the answers; the answers are the only ones; and each list of answers
whose counts fit a byte is read back from its encoding. -/
theorem parseResolveResponse_exact {frame : Bytes} {len : Nat} (hlen : len ≤ frame.length) :
    (∀ requestId answers, parseResolveResponse frame len = .ok (some (requestId, answers)) ↔
      Encodable answers ∧ resolveBody requestId answers <+: (frame.take len).drop 9) ∧
    (∀ requestId answers requestId' answers',
      Encodable answers → resolveBody requestId answers <+: (frame.take len).drop 9 →
      Encodable answers' → resolveBody requestId' answers' <+: (frame.take len).drop 9 →
        requestId = requestId' ∧ answers = answers') ∧
    ∀ sessionId requestId answers, sessionId.length = sessionIdLen → Encodable answers →
      parseResolveResponse (responseBytes sessionId requestId answers)
        (responseBytes sessionId requestId answers).length = .ok (some (requestId, answers)) := by
  have hne : ∀ requestId answers, resolveBody requestId answers ≠ [] := by
    intro requestId answers
    simp [resolveBody, wordBytes]
  have hiff : ∀ requestId answers, parseResolveResponse frame len = .ok (some (requestId, answers)) ↔
      Encodable answers ∧ resolveBody requestId answers <+: (frame.take len).drop 9 := by
    intro requestId answers
    have htake : (frame.take len).length = len := by
      rw [List.length_take]
      omega
    have hparse := parseResolveResponse_iff (frame.take len) requestId answers
    rw [htake, parseResolveResponse_take hlen, holdsAt_of_ne_nil (hne requestId answers)] at hparse
    exact hparse
  refine ⟨hiff, ?_, ?_⟩
  · intro requestId answers requestId' answers' h hpre h' hpre'
    have hsame := ((hiff requestId answers).mpr ⟨h, hpre⟩).symm.trans
      ((hiff requestId' answers').mpr ⟨h', hpre'⟩)
    exact Prod.mk.inj (Option.some.inj (Except.ok.inj hsame))
  · intro sessionId requestId answers hid henc
    refine (parseResolveResponse_iff _ _ _).mpr
      ⟨henc, (holdsAt_of_ne_nil (hne requestId answers)).mpr ?_⟩
    have hdrop : (responseBytes sessionId requestId answers).drop (sessionIdLen + 1) =
        resolveBody requestId answers := by
      rw [responseBytes_eq, ← hid, ← List.drop_drop, List.drop_left]
      rfl
    rw [hdrop]

/-- A response with an empty host that has no address, another host, and a byte behind it, in a
buffer that is longer. -/
def twoAnswersFrame : Bytes :=
  [0, 0, 0, 0, 0, 0, 0, 0, 0xA7, 0, 7, 2, 0, 0, 1, 0x61, 1, 128, 116, 1, 1, 0xFF, 0, 0]

theorem twoAnswersFrame_parsed : parseResolveResponse twoAnswersFrame 22 =
    .ok (some (7, [("", []), ("a", [⟨128, 116, 1, 1⟩])])) := by
  have hlen : 22 ≤ twoAnswersFrame.length := by decide
  refine ((parseResolveResponse_exact hlen).1 _ _).mpr ⟨⟨by decide, ?_⟩, by decide +kernel⟩
  unfold Sized
  decide +kernel

end SwiftTunnel
