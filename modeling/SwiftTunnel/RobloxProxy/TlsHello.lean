/-
# A ClientHello that is well formed

The encoder that the tests of `tls_sni.rs` have for one shape (`build_client_hello`), for every
ClientHello: any session id, ciphers, compressions and extensions, in any record.  Its fields stand
one behind the other, each with its length before it, and the layout that the parser goes by is read
off the encoding (`of_reads_record`, `exists_reads_record`).

* `ClientHello.consistent_record`: each length that the encoder writes is exact.
* `ClientHello.parse_record`: the parser inverts it, whatever stands before and behind the name.

The fields have to fit their lengths, as they do in anything that was sent in one record.
-/
import SwiftTunnel.RobloxProxy.TlsWalk

namespace SwiftTunnel

open Rust

/-! ## 1. The encoding -/

/-- `(x as u32).to_be_bytes()[1..]` of a length. -/
def len24Bytes (n : Nat) : Bytes := [UInt8.ofNat (n / 65536), UInt8.ofNat (n / 256), UInt8.ofNat n]

theorem holdsAt_len24Bytes {bs : Bytes} {n i : Nat} (hn : n < 16777216)
    (h : HoldsAt bs i (len24Bytes n)) :
    (byteAt bs i).toNat * 65536 + (be16At bs (i + 1)).toNat = n := by
  simp only [len24Bytes, holdsAt_byte] at h
  obtain ⟨-, h0, -, h1, -, h2, -⟩ := h
  rw [be16At, be16_toNat, h0, h1, h2, UInt8.toNat_ofNat', UInt8.toNat_ofNat', UInt8.toNat_ofNat']
  omega

/-- The entries of a server name list, behind their length. -/
def serverNameBody (names : List (UInt8 × Bytes)) : Bytes :=
  lenBytes (entriesBytes (fun t => [t]) names).length ++ entriesBytes (fun t => [t]) names

/-- A ClientHello, and the minor version of the record that carries it. -/
structure ClientHello where
  recordMinor : UInt8
  version : UInt8 × UInt8
  random : Bytes
  sessionId : Bytes
  cipherSuites : Bytes
  compressionMethods : Bytes
  extensions : List (UInt16 × Bytes)
  random_length : random.length = 32
  sessionId_fits : sessionId.length < 256
  compressionMethods_fits : compressionMethods.length < 256

namespace ClientHello

variable (hello : ClientHello)

/-- The fields from the session id on. -/
def fields : Bytes :=
  [UInt8.ofNat hello.sessionId.length] ++ (hello.sessionId ++
    (lenBytes hello.cipherSuites.length ++ (hello.cipherSuites ++
    ([UInt8.ofNat hello.compressionMethods.length] ++ (hello.compressionMethods ++
    (lenBytes (entriesBytes wordBytes hello.extensions).length ++
      entriesBytes wordBytes hello.extensions))))))

/-- What the handshake message says. -/
def body : Bytes := [hello.version.1, hello.version.2] ++ (hello.random ++ hello.fields)

/-- The handshake message. -/
def message : Bytes := [0x01] ++ (len24Bytes hello.body.length ++ hello.body)

/-- The TLS record with the message. -/
def record : Bytes :=
  [0x16, 0x03, hello.recordMinor] ++ (lenBytes hello.message.length ++ hello.message)

/-! ## 2. Its layout -/

/-- Where the extensions start in the message. -/
def extensionsAt : Nat :=
  39 + hello.sessionId.length + 2 + hello.cipherSuites.length + 1 +
    hello.compressionMethods.length + 2

variable {hello}

theorem length_message : hello.message.length =
    hello.extensionsAt + (entriesBytes wordBytes hello.extensions).length := by
  simp only [message, body, fields, len24Bytes, lenBytes, List.length_append, List.length_cons,
    List.length_nil, hello.random_length, extensionsAt]
  omega

theorem length_message_body : hello.message.length = 4 + hello.body.length := by
  simp only [message, len24Bytes, List.length_append, List.length_cons, List.length_nil]
  omega

/-- The parts of the record. -/
theorem holdsAt_record : HoldsAt hello.record 0 [0x16, 0x03, hello.recordMinor] ∧
    HoldsAt hello.record 3 (wordBytes (UInt16.ofNat hello.message.length)) ∧
    HoldsAt hello.record 5 hello.message := by
  have hall : HoldsAt hello.record 0 ([0x16, 0x03, hello.recordMinor] ++
      (lenBytes hello.message.length ++ hello.message)) := holdsAt_zero.mpr List.prefix_rfl
  rwa [holdsAt_append, holdsAt_append] at hall

/-- The length of the message, and the fields behind its head. -/
theorem holdsAt_message : HoldsAt hello.message 1 (len24Bytes hello.body.length) ∧
    HoldsAt hello.message 38 hello.fields := by
  have hall : HoldsAt hello.message 0 ([0x01] ++ (len24Bytes hello.body.length ++
      ([hello.version.1, hello.version.2] ++ (hello.random ++ hello.fields)))) :=
    holdsAt_zero.mpr List.prefix_rfl
  simp only [holdsAt_append, hello.random_length] at hall
  obtain ⟨-, hlen, -, -, hfields⟩ := hall
  exact ⟨hlen, hfields⟩

theorem looksLike_record : looksLikeClientHello hello.record = .ok true := by
  obtain ⟨hheader, -, hmessage⟩ := hello.holdsAt_record
  refine looksLikeClientHello_iff.mpr ⟨?_, ?_⟩
  · have hstart : HoldsAt hello.record 0 ([0x16, 0x03] ++ [hello.recordMinor]) := hheader
    exact (holdsAt_append.mp hstart).1
  · exact (holdsAt_append.mp hmessage).1

theorem recordOf_record (hfits : hello.message.length ≤ 65535) :
    recordOf hello.record = some hello.message := by
  obtain ⟨-, hlen, hmessage⟩ := hello.holdsAt_record
  obtain ⟨hle, hlen⟩ := holdsAt_wordBytes.mp hlen
  rw [recordOf_iff, hlen, UInt16.toNat_ofNat_of_lt' (Nat.lt_succ_of_le hfits)]
  exact ⟨hle, (holdsAt_iff.mp hmessage).2.symm⟩

/-- The fields stand one behind the other, the extensions at the end. -/
theorem extensionsOf_message (hfits : hello.message.length ≤ 65535) :
    extensionsOf hello.message =
      some (hello.extensionsAt, (entriesBytes wordBytes hello.extensions).length) ∧
    HoldsAt hello.message hello.extensionsAt (entriesBytes wordBytes hello.extensions) := by
  have hlen := hello.length_message
  rw [extensionsAt] at hlen
  have hsession : (UInt8.ofNat hello.sessionId.length).toNat = _ :=
    UInt8.toNat_ofNat_of_lt' hello.sessionId_fits
  have hcompression : (UInt8.ofNat hello.compressionMethods.length).toNat = _ :=
    UInt8.toNat_ofNat_of_lt' hello.compressionMethods_fits
  have hciphers : (UInt16.ofNat hello.cipherSuites.length).toNat = _ :=
    UInt16.toNat_ofNat_of_lt' (by change _ < 65536; omega)
  have hextensions : (UInt16.ofNat (entriesBytes wordBytes hello.extensions).length).toNat = _ :=
    UInt16.toNat_ofNat_of_lt' (by change _ < 65536; omega)
  have hall := hello.holdsAt_message.2
  rw [fields] at hall
  simp only [holdsAt_append] at hall
  obtain ⟨h1, -, h2, -, h3, -, h4, hall⟩ := hall
  refine ⟨extensionsOf_iff.mpr ⟨UInt8.ofNat hello.sessionId.length,
    UInt16.ofNat hello.cipherSuites.length, UInt8.ofNat hello.compressionMethods.length,
    UInt16.ofNat (entriesBytes wordBytes hello.extensions).length, h1, ?_, ?_, ?_, ?_⟩, hall⟩
  · rw [hsession]
    exact h2
  · rw [hsession, hciphers]
    exact h3
  · rw [hsession, hciphers, hcompression]
    exact h4
  · rw [hsession, hciphers, hcompression, hextensions]
    rfl

/-- The parser finds the message in the record, and the extensions in the message. -/
theorem of_reads_record (hfits : hello.message.length ≤ 65535) {L : SniLayout}
    (hL : L.Reads hello.record) : L.record = hello.message ∧
      L.extensionsAt = hello.extensionsAt ∧
      L.extensionsLen = (entriesBytes wordBytes hello.extensions).length := by
  have hrecord := Option.some.inj (hL.record.symm.trans (recordOf_record hfits))
  have hplace := hL.extensions
  rw [hrecord] at hplace
  exact ⟨hrecord, Prod.mk.inj (Option.some.inj (hplace.symm.trans (extensionsOf_message hfits).1))⟩

/-- **The record of a hello is consistent** wherever its server name list fits its extension. -/
theorem consistent_record (hfits : hello.message.length ≤ 65535) {L : SniLayout}
    (hL : L.Reads hello.record) (hlist : 2 + L.listLen ≤ L.extensionLen) :
    L.Consistent (be16At hello.record 3).toNat := by
  obtain ⟨-, hlen, -⟩ := hello.holdsAt_record
  have hbody := hello.length_message_body
  obtain ⟨hrecord, hat, hsize⟩ := of_reads_record hfits hL
  have hmessage : L.messageLen = hello.body.length := by
    rw [SniLayout.messageLen, hrecord]
    exact holdsAt_len24Bytes (by omega) hello.holdsAt_message.1
  rw [(holdsAt_wordBytes.mp hlen).2, UInt16.toNat_ofNat_of_lt' (Nat.lt_succ_of_le hfits),
    hL.consistent_iff, hmessage, hat, hsize, ← hello.length_message]
  exact ⟨hlist, hbody.le, hbody.ge⟩

/-! ## 3. The name -/

/-- In a server name list the search finds the first host name. -/
theorem finds_of_serverNameBody {before after : List (UInt8 × Bytes)} {name body : Bytes}
    (hbody : body = serverNameBody (before ++ (0, name) :: after)) (hfits : body.length ≤ 65535)
    (hbefore : ∀ n ∈ before, n.1 ≠ 0) :
    ∃ s, Finds body [0] (min (2 + (be16At body 0).toNat) body.length) 2 s name.length ∧
      HoldsAt body s name := by
  have hlen : body.length =
      2 + (entriesBytes (fun t => [t]) (before ++ (0, name) :: after)).length := by
    rw [hbody, serverNameBody, List.length_append]
    rfl
  have hall : HoldsAt body 0 (serverNameBody (before ++ (0, name) :: after)) := by
    rw [hbody]
    exact holdsAt_zero.mpr List.prefix_rfl
  obtain ⟨hcount, hentries⟩ := holdsAt_append.mp hall
  obtain ⟨-, hcount⟩ := holdsAt_wordBytes.mp hcount
  rw [hcount, UInt16.toNat_ofNat_of_lt' (by change _ < 65536; omega), ← hlen, Nat.min_self]
  have htags : ∀ n ∈ before, [n.1] ≠ [(0 : UInt8)] := fun n hn heq =>
    hbefore n hn (List.singleton_inj.mp heq)
  have hcode : ∀ t : UInt8, [t].length = 1 := fun _ => rfl
  refine finds_of_entries hcode htags hentries (fun n hn => ?_) (Nat.le_of_eq hlen.symm)
  have hle := length_body_le (fun t : UInt8 => [t]) hn
  omega

theorem sizes_of_message (hello : ClientHello) (hfits : hello.message.length ≤ 65535) :
    ∀ e ∈ hello.extensions, e.2.length < 65536 := by
  intro e he
  have hlen := hello.length_message
  have hle := length_body_le wordBytes he
  omega

/-- The layout of the record leads to the first host name of the first server name extension. -/
theorem exists_reads_record {hello : ClientHello} (hfits : hello.message.length ≤ 65535)
    {before after : List (UInt16 × Bytes)} {namesBefore namesAfter : List (UInt8 × Bytes)}
    {name body : Bytes} (hbody : body = serverNameBody (namesBefore ++ (0, name) :: namesAfter))
    (hsplit : hello.extensions = before ++ (0, body) :: after) (hbefore : ∀ e ∈ before, e.1 ≠ 0)
    (hnames : ∀ n ∈ namesBefore, n.1 ≠ 0) :
    ∃ L : SniLayout, L.Reads hello.record ∧ L.name = name := by
  obtain ⟨hextensions, hall⟩ := extensionsOf_message hfits
  have hlen := hello.length_message
  have hsizes := hello.sizes_of_message hfits
  rw [hsplit] at hall hsizes hlen hextensions
  have hbodyFits := hsizes (0, body) (List.mem_append_right _ (List.mem_cons_self ..))
  obtain ⟨s, hextension, hat⟩ := finds_of_entries (k := 2) (fun _ => rfl)
    (fun e he => mt wordBytes_inj.mp (hbefore e he)) hall hsizes (Nat.le_of_eq hlen.symm)
  obtain ⟨t, hname, hnameAt⟩ := finds_of_serverNameBody hbody (Nat.le_of_lt_succ hbodyFits) hnames
  have hbodyAt : (hello.message.take (s + body.length)).drop s = body := (holdsAt_iff.mp hat).2
  refine ⟨⟨hello.message, hello.extensionsAt, _, s, body.length, t, name.length⟩,
    ⟨looksLike_record, recordOf_record hfits, hextensions, ?_, ?_⟩, ?_⟩
  · rw [← hlen, Nat.min_self]
    exact hextension
  · rw [SniLayout.listLen, SniLayout.extension, hbodyAt]
    exact hname
  · rw [SniLayout.name, SniLayout.extension, hbodyAt]
    exact (holdsAt_iff.mp hnameAt).2

/-- Where no extension is a server name, there is no such layout. -/
theorem not_reads_record {hello : ClientHello} (hfits : hello.message.length ≤ 65535)
    (hnone : ∀ e ∈ hello.extensions, e.1 ≠ 0) (L : SniLayout) : ¬ L.Reads hello.record := by
  intro hL
  obtain ⟨-, hall⟩ := extensionsOf_message hfits
  obtain ⟨hrecord, hat, hsize⟩ := of_reads_record hfits hL
  have hlen := hello.length_message
  have hextension := hL.extension
  rw [hrecord] at hextension
  rw [hat, hsize, ← hlen, Nat.min_self] at hextension
  exact not_finds_of_entries (k := 2) (fun _ => rfl) (fun e he => mt wordBytes_inj.mp (hnone e he))
    hall (hello.sizes_of_message hfits) (Nat.le_of_eq hlen) hextension

/-- **Completeness on well-formed hellos.**  The parser returns the first host name of the first
server name extension, without the dots at its end; without such an extension it returns
`None`. -/
theorem parse_record (hello : ClientHello) (hfits : hello.message.length ≤ 65535) :
    (∀ (before after : List (UInt16 × Bytes)) (namesBefore namesAfter : List (UInt8 × Bytes))
      (name : Bytes),
      hello.extensions =
        before ++ (0, serverNameBody (namesBefore ++ (0, name) :: namesAfter)) :: after →
      (∀ e ∈ before, e.1 ≠ 0) → (∀ n ∈ namesBefore, n.1 ≠ 0) → Graphic name →
      parseClientHelloSni hello.record = .ok (some (trimEndChar '.' (asciiText name)))) ∧
    ((∀ e ∈ hello.extensions, e.1 ≠ 0) → parseClientHelloSni hello.record = .ok none) := by
  constructor
  · intro before after namesBefore namesAfter name hsplit hbefore hnames hgraphic
    obtain ⟨L, hL, rfl⟩ := exists_reads_record hfits rfl hsplit hbefore hnames
    exact parseClientHelloSni_iff.mpr ⟨L, hL, hostNameOf_iff.mpr ⟨hgraphic, rfl⟩⟩
  · intro hnone
    exact parseClientHelloSni_eq_none fun L hL => absurd hL (not_reads_record hfits hnone L)

end ClientHello

/-- What the tests build is one of these records. -/
example : buildClientHello [0x61, 0x2E, 0x62] = ClientHello.record
    { recordMinor := 1, version := (3, 3), random := List.replicate 32 0, sessionId := [],
      cipherSuites := [0x13, 0x01], compressionMethods := [0],
      extensions := [(0x2B, [2, 3, 4]), (0, serverNameBody [(0, [0x61, 0x2E, 0x62])])],
      random_length := rfl, sessionId_fits := by decide, compressionMethods_fits := by decide } := by
  decide +kernel

/-- A hello with a key share before the server name, which has an entry of another type. -/
def sampleHello : ClientHello where
  recordMinor := 1
  version := (3, 3)
  random := List.replicate 32 7
  sessionId := [1, 2, 3]
  cipherSuites := [0x13, 0x01]
  compressionMethods := [0]
  extensions := [(0x33, [9]), (0, serverNameBody [(1, [5]), (0, [0x61, 0x2E, 0x62, 0x2E])]),
    (0x2B, [2, 3, 4])]
  random_length := rfl
  sessionId_fits := by decide
  compressionMethods_fits := by decide

theorem sampleHello_parsed : parseClientHelloSni sampleHello.record = .ok (some "a.b") ∧
    parseClientHelloSni { sampleHello with extensions := [(0x2B, [2, 3, 4])] }.record = .ok none :=
  ⟨(sampleHello.parse_record (by decide)).1 [(0x33, [9])] [(0x2B, [2, 3, 4])] [(1, [5])] []
    [0x61, 0x2E, 0x62, 0x2E] rfl (by decide) (by decide) ⟨by decide, List.all_eq_true.mp (by decide)⟩,
    (ClientHello.parse_record _ (by decide)).2 (by decide)⟩

end SwiftTunnel
