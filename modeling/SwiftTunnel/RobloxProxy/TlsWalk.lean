/-
# The walk through a ClientHello

Which of the length fields `parse_client_hello_sni` goes by, said without its loops.
`SniLayout.Reads` holds of the places that the parser visits in a payload, and a name is returned
exactly where they lead to one (`parseClientHelloSni_iff`).  A payload has one layout
(`Reads.unique`), so statements about a name can be made of its layout.

The loops over the extensions and over the names both go by the first entry of a kind, which is what
`Finds` says of entries with a length before them (`Tlv`).

* `Reads.extend`: the bytes of the record that are there keep their layout when more follows.
* `parseClientHelloSni_stable`: so truncation never changes the name, and the bytes behind the first
  record have no influence on it.
* `Reads.consistent_iff`: which declared lengths the parser compares, and which it does not.
* `parseClientHelloSni_consistent_iff`: which hellos with a name are consistent.
* `zeroLengthHello_accepted`: one that is not.

Only the first record of a payload is read.  A ClientHello that is cut into several records or
segments gives the name if it stands in the first.
-/
import SwiftTunnel.Lib.Tlv
import SwiftTunnel.RobloxProxy.TlsSni

namespace SwiftTunnel

open Rust

/-! ## 1. Fields -/

theorem getBe16_iff {bs : Bytes} {i : Nat} {x : UInt16} :
    getBe16 bs i = some x ↔ HoldsAt bs i (wordBytes x) := by
  rw [wordBytes, holdsAt_cons, holdsAt_singleton]
  constructor
  · intro h
    obtain ⟨hi, hhi, h⟩ := Option.bind_eq_some_iff.mp h
    obtain ⟨lo, hlo, h⟩ := Option.bind_eq_some_iff.mp h
    obtain ⟨rfl, rfl⟩ := be16_eq_iff.mp (Option.some.inj h)
    exact ⟨hhi, hlo⟩
  · rintro ⟨hhi, hlo⟩
    simp [getBe16, hhi, hlo, be16_hiByte]

theorem looksLikeClientHello_iff {payload : Bytes} : looksLikeClientHello payload = .ok true ↔
    HoldsAt payload 0 [0x16, 0x03] ∧ HoldsAt payload 5 [0x01] := by
  simp only [holdsAt_byte, holdsAt_nil]
  rw [looksLikeClientHello]
  by_cases hlen : payload.length < 6
  · rw [if_pos hlen]
    constructor
    · intro hfalse
      cases Except.ok.inj hfalse
    · rintro ⟨-, hlt, -⟩
      omega
  · rw [if_neg hlen, index_of_lt (by omega), index_of_lt (by omega), index_of_lt (by omega)]
    simp only [ok_bind, pure, Except.pure, Except.ok.injEq, Bool.and_eq_true, beq_iff_eq]
    constructor
    · rintro ⟨⟨h0, h1⟩, h5⟩
      exact ⟨⟨by omega, h0, by omega, h1, by omega⟩, by omega, h5, by omega⟩
    · rintro ⟨⟨-, h0, -, h1, -⟩, -, h5, -⟩
      exact ⟨⟨h0, h1⟩, h5⟩

/-- The record is what is there of the bytes that its header declares. -/
theorem recordOf_iff {payload record : Bytes} : recordOf payload = some record ↔
    5 ≤ payload.length ∧ record = (payload.take (5 + (be16At payload 3).toNat)).drop 5 := by
  constructor
  · intro h
    obtain ⟨recordLen, hlen, h⟩ := Option.bind_eq_some_iff.mp h
    obtain ⟨hlt, rfl⟩ := holdsAt_wordBytes.mp (getBe16_iff.mp hlen)
    rw [getRange, if_pos ⟨by omega, Nat.min_le_right _ _⟩] at h
    rw [List.take_eq_take_min]
    exact ⟨hlt, (Option.some.inj h).symm⟩
  · rintro ⟨hlen, rfl⟩
    have hat := getBe16_iff.mpr (holdsAt_wordBytes.mpr ⟨hlen, rfl⟩)
    rw [recordOf, hat, Option.bind_eq_bind, Option.bind_some, getRange,
      if_pos ⟨by omega, Nat.min_le_right _ _⟩, ← List.take_eq_take_min]

/-- The four lengths before the extensions. -/
theorem extensionsOf_iff {record : Bytes} {extensions : Nat × Nat} :
    extensionsOf record = some extensions ↔ ∃ (session : UInt8) (ciphers : UInt16)
      (compression : UInt8) (len : UInt16),
      HoldsAt record 38 [session] ∧ HoldsAt record (39 + session.toNat) (wordBytes ciphers) ∧
      HoldsAt record (39 + session.toNat + 2 + ciphers.toNat) [compression] ∧
      HoldsAt record (39 + session.toNat + 2 + ciphers.toNat + 1 + compression.toNat)
        (wordBytes len) ∧
      extensions = (39 + session.toNat + 2 + ciphers.toNat + 1 + compression.toNat + 2,
        len.toNat) := by
  simp only [holdsAt_singleton, ← getBe16_iff]
  simp only [extensionsOf, bind, Option.bind_eq_some_iff, pure]
  constructor
  · rintro ⟨session, hsession, ciphers, hciphers, compression, hcompression, len, hlen, h⟩
    exact ⟨session, ciphers, compression, len, hsession, hciphers, hcompression, hlen,
      (Option.some.inj h).symm⟩
  · rintro ⟨session, ciphers, compression, len, hsession, hciphers, hcompression, hlen, rfl⟩
    exact ⟨session, hsession, ciphers, hciphers, compression, hcompression, len, hlen, rfl⟩

/-! ## 2. The name -/

/-- What the parser takes for a name: graphic ASCII, and not nothing. -/
def Graphic (name : Bytes) : Prop := name ≠ [] ∧ ∀ b ∈ name, isAsciiGraphic b = true

theorem toNat_lt_of_isAsciiGraphic {b : UInt8} (h : isAsciiGraphic b = true) : b.toNat < 128 := by
  simp only [isAsciiGraphic, Bool.and_eq_true, decide_eq_true_eq, UInt8.le_iff_toNat_le] at h
  have h7E : (0x7E : UInt8).toNat = 126 := rfl
  omega

theorem hostNameOf_iff {name : Bytes} {h : String} :
    hostNameOf name = some h ↔ Graphic name ∧ h = trimEndChar '.' (asciiText name) := by
  constructor
  · intro hname
    obtain ⟨text, htext, hname⟩ := Option.bind_eq_some_iff.mp hname
    split at hname
    · cases hname
    · rename_i hgraphic
      simp only [List.isEmpty_iff, Bool.not_eq_false, not_or, List.all_eq_true] at hgraphic
      rw [fromUtf8_ascii (fun b hb => toNat_lt_of_isAsciiGraphic (hgraphic.2 b hb))] at htext
      obtain rfl := Option.some.inj htext
      exact ⟨hgraphic, (Option.some.inj hname).symm⟩
  · rintro ⟨⟨hne, hgraphic⟩, rfl⟩
    rw [hostNameOf, fromUtf8_ascii (fun b hb => toNat_lt_of_isAsciiGraphic (hgraphic b hb)),
      Option.bind_eq_bind, Option.bind_some, if_neg]
    simpa [hne] using hgraphic

/-- **Only dots leave nothing of a name.** -/
theorem trimEndChar_asciiText_eq_empty {name : Bytes} :
    trimEndChar '.' (asciiText name) = "" ↔ ∀ b ∈ name, b = 0x2E := by
  have hdot : ∀ b : UInt8, (Char.ofNat b.toNat == '.') = true ↔ b = 0x2E := by
    intro b
    rw [beq_iff_eq]
    refine ⟨fun h => ?_, fun h => by rw [h]; rfl⟩
    have hval := congrArg (fun c : Char => c.val.toNat) h
    rw [toNat_val_ofNat_toNat] at hval
    exact UInt8.toNat_inj.mp hval
  rw [trimEndChar, ← String.toList_inj, String.toList_ofList, asciiText, String.toList_ofList]
  change List.rdropWhile _ _ = [] ↔ _
  rw [List.rdropWhile_eq_nil_iff]
  simp only [List.mem_map, forall_exists_index, and_imp, forall_apply_eq_imp_iff₂, hdot]

/-! ## 3. The loops -/

/-- **The loop over the names** goes by the first host name entry. -/
theorem findHostName_iff {ext : Bytes} {listEnd fuel cursor : Nat} (hend : listEnd ≤ ext.length)
    (hfuel : listEnd < cursor + fuel) {h : String} :
    findHostName ext listEnd fuel cursor = .ok (some h) ↔ ∃ s l,
      Finds ext [0] listEnd cursor s l ∧ hostNameOf ((ext.take (s + l)).drop s) = some h := by
  have huse : ∀ s l, hostNameOf ((ext.take (s + l)).drop s) = some h ↔
      (.ok (hostNameOf ((ext.take (s + l)).drop s)) : Checked _) = .ok (some h) := by simp
  simp only [huse]
  refine loop_iff (fun s l => .ok (hostNameOf ((ext.take (s + l)).drop s)))
    (fun i => [byteAt ext i]) (fun i => be16At ext (i + 1)) (fun _ => rfl) ?_ ?_ ?_ ?_ hfuel
  · intro i hi
    rw [List.length_singleton] at hi
    exact ⟨rfl, holdsAt_byte.mpr ⟨by omega, rfl, holdsAt_wordBytes.mpr ⟨by omega, rfl⟩⟩⟩
  · intro fuel i hi
    exact if_neg (Nat.not_le_of_lt hi)
  · intro fuel i hi hover
    rw [List.length_singleton] at hi hover
    rw [findHostName, if_pos hi, index_of_lt (by omega), indexBe16_of_lt (by omega), ok_bind,
      ok_bind]
    exact if_pos hover
  · intro fuel i hi
    rw [List.length_singleton] at hi
    rw [findHostName, if_pos (by omega), index_of_lt (by omega), indexBe16_of_lt (by omega),
      ok_bind, ok_bind]
    have hbody : getRange ext (i + 3) (i + 3 + (be16At ext (i + 1)).toNat) = some _ :=
      if_pos ⟨by omega, by omega⟩
    dsimp only
    rw [if_neg (by omega), hbody]
    simp only [List.singleton_inj]
    rfl

/-- **The loop over the extensions** goes by the first server name extension. -/
theorem findServerName_iff {record : Bytes} {extensionsEnd fuel cursor : Nat}
    (hend : extensionsEnd ≤ record.length) (hfuel : extensionsEnd < cursor + fuel) {h : String} :
    findServerName record extensionsEnd fuel cursor = .ok (some h) ↔ ∃ s l,
      Finds record (wordBytes 0) extensionsEnd cursor s l ∧
        parseServerNameExtension ((record.take (s + l)).drop s) = .ok (some h) := by
  refine loop_iff (fun s l => parseServerNameExtension ((record.take (s + l)).drop s))
    (fun i => wordBytes (be16At record i)) (fun i => be16At record (i + 2)) (fun _ => rfl)
    ?_ ?_ ?_ ?_ hfuel
  · intro i hi
    rw [length_wordBytes] at hi
    exact ⟨rfl, holdsAt_word.mpr ⟨by omega, rfl, holdsAt_wordBytes.mpr ⟨by omega, rfl⟩⟩⟩
  · intro fuel i hi
    exact if_neg (Nat.not_le_of_lt hi)
  · intro fuel i hi hover
    rw [length_wordBytes] at hi hover
    rw [findServerName, if_pos hi, indexBe16_of_lt (by omega), indexBe16_of_lt (by omega), ok_bind,
      ok_bind]
    exact if_pos hover
  · intro fuel i hi
    rw [length_wordBytes] at hi
    rw [findServerName, if_pos (by omega), indexBe16_of_lt (by omega), indexBe16_of_lt (by omega),
      ok_bind, ok_bind]
    have hbody : getRange record (i + 4) (i + 4 + (be16At record (i + 2)).toNat) = some _ :=
      if_pos ⟨by omega, by omega⟩
    dsimp only
    rw [if_neg (by omega), hbody]
    simp only [wordBytes_inj]
    rfl

theorem parseServerNameExtension_iff {ext : Bytes} {h : String} :
    parseServerNameExtension ext = .ok (some h) ↔ ∃ s l,
      Finds ext [0] (min (2 + (be16At ext 0).toNat) ext.length) 2 s l ∧
        hostNameOf ((ext.take (s + l)).drop s) = some h := by
  rw [parseServerNameExtension]
  by_cases hlen : 2 ≤ ext.length
  · rw [getBe16_iff.mpr (holdsAt_wordBytes.mpr ⟨hlen, rfl⟩)]
    exact findHostName_iff (Nat.min_le_right _ _) (by omega)
  · have hnone : getBe16 ext 0 = none := by
      rw [← Option.not_isSome_iff_eq_none, Option.isSome_iff_exists]
      rintro ⟨x, hx⟩
      have hlt := (holdsAt_wordBytes.mp (getBe16_iff.mp hx)).1
      omega
    rw [hnone]
    constructor
    · intro hres
      cases hres
    · rintro ⟨s, l, hfinds, -⟩
      have hbounds := hfinds.bounds
      omega

/-! ## 4. From the payload to the name -/

/-- The places on the way to a name.  Those of the extensions and of the server name extension
count from the start of the record, that of the name from the start of its extension. -/
structure SniLayout where
  record : Bytes
  extensionsAt : Nat
  extensionsLen : Nat
  extensionAt : Nat
  extensionLen : Nat
  nameAt : Nat
  nameLen : Nat

namespace SniLayout

/-- The body of the server name extension. -/
def extension (L : SniLayout) : Bytes :=
  (L.record.take (L.extensionAt + L.extensionLen)).drop L.extensionAt

def name (L : SniLayout) : Bytes := (L.extension.take (L.nameAt + L.nameLen)).drop L.nameAt

/-- The length that the server name list declares. -/
def listLen (L : SniLayout) : Nat := (be16At L.extension 0).toNat

/-- The length that the handshake message declares, in three bytes. -/
def messageLen (L : SniLayout) : Nat :=
  (byteAt L.record 1).toNat * 65536 + (be16At L.record 2).toNat

/-- These are the places that the parser visits in the payload. -/
structure Reads (L : SniLayout) (payload : Bytes) : Prop where
  hello : looksLikeClientHello payload = .ok true
  record : recordOf payload = some L.record
  extensions : extensionsOf L.record = some (L.extensionsAt, L.extensionsLen)
  extension : Finds L.record (wordBytes 0)
    (min (L.extensionsAt + L.extensionsLen) L.record.length) L.extensionsAt
    L.extensionAt L.extensionLen
  name : Finds L.extension [0] (min (2 + L.listLen) L.extension.length) 2 L.nameAt L.nameLen

/-- A payload has one layout. -/
theorem Reads.unique {L L' : SniLayout} {payload : Bytes} (h : L.Reads payload)
    (h' : L'.Reads payload) : L = L' := by
  obtain ⟨record, extensionsAt, extensionsLen, extensionAt, extensionLen, nameAt, nameLen⟩ := L
  obtain ⟨record', extensionsAt', extensionsLen', extensionAt', extensionLen', nameAt',
    nameLen'⟩ := L'
  obtain rfl : record = record' := Option.some.inj (h.record.symm.trans h'.record)
  have hextensions := Option.some.inj (h.extensions.symm.trans h'.extensions)
  obtain ⟨rfl, rfl⟩ := Prod.mk.inj hextensions
  obtain ⟨rfl, rfl⟩ := h.extension.unique h'.extension
  obtain ⟨rfl, rfl⟩ := h.name.unique h'.name
  rfl

end SniLayout

/-- **Where the parser returns a name**, the layout of the payload leads to it. -/
theorem parseClientHelloSni_iff {payload : Bytes} {h : String} :
    parseClientHelloSni payload = .ok (some h) ↔
      ∃ L : SniLayout, L.Reads payload ∧ hostNameOf L.name = some h := by
  obtain ⟨b, hb⟩ := looksLikeClientHello_ok payload
  rw [parseClientHelloSni, hb, ok_bind]
  constructor
  · intro hres
    cases b with
    | false => cases hres
    | true =>
      rw [if_neg (by simp)] at hres
      split at hres
      · cases hres
      · rename_i record hrecord
        split at hres
        · cases hres
        · rename_i extensionsAt extensionsLen hextensions
          obtain ⟨extensionAt, extensionLen, hextension, hres⟩ :=
            (findServerName_iff (Nat.min_le_right _ _) (by omega)).mp hres
          obtain ⟨nameAt, nameLen, hname, hres⟩ := parseServerNameExtension_iff.mp hres
          exact ⟨⟨record, extensionsAt, extensionsLen, extensionAt, extensionLen, nameAt, nameLen⟩,
            ⟨hb, hrecord, hextensions, hextension, hname⟩, hres⟩
  · rintro ⟨L, hL, hres⟩
    obtain rfl : b = true := Except.ok.inj (hb.symm.trans hL.hello)
    rw [if_neg (by simp), hL.record]
    dsimp only
    rw [hL.extensions]
    exact (findServerName_iff (Nat.min_le_right _ _) (by omega)).mpr ⟨_, _, hL.extension,
      parseServerNameExtension_iff.mpr ⟨_, _, hL.name, hres⟩⟩

/-- Without a name, the parser returns `None`. -/
theorem parseClientHelloSni_eq_none {payload : Bytes}
    (h : ∀ L : SniLayout, L.Reads payload → ¬ Graphic L.name) :
    parseClientHelloSni payload = .ok none := by
  obtain ⟨r, hr⟩ := parseClientHelloSni_ok payload
  cases r with
  | none => exact hr
  | some name =>
    obtain ⟨L, hL, hname⟩ := parseClientHelloSni_iff.mp hr
    exact absurd (hostNameOf_iff.mp hname).1 (h L hL)

/-! ## 5. More bytes -/

theorem extensionsOf_append {record : Bytes} {extensions : Nat × Nat}
    (h : extensionsOf record = some extensions) (more : Bytes) :
    extensionsOf (record ++ more) = some extensions := by
  obtain ⟨session, ciphers, compression, len, h1, h2, h3, h4, h5⟩ := extensionsOf_iff.mp h
  exact extensionsOf_iff.mpr ⟨session, ciphers, compression, len, h1.append more, h2.append more,
    h3.append more, h4.append more, h5⟩

/-- The parser goes past the head of the message. -/
theorem lt_length_of_extensionsOf {record : Bytes} {extensions : Nat × Nat}
    (h : extensionsOf record = some extensions) : 38 < record.length := by
  obtain ⟨session, ciphers, compression, len, h1, -⟩ := extensionsOf_iff.mp h
  exact h1.le_length

namespace SniLayout

/-- The same places in a record with more bytes. -/
def extend (L : SniLayout) (more : Bytes) : SniLayout := { L with record := L.record ++ more }

theorem Reads.extension_le {L : SniLayout} {payload : Bytes} (h : L.Reads payload) :
    L.extensionAt + L.extensionLen ≤ L.record.length :=
  Nat.le_trans h.extension.bounds.2 (Nat.min_le_right _ _)

theorem Reads.extend_extension {L : SniLayout} {payload : Bytes} (h : L.Reads payload)
    (more : Bytes) : (L.extend more).extension = L.extension := by
  change ((L.record ++ more).take (L.extensionAt + L.extensionLen)).drop L.extensionAt = _
  rw [List.take_append_of_le_length h.extension_le]
  rfl

/-- **The bytes of the record that are there keep their layout** when more follows. -/
theorem Reads.extend {L : SniLayout} {payload payload' : Bytes} (h : L.Reads payload)
    (hpre : payload.take (5 + (be16At payload 3).toNat) <+: payload') :
    ∃ more, (L.extend more).Reads payload' := by
  obtain ⟨hlen, hrecord⟩ := recordOf_iff.mp h.record
  have hhead := lt_length_of_extensionsOf h.extensions
  -- The front holds the record header and the bytes of the record that are there.
  have hfront : (payload.take (5 + (be16At payload 3).toNat)).length = 5 + L.record.length := by
    rw [hrecord, List.length_drop, List.length_take]
    omega
  have hdeclared : be16At (payload.take (5 + (be16At payload 3).toNat)) 3 = be16At payload 3 :=
    be16At_take (by omega)
  have hlong : 6 ≤ 5 + (be16At payload 3).toNat := by
    have hle := List.length_take_le (5 + (be16At payload 3).toNat) payload
    omega
  obtain ⟨htype, hmessage⟩ := looksLikeClientHello_iff.mp h.hello
  have htype := htype.take (Nat.le_trans (by decide : 2 ≤ 6) hlong)
  have hmessage := hmessage.take hlong
  obtain ⟨rest, rfl⟩ := hpre
  refine ⟨rest.take ((be16At payload 3).toNat - L.record.length), ?_, ?_, ?_, ?_, ?_⟩
  · exact looksLikeClientHello_iff.mpr ⟨htype.append rest, hmessage.append rest⟩
  · rw [recordOf_iff, be16At_append (by omega), hdeclared, List.take_append, hfront,
      List.take_take, Nat.min_self, List.drop_append_of_le_length (by omega), ← hrecord]
    refine ⟨?_, ?_⟩
    · rw [List.length_append]
      omega
    · rw [Nat.add_sub_add_left]
      rfl
  · exact extensionsOf_append h.extensions _
  · refine h.extension.append (Nat.le_min.mpr ⟨Nat.min_le_left _ _, ?_⟩) _
    exact Nat.le_trans (Nat.min_le_right _ _) (List.prefix_append _ _).length_le
  · rw [listLen, h.extend_extension]
    exact h.name

end SniLayout

/-- A name that is found in a packet is found in every packet that has the bytes of its record. -/
theorem parseClientHelloSni_of_take {payload payload' : Bytes} {h : String}
    (hname : parseClientHelloSni payload = .ok (some h))
    (hpre : payload.take (5 + (be16At payload 3).toNat) <+: payload') :
    parseClientHelloSni payload' = .ok (some h) := by
  obtain ⟨L, hL, hname⟩ := parseClientHelloSni_iff.mp hname
  obtain ⟨more, hL'⟩ := hL.extend hpre
  refine parseClientHelloSni_iff.mpr ⟨L.extend more, hL', ?_⟩
  rw [SniLayout.name, hL.extend_extension]
  exact hname

/-- Packets that agree up to the end of the first record have the same record length. -/
theorem be16At_eq_of_take {payload payload' : Bytes}
    (h : payload.take (5 + (be16At payload 3).toNat) =
      payload'.take (5 + (be16At payload 3).toNat)) : be16At payload' 3 = be16At payload 3 := by
  have hlen : 3 + 1 < 5 + (be16At payload 3).toNat := by omega
  rw [← be16At_take hlen, ← h, be16At_take hlen]

/-- **Truncation never changes the name**: a packet gives the name that its beginning gives, and
the bytes after the first record have no influence. -/
theorem parseClientHelloSni_stable :
    (∀ (p q : Bytes) (h : String), q <+: p → parseClientHelloSni q = .ok (some h) →
      parseClientHelloSni p = .ok (some h)) ∧
    (∀ p p' : Bytes, p.take (5 + (be16At p 3).toNat) = p'.take (5 + (be16At p 3).toNat) →
      parseClientHelloSni p = parseClientHelloSni p') := by
  refine ⟨fun p q h hpre hname =>
    parseClientHelloSni_of_take hname ((List.take_prefix _ _).trans hpre), ?_⟩
  intro p p' htake
  have hlen := be16At_eq_of_take htake
  obtain ⟨r, hr⟩ := parseClientHelloSni_ok p
  obtain ⟨r', hr'⟩ := parseClientHelloSni_ok p'
  have hsame : ∀ h : String, parseClientHelloSni p = .ok (some h) ↔
      parseClientHelloSni p' = .ok (some h) := by
    intro h
    constructor
    · intro hname
      exact parseClientHelloSni_of_take hname (htake ▸ List.take_prefix _ _)
    · intro hname
      refine parseClientHelloSni_of_take hname ?_
      rw [hlen, ← htake]
      exact List.take_prefix _ _
  simp only [hr, hr', Except.ok.injEq] at hsame ⊢
  exact Option.ext hsame

theorem helloWithMore_stable :
    parseClientHelloSni (buildClientHello [0x61, 0x2E, 0x62] ++ [0x17]) = .ok (some "a.b") ∧
      parseClientHelloSni (buildClientHello [0x61, 0x2E, 0x62] ++ [0x17]) =
        parseClientHelloSni (buildClientHello [0x61, 0x2E, 0x62] ++ [0x15, 0x03]) :=
  ⟨parseClientHelloSni_stable.1 _ _ _ (List.prefix_append _ _) (by decide +kernel),
    parseClientHelloSni_stable.2 _ _ (by decide +kernel)⟩

/-! ## 6. The lengths that the parser does not compare -/

namespace SniLayout

/-- No declared length goes beyond the declared length of what is around it. -/
structure Consistent (L : SniLayout) (recordLen : Nat) : Prop where
  name : L.nameAt + L.nameLen ≤ 2 + L.listLen
  list : 2 + L.listLen ≤ L.extensionLen
  extension : L.extensionAt + L.extensionLen ≤ L.extensionsAt + L.extensionsLen
  extensions : L.extensionsAt + L.extensionsLen ≤ 4 + L.messageLen
  message : 4 + L.messageLen ≤ recordLen

/-- The name entry, three bytes before the name up to its end, lies inside all that is declared
around it. -/
structure NameInside (L : SniLayout) : Prop where
  list : 2 + 3 ≤ L.nameAt ∧ L.nameAt + L.nameLen ≤ 2 + L.listLen
  extension : L.nameAt + L.nameLen ≤ L.extensionLen
  extensions : L.extensionsAt ≤ L.extensionAt ∧
    L.extensionAt + L.nameAt + L.nameLen ≤ L.extensionsAt + L.extensionsLen
  message : L.extensionAt + L.nameAt + L.nameLen ≤ 4 + L.messageLen

/-- What the parser goes without: the list is cut to the extension and the extensions to the
record, the length of the message is not read, and only the name with its dots is checked. -/
structure Unchecked (L : SniLayout) (recordLen : Nat) : Prop where
  list : 2 + L.listLen ≤ L.extensionLen
  extensions : L.extensionsAt + L.extensionsLen ≤ 4 + L.messageLen
  message : 4 + L.messageLen ≤ recordLen
  name : ∃ b ∈ L.name, b ≠ 0x2E

/-- **What the parser compares** leaves these conditions. -/
theorem Reads.consistent_iff {L : SniLayout} {payload : Bytes} (h : L.Reads payload) {n : Nat} :
    L.Consistent n ↔ 2 + L.listLen ≤ L.extensionLen ∧
      L.extensionsAt + L.extensionsLen ≤ 4 + L.messageLen ∧ 4 + L.messageLen ≤ n := by
  have hname := h.name.bounds.2
  have hextension := h.extension.bounds.2
  constructor
  · intro hc
    exact ⟨hc.list, hc.extensions, hc.message⟩
  · rintro ⟨hlist, hextensions, hmessage⟩
    exact ⟨by omega, hlist, by omega, hextensions, hmessage⟩

theorem Reads.nameInside {L : SniLayout} {payload : Bytes} (h : L.Reads payload) {n : Nat}
    (hc : L.Consistent n) : L.NameInside := by
  have hname := h.name.bounds.1
  have hextension := h.extension.bounds.1
  rw [List.length_singleton] at hname
  obtain ⟨h1, h2, h3, h4, -⟩ := hc
  exact ⟨⟨hname, h1⟩, by omega, ⟨by omega, by omega⟩, by omega⟩

end SniLayout

/-- **Exactly which hellos are consistent where a name is returned**: those that meet, besides
what the parser checks, the conditions that it does not. -/
theorem parseClientHelloSni_consistent_iff {payload : Bytes} :
    (∀ h : String, parseClientHelloSni payload = .ok (some h) → h ≠ "" ∧ ∃ L : SniLayout,
      L.Reads payload ∧ L.NameInside ∧ L.Consistent (be16At payload 3).toNat) ↔
    ∀ L : SniLayout, L.Reads payload → Graphic L.name →
      L.Unchecked (be16At payload 3).toNat := by
  constructor
  · intro hall L hL hgraphic
    obtain ⟨hne, L', hL', -, hc⟩ := hall _ (parseClientHelloSni_iff.mpr
      ⟨L, hL, hostNameOf_iff.mpr ⟨hgraphic, rfl⟩⟩)
    obtain rfl := hL.unique hL'
    rw [ne_eq, trimEndChar_asciiText_eq_empty] at hne
    simp only [not_forall, exists_prop] at hne
    exact ⟨hc.list, hc.extensions, hc.message, hne⟩
  · intro hall h hname
    obtain ⟨L, hL, hname⟩ := parseClientHelloSni_iff.mp hname
    obtain ⟨hgraphic, rfl⟩ := hostNameOf_iff.mp hname
    obtain ⟨hlist, hextensions, hmessage, b, hb, hdot⟩ := hall L hL hgraphic
    have hc := hL.consistent_iff.mpr ⟨hlist, hextensions, hmessage⟩
    refine ⟨fun hempty => ?_, L, hL, hL.nameInside hc, hc⟩
    exact hdot (trimEndChar_asciiText_eq_empty.mp hempty b hb)

/-- A hello whose handshake message declares no bytes. -/
def zeroLengthHello : Bytes := (buildClientHello [0x61, 0x2E, 0x62]).set 8 0

/-- It has a name, and a hello for `.` has the empty one. -/
theorem zeroLengthHello_accepted :
    parseClientHelloSni (buildClientHello [0x2E]) = .ok (some "") ∧
      parseClientHelloSni zeroLengthHello = .ok (some "a.b") ∧
      ¬ ∃ L : SniLayout, L.Reads zeroLengthHello ∧ L.NameInside ∧
        L.Consistent (be16At zeroLengthHello 3).toNat := by
  refine ⟨by decide +kernel, by decide +kernel, ?_⟩
  rintro ⟨L, hL, hinside, -⟩
  have hrecord : recordOf zeroLengthHello = some (zeroLengthHello.drop 5) := by decide +kernel
  have hL0 : L.record = zeroLengthHello.drop 5 := Option.some.inj (hL.record.symm.trans hrecord)
  have hlen : L.messageLen = 0 := by
    rw [SniLayout.messageLen, hL0]
    decide +kernel
  have hmessage := hinside.message
  have hlist := hinside.list.1
  omega

end SwiftTunnel
