/-
# The server name of a TLS ClientHello

`tls_sni.rs`.  Where the source reads with `get`, a short record gives no name; where it indexes,
the loop condition has checked the bound, and `parseClientHelloSni_ok` is the proof of it.  Both
loops run on fuel, of which the length of what they read is enough.

* `findHostName_ok`, `findServerName_ok`: with more fuel than there are bytes left, each loop ends.
* `parseClientHelloSni_ok`: the parser returns on every payload.

The checked additions of the source are on 64-bit lengths of one packet and never overflow.  Which
name is returned is in `TlsWalk`, and that the parser inverts an encoder in `TlsHello`.
-/
import SwiftTunnel.Lib.Slice
import SwiftTunnel.Lib.Text

namespace SwiftTunnel

open Rust

/-! ## 1. The parser -/

/-- `looks_like_client_hello`. -/
def looksLikeClientHello (payload : Bytes) : Checked Bool :=
  if payload.length < 6 then .ok false
  else do
    let recordType ← index payload 0
    let major ← index payload 1
    let messageType ← index payload 5
    return recordType == 0x16 && major == 0x03 && messageType == 0x01

/-- `u16::from_be_bytes([*bs.get(i)?, *bs.get(i + 1)?])`. -/
def getBe16 (bs : Bytes) (i : Nat) : Option UInt16 := do
  let hi ← bs[i]?
  let lo ← bs[i + 1]?
  return be16 hi lo

/-- `b.is_ascii_graphic()`. -/
def isAsciiGraphic (b : UInt8) : Bool := 0x21 ≤ b && b ≤ 0x7E

/-- The name in a host name entry: graphic ASCII, without the dots at its end. -/
def hostNameOf (nameBytes : Bytes) : Option String := do
  let name ← Rust.fromUtf8 nameBytes
  if nameBytes.isEmpty ∨ nameBytes.all isAsciiGraphic = false then none
  else some (trimEndChar '.' name)

/-- The loop of `parse_server_name_extension`, from `cursor` on. -/
def findHostName (ext : Bytes) (listEnd : Nat) : Nat → Nat → Checked (Option String)
  | 0, _ => .error .outOfFuel
  | fuel + 1, cursor =>
    if cursor + 3 ≤ listEnd then do
      let nameType ← index ext cursor
      let nameLen := (← indexBe16 ext (cursor + 1)).toNat
      let cursor := cursor + 3
      let nameEnd := cursor + nameLen
      if nameEnd > listEnd then .ok none
      else if nameType = 0 then
        match getRange ext cursor nameEnd with
        | none => .ok none
        | some nameBytes => .ok (hostNameOf nameBytes)
      else findHostName ext listEnd fuel nameEnd
    else .ok none

/-- `parse_server_name_extension`. -/
def parseServerNameExtension (ext : Bytes) : Checked (Option String) :=
  match getBe16 ext 0 with
  | none => .ok none
  | some listLen => findHostName ext (min (2 + listLen.toNat) ext.length) (ext.length + 1) 2

/-- The loop of `parse_client_hello_sni` over the extensions, from `cursor` on. -/
def findServerName (record : Bytes) (extensionsEnd : Nat) : Nat → Nat → Checked (Option String)
  | 0, _ => .error .outOfFuel
  | fuel + 1, cursor =>
    if cursor + 4 ≤ extensionsEnd then do
      let extType ← indexBe16 record cursor
      let extLen := (← indexBe16 record (cursor + 2)).toNat
      let cursor := cursor + 4
      let extEnd := cursor + extLen
      if extEnd > extensionsEnd then .ok none
      else if extType = 0x0000 then
        match getRange record cursor extEnd with
        | none => .ok none
        | some ext => parseServerNameExtension ext
      else findServerName record extensionsEnd fuel extEnd
    else .ok none

/-- The fields before the extensions: where the extensions start in a record, and their length. -/
def extensionsOf (record : Bytes) : Option (Nat × Nat) := do
  let cursor := 4 + 34
  let sessionIdLen ← record[cursor]?
  let cursor := cursor + 1 + sessionIdLen.toNat
  let cipherLen ← getBe16 record cursor
  let cursor := cursor + 2 + cipherLen.toNat
  let compressionLen ← record[cursor]?
  let cursor := cursor + 1 + compressionLen.toNat
  let extensionsLen ← getBe16 record cursor
  return (cursor + 2, extensionsLen.toNat)

/-- The part of the payload that is the body of its first TLS record. -/
def recordOf (payload : Bytes) : Option Bytes := do
  let recordLen ← getBe16 payload 3
  getRange payload 5 (min (5 + recordLen.toNat) payload.length)

/-- `parse_client_hello_sni`. -/
def parseClientHelloSni (payload : Bytes) : Checked (Option String) := do
  if (← looksLikeClientHello payload) = false then .ok none
  else match recordOf payload with
    | none => .ok none
    | some record =>
      match extensionsOf record with
      | none => .ok none
      | some (cursor, extensionsLen) =>
        findServerName record (min (cursor + extensionsLen) record.length) (record.length + 1) cursor

/-! ## 2. The parser returns -/

theorem looksLikeClientHello_ok (payload : Bytes) : ∃ b, looksLikeClientHello payload = .ok b := by
  rw [looksLikeClientHello]
  by_cases h : payload.length < 6
  · exact ⟨false, if_pos h⟩
  · rw [if_neg h, index_of_lt (by omega), index_of_lt (by omega), index_of_lt (by omega)]
    exact ⟨_, rfl⟩

/-- With more fuel than there are bytes left, the loop over the names ends. -/
theorem findHostName_ok {ext : Bytes} {listEnd : Nat} (hend : listEnd ≤ ext.length) :
    ∀ (fuel cursor : Nat), 0 < fuel → listEnd < cursor + fuel →
      ∃ r, findHostName ext listEnd fuel cursor = .ok r
  | 0, cursor, hpos, _ => absurd hpos (Nat.lt_irrefl 0)
  | fuel + 1, cursor, _, h => by
    rw [findHostName]
    split
    · rename_i hc
      rw [index_of_lt (by omega), indexBe16_of_lt (by omega)]
      simp only [bind, Except.bind]
      split
      · exact ⟨none, rfl⟩
      · rename_i hle
        split
        · split
          · exact ⟨none, rfl⟩
          · exact ⟨_, rfl⟩
        · exact findHostName_ok hend fuel _ (by omega) (by omega)
    · exact ⟨none, rfl⟩

theorem parseServerNameExtension_ok (ext : Bytes) :
    ∃ r, parseServerNameExtension ext = .ok r := by
  rw [parseServerNameExtension]
  split
  · exact ⟨none, rfl⟩
  · exact findHostName_ok (Nat.min_le_right _ _) _ _ (by omega) (by omega)

/-- With more fuel than there are bytes left, the loop over the extensions ends. -/
theorem findServerName_ok {record : Bytes} {extensionsEnd : Nat}
    (hend : extensionsEnd ≤ record.length) :
    ∀ (fuel cursor : Nat), 0 < fuel → extensionsEnd < cursor + fuel →
      ∃ r, findServerName record extensionsEnd fuel cursor = .ok r
  | 0, cursor, hpos, _ => absurd hpos (Nat.lt_irrefl 0)
  | fuel + 1, cursor, _, h => by
    rw [findServerName]
    split
    · rename_i hc
      rw [indexBe16_of_lt (by omega), indexBe16_of_lt (by omega)]
      simp only [bind, Except.bind]
      split
      · exact ⟨none, rfl⟩
      · rename_i hle
        split
        · split
          · exact ⟨none, rfl⟩
          · exact parseServerNameExtension_ok _
        · exact findServerName_ok hend fuel _ (by omega) (by omega)
    · exact ⟨none, rfl⟩

/-- **The parser returns on every payload**: no index is out of bounds and both loops end. -/
theorem parseClientHelloSni_ok (payload : Bytes) : ∃ r, parseClientHelloSni payload = .ok r := by
  obtain ⟨b, hb⟩ := looksLikeClientHello_ok payload
  rw [parseClientHelloSni, hb]
  simp only [bind, Except.bind]
  split
  · exact ⟨none, rfl⟩
  · split
    · exact ⟨none, rfl⟩
    · split
      · exact ⟨none, rfl⟩
      · exact findServerName_ok (Nat.min_le_right _ _) _ _ (by omega) (by omega)

/-! ## 3. A ClientHello -/

/-- `(x as u16).to_be_bytes()` of a length. -/
def lenBytes (n : Nat) : Bytes := [hiByte (UInt16.ofNat n), (UInt16.ofNat n).toUInt8]

/-- `build_client_hello` of the source's tests: a record with one other extension before the
server name. -/
def buildClientHello (name : Bytes) : Bytes :=
  let sni := lenBytes (name.length + 3) ++ 0 :: lenBytes name.length ++ name
  let extensions := [0x00, 0x2B, 0x00, 0x03, 0x02, 0x03, 0x04] ++ [0x00, 0x00] ++
    lenBytes sni.length ++ sni
  let body := [0x03, 0x03] ++ List.replicate 32 0 ++ [0, 0x00, 0x02, 0x13, 0x01, 0x01, 0x00] ++
    lenBytes extensions.length ++ extensions
  let handshake := 0x01 :: 0 :: lenBytes body.length ++ body
  [0x16, 0x03, 0x01] ++ lenBytes handshake.length ++ handshake

example : parseClientHelloSni (buildClientHello "gamejoin.roblox.com".toUTF8.data.toList) =
    .ok (some "gamejoin.roblox.com") := by decide +kernel

end SwiftTunnel
