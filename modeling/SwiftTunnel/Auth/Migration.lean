/-
# Sealed blobs and the blobs of old versions

`auth/storage.rs`.  A session file is sealed, and then begins with the version tag, or it was
written before there was sealing: JSON under a repeating key, in base64, perhaps with white space
around.  `decode_blob` tells the two apart by the first byte, and `load_from_file` seals an old file
again.  When that write fails the load returns the session all the same.

The version tag is neither white space nor a letter of base64 (`legacyBlob_head`,
`encodeSession_head`), which is why the two formats are never mistaken for each other.  An old blob
is read back because white space around it is trimmed, base64 and the repeating key are inverted, and
JSON round-trips; the first and the last are laws of the packages (`SessionCodec`, `WritesText`).

* `session_blobs_migrate`: each format is read back, and neither as the other; an old file that is
  read gives its session, and is sealed exactly when it can be written.
* `sealed_loads`: from then on every load that can read the file finds the session there.
* `legacy_file_kept`: a file that cannot be written stays as it was.

The key under a sealed blob is that of the machine and user; how it is derived is in `SessionKey`.
-/
import SwiftTunnel.Auth.Storage
import SwiftTunnel.Lib.Utf8

namespace SwiftTunnel

open Rust

/-! ## 1. Blobs of an old version -/

/-- XOR with the repeating key. -/
def xorLegacyKey (bytes : Bytes) : Bytes :=
  bytes.mapIdx fun i b => b ^^^ legacyObfuscationKey.getD (i % legacyObfuscationKey.length) 0

theorem xorLegacyKey_involutive (bytes : Bytes) : xorLegacyKey (xorLegacyKey bytes) = bytes := by
  have htwice : ∀ b k : UInt8, b ^^^ k ^^^ k = b := by
    intro b k
    rw [UInt8.xor_assoc, UInt8.xor_self, UInt8.xor_zero]
  rw [xorLegacyKey, xorLegacyKey, List.mapIdx_mapIdx]
  refine List.ext_getElem (by simp) fun i _ _ => ?_
  simp [htwice]

theorem xorLegacyKey_ne_nil {bytes : Bytes} (h : bytes ≠ []) : xorLegacyKey bytes ≠ [] := by
  rwa [xorLegacyKey, ne_eq, List.mapIdx_eq_nil_iff]

/-- White space. -/
def Blank (t : Text) : Prop := ∀ ch ∈ t, isWhitespace ch = true

theorem blank_nil : Blank [] := fun _ h => absurd h List.not_mem_nil

namespace SessionCodec

variable (c : SessionCodec)

/-- What an old version wrote for this JSON, with the white space before and behind it. -/
def legacyBlob (front back : Text) (json : Bytes) : Bytes :=
  utf8Bytes (String.ofList (front ++ ((c.base64Encode (xorLegacyKey json)).toList ++ back)))

/-- No JSON is empty, and base64 is written in its alphabet. -/
structure WritesText : Prop where
  fromSlice_nil : c.fromSlice [] = none
  base64Encode_nil : c.base64Encode [] = ""
  base64Encode_mem : ∀ blob, ∀ ch ∈ (c.base64Encode blob).toList, ch ∈ '=' :: Base64.alphabet

variable {c} {front back : Text} {json : Bytes} {session : AuthSession}

theorem base64Encode_ne_nil (hc : c.WritesText) {blob : Bytes} (h : blob ≠ []) :
    (c.base64Encode blob).toList ≠ [] := by
  intro hnil
  have hblob := c.decode_encode blob
  have hempty := c.decode_encode []
  rw [hc.base64Encode_nil] at hempty
  rw [hnil] at hblob
  exact h (Option.some.inj (hblob.symm.trans hempty))

theorem json_ne_nil (hc : c.WritesText) (h : c.toVec session = .ok json) : json ≠ [] := by
  rintro rfl
  have hsession := c.fromSlice_toVec session [] h
  rw [hc.fromSlice_nil] at hsession
  cases hsession

theorem fromUtf8_utf8Bytes (s : String) : fromUtf8 (utf8Bytes s) = some s := fromUTF8?_bytes s

theorem utf8Bytes_eq_nil {s : String} (h : utf8Bytes s = []) : s = "" := by
  have hs := fromUtf8_utf8Bytes s
  have hempty := fromUtf8_utf8Bytes ""
  have hnil : utf8Bytes "" = [] := by
    rw [utf8Bytes, byteArray_toList]
    rfl
  rw [hnil] at hempty
  rw [h] at hs
  exact Option.some.inj (hs.symm.trans hempty)

theorem decryptLegacyV1_legacyBlob (hfront : Blank front) (hback : Blank back) (json : Bytes) :
    c.decryptLegacyV1 (c.legacyBlob front back json) = some json := by
  rw [decryptLegacyV1, legacyBlob, fromUtf8_utf8Bytes, Option.bind_eq_bind, Option.bind_some,
    String.toList_ofList, trim_surrounded hfront hback, c.decode_encode, Option.bind_eq_bind,
    Option.bind_some]
  exact congrArg some (xorLegacyKey_involutive json)

/-- The first character of an old blob is white space or one of base64. -/
theorem legacyBlob_head (hc : c.WritesText) (hfront : Blank front) (hjson : json ≠ []) :
    (c.legacyBlob front back json).head? ≠ some sessionVersionTag := by
  have hwhite : ∀ ch, isWhitespace ch = true → ch.toNat ≠ 3 := by
    intro ch hch h3
    rw [isWhitespace, h3] at hch
    exact absurd hch (by decide)
  intro hhead
  rw [legacyBlob, utf8Bytes] at hhead
  cases front with
  | nil =>
    cases htext : (c.base64Encode (xorLegacyKey json)).toList with
    | nil => exact base64Encode_ne_nil hc (xorLegacyKey_ne_nil hjson) htext
    | cons ch text =>
      rw [htext] at hhead
      have hmem : ch ∈ (c.base64Encode (xorLegacyKey json)).toList := by
        rw [htext]
        exact List.mem_cons_self
      have hgraphic := Base64.graphic_of_mem (hc.base64Encode_mem _ ch hmem)
      rw [head_bytes hhead (by decide)] at hgraphic
      exact absurd hgraphic.1 (by decide)
  | cons ch front =>
    exact hwhite ch (hfront ch List.mem_cons_self) (head_bytes hhead (by decide))

theorem legacyBlob_ne_nil (hc : c.WritesText) (hjson : json ≠ []) :
    c.legacyBlob front back json ≠ [] := by
  intro hnil
  have htext := congrArg String.toList (utf8Bytes_eq_nil hnil)
  rw [String.toList_ofList, String.toList_empty, List.append_eq_nil_iff,
    List.append_eq_nil_iff] at htext
  exact base64Encode_ne_nil hc (xorLegacyKey_ne_nil hjson) htext.2.1

/-- **An old blob is read back**, and asks for a rewrite. -/
theorem decodeBlob_legacyBlob (hc : c.WritesText) (hjson : c.toVec session = .ok json)
    (hfront : Blank front) (hback : Blank back) :
    c.decodeBlob (c.legacyBlob front back json) = .session session true := by
  have hlegacy := decryptLegacyV1_legacyBlob (c := c) hfront hback json
  have hne : c.legacyBlob front back json ≠ [] := legacyBlob_ne_nil hc (json_ne_nil hc hjson)
  rw [decodeBlob, if_neg hne, if_neg (legacyBlob_head hc hfront (json_ne_nil hc hjson)), hlegacy]
  simp only [c.fromSlice_toVec session json hjson]

/-- A blob that begins with the version tag is never read as an old one. -/
theorem decodeBlob_tagged_not_legacy {raw : Bytes} (h : raw.head? = some sessionVersionTag)
    (session : AuthSession) : c.decodeBlob raw ≠ .session session true := by
  have hne : raw ≠ [] := by
    rintro rfl
    cases h
  rw [decodeBlob, if_neg hne, if_pos h]
  cases c.openBlob raw with
  | none => simp
  | some json =>
    dsimp only
    cases c.fromSlice json with
    | none => simp
    | some session' => simp

theorem decodeBlob_unopened {raw : Bytes} (h : raw.head? = some sessionVersionTag)
    (hopen : c.openBlob raw = none) : c.decodeBlob raw = .corrupt := by
  have hne : raw ≠ [] := by
    rintro rfl
    cases h
  rw [decodeBlob, if_neg hne, if_pos h, hopen]

/-- A blob too short for its nonce and tag. -/
theorem decodeBlob_short {raw : Bytes} (h : raw.head? = some sessionVersionTag)
    (hlen : raw.length < 29) : c.decodeBlob raw = .corrupt := by
  refine decodeBlob_unopened h ?_
  exact if_pos hlen

/-- A blob that fails authentication. -/
theorem decodeBlob_forged {nonce : Nonce} {sealed : Bytes} (h : c.openInPlace nonce sealed = none) :
    c.decodeBlob (sessionVersionTag :: (nonce.val ++ sealed)) = .corrupt := by
  refine decodeBlob_unopened rfl ?_
  have htake : (nonce.val ++ sealed).take nonceLen = nonce.val := List.take_left' nonce.property
  have hdrop : (nonce.val ++ sealed).drop nonceLen = sealed := List.drop_left' nonce.property
  simp [openBlob, htake, hdrop, nonce.property, Nat.add_comm 1 nonceLen, h]

/-- Sealing writes the version tag. -/
theorem encodeSession_head {nonce : Option Nonce} {blob : Bytes}
    (h : c.encodeSession nonce session = .ok blob) : blob.head? = some sessionVersionTag := by
  rw [encodeSession] at h
  split at h
  · cases h
  · cases nonce with
    | none => cases h
    | some nonce =>
      obtain rfl := Except.ok.inj h
      rfl

end SessionCodec

/-! ## 2. Loading an old file -/

/-- A call of `load_session` that can read the session file. -/
def StorageInput.ReadsFile {c : SessionCodec} : StorageInput c → Prop
  | .load io => io.stat = true ∧ io.read = true
  | _ => False

namespace SecureStorage

variable {c : SessionCodec} {session : AuthSession}

/-- A sealed session is in the file. -/
def Sealed (c : SessionCodec) (session : AuthSession) (st : SecureStorage) : Prop :=
  ∃ blob, st.file = some blob ∧ blob.head? = some sessionVersionTag ∧
    c.decodeBlob blob = .session session false

/-- A load that reads a session from the file. -/
theorem loadSession_decoded {st : SecureStorage} {io : StorageIo c} {blob : Bytes} {rewrite : Bool}
    (hfile : st.file = some blob) (hblob : c.decodeBlob blob = .session session rewrite)
    (hstat : io.stat = true) (hread : io.read = true) :
    st.loadSession io =
      (.ok (some session), if rewrite then (st.storeToFile io session).2 else st) := by
  have hload : st.loadFromFile io =
      (.ok (some session), if rewrite then (st.storeToFile io session).2 else st) := by
    simp [loadFromFile, hfile, hstat, hread, hblob]
  rw [loadSession, hload]

theorem loadSession_sealed {st : SecureStorage} {io : StorageIo c} (h : Sealed c session st)
    (hstat : io.stat = true) (hread : io.read = true) :
    st.loadSession io = (.ok (some session), st) := by
  obtain ⟨blob, hfile, -, hblob⟩ := h
  exact loadSession_decoded hfile hblob hstat hread

/-- **The loads of a sealed file** all return its session and change nothing. -/
theorem sealed_loads {st st' : SecureStorage} {es : StorageLog c} (h : Sealed c session st)
    (hrun : Run StorageStep st es st') (hreads : ∀ e ∈ es, e.1.ReadsFile) :
    st' = st ∧ ∀ e ∈ es, e.2 = .loaded (.ok (some session)) := by
  induction hrun with
  | nil st => exact ⟨rfl, fun e he => absurd he List.not_mem_nil⟩
  | cons hstep hrun ih =>
    rename_i st st₁ st₂ i o es
    rw [List.forall_mem_cons] at hreads ⊢
    cases i with
    | load io =>
      obtain ⟨hstat, hread⟩ := hreads.1
      rw [StorageStep, storageNext, loadSession_sealed h hstat hread] at hstep
      obtain ⟨rfl, rfl⟩ := Prod.mk.inj hstep
      obtain ⟨hsame, hloaded⟩ := ih h hreads.2
      exact ⟨hsame, rfl, hloaded⟩
    | store io session => exact hreads.1.elim
    | clear io error => exact hreads.1.elim
    | damage left => exact hreads.1.elim

variable {front back : Text} {json : Bytes}

theorem loadSession_legacy (hc : c.WritesText) (hjson : c.toVec session = .ok json)
    (hfront : Blank front) (hback : Blank back) {st : SecureStorage} {io : StorageIo c}
    (hfile : st.file = some (c.legacyBlob front back json)) (hstat : io.stat = true)
    (hread : io.read = true) :
    st.loadSession io = (.ok (some session), (st.storeToFile io session).2) :=
  loadSession_decoded hfile (SessionCodec.decodeBlob_legacyBlob hc hjson hfront hback) hstat hread

/-- **A store seals the file exactly when it can be written.** -/
theorem storeToFile_sealed_iff {st : SecureStorage} (hst : ¬ Sealed c session st)
    (io : StorageIo c) :
    Sealed c session (st.storeToFile io session).2 ↔ io.CanStore session := by
  rw [← st.storeToFile_ok_iff, storeToFile]
  cases hblob : c.encodeSession io.fileNonce session with
  | error e => simp [hst]
  | ok blob =>
    cases io.write with
    | written =>
      have hhead := SessionCodec.encodeSession_head hblob
      exact iff_of_true ⟨blob, rfl, hhead, c.decodeBlob_encode hblob⟩ rfl
    | failed e => simp [hst]
    | torn e left =>
      -- a damaged file has no session in it
      refine iff_of_false ?_ (by simp)
      rintro ⟨blob', hfile, -, hblob'⟩
      obtain rfl := Option.some.inj hfile
      rw [left.property] at hblob'
      cases hblob'

end SecureStorage

/-- **Blobs are read back in both formats, and old files are sealed.**  Whatever the session: a
sealed blob gives it without, and an old one with a rewrite.  A load of an old file returns it,
and seals the file exactly when that can be written; all loads of the sealed file return it too,
and change nothing.  A blob that begins with the version tag is corrupt when it is too short or
fails authentication, and never read as an old one. -/
theorem session_blobs_migrate {c : SessionCodec} (hc : c.WritesText) {session : AuthSession}
    {json : Bytes} (hjson : c.toVec session = .ok json) :
    (∀ nonce, ∃ blob, c.encodeSession (some nonce) session = .ok blob ∧
      c.decodeBlob blob = .session session false) ∧
    (∀ front back, Blank front → Blank back →
      c.decodeBlob (c.legacyBlob front back json) = .session session true) ∧
    (∀ (st : SecureStorage) (io : StorageIo c) front back, Blank front → Blank back →
      st.file = some (c.legacyBlob front back json) → io.stat = true → io.read = true →
      (st.loadSession io).1 = .ok (some session) ∧
      (SecureStorage.Sealed c session (st.loadSession io).2 ↔ io.CanStore session) ∧
      (io.CanStore session → ∀ (es : StorageLog c) st',
        Run StorageStep (st.loadSession io).2 es st' → (∀ e ∈ es, e.1.ReadsFile) →
        st' = (st.loadSession io).2 ∧ ∀ e ∈ es, e.2 = .loaded (.ok (some session)))) ∧
    (∀ raw : Bytes, raw.head? = some sessionVersionTag →
      (raw.length < 29 → c.decodeBlob raw = .corrupt) ∧
      ∀ session', c.decodeBlob raw ≠ .session session' true) ∧
    ∀ (nonce : Nonce) (sealed : Bytes), c.openInPlace nonce sealed = none →
      c.decodeBlob (sessionVersionTag :: (nonce.val ++ sealed)) = .corrupt := by
  refine ⟨?_, ?_, ?_, ?_, ?_⟩
  · intro nonce
    have hblob : c.encodeSession (some nonce) session =
        .ok (sessionVersionTag :: (nonce.val ++ c.sealInPlace nonce json)) := by
      rw [SessionCodec.encodeSession, hjson]
      rfl
    exact ⟨_, hblob, c.decodeBlob_encode hblob⟩
  · intro front back hfront hback
    exact SessionCodec.decodeBlob_legacyBlob hc hjson hfront hback
  · intro st io front back hfront hback hfile hstat hread
    have hnot : ¬ SecureStorage.Sealed c session st := by
      rintro ⟨blob, hblob, hhead, -⟩
      obtain rfl := Option.some.inj (hfile.symm.trans hblob)
      exact SessionCodec.legacyBlob_head hc hfront (SessionCodec.json_ne_nil hc hjson) hhead
    have hsealed := SecureStorage.storeToFile_sealed_iff hnot io
    rw [SecureStorage.loadSession_legacy hc hjson hfront hback hfile hstat hread]
    refine ⟨rfl, hsealed, ?_⟩
    intro hcan es st' hrun hreads
    exact SecureStorage.sealed_loads (hsealed.mpr hcan) hrun hreads
  · intro raw hraw
    exact ⟨SessionCodec.decodeBlob_short hraw, SessionCodec.decodeBlob_tagged_not_legacy hraw⟩
  · intro nonce sealed hforged
    exact SessionCodec.decodeBlob_forged hforged

/-! ## 3. An old file of the first session -/

/-- `sampleCodec` with a tag that is looked at. -/
def base64Codec : SessionCodec :=
  { sampleCodec with
    openInPlace := fun _ buf =>
      if buf.drop (buf.length - aeadTagLen) = List.replicate aeadTagLen 0 then
        some (buf.take (buf.length - aeadTagLen))
      else none
    open_seal := by simp [sampleCodec] }

theorem base64Codec_writesText : base64Codec.WritesText where
  fromSlice_nil := by decide +kernel
  base64Encode_nil := rfl
  base64Encode_mem blob ch hch := by
    have hchar : ch ∈ (String.ofList (Base64.encode blob)).toList := hch
    rw [String.toList_ofList] at hchar
    exact Base64.mem_encode hchar

/-- The old file, with a line feed behind the blob. -/
def legacyA : SecureStorage := ⟨some (base64Codec.legacyBlob [] ['\n'] jsonA), none, false⟩

theorem blank_newline : Blank ['\n'] := by
  intro ch hch
  rw [List.mem_singleton] at hch
  rw [hch]
  rfl

def readOnlyFile : StorageIo base64Codec :=
  { (.granted sampleNonce true true : StorageIo base64Codec) with
    write := .failed "Access is denied. (os error 5)" }

theorem legacyA_migrates :
    base64Codec.decodeBlob (base64Codec.legacyBlob [] ['\n'] jsonA) = .session sessionA true ∧
      (legacyA.loadSession
        (.granted sampleNonce true true : StorageIo base64Codec)).1 =
          .ok (some sessionA) := by
  obtain ⟨-, hlegacy, hload, -⟩ :=
    session_blobs_migrate base64Codec_writesText (rfl : base64Codec.toVec sessionA = .ok jsonA)
  exact ⟨hlegacy [] ['\n'] blank_nil blank_newline,
    (hload legacyA _ [] ['\n'] blank_nil blank_newline rfl rfl rfl).1⟩

/-- **An old file that cannot be written stays as it was.** -/
theorem legacy_file_kept :
    legacyA.file = some (base64Codec.legacyBlob [] ['\n'] jsonA) ∧
      legacyA.loadSession readOnlyFile = (.ok (some sessionA), legacyA) ∧
      ¬ SecureStorage.Sealed base64Codec sessionA legacyA := by
  have hjson : base64Codec.toVec sessionA = .ok jsonA := rfl
  have hblob := SessionCodec.decodeBlob_legacyBlob base64Codec_writesText hjson
    blank_nil blank_newline
  refine ⟨rfl, ?_, ?_⟩
  · exact SecureStorage.loadSession_legacy base64Codec_writesText hjson blank_nil blank_newline
      rfl rfl rfl
  · rintro ⟨blob, hfile, -, hsealed⟩
    obtain rfl := Option.some.inj hfile
    rw [hblob] at hsealed
    cases hsealed

end SwiftTunnel
