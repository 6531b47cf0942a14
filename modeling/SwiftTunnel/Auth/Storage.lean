/-
# `SecureStorage`: two copies of a session

`auth/storage.rs`.  A session is kept in a file and, as a second copy, in the keyring of the
operating system.  `store_session` fails when the file cannot be written and goes on when the
keyring cannot; `load_session` reads the keyring when the file gives no session, and copies what
it finds there to both.  So the second copy can be older than the first, and comes back when the
first is lost.

What the file system, the keyring and the random generator do is an argument of each call.  A write
of the file that fails leaves it as it was, or damaged.  The packages are one parameter,
`SessionCodec`: the JSON of a session, AES-256-GCM under the key of this machine and user, and
base64, with what they are documented to do.

A run is any order of stores, loads, deletions and damage to the file.  Two things are told by the
log of a run alone: the session of the last store that returned `Ok` (`latestStored`), and the one
that the last such store with a working keyring put there (`keyringWritten`), until a deletion.

* `keyringHolds_run`: nothing but `keyringWritten` can be read from the keyring after a run.  Loads
  that fall back write the keyring too, and leave what was there.
* `fileHolds_run`: the file holds `latestStored` or no session, while the keyring is in step.
* `loads_latest_iff`: every session loaded is the one stored last, exactly when the keyring is in
  step (`InStep`) at every load that cannot use the file.
* `inStep_of_keyringKept`: so it is while the keyring takes every session, whatever else fails.
* `older_session_loaded`: a load that goes back to an older session, of another user.

Nothing is said here of blobs in the formats of old versions (`Migration`), nor of the sessions
that a restart resumes (`Restart`).
-/
import SwiftTunnel.Lib.Base64
import SwiftTunnel.Lib.Run
import SwiftTunnel.Lib.Slice
import SwiftTunnel.Lib.Text
import SwiftTunnel.Lib.Delimiters

namespace SwiftTunnel

open Rust

/-! ## 1. Sessions and their blobs -/

structure UserInfo where
  id : String
  email : String
  isTester : Bool
  isBanned : Bool
  bannedReason : Option String
  bannedAt : Option String
  deriving DecidableEq, Repr

structure AuthSession where
  accessToken : String
  refreshToken : String
  /-- Nanoseconds from the Unix epoch. -/
  expiresAt : Int
  user : UserInfo
  deriving DecidableEq, Repr

/-- `NONCE_LEN` of `ring`. -/
def nonceLen : Nat := 12

def aeadTagLen : Nat := 16

def sessionVersionTag : UInt8 := 0x03

def legacyObfuscationKey : Bytes := "SwiftTunnel2024AuthStorage".toUTF8.toList

abbrev Nonce := { nonce : Bytes // nonce.length = nonceLen }

/-- The packages that turn a session into text and back. -/
structure SessionCodec where
  /-- `serde_json::to_vec`. -/
  toVec : AuthSession → Except String Bytes
  /-- `serde_json::from_slice`. -/
  fromSlice : Bytes → Option AuthSession
  /-- `seal_in_place_append_tag` under the key of this machine and user. -/
  sealInPlace : Nonce → Bytes → Bytes
  /-- `open_in_place` under that key. -/
  openInPlace : Nonce → Bytes → Option Bytes
  base64Encode : Bytes → String
  base64Decode : String → Option Bytes
  fromSlice_toVec : ∀ session json, toVec session = .ok json → fromSlice json = some session
  seal_length : ∀ nonce plaintext,
    (sealInPlace nonce plaintext).length = plaintext.length + aeadTagLen
  open_seal : ∀ nonce plaintext, openInPlace nonce (sealInPlace nonce plaintext) = some plaintext
  decode_encode : ∀ blob,
    base64Decode (String.ofList (trim (base64Encode blob).toList)) = some blob

inductive DecodedBlob where
  | session (session : AuthSession) (rewrite : Bool)
  | corrupt
  deriving DecidableEq, Repr

/-- `stored.as_bytes()`. -/
def utf8Bytes (s : String) : Bytes := s.toUTF8.toList

/-- `std::str::from_utf8`. -/
def fromUtf8 (raw : Bytes) : Option String := String.fromUTF8? raw.toByteArray

namespace SessionCodec

variable (c : SessionCodec)

/-- `seal_blob`; no nonce is given when the random generator fails. -/
def sealBlob (nonce : Option Nonce) (plaintext : Bytes) : Except String Bytes :=
  match nonce with
  | none => .error "Failed to generate nonce"
  | some nonce => .ok (sessionVersionTag :: (nonce.val ++ c.sealInPlace nonce plaintext))

/-- `open_blob`; its errors are only logged. -/
def openBlob (blob : Bytes) : Option Bytes :=
  if blob.length < 1 + nonceLen + aeadTagLen then none
  else if blob.head? ≠ some sessionVersionTag then none
  else if h : ((blob.drop 1).take nonceLen).length = nonceLen then
    c.openInPlace ⟨(blob.drop 1).take nonceLen, h⟩ (blob.drop (1 + nonceLen))
  else none

/-- `decrypt_legacy_v1`. -/
def decryptLegacyV1 (raw : Bytes) : Option Bytes := do
  let text ← fromUtf8 raw
  let obfuscated ← c.base64Decode (String.ofList (trim text.toList))
  some (obfuscated.mapIdx fun i b =>
    b ^^^ legacyObfuscationKey.getD (i % legacyObfuscationKey.length) 0)

def encodeSession (nonce : Option Nonce) (session : AuthSession) : Except String Bytes :=
  match c.toVec session with
  | .error e => .error ("Failed to serialize session: " ++ e)
  | .ok json => c.sealBlob nonce json

def decodeBlob (raw : Bytes) : DecodedBlob :=
  if raw = [] then .corrupt
  else if raw.head? = some sessionVersionTag then
    match c.openBlob raw with
    | some json => match c.fromSlice json with
      | some session => .session session false
      | none => .corrupt
    | none => .corrupt
  else match c.decryptLegacyV1 raw with
    | none => .corrupt
    | some json => match c.fromSlice json with
      | some session => .session session true
      | none => .corrupt

/-- The session in a keyring entry: a blob in base64, or the JSON of an old version. -/
def decodeEntry (stored : String) : Option AuthSession :=
  match (c.base64Decode (String.ofList (trim stored.toList))).map c.decodeBlob with
  | some (.session session _) => some session
  | _ => c.fromSlice (utf8Bytes stored)

/-- **A sealed session is read back**, and needs no rewrite. -/
theorem decodeBlob_encode {nonce : Option Nonce} {session : AuthSession} {blob : Bytes}
    (h : c.encodeSession nonce session = .ok blob) :
    c.decodeBlob blob = .session session false := by
  rw [encodeSession] at h
  split at h
  · exact nomatch h
  · rename_i json hjson
    cases nonce with
    | none => exact nomatch h
    | some nonce =>
      obtain rfl := Except.ok.inj h
      have htake : (nonce.val ++ c.sealInPlace nonce json).take nonceLen = nonce.val :=
        List.take_left' nonce.property
      have hdrop : (nonce.val ++ c.sealInPlace nonce json).drop nonceLen =
          c.sealInPlace nonce json := List.drop_left' nonce.property
      have hlen : ¬ (sessionVersionTag :: (nonce.val ++ c.sealInPlace nonce json)).length <
          1 + nonceLen + aeadTagLen := by
        have hn := nonce.property
        simp only [List.length_cons, List.length_append, c.seal_length]
        omega
      have hopen : c.openBlob (sessionVersionTag :: (nonce.val ++ c.sealInPlace nonce json)) =
          some json := by
        rw [openBlob, if_neg hlen]
        simp [htake, hdrop, nonce.property, Nat.add_comm 1 nonceLen, c.open_seal]
      simp [decodeBlob, hopen, c.fromSlice_toVec session json hjson]

theorem decodeEntry_encode {nonce : Option Nonce} {session : AuthSession} {blob : Bytes}
    (h : c.encodeSession nonce session = .ok blob) :
    c.decodeEntry (c.base64Encode blob) = some session := by
  simp [decodeEntry, c.decode_encode, c.decodeBlob_encode h]

end SessionCodec

/-! ## 2. The two copies -/

/-- A blob in which no session is found. -/
abbrev CorruptBlob (c : SessionCodec) := { raw : Bytes // c.decodeBlob raw = .corrupt }

/-- What the outside answers during one call.  A call writes each copy at most once, and a write that
fails half way leaves a damaged file. -/
structure StorageIo (c : SessionCodec) where
  /-- `path.exists()` sees a file that is there. -/
  stat : Bool
  read : Bool
  remove : Bool
  fileNonce : Option Nonce
  write : FileWrite (CorruptBlob c)
  get : Bool
  keyringNonce : Option Nonce
  set : Bool
  delete : Bool

/-- The session file, the keyring's entry, and whether there is a keyring (`keyring_entry`). -/
structure SecureStorage where
  file : Option Bytes
  keyring : Option String
  keyringEntry : Bool
  deriving DecidableEq, Repr

namespace SecureStorage

variable {c : SessionCodec}

def storeToFile (st : SecureStorage) (io : StorageIo c) (session : AuthSession) :
    Except String Unit × SecureStorage :=
  match c.encodeSession io.fileNonce session with
  | .error e => (.error e, st)
  | .ok blob => match io.write with
    | .written => (.ok (), { st with file := some blob })
    | .failed e => (.error ("Failed to write session file: " ++ e), st)
    | .torn e left =>
      (.error ("Failed to write session file: " ++ e), { st with file := some left.val })

def loadFromFile (st : SecureStorage) (io : StorageIo c) :
    Except String (Option AuthSession) × SecureStorage :=
  match st.file with
  | none => (.ok none, st)
  | some raw =>
    if !io.stat then (.ok none, st)
    else if !io.read then (.ok none, st)
    else match c.decodeBlob raw with
      | .session session rewrite =>
        (.ok (some session), if rewrite then (st.storeToFile io session).2 else st)
      | .corrupt => (.ok none, if io.remove then { st with file := none } else st)

def clearFromFile (st : SecureStorage) (io : StorageIo c) (error : String) :
    Except String Unit × SecureStorage :=
  if st.file.isSome && io.stat then
    if io.remove then (.ok (), { st with file := none })
    else (.error ("Failed to delete session file: " ++ error), st)
  else (.ok (), st)

def storeToKeyring (st : SecureStorage) (io : StorageIo c) (session : AuthSession) :
    Except String Unit × SecureStorage :=
  if !st.keyringEntry then (.ok (), st)
  else match c.encodeSession io.keyringNonce session with
    | .error e => (.error e, st)
    | .ok blob =>
      (.ok (), if io.set then { st with keyring := some (c.base64Encode blob) } else st)

def loadFromKeyring (st : SecureStorage) (io : StorageIo c) : Except String (Option AuthSession) :=
  if !st.keyringEntry then .ok none
  else match st.keyring with
    | none => .ok none
    | some stored => if io.get then .ok (c.decodeEntry stored) else .ok none

def clearFromKeyring (st : SecureStorage) (io : StorageIo c) : Except String Unit × SecureStorage :=
  if st.keyringEntry && io.delete then (.ok (), { st with keyring := none }) else (.ok (), st)

def storeSession (st : SecureStorage) (io : StorageIo c) (session : AuthSession) :
    Except String Unit × SecureStorage :=
  match st.storeToFile io session with
  | (.error e, st) => (.error e, st)
  | (.ok (), st) => (.ok (), (st.storeToKeyring io session).2)

def loadSession (st : SecureStorage) (io : StorageIo c) :
    Except String (Option AuthSession) × SecureStorage :=
  match st.loadFromFile io with
  | (.error e, st) => (.error e, st)
  | (.ok (some session), st) => (.ok (some session), st)
  | (.ok none, st) => match st.loadFromKeyring io with
    | .error e => (.error e, st)
    | .ok (some session) =>
      (.ok (some session), (((st.storeToFile io session).2).storeToKeyring io session).2)
    | .ok none => (.ok none, st)

/-- The errors of both halves are only logged. -/
def clearSession (st : SecureStorage) (io : StorageIo c) (error : String) :
    Except String Unit × SecureStorage :=
  (.ok (), ((st.clearFromFile io error).2.clearFromKeyring io).2)

end SecureStorage

/-- The session file can be written: there is JSON for the session and a nonce, and the write
goes through. -/
def StorageIo.CanStore {c : SessionCodec} (io : StorageIo c) (session : AuthSession) : Prop :=
  (∃ json, c.toVec session = .ok json) ∧ io.fileNonce.isSome = true ∧ io.write = .written

theorem SecureStorage.storeToFile_ok_iff {c : SessionCodec} (st : SecureStorage) (io : StorageIo c)
    (session : AuthSession) : (st.storeToFile io session).1 = .ok () ↔ io.CanStore session := by
  rw [StorageIo.CanStore, storeToFile, SessionCodec.encodeSession]
  cases c.toVec session with
  | error e => simp
  | ok json =>
    cases io.fileNonce with
    | none => simp [SessionCodec.sealBlob]
    | some nonce => cases io.write <;> simp [SessionCodec.sealBlob]

/-- **A store succeeds exactly when the file can be written.** -/
theorem SecureStorage.storeSession_ok_iff {c : SessionCodec} (st : SecureStorage)
    (io : StorageIo c) (session : AuthSession) :
    (st.storeSession io session).1 = .ok () ↔ io.CanStore session := by
  rw [← st.storeToFile_ok_iff, storeSession]
  generalize st.storeToFile io session = p
  obtain ⟨result, st'⟩ := p
  cases result <;> simp

theorem SecureStorage.clearFromFile_eq {c : SessionCodec} (st : SecureStorage) (io : StorageIo c)
    (error : String) :
    (st.clearFromFile io error).2 =
      { st with file := if io.stat && io.remove then none else st.file } := by
  obtain ⟨file, keyring, keyringEntry⟩ := st
  rw [clearFromFile]
  cases file with
  | none => simp
  | some raw =>
    cases io.stat with
    | false => simp
    | true => cases io.remove <;> simp

/-- **What `clear_session` leaves**, and it never fails. -/
theorem SecureStorage.clearSession_eq {c : SessionCodec} (st : SecureStorage) (io : StorageIo c)
    (error : String) :
    st.clearSession io error =
      (.ok (),
        { st with
          file := if io.stat && io.remove then none else st.file
          keyring := if st.keyringEntry && io.delete then none else st.keyring }) := by
  rw [clearSession, clearFromFile_eq, clearFromKeyring]
  dsimp only
  split <;> rfl

/-! ## 3. Runs -/

inductive StorageInput (c : SessionCodec) where
  | store (io : StorageIo c) (session : AuthSession)
  | load (io : StorageIo c)
  | clear (io : StorageIo c) (error : String)
  /-- The session file is damaged. -/
  | damage (left : CorruptBlob c)

inductive StorageOutput where
  | stored (result : Except String Unit)
  | loaded (result : Except String (Option AuthSession))
  | cleared (result : Except String Unit)
  | damaged

section Runs

variable {c : SessionCodec}

def storageNext (st : SecureStorage) : StorageInput c → StorageOutput × SecureStorage
  | .store io session => ((st.storeSession io session).map .stored id)
  | .load io => ((st.loadSession io).map .loaded id)
  | .clear io error => ((st.clearSession io error).map .cleared id)
  | .damage left => (.damaged, { st with file := st.file.map fun _ => left.val })

def StorageStep (st : SecureStorage) (i : StorageInput c) (o : StorageOutput)
    (st' : SecureStorage) : Prop := storageNext st i = (o, st')

/-- What the outside answers decides what a step does. -/
theorem storageStep_deterministic (st : SecureStorage) (i : StorageInput c) (o o' : StorageOutput)
    (st' st'' : SecureStorage) (h : StorageStep st i o st') (h' : StorageStep st i o' st'') :
    o = o' ∧ st' = st'' :=
  Prod.mk.inj (Eq.trans (Eq.symm h) h')

/-- What the calls of a run did, in order. -/
abbrev StorageLog (c : SessionCodec) := List (StorageInput c × StorageOutput)

/-- The session stored last with success. -/
def latestAfter (latest : Option AuthSession) : StorageInput c × StorageOutput → Option AuthSession
  | (.store _ session, .stored (.ok ())) => some session
  | _ => latest

def latestStored (es : StorageLog c) : Option AuthSession := es.foldl latestAfter none

/-- The session that the keyring was given last, as far as a call tells: a store that returned `Ok` and
whose `set_password` took it.  A deletion takes it back. -/
def keyringAfter (written : Option AuthSession) : StorageInput c × StorageOutput → Option AuthSession
  | (.store io session, .stored (.ok ())) =>
    if io.keyringNonce.isSome && io.set then some session else written
  | (.clear io _, _) => if io.delete then none else written
  | _ => written

def keyringWritten (es : StorageLog c) : Option AuthSession := es.foldl keyringAfter none

@[simp] theorem keyringWritten_concat (es : StorageLog c) (x : StorageInput c × StorageOutput) :
    keyringWritten (es ++ [x]) = keyringAfter (keyringWritten es) x := by
  simp [keyringWritten]

@[simp] theorem latestStored_concat (es : StorageLog c) (x : StorageInput c × StorageOutput) :
    latestStored (es ++ [x]) = latestAfter (latestStored es) x := by
  simp [latestStored]

end Runs

/-! ## 4. What a load finds -/

def DecodedBlob.session? : DecodedBlob → Option AuthSession
  | .session s _ => some s
  | .corrupt => none

namespace SecureStorage

variable {c : SessionCodec}

/-- The session that can be read from the file. -/
def fileSession (st : SecureStorage) (io : StorageIo c) : Option AuthSession :=
  if io.stat && io.read then st.file.bind fun raw => (c.decodeBlob raw).session? else none

/-- The session that can be read from the keyring. -/
def keyringSession (st : SecureStorage) (io : StorageIo c) : Option AuthSession :=
  if st.keyringEntry && io.get then st.keyring.bind c.decodeEntry else none

/-- Nobody else's session is in the file. -/
def FileHolds (c : SessionCodec) (latest : Option AuthSession) (st : SecureStorage) : Prop :=
  ∀ raw session, st.file = some raw → (c.decodeBlob raw).session? = some session →
    latest = some session

theorem fileHolds_of_file {latest : Option AuthSession} {st st' : SecureStorage}
    (h : FileHolds c latest st) (hfile : st'.file = st.file) : FileHolds c latest st' := by
  intro raw session hraw
  rw [hfile] at hraw
  exact h raw session hraw

theorem fileHolds_corrupt (latest : Option AuthSession) {st : SecureStorage} {left : CorruptBlob c}
    (hfile : st.file = some left.val) : FileHolds c latest st := by
  intro raw session hraw hsession
  obtain rfl := Option.some.inj (hfile.symm.trans hraw)
  rw [left.property] at hsession
  exact nomatch hsession

theorem fileHolds_none (latest : Option AuthSession) {st : SecureStorage} (hfile : st.file = none) :
    FileHolds c latest st := by
  intro raw session hraw
  rw [hfile] at hraw
  exact nomatch hraw

/-- **What a write leaves in the file**: the session when it succeeds, and otherwise nothing that
was not there. -/
theorem storeToFile_holds {latest : Option AuthSession} {st : SecureStorage} (io : StorageIo c)
    (session : AuthSession) (h : FileHolds c latest st) :
    FileHolds c (match (st.storeToFile io session).1 with
      | .ok () => some session
      | .error _ => latest) (st.storeToFile io session).2 := by
  rw [storeToFile]
  cases hblob : c.encodeSession io.fileNonce session with
  | error e => exact h
  | ok blob =>
    cases io.write with
    | written =>
      intro raw session' hraw hsession
      obtain rfl := Option.some.inj hraw
      rwa [c.decodeBlob_encode hblob] at hsession
    | failed e => exact h
    | torn e left => exact fileHolds_corrupt latest rfl

/-- A write of the session that is the latest. -/
theorem storeToFile_holds_latest {session : AuthSession} {st : SecureStorage} (io : StorageIo c)
    (h : FileHolds c (some session) st) :
    FileHolds c (some session) (st.storeToFile io session).2 := by
  have hholds := storeToFile_holds io session h
  split at hholds <;> exact hholds

@[simp] theorem storeToFile_keyring (st : SecureStorage) (io : StorageIo c) (session : AuthSession) :
    (st.storeToFile io session).2.keyring = st.keyring ∧
      (st.storeToFile io session).2.keyringEntry = st.keyringEntry := by
  rw [storeToFile]
  split
  · exact ⟨rfl, rfl⟩
  · split <;> exact ⟨rfl, rfl⟩

@[simp] theorem storeToKeyring_file (st : SecureStorage) (io : StorageIo c)
    (session : AuthSession) : (st.storeToKeyring io session).2.file = st.file := by
  rw [storeToKeyring]
  split
  · rfl
  · split
    · rfl
    · simp only
      split <;> rfl

/-- **What `load_from_file` does**: it finds no session, and leaves the file or deletes a corrupt
one; or it finds one, and seals an old file again. -/
theorem loadFromFile_cases (st : SecureStorage) (io : StorageIo c) :
    (st.fileSession io = none ∧ st.loadFromFile io = (.ok none, st)) ∨
    (∃ raw, st.file = some raw ∧ c.decodeBlob raw = .corrupt ∧
      st.loadFromFile io = (.ok none, { st with file := none })) ∨
    ∃ raw session rewrite, st.file = some raw ∧ c.decodeBlob raw = .session session rewrite ∧
      st.fileSession io = some session ∧
      st.loadFromFile io =
        (.ok (some session), if rewrite then (st.storeToFile io session).2 else st) := by
  rw [loadFromFile, fileSession]
  cases st.file with
  | none => simp
  | some raw =>
    cases io.stat with
    | false => simp
    | true =>
      cases io.read with
      | false => simp
      | true =>
        cases hraw : c.decodeBlob raw with
        | session session rewrite =>
          refine Or.inr (Or.inr ⟨raw, session, rewrite, rfl, hraw, ?_, ?_⟩)
          · simp [hraw, DecodedBlob.session?]
          · simp [hraw]
        | corrupt => cases io.remove <;> simp [hraw, DecodedBlob.session?]

theorem fileSession_corrupt {st : SecureStorage} {raw : Bytes} (hfile : st.file = some raw)
    (hraw : c.decodeBlob raw = .corrupt) (io : StorageIo c) : st.fileSession io = none := by
  simp [fileSession, hfile, hraw, DecodedBlob.session?]

/-- **`load_from_file` never fails**, and leaves the keyring alone. -/
theorem loadFromFile_spec (st : SecureStorage) (io : StorageIo c) :
    (st.loadFromFile io).1 = .ok (st.fileSession io) ∧
      (st.loadFromFile io).2.keyring = st.keyring ∧
        (st.loadFromFile io).2.keyringEntry = st.keyringEntry := by
  rcases st.loadFromFile_cases io with ⟨hnone, hload⟩ | ⟨raw, hfile, hraw, hload⟩ |
    ⟨raw, session, rewrite, -, -, hsession, hload⟩
  · rw [hload, hnone]
    exact ⟨rfl, rfl, rfl⟩
  · rw [hload, fileSession_corrupt hfile hraw]
    exact ⟨rfl, rfl, rfl⟩
  · rw [hload, hsession]
    cases rewrite with
    | false => exact ⟨rfl, rfl, rfl⟩
    | true => exact ⟨rfl, storeToFile_keyring st io session⟩

theorem loadFromFile_holds {latest : Option AuthSession} {st : SecureStorage} (io : StorageIo c)
    (h : FileHolds c latest st) : FileHolds c latest (st.loadFromFile io).2 := by
  rcases st.loadFromFile_cases io with ⟨-, hload⟩ | ⟨raw, -, -, hload⟩ |
    ⟨raw, session, rewrite, hfile, hraw, -, hload⟩
  · rwa [hload]
  · rw [hload]
    exact fileHolds_none latest rfl
  · rw [hload]
    cases rewrite with
    | false => exact h
    | true =>
      -- a file of the old format is sealed again, with its own session
      obtain rfl : latest = some session := h raw session hfile (by rw [hraw]; rfl)
      exact storeToFile_holds_latest io h

theorem loadFromKeyring_spec (st : SecureStorage) (io : StorageIo c) :
    st.loadFromKeyring io = .ok (st.keyringSession io) := by
  rw [loadFromKeyring, keyringSession]
  cases st.keyringEntry with
  | false => simp
  | true =>
    cases st.keyring with
    | none => simp
    | some stored => cases io.get <;> simp

theorem keyringSession_congr {st st' : SecureStorage} (hkeyring : st'.keyring = st.keyring)
    (hentry : st'.keyringEntry = st.keyringEntry) (io : StorageIo c) :
    st'.keyringSession io = st.keyringSession io := by
  rw [keyringSession, hkeyring, hentry, keyringSession]

/-- **What a load does**: it gives the session of the file; or finds none in either place; or gives
that of the keyring, and writes it back to both. -/
theorem loadSession_cases (st : SecureStorage) (io : StorageIo c) :
    (∃ session, st.fileSession io = some session ∧
      st.loadSession io = (.ok (some session), (st.loadFromFile io).2)) ∨
    (st.fileSession io = none ∧ st.keyringSession io = none ∧
      st.loadSession io = (.ok none, (st.loadFromFile io).2)) ∨
    ∃ session, st.fileSession io = none ∧ st.keyringSession io = some session ∧
      st.loadSession io = (.ok (some session),
        (((st.loadFromFile io).2.storeToFile io session).2.storeToKeyring io session).2) := by
  obtain ⟨hresult, hkeyring, hentry⟩ := st.loadFromFile_spec io
  rw [loadSession]
  generalize st.loadFromFile io = p at hresult hkeyring hentry ⊢
  obtain ⟨result, st'⟩ := p
  simp only at hresult hkeyring hentry
  subst hresult
  cases st.fileSession io with
  | some session => exact Or.inl ⟨session, rfl, rfl⟩
  | none =>
    dsimp only
    rw [loadFromKeyring_spec, keyringSession_congr hkeyring hentry]
    cases st.keyringSession io with
    | none => exact Or.inr (Or.inl ⟨rfl, rfl, rfl⟩)
    | some session => exact Or.inr (Or.inr ⟨session, rfl, rfl, rfl⟩)

/-- **What a load returns**: the session of the file, or else that of the keyring. -/
theorem loadSession_result (st : SecureStorage) (io : StorageIo c) :
    (st.loadSession io).1 = .ok ((st.fileSession io).or (st.keyringSession io)) := by
  rcases st.loadSession_cases io with ⟨session, hfile, hload⟩ | ⟨hfile, hkeyring, hload⟩ |
    ⟨session, hfile, hkeyring, hload⟩
  · rw [hload, hfile, Option.some_or]
  · rw [hload, hfile, hkeyring, Option.or_none]
  · rw [hload, hfile, hkeyring, Option.none_or]

/-- A load keeps other sessions out of the file, when the keyring's is the latest. -/
theorem loadSession_holds {latest : Option AuthSession} {st : SecureStorage} {io : StorageIo c}
    (h : FileHolds c latest st)
    (hback : st.fileSession io = none → ∀ session, st.keyringSession io = some session →
      latest = some session) : FileHolds c latest (st.loadSession io).2 := by
  have hread := loadFromFile_holds io h
  rcases st.loadSession_cases io with ⟨session, -, hload⟩ | ⟨-, -, hload⟩ |
    ⟨session, hfile, hkeyring, hload⟩
  · rw [hload]
    exact hread
  · rw [hload]
    exact hread
  · obtain rfl : latest = some session := hback hfile session hkeyring
    rw [hload]
    exact fileHolds_of_file (storeToFile_holds_latest io hread) (storeToKeyring_file _ io session)

theorem storeSession_holds {latest : Option AuthSession} {st : SecureStorage} (io : StorageIo c)
    (session : AuthSession) (h : FileHolds c latest st) :
    FileHolds c (match (st.storeSession io session).1 with
      | .ok () => some session
      | .error _ => latest) (st.storeSession io session).2 := by
  have hfile := storeToFile_holds io session h
  rw [storeSession]
  generalize st.storeToFile io session = p at hfile ⊢
  obtain ⟨result, st'⟩ := p
  cases result with
  | error e => exact hfile
  | ok _ => exact fileHolds_of_file hfile (storeToKeyring_file _ io session)

theorem clearSession_holds {latest : Option AuthSession} {st : SecureStorage} (io : StorageIo c)
    (error : String) (h : FileHolds c latest st) :
    FileHolds c latest (st.clearSession io error).2 := by
  rw [clearSession_eq]
  by_cases hgone : io.stat && io.remove
  · exact fileHolds_none latest (if_pos hgone)
  · exact fileHolds_of_file h (if_neg hgone)

end SecureStorage

/-! ## 5. Which session is loaded -/

section Loads

variable {c : SessionCodec}

/-- A storage in which nothing has been stored. -/
def SecureStorage.empty (keyringEntry : Bool) : SecureStorage := ⟨none, none, keyringEntry⟩

/-- Every session loaded is the one stored last. -/
def LoadsLatest (es : StorageLog c) : Prop :=
  ∀ es₁ io session, es₁ ++ [(.load io, .loaded (.ok (some session)))] <+: es →
    latestStored es₁ = some session

/-- **The second copy is in step**: whenever a load gets no session from the file and can read the
keyring, the last store that wrote the keyring stored the session of the last store that returned
`Ok`; or none has written it since its entry was deleted. -/
def InStep (keyringEntry : Bool) (es : StorageLog c) : Prop :=
  ∀ es₁ io o st₁, es₁ ++ [(.load io, o)] <+: es →
    Run StorageStep (SecureStorage.empty keyringEntry) es₁ st₁ → st₁.fileSession io = none →
      keyringEntry = true → io.get = true →
        keyringWritten es₁ = none ∨ keyringWritten es₁ = latestStored es₁

/-! ### What the keyring holds -/

/-- Nothing but the session that it was given last can be read from the keyring. -/
def KeyringHolds (c : SessionCodec) (keyringEntry : Bool) (written : Option AuthSession)
    (st : SecureStorage) : Prop :=
  st.keyringEntry = keyringEntry ∧ (keyringEntry = true → st.keyring.bind c.decodeEntry = written)

theorem KeyringHolds.keyringSession {keyringEntry : Bool} {written : Option AuthSession}
    {st : SecureStorage} (h : KeyringHolds c keyringEntry written st) (io : StorageIo c) :
    st.keyringSession io = if keyringEntry && io.get then written else none := by
  rw [SecureStorage.keyringSession, h.1]
  cases hentry : keyringEntry with
  | false => rfl
  | true =>
    cases io.get with
    | false => rfl
    | true => exact h.2 hentry

theorem KeyringHolds.congr {keyringEntry : Bool} {written : Option AuthSession}
    {st st' : SecureStorage} (h : KeyringHolds c keyringEntry written st)
    (hkeyring : st'.keyring = st.keyring) (hentry : st'.keyringEntry = st.keyringEntry) :
    KeyringHolds c keyringEntry written st' := by
  refine ⟨hentry.trans h.1, fun he => ?_⟩
  rw [hkeyring]
  exact h.2 he

/-- There is JSON for the session, as there is once it has been stored in the file. -/
theorem storeToKeyring_holds {keyringEntry : Bool} {written : Option AuthSession}
    {session : AuthSession} {json : Bytes} (hjson : c.toVec session = .ok json) {st : SecureStorage}
    (io : StorageIo c) (h : KeyringHolds c keyringEntry written st) :
    KeyringHolds c keyringEntry (if io.keyringNonce.isSome && io.set then some session else written)
      (st.storeToKeyring io session).2 := by
  rw [SecureStorage.storeToKeyring, h.1]
  cases hentry : keyringEntry with
  | false => exact ⟨h.1.trans hentry, nofun⟩
  | true =>
    obtain ⟨hsome, hread⟩ := h
    cases io.keyringNonce with
    | none =>
      rw [SessionCodec.encodeSession, hjson]
      exact ⟨hsome.trans hentry, fun _ => hread hentry⟩
    | some nonce =>
      have hblob : c.encodeSession (some nonce) session =
          .ok (sessionVersionTag :: (nonce.val ++ c.sealInPlace nonce json)) := by
        rw [SessionCodec.encodeSession, hjson]
        rfl
      rw [hblob]
      cases io.set with
      | false => exact ⟨hsome.trans hentry, fun _ => hread hentry⟩
      | true => exact ⟨rfl, fun _ => c.decodeEntry_encode hblob⟩

/-- A session that the keyring gives is copied back to where it was. -/
theorem storeToKeyring_back {keyringEntry : Bool} {session : AuthSession} {st : SecureStorage}
    (io : StorageIo c) (h : KeyringHolds c keyringEntry (some session) st) :
    KeyringHolds c keyringEntry (some session) (st.storeToKeyring io session).2 := by
  cases hjson : c.toVec session with
  | ok json =>
    have hholds := storeToKeyring_holds hjson io h
    split at hholds <;> exact hholds
  | error e =>
    rw [SecureStorage.storeToKeyring]
    split
    · exact h
    · rw [SessionCodec.encodeSession, hjson]
      exact h

theorem storeSession_keyring {keyringEntry : Bool} {written : Option AuthSession}
    {st : SecureStorage} (io : StorageIo c) (session : AuthSession)
    (h : KeyringHolds c keyringEntry written st) :
    KeyringHolds c keyringEntry
      (keyringAfter written (.store io session, .stored (st.storeSession io session).1))
      (st.storeSession io session).2 := by
  have hok := st.storeToFile_ok_iff io session
  obtain ⟨hkeyring, hentry⟩ := st.storeToFile_keyring io session
  rw [SecureStorage.storeSession]
  generalize st.storeToFile io session = p at hok hkeyring hentry ⊢
  obtain ⟨result, st'⟩ := p
  have h' : KeyringHolds c keyringEntry written st' := h.congr hkeyring hentry
  cases result with
  | error e => exact h'
  | ok _ =>
    obtain ⟨⟨json, hjson⟩, -⟩ := hok.mp rfl
    exact storeToKeyring_holds hjson io h'

theorem loadSession_keyring {keyringEntry : Bool} {written : Option AuthSession}
    {st : SecureStorage} (io : StorageIo c) (h : KeyringHolds c keyringEntry written st) :
    KeyringHolds c keyringEntry written (st.loadSession io).2 := by
  obtain ⟨-, hkeyring, hentry⟩ := st.loadFromFile_spec io
  have hread : KeyringHolds c keyringEntry written (st.loadFromFile io).2 := h.congr hkeyring hentry
  rcases st.loadSession_cases io with ⟨session, -, hload⟩ | ⟨-, -, hload⟩ |
    ⟨session, -, hsession, hload⟩
  · rw [hload]
    exact hread
  · rw [hload]
    exact hread
  · -- the session that is copied back is the one that is there
    rw [h.keyringSession io] at hsession
    split at hsession
    · subst hsession
      obtain ⟨hkeyring', hentry'⟩ := (st.loadFromFile io).2.storeToFile_keyring io session
      rw [hload]
      exact storeToKeyring_back io (hread.congr hkeyring' hentry')
    · cases hsession

theorem keyringHolds_step {keyringEntry : Bool} {st st' : SecureStorage} {i : StorageInput c}
    {o : StorageOutput} {written : Option AuthSession} (hstep : StorageStep st i o st')
    (h : KeyringHolds c keyringEntry written st) :
    KeyringHolds c keyringEntry (keyringAfter written (i, o)) st' := by
  obtain ⟨rfl, rfl⟩ := Prod.mk.inj hstep
  cases i with
  | store io session => exact storeSession_keyring io session h
  | load io => exact loadSession_keyring io h
  | clear io error =>
    rw [keyringAfter]
    simp only [Prod.map_snd, id, SecureStorage.clearSession_eq]
    refine ⟨h.1, fun he => ?_⟩
    rw [h.1, he, Bool.true_and]
    cases io.delete with
    | true => rfl
    | false => exact h.2 he
  | damage left => exact h

/-- **What the keyring holds after a run** is told by which calls could write it. -/
theorem keyringHolds_run {keyringEntry : Bool} {es : StorageLog c} {st : SecureStorage}
    (hrun : Run StorageStep (SecureStorage.empty keyringEntry) es st) :
    KeyringHolds c keyringEntry (keyringWritten es) st := by
  refine Run.history (P := fun es st => KeyringHolds c keyringEntry (keyringWritten es) st)
    ⟨rfl, fun _ => rfl⟩ (fun es s i o s' _ h hstep => ?_) hrun
  rw [keyringWritten_concat]
  exact keyringHolds_step hstep h

/-! ### What the file holds -/

/-- A step keeps other sessions out of the file. -/
theorem fileHolds_step {st st' : SecureStorage} {i : StorageInput c} {o : StorageOutput}
    {latest : Option AuthSession} (hstep : StorageStep st i o st')
    (h : SecureStorage.FileHolds c latest st)
    (hback : ∀ io, i = .load io → st.fileSession io = none →
      ∀ session, st.keyringSession io = some session → latest = some session) :
    SecureStorage.FileHolds c (latestAfter latest (i, o)) st' := by
  obtain ⟨rfl, rfl⟩ := Prod.mk.inj hstep
  cases i with
  | store io session =>
    have hstore := SecureStorage.storeSession_holds io session h
    simp only [Prod.map_fst, Prod.map_snd, id]
    generalize st.storeSession io session = p at hstore ⊢
    obtain ⟨result, st'⟩ := p
    cases result <;> exact hstore
  | load io => exact SecureStorage.loadSession_holds h (hback io rfl)
  | clear io error => exact SecureStorage.clearSession_holds io error h
  | damage left =>
    cases hfile : st.file with
    | none => exact SecureStorage.fileHolds_none latest rfl
    | some raw => exact SecureStorage.fileHolds_corrupt latest rfl

theorem InStep.earlier {keyringEntry : Bool} {es fs : StorageLog c} (h : InStep keyringEntry fs)
    (hpre : es <+: fs) : InStep keyringEntry es :=
  fun es₁ io o st₁ hes => h es₁ io o st₁ (hes.trans hpre)

/-- A load that falls back finds the session stored last in the keyring. -/
theorem InStep.latest {keyringEntry : Bool} {es es₁ : StorageLog c} (h : InStep keyringEntry es)
    {io : StorageIo c} {o : StorageOutput} (hpre : es₁ ++ [(.load io, o)] <+: es)
    {st₁ : SecureStorage} (hrun : Run StorageStep (SecureStorage.empty keyringEntry) es₁ st₁)
    (hfile : st₁.fileSession io = none) {session : AuthSession}
    (hsession : st₁.keyringSession io = some session) : latestStored es₁ = some session := by
  rw [(keyringHolds_run hrun).keyringSession io] at hsession
  split at hsession
  · rename_i hread
    obtain ⟨hentry, hget⟩ := Bool.and_eq_true_iff.mp hread
    rcases h es₁ io o st₁ hpre hrun hfile hentry hget with hnone | hsame
    · cases hsession.symm.trans hnone
    · exact hsame.symm.trans hsession
  · cases hsession

/-- **The file holds the session stored last**, or none, while the keyring is in step. -/
theorem fileHolds_run {keyringEntry : Bool} {es : StorageLog c} {st : SecureStorage}
    (hrun : Run StorageStep (SecureStorage.empty keyringEntry) es st)
    (hstep : InStep keyringEntry es) : SecureStorage.FileHolds c (latestStored es) st := by
  refine Run.history (P := fun es st => InStep keyringEntry es →
    SecureStorage.FileHolds c (latestStored es) st) ?_ ?_ hrun hstep
  · exact fun _ => SecureStorage.fileHolds_none none rfl
  · intro es s i o s' hrun ih hstep hin
    rw [latestStored_concat]
    refine fileHolds_step hstep (ih (hin.earlier (List.prefix_append _ _))) ?_
    rintro io rfl hfile session hsession
    exact hin.latest List.prefix_rfl hrun hfile hsession

/-- **When no load goes back.**  Every session loaded in a run is the one stored last, exactly
when the keyring is in step at every load that has to do with it. -/
theorem loads_latest_iff {keyringEntry : Bool} {es : StorageLog c} {st : SecureStorage}
    (hrun : Run StorageStep (SecureStorage.empty keyringEntry) es st) :
    LoadsLatest es ↔ InStep keyringEntry es := by
  have hresult : ∀ {io o st₁ st₂}, StorageStep st₁ (.load io : StorageInput c) o st₂ →
      o = .loaded (.ok ((st₁.fileSession io).or (st₁.keyringSession io))) := by
    intro io o st₁ st₂ hstep
    rw [← SecureStorage.loadSession_result]
    exact (congrArg Prod.fst hstep).symm
  constructor
  · intro hlatest es₁ io o st₁ hpre hrun₁ hfile hentry hget
    cases hwritten : keyringWritten es₁ with
    | none => exact Or.inl rfl
    | some session =>
      have hkeyring : st₁.keyringSession io = some session := by
        rw [(keyringHolds_run hrun₁).keyringSession io, hentry, hget]
        exact hwritten
      obtain ⟨rest, rfl⟩ := hpre
      obtain ⟨st₂, hrun₂, -⟩ := run_append.mp hrun
      obtain ⟨st₁', hrun₁', hstep⟩ := run_concat_iff.mp hrun₂
      obtain rfl := (hrun₁.unique storageStep_deterministic hrun₁' rfl).2
      have ho := hresult hstep
      rw [hfile, hkeyring] at ho
      subst ho
      exact Or.inr (hlatest es₁ io session (List.prefix_append _ _)).symm
  · intro hin es₁ io session hpre
    obtain ⟨rest, rfl⟩ := hpre
    obtain ⟨st₂, hrun₂, -⟩ := run_append.mp hrun
    obtain ⟨st₁, hrun₁, hstep⟩ := run_concat_iff.mp hrun₂
    have hpre : es₁ ++ [(.load io, .loaded (.ok (some session)))] <+:
        es₁ ++ [(.load io, .loaded (.ok (some session)))] ++ rest := List.prefix_append _ _
    have hholds := fileHolds_run hrun₁ (hin.earlier ((List.prefix_append _ _).trans hpre))
    have ho := hresult hstep
    simp only [StorageOutput.loaded.injEq, Except.ok.injEq] at ho
    cases hfile : st₁.fileSession io with
    | none =>
      rw [hfile, Option.none_or] at ho
      exact hin.latest hpre hrun₁ hfile ho.symm
    | some found =>
      rw [hfile, Option.some_or] at ho
      obtain rfl := Option.some.inj ho
      rw [SecureStorage.fileSession] at hfile
      split at hfile
      · obtain ⟨raw, hraw, hsession⟩ := Option.bind_eq_some_iff.mp hfile
        exact hholds raw session hraw hsession
      · exact nomatch hfile

/-! ### While the keyring takes every session -/

/-- The keyring's half of a store works. -/
def KeyringKept : StorageInput c → Prop
  | .store io _ => io.set = true ∧ io.keyringNonce.isSome = true
  | _ => True

/-- **While the keyring takes every session, no load goes back**, whatever else fails. -/
theorem inStep_of_keyringKept {keyringEntry : Bool} {es : StorageLog c}
    (hkept : ∀ x ∈ es, KeyringKept x.1) : InStep keyringEntry es := by
  have hsame : ∀ es : StorageLog c, (∀ x ∈ es, KeyringKept x.1) →
      keyringWritten es = none ∨ keyringWritten es = latestStored es := by
    intro es
    induction es using List.reverseRecOn with
    | nil => exact fun _ => Or.inl rfl
    | append_singleton es x ih =>
      intro hkept
      have hbefore := ih fun y hy => hkept y (List.mem_append_left _ hy)
      have hx := hkept x (by simp)
      obtain ⟨i, o⟩ := x
      rw [keyringWritten_concat, latestStored_concat]
      cases i with
      | store io session =>
        obtain ⟨hset, hnonce⟩ : io.set = true ∧ io.keyringNonce.isSome = true := hx
        cases o with
        | stored result =>
          cases result with
          | error e => exact hbefore
          | ok _ =>
            rw [keyringAfter, hset, hnonce]
            exact Or.inr rfl
        | loaded _ => exact hbefore
        | cleared _ => exact hbefore
        | damaged => exact hbefore
      | load io => exact hbefore
      | clear io error =>
        rw [keyringAfter]
        split
        · exact Or.inl rfl
        · exact hbefore
      | damage left => exact hbefore
  intro es₁ io o st₁ hpre _ _ _ _
  exact hsame es₁ fun x hx => hkept x (hpre.subset (List.mem_append_left _ hx))

/-- All goes well, except what the arguments say. -/
def StorageIo.granted (nonce : Nonce) (read set : Bool) : StorageIo c where
  stat := true
  read := read
  remove := true
  fileNonce := some nonce
  write := .written
  get := true
  keyringNonce := some nonce
  set := set
  delete := true

/-- **The second copy is left behind.**  After a `store_session` that the keyring refused, a load
that cannot read the file returns the session before. -/
theorem keyring_left_behind {session₁ session₂ : AuthSession} {json₁ json₂ : Bytes}
    (h₁ : c.toVec session₁ = .ok json₁) (h₂ : c.toVec session₂ = .ok json₂) (nonce : Nonce) :
    ∃ (es : StorageLog c) (st : SecureStorage),
      Run StorageStep (SecureStorage.empty true)
          (es ++ [(.load (.granted nonce false true), .loaded (.ok (some session₁)))]) st ∧
        latestStored es = some session₂ := by
  obtain ⟨blob₁, hblob₁⟩ : ∃ blob, c.encodeSession (some nonce) session₁ = .ok blob :=
    ⟨_, by rw [SessionCodec.encodeSession, h₁]; rfl⟩
  obtain ⟨blob₂, hblob₂⟩ : ∃ blob, c.encodeSession (some nonce) session₂ = .ok blob :=
    ⟨_, by rw [SessionCodec.encodeSession, h₂]; rfl⟩
  have hstore₁ : StorageStep (SecureStorage.empty true)
      (.store (.granted nonce true true) session₁ : StorageInput c) (.stored (.ok ()))
      ⟨some blob₁, some (c.base64Encode blob₁), true⟩ := by
    simp [StorageStep, storageNext, SecureStorage.storeSession, SecureStorage.storeToFile,
      SecureStorage.storeToKeyring, SecureStorage.empty, StorageIo.granted, hblob₁]
  have hstore₂ : StorageStep ⟨some blob₁, some (c.base64Encode blob₁), true⟩
      (.store (.granted nonce true false) session₂ : StorageInput c) (.stored (.ok ()))
      ⟨some blob₂, some (c.base64Encode blob₁), true⟩ := by
    simp [StorageStep, storageNext, SecureStorage.storeSession, SecureStorage.storeToFile,
      SecureStorage.storeToKeyring, StorageIo.granted, hblob₂]
  have hload : storageNext ⟨some blob₂, some (c.base64Encode blob₁), true⟩
      (.load (.granted nonce false true) : StorageInput c) =
        (.loaded (.ok (some session₁)), ⟨some blob₁, some (c.base64Encode blob₁), true⟩) := by
    simp [storageNext, SecureStorage.loadSession, SecureStorage.loadFromFile,
      SecureStorage.loadFromKeyring, SecureStorage.storeToFile, SecureStorage.storeToKeyring,
      StorageIo.granted, hblob₁, c.decodeEntry_encode hblob₁]
  exact ⟨[(.store (.granted nonce true true) session₁, .stored (.ok ())),
    (.store (.granted nonce true false) session₂, .stored (.ok ()))], _,
    Run.cons hstore₁ (Run.cons hstore₂ (Run.cons hload (Run.nil _))), rfl⟩

end Loads

/-- Two users of one machine, and their sessions as JSON. -/
def sessionA : AuthSession :=
  ⟨"at-a", "rt-a", 1893456000000000000, ⟨"a", "a@example.com", false, false, none, none⟩⟩

def sessionB : AuthSession :=
  ⟨"at-b", "rt-b", 1893456000000000000, ⟨"b", "b@example.com", false, false, none, none⟩⟩

def jsonA : Bytes := utf8Bytes ("\x7b\"access_token\":\"at-a\",\"refresh_token\":\"rt-a\"," ++
  "\"expires_at\":\"2030-01-01T00:00:00Z\",\"user\":\x7b\"id\":\"a\"," ++
  "\"email\":\"a@example.com\",\"is_tester\":false,\"is_banned\":false," ++
  "\"banned_reason\":null,\"banned_at\":null\x7d\x7d")

def jsonB : Bytes := utf8Bytes ("\x7b\"access_token\":\"at-b\",\"refresh_token\":\"rt-b\"," ++
  "\"expires_at\":\"2030-01-01T00:00:00Z\",\"user\":\x7b\"id\":\"b\"," ++
  "\"email\":\"b@example.com\",\"is_tester\":false,\"is_banned\":false," ++
  "\"banned_reason\":null,\"banned_at\":null\x7d\x7d")

theorem trim_base64 (blob : Bytes) : trim (Base64.encode blob) = Base64.encode blob := by
  refine trim_of_printable fun ch hch => ?_
  have hgraphic := Base64.graphic_of_mem (Base64.mem_encode hch)
  simp only [isWhitespace, Bool.or_eq_false_iff, decide_eq_false_iff_not]
  omega

theorem length_sevens : (List.replicate 12 (7 : UInt8)).length = nonceLen := rfl

def sampleNonce : Nonce := ⟨List.replicate 12 7, length_sevens⟩

/-- The two sessions as the packages write them, sealed with an empty tag. -/
def sampleCodec : SessionCodec where
  toVec session :=
    if session = sessionA then .ok jsonA
    else if session = sessionB then .ok jsonB
    else .error "unknown session"
  fromSlice raw :=
    if raw = jsonA then some sessionA else if raw = jsonB then some sessionB else none
  sealInPlace _ plaintext := plaintext ++ List.replicate aeadTagLen 0
  openInPlace _ buf := some (buf.take (buf.length - aeadTagLen))
  base64Encode blob := String.ofList (Base64.encode blob)
  base64Decode text := Base64.decode text.toList
  fromSlice_toVec := by
    have hne : jsonB ≠ jsonA := by decide +kernel
    intro session json h
    split at h
    · obtain rfl := Except.ok.inj h
      rename_i hs
      rw [if_pos rfl, hs]
    · split at h
      · obtain rfl := Except.ok.inj h
        rename_i hs
        rw [if_neg hne, if_pos rfl, hs]
      · exact nomatch h
  seal_length := by simp
  open_seal := by simp
  decode_encode := by simp [trim_base64, Base64.decode_encode]

/-- **An older session, of another user, is loaded.** -/
theorem older_session_loaded :
    ∃ (es : StorageLog sampleCodec) (st : SecureStorage),
      Run StorageStep (SecureStorage.empty true) es st ∧ ¬ LoadsLatest es := by
  have hA : sampleCodec.toVec sessionA = .ok jsonA := rfl
  have hB : sampleCodec.toVec sessionB = .ok jsonB := rfl
  obtain ⟨es, st, hrun, hlatest⟩ := keyring_left_behind hA hB sampleNonce
  refine ⟨_, st, hrun, ?_⟩
  intro h
  have hA' := h es _ sessionA List.prefix_rfl
  rw [hlatest] at hA'
  exact absurd hA' (by decide)

/-- A session stored, in both copies, and loaded from the second one. -/
theorem stored_session_loaded :
    ∃ (es : StorageLog sampleCodec) (st : SecureStorage),
      Run StorageStep (SecureStorage.empty true) es st ∧ es.length = 2 ∧ LoadsLatest es := by
  have hrun := run_trace storageNext (SecureStorage.empty true)
    [.store (.granted sampleNonce true true : StorageIo sampleCodec) sessionA,
      .load (.granted sampleNonce false true)]
  refine ⟨_, _, hrun, rfl, (loads_latest_iff hrun).mpr (inStep_of_keyringKept ?_)⟩
  simp [trace, KeyringKept, StorageIo.granted]

end SwiftTunnel
