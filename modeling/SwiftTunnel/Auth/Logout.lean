/-
# What a logout leaves

`auth/storage.rs`, `clear_session`: the session file and the entry of the keyring are deleted one
after the other, and what goes wrong with either is logged and not returned.  `load_session` reads
the file and then the keyring, so a copy that is still there is loaded again.

A load that finds nothing changes nothing that a later load could read (`loadSession_none`), so in a
row of loads each can be looked at on its own (`loads_none_iff`), and what each finds is what
`clear_session` has left of the two copies.

* `logged_out_iff`: no load after a logout finds a session, exactly when each copy was deleted or
  has none that such a load can read.
* `logged_in_again`: a logout after which the session is loaded.

A copy that one load cannot read may be read by the next: the condition asks each load of the row.
-/
import SwiftTunnel.Auth.Storage

namespace SwiftTunnel

open Rust

namespace SecureStorage

variable {c : SessionCodec}

/-- What can be read of the file after `clear_session`. -/
theorem clearSession_fileSession (st : SecureStorage) (io io' : StorageIo c) (error : String) :
    (st.clearSession io error).2.fileSession io' = none ↔
      (io.stat = true ∧ io.remove = true) ∨ st.fileSession io' = none := by
  rw [clearSession_eq]
  by_cases hgone : io.stat && io.remove
  · have hboth := Bool.and_eq_true_iff.mp hgone
    simp [fileSession, hboth]
  · have hboth : ¬ (io.stat = true ∧ io.remove = true) := by
      rwa [← Bool.and_eq_true_iff]
    simp [fileSession, hgone, hboth]

theorem clearSession_keyringSession (st : SecureStorage) (io io' : StorageIo c) (error : String) :
    (st.clearSession io error).2.keyringSession io' = none ↔
      io.delete = true ∨ st.keyringSession io' = none := by
  rw [clearSession_eq]
  cases hentry : st.keyringEntry with
  | false => simp [keyringSession, hentry]
  | true => cases io.delete <;> simp [keyringSession, hentry]

/-- A load that finds no session in the file leaves it, or deletes it as corrupt. -/
theorem loadFromFile_none {st : SecureStorage} {io : StorageIo c}
    (h : st.fileSession io = none) (io' : StorageIo c) :
    (st.loadFromFile io).2.fileSession io' = st.fileSession io' := by
  rcases st.loadFromFile_cases io with ⟨-, hload⟩ | ⟨raw, hfile, hraw, hload⟩ |
    ⟨raw, session, rewrite, -, -, hsession, -⟩
  · rw [hload]
  · rw [hload, fileSession_corrupt hfile hraw]
    simp [fileSession]
  · rw [hsession] at h
    cases h

theorem loadSession_none_iff {st : SecureStorage} {io : StorageIo c} :
    (st.loadSession io).1 = .ok none ↔ st.fileSession io = none ∧ st.keyringSession io = none := by
  rw [loadSession_result]
  simp

/-- A load that finds nothing changes nothing that can be read. -/
theorem loadSession_none {st : SecureStorage} {io : StorageIo c}
    (h : (st.loadSession io).1 = .ok none) (io' : StorageIo c) :
    (st.loadSession io).2.fileSession io' = st.fileSession io' ∧
      (st.loadSession io).2.keyringSession io' = st.keyringSession io' := by
  obtain ⟨hfile, hkeyring⟩ := loadSession_none_iff.mp h
  obtain ⟨-, hsame, hentry⟩ := st.loadFromFile_spec io
  rcases st.loadSession_cases io with ⟨session, hfound, -⟩ | ⟨-, -, hload⟩ | ⟨session, -, hfound, -⟩
  · exact nomatch hfile.symm.trans hfound
  · rw [hload]
    exact ⟨loadFromFile_none hfile io', keyringSession_congr hsame hentry io'⟩
  · exact nomatch hkeyring.symm.trans hfound

/-- `load_session` several times in a row. -/
def loads (st : SecureStorage) : List (StorageIo c) → List (Except String (Option AuthSession))
  | [] => []
  | io :: ios => (st.loadSession io).1 :: loads (st.loadSession io).2 ios

/-- No load of a row finds a session, exactly when each would find none on its own. -/
theorem loads_none_iff {st : SecureStorage} {ios : List (StorageIo c)} :
    (∀ result ∈ st.loads ios, result = .ok none) ↔
      ∀ io ∈ ios, st.fileSession io = none ∧ st.keyringSession io = none := by
  induction ios generalizing st with
  | nil => simp [loads]
  | cons io ios ih =>
    rw [loads, List.forall_mem_cons, List.forall_mem_cons, ih, ← loadSession_none_iff]
    refine and_congr_right fun hnone => forall₂_congr fun io' _ => ?_
    obtain ⟨hfile, hkeyring⟩ := loadSession_none hnone io'
    rw [hfile, hkeyring]

/-- **When a logout is one.**  `clear_session` always returns `Ok`, and the loads after it find no
session exactly when each copy was deleted, or holds none that they can read. -/
theorem logged_out_iff (st : SecureStorage) (io : StorageIo c) (error : String)
    (ios : List (StorageIo c)) :
    (st.clearSession io error).1 = .ok () ∧
      ((∀ result ∈ (st.clearSession io error).2.loads ios, result = .ok none) ↔
        ∀ io' ∈ ios, ((io.stat = true ∧ io.remove = true) ∨ st.fileSession io' = none) ∧
          (io.delete = true ∨ st.keyringSession io' = none)) := by
  refine ⟨rfl, ?_⟩
  rw [loads_none_iff]
  refine forall₂_congr fun io' _ => ?_
  rw [clearSession_fileSession, clearSession_keyringSession]

end SecureStorage

/-- The session file is in use by another program when the user logs out. -/
def fileInUse : StorageIo sampleCodec :=
  { (.granted sampleNonce true true : StorageIo sampleCodec) with remove := false }

def storedA : SecureStorage :=
  ((SecureStorage.empty true).storeSession
    (.granted sampleNonce true true : StorageIo sampleCodec) sessionA).2

/-- **A logout after which the session is loaded.** -/
theorem logged_in_again :
    (storedA.clearSession fileInUse "in use").1 = .ok () ∧
      ((storedA.clearSession fileInUse "in use").2.loadSession
        (.granted sampleNonce true true : StorageIo sampleCodec)).1 =
          .ok (some sessionA) := by
  refine ⟨rfl, ?_⟩
  rw [SecureStorage.loadSession_result]
  decide +kernel

end SwiftTunnel
