/-
# The key of a sealed session

`auth/storage.rs`, `derive_session_key`.  The AES key of a session file is the SHA-256 of a fixed
text, the machine id and the user bind, with the byte `0xff` between them.  Nothing gives their
lengths, so that the parts can be told apart rests on the separator: it is no byte of UTF-8.

* `ff_notMem_utf8Bytes`: no text has that byte.
* `sessionKeyInput_inj`: so what is hashed determines the machine id and the user bind.
* `session_keys_separate`: other machines or users hash other bytes.

SHA-256 is an argument.  That two inputs with one hash cannot be found is nothing that could be said
of a function; the result names the collision instead.
-/
import SwiftTunnel.Auth.Storage
import SwiftTunnel.Lib.Utf8

namespace SwiftTunnel

open Rust

/-! ## 1. Deriving a key -/

def keyDerivationInfo : Bytes := utf8Bytes "swifttunnel-auth-v3-session-key"

/-- `SecureStorage::user_bind`, of the data directory as `to_string_lossy` gives it. -/
def userBind (dataDir : String) : Bytes := utf8Bytes dataDir

/-- What `derive_session_key` feeds to the hasher. -/
def sessionKeyInput (machineId : String) (userBind : Bytes) : Bytes :=
  keyDerivationInfo ++ [0xff] ++ utf8Bytes machineId ++ [0xff] ++ userBind

/-- A key of AES-256. -/
abbrev KeyBytes := { key : Bytes // key.length = 32 }

/-- `derive_session_key`, with SHA-256 as an argument. -/
def deriveSessionKey (sha256 : Bytes → KeyBytes) (machineId : String) (userBind : Bytes) :
    KeyBytes := sha256 (sessionKeyInput machineId userBind)

/-! ## 2. What is hashed determines the machine and the user -/

theorem utf8Bytes_injective : Function.Injective utf8Bytes := bytes_injective

theorem ff_notMem_utf8Bytes (s : String) : (0xff : UInt8) ∉ utf8Bytes s := ff_notMem_bytes s

theorem sessionKeyInput_inj {m₁ m₂ u₁ u₂ : String} :
    sessionKeyInput m₁ (userBind u₁) = sessionKeyInput m₂ (userBind u₂) ↔ m₁ = m₂ ∧ u₁ = u₂ := by
  simp only [sessionKeyInput, userBind, List.append_assoc, List.append_cancel_left_eq,
    List.cons_append, List.cons_inj_right, List.nil_append]
  rw [List.append_cons_inj_of_notMem (ff_notMem_utf8Bytes m₁) (ff_notMem_utf8Bytes u₁),
    utf8Bytes_injective.eq_iff, utf8Bytes_injective.eq_iff, and_iff_right rfl]

/-- **Session keys separate machines and users.**  Other machine ids or user binds are hashed as
other bytes, and give other keys unless SHA-256 collides on these. -/
theorem session_keys_separate (sha256 : Bytes → KeyBytes) {m₁ m₂ u₁ u₂ : String}
    (h : (m₁, u₁) ≠ (m₂, u₂)) :
    sessionKeyInput m₁ (userBind u₁) ≠ sessionKeyInput m₂ (userBind u₂) ∧
      ((sha256 (sessionKeyInput m₁ (userBind u₁)) = sha256 (sessionKeyInput m₂ (userBind u₂)) →
          sessionKeyInput m₁ (userBind u₁) = sessionKeyInput m₂ (userBind u₂)) →
        deriveSessionKey sha256 m₁ (userBind u₁) ≠ deriveSessionKey sha256 m₂ (userBind u₂)) := by
  have hinput : sessionKeyInput m₁ (userBind u₁) ≠ sessionKeyInput m₂ (userBind u₂) := by
    intro heq
    obtain ⟨rfl, rfl⟩ := sessionKeyInput_inj.mp heq
    exact h rfl
  exact ⟨hinput, fun hfree hkey => hinput (hfree hkey)⟩

/-- SHA-256, as it is on the inputs of two users of one machine. -/
def sampleSha256 (input : Bytes) : KeyBytes :=
  if input = sessionKeyInput "swifttunnel-dev-machine" (userBind "/home/ana/.swifttunnel") then
    ⟨[0x7d, 0xe4, 0x92, 0x18, 0xa0, 0x37, 0x2b, 0x56, 0xf3, 0x6a, 0x1b, 0x3d, 0x18, 0xdb, 0x8d, 0xf6,
      0x73, 0x0f, 0x4f, 0x03, 0xb3, 0x60, 0xb1, 0xcb, 0x7f, 0x80, 0x14, 0x1c, 0x16, 0xcb, 0xaf, 0x79],
      rfl⟩
  else
    ⟨[0x7a, 0xc1, 0x82, 0x04, 0xcf, 0x35, 0x0c, 0x48, 0x2d, 0xad, 0xc7, 0x57, 0x73, 0x67, 0x1c, 0xc2,
      0x19, 0x4e, 0x5c, 0xac, 0x8c, 0x6d, 0xa7, 0x90, 0x03, 0xec, 0x8c, 0x52, 0x67, 0xa3, 0x3e, 0x2d],
      rfl⟩

theorem session_keys_of_two_users :
    deriveSessionKey sampleSha256 "swifttunnel-dev-machine" (userBind "/home/ana/.swifttunnel") ≠
      deriveSessionKey sampleSha256 "swifttunnel-dev-machine" (userBind "/home/bo/.swifttunnel") := by
  have hsep := session_keys_separate sampleSha256
    (show ("swifttunnel-dev-machine", "/home/ana/.swifttunnel") ≠
      ("swifttunnel-dev-machine", "/home/bo/.swifttunnel") by decide)
  refine hsep.2 fun hsame => ?_
  rw [sampleSha256, if_pos rfl, sampleSha256, if_neg (Ne.symm hsep.1)] at hsame
  exact absurd hsame (by decide)

end SwiftTunnel
