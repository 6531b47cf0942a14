/-
# What a restart finds

`auth/manager.rs` over whole runs: calls that overlap, refreshes among them, and restarts of the
program.  A session is in the manager and in the storage, and the two go different ways: a refresh
whose session cannot be written is logged in all the same, and a sign-in that fails, or is
cancelled, leaves the stored session where it was.

The runs are those in which nothing is torn and only writes fail (`StorageIo.Intact`); then storage
comes down to one session, the one that there is to be loaded (`kept`), and a store, a load and a
deletion each do one thing to it (§2).  Every step but a logout changes what is kept and the state of
the manager in one of the ways of `SessionChange`.

* `kept_run`, `backed_run`: what is kept is the session that was written last since the last logout;
  and a manager that is logged in has its session there too, while refreshes can be written.
* `restart_resumes`: a restart finds the session that was written last since the last logout; it is
  that of the manager, whenever the manager is logged in and each refresh could be written.
* `refresh_failures_of_run`: the failures on record are the refreshes that failed, since the last
  one that did not and within their window; and no refresh sends more than three requests.

With reads that fail, or writes that are torn, the two copies drift apart; what a load then finds is
in `Storage`.
-/
import Mathlib.Algebra.BigOperators.Group.List.Basic
import Mathlib.Algebra.GroupWithZero.Nat
import SwiftTunnel.Auth.Refresh

namespace SwiftTunnel

open Rust

/-! ## 1. The system -/

/-- The manager with its calls, the file of failures, and the refreshes that await a reply. -/
structure SessionSystem where
  auth : AuthSystem
  failures : RefreshFiles
  refreshing : List RefreshCall

/-- A call, a reply to one, or the start of a new process. -/
inductive SessionInput (c : SessionCodec) where
  | call (input : AuthInput c)
  | refreshIfNeeded (soonAt : Int)
  | refreshReplied (call : RefreshCall) (r : RefreshReply c)
  | restart (io : StorageIo c)

inductive SessionOutput where
  | called (output : AuthOutput)
  | refresh (progress : RefreshProgress)
  | restarted
  deriving DecidableEq

section Runs

variable {c : SessionCodec}

/-- The refreshes that await a reply after this step of one of them. -/
def RefreshProgress.awaiting (refreshing : List RefreshCall) : RefreshProgress → List RefreshCall
  | .asking call _ => call :: refreshing
  | .returned _ | .panicked _ => refreshing

namespace SessionSystem

def next (level : LevelFilter) (codec : RecordCodec) (st : SessionSystem) (now : Int) :
    SessionInput c → SessionOutput × SessionSystem
  | .call input =>
    let (output, auth) := st.auth.next level now input
    (.called output, { st with auth := auth })
  | .refreshIfNeeded soonAt =>
    let progress := st.auth.manager.refreshIfNeeded now soonAt
    (.refresh progress, { st with refreshing := progress.awaiting st.refreshing })
  | .refreshReplied call r =>
    let (progress, m, f) := st.auth.manager.refreshReplied codec st.failures call r
    (.refresh progress,
      { auth := { st.auth with manager := m }
        failures := f
        refreshing := progress.awaiting (st.refreshing.erase call) })
  | .restart io =>
    -- what awaits a reply is gone with its process
    (.restarted, ⟨⟨.new st.auth.manager.storage io, []⟩, st.failures, []⟩)

/-- A process that has just started. -/
def started (storage : SecureStorage) (io : StorageIo c) (failures : RefreshFiles) :
    SessionSystem := ⟨⟨.new storage io, []⟩, failures, []⟩

end SessionSystem

/-- The call whose reply an input is awaits one. -/
def SessionInput.Awaited (st : SessionSystem) : SessionInput c → Prop
  | .call input => ∀ pending, input.repliesTo = some pending → pending ∈ st.auth.pending
  | .refreshReplied refresh _ => refresh ∈ st.refreshing
  | .refreshIfNeeded _ | .restart _ => True

def SignedInStep (level : LevelFilter) (codec : RecordCodec) (st : SessionSystem)
    (i : Int × SessionInput c) (o : SessionOutput) (st' : SessionSystem) : Prop :=
  i.2.Awaited st ∧ st.next level codec i.1 i.2 = (o, st')

abbrev SessionEvent (c : SessionCodec) := (Int × SessionInput c) × SessionOutput

/-- What the calls of a run did, in order. -/
abbrev SessionLog (c : SessionCodec) := List (SessionEvent c)

/-! ## 2. What is kept -/

/-- Nothing fails but writes, and a write that fails leaves the file as it was. -/
structure StorageIo.Intact (io : StorageIo c) : Prop where
  stat : io.stat = true
  read : io.read = true
  remove : io.remove = true
  get : io.get = true
  delete : io.delete = true
  whole : ∀ error left, io.write ≠ .torn error left

/-- The session can be written to the file. -/
def StorageIo.storesFile (io : StorageIo c) (session : AuthSession) : Bool :=
  match c.encodeSession io.fileNonce session, io.write with
  | .ok _, .written => true
  | _, _ => false

namespace SecureStorage

def keptInFile (c : SessionCodec) (st : SecureStorage) : Option AuthSession :=
  st.file.bind fun raw => (c.decodeBlob raw).session?

def keptInKeyring (c : SessionCodec) (st : SecureStorage) : Option AuthSession :=
  if st.keyringEntry then st.keyring.bind c.decodeEntry else none

/-- The session that is there to be loaded. -/
def kept (c : SessionCodec) (st : SecureStorage) : Option AuthSession :=
  (st.keptInFile c).or (st.keptInKeyring c)

theorem fileSession_intact (st : SecureStorage) {io : StorageIo c} (hio : io.Intact) :
    st.fileSession io = st.keptInFile c := by
  rw [fileSession, hio.stat, hio.read]
  rfl

theorem keyringSession_intact (st : SecureStorage) {io : StorageIo c} (hio : io.Intact) :
    st.keyringSession io = st.keptInKeyring c := by
  rw [keyringSession, hio.get, Bool.and_true]
  rfl

/-- A write of the session file: the new session, or the file as it was. -/
theorem storeToFile_intact (st : SecureStorage) {io : StorageIo c} (hio : io.Intact)
    (session : AuthSession) :
    (io.storesFile session = true ∧ (st.storeToFile io session).1 = .ok () ∧
      (st.storeToFile io session).2.keptInFile c = some session) ∨
    (io.storesFile session = false ∧ (∃ e, (st.storeToFile io session).1 = .error e) ∧
      (st.storeToFile io session).2 = st) := by
  rw [storeToFile, StorageIo.storesFile]
  cases hblob : c.encodeSession io.fileNonce session with
  | error e => exact Or.inr ⟨rfl, ⟨e, rfl⟩, rfl⟩
  | ok blob =>
    cases hwrite : io.write with
    | written =>
      refine Or.inl ⟨rfl, rfl, ?_⟩
      exact congrArg DecodedBlob.session? (c.decodeBlob_encode hblob)
    | failed e => exact Or.inr ⟨rfl, ⟨_, rfl⟩, rfl⟩
    | torn e left => exact absurd hwrite (hio.whole e left)

theorem keptInKeyring_congr {st st' : SecureStorage} (hkeyring : st'.keyring = st.keyring)
    (hentry : st'.keyringEntry = st.keyringEntry) :
    st'.keptInKeyring c = st.keptInKeyring c := by
  rw [keptInKeyring, hkeyring, hentry, keptInKeyring]

theorem storeToFile_keptInKeyring (st : SecureStorage) (io : StorageIo c) (session : AuthSession) :
    (st.storeToFile io session).2.keptInKeyring c = st.keptInKeyring c := by
  obtain ⟨hkeyring, hentry⟩ := storeToFile_keyring st io session
  exact keptInKeyring_congr hkeyring hentry

theorem storeToKeyring_keptInFile (st : SecureStorage) (io : StorageIo c) (session : AuthSession) :
    (st.storeToKeyring io session).2.keptInFile c = st.keptInFile c := by
  rw [keptInFile, storeToKeyring_file]
  rfl

/-- A write of the keyring's entry: the new session, or the entry as it was. -/
theorem storeToKeyring_kept (st : SecureStorage) (io : StorageIo c) (session : AuthSession) :
    (st.storeToKeyring io session).2.keptInKeyring c = some session ∨
      (st.storeToKeyring io session).2 = st := by
  rw [storeToKeyring]
  cases hentry : st.keyringEntry with
  | false => exact Or.inr rfl
  | true =>
    cases hblob : c.encodeSession io.keyringNonce session with
    | error e => exact Or.inr rfl
    | ok blob =>
      cases io.set with
      | false => exact Or.inr rfl
      | true =>
        refine Or.inl ?_
        simp [keptInKeyring, c.decodeEntry_encode hblob]

/-- **What a store keeps**: the session, exactly when it succeeds, or what was kept before. -/
theorem storeSession_kept (st : SecureStorage) {io : StorageIo c} (hio : io.Intact)
    (session : AuthSession) :
    (io.storesFile session = true ∧ (st.storeSession io session).1 = .ok () ∧
      (st.storeSession io session).2.kept c = some session) ∨
    (io.storesFile session = false ∧ (∃ e, (st.storeSession io session).1 = .error e) ∧
      (st.storeSession io session).2.kept c = st.kept c) := by
  have hfile := st.storeToFile_intact hio session
  rw [storeSession]
  generalize st.storeToFile io session = p at hfile ⊢
  obtain ⟨result, st'⟩ := p
  rcases hfile with ⟨hstores, hok, hkept⟩ | ⟨hstores, ⟨e, he⟩, hsame⟩
  · obtain rfl : result = .ok () := hok
    refine Or.inl ⟨hstores, rfl, ?_⟩
    have hkept' : (st'.storeToKeyring io session).2.keptInFile c = some session :=
      (st'.storeToKeyring_keptInFile io session).trans hkept
    simp only [kept, hkept', Option.some_or]
  · obtain rfl : result = .error e := he
    obtain rfl : st' = st := hsame
    exact Or.inr ⟨hstores, ⟨e, rfl⟩, rfl⟩

theorem clearSession_kept (st : SecureStorage) {io : StorageIo c} (hio : io.Intact)
    (error : String) : (st.clearSession io error).2.kept c = none := by
  rw [clearSession_eq, hio.stat, hio.remove, hio.delete]
  cases st.keyringEntry <;> simp [kept, keptInFile, keptInKeyring]

/-- A read of the session file keeps the session of each place. -/
theorem loadFromFile_kept (st : SecureStorage) {io : StorageIo c} (hio : io.Intact) :
    (st.loadFromFile io).2.keptInFile c = st.keptInFile c ∧
      (st.loadFromFile io).2.keptInKeyring c = st.keptInKeyring c := by
  obtain ⟨-, hkeyring, hentry⟩ := st.loadFromFile_spec io
  refine ⟨?_, keptInKeyring_congr hkeyring hentry⟩
  rcases st.loadFromFile_cases io with ⟨-, hload⟩ | ⟨raw, hraw, hcorrupt, hload⟩ |
    ⟨raw, session, rewrite, -, -, hsession, hload⟩
  · rw [hload]
  · -- a corrupt file has no session to lose
    rw [hload, keptInFile, keptInFile, hraw, Option.bind_some, hcorrupt]
    rfl
  · rw [hload]
    cases rewrite with
    | false => rfl
    | true =>
      rcases st.storeToFile_intact hio session with ⟨-, -, hfile⟩ | ⟨-, -, hsame⟩
      · exact hfile.trans (hsession.symm.trans (fileSession_intact st hio))
      · exact congrArg (keptInFile c) hsame

/-- **A load finds what is kept, and keeps it.** -/
theorem loadSession_kept (st : SecureStorage) {io : StorageIo c} (hio : io.Intact) :
    (st.loadSession io).1 = .ok (st.kept c) ∧ (st.loadSession io).2.kept c = st.kept c := by
  have hresult := st.loadSession_result io
  rw [fileSession_intact st hio, keyringSession_intact st hio] at hresult
  refine ⟨hresult, ?_⟩
  obtain ⟨hfile, hkeyring⟩ := st.loadFromFile_kept hio
  rcases st.loadSession_cases io with ⟨session, -, hload⟩ | ⟨-, -, hload⟩ |
    ⟨session, hnone, hsession, hload⟩
  · rw [hload, kept, hfile, hkeyring, kept]
  · rw [hload, kept, hfile, hkeyring, kept]
  · -- the session of the keyring is written to both places, or to those that take it
    rw [fileSession_intact st hio] at hnone
    rw [keyringSession_intact st hio] at hsession
    have hring : (st.loadSession io).2.keptInKeyring c = some session := by
      rw [hload]
      rcases ((st.loadFromFile io).2.storeToFile io session).2.storeToKeyring_kept io session with
        h | h
      · exact h
      · exact (congrArg (keptInKeyring c) h).trans
          ((storeToFile_keptInKeyring _ io session).trans (hkeyring.trans hsession))
    rw [kept, hring, kept, hnone, hsession, Option.none_or, hload]
    dsimp only
    rw [storeToKeyring_keptInFile]
    rcases (st.loadFromFile io).2.storeToFile_intact hio session with ⟨-, -, h⟩ | ⟨-, -, h⟩
    · rw [h, Option.some_or]
    · rw [h, hfile, hnone, Option.none_or]

end SecureStorage

/-- The state of a manager that starts with a session, or without one. -/
def AuthState.resumed : Option AuthSession → AuthState
  | some session => .loggedIn session
  | none => .loggedOut

/-- **What a new process starts with**, and leaves for the next. -/
theorem new_kept (storage : SecureStorage) {io : StorageIo c} (hio : io.Intact) :
    (AuthManager.new storage io).state = .resumed (storage.kept c) ∧
      (AuthManager.new storage io).storage.kept c = storage.kept c := by
  obtain ⟨hresult, hkept⟩ := storage.loadSession_kept hio
  rw [AuthManager.new]
  generalize storage.loadSession io = p at hresult hkept ⊢
  obtain ⟨result, storage'⟩ := p
  obtain rfl : result = .ok (storage.kept c) := hresult
  cases hsession : storage.kept c with
  | none => exact ⟨rfl, hkept.trans hsession⟩
  | some session => exact ⟨rfl, hkept.trans hsession⟩

/-! ## 3. What a step keeps -/

/-- The storage that a call uses. -/
def SessionInput.storageIo : SessionInput c → Option (StorageIo c)
  | .call (.logout io _) | .call (.signInReplied _ io _) | .call (.verifyReplied _ _ _ io _) =>
    some io
  | .call _ => none
  | .refreshReplied _ r => some r.io
  | .refreshIfNeeded _ => none
  | .restart io => some io

def SessionInput.Intact (input : SessionInput c) : Prop := ∀ io ∈ input.storageIo, io.Intact

/-- The session that a reply brings, and the storage that it is written to. -/
def SessionInput.brings (now : Int) : SessionInput c → Option (StorageIo c × AuthSession)
  | .call (.signInReplied email io (.ok response)) =>
    (AuthManager.sessionOf now response email).toOption.map fun session => (io, session)
  | .call (.verifyReplied _ _ exchange io (.ok response)) =>
    (AuthManager.sessionOf now response exchange.email).toOption.map fun session => (io, session)
  | .refreshReplied refresh r =>
    match tryRefreshToken refresh.session r.now r.reply with
    | .ok (.ok session) => some (r.io, session)
    | _ => none
  | _ => none

/-- The session that is kept after an event. -/
def keptAfter (kept : Option AuthSession) (e : SessionEvent c) : Option AuthSession :=
  match e.1.2 with
  | .call (.logout _ _) => none
  | input => match input.brings e.1.1 with
    | some (io, session) => if io.storesFile session then some session else kept
    | none => kept

/-- The session that was written last since the last logout, from the one that was there before. -/
def lastKept (kept : Option AuthSession) (es : SessionLog c) : Option AuthSession :=
  es.foldl keptAfter kept

theorem lastKept_concat (kept : Option AuthSession) (es : SessionLog c) (e : SessionEvent c) :
    lastKept kept (es ++ [e]) = keptAfter (lastKept kept es) e := by
  rw [lastKept, List.foldl_append]
  rfl

/-- What a step does to the session of the storage and to the state of the manager, by the session
that its input brings. -/
inductive SessionChange (now : Int) (i : SessionInput c) (kept kept' : Option AuthSession)
    (state state' : AuthState) : Prop
  | same : i.brings now = none → kept' = kept → state' = state →
      SessionChange now i kept kept' state state'
  | lost : i.brings now = none → kept' = kept → (∀ session, state' ≠ .loggedIn session) →
      SessionChange now i kept kept' state state'
  | resumed : i.brings now = none → kept' = kept → state' = .resumed kept →
      SessionChange now i kept kept' state state'
  | written {io : StorageIo c} {session : AuthSession} : i.brings now = some (io, session) →
      io.storesFile session = true → kept' = some session → state' = .loggedIn session →
      SessionChange now i kept kept' state state'
  | refused {io : StorageIo c} {session : AuthSession} : i.brings now = some (io, session) →
      io.storesFile session = false → kept' = kept → state' = state →
      SessionChange now i kept kept' state state'
  /-- A refresh goes on without its write. -/
  | unwritten {refresh : RefreshCall} {r : RefreshReply c} {session : AuthSession} :
      i = .refreshReplied refresh r → i.brings now = some (r.io, session) →
      r.io.storesFile session = false → kept' = kept → state' = .loggedIn session →
      SessionChange now i kept kept' state state'

/-- A call that does not use the storage leaves it alone, and logs nobody in. -/
theorem next_quiet (level : LevelFilter) (st : AuthSystem) (now : Int) {input : AuthInput c}
    (hquiet : (SessionInput.call input).storageIo = none) :
    (st.next level now input).2.manager.storage = st.manager.storage ∧
      ((st.next level now input).2.manager.state = st.manager.state ∨
        ∀ session, (st.next level now input).2.manager.state ≠ .loggedIn session) := by
  cases input with
  | startGoogleSignIn server state =>
    cases server with
    | error e => exact ⟨rfl, Or.inl rfl⟩
    | ok port => exact ⟨rfl, Or.inr fun session => AuthState.noConfusion⟩
  | completeOauthCallback token state =>
    rcases st.manager.completeOauthCallback_cases level now token state with
      ⟨result, hresult, -, -⟩ | ⟨message, hresult⟩ | ⟨pending, -, -, -, hresult⟩
    · rw [AuthSystem.next, hresult]
      obtain fault | e | _ := result
      · exact ⟨rfl, Or.inl rfl⟩
      · exact ⟨rfl, Or.inl rfl⟩
      · exact ⟨rfl, Or.inl rfl⟩
    · rw [AuthSystem.next, hresult]
      exact ⟨rfl, Or.inr fun session => AuthState.noConfusion⟩
    · rw [AuthSystem.next, hresult]
      exact ⟨rfl, Or.inr fun session => AuthState.noConfusion⟩
  | cancelOauth =>
    refine ⟨?_, ?_⟩
    · simp only [AuthSystem.next, AuthManager.cancelOauth]
      split <;> rfl
    · rcases st.manager.cancelOauth_cases with ⟨hsame, -⟩ | hout
      · exact Or.inl hsame
      · exact Or.inr fun session => hout ▸ AuthState.noConfusion
  | cancelLogin => exact ⟨rfl, Or.inr fun session => AuthState.noConfusion⟩
  | clearError =>
    refine ⟨?_, ?_⟩
    · simp only [AuthSystem.next, AuthManager.clearError]
      split <;> rfl
    · rcases st.manager.clearError_cases with hsame | hout
      · exact Or.inl (congrArg AuthManager.state hsame)
      · exact Or.inr fun session => hout ▸ AuthState.noConfusion
  | logout io error => cases hquiet
  | signIn email => exact ⟨rfl, Or.inr fun session => AuthState.noConfusion⟩
  | signInReplied email io reply => cases hquiet
  | exchangeReplied token state reply =>
    rcases st.manager.exchangeReplied_cases level reply with
      ⟨e, he⟩ | ⟨-, ⟨fault, hfault⟩ | ⟨response, hresponse⟩⟩
    · rw [AuthSystem.next, he]
      exact ⟨rfl, Or.inr fun session => AuthState.noConfusion⟩
    · rw [AuthSystem.next, hfault]
      exact ⟨rfl, Or.inl rfl⟩
    · rw [AuthSystem.next, hresponse]
      exact ⟨rfl, Or.inl rfl⟩
  | verifyReplied token state exchange io reply => cases hquiet

/-- The reply to a sign-in, or to the magic link of a callback. -/
theorem sessionReplied_change (m : AuthManager) {io : StorageIo c} (hio : io.Intact) (now : Int)
    (email : String) {reply : Except SignInError SupabaseAuthResponse}
    {i : SessionInput c} (hnone : ∀ e, reply = .error e → i.brings now = none)
    (hsome : ∀ response, reply = .ok response →
      i.brings now = (AuthManager.sessionOf now response email).toOption.map fun s => (io, s)) :
    SessionChange now i (m.storage.kept c)
      ((m.sessionReplied io now email reply).2.storage.kept c) m.state
      (m.sessionReplied io now email reply).2.state := by
  cases reply with
  | error e => exact .lost (hnone e rfl) rfl fun session => AuthState.noConfusion
  | ok response =>
    have hbrought := hsome response rfl
    rw [AuthManager.sessionReplied]
    cases hsession : AuthManager.sessionOf now response email with
    | error fault =>
      rw [hsession] at hbrought
      exact .same hbrought rfl rfl
    | ok session =>
      rw [hsession] at hbrought
      have hstore := m.storage.storeSession_kept hio session
      dsimp only
      generalize m.storage.storeSession io session = p at hstore ⊢
      obtain ⟨result, storage⟩ := p
      rcases hstore with ⟨hstores, hok, hkept⟩ | ⟨hstores, ⟨e, he⟩, hkept⟩
      · obtain rfl : result = .ok () := hok
        exact .written hbrought hstores hkept rfl
      · obtain rfl : result = .error e := he
        exact .refused hbrought hstores hkept rfl

/-- The reply to a refresh. -/
theorem refreshReplied_change (codec : RecordCodec) (m : AuthManager) (f : RefreshFiles)
    (now : Int) (refresh : RefreshCall) {r : RefreshReply c} (hio : r.io.Intact) :
    SessionChange now (.refreshReplied refresh r) (m.storage.kept c)
      ((m.refreshReplied codec f refresh r).2.1.storage.kept c) m.state
      (m.refreshReplied codec f refresh r).2.1.state := by
  have hbrings : SessionInput.brings now (.refreshReplied refresh r) =
      match tryRefreshToken refresh.session r.now r.reply with
      | .ok (.ok session) => some (r.io, session)
      | _ => none := rfl
  cases htry : tryRefreshToken refresh.session r.now r.reply with
  | error fault =>
    rw [htry] at hbrings
    rw [refreshReplied_fault htry]
    exact .same hbrings rfl rfl
  | ok result =>
    cases result with
    | ok session =>
      rw [htry] at hbrings
      rw [refreshReplied_ok htry]
      rcases m.storage.storeSession_kept hio session with ⟨hstores, -, hkept⟩ | ⟨hstores, -, hkept⟩
      · exact .written hbrings hstores hkept rfl
      · exact .unwritten rfl hbrings hstores hkept rfl
    | error e =>
      rw [htry] at hbrings
      rcases refreshReplied_cases codec m f refresh r with ⟨fault, hcase⟩ | ⟨session, hsession, -⟩ |
        ⟨-, hmore, hcase⟩ | ⟨e', -, -, hcase⟩
      · rw [hcase]
        exact .same hbrings rfl rfl
      · exact nomatch htry.symm.trans hsession
      · rw [hcase]
        exact .same hbrings rfl rfl
      · rw [hcase]
        exact .same hbrings rfl rfl

/-- **Every step but a logout changes the two in one of these ways.** -/
theorem session_change {level : LevelFilter} {codec : RecordCodec} {st st' : SessionSystem}
    {now : Int} {i : SessionInput c} {o : SessionOutput}
    (hstep : SignedInStep level codec st (now, i) o st') (hio : i.Intact) :
    (∃ io error, i = .call (.logout io error) ∧ st'.auth.manager.storage.kept c = none ∧
      st'.auth.manager.state = .loggedOut) ∨
    SessionChange now i (st.auth.manager.storage.kept c) (st'.auth.manager.storage.kept c)
      st.auth.manager.state st'.auth.manager.state := by
  obtain ⟨-, hnext⟩ := hstep
  obtain rfl : (st.next level codec now i).2 = st' := congrArg Prod.snd hnext
  clear hnext
  have hquiet : ∀ {input : AuthInput c}, i = .call input → i.storageIo = none →
      i.brings now = none → SessionChange now i (st.auth.manager.storage.kept c)
        ((st.next level codec now i).2.auth.manager.storage.kept c) st.auth.manager.state
        (st.next level codec now i).2.auth.manager.state := by
    rintro input rfl hnone hbrings
    obtain ⟨hstorage, hsame | hlost⟩ := next_quiet level st.auth now hnone
    · exact .same hbrings (congrArg (SecureStorage.kept c) hstorage) hsame
    · exact .lost hbrings (congrArg (SecureStorage.kept c) hstorage) hlost
  cases i with
  | call input =>
    cases input with
    | logout io error =>
      refine Or.inl ⟨io, error, rfl, ?_, ?_⟩
      · exact st.auth.manager.storage.clearSession_kept (hio io rfl) error
      · rfl
    | signInReplied email io reply =>
      refine Or.inr (sessionReplied_change _ (hio io rfl) now email ?_ ?_)
      · rintro e rfl
        rfl
      · rintro response rfl
        rfl
    | verifyReplied token state exchange io reply =>
      refine Or.inr (sessionReplied_change _ (hio io rfl) now exchange.email ?_ ?_)
      · rintro e rfl
        rfl
      · rintro response rfl
        rfl
    | startGoogleSignIn server state => exact Or.inr (hquiet rfl rfl rfl)
    | completeOauthCallback token state => exact Or.inr (hquiet rfl rfl rfl)
    | cancelOauth => exact Or.inr (hquiet rfl rfl rfl)
    | cancelLogin => exact Or.inr (hquiet rfl rfl rfl)
    | clearError => exact Or.inr (hquiet rfl rfl rfl)
    | signIn email => exact Or.inr (hquiet rfl rfl rfl)
    | exchangeReplied token state reply => exact Or.inr (hquiet rfl rfl rfl)
  | refreshIfNeeded soonAt => exact Or.inr (.same rfl rfl rfl)
  | refreshReplied refresh r =>
    exact Or.inr (refreshReplied_change codec st.auth.manager st.failures now refresh (hio r.io rfl))
  | restart io =>
    obtain ⟨hstate, hkept⟩ := new_kept st.auth.manager.storage (hio io rfl)
    exact Or.inr (.resumed rfl hkept hstate)

/-! ## 4. Runs -/

theorem keptAfter_brings {now : Int} {i : SessionInput c} (o : SessionOutput)
    (kept : Option AuthSession) (hnot : ∀ io error, i ≠ .call (.logout io error)) :
    keptAfter kept ((now, i), o) = match i.brings now with
      | some (io, session) => if io.storesFile session then some session else kept
      | none => kept := by
  cases i with
  | call input =>
    cases input with
    | logout io error => exact absurd rfl (hnot io error)
    | _ => rfl
  | _ => rfl

theorem keptAfter_change {now : Int} {i : SessionInput c} {o : SessionOutput}
    {kept kept' : Option AuthSession} {state state' : AuthState}
    (hnot : ∀ io error, i ≠ .call (.logout io error))
    (h : SessionChange now i kept kept' state state') : kept' = keptAfter kept ((now, i), o) := by
  rw [keptAfter_brings o kept hnot]
  cases h with
  | same hbrings hkept _ => rw [hbrings, hkept]
  | lost hbrings hkept _ => rw [hbrings, hkept]
  | resumed hbrings hkept _ => rw [hbrings, hkept]
  | written hbrings hstores hkept _ => simp only [hbrings, hstores, hkept, if_true]
  | refused hbrings hstores hkept _ =>
    simp only [hbrings, hstores, hkept, Bool.false_eq_true, if_false]
  | unwritten _ hbrings hstores hkept _ =>
    simp only [hbrings, hstores, hkept, Bool.false_eq_true, if_false]

/-- The refresh could write its session, if it got one. -/
def SessionEvent.RefreshWritten (e : SessionEvent c) : Prop :=
  ∀ refresh r, e.1.2 = .refreshReplied refresh r →
    ∀ io session, e.1.2.brings e.1.1 = some (io, session) → io.storesFile session = true

/-- A logged-in manager has its session in the storage too. -/
def Backed (c : SessionCodec) (m : AuthManager) : Prop :=
  ∀ session, m.state = .loggedIn session → m.storage.kept c = some session

theorem backed_started (storage : SecureStorage) {io : StorageIo c} (hio : io.Intact) :
    Backed c (AuthManager.new storage io) := by
  intro session hstate
  obtain ⟨hresumed, hkept⟩ := new_kept storage hio
  rw [hkept]
  rw [hresumed] at hstate
  cases hsession : storage.kept c with
  | none =>
    rw [hsession] at hstate
    exact nomatch hstate
  | some session' =>
    rw [hsession] at hstate
    rw [AuthState.loggedIn.inj hstate]

theorem backed_step {level : LevelFilter} {codec : RecordCodec} {st st' : SessionSystem}
    {now : Int} {i : SessionInput c} {o : SessionOutput}
    (hstep : SignedInStep level codec st (now, i) o st') (hio : i.Intact)
    (hwritten : SessionEvent.RefreshWritten ((now, i), o)) (h : Backed c st.auth.manager) :
    Backed c st'.auth.manager := by
  intro session hstate
  rcases session_change hstep hio with ⟨_, _, -, -, hout⟩ | hchange
  · exact nomatch hout.symm.trans hstate
  · cases hchange with
    | same _ hkept hsame =>
      rw [hkept]
      exact h session (hsame.symm.trans hstate)
    | lost _ _ hlost => exact absurd hstate (hlost session)
    | resumed _ hkept hresumed =>
      rw [hkept]
      rw [hresumed] at hstate
      cases hsession : st.auth.manager.storage.kept c with
      | none =>
        rw [hsession] at hstate
        exact nomatch hstate
      | some session' =>
        rw [hsession] at hstate
        rw [AuthState.loggedIn.inj hstate]
    | written _ _ hkept hlogin =>
      rw [hkept, AuthState.loggedIn.inj (hlogin.symm.trans hstate)]
    | refused _ _ hkept hsame =>
      rw [hkept]
      exact h session (hsame.symm.trans hstate)
    | unwritten hrefresh hbrings hstores _ _ =>
      rw [hwritten _ _ hrefresh _ _ hbrings] at hstores
      exact nomatch hstores

theorem kept_run {level : LevelFilter} {codec : RecordCodec} {st₀ st : SessionSystem}
    {es : SessionLog c} (hrun : Run (SignedInStep level codec) st₀ es st)
    (hintact : ∀ e ∈ es, e.1.2.Intact) :
    st.auth.manager.storage.kept c = lastKept (st₀.auth.manager.storage.kept c) es := by
  refine hrun.history (P := fun es st => (∀ e ∈ es, e.1.2.Intact) →
    st.auth.manager.storage.kept c = lastKept (st₀.auth.manager.storage.kept c) es)
      (fun _ => rfl) ?_ hintact
  rintro es st ⟨now, i⟩ o st' - ih hstep hintact
  have hkept := ih fun e he => hintact e (List.mem_append_left _ he)
  rw [lastKept_concat, ← hkept]
  rcases session_change hstep (hintact _ (List.mem_append_right _ (List.mem_singleton_self _))) with
    ⟨io, error, rfl, hnone, -⟩ | hchange
  · exact hnone
  · by_cases hlogout : ∃ io error, i = .call (.logout io error)
    · obtain ⟨io, error, rfl⟩ := hlogout
      obtain ⟨-, hnext⟩ := hstep
      obtain rfl : (st.next level codec now (.call (.logout io error))).2 = st' :=
        congrArg Prod.snd hnext
      exact st.auth.manager.storage.clearSession_kept
        (hintact _ (List.mem_append_right _ (List.mem_singleton_self _)) io rfl) error
    · exact keptAfter_change (fun io error h => hlogout ⟨io, error, h⟩) hchange

theorem backed_run {level : LevelFilter} {codec : RecordCodec} {st₀ st : SessionSystem}
    {es : SessionLog c} (hrun : Run (SignedInStep level codec) st₀ es st)
    (hbacked : Backed c st₀.auth.manager) (hintact : ∀ e ∈ es, e.1.2.Intact)
    (hwritten : ∀ e ∈ es, SessionEvent.RefreshWritten e) : Backed c st.auth.manager := by
  refine hrun.history (P := fun es st => (∀ e ∈ es, e.1.2.Intact) →
    (∀ e ∈ es, SessionEvent.RefreshWritten e) → Backed c st.auth.manager)
      (fun _ _ => hbacked) ?_ hintact hwritten
  rintro es st ⟨now, i⟩ o st' - ih hstep hintact hwritten
  have hlast : ((now, i), o) ∈ es ++ [((now, i), o)] :=
    List.mem_append_right _ (List.mem_singleton_self _)
  exact backed_step hstep (hintact _ hlast) (hwritten _ hlast)
    (ih (fun e he => hintact e (List.mem_append_left _ he))
      fun e he => hwritten e (List.mem_append_left _ he))

/-- **A restart resumes the last session.**  In every run of calls, replies and restarts in which
nothing is torn and only writes fail, a new process starts with the session that was written last
since the last logout, a refresh that was under way at the logout included, and without one if
there is none.  Where each refresh could be written, that is the session of the manager whenever
the manager is logged in. -/
theorem restart_resumes {level : LevelFilter} {codec : RecordCodec} {storage : SecureStorage}
    {io : StorageIo c} (hio : io.Intact) {failures : RefreshFiles} {es : SessionLog c}
    {st : SessionSystem}
    (hrun : Run (SignedInStep level codec) (.started storage io failures) es st)
    (hintact : ∀ e ∈ es, e.1.2.Intact) :
    (∀ io' : StorageIo c, io'.Intact → (AuthManager.new st.auth.manager.storage io').state =
      .resumed (lastKept (storage.kept c) es)) ∧
    ((∀ e ∈ es, SessionEvent.RefreshWritten e) → ∀ session,
      st.auth.manager.state = .loggedIn session →
        lastKept (storage.kept c) es = some session) := by
  have hkept : st.auth.manager.storage.kept c = lastKept (storage.kept c) es := by
    rw [kept_run hrun hintact]
    exact congrArg (lastKept · es) (new_kept storage hio).2
  constructor
  · intro io' hio'
    rw [(new_kept st.auth.manager.storage hio').1, hkept]
  · intro hwritten session hstate
    rw [← hkept]
    exact backed_run hrun (backed_started storage hio) hintact hwritten session hstate

/-! ## 5. Failures and requests -/

namespace SessionEvent

/-- What the end of a refresh does to the failures on record. -/
def failureOp : SessionEvent c → Option RefreshOp
  | ((_, .refreshReplied _ r), .refresh (.returned _)) => match r.reply with
    | .ok _ => some (.reset r.now)
    | .error _ => some (.increment r.countedAt r.openedAt)
  | _ => none

/-- A refresh began. -/
def beginsRefresh : SessionEvent c → Bool
  | ((_, .refreshIfNeeded _), .refresh (.asking _ _)) => true
  | _ => false

/-- A request of a refresh came back. -/
def endsRequest : SessionEvent c → Bool
  | ((_, .refreshReplied _ _), _) => true
  | _ => false

end SessionEvent

/-- A working file of failures. -/
def SessionInput.CountsFailures (i : SessionInput c) : Prop :=
  ∀ refresh r, i = .refreshReplied refresh r → r.failureIo = .working

theorem failures_step {level : LevelFilter} {codec : RecordCodec} {st st' : SessionSystem}
    {now : Int} {i : SessionInput c} {o : SessionOutput}
    (hstep : SignedInStep level codec st (now, i) o st') (hworking : i.CountsFailures) :
    st'.failures =
      (SessionEvent.failureOp ((now, i), o)).toList.foldl (RefreshFiles.perform codec)
        st.failures := by
  obtain ⟨-, hnext⟩ := hstep
  obtain rfl : (st.next level codec now i).1 = o := congrArg Prod.fst hnext
  obtain rfl : (st.next level codec now i).2 = st' := congrArg Prod.snd hnext
  clear hnext
  cases i with
  | call input => rfl
  | refreshIfNeeded soonAt => rfl
  | restart io => rfl
  | refreshReplied refresh r =>
    have hio := hworking refresh r rfl
    rcases refreshReplied_cases codec st.auth.manager st.failures refresh r with
      ⟨fault, hcase⟩ | ⟨session, htry, hcase⟩ | ⟨-, hmore, hcase⟩ | ⟨e, he, -, hcase⟩
    · simp only [SessionSystem.next, hcase]
      rfl
    · obtain ⟨-, response, hreply, -⟩ := tryRefreshToken_ok htry
      simp only [SessionSystem.next, hcase, SessionEvent.failureOp, hreply, hio]
      rfl
    · simp only [SessionSystem.next, hcase]
      rfl
    · simp only [SessionSystem.next, hcase, SessionEvent.failureOp, he, hio]
      rfl

/-- The requests that the refreshes under way can still send, the ones they await included. -/
def openRequests (refreshing : List RefreshCall) : Nat :=
  (refreshing.map fun call => maxRefreshRetries + 1 - call.attempt).sum

/-- Every request uses up one of the three that its refresh began with. -/
theorem requests_step {level : LevelFilter} {codec : RecordCodec} {st st' : SessionSystem}
    {now : Int} {i : SessionInput c} {o : SessionOutput}
    (hstep : SignedInStep level codec st (now, i) o st') :
    [((now, i), o)].countP SessionEvent.endsRequest + openRequests st'.refreshing ≤
      maxRefreshRetries * [((now, i), o)].countP SessionEvent.beginsRefresh +
        openRequests st.refreshing := by
  obtain ⟨hawaited, hnext⟩ := hstep
  obtain rfl : (st.next level codec now i).1 = o := congrArg Prod.fst hnext
  obtain rfl : (st.next level codec now i).2 = st' := congrArg Prod.snd hnext
  clear hnext
  cases i with
  | call input => exact Nat.le_refl _
  | restart io => exact Nat.zero_le _
  | refreshIfNeeded soonAt =>
    simp only [SessionSystem.next, AuthManager.refreshIfNeeded]
    split
    · split
      · exact (Nat.zero_add _).le
      · exact Nat.le_refl _
    · exact Nat.le_refl _
  | refreshReplied refresh r =>
    have herase : maxRefreshRetries + 1 - refresh.attempt + openRequests (st.refreshing.erase refresh) =
        openRequests st.refreshing :=
      List.sum_map_erase (fun call : RefreshCall => maxRefreshRetries + 1 - call.attempt) hawaited
    have hbound := refresh.attempt_bound
    have hone : [((now, SessionInput.refreshReplied refresh r), (st.next level codec now
        (.refreshReplied refresh r)).1)].countP SessionEvent.endsRequest = 1 := rfl
    rw [hone]
    rcases refreshReplied_cases codec st.auth.manager st.failures refresh r with
      ⟨fault, hcase⟩ | ⟨session, -, hcase⟩ | ⟨-, hmore, hcase⟩ | ⟨e, -, -, hcase⟩
    · simp only [SessionSystem.next, hcase, RefreshProgress.awaiting]
      omega
    · simp only [SessionSystem.next, hcase, RefreshProgress.awaiting]
      omega
    · have hopen : openRequests (RefreshProgress.awaiting (st.refreshing.erase refresh)
          (.asking ⟨refresh.session, refresh.attempt + 1, Nat.le_add_left 1 _, hmore⟩
            (retryDelay (refresh.attempt + 1)))) =
          maxRefreshRetries + 1 - (refresh.attempt + 1) +
            openRequests (st.refreshing.erase refresh) := rfl
      simp only [SessionSystem.next, hcase, hopen]
      omega
    · simp only [SessionSystem.next, hcase, RefreshProgress.awaiting]
      omega

theorem requests_run {level : LevelFilter} {codec : RecordCodec} {st₀ st : SessionSystem}
    {es : SessionLog c} (hrun : Run (SignedInStep level codec) st₀ es st) :
    es.countP SessionEvent.endsRequest + openRequests st.refreshing ≤
      maxRefreshRetries * es.countP SessionEvent.beginsRefresh + openRequests st₀.refreshing := by
  refine hrun.history (P := fun es st => es.countP SessionEvent.endsRequest +
    openRequests st.refreshing ≤ maxRefreshRetries * es.countP SessionEvent.beginsRefresh +
      openRequests st₀.refreshing) (by simp) ?_
  rintro es st ⟨now, i⟩ o st' - ih hstep
  have hstep := requests_step hstep
  rw [List.countP_append, List.countP_append, Nat.mul_add]
  omega

theorem failures_run {level : LevelFilter} {codec : RecordCodec} {st₀ st : SessionSystem}
    {es : SessionLog c} (hrun : Run (SignedInStep level codec) st₀ es st)
    (hworking : ∀ e ∈ es, e.1.2.CountsFailures) :
    st.failures =
      RefreshFiles.performAll codec st₀.failures (es.filterMap SessionEvent.failureOp) := by
  refine hrun.history (P := fun es st => (∀ e ∈ es, e.1.2.CountsFailures) →
    st.failures = RefreshFiles.performAll codec st₀.failures
      (es.filterMap SessionEvent.failureOp)) (fun _ => rfl) ?_ hworking
  rintro es st ⟨now, i⟩ o st' - ih hstep hworking
  rw [failures_step hstep (hworking _ (List.mem_append_right _ (List.mem_singleton_self _))),
    ih fun e he => hworking e (List.mem_append_left _ he), RefreshFiles.performAll,
    RefreshFiles.performAll, List.filterMap_append, List.foldl_append]
  cases hop : SessionEvent.failureOp ((now, i), o) with
  | none => simp [hop]
  | some op => simp [hop]

/-- **The failures on record are the refreshes that failed.**  In every run with a working file of
failures, over any order of the calls, what is read from it is the number of refreshes whose third
request failed too, since the later of the last refresh that succeeded and the opening of the
window; and the requests that come back are at most three for each refresh that began. -/
theorem refresh_failures_of_run {level : LevelFilter} {codec : RecordCodec}
    (hjson : ∀ record, ∃ json, codec.toText record = .ok json) {storage : SecureStorage}
    {io : StorageIo c} {legacy : Option String} {es : SessionLog c} {st : SessionSystem}
    (hrun : Run (SignedInStep level codec) (.started storage io ⟨none, legacy⟩) es st)
    (hworking : ∀ e ∈ es, e.1.2.CountsFailures) (t : Int) :
    let events := (es.filterMap SessionEvent.failureOp).map RefreshOp.event
    (∃ before after, events = before ++ after ∧ Window.Begins refreshFailureWindow before after ∧
      (Window.window refreshFailureWindow events).length = after.countP Window.Event.isCount ∧
      (st.failures.getRefreshFailures codec .working t).1 =
        if Window.isOpen refreshFailureWindow (Window.window refreshFailureWindow events) t then
          countedFailures (after.countP Window.Event.isCount) else 0) ∧
    es.countP SessionEvent.endsRequest ≤
      maxRefreshRetries * es.countP SessionEvent.beginsRefresh := by
  intro events
  obtain ⟨before, after, hsplit, hbegins, hlen⟩ := Window.window_since refreshFailureWindow events
  have hfile : Represents codec (Window.window refreshFailureWindow events) st.failures := by
    rw [failures_run hrun hworking]
    exact performAll_represents hjson legacy _
  refine ⟨⟨before, after, hsplit, hbegins, hlen, ?_⟩, ?_⟩
  · rw [getRefreshFailures_represents hfile, ← hlen]
  · exact (Nat.le_add_right _ _).trans (requests_run hrun)

end Runs

/-- Where all goes well. -/
def grantedIo : StorageIo sampleCodec := .granted sampleNonce true true

theorem grantedIo_intact : grantedIo.Intact :=
  ⟨rfl, rfl, rfl, rfl, rfl, fun _ _ h =>
    nomatch (h : (FileWrite.written : FileWrite (CorruptBlob sampleCodec)) = .torn _ _)⟩

def sampleStart : SessionSystem := .started (SecureStorage.empty true) grantedIo ⟨none, none⟩

/-- A user signs in, an hour before the session ends. -/
def signInA : List (Int × SessionInput sampleCodec) :=
  [(0, .call (.signIn "a@example.com")),
    (sessionA.expiresAt - 3600 * 1000000000, .call (.signInReplied "a@example.com" grantedIo
      (.ok ⟨"at-a", "rt-a", 3600, ⟨"a", some "a@example.com"⟩⟩)))]

/-- Another one tries to. -/
def failedSignInB : List (Int × SessionInput sampleCodec) :=
  [(dueTime, .call (.signIn "b@example.com")),
    (dueTime, .call (.signInReplied "b@example.com" grantedIo
      (.error (.network "connection reset"))))]

theorem second_request : 1 ≤ 2 ∧ 2 ≤ maxRefreshRetries := by decide

theorem third_request : 1 ≤ 3 ∧ 3 ≤ maxRefreshRetries := by decide

/-- A refresh without an answer. -/
def lostRefresh : List (Int × SessionInput sampleCodec) :=
  [(dueTime, .refreshIfNeeded dueTime),
    (dueTime, .refreshReplied (.first sessionA) lostReply),
    (dueTime, .refreshReplied ⟨sessionA, 2, second_request⟩ lostReply),
    (dueTime, .refreshReplied ⟨sessionA, 3, third_request⟩ lostReply)]

/-- The run of these inputs. -/
def sampleRun (inputs : List (Int × SessionInput sampleCodec)) :
    SessionLog sampleCodec × SessionSystem :=
  trace (fun st i => st.next .info sampleRecordCodec i.1 i.2) sampleStart inputs

theorem sampleRun_run {inputs : List (Int × SessionInput sampleCodec)}
    (h : TraceMeets (fun st i => st.next .info sampleRecordCodec i.1 i.2)
      (fun st i => i.2.Awaited st) sampleStart inputs) :
    Run (SignedInStep .info sampleRecordCodec) sampleStart (sampleRun inputs).1
      (sampleRun inputs).2 := run_trace_meets h

/-- What holds of every input of the run. -/
theorem sampleRun_inputs {P : SessionInput sampleCodec → Prop}
    {inputs : List (Int × SessionInput sampleCodec)} (h : ∀ i ∈ inputs, P i.2) :
    ∀ e ∈ (sampleRun inputs).1, P e.1.2 := by
  intro e he
  refine h e.1 ?_
  rw [← map_fst_trace (fun (st : SessionSystem) (i : Int × SessionInput sampleCodec) =>
    st.next .info sampleRecordCodec i.1 i.2) sampleStart inputs]
  exact List.mem_map_of_mem he

theorem signIns_run : Run (SignedInStep .info sampleRecordCodec) sampleStart
    (sampleRun (signInA ++ failedSignInB)).1 (sampleRun (signInA ++ failedSignInB)).2 := by
  refine sampleRun_run ⟨?_, ?_, ?_, ?_, trivial⟩
  · exact fun pending h => nomatch h
  · rintro pending h
    obtain rfl := Option.some.inj h
    exact List.mem_cons_self
  · exact fun pending h => nomatch h
  · rintro pending h
    obtain rfl := Option.some.inj h
    exact List.mem_cons_self

theorem signIns_intact : ∀ i ∈ signInA ++ failedSignInB, i.2.Intact := by
  intro i hi io hio
  have hcases : i.2.storageIo = none ∨ i.2.storageIo = some grantedIo := by
    simp only [signInA, failedSignInB, List.cons_append, List.nil_append, List.mem_cons,
      List.not_mem_nil, or_false] at hi
    rcases hi with rfl | rfl | rfl | rfl
    · exact Or.inl rfl
    · exact Or.inr rfl
    · exact Or.inl rfl
    · exact Or.inr rfl
  rcases hcases with h | h
  · rw [h] at hio
    exact nomatch hio
  · rw [h] at hio
    obtain rfl := Option.some.inj hio
    exact grantedIo_intact

/-- After a sign-in that fails, a restart is logged in with the session from before. -/
theorem failed_sign_in_resumed :
    (AuthManager.new (sampleRun (signInA ++ failedSignInB)).2.auth.manager.storage grantedIo).state =
      .loggedIn sessionA := by
  rw [(restart_resumes grantedIo_intact signIns_run (sampleRun_inputs signIns_intact)).1 grantedIo
    grantedIo_intact]
  decide +kernel

theorem refresh_run : Run (SignedInStep .info sampleRecordCodec) sampleStart
    (sampleRun (signInA ++ lostRefresh)).1 (sampleRun (signInA ++ lostRefresh)).2 := by
  refine sampleRun_run ⟨?_, ?_, trivial, ?_, ?_, ?_, trivial⟩
  · exact fun pending h => nomatch h
  · rintro pending h
    obtain rfl := Option.some.inj h
    exact List.mem_cons_self
  · exact List.mem_cons_self
  · exact List.mem_cons_self
  · exact List.mem_cons_self

/-- The failure is on record for an hour. -/
theorem lost_refresh_recorded :
    ((sampleRun (signInA ++ lostRefresh)).2.failures.getRefreshFailures sampleRecordCodec .working
      (dueTime + 3600 * 1000000000)).1 = 1 := by
  have hworking : ∀ i ∈ signInA ++ lostRefresh, i.2.CountsFailures := by
    intro i hi refresh r h
    simp only [signInA, lostRefresh, List.cons_append, List.nil_append, List.mem_cons,
      List.not_mem_nil, or_false] at hi
    rcases hi with rfl | rfl | rfl | rfl | rfl | rfl
    · cases h
    · cases h
    · cases h
    · exact (SessionInput.refreshReplied.inj h).2 ▸ rfl
    · exact (SessionInput.refreshReplied.inj h).2 ▸ rfl
    · exact (SessionInput.refreshReplied.inj h).2 ▸ rfl
  obtain ⟨⟨_, _, -, -, hlen, hget⟩, -⟩ := refresh_failures_of_run (fun _ => ⟨_, rfl⟩) refresh_run
    (sampleRun_inputs hworking) (dueTime + 3600 * 1000000000)
  rw [hget, ← hlen]
  decide +kernel

end SwiftTunnel
