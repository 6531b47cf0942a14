/-
# `AuthManager`: signing in, and the callback of a browser

`auth/manager.rs`.  `start_google_sign_in` opens a flow with a random state string, and
`complete_oauth_callback` exchanges the token that a browser brings back.  The exported functions
hold one lock for the whole of a call, so calls do not overlap; here they may overlap wherever
they await the network.  A call is cut there: its first part runs at once, and what it does with
a reply is a function of its own.

A time is in nanoseconds of the wall clock, which can be set back.  The network, the storage, the
callback server and the random generator answer in the arguments of a call.  Only the log macros
slice strings at a byte index, so whether a slice is taken depends on the log level.

A run is any order of calls and replies.  What a step may do to the state is listed once
(`StateChange`, `step_change`): nothing but `start_google_sign_in` opens a flow, and nothing but a
reply with a session logs in.  From there:

* `openFlow_run`: in every run, a manager that awaits a callback holds the state string and the
  start of the latest flow, and no event since has ended that flow (`OpenFlow`).
* `exchanged_for_latest`: so the token is exchanged only for the state string of the latest flow,
  within ten minutes of it, and while nothing has ended the flow; once for each flow.
* `logins_le_exchanges`: a callback logs in no more often than it was accepted.

The ten minutes are those of the wall clock: a clock that is set back keeps a flow open for longer.
Nothing is said of the callback server beyond its port; its requests are in `OauthFlow`.  Refreshes
are in `Refresh`, and what the storage keeps of a session in `Storage`.
-/
import SwiftTunnel.Auth.Storage

namespace SwiftTunnel

open Rust

/-! ## 1. States and errors -/

structure OAuthPendingState where
  state : String
  startedAt : Int
  deriving DecidableEq, Repr

inductive AuthState where
  | loggedOut
  | loggingIn
  | awaitingOAuthCallback (pending : OAuthPendingState)
  | loggedIn (session : AuthSession)
  | banned (session : AuthSession)
  | error (message : String)
  deriving DecidableEq, Repr

/-- The errors of `SdkError` that a sign-in meets. -/
inductive SignInError where
  | auth (message : String)
  | network (message : String)
  | storage (message : String)
  deriving DecidableEq, Repr

def SignInError.toText : SignInError → String
  | .auth message => "Authentication error: " ++ message
  | .network message => "Network error: " ++ message
  | .storage message => "Storage error: " ++ message

structure SupabaseUser where
  id : String
  email : Option String
  deriving DecidableEq, Repr

structure SupabaseAuthResponse where
  accessToken : String
  refreshToken : String
  /-- Seconds. -/
  expiresIn : Int64
  user : SupabaseUser
  deriving DecidableEq, Repr

structure ExchangeTokenResponse where
  token : String
  email : String
  deriving DecidableEq, Repr

/-! ## 2. What the standard library and `chrono` do -/

/-- The longest prefix of a string with a number of bytes, if one has exactly that many. -/
def takeBytes : Nat → List Char → Option (List Char)
  | 0, _ => some []
  | _ + 1, [] => none
  | n + 1, c :: cs =>
    if c.utf8Size ≤ n + 1 then (takeBytes (n + 1 - c.utf8Size) cs).map (c :: ·) else none

/-- `&s[..s.len().min(8)]`, which panics when the index is inside a character. -/
def firstEight (s : String) : Checked String :=
  match takeBytes (min s.utf8ByteSize 8) s.toList with
  | some cs => .ok (String.ofList cs)
  | none => .error .outOfBounds

/-- What the logger lets through. -/
inductive LevelFilter where
  | off
  | error
  | warn
  | info
  | debug
  | trace
  deriving DecidableEq, Repr

def LevelFilter.logsError : LevelFilter → Bool
  | .off => false
  | _ => true

def LevelFilter.logsInfo : LevelFilter → Bool
  | .off | .error | .warn => false
  | _ => true

/-- A log line with the first bytes of some strings, which are sliced only for the line. -/
def logLine (enabled : Bool) (texts : List String) : Checked Unit :=
  if enabled then texts.forM fun s => (firstEight s).map fun _ => () else .ok ()

/-- `Utc::now() + Duration::seconds(secs)`, which panics outside what the two types hold. -/
def secondsFrom (now : Int) (secs : Int64) : Checked Int :=
  let t := now + secs.toInt * 1000000000
  if secs.toInt.natAbs ≤ 9223372036854775 ∧ -8334601228800 * 1000000000 ≤ t ∧
      t < 8210266876800 * 1000000000 then .ok t
  else .error .overflow

/-- `Duration::minutes(10)`. -/
def oauthFlowLimit : Int := 10 * 60 * 1000000000

/-- One byte of `percent_encode`. -/
def percentEncodeByte (b : UInt8) : String :=
  let c := Char.ofNat b.toNat
  if c.isAlphanum || c == '-' || c == '_' || c == '.' || c == '~' then c.toString
  else
    let digit := fun n => (Nat.digitChar n).toUpper.toString
    "%" ++ digit (b.toNat / 16) ++ digit (b.toNat % 16)

/-- `percent_encode`. -/
def percentEncode (s : String) : String := String.join ((utf8Bytes s).map percentEncodeByte)

/-- What the random generator gives: 32 letters and digits. -/
abbrev GeneratedState := { s : String // s.toList.length = 32 ∧ s.toList.all Char.isAlphanum = true }

/-! ## 3. The manager -/

structure AuthManager where
  state : AuthState
  storage : SecureStorage
  /-- The port of the callback server, while one runs. -/
  oauthServer : Option UInt16

namespace AuthManager

variable {c : SessionCodec}

/-- `AuthManager::new`. -/
def new (storage : SecureStorage) (io : StorageIo c) : AuthManager :=
  match storage.loadSession io with
  | (.ok (some session), storage) => ⟨.loggedIn session, storage, none⟩
  | (.ok none, storage) => ⟨.loggedOut, storage, none⟩
  | (.error _, storage) => ⟨.loggedOut, storage, none⟩

/-- `sign_in`, up to the request. -/
def signIn (m : AuthManager) : AuthManager := { m with state := .loggingIn }

/-- The session of a reply; `email` is used when the reply has none. -/
def sessionOf (now : Int) (response : SupabaseAuthResponse) (email : String) :
    Checked AuthSession := do
  let expiresAt ← secondsFrom now response.expiresIn
  .ok
    { accessToken := response.accessToken
      refreshToken := response.refreshToken
      expiresAt := expiresAt
      user := ⟨response.user.id, response.user.email.getD email, false, false, none, none⟩ }

/-- What is done with a reply that holds a session. -/
def sessionReplied (m : AuthManager) (io : StorageIo c) (now : Int) (email : String)
    (reply : Except SignInError SupabaseAuthResponse) :
    Checked (Except SignInError Unit) × AuthManager :=
  match reply with
  | .error e => (.ok (.error e), { m with state := .error e.toText })
  | .ok response => match sessionOf now response email with
    | .error fault => (.error fault, m)
    | .ok session => match m.storage.storeSession io session with
      | (.error e, storage) => (.ok (.error (.storage e)), { m with storage := storage })
      | (.ok (), storage) =>
        (.ok (.ok ()), { m with storage := storage, state := .loggedIn session })

/-- The end of `sign_in`. -/
def signInReplied (m : AuthManager) (io : StorageIo c) (now : Int) (email : String)
    (reply : Except SignInError SupabaseAuthResponse) :
    Checked (Except SignInError Unit) × AuthManager := m.sessionReplied io now email reply

/-- The end of `complete_oauth_callback`, with the reply to the magic link. -/
def verifyReplied (m : AuthManager) (io : StorageIo c) (now : Int)
    (exchange : ExchangeTokenResponse) (reply : Except SignInError SupabaseAuthResponse) :
    Checked (Except SignInError Unit) × AuthManager := m.sessionReplied io now exchange.email reply

/-- `logout`. -/
def logout (m : AuthManager) (io : StorageIo c) (error : String) :
    Except SignInError Unit × AuthManager :=
  match m.storage.clearSession io error with
  | (.error e, storage) => (.error (.storage e), { m with storage := storage })
  | (.ok (), storage) => (.ok (), { m with storage := storage, state := .loggedOut })

/-- `cancel_login`. -/
def cancelLogin (m : AuthManager) : AuthManager := { m with state := .loggedOut }

/-- `clear_error`. -/
def clearError (m : AuthManager) : AuthManager :=
  match m.state with
  | .error _ => { m with state := .loggedOut }
  | _ => m

/-- `start_google_sign_in`, with the port of the new server or the error of starting it.  The log
line slices the state string, which has only characters of one byte. -/
def startGoogleSignIn (m : AuthManager) (now : Int) (server : Except String UInt16)
    (state : GeneratedState) : Except SignInError (String × String) × AuthManager :=
  let m := { m with oauthServer := none }
  match server with
  | .error e => (.error (.auth ("Failed to start OAuth server: " ++ e)), m)
  | .ok port =>
    let oauthUrl := "https://swifttunnel.net/login?desktop=true&state=" ++
      percentEncode state.val ++ "&provider=google&redirect_port=" ++ toString port.toNat
    (.ok (oauthUrl, state.val),
      { m with oauthServer := some port, state := .awaitingOAuthCallback ⟨state.val, now⟩ })

def stateMismatch : SignInError := .auth "Security error: state mismatch"

/-- `complete_oauth_callback`, up to the exchange of the token: the call returns an error, or goes
on with the exchange. -/
def completeOauthCallback (m : AuthManager) (level : LevelFilter) (now : Int)
    (exchangeToken callbackState : String) : Checked (Except SignInError Unit) × AuthManager :=
  match logLine level.logsInfo [exchangeToken, callbackState] with
  | .error fault => (.error fault, m)
  | .ok () => match m.state with
    | .awaitingOAuthCallback pending =>
      if oauthFlowLimit < now - pending.startedAt then
        (.ok (.error (.auth "OAuth flow expired. Please try again.")), m)
      else if callbackState ≠ pending.state then
        match logLine level.logsError [pending.state, callbackState] with
        | .error fault => (.error fault, m)
        | .ok () =>
          (.ok (.error stateMismatch),
            { m with
              state := .error "Security error: state mismatch. Please try again."
              oauthServer := none })
      else (.ok (.ok ()), { m with oauthServer := none, state := .loggingIn })
    | _ =>
      (.ok (.error (.auth
        "Not waiting for OAuth callback. Please start sign-in again.")), m)

/-- The reply to the exchange: the call returns an error, or goes on with the magic link. -/
def exchangeReplied (m : AuthManager) (level : LevelFilter)
    (reply : Except SignInError ExchangeTokenResponse) :
    Checked (Except SignInError ExchangeTokenResponse) × AuthManager :=
  match reply with
  | .error e => (.ok (.error e), { m with state := .error e.toText })
  | .ok response => match logLine level.logsInfo [response.token] with
    | .error fault => (.error fault, m)
    | .ok () => (.ok (.ok response), m)

/-- `cancel_oauth`. -/
def cancelOauth (m : AuthManager) : AuthManager :=
  let m := { m with oauthServer := none }
  match m.state with
  | .awaitingOAuthCallback _ => { m with state := .loggedOut }
  | _ => m

/-- **What a callback can do**: nothing, or end the flow with an error, or be accepted. -/
theorem completeOauthCallback_cases (m : AuthManager) (level : LevelFilter) (now : Int)
    (token state : String) :
    (∃ result, m.completeOauthCallback level now token state = (result, m) ∧
      result ≠ .ok (.ok ()) ∧ result ≠ .ok (.error stateMismatch)) ∨
    (∃ message, m.completeOauthCallback level now token state =
      (.ok (.error stateMismatch), { m with state := .error message, oauthServer := none })) ∨
    ∃ pending, m.state = .awaitingOAuthCallback pending ∧ state = pending.state ∧
      now - pending.startedAt ≤ oauthFlowLimit ∧
      m.completeOauthCallback level now token state =
        (.ok (.ok ()), { m with oauthServer := none, state := .loggingIn }) := by
  unfold completeOauthCallback
  split
  · exact Or.inl ⟨_, rfl, by simp, by simp⟩
  split
  · rename_i pending hstate
    split
    · exact Or.inl ⟨_, rfl, by simp, by simp [stateMismatch]⟩
    rename_i hfresh
    split
    · split
      · exact Or.inl ⟨_, rfl, by simp, by simp⟩
      · exact Or.inr (Or.inl ⟨_, rfl⟩)
    · rename_i hsame
      exact Or.inr (Or.inr ⟨pending, hstate, not_not.mp hsame, Int.not_lt.mp hfresh, rfl⟩)
  · exact Or.inl ⟨_, rfl, by simp, by simp [stateMismatch]⟩

/-- **What a session reply can do**: log in, or put its error into the state, or leave the state
alone when the session cannot be kept. -/
theorem sessionReplied_cases (m : AuthManager) (io : StorageIo c) (now : Int) (email : String)
    (reply : Except SignInError SupabaseAuthResponse) :
    ((m.sessionReplied io now email reply).1 = .ok (.ok ()) ∧
      ∃ session, (m.sessionReplied io now email reply).2.state = .loggedIn session) ∨
    (reply.isOk = false ∧ ∃ message,
      (m.sessionReplied io now email reply).2.state = .error message) ∨
    ((m.sessionReplied io now email reply).1 ≠ .ok (.ok ()) ∧ reply.isOk = true ∧
      (m.sessionReplied io now email reply).2.state = m.state) := by
  cases reply with
  | error e => exact Or.inr (Or.inl ⟨rfl, _, rfl⟩)
  | ok response =>
    unfold sessionReplied
    dsimp only
    split
    · exact Or.inr (Or.inr ⟨by simp, rfl, rfl⟩)
    split
    · exact Or.inr (Or.inr ⟨by simp, rfl, rfl⟩)
    · exact Or.inl ⟨rfl, _, rfl⟩

theorem startGoogleSignIn_cases (m : AuthManager) (now : Int) (server : Except String UInt16)
    (state : GeneratedState) :
    (∃ e, m.startGoogleSignIn now server state = (.error e, { m with oauthServer := none })) ∨
    ∃ url, (m.startGoogleSignIn now server state).1 = .ok (url, state.val) ∧
      (m.startGoogleSignIn now server state).2.state =
        .awaitingOAuthCallback ⟨state.val, now⟩ := by
  cases server with
  | error e => exact Or.inl ⟨_, rfl⟩
  | ok port => exact Or.inr ⟨_, rfl, rfl⟩

theorem exchangeReplied_cases (m : AuthManager) (level : LevelFilter)
    (reply : Except SignInError ExchangeTokenResponse) :
    (∃ e, m.exchangeReplied level reply =
      (.ok (.error e), { m with state := .error e.toText })) ∨
    (reply.isOk = true ∧ ((∃ fault, m.exchangeReplied level reply = (.error fault, m)) ∨
      ∃ response, m.exchangeReplied level reply = (.ok (.ok response), m))) := by
  cases reply with
  | error e => exact Or.inl ⟨e, rfl⟩
  | ok response =>
    refine Or.inr ⟨rfl, ?_⟩
    unfold exchangeReplied
    dsimp only
    split
    · exact Or.inl ⟨_, rfl⟩
    · exact Or.inr ⟨_, rfl⟩

theorem cancelOauth_cases (m : AuthManager) :
    (m.cancelOauth.state = m.state ∧ ∀ p, m.state ≠ .awaitingOAuthCallback p) ∨
      m.cancelOauth.state = .loggedOut := by
  unfold cancelOauth
  dsimp only
  split
  · exact Or.inr rfl
  · rename_i hnot
    exact Or.inl ⟨rfl, hnot⟩

theorem clearError_cases (m : AuthManager) : m.clearError = m ∨ m.clearError.state = .loggedOut := by
  unfold clearError
  split
  · exact Or.inr rfl
  · exact Or.inl rfl

end AuthManager

/-! ## 4. Calls that overlap -/

/-- A call that awaits a reply, with what it has of its own. -/
inductive PendingCall where
  | signIn (email : String)
  | exchange (token state : String)
  | verify (token state : String) (exchange : ExchangeTokenResponse)
  deriving DecidableEq

/-- A call, or the reply to one. -/
inductive AuthInput (c : SessionCodec) where
  | startGoogleSignIn (server : Except String UInt16) (state : GeneratedState)
  | completeOauthCallback (token state : String)
  | cancelOauth
  | cancelLogin
  | clearError
  | logout (io : StorageIo c) (error : String)
  | signIn (email : String)
  | signInReplied (email : String) (io : StorageIo c)
      (reply : Except SignInError SupabaseAuthResponse)
  | exchangeReplied (token state : String) (reply : Except SignInError ExchangeTokenResponse)
  | verifyReplied (token state : String) (exchange : ExchangeTokenResponse) (io : StorageIo c)
      (reply : Except SignInError SupabaseAuthResponse)

inductive AuthOutput where
  | started (result : Except SignInError (String × String))
  /-- The callback was accepted: its token is sent to the exchange. -/
  | exchanging
  | awaiting
  | returned (result : Except SignInError Unit)
  | panicked (fault : Fault)
  deriving DecidableEq

/-- The manager, and the calls that await a reply. -/
structure AuthSystem where
  manager : AuthManager
  pending : List PendingCall

section Runs

variable {c : SessionCodec}

/-- The call that an input replies to. -/
def AuthInput.repliesTo : AuthInput c → Option PendingCall
  | .signInReplied email _ _ => some (.signIn email)
  | .exchangeReplied token state _ => some (.exchange token state)
  | .verifyReplied token state exchange _ _ => some (.verify token state exchange)
  | _ => none

/-- A call that ends with a result or a panic. -/
def AuthOutput.ofResult : Checked (Except SignInError Unit) → AuthOutput
  | .error fault => .panicked fault
  | .ok result => .returned result

namespace AuthSystem

/-- One step of a call at a time. -/
def next (level : LevelFilter) (st : AuthSystem) (now : Int) :
    AuthInput c → AuthOutput × AuthSystem
  | .startGoogleSignIn server state =>
    let (result, m) := st.manager.startGoogleSignIn now server state
    (.started result, ⟨m, st.pending⟩)
  | .completeOauthCallback token state =>
    match st.manager.completeOauthCallback level now token state with
    | (.ok (.ok ()), m) => (.exchanging, ⟨m, .exchange token state :: st.pending⟩)
    | (.ok (.error e), m) => (.returned (.error e), ⟨m, st.pending⟩)
    | (.error fault, m) => (.panicked fault, ⟨m, st.pending⟩)
  | .cancelOauth => (.returned (.ok ()), ⟨st.manager.cancelOauth, st.pending⟩)
  | .cancelLogin => (.returned (.ok ()), ⟨st.manager.cancelLogin, st.pending⟩)
  | .clearError => (.returned (.ok ()), ⟨st.manager.clearError, st.pending⟩)
  | .logout io error =>
    let (result, m) := st.manager.logout io error
    (.returned result, ⟨m, st.pending⟩)
  | .signIn email => (.awaiting, ⟨st.manager.signIn, .signIn email :: st.pending⟩)
  | .signInReplied email io reply =>
    let (result, m) := st.manager.signInReplied io now email reply
    (.ofResult result, ⟨m, st.pending.erase (.signIn email)⟩)
  | .exchangeReplied token state reply =>
    let pending := st.pending.erase (.exchange token state)
    match st.manager.exchangeReplied level reply with
    | (.ok (.ok response), m) => (.awaiting, ⟨m, .verify token state response :: pending⟩)
    | (.ok (.error e), m) => (.returned (.error e), ⟨m, pending⟩)
    | (.error fault, m) => (.panicked fault, ⟨m, pending⟩)
  | .verifyReplied token state exchange io reply =>
    let (result, m) := st.manager.verifyReplied io now exchange reply
    (.ofResult result, ⟨m, st.pending.erase (.verify token state exchange)⟩)

end AuthSystem

/-- A reply comes for a call that awaits one. -/
def AuthStep (level : LevelFilter) (st : AuthSystem) (i : Int × AuthInput c) (o : AuthOutput)
    (st' : AuthSystem) : Prop :=
  (∀ call, i.2.repliesTo = some call → call ∈ st.pending) ∧ st.next level i.1 i.2 = (o, st')

abbrev AuthEvent (c : SessionCodec) := (Int × AuthInput c) × AuthOutput

/-- What the calls of a run did, in order. -/
abbrev AuthLog (c : SessionCodec) := List (AuthEvent c)

/-! ## 5. Flows -/

namespace AuthEvent

/-- A flow was started. -/
def starts : AuthEvent c → Bool
  | ((_, .startGoogleSignIn _ _), .started (.ok _)) => true
  | _ => false

/-- A callback was accepted. -/
def exchanges : AuthEvent c → Bool
  | (_, .exchanging) => true
  | _ => false

/-- The event ends the flow that is open: a new one, a cancellation, a logout, a sign-in or the
result of one, a callback that was accepted or had another state string, or the result of an
earlier callback. -/
def endsFlow : AuthEvent c → Bool
  | ((_, .startGoogleSignIn _ _), o) => match o with
    | .started (.ok _) => true
    | _ => false
  | ((_, .completeOauthCallback _ _), o) =>
    o == .exchanging || o == .returned (.error AuthManager.stateMismatch)
  | ((_, .cancelOauth), _) | ((_, .cancelLogin), _) | ((_, .logout _ _), _)
  | ((_, .signIn _), _) => true
  | ((_, .clearError), _) => false
  | ((_, .signInReplied _ _ reply), o) | ((_, .verifyReplied _ _ _ _ reply), o) =>
    o == .returned (.ok ()) || !reply.isOk
  | ((_, .exchangeReplied _ _ reply), _) => !reply.isOk

end AuthEvent

/-- What a step can do to the state of the manager. -/
inductive StateChange (now : Int) (before after : AuthState) : AuthInput c → AuthOutput → Prop
  | kept {i : AuthInput c} {o : AuthOutput} : o ≠ .exchanging → after = before →
      (AuthEvent.endsFlow ((now, i), o) = false ∨ ∀ p, before ≠ .awaitingOAuthCallback p) →
      StateChange now before after i o
  | started {server : Except String UInt16} {state : GeneratedState} {url : String} :
      after = .awaitingOAuthCallback ⟨state.val, now⟩ →
      StateChange now before after (.startGoogleSignIn server state)
        (.started (.ok (url, state.val)))
  | accepted {token : String} {pending : OAuthPendingState} :
      before = .awaitingOAuthCallback pending → now - pending.startedAt ≤ oauthFlowLimit →
      after = .loggingIn →
      StateChange now before after (.completeOauthCallback token pending.state) .exchanging
  | signedIn {email : String} {io : StorageIo c} {reply : Except SignInError SupabaseAuthResponse}
      {session : AuthSession} : after = .loggedIn session →
      StateChange now before after (.signInReplied email io reply) (.returned (.ok ()))
  | verified {token state : String} {exchange : ExchangeTokenResponse} {io : StorageIo c}
      {reply : Except SignInError SupabaseAuthResponse} {session : AuthSession} :
      after = .loggedIn session →
      StateChange now before after (.verifyReplied token state exchange io reply)
        (.returned (.ok ()))
  | closed {i : AuthInput c} {o : AuthOutput} : o ≠ .exchanging →
      (∀ p, after ≠ .awaitingOAuthCallback p) → (∀ session, after ≠ .loggedIn session) →
      StateChange now before after i o

theorem ofResult_ne_exchanging (result : Checked (Except SignInError Unit)) :
    AuthOutput.ofResult result ≠ .exchanging := by
  cases result with
  | error fault => exact AuthOutput.noConfusion
  | ok result => exact AuthOutput.noConfusion

theorem ofResult_eq_returned {result : Checked (Except SignInError Unit)}
    {r : Except SignInError Unit} : AuthOutput.ofResult result = .returned r ↔ result = .ok r := by
  cases result with
  | error fault => simp [AuthOutput.ofResult]
  | ok result => simp [AuthOutput.ofResult]

/-- A session reply that does not log in keeps the state, or puts an error into it. -/
theorem reply_change {m : AuthManager} {io : StorageIo c} {now : Int} {email : String}
    {reply : Except SignInError SupabaseAuthResponse} {i : AuthInput c}
    (hends : ∀ o, AuthEvent.endsFlow ((now, i), o) = (o == .returned (.ok ()) || !reply.isOk))
    (hlogin : ∀ session, (m.sessionReplied io now email reply).2.state = .loggedIn session →
      StateChange now m.state (m.sessionReplied io now email reply).2.state i (.returned (.ok ()))) :
    StateChange now m.state (m.sessionReplied io now email reply).2.state i
      (.ofResult (m.sessionReplied io now email reply).1) := by
  rcases m.sessionReplied_cases io now email reply with
    ⟨hok, session, hstate⟩ | ⟨-, message, hstate⟩ | ⟨hne, hok, hstate⟩
  · rw [hok]
    exact hlogin session hstate
  · rw [hstate]
    exact .closed (ofResult_ne_exchanging _) (fun p => (nomatch ·)) (fun session => (nomatch ·))
  · refine .kept (ofResult_ne_exchanging _) hstate (Or.inl ?_)
    rw [hends, hok, Bool.not_true, Bool.or_false, beq_eq_false_iff_ne]
    exact fun hret => hne (ofResult_eq_returned.mp hret)

/-- **Every step changes the state in one of these ways.** -/
theorem step_change {level : LevelFilter} {st st' : AuthSystem} {now : Int} {i : AuthInput c}
    {o : AuthOutput} (hstep : AuthStep level st (now, i) o st') :
    StateChange now st.manager.state st'.manager.state i o := by
  obtain ⟨-, hnext⟩ := hstep
  obtain rfl : (st.next level now i).1 = o := congrArg Prod.fst hnext
  obtain rfl : (st.next level now i).2 = st' := congrArg Prod.snd hnext
  clear hnext
  cases i with
  | startGoogleSignIn server state =>
    rcases st.manager.startGoogleSignIn_cases now server state with ⟨e, he⟩ | ⟨url, hok, hstate⟩
    · simp only [AuthSystem.next, he]
      exact .kept AuthOutput.noConfusion rfl (Or.inl rfl)
    · simp only [AuthSystem.next, hok]
      exact .started hstate
  | completeOauthCallback token state =>
    rcases st.manager.completeOauthCallback_cases level now token state with
      ⟨result, hresult, hok, hmismatch⟩ | ⟨message, hresult⟩ | ⟨pending, hstate, rfl, hage, hresult⟩
    · simp only [AuthSystem.next, hresult]
      cases result with
      | error fault => exact .kept AuthOutput.noConfusion rfl (Or.inl rfl)
      | ok result =>
        cases result with
        | ok _ => exact absurd rfl hok
        | error e =>
          have he : e ≠ AuthManager.stateMismatch := fun he => hmismatch (by rw [he])
          exact .kept AuthOutput.noConfusion rfl (Or.inl (by simpa [AuthEvent.endsFlow] using he))
    · simp only [AuthSystem.next, hresult]
      exact .closed AuthOutput.noConfusion (fun p => (nomatch ·)) (fun session => (nomatch ·))
    · simp only [AuthSystem.next, hresult]
      exact .accepted hstate hage rfl
  | cancelOauth =>
    rcases st.manager.cancelOauth_cases with hsame | hout
    · exact .kept AuthOutput.noConfusion hsame.1 (Or.inr hsame.2)
    · refine .closed AuthOutput.noConfusion (fun p => ?_) (fun session => ?_)
      · exact fun h => nomatch hout.symm.trans h
      · exact fun h => nomatch hout.symm.trans h
  | cancelLogin =>
    exact .closed AuthOutput.noConfusion (fun p => (nomatch ·)) (fun session => (nomatch ·))
  | clearError =>
    rcases st.manager.clearError_cases with hsame | hout
    · exact .kept AuthOutput.noConfusion (congrArg AuthManager.state hsame) (Or.inl rfl)
    · refine .closed AuthOutput.noConfusion (fun p => ?_) (fun session => ?_)
      · exact fun h => nomatch hout.symm.trans h
      · exact fun h => nomatch hout.symm.trans h
  | logout io error =>
    exact .closed AuthOutput.noConfusion (fun p => (nomatch ·)) (fun session => (nomatch ·))
  | signIn email =>
    exact .closed AuthOutput.noConfusion (fun p => (nomatch ·)) (fun session => (nomatch ·))
  | signInReplied email io reply =>
    exact reply_change (fun o => rfl) fun session hlogin => .signedIn hlogin
  | exchangeReplied token state reply =>
    rcases st.manager.exchangeReplied_cases level reply with
      ⟨e, he⟩ | ⟨hok, ⟨fault, hfault⟩ | ⟨response, hresponse⟩⟩
    · simp only [AuthSystem.next, he]
      exact .closed AuthOutput.noConfusion (fun p => (nomatch ·)) (fun session => (nomatch ·))
    · simp only [AuthSystem.next, hfault]
      exact .kept AuthOutput.noConfusion rfl (Or.inl (congrArg not hok))
    · simp only [AuthSystem.next, hresponse]
      exact .kept AuthOutput.noConfusion rfl (Or.inl (congrArg not hok))
  | verifyReplied token state exchange io reply =>
    exact reply_change (fun o => rfl) fun session hlogin => .verified hlogin

/-- **The flow that is open** is the latest, and nothing has ended it. -/
def OpenFlow (es : AuthLog c) (p : OAuthPendingState) : Prop :=
  ∃ before server state url after,
    es = before ++ ((p.startedAt, .startGoogleSignIn server state), .started (.ok (url, p.state))) ::
      after ∧
    state.val = p.state ∧ ∀ e ∈ after, AuthEvent.endsFlow e = false

theorem openFlow_run {level : LevelFilter} {m₀ : AuthManager}
    (hclosed : ∀ p, m₀.state ≠ .awaitingOAuthCallback p) {es : AuthLog c} {st : AuthSystem}
    (hrun : Run (AuthStep level) ⟨m₀, []⟩ es st) {p : OAuthPendingState}
    (h : st.manager.state = .awaitingOAuthCallback p) : OpenFlow es p := by
  refine hrun.history (P := fun es st => ∀ p, st.manager.state = .awaitingOAuthCallback p →
    OpenFlow es p) (fun p h => absurd h (hclosed p)) ?_ p h
  rintro es st ⟨now, i⟩ o st' - ih hstep p h
  cases step_change hstep with
  | kept _ hsame hends =>
    have hst := hsame.symm.trans h
    obtain ⟨before, server, state, url, after, rfl, hstate, hafter⟩ := ih p hst
    refine ⟨before, server, state, url, after ++ [((now, i), o)], by simp, hstate, fun e he => ?_⟩
    rcases List.mem_append.mp he with he | he
    · exact hafter e he
    · rw [List.mem_singleton.mp he]
      exact hends.resolve_right fun hnot => hnot p hst
  | started hstate =>
    obtain rfl := AuthState.awaitingOAuthCallback.inj (hstate.symm.trans h)
    exact ⟨es, _, _, _, [], rfl, rfl, fun e he => nomatch he⟩
  | accepted _ _ hstate => exact nomatch hstate.symm.trans h
  | signedIn hstate => exact nomatch hstate.symm.trans h
  | verified hstate => exact nomatch hstate.symm.trans h
  | closed _ hnot _ => exact absurd h (hnot p)

/-- While no flow is open and none is started, nothing is exchanged; a flow is exchanged at most
once. -/
theorem exchanges_le_one {level : LevelFilter} {st st' : AuthSystem} {es : AuthLog c}
    (hrun : Run (AuthStep level) st es st') (hstarts : ∀ e ∈ es, AuthEvent.starts e = false) :
    es.countP AuthEvent.exchanges ≤ 1 ∧
      ((∀ p, st.manager.state ≠ .awaitingOAuthCallback p) → es.countP AuthEvent.exchanges = 0) := by
  induction hrun with
  | nil st => exact ⟨Nat.zero_le 1, fun _ => rfl⟩
  | @cons st st₁ st' i o es hstep _ ih =>
    obtain ⟨now, i⟩ := i
    obtain ⟨hstart, hstarts⟩ := List.forall_mem_cons.mp hstarts
    obtain ⟨hle, hzero⟩ := ih hstarts
    rw [List.countP_cons]
    have hquiet : ∀ {o : AuthOutput}, o ≠ .exchanging →
        AuthEvent.exchanges (((now, i), o) : AuthEvent c) = false := by
      intro o ho
      cases o <;> first | rfl | exact absurd rfl ho
    cases step_change hstep with
    | kept ho hsame _ =>
      rw [hquiet ho]
      refine ⟨hle, fun hnot => hzero fun p => ?_⟩
      rw [hsame]
      exact hnot p
    | started _ => exact nomatch hstart
    | accepted hbefore _ hafter =>
      have hnone := hzero fun p => by rw [hafter]; exact AuthState.noConfusion
      refine ⟨?_, fun hnot => absurd hbefore (hnot _)⟩
      rw [hnone]
      exact Nat.le_refl 1
    | signedIn hstate =>
      have hnone := hzero fun p => by rw [hstate]; exact AuthState.noConfusion
      exact ⟨hle, fun _ => hnone⟩
    | verified hstate =>
      have hnone := hzero fun p => by rw [hstate]; exact AuthState.noConfusion
      exact ⟨hle, fun _ => hnone⟩
    | closed ho hnot _ =>
      rw [hquiet ho]
      exact ⟨hle, fun _ => hzero hnot⟩

/-! ### From an exchange to a login -/

/-- The callback with these arguments was accepted. -/
def AuthEvent.exchangesFor (token state : String) : AuthEvent c → Bool
  | ((_, .completeOauthCallback t s), .exchanging) => t == token && s == state
  | _ => false

/-- The callback with these arguments logged in. -/
def AuthEvent.logsInBy (token state : String) : AuthEvent c → Bool
  | ((_, .verifyReplied t s _ _ _), .returned (.ok ())) => t == token && s == state
  | _ => false

/-- A callback with these arguments that was accepted awaits a reply. -/
def PendingCall.belongsTo (token state : String) : PendingCall → Bool
  | .exchange t s | .verify t s _ => t == token && s == state
  | .signIn _ => false

theorem countP_erase_add {α : Type} [DecidableEq α] (q : α → Bool) {a : α} {l : List α}
    (h : a ∈ l) : (l.erase a).countP q + [a].countP q = l.countP q := by
  rw [(List.perm_cons_erase h).countP_eq, List.countP_cons, List.countP_cons, List.countP_nil,
    Nat.zero_add]

/-- Every login uses up a call that was accepted. -/
theorem pending_step {level : LevelFilter} {st st' : AuthSystem} {now : Int} {i : AuthInput c}
    {o : AuthOutput} (hstep : AuthStep level st (now, i) o st') (token state : String) :
    [((now, i), o)].countP (AuthEvent.logsInBy token state) +
        st'.pending.countP (PendingCall.belongsTo token state) ≤
      [((now, i), o)].countP (AuthEvent.exchangesFor token state) +
        st.pending.countP (PendingCall.belongsTo token state) := by
  obtain ⟨hreply, hnext⟩ := hstep
  obtain rfl : (st.next level now i).1 = o := congrArg Prod.fst hnext
  obtain rfl : (st.next level now i).2 = st' := congrArg Prod.snd hnext
  clear hnext
  cases i with
  | completeOauthCallback t s =>
    simp only [AuthSystem.next]
    generalize st.manager.completeOauthCallback level now t s = p
    obtain ⟨fault | e | _, m⟩ := p
    · exact Nat.le_refl _
    · exact Nat.le_refl _
    · by_cases hcall : t = token ∧ s = state
      · simp only [hcall, AuthEvent.logsInBy, Bool.false_eq_true, not_false_eq_true,
          List.countP_cons_of_neg, List.countP_nil, PendingCall.belongsTo, BEq.rfl, Bool.and_self,
          List.countP_cons_of_pos, Nat.zero_add, AuthEvent.exchangesFor]
        omega
      · simp [AuthEvent.logsInBy, AuthEvent.exchangesFor, PendingCall.belongsTo, hcall]
  | signInReplied email io reply =>
    have herase := countP_erase_add (PendingCall.belongsTo token state) (hreply _ rfl)
    exact Nat.add_le_add_left (Nat.le.intro herase) 0
  | exchangeReplied t s reply =>
    have herase := countP_erase_add (PendingCall.belongsTo token state) (hreply _ rfl)
    simp only [AuthSystem.next]
    generalize st.manager.exchangeReplied level reply = p
    obtain ⟨fault | e | response, m⟩ := p
    · exact Nat.add_le_add_left (Nat.le.intro herase) 0
    · exact Nat.add_le_add_left (Nat.le.intro herase) 0
    · -- the call awaits the magic link now
      rw [Nat.add_comm (List.countP _ _)] at herase
      exact Nat.add_le_add_left (List.countP_append.trans herase).le 0
  | verifyReplied t s exchange io reply =>
    have herase := countP_erase_add (PendingCall.belongsTo token state) (hreply _ rfl)
    simp only [AuthSystem.next]
    generalize st.manager.verifyReplied io now exchange reply = p
    obtain ⟨fault | e | _, m⟩ := p
    · exact Nat.add_le_add_left (Nat.le.intro herase) 0
    · exact Nat.add_le_add_left (Nat.le.intro herase) 0
    · -- the call logs in and is gone
      rw [Nat.add_comm (List.countP _ _)] at herase
      exact herase.le.trans (Nat.le_add_left _ _)
  | _ => exact Nat.le_refl _

theorem logins_le_exchanges {level : LevelFilter} {m₀ : AuthManager} {es : AuthLog c}
    {st : AuthSystem} (hrun : Run (AuthStep level) ⟨m₀, []⟩ es st) (token state : String) :
    es.countP (AuthEvent.logsInBy token state) +
        st.pending.countP (PendingCall.belongsTo token state) ≤
      es.countP (AuthEvent.exchangesFor token state) := by
  refine hrun.history (P := fun es st => es.countP (AuthEvent.logsInBy token state) +
    st.pending.countP (PendingCall.belongsTo token state) ≤
      es.countP (AuthEvent.exchangesFor token state)) (Nat.le_refl 0) ?_
  rintro es st ⟨now, i⟩ o st' - ih hstep
  have h := pending_step hstep token state
  rw [List.countP_append, List.countP_append]
  omega

/-! ## 6. The latest flow -/

/-- `AuthManager::new` opens no flow. -/
theorem new_closed (storage : SecureStorage) (io : StorageIo c) (p : OAuthPendingState) :
    (AuthManager.new storage io).state ≠ .awaitingOAuthCallback p := by
  unfold AuthManager.new
  split
  · exact AuthState.noConfusion
  · exact AuthState.noConfusion
  · exact AuthState.noConfusion

/-- **A token is exchanged for the latest flow only.**  In every run, a callback that is accepted
has the state string of the latest flow, comes within ten minutes of its start, and nothing has
ended the flow; a stretch of a run in which no flow is started has at most one exchange; and a
manager that becomes logged in does so by `sign_in`, or by a callback whose token was exchanged,
once for each exchange. -/
theorem exchanged_for_latest {level : LevelFilter} {storage : SecureStorage} {io : StorageIo c}
    {es : AuthLog c} {st : AuthSystem}
    (hrun : Run (AuthStep level) ⟨AuthManager.new storage io, []⟩ es st) :
    (∀ (now : Int) (i : AuthInput c) st', AuthStep level st (now, i) .exchanging st' →
      ∃ token p, i = .completeOauthCallback token p.state ∧ OpenFlow es p ∧
        now - p.startedAt ≤ oauthFlowLimit) ∧
    (∀ es₁ es₂ es₃ : AuthLog c, es = es₁ ++ es₂ ++ es₃ →
      (∀ e ∈ es₂, AuthEvent.starts e = false) → es₂.countP AuthEvent.exchanges ≤ 1) ∧
    (∀ (now : Int) (i : AuthInput c) o st' session, AuthStep level st (now, i) o st' →
      st'.manager.state = .loggedIn session → st.manager.state ≠ .loggedIn session →
      (∃ email io reply, i = .signInReplied email io reply) ∨
      ∃ token state, AuthEvent.logsInBy token state ((now, i), o) = true ∧
        es.countP (AuthEvent.logsInBy token state) <
          es.countP (AuthEvent.exchangesFor token state)) := by
  refine ⟨?_, ?_, ?_⟩
  · intro now i st' hstep
    cases step_change hstep with
    | kept ho _ _ => exact absurd rfl ho
    | closed ho _ _ => exact absurd rfl ho
    | @accepted token p hbefore hage _ =>
      exact ⟨token, p, rfl, openFlow_run (new_closed storage io) hrun hbefore, hage⟩
  · rintro es₁ es₂ es₃ rfl hstarts
    obtain ⟨st₂, hrun₂, -⟩ := run_append.mp hrun
    obtain ⟨st₁, -, hrun₁⟩ := run_append.mp hrun₂
    exact (exchanges_le_one hrun₁ hstarts).1
  · intro now i o st' session hstep hafter hbefore
    cases step_change hstep with
    | kept _ hsame _ => exact absurd (hsame.symm.trans hafter) hbefore
    | started hstate => exact nomatch hstate.symm.trans hafter
    | accepted _ _ hstate => exact nomatch hstate.symm.trans hafter
    | signedIn _ => exact Or.inl ⟨_, _, _, rfl⟩
    | closed _ _ hnot => exact absurd hafter (hnot session)
    | @verified token state exchange io reply session' _ =>
      refine Or.inr ⟨token, state, by simp [AuthEvent.logsInBy], ?_⟩
      have hmem : PendingCall.verify token state exchange ∈ st.pending := hstep.1 _ rfl
      have hpos : 0 < st.pending.countP (PendingCall.belongsTo token state) :=
        List.countP_pos_iff.mpr ⟨_, hmem, by simp [PendingCall.belongsTo]⟩
      have hle := logins_le_exchanges hrun token state
      omega

end Runs

/-- A state string as the random generator gives it. -/
def sampleState : GeneratedState :=
  ⟨"q7Jd0aXbT2mZ5kPv9sLe3RwYc8HnUg1F", by decide +kernel, by decide +kernel⟩

/-- A process without a stored session. -/
def freshSystem : AuthSystem :=
  ⟨AuthManager.new (SecureStorage.empty true)
    (.granted ⟨List.replicate 12 7, rfl⟩ true true : StorageIo sampleCodec), []⟩

/-- A flow in it. -/
def flowStart : AuthInput sampleCodec := .startGoogleSignIn (.ok 17435) sampleState

def flowCallback : AuthInput sampleCodec := .completeOauthCallback "0b7e4f9c2d" sampleState.val

/-- A callback one minute after the start of its flow. -/
theorem callback_exchanged :
    ∃ (es : AuthLog sampleCodec) (st st' : AuthSystem),
      Run (AuthStep .info) freshSystem es st ∧
        AuthStep .info st (60 * 1000000000, flowCallback) .exchanging st' ∧
        ∃ p, p.state = sampleState.val ∧ OpenFlow es p := by
  let st := (freshSystem.next .info 0 flowStart).2
  have hstart : AuthStep .info freshSystem (0, flowStart) (freshSystem.next .info 0 flowStart).1 st :=
    ⟨fun _ => (nomatch ·), rfl⟩
  have hrun := Run.cons hstart (Run.nil _)
  have hstep : AuthStep .info st (60 * 1000000000, flowCallback) .exchanging
      (st.next .info (60 * 1000000000) flowCallback).2 :=
    ⟨fun _ => (nomatch ·), Prod.ext (by decide +kernel) rfl⟩
  obtain ⟨token, p, hinput, hopen, -⟩ := (exchanged_for_latest hrun).1 _ _ _ hstep
  exact ⟨_, _, _, hrun, hstep, p, (AuthInput.completeOauthCallback.inj hinput).2.symm, hopen⟩

end SwiftTunnel
