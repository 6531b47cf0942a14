/-
# How a sign-in ends

`auth/oauth_server.rs` (`parse_callback`) and `auth/manager.rs`.  `complete_oauth_callback` begins
with a log line that shows the first eight bytes of the token and of the state string, and both
come from the request of a browser.  `sign_in` and `complete_oauth_callback` pass through
`LoggingIn`; most of their errors put the state into `Error`, and two return without touching it.

The exported functions hold one lock for the whole of a call, so here a call is run from its
beginning to its end, with each reply of the network given at once.

A slice at byte eight is taken between two characters or panics (`takeBytes_isSome_iff`), so whether
a log line can be written is a matter of the UTF-8 of its texts, and of the log level, which may let
nothing be written.  For the end of a call there is one lemma for each place where it may return
(`endsWell_sessionReplied`, `endsWell_exchangeReplied`).

* `callback_slices_iff`: no slice panics, exactly when byte eight is not inside a character.
* `callback_panics`: a request whose token has a character across it.
* `sign_in_ends_iff`: the state is terminal when a call returns, exactly when a session that was
  received is kept and the flow has not expired.
* `sign_in_left_open`: the two calls that return an error and leave the state as it is.

The package that parses the URL is a parameter: what it finds in a request is an input.
-/
import SwiftTunnel.Auth.Manager

namespace SwiftTunnel

open Rust

/-! ## 1. The request of a browser -/

/-- What the package `url` finds in a URL: the path, and the query in pairs, decoded. -/
structure ParsedUrl where
  path : String
  queryPairs : List (String × String)
  deriving DecidableEq, Repr

structure OAuthCallbackData where
  token : String
  state : String
  deriving DecidableEq, Repr

/-- The loop over the query: of several values the last one counts. -/
def callbackParams : List (String × String) → Option String × Option String :=
  List.foldl (fun (token, state) (key, value) =>
    if key = "token" then (some value, state)
    else if key = "state" then (token, some value)
    else (token, state)) (none, none)

/-- `parse_callback`; `parse` is `Url::parse`. -/
def parseCallback (parse : String → Option ParsedUrl) (urlStr : String) :
    Option OAuthCallbackData :=
  (parse ("http://localhost" ++ urlStr)).bind fun url =>
    if url.path ≠ "/callback" then none
    else match callbackParams url.queryPairs with
      | (some t, some s) => if t ≠ "" ∧ s ≠ "" then some ⟨t, s⟩ else none
      | _ => none

/-! ## 2. Slices -/

/-- `str::is_char_boundary`. -/
def IsCharBoundary (s : String) (i : Nat) : Prop :=
  ∃ front, front <+: s.toList ∧ (String.ofList front).utf8ByteSize = i

theorem utf8ByteSize_cons (c : Char) (l : List Char) :
    (String.ofList (c :: l)).utf8ByteSize = c.utf8Size + (String.ofList l).utf8ByteSize := by
  rw [String.ofList_cons, String.utf8ByteSize_append, String.utf8ByteSize_singleton]

theorem utf8ByteSize_nil : (String.ofList []).utf8ByteSize = 0 := by
  rw [String.ofList_nil, String.utf8ByteSize_empty]

/-- A front that is not empty begins with the first character. -/
theorem prefix_cons_bytes {n : Nat} {c : Char} {cs front : List Char} (hfront : front <+: c :: cs)
    (hsize : (String.ofList front).utf8ByteSize = n + 1) :
    ∃ rest, rest <+: cs ∧ c.utf8Size + (String.ofList rest).utf8ByteSize = n + 1 := by
  cases front with
  | nil =>
    rw [utf8ByteSize_nil] at hsize
    exact absurd hsize (Nat.succ_ne_zero n).symm
  | cons d rest =>
    obtain ⟨rfl, hrest⟩ := List.cons_prefix_cons.mp hfront
    rw [utf8ByteSize_cons] at hsize
    exact ⟨rest, hrest, hsize⟩

theorem takeBytes_isSome_iff {n : Nat} {l : List Char} :
    (takeBytes n l).isSome = true ↔
      ∃ front, front <+: l ∧ (String.ofList front).utf8ByteSize = n := by
  induction l generalizing n with
  | nil =>
    cases n with
    | zero => exact iff_of_true rfl ⟨[], List.prefix_rfl, utf8ByteSize_nil⟩
    | succ n =>
      refine iff_of_false Bool.false_ne_true ?_
      rintro ⟨front, hfront, hsum⟩
      rw [List.prefix_nil.mp hfront, utf8ByteSize_nil] at hsum
      exact absurd hsum (Nat.succ_ne_zero n).symm
  | cons c cs ih =>
    cases n with
    | zero => exact iff_of_true rfl ⟨[], List.nil_prefix, utf8ByteSize_nil⟩
    | succ n =>
      rw [takeBytes]
      split
      · rename_i hle
        rw [Option.isSome_map, ih]
        constructor
        · rintro ⟨front, hfront, hsum⟩
          refine ⟨c :: front, List.cons_prefix_cons.mpr ⟨rfl, hfront⟩, ?_⟩
          rw [utf8ByteSize_cons]
          omega
        · rintro ⟨front, hfront, hsum⟩
          obtain ⟨rest, hrest, hsum⟩ := prefix_cons_bytes hfront hsum
          exact ⟨rest, hrest, by omega⟩
      · rename_i hgt
        refine iff_of_false Bool.false_ne_true ?_
        rintro ⟨front, hfront, hsum⟩
        obtain ⟨rest, -, hsum⟩ := prefix_cons_bytes hfront hsum
        omega

/-- Every text of a log line can be cut at byte eight, or at its end. -/
def Sliceable (texts : List String) : Prop :=
  ∀ s ∈ texts, IsCharBoundary s (min s.utf8ByteSize 8)

theorem firstEight_ok_iff {s : String} :
    (∃ front, firstEight s = .ok front) ↔ IsCharBoundary s (min s.utf8ByteSize 8) := by
  rw [IsCharBoundary, ← takeBytes_isSome_iff, firstEight]
  cases takeBytes (min s.utf8ByteSize 8) s.toList with
  | none => simp
  | some cs => simp

/-- **When a log line can be written.** -/
theorem logLine_ok_iff {enabled : Bool} {texts : List String} :
    logLine enabled texts = .ok () ↔ (enabled = true → Sliceable texts) := by
  cases enabled with
  | false => simp [logLine]
  | true =>
    rw [logLine, if_pos rfl]
    induction texts with
    | nil => simp [Sliceable]; rfl
    | cons s texts ih =>
      have hcons : Sliceable (s :: texts) ↔ (∃ front, firstEight s = .ok front) ∧ Sliceable texts := by
        rw [Sliceable, List.forall_mem_cons, ← Sliceable, firstEight_ok_iff]
      rw [hcons]
      cases hs : firstEight s with
      | error fault =>
        have hforM : ((s :: texts).forM fun s => (firstEight s).map fun _ => ()) =
            (.error fault : Checked Unit) := by
          rw [List.forM_eq_forM, List.forM_cons, hs]
          rfl
        simp [hforM]
      | ok front =>
        have hforM : ((s :: texts).forM fun s => (firstEight s).map fun _ => ()) =
            (texts.forM fun s => (firstEight s).map fun _ => () : Checked Unit) := by
          rw [List.forM_eq_forM, List.forM_cons, hs]
          rfl
        rw [hforM, ih]
        simp

namespace AuthManager

/-- **When a callback is answered without a panic**, up to the comparison of the state strings:
when the first eight bytes of what is logged end between two characters.  The token and the state
string are logged at first, and the two state strings when they differ. -/
theorem callback_slices_iff (m : AuthManager) (level : LevelFilter) (now : Int)
    (token state : String) :
    (∃ result, (m.completeOauthCallback level now token state).1 = .ok result) ↔
      (level.logsInfo = true → Sliceable [token, state]) ∧
        ∀ pending, m.state = .awaitingOAuthCallback pending →
          now - pending.startedAt ≤ oauthFlowLimit → state ≠ pending.state →
            level.logsError = true → Sliceable [pending.state, state] := by
  rw [← logLine_ok_iff, completeOauthCallback]
  cases hinfo : logLine level.logsInfo [token, state] with
  | error fault => simp
  | ok _ =>
    rw [and_iff_right rfl]
    dsimp only
    split
    · rename_i pending hstate
      have hpending : ∀ p : OAuthPendingState, m.state = .awaitingOAuthCallback p → p = pending :=
        fun p hp => AuthState.awaitingOAuthCallback.inj (hp.symm.trans hstate)
      split
      · rename_i hexpired
        refine ⟨fun _ p hp hfresh => ?_, fun _ => ⟨_, rfl⟩⟩
        rw [hpending p hp] at hfresh
        exact absurd hexpired (Int.not_lt.mpr hfresh)
      rename_i hfresh
      split
      · rename_i hdiffer
        have hone : (∀ p : OAuthPendingState, m.state = .awaitingOAuthCallback p →
            now - p.startedAt ≤ oauthFlowLimit → state ≠ p.state →
              level.logsError = true → Sliceable [p.state, state]) ↔
            logLine level.logsError [pending.state, state] = .ok () := by
          rw [logLine_ok_iff]
          refine ⟨fun h => h pending hstate (Int.not_lt.mp hfresh) hdiffer, fun h p hp _ _ => ?_⟩
          rw [hpending p hp]
          exact h
        rw [hone]
        cases logLine level.logsError [pending.state, state] with
        | error fault => simp
        | ok _ => simp
      · rename_i hsame
        refine ⟨fun _ p hp _ hdiffer => ?_, fun _ => ⟨_, rfl⟩⟩
        rw [hpending p hp] at hdiffer
        exact absurd hdiffer hsame
    · rename_i hnot
      exact ⟨fun _ p hp => absurd hp (hnot p), fun _ => ⟨_, rfl⟩⟩

end AuthManager

/-- `Url::parse` on one request. -/
def sampleParse (url : String) : Option ParsedUrl :=
  if url = "http://localhost/callback?token=aaaaaaa%C3%A9&state=b" then
    some ⟨"/callback", [("token", "aaaaaaaé"), ("state", "b")]⟩
  else none

/-- **A request that ends the process.**  The eighth byte of its token is the first of two. -/
theorem callback_panics :
    ∃ data, parseCallback sampleParse "/callback?token=aaaaaaa%C3%A9&state=b" = some data ∧
      (freshSystem.manager.completeOauthCallback .info 0 data.token data.state).1 =
        .error .outOfBounds :=
  ⟨⟨"aaaaaaaé", "b"⟩, by decide +kernel, by decide +kernel⟩

/-! ## 3. Whole calls -/

section Calls

variable {c : SessionCodec}

namespace AuthManager

/-- `sign_in` from its beginning to its end. -/
def signInCall (m : AuthManager) (io : StorageIo c) (now : Int) (email : String)
    (reply : Except SignInError SupabaseAuthResponse) :
    Checked (Except SignInError Unit) × AuthManager := m.signIn.signInReplied io now email reply

/-- `complete_oauth_callback` from its beginning to its end; `later` is the time of the last
reply. -/
def completeOauthCallbackCall (m : AuthManager) (level : LevelFilter) (now : Int)
    (exchangeToken callbackState : String) (exchangeReply : Except SignInError ExchangeTokenResponse)
    (io : StorageIo c) (later : Int) (verifyReply : Except SignInError SupabaseAuthResponse) :
    Checked (Except SignInError Unit) × AuthManager :=
  match m.completeOauthCallback level now exchangeToken callbackState with
  | (.error fault, m) => (.error fault, m)
  | (.ok (.error e), m) => (.ok (.error e), m)
  | (.ok (.ok ()), m) => match m.exchangeReplied level exchangeReply with
    | (.error fault, m) => (.error fault, m)
    | (.ok (.error e), m) => (.ok (.error e), m)
    | (.ok (.ok exchange), m) => m.verifyReplied io later exchange verifyReply

end AuthManager

/-- A state that a call may end in. -/
def AuthState.Ends (result : Except SignInError Unit) (state : AuthState) : Prop :=
  match result with
  | .ok () => ∃ session, state = .loggedIn session
  | .error _ => state = .loggedOut ∨ ∃ message, state = .error message

/-- If the call returns, its state is one of these. -/
def EndsWell (call : Checked (Except SignInError Unit) × AuthManager) : Prop :=
  ∀ result, call.1 = .ok result → call.2.state.Ends result

/-- The session of a reply, if there is one, can be stored. -/
def KeepsSession (io : StorageIo c) (now : Int) (email : String)
    (reply : Except SignInError SupabaseAuthResponse) : Prop :=
  ∀ response session, reply = .ok response →
    AuthManager.sessionOf now response email = .ok session → io.CanStore session

theorem keepsSession_ok {io : StorageIo c} {now : Int} {email : String}
    {response : SupabaseAuthResponse} :
    KeepsSession io now email (.ok response) ↔
      ∀ session, AuthManager.sessionOf now response email = .ok session → io.CanStore session := by
  refine ⟨fun h session => h response session rfl, fun h response' session hreply => ?_⟩
  obtain rfl := Except.ok.inj hreply
  exact h session

theorem endsWell_fault (fault : Fault) (m : AuthManager) : EndsWell (.error fault, m) :=
  fun _ h => nomatch h

theorem endsWell_ok {m : AuthManager} {session : AuthSession} (h : m.state = .loggedIn session) :
    EndsWell (.ok (.ok ()), m) := by
  intro result hresult
  obtain rfl := Except.ok.inj hresult
  exact ⟨session, h⟩

theorem endsWell_error_iff {e : SignInError} {m : AuthManager} :
    EndsWell (.ok (.error e), m) ↔ m.state = .loggedOut ∨ ∃ message, m.state = .error message := by
  refine ⟨fun h => h _ rfl, fun h result hresult => ?_⟩
  obtain rfl := Except.ok.inj hresult
  exact h

theorem endsWell_error (e : SignInError) (message : String) {m : AuthManager}
    (h : m.state = .error message) : EndsWell (.ok (.error e), m) :=
  endsWell_error_iff.mpr (Or.inr ⟨message, h⟩)

/-- **How a reply ends a call** that is in `LoggingIn`. -/
theorem endsWell_sessionReplied (m : AuthManager) (io : StorageIo c) (now : Int) (email : String)
    (reply : Except SignInError SupabaseAuthResponse) (hstate : m.state = .loggingIn) :
    EndsWell (m.sessionReplied io now email reply) ↔ KeepsSession io now email reply := by
  cases reply with
  | error e =>
    exact iff_of_true (endsWell_error e e.toText rfl) fun _ response h => nomatch h
  | ok response =>
    rw [keepsSession_ok]
    cases hsession : AuthManager.sessionOf now response email with
    | error fault =>
      have hcall : m.sessionReplied io now email (.ok response) = (.error fault, m) := by
        simp only [AuthManager.sessionReplied, hsession]
      rw [hcall]
      exact iff_of_true (endsWell_fault fault m) fun session h => nomatch h
    | ok session =>
      have hone : (∀ session', (.ok session : Checked AuthSession) = .ok session' →
          io.CanStore session') ↔ io.CanStore session := by
        simp
      rw [hone, ← m.storage.storeSession_ok_iff]
      rcases hstore : m.storage.storeSession io session with ⟨result, storage⟩
      cases result with
      | error e =>
        -- the early return leaves `LoggingIn`
        have hcall : m.sessionReplied io now email (.ok response) =
            (.ok (.error (.storage e)), { m with storage := storage }) := by
          simp only [AuthManager.sessionReplied, hsession, hstore]
        rw [hcall, endsWell_error_iff]
        simp [hstate]
      | ok _ =>
        have hcall : m.sessionReplied io now email (.ok response) =
            (.ok (.ok ()), { m with storage := storage, state := .loggedIn session }) := by
          simp only [AuthManager.sessionReplied, hsession, hstore]
        rw [hcall]
        exact iff_of_true (endsWell_ok rfl) rfl

/-- **How the reply to the exchange ends a callback**, or goes on with the magic link. -/
theorem endsWell_exchangeReplied (m : AuthManager) (level : LevelFilter)
    (exchangeReply : Except SignInError ExchangeTokenResponse) (io : StorageIo c) (later : Int)
    (verifyReply : Except SignInError SupabaseAuthResponse) (hstate : m.state = .loggingIn) :
    EndsWell (match m.exchangeReplied level exchangeReply with
      | (.error fault, m) => (.error fault, m)
      | (.ok (.error e), m) => (.ok (.error e), m)
      | (.ok (.ok exchange), m) => m.verifyReplied io later exchange verifyReply) ↔
        ∀ exchange, exchangeReply = .ok exchange →
          (level.logsInfo = true → Sliceable [exchange.token]) →
            KeepsSession io later exchange.email verifyReply := by
  cases exchangeReply with
  | error e =>
    exact iff_of_true (endsWell_error e e.toText rfl) fun exchange h => nomatch h
  | ok exchange =>
    have hone : (∀ exchange', (.ok exchange : Except SignInError _) = .ok exchange' →
        (level.logsInfo = true → Sliceable [exchange'.token]) →
          KeepsSession io later exchange'.email verifyReply) ↔
        (logLine level.logsInfo [exchange.token] = .ok () →
          KeepsSession io later exchange.email verifyReply) := by
      rw [logLine_ok_iff]
      simp only [Except.ok.injEq, forall_eq']
    rw [hone]
    cases hlog : logLine level.logsInfo [exchange.token] with
    | error fault =>
      have hcall : m.exchangeReplied level (.ok exchange) = (.error fault, m) := by
        simp only [AuthManager.exchangeReplied, hlog]
      rw [hcall]
      exact iff_of_true (endsWell_fault fault m) fun h => nomatch h
    | ok _ =>
      have hcall : m.exchangeReplied level (.ok exchange) = (.ok (.ok exchange), m) := by
        simp only [AuthManager.exchangeReplied, hlog]
      rw [hcall, forall_prop_of_true rfl]
      exact endsWell_sessionReplied m io later exchange.email verifyReply hstate

/-- **When a sign-in ends in a terminal state.**  `sign_in` does exactly when a session that it
receives can be stored; a callback does exactly when, with its first line logged, the flow has not
expired and a session that it receives can be stored. -/
theorem sign_in_ends_iff (m : AuthManager) (io : StorageIo c) (now later : Int) (email : String)
    (reply : Except SignInError SupabaseAuthResponse) (level : LevelFilter)
    (pending : OAuthPendingState) (token state : String)
    (exchangeReply : Except SignInError ExchangeTokenResponse) :
    (EndsWell (m.signInCall io now email reply) ↔ KeepsSession io now email reply) ∧
      (EndsWell ({ m with state := .awaitingOAuthCallback pending }.completeOauthCallbackCall level
          now token state exchangeReply io later reply) ↔
        ((level.logsInfo = true → Sliceable [token, state]) →
          now - pending.startedAt ≤ oauthFlowLimit ∧
            (state = pending.state → ∀ exchange, exchangeReply = .ok exchange →
              (level.logsInfo = true → Sliceable [exchange.token]) →
                KeepsSession io later exchange.email reply))) := by
  refine ⟨endsWell_sessionReplied m.signIn io now email reply rfl, ?_⟩
  rw [← logLine_ok_iff, AuthManager.completeOauthCallbackCall, AuthManager.completeOauthCallback]
  cases logLine level.logsInfo [token, state] with
  | error fault => exact iff_of_true (endsWell_fault fault _) fun h => nomatch h
  | ok _ =>
    rw [forall_prop_of_true rfl]
    dsimp only
    by_cases hexpired : oauthFlowLimit < now - pending.startedAt
    · -- the early return leaves the flow open
      rw [if_pos hexpired, endsWell_error_iff]
      refine iff_of_false (by simp) fun h => absurd hexpired (Int.not_lt.mpr h.1)
    rw [if_neg hexpired, and_iff_right (Int.not_lt.mp hexpired)]
    by_cases hsame : state = pending.state
    · rw [if_neg (not_not.mpr hsame), forall_prop_of_true hsame]
      exact endsWell_exchangeReplied _ level exchangeReply io later reply rfl
    · rw [if_pos hsame]
      refine iff_of_true ?_ fun heq => absurd heq hsame
      cases logLine level.logsError [pending.state, state] with
      | error fault => exact endsWell_fault fault _
      | ok _ => exact endsWell_error _ _ rfl

end Calls

/-- A disk without room. -/
def fullDisk : StorageIo sampleCodec :=
  { (.granted sampleNonce true true : StorageIo sampleCodec) with
    write := .failed "disk full" }

/-- A session for an hour, up to the expiry of `sessionA`. -/
def replyA : SupabaseAuthResponse := ⟨"at-a", "rt-a", 3600, ⟨"a", some "a@example.com"⟩⟩

def awaitingManager : AuthManager :=
  { freshSystem.manager with state := .awaitingOAuthCallback ⟨sampleState.val, 0⟩ }

/-- **Two calls return an error and leave a sign-in open**: one that could not store its session,
and a callback that came too late. -/
theorem sign_in_left_open :
    ((freshSystem.manager.signInCall fullDisk 1893452400000000000 "a@example.com"
          (.ok replyA)).1 = .ok (.error (.storage "Failed to write session file: disk full")) ∧
      (freshSystem.manager.signInCall fullDisk 1893452400000000000 "a@example.com"
          (.ok replyA)).2.state = .loggingIn) ∧
    ((awaitingManager.completeOauthCallbackCall .info 601000000000 "0b7e4f9c2d" sampleState.val
          (.error (.network "offline")) fullDisk 601000000000 (.ok replyA)).1 =
        .ok (.error (.auth "OAuth flow expired. Please try again.")) ∧
      (awaitingManager.completeOauthCallbackCall .info 601000000000 "0b7e4f9c2d" sampleState.val
          (.error (.network "offline")) fullDisk 601000000000 (.ok replyA)).2.state =
        .awaitingOAuthCallback ⟨sampleState.val, 0⟩) := by
  exact ⟨⟨rfl, rfl⟩, rfl, rfl⟩

end SwiftTunnel
