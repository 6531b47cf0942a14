/-
# Refreshing the session

`auth/manager.rs`, `refresh_if_needed` and `get_access_token`, with the expiry of `auth/types.rs`.
A session that expires within five minutes is refreshed: the server is asked up to three times,
one and two seconds apart.  A refresh that fails leaves the session as it is, counts one failure,
and is an error only once the token has expired.

A call is cut where it awaits the network, as in `Manager`; `awaitReplies` puts the pieces
together, for a call with no other between its requests.  The sleep before a request is part of
the wait for its reply.

What a reply can do is listed once (`refreshReplied_cases`), and a call is the replies that it has
had so far, so the results about it go by induction on these.

* `refresh_attempts`: what a call does, whatever the replies are.
* `token_not_expired`: a token that is handed out has not expired, at some time of the call at which
  the clock was read.

Times that are out of range panic, as they do in the code (`secondsFrom`).  Nothing is claimed of the
time that passes between the last look at the clock and the use of a token.
-/
import SwiftTunnel.Auth.Manager
import SwiftTunnel.Auth.RefreshFailures

namespace SwiftTunnel

open Rust

/-! ## 1. Expiry -/

/-- `chrono::Duration::minutes(5)`. -/
def expiryMargin : Int := 5 * 60 * 1000000000

namespace AuthSession

/-- `is_expired`. -/
def isExpired (session : AuthSession) (now : Int) : Bool := decide (session.expiresAt ≤ now)

/-- `expires_soon`. -/
def expiresSoon (session : AuthSession) (now : Int) : Bool :=
  decide (session.expiresAt ≤ now + expiryMargin)

/-- `needs_refresh`, which reads the clock once or twice. -/
def needsRefresh (session : AuthSession) (now soonAt : Int) : Bool :=
  session.isExpired now || session.expiresSoon soonAt

end AuthSession

/-- `MAX_REFRESH_RETRIES`. -/
def maxRefreshRetries : Nat := 3

/-! ## 2. One request -/

/-- A `refresh_if_needed` that awaits a reply: the session it has read, and which of its requests
this is. -/
structure RefreshCall where
  session : AuthSession
  attempt : Nat
  attempt_bound : 1 ≤ attempt ∧ attempt ≤ maxRefreshRetries
  deriving DecidableEq

def RefreshCall.first (session : AuthSession) : RefreshCall := ⟨session, 1, by decide⟩

/-- A reply, and what the clock and the two files give while it is dealt with. -/
structure RefreshReply (c : SessionCodec) where
  reply : Except SignInError SupabaseAuthResponse
  now : Int
  io : StorageIo c
  failureIo : RefreshIo
  /-- The clock when the failures are read, and when a new record is made. -/
  countedAt : Int
  openedAt : Int
  /-- The clock of the last `is_expired`. -/
  checkedAt : Int

inductive RefreshProgress where
  | returned (result : Except SignInError Unit)
  /-- A request is sent after so many seconds. -/
  | asking (call : RefreshCall) (delay : Nat)
  | panicked (fault : Fault)
  deriving DecidableEq

/-- `try_refresh_token`, from the reply on.  Only the id and the e-mail address of the user are
taken from it. -/
def tryRefreshToken (session : AuthSession) (now : Int)
    (reply : Except SignInError SupabaseAuthResponse) : Checked (Except SignInError AuthSession) :=
  match reply with
  | .error e => .ok (.error e)
  | .ok response => do
    let expiresAt ← secondsFrom now response.expiresIn
    .ok (.ok
      { accessToken := response.accessToken
        refreshToken := response.refreshToken
        expiresAt := expiresAt
        user :=
          { id := response.user.id
            email := response.user.email.getD session.user.email
            isTester := session.user.isTester
            isBanned := session.user.isBanned
            bannedReason := session.user.bannedReason
            bannedAt := session.user.bannedAt } })

namespace AuthManager

variable {c : SessionCodec}

def notAuthenticated : SignInError := .auth "Not authenticated"

/-- `refresh_if_needed`, up to its first request. -/
def refreshIfNeeded (m : AuthManager) (now soonAt : Int) : RefreshProgress :=
  match m.state with
  | .loggedIn session =>
    if session.needsRefresh now soonAt then .asking (.first session) 0 else .returned (.ok ())
  | _ => .returned (.error notAuthenticated)

/-- `refresh_if_needed` from a reply to its next request, or to its end.  That the new session
cannot be stored is only logged. -/
def refreshReplied (codec : RecordCodec) (m : AuthManager) (f : RefreshFiles) (call : RefreshCall)
    (r : RefreshReply c) : RefreshProgress × AuthManager × RefreshFiles :=
  match tryRefreshToken call.session r.now r.reply with
  | .error fault => (.panicked fault, m, f)
  | .ok (.ok session) =>
    (.returned (.ok ()),
      { m with
        storage := (m.storage.storeSession r.io session).2
        state := .loggedIn session },
      f.resetRefreshFailures r.failureIo)
  | .ok (.error e) =>
    if h : call.attempt < maxRefreshRetries then
      -- the delays double: one second, then two
      (.asking ⟨call.session, call.attempt + 1, Nat.le_add_left 1 _, h⟩ (1 <<< (call.attempt - 1)),
        m, f)
    else
      let f := (f.incrementRefreshFailures codec r.failureIo r.countedAt r.openedAt).2
      if call.session.isExpired r.checkedAt then (.returned (.error e), m, f)
      else (.returned (.ok ()), m, f)

/-- The end of `get_access_token`. -/
def currentToken (m : AuthManager) : Except SignInError String :=
  match m.state with
  | .loggedIn session => .ok session.accessToken
  | _ => .error notAuthenticated

/-- A call goes on as the replies to its requests come in. -/
def awaitReplies (codec : RecordCodec) :
    RefreshProgress × AuthManager × RefreshFiles → List (RefreshReply c) →
      RefreshProgress × AuthManager × RefreshFiles
  | p, [] => p
  | (.asking call _, m, f), r :: replies =>
    awaitReplies codec (m.refreshReplied codec f call r) replies
  | (.returned result, m, f), _ :: _ => (.returned result, m, f)
  | (.panicked fault, m, f), _ :: _ => (.panicked fault, m, f)

/-- `get_access_token`, with the replies to the requests it sends; `none` when it awaits more. -/
def getAccessToken (codec : RecordCodec) (m : AuthManager) (f : RefreshFiles) (now soonAt : Int)
    (replies : List (RefreshReply c)) :
    Option (Checked (Except SignInError String)) × AuthManager × RefreshFiles :=
  match awaitReplies codec (m.refreshIfNeeded now soonAt, m, f) replies with
  | (.returned (.ok ()), m, f) => (some (.ok m.currentToken), m, f)
  | (.returned (.error e), m, f) => (some (.ok (.error e)), m, f)
  | (.panicked fault, m, f) => (some (.error fault), m, f)
  | (.asking _ _, m, f) => (none, m, f)

end AuthManager

/-! ## 3. What one reply does -/

/-- What an account is allowed, as against what the server says of it. -/
def UserInfo.standing (user : UserInfo) : Bool × Bool × Option String × Option String :=
  (user.isTester, user.isBanned, user.bannedReason, user.bannedAt)

/-- **A refresh keeps the standing of the user**, and takes the tokens from the reply. -/
theorem tryRefreshToken_ok {session session' : AuthSession} {now : Int}
    {reply : Except SignInError SupabaseAuthResponse}
    (h : tryRefreshToken session now reply = .ok (.ok session')) :
    session'.user.standing = session.user.standing ∧ ∃ response, reply = .ok response ∧
      session'.accessToken = response.accessToken ∧
      session'.refreshToken = response.refreshToken ∧
      secondsFrom now response.expiresIn = .ok session'.expiresAt := by
  cases reply with
  | error e => exact nomatch h
  | ok response =>
    rw [tryRefreshToken] at h
    cases hexp : secondsFrom now response.expiresIn with
    | error fault => exact nomatch hexp ▸ h
    | ok expiresAt =>
      rw [hexp] at h
      obtain rfl := Except.ok.inj (Except.ok.inj h)
      exact ⟨rfl, response, rfl, rfl, rfl, hexp⟩

/-- The clock that is read for the new session lies before its expiry. -/
theorem secondsFrom_lt {now expiresAt : Int} {secs : Int64} (h : secondsFrom now secs = .ok expiresAt)
    (hpos : 0 < secs.toInt) : now < expiresAt := by
  rw [secondsFrom] at h
  split at h
  · obtain rfl := Except.ok.inj h
    omega
  · exact nomatch h

section Replies

variable {c : SessionCodec} {codec : RecordCodec} {m : AuthManager} {f : RefreshFiles}
  {session : AuthSession}

/-- The request has no answer, or an error for one. -/
def RefreshReply.Failed (r : RefreshReply c) : Prop := ∃ e, r.reply = .error e

/-- The seconds before a request. -/
def retryDelay (attempt : Nat) : Nat := if attempt ≤ 1 then 0 else 1 <<< (attempt - 2)

/-- A failure before the last attempt: the next request is the only thing that happens. -/
theorem refreshReplied_retry {call : RefreshCall} {r : RefreshReply c} (hfailed : r.Failed)
    (hmore : call.attempt < maxRefreshRetries) :
    m.refreshReplied codec f call r =
      (.asking ⟨call.session, call.attempt + 1, Nat.le_add_left 1 _, hmore⟩
        (retryDelay (call.attempt + 1)), m, f) := by
  obtain ⟨e, he⟩ := hfailed
  have hdelay : retryDelay (call.attempt + 1) = 1 <<< (call.attempt - 1) := by
    have hone := call.attempt_bound.1
    rw [retryDelay, if_neg (by omega)]
    rfl
  rw [AuthManager.refreshReplied, he, tryRefreshToken, hdelay]
  exact dif_pos hmore

/-- A failure of the last attempt. -/
theorem refreshReplied_last {call : RefreshCall} {r : RefreshReply c} {e : SignInError}
    (he : r.reply = .error e) (hlast : call.attempt = maxRefreshRetries) :
    m.refreshReplied codec f call r =
      (.returned (if call.session.isExpired r.checkedAt then .error e else .ok ()), m,
        (f.incrementRefreshFailures codec r.failureIo r.countedAt r.openedAt).2) := by
  rw [AuthManager.refreshReplied, he, tryRefreshToken]
  refine (dif_neg (hlast ▸ Nat.lt_irrefl _)).trans ?_
  cases call.session.isExpired r.checkedAt <;> rfl

theorem refreshReplied_ok {call : RefreshCall} {r : RefreshReply c} {session' : AuthSession}
    (h : tryRefreshToken call.session r.now r.reply = .ok (.ok session')) :
    m.refreshReplied codec f call r =
      (.returned (.ok ()),
        { m with
          storage := (m.storage.storeSession r.io session').2
          state := .loggedIn session' },
        f.resetRefreshFailures r.failureIo) := by
  rw [AuthManager.refreshReplied, h]

theorem refreshReplied_fault {call : RefreshCall} {r : RefreshReply c} {fault : Fault}
    (h : tryRefreshToken call.session r.now r.reply = .error fault) :
    m.refreshReplied codec f call r = (.panicked fault, m, f) := by
  rw [AuthManager.refreshReplied, h]

/-- **What a reply can do**: panic at a time out of range, log in again, lead to the next request,
or end the call with one more failure. -/
theorem refreshReplied_cases (codec : RecordCodec) (m : AuthManager) (f : RefreshFiles)
    (call : RefreshCall) (r : RefreshReply c) :
    (∃ fault, m.refreshReplied codec f call r = (.panicked fault, m, f)) ∨
    (∃ session', tryRefreshToken call.session r.now r.reply = .ok (.ok session') ∧
      m.refreshReplied codec f call r =
        (.returned (.ok ()),
          { m with
            storage := (m.storage.storeSession r.io session').2
            state := .loggedIn session' },
          f.resetRefreshFailures r.failureIo)) ∨
    (r.Failed ∧ ∃ hmore : call.attempt < maxRefreshRetries,
      m.refreshReplied codec f call r =
        (.asking ⟨call.session, call.attempt + 1, Nat.le_add_left 1 _, hmore⟩
          (retryDelay (call.attempt + 1)), m, f)) ∨
    ∃ e, r.reply = .error e ∧ call.attempt = maxRefreshRetries ∧
      m.refreshReplied codec f call r =
        (.returned (if call.session.isExpired r.checkedAt then .error e else .ok ()), m,
          (f.incrementRefreshFailures codec r.failureIo r.countedAt r.openedAt).2) := by
  cases htry : tryRefreshToken call.session r.now r.reply with
  | error fault => exact Or.inl ⟨fault, refreshReplied_fault htry⟩
  | ok result =>
    cases result with
    | ok session' => exact Or.inr (Or.inl ⟨session', rfl, refreshReplied_ok htry⟩)
    | error e =>
      have he : r.reply = .error e := by
        cases hreply : r.reply with
        | error e' =>
          rw [hreply] at htry
          rw [Except.error.inj (Except.ok.inj htry)]
        | ok response =>
          rw [hreply, tryRefreshToken] at htry
          cases hexp : secondsFrom r.now response.expiresIn with
          | error fault => exact nomatch hexp ▸ htry
          | ok expiresAt => exact nomatch hexp ▸ htry
      by_cases hmore : call.attempt < maxRefreshRetries
      · exact Or.inr (Or.inr (Or.inl ⟨⟨e, he⟩, hmore, refreshReplied_retry ⟨e, he⟩ hmore⟩))
      · have hlast : call.attempt = maxRefreshRetries :=
          Nat.le_antisymm call.attempt_bound.2 (Nat.not_lt.mp hmore)
        exact Or.inr (Or.inr (Or.inr ⟨e, he, hlast, refreshReplied_last he hlast⟩))

/-! ## 4. A whole call -/

theorem refreshIfNeeded_needed {now soonAt : Int} (hstate : m.state = .loggedIn session)
    (hneeds : session.needsRefresh now soonAt = true) :
    m.refreshIfNeeded now soonAt = .asking (.first session) 0 := by
  rw [AuthManager.refreshIfNeeded, hstate]
  exact if_pos hneeds

theorem awaitReplies_append (p : RefreshProgress × AuthManager × RefreshFiles)
    (before after : List (RefreshReply c)) :
    AuthManager.awaitReplies codec p (before ++ after) =
      AuthManager.awaitReplies codec (AuthManager.awaitReplies codec p before) after := by
  induction before generalizing p with
  | nil => simp [AuthManager.awaitReplies]
  | cons r before ih =>
    obtain ⟨progress, m, f⟩ := p
    cases progress with
    | asking call delay => exact ih _
    | returned result => cases after <;> rfl
    | panicked fault => cases after <;> rfl

/-- A call that has ended reads no more replies. -/
theorem awaitReplies_ended {progress : RefreshProgress}
    (hended : ∀ call delay, progress ≠ .asking call delay) (replies : List (RefreshReply c)) :
    AuthManager.awaitReplies codec (progress, m, f) replies = (progress, m, f) := by
  cases replies with
  | nil => rfl
  | cons r replies =>
    cases progress with
    | asking call delay => exact absurd rfl (hended call delay)
    | returned result => rfl
    | panicked fault => rfl

/-- Failures before the last attempt, one after the other. -/
theorem awaitReplies_failed {failed : List (RefreshReply c)}
    (hfailed : ∀ r ∈ failed, r.Failed) (hmore : failed.length < maxRefreshRetries) :
    AuthManager.awaitReplies codec (.asking (.first session) 0, m, f) failed =
      (.asking ⟨session, failed.length + 1, Nat.le_add_left 1 _, hmore⟩
        (retryDelay (failed.length + 1)), m, f) := by
  induction failed using List.reverseRecOn with
  | nil => rfl
  | append_singleton failed r ih =>
    have hlt : failed.length + 1 < maxRefreshRetries := by
      rwa [List.length_append, List.length_singleton] at hmore
    rw [awaitReplies_append, ih (fun s hs => hfailed s (List.mem_append_left _ hs))
      (Nat.lt_of_succ_lt hlt)]
    have hstep : m.refreshReplied codec f
        ⟨session, failed.length + 1, Nat.le_add_left 1 _, Nat.le_of_lt hlt⟩ r =
        (.asking ⟨session, failed.length + 2, Nat.le_add_left 1 _, hlt⟩
          (retryDelay (failed.length + 2)), m, f) :=
      refreshReplied_retry (hfailed r (List.mem_append_right _ (List.mem_singleton_self r))) hlt
    simp only [AuthManager.awaitReplies, hstep, List.length_append, List.length_singleton]

/-- **A refresh asks up to three times**, one and two seconds apart.  The first reply with a
session ends it: that session is the new one, with the standing of the user as it was, and the
failures are forgotten.  While it fails nothing changes; the third failure ends it, counts as one,
and is the error of the call only when the token has expired.  A session that needs no refresh is
left alone, and replies after the end are not awaited. -/
theorem refresh_attempts (codec : RecordCodec) (m : AuthManager) (f : RefreshFiles)
    {session : AuthSession} (hstate : m.state = .loggedIn session) (now soonAt : Int) :
    let await := AuthManager.awaitReplies (c := c) codec (m.refreshIfNeeded now soonAt, m, f)
    (session.needsRefresh now soonAt = false →
      ∀ replies, await replies = (.returned (.ok ()), m, f)) ∧
    (session.needsRefresh now soonAt = true →
      ∀ failed, (∀ r ∈ failed, r.Failed) → failed.length < maxRefreshRetries →
        (∃ call, call.session = session ∧ call.attempt = failed.length + 1 ∧
          await failed = (.asking call (retryDelay (failed.length + 1)), m, f)) ∧
        (∀ r session' rest, tryRefreshToken session r.now r.reply = .ok (.ok session') →
          session'.user.standing = session.user.standing ∧
          await (failed ++ r :: rest) =
            (.returned (.ok ()),
              { m with
                storage := (m.storage.storeSession r.io session').2
                state := .loggedIn session' },
              f.resetRefreshFailures r.failureIo)) ∧
        (∀ r e rest, r.reply = .error e → failed.length + 1 = maxRefreshRetries →
          await (failed ++ r :: rest) =
            (.returned (if session.isExpired r.checkedAt then .error e else .ok ()), m,
              (f.incrementRefreshFailures codec r.failureIo r.countedAt r.openedAt).2))) := by
  intro await
  constructor
  · intro hneeds replies
    have hstart : m.refreshIfNeeded now soonAt = .returned (.ok ()) := by
      rw [AuthManager.refreshIfNeeded, hstate]
      exact if_neg (Bool.eq_false_iff.mp hneeds)
    simp only [await, hstart]
    exact awaitReplies_ended (fun call delay => RefreshProgress.noConfusion) replies
  · intro hneeds failed hfailed hmore
    have hawait : await failed =
        (.asking ⟨session, failed.length + 1, Nat.le_add_left 1 _, hmore⟩
          (retryDelay (failed.length + 1)), m, f) := by
      simp only [await, refreshIfNeeded_needed hstate hneeds]
      exact awaitReplies_failed hfailed hmore
    -- the reply after the failures, and then nothing more
    have hnext : ∀ (r : RefreshReply c) rest progress m' f',
        (∀ call delay, progress ≠ .asking call delay) →
        m.refreshReplied codec f ⟨session, failed.length + 1, Nat.le_add_left 1 _, hmore⟩ r =
          (progress, m', f') → await (failed ++ r :: rest) = (progress, m', f') := by
      intro r rest progress m' f' hended hreplied
      simp only [await] at hawait ⊢
      rw [awaitReplies_append, hawait, AuthManager.awaitReplies, hreplied]
      exact awaitReplies_ended hended rest
    refine ⟨⟨_, rfl, rfl, hawait⟩, fun r session' rest htry => ⟨(tryRefreshToken_ok htry).1, ?_⟩,
      fun r e rest he hlast => ?_⟩
    · exact hnext r rest _ _ _ (fun call delay => RefreshProgress.noConfusion)
        (refreshReplied_ok htry)
    · exact hnext r rest _ _ _ (fun call delay => RefreshProgress.noConfusion)
        (refreshReplied_last he hlast)

/-! ## 5. Tokens -/

/-- The clock as it is read for one reply. -/
def RefreshReply.readings (r : RefreshReply c) : List Int := [r.now, r.checkedAt]

/-- The token was good at one of these times. -/
def GoodAt (times : List Int) (m : AuthManager) : Prop :=
  ∃ session t, m.state = .loggedIn session ∧ t ∈ times ∧ t < session.expiresAt

theorem goodAt_mono {times times' : List Int} (hsub : times ⊆ times') (h : GoodAt times m) :
    GoodAt times' m := by
  obtain ⟨session, t, hstate, ht, hlt⟩ := h
  exact ⟨session, t, hstate, hsub ht, hlt⟩

theorem lt_of_isExpired_false {now : Int} (h : session.isExpired now = false) :
    now < session.expiresAt := Int.not_le.mp (of_decide_eq_false h)

/-- A call that goes on from a request for the session of the manager, to a good end. -/
theorem awaitReplies_good {replies : List (RefreshReply c)}
    (hlife : ∀ r ∈ replies, ∀ response, r.reply = .ok response → 0 < response.expiresIn.toInt) :
    ∀ {call : RefreshCall} {delay : Nat} {m' : AuthManager} {f' : RefreshFiles},
      m.state = .loggedIn call.session →
      AuthManager.awaitReplies codec (.asking call delay, m, f) replies =
        (.returned (.ok ()), m', f') →
      GoodAt (replies.flatMap RefreshReply.readings) m' := by
  induction replies with
  | nil =>
    intro call delay m' f' _ h
    exact nomatch h
  | cons r replies ih =>
    intro call delay m' f' hstate h
    obtain ⟨hr, hrest⟩ := List.forall_mem_cons.mp hlife
    have hsub : r.readings ⊆ (r :: replies).flatMap RefreshReply.readings := by
      rw [List.flatMap_cons]
      exact List.subset_append_left _ _
    rw [AuthManager.awaitReplies] at h
    rcases refreshReplied_cases codec m f call r with ⟨fault, hcase⟩ | ⟨session', htry, hcase⟩ |
      ⟨-, hmore, hcase⟩ | ⟨e, -, -, hcase⟩
    · rw [hcase, awaitReplies_ended (fun call delay => RefreshProgress.noConfusion)] at h
      exact nomatch h
    · rw [hcase, awaitReplies_ended (fun call delay => RefreshProgress.noConfusion)] at h
      obtain rfl := congrArg (fun p => p.2.1) h
      obtain ⟨-, response, hreply, -, -, hexp⟩ := tryRefreshToken_ok htry
      exact goodAt_mono hsub
        ⟨session', r.now, rfl, List.mem_cons_self, secondsFrom_lt hexp (hr response hreply)⟩
    · rw [hcase] at h
      have hgood : GoodAt (replies.flatMap RefreshReply.readings) m' := by
        refine ih hrest ?_ h
        exact hstate
      refine goodAt_mono ?_ hgood
      rw [List.flatMap_cons]
      exact List.subset_append_right _ _
    · rw [hcase, awaitReplies_ended (fun call delay => RefreshProgress.noConfusion)] at h
      obtain rfl := congrArg (fun p => p.2.1) h
      have hfresh : call.session.isExpired r.checkedAt = false := by
        cases hexp : call.session.isExpired r.checkedAt with
        | false => rfl
        | true =>
          rw [hexp] at h
          exact nomatch h
      exact goodAt_mono hsub ⟨call.session, r.checkedAt, hstate,
        List.mem_cons_of_mem _ List.mem_cons_self, lt_of_isExpired_false hfresh⟩

/-- **A token that is handed out has not expired**, at some time of the call at which the clock was
read, whatever the replies are, as long as the sessions in them live for some time.  It is the
token of the session that the manager then holds. -/
theorem token_not_expired (codec : RecordCodec) (m : AuthManager) (f : RefreshFiles)
    (now soonAt : Int) {replies : List (RefreshReply c)}
    (hlife : ∀ r ∈ replies, ∀ response, r.reply = .ok response → 0 < response.expiresIn.toInt)
    {token : String}
    (h : (m.getAccessToken codec f now soonAt replies).1 = some (.ok (.ok token))) :
    ∃ session t, (m.getAccessToken codec f now soonAt replies).2.1.state = .loggedIn session ∧
      session.accessToken = token ∧
      t ∈ now :: replies.flatMap RefreshReply.readings ∧ t < session.expiresAt := by
  rw [AuthManager.getAccessToken] at h ⊢
  split at h
  · rename_i m' f' hawait
    have hgood : GoodAt (now :: replies.flatMap RefreshReply.readings) m' := by
      rw [AuthManager.refreshIfNeeded] at hawait
      split at hawait
      · rename_i session hstate
        split at hawait
        · exact goodAt_mono (List.subset_cons_self _ _) (awaitReplies_good hlife hstate hawait)
        · rename_i hneeds
          rw [awaitReplies_ended (fun call delay => RefreshProgress.noConfusion)] at hawait
          obtain rfl := congrArg (fun p => p.2.1) hawait
          have hfresh : session.isExpired now = false :=
            (Bool.or_eq_false_iff.mp (Bool.not_eq_true _ ▸ hneeds)).1
          exact ⟨session, now, hstate, List.mem_cons_self, lt_of_isExpired_false hfresh⟩
      · rw [awaitReplies_ended (fun call delay => RefreshProgress.noConfusion)] at hawait
        exact nomatch hawait
    obtain ⟨session, t, hstate, ht, hlt⟩ := hgood
    have htoken : m'.currentToken = .ok token := Except.ok.inj (Option.some.inj h)
    rw [AuthManager.currentToken, hstate] at htoken
    exact ⟨session, t, hstate, Except.ok.inj htoken, ht, hlt⟩
  · exact nomatch h
  · exact nomatch h
  · exact nomatch h

end Replies

/-- A session with a minute to live, and what comes back for it. -/
def dueManager : AuthManager := ⟨.loggedIn sessionA, SecureStorage.empty true, none⟩

def dueTime : Int := sessionA.expiresAt - 60 * 1000000000

def replyAt (now : Int) (reply : Except SignInError SupabaseAuthResponse) :
    RefreshReply sampleCodec :=
  ⟨reply, now, .granted sampleNonce true true, .working, now, now, now⟩

def lostReply : RefreshReply sampleCodec := replyAt dueTime (.error (.network "connection reset"))

def renewedReply : RefreshReply sampleCodec :=
  replyAt dueTime (.ok ⟨"at-a2", "rt-a2", 3600, ⟨"a", none⟩⟩)

def renewedSession : AuthSession :=
  ⟨"at-a2", "rt-a2", dueTime + 3600 * 1000000000, sessionA.user⟩

theorem tryRefreshToken_renewed :
    tryRefreshToken sessionA renewedReply.now renewedReply.reply = .ok (.ok renewedSession) := by
  decide +kernel

/-- The third request finds the server. -/
theorem third_request_renews :
    (AuthManager.awaitReplies sampleRecordCodec (dueManager.refreshIfNeeded dueTime dueTime,
        dueManager, ⟨none, none⟩) [lostReply, lostReply, renewedReply]).2.1.state =
      .loggedIn renewedSession := by
  have hlost : ∀ r ∈ [lostReply, lostReply], r.Failed := by
    intro r hr
    obtain rfl : r = lostReply := by simpa using hr
    exact ⟨_, rfl⟩
  have h := ((refresh_attempts (c := sampleCodec) sampleRecordCodec dueManager ⟨none, none⟩ rfl
    dueTime dueTime).2 (by decide) [lostReply, lostReply] hlost (by decide)).2.1
      renewedReply renewedSession [] tryRefreshToken_renewed
  exact congrArg (fun p => p.2.1.state) h.2

/-- And the token that `get_access_token` then returns is the new one. -/
theorem renewed_token_good :
    ∃ (session : AuthSession) (t : Int), session.accessToken = "at-a2" ∧
      t ∈ dueTime :: [lostReply, lostReply, renewedReply].flatMap RefreshReply.readings ∧
      t < session.expiresAt := by
  have hlife : ∀ r ∈ [lostReply, lostReply, renewedReply], ∀ response, r.reply = .ok response →
      0 < response.expiresIn.toInt := by
    intro r hr response hresponse
    rcases List.mem_cons.mp hr with rfl | hr
    · exact nomatch hresponse
    rcases List.mem_cons.mp hr with rfl | hr
    · exact nomatch hresponse
    obtain rfl := List.mem_singleton.mp hr
    obtain rfl := Except.ok.inj hresponse
    decide
  obtain ⟨session, t, -, htoken, ht, hlt⟩ := token_not_expired sampleRecordCodec dueManager
    ⟨none, none⟩ dueTime dueTime hlife (show (dueManager.getAccessToken sampleRecordCodec ⟨none, none⟩
      dueTime dueTime [lostReply, lostReply, renewedReply]).1 = some (.ok (.ok "at-a2")) from
        by decide +kernel)
  exact ⟨session, t, htoken, ht, hlt⟩

end SwiftTunnel
