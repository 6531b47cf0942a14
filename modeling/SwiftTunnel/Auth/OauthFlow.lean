/-
# A browser sign-in from its start to its end

`auth/oauth_server.rs` (`start`, `run_server`, `stop`) with the exported calls of `lib.rs` around it:
`swifttunnel_auth_start_oauth`, `…_poll_oauth`, `…_cancel_oauth`, `…_sign_in` and `…_sign_out`.  A
flow starts a server on localhost, whose thread answers the requests of a browser until one of them
is a callback.  That one it puts into a channel, where a later poll finds it.

The exported calls hold one lock, so each runs whole, and the requests fall between them.  What can
be bound, what comes at the port and what the network answers are inputs.

The manager knows that a flow is open and under which state string; the server knows nothing of it.
`FlowInv` ties the two: where a flow is open, its server waits for a callback, or has one in its
channel, or the flow is lost (`FlowPhase`).  It is lost where a later start fails, which drops the
server and leaves the flow, and where a poll takes a callback and does not send its token on.

* `flowInv_run`: what holds in every run.
* `oauth_exchange_iff`: which tokens are sent on, and when.
* `oauth_flow_open`: what an open flow can come to, and that one may wait for ever.

Left out.  A refresh acts only on a manager that is logged in.  The pages that a browser is shown are
data that nothing reads.  A panic ends the process; runs that go on after one are not excluded, and
nothing below is about what they could add.
-/
import SwiftTunnel.Auth.Callback

namespace SwiftTunnel

open Rust

/-! ## 1. The server -/

/-- `DEFAULT_OAUTH_PORT`. -/
def defaultOauthPort : UInt16 := 17435

/-- What `Server::http` answers for the default port, and for a random one. -/
inductive BindReply where
  | default
  /-- The assigned port; zero where it cannot be found out. -/
  | fallback (port : UInt16)
  | failed (error : String)
  deriving DecidableEq

/-- `OAuthServer`; its thread is `serving` until it returns. -/
structure OAuthServer where
  port : UInt16
  serving : Bool
  /-- What was sent and not yet received. -/
  channel : List OAuthCallbackData
  deriving DecidableEq

namespace OAuthServer

/-- `start`. -/
def start : BindReply → Except String OAuthServer
  | .default => .ok ⟨defaultOauthPort, true, []⟩
  | .fallback port =>
    if port = 0 then .error "Failed to get assigned port" else .ok ⟨port, true, []⟩
  | .failed e => .error ("Failed to start OAuth server: " ++ e)

/-- One request in `run_server`, with the status of the answer. -/
def request (parse : String → Option ParsedUrl) (server : OAuthServer) (urlStr : String) :
    Nat × OAuthServer :=
  match parseCallback parse urlStr with
  | some callback =>
    (200, { server with serving := false, channel := server.channel ++ [callback] })
  | none => (400, server)

/-- `stop` waits for the thread, which may answer one more request before it finds the flag up. -/
def stop (parse : String → Option ParsedUrl) (last : Option String) (server : OAuthServer) :
    Option Nat :=
  if server.serving then last.map fun urlStr => (server.request parse urlStr).1 else none

end OAuthServer

/-! ## 2. The exported calls -/

/-- The manager, and the server that it holds. -/
structure OAuthSystem where
  manager : AuthManager
  server : Option OAuthServer

/-- What the network and the storage answer to `complete_oauth_callback`. -/
structure ExchangeReplies (c : SessionCodec) where
  exchange : Except SignInError ExchangeTokenResponse
  io : StorageIo c
  /-- The time of the last reply. -/
  later : Int
  verify : Except SignInError SupabaseAuthResponse

/-- A call, or a request that comes at the port; `last` comes while the server is stopped. -/
inductive OAuthInput (c : SessionCodec) where
  | request (urlStr : String)
  | startOauth (last : Option String) (bind : BindReply) (state : GeneratedState)
  | pollOauth (r : ExchangeReplies c)
  | cancelOauth (last : Option String)
  | signIn (email : String) (io : StorageIo c) (reply : Except SignInError SupabaseAuthResponse)
  | signOut (io : StorageIo c) (error : String)

inductive OAuthOutput where
  | responded (status : Nat)
  | started (last : Option Nat) (result : Except SignInError (String × String))
  /-- The answer of a poll, what it took from the channel, and whether it sent the token on. -/
  | polled (result : Checked Int) (taken : Option OAuthCallbackData) (exchanged : Bool)
  | cancelled (last : Option Nat)
  | returned (result : Checked (Except SignInError Unit))

section Flows

variable {c : SessionCodec}

namespace OAuthSystem

/-- `poll_oauth_callback`. -/
def takeCallback (st : OAuthSystem) : Option (OAuthCallbackData × OAuthSystem) :=
  match st.server with
  | some ⟨port, serving, data :: rest⟩ => some (data, { st with server := some ⟨port, serving, rest⟩ })
  | _ => none

/-- What `swifttunnel_auth_poll_oauth` does with a callback.  `complete_oauth_callback` drops the
server where the manager does. -/
def complete (level : LevelFilter) (now : Int) (r : ExchangeReplies c) (data : OAuthCallbackData)
    (st : OAuthSystem) : OAuthOutput × OAuthSystem :=
  let (result, m) := st.manager.completeOauthCallbackCall level now data.token data.state r.exchange
    r.io r.later r.verify
  let exchanged := match (st.manager.completeOauthCallback level now data.token data.state).1 with
    | .ok (.ok ()) => true
    | _ => false
  let code := result.map fun
    | .ok () => (1 : Int)
    | .error _ => -1
  (.polled code (some data) exchanged, ⟨m, m.oauthServer.bind fun _ => st.server⟩)

def poll (level : LevelFilter) (now : Int) (r : ExchangeReplies c) (st : OAuthSystem) :
    OAuthOutput × OAuthSystem :=
  match st.manager.state with
  | .awaitingOAuthCallback _ => match st.takeCallback with
    | none => (.polled (.ok 0) none false, st)
    | some (data, st) => st.complete level now r data
  | .loggedIn _ => (.polled (.ok 1) none false, st)
  | _ => (.polled (.ok (-1)) none false, st)

def next (parse : String → Option ParsedUrl) (level : LevelFilter) (st : OAuthSystem) (now : Int) :
    OAuthInput c → OAuthOutput × OAuthSystem
  | .request urlStr => match st.server with
    | none => (.responded 0, st)
    | some server =>
      let (status, server) := server.request parse urlStr
      (.responded status, { st with server := some server })
  | .startOauth last bind state =>
    let answered := st.server.bind fun server => server.stop parse last
    let server := OAuthServer.start bind
    let (result, m) := st.manager.startGoogleSignIn now (server.map (·.port)) state
    (.started answered result, ⟨m, server.toOption⟩)
  | .pollOauth r => st.poll level now r
  | .cancelOauth last =>
    (.cancelled (st.server.bind fun server => server.stop parse last),
      ⟨st.manager.cancelOauth, none⟩)
  | .signIn email io reply =>
    let (result, m) := st.manager.signInCall io now email reply
    (.returned result, { st with manager := m })
  | .signOut io error =>
    let (result, m) := st.manager.logout io error
    (.returned (.ok result), { st with manager := m })

/-- The SDK when it has been initialised. -/
def new (storage : SecureStorage) (io : StorageIo c) : OAuthSystem := ⟨.new storage io, none⟩

end OAuthSystem

/-- A request is answered while the thread of a server runs. -/
def OAuthInput.Heard (st : OAuthSystem) : OAuthInput c → Prop
  | .request _ => ∃ server, st.server = some server ∧ server.serving = true
  | _ => True

def OAuthStep (parse : String → Option ParsedUrl) (level : LevelFilter) (st : OAuthSystem)
    (i : Int × OAuthInput c) (o : OAuthOutput) (st' : OAuthSystem) : Prop :=
  i.2.Heard st ∧ st.next parse level i.1 i.2 = (o, st')

abbrev OAuthEvent (c : SessionCodec) := (Int × OAuthInput c) × OAuthOutput

/-- What happened in a run, in order. -/
abbrev OAuthLog (c : SessionCodec) := List (OAuthEvent c)

/-! ## 3. What a call does -/

theorem start_serves {bind : BindReply} {server : OAuthServer}
    (h : OAuthServer.start bind = .ok server) : ∃ port, server = ⟨port, true, []⟩ := by
  cases bind with
  | default => exact ⟨defaultOauthPort, (Except.ok.inj h).symm⟩
  | fallback port =>
    rw [OAuthServer.start] at h
    split at h
    · cases h
    · exact ⟨port, (Except.ok.inj h).symm⟩
  | failed e => cases h

theorem sessionReplied_closed {m : AuthManager} (io : StorageIo c) (now : Int) (email : String)
    (reply : Except SignInError SupabaseAuthResponse)
    (hclosed : ∀ p, m.state ≠ .awaitingOAuthCallback p) :
    (m.sessionReplied io now email reply).2.oauthServer = m.oauthServer ∧
      ∀ p, (m.sessionReplied io now email reply).2.state ≠ .awaitingOAuthCallback p := by
  refine ⟨?_, fun p => ?_⟩
  · cases reply with
    | error e => rfl
    | ok response =>
      unfold AuthManager.sessionReplied
      dsimp only
      split
      · rfl
      · split <;> rfl
  · rcases m.sessionReplied_cases io now email reply with
      ⟨-, session, hstate⟩ | ⟨-, message, hstate⟩ | ⟨-, -, hstate⟩
    · rw [hstate]
      exact AuthState.noConfusion
    · rw [hstate]
      exact AuthState.noConfusion
    · rw [hstate]
      exact hclosed p

/-- The end of a callback that was accepted. -/
theorem accepted_closed {m : AuthManager} (level : LevelFilter) (r : ExchangeReplies c)
    (hclosed : ∀ p, m.state ≠ .awaitingOAuthCallback p) :
    let call : Checked (Except SignInError Unit) × AuthManager :=
      match m.exchangeReplied level r.exchange with
      | (.error fault, m) => (.error fault, m)
      | (.ok (.error e), m) => (.ok (.error e), m)
      | (.ok (.ok exchange), m) => m.verifyReplied r.io r.later exchange r.verify
    call.2.oauthServer = m.oauthServer ∧ ∀ p, call.2.state ≠ .awaitingOAuthCallback p := by
  rcases m.exchangeReplied_cases level r.exchange with
    ⟨e, he⟩ | ⟨-, ⟨fault, he⟩ | ⟨response, he⟩⟩
  · rw [he]
    exact ⟨rfl, fun p => AuthState.noConfusion⟩
  · rw [he]
    exact ⟨rfl, hclosed⟩
  · rw [he]
    exact sessionReplied_closed r.io r.later response.email r.verify hclosed

theorem signInCall_closed (m : AuthManager) (io : StorageIo c) (now : Int) (email : String)
    (reply : Except SignInError SupabaseAuthResponse) :
    (m.signInCall io now email reply).2.oauthServer = m.oauthServer ∧
      ∀ p, (m.signInCall io now email reply).2.state ≠ .awaitingOAuthCallback p :=
  sessionReplied_closed io now email reply fun _ => AuthState.noConfusion

/-- **What a poll does with a callback**: it leaves the flow open, or it ends the flow and drops the
server. -/
theorem complete_cases (level : LevelFilter) (now : Int) (r : ExchangeReplies c)
    (data : OAuthCallbackData) (st : OAuthSystem) :
    ∃ result exchanged st', st.complete level now r data = (.polled result (some data) exchanged, st') ∧
      ((exchanged = false ∧ st'.manager = st.manager ∧
          st'.server = st.manager.oauthServer.bind fun _ => st.server) ∨
        ((∀ p, st'.manager.state ≠ .awaitingOAuthCallback p) ∧ st'.manager.oauthServer = none ∧
          st'.server = none)) := by
  unfold OAuthSystem.complete AuthManager.completeOauthCallbackCall
  rcases st.manager.completeOauthCallback_cases level now data.token data.state with
    ⟨result, hcall, hne, -⟩ | ⟨message, hcall⟩ | ⟨p, -, -, -, hcall⟩
  · rw [hcall]
    rcases result with fault | e | _
    · exact ⟨_, _, _, rfl, Or.inl ⟨rfl, rfl, rfl⟩⟩
    · exact ⟨_, _, _, rfl, Or.inl ⟨rfl, rfl, rfl⟩⟩
    · exact absurd rfl hne
  · rw [hcall]
    exact ⟨_, _, _, rfl, Or.inr ⟨fun p => AuthState.noConfusion, rfl, rfl⟩⟩
  · rw [hcall]
    obtain ⟨hserver, hclosed⟩ := accepted_closed (m := { st.manager with
      oauthServer := none, state := .loggingIn }) level r fun p => AuthState.noConfusion
    exact ⟨_, _, _, rfl, Or.inr ⟨hclosed, hserver,
      congrArg (Option.bind · fun _ => st.server) hserver⟩⟩

/-- **When a callback is accepted**: its texts can be logged, and it answers the open flow in time. -/
theorem accepts_iff {m : AuthManager} {level : LevelFilter} {now : Int} {token state : String} :
    (m.completeOauthCallback level now token state).1 = .ok (.ok ()) ↔
      (level.logsInfo = true → Sliceable [token, state]) ∧
        ∃ p, m.state = .awaitingOAuthCallback p ∧ state = p.state ∧
          now - p.startedAt ≤ oauthFlowLimit := by
  rw [← logLine_ok_iff]
  constructor
  · intro h
    rcases m.completeOauthCallback_cases level now token state with
      ⟨result, hcall, hne, -⟩ | ⟨message, hcall⟩ | ⟨p, hstate, hsame, hfresh, -⟩
    · exact absurd ((congrArg Prod.fst hcall).symm.trans h) hne
    · have hmismatch := (congrArg Prod.fst hcall).symm.trans h
      cases hmismatch
    · refine ⟨?_, p, hstate, hsame, hfresh⟩
      unfold AuthManager.completeOauthCallback at h
      split at h
      · cases h
      · assumption
  · rintro ⟨hlog, p, hstate, rfl, hfresh⟩
    simp only [AuthManager.completeOauthCallback, hlog, hstate, if_neg (Int.not_lt.mpr hfresh),
      ne_eq, not_true_eq_false, if_false]

theorem complete_exchanges_iff {level : LevelFilter} {now : Int} {r : ExchangeReplies c}
    {data data' : OAuthCallbackData} {st : OAuthSystem} :
    (∃ result st', st.complete level now r data = (.polled result (some data') true, st')) ↔
      data' = data ∧
        (st.manager.completeOauthCallback level now data.token data.state).1 = .ok (.ok ()) := by
  unfold OAuthSystem.complete
  dsimp only
  constructor
  · rintro ⟨result, st', h⟩
    obtain ⟨-, hdata, hexchanged⟩ := OAuthOutput.polled.inj (congrArg Prod.fst h)
    refine ⟨(Option.some.inj hdata).symm, ?_⟩
    split at hexchanged
    · assumption
    · cases hexchanged
  · rintro ⟨rfl, haccepts⟩
    rw [haccepts]
    exact ⟨_, _, rfl⟩

/-- **When a poll sends a token on**: when it finds the callback with the server and accepts it. -/
theorem poll_exchanges_iff {level : LevelFilter} {now : Int} {r : ExchangeReplies c}
    {data : OAuthCallbackData} {st : OAuthSystem} :
    (∃ result st', st.poll level now r = (.polled result (some data) true, st')) ↔
      (∃ port serving rest, st.server = some ⟨port, serving, data :: rest⟩) ∧
        (level.logsInfo = true → Sliceable [data.token, data.state]) ∧
          ∃ p, st.manager.state = .awaitingOAuthCallback p ∧ data.state = p.state ∧
            now - p.startedAt ≤ oauthFlowLimit := by
  rw [← accepts_iff]
  constructor
  · rintro ⟨result, st', h⟩
    unfold OAuthSystem.poll at h
    split at h
    · unfold OAuthSystem.takeCallback at h
      cases hserver : st.server with
      | none => simp [hserver] at h
      | some server =>
        obtain ⟨port, serving, channel⟩ := server
        cases channel with
        | nil => simp [hserver] at h
        | cons data' rest =>
          simp only [hserver] at h
          obtain ⟨rfl, haccepts⟩ := complete_exchanges_iff.mp ⟨result, st', h⟩
          exact ⟨⟨port, serving, rest, rfl⟩, haccepts⟩
    · cases h
    · cases h
  · rintro ⟨⟨port, serving, rest, hserver⟩, haccepts⟩
    obtain ⟨-, p, hstate, -⟩ := accepts_iff.mp haccepts
    have htake : st.takeCallback = some (data, { st with server := some ⟨port, serving, rest⟩ }) := by
      rw [OAuthSystem.takeCallback, hserver]
    simp only [OAuthSystem.poll, hstate, htake]
    exact complete_exchanges_iff.mpr ⟨rfl, haccepts⟩

/-! ## 4. An open flow -/

namespace OAuthEvent

/-- A successful `start_oauth`, by the state that it leaves. -/
def Starts (p : OAuthPendingState) (e : OAuthEvent c) : Prop :=
  ∃ last bind gen answered url, gen.val = p.state ∧
    e = ((p.startedAt, .startOauth last bind gen), .started answered (.ok (url, gen.val)))

/-- A request that is no callback, a poll that finds none, a sign-out that fails. -/
def Idle : OAuthEvent c → Prop
  | ((_, .request _), .responded status) => status ≠ 200
  | ((_, .pollOauth _), .polled _ taken _) => taken = none
  | ((_, .signOut _ _), .returned (.ok (.error _))) => True
  | _ => False

/-- A later start that fails, or a poll that takes a callback and does not send its token on. -/
def Loses : OAuthEvent c → Prop
  | ((_, .startOauth _ _ _), .started _ (.error _)) => True
  | ((_, .pollOauth _), .polled _ (some _) false) => True
  | _ => False

theorem loses_start {now : Int} {last : Option String} {bind : BindReply} {state : GeneratedState}
    {answered : Option Nat} {e : SignInError} :
    Loses (((now, .startOauth last bind state), .started answered (.error e)) : OAuthEvent c) :=
  trivial

theorem loses_poll {now : Int} {r : ExchangeReplies c} {result : Checked Int}
    {data : OAuthCallbackData} :
    Loses (((now, .pollOauth r), .polled result (some data) false) : OAuthEvent c) :=
  trivial

end OAuthEvent

/-- Where an open flow is. -/
inductive FlowPhase (parse : String → Option ParsedUrl) (es : OAuthLog c) (p : OAuthPendingState) :
    Option OAuthServer → Prop
  | waiting {before mid : OAuthLog c} {start : OAuthEvent c} {port : UInt16}
      (hes : es = before ++ start :: mid) (hstart : start.Starts p)
      (hidle : ∀ e ∈ mid, OAuthEvent.Idle e) : FlowPhase parse es p (some ⟨port, true, []⟩)
  | received {before mid after : OAuthLog c} {start : OAuthEvent c} {port : UInt16} {t : Int}
      {urlStr : String} {data : OAuthCallbackData}
      (hes : es = before ++ start :: (mid ++ ((t, .request urlStr), .responded 200) :: after))
      (hstart : start.Starts p) (hidle : ∀ e ∈ mid ++ after, OAuthEvent.Idle e)
      (hparse : parseCallback parse urlStr = some data) :
      FlowPhase parse es p (some ⟨port, false, [data]⟩)
  | lost {before mid : OAuthLog c} {start e : OAuthEvent c} {server : Option OAuthServer}
      (hes : es = before ++ start :: mid) (hstart : start.Starts p) (hmem : e ∈ mid)
      (hloses : e.Loses) (hdead : ∀ s, server = some s → s.serving = false ∧ s.channel = []) :
      FlowPhase parse es p server

section Phases

variable {parse : String → Option ParsedUrl} {es : OAuthLog c} {p : OAuthPendingState}
  {server : Option OAuthServer}

theorem FlowPhase.started (h : FlowPhase parse es p server) :
    ∃ before start mid, es = before ++ start :: mid ∧ OAuthEvent.Starts p start := by
  cases h with
  | waiting hes hstart => exact ⟨_, _, _, hes, hstart⟩
  | received hes hstart => exact ⟨_, _, _, hes, hstart⟩
  | lost hes hstart => exact ⟨_, _, _, hes, hstart⟩

theorem FlowPhase.idle (h : FlowPhase parse es p server) {e : OAuthEvent c} (he : e.Idle) :
    FlowPhase parse (es ++ [e]) p server := by
  cases h with
  | @waiting before mid start port hes hstart hidle =>
    have hes' : es ++ [e] = before ++ start :: (mid ++ [e]) := by
      rw [hes, List.append_assoc, List.cons_append]
    exact .waiting hes' hstart (List.forall_mem_append.mpr ⟨hidle, List.forall_mem_singleton.mpr he⟩)
  | @received before mid after start port t urlStr data hes hstart hidle hparse =>
    have hes' : es ++ [e] = before ++ start :: (mid ++
        ((t, .request urlStr), .responded 200) :: (after ++ [e])) := by
      rw [hes, List.append_assoc, List.cons_append, List.append_assoc, List.cons_append]
    refine .received hes' hstart ?_ hparse
    rw [← List.append_assoc]
    exact List.forall_mem_append.mpr ⟨hidle, List.forall_mem_singleton.mpr he⟩
  | @lost before mid start e' server hes hstart hmem hloses hdead =>
    have hes' : es ++ [e] = before ++ start :: (mid ++ [e]) := by
      rw [hes, List.append_assoc, List.cons_append]
    exact .lost hes' hstart (List.mem_append_left [e] hmem) hloses hdead

/-- An event that loses the flow. -/
theorem FlowPhase.loses (h : FlowPhase parse es p server) {e : OAuthEvent c} (he : e.Loses)
    {server' : Option OAuthServer}
    (hdead : ∀ s, server' = some s → s.serving = false ∧ s.channel = []) :
    FlowPhase parse (es ++ [e]) p server' := by
  obtain ⟨before, start, mid, hes, hstart⟩ := h.started
  have hes' : es ++ [e] = before ++ start :: (mid ++ [e]) := by
    rw [hes, List.append_assoc, List.cons_append]
  exact .lost hes' hstart (List.mem_append_right mid List.mem_cons_self) he hdead

end Phases

/-- What holds in every run. -/
structure FlowInv (parse : String → Option ParsedUrl) (es : OAuthLog c) (st : OAuthSystem) : Prop where
  synced : st.manager.oauthServer = st.server.map (·.port)
  phase : ∀ p, st.manager.state = .awaitingOAuthCallback p → FlowPhase parse es p st.server

section Steps

variable {parse : String → Option ParsedUrl} {level : LevelFilter} {es : OAuthLog c}
  {st : OAuthSystem} {now : Int}

theorem flowInv_request (h : FlowInv parse es st) {server : OAuthServer}
    (hserver : st.server = some server) (hserving : server.serving = true) (urlStr : String) :
    FlowInv parse (es ++ [((now, .request urlStr), (st.next parse level now (.request urlStr :
      OAuthInput c)).1)]) (st.next parse level now (.request urlStr : OAuthInput c)).2 := by
  have hsynced := h.synced
  simp only [OAuthSystem.next, hserver] at hsynced ⊢
  rw [OAuthServer.request]
  cases hparse : parseCallback parse urlStr with
  | none =>
    exact ⟨hsynced, fun p hp => hserver ▸ (h.phase p hp).idle (by simp [OAuthEvent.Idle])⟩
  | some data =>
    refine ⟨hsynced, fun p hp => ?_⟩
    have hphase := h.phase p hp
    rw [hserver] at hphase
    cases hphase with
    | @waiting before mid start port hes hstart hidle =>
      have hes' : es ++ [((now, .request urlStr), .responded 200)] =
          before ++ start :: (mid ++ ((now, .request urlStr), .responded 200) :: []) := by
        rw [hes, List.append_assoc, List.cons_append]
      exact .received hes' hstart (by rwa [List.append_nil]) hparse
    | received => cases hserving
    | lost _ _ _ _ hdead => exact absurd ((hdead _ rfl).1.symm.trans hserving) Bool.false_ne_true

theorem flowInv_start (h : FlowInv parse es st) (last : Option String) (bind : BindReply)
    (state : GeneratedState) :
    FlowInv parse (es ++ [((now, .startOauth last bind state),
      (st.next parse level now (.startOauth last bind state : OAuthInput c)).1)])
      (st.next parse level now (.startOauth last bind state : OAuthInput c)).2 := by
  simp only [OAuthSystem.next]
  cases hserver : OAuthServer.start bind with
  | error e =>
    refine ⟨rfl, fun p hp => (h.phase p hp).loses OAuthEvent.loses_start fun s hs => ?_⟩
    cases hs
  | ok server =>
    obtain ⟨port, rfl⟩ := start_serves hserver
    refine ⟨rfl, fun p hp => ?_⟩
    obtain rfl := AuthState.awaitingOAuthCallback.inj hp
    exact .waiting rfl ⟨last, bind, state, _, _, rfl, rfl⟩ fun e he => (List.not_mem_nil he).elim

theorem flowInv_poll (h : FlowInv parse es st) (r : ExchangeReplies c) :
    FlowInv parse (es ++ [((now, .pollOauth r), (st.next parse level now (.pollOauth r)).1)])
      (st.next parse level now (.pollOauth r)).2 := by
  simp only [OAuthSystem.next, OAuthSystem.poll]
  cases hstate : st.manager.state with
  | awaitingOAuthCallback p =>
    have hphase := h.phase p hstate
    have hidle : st.takeCallback = none → ∀ q, st.manager.state = .awaitingOAuthCallback q →
        FlowPhase parse (es ++ [((now, .pollOauth r), .polled (.ok 0) none false)]) q st.server :=
      fun _ q hq => (h.phase q hq).idle rfl
    cases hserver : st.server with
    | none =>
      have htake : st.takeCallback = none := by
        rw [OAuthSystem.takeCallback, hserver]
      simp only [htake]
      exact ⟨h.synced, hidle htake⟩
    | some server =>
      obtain ⟨port, serving, channel⟩ := server
      cases channel with
      | nil =>
        have htake : st.takeCallback = none := by
          rw [OAuthSystem.takeCallback, hserver]
        simp only [htake]
        exact ⟨h.synced, hidle htake⟩
      | cons data rest =>
        have htake : st.takeCallback = some (data, { st with server := some ⟨port, serving, rest⟩ }) := by
          rw [OAuthSystem.takeCallback, hserver]
        simp only [htake]
        rw [hserver] at hphase
        -- only a server that has received a callback has one in its channel
        obtain ⟨rfl, rfl⟩ : serving = false ∧ rest = [] := by
          cases hphase with
          | received => exact ⟨rfl, rfl⟩
          | lost _ _ _ _ hdead => cases (hdead _ rfl).2
        obtain ⟨result, exchanged, st', hcomplete, hcases⟩ :=
          complete_cases level now r data { st with server := some ⟨port, false, []⟩ }
        rw [hcomplete]
        rcases hcases with ⟨rfl, hmanager, hserver'⟩ | ⟨hclosed, hnone, hserver'⟩
        · have hport : st'.server = some ⟨port, false, []⟩ := by
            rw [hserver', h.synced, hserver]
            rfl
          refine ⟨?_, fun q hq => ?_⟩
          · rw [hmanager, h.synced, hserver, hport]
            rfl
          · refine FlowPhase.loses (h.phase q (hmanager ▸ hq)) OAuthEvent.loses_poll fun s hs => ?_
            obtain rfl := Option.some.inj (hport.symm.trans hs)
            exact ⟨rfl, rfl⟩
        · refine ⟨?_, fun q hq => absurd hq (hclosed q)⟩
          rw [hnone, hserver']
          rfl
  | _ => exact ⟨h.synced, fun q hq => by rw [hstate] at hq; cases hq⟩

theorem flowInv_signOut (h : FlowInv parse es st) (io : StorageIo c) (error : String) :
    FlowInv parse (es ++ [((now, .signOut io error), (st.next parse level now (.signOut io error)).1)])
      (st.next parse level now (.signOut io error)).2 := by
  simp only [OAuthSystem.next]
  rw [AuthManager.logout]
  rcases st.manager.storage.clearSession io error with ⟨result, storage⟩
  cases result with
  | error e => exact ⟨h.synced, fun p hp => (h.phase p hp).idle trivial⟩
  | ok _ => exact ⟨h.synced, fun p hp => AuthState.noConfusion hp⟩

theorem flowInv_step (h : FlowInv parse es st) {i : Int × OAuthInput c} {o : OAuthOutput}
    {st' : OAuthSystem} (hstep : OAuthStep parse level st i o st') :
    FlowInv parse (es ++ [(i, o)]) st' := by
  obtain ⟨now, i⟩ := i
  obtain ⟨hheard, hnext⟩ := hstep
  obtain ⟨rfl, rfl⟩ := Prod.ext_iff.mp hnext
  cases i with
  | request urlStr =>
    obtain ⟨server, hserver, hserving⟩ := hheard
    exact flowInv_request h hserver hserving urlStr
  | startOauth last bind state => exact flowInv_start h last bind state
  | pollOauth r => exact flowInv_poll h r
  | cancelOauth last =>
    refine ⟨?_, fun p hp => ?_⟩
    · simp only [OAuthSystem.next, AuthManager.cancelOauth]
      split <;> rfl
    · rcases st.manager.cancelOauth_cases with ⟨hsame, hnot⟩ | hout
      · exact absurd (hsame.symm.trans hp) (hnot p)
      · exact AuthState.noConfusion (hout.symm.trans hp)
  | signIn email io reply =>
    obtain ⟨hserver, hclosed⟩ := signInCall_closed st.manager io now email reply
    exact ⟨hserver.trans h.synced, fun p hp => absurd hp (hclosed p)⟩
  | signOut io error => exact flowInv_signOut h io error

/-- **What holds in every run** of an SDK that has been initialised. -/
theorem flowInv_run {storage : SecureStorage} {io : StorageIo c}
    (hrun : Run (OAuthStep parse level) (OAuthSystem.new storage io) es st) :
    FlowInv parse es st := by
  refine hrun.history (P := FlowInv parse) ?_ fun es st i o st' _ hinv hstep => flowInv_step hinv hstep
  refine ⟨?_, fun p hp => absurd hp (new_closed storage io p)⟩
  rw [OAuthSystem.new]
  unfold AuthManager.new
  split <;> rfl

end Steps

/-! ## 5. Where a token comes from -/

/-- A flow is open, and its server has this in its channel. -/
def FlowOpen (p : OAuthPendingState) (port : UInt16) (serving : Bool)
    (channel : List OAuthCallbackData) (st : OAuthSystem) : Prop :=
  st.manager.state = .awaitingOAuthCallback p ∧ st.server = some ⟨port, serving, channel⟩

section Runs

variable {parse : String → Option ParsedUrl} {level : LevelFilter} {es : OAuthLog c}
  {p : OAuthPendingState} {st st' : OAuthSystem} {port : UInt16} {serving : Bool}
  {channel : List OAuthCallbackData}

theorem flowOpen_of_start {e : OAuthEvent c} (hstep : OAuthStep parse level st e.1 e.2 st')
    (he : e.Starts p) : ∃ port, FlowOpen p port true [] st' := by
  obtain ⟨last, bind, gen, answered, url, hgen, rfl⟩ := he
  obtain ⟨-, hnext⟩ := hstep
  simp only [OAuthSystem.next] at hnext
  cases hserver : OAuthServer.start bind with
  | error e =>
    rw [hserver] at hnext
    have hout := congrArg Prod.fst hnext
    cases hout
  | ok server =>
    rw [hserver] at hnext
    obtain ⟨port, rfl⟩ := start_serves hserver
    obtain rfl := congrArg Prod.snd hnext
    exact ⟨port, congrArg (fun s => AuthState.awaitingOAuthCallback ⟨s, p.startedAt⟩) hgen, rfl⟩

theorem FlowOpen.idle (h : FlowOpen p port serving channel st) {i : Int × OAuthInput c}
    {o : OAuthOutput} (hstep : OAuthStep parse level st i o st') (hidle : OAuthEvent.Idle (i, o)) :
    FlowOpen p port serving channel st' := by
  obtain ⟨now, i⟩ := i
  obtain ⟨hstate, hserver⟩ := h
  obtain ⟨hheard, hnext⟩ := hstep
  obtain ⟨rfl, rfl⟩ := Prod.ext_iff.mp hnext
  cases i with
  | request urlStr =>
    simp only [OAuthSystem.next, hserver, OAuthServer.request] at hidle ⊢
    cases hparse : parseCallback parse urlStr with
    | none => exact ⟨hstate, rfl⟩
    | some data =>
      rw [hparse] at hidle
      exact absurd rfl hidle
  | pollOauth r =>
    simp only [OAuthSystem.next, OAuthSystem.poll, hstate] at hidle ⊢
    cases htake : st.takeCallback with
    | none => exact ⟨hstate, hserver⟩
    | some taken =>
      obtain ⟨data, st₁⟩ := taken
      rw [htake] at hidle
      obtain ⟨result, exchanged, st₂, hcomplete, -⟩ := complete_cases level now r data st₁
      simp only [hcomplete] at hidle
      cases hidle
  | signOut io error =>
    simp only [OAuthSystem.next] at hidle ⊢
    rw [AuthManager.logout] at hidle ⊢
    rcases st.manager.storage.clearSession io error with ⟨result, storage⟩
    cases result with
    | error e => exact ⟨hstate, hserver⟩
    | ok _ => exact hidle.elim
  | startOauth => exact hidle.elim
  | cancelOauth => exact hidle.elim
  | signIn => exact hidle.elim

theorem FlowOpen.idle_run (h : FlowOpen p port serving channel st)
    (hrun : Run (OAuthStep parse level) st es st') (hidle : ∀ e ∈ es, OAuthEvent.Idle e) :
    FlowOpen p port serving channel st' := by
  induction hrun with
  | nil st => exact h
  | cons hstep _ ih =>
    obtain ⟨hfirst, hrest⟩ := List.forall_mem_cons.mp hidle
    exact ih (h.idle hstep hfirst) hrest

/-- A request that is answered as a callback. -/
theorem FlowOpen.receives (h : FlowOpen p port true [] st) {t : Int} {urlStr : String}
    {data : OAuthCallbackData} (hparse : parseCallback parse urlStr = some data)
    (hstep : OAuthStep parse level st (t, (.request urlStr : OAuthInput c)) (.responded 200) st') :
    FlowOpen p port false [data] st' := by
  obtain ⟨hstate, hserver⟩ := h
  obtain ⟨-, hnext⟩ := hstep
  simp only [OAuthSystem.next, hserver, OAuthServer.request, hparse] at hnext
  obtain rfl := congrArg Prod.snd hnext
  exact ⟨hstate, rfl⟩

variable {storage : SecureStorage} {io : StorageIo c}

/-- **A token is sent on exactly when a request of its flow brought it.**  After every run, a poll
sends a token on if and only if the flow was started, then a request was answered as a callback
with this token and the state string of the flow, nothing else has happened since the start but
requests that are no callbacks, polls that found nothing and sign-outs that failed, and ten minutes
have not passed; the two texts have to be such that they can be logged. -/
theorem oauth_exchange_iff (hrun : Run (OAuthStep parse level) (OAuthSystem.new storage io) es st)
    (now : Int) (r : ExchangeReplies c) (data : OAuthCallbackData) :
    (∃ result st', OAuthStep parse level st (now, .pollOauth r)
        (.polled result (some data) true) st') ↔
      ∃ (before : OAuthLog c) (start : OAuthEvent c) (mid after : OAuthLog c) (t : Int)
        (urlStr : String) (p : OAuthPendingState),
        es = before ++ start :: (mid ++ ((t, .request urlStr), .responded 200) :: after) ∧
          start.Starts p ∧ (∀ e ∈ mid ++ after, OAuthEvent.Idle e) ∧
          parseCallback parse urlStr = some data ∧ data.state = p.state ∧
          now - p.startedAt ≤ oauthFlowLimit ∧
          (level.logsInfo = true → Sliceable [data.token, data.state]) := by
  have hpoll : (∃ result st', OAuthStep parse level st (now, .pollOauth r)
      (.polled result (some data) true) st') ↔
      ∃ result st', st.poll level now r = (.polled result (some data) true, st') :=
    exists_congr fun result => exists_congr fun st' => and_iff_right trivial
  rw [hpoll, poll_exchanges_iff]
  constructor
  · rintro ⟨⟨port, serving, rest, hserver⟩, hslices, p, hstate, hsame, hfresh⟩
    have hphase := (flowInv_run hrun).phase p hstate
    rw [hserver] at hphase
    cases hphase with
    | @received before mid after start port t urlStr data hes hstart hidle hparse =>
      exact ⟨before, start, mid, after, t, urlStr, p, hes, hstart, hidle, hparse, hsame, hfresh, hslices⟩
    | lost _ _ _ _ hdead => cases (hdead _ rfl).2
  · rintro ⟨before, start, mid, after, t, urlStr, p, rfl, hstart, hidle, hparse, hsame, hfresh, hslices⟩
    obtain ⟨hmid, hafter⟩ := List.forall_mem_append.mp hidle
    obtain ⟨st₀, -, hrun⟩ := run_append.mp hrun
    obtain ⟨st₁, hstep₁, hrun⟩ := run_cons_iff.mp hrun
    obtain ⟨port, hopen⟩ := flowOpen_of_start hstep₁ hstart
    obtain ⟨st₂, hrun₂, hrun⟩ := run_append.mp hrun
    obtain ⟨st₃, hstep₃, hrun⟩ := run_cons_iff.mp hrun
    obtain ⟨hstate, hserver⟩ :=
      ((hopen.idle_run hrun₂ hmid).receives hparse hstep₃).idle_run hrun hafter
    exact ⟨⟨port, false, [], hserver⟩, hslices, p, hstate, hsame, hfresh⟩

/-! ## 6. What an open flow can come to -/

/-- A request, or a poll. -/
def OAuthEvent.Waits : OAuthEvent c → Prop
  | ((_, .request _), _) => True
  | ((_, .pollOauth _), _) => True
  | _ => False

/-- Without a server that serves, and without a callback, there is nothing that a poll could find. -/
theorem lost_step (hstate : st.manager.state = .awaitingOAuthCallback p)
    (hdead : ∀ s, st.server = some s → s.serving = false ∧ s.channel = [])
    {i : Int × OAuthInput c} {o : OAuthOutput} (hstep : OAuthStep parse level st i o st')
    (hwaits : OAuthEvent.Waits (i, o)) :
    st' = st ∧ ∃ t r, (i, o) = ((t, .pollOauth r), .polled (.ok 0) none false) := by
  obtain ⟨now, i⟩ := i
  obtain ⟨hheard, hnext⟩ := hstep
  cases i with
  | request urlStr =>
    obtain ⟨server, hserver, hserving⟩ := hheard
    exact absurd ((hdead server hserver).1.symm.trans hserving) Bool.false_ne_true
  | pollOauth r =>
    have htake : st.takeCallback = none := by
      unfold OAuthSystem.takeCallback
      split
      · rename_i port serving data rest hserver
        cases (hdead _ hserver).2
      · rfl
    simp only [OAuthSystem.next, OAuthSystem.poll, hstate, htake] at hnext
    obtain ⟨rfl, rfl⟩ := Prod.mk.inj hnext
    exact ⟨rfl, now, r, rfl⟩
  | startOauth => exact hwaits.elim
  | cancelOauth => exact hwaits.elim
  | signIn => exact hwaits.elim
  | signOut => exact hwaits.elim

theorem lost_run (hstate : st.manager.state = .awaitingOAuthCallback p)
    (hdead : ∀ s, st.server = some s → s.serving = false ∧ s.channel = [])
    (hrun : Run (OAuthStep parse level) st es st') (hwaits : ∀ e ∈ es, OAuthEvent.Waits e) :
    st' = st ∧ ∀ e ∈ es, ∃ t r, e = ((t, .pollOauth r), .polled (.ok 0) none false) := by
  induction hrun with
  | nil st => exact ⟨rfl, fun e he => (List.not_mem_nil he).elim⟩
  | cons hstep _ ih =>
    obtain ⟨hfirst, hrest⟩ := List.forall_mem_cons.mp hwaits
    obtain ⟨rfl, hpoll⟩ := lost_step hstate hdead hstep hfirst
    obtain ⟨rfl, hpolls⟩ := ih hstate hdead hrest
    exact ⟨rfl, List.forall_mem_cons.mpr ⟨hpoll, hpolls⟩⟩

/-- **What an open flow can come to.**  After every run that ends with an open flow, its server
waits for a callback, or a callback has come and the next poll takes it, or the flow is lost: since
its start another start has failed, or a poll has taken a callback that was not sent on.  A lost
flow remains open, and whatever requests come then, they are not heard, and polls answer 0 for
ever. -/
theorem oauth_flow_open (hrun : Run (OAuthStep parse level) (OAuthSystem.new storage io) es st)
    (hstate : st.manager.state = .awaitingOAuthCallback p) :
    ∃ (before : OAuthLog c) (start : OAuthEvent c) (mid : OAuthLog c),
      es = before ++ start :: mid ∧ start.Starts p ∧
      (((∀ e ∈ mid, OAuthEvent.Idle e) ∧ ∃ port, st.server = some ⟨port, true, []⟩) ∨
        (∃ (mid₁ after : OAuthLog c) (t : Int) (urlStr : String) (data : OAuthCallbackData),
          mid = mid₁ ++ ((t, .request urlStr), .responded 200) :: after ∧
            (∀ e ∈ mid₁ ++ after, OAuthEvent.Idle e) ∧ parseCallback parse urlStr = some data ∧
            ∀ (now : Int) (r : ExchangeReplies c) o st', OAuthStep parse level st (now, .pollOauth r) o st' →
              ∃ result exchanged, o = .polled result (some data) exchanged) ∨
        ((∃ e ∈ mid, OAuthEvent.Loses e) ∧
          ∀ (es' : OAuthLog c) st', Run (OAuthStep parse level) st es' st' →
            (∀ e ∈ es', OAuthEvent.Waits e) →
              st' = st ∧ ∀ e ∈ es', ∃ t r, e = ((t, .pollOauth r), .polled (.ok 0) none false))) := by
  have hphase := (flowInv_run hrun).phase p hstate
  generalize hserver : st.server = server at hphase
  cases hphase with
  | @waiting before mid start port hes hstart hidle =>
    exact ⟨before, start, mid, hes, hstart, Or.inl ⟨hidle, port, rfl⟩⟩
  | @received before mid after start port t urlStr data hes hstart hidle hparse =>
    refine ⟨before, start, _, hes, hstart,
      Or.inr (Or.inl ⟨mid, after, t, urlStr, data, rfl, hidle, hparse, ?_⟩)⟩
    rintro now r o st' ⟨-, hnext⟩
    simp only [OAuthSystem.next, OAuthSystem.poll, hstate, OAuthSystem.takeCallback, hserver] at hnext
    obtain ⟨result, exchanged, st₁, hcomplete, -⟩ :=
      complete_cases level now r data { st with server := some ⟨port, false, []⟩ }
    exact ⟨result, exchanged, congrArg Prod.fst (hnext.symm.trans hcomplete)⟩
  | @lost before mid start e server hes hstart hmem hloses hdead =>
    refine ⟨before, start, mid, hes, hstart, Or.inr (Or.inr ⟨⟨e, hmem, hloses⟩, ?_⟩)⟩
    exact fun es' st' hrun' => lost_run hstate (hserver ▸ hdead) hrun'

end Runs

end Flows

/-- `Url::parse` on the request of a browser that comes back from the login page. -/
def browserParse (url : String) : Option ParsedUrl :=
  if url = "http://localhost/callback?token=0b7e4f9c2d&state=" ++ sampleState.val then
    some ⟨"/callback", [("token", "0b7e4f9c2d"), ("state", sampleState.val)]⟩
  else none

def browserRequest : String := "/callback?token=0b7e4f9c2d&state=" ++ sampleState.val

theorem browserRequest_parsed :
    parseCallback browserParse browserRequest = some ⟨"0b7e4f9c2d", sampleState.val⟩ := by
  decide +kernel

def signInStart (bind : BindReply) : OAuthInput sampleCodec := .startOauth none bind sampleState

/-- The SDK without a stored session. -/
def freshOAuth : OAuthSystem :=
  .new (SecureStorage.empty true) (.granted sampleNonce true true : StorageIo sampleCodec)

def offlineReplies : ExchangeReplies sampleCodec :=
  ⟨.error (.network "offline"), .granted sampleNonce true true, 61000000000,
    .error (.network "offline")⟩

/-- **A token that was sent on**, one minute after the start of its flow. -/
theorem browser_token_exchanged :
    ∃ (es : OAuthLog sampleCodec) (st : OAuthSystem) (result : Checked Int) (st' : OAuthSystem),
      Run (OAuthStep browserParse .info) freshOAuth es st ∧
        OAuthStep browserParse .info st (60000000000, .pollOauth offlineReplies)
          (.polled result (some ⟨"0b7e4f9c2d", sampleState.val⟩) true) st' := by
  let st₁ := (freshOAuth.next browserParse .info 0 (signInStart .default)).2
  have hstart : OAuthStep browserParse .info freshOAuth (0, signInStart .default)
      (freshOAuth.next browserParse .info 0 (signInStart .default)).1 st₁ := ⟨trivial, rfl⟩
  have hrequest : OAuthStep browserParse .info st₁
      (50000000000, (.request browserRequest : OAuthInput sampleCodec)) (.responded 200)
      ⟨st₁.manager, some ⟨defaultOauthPort, false, [⟨"0b7e4f9c2d", sampleState.val⟩]⟩⟩ := by
    refine ⟨⟨⟨defaultOauthPort, true, []⟩, rfl, rfl⟩, ?_⟩
    have hserver : st₁.server = some ⟨defaultOauthPort, true, []⟩ := rfl
    simp only [OAuthSystem.next, hserver, OAuthServer.request, browserRequest_parsed,
      List.nil_append]
  have hrun := Run.cons hstart (Run.cons hrequest (Run.nil _))
  obtain ⟨result, st', hpoll⟩ := (oauth_exchange_iff hrun 60000000000 offlineReplies
    ⟨"0b7e4f9c2d", sampleState.val⟩).mpr
      ⟨[], _, [], [], 50000000000, _, ⟨sampleState.val, 0⟩, rfl,
        ⟨none, .default, sampleState, none, _, rfl, rfl⟩, fun e he => (List.not_mem_nil he).elim,
        browserRequest_parsed, rfl, by decide, logLine_ok_iff.mp (by decide +kernel)⟩
  exact ⟨_, _, result, st', hrun, hpoll⟩

/-- **A flow that is lost**: it was started once more, and no port could be bound. -/
theorem second_start_lost :
    ∃ (es : OAuthLog sampleCodec) (st : OAuthSystem),
      Run (OAuthStep browserParse .info) freshOAuth es st ∧
        st.manager.state = .awaitingOAuthCallback ⟨sampleState.val, 0⟩ ∧
        ∀ (es' : OAuthLog sampleCodec) st', Run (OAuthStep browserParse .info) st es' st' →
          (∀ e ∈ es', OAuthEvent.Waits e) → st' = st := by
  let st₁ := (freshOAuth.next browserParse .info 0 (signInStart .default)).2
  let st₂ := (st₁.next browserParse .info 5000000000 (signInStart (.failed "in use"))).2
  have hstart : OAuthStep browserParse .info freshOAuth (0, signInStart .default)
      (freshOAuth.next browserParse .info 0 (signInStart .default)).1 st₁ := ⟨trivial, rfl⟩
  have hagain : OAuthStep browserParse .info st₁ (5000000000, signInStart (.failed "in use"))
      (st₁.next browserParse .info 5000000000 (signInStart (.failed "in use"))).1 st₂ := ⟨trivial, rfl⟩
  have hrun := Run.cons hstart (Run.cons hagain (Run.nil _))
  obtain ⟨-, -, -, -, -, ⟨-, port, hserver⟩ | ⟨-, -, -, -, data, -, -, -, hpoll⟩ | ⟨-, hlost⟩⟩ :=
    oauth_flow_open (p := ⟨sampleState.val, 0⟩) hrun rfl
  · cases hserver
  · obtain ⟨result, exchanged, hpolled⟩ :=
      hpoll 6000000000 offlineReplies (.polled (.ok 0) none false) st₂ ⟨trivial, rfl⟩
    cases hpolled
  · exact ⟨_, _, hrun, rfl, fun es' st' hrun' hwaits => (hlost es' st' hrun' hwaits).1⟩

end SwiftTunnel
