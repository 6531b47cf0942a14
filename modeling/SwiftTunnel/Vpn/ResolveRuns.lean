/-
# A call of `resolve_roblox_hosts`, step by step

`relay.rs`.  The call sends its requests in batches and waits for each answer: it polls one slot
every 50 ms until the slot holds a response to the batch or the batch's deadline has passed.
Whoever calls `receive_inbound` fills the slot, and each resolve response replaces the one before
it, whatever it answers.

Here the steps of the call are interleaved with what happens to the relay: datagrams of any kind
and sender, switches, and time.  Only `receive_inbound` writes the slot, and only resolve responses
of the session from an accepted sender (`receiveInbound_slot`, `next_slot`).

A response that comes in time is owed to the map until the call takes it from the slot.  The state
keeps what is owed, which is no data of the program, and the invariant `OwedInv` says where it is:
in the slot, under the id that the call looks for.  A step loses an answer only by breaking that, so
the conditions on a step are about the slot:

* `inMap_of_orderly`: where each response is to the awaited batch and is read before the next one
  comes, the map has all that came in time.
* `resolve_answers_kept`: so it does where no in-time response is replaced unread, comes too late
  for the last poll, or brings something new for an answered batch; and only responses to the
  awaited batch are ever merged, in every run.
* `resolve_answer_lost`: a late duplicate that replaces an unread response.
* `next_step`: the events are those of a run of the relay, so what holds of its runs holds here.
* `resolving_collects`: what a run returns, the collector of `Resolve` returns; the two models of
  the call are one.

Whether the relay's answers are true is not a matter of this module; `Allocation` and `PinRuns` are
about what becomes of them.
-/
import SwiftTunnel.Vpn.Relay

namespace SwiftTunnel.Relay

open Rust

/-! ## 1. What a call of `receive_inbound` records -/

/-- The resolve response that a call writes into the slot. -/
def UdpRelay.recordedBy (r : UdpRelay) (now : Instant) : UdpRelay.Recv → ResolveSlot
  | .datagram bytes _ sender =>
    if r.pendingAuthAddr = some sender then none
    else if sender ≠ r.relayAddr ∧ r.inGrace now sender = false then none
    else if bytes.take sessionIdLen = r.sessionId ∧
        bytes[sessionIdLen]? = some resolveResponseFrameType then
      match parseResolveResponse (recvBufOf bytes) bytes.length with
      | .ok parsed => parsed
      | .error _ => none
    else none
  | .nothing | .failed _ => none

namespace UdpRelay

section Slot

variable {r : UdpRelay} {now : Instant} {bytes buffer : Bytes} {sender : SocketAddr} {out : Inbound}

theorem deliver_slot (hlen : sessionIdLen ≤ bytes.length)
    (h : r.deliver now (recvBufOf bytes) bytes.length buffer = .ok out) :
    out.relay.lastResolveResponse = r.lastResolveResponse := by
  rw [deliver_ok r now buffer hlen] at h
  split at h
  · obtain rfl := Except.ok.inj h
    rfl
  · obtain rfl := Except.ok.inj h
    rfl

/-- The slot after a datagram whose sender is accepted. -/
theorem receiveAccepted_slot
    (h : r.receiveAccepted now (recvBufOf bytes) bytes.length buffer = .ok out) :
    out.relay.lastResolveResponse =
      (if bytes.take sessionIdLen = r.sessionId ∧
          bytes[sessionIdLen]? = some resolveResponseFrameType then
        match parseResolveResponse (recvBufOf bytes) bytes.length with
        | .ok parsed => parsed
        | .error _ => none
      else none).or r.lastResolveResponse := by
  rw [receiveAccepted_eq] at h
  by_cases hid : bytes.take sessionIdLen = r.sessionId
  · rw [if_neg (not_not.mpr hid)] at h
    by_cases htype : bytes[sessionIdLen]? = some resolveResponseFrameType
    · rw [if_pos htype] at h
      rw [if_pos ⟨hid, htype⟩]
      cases hparse : parseResolveResponse (recvBufOf bytes) bytes.length with
      | error e =>
        rw [hparse] at h
        cases h
      | ok parsed =>
        rw [hparse] at h
        obtain rfl := Except.ok.inj h
        rfl
    · rw [if_neg htype] at h
      rw [if_neg fun hc => htype hc.2, Option.none_or]
      exact deliver_slot (le_length_of_session hid) h
  · rw [if_pos hid] at h
    obtain rfl := Except.ok.inj h
    rw [if_neg fun hc => hid hc.1, Option.none_or]

/-- **The slot after a call**: what the call records, if it records anything. -/
theorem receiveInbound_slot {recv : Recv} (h : r.receiveInbound now recv buffer = .ok out) :
    out.relay.lastResolveResponse = (r.recordedBy now recv).or r.lastResolveResponse := by
  cases recv with
  | nothing =>
    obtain rfl := Except.ok.inj h
    rfl
  | failed e =>
    obtain rfl := Except.ok.inj h
    rfl
  | datagram bytes fits sender =>
    rw [receiveInbound] at h
    rw [recordedBy]
    by_cases hpend : r.pendingAuthAddr = some sender
    · rw [if_pos hpend] at h ⊢
      obtain ⟨ack, hack⟩ := recordAuthAck_ok r bytes sender
      rw [hack] at h
      obtain rfl := Except.ok.inj h
      rfl
    · rw [if_neg hpend] at h ⊢
      by_cases hstrange : sender ≠ r.relayAddr ∧ r.inGrace now sender = false
      · rw [if_pos hstrange] at h ⊢
        obtain rfl := Except.ok.inj h
        rfl
      · rw [if_neg hstrange] at h ⊢
        exact receiveAccepted_slot h

end Slot

end UdpRelay

/-! ## 2. The relay as it goes on -/

namespace RelayState

/-- The state after an event.  `receive_inbound` never panics (`next_step`). -/
def next (st : RelayState) : RelayInput → RelayState
  | .switchRelay addr => ⟨st.now, st.relay.switchRelay st.now addr⟩
  | .beginAuth target => ⟨st.now, st.relay.beginAuth target⟩
  | .endAuth => ⟨st.now, st.relay.endAuth⟩
  | .receive recv buffer =>
    match st.relay.receiveInbound st.now recv buffer with
    | .ok out => ⟨st.now, out.relay⟩
    | .error _ => st
  | .tick d => ⟨st.now + d, st.relay⟩

/-- The resolve response that an event records. -/
def recordedBy (st : RelayState) : RelayInput → ResolveSlot
  | .receive recv _ => st.relay.recordedBy st.now recv
  | .switchRelay _ | .beginAuth _ | .endAuth | .tick _ => none

theorem receiveInbound_ok (r : UdpRelay) (now : Instant) (recv : UdpRelay.Recv) (buffer : Bytes) :
    ∃ out, r.receiveInbound now recv buffer = .ok out := by
  cases recv with
  | nothing => exact ⟨_, rfl⟩
  | failed e => exact ⟨_, rfl⟩
  | datagram bytes fits sender =>
    obtain ⟨out, hout, -⟩ := r.receiveInbound_spec now fits sender buffer
    exact ⟨out, hout⟩

/-- The events are those of a run of the relay. -/
theorem next_step (st : RelayState) (i : RelayInput) : ∃ o, RelayStep st i o (st.next i) := by
  cases i with
  | receive recv buffer =>
    obtain ⟨out, hout⟩ := receiveInbound_ok st.relay st.now recv buffer
    refine ⟨_, out, hout, rfl, ?_⟩
    rw [next, hout]
  | _ => exact ⟨none, rfl, rfl⟩

/-- **An event changes the slot exactly by recording.** -/
theorem next_slot (st : RelayState) (i : RelayInput) :
    (st.next i).relay.lastResolveResponse =
      (st.recordedBy i).or st.relay.lastResolveResponse := by
  cases i with
  | receive recv buffer =>
    obtain ⟨out, hout⟩ := receiveInbound_ok st.relay st.now recv buffer
    rw [next, hout]
    exact UdpRelay.receiveInbound_slot hout
  | _ => rfl

end RelayState

/-! ## 3. The call -/

/-- Where the call stands. -/
inductive ResolvePc where
  /-- `*self.last_resolve_response.lock() = None`. -/
  | reset
  /-- `send_resolve_request`. -/
  | send
  /-- `Instant::now() + per_batch_timeout`. -/
  | arm
  /-- The look at the slot. -/
  | poll (deadline : Instant)
  /-- `Instant::now() >= deadline`. -/
  | check (deadline : Instant)
  /-- `sleep(50 ms)`, which ends no earlier than `wake`. -/
  | sleep (deadline wake : Instant)
  | done
  deriving DecidableEq, Repr

/-- The request has been sent and its answer is waited for. -/
def ResolvePc.awaits : ResolvePc → Bool
  | arm | poll _ | check _ | sleep _ _ => true
  | reset | send | done => false

/-- The relay and the call.  Of the hosts only the number of batches matters.  The last two
fields are no data of the program: they keep what the results are about. -/
structure Resolving where
  net : RelayState
  perBatchTimeout : Duration
  /-- The batches after this one. -/
  remaining : Nat
  requestId : UInt16
  pc : ResolvePc
  out : Map String (List Ipv4Addr)
  /-- The requests sent so far with their deadlines, once read; newest first. -/
  asked : List (UInt16 × Option Instant)
  /-- The in-time answers to the awaited batch that the slot has still to hand over. -/
  owed : Option ResolveAnswers

/-- `Duration::from_millis(50)`. -/
def resolvePollInterval : Duration := Duration.fromMillis 50

namespace Resolving

/-- A call on a relay; an earlier call may have left something in the slot. -/
def start (net : RelayState) (hosts : List String) (perBatchTimeout : Duration) : Resolving where
  net := net
  perBatchTimeout := perBatchTimeout
  remaining := chunkCount hosts - 1
  requestId := 1
  pc := if chunkCount hosts = 0 then .done else .reset
  out := ∅
  asked := []
  owed := none

def slot (s : Resolving) : ResolveSlot := s.net.relay.lastResolveResponse

/-- The end of a batch. -/
def leave (s : Resolving) : Resolving :=
  { s with
    requestId := s.requestId + 1
    pc := if s.remaining = 0 then .done else .reset
    remaining := s.remaining - 1
    owed := none }

/-- The call goes on; `sent` is whether the socket takes a request. -/
def resume (s : Resolving) (sent : Bool) : Resolving :=
  match s.pc with
  | .reset =>
    { s with
      net := { s.net with relay := { s.net.relay with lastResolveResponse := none } }
      pc := .send }
  | .send =>
    if sent then { s with pc := .arm, asked := (s.requestId, none) :: s.asked } else s.leave
  | .arm =>
    let deadline := s.net.now + s.perBatchTimeout
    { s with pc := .poll deadline, asked := (s.requestId, some deadline) :: s.asked.tail }
  | .poll deadline =>
    match s.slot with
    | some (rid, answers) =>
      if rid = s.requestId then leave { s with out := mergeAnswers s.out answers }
      else { s with pc := .check deadline }
    | none => { s with pc := .check deadline }
  | .check deadline =>
    if deadline ≤ s.net.now then s.leave
    else { s with pc := .sleep deadline (s.net.now + resolvePollInterval) }
  | .sleep deadline wake => if wake ≤ s.net.now then { s with pc := .poll deadline } else s
  | .done => s

/-- A request with this id has been sent, and its deadline has not passed. -/
def inTime (s : Resolving) (rid : UInt16) : Bool :=
  s.asked.any fun q => q.1 == rid && q.2.all fun deadline => decide (s.net.now < deadline)

/-- The id is that of the batch that is being awaited. -/
def awaited (s : Resolving) (rid : UInt16) : Bool := s.pc.awaits && rid == s.requestId

/-- Something happens to the relay. -/
def event (s : Resolving) (i : RelayInput) : Resolving :=
  { s with
    net := s.net.next i
    owed := match s.net.recordedBy i with
      | none => s.owed
      | some (rid, answers) =>
        if s.awaited rid then if s.inTime rid then some answers else s.owed else none }

end Resolving

/-- What happens next. -/
inductive ResolveInput where
  | relay (i : RelayInput)
  | call (sent : Bool)

/-- One step, and the response that it records. -/
def Resolving.next (s : Resolving) : ResolveInput → ResolveSlot × Resolving
  | .relay i => (s.net.recordedBy i, s.event i)
  | .call sent => (none, s.resume sent)

/-- One step. -/
def Resolving.Step (s : Resolving) (i : ResolveInput) (o : ResolveSlot) (s' : Resolving) : Prop :=
  s.next i = (o, s')

/-! ## 4. Answers in the map -/

/-- The response gives this address for this host. -/
def Gives (answers : ResolveAnswers) (host : String) (ip : Ipv4Addr) : Prop :=
  ∃ ips, (host, ips) ∈ answers ∧ ip ∈ ips

/-- All non-empty answers are in the map. -/
def InMap (out : Map String (List Ipv4Addr)) (answers : ResolveAnswers) : Prop :=
  ∀ host ips, (host, ips) ∈ answers → ips ≠ [] → ∃ all, out.lookup host = some all ∧ ips ⊆ all

/-- The first response gives whatever the second one does. -/
def Covers (answers answers' : ResolveAnswers) : Prop :=
  ∀ host ip, Gives answers' host ip → Gives answers host ip

theorem Covers.refl (answers : ResolveAnswers) : Covers answers answers := fun _ _ h => h

theorem Covers.trans {a b c : ResolveAnswers} (h : Covers a b) (h' : Covers b c) : Covers a c :=
  fun host ip hg => h host ip (h' host ip hg)

theorem inMap_iff {out : Map String (List Ipv4Addr)} {answers : ResolveAnswers} :
    InMap out answers ↔ ∀ host ip, Gives answers host ip → ip ∈ (out.lookup host).getD [] := by
  constructor
  · rintro h host ip ⟨ips, hips, hip⟩
    obtain ⟨all, hall, hsub⟩ := h host ips hips (List.ne_nil_of_mem hip)
    rw [hall]
    exact hsub hip
  · intro h host ips hips hne
    have hall : ∀ ip ∈ ips, ip ∈ (out.lookup host).getD [] := fun ip hip => h host ip ⟨ips, hips, hip⟩
    cases hout : out.lookup host with
    | none =>
      rw [hout] at hall
      obtain ⟨ip, hip⟩ := List.exists_mem_of_ne_nil ips hne
      exact nomatch hall ip hip
    | some all =>
      rw [hout] at hall
      exact ⟨all, rfl, hall⟩

theorem InMap.of_covers {out : Map String (List Ipv4Addr)} {a b : ResolveAnswers} (h : InMap out a)
    (hcov : Covers a b) : InMap out b :=
  inMap_iff.mpr fun host ip hg => inMap_iff.mp h host ip (hcov host ip hg)

/-- **What a merge adds** to the addresses of a host. -/
theorem mem_mergeAnswers {host : String} {ip : Ipv4Addr} (answers : ResolveAnswers)
    (out : Map String (List Ipv4Addr)) :
    ip ∈ ((mergeAnswers out answers).lookup host).getD [] ↔
      ip ∈ (out.lookup host).getD [] ∨ Gives answers host ip := by
  induction answers generalizing out with
  | nil => simp [mergeAnswers, Gives]
  | cons a answers ih =>
    obtain ⟨h, ips⟩ := a
    have hgives : Gives ((h, ips) :: answers) host ip ↔
        (host = h ∧ ip ∈ ips) ∨ Gives answers host ip := by
      constructor
      · rintro ⟨ips', hmem, hip⟩
        rcases List.mem_cons.mp hmem with heq | hmem
        · obtain ⟨rfl, rfl⟩ := Prod.mk.inj heq
          exact Or.inl ⟨rfl, hip⟩
        · exact Or.inr ⟨ips', hmem, hip⟩
      · rintro (⟨rfl, hip⟩ | ⟨ips', hmem, hip⟩)
        · exact ⟨ips, List.mem_cons_self, hip⟩
        · exact ⟨ips', List.mem_cons_of_mem _ hmem, hip⟩
    have hinsert : ip ∈ ((if ips = [] then out
        else out.insert h ((out.lookup h).getD [] ++ ips)).lookup host).getD [] ↔
          ip ∈ (out.lookup host).getD [] ∨ (host = h ∧ ip ∈ ips) := by
      by_cases hips : ips = []
      · simp [hips]
      · rw [if_neg hips]
        by_cases hhost : host = h
        · subst hhost
          simp [AList.lookup_insert]
        · rw [AList.lookup_insert_ne hhost]
          simp [hhost]
    rw [hgives, ← or_assoc, ← hinsert]
    exact ih _

theorem inMap_merge_left {out : Map String (List Ipv4Addr)} {a : ResolveAnswers} (h : InMap out a)
    (answers : ResolveAnswers) : InMap (mergeAnswers out answers) a :=
  inMap_iff.mpr fun host ip hg =>
    (mem_mergeAnswers answers out).mpr (Or.inl (inMap_iff.mp h host ip hg))

theorem inMap_merge (out : Map String (List Ipv4Addr)) (answers : ResolveAnswers) :
    InMap (mergeAnswers out answers) answers :=
  inMap_iff.mpr fun _ _ hg => (mem_mergeAnswers answers out).mpr (Or.inr hg)

/-! ## 5. What is owed -/

namespace Resolving

/-- Responses come one at a time: each is to the awaited batch and finds the one before it read,
and the call gives up on none. -/
def orderly (s : Resolving) : ResolveInput → Bool
  | .relay i => (s.net.recordedBy i).all fun r => s.owed.isNone && s.awaited r.1
  | .call _ => match s.pc with
    | .check _ => s.owed.isNone
    | _ => true

def OrderlyStep (s : Resolving) (i : ResolveInput) (o : ResolveSlot) (s' : Resolving) : Prop :=
  s.orderly i = true ∧ s.next i = (o, s')

/-- What must not happen to the slot, and more than `orderly` allows.  A response may stand over an
unread one that came in time only when it is to the same batch and gives all that one gives; one to
a batch that is not awaited any more may bring only what the map has; and the last poll of a batch
may not be past when its response comes.  Where the map has the answers already, all is allowed. -/
def KeepsAnswers (s : Resolving) : ResolveInput → Prop
  | .relay i => ∀ rid answers, s.net.recordedBy i = some (rid, answers) →
    (∀ owed, s.owed = some owed →
      InMap s.out owed ∨ (s.awaited rid = true ∧ Covers answers owed)) ∧
    (s.inTime rid = true → s.awaited rid = false → InMap s.out answers)
  | .call _ => ∀ deadline owed, s.pc = .check deadline → deadline ≤ s.net.now →
    s.owed = some owed → InMap s.out owed

/-- Orderly responses are not lost. -/
theorem keepsAnswers_of_orderly {s : Resolving} {i : ResolveInput} (h : s.orderly i = true) :
    s.KeepsAnswers i := by
  cases i with
  | relay i =>
    intro rid answers hrec
    rw [orderly, hrec, Option.all_some, Bool.and_eq_true, Option.isNone_iff_eq_none] at h
    refine ⟨fun owed howed => ?_, fun _ hnot => ?_⟩
    · rw [h.1] at howed
      exact nomatch howed
    · rw [h.2] at hnot
      exact nomatch hnot
  | call sent =>
    intro deadline owed hpc _ howed
    rw [orderly, hpc] at h
    dsimp only at h
    rw [howed] at h
    exact nomatch h

/-- A step in which nothing of this happens to the slot. -/
def KeptStep (s : Resolving) (i : ResolveInput) (o : ResolveSlot) (s' : Resolving) : Prop :=
  s.KeepsAnswers i ∧ s.next i = (o, s')

/-- What is owed is in the slot, under the id that the call looks for. -/
def OwedInv (s : Resolving) : Prop :=
  ∀ owed, s.owed = some owed → s.pc.awaits = true ∧
    ∃ answers, s.slot = some (s.requestId, answers) ∧ (InMap s.out owed ∨ Covers answers owed)

/-- The answers are in the map, or owed to it. -/
def Kept (s : Resolving) (answers : ResolveAnswers) : Prop :=
  InMap s.out answers ∨ ∃ owed, s.owed = some owed ∧ Covers owed answers

theorem event_none {s : Resolving} {i : RelayInput} (h : s.net.recordedBy i = none) :
    (s.event i).owed = s.owed ∧ (s.event i).slot = s.slot := by
  refine ⟨?_, ?_⟩
  · simp only [event, h]
  · rw [slot, event, RelayState.next_slot, h]
    rfl

theorem event_some {s : Resolving} {i : RelayInput} {rid : UInt16} {answers : ResolveAnswers}
    (h : s.net.recordedBy i = some (rid, answers)) :
    (s.event i).owed =
        (if s.awaited rid then if s.inTime rid then some answers else s.owed else none) ∧
      (s.event i).slot = some (rid, answers) := by
  refine ⟨?_, ?_⟩
  · simp only [event, h]
  · rw [slot, event, RelayState.next_slot, h]
    rfl

theorem awaited_iff {s : Resolving} {rid : UInt16} :
    s.awaited rid = true ↔ s.pc.awaits = true ∧ rid = s.requestId := by
  simp [awaited]

theorem owedInv_event {s : Resolving} {i : RelayInput} (h : OwedInv s)
    (hkeeps : s.KeepsAnswers (.relay i)) : OwedInv (s.event i) := by
  intro owed howed
  cases hrec : s.net.recordedBy i with
  | none =>
    obtain ⟨hsame, hslot⟩ := event_none hrec
    rw [hsame] at howed
    rw [hslot]
    exact h owed howed
  | some r =>
    obtain ⟨rid, answers⟩ := r
    obtain ⟨hnew, hslot⟩ := event_some hrec
    rw [hnew] at howed
    rw [hslot]
    by_cases haw : s.awaited rid = true
    · obtain ⟨hawaits, rfl⟩ := awaited_iff.mp haw
      rw [if_pos haw] at howed
      refine ⟨hawaits, answers, rfl, ?_⟩
      by_cases hin : s.inTime s.requestId = true
      · rw [if_pos hin] at howed
        obtain rfl := Option.some.inj howed
        exact Or.inr (Covers.refl answers)
      · rw [if_neg hin] at howed
        exact ((hkeeps _ _ hrec).1 owed howed).imp_right And.right
    · rw [if_neg haw] at howed
      exact nomatch howed

/-- What the call does to the map and to what is owed: it goes on waiting, it takes a response to
its request from the slot, or it leaves a batch that it was not waiting for or that is over. -/
theorem resume_cases (s : Resolving) (sent : Bool) :
    ((s.resume sent).out = s.out ∧ (s.resume sent).owed = s.owed ∧
        (s.pc.awaits = true → (s.resume sent).pc.awaits = true ∧ (s.resume sent).slot = s.slot ∧
          (s.resume sent).requestId = s.requestId)) ∨
      (∃ deadline answers, s.pc = .poll deadline ∧ s.slot = some (s.requestId, answers) ∧
        (s.resume sent).out = mergeAnswers s.out answers ∧ (s.resume sent).owed = none) ∨
      ((s.pc = .send ∨ ∃ deadline, s.pc = .check deadline ∧ deadline ≤ s.net.now) ∧
        (s.resume sent).out = s.out ∧ (s.resume sent).owed = none) := by
  rw [resume]
  cases hpc : s.pc with
  | reset => exact Or.inl ⟨rfl, rfl, nofun⟩
  | send =>
    dsimp only
    split
    · exact Or.inl ⟨rfl, rfl, nofun⟩
    · exact Or.inr (Or.inr ⟨Or.inl rfl, rfl, rfl⟩)
  | arm => exact Or.inl ⟨rfl, rfl, fun _ => ⟨rfl, rfl, rfl⟩⟩
  | poll deadline =>
    dsimp only
    split
    · rename_i rid answers hslot
      split
      · rename_i hrid
        subst hrid
        exact Or.inr (Or.inl ⟨deadline, answers, rfl, hslot, rfl, rfl⟩)
      · exact Or.inl ⟨rfl, rfl, fun _ => ⟨rfl, rfl, rfl⟩⟩
    · exact Or.inl ⟨rfl, rfl, fun _ => ⟨rfl, rfl, rfl⟩⟩
  | check deadline =>
    dsimp only
    split
    · rename_i hover
      exact Or.inr (Or.inr ⟨Or.inr ⟨deadline, rfl, hover⟩, rfl, rfl⟩)
    · exact Or.inl ⟨rfl, rfl, fun _ => ⟨rfl, rfl, rfl⟩⟩
  | sleep deadline wake =>
    dsimp only
    split
    · exact Or.inl ⟨rfl, rfl, fun _ => ⟨rfl, rfl, rfl⟩⟩
    · exact Or.inl ⟨rfl, rfl, fun _ => ⟨by rw [hpc]; rfl, rfl, rfl⟩⟩
  | done => exact Or.inl ⟨rfl, rfl, nofun⟩

theorem owedInv_resume {s : Resolving} (h : OwedInv s) (sent : Bool) :
    OwedInv (s.resume sent) := by
  intro owed howed
  rcases s.resume_cases sent with ⟨hout, hsame, hwaits⟩ | ⟨_, _, _, _, _, hnone⟩ | ⟨_, _, hnone⟩
  · rw [hsame] at howed
    obtain ⟨hawaits, answers, hslot, hcov⟩ := h owed howed
    obtain ⟨hawaits', hslot', hid⟩ := hwaits hawaits
    refine ⟨hawaits', answers, ?_, ?_⟩
    · rw [hslot', hid]
      exact hslot
    · rw [hout]
      exact hcov
  · rw [hnone] at howed
    exact nomatch howed
  · rw [hnone] at howed
    exact nomatch howed

/-- **What is kept stays kept.** -/
theorem kept_step {s s' : Resolving} {i : ResolveInput} {o : ResolveSlot}
    {answers : ResolveAnswers} (hstep : KeptStep s i o s') (hinv : OwedInv s)
    (h : Kept s answers) : Kept s' answers := by
  obtain ⟨hkeeps, hnext⟩ := hstep
  cases i with
  | relay i =>
    obtain ⟨-, rfl⟩ := Prod.mk.inj hnext
    rcases h with hin | ⟨owed, howed, hcov⟩
    · exact Or.inl hin
    · cases hrec : s.net.recordedBy i with
      | none => exact Or.inr ⟨owed, (event_none hrec).1.trans howed, hcov⟩
      | some r =>
        obtain ⟨rid, answers'⟩ := r
        rcases (hkeeps rid answers' hrec).1 owed howed with hin | ⟨haw, hcov'⟩
        · exact Or.inl (hin.of_covers hcov)
        · have hnew := (event_some hrec).1
          rw [if_pos haw] at hnew
          by_cases hin : s.inTime rid = true
          · rw [if_pos hin] at hnew
            exact Or.inr ⟨answers', hnew, hcov'.trans hcov⟩
          · rw [if_neg hin] at hnew
            exact Or.inr ⟨owed, hnew.trans howed, hcov⟩
  | call sent =>
    obtain ⟨-, rfl⟩ := Prod.mk.inj hnext
    rcases s.resume_cases sent with ⟨hout, hsame, -⟩ | ⟨deadline, merged, -, hslot, hout, -⟩ |
      ⟨hleft, hout, -⟩
    · rcases h with hin | ⟨owed, howed, hcov⟩
      · exact Or.inl (hout ▸ hin)
      · exact Or.inr ⟨owed, hsame.trans howed, hcov⟩
    · refine Or.inl ?_
      rw [hout]
      rcases h with hin | ⟨owed, howed, hcov⟩
      · exact inMap_merge_left hin merged
      · obtain ⟨-, answers', hslot', hgot⟩ := hinv owed howed
        rw [hslot] at hslot'
        obtain ⟨-, rfl⟩ := Prod.mk.inj (Option.some.inj hslot')
        rcases hgot with hin | hgot
        · exact inMap_merge_left (hin.of_covers hcov) merged
        · exact (inMap_merge s.out merged).of_covers (hgot.trans hcov)
    · refine Or.inl ?_
      rw [hout]
      rcases h with hin | ⟨owed, howed, hcov⟩
      · exact hin
      · rcases hleft with hsend | ⟨deadline, hcheck, hover⟩
        · have hawaits := (hinv owed howed).1
          rw [hsend] at hawaits
          exact nomatch hawaits
        · exact (hkeeps deadline owed hcheck hover howed).of_covers hcov

theorem owedInv_step {s s' : Resolving} {i : ResolveInput} {o : ResolveSlot}
    (hstep : KeptStep s i o s') (h : OwedInv s) : OwedInv s' := by
  obtain ⟨hkeeps, hnext⟩ := hstep
  cases i with
  | relay i =>
    obtain ⟨-, rfl⟩ := Prod.mk.inj hnext
    exact owedInv_event h hkeeps
  | call sent =>
    obtain ⟨-, rfl⟩ := Prod.mk.inj hnext
    exact owedInv_resume h sent

/-- An in-time response is kept from the step that records it. -/
theorem kept_of_recorded {s s' : Resolving} {i : ResolveInput} {rid : UInt16}
    {answers : ResolveAnswers} (hstep : KeptStep s i (some (rid, answers)) s')
    (hin : s.inTime rid = true) : Kept s' answers := by
  obtain ⟨hkeeps, hnext⟩ := hstep
  cases i with
  | relay i =>
    obtain ⟨hrec, rfl⟩ := Prod.mk.inj hnext
    by_cases haw : s.awaited rid = true
    · have hnew := (event_some hrec).1
      rw [if_pos haw, if_pos hin] at hnew
      exact Or.inr ⟨answers, hnew, Covers.refl answers⟩
    · exact Or.inl ((hkeeps rid answers hrec).2 hin (Bool.eq_false_iff.mpr haw))
  | call sent => exact nomatch congrArg Prod.fst hnext

/-- An answer that is recorded in time stays owed until it is in the map, and a call that is done
owes nothing. -/
theorem inMap_of_kept {net : RelayState} {hosts : List String} {perBatchTimeout : Duration}
    {es₁ es₂ : List (ResolveInput × ResolveSlot)} {s₁ s₂ s : Resolving} {i : ResolveInput}
    {rid : UInt16} {answers : ResolveAnswers}
    (h₁ : Run KeptStep (start net hosts perBatchTimeout) es₁ s₁)
    (hrec : KeptStep s₁ i (some (rid, answers)) s₂) (h₂ : Run KeptStep s₂ es₂ s)
    (hdone : s.pc = .done) (hin : s₁.inTime rid = true) : InMap s.out answers := by
  have hstart : OwedInv (start net hosts perBatchTimeout) := nofun
  have hinv₁ : OwedInv s₁ := h₁.preserves (P := OwedInv) (fun _ _ _ _ => owedInv_step) hstart
  have hkept₂ : OwedInv s₂ ∧ Kept s₂ answers :=
    ⟨owedInv_step hrec hinv₁, kept_of_recorded hrec hin⟩
  have hkept : OwedInv s ∧ Kept s answers :=
    h₂.preserves (P := fun s => OwedInv s ∧ Kept s answers)
      (fun _ _ _ _ hstep h => ⟨owedInv_step hstep h.1, kept_step hstep h.1 h.2⟩) hkept₂
  rcases hkept.2 with hin | ⟨owed, howed, -⟩
  · exact hin
  · have hawaits := (hkept.1 owed howed).1
    rw [hdone] at hawaits
    exact nomatch hawaits

/-- **Orderly responses are all returned**: in every run in which each response is to the batch that
is awaited, and is read before the next one comes and before the call gives the batch up, whatever
was recorded in time is in the map that the call returns. -/
theorem inMap_of_orderly {net : RelayState} {hosts : List String} {perBatchTimeout : Duration}
    {es₁ es₂ : List (ResolveInput × ResolveSlot)} {s₁ s₂ s : Resolving} {i : ResolveInput}
    {rid : UInt16} {answers : ResolveAnswers}
    (h₁ : Run OrderlyStep (start net hosts perBatchTimeout) es₁ s₁)
    (hrec : OrderlyStep s₁ i (some (rid, answers)) s₂) (h₂ : Run OrderlyStep s₂ es₂ s)
    (hdone : s.pc = .done) (hin : s₁.inTime rid = true) : InMap s.out answers := by
  have hkept : ∀ t j o t', OrderlyStep t j o t' → KeptStep t j o t' :=
    fun _ _ _ _ h => ⟨keepsAnswers_of_orderly h.1, h.2⟩
  exact inMap_of_kept (h₁.mono hkept) (hkept _ _ _ _ hrec) (h₂.mono hkept) hdone hin

/-- **When no answer is lost**, orderly or not: in every run in which no response is replaced unread,
brings something new for an answered batch or comes after the last poll (`KeepsAnswers`), a response
that is recorded after its request was sent and before its deadline has all its answers in the map
that the call returns.  And in every step that changes the map, the call merges a response to the
request that it awaits. -/
theorem resolve_answers_kept {net : RelayState} {hosts : List String} {perBatchTimeout : Duration}
    {es₁ es₂ : List (ResolveInput × ResolveSlot)} {s₁ s₂ s : Resolving} {i : ResolveInput}
    {rid : UInt16} {answers : ResolveAnswers}
    (h₁ : Run KeptStep (start net hosts perBatchTimeout) es₁ s₁)
    (hrec : KeptStep s₁ i (some (rid, answers)) s₂) (h₂ : Run KeptStep s₂ es₂ s)
    (hdone : s.pc = .done) :
    (s₁.inTime rid = true → InMap s.out answers) ∧
      ∀ t j o t', Step t j o t' → t'.out = t.out ∨
        ∃ merged, t.pc.awaits = true ∧ t.slot = some (t.requestId, merged) ∧
          t'.out = mergeAnswers t.out merged := by
  constructor
  · exact inMap_of_kept h₁ hrec h₂ hdone
  · intro t j o t' hstep
    cases j with
    | relay i =>
      obtain ⟨-, rfl⟩ := Prod.mk.inj hstep
      exact Or.inl rfl
    | call sent =>
      obtain ⟨-, rfl⟩ := Prod.mk.inj hstep
      rcases t.resume_cases sent with ⟨hout, -⟩ | ⟨deadline, merged, hpc, hslot, hout, -⟩ |
        ⟨-, hout, -⟩
      · exact Or.inl hout
      · exact Or.inr ⟨merged, by rw [hpc]; rfl, hslot, hout⟩
      · exact Or.inl hout

/-! Two batches of Roblox hosts, resolved through a relay on the same machine. -/

def localRelay : RelayState :=
  ⟨0, UdpRelay.new 0 ⟨.v4 ⟨127, 0, 0, 1⟩, 51821⟩ [1, 2, 3, 4, 5, 6, 7, 8]
    exampleSession_length⟩

def wwwAnswers : ResolveAnswers := [("www.roblox.com", [⟨128, 116, 1, 1⟩])]

def authAnswers : ResolveAnswers := [("auth.roblox.com", [⟨128, 116, 1, 2⟩])]

/-- The relay's response to a request. -/
def respond (rid : UInt16) (answers : ResolveAnswers)
    (fits : (responseBytes [1, 2, 3, 4, 5, 6, 7, 8] rid answers).length ≤ recvBufLen) :
    ResolveInput :=
  .relay (.receive (.datagram _ fits ⟨.v4 ⟨127, 0, 0, 1⟩, 51821⟩) [])

/-- The first batch is answered; the second one is asked, and the call sleeps. -/
def untilSecondBatch : List ResolveInput :=
  List.replicate 3 (.call true) ++ [respond 1 wwwAnswers (by decide)] ++
    List.replicate 6 (.call true)

/-- Three seconds pass, and the call wakes and looks into the slot once more. -/
def untilDeadline : List ResolveInput :=
  .relay (.tick (Duration.fromSecs 3)) :: List.replicate 3 (.call true)

def resolveStart : Resolving :=
  start localRelay (robloxBootstrapDomains.take 17) (Duration.fromSecs 3)

def atSecondBatch : Resolving := (trace next resolveStart untilSecondBatch).2

/-- The response to the second batch has been recorded. -/
def afterResponse : Resolving := (atSecondBatch.next (respond 2 authAnswers (by decide))).2

theorem step_afterResponse :
    Step atSecondBatch (respond 2 authAnswers (by decide)) (some (2, authAnswers)) afterResponse := by
  have hrec : (atSecondBatch.next (respond 2 authAnswers (by decide))).1 = some (2, authAnswers) := by
    decide +kernel
  rw [Step, afterResponse, ← hrec]

/-- A duplicate of the first response comes, and then nothing until the deadline. -/
def duplicateFirst : List ResolveInput := respond 1 wwwAnswers (by decide) :: untilDeadline

/-- **A late duplicate makes an answer disappear**: the response to the second batch is recorded
in time, a duplicate of the first response replaces it before the next poll, and the map that is
returned knows nothing of it. -/
theorem resolve_answer_lost :
    ∃ es₁ es₂ s₁ s₂ s i, Run Step resolveStart es₁ s₁ ∧ Step s₁ i (some (2, authAnswers)) s₂ ∧
      Run Step s₂ es₂ s ∧ s.pc = .done ∧ s₁.inTime 2 = true ∧ ¬ InMap s.out authAnswers := by
  have hnone : (trace next afterResponse duplicateFirst).2.out.lookup "auth.roblox.com" = none := by
    decide +kernel
  refine ⟨_, _, atSecondBatch, afterResponse, (trace next afterResponse duplicateFirst).2,
    respond 2 authAnswers (by decide), run_trace next resolveStart untilSecondBatch,
    step_afterResponse, run_trace next afterResponse duplicateFirst, by decide +kernel,
    by decide +kernel, fun hin => ?_⟩
  obtain ⟨all, hall, -⟩ := hin "auth.roblox.com" [⟨128, 116, 1, 2⟩] List.mem_cons_self nofun
  rw [hnone] at hall
  exact nomatch hall

/-- Without the duplicate the answer is in the map. -/
theorem orderly_answers_kept :
    ∃ es₁ es₂ s₁ s₂ s i, Run KeptStep resolveStart es₁ s₁ ∧
      KeptStep s₁ i (some (2, authAnswers)) s₂ ∧ Run KeptStep s₂ es₂ s ∧ s.pc = .done ∧
      InMap s.out authAnswers := by
  have hfirst : TraceMeets next (fun s i => s.orderly i = true) resolveStart untilSecondBatch := by
    decide +kernel
  have hlast : TraceMeets next (fun s i => s.orderly i = true) afterResponse untilDeadline := by
    decide +kernel
  have horderly : atSecondBatch.orderly (respond 2 authAnswers (by decide)) = true := by
    decide +kernel
  have h₁ : Run KeptStep resolveStart (trace next resolveStart untilSecondBatch).1 atSecondBatch :=
    run_trace_meets (hfirst.mono fun _ _ => keepsAnswers_of_orderly)
  have h₂ : Run KeptStep afterResponse (trace next afterResponse untilDeadline).1
      (trace next afterResponse untilDeadline).2 :=
    run_trace_meets (hlast.mono fun _ _ => keepsAnswers_of_orderly)
  have hstep : KeptStep atSecondBatch (respond 2 authAnswers (by decide)) (some (2, authAnswers))
      afterResponse := ⟨keepsAnswers_of_orderly horderly, step_afterResponse⟩
  have hdone : (trace next afterResponse untilDeadline).2.pc = .done := by decide +kernel
  exact ⟨_, _, _, _, _, _, h₁, hstep, h₂, hdone,
    (resolve_answers_kept h₁ hstep h₂ hdone).1 (by decide +kernel)⟩

end Resolving

/-! ## 6. The call as a collector

`Resolve` has the same function at a distance: what the polls of each batch find is an input
there, and the connection manager works with whatever it returns.  Every run of the call is one
of those. -/

/-- The last batch apart. -/
theorem resolveBatches_succ (env : Nat → ResolveBatch) (n i : Nat) (requestId : UInt16)
    (out : Map String (List Ipv4Addr)) :
    resolveBatches env (n + 1) i requestId out =
      mergeAnswers (resolveBatches env n i requestId out)
        (batchAnswers (requestId + UInt16.ofNat n) (env (i + n))) := by
  induction n generalizing i requestId out with
  | zero => simp [resolveBatches]
  | succ n ih =>
    have hid : requestId + 1 + UInt16.ofNat n = requestId + UInt16.ofNat (n + 1) := by
      rw [UInt16.ofNat_add, UInt16.add_assoc, UInt16.add_comm (UInt16.ofNat n)]
      rfl
    rw [resolveBatches, ih, resolveBatches, hid, show i + 1 + n = i + (n + 1) by omega]

/-- Later batches do not matter. -/
theorem resolveBatches_congr {env env' : Nat → ResolveBatch} {n i : Nat} {requestId : UInt16}
    {out : Map String (List Ipv4Addr)} (h : ∀ j, j < n → env (i + j) = env' (i + j)) :
    resolveBatches env n i requestId out = resolveBatches env' n i requestId out := by
  induction n generalizing i requestId out with
  | zero => rfl
  | succ n ih =>
    have h0 : env i = env' i := h 0 (by omega)
    rw [resolveBatches, resolveBatches, h0]
    refine ih fun j hj => ?_
    have := h (j + 1) (by omega)
    rwa [show i + (j + 1) = i + 1 + j by omega] at this

/-- A recorded response as a datagram that is recorded. -/
theorem exists_datagram {r : UdpRelay} {now : Instant} {recv : UdpRelay.Recv}
    {parsed : UInt16 × ResolveAnswers} (h : r.recordedBy now recv = some parsed)
    (slot : ResolveSlot) : ∃ d, recordResponse slot d = some parsed := by
  cases recv with
  | nothing => cases h
  | failed e => cases h
  | datagram bytes fits sender =>
    rw [UdpRelay.recordedBy] at h
    split at h
    · cases h
    split at h
    · cases h
    split at h
    · have hlen : bytes.length ≤ (UdpRelay.recvBufOf bytes).length := by
        rw [UdpRelay.recvBufOf_length fits]
        exact fits
      refine ⟨⟨UdpRelay.recvBufOf bytes, bytes.length, hlen⟩, ?_⟩
      rw [recordResponse]
      split at h
      · rename_i p hp
        rw [hp, h]
      · cases h
    · cases h

namespace Resolving

/-- What the polls of the current batch have found: nothing for it so far, and since the last
one the slot has seen `arrived`. -/
def Gathered (s : Resolving) : Prop :=
  ∃ (polls : List (List Datagram)) (arrived : List Datagram) (slot : ResolveSlot),
    (∀ rest, pollResponse s.requestId none (polls ++ rest) =
      pollResponse s.requestId slot rest) ∧ s.slot = arrived.foldl recordResponse slot

/-- The map is that of the batches before this one. -/
structure Collected (hosts : List String) (env : Nat → ResolveBatch) (k : Nat)
    (s : Resolving) : Prop where
  out : s.out = resolveBatches env k 0 1 ∅
  requestId : s.requestId = 1 + UInt16.ofNat k
  count : s.pc ≠ .done → k + s.remaining + 1 = chunkCount hosts
  counted : s.pc = .done → k = chunkCount hosts
  gathered : s.pc ≠ .reset → s.pc ≠ .done → Gathered s

theorem collected_start (net : RelayState) (hosts : List String) (perBatchTimeout : Duration)
    (env : Nat → ResolveBatch) : Collected hosts env 0 (start net hosts perBatchTimeout) := by
  by_cases hzero : chunkCount hosts = 0
  · refine ⟨rfl, rfl, fun hpc => absurd (if_pos hzero) hpc, fun _ => hzero.symm,
      fun _ hpc => absurd (if_pos hzero) hpc⟩
  · have hpc : (start net hosts perBatchTimeout).pc = .reset := if_neg hzero
    refine ⟨rfl, rfl, fun _ => ?_, fun hdone => ?_, fun hreset => absurd hpc hreset⟩
    · change 0 + (chunkCount hosts - 1) + 1 = _
      omega
    · rw [hpc] at hdone
      exact nomatch hdone

/-- A batch ends, having contributed what `b` does. -/
theorem collected_leave {hosts : List String} {env : Nat → ResolveBatch} {k : Nat} {s : Resolving}
    (h : Collected hosts env k s) (hpc : s.pc ≠ .done) (b : ResolveBatch)
    {out : Map String (List Ipv4Addr)}
    (hout : out = mergeAnswers s.out (batchAnswers s.requestId b)) :
    ∃ env' k', Collected hosts env' k' (leave { s with out := out }) := by
  have hcount := h.count hpc
  refine ⟨Function.update env k b, k + 1, ?_, ?_, ?_, ?_, ?_⟩
  · have hold : resolveBatches (Function.update env k b) k 0 1 ∅ = resolveBatches env k 0 1 ∅ :=
      resolveBatches_congr fun j hj => Function.update_of_ne (by omega) b env
    rw [resolveBatches_succ, hold, ← h.out, ← h.requestId, Nat.zero_add, Function.update_self]
    exact hout
  · change s.requestId + 1 = _
    rw [h.requestId, UInt16.ofNat_add, UInt16.add_assoc]
    rfl
  · intro hmore
    change k + 1 + (s.remaining - 1) + 1 = _
    have : s.remaining ≠ 0 := fun hzero => hmore (if_pos hzero)
    omega
  · intro hdone
    have : s.remaining = 0 := by
      by_contra hne
      rw [leave, if_neg hne] at hdone
      exact nomatch hdone
    omega
  · intro hreset hdone
    by_cases hzero : s.remaining = 0
    · exact absurd (if_pos hzero) hdone
    · exact absurd (if_neg hzero) hreset

theorem gathered_event {s : Resolving} (h : Gathered s) (i : RelayInput) :
    Gathered (s.event i) := by
  obtain ⟨polls, arrived, slot, hpolls, hslot⟩ := h
  cases hrec : s.net.recordedBy i with
  | none => exact ⟨polls, arrived, slot, hpolls, (event_none hrec).2.trans hslot⟩
  | some parsed =>
    obtain ⟨d, hd⟩ : ∃ d, recordResponse s.slot d = some parsed := by
      cases i with
      | receive recv buffer => exact exists_datagram hrec s.slot
      | _ => exact nomatch hrec
    refine ⟨polls, arrived ++ [d], slot, hpolls, ?_⟩
    rw [List.foldl_concat, ← hslot, hd]
    exact (event_some hrec).2

/-- A look at the slot that finds no answer to the request. -/
theorem gathered_poll {s s' : Resolving} (h : Gathered s) (hslot : s'.slot = s.slot)
    (hid : s'.requestId = s.requestId) (hmiss : ∀ answers, s.slot ≠ some (s.requestId, answers)) :
    Gathered s' := by
  obtain ⟨polls, arrived, slot, hpolls, hs⟩ := h
  refine ⟨polls ++ [arrived], [], s.slot, fun rest => ?_, hslot⟩
  rw [hid, List.append_assoc, hpolls]
  simp only [List.singleton_append, pollResponse, ← hs]
  split
  · rename_i rid answers hfound
    rw [if_neg]
    rintro rfl
    exact hmiss answers hfound
  · rfl

/-- The batch goes on. -/
theorem Collected.goOn {hosts : List String} {env : Nat → ResolveBatch} {k : Nat}
    {s s' : Resolving} (h : Collected hosts env k s) (hpc : s.pc ≠ .done) (hout : s'.out = s.out)
    (hid : s'.requestId = s.requestId) (hremaining : s'.remaining = s.remaining)
    (hpc' : s'.pc ≠ .done) (hgathered : Gathered s') : Collected hosts env k s' where
  out := hout.trans h.out
  requestId := hid.trans h.requestId
  count _ := by
    rw [hremaining]
    exact h.count hpc
  counted hdone := absurd hdone hpc'
  gathered _ _ := hgathered

/-- Every step of the call is a step of the collector. -/
theorem collected_resume {hosts : List String} {env : Nat → ResolveBatch} {k : Nat} {s : Resolving}
    (h : Collected hosts env k s) (sent : Bool) :
    ∃ env' k', Collected hosts env' k' (s.resume sent) := by
  rw [resume]
  cases hpc : s.pc with
  | reset =>
    exact ⟨env, k, h.goOn (by simp [hpc]) rfl rfl rfl nofun ⟨[], [], none, fun _ => rfl, rfl⟩⟩
  | send =>
    have hgathered : Gathered s := h.gathered (by simp [hpc]) (by simp [hpc])
    cases sent with
    | true => exact ⟨env, k, h.goOn (by simp [hpc]) rfl rfl rfl nofun hgathered⟩
    | false => exact collected_leave h (by simp [hpc]) ⟨false, []⟩ rfl
  | arm =>
    have hgathered : Gathered s := h.gathered (by simp [hpc]) (by simp [hpc])
    exact ⟨env, k, h.goOn (by simp [hpc]) rfl rfl rfl nofun hgathered⟩
  | poll deadline =>
    have hgathered : Gathered s := h.gathered (by simp [hpc]) (by simp [hpc])
    dsimp only
    split
    · rename_i rid answers hslot
      split
      · rename_i hrid
        subst hrid
        obtain ⟨polls, arrived, slot, hpolls, hs⟩ := hgathered
        refine collected_leave h (by simp [hpc]) ⟨true, polls ++ [arrived]⟩ ?_
        rw [batchAnswers, if_pos rfl, hpolls]
        simp only [pollResponse, ← hs, hslot, if_true, Option.getD_some]
      · rename_i hrid
        refine ⟨env, k, h.goOn (by simp [hpc]) rfl rfl rfl nofun (gathered_poll hgathered rfl rfl ?_)⟩
        intro answers' hfound
        rw [hslot] at hfound
        exact hrid (congrArg Prod.fst (Option.some.inj hfound))
    · rename_i hslot
      refine ⟨env, k, h.goOn (by simp [hpc]) rfl rfl rfl nofun (gathered_poll hgathered rfl rfl ?_)⟩
      intro answers' hfound
      rw [hslot] at hfound
      exact nomatch hfound
  | check deadline =>
    have hgathered : Gathered s := h.gathered (by simp [hpc]) (by simp [hpc])
    dsimp only
    split
    · obtain ⟨polls, arrived, slot, hpolls, -⟩ := hgathered
      refine collected_leave h (by simp [hpc]) ⟨true, polls⟩ ?_
      have hnone := hpolls []
      rw [List.append_nil] at hnone
      rw [batchAnswers, if_pos rfl, hnone]
      rfl
    · exact ⟨env, k, h.goOn (by simp [hpc]) rfl rfl rfl nofun hgathered⟩
  | sleep deadline wake =>
    have hgathered : Gathered s := h.gathered (by simp [hpc]) (by simp [hpc])
    dsimp only
    split
    · exact ⟨env, k, h.goOn (by simp [hpc]) rfl rfl rfl nofun hgathered⟩
    · exact ⟨env, k, h⟩
  | done => exact ⟨env, k, h⟩

theorem collected_step {hosts : List String} {s s' : Resolving} {i : ResolveInput}
    {o : ResolveSlot} (hstep : Step s i o s') (h : ∃ env k, Collected hosts env k s) :
    ∃ env k, Collected hosts env k s' := by
  obtain ⟨env, k, h⟩ := h
  cases i with
  | relay i =>
    obtain ⟨-, rfl⟩ := Prod.mk.inj hstep
    exact ⟨env, k, h.out, h.requestId, h.count, h.counted, fun hreset hdone =>
      gathered_event (h.gathered hreset hdone) i⟩
  | call sent =>
    obtain ⟨-, rfl⟩ := Prod.mk.inj hstep
    exact collected_resume h sent

/-- **What the call returns is what the collector returns** for some findings of its polls. -/
theorem resolving_collects {net : RelayState} {hosts : List String} {perBatchTimeout : Duration}
    {es : List (ResolveInput × ResolveSlot)} {s : Resolving}
    (hrun : Run Step (start net hosts perBatchTimeout) es s) (hdone : s.pc = .done) :
    ∃ env, s.out = resolveRobloxHosts hosts env := by
  obtain ⟨env, k, h⟩ := hrun.preserves (P := fun s => ∃ env k, Collected hosts env k s)
    (fun _ _ _ _ => collected_step) ⟨fun _ => ⟨false, []⟩, 0, collected_start ..⟩
  refine ⟨env, ?_⟩
  rw [resolveRobloxHosts, ← h.counted hdone]
  exact h.out

end Resolving

end SwiftTunnel.Relay
