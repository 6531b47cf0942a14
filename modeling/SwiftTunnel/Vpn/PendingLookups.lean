/-
# Pending lookups, and the messages the lookup task drops

`auto_routing.rs` with the task of `connection.rs`.  A message on the task's channel carries its
session epoch; the entry that makes the task process it, in `pending_lookups`, carries the
address alone.  So a message that was left over from an ended session shares its entry with a
new lookup of the same address, and clears it when it is dropped.

The machine is that of `LookupTask`.  `LookupsKept` ties the messages in flight to the entries: no
message is of a session to come, at most one is of the current session, and while that one is in
flight its router is enabled and its address is pending.  `evaluate_game_server` sends only when
nothing is pending, which is why there is one at most.

* `lookupsKept_step`: every step keeps the ties, when the locks are granted and no newer message's
  entry is cleared (`ClearsOwn`).
* `discarded_stale`: as long as no left-over message clears the entry of a newer one, the task
  drops only messages whose session has ended.
* `entry_lost`: the step that does clear one leaves that message without an entry.
* `fresh_lookup_discarded`: the run in which one does.
-/
import SwiftTunnel.Vpn.LookupTask

namespace SwiftTunnel

/-! ## 1. The books of a router -/

/-- What decides whether a lookup is made, and whether its message is processed. -/
structure LookupBooks where
  enabled : Bool
  sessionEpoch : Nat
  pending : Finset Ipv4Addr
  pendingAny : Bool
  sender : Bool

namespace AutoRouter

def books (r : AutoRouter) : LookupBooks :=
  ⟨r.enabled, r.lookupSessionEpoch, r.pendingLookups, r.pendingAny, r.lookupSender⟩

theorem noteGameTraffic_books (r : AutoRouter) (now : Instant) (ip : Ipv4Addr) :
    (r.noteGameTraffic now ip).books = r.books := by
  obtain ⟨traffic, h⟩ := r.noteGameTraffic_frame now ip
  rw [h]
  rfl

/-- The end of `evaluate_game_server`, with all locks granted, makes the address pending. -/
theorem enqueueLookup_books (r : AutoRouter) (ip : Ipv4Addr) :
    (r.enqueueLookup ⟨true, true, true⟩ ip).2.books =
      { r.books with pending := insert ip r.books.pending, pendingAny := true } := rfl

theorem enqueueLookup_message {r : AutoRouter} {locks : TryLocks} {ip : Ipv4Addr}
    {m : LookupMessage} (h : (r.enqueueLookup locks ip).1 = some m) :
    m.ip = ip ∧ m.sessionEpoch = r.lookupSessionEpoch := by
  rw [enqueueLookup] at h
  split at h
  · cases h
  · dsimp only at h
    split at h
    · obtain rfl := Option.some.inj h
      exact ⟨rfl, rfl⟩
    · cases h

/-- **What `evaluate_game_server` can do**, with all locks granted: nothing that a lookup hangs
on, or, with the router enabled and nothing pending, enqueue a lookup. -/
theorem evaluateGameServer_cases (r : AutoRouter) (now : Instant) (ip : Ipv4Addr) :
    ((r.evaluateGameServer ⟨true, true, true⟩ now ip).1 = none ∧
      (r.evaluateGameServer ⟨true, true, true⟩ now ip).2.books = r.books) ∨
    (r.enabled = true ∧ r.pendingAny = false ∧ ∃ q : AutoRouter, q.books = r.books ∧
      r.evaluateGameServer ⟨true, true, true⟩ now ip = q.enqueueLookup ⟨true, true, true⟩ ip) := by
  have hnote := r.noteGameTraffic_books now ip
  rcases r.evaluateGameServer_ends ⟨true, true, true⟩ now ip with
    ⟨active, seen, h⟩ | ⟨⟨hen, hany, -⟩, active, seen, h⟩
  · rw [h]
    exact Or.inl ⟨rfl, hnote⟩
  · have hen' : (r.noteGameTraffic now ip).enabled = r.enabled :=
      congrArg LookupBooks.enabled hnote
    have hany' : (r.noteGameTraffic now ip).pendingAny = r.pendingAny :=
      congrArg LookupBooks.pendingAny hnote
    refine Or.inr ⟨hen'.symm.trans hen, hany'.symm.trans hany, _, ?_, h⟩
    exact hnote

/-- Three operations touch the books; the others send nothing and leave them as they are. -/
theorem apply_books (r : AutoRouter) (now : Instant) (op : RouterOp) :
    (∃ b, op = .setEnabled b) ∨ op = .reset ∨ (∃ locks ip, op = .evaluateGameServer locks ip) ∨
      ((r.apply now op).1 = none ∧ (r.apply now op).2.books = r.books) := by
  cases op with
  | setEnabled b => exact Or.inl ⟨b, rfl⟩
  | reset => exact Or.inr (Or.inl rfl)
  | evaluateGameServer locks ip => exact Or.inr (Or.inr (Or.inl ⟨locks, ip, rfl⟩))
  | setWhitelistedRegions regions =>
    obtain ⟨bypassed, h⟩ := r.setWhitelistedRegions_frame regions
    refine Or.inr (Or.inr (Or.inr ⟨rfl, ?_⟩))
    rw [apply, h]
    rfl
  | noteGameTraffic ip => exact Or.inr (Or.inr (Or.inr ⟨rfl, r.noteGameTraffic_books now ip⟩))
  | pinActiveGameServerForSession ip epoch =>
    obtain ⟨active, h⟩ := r.pinActiveGameServerForSession_frame now ip epoch
    refine Or.inr (Or.inr (Or.inr ⟨rfl, ?_⟩))
    rw [apply, h]
    rfl
  | setAvailableServers servers => exact Or.inr (Or.inr (Or.inr ⟨rfl, rfl⟩))
  | setCurrentRelay addr region => exact Or.inr (Or.inr (Or.inr ⟨rfl, rfl⟩))
  | setForcedServers servers => exact Or.inr (Or.inr (Or.inr ⟨rfl, rfl⟩))
  | recordGameRegion region => exact Or.inr (Or.inr (Or.inr ⟨rfl, rfl⟩))
  | pinActiveGameServer ip => exact Or.inr (Or.inr (Or.inr ⟨rfl, rfl⟩))
  | pushDegradedEvent millis reason => exact Or.inr (Or.inr (Or.inr ⟨rfl, rfl⟩))

end AutoRouter

/-! ## 2. Messages in flight -/

namespace LookupState

/-- The message being processed, and those that wait, oldest first. -/
def inFlight (st : LookupState) : List LookupMessage := st.task.message.toList ++ st.queue

/-- A step of the task leaves the books alone, unless it clears a pending entry. -/
theorem taskNext_books (st : LookupState) (a : TaskAnswer) :
    (st.taskNext a).2.router.books = st.router.books ∨
      ∃ m, st.task = .clear m ∧ (st.taskNext a).2 =
        { st with router := st.router.clearPendingLookup m.ip, task := .recv } := by
  rcases st.taskNext_frame a with ⟨bypassed, window, last, stRegion, relay, game, log, h⟩ | h
  · rw [h]
    exact Or.inl rfl
  · exact Or.inr h

/-- A step of the task keeps the messages in their order, and may drop the one it processes. -/
theorem taskNext_inFlight (st : LookupState) (a : TaskAnswer) :
    (st.taskNext a).2.inFlight.Sublist st.inFlight := by
  have hmove := st.taskNext_move a
  generalize st.taskNext a = out at hmove ⊢
  cases hmove with
  | notPending st m => exact List.sublist_cons_self m st.queue
  | panics st m => exact List.sublist_cons_self m st.queue
  | clears st m => exact List.sublist_cons_self m st.queue
  | _ => exact List.Sublist.refl _

/-- **Why a message is dropped**: the router is disabled, the address is not pending, or the
session is not the current one. -/
theorem taskNext_discarded {st : LookupState} {a : TaskAnswer} {m : LookupMessage}
    (h : (st.taskNext a).1 = .discarded m) :
    m ∈ st.inFlight ∧ (st.router.enabled = false ∨ m.ip ∉ st.router.pendingLookups ∨
      m.sessionEpoch ≠ st.router.lookupSessionEpoch) := by
  have hmove := st.taskNext_move a
  generalize st.taskNext a = out at h hmove
  cases hmove with
  | disabled st m' hen =>
    obtain rfl := LookupEvent.discarded.inj h
    exact ⟨List.mem_cons_self, Or.inl hen⟩
  | notPending st m' hp =>
    obtain rfl := LookupEvent.discarded.inj h
    exact ⟨List.mem_cons_self, Or.inr (Or.inl hp)⟩
  | nowDisabled st m' result hen =>
    obtain rfl := LookupEvent.discarded.inj h
    exact ⟨List.mem_cons_self, Or.inl hen⟩
  | notAllowed st m' result hc =>
    obtain rfl := LookupEvent.discarded.inj h
    refine ⟨List.mem_cons_self, Or.inr ?_⟩
    rw [AutoRouter.lookupCommitAllowed, Bool.and_eq_false_iff, decide_eq_false_iff_not] at hc
    rcases hc with he | hp
    · exact Or.inr fun heq => absurd he (by simp [AutoRouter.isCurrentLookupSession, heq])
    · exact Or.inl hp
  | _ => cases h

end LookupState

/-! ## 3. What ties the messages to the pending entries -/

/-- The messages of the current session. -/
def Current (r : AutoRouter) (m : LookupMessage) : Prop := m.sessionEpoch = r.lookupSessionEpoch

/-- No message is of a session to come, at most one is of the current session, and that one's
router is enabled and its address pending. -/
structure LookupsKept (st : LookupState) : Prop where
  any : st.router.pendingLookups ≠ ∅ → st.router.pendingAny = true
  begun : ∀ m ∈ st.inFlight, m.sessionEpoch ≤ st.router.lookupSessionEpoch
  fresh : ∀ m ∈ st.inFlight, Current st.router m →
    st.router.enabled = true ∧ m.ip ∈ st.router.pendingLookups
  single : st.inFlight.Pairwise fun m m' => ¬ (Current st.router m ∧ Current st.router m')

/-- The try-locks of `evaluate_game_server` are granted. -/
def LookupInput.Granted : LookupInput → Prop
  | .other (.evaluateGameServer locks _) => locks = ⟨true, true, true⟩
  | _ => True

/-- The task does not clear the entry of an address for a message of an older session while a
message of the current one waits for the same address. -/
def ClearsOwn (st : LookupState) (i : LookupInput) : Prop :=
  ∀ a m, i = .task a → st.task = .clear m → ¬ Current st.router m →
    ∀ m' ∈ st.queue, Current st.router m' → m'.ip ≠ m.ip

theorem lookupsKept_of_books {st st' : LookupState} (h : LookupsKept st)
    (hbooks : st'.router.books = st.router.books) (hsub : st'.inFlight.Sublist st.inFlight) :
    LookupsKept st' := by
  have hen : st'.router.enabled = st.router.enabled := congrArg LookupBooks.enabled hbooks
  have hepoch : st'.router.lookupSessionEpoch = st.router.lookupSessionEpoch :=
    congrArg LookupBooks.sessionEpoch hbooks
  have hpend : st'.router.pendingLookups = st.router.pendingLookups :=
    congrArg LookupBooks.pending hbooks
  have hany : st'.router.pendingAny = st.router.pendingAny :=
    congrArg LookupBooks.pendingAny hbooks
  obtain ⟨h1, h2, h3, h4⟩ := h
  unfold Current at h3 h4
  constructor
  · rw [hpend, hany]
    exact h1
  · intro m hm
    rw [hepoch]
    exact h2 m (hsub.subset hm)
  · intro m hm hcur
    rw [Current, hepoch] at hcur
    rw [hen, hpend]
    exact h3 m (hsub.subset hm) hcur
  · unfold Current
    rw [hepoch]
    exact h4.sublist hsub

/-- A step of the task keeps the ties, when it clears no newer message's entry. -/
theorem lookupsKept_task {st : LookupState} {a : TaskAnswer} (hown : ClearsOwn st (.task a))
    (h : LookupsKept st) : LookupsKept (st.taskNext a).2 := by
  have hsub := st.taskNext_inFlight a
  rcases st.taskNext_books a with hbooks | ⟨m, htask, heq⟩
  · exact lookupsKept_of_books h hbooks hsub
  · rw [heq] at hsub ⊢
    have hflight : st.inFlight = m :: st.queue := by rw [LookupState.inFlight, htask]; rfl
    obtain ⟨h1, h2, h3, h4⟩ := h
    rw [hflight] at h2 h3 h4 hsub
    obtain ⟨hfirst, hrest⟩ := List.pairwise_cons.mp h4
    refine ⟨?_, fun m' hm' => h2 m' (hsub.subset hm'), ?_, hrest⟩
    · intro hne
      have hne' : st.router.pendingLookups.erase m.ip ≠ ∅ := hne
      change (if st.router.pendingLookups.erase m.ip = ∅ then false else st.router.pendingAny) = true
      rw [if_neg hne']
      refine h1 ?_
      intro hempty
      rw [hempty] at hne'
      exact hne' (Finset.erase_empty _)
    · intro m' hm' hcur
      -- `m'` waits behind the message whose entry is cleared
      have hqueue : m' ∈ st.queue := hm'
      obtain ⟨hen, hp⟩ := h3 m' (List.mem_cons_of_mem m hqueue) hcur
      have hstale : ¬ Current st.router m := fun hm => hfirst m' hqueue ⟨hm, hcur⟩
      exact ⟨hen, Finset.mem_erase.mpr ⟨hown a m rfl htask hstale m' hqueue hcur, hp⟩⟩

/-- A new session: no message is of it yet. -/
theorem lookupsKept_endSession {st : LookupState} {r : AutoRouter} (h : LookupsKept st)
    (hepoch : r.lookupSessionEpoch = st.router.lookupSessionEpoch + 1)
    (hpend : r.pendingLookups = ∅) : LookupsKept { st with router := r } := by
  have hold : ∀ m ∈ st.inFlight, ¬ Current r m := by
    intro m hm hcur
    have hle := h.begun m hm
    rw [Current, hepoch] at hcur
    omega
  refine ⟨fun hne => absurd hpend hne, ?_, fun m hm hcur => absurd hcur (hold m hm), ?_⟩
  · intro m hm
    have hle := h.begun m hm
    change m.sessionEpoch ≤ r.lookupSessionEpoch
    omega
  · refine h.single.imp_of_mem ?_
    intro m m' hm _ _ hcur
    exact hold m hm hcur.1

section Enqueue

variable {st : LookupState} {r : AutoRouter}

/-- The address of a lookup has been made pending, with no message of the session in flight. -/
theorem lookupsKept_pending (h : LookupsKept st) (hold : ∀ m ∈ st.inFlight, ¬ Current st.router m)
    (hepoch : r.lookupSessionEpoch = st.router.lookupSessionEpoch) (hany : r.pendingAny = true) :
    LookupsKept { st with router := r } := by
  have hold' : ∀ m ∈ st.inFlight, ¬ Current r m := fun m hm hcur => hold m hm (hcur.trans hepoch)
  refine ⟨fun _ => hany, ?_, fun m hm hcur => absurd hcur (hold' m hm), ?_⟩
  · intro m hm
    exact (h.begun m hm).trans (le_of_eq hepoch.symm)
  · refine h.single.imp_of_mem ?_
    intro m m' hm _ _ hcur
    exact hold' m hm hcur.1

/-- Its message joins the others, as the one of the session. -/
theorem lookupsKept_sent (h : LookupsKept st) (hold : ∀ m ∈ st.inFlight, ¬ Current st.router m)
    (hepoch : r.lookupSessionEpoch = st.router.lookupSessionEpoch) (hany : r.pendingAny = true)
    (hen : r.enabled = true) {m : LookupMessage} (hp : m.ip ∈ r.pendingLookups)
    (hm : m.sessionEpoch = r.lookupSessionEpoch) :
    LookupsKept { st with router := r, queue := st.queue ++ [m] } := by
  have hflight : ({ st with router := r, queue := st.queue ++ [m] } : LookupState).inFlight =
      st.inFlight ++ [m] := (List.append_assoc _ _ _).symm
  obtain ⟨h1, h2, h3, h4⟩ := lookupsKept_pending h hold hepoch hany
  refine ⟨h1, ?_, ?_, ?_⟩
  · rw [hflight]
    intro m' hm'
    rcases List.mem_append.mp hm' with hm' | hm'
    · exact h2 m' hm'
    · rw [List.mem_singleton.mp hm']
      exact hm.le
  · rw [hflight]
    intro m' hm' hcur
    rcases List.mem_append.mp hm' with hm' | hm'
    · exact h3 m' hm' hcur
    · rw [List.mem_singleton.mp hm']
      exact ⟨hen, hp⟩
  · rw [hflight, List.pairwise_append]
    refine ⟨h4, List.pairwise_singleton _ _, ?_⟩
    intro m' hm' _ _ hcur
    exact hold m' hm' (hcur.1.trans hepoch)

end Enqueue

/-- `evaluate_game_server` sends when nothing is pending, so that no message of the session is in
flight. -/
theorem lookupsKept_evaluate {st : LookupState} (h : LookupsKept st) (ip : Ipv4Addr) :
    LookupsKept (st.otherNext (.evaluateGameServer ⟨true, true, true⟩ ip)).2 := by
  simp only [LookupState.otherNext, AutoRouter.apply]
  rcases st.router.evaluateGameServer_cases st.now ip with ⟨hnone, hbooks⟩ | ⟨hen, hany, q, hq, heq⟩
  · generalize st.router.evaluateGameServer ⟨true, true, true⟩ st.now ip = p at hnone hbooks ⊢
    obtain ⟨m, r⟩ := p
    simp only at hnone hbooks
    subst hnone
    exact lookupsKept_of_books h hbooks (List.Sublist.refl _)
  · have hnone : st.router.pendingLookups = ∅ := by
      by_contra hne
      rw [h.any hne] at hany
      cases hany
    have hold : ∀ m ∈ st.inFlight, ¬ Current st.router m := by
      intro m hm hcur
      have hp := (h.fresh m hm hcur).2
      rw [hnone] at hp
      exact absurd hp (Finset.notMem_empty _)
    have hbooks := q.enqueueLookup_books ip
    have hmessage : ∀ m, (q.enqueueLookup ⟨true, true, true⟩ ip).1 = some m →
        m.ip = ip ∧ m.sessionEpoch = q.lookupSessionEpoch :=
      fun _ => AutoRouter.enqueueLookup_message
    rw [heq]
    generalize q.enqueueLookup ⟨true, true, true⟩ ip = p at hbooks hmessage ⊢
    obtain ⟨sent, r⟩ := p
    have hren : r.enabled = true :=
      (congrArg LookupBooks.enabled hbooks).trans ((congrArg LookupBooks.enabled hq).trans hen)
    have hrq : r.lookupSessionEpoch = q.lookupSessionEpoch :=
      congrArg LookupBooks.sessionEpoch hbooks
    have hrepoch : r.lookupSessionEpoch = st.router.lookupSessionEpoch :=
      hrq.trans (congrArg LookupBooks.sessionEpoch hq)
    have hrany : r.pendingAny = true := congrArg LookupBooks.pendingAny hbooks
    have hrpend : ip ∈ r.pendingLookups := by
      have he : r.pendingLookups = insert ip q.pendingLookups := congrArg LookupBooks.pending hbooks
      rw [he]
      exact Finset.mem_insert_self _ _
    cases sent with
    | none => exact lookupsKept_pending h hold hrepoch hrany
    | some m =>
      obtain ⟨rfl, hmepoch⟩ := hmessage m rfl
      exact lookupsKept_sent h hold hrepoch hrany hren hrpend (hmepoch.trans hrq.symm)

/-- A call of another thread keeps the ties. -/
theorem lookupsKept_other {st : LookupState} {op : RouterOp}
    (hgrant : (LookupInput.other op).Granted) (h : LookupsKept st) :
    LookupsKept (st.otherNext op).2 := by
  rcases st.router.apply_books st.now op with ⟨b, rfl⟩ | rfl | ⟨locks, ip, rfl⟩ | ⟨hnone, hbooks⟩
  · cases b with
    | false => exact lookupsKept_endSession h rfl rfl
    | true =>
      -- the flag is set, and `seen_game_servers` may be cleared
      have hset : ∃ seen, st.router.setEnabled true =
          { st.router with enabled := true, seenGameServers := seen } := by
        cases hen : st.router.enabled with
        | false => exact ⟨∅, by simp [AutoRouter.setEnabled, hen]⟩
        | true => exact ⟨st.router.seenGameServers, by simp [AutoRouter.setEnabled, hen]⟩
      obtain ⟨seen, hset⟩ := hset
      simp only [LookupState.otherNext, AutoRouter.apply, hset]
      exact ⟨h.any, h.begun, fun m hm hcur => ⟨rfl, (h.fresh m hm hcur).2⟩, h.single⟩
  · exact lookupsKept_endSession h rfl rfl
  · obtain rfl : locks = ⟨true, true, true⟩ := hgrant
    exact lookupsKept_evaluate h ip
  · rw [LookupState.otherNext_eq, hnone]
    refine lookupsKept_of_books h hbooks ?_
    simp [LookupState.inFlight]

/-- **Every step keeps the ties**, when the locks are granted and no newer message's entry is
cleared. -/
theorem lookupsKept_step {st st' : LookupState} {i : LookupInput} {o : LookupEvent}
    (hgrant : i.Granted) (hown : ClearsOwn st i) (hstep : LookupStep st i o st')
    (h : LookupsKept st) : LookupsKept st' := by
  cases i with
  | task a =>
    obtain ⟨rfl, rfl⟩ := Prod.mk.inj hstep
    exact lookupsKept_task hown h
  | other op =>
    obtain ⟨rfl, rfl⟩ := Prod.mk.inj hstep
    exact lookupsKept_other hgrant h
  | tick d =>
    obtain ⟨rfl, rfl⟩ := Prod.mk.inj hstep
    exact ⟨h.any, h.begun, h.fresh, h.single⟩

/-! ## 4. Which messages are dropped -/

/-- The loop as `setup_split_tunnel` starts it: a new router, its channel and the task. -/
def lookupLoop (now : Instant) (enabled : Bool) (region : String) (relayAddr : SocketAddr) :
    LookupState :=
  LookupState.start now (AutoRouter.new now enabled region).setLookupChannel relayAddr

theorem lookupsKept_loop (now : Instant) (enabled : Bool) (region : String)
    (relayAddr : SocketAddr) : LookupsKept (lookupLoop now enabled region relayAddr) where
  any h := absurd rfl h
  begun _ h := nomatch h
  fresh _ h := nomatch h
  single := List.Pairwise.nil

/-- **Only messages of an ended session are dropped**, in every run in which the task clears no
newer message's entry: when a message is dropped, its session is not the current one, or the
router is disabled. -/
theorem discarded_stale {now : Instant} {enabled : Bool} {region : String} {relayAddr : SocketAddr}
    {es : List (LookupInput × LookupEvent)} {st st' : LookupState} {i : LookupInput}
    {m : LookupMessage}
    (hrun : Run (fun st i o st' => (i.Granted ∧ ClearsOwn st i) ∧ LookupStep st i o st')
      (lookupLoop now enabled region relayAddr) es st)
    (hstep : LookupStep st i (.discarded m) st') :
    m.sessionEpoch ≠ st.router.lookupSessionEpoch ∨ st.router.enabled = false := by
  have hkept : LookupsKept st := by
    refine hrun.preserves ?_ (lookupsKept_loop now enabled region relayAddr)
    intro s i o s' hs h
    exact lookupsKept_step hs.1.1 hs.1.2 hs.2 h
  cases i with
  | task a =>
    obtain ⟨hm, hwhy⟩ := LookupState.taskNext_discarded (congrArg Prod.fst hstep)
    by_cases hcur : Current st.router m
    · obtain ⟨hen, hp⟩ := hkept.fresh m hm hcur
      rcases hwhy with h | h | h
      · exact Or.inr h
      · exact absurd hp h
      · exact Or.inl h
    · exact Or.inl hcur
  | other op =>
    have h : (st.otherNext op).1 = .discarded m := congrArg Prod.fst hstep
    rcases st.otherNext_event op with ho | ⟨m', ho⟩ <;> rw [ho] at h <;> cases h
  | tick d => cases congrArg Prod.fst hstep

/-- Where the task does clear a newer message's entry, that message waits without one. -/
theorem entry_lost {st : LookupState} {i : LookupInput} (h : ¬ ClearsOwn st i) :
    ∃ m ∈ (lookupNext st i).2.queue, Current (lookupNext st i).2.router m ∧
      m.ip ∉ (lookupNext st i).2.router.pendingLookups := by
  unfold ClearsOwn at h
  push Not at h
  obtain ⟨a, m, rfl, htask, -, m', hm', hcur, hip⟩ := h
  obtain ⟨now, router, queue, task, relayAddr⟩ := st
  subst htask
  refine ⟨m', hm', hcur, ?_⟩
  change m'.ip ∉ router.pendingLookups.erase m.ip
  rw [hip]
  exact Finset.notMem_erase _ _

theorem lookupStep_next (st : LookupState) (i : LookupInput) :
    LookupStep st i (lookupNext st i).1 (lookupNext st i).2 := rfl

/-- The loop of a session that relays through Singapore, after some inputs. -/
def singaporeLoop (is : List LookupInput) : List (LookupInput × LookupEvent) × LookupState :=
  trace lookupNext (lookupLoop 0 true "singapore" ⟨.v4 ⟨54, 255, 205, 216⟩, 51821⟩) is

/-- A worker reports a game server. -/
def reportGameServer (ip : Ipv4Addr) : LookupInput :=
  .other (.evaluateGameServer ⟨true, true, true⟩ ip)

/-- A worker reports a game server in the session, and in the next one after a toggle.  The task
drops the first message at the commit check, clears the entry, and takes the second one. -/
def toggledLookups : List LookupInput :=
  [reportGameServer ⟨128, 116, 1, 1⟩, .other (.setEnabled false), .other (.setEnabled true),
    reportGameServer ⟨128, 116, 1, 1⟩] ++
      List.replicate 9 (.task ⟨.resolved .tokyo "Tokyo, JP", [], 0⟩)

/-- **A left-over message cancels a newer lookup**: the second message is of the current session,
the router is enabled, and the message is dropped. -/
theorem fresh_lookup_discarded :
    ∃ (es : List (LookupInput × LookupEvent)) (st st' : LookupState) (i : LookupInput)
      (m : LookupMessage),
      Run (fun st i o st' => i.Granted ∧ LookupStep st i o st')
          (lookupLoop 0 true "singapore" ⟨.v4 ⟨54, 255, 205, 216⟩, 51821⟩) es st ∧
        LookupStep st i (.discarded m) st' ∧
        ¬ (m.sessionEpoch ≠ st.router.lookupSessionEpoch ∨ st.router.enabled = false) := by
  have hgranted : ∀ i ∈ toggledLookups, i.Granted := by
    simp [toggledLookups, reportGameServer, LookupInput.Granted]
  have hrun := run_trace_of lookupNext
    (lookupLoop 0 true "singapore" ⟨.v4 ⟨54, 255, 205, 216⟩, 51821⟩) hgranted
  have hevent : (lookupNext (singaporeLoop toggledLookups).2 (.task ⟨.failed, [], 0⟩)).1 =
      .discarded ⟨⟨128, 116, 1, 1⟩, 2, 1⟩ := by decide +kernel
  have hepoch : (singaporeLoop toggledLookups).2.router.lookupSessionEpoch = 1 := by decide +kernel
  have hen : (singaporeLoop toggledLookups).2.router.enabled = true := by decide +kernel
  refine ⟨_, (singaporeLoop toggledLookups).2, _, _, _, hrun, Prod.ext hevent rfl, ?_⟩
  rw [hepoch, hen]
  decide

/-- A message is waiting for its first check when the router is disabled. -/
def disabledLookup : LookupState :=
  (lookupNext (singaporeLoop [reportGameServer ⟨128, 116, 1, 1⟩, .task ⟨.failed, [], 0⟩]).2
    (.other (.setEnabled false))).2

theorem clearsOwn_of_task {st : LookupState} {i : LookupInput} (h : ∀ m, st.task ≠ .clear m) :
    ClearsOwn st i := fun _ m _ htask => absurd htask (h m)

/-- A message that is dropped because the router has been disabled meanwhile. -/
theorem disabled_lookup_discarded :
    0 ≠ disabledLookup.router.lookupSessionEpoch ∨ disabledLookup.router.enabled = false := by
  obtain ⟨es, hrun⟩ : ∃ es,
      Run (fun st i o st' => (i.Granted ∧ ClearsOwn st i) ∧ LookupStep st i o st')
        (lookupLoop 0 true "singapore" ⟨.v4 ⟨54, 255, 205, 216⟩, 51821⟩) es disabledLookup := by
    refine ⟨_, Run.cons (i := reportGameServer ⟨128, 116, 1, 1⟩) ⟨⟨?_, ?_⟩, lookupStep_next _ _⟩
      (Run.cons (i := .task ⟨.failed, [], 0⟩) ⟨⟨?_, ?_⟩, lookupStep_next _ _⟩
        (Run.cons (i := .other (.setEnabled false)) ⟨⟨?_, ?_⟩, lookupStep_next _ _⟩
          (Run.nil _)))⟩
    · rfl
    · exact clearsOwn_of_task fun m h => nomatch h
    · trivial
    · exact clearsOwn_of_task fun m h => nomatch h
    · trivial
    · exact clearsOwn_of_task fun m h => nomatch h
  have hevent : (lookupNext disabledLookup (.task ⟨.failed, [], 0⟩)).1 =
      .discarded ⟨⟨128, 116, 1, 1⟩, 1, 0⟩ := by decide +kernel
  exact discarded_stale hrun (Prod.ext hevent rfl)

end SwiftTunnel
