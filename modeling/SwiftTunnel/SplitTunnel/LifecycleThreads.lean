/-
# The threads of an interceptor

`start` spawns threads and keeps a handle of each; `stop` takes the handles, waits three seconds
for each thread and gives up those that have not ended by then.  A thread that was given up runs on
unseen: nobody holds its handle any more.

In the runs of `Lifecycle` threads end when they like, also between two calls.  `Accounted` says
what holds of them throughout: a thread that has not ended has a handle of its kind or was given up,
no two threads have one number, and none that was given up has a handle.  Spawning keeps it where
no handle is overwritten (`Accounted.spawn`, `HasRoom`), and joining keeps it with the threads that
were given up added (`Accounted.join`).  `ThreadsSettled` is the same between two calls, with what
the interceptor knows then: no handle while it is not active, and while it is one for each worker.

* `threads_step`, `threads_run`: every call keeps it, joins that time out included.
* `threads_of_run`: which threads there are, in every run.  Handles of one kind are no more than
  the kind has places, and threads have different numbers, so there are no more threads at work.

Not claimed: that a thread ends at all, or what one that was given up goes on to do.  It still holds
the old flags and queues; `Lifecycle` and `Pipeline` follow the threads of the current session only.
-/
import SwiftTunnel.SplitTunnel.Lifecycle

namespace SwiftTunnel

open Rust

/-! ## 1. The handles -/

/-- The kinds of which there is one handle at most. -/
def ThreadKind.isSingle : ThreadKind → Bool
  | .refresher | .reader | .inbound => true
  | .worker | .assetInbound => false

namespace ParallelInterceptor

theorem addHandle_handles (p : ParallelInterceptor) {kind : ThreadKind} (id : Nat)
    (h : kind.isSingle = true → p.handles kind = []) (kind' : ThreadKind) :
    (p.addHandle kind id).handles kind' =
      p.handles kind' ++ if kind' = kind then [id] else [] := by
  by_cases hkind : kind' = kind
  · subst hkind
    rw [if_pos rfl]
    cases hsingle : kind'.isSingle with
    | true =>
      rw [h hsingle]
      cases kind' <;> first | rfl | cases hsingle
    | false => cases kind' <;> first | rfl | cases hsingle
  · rw [if_neg hkind, List.append_nil]
    cases kind <;> cases kind' <;> first | rfl | exact absurd rfl hkind

theorem handles_single (p : ParallelInterceptor) {kind : ThreadKind} (h : kind.isSingle = true) :
    (p.handles kind).length ≤ 1 := by
  cases kind with
  | refresher => exact Option.length_toList_le
  | reader => exact Option.length_toList_le
  | inbound => exact Option.length_toList_le
  | worker => cases h
  | assetInbound => cases h

theorem mem_allHandles {p : ParallelInterceptor} {id : Nat} (kind : ThreadKind)
    (h : id ∈ p.handles kind) : id ∈ p.allHandles := by
  refine List.mem_flatMap.mpr ⟨kind, ?_, h⟩
  cases kind <;> decide

theorem takeHandles_handles (p : ParallelInterceptor) (kind : ThreadKind) :
    p.takeHandles.handles kind = [] := by
  cases kind <;> rfl

end ParallelInterceptor

/-- Each live thread has a handle of its kind, or it was given up. -/
structure Accounted (st : Interception) (detached : List Nat) : Prop where
  known : ∀ t ∈ st.live, t.id ∈ st.self.handles t.kind ∨ t.id ∈ detached
  nodup : (st.live.map (·.id)).Nodup
  fresh : ∀ t ∈ st.live, t.id < st.nextId
  old : ∀ id ∈ detached, id < st.nextId
  apart : ∀ kind, ∀ id ∈ st.self.handles kind, id ∉ detached

theorem Accounted.of_same {st st' : Interception} {detached : List Nat} (h : Accounted st detached)
    (hhandles : st'.self.handles = st.self.handles) (hlive : st'.live = st.live)
    (hnext : st'.nextId = st.nextId) : Accounted st' detached := by
  obtain ⟨hknown, hnodup, hfresh, hold, hapart⟩ := h
  exact ⟨by rwa [hlive, hhandles], by rwa [hlive], by rwa [hlive, hnext], by rwa [hnext],
    by rwa [hhandles]⟩

theorem Accounted.spawn {st : Interception} {detached : List Nat} (h : Accounted st detached)
    {kind : ThreadKind} (hroom : kind.isSingle = true → st.self.handles kind = []) :
    Accounted (st.spawn kind) detached := by
  have hhandles : ∀ kind', (st.spawn kind).self.handles kind' = _ :=
    st.self.addHandle_handles st.nextId hroom
  refine ⟨fun t ht => ?_, ?_, fun t ht => ?_, fun id hid => Nat.lt_succ_of_lt (h.old id hid),
    fun kind' id hid => ?_⟩
  · rw [hhandles]
    rcases List.mem_cons.mp ht with rfl | ht
    · exact Or.inl (List.mem_append_right _ (by rw [if_pos rfl]; exact List.mem_cons_self))
    · exact (h.known t ht).imp_left (List.mem_append_left _)
  · refine List.nodup_cons.mpr ⟨fun hmem => ?_, h.nodup⟩
    obtain ⟨t, ht, hid⟩ := List.mem_map.mp hmem
    exact Nat.lt_irrefl _ (hid ▸ h.fresh t ht)
  · rcases List.mem_cons.mp ht with rfl | ht
    · exact Nat.lt_succ_self _
    · exact Nat.lt_succ_of_lt (h.fresh t ht)
  · rw [hhandles] at hid
    rcases List.mem_append.mp hid with hid | hid
    · exact h.apart kind' id hid
    · split at hid
      · obtain rfl := List.mem_singleton.mp hid
        exact fun hold => Nat.lt_irrefl _ (h.old _ hold)
      · cases hid

/-- The threads can be spawned without a handle being lost. -/
def HasRoom (p : ParallelInterceptor) (kinds : List ThreadKind) : Prop :=
  ∀ kind, kind.isSingle = true → (p.handles kind).length + kinds.count kind ≤ 1

theorem spawnAll_accounted {kinds : List ThreadKind} {st : Interception} {detached : List Nat}
    (h : Accounted st detached) (hroom : HasRoom st.self kinds) :
    Accounted (st.spawnAll kinds) detached ∧
      ∀ kind, ((st.spawnAll kinds).self.handles kind).length =
        (st.self.handles kind).length + kinds.count kind := by
  induction kinds generalizing st with
  | nil => exact ⟨h, fun _ => rfl⟩
  | cons kind kinds ih =>
    have hfree : kind.isSingle = true → st.self.handles kind = [] := fun hsingle => by
      have hone := hroom kind hsingle
      rw [List.count_cons_self] at hone
      exact List.eq_nil_of_length_eq_zero (by omega)
    have hlength : ∀ kind', ((st.spawn kind).self.handles kind').length + kinds.count kind' =
        (st.self.handles kind').length + (kind :: kinds).count kind' := fun kind' => by
      have hhandles : (st.spawn kind).self.handles kind' = _ :=
        st.self.addHandle_handles st.nextId hfree kind'
      rw [hhandles, List.length_append, List.count_cons]
      by_cases hkind : kind' = kind
      · subst hkind
        simp
        omega
      · simp [hkind, Ne.symm hkind]
    obtain ⟨haccounted, hcounts⟩ := ih (h.spawn hfree) fun kind' hsingle =>
      (hlength kind').trans_le (hroom kind' hsingle)
    exact ⟨haccounted, fun kind' => (hcounts kind').trans (hlength kind')⟩

/-! ## 2. What a call does to the threads -/

theorem count_receiverKinds (config : Nat → Bool) (ctx : Option ForwardContext)
    (kind : ThreadKind) : (receiverKinds config ctx).count kind ≤ if kind = .inbound then 1 else
      if kind = .assetInbound then (receiverKinds config ctx).length else 0 := by
  cases ctx with
  | none => exact Nat.zero_le _
  | some ctx =>
    rw [receiverKinds, List.map_const', List.count_append, List.count_replicate]
    cases kind <;> cases config 0 <;> simp

theorem count_threadKinds (config : Nat → Bool) (p : ParallelInterceptor) :
    (∀ kind, kind.isSingle = true → (threadKinds config p).count kind ≤ 1) ∧
      (threadKinds config p).count .worker = p.numWorkers := by
  have hreceivers := count_receiverKinds config p.relayCtx
  refine ⟨fun kind hsingle => ?_, ?_⟩
  · have h := hreceivers kind
    rw [threadKinds, List.count_append, List.count_cons, List.count_cons, List.count_replicate]
    cases kind with
    | refresher => simpa using h
    | reader => simpa using h
    | inbound => simpa using h
    | worker => cases hsingle
    | assetInbound => cases hsingle
  · have h := hreceivers .worker
    rw [threadKinds, List.count_append, List.count_cons, List.count_cons, List.count_replicate]
    simpa using h

/-- What `join_with_timeout` does to the threads: those left over have been given up. -/
theorem Accounted.join {st : Interception} {detached : List Nat} (h : Accounted st detached)
    (slow : Nat → Bool) :
    Accounted (st.joinThreads slow).2 (detached ++ (st.joinThreads slow).1) := by
  refine ⟨fun t ht => Or.inr ?_, ?_, fun t ht => ?_, fun id hid => ?_, fun kind id hid => ?_⟩
  · obtain ⟨hlive, hleft⟩ := List.mem_filter.mp ht
    rcases h.known t hlive with hhandle | hold
    · have hall := ParallelInterceptor.mem_allHandles t.kind hhandle
      rw [List.contains_iff_mem.mpr hall, Bool.not_true, Bool.or_false] at hleft
      refine List.mem_append_right _ (List.mem_filter.mpr ⟨hall, ?_⟩)
      exact Bool.and_eq_true_iff.mpr ⟨hleft, List.any_eq_true.mpr ⟨t, hlive, beq_self_eq_true _⟩⟩
    · exact List.mem_append_left _ hold
  · exact h.nodup.sublist (List.filter_sublist.map _)
  · exact h.fresh t (List.mem_of_mem_filter ht)
  · rcases List.mem_append.mp hid with hid | hid
    · exact h.old id hid
    · obtain ⟨-, hslow⟩ := List.mem_filter.mp hid
      obtain ⟨t, ht, hid⟩ := List.any_eq_true.mp (Bool.and_eq_true_iff.mp hslow).2
      exact of_decide_eq_true hid ▸ h.fresh t ht
  · rw [Interception.joinThreads, ParallelInterceptor.takeHandles_handles] at hid
    cases hid

/-- The threads between the calls. -/
structure ThreadsSettled (cores : Nat) (st : Interception) (detached : List Nat) : Prop
    extends Accounted st detached where
  idle : st.self.active = false → ∀ kind, st.self.handles kind = []
  numWorkers : st.self.numWorkers = SwiftTunnel.numWorkers cores
  workers : st.self.active = true →
    (st.self.handles .worker).length = SwiftTunnel.numWorkers cores

/-- The threads, the handles and the number of workers are all that counts. -/
theorem ThreadsSettled.of_same {cores : Nat} {st st' : Interception} {detached : List Nat}
    (h : ThreadsSettled cores st detached) (hhandles : st'.self.handles = st.self.handles)
    (hactive : st'.self.active = st.self.active)
    (hworkers : st'.self.numWorkers = st.self.numWorkers) (hlive : st'.live = st.live)
    (hnext : st'.nextId = st.nextId) : ThreadsSettled cores st' detached := by
  obtain ⟨haccounted, hidle, hnum, hcount⟩ := h
  exact ⟨haccounted.of_same hhandles hlive hnext, by rwa [hactive, hhandles], hworkers.trans hnum,
    by rwa [hactive, hhandles]⟩

theorem ThreadsSettled.flags {cores : Nat} {st : Interception} {detached : List Nat}
    (h : ThreadsSettled cores st detached) {p : ParallelInterceptor}
    (hframe : p.withoutFlags = st.self.withoutFlags) :
    ThreadsSettled cores { st with self := p } detached := by
  have hhandles : p.handles = st.self.handles := by
    funext kind
    have hkind := congrArg (·.handles kind) hframe
    cases kind <;> exact hkind
  have hactive : p.active = st.self.active := congrArg (·.active) hframe
  have hworkers : p.numWorkers = st.self.numWorkers := congrArg (·.numWorkers) hframe
  exact h.of_same hhandles hactive hworkers rfl rfl

theorem ThreadsSettled.started {cores : Nat} {st : Interception} {detached : List Nat}
    (h : ThreadsSettled cores st detached) (hactive : st.self.active = false)
    (config : Nat → Bool) :
    ThreadsSettled cores (st.starting.spawnAll (threadKinds config st.self)) detached := by
  obtain ⟨hsingle, hworker⟩ := count_threadKinds config st.self
  have hnone : ∀ kind, st.starting.self.handles kind = [] := fun kind => by
    have hkind := h.idle hactive kind
    cases kind <;> exact hkind
  have hstarting : Accounted st.starting detached := by
    refine ⟨fun t ht => ?_, h.nodup, h.fresh, h.old, fun kind id hid => ?_⟩
    · refine (h.known t ht).imp_left fun hmem => ?_
      rw [h.idle hactive] at hmem
      cases hmem
    · rw [hnone] at hid
      cases hid
  obtain ⟨haccounted, hcounts⟩ := spawnAll_accounted hstarting fun kind hkind => by
    rw [hnone, List.length_nil, Nat.zero_add]
    exact hsingle kind hkind
  have hframe := Interception.spawnAll_takeHandles (threadKinds config st.self) st.starting
  have hrunning : (st.starting.spawnAll (threadKinds config st.self)).self.active = true :=
    congrArg (·.active) hframe
  have hworkers : (st.starting.spawnAll (threadKinds config st.self)).self.numWorkers =
      st.self.numWorkers := congrArg (·.numWorkers) hframe
  refine ⟨haccounted, fun hidle => absurd (hidle.symm.trans hrunning) Bool.false_ne_true,
    hworkers.trans h.numWorkers, fun _ => ?_⟩
  rw [hcounts, hnone, List.length_nil, Nat.zero_add, hworker, h.numWorkers]

theorem threads_startInterceptor {cores : Nat} {st : Interception} {detached : List Nat}
    (h : ThreadsSettled cores st detached)
    (hlocated : st.self.physicalAdapterIdx.isSome = true → Located st.self)
    (reply : SettingGroup → ScriptReply) (config : Nat → Bool) :
    ThreadsSettled cores (st.startInterceptor reply config).2 detached := by
  rw [Interception.startInterceptor]
  split
  · exact h
  · rename_i hactive
    split
    · exact h
    · rename_i idx hidx
      have hframe := ParallelInterceptor.disableBoth_withoutFlags st.self reply
      have hdisabled := (hlocated (Option.isSome_of_eq_some hidx)).of_withoutFlags hframe
      have hidle : (st.self.disableBoth reply).2.active = false :=
        (congrArg (·.active) hframe).trans (Bool.eq_false_of_not_eq_true hactive)
      dsimp only
      rw [startThreads_eq hdisabled]
      exact (h.flags hframe).started hidle config

theorem threads_stop {cores : Nat} {st : Interception} {detached : List Nat}
    (h : ThreadsSettled cores st detached) (slow : Nat → Bool)
    (reply : SettingGroup → ScriptReply) :
    ThreadsSettled cores (st.stop slow reply).2 (detached ++ (st.stop slow reply).1.2) := by
  rw [Interception.stop]
  split
  · let stopping : Interception := { st with self := { st.self with stopFlag := true } }
    let p : ParallelInterceptor := { (stopping.joinThreads slow).2.self with active := false }
    have hstopping : stopping.self.handles = st.self.handles := by
      funext kind
      cases kind <;> rfl
    have hjoined := (h.toAccounted.of_same hstopping rfl rfl).join slow
    have hp : p.handles = (stopping.joinThreads slow).2.self.handles := by
      funext kind
      cases kind <;> rfl
    have hidle : ∀ kind, p.handles kind = [] := fun kind =>
      (congrFun hp kind).trans (ParallelInterceptor.takeHandles_handles _ kind)
    have hstopped : ThreadsSettled cores { (stopping.joinThreads slow).2 with self := p }
        (detached ++ (stopping.joinThreads slow).1) :=
      ⟨hjoined.of_same hp rfl rfl, fun _ => hidle, h.numWorkers,
        fun hactive => absurd hactive Bool.false_ne_true⟩
    exact hstopped.flags (ParallelInterceptor.enableBoth_withoutFlags p reply)
  · rw [List.append_nil]
    exact h

theorem threads_configure {cores : Nat} {st : Interception} {detached : List Nat}
    (h : ThreadsSettled cores st detached) (lower : String → String) (tunnelApps : List String)
    (scans : Nat → AdapterScan) :
    ThreadsSettled cores (st.call lower (.configure tunnelApps scans)).2 detached := by
  have hsame : ∀ {p : ParallelInterceptor}, (∀ kind, p.handles kind = st.self.handles kind) →
      p.active = st.self.active → p.numWorkers = st.self.numWorkers →
        ThreadsSettled cores { st with self := p } detached :=
    fun hhandles hactive hworkers => h.of_same (funext hhandles) hactive hworkers rfl rfl
  rw [Interception.call, ParallelInterceptor.configure]
  by_cases hfree : st.live.any (·.holdsCache) = true
  · rw [if_pos hfree]
    exact h
  · rw [if_neg hfree]
    rcases tryAdapters_result lower scans ParallelInterceptor.maxConfigureRetries 1 ""
      { st.self with tunnelApps := tunnelApps } with ⟨k, c, -, -, heq⟩ | ⟨e, route, heq⟩
    all_goals
      rw [heq]
      exact hsame (fun kind => by cases kind <;> rfl) rfl rfl

theorem threads_step {lower : String → String} {cores : Nat} {st st' : Interception}
    {detached : List Nat} {i : InterceptionEvent} {o : CallOutput} (hsettled : Settled st)
    (h : ThreadsSettled cores st detached) (hstep : InterceptionStep lower st i o st') :
    ThreadsSettled cores st' (detached ++ o.detached) := by
  cases hstep with
  | call c =>
    cases c with
    | configure tunnelApps scans =>
      rw [show detached ++ (st.call lower (.configure tunnelApps scans)).1.detached = detached from
        List.append_nil detached]
      exact threads_configure h lower tunnelApps scans
    | setRelayContext ctx =>
      rw [show detached ++ (st.call lower (.setRelayContext ctx)).1.detached = detached from
        List.append_nil detached]
      exact h.of_same (funext fun kind => by cases kind <;> rfl) rfl rfl rfl rfl
    | start first second config =>
      rw [show detached ++ (st.call lower (.start first second config)).1.detached = detached from
        List.append_nil detached]
      have hframe := ParallelInterceptor.disableBoth_withoutFlags st.self first
      have hidx : (st.self.disableBoth first).2.physicalAdapterIdx = st.self.physicalAdapterIdx :=
        congrArg (·.physicalAdapterIdx) hframe
      exact threads_startInterceptor (h.flags hframe)
        (fun hsome => (hsettled.located (hidx ▸ hsome)).of_withoutFlags hframe) second config
    | close slow first second =>
      exact (threads_stop h slow first).flags (ParallelInterceptor.enableBoth_withoutFlags _ second)
    | drop slow reply => exact threads_stop h slow reply
  | threadEnds =>
    rw [List.append_nil]
    exact ⟨⟨fun t ht => h.known t (List.mem_of_mem_filter ht),
      h.nodup.sublist (List.filter_sublist.map _),
      fun t ht => h.fresh t (List.mem_of_mem_filter ht), h.old, h.apart⟩, h.idle, h.numWorkers,
      h.workers⟩

/-! ## 3. The threads of a run -/

section Runs

variable {lower : String → String} {cores : Nat} {apps : List String} {es : InterceptionLog}
  {st : Interception}

theorem threads_run (hrun : Run (InterceptionStep lower) (.new cores apps) es st) :
    ThreadsSettled cores st (detachedOf es) := by
  refine Run.history (P := fun es st => ThreadsSettled cores st (detachedOf es)) ?_
    (fun es s i o s' hbefore h hstep => ?_) hrun
  · have hnot : (Interception.new cores apps).self.active ≠ true := Bool.false_ne_true
    exact ⟨⟨fun t ht => (List.not_mem_nil ht).elim, List.nodup_nil,
      fun t ht => (List.not_mem_nil ht).elim, fun id hid => (List.not_mem_nil hid).elim,
      fun kind id hid => by cases kind <;> cases hid⟩, fun _ kind => by cases kind <;> rfl, rfl,
      fun h => absurd h hnot⟩
  · have hdetached : detachedOf (es ++ [(i, o)]) = detachedOf es ++ o.detached := by
      rw [detachedOf, detachedOf, List.flatMap_append, List.flatMap_singleton]
    rw [hdetached]
    exact threads_step (settled_run hbefore) h hstep

/-- The threads of a kind that have not been given up. -/
def Interception.atWork (st : Interception) (detached : List Nat) (kind : ThreadKind) :
    List LiveThread :=
  st.live.filter fun t => decide (t.kind = kind ∧ t.id ∉ detached)

/-- They have handles. -/
theorem Accounted.length_atWork {st : Interception} {detached : List Nat}
    (h : Accounted st detached) (kind : ThreadKind) :
    (st.atWork detached kind).length ≤ (st.self.handles kind).length := by
  have hnodup : ((st.atWork detached kind).map (·.id)).Nodup :=
    h.nodup.sublist (List.filter_sublist.map _)
  rw [← List.length_map (·.id)]
  refine (List.subperm_of_subset hnodup fun id hid => ?_).length_le
  obtain ⟨t, ht, rfl⟩ := List.mem_map.mp hid
  obtain ⟨hlive, hwork⟩ := List.mem_filter.mp ht
  obtain ⟨rfl, hkept⟩ := of_decide_eq_true hwork
  exact (h.known t hlive).resolve_right hkept

/-- **No thread is left behind unseen.**  In every run, when the interceptor is not active, each
thread that has not ended was given up when its join timed out.  While it is active there is, beside
such threads, one refresher, and at most one reader, one receiver and `num_workers` workers. -/
theorem threads_of_run (hrun : Run (InterceptionStep lower) (.new cores apps) es st) :
    (st.live.map (·.id)).Nodup ∧
    (st.self.active = false → ∀ t ∈ st.live, t.id ∈ detachedOf es) ∧
    (st.self.active = true →
      (st.atWork (detachedOf es) .refresher).length = 1 ∧
      (st.atWork (detachedOf es) .reader).length ≤ 1 ∧
      (st.atWork (detachedOf es) .inbound).length ≤ 1 ∧
      (st.atWork (detachedOf es) .worker).length ≤ numWorkers cores) := by
  have h := threads_run hrun
  refine ⟨h.nodup, fun hidle t ht => ?_, fun hactive => ⟨Nat.le_antisymm ?_ ?_, ?_, ?_, ?_⟩⟩
  · refine (h.known t ht).resolve_left fun hmem => ?_
    rw [h.idle hidle] at hmem
    cases hmem
  · exact (h.length_atWork .refresher).trans (st.self.handles_single rfl)
  · obtain ⟨id, hhandle, hlive⟩ := (settled_run hrun).refresher hactive
    have hmem : id ∈ st.self.handles .refresher := by
      rw [ParallelInterceptor.handles, hhandle]
      exact List.mem_singleton_self id
    exact List.length_pos_of_mem (List.mem_filter.mpr
      ⟨hlive, decide_eq_true ⟨rfl, h.apart .refresher id hmem⟩⟩)
  · exact (h.length_atWork .reader).trans (st.self.handles_single rfl)
  · exact (h.length_atWork .inbound).trans (st.self.handles_single rfl)
  · exact (h.length_atWork .worker).trans (h.workers hactive).le

/-- In the session a reader and four workers are at work. -/
theorem office_threads : ∃ es,
    Run (InterceptionStep toAsciiLowercase) officeNew es officeStarted ∧
      officeStarted.live.length = 6 ∧ (officeStarted.atWork (detachedOf es) .refresher).length = 1 := by
  have hrun := run_append.mpr ⟨_, office_configured, office_started⟩
  exact ⟨_, hrun, by decide +kernel, ((threads_of_run hrun).2.2 (by decide +kernel)).1⟩

end Runs

end SwiftTunnel
