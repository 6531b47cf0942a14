/-
# The life of an interceptor

What the runs of `Interceptor` come to for the network adapter.  It is chosen by the last `configure`
that succeeded, and none succeeds while the interceptor is active: its refresher holds the cache.  So
the adapter on which a group of settings is turned on again is the one where it was turned off.

What a call does to the settings is followed script by script.  `Tracks` says that from one state to
another each group of settings has gone through the scripts of a log; it composes (`Tracks.trans`),
so §1 proves it for the four operations and for their pairs.  `Settled` is what holds between two
calls: flags, adapter, threads and cache go together, and no flag is up while the interceptor is not
active.  Each of `configure`, `start`, `stop` and `close` keeps it.

* `start_ok_of_configured`: `start` does not fail after a `configure` that succeeded, since it fails
  for want of an adapter only.
* `adapter_settings`: in every run a group is turned off on one adapter at a time and turned on only
  where it is off, and it is off nowhere when the interceptor is not active.
* `intercepted_adapter`: which adapter it is, in terms of the last successful `configure` and of the
  scans that it made.

The scripts are what the code hands to PowerShell; whether one succeeds is an input.  What a script
does to the adapter is told only where every enabling takes effect and no disabling that is reported
as failed does.  A process that is killed runs no `stop`, and leaves the settings off.
-/
import SwiftTunnel.SplitTunnel.Interceptor

namespace SwiftTunnel

open Rust

/-! ## 1. What a call does to the settings -/

namespace ParallelInterceptor

/-- The interceptor but for its flags. -/
def withoutFlags (self : ParallelInterceptor) : ParallelInterceptor :=
  { self with tsoWasDisabled := false, ipv6WasDisabled := false }

/-- The adapter on which a group is off. -/
def offOn (self : ParallelInterceptor) (g : SettingGroup) : Option String :=
  if self.wasDisabled g then self.physicalAdapterFriendlyName else none

theorem wasDisabled_setWasDisabled (self : ParallelInterceptor) (g g' : SettingGroup) (v : Bool) :
    (self.setWasDisabled g v).wasDisabled g' = if g' = g then v else self.wasDisabled g' := by
  cases g <;> cases g' <;> rfl

theorem setWasDisabled_withoutFlags (self : ParallelInterceptor) (g : SettingGroup) (v : Bool) :
    (self.setWasDisabled g v).withoutFlags = self.withoutFlags := by
  cases g <;> rfl

theorem disable_withoutFlags (self : ParallelInterceptor) (g : SettingGroup) (reply : ScriptReply) :
    (self.disable g reply).2.withoutFlags = self.withoutFlags := by
  rw [disable]
  split
  · rfl
  · dsimp only
    split
    · exact setWasDisabled_withoutFlags self g true
    · rfl

theorem enable_withoutFlags (self : ParallelInterceptor) (g : SettingGroup) (reply : ScriptReply) :
    (self.enable g reply).2.withoutFlags = self.withoutFlags := by
  rw [enable]
  split
  · split
    · rfl
    · exact setWasDisabled_withoutFlags self g false
  · rfl

theorem disableBoth_withoutFlags (self : ParallelInterceptor) (reply : SettingGroup → ScriptReply) :
    (self.disableBoth reply).2.withoutFlags = self.withoutFlags :=
  (disable_withoutFlags _ _ _).trans (disable_withoutFlags _ _ _)

theorem enableBoth_withoutFlags (self : ParallelInterceptor) (reply : SettingGroup → ScriptReply) :
    (self.enableBoth reply).2.withoutFlags = self.withoutFlags :=
  (enable_withoutFlags _ _ _).trans (enable_withoutFlags _ _ _)

theorem addHandle_takeHandles (self : ParallelInterceptor) (kind : ThreadKind) (id : Nat) :
    (self.addHandle kind id).takeHandles = self.takeHandles := by
  cases kind <;> rfl

/-- A script with the name of an adapter can only be run when there is one. -/
theorem disableBoth_none {self : ParallelInterceptor} (h : self.physicalAdapterFriendlyName = none)
    (reply : SettingGroup → ScriptReply) : self.disableBoth reply = ([], self) := by
  have hdisable : ∀ g, self.disable g (reply g) = ([], self) := fun g => by
    rw [disable, h]
  rw [disableBoth, disableAdapterOffload, hdisable]
  dsimp only
  rw [disableIpv6, hdisable]
  rfl

theorem enableBoth_clear {self : ParallelInterceptor} (h : ∀ g, self.wasDisabled g = false)
    (reply : SettingGroup → ScriptReply) : self.enableBoth reply = ([], self) := by
  have henable : ∀ g, self.enable g (reply g) = ([], self) := fun g => by
    rw [enable, h, if_neg Bool.false_ne_true]
  rw [enableBoth, enableAdapterOffload, henable]
  dsimp only
  rw [enableIpv6, henable]
  rfl

theorem enable_wasDisabled {self : ParallelInterceptor} {g : SettingGroup} (g' : SettingGroup)
    (h : self.wasDisabled g = true → self.physicalAdapterFriendlyName.isSome = true)
    (reply : ScriptReply) :
    (self.enable g reply).2.wasDisabled g' = if g' = g then false else self.wasDisabled g' := by
  rw [enable]
  split
  · rename_i hflag
    split
    · rename_i hnone
      rw [hnone] at h
      exact absurd (h hflag) Bool.false_ne_true
    · exact wasDisabled_setWasDisabled self g g' false
  · rename_i hflag
    split
    · rename_i heq
      exact heq ▸ Bool.eq_false_of_not_eq_true hflag
    · rfl

/-- `enable` clears the flags. -/
theorem enableBoth_wasDisabled {self : ParallelInterceptor} (g : SettingGroup)
    (h : ∀ g, self.wasDisabled g = true → self.physicalAdapterFriendlyName.isSome = true)
    (reply : SettingGroup → ScriptReply) : (self.enableBoth reply).2.wasDisabled g = false := by
  have hframe := enable_withoutFlags self .offload (reply .offload)
  have hfriendly : (self.enable .offload (reply .offload)).2.physicalAdapterFriendlyName =
      self.physicalAdapterFriendlyName := congrArg (·.physicalAdapterFriendlyName) hframe
  rw [enableBoth]
  dsimp only [enableAdapterOffload, enableIpv6]
  rw [enable_wasDisabled g ?_, enable_wasDisabled g (h .offload)]
  · cases g <;> rfl
  · rw [enable_wasDisabled .ipv6 (h .offload), hfriendly]
    exact h .ipv6

/-! What a call does to a group is a run of it. -/

/-- From `self` to `self'` each group has gone through the scripts of the log. -/
def Tracks (self : ParallelInterceptor) (log : ScriptLog) (self' : ParallelInterceptor) : Prop :=
  ∀ g, Run OffStep (self.offOn g) (log.filter fun e => decide (e.1.group = g)) (self'.offOn g)

theorem tracks_nil {self self' : ParallelInterceptor} (h : ∀ g, self.offOn g = self'.offOn g) :
    Tracks self [] self' :=
  fun g => run_nil_iff.mpr (h g)

theorem Tracks.trans {self self' self'' : ParallelInterceptor} {log log' : ScriptLog}
    (h : Tracks self log self') (h' : Tracks self' log' self'') :
    Tracks self (log ++ log') self'' := by
  intro g
  rw [List.filter_append]
  exact run_append.mpr ⟨_, h g, h' g⟩

theorem offOn_or (self : ParallelInterceptor) (g : SettingGroup) :
    self.offOn g = none ∨ self.offOn g = self.physicalAdapterFriendlyName := by
  rw [offOn]
  split
  · exact Or.inr rfl
  · exact Or.inl rfl

theorem offOn_setWasDisabled (self : ParallelInterceptor) (g g' : SettingGroup) (v : Bool) :
    (self.setWasDisabled g v).offOn g' = if g' = g then
      (if v then self.physicalAdapterFriendlyName else none) else self.offOn g' := by
  cases g <;> cases g' <;> rfl

theorem filter_group (script : Script) (reply : ScriptReply) (g : SettingGroup) :
    List.filter (fun e => decide (e.1.group = g)) [(script, reply)] =
      if script.group = g then [(script, reply)] else [] := by
  rw [List.filter_cons, List.filter_nil]
  split
  · rename_i h
    rw [if_pos (of_decide_eq_true h)]
  · rename_i h
    rw [if_neg fun heq => h (decide_eq_true heq)]

theorem tracks_disable (self : ParallelInterceptor) (g : SettingGroup) (reply : ScriptReply) :
    Tracks self (self.disable g reply).1 (self.disable g reply).2 := by
  rw [disable]
  split
  · exact tracks_nil fun _ => rfl
  · rename_i name hname
    intro g'
    have hfree := hname ▸ self.offOn_or g'
    dsimp only
    rw [filter_group]
    by_cases hg : g = g'
    · subst hg
      rw [if_pos rfl]
      refine Run.cons ?_ (Run.nil _)
      split
      · rename_i hsuccess
        rw [offOn_setWasDisabled, if_pos rfl, if_pos rfl, hname]
        exact .disable rfl hfree hsuccess
      · rename_i hsuccess
        exact .disableFailed rfl hfree (Bool.eq_false_of_not_eq_true hsuccess)
    · rw [if_neg hg]
      refine run_nil_iff.mpr ?_
      split
      · rw [offOn_setWasDisabled, if_neg (Ne.symm hg)]
      · rfl

theorem tracks_enable (self : ParallelInterceptor) (g : SettingGroup) (reply : ScriptReply) :
    Tracks self (self.enable g reply).1 (self.enable g reply).2 := by
  rw [enable]
  split
  · rename_i hflag
    split
    · exact tracks_nil fun _ => rfl
    · rename_i name hname
      intro g'
      dsimp only
      rw [filter_group, offOn_setWasDisabled]
      by_cases hg : g = g'
      · subst hg
        have hoff : self.offOn g = some name := by
          rw [offOn, if_pos hflag, hname]
        rw [if_pos rfl, if_pos rfl, if_neg Bool.false_ne_true, hoff]
        have hstep : OffStep (some (Script.mk g name true).adapter) ⟨g, name, true⟩ reply none :=
          .enable rfl
        exact Run.cons hstep (Run.nil _)
      · rw [if_neg hg, if_neg (Ne.symm hg)]
        exact Run.nil _
  · exact tracks_nil fun _ => rfl

theorem tracks_disableBoth (self : ParallelInterceptor) (reply : SettingGroup → ScriptReply) :
    Tracks self (self.disableBoth reply).1 (self.disableBoth reply).2 :=
  (tracks_disable _ _ _).trans (tracks_disable _ _ _)

theorem tracks_enableBoth (self : ParallelInterceptor) (reply : SettingGroup → ScriptReply) :
    Tracks self (self.enableBoth reply).1 (self.enableBoth reply).2 :=
  (tracks_enable _ _ _).trans (tracks_enable _ _ _)

end ParallelInterceptor

namespace Interception

theorem spawnAll_cons (kind : ThreadKind) (kinds : List ThreadKind) (st : Interception) :
    st.spawnAll (kind :: kinds) = (st.spawn kind).spawnAll kinds :=
  rfl

/-- Of the interceptor a thread changes its handles only. -/
theorem spawnAll_takeHandles (kinds : List ThreadKind) (st : Interception) :
    (st.spawnAll kinds).self.takeHandles = st.self.takeHandles := by
  induction kinds generalizing st with
  | nil => rfl
  | cons kind kinds ih =>
    rw [spawnAll_cons, ih]
    exact ParallelInterceptor.addHandle_takeHandles _ _ _

theorem spawnAll_live {t : LiveThread} (kinds : List ThreadKind) {st : Interception}
    (h : t ∈ st.live) : t ∈ (st.spawnAll kinds).live := by
  induction kinds generalizing st with
  | nil => exact h
  | cons kind kinds ih => exact ih (List.mem_cons_of_mem _ h)

theorem spawnAll_refresherHandle {kinds : List ThreadKind} (h : .refresher ∉ kinds)
    (st : Interception) : (st.spawnAll kinds).self.refresherHandle = st.self.refresherHandle := by
  induction kinds generalizing st with
  | nil => rfl
  | cons kind kinds ih =>
    rw [spawnAll_cons, ih (List.not_mem_of_not_mem_cons h)]
    cases kind with
    | refresher => exact absurd List.mem_cons_self h
    | _ => rfl

end Interception

theorem refresher_notMem_receivers (config : Nat → Bool) (ctx : Option ForwardContext) :
    .refresher ∉ receiverKinds config ctx := by
  cases ctx with
  | none => exact List.not_mem_nil
  | some ctx =>
    intro h
    rcases List.mem_append.mp h with h | h
    · split at h
      · cases List.mem_singleton.mp h
      · cases h
    · obtain ⟨_, -, h⟩ := List.mem_map.mp h
      cases h

/-! ## 2. The invariant -/

/-- What holds between the calls. -/
structure Settled (st : Interception) : Prop where
  name : st.self.physicalAdapterName.isSome = st.self.physicalAdapterIdx.isSome
  friendly : st.self.physicalAdapterFriendlyName.isSome = st.self.physicalAdapterIdx.isSome
  adapter : st.self.active = true → st.self.physicalAdapterIdx.isSome = true
  flags : ∀ g, st.self.wasDisabled g = true → st.self.active = true
  stopFlag : st.self.active = true → st.self.stopFlag = false
  refresher : st.self.active = true →
    ∃ id, st.self.refresherHandle = some id ∧ ⟨id, .refresher⟩ ∈ st.live

/-- An adapter is known. -/
structure Located (p : ParallelInterceptor) : Prop where
  idx : p.physicalAdapterIdx.isSome = true
  name : p.physicalAdapterName.isSome = true
  friendly : p.physicalAdapterFriendlyName.isSome = true

theorem Settled.located {st : Interception} (h : Settled st)
    (hidx : st.self.physicalAdapterIdx.isSome = true) : Located st.self :=
  ⟨hidx, h.name.trans hidx, h.friendly.trans hidx⟩

theorem Settled.clear {st : Interception} (h : Settled st) (hactive : st.self.active = false)
    (g : SettingGroup) : st.self.wasDisabled g = false :=
  Bool.eq_false_of_not_eq_true fun hflag =>
    Bool.false_ne_true (hactive.symm.trans (h.flags g hflag))

/-- While it is active the cache is in use. -/
theorem Settled.cacheInUse {st : Interception} (h : Settled st) (hactive : st.self.active = true) :
    (st.live.any (·.holdsCache)) = true := by
  obtain ⟨id, -, hlive⟩ := h.refresher hactive
  exact List.any_eq_true.mpr ⟨_, hlive, rfl⟩

theorem Located.of_withoutFlags {self self' : ParallelInterceptor} (h : Located self)
    (hframe : self'.withoutFlags = self.withoutFlags) : Located self' := by
  have hidx : self'.physicalAdapterIdx = self.physicalAdapterIdx :=
    congrArg (·.physicalAdapterIdx) hframe
  have hname : self'.physicalAdapterName = self.physicalAdapterName :=
    congrArg (·.physicalAdapterName) hframe
  have hfriendly : self'.physicalAdapterFriendlyName = self.physicalAdapterFriendlyName :=
    congrArg (·.physicalAdapterFriendlyName) hframe
  exact ⟨hidx ▸ h.idx, hname ▸ h.name, hfriendly ▸ h.friendly⟩

/-- The threads of a start. -/
def threadKinds (config : Nat → Bool) (p : ParallelInterceptor) : List ThreadKind :=
  .refresher :: List.replicate p.numWorkers .worker ++ .reader :: receiverKinds config p.relayCtx

/-- Where an adapter is known, the threads start. -/
theorem startThreads_eq {st : Interception} (h : Located st.self) (config : Nat → Bool) :
    st.startThreads config = (.ok (), st.starting.spawnAll (threadKinds config st.self)) := by
  have hframe := Interception.spawnAll_takeHandles
    (.refresher :: List.replicate st.self.numWorkers .worker) st.starting
  obtain ⟨name, hsome⟩ := Option.isSome_iff_exists.mp h.name
  have hname : (st.starting.spawnAll (.refresher :: List.replicate st.self.numWorkers .worker)
      ).self.physicalAdapterName = some name :=
    (congrArg (·.physicalAdapterName) hframe).trans hsome
  have hctx : (st.starting.spawnAll (.refresher :: List.replicate st.self.numWorkers .worker)
      ).self.relayCtx = st.self.relayCtx := congrArg (·.relayCtx) hframe
  have hworkers : st.starting.self.numWorkers = st.self.numWorkers := rfl
  rw [Interception.startThreads, hworkers, hname, hctx, threadKinds, Interception.spawnAll, Interception.spawnAll,
    Interception.spawnAll, List.foldl_append]

theorem refresher_notMem_threadKinds (config : Nat → Bool) (p : ParallelInterceptor) :
    .refresher ∉ List.replicate p.numWorkers .worker ++ .reader :: receiverKinds config p.relayCtx := by
  intro h
  rcases List.mem_append.mp h with h | h
  · cases List.eq_of_mem_replicate h
  · rcases List.mem_cons.mp h with h | h
    · cases h
    · exact refresher_notMem_receivers _ _ h

theorem settled_started {st : Interception} (h : Located st.self) (config : Nat → Bool) :
    Settled (st.starting.spawnAll (threadKinds config st.self)) := by
  have hframe := Interception.spawnAll_takeHandles (threadKinds config st.self) st.starting
  have hidx : _ = st.self.physicalAdapterIdx := congrArg (·.physicalAdapterIdx) hframe
  have hname : _ = st.self.physicalAdapterName := congrArg (·.physicalAdapterName) hframe
  have hfriendly : _ = st.self.physicalAdapterFriendlyName :=
    congrArg (·.physicalAdapterFriendlyName) hframe
  have hactive : _ = true := congrArg (·.active) hframe
  have hstop : _ = false := congrArg (·.stopFlag) hframe
  refine ⟨?_, ?_, fun _ => ?_, fun _ _ => hactive, fun _ => hstop, fun _ => ?_⟩
  · exact (congrArg Option.isSome hname).trans
      (h.name.trans (h.idx.symm.trans (congrArg Option.isSome hidx.symm)))
  · exact (congrArg Option.isSome hfriendly).trans
      (h.friendly.trans (h.idx.symm.trans (congrArg Option.isSome hidx.symm)))
  · exact (congrArg Option.isSome hidx).trans h.idx
  · have hspawned : ⟨st.nextId, .refresher⟩ ∈ (st.starting.spawn .refresher).live :=
      List.mem_cons_self
    have hlive := Interception.spawnAll_live
      (List.replicate st.self.numWorkers .worker ++
        .reader :: receiverKinds config st.self.relayCtx) hspawned
    refine ⟨st.nextId, ?_, hlive⟩
    exact Interception.spawnAll_refresherHandle (refresher_notMem_threadKinds config st.self) _

/-- The scripts change the flags only. -/
theorem Settled.disabled {st : Interception} (h : Settled st) (hactive : st.self.active = true)
    {p : ParallelInterceptor} (hframe : p.withoutFlags = st.self.withoutFlags) :
    Settled { st with self := p } := by
  have hp := (h.located (h.adapter hactive)).of_withoutFlags hframe
  have hpactive : p.active = st.self.active := congrArg (·.active) hframe
  have hpstop : p.stopFlag = st.self.stopFlag := congrArg (·.stopFlag) hframe
  have hphandle : p.refresherHandle = st.self.refresherHandle :=
    congrArg (·.refresherHandle) hframe
  refine ⟨hp.name.trans hp.idx.symm, hp.friendly.trans hp.idx.symm, fun _ => hp.idx,
    fun _ _ => hpactive.trans hactive, fun _ => hpstop.trans (h.stopFlag hactive), fun _ => ?_⟩
  exact hphandle ▸ h.refresher hactive

/-- `start` with an adapter. -/
theorem startInterceptor_located {st : Interception} (hlocated : Located st.self)
    (hsettled : st.self.active = true → Settled st) (reply : SettingGroup → ScriptReply)
    (config : Nat → Bool) :
    (st.startInterceptor reply config).1.1 = .ok () ∧
      Settled (st.startInterceptor reply config).2 ∧
      st.self.Tracks (st.startInterceptor reply config).1.2
        (st.startInterceptor reply config).2.self := by
  obtain ⟨idx, hidx⟩ := Option.isSome_iff_exists.mp hlocated.idx
  rw [Interception.startInterceptor, hidx]
  split
  · rename_i hactive
    exact ⟨rfl, hsettled hactive, ParallelInterceptor.tracks_nil fun _ => rfl⟩
  · have hlocated' := hlocated.of_withoutFlags
      (ParallelInterceptor.disableBoth_withoutFlags st.self reply)
    have hframe := Interception.spawnAll_takeHandles
      (threadKinds config (st.self.disableBoth reply).2)
      { st with self := (st.self.disableBoth reply).2 }.starting
    have htracks := (ParallelInterceptor.tracks_disableBoth st.self reply).trans
      (ParallelInterceptor.tracks_nil fun g => (congrArg (·.offOn g) hframe).symm)
    rw [List.append_nil] at htracks
    dsimp only
    rw [startThreads_eq hlocated']
    exact ⟨rfl, settled_started hlocated' config, htracks⟩

/-- **A driver with an adapter starts**, whatever the scripts answer. -/
theorem start_located {st : Interception} (h : Settled st)
    (hidx : st.self.physicalAdapterIdx.isSome = true) (lower : String → String)
    (first second : SettingGroup → ScriptReply) (config : Nat → Bool) :
    (st.call lower (.start first second config)).1.result = .ok () ∧
      Settled (st.call lower (.start first second config)).2 ∧
      st.self.Tracks (st.call lower (.start first second config)).1.scripts
        (st.call lower (.start first second config)).2.self := by
  have hframe := ParallelInterceptor.disableBoth_withoutFlags st.self first
  have hactive : (st.self.disableBoth first).2.active = st.self.active := congrArg (·.active) hframe
  have hdisabled : Located ({ st with self := (st.self.disableBoth first).2 } : Interception).self :=
    (h.located hidx).of_withoutFlags hframe
  obtain ⟨hok, hsettled, htracks⟩ := startInterceptor_located hdisabled
    (fun hp => h.disabled (hactive.symm.trans hp) hframe) second config
  rw [Interception.call]
  exact ⟨hok, hsettled, (ParallelInterceptor.tracks_disableBoth st.self first).trans htracks⟩

theorem settled_start {st : Interception} (h : Settled st) (lower : String → String)
    (first second : SettingGroup → ScriptReply) (config : Nat → Bool) :
    Settled (st.call lower (.start first second config)).2 ∧
      st.self.Tracks (st.call lower (.start first second config)).1.scripts
        (st.call lower (.start first second config)).2.self := by
  cases hname : st.self.physicalAdapterFriendlyName with
  | none =>
    -- without an adapter no script runs and nothing is spawned
    have hidx : st.self.physicalAdapterIdx = none := by
      rw [← Option.isNone_iff_eq_none, ← Option.not_isSome, ← h.friendly, hname]
      rfl
    rw [Interception.call, ParallelInterceptor.disableBoth_none hname]
    dsimp only
    rw [Interception.startInterceptor, hidx]
    split <;> exact ⟨h, ParallelInterceptor.tracks_nil fun _ => rfl⟩
  | some name =>
    have hidx := h.friendly.symm.trans (Option.isSome_of_eq_some hname)
    exact (start_located h hidx lower first second config).2

/-- After a stop all settings are on again. -/
theorem settled_stop {st : Interception} (h : Settled st) (slow : Nat → Bool)
    (reply : SettingGroup → ScriptReply) :
    Settled (st.stop slow reply).2 ∧
      st.self.Tracks (st.stop slow reply).1.1 (st.stop slow reply).2.self ∧
      (st.stop slow reply).2.self.active = false := by
  rw [Interception.stop]
  split
  · rename_i hactive
    let p := { st.self with stopFlag := true, active := false }.takeHandles
    have hframe := ParallelInterceptor.enableBoth_withoutFlags p reply
    have hlocated : Located p := by
      obtain ⟨hidx, hname, hfriendly⟩ := h.located (h.adapter hactive)
      exact ⟨hidx, hname, hfriendly⟩
    have hlocated' := hlocated.of_withoutFlags hframe
    have hstopped : (p.enableBoth reply).2.active = false := congrArg (·.active) hframe
    have hclear : ∀ g, (p.enableBoth reply).2.wasDisabled g = false := fun g =>
      ParallelInterceptor.enableBoth_wasDisabled g (fun _ _ => hlocated.friendly) reply
    have hnot : (p.enableBoth reply).2.active ≠ true := fun hp =>
      Bool.false_ne_true (hstopped.symm.trans hp)
    refine ⟨⟨hlocated'.name.trans hlocated'.idx.symm, hlocated'.friendly.trans hlocated'.idx.symm,
      fun hp => absurd hp hnot, fun g hg => ?_, fun hp => absurd hp hnot, fun hp => absurd hp hnot⟩,
      ParallelInterceptor.tracks_enableBoth p reply, hstopped⟩
    exact absurd ((hclear g).symm.trans hg) Bool.false_ne_true
  · rename_i hactive
    exact ⟨h, ParallelInterceptor.tracks_nil fun _ => rfl, Bool.eq_false_of_not_eq_true hactive⟩

theorem settled_close {st : Interception} (h : Settled st) (lower : String → String)
    (slow : Nat → Bool) (first second : SettingGroup → ScriptReply) :
    Settled (st.call lower (.close slow first second)).2 ∧
      st.self.Tracks (st.call lower (.close slow first second)).1.scripts
        (st.call lower (.close slow first second)).2.self := by
  obtain ⟨hsettled, htracks, hstopped⟩ := settled_stop h slow first
  rw [Interception.call]
  dsimp only
  rw [ParallelInterceptor.enableBoth_clear (hsettled.clear hstopped), List.append_nil]
  exact ⟨hsettled, htracks⟩

/-! `configure` looks for an adapter at most five times. -/

theorem findPhysicalAdapter_ok {lower : String → String} {scan : AdapterScan} {c : Candidate}
    (h : scan.find lower = .ok c) (p : ParallelInterceptor) :
    p.findPhysicalAdapter lower scan = (.ok (), { p with
      defaultRouteIfIndex := scan.defaultRoute
      physicalAdapterIdx := some c.1
      physicalAdapterName := some c.2.internalName
      physicalAdapterFriendlyName := some c.2.friendly }) := by
  rw [ParallelInterceptor.findPhysicalAdapter, h]

theorem findPhysicalAdapter_error {lower : String → String} {scan : AdapterScan} {e : SdkError}
    (h : scan.find lower = .error e) (p : ParallelInterceptor) :
    p.findPhysicalAdapter lower scan =
      (.error e, { p with defaultRouteIfIndex := scan.defaultRoute }) := by
  rw [ParallelInterceptor.findPhysicalAdapter, h]

/-- The first scan that selects an adapter, of those from `attempt` on. -/
def SelectsAt (lower : String → String) (scans : Nat → AdapterScan) (attempt k : Nat)
    (c : Candidate) : Prop :=
  attempt ≤ k ∧ (scans k).find lower = .ok c ∧
    ∀ j, attempt ≤ j → j < k → ∃ e, (scans j).find lower = .error e

/-- `configure` sets the adapter to the one that it selects, or leaves it as it was. -/
theorem tryAdapters_result (lower : String → String) (scans : Nat → AdapterScan) (left attempt : Nat)
    (lastError : String) (p : ParallelInterceptor) :
    (∃ k c, k < attempt + left ∧ SelectsAt lower scans attempt k c ∧
      ParallelInterceptor.tryAdapters lower scans left attempt lastError p = (.ok (), { p with
        defaultRouteIfIndex := (scans k).defaultRoute
        physicalAdapterIdx := some c.1
        physicalAdapterName := some c.2.internalName
        physicalAdapterFriendlyName := some c.2.friendly })) ∨
    ∃ e route, ParallelInterceptor.tryAdapters lower scans left attempt lastError p =
      (.error e, { p with defaultRouteIfIndex := route }) := by
  induction left generalizing attempt lastError p with
  | zero => exact Or.inr ⟨_, p.defaultRouteIfIndex, rfl⟩
  | succ left ih =>
    rw [ParallelInterceptor.tryAdapters]
    cases hfind : (scans attempt).find lower with
    | ok c =>
      rw [findPhysicalAdapter_ok hfind]
      refine Or.inl ⟨attempt, c, by omega, ⟨le_refl _, hfind, fun j hj hlt => ?_⟩, rfl⟩
      omega
    | error e =>
      rw [findPhysicalAdapter_error hfind]
      dsimp only
      rcases ih (attempt + 1) e.toText _ with ⟨k, c, hk, ⟨hle, hok, hbefore⟩, heq⟩ | h
      · refine Or.inl ⟨k, c, by omega, ⟨by omega, hok, fun j hj hlt => ?_⟩, heq⟩
        rcases Nat.eq_or_lt_of_le hj with rfl | hj
        · exact ⟨e, hfind⟩
        · exact hbefore j hj hlt
      · exact Or.inr h

theorem settled_configure {st : Interception} (h : Settled st) (lower : String → String)
    (tunnelApps : List String) (scans : Nat → AdapterScan) :
    Settled (st.call lower (.configure tunnelApps scans)).2 ∧
      st.self.Tracks (st.call lower (.configure tunnelApps scans)).1.scripts
        (st.call lower (.configure tunnelApps scans)).2.self := by
  rw [Interception.call, ParallelInterceptor.configure]
  by_cases hfree : st.live.any (·.holdsCache) = true
  · rw [if_pos hfree]
    exact ⟨h, ParallelInterceptor.tracks_nil fun _ => rfl⟩
  · rw [if_neg hfree]
    -- the refresher of an active interceptor holds the cache
    have hactive : st.self.active = false := Bool.eq_false_of_not_eq_true fun hactive =>
      hfree (h.cacheInUse hactive)
    have hnot : st.self.active ≠ true := fun hp => Bool.false_ne_true (hactive.symm.trans hp)
    have hoff : ∀ {p : ParallelInterceptor}, (∀ g, p.wasDisabled g = st.self.wasDisabled g) →
        st.self.Tracks [] p := fun {p} hp => ParallelInterceptor.tracks_nil fun g => by
      rw [ParallelInterceptor.offOn, ParallelInterceptor.offOn, hp, h.clear hactive,
        if_neg Bool.false_ne_true, if_neg Bool.false_ne_true]
    rcases tryAdapters_result lower scans ParallelInterceptor.maxConfigureRetries 1 ""
      { st.self with tunnelApps := tunnelApps } with ⟨k, c, -, -, heq⟩ | ⟨e, route, heq⟩
    · rw [heq]
      exact ⟨⟨rfl, rfl, fun _ => rfl, fun g hg => h.flags g (by cases g <;> exact hg),
        fun hp => absurd hp hnot, fun hp => absurd hp hnot⟩, hoff fun g => by cases g <;> rfl⟩
    · rw [heq]
      exact ⟨⟨h.name, h.friendly, h.adapter, fun g hg => h.flags g (by cases g <;> exact hg),
        fun hp => absurd hp hnot, fun hp => absurd hp hnot⟩, hoff fun g => by cases g <;> rfl⟩

theorem settled_step {lower : String → String} {st st' : Interception} {i : InterceptionEvent}
    {o : CallOutput} (h : Settled st) (hstep : InterceptionStep lower st i o st') :
    Settled st' ∧ st.self.Tracks o.scripts st'.self := by
  cases hstep with
  | call c =>
    cases c with
    | configure tunnelApps scans => exact settled_configure h lower tunnelApps scans
    | setRelayContext ctx =>
      exact ⟨⟨h.name, h.friendly, h.adapter, fun g hg => h.flags g (by cases g <;> exact hg),
        h.stopFlag, h.refresher⟩, ParallelInterceptor.tracks_nil fun g => by cases g <;> rfl⟩
    | start first second config => exact settled_start h lower first second config
    | close slow first second => exact settled_close h lower slow first second
    | drop slow reply =>
      obtain ⟨hsettled, htracks, -⟩ := settled_stop h slow reply
      exact ⟨hsettled, htracks⟩
  | threadEnds hstop =>
    refine ⟨⟨h.name, h.friendly, h.adapter, h.flags, h.stopFlag, fun hactive => ?_⟩,
      ParallelInterceptor.tracks_nil fun _ => rfl⟩
    obtain ⟨refresher, hhandle, hlive⟩ := h.refresher hactive
    refine ⟨refresher, hhandle, List.mem_filter.mpr ⟨hlive, bne_iff_ne.mpr ?_⟩⟩
    rintro rfl
    exact Bool.false_ne_true ((h.stopFlag hactive).symm.trans (hstop hhandle))

theorem settled_new (cores : Nat) (apps : List String) : Settled (.new cores apps) := by
  have hnot : (Interception.new cores apps).self.active ≠ true := Bool.false_ne_true
  exact ⟨rfl, rfl, fun h => absurd h hnot, fun g hg => by cases g <;> exact absurd hg Bool.false_ne_true,
    fun h => absurd h hnot, fun h => absurd h hnot⟩

/-! ## 3. What is turned off is turned on again -/

/-- A card beside the loopback adapter; it has the default route. -/
def officeScan : AdapterScan where
  routes := some [⟨0, 0, 0x0101A8C0, 25, 12⟩]
  driver := .ok ()
  adapters := .ok [⟨"\\DEVICE\\NPF_LOOPBACK", some "Loopback", some 1⟩,
    ⟨"\\DEVICE\\57D5A8AE", some "Intel Ethernet", some 12⟩]

def officeNew : Interception := .new 4 ["RobloxPlayerBeta.exe"]

def officeConfigured : Interception :=
  (officeNew.call toAsciiLowercase (.configure [] fun _ => officeScan)).2

/-- Every script works. -/
def allTaken : SettingGroup → ScriptReply := fun _ => ⟨fun _ => true, true⟩

def officeStarted : Interception :=
  (officeConfigured.call toAsciiLowercase (.start allTaken allTaken fun _ => true)).2

theorem office_configured : Run (InterceptionStep toAsciiLowercase) officeNew
    [(.call (.configure [] fun _ => officeScan),
      (officeNew.call toAsciiLowercase (.configure [] fun _ => officeScan)).1)] officeConfigured :=
  Run.cons (.call _ _) (Run.nil _)

theorem office_started : Run (InterceptionStep toAsciiLowercase) officeConfigured
    [(.call (.start allTaken allTaken fun _ => true),
      (officeConfigured.call toAsciiLowercase (.start allTaken allTaken fun _ => true)).1)]
    officeStarted :=
  Run.cons (.call _ _) (Run.nil _)

section Runs

variable {lower : String → String} {cores : Nat} {apps : List String} {es : InterceptionLog}
  {st : Interception}

theorem settled_run (hrun : Run (InterceptionStep lower) (.new cores apps) es st) : Settled st :=
  hrun.preserves (P := Settled) (fun _ _ _ _ hstep h => (settled_step h hstep).1) (settled_new cores apps)

theorem scriptsOf_concat (es : InterceptionLog) (e : InterceptionEvent × CallOutput) :
    scriptsOf (es ++ [e]) = scriptsOf es ++ e.2.scripts := by
  rw [scriptsOf, scriptsOf, List.flatMap_append, List.flatMap_singleton]

theorem tracks_run (hrun : Run (InterceptionStep lower) (.new cores apps) es st) :
    (ParallelInterceptor.new cores apps).Tracks (scriptsOf es) st.self := by
  refine Run.history (P := fun es st =>
    (ParallelInterceptor.new cores apps).Tracks (scriptsOf es) st.self)
    (ParallelInterceptor.tracks_nil fun _ => rfl) (fun es s i o s' hbefore htracks hstep => ?_) hrun
  rw [scriptsOf_concat]
  exact htracks.trans (settled_step (settled_run hbefore) hstep).2

/-- **What is turned off is turned on again.**  In every run the scripts of each group turn it off on
one adapter at a time, and turn it on only where it is off; when the interceptor is not active the
group is off nowhere.  If every enabling took effect, and every disabling that was reported as failed
had none, then each setting of each adapter has its first value or the one of being on, or it is zero
and its group is off there. -/
theorem adapter_settings (hrun : Run (InterceptionStep lower) (.new cores apps) es st) :
    (∀ g, Run OffStep none ((scriptsOf es).filter fun e => decide (e.1.group = g))
      (st.self.offOn g)) ∧
    (st.self.active = false → ∀ g, st.self.offOn g = none) ∧
    ((∀ e ∈ scriptsOf es, TakesEffect e) → ∀ adapters adapter setting,
      SettingIs setting adapter (adapters adapter setting)
        (runScripts (scriptsOf es) adapters adapter setting) (st.self.offOn setting.group)) := by
  have hnew : ∀ g, (ParallelInterceptor.new cores apps).offOn g = none := fun g => by
    cases g <;> rfl
  have htracks : ∀ g, Run OffStep none ((scriptsOf es).filter fun e => decide (e.1.group = g))
      (st.self.offOn g) := fun g => hnew g ▸ tracks_run hrun g
  refine ⟨htracks, fun hactive g => ?_, fun heffect adapters adapter setting => ?_⟩
  · rw [ParallelInterceptor.offOn, (settled_run hrun).clear hactive, if_neg Bool.false_ne_true]
  · rw [runScripts_group _ rfl]
    exact run_settings (htracks setting.group) (fun e he => heffect e (List.mem_of_mem_filter he))
      (fun e he => of_decide_eq_true (List.mem_filter.mp he).2) (Or.inl rfl)

/-- A session at the office, closed again. -/
theorem office_settings_restored : ∃ es st,
    Run (InterceptionStep toAsciiLowercase) officeNew es st ∧ (scriptsOf es).length = 6 ∧
      ∀ setting, runScripts (scriptsOf es) (fun _ _ => 2) "Intel Ethernet" setting = 2 ∨
        runScripts (scriptsOf es) (fun _ _ => 2) "Intel Ethernet" setting = setting.enabledValue := by
  have hrun := run_append.mpr ⟨_, office_configured, run_append.mpr ⟨_, office_started,
    Run.cons (.call officeStarted (.close (fun _ => false) allTaken allTaken)) (Run.nil _)⟩⟩
  obtain ⟨-, hoff, hsettings⟩ := adapter_settings hrun
  have heffect : ∀ e ∈ [(⟨.offload, "Intel Ethernet", false⟩, allTaken .offload),
      (⟨.ipv6, "Intel Ethernet", false⟩, allTaken .ipv6),
      (⟨.offload, "Intel Ethernet", false⟩, allTaken .offload),
      (⟨.ipv6, "Intel Ethernet", false⟩, allTaken .ipv6),
      (⟨.offload, "Intel Ethernet", true⟩, allTaken .offload),
      (⟨.ipv6, "Intel Ethernet", true⟩, allTaken .ipv6)], TakesEffect e := by
    simp only [List.forall_mem_cons]
    exact ⟨takesEffect_allTaken _, takesEffect_allTaken _, takesEffect_allTaken _,
      takesEffect_allTaken _, takesEffect_allTaken _, takesEffect_allTaken _,
      fun _ h => (List.not_mem_nil h).elim⟩
  refine ⟨_, _, hrun, by decide +kernel, fun setting => ?_⟩
  have h := hsettings heffect (fun _ _ => 2) "Intel Ethernet" setting
  rw [hoff (by decide +kernel)] at h
  rcases h with h | h | ⟨-, h⟩
  · exact Or.inl h
  · exact Or.inr h
  · cases h

/-! ## 4. The adapter -/

/-- A `configure` that succeeds. -/
def Configures (e : InterceptionEvent × CallOutput) : Prop :=
  ∃ tunnelApps scans, e.1 = .call (.configure tunnelApps scans) ∧ e.2.result = .ok ()

/-- The adapter, by the three fields that name it. -/
def ParallelInterceptor.adapter (p : ParallelInterceptor) : Option Nat × Option String × Option String :=
  (p.physicalAdapterIdx, p.physicalAdapterName, p.physicalAdapterFriendlyName)

theorem adapter_withoutFlags {p p' : ParallelInterceptor} (h : p.withoutFlags = p'.withoutFlags) :
    p.adapter = p'.adapter :=
  congrArg (·.adapter) h

theorem adapter_spawnAll (kinds : List ThreadKind) (st : Interception) :
    (st.spawnAll kinds).self.adapter = st.self.adapter :=
  congrArg (·.adapter) (Interception.spawnAll_takeHandles kinds st)

theorem adapter_startInterceptor (st : Interception) (reply : SettingGroup → ScriptReply)
    (config : Nat → Bool) : (st.startInterceptor reply config).2.self.adapter = st.self.adapter := by
  rw [Interception.startInterceptor]
  split
  · rfl
  · split
    · rfl
    · refine Eq.trans ?_
        (adapter_withoutFlags (ParallelInterceptor.disableBoth_withoutFlags st.self reply))
      dsimp only
      rw [Interception.startThreads]
      split
      · exact adapter_spawnAll _ _
      · exact (adapter_spawnAll _ _).trans (adapter_spawnAll _ _)

theorem adapter_stop (st : Interception) (slow : Nat → Bool) (reply : SettingGroup → ScriptReply) :
    (st.stop slow reply).2.self.adapter = st.self.adapter := by
  rw [Interception.stop]
  split
  · let p := { st.self with stopFlag := true, active := false }.takeHandles
    have hp : p.adapter = st.self.adapter := rfl
    exact (adapter_withoutFlags (ParallelInterceptor.enableBoth_withoutFlags p reply)).trans hp
  · rfl

/-- Only a `configure` that succeeds changes it. -/
theorem adapter_step {st st' : Interception} {i : InterceptionEvent} {o : CallOutput}
    (hstep : InterceptionStep lower st i o st') (hnot : ¬ Configures (i, o)) :
    st'.self.adapter = st.self.adapter := by
  cases hstep with
  | call c =>
    cases c with
    | configure tunnelApps scans =>
      rw [Interception.call, ParallelInterceptor.configure]
      by_cases hfree : st.live.any (·.holdsCache) = true
      · rw [if_pos hfree]
      · rw [if_neg hfree]
        rcases tryAdapters_result lower scans ParallelInterceptor.maxConfigureRetries 1 ""
          { st.self with tunnelApps := tunnelApps } with ⟨k, c, -, -, heq⟩ | ⟨e, route, heq⟩
        · refine absurd ⟨tunnelApps, scans, rfl, ?_⟩ hnot
          rw [Interception.call, ParallelInterceptor.configure, if_neg hfree, heq]
        · rw [heq]
          rfl
    | setRelayContext ctx => rfl
    | start first second config =>
      exact (adapter_startInterceptor _ second config).trans
        (adapter_withoutFlags (ParallelInterceptor.disableBoth_withoutFlags st.self first))
    | close slow first second =>
      exact (adapter_withoutFlags (ParallelInterceptor.enableBoth_withoutFlags _ second)).trans
        (adapter_stop st slow first)
    | drop slow reply => exact adapter_stop st slow reply
  | threadEnds => rfl

/-- A `configure` that succeeds takes the first adapter that a scan selects. -/
theorem adapter_configured {tunnelApps : List String} {scans : Nat → AdapterScan}
    (h : (st.call lower (.configure tunnelApps scans)).1.result = .ok ()) :
    ∃ k c, k ≤ 5 ∧ SelectsAt lower scans 1 k c ∧
      (st.call lower (.configure tunnelApps scans)).2.self.adapter =
        (some c.1, some c.2.internalName, some c.2.friendly) := by
  rw [Interception.call, ParallelInterceptor.configure] at h ⊢
  by_cases hfree : st.live.any (·.holdsCache) = true
  · rw [if_pos hfree] at h
    cases h
  · rw [if_neg hfree] at h ⊢
    rcases tryAdapters_result lower scans ParallelInterceptor.maxConfigureRetries 1 ""
      { st.self with tunnelApps := tunnelApps } with ⟨k, c, hk, hselects, heq⟩ | ⟨e, route, heq⟩
    · rw [heq]
      exact ⟨k, c, Nat.le_of_lt_succ hk, hselects, rfl⟩
    · rw [heq] at h
      cases h

/-- **Once a `configure` has succeeded every `start` does.** -/
theorem start_ok_of_configured (hrun : Run (InterceptionStep lower) (.new cores apps) es st)
    (hconfigured : ∃ e ∈ es, Configures e) (first second : SettingGroup → ScriptReply)
    (config : Nat → Bool) : (st.call lower (.start first second config)).1.result = .ok () := by
  refine (start_located (settled_run hrun) ?_ lower first second config).1
  refine Run.history (P := fun es st => (∃ e ∈ es, Configures e) →
    st.self.physicalAdapterIdx.isSome = true) (fun h => ?_) (fun es s i o s' _ h hstep hconf => ?_)
    hrun hconfigured
  · obtain ⟨e, he, -⟩ := h
    exact (List.not_mem_nil he).elim
  · by_cases hconfigures : Configures (i, o)
    · obtain ⟨tunnelApps, scans, rfl, hok⟩ := hconfigures
      cases hstep with
      | call =>
        obtain ⟨k, c, -, -, hadapter⟩ := adapter_configured hok
        exact congrArg (fun adapter => adapter.1.isSome) hadapter
    · obtain ⟨e, he, hc⟩ := hconf
      rcases List.mem_append.mp he with he | he
      · exact (congrArg (fun adapter => adapter.1.isSome) (adapter_step hstep hconfigures)).trans
          (h ⟨e, he, hc⟩)
      · exact absurd (List.mem_singleton.mp he ▸ hc) hconfigures

/-- The adapter was chosen by the last `configure` that succeeded, in scan `k`. -/
def ChosenBy (lower : String → String) (es : InterceptionLog) (st : Interception) (k : Nat)
    (scans : Nat → AdapterScan) (c : Candidate) : Prop :=
  (∃ before tunnelApps o after, es = before ++ (.call (.configure tunnelApps scans), o) :: after ∧
    o.result = .ok () ∧ ∀ e ∈ after, ¬ Configures e) ∧
  k ≤ 5 ∧ SelectsAt lower scans 1 k c ∧
  st.self.adapter = (some c.1, some c.2.internalName, some c.2.friendly)

theorem adapter_run (hrun : Run (InterceptionStep lower) (.new cores apps) es st) :
    st.self.adapter = (none, none, none) ∨ ∃ k scans c, ChosenBy lower es st k scans c := by
  refine Run.history (P := fun es st => st.self.adapter = (none, none, none) ∨
    ∃ k scans c, ChosenBy lower es st k scans c) (Or.inl rfl) (fun es s i o s' _ h hstep => ?_) hrun
  by_cases hconfigures : Configures (i, o)
  · obtain ⟨tunnelApps, scans, rfl, hok⟩ := hconfigures
    cases hstep with
    | call =>
      obtain ⟨k, c, hk, hselects, hadapter⟩ := adapter_configured hok
      exact Or.inr ⟨k, scans, c, ⟨es, tunnelApps, _, [], rfl, hok, fun e he =>
        (List.not_mem_nil he).elim⟩, hk, hselects, hadapter⟩
  · have hsame := adapter_step hstep hconfigures
    refine h.imp hsame.trans ?_
    rintro ⟨k, scans, c, ⟨before, tunnelApps, o', after, rfl, hok, hafter⟩, hk, hselects, hadapter⟩
    refine ⟨k, scans, c, ⟨before, tunnelApps, o', after ++ [(i, o)], ?_, hok, fun e he => ?_⟩, hk,
      hselects, hsame.trans hadapter⟩
    · rw [List.append_assoc, List.cons_append]
    · rcases List.mem_append.mp he with he | he
      · exact hafter e he
      · exact List.mem_singleton.mp he ▸ hconfigures

/-- **Which adapter is intercepted.**  In every run an adapter was chosen by the last `configure` that
succeeded, in the first of at most five scans that found one.  It is real, of the greatest score and
the last of these; it has the first default route of the least metric if a real adapter of the scan
has it. -/
theorem intercepted_adapter (hrun : Run (InterceptionStep lower) (.new cores apps) es st) {idx : Nat}
    (hidx : st.self.physicalAdapterIdx = some idx) :
    ∃ before tunnelApps scans o after k adapters adapter,
      es = before ++ (.call (.configure tunnelApps scans), o) :: after ∧ o.result = .ok () ∧
      (∀ e ∈ after, ¬ Configures e) ∧ 1 ≤ k ∧ k ≤ 5 ∧
      (∀ j, 1 ≤ j → j < k → ∃ e, (scans j).find lower = .error e) ∧
      BestAdapter lower (scans k) adapters idx adapter ∧
      st.self.physicalAdapterName = some adapter.internalName ∧
      st.self.physicalAdapterFriendlyName = some adapter.friendly := by
  rcases adapter_run hrun with hnone | ⟨k, scans, c, ⟨before, tunnelApps, o, after, heq, hok, hafter⟩,
    hk, ⟨hone, hfind, hfailed⟩, hadapter⟩
  · cases hidx.symm.trans (congrArg Prod.fst hnone)
  · obtain ⟨hc, hnames⟩ := Prod.mk.inj hadapter
    obtain ⟨hname, hfriendly⟩ := Prod.mk.inj hnames
    obtain rfl := Option.some.inj (hidx.symm.trans hc)
    obtain ⟨adapters, hbest⟩ := find_ok hfind
    exact ⟨before, tunnelApps, scans, o, after, k, adapters, c.2, heq, hok, hafter, hone, hk, hfailed,
      hbest, hname, hfriendly⟩

theorem office_adapter : ∃ (scans : Nat → AdapterScan) (k : Nat) (adapters : List BoundAdapter)
    (adapter : BoundAdapter), BestAdapter toAsciiLowercase (scans k) adapters 1 adapter ∧
    officeStarted.self.physicalAdapterFriendlyName = some adapter.friendly := by
  have hrun := run_append.mpr ⟨_, office_configured, office_started⟩
  obtain ⟨_, _, scans, _, _, k, adapters, adapter, _, _, _, _, _, _, hbest, _, hfriendly⟩ :=
    intercepted_adapter hrun (by decide +kernel : officeStarted.self.physicalAdapterIdx = some 1)
  exact ⟨scans, k, adapters, adapter, hbest, hfriendly⟩

end Runs

end SwiftTunnel
