/-
# The process cache with two writers

`process_cache.rs`.  `update` and `register_process_immediate` publish a snapshot in steps: a
version is drawn with `fetch_add`, the snapshot is built, and `store` replaces the published one.
`register_process_immediate` first loads the snapshot that it extends.  The cache refresher runs
the one and the process monitor the other, and nothing keeps them apart.  Here any number of
executions take their steps in any order; an execution that is not interrupted is the operation
of `ProcessCache` (`update_undisturbed`, `register_undisturbed`).

Versions are tickets: they are drawn in order, and the question is in which order they are used
(`Tickets`).  What an execution has done is told by its phase (`Trail`, `trail_run`), so a log can be
read from the state it leads to, and the books of the versions hold in every run (`versionBooks_run`).

* `updates_kept_iff`: the published version never falls, and no registration takes back an update
  that was published while it ran, exactly when the executions store in the order in which they
  drew and each such update was already in the snapshot that the registration loaded.
* `overlapped_update`: what an update loses to a registration that overlaps it.
* `update_lost`: a registration that does take one back.

The counter has 64 bits and wraps; the runs are those that do not exhaust it.  The fields of a
snapshot are published together, as the source does with one pointer.
-/
import Mathlib.Algebra.Group.Nat.Defs
import SwiftTunnel.Lib.Run
import SwiftTunnel.Lib.Tickets
import SwiftTunnel.SplitTunnel.ProcessCache

namespace SwiftTunnel

/-! ## 1. Executions and their steps -/

/-- Where an execution is, with its local variables. -/
inductive Writer where
  | idle
  /-- `update` has drawn its version. -/
  | updating (connections : Map ConnectionKey Pid) (pidNames : Map Pid String) (version : UInt64)
  /-- `register_process_immediate` has loaded `old_snap`. -/
  | loaded (pid : Pid) (name : String) (oldSnap : ProcessSnapshot)
  /-- It has drawn its version as well. -/
  | registering (pid : Pid) (name : String) (oldSnap : ProcessSnapshot) (version : UInt64)
  | finished

/-- The atomic steps. -/
inductive WriterOp where
  /-- `update(connections, pid_names)` begins: `version.fetch_add(1)`. -/
  | update (connections : Map ConnectionKey Pid) (pidNames : Map Pid String)
  /-- `register_process_immediate(pid, name)` begins: `get_snapshot()`. -/
  | load (pid : Pid) (name : String)
  /-- `version.fetch_add(1)` of `register_process_immediate`. -/
  | draw
  /-- `current.store(new_snapshot)`, which ends an execution. -/
  | store

/-- What a step reads or writes. -/
inductive WriterEvent where
  | drawn (version : UInt64)
  | loaded (oldSnap : ProcessSnapshot)
  | stored (newSnapshot : ProcessSnapshot)

/-- The cache, and the executions by their numbers. -/
structure Writers where
  cache : LockFreeProcessCache
  phase : Nat → Writer

namespace LockFreeProcessCache

variable (lower : String → String)

/-- `new_snapshot` of a writer that has drawn `version`. -/
def newSnapshot (c : LockFreeProcessCache) (connections : Map ConnectionKey Pid)
    (pidNames : Map Pid String) (version : UInt64) : ProcessSnapshot where
  connections := connections
  pidNames := pidNames
  tunnelApps := c.tunnelApps
  tunnelUdpPorts := computeTunnelUdpPorts connections pidNames c.tunnelApps
  version := version

/-- `version.fetch_add(1, ..)`. -/
def draw (c : LockFreeProcessCache) : LockFreeProcessCache := { c with version := c.version + 1 }

/-- `current.store(..)`. -/
def store (c : LockFreeProcessCache) (s : ProcessSnapshot) : LockFreeProcessCache :=
  { c with current := s }

/-- `new_snapshot` of `update`. -/
def updateSnapshot (c : LockFreeProcessCache) (connections : Map ConnectionKey Pid)
    (pidNames : Map Pid String) (version : UInt64) : ProcessSnapshot :=
  c.newSnapshot connections (lowerNames lower pidNames) version

/-- `new_snapshot` of `register_process_immediate`. -/
def registerSnapshot (c : LockFreeProcessCache) (pid : Pid) (name : String)
    (oldSnap : ProcessSnapshot) (version : UInt64) : ProcessSnapshot :=
  c.newSnapshot oldSnap.connections (oldSnap.pidNames.insert pid (lower name)) version

end LockFreeProcessCache

namespace Writers

/-- Execution `e` moves on, and leaves the cache as `c`. -/
def move (st : Writers) (e : Nat) (c : LockFreeProcessCache) (w : Writer) : Writers :=
  ⟨c, Function.update st.phase e w⟩

@[simp] theorem move_phase_self (st : Writers) (e : Nat) (c : LockFreeProcessCache) (w : Writer) :
    (st.move e c w).phase e = w := by
  simp [move]

@[simp] theorem move_phase_ne (st : Writers) {e e' : Nat} (h : e' ≠ e) (c : LockFreeProcessCache)
    (w : Writer) : (st.move e c w).phase e' = st.phase e' := by
  simp [move, h]

/-- A new cache, before any execution. -/
def start (lower : String → String) (tunnelApps : List String) : Writers :=
  ⟨LockFreeProcessCache.new lower tunnelApps, fun _ => .idle⟩

end Writers

/-- One atomic step of one execution. -/
inductive WriterStep (lower : String → String) :
    Writers → Nat × WriterOp → WriterEvent → Writers → Prop
  | update {st : Writers} {e : Nat} (connections : Map ConnectionKey Pid)
      (pidNames : Map Pid String) (h : st.phase e = .idle) :
      WriterStep lower st (e, .update connections pidNames) (.drawn st.cache.draw.version)
        (st.move e st.cache.draw (.updating connections pidNames st.cache.draw.version))
  | load {st : Writers} {e : Nat} (pid : Pid) (name : String) (h : st.phase e = .idle) :
      WriterStep lower st (e, .load pid name) (.loaded st.cache.current)
        (st.move e st.cache (.loaded pid name st.cache.current))
  | draw {st : Writers} {e : Nat} {pid : Pid} {name : String} {oldSnap : ProcessSnapshot}
      (h : st.phase e = .loaded pid name oldSnap) :
      WriterStep lower st (e, .draw) (.drawn st.cache.draw.version)
        (st.move e st.cache.draw (.registering pid name oldSnap st.cache.draw.version))
  | storeUpdate {st : Writers} {e : Nat} {connections : Map ConnectionKey Pid}
      {pidNames : Map Pid String} {version : UInt64}
      (h : st.phase e = .updating connections pidNames version) :
      WriterStep lower st (e, .store)
        (.stored (st.cache.updateSnapshot lower connections pidNames version))
        (st.move e (st.cache.store (st.cache.updateSnapshot lower connections pidNames version))
          .finished)
  | storeRegister {st : Writers} {e : Nat} {pid : Pid} {name : String} {oldSnap : ProcessSnapshot}
      {version : UInt64} (h : st.phase e = .registering pid name oldSnap version) :
      WriterStep lower st (e, .store)
        (.stored (st.cache.registerSnapshot lower pid name oldSnap version))
        (st.move e (st.cache.store (st.cache.registerSnapshot lower pid name oldSnap version))
          .finished)

/-- What happened in a run, in order. -/
abbrev WriterLog := List ((Nat × WriterOp) × WriterEvent)

variable {lower : String → String}

/-- **An uninterrupted `update` is the operation of the cache.** -/
theorem update_undisturbed (st : Writers) {e : Nat} (connections : Map ConnectionKey Pid)
    (pidNames : Map Pid String) (h : st.phase e = .idle) :
    ∃ es st', Run (WriterStep lower) st es st' ∧
      st'.cache = st.cache.update lower connections pidNames :=
  ⟨_, _, Run.cons (WriterStep.update connections pidNames h)
    (Run.cons (WriterStep.storeUpdate (Function.update_self e _ _)) (Run.nil _)), rfl⟩

/-- **So is an uninterrupted `register_process_immediate`.** -/
theorem register_undisturbed (st : Writers) {e : Nat} (pid : Pid) (name : String)
    (h : st.phase e = .idle) :
    ∃ es st', Run (WriterStep lower) st es st' ∧
      st'.cache = st.cache.registerProcessImmediate lower pid name :=
  ⟨_, _, Run.cons (WriterStep.load pid name h)
    (Run.cons (WriterStep.draw (Function.update_self e _ _))
      (Run.cons (WriterStep.storeRegister (Function.update_self e _ _)) (Run.nil _))), rfl⟩

/-! ## 2. What an execution has done -/

/-- The steps of one execution. -/
def ownSteps (es : WriterLog) (e : Nat) : List (WriterOp × WriterEvent) :=
  (es.filter fun x => x.1.1 = e).map fun x => (x.1.2, x.2)

/-- The steps that lead to a phase. -/
inductive Trail : Writer → List (WriterOp × WriterEvent) → Prop
  | idle : Trail .idle []
  | updating (connections : Map ConnectionKey Pid) (pidNames : Map Pid String)
      (version : UInt64) :
      Trail (.updating connections pidNames version)
        [(.update connections pidNames, .drawn version)]
  | loaded (pid : Pid) (name : String) (oldSnap : ProcessSnapshot) :
      Trail (.loaded pid name oldSnap) [(.load pid name, .loaded oldSnap)]
  | registering (pid : Pid) (name : String) (oldSnap : ProcessSnapshot) (version : UInt64) :
      Trail (.registering pid name oldSnap version)
        [(.load pid name, .loaded oldSnap), (.draw, .drawn version)]
  | updated {connections : Map ConnectionKey Pid} {pidNames : Map Pid String} {version : UInt64}
      {s : ProcessSnapshot} (hconn : s.connections = connections) (hversion : s.version = version) :
      Trail .finished [(.update connections pidNames, .drawn version), (.store, .stored s)]
  | registered {pid : Pid} {name : String} {oldSnap s : ProcessSnapshot} {version : UInt64}
      (hconn : s.connections = oldSnap.connections) (hversion : s.version = version) :
      Trail .finished
        [(.load pid name, .loaded oldSnap), (.draw, .drawn version), (.store, .stored s)]

@[simp] theorem ownSteps_nil (e : Nat) : ownSteps [] e = [] := rfl

theorem ownSteps_concat_self (es : WriterLog) (e : Nat) (op : WriterOp) (o : WriterEvent) :
    ownSteps (es ++ [((e, op), o)]) e = ownSteps es e ++ [(op, o)] := by
  simp [ownSteps]

theorem ownSteps_concat_ne (es : WriterLog) {e e' : Nat} (h : e' ≠ e) (op : WriterOp)
    (o : WriterEvent) : ownSteps (es ++ [((e', op), o)]) e = ownSteps es e := by
  simp [ownSteps, h]

theorem mem_ownSteps {es : WriterLog} {e : Nat} {op : WriterOp} {o : WriterEvent} :
    (op, o) ∈ ownSteps es e ↔ ((e, op), o) ∈ es := by
  simp only [ownSteps, List.mem_map, List.mem_filter, decide_eq_true_eq]
  constructor
  · rintro ⟨⟨⟨e', op'⟩, o'⟩, ⟨hmem, rfl⟩, heq⟩
    obtain ⟨rfl, rfl⟩ := Prod.mk.inj heq
    exact hmem
  · intro hmem
    exact ⟨((e, op), o), ⟨hmem, rfl⟩, rfl⟩

/-- An execution's step moves it along its trail. -/
theorem trail_step {st st' : Writers} {e : Nat} {op : WriterOp} {o : WriterEvent}
    {steps : List (WriterOp × WriterEvent)} (hstep : WriterStep lower st (e, op) o st')
    (h : Trail (st.phase e) steps) : Trail (st'.phase e) (steps ++ [(op, o)]) := by
  cases hstep with
  | update connections pidNames hphase =>
    rw [hphase] at h
    cases h
    simpa using Trail.updating connections pidNames _
  | load pid name hphase =>
    rw [hphase] at h
    cases h
    simpa using Trail.loaded pid name _
  | draw hphase =>
    rw [hphase] at h
    cases h
    simpa using Trail.registering _ _ _ _
  | storeUpdate hphase =>
    rw [hphase] at h
    cases h
    rw [Writers.move_phase_self]
    exact Trail.updated rfl rfl
  | storeRegister hphase =>
    rw [hphase] at h
    cases h
    rw [Writers.move_phase_self]
    exact Trail.registered rfl rfl

/-- A step leaves the other executions where they are. -/
theorem phase_other {st st' : Writers} {e e' : Nat} {op : WriterOp} {o : WriterEvent}
    (hstep : WriterStep lower st (e', op) o st') (h : e' ≠ e) : st'.phase e = st.phase e := by
  cases hstep <;> exact Writers.move_phase_ne st h.symm _ _

section Run

variable {apps : List String} {es : WriterLog} {st : Writers}

/-- **Every execution is where its steps have led it.** -/
theorem trail_run (hrun : Run (WriterStep lower) (Writers.start lower apps) es st) (e : Nat) :
    Trail (st.phase e) (ownSteps es e) := by
  refine Run.history (P := fun es st => Trail (st.phase e) (ownSteps es e)) Trail.idle ?_ hrun
  rintro es s ⟨e', op⟩ o s' - ih hstep
  by_cases h : e' = e
  · subst h
    rw [ownSteps_concat_self]
    exact trail_step hstep ih
  · rw [ownSteps_concat_ne es h, phase_other hstep h]
    exact ih

end Run

/-! ## 3. Versions are tickets -/

/-- The executions that drew a version, in that order. -/
def drawers (es : WriterLog) : List Nat :=
  es.filterMap fun x => match x.2 with
    | .drawn _ => some x.1.1
    | _ => none

/-- The executions that stored a snapshot, in that order. -/
def storers (es : WriterLog) : List Nat :=
  es.filterMap fun x => match x.2 with
    | .stored _ => some x.1.1
    | _ => none

@[simp] theorem drawers_append (es fs : WriterLog) : drawers (es ++ fs) = drawers es ++ drawers fs :=
  List.filterMap_append

@[simp] theorem storers_append (es fs : WriterLog) : storers (es ++ fs) = storers es ++ storers fs :=
  List.filterMap_append

theorem mem_drawers {es : WriterLog} {e : Nat} :
    e ∈ drawers es ↔ ∃ op version, (op, .drawn version) ∈ ownSteps es e := by
  simp only [mem_ownSteps, drawers, List.mem_filterMap]
  constructor
  · rintro ⟨⟨⟨e', op⟩, o⟩, hmem, h⟩
    cases o with
    | drawn version =>
      obtain rfl := Option.some.inj h
      exact ⟨op, version, hmem⟩
    | loaded oldSnap => exact nomatch h
    | stored newSnapshot => exact nomatch h
  · rintro ⟨op, version, hmem⟩
    exact ⟨_, hmem, rfl⟩

theorem mem_storers {es : WriterLog} {e : Nat} :
    e ∈ storers es ↔ ∃ op s, (op, .stored s) ∈ ownSteps es e := by
  simp only [mem_ownSteps, storers, List.mem_filterMap]
  constructor
  · rintro ⟨⟨⟨e', op⟩, o⟩, hmem, h⟩
    cases o with
    | stored s =>
      obtain rfl := Option.some.inj h
      exact ⟨op, s, hmem⟩
    | loaded oldSnap => exact nomatch h
    | drawn version => exact nomatch h
  · rintro ⟨op, s, hmem⟩
    exact ⟨_, hmem, rfl⟩

/-- **What a step does to the cache**: it draws a version, for the first time in its execution; or
it loads; or it stores, for the first time, a snapshot with the version that it drew. -/
theorem writerStep_cases {es : WriterLog} {st st' : Writers} {e : Nat} {op : WriterOp}
    {o : WriterEvent} (hstep : WriterStep lower st (e, op) o st')
    (htrail : Trail (st.phase e) (ownSteps es e)) :
    (o = .drawn st.cache.draw.version ∧ st'.cache = st.cache.draw ∧ e ∉ drawers es) ∨
      (o = .loaded st.cache.current ∧ st'.cache = st.cache) ∨
      ∃ s, o = .stored s ∧ st'.cache = st.cache.store s ∧ e ∉ storers es ∧
        ∃ op', (op', .drawn s.version) ∈ ownSteps es e := by
  rw [mem_drawers, mem_storers]
  cases hstep with
  | update connections pidNames hphase =>
    rw [hphase] at htrail
    generalize ownSteps es e = steps at htrail ⊢
    cases htrail
    exact Or.inl ⟨rfl, rfl, by simp⟩
  | load pid name hphase => exact Or.inr (Or.inl ⟨rfl, rfl⟩)
  | draw hphase =>
    rw [hphase] at htrail
    generalize ownSteps es e = steps at htrail ⊢
    cases htrail
    exact Or.inl ⟨rfl, rfl, by simp⟩
  | storeUpdate hphase =>
    rw [hphase] at htrail
    generalize ownSteps es e = steps at htrail ⊢
    cases htrail
    exact Or.inr (Or.inr ⟨_, rfl, rfl, by simp, _, List.mem_cons_self⟩)
  | storeRegister hphase =>
    rw [hphase] at htrail
    generalize ownSteps es e = steps at htrail ⊢
    cases htrail
    exact Or.inr (Or.inr ⟨_, rfl, rfl, by simp, _, List.mem_cons_of_mem _ List.mem_cons_self⟩)

/-- The counter, the versions drawn and the version published, as tickets. -/
structure VersionBooks (es : WriterLog) (st : Writers) : Prop where
  counter : st.cache.version = UInt64.ofNat (drawers es).length
  drawn : ∀ e op version, (op, .drawn version) ∈ ownSteps es e →
    version = UInt64.ofNat (ticket (drawers es) e)
  drawersNodup : (drawers es).Nodup
  storersNodup : (storers es).Nodup
  storersSubset : storers es ⊆ drawers es
  current : st.cache.current.version = UInt64.ofNat (lastNumber (drawers es) (storers es))

theorem mem_ownSteps_concat {es : WriterLog} {e e' : Nat} {op op' : WriterOp}
    {o o' : WriterEvent} (h : (op', o') ∈ ownSteps (es ++ [((e, op), o)]) e') :
    (op', o') ∈ ownSteps es e' ∨ (e' = e ∧ o' = o) := by
  rw [mem_ownSteps] at h
  simp only [List.mem_append, List.mem_singleton, Prod.mk.injEq] at h
  rcases h with h | ⟨⟨rfl, rfl⟩, rfl⟩
  · exact Or.inl (mem_ownSteps.mpr h)
  · exact Or.inr ⟨rfl, rfl⟩

section Books

variable {es : WriterLog} {st st' : Writers} {e : Nat} {op : WriterOp}

theorem versionBooks_drawn (h : VersionBooks es st) (hcache : st'.cache = st.cache.draw)
    (hnew : e ∉ drawers es) :
    VersionBooks (es ++ [((e, op), .drawn st.cache.draw.version)]) st' := by
  have hd : drawers (es ++ [((e, op), .drawn st.cache.draw.version)]) = drawers es ++ [e] := by
    simp [drawers]
  have hs : storers (es ++ [((e, op), .drawn st.cache.draw.version)]) = storers es := by
    simp [storers]
  have hversion : st.cache.draw.version = UInt64.ofNat ((drawers es).length + 1) := by
    simp [LockFreeProcessCache.draw, h.counter]
  constructor
  · rw [hcache, hd, hversion]
    simp
  · intro e' op' version hmem
    rw [hd]
    rcases mem_ownSteps_concat hmem with hmem | ⟨rfl, ho⟩
    · rw [ticket_append (mem_drawers.mpr ⟨_, _, hmem⟩)]
      exact h.drawn e' op' version hmem
    · obtain rfl := WriterEvent.drawn.inj ho
      rw [ticket_new hnew, hversion]
  · rw [hd]
    simpa using h.drawersNodup.concat hnew
  · rw [hs]
    exact h.storersNodup
  · rw [hd, hs]
    exact List.subset_append_of_subset_left _ h.storersSubset
  · rw [hd, hs, hcache, lastNumber_append h.storersSubset]
    exact h.current

theorem versionBooks_loaded (h : VersionBooks es st) (hcache : st'.cache = st.cache)
    {oldSnap : ProcessSnapshot} : VersionBooks (es ++ [((e, op), .loaded oldSnap)]) st' := by
  have hd : drawers (es ++ [((e, op), .loaded oldSnap)]) = drawers es := by simp [drawers]
  have hs : storers (es ++ [((e, op), .loaded oldSnap)]) = storers es := by simp [storers]
  constructor
  · rw [hcache, hd]
    exact h.counter
  · intro e' op' version hmem
    rw [hd]
    rcases mem_ownSteps_concat hmem with hmem | ⟨-, ho⟩
    · exact h.drawn e' op' version hmem
    · exact nomatch ho
  · rw [hd]
    exact h.drawersNodup
  · rw [hs]
    exact h.storersNodup
  · rw [hd, hs]
    exact h.storersSubset
  · rw [hd, hs, hcache]
    exact h.current

theorem versionBooks_stored (h : VersionBooks es st) {s : ProcessSnapshot}
    (hcache : st'.cache = st.cache.store s) (hnew : e ∉ storers es) {op' : WriterOp}
    (hdrawn : (op', .drawn s.version) ∈ ownSteps es e) :
    VersionBooks (es ++ [((e, op), .stored s)]) st' := by
  have hd : drawers (es ++ [((e, op), .stored s)]) = drawers es := by simp [drawers]
  have hs : storers (es ++ [((e, op), .stored s)]) = storers es ++ [e] := by simp [storers]
  constructor
  · rw [hcache, hd]
    exact h.counter
  · intro e' op' version hmem
    rw [hd]
    rcases mem_ownSteps_concat hmem with hmem | ⟨-, ho⟩
    · exact h.drawn e' op' version hmem
    · exact nomatch ho
  · rw [hd]
    exact h.drawersNodup
  · rw [hs]
    simpa using h.storersNodup.concat hnew
  · rw [hd, hs]
    have he : e ∈ drawers es := mem_drawers.mpr ⟨_, _, hdrawn⟩
    exact List.append_subset.mpr ⟨h.storersSubset, by simpa using he⟩
  · rw [hd, hs, hcache, lastNumber_concat]
    exact h.drawn e op' s.version hdrawn

end Books

section Run

variable {apps : List String} {es : WriterLog} {st : Writers}

/-- **The versions of a run are its tickets.** -/
theorem versionBooks_run (hrun : Run (WriterStep lower) (Writers.start lower apps) es st) :
    VersionBooks es st := by
  refine Run.history (P := VersionBooks) ?_ ?_ hrun
  · constructor
    · rfl
    · exact fun _ _ _ h => nomatch h
    · exact List.nodup_nil
    · exact List.nodup_nil
    · exact List.nil_subset _
    · rfl
  · rintro es s ⟨e, op⟩ o s' hrun ih hstep
    rcases writerStep_cases hstep (trail_run hrun e) with
      ⟨rfl, hcache, hnew⟩ | ⟨rfl, hcache⟩ | ⟨snap, rfl, hcache, hnew, op', hdrawn⟩
    · exact versionBooks_drawn ih hcache hnew
    · exact versionBooks_loaded ih hcache
    · exact versionBooks_stored ih hcache hnew hdrawn

end Run

/-! ## 4. What a run keeps -/

/-- The snapshot lists every owner that the map lists. -/
def ProcessSnapshot.Holds (s : ProcessSnapshot) (connections : Map ConnectionKey Pid) : Prop :=
  ∀ key pid, connections.lookup key = some pid → s.connections.lookup key = some pid

/-- A registration loaded `oldSnap`, then an update with `connections` was published, and then
the registration published `s`. -/
def Overlapped (es : WriterLog) (oldSnap : ProcessSnapshot) (connections : Map ConnectionKey Pid)
    (s : ProcessSnapshot) : Prop :=
  ∃ r pid name u pidNames version updated,
    ((u, .update connections pidNames), .drawn version) ∈ es ∧
      [((r, .load pid name), .loaded oldSnap), ((u, .store), .stored updated),
        ((r, .store), .stored s)].Sublist es

/-- The published version never falls. -/
def VersionKept (lower : String → String) (apps : List String) (es : WriterLog) : Prop :=
  ∀ es₁ es₂ st₁ st₂, es₁ ++ es₂ <+: es →
    Run (WriterStep lower) (Writers.start lower apps) es₁ st₁ →
      Run (WriterStep lower) st₁ es₂ st₂ → st₁.cache.current.version ≤ st₂.cache.current.version

/-- Neither the version nor an update that was published is taken back. -/
structure UpdatesKept (lower : String → String) (apps : List String) (es : WriterLog) : Prop where
  version : VersionKept lower apps es
  connections : ∀ oldSnap connections s, Overlapped es oldSnap connections s → s.Holds connections

/-- Executions store in the order in which they drew, and what is published while a registration
runs was already in the snapshot that it loaded. -/
structure InOrder (es : WriterLog) : Prop where
  stores : (storers es).Sublist (drawers es)
  loads : ∀ oldSnap connections s, Overlapped es oldSnap connections s → oldSnap.Holds connections

theorem ofNat_le_ofNat {a b : Nat} (ha : a < 2 ^ 64) (hb : b < 2 ^ 64) :
    UInt64.ofNat a ≤ UInt64.ofNat b ↔ a ≤ b := by
  rw [UInt64.le_iff_toNat_le, UInt64.toNat_ofNat_of_lt' ha, UInt64.toNat_ofNat_of_lt' hb]

/-- A registration publishes the connections that it loaded. -/
theorem stored_loaded {w : Writer} {steps : List (WriterOp × WriterEvent)} (h : Trail w steps)
    {pid : Pid} {name : String} {oldSnap s : ProcessSnapshot}
    (hload : (.load pid name, .loaded oldSnap) ∈ steps) (hstore : (.store, .stored s) ∈ steps) :
    s.connections = oldSnap.connections := by
  cases h with
  | idle => simp at hload
  | updating connections pidNames version => simp at hload
  | loaded pid' name' oldSnap' => simp at hstore
  | registering pid' name' oldSnap' version => simp at hstore
  | updated hconn hversion => simp at hload
  | registered hconn hversion =>
    simp only [List.mem_cons, Prod.mk.injEq, WriterOp.load.injEq, WriterEvent.loaded.injEq,
      WriterEvent.stored.injEq, reduceCtorEq, and_false, true_and, or_false, false_or,
      List.not_mem_nil] at hload hstore
    obtain ⟨-, rfl⟩ := hload
    rw [hstore, hconn]

section Run

variable {apps : List String} {es : WriterLog} {st : Writers}

theorem increasing_earlier {es₁ es : WriterLog} (hpre : es₁ <+: es)
    (hsub : storers es₁ ⊆ drawers es₁) (h : Increasing (drawers es) (storers es)) :
    Increasing (drawers es₁) (storers es₁) := by
  obtain ⟨more, rfl⟩ := hpre
  rw [drawers_append, storers_append] at h
  refine (List.pairwise_append.mp h).1.imp_of_mem ?_
  intro a b ha hb hab
  rwa [ticket_append (hsub ha), ticket_append (hsub hb)] at hab

theorem versionKept_of_increasing (hcount : (drawers es).length < 2 ^ 64)
    (h : Increasing (drawers es) (storers es)) : VersionKept lower apps es := by
  intro es₁ es₂ st₁ st₂ hpre hrun₁ hrun₂
  have hrun : Run (WriterStep lower) (Writers.start lower apps) (es₁ ++ es₂) st₂ :=
    run_append.mpr ⟨st₁, hrun₁, hrun₂⟩
  have hb₁ := versionBooks_run hrun₁
  have hb := versionBooks_run hrun
  have hinc := increasing_earlier hpre hb.storersSubset h
  have hlen : (drawers (es₁ ++ es₂)).length < 2 ^ 64 := by
    obtain ⟨more, rfl⟩ := hpre
    simp only [drawers_append, List.length_append] at hcount ⊢
    omega
  have hlast := lastNumber_le_length hb.storersSubset
  have hfirst := lastNumber_le_length hb₁.storersSubset
  rw [hb₁.current, hb.current]
  simp only [drawers_append, storers_append, List.length_append] at hinc hlen hlast ⊢
  rw [ofNat_le_ofNat (by omega) (by omega), ← lastNumber_append hb₁.storersSubset]
  exact lastNumber_le hinc

theorem increasing_of_versionKept
    (hrun : Run (WriterStep lower) (Writers.start lower apps) es st)
    (hcount : (drawers es).length < 2 ^ 64) (h : VersionKept lower apps es) :
    Increasing (drawers es) (storers es) := by
  refine Run.history (P := fun es _ => (drawers es).length < 2 ^ 64 → VersionKept lower apps es →
    Increasing (drawers es) (storers es)) ?_ ?_ hrun hcount h
  · exact fun _ _ => List.Pairwise.nil
  · rintro es s ⟨e, op⟩ o s' hrun ih hstep hcount hkept
    have hb := versionBooks_run hrun
    have hlen : (drawers es).length < 2 ^ 64 := by
      simp only [drawers_append, List.length_append] at hcount
      omega
    have hinc : Increasing (drawers es) (storers es) :=
      ih hlen fun es₁ es₂ st₁ st₂ hpre => hkept es₁ es₂ st₁ st₂ (hpre.trans (List.prefix_append _ _))
    rcases writerStep_cases hstep (trail_run hrun e) with
      ⟨rfl, hcache, hnew⟩ | ⟨rfl, hcache⟩ | ⟨snap, rfl, hcache, hnew, op', hdrawn⟩
    · have hs : storers [((e, op), WriterEvent.drawn s.cache.draw.version)] = [] := rfl
      rw [drawers_append, storers_append, hs, List.append_nil]
      refine hinc.imp_of_mem ?_
      intro a b ha hb' hab
      rwa [ticket_append (hb.storersSubset ha), ticket_append (hb.storersSubset hb')]
    · simpa [drawers, storers] using hinc
    · have hd : drawers [((e, op), WriterEvent.stored snap)] = [] := rfl
      have hs : storers [((e, op), WriterEvent.stored snap)] = [e] := rfl
      rw [drawers_append, storers_append, hd, hs, List.append_nil]
      refine increasing_concat hinc hb.storersSubset hnew ?_
      have hle : s.cache.current.version ≤ s'.cache.current.version :=
        hkept es _ s s' List.prefix_rfl hrun (Run.cons hstep (Run.nil _))
      have hticket := ticket_le (mem_drawers.mpr ⟨op', _, hdrawn⟩)
      have hlast := lastNumber_le_length hb.storersSubset
      rw [hcache, hb.current] at hle
      change _ ≤ snap.version at hle
      rwa [hb.drawn e op' _ hdrawn, ofNat_le_ofNat (by omega) (by omega)] at hle

/-- **When nothing is taken back.**  In a run that does not exhaust the counter, the published
version never falls and no registration takes back an update published while it ran, exactly
when the executions store in the order in which they drew, and each such update was already in
the snapshot that the registration had loaded. -/
theorem updates_kept_iff (hrun : Run (WriterStep lower) (Writers.start lower apps) es st)
    (hcount : (drawers es).length < 2 ^ 64) : UpdatesKept lower apps es ↔ InOrder es := by
  have hb := versionBooks_run hrun
  have hsub := sublist_iff_increasing hb.drawersNodup hb.storersNodup hb.storersSubset
  have hsame : ∀ oldSnap connections s, Overlapped es oldSnap connections s →
      s.connections = oldSnap.connections := by
    rintro oldSnap connections s ⟨r, pid, name, u, pidNames, version, updated, -, hsub⟩
    have hload := hsub.subset List.mem_cons_self
    have hstore : ((r, .store), .stored s) ∈ es := hsub.subset (by simp)
    exact stored_loaded (trail_run hrun r) (mem_ownSteps.mpr hload) (mem_ownSteps.mpr hstore)
  constructor
  · rintro ⟨hversion, hconn⟩
    refine ⟨hsub.mpr (increasing_of_versionKept hrun hcount hversion), ?_⟩
    intro oldSnap connections s hover key pid hkey
    rw [← hsame oldSnap connections s hover]
    exact hconn oldSnap connections s hover key pid hkey
  · rintro ⟨hstores, hloads⟩
    refine ⟨versionKept_of_increasing hcount (hsub.mp hstores), ?_⟩
    intro oldSnap connections s hover key pid hkey
    rw [hsame oldSnap connections s hover]
    exact hloads oldSnap connections s hover key pid hkey

end Run

/-- **What an update loses to a registration that overlaps it**: everything.  Whatever is
published when the registration loads is published again when it stores. -/
theorem overlapped_update (lower : String → String) (st : Writers) {r u : Nat} (hr : st.phase r = .idle)
    (hu : st.phase u = .idle) (hne : u ≠ r) (pid : Pid) (name : String)
    (connections : Map ConnectionKey Pid) (pidNames : Map Pid String) :
    ∃ es st', Run (WriterStep lower) st es st' ∧ drawers es = [u, r] ∧
      Overlapped es st.cache.current connections st'.cache.current ∧
      st'.cache.current.connections = st.cache.current.connections := by
  obtain ⟨st₁, h₁, hr₁, hu₁⟩ : ∃ st₁,
      WriterStep lower st (r, .load pid name) (.loaded st.cache.current) st₁ ∧
        st₁.phase r = .loaded pid name st.cache.current ∧ st₁.phase u = .idle :=
    ⟨_, WriterStep.load pid name hr, by simp, by simp [hne, hu]⟩
  obtain ⟨version, st₂, h₂, hr₂, hu₂⟩ : ∃ version st₂,
      WriterStep lower st₁ (u, .update connections pidNames) (.drawn version) st₂ ∧
        st₂.phase r = .loaded pid name st.cache.current ∧
        st₂.phase u = .updating connections pidNames version :=
    ⟨_, _, WriterStep.update connections pidNames hu₁, by simp [hne.symm, hr₁], by simp⟩
  obtain ⟨updated, st₃, h₃, hr₃⟩ : ∃ updated st₃,
      WriterStep lower st₂ (u, .store) (.stored updated) st₃ ∧
        st₃.phase r = .loaded pid name st.cache.current :=
    ⟨_, _, WriterStep.storeUpdate hu₂, by simp [hne.symm, hr₂]⟩
  obtain ⟨version', st₄, h₄, hr₄⟩ : ∃ version' st₄,
      WriterStep lower st₃ (r, .draw) (.drawn version') st₄ ∧
        st₄.phase r = .registering pid name st.cache.current version' :=
    ⟨_, _, WriterStep.draw hr₃, by simp⟩
  refine ⟨_, _, Run.cons h₁ (Run.cons h₂ (Run.cons h₃ (Run.cons h₄
    (Run.cons (WriterStep.storeRegister hr₄) (Run.nil _))))), rfl, ?_, rfl⟩
  refine ⟨r, pid, name, u, pidNames, version, updated, by simp, ?_⟩
  -- the three events, with the two draws between them
  exact List.Sublist.cons_cons _ (List.Sublist.cons _ (List.Sublist.cons_cons _
    (List.Sublist.cons _ (List.Sublist.refl _))))

/-- The game's socket, and its owner. -/
def gameConnections : Map ConnectionKey Pid := AList.singleton ⟨⟨192, 168, 1, 10⟩, 50000, .udp⟩ 7

def gameNames : Map Pid String := AList.singleton 7 "robloxplayerbeta.exe"

/-- **A registration takes an update back.**  It loads the empty snapshot, the refresher
publishes the game's socket, and the registration publishes the empty map again. -/
theorem update_lost :
    ∃ es st, Run (WriterStep id) (Writers.start id ["robloxplayerbeta"]) es st ∧
      (drawers es).length < 2 ^ 64 ∧ ¬ UpdatesKept id ["robloxplayerbeta"] es := by
  obtain ⟨es, st, hrun, hdrawers, hover, hsame⟩ := overlapped_update id
    (Writers.start id ["robloxplayerbeta"]) (r := 0) (u := 1) rfl rfl (by decide) 7
    "robloxplayerbeta.exe" gameConnections gameNames
  refine ⟨es, st, hrun, by simp [hdrawers], ?_⟩
  intro hkept
  have hlookup := hkept.connections _ _ _ hover ⟨⟨192, 168, 1, 10⟩, 50000, .udp⟩ 7 (by decide)
  rw [hsame] at hlookup
  exact nomatch hlookup

/-- An update alone is kept. -/
theorem lone_update_kept :
    ∃ es st, Run (WriterStep id) (Writers.start id ["robloxplayerbeta"]) es st ∧
      drawers es = [0] ∧ storers es = [0] ∧ UpdatesKept id ["robloxplayerbeta"] es := by
  have hstep : WriterStep id (Writers.start id ["robloxplayerbeta"])
      (0, .update gameConnections gameNames) _ _ := WriterStep.update _ _ rfl
  have hrun := Run.cons hstep
    (Run.cons (WriterStep.storeUpdate (Writers.move_phase_self _ 0 _ _)) (Run.nil _))
  refine ⟨_, _, hrun, rfl, rfl, (updates_kept_iff hrun (by decide)).mpr ⟨?_, ?_⟩⟩
  · exact List.Sublist.refl _
  · rintro oldSnap connections s ⟨r, pid, name, u, pidNames, version, updated, -, hsub⟩
    have hlen := hsub.length_le
    simp at hlen

end SwiftTunnel
