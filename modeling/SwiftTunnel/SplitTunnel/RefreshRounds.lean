/-
# What the refresher publishes

`interceptor.rs`, `run_cache_refresher`, in any run beside triggers and registrations.  The thread
builds its two maps while it reads; `ReadsMatch` says at each place of the loop how they stand to
what Windows has answered since the round began (`RoundReads`, which a log alone tells).

* `readsMatch_run`: at each place the maps hold just what has been read.
* `snapshot_of_round`: what a published snapshot holds.  A socket is owned by the last entry that
  lists it, of the UDP table or else of the TCP table; a name is the one that a lookup gave, or else
  that of the scan.

The second part follows one socket.  While its process keeps it and its names are those of a tunnel
app (`Steady`), each round under way has the socket as far as it has come (`RoundHolds`), and every
snapshot in the cache or on its way there lists it (`CacheHolds`).  A registration that has loaded
older maps, and stores them after the round, takes the socket back; the second clause is about rounds
that publish while no registration is under way.

* `owned_socket_recognized`: the snapshot of a round that saw the socket recognizes it; and so does
  every snapshot after it, unless a registration was under way then.

Nothing is said of sockets that change their owner while a round is under way.
-/
import SwiftTunnel.SplitTunnel.Refresher

namespace SwiftTunnel

open Rust

variable {lower : String → String} {apps : List String}

/-! ## 1. What a round publishes -/

/-- What Windows has answered since the last round of reads began. -/
structure RoundReads where
  tcp : TableReply
  udp : TableReply
  names : List (Pid × Option String)
  processes : Option (List RunningProcess)

namespace RoundReads

def note (r : RoundReads) : RefresherEvent → RoundReads
  | (.step (.tcp reply), _) => ⟨reply, .empty, [], none⟩
  | (.step (.udp reply), _) => { r with udp := reply }
  | (.step (.name pid reply), _) => { r with names := r.names ++ [(pid, reply)] }
  | (.step (.processes processes), _) => { r with processes := some processes }
  | _ => r

/-- The owner of a socket by the two tables. -/
def owner (r : RoundReads) (key : ConnectionKey) : Option Pid :=
  match key.protocol with
  | .tcp => lastOwner .tcp key r.tcp.entries
  | .udp => lastOwner .udp key r.udp.entries

/-- The name that a lookup of the process has given. -/
def lookedUp (r : RoundReads) (pid : Pid) : Option String :=
  r.names.findSome? fun n => if n.1 = pid then n.2 else none

/-- The name of a process: looked up, or else scanned. -/
def name (r : RoundReads) (tunnelApps : Finset String) (pid : Pid) : Option String :=
  (r.lookedUp pid).or (r.processes.bind (scannedName tunnelApps pid))

end RoundReads

def roundReads (es : RefresherLog) : RoundReads :=
  es.foldl RoundReads.note ⟨.empty, .empty, [], none⟩

theorem roundReads_concat (es : RefresherLog) (e : RefresherEvent) :
    roundReads (es ++ [e]) = (roundReads es).note e := by
  rw [roundReads, List.foldl_append]
  rfl

/-- The second table fills in what the first has not. -/
theorem RoundReads.owner_udp (r : RoundReads) (reply : TableReply) (key : ConnectionKey) :
    RoundReads.owner { r with udp := reply } key =
      (lastOwner .udp key reply.entries).or (lastOwner .tcp key r.tcp.entries) := by
  rw [owner]
  split
  · rename_i htcp
    have hne : key.protocol ≠ .udp := by
      rw [htcp]
      exact fun h => Protocol.noConfusion h
    rw [lastOwner_other .udp hne, Option.none_or]
  · rename_i hudp
    have hne : key.protocol ≠ .tcp := by
      rw [hudp]
      exact fun h => Protocol.noConfusion h
    rw [lastOwner_other .tcp hne, Option.or_none]

theorem RoundReads.lookedUp_concat (r : RoundReads) (pid asked : Pid) (reply : Option String) :
    RoundReads.lookedUp { r with names := r.names ++ [(asked, reply)] } pid =
      (r.lookedUp pid).or (if asked = pid then reply else none) := by
  rw [lookedUp, lookedUp, List.findSome?_append, List.findSome?_singleton]

/-- The maps of a snapshot under construction are what the round has read. -/
structure RoundRead (tunnelApps : Finset String) (r : RoundReads)
    (connections : Map ConnectionKey Pid) (pidNames : Map Pid String) : Prop where
  owner : ∀ key, connections.lookup key = r.owner key
  name : ∀ pid, pidNames.lookup pid = r.name tunnelApps pid
  asked : ∀ pid, (∃ key, r.owner key = some pid) ↔ pid ∈ r.names.map (·.1)

theorem lowerNames_lookup (pidNames : Map Pid String) (pid : Pid) :
    (LockFreeProcessCache.lowerNames lower pidNames).lookup pid = (pidNames.lookup pid).map lower :=
  List.dlookup_map₂ (f := fun _ => lower) pid

theorem mem_values {connections : Map ConnectionKey Pid} {pid : Pid} :
    pid ∈ connections.entries.map (·.2) ↔ ∃ key, connections.lookup key = some pid := by
  rw [List.mem_map]
  constructor
  · rintro ⟨⟨key, _⟩, hmem, rfl⟩
    exact ⟨key, AList.mem_lookup_iff.mpr hmem⟩
  · rintro ⟨key, hlookup⟩
    exact ⟨⟨key, pid⟩, AList.mem_lookup_iff.mp hlookup, rfl⟩

theorem RoundReads.asked_of_lookedUp {r : RoundReads} {pid : Pid} {name : String}
    (h : r.lookedUp pid = some name) : pid ∈ r.names.map (·.1) := by
  obtain ⟨n, hmem, hn⟩ := List.exists_of_findSome?_eq_some h
  split at hn
  · rename_i hpid
    exact List.mem_map.mpr ⟨n, hmem, hpid⟩
  · cases hn

/-- The last round that an event list has finished reading, where the thread is. -/
def ReadsMatch (lower : String → String) (apps : List String) (es : RefresherLog)
    (st : CacheRefresher) : Prop :=
  let r := roundReads es
  match st.pc with
  | .readUdp connections =>
    r.udp = .empty ∧ r.names = [] ∧ r.processes = none ∧
      ∀ key, connections.lookup key = lastOwner .tcp key r.tcp.entries
  | .naming connections pending pidNames =>
    r.processes = none ∧ (∀ key, connections.lookup key = r.owner key) ∧
      (∀ pid, pidNames.lookup pid = r.lookedUp pid) ∧
      ∀ pid, (∃ key, r.owner key = some pid) ↔ pid ∈ pending ∨ pid ∈ r.names.map (·.1)
  | .updating connections pidNames =>
    RoundRead (LockFreeProcessCache.appSet lower apps) r connections pidNames ∧
      (r.processes.isSome ↔ st.refreshCount % 10 = 0)
  | .storing => ∃ connections pidNames version,
    st.writers.phase (2 * st.refreshCount) = .updating connections pidNames version ∧
    RoundRead (LockFreeProcessCache.appSet lower apps) r connections pidNames ∧
      (r.processes.isSome ↔ st.refreshCount % 10 = 0)
  | _ => True

theorem writerStep_tunnelApps {w w' : Writers} {i : Nat × WriterOp} {o : WriterEvent}
    (h : WriterStep lower w i o w') : w'.cache.tunnelApps = w.cache.tunnelApps := by
  cases h <;> rfl

theorem refresherStep_tunnelApps {st st' : CacheRefresher} {a : RefresherAction}
    {o : Option WriterEvent} (h : RefresherStep lower st a o st') :
    st'.writers.cache.tunnelApps = st.writers.cache.tunnelApps := by
  cases h with
  | register _ _ h | draw _ h | store _ h => exact writerStep_tunnelApps h
  | _ => rfl

/-- The apps are those that the cache began with. -/
theorem refresher_tunnelApps {es : RefresherLog} {st : CacheRefresher}
    (hrun : Run (RefresherStep lower) (.start lower apps) es st) :
    st.writers.cache.tunnelApps = LockFreeProcessCache.appSet lower apps :=
  Run.preserves (P := fun st => st.writers.cache.tunnelApps = LockFreeProcessCache.appSet lower apps)
    (fun _ _ _ _ h hs => (refresherStep_tunnelApps h).trans hs) hrun rfl

theorem store_stored {w w' : Writers} {e : Nat} {o : WriterEvent}
    (h : WriterStep lower w (e, .store) o w') :
    ∃ s, o = .stored s ∧ w'.cache.current = s := by
  cases h <;> exact ⟨_, rfl, rfl⟩

theorem store_updating {w w' : Writers} {e : Nat} {connections : Map ConnectionKey Pid}
    {pidNames : Map Pid String} {version : UInt64} {o : WriterEvent}
    (hphase : w.phase e = .updating connections pidNames version)
    (h : WriterStep lower w (e, .store) o w') :
    o = .stored (w.cache.updateSnapshot lower connections pidNames version) := by
  cases h with
  | storeUpdate hphase' =>
    obtain ⟨rfl, rfl, rfl⟩ := Writer.updating.inj (hphase.symm.trans hphase')
    rfl
  | storeRegister hphase' => exact Writer.noConfusion (hphase.symm.trans hphase')

/-- A round is counted when it is published. -/
theorem refresher_count {es : RefresherLog} {st : CacheRefresher}
    (hrun : Run (RefresherStep lower) (.start lower apps) es st) :
    st.refreshCount = es.countP RefresherEvent.publishes := by
  refine Run.history (P := fun es st => st.refreshCount = es.countP RefresherEvent.publishes) rfl
    (fun es s a o s' _ hs h => ?_) hrun
  rw [List.countP_append]
  cases h with
  | draw _ h =>
    obtain ⟨rfl, rfl⟩ := update_drawn h
    exact hs
  | store _ h =>
    obtain ⟨_, rfl, -⟩ := store_stored h
    exact congrArg (· + 1) hs
  | _ => exact hs

/-- **The thread builds what it has read.** -/
theorem readsMatch_step {es : RefresherLog} {st st' : CacheRefresher} {a : RefresherAction}
    {o : Option WriterEvent}
    (happs : st.writers.cache.tunnelApps = LockFreeProcessCache.appSet lower apps)
    (hmatch : ReadsMatch lower apps es st) (h : RefresherStep lower st a o st') :
    ReadsMatch lower apps (es ++ [(a, o)]) st' := by
  unfold ReadsMatch at hmatch ⊢
  rw [roundReads_concat]
  cases h with
  | triggerRefresh | stop => exact hmatch
  | @register e op o w hodd hop h =>
    -- a registration leaves the execution of the update alone
    have hne : e ≠ 2 * st.refreshCount := by omega
    rw [← phase_other h hne] at hmatch
    exact hmatch
  | topStopped | topFirst | topWait | pollFull | pollUp | pollDown | checkStopped | check | sleep =>
    trivial
  | readTcp reply hpc =>
    refine ⟨rfl, rfl, rfl, fun key => ?_⟩
    rw [insertEntries_lookup, AList.lookup_empty, Option.or_none]
    rfl
  | @readUdp connections reply hpc =>
    rw [hpc] at hmatch
    obtain ⟨hudp, hnames, hprocesses, hlookup⟩ := hmatch
    have howner : ∀ key, (insertEntries .udp connections reply.entries).lookup key =
        RoundReads.owner { roundReads es with udp := reply } key := by
      intro key
      rw [insertEntries_lookup, hlookup key, RoundReads.owner_udp]
    refine ⟨hprocesses, howner, fun pid => ?_, fun pid => ?_⟩
    · rw [AList.lookup_empty]
      exact (congrArg (List.findSome? _) hnames).symm
    · rw [mem_values]
      simp only [howner, RoundReads.note, hnames, List.map_nil, List.not_mem_nil, or_false]
  | @named connections pid pending pidNames hpc hnamed =>
    rw [hpc] at hmatch
    obtain ⟨hprocesses, howner, hnames, hasked⟩ := hmatch
    refine ⟨hprocesses, howner, hnames, fun p => ?_⟩
    obtain ⟨name, hname⟩ := Option.isSome_iff_exists.mp (AList.lookup_isSome.mpr hnamed)
    have hpid : pid ∈ (roundReads es).names.map (·.1) :=
      RoundReads.asked_of_lookedUp ((hnames pid).symm.trans hname)
    refine (hasked p).trans ?_
    rw [List.mem_cons, or_assoc]
    exact or_iff_right_of_imp fun hp => Or.inr (hp ▸ hpid)
  | @lookupFailed connections pid pending pidNames hpc hnamed =>
    rw [hpc] at hmatch
    obtain ⟨hprocesses, howner, hnames, hasked⟩ := hmatch
    refine ⟨hprocesses, howner, fun p => ?_, fun p => ?_⟩
    · rw [hnames p, RoundReads.note, RoundReads.lookedUp_concat, ite_self, Option.or_none]
    · rw [RoundReads.note, List.map_append, List.mem_append]
      exact (hasked p).trans (by simp only [List.mem_cons, List.map_cons, List.map_nil,
        List.not_mem_nil, or_false]; tauto)
  | @lookup connections pid pending pidNames name hpc hnamed =>
    rw [hpc] at hmatch
    obtain ⟨hprocesses, howner, hnames, hasked⟩ := hmatch
    refine ⟨hprocesses, howner, fun p => ?_, fun p => ?_⟩
    · rw [RoundReads.note, RoundReads.lookedUp_concat, ← hnames p]
      by_cases hp : pid = p
      · subst hp
        rw [AList.lookup_insert, AList.lookup_eq_none.mpr hnamed, if_pos rfl, Option.none_or]
      · rw [AList.lookup_insert_ne (Ne.symm hp), if_neg hp, Option.or_none]
    · rw [RoundReads.note, List.map_append, List.mem_append]
      exact (hasked p).trans (by simp only [List.mem_cons, List.map_cons, List.map_nil,
        List.not_mem_nil, or_false]; tauto)
  | @scan connections pidNames processes hpc htenth =>
    rw [hpc] at hmatch
    obtain ⟨-, howner, hnames, hasked⟩ := hmatch
    refine ⟨⟨howner, fun pid => ?_, fun pid => ?_⟩, iff_of_true rfl htenth⟩
    · rw [scanProcesses_lookup, hnames pid, happs]
      rfl
    · exact (hasked pid).trans (or_iff_right (List.not_mem_nil))
  | @noScan connections pidNames hpc htenth =>
    rw [hpc] at hmatch
    obtain ⟨hprocesses, howner, hnames, hasked⟩ := hmatch
    refine ⟨⟨howner, fun pid => ?_, fun pid => ?_⟩, ?_⟩
    · change _ = (roundReads es).name _ pid
      rw [hnames pid, RoundReads.name, hprocesses, Option.bind_none, Option.or_none]
    · exact (hasked pid).trans (or_iff_right (List.not_mem_nil))
    · change (roundReads es).processes.isSome = true ↔ _
      rw [hprocesses]
      exact iff_of_false Bool.false_ne_true htenth
  | @draw connections pidNames o w hpc h =>
    rw [hpc] at hmatch
    obtain ⟨-, rfl⟩ := update_drawn h
    exact ⟨connections, pidNames, _, Writers.move_phase_self _ _ _ _, hmatch⟩
  | store hpc h => trivial

theorem readsMatch_run {es : RefresherLog} {st : CacheRefresher}
    (hrun : Run (RefresherStep lower) (.start lower apps) es st) : ReadsMatch lower apps es st := by
  refine Run.history (P := ReadsMatch lower apps) ?_
    (fun _ _ _ _ _ hbefore hmatch h => readsMatch_step (refresher_tunnelApps hbefore) hmatch h) hrun
  trivial

/-- **What a published snapshot holds.**  Whatever else runs beside it, the refresher publishes the
tables as it has read them since the snapshot before: for each socket the owner in the last entry
that lists it, and no socket when a table could not be read.  It has asked for the name of every
owner, and of no other process; a process has the name that the first successful lookup gave, and in
each tenth snapshot, and only there, a process without one has that of a scan for tunnel apps. -/
theorem snapshot_of_round {es : RefresherLog} {reply : OsReply} {s : ProcessSnapshot}
    {st : CacheRefresher}
    (hrun : Run (RefresherStep lower) (.start lower apps)
      (es ++ [(.step reply, some (.stored s))]) st) :
    let tunnelApps := LockFreeProcessCache.appSet lower apps
    let r := roundReads es
    (∀ key, s.connections.lookup key = r.owner key) ∧
      (∀ pid, s.pidNames.lookup pid = (r.name tunnelApps pid).map lower) ∧
      s.tunnelApps = tunnelApps ∧
      s.tunnelUdpPorts = computeTunnelUdpPorts s.connections s.pidNames tunnelApps ∧
      (∀ pid, pid ∈ r.names.map (·.1) ↔ ∃ key, r.owner key = some pid) ∧
      (r.processes.isSome ↔ es.countP RefresherEvent.publishes % 10 = 0) := by
  obtain ⟨st₁, hbefore, hstep⟩ := run_concat_iff.mp hrun
  have happs := refresher_tunnelApps hbefore
  have hcount := refresher_count hbefore
  have hmatch := readsMatch_run hbefore
  cases hstep with
  | draw hpc h =>
    obtain ⟨hdrawn, -⟩ := update_drawn h
    cases hdrawn
  | store hpc h =>
    rw [ReadsMatch, hpc] at hmatch
    obtain ⟨connections, pidNames, version, hphase, hread, htenth⟩ := hmatch
    obtain rfl := WriterEvent.stored.inj (store_updating hphase h)
    refine ⟨hread.owner, fun pid => ?_, happs, ?_, fun pid => (hread.asked pid).symm, hcount ▸ htenth⟩
    · rw [← hread.name pid]
      exact lowerNames_lookup pidNames pid
    · exact happs ▸ rfl

/-- An entry for UDP port 50000 of 192.168.1.10. -/
def gameEntry : OwnerRow := ⟨0x0A01A8C0, 0x50C3, 7⟩

example : gameEntry.key .udp = ⟨⟨192, 168, 1, 10⟩, 50000, .udp⟩ := by decide

/-- A first round that finds it. -/
theorem game_published :
    ∃ (es : RefresherLog) (s : ProcessSnapshot) (st : CacheRefresher),
      Run (RefresherStep toAsciiLowercase) (.start toAsciiLowercase ["RobloxPlayerBeta.exe"])
        (es ++ [(.step .nothing, some (.stored s))]) st ∧
      s.connections.lookup ⟨⟨192, 168, 1, 10⟩, 50000, .udp⟩ = some 7 ∧
      s.pidNames.lookup 7 = some "robloxplayerbeta.exe" := by
  have hround : Run (RefresherStep toAsciiLowercase)
      (.start toAsciiLowercase ["RobloxPlayerBeta.exe"]) _ _ :=
    Run.cons (.topFirst rfl rfl rfl) <| Run.cons (.readTcp .empty rfl) <|
    Run.cons (.readUdp (.table 1 [gameEntry]) rfl) <|
    Run.cons (.lookup "RobloxPlayerBeta.exe" rfl (AList.notMem_empty _)) <|
    Run.cons (.scan [] rfl rfl) <| Run.cons (.draw rfl (.update _ _ rfl)) (Run.nil _)
  have hrun := run_concat_iff.mpr ⟨_, hround, .store rfl (.storeUpdate rfl)⟩
  obtain ⟨howner, hname, -⟩ := snapshot_of_round hrun
  refine ⟨_, _, _, hrun, (howner _).trans ?_, (hname 7).trans ?_⟩ <;> decide +kernel

/-! ## 2. A socket of a tunnel app -/

/-- The name of a tunnel app, as Windows gives it. -/
def TunnelName (lower : String → String) (apps : List String) (name : String) : Prop :=
  nameIsTunnel (LockFreeProcessCache.appSet lower apps) (lower name) = true

instance (lower : String → String) (apps : List String) (name : String) :
    Decidable (TunnelName lower apps name) :=
  inferInstanceAs (Decidable (_ = true))

/-- The snapshot lists the socket with its owner, and the owner as a tunnel app. -/
structure Recognized (lower : String → String) (apps : List String) (key : ConnectionKey) (pid : Pid)
    (s : ProcessSnapshot) : Prop where
  owner : s.connections.lookup key = some pid
  name : ∃ name, s.pidNames.lookup pid = some (lower name) ∧ TunnelName lower apps name
  apps : s.tunnelApps = LockFreeProcessCache.appSet lower apps

/-- What happens while the process keeps its socket: each table lists it, each lookup gives the
name, and the name of a registration of the process is one of a tunnel app as well. -/
def Steady (lower : String → String) (apps : List String) (key : ConnectionKey) (pid : Pid) :
    RefresherAction → Prop
  | .step (.tcp reply) => key.protocol = .tcp → lastOwner .tcp key reply.entries = some pid
  | .step (.udp reply) => key.protocol = .udp → lastOwner .udp key reply.entries = some pid
  | .step (.name asked reply) => asked = pid → ∃ name, reply = some name ∧ TunnelName lower apps name
  | .register _ (.load registered name) => registered = pid → TunnelName lower apps name
  | _ => True

section Recognized

variable {key : ConnectionKey} {pid : Pid}

/-- **All likely game traffic of a recognized socket goes to the relay**, wherever it goes. -/
theorem Recognized.shouldTunnelV3 {s : ProcessSnapshot} (h : Recognized lower apps key pid s)
    (dstIp : Ipv4Addr) (dstPort : UInt16) (api : Bool) :
    s.shouldTunnelV3 key.localIp key.localPort key.protocol dstIp dstPort api =
      isLikelyGameTraffic dstPort key.protocol api := by
  have howner : s.isTunnelConnection key.localIp key.localPort key.protocol = true := by
    refine (s.isTunnelConnection_iff _ _ _).mpr ⟨pid, ?_, ?_⟩
    · rw [ProcessSnapshot.ownerPid, h.owner, Option.some_or]
    · obtain ⟨name, hname, htunnel⟩ := h.name
      rw [ProcessSnapshot.isTunnelPid, pidIsTunnel_eq, hname, h.apps]
      exact htunnel
  rw [ProcessSnapshot.shouldTunnelV3, if_pos howner]

/-- The maps that an update publishes. -/
def OwnerNamed (lower : String → String) (apps : List String) (key : ConnectionKey) (pid : Pid)
    (connections : Map ConnectionKey Pid) (pidNames : Map Pid String) : Prop :=
  connections.lookup key = some pid ∧
    ∃ name, pidNames.lookup pid = some name ∧ TunnelName lower apps name

/-- The round under way has the socket, as far as it has come. -/
def RefresherAt.HasSocket (lower : String → String) (apps : List String) (key : ConnectionKey)
    (pid : Pid) : RefresherAt → Prop
  | .readUdp connections => key.protocol = .tcp → connections.lookup key = some pid
  | .naming connections pending pidNames =>
    connections.lookup key = some pid ∧ (pid ∈ pending ∨ pid ∈ pidNames) ∧
      ∀ name, pidNames.lookup pid = some name → TunnelName lower apps name
  | .updating connections pidNames => OwnerNamed lower apps key pid connections pidNames
  | _ => True

/-- So has an update under way. -/
def Writer.UpdatesSocket (lower : String → String) (apps : List String) (key : ConnectionKey)
    (pid : Pid) : Writer → Prop
  | .updating connections pidNames _ => OwnerNamed lower apps key pid connections pidNames
  | _ => True

/-- And a registration under way. -/
def Writer.LoadedSocket (lower : String → String) (apps : List String) (key : ConnectionKey)
    (pid : Pid) : Writer → Prop
  | .loaded registered name oldSnap | .registering registered name oldSnap _ =>
    Recognized lower apps key pid oldSnap ∧ (registered = pid → TunnelName lower apps name)
  | _ => True

structure RoundHolds (lower : String → String) (apps : List String) (key : ConnectionKey) (pid : Pid)
    (st : CacheRefresher) : Prop where
  pc : st.pc.HasSocket lower apps key pid
  update : ∀ e, (st.writers.phase e).UpdatesSocket lower apps key pid

structure CacheHolds (lower : String → String) (apps : List String) (key : ConnectionKey) (pid : Pid)
    (st : CacheRefresher) : Prop where
  current : Recognized lower apps key pid st.writers.cache.current
  registration : ∀ e, (st.writers.phase e).LoadedSocket lower apps key pid

/-- A property of executions survives a step that gives it to the execution that moves. -/
theorem writerStep_forall {P : Writer → Prop} {w w' : Writers} {e : Nat} {op : WriterOp}
    {o : WriterEvent} (h : WriterStep lower w (e, op) o w') (hall : ∀ e, P (w.phase e))
    (hmoved : P (w'.phase e)) (e' : Nat) : P (w'.phase e') := by
  by_cases he : e' = e
  · exact he ▸ hmoved
  · rw [phase_other h (Ne.symm he)]
    exact hall e'

theorem OwnerNamed.recognized {w : Writers} {connections : Map ConnectionKey Pid}
    {pidNames : Map Pid String} {version : UInt64}
    (happs : w.cache.tunnelApps = LockFreeProcessCache.appSet lower apps)
    (h : OwnerNamed lower apps key pid connections pidNames) :
    Recognized lower apps key pid
      (w.cache.updateSnapshot lower connections pidNames version) := by
  obtain ⟨howner, name, hname, htunnel⟩ := h
  refine ⟨howner, ⟨name, ?_, htunnel⟩, happs⟩
  exact (lowerNames_lookup pidNames pid).trans (congrArg (Option.map lower) hname)

theorem Recognized.registered {w : Writers} {s : ProcessSnapshot} {registered : Pid} {name : String}
    {version : UInt64} (happs : w.cache.tunnelApps = LockFreeProcessCache.appSet lower apps)
    (h : Recognized lower apps key pid s) (hname : registered = pid → TunnelName lower apps name) :
    Recognized lower apps key pid (w.cache.registerSnapshot lower registered name s version) := by
  refine ⟨h.owner, ?_, happs⟩
  by_cases hpid : registered = pid
  · subst hpid
    exact ⟨name, AList.lookup_insert _, hname rfl⟩
  · obtain ⟨old, hold, htunnel⟩ := h.name
    exact ⟨old, (AList.lookup_insert_ne (Ne.symm hpid)).trans hold, htunnel⟩

theorem roundHolds_step {st st' : CacheRefresher} {a : RefresherAction} {o : Option WriterEvent}
    (hround : RoundHolds lower apps key pid st) (hsteady : Steady lower apps key pid a)
    (h : RefresherStep lower st a o st') : RoundHolds lower apps key pid st' := by
  obtain ⟨hpc', hupdate⟩ := hround
  cases h with
  | triggerRefresh | stop => exact ⟨hpc', hupdate⟩
  | register hodd hop h =>
    refine ⟨hpc', writerStep_forall h hupdate ?_⟩
    cases h with
    | update => cases hop
    | _ =>
      rw [Writers.move_phase_self]
      trivial
  | topStopped | topFirst | topWait | pollFull | pollUp | pollDown | checkStopped | check | sleep =>
    exact ⟨trivial, hupdate⟩
  | readTcp reply hpc =>
    refine ⟨fun htcp => ?_, hupdate⟩
    rw [insertEntries_lookup, hsteady htcp, Option.some_or]
  | @readUdp connections reply hpc =>
    rw [hpc] at hpc'
    have howner : (insertEntries .udp connections reply.entries).lookup key = some pid := by
      rw [insertEntries_lookup]
      cases hprotocol : key.protocol with
      | tcp =>
        have hne : key.protocol ≠ .udp := by
          rw [hprotocol]
          exact fun h => Protocol.noConfusion h
        rw [lastOwner_other .udp hne, Option.none_or, hpc' hprotocol]
      | udp => rw [hsteady hprotocol, Option.some_or]
    refine ⟨⟨howner, Or.inl (mem_values.mpr ⟨key, howner⟩), fun name hname => ?_⟩, hupdate⟩
    rw [AList.lookup_empty] at hname
    cases hname
  | @named connections asked pending pidNames hpc hnamed =>
    rw [hpc] at hpc'
    obtain ⟨howner, hknown, hname⟩ := hpc'
    refine ⟨⟨howner, ?_, hname⟩, hupdate⟩
    rw [List.mem_cons, or_assoc] at hknown
    exact hknown.elim (fun heq => Or.inr (heq ▸ hnamed)) id
  | @lookupFailed connections asked pending pidNames hpc hnamed =>
    rw [hpc] at hpc'
    obtain ⟨howner, hknown, hname⟩ := hpc'
    refine ⟨⟨howner, ?_, hname⟩, hupdate⟩
    rw [List.mem_cons, or_assoc] at hknown
    refine hknown.elim (fun heq => ?_) id
    obtain ⟨_, hnone, -⟩ := hsteady heq.symm
    cases hnone
  | @lookup connections asked pending pidNames name hpc hnamed =>
    rw [hpc] at hpc'
    obtain ⟨howner, hknown, hname⟩ := hpc'
    rw [List.mem_cons, or_assoc] at hknown
    refine ⟨⟨howner, ?_, fun name' hname' => ?_⟩, hupdate⟩
    · rw [AList.mem_insert]
      tauto
    · by_cases hasked : asked = pid
      · subst hasked
        obtain ⟨_, hsome, htunnel⟩ := hsteady rfl
        rw [AList.lookup_insert] at hname'
        obtain rfl := Option.some.inj hname'
        exact Option.some.inj hsome ▸ htunnel
      · exact hname name' ((AList.lookup_insert_ne (Ne.symm hasked)).symm.trans hname')
  | @scan connections pidNames processes hpc htenth =>
    rw [hpc] at hpc'
    obtain ⟨howner, hknown, hname⟩ := hpc'
    obtain ⟨name, hlookup⟩ := Option.isSome_iff_exists.mp
      (AList.lookup_isSome.mpr (hknown.resolve_left List.not_mem_nil))
    refine ⟨⟨howner, name, ?_, hname name hlookup⟩, hupdate⟩
    rw [scanProcesses_lookup, hlookup, Option.some_or]
  | @noScan connections pidNames hpc htenth =>
    rw [hpc] at hpc'
    obtain ⟨howner, hknown, hname⟩ := hpc'
    obtain ⟨name, hlookup⟩ := Option.isSome_iff_exists.mp
      (AList.lookup_isSome.mpr (hknown.resolve_left List.not_mem_nil))
    exact ⟨⟨howner, name, hlookup, hname name hlookup⟩, hupdate⟩
  | draw hpc h =>
    rw [hpc] at hpc'
    refine ⟨trivial, writerStep_forall h hupdate ?_⟩
    obtain ⟨-, rfl⟩ := update_drawn h
    rw [Writers.move_phase_self]
    exact hpc'
  | store hpc h =>
    refine ⟨trivial, writerStep_forall h hupdate ?_⟩
    cases h with
    | _ =>
      rw [Writers.move_phase_self]
      trivial

theorem cacheHolds_writerStep {st : CacheRefresher} {e : Nat} {op : WriterOp} {o : WriterEvent}
    {w : Writers} (happs : st.writers.cache.tunnelApps = LockFreeProcessCache.appSet lower apps)
    (hround : RoundHolds lower apps key pid st) (hcache : CacheHolds lower apps key pid st)
    (hload : ∀ registered name, op = .load registered name → registered = pid →
      TunnelName lower apps name) (h : WriterStep lower st.writers (e, op) o w) :
    Recognized lower apps key pid w.cache.current ∧
      ∀ e, (w.phase e).LoadedSocket lower apps key pid := by
  obtain ⟨hcurrent, hregistration⟩ := hcache
  have hphase := hregistration e
  have hupdate := hround.update e
  refine ⟨?_, writerStep_forall h hregistration ?_⟩
  · cases h with
    | update | load | draw => exact hcurrent
    | storeUpdate hat =>
      rw [hat] at hupdate
      exact hupdate.recognized happs
    | storeRegister hat =>
      rw [hat] at hphase
      exact hphase.1.registered happs hphase.2
  · cases h with
    | load registered name =>
      rw [Writers.move_phase_self]
      exact ⟨hcurrent, hload registered name rfl⟩
    | draw hat =>
      rw [hat] at hphase
      rw [Writers.move_phase_self]
      exact hphase
    | _ =>
      rw [Writers.move_phase_self]
      trivial

theorem cacheHolds_step {st st' : CacheRefresher} {a : RefresherAction} {o : Option WriterEvent}
    (happs : st.writers.cache.tunnelApps = LockFreeProcessCache.appSet lower apps)
    (hround : RoundHolds lower apps key pid st) (hcache : CacheHolds lower apps key pid st)
    (hsteady : Steady lower apps key pid a) (h : RefresherStep lower st a o st') :
    CacheHolds lower apps key pid st' := by
  cases h with
  | register hodd hop h =>
    obtain ⟨hcurrent, hregistration⟩ := cacheHolds_writerStep happs hround hcache
      (fun registered name hop' => by subst hop'; exact hsteady) h
    exact ⟨hcurrent, hregistration⟩
  | draw hpc h | store hpc h =>
    obtain ⟨hcurrent, hregistration⟩ := cacheHolds_writerStep happs hround hcache
      (fun registered name hop' => WriterOp.noConfusion hop') h
    exact ⟨hcurrent, hregistration⟩
  | _ => exact ⟨hcache.current, hcache.registration⟩

/-- Only the refresher updates, and only where it stores. -/
theorem updating_storing {es : RefresherLog} {st : CacheRefresher}
    (hrun : Run (RefresherStep lower) (.start lower apps) es st) :
    ∀ e connections pidNames version,
      st.writers.phase e = .updating connections pidNames version →
        st.pc = .storing ∧ e = 2 * st.refreshCount := by
  refine Run.preserves (P := fun st => ∀ e connections pidNames version,
    st.writers.phase e = .updating connections pidNames version →
      st.pc = .storing ∧ e = 2 * st.refreshCount) (fun s a o s' h hs => ?_) hrun
      (fun _ _ _ _ h => Writer.noConfusion h)
  intro e connections pidNames version he
  cases h with
  | triggerRefresh | stop => exact hs e connections pidNames version he
  | @register e' op _ w hodd hop h =>
    by_cases hne : e' = e
    · subst hne
      cases h with
      | update => cases hop
      | _ =>
        rw [Writers.move_phase_self] at he
        cases he
    · rw [phase_other h hne] at he
      exact hs e connections pidNames version he
  | draw hpc h =>
    by_cases hne : 2 * s.refreshCount = e
    · exact ⟨rfl, hne.symm⟩
    · rw [phase_other h hne] at he
      have hstoring := (hs e connections pidNames version he).1
      rw [hpc] at hstoring
      cases hstoring
  | store hpc h =>
    exfalso
    by_cases hne : 2 * s.refreshCount = e
    · subst hne
      cases h with
      | _ =>
        rw [Writers.move_phase_self] at he
        cases he
    · rw [phase_other h hne] at he
      exact hne (hs e connections pidNames version he).2.symm
  | topStopped hpc | topFirst hpc | topWait hpc | pollFull hpc | pollUp hpc | pollDown hpc
  | checkStopped hpc | check hpc | sleep hpc | readTcp _ hpc | readUdp _ hpc | named hpc
  | lookupFailed hpc | lookup _ hpc | scan _ hpc | noScan hpc =>
    have hstoring := (hs e connections pidNames version he).1
    rw [hpc] at hstoring
    cases hstoring

variable (key pid) in
/-- **A recognized socket stays recognized.**  From a read of the tables on, let every table list a
socket of one process, every lookup of the process give the name of a tunnel app, and every
registration of the process such a name.  Then the snapshot that this round publishes recognizes the
socket; and if no registration is under way at that time, so does the cache from then on, whatever
is registered later, and all likely game traffic of the socket goes to the relay. -/
theorem owned_socket_recognized {es mid rest : RefresherLog} {st₁ st₃ st₄ : CacheRefresher}
    {tcp : TableReply} {reply : OsReply} {s : ProcessSnapshot}
    (hbefore : Run (RefresherStep lower) (.start lower apps) es st₁)
    (hround : Run (RefresherStep lower) st₁
      ((.step (.tcp tcp), none) :: mid ++ [(.step reply, some (.stored s))]) st₃)
    (hrest : Run (RefresherStep lower) st₃ rest st₄)
    (hsteady : ∀ e ∈ (.step (.tcp tcp), none) :: mid ++ rest, Steady lower apps key pid e.1) :
    Recognized lower apps key pid s ∧
      ((∀ e, st₃.writers.phase e = .idle ∨ st₃.writers.phase e = .finished) →
        Recognized lower apps key pid st₄.writers.cache.current ∧
        ∀ dstIp dstPort api, st₄.writers.cache.current.shouldTunnelV3 key.localIp key.localPort
          key.protocol dstIp dstPort api = isLikelyGameTraffic dstPort key.protocol api) := by
  obtain ⟨st₂, hround, hpublished⟩ := run_concat_iff.mp hround
  have hsteadyRound : ∀ e ∈ (RefresherAction.step (.tcp tcp), (none : Option WriterEvent)) :: mid,
      Steady lower apps key pid e.1 := fun e he => hsteady e (List.mem_append_left _ he)
  -- before the read of the tables nothing is known of the round
  have hstart : RoundHolds lower apps key pid st₁ := by
    obtain ⟨s₁, hread, -⟩ := run_cons_iff.mp hround
    cases hread with
    | readTcp _ hpc =>
      refine ⟨by rw [hpc]; trivial, fun e => ?_⟩
      cases hphase : st₁.writers.phase e with
      | updating connections pidNames version =>
        have hstoring := (updating_storing hbefore e connections pidNames version hphase).1
        rw [hpc] at hstoring
        cases hstoring
      | _ => trivial
  have hround₂ : RoundHolds lower apps key pid st₂ :=
    hround.preserves_on (fun _ _ _ _ he h hs => roundHolds_step hs he h) hsteadyRound hstart
  have hbefore₂ := run_append.mpr ⟨st₁, hbefore, hround⟩
  have happs₂ := refresher_tunnelApps hbefore₂
  have hmatch := readsMatch_run hbefore₂
  have happs₃ := (refresherStep_tunnelApps hpublished).trans happs₂
  have hpublish : Recognized lower apps key pid s ∧ RoundHolds lower apps key pid st₃ ∧
      st₃.writers.cache.current = s := by
    cases hpublished with
    | draw hpc h =>
      obtain ⟨hdrawn, -⟩ := update_drawn h
      cases hdrawn
    | store hpc h =>
      rw [ReadsMatch, hpc] at hmatch
      obtain ⟨connections, pidNames, version, hphase, -⟩ := hmatch
      obtain ⟨_, hs, hcurrent⟩ := store_stored h
      have hupdate := hround₂.update (2 * st₂.refreshCount)
      rw [hphase] at hupdate
      refine ⟨?_, roundHolds_step (a := .step .nothing) hround₂ trivial (.store hpc h),
        hcurrent.trans (WriterEvent.stored.inj hs).symm⟩
      rw [WriterEvent.stored.inj (store_updating hphase h)]
      exact hupdate.recognized happs₂
  obtain ⟨hs, hround₃, hcurrent⟩ := hpublish
  refine ⟨hs, fun halone => ?_⟩
  have hcache₃ : CacheHolds lower apps key pid st₃ := by
    refine ⟨hcurrent ▸ hs, fun e => ?_⟩
    rcases halone e with h | h <;> rw [h] <;> trivial
  have hrest₄ := hrest.preserves_on
    (P := fun st => st.writers.cache.tunnelApps = LockFreeProcessCache.appSet lower apps ∧
      RoundHolds lower apps key pid st ∧ CacheHolds lower apps key pid st)
    (fun _ _ _ _ he h hs => ⟨(refresherStep_tunnelApps h).trans hs.1, roundHolds_step hs.2.1 he h,
      cacheHolds_step hs.1 hs.2.1 hs.2.2 he h⟩)
    (fun e he => hsteady e (List.mem_append_right _ he)) ⟨happs₃, hround₃, hcache₃⟩
  exact ⟨hrest₄.2.2.current, hrest₄.2.2.current.shouldTunnelV3⟩

/-- The game is found, and another process registered after it. -/
theorem game_stays_recognized :
    ∃ (es : RefresherLog) (st : CacheRefresher),
      Run (RefresherStep toAsciiLowercase) (.start toAsciiLowercase ["RobloxPlayerBeta.exe"]) es st ∧
      st.writers.cache.current.version = 2 ∧
      st.writers.cache.current.shouldTunnelV3 ⟨192, 168, 1, 10⟩ 50000 .udp ⟨8, 8, 8, 8⟩ 3478 false =
        true := by
  have hbefore : Run (RefresherStep toAsciiLowercase)
      (.start toAsciiLowercase ["RobloxPlayerBeta.exe"]) _ _ :=
    Run.cons (.topFirst rfl rfl rfl) (Run.nil _)
  have hround : Run (RefresherStep toAsciiLowercase)
      { CacheRefresher.start toAsciiLowercase ["RobloxPlayerBeta.exe"] with
        pc := .readTcp, firstRun := false } _ _ :=
    Run.cons (.readTcp .empty rfl) <| Run.cons (.readUdp (.table 1 [gameEntry]) rfl) <|
    Run.cons (.lookup "RobloxPlayerBeta.exe" rfl (AList.notMem_empty _)) <|
    Run.cons (.scan [] rfl rfl) <| Run.cons (.draw rfl (.update _ _ rfl)) (Run.nil _)
  have hpublished := run_concat_iff.mpr ⟨_, hround, .store rfl (.storeUpdate rfl)⟩
  have hrun := run_append.mpr ⟨_, hbefore, run_append.mpr ⟨_, hpublished,
    Run.cons (.register (e := 1) rfl rfl (.load 9 "chrome.exe" rfl)) <|
    Run.cons (.register (e := 1) rfl rfl (.draw rfl)) <|
    Run.cons (.register (e := 1) rfl rfl (.storeRegister rfl)) (Run.nil _)⟩⟩
  refine ⟨_, _, hrun, rfl, Eq.trans ?_ (by decide : isLikelyGameTraffic 3478 .udp false = true)⟩
  refine ((owned_socket_recognized ⟨⟨192, 168, 1, 10⟩, 50000, .udp⟩ 7 hbefore hpublished
    (Run.cons (.register (e := 1) rfl rfl (.load 9 "chrome.exe" rfl)) <|
    Run.cons (.register (e := 1) rfl rfl (.draw rfl)) <|
    Run.cons (.register (e := 1) rfl rfl (.storeRegister rfl)) (Run.nil _)) ?_).2 fun e => ?_).2
    ⟨8, 8, 8, 8⟩ 3478 false
  · simp only [List.cons_append, List.nil_append, List.forall_mem_cons]
    exact ⟨fun h => Protocol.noConfusion h, fun _ => by decide, fun _ => ⟨_, rfl, by decide +kernel⟩,
      trivial, trivial, fun h => absurd h (by decide), trivial, trivial, fun _ h => nomatch h⟩
  · by_cases he : e = 0
    · subst he
      exact Or.inr rfl
    · exact Or.inl ((Function.update_of_ne he _ _).trans (Function.update_of_ne he _ _))

end Recognized

end SwiftTunnel
