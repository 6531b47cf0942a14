/-
# What the modes of a session do to its traffic

The options of `connect_ex` reach the classifier in two ways: as the two flags that
`setup_split_tunnel` gives to the driver, and as the address sets that DNS repair publishes.
Each of the two is folded together from several options.

The flags are those of the options in every session that has an app to tunnel (`connected_hasFlags`),
and what the classifier makes of flags and sets is known from `Decision`.  What is left is to see
what each mode folds them into:

* `owned_udp_tunneled_iff`: in which modes the UDP traffic of a tunnel app is tunnelled.
* `plain_session_bypasses_game`: with every option off none of it is.
* `partial_bypass_direct_iff`: when partial bypass keeps launch and sign-in hosts direct.  DNS repair
  takes it for a country ban, and then every resolved address is relayed.
* `keptDirect_of_onlyDirect`: Route Assist, in contrast, keeps all of them direct.
-/
import SwiftTunnel.SplitTunnel.Decision
import SwiftTunnel.Vpn.Connection

namespace SwiftTunnel

/-! ## 1. Game traffic -/

/-- A connect that returns `Ok` and has an app to tunnel has a driver with the session's flags. -/
theorem connected_hasFlags {o : ConnectOptions} {w : ConnectWorld} {c : Client}
    (hok : (connectEx o w c).1 = .ok ()) (happs : o.sessionApps ≠ []) :
    HasFlags o (connectEx o w c).2.vpn := by
  have hout := connectEx_outcome o w c
  rw [hok] at hout
  generalize (connectEx o w c).2 = c' at hout ⊢
  cases hout with
  | connected info v assets _ _ _ _ _ hflags => exact hflags happs

/-- Outside partial bypass UDP is on with Route Assist or a country ban. -/
theorem udpTunneling_iff {o : ConnectOptions}
    (hmode : o.enablePartialCountryBan = false ∨ o.enableCountryBan = true) :
    o.udpTunneling = true ↔ o.enableApiTunneling = true ∨ o.enableCountryBan = true := by
  rw [ConnectOptions.udpTunneling, Bool.or_eq_true, Bool.and_eq_true, Bool.not_eq_true']
  constructor
  · rintro (⟨hapi, -⟩ | hban)
    · exact Or.inl hapi
    · exact Or.inr hban
  · rintro (hapi | hban)
    · rcases hmode with hpart | hban
      · exact Or.inl ⟨hapi, hpart⟩
      · exact Or.inr hban
    · exact Or.inr hban

/-- **In which modes game traffic is tunnelled.**  With partial bypass off or overridden, a UDP
frame of a tunnel app that is neither DNS nor excluded is tunnelled when Route Assist or a country
ban is on, and only then. -/
theorem owned_udp_tunneled_iff (o : ConnectOptions)
    (hmode : o.enablePartialCountryBan = false ∨ o.enableCountryBan = true) (g : SharedState)
    (s : ProcessSnapshot) (cache : InlineCache) (data : Rust.Bytes) (h : PacketHeader)
    (hr : ReadsAs data h) (hudp : h.protocol = .udp) (hown : Owned s h) (hdns : h.dstPort ≠ 53)
    (hexcluded : h.dstIp ∉ g.excludedIps) :
    (∃ cache', classifyPacket g data s cache o.enableApiTunneling o.udpTunneling =
        .ok (true, cache')) ↔
      o.enableApiTunneling = true ∨ o.enableCountryBan = true := by
  obtain ⟨b, c', e, hb⟩ := classifyPacket_reads g s cache o.enableApiTunneling o.udpTunneling hr
  have hadmissible : Admissible g o.enableApiTunneling o.udpTunneling h ↔ o.udpTunneling = true := by
    constructor
    · intro ha
      exact ha.enabled hudp
    · intro hon
      refine ⟨fun _ => hon, hexcluded, ?_, hdns, Or.inl hudp⟩
      rintro ⟨htcp, -⟩
      rw [hudp] at htcp
      exact nomatch htcp
  rw [← udpTunneling_iff hmode, ← hadmissible, e]
  constructor
  · rintro ⟨cache', heq⟩
    exact (hb.mp (Prod.mk.inj (Except.ok.inj heq)).1).1
  · intro ha
    rw [hb.mpr ⟨ha, Reason.owned hown⟩]
    exact ⟨c', rfl⟩

/-- The state after a connect with every option off. -/
def afterPlainSession : Except SdkError Unit × Client :=
  connectEx singaporeOptions (blockedWorld [] workingDriver) (Client.fresh localhostFile)

/-- **A plain session tunnels no game traffic**: with every option off the connect succeeds, and
the game's own datagram to a game server is bypassed. -/
theorem plain_session_bypasses_game :
    singaporeOptions.enablePartialCountryBan = false ∧ afterPlainSession.1 = .ok () ∧
    ReadsAs (frameOf (udpToGameServer 50001) []) (udpToGameServer 50001) ∧
    Owned (udpSocketSnapshot "RobloxPlayerBeta.exe") (udpToGameServer 50001) ∧
    (udpToGameServer 50001).dstIp ∉ afterPlainSession.2.shared.excludedIps ∧
    (classifyPacket afterPlainSession.2.shared (frameOf (udpToGameServer 50001) [])
      (udpSocketSnapshot "RobloxPlayerBeta.exe") ∅ singaporeOptions.enableApiTunneling
      singaporeOptions.udpTunneling).map Prod.fst = .ok false := by
  refine ⟨rfl, by decide +kernel, frameOf_reads (by decide) [], ⟨7, by decide, by decide⟩,
    by decide +kernel, by decide +kernel⟩

/-- With Route Assist the same datagram is tunnelled. -/
theorem route_assist_tunnels_game :
    ∃ cache', classifyPacket (SharedState.fresh []) (frameOf (udpToGameServer 50001) [])
      (udpSocketSnapshot "RobloxPlayerBeta.exe") ∅ true
      { singaporeOptions with enableApiTunneling := true }.udpTunneling = .ok (true, cache') :=
  (owned_udp_tunneled_iff { singaporeOptions with enableApiTunneling := true } (Or.inl rfl)
    (SharedState.fresh []) (udpSocketSnapshot "RobloxPlayerBeta.exe") ∅
    (frameOf (udpToGameServer 50001) []) (udpToGameServer 50001) (frameOf_reads (by decide) []) rfl
    ⟨7, by decide, by decide⟩ (by decide) (by decide)).mpr (Or.inl rfl)

/-! ## 2. Launch and sign-in hosts -/

/-- An address is kept direct: the sets say so, and every TCP frame to it is bypassed. -/
structure KeptDirect (g : SharedState) (ip : Ipv4Addr) : Prop where
  notActive : ip ∉ g.activeBootstrapIps
  direct : ip ∈ g.directOnlyBootstrapIps
  bypassed : ∀ (data : Rust.Bytes) (h : PacketHeader) (s : ProcessSnapshot) (cache : InlineCache)
    (api udp : Bool), ReadsAs data h → h.protocol = .tcp → h.dstIp = ip →
      ∃ cache', classifyPacket g data s cache api udp = .ok (false, cache')

/-- The direct set alone bypasses TCP. -/
theorem tcp_bypassed_of_direct {g : SharedState} {data : Rust.Bytes} {h : PacketHeader}
    (hr : ReadsAs data h) (htcp : h.protocol = .tcp) (hdirect : h.dstIp ∈ g.directOnlyBootstrapIps)
    (s : ProcessSnapshot) (cache : InlineCache) (api udp : Bool) :
    ∃ cache', classifyPacket g data s cache api udp = .ok (false, cache') := by
  obtain ⟨b, c', e, hb⟩ := classifyPacket_reads g s cache api udp hr
  cases b with
  | false => exact ⟨c', e⟩
  | true => exact absurd ⟨htcp, hdirect⟩ (hb.mp rfl).1.notDirect

section

variable {ban : Bool} {es : List HostOverride} {io : HostsIo} {g : SharedState}

/-- What a call that returns `Ok` publishes. -/
theorem published_of_ok (hok : (applyBootstrapOverrides ban (.ok es) io g).1 = .ok ()) :
    (applyBootstrapOverrides ban (.ok es) io g).2.activeBootstrapIps = (allocatePins ban es).active ∧
      (applyBootstrapOverrides ban (.ok es) io g).2.directOnlyBootstrapIps =
        (allocatePins ban es).directOnly := by
  rcases applyBootstrapOverrides_cases ban (.ok es) io g with ⟨es', hes, -, -, heq⟩ | ⟨⟨e, herr⟩, -⟩
  · obtain rfl := Except.ok.inj hes
    rw [heq]
    exact ⟨rfl, rfl⟩
  · rw [hok] at herr
    exact nomatch herr

/-- Route Assist keeps every launch and sign-in address direct. -/
theorem keptDirect_of_onlyDirect
    (hok : (applyBootstrapOverrides false (.ok es) io g).1 = .ok ()) {ip : Ipv4Addr}
    (h : OnlyDirect es ip) : KeptDirect (applyBootstrapOverrides false (.ok es) io g).2 ip := by
  obtain ⟨hactive, hdirect⟩ := published_of_ok hok
  obtain ⟨hmem, hnot⟩ := directOnly_of_onlyDirect h
  have hin : ip ∈ (applyBootstrapOverrides false (.ok es) io g).2.directOnlyBootstrapIps := by
    rw [hdirect]
    exact hmem
  refine ⟨?_, hin, ?_⟩
  · rw [hactive]
    exact hnot
  · rintro data hd s cache api udp hr htcp rfl
    exact tcp_bypassed_of_direct hr htcp hin s cache api udp

end

/-- **Partial bypass keeps no launch or sign-in host direct.**  It is passed to DNS repair as a
country ban, so it relays each of their addresses; the lists on which it keeps them all direct are
those that resolve no address for them alone. -/
theorem partial_bypass_direct_iff (o : ConnectOptions) (hpart : o.enablePartialCountryBan = true)
    (es : List HostOverride) (io : HostsIo) (g : SharedState)
    (hok : (applyBootstrapOverrides o.countryBanBypass (.ok es) io g).1 = .ok ()) :
    (∀ ip, OnlyDirect es ip →
        KeptDirect (applyBootstrapOverrides o.countryBanBypass (.ok es) io g).2 ip) ↔
      ∀ ip, ¬ OnlyDirect es ip := by
  have hbypass : o.countryBanBypass = true := by
    rw [ConnectOptions.countryBanBypass, hpart, Bool.or_true]
  rw [hbypass] at hok ⊢
  constructor
  · intro hkept ip hip
    refine (hkept ip hip).notActive ?_
    rw [(published_of_ok hok).1]
    exact active_of_mem_countryBan.mpr hip.1
  · intro hnone ip hip
    exact absurd hip (hnone ip)

/-- A session with partial bypass. -/
def partialBypassOptions : ConnectOptions :=
  { singaporeOptions with enableApiTunneling := true, enablePartialCountryBan := true }

/-- The sign-in host, at an address of its own. -/
def signInOverrides : List HostOverride := [⟨⟨128, 116, 1, 9⟩, "auth.roblox.com"⟩]

/-- **The sign-in host is relayed under partial bypass**, although its address is its own. -/
theorem partial_bypass_relays_signIn :
    partialBypassOptions.enableCountryBan = false ∧
    (applyBootstrapOverrides partialBypassOptions.countryBanBypass (.ok signInOverrides) HostsIo.ok
      (SharedState.fresh localhostFile)).1 = .ok () ∧
    OnlyDirect signInOverrides ⟨128, 116, 1, 9⟩ ∧
    ¬ KeptDirect (applyBootstrapOverrides partialBypassOptions.countryBanBypass (.ok signInOverrides)
      HostsIo.ok (SharedState.fresh localhostFile)).2 ⟨128, 116, 1, 9⟩ := by
  refine ⟨rfl, by decide, ⟨⟨_, List.mem_singleton_self _, rfl⟩, ?_⟩, ?_⟩
  · intro e he _
    rw [List.mem_singleton.mp he]
    decide +kernel
  · intro h
    exact h.notActive (by decide)

/-- The sign-in host at an address that also serves the join control plane. -/
def sharedOverrides : List HostOverride :=
  ⟨⟨128, 116, 1, 9⟩, "gamejoin.roblox.com"⟩ :: signInOverrides

/-- Such an address is none of the sign-in host alone. -/
theorem partial_bypass_shared_address :
    sharedOverrides ≠ [] ∧ ∀ ip, OnlyDirect sharedOverrides ip →
      KeptDirect (applyBootstrapOverrides partialBypassOptions.countryBanBypass (.ok sharedOverrides)
        HostsIo.ok (SharedState.fresh localhostFile)).2 ip := by
  refine ⟨by decide, ?_⟩
  refine (partial_bypass_direct_iff partialBypassOptions rfl sharedOverrides HostsIo.ok
    (SharedState.fresh localhostFile) (by decide)).mpr ?_
  rintro ip ⟨⟨e, he, rfl⟩, honly⟩
  have hip : e.ip = ⟨128, 116, 1, 9⟩ := by
    rcases List.mem_cons.mp he with rfl | he
    · rfl
    · rw [List.mem_singleton.mp he]
  exact absurd (honly ⟨⟨128, 116, 1, 9⟩, "gamejoin.roblox.com"⟩ List.mem_cons_self hip.symm)
    (by decide +kernel)

end SwiftTunnel
