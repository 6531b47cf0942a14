/-
# Installing and removing the pass filters

`diskless_passthrough.rs`, with the table helpers of `ipv6_recovery.rs`.  The driver has one table
of static filters, which other consumers write too.  `install_for_adapter` puts the pass filters at
its end, in place of byte-identical entries that a session before has left, and records them;
`remove_installed` takes what is recorded out again.  Both go by the bytes of an entry, which `pack`
gives for a filter.

What the driver answers to a call is an argument (`DriverIo`); a call that fails leaves the table as
it is, and nothing else writes the table between the read and the write of one function.

Installing and removing are one operation on lists, taking out the entries with certain bytes
(`withoutFilters`), and it is idempotent and goes through an append.  So what is left after both is
the old table without those bytes, and then what came behind (`withoutFilters_merged`).

* `pass_filters_framed`: what is left of the table, and when.  A table that has grown beyond 256
  entries is not read, and then nothing is taken out.
* `full_table_not_cleaned`: a table that is left as it was.

An entry of another consumer with the bytes of a pass filter counts as one of them: the code cannot
tell them apart, and `pass_filters_framed` says so.
-/
import SwiftTunnel.Vpn.PassFilters

namespace SwiftTunnel

open Rust

/-! ## 1. The table -/

/-- `STATIC_FILTER_TABLE_CAPACITY`. -/
def staticFilterTableCapacity : Nat := 256

/-- What the driver says to each call. -/
structure DriverIo where
  /-- `Ndisapi::new("NDISRD")`. -/
  openDriver : Except String Unit
  /-- `get_tcpip_bound_adapters_info`: the names and handles of the adapters. -/
  adapters : Except String (List (String × UInt64))
  getPacketFilterTableSize : Except String Unit
  getPacketFilterTable : Except String Unit
  setPacketFilterTable : Except String Unit
  resetPacketFilterTable : Except String Unit

/-- `map_err`: the error with a text before it. -/
def mapErr {α : Type} (text : String) : Except String α → Except String α
  | .ok a => .ok a
  | .error e => .error (text ++ e)

def readStaticFilterEntries (io : DriverIo) (table : List Bytes) : Except String (List Bytes) := do
  mapErr "Failed to query WinpkFilter static filter table size: " io.getPacketFilterTableSize
  if table.length = 0 then return []
  else if staticFilterTableCapacity < table.length then
    throw ("WinpkFilter static filter table has " ++ toString table.length ++
      " entries, more than the supported " ++ toString staticFilterTableCapacity)
  else
    mapErr "Failed to read WinpkFilter static filter table: " io.getPacketFilterTable
    return table

/-- `set_static_filter_entries`; the result is the new table. -/
def setStaticFilterEntries (io : DriverIo) (entries : List Bytes) : Except String (List Bytes) := do
  if staticFilterTableCapacity < entries.length then
    throw ("Refusing to write " ++ toString entries.length ++
      " WinpkFilter static filter entries, more than the supported " ++
      toString staticFilterTableCapacity)
  else
    mapErr "Failed to write WinpkFilter static filter table: " io.setPacketFilterTable
    return entries

/-! ## 2. Installing and removing -/

/-- The driver's table, by the bytes of its entries, and `INSTALLED_FILTERS`. -/
structure PassthroughState where
  table : List Bytes
  installed : List StaticFilter

section Passthrough

variable (pack : StaticFilter → Bytes)

/-- Some of these filters has the bytes of the entry (`filters_equal`). -/
def isOneOf (filters : List StaticFilter) (entry : Bytes) : Bool :=
  filters.any fun filter => entry == pack filter

/-- The entries that are none of these filters. -/
def withoutFilters (filters : List StaticFilter) (entries : List Bytes) : List Bytes :=
  entries.filter fun entry => !isOneOf pack filters entry

/-- The end of `install_for_adapter`, for filters to be installed. -/
def installFilters (io : DriverIo) (newFilters : List StaticFilter) (table : List Bytes) :
    Except String (List Bytes) := do
  let existing ← readStaticFilterEntries io table
  let merged := withoutFilters pack newFilters existing ++ newFilters.map pack
  if staticFilterTableCapacity < merged.length then
    throw ("Static filter table would need " ++ toString merged.length ++ " entries (capacity " ++
      toString staticFilterTableCapacity ++ ")")
  else setStaticFilterEntries io merged

/-- The part of `install_for_adapter` that may fail: the filters and the table with them, or nothing
when `System` has no flows. -/
def tryInstall (io : DriverIo) (physicalName : String) (tcp : List TcpRow) (udp : List UdpRow)
    (table : List Bytes) : Except String (Option (List StaticFilter × List Bytes)) := do
  mapErr "Failed to open WinpkFilter driver: " io.openDriver
  let adapters ← mapErr "Failed to enumerate WinpkFilter adapters: " io.adapters
  match adapters.find? fun adapter => adapter.1 == physicalName with
  | none => throw ("WinpkFilter adapter '" ++ physicalName ++
      "' was not found for diskless pass-through")
  | some adapter =>
    let (tcpEndpoints, udpPorts) := collectSystemFlows tcp udp
    if tcpEndpoints = [] ∧ udpPorts = [] then return none
    else
      let newFilters := buildPassFilters adapter.2 tcpEndpoints udpPorts
      let merged ← installFilters pack io newFilters table
      return some (newFilters, merged)

/-- `install_for_adapter`, with the rows of the owner tables. -/
def installForAdapter (io : DriverIo) (physicalName : String) (tcp : List TcpRow)
    (udp : List UdpRow) (st : PassthroughState) : Except String Nat × PassthroughState :=
  match tryInstall pack io physicalName tcp udp st.table with
  | .error e => (.error e, st)
  | .ok none => (.ok 0, st)
  | .ok (some (newFilters, table)) => (.ok newFilters.length, ⟨table, newFilters⟩)

/-- The part of `remove_installed` that may fail. -/
def removeFilters (io : DriverIo) (ours : List StaticFilter) (table : List Bytes) :
    Except String (List Bytes) := do
  mapErr "Failed to open WinpkFilter driver: " io.openDriver
  let entries ← readStaticFilterEntries io table
  let remaining := withoutFilters pack ours entries
  if remaining = [] then
    mapErr "Failed to reset WinpkFilter static filter table: " io.resetPacketFilterTable
    return []
  else setStaticFilterEntries io remaining

/-- `remove_installed`; a failure is only logged. -/
def removeInstalled (io : DriverIo) (st : PassthroughState) : PassthroughState :=
  let ours := st.installed
  let st := { st with installed := [] }
  if ours = [] then st
  else match removeFilters pack io ours st.table with
    | .ok table => { st with table := table }
    | .error _ => st

end Passthrough

/-! ## 3. What each part does to the table -/

/-- Every call to the driver succeeds. -/
structure DriverIo.Works (io : DriverIo) : Prop where
  openDriver : io.openDriver = .ok ()
  size : io.getPacketFilterTableSize = .ok ()
  get : io.getPacketFilterTable = .ok ()
  set : io.setPacketFilterTable = .ok ()
  reset : io.resetPacketFilterTable = .ok ()

theorem bind_eq_ok {α β : Type} {x : Except String α} {f : α → Except String β} {b : β}
    (h : x >>= f = .ok b) : ∃ a, x = .ok a ∧ f a = .ok b := by
  cases x with
  | error e => cases h
  | ok a => exact ⟨a, rfl, h⟩

/-- Only a table within the capacity is read, and as it is. -/
theorem readStaticFilterEntries_ok {io : DriverIo} {table entries : List Bytes}
    (h : readStaticFilterEntries io table = .ok entries) :
    entries = table ∧ table.length ≤ staticFilterTableCapacity := by
  obtain ⟨-, -, h⟩ := bind_eq_ok h
  split at h
  · rename_i hempty
    obtain rfl := Except.ok.inj h
    exact ⟨(List.length_eq_zero_iff.mp hempty).symm, hempty ▸ Nat.zero_le _⟩
  · split at h
    · cases h
    · rename_i hfits
      obtain ⟨-, -, h⟩ := bind_eq_ok h
      exact ⟨(Except.ok.inj h).symm, Nat.not_lt.mp hfits⟩

theorem setStaticFilterEntries_ok {io : DriverIo} {entries table : List Bytes}
    (h : setStaticFilterEntries io entries = .ok table) :
    table = entries ∧ entries.length ≤ staticFilterTableCapacity := by
  rw [setStaticFilterEntries] at h
  split at h
  · cases h
  · rename_i hfits
    obtain ⟨-, -, h⟩ := bind_eq_ok h
    exact ⟨(Except.ok.inj h).symm, Nat.not_lt.mp hfits⟩

theorem readStaticFilterEntries_works {io : DriverIo} (h : io.Works) {table : List Bytes}
    (hfits : table.length ≤ staticFilterTableCapacity) :
    readStaticFilterEntries io table = .ok table := by
  rw [readStaticFilterEntries, h.size, h.get]
  by_cases hempty : table.length = 0
  · rw [List.length_eq_zero_iff.mp hempty]
    rfl
  · simp only [if_neg hempty, if_neg (Nat.not_lt.mpr hfits)]
    rfl

theorem setStaticFilterEntries_works {io : DriverIo} (h : io.Works) {entries : List Bytes}
    (hfits : entries.length ≤ staticFilterTableCapacity) :
    setStaticFilterEntries io entries = .ok entries := by
  rw [setStaticFilterEntries, if_neg (Nat.not_lt.mpr hfits), h.set]
  rfl

section Passthrough

variable {pack : StaticFilter → Bytes}

theorem withoutFilters_append (filters : List StaticFilter) (entries more : List Bytes) :
    withoutFilters pack filters (entries ++ more) =
      withoutFilters pack filters entries ++ withoutFilters pack filters more :=
  List.filter_append entries more

theorem withoutFilters_idem (filters : List StaticFilter) (entries : List Bytes) :
    withoutFilters pack filters (withoutFilters pack filters entries) =
      withoutFilters pack filters entries := by
  simp only [withoutFilters, List.filter_filter, Bool.and_self]

theorem length_withoutFilters_le (pack : StaticFilter → Bytes) (filters : List StaticFilter)
    (entries : List Bytes) :
    (withoutFilters pack filters entries).length ≤ entries.length := List.length_filter_le _ _

/-- Of the filters themselves nothing is left. -/
theorem withoutFilters_self (filters : List StaticFilter) :
    withoutFilters pack filters (filters.map pack) = [] := by
  refine List.filter_eq_nil_iff.mpr fun entry hentry => ?_
  obtain ⟨filter, hfilter, rfl⟩ := List.mem_map.mp hentry
  rw [Bool.not_eq_true', Bool.not_eq_false]
  exact List.any_eq_true.mpr ⟨filter, hfilter, beq_self_eq_true _⟩

theorem withoutFilters_nil (entries : List Bytes) : withoutFilters pack [] entries = entries :=
  List.filter_eq_self.mpr fun _ _ => rfl

/-- **What is left after both**, with whatever came behind the filters. -/
theorem withoutFilters_merged (filters : List StaticFilter) (entries more : List Bytes) :
    withoutFilters pack filters
        ((withoutFilters pack filters entries ++ filters.map pack) ++ more) =
      withoutFilters pack filters (entries ++ more) := by
  rw [withoutFilters_append, withoutFilters_append, withoutFilters_idem, withoutFilters_self,
    List.append_nil, withoutFilters_append]

theorem installFilters_ok {io : DriverIo} {newFilters : List StaticFilter}
    {table merged : List Bytes} (h : installFilters pack io newFilters table = .ok merged) :
    merged = withoutFilters pack newFilters table ++ newFilters.map pack ∧
      merged.length ≤ staticFilterTableCapacity := by
  obtain ⟨existing, hread, hrest⟩ := bind_eq_ok h
  clear h
  obtain ⟨rfl, -⟩ := readStaticFilterEntries_ok hread
  dsimp only at hrest
  split at hrest
  · cases hrest
  · obtain ⟨rfl, hfits⟩ := setStaticFilterEntries_ok hrest
    exact ⟨rfl, hfits⟩

/-- What an install that succeeds does: nothing, as there are no flows, or it puts the filters for
the flows at the end of the table. -/
theorem tryInstall_ok {io : DriverIo} {physicalName : String} {tcp : List TcpRow}
    {udp : List UdpRow} {table : List Bytes} {out : Option (List StaticFilter × List Bytes)}
    (h : tryInstall pack io physicalName tcp udp table = .ok out) :
    out = none ∨ ∃ adapterHandle merged, out = some (systemFilters adapterHandle tcp udp, merged) ∧
      merged = withoutFilters pack (systemFilters adapterHandle tcp udp) table ++
        (systemFilters adapterHandle tcp udp).map pack ∧
      merged.length ≤ staticFilterTableCapacity := by
  obtain ⟨-, -, h⟩ := bind_eq_ok h
  obtain ⟨adapters, -, h⟩ := bind_eq_ok h
  split at h
  · cases h
  · rename_i adapter _
    dsimp only at h
    split at h
    · exact Or.inl (Except.ok.inj h).symm
    · obtain ⟨merged, hmerged, h⟩ := bind_eq_ok h
      obtain ⟨heq, hfits⟩ := installFilters_ok hmerged
      exact Or.inr ⟨adapter.2, merged, (Except.ok.inj h).symm, heq, hfits⟩

/-- A removal with a driver that works. -/
theorem removeFilters_works {io : DriverIo} (h : io.Works) {ours : List StaticFilter}
    {table : List Bytes} (hfits : table.length ≤ staticFilterTableCapacity) :
    removeFilters pack io ours table = .ok (withoutFilters pack ours table) := by
  have hsub : (withoutFilters pack ours table).length ≤ staticFilterTableCapacity :=
    (length_withoutFilters_le pack ours table).trans hfits
  rw [removeFilters, h.openDriver, readStaticFilterEntries_works h hfits, h.reset]
  by_cases hnone : withoutFilters pack ours table = []
  · simp only [mapErr, bind, Except.bind, hnone, if_true]
    rfl
  · simp only [mapErr, bind, Except.bind, if_neg hnone]
    exact setStaticFilterEntries_works h hsub

/-- A table that is over the capacity is not read. -/
theorem removeFilters_full (pack : StaticFilter → Bytes) (io : DriverIo) (ours : List StaticFilter)
    {table : List Bytes} (hfull : staticFilterTableCapacity < table.length) :
    ∃ e, removeFilters pack io ours table = .error e := by
  cases h : removeFilters pack io ours table with
  | error e => exact ⟨e, rfl⟩
  | ok left =>
    obtain ⟨-, -, h⟩ := bind_eq_ok h
    obtain ⟨entries, hread, -⟩ := bind_eq_ok h
    exact absurd hfull (Nat.not_lt.mpr (readStaticFilterEntries_ok hread).2)

theorem removeInstalled_works {io : DriverIo} (h : io.Works) {st : PassthroughState}
    (hfits : st.table.length ≤ staticFilterTableCapacity) :
    (removeInstalled pack io st).table = withoutFilters pack st.installed st.table := by
  rw [removeInstalled]
  by_cases hnone : st.installed = []
  · rw [if_pos hnone, hnone, withoutFilters_nil]
  · rw [if_neg hnone, removeFilters_works h hfits]

theorem removeInstalled_full {io : DriverIo} {st : PassthroughState}
    (hfull : staticFilterTableCapacity < st.table.length) :
    (removeInstalled pack io st).table = st.table := by
  rw [removeInstalled]
  by_cases hnone : st.installed = []
  · rw [if_pos hnone]
  · obtain ⟨e, he⟩ := removeFilters_full pack io st.installed hfull
    rw [if_neg hnone, he]

/-! ## 4. The table after a session -/

theorem installForAdapter_ok {io : DriverIo} {physicalName : String} {tcp : List TcpRow}
    {udp : List UdpRow} {st st' : PassthroughState} {n : Nat}
    (h : installForAdapter pack io physicalName tcp udp st = (.ok n, st')) :
    (n = 0 ∧ st' = st) ∨
      ((∃ adapterHandle, st'.installed = systemFilters adapterHandle tcp udp) ∧
        n = st'.installed.length ∧
        st'.table = withoutFilters pack st'.installed st.table ++ st'.installed.map pack ∧
        st'.table.length ≤ staticFilterTableCapacity) := by
  rw [installForAdapter] at h
  split at h
  · cases h
  · obtain ⟨hn, rfl⟩ := Prod.mk.inj h
    exact Or.inl ⟨(Except.ok.inj hn).symm, rfl⟩
  · rename_i newFilters table htry
    obtain ⟨hn, rfl⟩ := Prod.mk.inj h
    rcases tryInstall_ok htry with hnone | ⟨adapterHandle, merged, hout, hmerged, hfits⟩
    · cases hnone
    · obtain ⟨rfl, rfl⟩ := Prod.mk.inj (Option.some.inj hout)
      exact Or.inr ⟨⟨adapterHandle, rfl⟩, (Except.ok.inj hn).symm, hmerged, hfits⟩

/-- **Pass filters do not disturb the other entries.**  After an install that succeeds and a
removal, with entries of others appended in between, the table is what it was and those entries,
less the entries that are byte-identical to a filter installed, when the removal finds at most 256
entries; a fuller table it leaves alone.  An install that fails changes nothing. -/
theorem pass_filters_framed (pack : StaticFilter → Bytes) (io : DriverIo) (physicalName : String)
    (tcp : List TcpRow) (udp : List UdpRow) {st : PassthroughState}
    (hsize : st.table.length ≤ staticFilterTableCapacity) :
    (∀ n st', installForAdapter pack io physicalName tcp udp st = (.ok n, st') →
      ((n = 0 ∧ st' = st) ∨
        ((∃ adapterHandle, st'.installed = systemFilters adapterHandle tcp udp) ∧
          n = st'.installed.length)) ∧
      st'.table.length ≤ staticFilterTableCapacity ∧
      ∀ (appended : List Bytes) (io' : DriverIo), io'.Works →
        ((st'.table ++ appended).length ≤ staticFilterTableCapacity →
          (removeInstalled pack io' { st' with table := st'.table ++ appended }).table =
            withoutFilters pack st'.installed (st.table ++ appended)) ∧
        (staticFilterTableCapacity < (st'.table ++ appended).length →
          (removeInstalled pack io' { st' with table := st'.table ++ appended }).table =
            st'.table ++ appended)) ∧
    ∀ e st', installForAdapter pack io physicalName tcp udp st = (.error e, st') → st' = st := by
  constructor
  · intro n st' hinstall
    rcases installForAdapter_ok hinstall with ⟨rfl, rfl⟩ | ⟨hmade, hn, htable, hfits⟩
    · exact ⟨Or.inl ⟨rfl, rfl⟩, hsize, fun appended io' hio =>
        ⟨fun hroom => removeInstalled_works hio hroom, fun hfull => removeInstalled_full hfull⟩⟩
    · refine ⟨Or.inr ⟨hmade, hn⟩, hfits, fun appended io' hio => ⟨fun hroom => ?_, fun hfull => ?_⟩⟩
      · rw [removeInstalled_works hio hroom]
        dsimp only
        rw [htable, withoutFilters_merged]
      · exact removeInstalled_full hfull
  · intro e st' hinstall
    rw [installForAdapter] at hinstall
    split at hinstall
    · exact (Prod.mk.inj hinstall).2.symm
    · cases hinstall
    · cases hinstall

end Passthrough

/-- A driver with one adapter, which does what it is asked. -/
def servingDriver : DriverIo :=
  ⟨.ok (), .ok [("Ethernet", 1)], .ok (), .ok (), .ok (), .ok ()⟩

theorem servingDriver_works : servingDriver.Works := ⟨rfl, rfl, rfl, rfl, rfl⟩

/-- The fields in which the filters for UDP ports differ. -/
def samplePack (f : StaticFilter) : Bytes :=
  [f.adapterHandle.toUInt8, if f.directionFlags = .onSend then 1 else 2,
    f.networkFilter.protocol, hiByte f.transportFilter.sourcePort.startRange,
    f.transportFilter.sourcePort.startRange.toUInt8,
    hiByte f.transportFilter.destPort.startRange, f.transportFilter.destPort.startRange.toUInt8]

/-- `System` has one UDP socket. -/
def diskSocket : List UdpRow := [⟨⟨0, 0, 0, 0⟩, 4011, 4⟩]

/-- The state after its filters have been installed in an empty table. -/
def installedState : PassthroughState :=
  (installForAdapter samplePack servingDriver "Ethernet" [] diskSocket ⟨[], []⟩).2

/-- **A table that is not cleaned**: with 255 entries of others behind the two filters, these stay. -/
theorem full_table_not_cleaned :
    (installForAdapter samplePack servingDriver "Ethernet" [] diskSocket ⟨[], []⟩).1 = .ok 2 ∧
      servingDriver.Works ∧
      (removeInstalled samplePack servingDriver
        { installedState with table := installedState.table ++ List.replicate 255 [0] }).table ≠
          withoutFilters samplePack installedState.installed ([] ++ List.replicate 255 [0]) := by
  refine ⟨rfl, servingDriver_works, ?_⟩
  have htwo : installedState.table.length = 2 := by decide
  have hfull : staticFilterTableCapacity <
      (installedState.table ++ List.replicate 255 [0]).length := by
    rw [List.length_append, htwo, List.length_replicate]
    decide
  rw [removeInstalled_full hfull]
  intro heq
  have hlen := congrArg List.length heq
  have hle := length_withoutFilters_le samplePack installedState.installed
    ([] ++ List.replicate 255 [0])
  rw [← hlen] at hle
  simp only [List.length_append, htwo, List.length_replicate, List.length_nil] at hle
  omega

/-- The state after they have been installed behind an entry of another consumer. -/
def sharedTableState : PassthroughState :=
  (installForAdapter samplePack servingDriver "Ethernet" [] diskSocket ⟨[[9]], []⟩).2

/-- A foreign entry before the filters, and one behind them. -/
theorem foreign_entries_kept :
    (removeInstalled samplePack servingDriver
      { sharedTableState with table := sharedTableState.table ++ [[8]] }).table = [[9], [8]] := by
  have hinstall : installForAdapter samplePack servingDriver "Ethernet" [] diskSocket ⟨[[9]], []⟩ =
      (.ok 2, sharedTableState) := rfl
  have hframed := (pass_filters_framed samplePack servingDriver "Ethernet" [] diskSocket
    (show ([[9]] : List Bytes).length ≤ staticFilterTableCapacity by decide)).1 2 _ hinstall
  have hroom : (sharedTableState.table ++ [[8]]).length ≤ staticFilterTableCapacity := by
    have hlen : (sharedTableState.table ++ [[8]]).length = 4 := by decide
    rw [hlen]
    decide
  exact ((hframed.2.2 [[8]] servingDriver servingDriver_works).1 hroom).trans (by decide)

end SwiftTunnel
