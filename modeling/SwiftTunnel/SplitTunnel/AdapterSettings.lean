/-
# The settings of a network adapter

`interceptor.rs`: the PowerShell scripts with which an interceptor turns checksum offload and IPv6 off
on an adapter, and on again.  A script goes on after a write that fails, and it is killed when it
takes too long; so what it changes and what it reports are two things.

The two groups of settings are each a thing of its own, off on one adapter or nowhere (`OffStep`).
A script writes its own group only (`run_other_group`), so a log of scripts is looked at one group at
a time, and of a group one setting at a time (`runScripts_group`).  `SettingIs` is what a run keeps of
a setting: its first value or the one of being on, or, where its group is off, zero.

* `offStep_setting`: one script keeps it, if scripts that enable take effect.
* `run_settings`: where a group is off nowhere, its settings are as at first, or on.

A setting that was off at first is on afterwards: the scripts do not remember the value that they
overwrite.  Which scripts an interceptor runs is in `Lifecycle`.  Their text is left out; what a
script writes is a list of settings with values.
-/
import SwiftTunnel.Lib.Run

namespace SwiftTunnel

/-! ## 1. The scripts -/

/-- An advanced property, by its keyword, or the binding of `ms_tcpip6` (one where it is bound). -/
inductive AdapterSetting where
  | lsoV2IPv4
  | lsoV2IPv6
  | tcpChecksumOffloadIPv4
  | udpChecksumOffloadIPv4
  | tcpChecksumOffloadIPv6
  | udpChecksumOffloadIPv6
  | tcpip6
  deriving DecidableEq, Repr

/-- The settings that are turned off and on together. -/
inductive SettingGroup where
  | offload
  | ipv6
  deriving DecidableEq, Repr

/-- What the script that disables the group writes. -/
def SettingGroup.disabled : SettingGroup → List (AdapterSetting × Nat)
  | .offload => [(.lsoV2IPv4, 0), (.lsoV2IPv6, 0), (.tcpChecksumOffloadIPv4, 0),
      (.udpChecksumOffloadIPv4, 0), (.tcpChecksumOffloadIPv6, 0), (.udpChecksumOffloadIPv6, 0)]
  | .ipv6 => [(.tcpip6, 0)]

/-- What the script that enables it writes. -/
def SettingGroup.enabled : SettingGroup → List (AdapterSetting × Nat)
  | .offload => [(.lsoV2IPv4, 1), (.lsoV2IPv6, 1), (.tcpChecksumOffloadIPv4, 3),
      (.udpChecksumOffloadIPv4, 3), (.tcpChecksumOffloadIPv6, 3), (.udpChecksumOffloadIPv6, 3)]
  | .ipv6 => [(.tcpip6, 1)]

namespace AdapterSetting

def group : AdapterSetting → SettingGroup
  | .tcpip6 => .ipv6
  | _ => .offload

/-- The value with which the setting is turned on. -/
def enabledValue (setting : AdapterSetting) : Nat :=
  (setting.group.enabled.lookup setting).getD 0

end AdapterSetting

theorem lookup_disabled (g : SettingGroup) (setting : AdapterSetting) :
    g.disabled.lookup setting = if setting.group = g then some 0 else none := by
  cases g <;> cases setting <;> rfl

theorem lookup_enabled (g : SettingGroup) (setting : AdapterSetting) :
    g.enabled.lookup setting = if setting.group = g then some setting.enabledValue else none := by
  cases g <;> cases setting <;> rfl

structure Script where
  group : SettingGroup
  adapter : String
  enable : Bool
  deriving DecidableEq, Repr

def Script.writes (script : Script) : List (AdapterSetting × Nat) :=
  if script.enable then script.group.enabled else script.group.disabled

/-- How a script ends.  It goes on after a write that fails, and it may be killed on the way. -/
structure ScriptReply where
  /-- Which of the writes take effect. -/
  took : AdapterSetting → Bool
  /-- The answer of `run_powershell_with_timeout`. -/
  success : Bool

/-- The settings of all adapters, by their names. -/
abbrev Adapters := String → AdapterSetting → Nat

def Script.run (script : Script) (reply : ScriptReply) (adapters : Adapters) : Adapters :=
  fun adapter setting =>
    if adapter = script.adapter ∧ reply.took setting = true then
      (script.writes.lookup setting).getD (adapters adapter setting)
    else adapters adapter setting

abbrev ScriptLog := List (Script × ScriptReply)

def runScripts (log : ScriptLog) (adapters : Adapters) : Adapters :=
  log.foldl (fun adapters e => e.1.run e.2 adapters) adapters

theorem lookup_writes (script : Script) (setting : AdapterSetting) :
    script.writes.lookup setting = if setting.group = script.group then
      some (if script.enable then setting.enabledValue else 0) else none := by
  rw [Script.writes]
  split
  · exact lookup_enabled _ _
  · exact lookup_disabled _ _

theorem run_other_group {script : Script} {setting : AdapterSetting} (reply : ScriptReply)
    (adapters : Adapters) (adapter : String) (h : script.group ≠ setting.group) :
    script.run reply adapters adapter setting = adapters adapter setting := by
  rw [Script.run, lookup_writes, if_neg h.symm, Option.getD_none, ite_self]

theorem runScripts_cons (e : Script × ScriptReply) (log : ScriptLog) (adapters : Adapters) :
    runScripts (e :: log) adapters = runScripts log (e.1.run e.2 adapters) :=
  rfl

/-- A script writes its own group only, and one setting without regard to the others. -/
theorem runScripts_group (log : ScriptLog) {adapter : String} {setting : AdapterSetting}
    {adapters adapters' : Adapters} (h : adapters adapter setting = adapters' adapter setting) :
    runScripts log adapters adapter setting =
      runScripts (log.filter fun e => decide (e.1.group = setting.group)) adapters' adapter setting := by
  induction log generalizing adapters adapters' with
  | nil => exact h
  | cons e log ih =>
    rw [List.filter_cons, runScripts_cons]
    split
    · rw [runScripts_cons]
      refine ih ?_
      rw [Script.run, Script.run, h]
    · rename_i hgroup
      exact ih ((run_other_group _ _ _ fun heq => hgroup (decide_eq_true heq)).trans h)

/-! ## 2. A group of settings -/

/-- What a script does to a group that is off on `off`.  It may be turned off where it is off, and
it is turned on only where it is off. -/
inductive OffStep : Option String → Script → ScriptReply → Option String → Prop
  | disable {off : Option String} {script : Script} {reply : ScriptReply}
      (hscript : script.enable = false) (hfree : off = none ∨ off = some script.adapter)
      (hsuccess : reply.success = true) : OffStep off script reply (some script.adapter)
  | disableFailed {off : Option String} {script : Script} {reply : ScriptReply}
      (hscript : script.enable = false) (hfree : off = none ∨ off = some script.adapter)
      (hsuccess : reply.success = false) : OffStep off script reply off
  | enable {script : Script} {reply : ScriptReply} (hscript : script.enable = true) :
      OffStep (some script.adapter) script reply none

/-- A script that enables takes effect, and one that disables does so only if it says so. -/
def TakesEffect (e : Script × ScriptReply) : Prop :=
  if e.1.enable then ∀ setting, e.2.took setting = true
  else e.2.success = false → ∀ setting, e.2.took setting = false

theorem takesEffect_allTaken (script : Script) :
    TakesEffect (script, ⟨fun _ => true, true⟩) := by
  rw [TakesEffect]
  split
  · exact fun _ => rfl
  · exact fun h => Bool.noConfusion h

/-- A setting is what it was at first, or on, or off where its group is off. -/
def SettingIs (setting : AdapterSetting) (adapter : String) (first value : Nat)
    (off : Option String) : Prop :=
  value = first ∨ value = setting.enabledValue ∨ value = 0 ∧ off = some adapter

theorem offStep_setting {off off' : Option String} {script : Script} {reply : ScriptReply}
    {setting : AdapterSetting} {adapter : String} {first : Nat} {adapters : Adapters}
    (h : OffStep off script reply off') (heffect : TakesEffect (script, reply))
    (hgroup : script.group = setting.group)
    (hs : SettingIs setting adapter first (adapters adapter setting) off) :
    SettingIs setting adapter first (script.run reply adapters adapter setting) off' := by
  rw [Script.run, lookup_writes, if_pos hgroup.symm, Option.getD_some]
  cases h with
  | disable hscript hfree hsuccess =>
    rw [hscript]
    split
    · rename_i hwritten
      exact Or.inr (Or.inr ⟨rfl, hwritten.1 ▸ rfl⟩)
    · rcases hs with hs | hs | ⟨hs, hoff⟩
      · exact Or.inl hs
      · exact Or.inr (Or.inl hs)
      · refine Or.inr (Or.inr ⟨hs, ?_⟩)
        rcases hfree with hfree | hfree
        · rw [hfree] at hoff
          cases hoff
        · exact hfree ▸ hoff
  | disableFailed hscript hfree hsuccess =>
    rw [TakesEffect, hscript, if_neg Bool.false_ne_true] at heffect
    rw [if_neg fun hwritten => Bool.false_ne_true ((heffect hsuccess setting).symm.trans hwritten.2)]
    exact hs
  | enable hscript =>
    rw [TakesEffect, hscript, if_pos rfl] at heffect
    rw [hscript]
    split
    · exact Or.inr (Or.inl rfl)
    · rename_i hother
      rcases hs with hs | hs | ⟨hs, hoff⟩
      · exact Or.inl hs
      · exact Or.inr (Or.inl hs)
      · exact absurd ⟨(Option.some.inj hoff).symm, heffect setting⟩ hother

/-- **Where a group is off nowhere, each of its settings is as at first, or on.** -/
theorem run_settings {off off' : Option String} {log : ScriptLog} {setting : AdapterSetting}
    {adapter : String} {first : Nat} {adapters : Adapters} (hrun : Run OffStep off log off')
    (heffect : ∀ e ∈ log, TakesEffect e) (hgroup : ∀ e ∈ log, e.1.group = setting.group)
    (hs : SettingIs setting adapter first (adapters adapter setting) off) :
    SettingIs setting adapter first (runScripts log adapters adapter setting) off' := by
  induction hrun generalizing adapters with
  | nil off => exact hs
  | cons h _ ih =>
    obtain ⟨heffect, hrest⟩ := List.forall_mem_cons.mp heffect
    obtain ⟨hgroup, hgroups⟩ := List.forall_mem_cons.mp hgroup
    exact ih hrest hgroups (offStep_setting h heffect hgroup hs)

end SwiftTunnel
