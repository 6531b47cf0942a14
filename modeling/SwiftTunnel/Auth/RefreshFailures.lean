/-
# Counting the failures of a token refresh

`auth/storage.rs`: the failures are kept in a file, as their number and the time of the first one.
A record whose first failure is more than an hour old is read as none.

What the file system does is an argument of each call, and the JSON of a record is a parameter
(`RecordCodec`).  A time is in nanoseconds; a call that opens a record reads the clock twice.

What is counted is a window in the sense of `Window`: it opens with a failure, lasts for an hour, and
is closed by a reset.  A file represents a window (`Represents`), and each operation takes the file
from one window to the next (`perform_represents`), so after any operations what is read is what the
window counts.

* `refresh_failures_counted`: with a working file system, the number that is read is that of the
  failures since the later of the last reset and the opening of the window, up to the greatest number
  of 32 bits.

With writes that fail nothing is claimed here; `Restart` says what a run of refreshes with failing
writes leaves of the count.
-/
import Mathlib.Algebra.Order.Group.Int
import Mathlib.Data.Nat.Pairing
import Mathlib.Logic.Equiv.Nat
import SwiftTunnel.Lib.Window
import SwiftTunnel.Auth.Storage

namespace SwiftTunnel

open Rust

/-! ## 1. The record and its file -/

structure RefreshFailureRecord where
  count : UInt32
  firstFailureAt : Int
  deriving DecidableEq, Repr

/-- `REFRESH_FAILURE_WINDOW`. -/
def refreshFailureWindow : Int := 60 * 60 * 1000000000

/-- `serde_json` on a record. -/
structure RecordCodec where
  /-- `serde_json::to_string`. -/
  toText : RefreshFailureRecord → Except String String
  /-- `serde_json::from_str`. -/
  fromText : String → Option RefreshFailureRecord
  fromText_toText : ∀ record json, toText record = .ok json → fromText json = some record

/-- What the file system answers during one call. -/
structure RefreshIo where
  /-- `path.exists()` sees a file that is there. -/
  stat : Bool
  read : Bool
  write : FileWrite String
  remove : Bool
  removeLegacy : Bool
  deriving DecidableEq, Repr

def RefreshIo.working : RefreshIo := ⟨true, true, .written, true, true⟩

/-- `refresh_failures.json` and `refresh_failures.txt`. -/
structure RefreshFiles where
  failures : Option String
  legacyFailures : Option String
  deriving DecidableEq, Repr

/-- `u32::saturating_add(1)`. -/
def saturatingSucc (n : UInt32) : UInt32 := if n = 4294967295 then n else n + 1

namespace RefreshFiles

variable (codec : RecordCodec) (io : RefreshIo)

/-- `remove_file` on the file of old versions. -/
def removeLegacy (f : RefreshFiles) : RefreshFiles :=
  if io.removeLegacy then { f with legacyFailures := none } else f

/-- `read_refresh_record`. -/
def readRefreshRecord (now : Int) (f : RefreshFiles) :
    Option RefreshFailureRecord × RefreshFiles :=
  let f := f.removeLegacy io
  match f.failures with
  | none => (none, f)
  | some raw =>
    if !io.stat then (none, f)
    else if !io.read then (none, f)
    else match codec.fromText raw with
      | none => (none, f)
      | some record =>
        if refreshFailureWindow < now - record.firstFailureAt then (none, f) else (some record, f)

/-- `write_refresh_record`; its errors are only logged. -/
def writeRefreshRecord (record : RefreshFailureRecord) (f : RefreshFiles) : RefreshFiles :=
  match codec.toText record with
  | .error _ => f
  | .ok json => match io.write with
    | .written => { f with failures := some json }
    | .failed _ => f
    | .torn _ left => { f with failures := some left }

/-- `increment_refresh_failures`; `opened` is the clock when a new record is made. -/
def incrementRefreshFailures (now opened : Int) (f : RefreshFiles) : UInt32 × RefreshFiles :=
  match f.readRefreshRecord codec io now with
  | (some record, f) =>
    let record := { record with count := saturatingSucc record.count }
    (record.count, f.writeRefreshRecord codec io record)
  | (none, f) => (1, f.writeRefreshRecord codec io ⟨1, opened⟩)

/-- `get_refresh_failures`. -/
def getRefreshFailures (now : Int) (f : RefreshFiles) : UInt32 × RefreshFiles :=
  match f.readRefreshRecord codec io now with
  | (some record, f) => (record.count, f)
  | (none, f) => (0, f)

/-- `reset_refresh_failures`. -/
def resetRefreshFailures (f : RefreshFiles) : RefreshFiles :=
  let f := if f.failures.isSome && io.stat && io.remove then { f with failures := none } else f
  f.removeLegacy io

end RefreshFiles

/-! ## 2. Runs -/

inductive RefreshOp where
  | increment (now opened : Int)
  | get (now : Int)
  | reset (now : Int)
  deriving DecidableEq, Repr

/-- The operation as an event of the window. -/
def RefreshOp.event : RefreshOp → Window.Event Int
  | .increment now opened => .count now opened
  | .get now => .look now
  | .reset now => .reset now

/-- One operation, with a working file system. -/
def RefreshFiles.perform (codec : RecordCodec) (f : RefreshFiles) : RefreshOp → RefreshFiles
  | .increment now opened => (f.incrementRefreshFailures codec .working now opened).2
  | .get now => (f.getRefreshFailures codec .working now).2
  | .reset _ => f.resetRefreshFailures .working

def RefreshFiles.performAll (codec : RecordCodec) (f : RefreshFiles) (ops : List RefreshOp) :
    RefreshFiles := ops.foldl (RefreshFiles.perform codec) f

/-- The number of failures as the record has it. -/
def countedFailures (n : Nat) : UInt32 := UInt32.ofNat (min n 4294967295)

theorem saturatingSucc_counted (n : Nat) :
    saturatingSucc (countedFailures n) = countedFailures (n + 1) := by
  have hnat : (countedFailures n).toNat = min n 4294967295 :=
    UInt32.toNat_ofNat_of_lt' (Nat.lt_succ_of_le (Nat.min_le_right _ _))
  by_cases hfull : 4294967295 ≤ n
  · have hn : countedFailures n = 4294967295 := by
      rw [countedFailures, Nat.min_eq_right hfull]
      rfl
    rw [saturatingSucc, if_pos hn, hn, countedFailures, Nat.min_eq_right (Nat.le_succ_of_le hfull)]
    rfl
  · have hn : ¬ countedFailures n = 4294967295 := by
      intro heq
      rw [heq] at hnat
      have h32 : (4294967295 : UInt32).toNat = 4294967295 := rfl
      omega
    rw [saturatingSucc, if_neg hn, countedFailures, countedFailures, Nat.min_eq_left (by omega),
      Nat.min_eq_left (by omega), UInt32.ofNat_add]
    rfl

section Runs

variable {codec : RecordCodec}

/-- The file holds what a window counts: nothing, or its number of failures and its opening. -/
def Represents (codec : RecordCodec) (w : List Int) (f : RefreshFiles) : Prop :=
  match w with
  | [] => f.failures = none
  | opened :: _ => ∃ raw, f.failures = some raw ∧
      codec.fromText raw = some ⟨countedFailures w.length, opened⟩

/-- **What is read of a window**: its record while it is open. -/
theorem readRefreshRecord_represents {w : List Int} {f : RefreshFiles}
    (h : Represents codec w f) (now : Int) :
    f.readRefreshRecord codec .working now =
      (if Window.isOpen refreshFailureWindow w now then
        w.head?.map fun opened => ⟨countedFailures w.length, opened⟩ else none,
        f.removeLegacy .working) := by
  rw [RefreshFiles.readRefreshRecord]
  cases w with
  | nil =>
    have hfile : (f.removeLegacy .working).failures = none := h
    simp [hfile]
  | cons opened w =>
    obtain ⟨raw, hraw, hrecord⟩ := h
    have hfile : (f.removeLegacy .working).failures = some raw := hraw
    have hopen : Window.isOpen refreshFailureWindow (opened :: w) now =
        decide (now - opened ≤ refreshFailureWindow) := rfl
    simp only [hfile, hrecord, hopen, List.head?_cons, Option.map_some]
    rw [if_neg (by decide), if_neg (by decide)]
    by_cases hold : refreshFailureWindow < now - opened
    · rw [if_pos hold, if_neg (by rw [decide_eq_true_iff]; exact Int.not_le.mpr hold)]
    · rw [if_neg hold, if_pos (decide_eq_true (Int.not_lt.mp hold))]

theorem writeRefreshRecord_represents {json : String} {opened : Int} {w : List Int}
    {f : RefreshFiles}
    (hjson : codec.toText ⟨countedFailures (opened :: w).length, opened⟩ = .ok json) :
    Represents codec (opened :: w)
      (f.writeRefreshRecord codec .working ⟨countedFailures (opened :: w).length, opened⟩) := by
  rw [RefreshFiles.writeRefreshRecord, hjson]
  exact ⟨json, rfl, codec.fromText_toText _ _ hjson⟩

/-- **What the operations return**, of a file that represents a window. -/
theorem getRefreshFailures_represents {w : List Int} {f : RefreshFiles} (h : Represents codec w f)
    (now : Int) :
    (f.getRefreshFailures codec .working now).1 =
      if Window.isOpen refreshFailureWindow w now then countedFailures w.length else 0 := by
  rw [RefreshFiles.getRefreshFailures, readRefreshRecord_represents h]
  cases w with
  | nil => rfl
  | cons opened w =>
    cases Window.isOpen refreshFailureWindow (opened :: w) now <;> rfl

theorem incrementRefreshFailures_represents {w : List Int} {f : RefreshFiles}
    (h : Represents codec w f) (now opened : Int) :
    (f.incrementRefreshFailures codec .working now opened).1 =
      if Window.isOpen refreshFailureWindow w now then countedFailures (w.length + 1) else 1 := by
  rw [RefreshFiles.incrementRefreshFailures, readRefreshRecord_represents h]
  cases w with
  | nil => rfl
  | cons o w =>
    cases Window.isOpen refreshFailureWindow (o :: w) now with
    | false => rfl
    | true => exact saturatingSucc_counted _

theorem represents_congr {w : List Int} {f f' : RefreshFiles} (hfile : f'.failures = f.failures)
    (h : Represents codec w f) : Represents codec w f' := by
  cases w with
  | nil => exact hfile.trans h
  | cons opened w =>
    obtain ⟨raw, hraw, hrecord⟩ := h
    exact ⟨raw, hfile.trans hraw, hrecord⟩

theorem resetRefreshFailures_failures (f : RefreshFiles) :
    (f.resetRefreshFailures .working).failures = none := by
  obtain ⟨failures, legacyFailures⟩ := f
  cases failures <;> rfl

/-- **Each operation takes the file from one window to the next.** -/
theorem perform_represents (hjson : ∀ record, ∃ json, codec.toText record = .ok json)
    {w : List Int} {f : RefreshFiles} (h : Represents codec w f) (op : RefreshOp) :
    Represents codec (Window.step refreshFailureWindow w op.event) (f.perform codec op) := by
  have hlegacy : Represents codec w (f.removeLegacy .working) := represents_congr rfl h
  cases op with
  | get now =>
    have hfiles : (f.getRefreshFailures codec .working now).2 = f.removeLegacy .working := by
      rw [RefreshFiles.getRefreshFailures, readRefreshRecord_represents h]
      cases w with
      | nil => rfl
      | cons o w => cases Window.isOpen refreshFailureWindow (o :: w) now <;> rfl
    rw [RefreshFiles.perform, hfiles]
    exact hlegacy
  | reset now => exact resetRefreshFailures_failures f
  | increment now opened =>
    rw [RefreshFiles.perform, RefreshFiles.incrementRefreshFailures,
      readRefreshRecord_represents h, RefreshOp.event, Window.step]
    cases w with
    | nil =>
      obtain ⟨json, hjson⟩ := hjson ⟨1, opened⟩
      exact writeRefreshRecord_represents hjson
    | cons o w =>
      cases Window.isOpen refreshFailureWindow (o :: w) now with
      | false =>
        obtain ⟨json, hjson⟩ := hjson ⟨1, opened⟩
        exact writeRefreshRecord_represents hjson
      | true =>
        obtain ⟨json, hjson⟩ := hjson ⟨countedFailures (o :: (w ++ [now])).length, o⟩
        have hcount : saturatingSucc (countedFailures (o :: w).length) =
            countedFailures (o :: (w ++ [now])).length := by
          rw [saturatingSucc_counted, List.length_cons, List.length_cons, List.length_append,
            List.length_singleton]
        simp only [if_true, List.head?_cons, Option.map_some, hcount, List.cons_append]
        exact writeRefreshRecord_represents hjson

/-- After any operations, from no record on. -/
theorem performAll_represents (hjson : ∀ record, ∃ json, codec.toText record = .ok json)
    (legacy : Option String) (ops : List RefreshOp) :
    Represents codec (Window.window refreshFailureWindow (ops.map RefreshOp.event))
      (RefreshFiles.performAll codec ⟨none, legacy⟩ ops) := by
  induction ops using List.reverseRecOn with
  | nil => rfl
  | append_singleton ops op ih =>
    rw [List.map_append, List.map_singleton, Window.window_concat, RefreshFiles.performAll,
      List.foldl_append]
    exact perform_represents hjson ih op

/-- **The failures of a window are counted, and no others.**  With a working file system and calls
in the order of the clock, what is read is the number of failures since the later of the last
reset and the opening of the window, while that is not more than an hour ago; the failures counted
are at most an hour old, and one that finds no window open counts as the first. -/
theorem refresh_failures_counted (hjson : ∀ record, ∃ json, codec.toText record = .ok json)
    (legacy : Option String) {ops : List RefreshOp}
    (horder : ((ops.map RefreshOp.event).flatMap Window.Event.times).Pairwise (· ≤ ·)) (t : Int) :
    let events := ops.map RefreshOp.event
    let w := Window.window refreshFailureWindow events
    let f := RefreshFiles.performAll codec ⟨none, legacy⟩ ops
    ∃ before after, events = before ++ after ∧ Window.Begins refreshFailureWindow before after ∧
      w.length = after.countP Window.Event.isCount ∧
      (f.getRefreshFailures codec .working t).1 =
        (if Window.isOpen refreshFailureWindow w t then
          countedFailures (after.countP Window.Event.isCount) else 0) ∧
      (∀ opened, (f.incrementRefreshFailures codec .working t opened).1 =
        if Window.isOpen refreshFailureWindow w t then
          countedFailures (after.countP Window.Event.isCount + 1) else 1) ∧
      (Window.isOpen refreshFailureWindow w t = true → ∀ x ∈ w, t - x ≤ refreshFailureWindow) := by
  intro events w f
  obtain ⟨before, after, hsplit, hbegins, hlen⟩ := Window.window_since refreshFailureWindow events
  have hfile : Represents codec w f := performAll_represents hjson legacy ops
  refine ⟨before, after, hsplit, hbegins, hlen, ?_, fun opened => ?_, ?_⟩
  · rw [getRefreshFailures_represents hfile, ← hlen]
  · rw [incrementRefreshFailures_represents hfile, ← hlen]
  · exact fun hopen x hx => Window.age_le horder hopen hx

end Runs

/-- The records of two failures from the epoch on, as JSON. -/
def recordText1 : String := "\x7b\"count\":1,\"first_failure_at\":\"1970-01-01T00:00:00Z\"\x7d"

def recordText2 : String := "\x7b\"count\":2,\"first_failure_at\":\"1970-01-01T00:00:00Z\"\x7d"

/-- Any other record as a row of marks. -/
def recordMarks (record : RefreshFailureRecord) : String :=
  String.ofList (List.replicate
    (Nat.pair record.count.toNat (Equiv.intEquivNat record.firstFailureAt)) 'x')

def recordOfMarks (text : String) : RefreshFailureRecord :=
  let p := Nat.unpair text.length
  ⟨UInt32.ofNat p.1, Equiv.intEquivNat.symm p.2⟩

theorem recordOfMarks_recordMarks (record : RefreshFailureRecord) :
    recordOfMarks (recordMarks record) = record := by
  simp [recordOfMarks, recordMarks]

theorem recordMarks_ne (record : RefreshFailureRecord) {text : String}
    (h : '\x7b' ∈ text.toList) : recordMarks record ≠ text := by
  rintro rfl
  rw [recordMarks, String.toList_ofList] at h
  exact absurd (List.eq_of_mem_replicate h) (by decide)

def sampleRecordCodec : RecordCodec where
  toText record :=
    .ok (if record = ⟨1, 0⟩ then recordText1 else if record = ⟨2, 0⟩ then recordText2
      else recordMarks record)
  fromText text :=
    if text = recordText1 then some ⟨1, 0⟩ else if text = recordText2 then some ⟨2, 0⟩
    else some (recordOfMarks text)
  fromText_toText := by
    have hne : recordText2 ≠ recordText1 := by decide
    intro record json h
    obtain rfl := Except.ok.inj h
    by_cases h₁ : record = ⟨1, 0⟩
    · rw [if_pos h₁, if_pos rfl, h₁]
    · by_cases h₂ : record = ⟨2, 0⟩
      · rw [if_neg h₁, if_pos h₂, if_neg hne, if_pos rfl, h₂]
      · rw [if_neg h₁, if_neg h₂, if_neg (recordMarks_ne record (by decide)),
          if_neg (recordMarks_ne record (by decide)), recordOfMarks_recordMarks]

/-- Two failures, half an hour apart: an hour after the first one both still count. -/
theorem two_failures_counted :
    ((RefreshFiles.performAll sampleRecordCodec ⟨none, some "42"⟩
        [.increment 0 0, .increment 1800000000000 1800000000000]).getRefreshFailures
          sampleRecordCodec .working 3600000000000).1 = 2 := by
  obtain ⟨_, _, -, -, hlen, hget, -⟩ := @refresh_failures_counted sampleRecordCodec
    (fun _ => ⟨_, rfl⟩) (some "42")
    [.increment 0 0, .increment 1800000000000 1800000000000] (by decide) 3600000000000
  rw [hget, ← hlen]
  decide

end SwiftTunnel
