/-
# Blocks of tagged entries

An entry is a tag, the length of its body in two bytes, and the body; a block is entries one
behind the other.  `Finds` is the search for the first entry with a tag, as a relation: it goes
by what stands in the buffer and asks of each entry that it ends inside the block.

* `finds_iff_of_header`: what an entry's header says decides how the search goes on.
* `Finds.append`: more bytes and a later end of the block change nothing that was found.
* `loop_iff`: a loop that turns like the search has the result that the search leads to.
* `finds_of_entries`, `not_finds_of_entries`: on an encoded list the search finds the first
  entry with the tag, or nothing where no entry has it.
-/
import SwiftTunnel.Lib.Layout

namespace Rust

section

variable {bs tag : Bytes} {stop i s l : Nat}

/-! ## 1. The search -/

/-- From `i` on, the first entry with the tag has its body at `s`, and the body has length `l`. -/
inductive Finds (bs tag : Bytes) (stop : Nat) : Nat → Nat → Nat → Prop
  | here {i : Nat} {n : UInt16} (hat : HoldsAt bs i (tag ++ wordBytes n))
      (hstop : i + tag.length + 2 + n.toNat ≤ stop) :
      Finds bs tag stop i (i + tag.length + 2) n.toNat
  | next {i s l : Nat} {other : Bytes} {n : UInt16} (hlen : other.length = tag.length)
      (hne : other ≠ tag) (hat : HoldsAt bs i (other ++ wordBytes n))
      (hstop : i + tag.length + 2 + n.toNat ≤ stop)
      (hrest : Finds bs tag stop (i + tag.length + 2 + n.toNat) s l) : Finds bs tag stop i s l

/-- What is found lies behind a header and inside the block. -/
theorem Finds.bounds (h : Finds bs tag stop i s l) : i + tag.length + 2 ≤ s ∧ s + l ≤ stop := by
  induction h with
  | here _ hstop => exact ⟨Nat.le_refl _, hstop⟩
  | next _ _ _ _ _ ih => omega

/-- **More bytes and a later end change nothing that was found.** -/
theorem Finds.append {stop' : Nat} (h : Finds bs tag stop i s l) (hstop' : stop ≤ stop')
    (more : Bytes) : Finds (bs ++ more) tag stop' i s l := by
  induction h with
  | here hat hstop => exact .here (hat.append more) (Nat.le_trans hstop hstop')
  | next hlen hne hat hstop _ ih =>
    exact .next hlen hne (hat.append more) (Nat.le_trans hstop hstop') ih

/-- **One turn**: the header at the place decides how the search goes on. -/
theorem finds_iff_of_header {t : Bytes} {n : UInt16} (hlen : t.length = tag.length)
    (hat : HoldsAt bs i (t ++ wordBytes n)) :
    Finds bs tag stop i s l ↔ i + tag.length + 2 + n.toNat ≤ stop ∧
      (t = tag ∧ s = i + tag.length + 2 ∧ l = n.toNat ∨
        t ≠ tag ∧ Finds bs tag stop (i + tag.length + 2 + n.toNat) s l) := by
  -- At one place stands one header.
  have hsame : ∀ {t' : Bytes} {n' : UInt16}, t'.length = tag.length →
      HoldsAt bs i (t' ++ wordBytes n') → t' = t ∧ n' = n := by
    intro t' n' hlen' hat'
    have hlens : t'.length = t.length := hlen'.trans hlen.symm
    have heq := hat'.unique hat (by simp [hlens])
    obtain ⟨ht, hn⟩ := List.append_inj heq hlens
    exact ⟨ht, wordBytes_inj.mp hn⟩
  constructor
  · intro h
    cases h with
    | here hat' hstop =>
      obtain ⟨rfl, rfl⟩ := hsame rfl hat'
      exact ⟨hstop, .inl ⟨rfl, rfl, rfl⟩⟩
    | next hlen' hne hat' hstop hrest =>
      obtain ⟨rfl, rfl⟩ := hsame hlen' hat'
      exact ⟨hstop, .inr ⟨hne, hrest⟩⟩
  · rintro ⟨hstop, ⟨rfl, rfl, rfl⟩ | ⟨hne, hrest⟩⟩
    · exact .here hat hstop
    · exact .next hlen hne hat hstop hrest

/-- There is one first entry with the tag. -/
theorem Finds.unique {s' l' : Nat} (h : Finds bs tag stop i s l)
    (h' : Finds bs tag stop i s' l') : s = s' ∧ l = l' := by
  induction h with
  | here hat _ =>
    obtain ⟨-, ⟨-, hs, hl⟩ | ⟨hne, -⟩⟩ := (finds_iff_of_header rfl hat).mp h'
    · exact ⟨hs.symm, hl.symm⟩
    · exact absurd rfl hne
  | next hlen hne hat _ _ ih =>
    obtain ⟨-, ⟨heq, -⟩ | ⟨-, hrest⟩⟩ := (finds_iff_of_header hlen hat).mp h'
    · exact absurd heq hne
    · exact ih hrest

/-- **A loop that turns like the search** has a result where the search finds an entry and the
use of its body has that result. -/
theorem loop_iff {α : Type} {loop : Nat → Nat → Checked (Option α)}
    (use : Nat → Nat → Checked (Option α)) (head : Nat → Bytes) (len : Nat → UInt16)
    (hfuel : ∀ i, loop 0 i = .error .outOfFuel)
    (hhead : ∀ i, i + tag.length + 2 ≤ stop →
      (head i).length = tag.length ∧ HoldsAt bs i (head i ++ wordBytes (len i)))
    (hend : ∀ fuel i, stop < i + tag.length + 2 → loop (fuel + 1) i = .ok none)
    (hover : ∀ fuel i, i + tag.length + 2 ≤ stop → stop < i + tag.length + 2 + (len i).toNat →
      loop (fuel + 1) i = .ok none)
    (hturn : ∀ fuel i, i + tag.length + 2 + (len i).toNat ≤ stop → loop (fuel + 1) i =
      if head i = tag then use (i + tag.length + 2) (len i).toNat
      else loop fuel (i + tag.length + 2 + (len i).toNat)) {a : α} {fuel : Nat} :
    ∀ {i : Nat}, stop < i + fuel → (loop fuel i = .ok (some a) ↔
      ∃ s l, Finds bs tag stop i s l ∧ use s l = .ok (some a)) := by
  induction fuel with
  | zero =>
    intro i hi
    rw [hfuel]
    constructor
    · intro herr
      cases herr
    · rintro ⟨s, l, hfinds, -⟩
      have hbounds := hfinds.bounds
      omega
  | succ fuel ih =>
    intro i hi
    by_cases hheader : i + tag.length + 2 ≤ stop
    · obtain ⟨hlen, hat⟩ := hhead i hheader
      simp only [finds_iff_of_header hlen hat]
      by_cases hbody : i + tag.length + 2 + (len i).toNat ≤ stop
      · rw [hturn fuel i hbody]
        by_cases htag : head i = tag
        · simp [hbody, htag]
        · rw [if_neg htag, ih (by omega)]
          simp [hbody, htag]
      · rw [hover fuel i hheader (Nat.lt_of_not_le hbody)]
        simp [hbody]
    · rw [hend fuel i (Nat.lt_of_not_le hheader)]
      constructor
      · intro hnone
        cases hnone
      · rintro ⟨s, l, hfinds, -⟩
        have hbounds := hfinds.bounds
        omega

end

/-! ## 2. Encoded lists -/

section

variable {τ : Type} {code : τ → Bytes} {k : Nat} {bs : Bytes} {stop i s l : Nat}

/-- A tag, the length of the body, and the body. -/
def entryBytes (code : τ → Bytes) (e : τ × Bytes) : Bytes :=
  code e.1 ++ (wordBytes (UInt16.ofNat e.2.length) ++ e.2)

/-- Entries one behind the other. -/
def entriesBytes (code : τ → Bytes) (es : List (τ × Bytes)) : Bytes := es.flatMap (entryBytes code)

theorem entriesBytes_cons (e : τ × Bytes) (es : List (τ × Bytes)) :
    entriesBytes code (e :: es) = entryBytes code e ++ entriesBytes code es := rfl

theorem length_entryBytes (hcode : ∀ t, (code t).length = k) (e : τ × Bytes) :
    (entryBytes code e).length = k + 2 + e.2.length := by
  simp only [entryBytes, List.length_append, hcode, length_wordBytes]
  omega

/-- A body is not longer than the block that it is in. -/
theorem length_body_le (code : τ → Bytes) {e : τ × Bytes} {es : List (τ × Bytes)} (h : e ∈ es) :
    e.2.length ≤ (entriesBytes code es).length := by
  have hentry : (entryBytes code e).Sublist (entriesBytes code es) :=
    List.sublist_flatten_of_mem (List.mem_map_of_mem (f := entryBytes code) h)
  have hle := hentry.length_le
  simp only [entryBytes, List.length_append] at hle
  omega

/-- **One entry of an encoded list.** -/
theorem finds_iff_of_entry (hcode : ∀ t, (code t).length = k) {t : τ} {e : τ × Bytes} {rest : Bytes}
    (hfits : e.2.length < 65536) (hat : HoldsAt bs i (entryBytes code e ++ rest)) :
    Finds bs (code t) stop i s l ↔ i + (entryBytes code e).length ≤ stop ∧
      (code e.1 = code t ∧ s = i + k + 2 ∧ l = e.2.length ∨
        code e.1 ≠ code t ∧ Finds bs (code t) stop (i + (entryBytes code e).length) s l) := by
  have hn : (UInt16.ofNat e.2.length).toNat = e.2.length := UInt16.toNat_ofNat_of_lt' hfits
  rw [entryBytes, List.append_assoc, List.append_assoc, ← List.append_assoc] at hat
  have hheader := (holdsAt_append.mp hat).1
  rw [finds_iff_of_header ((hcode _).trans (hcode _).symm) hheader, hcode, hn,
    length_entryBytes hcode]
  simp only [Nat.add_assoc]

/-- **The search finds the first entry with the tag**, and its body stands there. -/
theorem finds_of_entries (hcode : ∀ t, (code t).length = k) {t : τ} {body : Bytes}
    {before after : List (τ × Bytes)} (hbefore : ∀ e ∈ before, code e.1 ≠ code t)
    (hat : HoldsAt bs i (entriesBytes code (before ++ (t, body) :: after)))
    (hfits : ∀ e ∈ before ++ (t, body) :: after, e.2.length < 65536)
    (hstop : i + (entriesBytes code (before ++ (t, body) :: after)).length ≤ stop) :
    ∃ s, Finds bs (code t) stop i s body.length ∧ HoldsAt bs s body := by
  induction before generalizing i with
  | nil =>
    rw [List.nil_append, entriesBytes_cons] at hat hstop
    rw [List.length_append] at hstop
    have hbody := (holdsAt_append.mp hat).1
    rw [entryBytes, ← List.append_assoc, holdsAt_append] at hbody
    refine ⟨i + k + 2, (finds_iff_of_entry hcode (hfits (t, body) (by simp)) hat).mpr
      ⟨by omega, .inl ⟨rfl, rfl, rfl⟩⟩, ?_⟩
    have hlen : (code t ++ wordBytes (UInt16.ofNat body.length)).length = k + 2 := by
      simp [hcode]
    rw [Nat.add_assoc, ← hlen]
    exact hbody.2
  | cons e before ih =>
    rw [List.cons_append, entriesBytes_cons] at hat hstop
    rw [List.length_append] at hstop
    obtain ⟨s, hfinds, hs⟩ := ih (fun e he => hbefore e (List.mem_cons_of_mem _ he))
      (holdsAt_append.mp hat).2 (fun e he => hfits e (List.mem_cons_of_mem _ he)) (by omega)
    exact ⟨s, (finds_iff_of_entry hcode (hfits e (by simp)) hat).mpr
      ⟨by omega, .inr ⟨hbefore e (by simp), hfinds⟩⟩, hs⟩

/-- **Where no entry has the tag, nothing is found.** -/
theorem not_finds_of_entries (hcode : ∀ t, (code t).length = k) {t : τ}
    {es : List (τ × Bytes)} (hes : ∀ e ∈ es, code e.1 ≠ code t)
    (hat : HoldsAt bs i (entriesBytes code es)) (hfits : ∀ e ∈ es, e.2.length < 65536)
    (hstop : stop ≤ i + (entriesBytes code es).length) : ¬ Finds bs (code t) stop i s l := by
  induction es generalizing i with
  | nil =>
    intro h
    have hbounds := h.bounds
    rw [entriesBytes, List.flatMap_nil, List.length_nil] at hstop
    omega
  | cons e es ih =>
    rw [entriesBytes_cons] at hat hstop
    rw [List.length_append, ← Nat.add_assoc] at hstop
    rw [finds_iff_of_entry hcode (hfits e (by simp)) hat]
    rintro ⟨-, ⟨heq, -⟩ | ⟨-, hrest⟩⟩
    · exact hes e (by simp) heq
    · exact ih (fun e he => hes e (List.mem_cons_of_mem _ he)) (holdsAt_append.mp hat).2
        (fun e he => hfits e (List.mem_cons_of_mem _ he)) hstop hrest

end

end Rust
