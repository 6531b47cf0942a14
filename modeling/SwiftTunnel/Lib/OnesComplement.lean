/-
# Ones' complement sums of 16-bit words

The Internet checksum of some bytes is the complement of the sum of their 16-bit words, taken
with the carries added back in.  Adding a carry back in keeps a sum modulo 65535
(`foldCarry_cast`), so the sum lives in `ZMod 65535`, where a word and its complement are
opposite.  Two words stand for zero there, `0` and `0xFFFF`; a sum that is not zero as a number
never folds to `0` (`foldCarry_eq_zero`), and so a complement is never `0xFFFF`
(`eq_complement_iff`).

A receiver adds back each carry at once, a sender often all of them at the end.  The two sums agree
in their residue and in being zero (`onesSum_spec`), and that is all that a check looks at.

* `wordSum_append`, `wordSum_put16`: sums of bytes in parts, and with one word replaced.
* `foldCarry_twice_lt`: two folds make a word of a sum of 32 bits.
* `eq_complement_iff`: which word is the complement of a sum, by residues alone.
* `verifies_iff`: when a receiver accepts, by residues alone.
-/
import Mathlib.Data.ZMod.Basic
import SwiftTunnel.Lib.Slice

namespace Rust

/-! ## 1. Sums of words -/

/-- The sum of the big-endian words of some bytes; an odd last byte is the high half of a word. -/
def wordSum : Bytes → Nat
  | [] => 0
  | [hi] => hi.toNat * 256
  | hi :: lo :: rest => (be16 hi lo).toNat + wordSum rest

@[simp] theorem wordSum_nil : wordSum [] = 0 := rfl

@[simp] theorem wordSum_singleton (hi : UInt8) : wordSum [hi] = hi.toNat * 256 := rfl

@[simp] theorem wordSum_cons_cons (hi lo : UInt8) (rest : Bytes) :
    wordSum (hi :: lo :: rest) = (be16 hi lo).toNat + wordSum rest := rfl

/-- Bytes in front take part on their own if they are whole words. -/
theorem wordSum_append {xs : Bytes} (h : xs.length % 2 = 0) (ys : Bytes) :
    wordSum (xs ++ ys) = wordSum xs + wordSum ys := by
  induction xs using wordSum.induct with
  | case1 => simp
  | case2 hi => simp at h
  | case3 hi lo rest ih =>
    have hrest : rest.length % 2 = 0 := by
      simp only [List.length_cons] at h
      omega
    simp only [List.cons_append, wordSum_cons_cons, ih hrest]
    omega

theorem wordSum_le (bs : Bytes) : wordSum bs ≤ 65535 * ((bs.length + 1) / 2) := by
  induction bs using wordSum.induct with
  | case1 => simp
  | case2 hi =>
    have := hi.toNat_lt
    simp only [wordSum_singleton, List.length_singleton]
    omega
  | case3 hi lo rest ih =>
    have := (be16 hi lo).toNat_lt
    simp only [wordSum_cons_cons, List.length_cons]
    omega

/-- From a place inside, the next word comes first. -/
theorem wordSum_drop {bs : Bytes} {i : Nat} (h : i + 1 < bs.length) :
    wordSum (bs.drop i) = (be16At bs i).toNat + wordSum (bs.drop (i + 2)) := by
  have h0 : i < bs.length := by omega
  have hi : byteAt bs i = bs[i] := by simp [byteAt, h0]
  have hlo : byteAt bs (i + 1) = bs[i + 1] := by simp [byteAt, h]
  rw [List.drop_eq_getElem_cons h0, List.drop_eq_getElem_cons h, wordSum_cons_cons, be16At, hi, hlo]

theorem wordSum_drop_last {bs : Bytes} {i : Nat} (h : i + 1 = bs.length) :
    wordSum (bs.drop i) = (byteAt bs i).toNat * 256 := by
  have h0 : i < bs.length := by omega
  have hi : byteAt bs i = bs[i] := by simp [byteAt, h0]
  rw [List.drop_eq_getElem_cons h0, List.drop_of_length_le (by omega), wordSum_singleton, hi]

/-- A word at an even place counts in full. -/
theorem wordSum_eq {bs : Bytes} {i : Nat} (heven : i % 2 = 0) (h : i + 1 < bs.length) :
    wordSum bs = (be16At bs i).toNat + wordSum (put16 bs i 0) := by
  have hsplit : ∀ ys : Bytes, ys.length = bs.length →
      wordSum ys = wordSum (ys.take i) + ((be16At ys i).toNat + wordSum (ys.drop (i + 2))) := by
    intro ys hys
    have hlen : (ys.take i).length % 2 = 0 := by
      rw [List.length_take]
      omega
    calc wordSum ys
        = wordSum (ys.take i ++ ys.drop i) := by rw [List.take_append_drop]
      _ = wordSum (ys.take i) + ((be16At ys i).toNat + wordSum (ys.drop (i + 2))) := by
          rw [wordSum_append hlen, wordSum_drop (by omega)]
  have hzero : (0 : UInt16).toNat = 0 := rfl
  rw [hsplit bs rfl, hsplit (put16 bs i 0) (length_put16 _ _ _), take_put16_of_le (Nat.le_refl _),
    drop_put16_of_le (Nat.le_refl _), be16At_put16 h, hzero]
  omega

theorem wordSum_put16 {bs : Bytes} {i : Nat} (heven : i % 2 = 0) (h : i + 1 < bs.length)
    (x : UInt16) : wordSum (put16 bs i x) = x.toNat + wordSum (put16 bs i 0) := by
  rw [wordSum_eq heven (show i + 1 < (put16 bs i x).length by rwa [length_put16]), be16At_put16 h,
    put16_put16]

theorem wordSum_put16_le {bs : Bytes} {i : Nat} (heven : i % 2 = 0) (h : i + 1 < bs.length) :
    65535 + wordSum (put16 bs i 0) ≤ 65535 * ((bs.length + 1) / 2) := by
  have hmax : (0xFFFF : UInt16).toNat = 65535 := rfl
  have hle := wordSum_le (put16 bs i 0xFFFF)
  rwa [wordSum_put16 heven h, hmax, length_put16] at hle

theorem wordSum_replicate (n : Nat) : wordSum (List.replicate (2 * n) 0xFF) = 65535 * n := by
  induction n with
  | zero => rfl
  | succ n ih =>
    have hword : (be16 0xFF 0xFF).toNat = 65535 := rfl
    have hrep : List.replicate (2 * (n + 1)) (0xFF : UInt8) =
        0xFF :: 0xFF :: List.replicate (2 * n) 0xFF := rfl
    rw [hrep, wordSum_cons_cons, ih, hword]
    omega

theorem wordSum_replicate_odd (n : Nat) :
    wordSum (List.replicate (2 * n + 1) 0xFF) = 65535 * n + 65280 := by
  rw [List.replicate_succ', wordSum_append (by simp), wordSum_replicate]
  rfl

/-! ## 2. Carries -/

/-- A sum with its carry added back in. -/
def foldCarry (sum : Nat) : Nat := sum % 65536 + sum / 65536

/-- **Folding keeps the residue.** -/
theorem foldCarry_cast (sum : Nat) : ((foldCarry sum : Nat) : ZMod 65535) = sum := by
  rw [ZMod.natCast_eq_natCast_iff, Nat.ModEq, foldCarry]
  omega

theorem foldCarry_eq_zero {sum : Nat} : foldCarry sum = 0 ↔ sum = 0 := by
  rw [foldCarry]
  omega

/-- A 32-bit sum is a word after two folds. -/
theorem foldCarry_twice_lt {sum : Nat} (h : sum < 2 ^ 32) : foldCarry (foldCarry sum) < 65536 := by
  rw [foldCarry, foldCarry]
  omega

/-! ## 3. Complements -/

/-- A word is opposite to a residue if their sum vanishes. -/
theorem toNat_eq_neg_iff {w : UInt16} {f : Nat} :
    ((w.toNat : Nat) : ZMod 65535) = -(f : ZMod 65535) ↔ (w.toNat + f) % 65535 = 0 := by
  rw [eq_neg_iff_add_eq_zero, ← Nat.cast_add, ZMod.natCast_eq_zero_iff, Nat.dvd_iff_mod_eq_zero]

theorem toNat_complement {f : Nat} (h : f < 65536) : (~~~ UInt16.ofNat f).toNat = 65535 - f := by
  have hsize : UInt16.size = 65536 := rfl
  have hf : (UInt16.ofNat f).toNat = f := UInt16.toNat_ofNat_of_lt' (by omega)
  rw [UInt16.toNat_not, hf, hsize]

/-- **The complement of a sum, by residues**: it is the opposite of the sum, and not the second
zero. -/
theorem eq_complement_iff {f : Nat} (hpos : 0 < f) (hf : f < 65536) {w : UInt16} :
    ~~~ UInt16.ofNat f = w ↔ ((w.toNat : Nat) : ZMod 65535) = -(f : ZMod 65535) ∧ w ≠ 0xFFFF := by
  have hw := w.toNat_lt
  have hmax : w = 0xFFFF ↔ w.toNat = 65535 := UInt16.toNat_inj.symm
  rw [← UInt16.toNat_inj, toNat_complement hf, toNat_eq_neg_iff, ne_eq, hmax]
  omega

/-- The same with the second zero in place of the first. -/
theorem eq_complement_nonzero_iff {f : Nat} (hpos : 0 < f) (hf : f < 65536) {w : UInt16} :
    (if ~~~ UInt16.ofNat f = 0 then 0xFFFF else ~~~ UInt16.ofNat f) = w ↔
      ((w.toNat : Nat) : ZMod 65535) = -(f : ZMod 65535) ∧ w ≠ 0 := by
  have hw := w.toNat_lt
  have hzero : ∀ x : UInt16, x = 0 ↔ x.toNat = 0 := fun x => UInt16.toNat_inj.symm
  have hmax : (0xFFFF : UInt16).toNat = 65535 := rfl
  have hcomp := toNat_complement hf
  rw [toNat_eq_neg_iff, ne_eq, hzero w]
  split
  · rename_i h
    rw [hzero, hcomp] at h
    rw [← UInt16.toNat_inj, hmax]
    omega
  · rename_i h
    rw [hzero, hcomp] at h
    rw [← UInt16.toNat_inj, hcomp]
    omega

/-! ## 4. What a receiver checks -/

/-- The ones' complement sum of the words of some bytes: each carry out of the top is added back
in at the bottom at once. -/
def onesSum : Bytes → Nat
  | [] => 0
  | [hi] => hi.toNat * 256
  | hi :: lo :: rest => foldCarry ((be16 hi lo).toNat + onesSum rest)

theorem onesSum_lt (bs : Bytes) : onesSum bs < 65536 := by
  induction bs using onesSum.induct with
  | case1 => decide
  | case2 hi =>
    have := hi.toNat_lt
    rw [onesSum]
    omega
  | case3 hi lo rest ih =>
    have := (be16 hi lo).toNat_lt
    rw [onesSum, foldCarry]
    omega

/-- **Carries may be added back in at any time**: the residue is that of the plain sum, and so is
being zero. -/
theorem onesSum_spec (bs : Bytes) :
    ((onesSum bs : Nat) : ZMod 65535) = (wordSum bs : Nat) ∧ (onesSum bs = 0 ↔ wordSum bs = 0) := by
  induction bs using onesSum.induct with
  | case1 => exact ⟨rfl, Iff.rfl⟩
  | case2 hi => exact ⟨rfl, Iff.rfl⟩
  | case3 hi lo rest ih =>
    obtain ⟨hcast, hzero⟩ := ih
    rw [onesSum, wordSum_cons_cons, foldCarry_cast, foldCarry_eq_zero]
    constructor
    · push_cast
      rw [hcast]
    · omega

/-- The bytes carry their checksum: all bits of their sum are ones. -/
def Verifies (bs : Bytes) : Prop := onesSum bs = 0xFFFF

instance (bs : Bytes) : Decidable (Verifies bs) := inferInstanceAs (Decidable (_ = _))

/-- **When a sum verifies**, by residues: it vanishes without being zero. -/
theorem verifies_iff {bs : Bytes} :
    Verifies bs ↔ 0 < wordSum bs ∧ ((wordSum bs : Nat) : ZMod 65535) = 0 := by
  obtain ⟨hcast, hzero⟩ := onesSum_spec bs
  have hlt := onesSum_lt bs
  rw [Verifies, ← hcast, ZMod.natCast_eq_zero_iff, Nat.dvd_iff_mod_eq_zero]
  omega

end Rust
