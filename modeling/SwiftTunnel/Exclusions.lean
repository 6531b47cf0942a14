/-
# Wildcard hosts

`exclusions.rs`, `glob_match`: a host of the candidate list against an entry such as
`*.roblox.com`.  The pattern is cut at its stars; the first part has to stand at the beginning
and the last one at the end, and each of the others is taken where it first occurs after the one
before it.

Taking the first occurrence loses no match, since what follows has the more room the earlier it may
begin (`floating_leftmost` of `Wildcard`).  The library has the meaning of a pattern and its parts;
here the loop is shown to compute it.

* `globMatch_iff`: a text matches exactly when it is the pattern with each star replaced by some
  text.

The source counts in bytes.  Positions here are in characters: a text in UTF-8 occurs in another
at whole characters only.
-/
import SwiftTunnel.Lib.Text
import SwiftTunnel.Lib.Wildcard

namespace SwiftTunnel

open Rust Wildcard

/-- The loop over the parts in the middle: where the last of them ends. -/
def skipParts (text : Text) : List Text → Nat → Option Nat
  | [], pos => some pos
  | part :: parts, pos =>
    match find part (text.drop pos) with
    | some idx => skipParts text parts (pos + (idx + part.length))
    | none => none

/-- `glob_match`. -/
def globMatch (text pattern : String) : Bool :=
  if contains pattern "*" = false then text == pattern
  else
    let parts := pattern.toList.splitOn '*'
    let first := parts.headD []
    let last := parts.getLastD []
    if first <+: text.toList then
      match skipParts text.toList parts.tail.dropLast first.length with
      | some pos => decide (last <:+ text.toList.drop pos)
      | none => false
    else false

/-- **The loop misses no match**: parts that float behind a position are those that the loop
finds, and then the last one. -/
theorem skipParts_iff {text last : Text} (parts : List Text) (pos : Nat) :
    Floating (parts ++ [last]) (text.drop pos) ↔
      ∃ stop, skipParts text parts pos = some stop ∧ last <:+ text.drop stop := by
  induction parts generalizing pos with
  | nil =>
    rw [List.nil_append, floating_singleton]
    simp [skipParts]
  | cons part parts ih =>
    have hne : parts ++ [last] ≠ [] := by simp
    rw [List.cons_append, skipParts]
    cases hfind : find part (text.drop pos) with
    | none =>
      constructor
      · intro h
        obtain ⟨i, hi, -⟩ := (floating_cons hne).mp h
        exact absurd hi (find_none hfind i)
      · rintro ⟨_, ⟨⟩, -⟩
    | some idx =>
      obtain ⟨hat, hleft⟩ := find_some hfind
      rw [floating_leftmost hne hat hleft, List.drop_drop, ih]

/-- **Wildcard matching is exact**: a text matches a pattern when it is the pattern with each star
replaced by some text. -/
theorem globMatch_iff (text pattern : String) :
    globMatch text pattern = true ↔ Expands '*' pattern.toList text.toList := by
  have hstar : contains pattern "*" = true ↔ '*' ∈ pattern.toList := by
    rw [contains, decide_eq_true_iff]
    exact List.singleton_infix_iff '*' pattern.toList
  rw [globMatch]
  by_cases hmem : '*' ∈ pattern.toList
  · obtain ⟨first, parts, last, hparts⟩ := splitOn_of_mem hmem
    rw [if_neg (by rw [hstar.mpr hmem]; decide), ← gapped_splitOn, hparts,
      gapped_cons_drop (by simp), skipParts_iff]
    have hmid : (first :: (parts ++ [last])).tail.dropLast = parts := by simp
    have hlast : (first :: (parts ++ [last])).getLastD [] = last := by
      rw [← List.cons_append, List.getLastD_concat]
    simp only [List.headD_cons, hmid, hlast]
    by_cases hfront : first <+: text.toList
    · rw [if_pos hfront]
      cases skipParts text.toList parts first.length with
      | none => simp
      | some pos => simp [hfront]
    · simp [hfront]
  · rw [if_pos (by rw [← Bool.not_eq_true, hstar]; exact hmem), expands_of_notMem hmem]
    simp [String.toList_inj]

example : globMatch "presence.roblox.com" "presence.*" = true ∧
    globMatch "roblox.com" "*.roblox.com" = false := by decide

end SwiftTunnel
