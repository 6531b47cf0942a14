/-
# A rate limiter with a fixed window

A limiter that keeps one counter and the start of the window that it counts in.  A request is
refused when it comes less than `gap` after the last one granted, and when `limit` have been
granted in the window; the window starts again with the first request that comes later than
`window` after its start.

Such a limiter bounds the grants of an interval that starts with a window (`grants_of_restart`).
An interval of the same length that lies across a restart meets two windows, and the bound there
is twice as large (`grants_interval_le`).  The proof follows a run and knows, of the interval, in how
many windows it has been counted so far (`Counted`).

A refusal may have other reasons, so a run may refuse whatever it likes.  Requests come in order of
time (`InOrder`); times are integers, of whatever unit, and may be negative.
-/
import SwiftTunnel.Lib.Run

/-- The counter of the window, when it started, and when the last request was granted. -/
structure FixedWindow where
  count : Nat
  start : Int
  last : Int

namespace FixedWindow

variable {gap window : Int} {limit : Nat}

/-- A request at a time: the limiter after it, when it is granted. -/
def request (gap window : Int) (limit : Nat) (l : FixedWindow) (now : Int) : Option FixedWindow :=
  if now - l.last < gap then none
  else
    let l := if window < now - l.start then { l with count := 0, start := now } else l
    if limit ≤ l.count then none else some ⟨l.count + 1, l.start, now⟩

/-- A request and its answer. -/
inductive Step (gap window : Int) (limit : Nat) :
    FixedWindow → Int → Bool → FixedWindow → Prop
  | granted {l l' : FixedWindow} {now : Int} (h : l.request gap window limit now = some l') :
      Step gap window limit l now true l'
  | refused (l : FixedWindow) (now : Int) : Step gap window limit l now false l

/-- **What a grant can do**: it counts in the window that runs, or starts a new one. -/
theorem request_cases {l l' : FixedWindow} {now : Int}
    (h : l.request gap window limit now = some l') :
    gap ≤ now - l.last ∧ l'.last = now ∧
      ((now - l.start ≤ window ∧ l.count < limit ∧ l'.count = l.count + 1 ∧ l'.start = l.start) ∨
        (window < now - l.start ∧ 0 < limit ∧ l'.count = 1 ∧ l'.start = now)) := by
  rw [request] at h
  split at h
  · exact nomatch h
  · rename_i hgap
    by_cases hw : window < now - l.start
    · simp only [if_pos hw] at h
      split at h
      · exact nomatch h
      · obtain rfl := Option.some.inj h
        exact ⟨by omega, rfl, Or.inr ⟨hw, by omega, rfl, rfl⟩⟩
    · simp only [if_neg hw] at h
      split at h
      · exact nomatch h
      · obtain rfl := Option.some.inj h
        exact ⟨by omega, rfl, Or.inl ⟨by omega, by omega, rfl, rfl⟩⟩

/-- The requests come in order of time. -/
def InOrder (es : List (Int × Bool)) : Prop := es.Pairwise fun e e' => e.1 ≤ e'.1

/-- The number of grants from `a` to `b`, both included. -/
def grants (a b : Int) (es : List (Int × Bool)) : Nat :=
  es.countP fun e => e.2 && decide (a ≤ e.1 ∧ e.1 ≤ b)

@[simp] theorem grants_concat (a b : Int) (es : List (Int × Bool)) (now : Int) (granted : Bool) :
    grants a b (es ++ [(now, granted)]) =
      grants a b es + if granted = true ∧ a ≤ now ∧ now ≤ b then 1 else 0 := by
  simp [grants, List.countP_cons]

theorem grants_append (a b : Int) (es fs : List (Int × Bool)) :
    grants a b (es ++ fs) = grants a b es + grants a b fs := List.countP_append

/-! ## The gap between two grants -/

/-- After a grant the limiter remembers a time that is not before it. -/
theorem last_ge {l l' : FixedWindow} {es : List (Int × Bool)} {t : Int}
    (h : Run (Step gap window limit) l es l') (hes : ∀ e ∈ es, t ≤ e.1) (hl : t ≤ l.last) :
    t ≤ l'.last := by
  induction h with
  | nil l => exact hl
  | cons hstep _ ih =>
    refine ih (fun e he => hes e (List.mem_cons_of_mem _ he)) ?_
    cases hstep with
    | granted hreq =>
      obtain ⟨-, hlast, -⟩ := request_cases hreq
      rw [hlast]
      exact hes _ List.mem_cons_self
    | refused => exact hl

/-- **Two grants are at least the gap apart.** -/
theorem grants_apart {l l' : FixedWindow} {es₁ es₂ es₃ : List (Int × Bool)} {t₁ t₂ : Int}
    (h : Run (Step gap window limit) l (es₁ ++ (t₁, true) :: es₂ ++ (t₂, true) :: es₃) l')
    (horder : InOrder (es₁ ++ (t₁, true) :: es₂ ++ (t₂, true) :: es₃)) : t₁ + gap ≤ t₂ := by
  obtain ⟨l2, h12, h3⟩ := run_append.mp h
  obtain ⟨l1, -, h2⟩ := run_append.mp h12
  obtain ⟨l1', hgrant1, h2⟩ := run_cons_iff.mp h2
  obtain ⟨l2', hgrant2, -⟩ := run_cons_iff.mp h3
  have hlater : ∀ e ∈ es₂, t₁ ≤ e.1 := by
    have hord := (List.pairwise_append.mp (List.pairwise_append.mp horder).1).2.1
    exact (List.pairwise_cons.mp hord).1
  cases hgrant1 with
  | granted hreq1 =>
    cases hgrant2 with
    | granted hreq2 =>
      obtain ⟨-, hlast, -⟩ := request_cases hreq1
      obtain ⟨hgap, -, -⟩ := request_cases hreq2
      have hge := last_ge h2 hlater (Int.le_of_eq hlast.symm)
      omega

/-! ## The grants of an interval -/

/-- What is known of the `k` grants from `a` to `a + window` when no request has come after
`now`. -/
structure Counted (window : Int) (limit : Nat) (a : Int) (k : Nat) (now : Int) (l : FixedWindow) :
    Prop where
  /-- Nothing is counted before the interval begins. -/
  before : now < a → k = 0
  /-- In one window, or in the second after a restart within the interval, or after its end. -/
  within : (k ≤ l.count ∧ k ≤ limit) ∨ (a ≤ l.start ∧ k ≤ limit + l.count ∧ l.count ≤ limit) ∨
    (a + window < now ∧ k ≤ 2 * limit)

theorem Counted.mono {a : Int} {k : Nat} {now now' : Int} {l : FixedWindow}
    (h : Counted window limit a k now l) (hle : now ≤ now') : Counted window limit a k now' l where
  before hlt := h.before (by omega)
  within := h.within.imp_right (Or.imp_right fun hk => ⟨by omega, hk.2⟩)

/-- One more request. -/
theorem counted_step {a : Int} {k : Nat} {now : Int} {l l' : FixedWindow} {granted : Bool}
    (h : Counted window limit a k now l) (hstep : Step gap window limit l now granted l') :
    Counted window limit a
      (k + if granted = true ∧ a ≤ now ∧ now ≤ a + window then 1 else 0) now l' := by
  cases hstep with
  | refused => simpa using h
  | granted hreq =>
    obtain ⟨hbefore, hwithin⟩ := h
    obtain ⟨-, -, hcase⟩ := request_cases hreq
    by_cases hin : a ≤ now ∧ now ≤ a + window
    · rw [if_pos ⟨rfl, hin⟩]
      refine ⟨fun hlt => by omega, ?_⟩
      -- a restart inside the interval is the first: the next comes after its end
      rcases hcase with ⟨-, hroom, hcount, hstart⟩ | ⟨hexp, hpos, hcount, hstart⟩
      · rw [hcount, hstart]
        rcases hwithin with h | h | h
        · exact Or.inl ⟨by omega, by omega⟩
        · exact Or.inr (Or.inl ⟨h.1, by omega, by omega⟩)
        · omega
      · rw [hcount, hstart]
        rcases hwithin with h | h | h
        · exact Or.inr (Or.inl ⟨hin.1, by omega, by omega⟩)
        · omega
        · omega
    · rw [if_neg (fun h => hin h.2), Nat.add_zero]
      refine ⟨hbefore, ?_⟩
      rcases Int.lt_or_le now a with hlt | hge
      · have hk := hbefore hlt
        exact Or.inl ⟨by omega, by omega⟩
      · exact Or.inr (Or.inr ⟨by omega, by omega⟩)

/-- The counts of a whole run. -/
theorem counted_run {l l' : FixedWindow} {es : List (Int × Bool)}
    (h : Run (Step gap window limit) l es l') (a : Int) :
    InOrder es → ∀ now, (∀ e ∈ es, e.1 ≤ now) →
      Counted window limit a (grants a (a + window) es) now l' := by
  refine h.history (P := fun es l => InOrder es → ∀ now, (∀ e ∈ es, e.1 ≤ now) →
    Counted window limit a (grants a (a + window) es) now l) ?_ ?_
  · exact fun _ now _ => ⟨fun _ => rfl, Or.inl ⟨Nat.zero_le _, Nat.zero_le _⟩⟩
  · intro es l now granted l' _ ih hstep horder now' hnow'
    obtain ⟨horder, -, hlast⟩ := List.pairwise_append.mp horder
    have hcounted := ih horder now (fun e he => hlast e he _ (List.mem_singleton_self _))
    rw [grants_concat]
    exact (counted_step hcounted hstep).mono
      (hnow' (now, granted) (List.mem_append_right _ List.mem_cons_self))

/-- **No interval of the window's length holds more than twice the limit of grants.** -/
theorem grants_interval_le {l l' : FixedWindow} {es : List (Int × Bool)}
    (h : Run (Step gap window limit) l es l') (horder : InOrder es) (a : Int) :
    grants a (a + window) es ≤ 2 * limit := by
  rcases List.eq_nil_or_concat es with rfl | ⟨q, e, rfl⟩
  · exact Nat.zero_le _
  · rw [List.concat_eq_append] at h horder ⊢
    have hlast : ∀ x ∈ q ++ [e], x.1 ≤ e.1 := by
      intro x hx
      rcases List.mem_append.mp hx with hx | hx
      · exact (List.pairwise_append.mp horder).2.2 x hx e (List.mem_singleton_self e)
      · exact Int.le_of_eq (congrArg Prod.fst (List.mem_singleton.mp hx))
    rcases (counted_run h a horder e.1 hlast).within with hk | hk | hk
    · omega
    · omega
    · exact hk.2

/-- In the interval that starts with a window, what the counter shows and what is still granted
stay within the limit. -/
theorem grants_in_window {l l' : FixedWindow} {es : List (Int × Bool)}
    (h : Run (Step gap window limit) l es l') (horder : InOrder es) (hcount : l.count ≤ limit) :
    l.count + grants l.start (l.start + window) es ≤ limit := by
  induction h with
  | nil l => simpa [grants] using hcount
  | @cons l l₁ l' now granted es hstep _ ih =>
    obtain ⟨hlater, hord⟩ := List.pairwise_cons.mp horder
    rw [← List.singleton_append, grants_append]
    have hone : grants l.start (l.start + window) [(now, granted)] =
        if granted = true ∧ l.start ≤ now ∧ now ≤ l.start + window then 1 else 0 := by
      rw [← List.nil_append [_], grants_concat]
      exact Nat.zero_add _
    rw [hone]
    cases hstep with
    | refused => simpa using ih hord hcount
    | granted hreq =>
      obtain ⟨-, -, ⟨hin, hroom, hcount', hstart⟩ | ⟨hexp, -, -, -⟩⟩ := request_cases hreq
      · have hrest := ih hord (by omega)
        rw [hcount', hstart] at hrest
        split <;> omega
      · -- the window is over, and no later request is in the interval
        have hnone : grants l.start (l.start + window) es = 0 := by
          rw [grants, List.countP_eq_zero]
          intro e he
          have hle := hlater e he
          simp only [Bool.and_eq_true, decide_eq_true_eq]
          omega
        rw [if_neg (by omega), hnone]
        omega

/-- **The interval that starts where a window starts again holds no more than the limit.** -/
theorem grants_of_restart {l l₁ l' : FixedWindow} {es₁ es₂ : List (Int × Bool)} {t : Int}
    (hgap : 0 < gap) (hwindow : 0 ≤ window) (h₁ : Run (Step gap window limit) l es₁ l₁)
    (hrestart : window < t - l₁.start)
    (h₂ : Run (Step gap window limit) l₁ ((t, true) :: es₂) l')
    (horder : InOrder (es₁ ++ (t, true) :: es₂)) :
    grants t (t + window) (es₁ ++ (t, true) :: es₂) ≤ limit := by
  have hbefore : grants t (t + window) es₁ = 0 := by
    rw [grants, List.countP_eq_zero]
    rintro ⟨t₀, granted⟩ he
    obtain ⟨es, es', rfl⟩ := List.append_of_mem he
    cases granted with
    | false => simp
    | true =>
      have hrun := run_append.mpr ⟨l₁, h₁, h₂⟩
      have hapart := grants_apart hrun horder
      simp only [Bool.true_and, decide_eq_true_eq]
      omega
  obtain ⟨l₂, hstep, h₂⟩ := run_cons_iff.mp h₂
  have hord₂ := (List.pairwise_cons.mp (List.pairwise_append.mp horder).2.1).2
  cases hstep with
  | granted hreq =>
    obtain ⟨-, -, ⟨hin, -⟩ | ⟨-, hpos, hcount, hstart⟩⟩ := request_cases hreq
    · omega
    · have hrest := grants_in_window h₂ hord₂ (by omega)
      rw [hcount, hstart] at hrest
      have hone : grants t (t + window) [(t, true)] = 1 := by
        rw [← List.nil_append [_], grants_concat, if_pos ⟨rfl, by omega, by omega⟩]
        rfl
      rw [grants_append, hbefore, ← List.singleton_append, grants_append, hone]
      omega

end FixedWindow
