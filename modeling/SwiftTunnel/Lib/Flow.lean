/-
# What goes through a machine

A buffer in the state of a machine takes things in at its end and gives them out at its front.
Each step says what it put there and what it got.  Over a run the buffer then accounts for
everything: what was put is what was got, and after it what is still inside (`Buffers.run`).  So
nothing is lost on the way, nothing comes twice and nothing overtakes (`Buffers.pairwise`).

The machine may have several buffers; each is looked at on its own, as a function of the state.

What each step takes from a number of the state can happen that often at most (`Run.countP_le`): a
potential pays for the events.  Two more rules for runs stand here, since they are for such
arguments: a run can carry an invariant in each of its steps (`Run.strengthen`), and what events of
one kind preserve, a run of them does (`Run.preserves_on`).
-/
import SwiftTunnel.Lib.Run

universe u v w x

section Flow

variable {σ : Type u} {ι : Type v} {ο : Type w} {α : Type x} {step : σ → ι → ο → σ → Prop}

/-- Each step puts something behind the contents of the buffer, and gets something from their
front. -/
def Buffers (step : σ → ι → ο → σ → Prop) (inside : σ → List α) (put got : ι × ο → List α) : Prop :=
  ∀ s i o s', step s i o s' → inside s ++ put (i, o) = got (i, o) ++ inside s'

variable {inside : σ → List α} {put got : ι × ο → List α} {s s' : σ} {es : List (ι × ο)}

/-- **A buffer accounts for everything.** -/
theorem Buffers.run (h : Buffers step inside put got) (hrun : Run step s es s') :
    inside s ++ es.flatMap put = es.flatMap got ++ inside s' := by
  induction hrun with
  | nil s => simp
  | @cons s s₁ s' i o es hstep _ ih =>
    rw [List.flatMap_cons, List.flatMap_cons, ← List.append_assoc, h _ _ _ _ hstep,
      List.append_assoc, List.append_assoc, ih]

theorem Buffers.run_of_empty (h : Buffers step inside put got) (hrun : Run step s es s')
    (hempty : inside s = []) : es.flatMap put = es.flatMap got ++ inside s' := by
  rw [← h.run hrun, hempty, List.nil_append]

/-- What comes out has the order of what goes in. -/
theorem Buffers.pairwise {r : α → α → Prop} (h : Buffers step inside put got)
    (hrun : Run step s es s') (hempty : inside s = []) (hput : (es.flatMap put).Pairwise r) :
    (es.flatMap got).Pairwise r := by
  rw [h.run_of_empty hrun hempty] at hput
  exact (List.pairwise_append.mp hput).1

/-- A run, with an invariant at the beginning of each of its steps. -/
theorem Run.strengthen {P : σ → Prop} (hstep : ∀ s i o s', P s → step s i o s' → P s')
    (hrun : Run step s es s') (hs : P s) :
    Run (fun s i o s' => P s ∧ step s i o s') s es s' ∧ P s' := by
  induction hrun with
  | nil s => exact ⟨Run.nil s, hs⟩
  | cons h1 _ ih =>
    obtain ⟨hrun, hend⟩ := ih (hstep _ _ _ _ hs h1)
    exact ⟨Run.cons ⟨hs, h1⟩ hrun, hend⟩

/-- What each step on an event of a kind preserves, a run of such events preserves. -/
theorem Run.preserves_on {P : σ → Prop} {Q : ι × ο → Prop}
    (hstep : ∀ s i o s', Q (i, o) → step s i o s' → P s → P s') (hrun : Run step s es s')
    (hes : ∀ e ∈ es, Q e) (hs : P s) : P s' := by
  induction hrun with
  | nil s => exact hs
  | cons h1 _ ih =>
    obtain ⟨he, hes⟩ := List.forall_mem_cons.mp hes
    exact ih hes (hstep _ _ _ _ he h1 hs)

/-- **What a potential pays for.**  Each counted event takes one from `left`, and no event adds to
it. -/
theorem Run.countP_le {P : σ → Prop} {Q : ι × ο → Prop} {p : ι × ο → Bool} {left : σ → Nat}
    (hstep : ∀ s i o s', P s → Q (i, o) → step s i o s' →
      P s' ∧ [(i, o)].countP p + left s' ≤ left s)
    (hrun : Run step s es s') (hs : P s) (hes : ∀ e ∈ es, Q e) :
    P s' ∧ es.countP p + left s' ≤ left s := by
  induction hrun with
  | nil s => exact ⟨hs, by simp⟩
  | @cons s s₁ s' i o es h1 _ ih =>
    obtain ⟨he, hes⟩ := List.forall_mem_cons.mp hes
    obtain ⟨hs₁, hpaid⟩ := hstep _ _ _ _ hs he h1
    obtain ⟨hs', hrest⟩ := ih hs₁ hes
    refine ⟨hs', ?_⟩
    rw [← List.singleton_append, List.countP_append]
    omega

end Flow
