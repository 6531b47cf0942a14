/-
# Runs of a step relation with inputs and outputs

`Run step s es s'` says that a machine in state `s` can read the inputs of `es`, answer each
with the output paired with it, and end in `s'`.  A claim about every run of a component is a
claim about every `Run` of its step relation; a claim about an earlier and a later event of one
run cuts the event list in two (`run_append`) and carries an invariant across the middle.

The induction over a run is packaged once for each kind of statement:

* `Run.preserves`: what one step preserves, a run preserves.
* `Run.relates`: a reflexive and transitive relation that each step respects relates the two ends.
* `Run.history`: what holds of the empty history and is kept by each further event holds of every
  history and the state it ends in.  This is the rule for statements about what a log tells.
* `Run.unique`: where inputs determine steps, runs on the same inputs agree.

Conditions on a run are conditions on its steps: `Run step` with a conjunction for `step`.  A
stronger condition gives fewer runs (`Run.mono`).

Where the next step is computed, the inputs alone give the run (`trace`, `run_trace`); a run on fixed
inputs is made this way and its conditions are checked along it (`TraceMeets`).
-/
import Mathlib.Data.List.Induction

universe u v w

/-- A finite run, with the list of its events. -/
inductive Run {σ : Type u} {ι : Type v} {ο : Type w} (step : σ → ι → ο → σ → Prop) :
    σ → List (ι × ο) → σ → Prop
  | nil (s : σ) : Run step s [] s
  | cons {s s' s'' : σ} {i : ι} {o : ο} {es : List (ι × ο)} :
      step s i o s' → Run step s' es s'' → Run step s ((i, o) :: es) s''

section

variable {σ : Type u} {ι : Type v} {ο : Type w} {step : σ → ι → ο → σ → Prop}

theorem run_nil_iff {s s' : σ} : Run step s [] s' ↔ s = s' := by
  constructor
  · intro h
    cases h
    rfl
  · rintro rfl
    exact Run.nil s

theorem run_cons_iff {s s'' : σ} {i : ι} {o : ο} {es : List (ι × ο)} :
    Run step s ((i, o) :: es) s'' ↔ ∃ s', step s i o s' ∧ Run step s' es s'' := by
  constructor
  · intro h
    cases h with
    | cons h1 h2 => exact ⟨_, h1, h2⟩
  · rintro ⟨s', h1, h2⟩
    exact Run.cons h1 h2

/-- A run over a concatenation passes through a state between the two parts. -/
theorem run_append {s s'' : σ} : ∀ {es fs : List (ι × ο)},
    Run step s (es ++ fs) s'' ↔ ∃ s', Run step s es s' ∧ Run step s' fs s''
  | [], fs => by simp [run_nil_iff]
  | (i, o) :: es, fs => by
    simp only [List.cons_append, run_cons_iff]
    constructor
    · rintro ⟨t, h1, h2⟩
      obtain ⟨s', h3, h4⟩ := run_append.mp h2
      exact ⟨s', ⟨t, h1, h3⟩, h4⟩
    · rintro ⟨s', ⟨t, h1, h3⟩, h4⟩
      exact ⟨t, h1, run_append.mpr ⟨s', h3, h4⟩⟩

/-- **What one step preserves, a run preserves.** -/
theorem Run.preserves {P : σ → Prop} (hstep : ∀ s i o s', step s i o s' → P s → P s')
    {s s' : σ} {es : List (ι × ο)} (h : Run step s es s') (hs : P s) : P s' := by
  induction h with
  | nil s => exact hs
  | cons h1 _ ih => exact ih (hstep _ _ _ _ h1 hs)

/-- A run of one relation is a run of another that allows its steps. -/
theorem Run.mono {step' : σ → ι → ο → σ → Prop} (hstep : ∀ s i o s', step s i o s' → step' s i o s')
    {s s' : σ} {es : List (ι × ο)} (h : Run step s es s') : Run step' s es s' := by
  induction h with
  | nil s => exact Run.nil s
  | cons h1 _ ih => exact Run.cons (hstep _ _ _ _ h1) ih

/-- A reflexive and transitive relation that every step respects relates the two ends of a
run: a set that only grows, a field that is never written. -/
theorem Run.relates {R : σ → σ → Prop} (hrefl : ∀ s, R s s)
    (htrans : ∀ {a b c}, R a b → R b c → R a c)
    (hstep : ∀ s i o s', step s i o s' → R s s') {s s' : σ} {es : List (ι × ο)}
    (h : Run step s es s') : R s s' := by
  induction h with
  | nil s => exact hrefl s
  | cons h1 _ ih => exact htrans (hstep _ _ _ _ h1) ih

theorem run_concat_iff {s s'' : σ} {es : List (ι × ο)} {i : ι} {o : ο} :
    Run step s (es ++ [(i, o)]) s'' ↔ ∃ s', Run step s es s' ∧ step s' i o s'' := by
  rw [run_append]
  constructor
  · rintro ⟨s', h1, h2⟩
    obtain ⟨t, h3, h4⟩ := run_cons_iff.mp h2
    obtain rfl := run_nil_iff.mp h4
    exact ⟨s', h1, h3⟩
  · rintro ⟨s', h1, h2⟩
    exact ⟨s', h1, Run.cons h2 (Run.nil s'')⟩

/-- **What holds of the empty history and is kept by each further event holds of every
history** and the state it ends in. -/
theorem Run.history {P : List (ι × ο) → σ → Prop} {s₀ : σ} (hnil : P [] s₀)
    (hstep : ∀ es s i o s', Run step s₀ es s → P es s → step s i o s' → P (es ++ [(i, o)]) s')
    {es : List (ι × ο)} {s : σ} (h : Run step s₀ es s) : P es s := by
  induction es using List.reverseRecOn generalizing s with
  | nil =>
    obtain rfl := run_nil_iff.mp h
    exact hnil
  | append_singleton es e ih =>
    obtain ⟨s', h1, h2⟩ := run_concat_iff.mp h
    exact hstep es s' e.1 e.2 s h1 (ih h1) h2

/-- Every event of a run is a step. -/
theorem Run.step_of_mem {s s' : σ} {es : List (ι × ο)} (h : Run step s es s') {i : ι} {o : ο}
    (hmem : (i, o) ∈ es) : ∃ t t', step t i o t' := by
  induction h with
  | nil s => simp at hmem
  | cons h1 _ ih =>
    rcases List.mem_cons.mp hmem with heq | hmem
    · obtain ⟨rfl, rfl⟩ := Prod.mk.inj heq
      exact ⟨_, _, h1⟩
    · exact ih hmem

/-- A run on inputs that stand for others. -/
theorem run_map_iff {κ : Type v} (f : κ → ι) {s s' : σ} {es : List (κ × ο)} :
    Run step s (es.map (Prod.map f id)) s' ↔ Run (fun s k o s' => step s (f k) o s') s es s' := by
  induction es generalizing s with
  | nil => simp [run_nil_iff]
  | cons e es ih =>
    obtain ⟨k, o⟩ := e
    simp [run_cons_iff, ih]

/-- Where inputs determine steps, runs on the same inputs agree. -/
theorem Run.unique (hstep : ∀ s i o o' s' s'', step s i o s' → step s i o' s'' →
    o = o' ∧ s' = s'') {s s' s'' : σ} {es fs : List (ι × ο)} (h : Run step s es s')
    (h' : Run step s fs s'') (hsame : es.map Prod.fst = fs.map Prod.fst) : es = fs ∧ s' = s'' := by
  induction h generalizing fs with
  | nil s =>
    obtain rfl : fs = [] := by simpa using hsame.symm
    exact ⟨rfl, run_nil_iff.mp h'⟩
  | cons h1 _ ih =>
    cases fs with
    | nil => simp at hsame
    | cons f fs =>
      obtain ⟨rfl, hrest⟩ := List.cons_eq_cons.mp hsame
      obtain ⟨t, h2, h3⟩ := run_cons_iff.mp h'
      obtain ⟨rfl, rfl⟩ := hstep _ _ _ _ _ _ h1 h2
      obtain ⟨rfl, hend⟩ := ih h3 hrest
      exact ⟨rfl, hend⟩

end

/-! Where the next step is computed, the inputs alone give the run. -/

section

variable {σ : Type u} {ι : Type v} {ο : Type w}

/-- The run of a machine on a list of inputs: its events, and the state in which it ends. -/
def trace (next : σ → ι → ο × σ) : σ → List ι → List (ι × ο) × σ
  | s, [] => ([], s)
  | s, i :: is =>
    let rest := trace next (next s i).2 is
    ((i, (next s i).1) :: rest.1, rest.2)

theorem run_trace (next : σ → ι → ο × σ) (s : σ) (is : List ι) :
    Run (fun s i o s' => next s i = (o, s')) s (trace next s is).1 (trace next s is).2 := by
  induction is generalizing s with
  | nil => exact Run.nil s
  | cons i is ih => exact Run.cons rfl (ih (next s i).2)

/-- The run reads the inputs that it is given. -/
theorem map_fst_trace (next : σ → ι → ο × σ) (s : σ) (is : List ι) :
    (trace next s is).1.map Prod.fst = is := by
  induction is generalizing s with
  | nil => rfl
  | cons i is ih => exact congrArg (i :: ·) (ih (next s i).2)

/-- The same run, with what is known of each input. -/
theorem run_trace_of {P : ι → Prop} (next : σ → ι → ο × σ) (s : σ) {is : List ι}
    (h : ∀ i ∈ is, P i) :
    Run (fun s i o s' => P i ∧ next s i = (o, s')) s (trace next s is).1 (trace next s is).2 := by
  induction is generalizing s with
  | nil => exact Run.nil s
  | cons i is ih =>
    obtain ⟨hi, his⟩ := List.forall_mem_cons.mp h
    exact Run.cons ⟨hi, rfl⟩ (ih (next s i).2 his)

/-- Every input of the run meets a condition on it and on the state that reads it. -/
def TraceMeets (next : σ → ι → ο × σ) (P : σ → ι → Prop) : σ → List ι → Prop
  | _, [] => True
  | s, i :: is => P s i ∧ TraceMeets next P (next s i).2 is

instance TraceMeets.decidable (next : σ → ι → ο × σ) (P : σ → ι → Prop)
    [h : ∀ s i, Decidable (P s i)] : ∀ s is, Decidable (TraceMeets next P s is)
  | _, [] => .isTrue trivial
  | s, i :: is => @instDecidableAnd _ _ (h s i) (TraceMeets.decidable next P (next s i).2 is)

theorem TraceMeets.mono {next : σ → ι → ο × σ} {P Q : σ → ι → Prop}
    (hPQ : ∀ s i, P s i → Q s i) : ∀ {s : σ} {is : List ι}, TraceMeets next P s is →
      TraceMeets next Q s is
  | _, [], _ => trivial
  | s, i :: _, h => ⟨hPQ s i h.1, TraceMeets.mono hPQ h.2⟩

/-- The same run, with the condition that each of its steps meets. -/
theorem run_trace_meets {next : σ → ι → ο × σ} {P : σ → ι → Prop} {s : σ} {is : List ι}
    (h : TraceMeets next P s is) :
    Run (fun s i o s' => P s i ∧ next s i = (o, s')) s (trace next s is).1 (trace next s is).2 := by
  induction is generalizing s with
  | nil => exact Run.nil s
  | cons i is ih => exact Run.cons ⟨h.1, rfl⟩ (ih h.2)

end
