/-
# Events counted in windows

A counter that forgets: the first event that finds no window open opens one, the events after it
are counted in it for a fixed time, and a reset closes it.  `window` is the list of the events
that are counted, by their times, and `window_since` says which ones these are: all since the
later of the last reset and the opening of the window.

Where a count begins is a property of a cut of the event list (`Begins`), and the proof moves the
events behind the cut into the count one by one.  `age_le` is the converse bound: what is counted is
no older than the window is long.

An event may be stamped with another time than the one at which it finds the window closed, as where
a clock is read twice.
-/
import Mathlib.Algebra.Order.Group.Defs
import Mathlib.Algebra.Order.Sub.Defs
import Mathlib.Data.List.Induction

namespace Window

variable {τ : Type}

inductive Event (τ : Type) where
  /-- Something to be counted.  A window that it opens has the time `stamp`. -/
  | count (now stamp : τ)
  | reset (now : τ)
  | look (now : τ)

namespace Event

def times : Event τ → List τ
  | .count now stamp => [now, stamp]
  | .reset now | .look now => [now]

def isCount : Event τ → Bool
  | .count _ _ => true
  | _ => false

def isReset : Event τ → Bool
  | .reset _ => true
  | _ => false

end Event

section Count

variable [AddCommGroup τ] [LinearOrder τ] (limit : τ)

/-- The window that begins with the first of these times is open. -/
def isOpen (w : List τ) (t : τ) : Bool := w.head?.any fun o => decide (t - o ≤ limit)

theorem isOpen_iff {limit : τ} {w : List τ} {t : τ} :
    isOpen limit w t = true ↔ ∃ o, w.head? = some o ∧ t - o ≤ limit := by
  cases w <;> simp [isOpen]

def step (w : List τ) : Event τ → List τ
  | .count now stamp => if isOpen limit w now then w ++ [now] else [stamp]
  | .reset _ => []
  | .look _ => w

/-- The times of the events that are counted after some events, the opening first. -/
def window (es : List (Event τ)) : List τ := es.foldl (step limit) []

@[simp] theorem window_concat (es : List (Event τ)) (e : Event τ) :
    window limit (es ++ [e]) = step limit (window limit es) e := by
  simp [window]

theorem mem_times_of_mem_window {limit : τ} {es : List (Event τ)} {x : τ}
    (h : x ∈ window limit es) : x ∈ es.flatMap Event.times := by
  induction es using List.reverseRecOn with
  | nil => exact h
  | append_singleton es e ih =>
    rw [window_concat] at h
    rw [List.flatMap_append, List.mem_append]
    cases e with
    | count now stamp =>
      simp only [step] at h
      split at h
      · rcases List.mem_append.mp h with h | h
        · exact Or.inl (ih h)
        · exact Or.inr (by simp [Event.times, List.mem_singleton.mp h])
      · exact Or.inr (by simp [Event.times, List.mem_singleton.mp h])
    | reset now => exact nomatch h
    | look now => exact Or.inl (ih h)

/-- The opening comes before the other events of its window. -/
theorem head_le {limit : τ} {es : List (Event τ)} (horder : (es.flatMap Event.times).Pairwise (· ≤ ·))
    {o x : τ} (ho : (window limit es).head? = some o) (hx : x ∈ window limit es) : o ≤ x := by
  induction es using List.reverseRecOn with
  | nil => exact nomatch hx
  | append_singleton es e ih =>
    rw [List.flatMap_append] at horder
    obtain ⟨hbefore, -, hlater⟩ := List.pairwise_append.mp horder
    rw [window_concat] at ho hx
    cases e with
    | count now stamp =>
      simp only [step] at ho hx
      split at ho
      · rename_i hopen
        rw [if_pos hopen] at hx
        obtain ⟨o', ho', -⟩ := isOpen_iff.mp hopen
        rw [List.head?_append, ho', Option.some_or] at ho
        obtain rfl := Option.some.inj ho
        rcases List.mem_append.mp hx with hx | hx
        · exact ih hbefore ho' hx
        · rw [List.mem_singleton.mp hx]
          exact hlater o' (mem_times_of_mem_window (List.mem_of_head? ho')) now (by simp [Event.times])
      · rename_i hclosed
        rw [if_neg hclosed] at hx
        obtain rfl := Option.some.inj ho
        rw [List.mem_singleton.mp hx]
    | reset now => exact nomatch hx
    | look now => exact ih hbefore ho hx

/-- **What is counted is recent.** -/
theorem age_le [IsOrderedAddMonoid τ] {limit : τ} {es : List (Event τ)}
    (horder : (es.flatMap Event.times).Pairwise (· ≤ ·)) {t : τ}
    (hopen : isOpen limit (window limit es) t = true) {x : τ} (hx : x ∈ window limit es) :
    t - x ≤ limit := by
  obtain ⟨o, ho, hle⟩ := isOpen_iff.mp hopen
  exact (sub_le_sub_left (head_le horder ho hx) t).trans hle

/-- The count begins here: after a reset, or at the beginning, with nothing counted since; or with
the opening of a window, while no window was open, and with no reset and no other opening since. -/
def Begins (before after : List (Event τ)) : Prop :=
  (∀ e ∈ after, e.isReset = false) ∧
    (((∀ e ∈ after, e.isCount = false) ∧
        (before = [] ∨ ∃ es now, before = es ++ [.reset now])) ∨
      ∃ now stamp rest, after = .count now stamp :: rest ∧
        isOpen limit (window limit before) now = false ∧
        (window limit (before ++ after)).head? = some stamp ∧
        ∀ now' stamp', .count now' stamp' ∈ rest → now' - stamp ≤ limit)

variable {limit} {before after : List (Event τ)}

/-- Nothing is counted where a count begins that no window has opened since. -/
theorem Begins.head (h : Begins limit before after)
    (hlen : (window limit (before ++ after)).length = after.countP Event.isCount) {o : τ}
    (ho : (window limit (before ++ after)).head? = some o) :
    ∃ now rest, after = .count now o :: rest ∧ isOpen limit (window limit before) now = false ∧
      ∀ now' stamp', .count now' stamp' ∈ rest → now' - o ≤ limit := by
  obtain ⟨-, ⟨hnone, -⟩ | ⟨now, stamp, rest, hafter, hclosed, hhead, hrest⟩⟩ := h
  · rw [List.countP_eq_zero.mpr (by simpa using hnone), List.length_eq_zero_iff] at hlen
    rw [hlen] at ho
    exact absurd ho (by simp)
  · obtain rfl := Option.some.inj (ho.symm.trans hhead)
    exact ⟨now, rest, hafter, hclosed, hrest⟩

theorem Begins.look (h : Begins limit before after) (now : τ) :
    Begins limit before (after ++ [.look now]) := by
  have hwin : window limit (before ++ (after ++ [.look now])) = window limit (before ++ after) := by
    rw [← List.append_assoc, window_concat]
    rfl
  obtain ⟨hreset, hbegins⟩ := h
  refine ⟨by simpa [Event.isReset, or_imp, forall_and] using hreset, ?_⟩
  rcases hbegins with ⟨hnone, hstart⟩ | ⟨now₀, stamp, rest, rfl, hclosed, hhead, hrest⟩
  · exact Or.inl ⟨by simpa [Event.isCount, or_imp, forall_and] using hnone, hstart⟩
  · exact Or.inr ⟨now₀, stamp, rest ++ [.look now], rfl, hclosed, hwin ▸ hhead, by simpa using hrest⟩

/-- One more event in the window that is open. -/
theorem Begins.count (h : Begins limit before after)
    (hlen : (window limit (before ++ after)).length = after.countP Event.isCount) {now : τ}
    (hopen : isOpen limit (window limit (before ++ after)) now = true) (stamp : τ) :
    Begins limit before (after ++ [.count now stamp]) := by
  obtain ⟨o, ho, hle⟩ := isOpen_iff.mp hopen
  obtain ⟨now₀, rest, rfl, hclosed, hrest⟩ := h.head hlen ho
  have hwin : window limit (before ++ (.count now₀ o :: rest ++ [.count now stamp])) =
      window limit (before ++ .count now₀ o :: rest) ++ [now] := by
    rw [← List.append_assoc, window_concat, step, if_pos hopen]
  refine ⟨by simpa [Event.isReset, or_imp, forall_and] using h.1, Or.inr ?_⟩
  refine ⟨now₀, o, rest ++ [.count now stamp], rfl, hclosed, ?_, ?_⟩
  · rw [hwin, List.head?_append, ho, Option.some_or]
  · intro now' stamp' hmem
    rcases List.mem_append.mp hmem with hmem | hmem
    · exact hrest now' stamp' hmem
    · obtain ⟨rfl, rfl⟩ := Event.count.inj (List.mem_singleton.mp hmem)
      exact hle

theorem begins_opening {es : List (Event τ)} {now : τ}
    (hclosed : isOpen limit (window limit es) now = false) (stamp : τ) :
    Begins limit es [.count now stamp] := by
  refine ⟨by simp [Event.isReset], Or.inr ⟨now, stamp, [], rfl, hclosed, ?_, by simp⟩⟩
  rw [window_concat, step, if_neg (by simp [hclosed])]
  rfl

variable (limit)

/-- **Which events are counted**: those since the later of the last reset and the opening of the
window. -/
theorem window_since (es : List (Event τ)) :
    ∃ before after, es = before ++ after ∧ Begins limit before after ∧
      (window limit es).length = after.countP Event.isCount := by
  induction es using List.reverseRecOn with
  | nil => exact ⟨[], [], rfl, ⟨by simp, Or.inl ⟨by simp, Or.inl rfl⟩⟩, rfl⟩
  | append_singleton es e ih =>
    obtain ⟨before, after, rfl, hbegins, hlen⟩ := ih
    rw [window_concat]
    cases e with
    | reset now =>
      refine ⟨before ++ after ++ [.reset now], [], (List.append_nil _).symm, ⟨by simp, ?_⟩, rfl⟩
      exact Or.inl ⟨by simp, Or.inr ⟨before ++ after, now, rfl⟩⟩
    | look now =>
      refine ⟨before, after ++ [.look now], List.append_assoc _ _ _, hbegins.look now, ?_⟩
      rw [List.countP_append, ← hlen]
      rfl
    | count now stamp =>
      by_cases hopen : isOpen limit (window limit (before ++ after)) now = true
      · refine ⟨before, after ++ [.count now stamp], List.append_assoc _ _ _,
          hbegins.count hlen hopen stamp, ?_⟩
        rw [step, if_pos hopen, List.length_append, hlen, List.countP_append]
        rfl
      · refine ⟨before ++ after, [.count now stamp], rfl,
          begins_opening (Bool.eq_false_iff.mpr hopen) stamp, ?_⟩
        rw [step, if_neg hopen]
        rfl

end Count

end Window
