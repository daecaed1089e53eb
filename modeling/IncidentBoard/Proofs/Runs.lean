import Mathlib.Data.List.Basic

/-!
# Runs

Steps of a system add to a log what they do. A run is any number of steps, one after the other, and
its log is all that they add. What every step preserves, a run preserves.

## Main definitions

* `Runs` — what steps lead to, with their log.
* `Runs.trans`, `Runs.mono` — runs in turn, and runs of other steps.
* `Runs.preserves`, `Runs.invariant` — what holds of a state and its log after a run.
-/

namespace IncidentBoard

variable {σ ε : Type}

/-- The states that steps lead to, with everything that the steps add to the log. -/
inductive Runs (step : σ → List ε → σ → Prop) (s₀ : σ) : List ε → σ → Prop
  | start : Runs step s₀ [] s₀
  | step {log more : List ε} {s t : σ} (run : Runs step s₀ log s) (next : step s more t) :
      Runs step s₀ (log ++ more) t

namespace Runs

variable {step other : σ → List ε → σ → Prop} {s t u : σ} {log more : List ε}

theorem one (next : step s more t) : Runs step s more t := .step .start next

theorem trans (first : Runs step s log t) (second : Runs step t more u) :
    Runs step s (log ++ more) u := by
  induction second with
  | start => simpa using first
  | step _ next ih =>
    rw [← List.append_assoc]
    exact ih.step next

theorem mono (run : Runs step s log t)
    (weaken : ∀ {s more t}, step s more t → other s more t) : Runs other s log t := by
  induction run with
  | start => exact .start
  | step _ next ih => exact ih.step (weaken next)

/-- What holds of a state and the log that led to it holds after a run, if steps preserve it. -/
theorem preserves {P : List ε → σ → Prop} (run : Runs step s more t) (before : P log s)
    (kept : ∀ {log s more t}, step s more t → P log s → P (log ++ more) t) :
    P (log ++ more) t := by
  induction run with
  | start => simpa using before
  | step _ next ih =>
    rw [← List.append_assoc]
    exact kept next ih

/-- What holds at the start, where nothing is in the log, and is preserved holds after a run. -/
theorem invariant {P : List ε → σ → Prop} (run : Runs step s log t) (before : P [] s)
    (kept : ∀ {log s more t}, step s more t → P log s → P (log ++ more) t) : P log t :=
  run.preserves before kept

end Runs

end IncidentBoard
