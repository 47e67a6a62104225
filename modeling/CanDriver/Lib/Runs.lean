import Mathlib.Data.List.Infix

/-!
# CanDriver.Lib.Runs

Runs of a machine that takes any event in any state.

* `after_invariant` — what every event preserves holds after every run;
* `everyStep_iff` — two conditions on steps that agree in good states, and keep the states
  good, hold of the same runs.
-/

namespace Interact

variable {σ ε : Type}

/-- The state after a run. -/
def after (step : σ → ε → σ) (s₀ : σ) (es : List ε) : σ := es.foldl step s₀

theorem after_concat (step : σ → ε → σ) (s₀ : σ) (es : List ε) (e : ε) :
    after step s₀ (es ++ [e]) = step (after step s₀ es) e := by
  simp [after]

/-- **Run**: what every event preserves holds after every run. -/
theorem after_invariant {step : σ → ε → σ} {I : σ → Prop} (h0 : I s₀)
    (hstep : ∀ s e, I s → I (step s e)) (es : List ε) : I (after step s₀ es) := by
  induction es using List.reverseRecOn with
  | nil => exact h0
  | append_singleton es e ih =>
      rw [after_concat]
      exact hstep _ e ih

/-- Every step of a run meets a condition on the state before it and the event. -/
def EveryStep (step : σ → ε → σ) (s₀ : σ) (C : σ → ε → Prop) (es : List ε) : Prop :=
  ∀ es' e, es' ++ [e] <+: es → C (after step s₀ es') e

/-- What such steps preserve holds all along the run. -/
theorem EveryStep.invariant {step : σ → ε → σ} {C : σ → ε → Prop} {I : σ → Prop} {es : List ε}
    (h : EveryStep step s₀ C es) (h0 : I s₀) (hstep : ∀ s e, I s → C s e → I (step s e)) :
    ∀ es', es' <+: es → I (after step s₀ es') := by
  intro es' hprefix
  induction es' using List.reverseRecOn with
  | nil => exact h0
  | append_singleton es' e ih =>
      rw [after_concat]
      exact hstep _ e (ih ((List.prefix_append es' [e]).trans hprefix)) (h es' e hprefix)

/-- **Exactness**: two conditions that agree in good states hold of the same runs, if steps
that meet them lead from good states to good states. -/
theorem everyStep_iff {step : σ → ε → σ} {C D : σ → ε → Prop} {I : σ → Prop} (h0 : I s₀)
    (hstep : ∀ s e, I s → C s e → I (step s e)) (hiff : ∀ s e, I s → (C s e ↔ D s e))
    (es : List ε) : EveryStep step s₀ C es ↔ EveryStep step s₀ D es := by
  constructor
  · intro h es' e hprefix
    have hgood := h.invariant h0 hstep es' ((List.prefix_append es' [e]).trans hprefix)
    exact (hiff _ e hgood).1 (h es' e hprefix)
  · intro h es' e hprefix
    have hgood := h.invariant h0 (fun s e hs hD => hstep s e hs ((hiff s e hs).2 hD)) es'
      ((List.prefix_append es' [e]).trans hprefix)
    exact (hiff _ e hgood).2 (h es' e hprefix)

end Interact
