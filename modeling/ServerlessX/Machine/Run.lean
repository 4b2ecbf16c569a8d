import Mathlib

/-! Runs of a machine whose step is a partial function of the state and an action. -/
namespace ServerlessX.Machine
variable {σ α : Type*}

/-- The actions in order; one that is not enabled is passed over. -/
def runFrom (step : σ → α → Option σ) (s : σ) (actions : List α) : σ :=
  actions.foldl (fun s a => (step s a).getD s) s

theorem runFrom_cons (step : σ → α → Option σ) (s : σ) (a : α) (actions : List α) :
    runFrom step s (a :: actions) = runFrom step ((step s a).getD s) actions := rfl

/-- What every step preserves, every run preserves. -/
theorem runFrom_invariant {step : σ → α → Option σ} {I : σ → Prop}
    (hstep : ∀ s a s', I s → step s a = some s' → I s') (actions : List α) {s : σ} (h : I s) :
    I (runFrom step s actions) := by
  induction actions generalizing s with
  | nil => exact h
  | cons a actions ih =>
    rw [runFrom_cons]
    apply ih
    cases ha : step s a with
    | none => exact h
    | some s' => exact hstep s a s' h ha

/-- Every action of a run that is taken meets a state that satisfies the test. -/
def always (step : σ → α → Option σ) (test : σ → α → Bool) (s : σ) : List α → Bool
  | [] => true
  | a :: actions => match step s a with
    | none => always step test s actions
    | some s' => test s a && always step test s' actions

/-- What every step preserves that meets the test, every run of such steps preserves. -/
theorem runFrom_invariant_always {step : σ → α → Option σ} {test : σ → α → Bool} {I : σ → Prop}
    (hstep : ∀ s a s', I s → test s a = true → step s a = some s' → I s') (actions : List α) {s : σ}
    (htest : always step test s actions = true) (h : I s) : I (runFrom step s actions) := by
  induction actions generalizing s with
  | nil => exact h
  | cons a actions ih =>
    rw [runFrom_cons]
    cases ha : step s a with
    | none =>
      rw [always, ha] at htest
      exact ih htest h
    | some s' =>
      simp only [always, ha, Bool.and_eq_true] at htest
      exact ih htest.2 (hstep s a s' h htest.1 ha)

end ServerlessX.Machine
