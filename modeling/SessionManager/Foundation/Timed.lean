import Mathlib.Order.WellFounded

/-! Runs of a machine whose steps depend on the time at which they are made. -/
namespace SessionManager.Foundation.Timed

variable {S T : Type} {step : T → S → S} {start : S}

def run (step : T → S → S) : (Nat → T) → Nat → S → S
  | _, 0, state => state
  | clock, n + 1, state => run step (fun k => clock (k + 1)) n (step (clock 0) state)

theorem run_keeps (holds : S → Prop) (hke : ∀ time state, holds state → holds (step time state))
    (clock : Nat → T) (n : Nat) (first : holds start) :
    holds (run step clock n start) := by
  induction n generalizing clock start with
  | zero => exact first
  | succ _ ih => exact ih _ (hke _ _ first)

theorem run_fixed (fixed : ∀ time, step time start = start) (clock : Nat → T) (n : Nat) :
    run step clock n start = start := by
  have hke : ∀ time state, state = start → step time state = start := by
    intro time state hs
    rw [hs, fixed]
  exact run_keeps (fun _ => _ = _) hke _ n rfl

/-- A machine whose steps lower a rank until it is done, and that then stays as it is, is done after
finitely many steps. -/
theorem run_ends {ρ : Type} [Preorder ρ] [WellFoundedLT ρ] {holds ends : S → Prop} (rank : S → ρ)
    (progress : ∀ time state, holds state →
      ends (step time state) ∨ holds (step time state) ∧ rank (step time state) < rank state)
    (clock : Nat → T) (first : holds start) :
    ∃ n, ends (run step clock n start) := by
  have bounded : ∀ (bound : ρ) (clock : Nat → T) (start : S), rank start = bound → holds start →
      ∃ n, ends (run step clock n start) := by
    intro bound
    induction bound using WellFoundedLT.induction with
    | ind _ ih =>
      intro clock start heq first
      rcases progress (clock 0) start first with finished | ⟨next, lower⟩
      · exact ⟨1, finished⟩
      · obtain ⟨n, finished⟩ := ih _ (heq ▸ lower) (fun k => clock (k + 1)) _ rfl next
        exact ⟨n + 1, finished⟩
  exact bounded _ _ _ rfl first

theorem run_steady {clock : Nat → T} {n m : Nat}
    (one : ∀ time, step time (run step clock n start) = run step clock n start)
    (two : ∀ time, step time (run step clock m start) = run step clock m start) :
    run step clock n start = run step clock m start := by
  induction n generalizing clock start m with
  | zero => exact (run_fixed one _ m).symm
  | succ n ih =>
    cases m with
    | zero => exact run_fixed two _ (n + 1)
    | succ => exact ih one two

end SessionManager.Foundation.Timed
