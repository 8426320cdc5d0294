import Mathlib.Data.List.Basic

/-!
# Runs of a step function

A system that takes one complete operation after another is a step function;
a run is the list of its operations.  `Along` states a condition of every
operation on the state it starts from, and `Along.invariant` is the induction
over the run.
-/

namespace ParDiff.Lib

variable {σ α : Type}

/-- Every operation of the run meets `ok` in the state in which it starts. -/
def Along (step : σ → α → σ) (ok : σ → α → Prop) : σ → List α → Prop
  | _, [] => True
  | s, a :: as => ok s a ∧ Along step ok (step s a) as

namespace Along

variable {step : σ → α → σ} {ok : σ → α → Prop}

instance decidable [∀ s a, Decidable (ok s a)] :
    (s : σ) → (as : List α) → Decidable (Along step ok s as)
  | _, [] => isTrue trivial
  | s, a :: as =>
      have := decidable (step s a) as
      inferInstanceAs (Decidable (_ ∧ _))

theorem append_iff {s : σ} {as bs : List α} :
    Along step ok s (as ++ bs) ↔ Along step ok s as ∧ Along step ok (as.foldl step s) bs := by
  induction as generalizing s with
  | nil => simp [Along]
  | cons a as ih => simp [Along, ih, and_assoc]

theorem invariant {I : σ → Prop} (hstep : ∀ s a, I s → ok s a → I (step s a)) {s : σ}
    (hs : I s) {as : List α} (h : Along step ok s as) : I (as.foldl step s) := by
  induction as generalizing s with
  | nil => exact hs
  | cons a as ih => exact ih (hstep s a hs h.1) h.2

/-- If, under a side invariant `J` that no step breaks, a step keeps `I` exactly
when it is admitted, then `I` holds all along a run exactly when it holds at the
start and every step is admitted. -/
theorem iff_forall_take {I J : σ → Prop} (hJ : ∀ s a, J s → J (step s a))
    (hstep : ∀ s a, J s → I s → (I (step s a) ↔ ok s a)) {s : σ} (hs : J s) (as : List α) :
    (∀ k, I ((as.take k).foldl step s)) ↔ I s ∧ Along step ok s as := by
  induction as generalizing s with
  | nil => simp [Along]
  | cons a as ih =>
      have hrest := ih (hJ s a hs)
      constructor
      · intro h
        have hI : I s := h 0
        have hI' : I (step s a) := h 1
        exact ⟨hI, (hstep s a hs hI).1 hI', (hrest.1 fun k => h (k + 1)).2⟩
      · rintro ⟨hI, hok, halong⟩ k
        cases k with
        | zero => exact hI
        | succ k => exact hrest.2 ⟨(hstep s a hs hI).2 hok, halong⟩ k

end Along

theorem foldl_invariant {f : σ → α → σ} {I : σ → Prop} (hstep : ∀ s a, I s → I (f s a))
    {s : σ} (hs : I s) (as : List α) : I (as.foldl f s) := by
  induction as generalizing s with
  | nil => exact hs
  | cons a as ih => exact ih (hstep s a hs)

end ParDiff.Lib
