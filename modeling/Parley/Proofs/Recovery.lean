import Parley.Proofs.Accepted

/-!
# Failures that can be met

A condition that cannot be evaluated does not hold, and an effect that fails is skipped. A failure
may also carry a fault, which must not be passed over like that. No evaluation of a condition and
no effect between the player and another speaker fails in this way.
-/

namespace Parley

variable {α β γ : Type}

/-- Going on without what failed is possible. -/
def Failure.Recoverable (failure : Failure) : Prop := ∀ cause, failure ≠ .fault cause

/-- Wherever the computation fails, going on without it is possible. -/
def Recovers (x : Except Failure γ) : Prop := ∀ failure, x = .error failure → failure.Recoverable

/-- However the random numbers fall, going on without the evaluation is possible if it fails. -/
def Draw.Recovers (m : Draw γ) : Prop := ∀ g, Parley.Recovers (m.run.run g).1

/-- In whatever encounter the deed fails, going on without it is possible. -/
def Act.Recovers (m : Act α β γ) : Prop := ∀ e, Parley.Recovers (m.perform e).1

namespace Failure

variable {vars : List Variable} {failure : Failure}

theorem OfValue.recoverable (h : failure.OfValue vars) : failure.Recoverable := by
  intro cause
  cases h <;> simp

theorem IsRefusal.recoverable (h : failure.IsRefusal) : failure.Recoverable := by
  rintro cause rfl
  exact h

end Failure

/-- A condition that cannot be evaluated hides no fault. -/
theorem Condition.recovers_evaluate [Actor α] [Actor β] {s : Scene α β} {item : Option String}
    (c : Condition) : (c.evaluate s item).Recovers :=
  (c.failsOnly_evaluate (.refl _)).imp fun _ => Failure.OfValue.recoverable

/-- An effect that fails hides no fault, so it can be skipped. -/
theorem Effect.recovers_execute [Actor α] [Actor β] [Actor.InMemory α] [Actor.InMemory β]
    (e : Effect) : (e.execute : Act α β Unit).Recovers := by
  refine e.failsOnly_execute.imp fun failure h => ?_
  rcases h with value | refusal
  · exact value.recoverable
  · exact refusal.recoverable

end Parley
