import Parley.Actor.Npc
import Parley.Actor.Player
import Parley.Proofs.Deed
import Parley.Proofs.Steady

/-!
# The laws of Boolean algebra for conditions

Conditions may fail and may draw random numbers, and which of them are looked at depends on the
values of those before. The laws hold all the same, between whole evaluations: both sides come to
the same value or fail for the same cause, and they leave the same state of the random generator.
-/

namespace Parley.Condition

section

variable {α β : Type} [Actor α] [Actor β] (s : Scene α β) (item : Option String)

/-- Look at conditions until one comes to `stop`. The value is `stop` if one does, and else its
negation. -/
def evaluateUntil (stop : Bool) : List Condition → Draw Bool
  | [] => return !stop
  | c :: rest => do
    if (← c.evaluate s item) = stop then return stop else evaluateUntil stop rest

/-- A conjunction is decided by the first condition that is false. -/
theorem evaluate_and (cs : List Condition) :
    (and cs).evaluate s item = evaluateUntil s item false cs := by
  rw [evaluate]
  induction cs with
  | nil => rfl
  | cons c rest ih =>
    rw [evaluateAll, evaluateUntil, ih]
    refine bind_congr fun value => ?_
    cases value <;> rfl

/-- A disjunction is decided by the first condition that is true. -/
theorem evaluate_or (cs : List Condition) :
    (or cs).evaluate s item = evaluateUntil s item true cs := by
  rw [evaluate]
  induction cs with
  | nil => rfl
  | cons c rest ih =>
    rw [evaluateAny, evaluateUntil, ih]

theorem evaluate_not (c : Condition) :
    (not c).evaluate s item = (!·) <$> c.evaluate s item := (map_eq_pure_bind _ _).symm

/-- Negations come to `stop` where the conditions come to the opposite. -/
theorem evaluateUntil_map_not (stop : Bool) (cs : List Condition) :
    evaluateUntil s item stop (cs.map .not) = (!·) <$> evaluateUntil s item (!stop) cs := by
  induction cs with
  | nil => cases stop <;> rfl
  | cons c rest ih =>
    simp only [List.map_cons, evaluateUntil, evaluate, bind_assoc, map_bind, pure_bind]
    refine bind_congr fun value => ?_
    cases stop <;> cases value <;> first | rfl | exact ih

/-- A list is evaluated part by part, the second part only if the first has not decided. -/
theorem evaluateUntil_append (stop : Bool) (xs ys : List Condition) :
    evaluateUntil s item stop (xs ++ ys) = (do
      if (← evaluateUntil s item stop xs) = stop then return stop
      else evaluateUntil s item stop ys) := by
  induction xs with
  | nil => cases stop <;> rfl
  | cons c rest ih =>
    simp only [List.cons_append, evaluateUntil, bind_assoc]
    refine bind_congr fun value => ?_
    cases stop <;> cases value <;> first | rfl | exact ih

/-- One condition among others is looked at as it stands. -/
theorem evaluateUntil_singleton (stop : Bool) (c : Condition) :
    evaluateUntil s item stop [c] = c.evaluate s item := by
  refine Eq.trans (bind_congr fun value => ?_) (bind_pure _)
  cases stop <;> cases value <;> rfl

theorem evaluate_not_and (cs : List Condition) :
    (not (.and cs)).evaluate s item = (or (cs.map .not)).evaluate s item := by
  rw [evaluate_not, evaluate_and, evaluate_or, evaluateUntil_map_not]
  rfl

theorem evaluate_not_or (cs : List Condition) :
    (not (.or cs)).evaluate s item = (and (cs.map .not)).evaluate s item := by
  rw [evaluate_not, evaluate_or, evaluate_and, evaluateUntil_map_not]
  rfl

theorem evaluate_not_not (c : Condition) : (not (.not c)).evaluate s item = c.evaluate s item := by
  simp only [evaluate_not, Functor.map_map, Bool.not_not, id_map']

theorem evaluate_and_flatten (xs ys zs : List Condition) :
    (and (xs ++ [.and ys] ++ zs)).evaluate s item = (and (xs ++ ys ++ zs)).evaluate s item := by
  simp only [evaluate_and, evaluateUntil_append, evaluateUntil_singleton]

theorem evaluate_or_flatten (xs ys zs : List Condition) :
    (or (xs ++ [.or ys] ++ zs)).evaluate s item = (or (xs ++ ys ++ zs)).evaluate s item := by
  simp only [evaluate_or, evaluateUntil_append, evaluateUntil_singleton]

/-- A negation holds exactly where the condition is false; where it fails, neither does. -/
theorem evaluate_not_eq_true (c : Condition) (g : Generator) :
    (((not c).evaluate s item).run.run g).1 = .ok true ↔
      ((c.evaluate s item).run.run g).1 = .ok false := by
  rw [evaluate_not, map_eq_pure_bind, Draw.run_bind]
  rcases (c.evaluate s item).run.run g with ⟨failure | _ | _, g'⟩
  · exact iff_of_false nofun nofun
  · exact iff_of_true rfl rfl
  · exact iff_of_false nofun nofun

/-- A check is passed exactly where the evaluation says so: a failure counts as not passed. -/
theorem check_fst (c : Condition) (g : Generator) :
    (c.check s item g).1 = true ↔ ((c.evaluate s item).run.run g).1 = .ok true := by
  unfold check
  rcases (c.evaluate s item).run.run g with ⟨failure | value, g'⟩
  · exact iff_of_false nofun nofun
  · exact Except.ok.injEq .. ▸ Iff.rfl

/-- Conditions obey the laws of Boolean algebra, with all that they draw and all that they fail for:
the negation of a conjunction and the disjunction of the negations, the negation of a disjunction
and the conjunction of the negations, a double negation and the condition itself, and a nested
conjunction or disjunction and the flat one. Where a condition has no ranges it and its negation
are not both taken to hold, and neither is taken to hold just when the condition fails. -/
theorem boolean_laws :
    (∀ cs, (not (.and cs)).evaluate s item = (or (cs.map .not)).evaluate s item) ∧
    (∀ cs, (not (.or cs)).evaluate s item = (and (cs.map .not)).evaluate s item) ∧
    (∀ c, (not (.not c)).evaluate s item = c.evaluate s item) ∧
    (∀ xs ys zs,
      (and (xs ++ [.and ys] ++ zs)).evaluate s item = (and (xs ++ ys ++ zs)).evaluate s item) ∧
    (∀ xs ys zs,
      (or (xs ++ [.or ys] ++ zs)).evaluate s item = (or (xs ++ ys ++ zs)).evaluate s item) ∧
    ∀ c, c.rangeFree = true → ∀ g₁ g₂ g₃,
      ¬((c.check s item g₁).1 = true ∧ ((not c).check s item g₂).1 = true) ∧
      ((c.check s item g₁).1 = false ∧ ((not c).check s item g₂).1 = false ↔
        ∃ failure, ((c.evaluate s item).run.run g₃).1 = .error failure) := by
  refine ⟨evaluate_not_and s item, evaluate_not_or s item, evaluate_not_not s item,
    evaluate_and_flatten s item, evaluate_or_flatten s item, fun c free g₁ g₂ g₃ => ?_⟩
  obtain ⟨outcome, draws⟩ : (c.evaluate s item).Steady := c.steady free
  have run : ∀ g, ((c.evaluate s item).run.run g).1 = outcome := fun g => by rw [draws]; rfl
  simp only [← Bool.not_eq_true, check_fst, evaluate_not_eq_true, run]
  rcases outcome with failure | _ | _ <;> simp

end

/-- A quotient by zero makes a condition fail, so that neither it nor its negation is taken to
hold, also where it stands behind another condition in a nested conjunction. -/
theorem quotient_by_zero_neither_holds :
    let s : Scene Player Npc :=
      { u := .ofSheet (.new "Bob"), npc := .ofSheet (.new "Ann"), globals := .empty
        current := { id := "TALK" }, earlier := [], missionsAssigned := [], byRadio := false }
    let quotient : Formula := .binary .div (.ref (.literal 1)) (.ref (.literal 0))
    let c : Condition := .and [.uIsPlayer, .and [.math quotient .eq (.ref (.literal 0))]]
    let g := Generator.ofSeed 0
    c.rangeFree = true ∧ ((c.evaluate s none).run.run g).1 = .error .divisionByZero ∧
      (c.check s none g).1 = false ∧ ((not c).check s none g).1 = false := by
  intro s quotient c g
  obtain ⟨-, -, -, -, -, checks⟩ := boolean_laws s none
  have free : c.rangeFree = true := rfl
  have fails : ((c.evaluate s none).run.run g).1 = .error .divisionByZero := rfl
  exact ⟨free, fails, (checks c free g g g).2.2 ⟨_, fails⟩⟩

end Parley.Condition
