import Parley.Condition.Reader
import Parley.Trial.Basic

/-!
# Trials in content

A trial is refused for a difficulty that is no percentage, for a skill check without a skill, and
for a condition trial without a condition.
-/

namespace Parley

namespace Trial

/-- A trial as it is written. -/
structure Written where
  kind : TrialKind
  difficulty : Int32
  skill : Option String
  modifiers : List (String × Int32)
  condition : Option Json

/-- The fields of a trial. -/
def fields : Fields Written :=
  Written.mk <$> .orElse "type" (.choice .strict TrialKind.table) .none
    <*> .orElse "difficulty" .int32 0
    <*> .optional "skill_required" .string
    <*> .orElse "mod" (.list (.pair .strict .string .int32)) []
    <*> .optional "condition" .json

/-- The condition that decides a trial of a kind. -/
def conditionOf (w : Written) : Except Failure (Option Condition) :=
  match w.kind with
  | .condition => match w.condition with
    | some j => (Condition.ofJson j).map some
    | none => .error (.content "trial" "CONDITION needs a condition")
  | _ => .ok none

/-- The trial that content writes. -/
def ofJson (j : Json) : Except Failure Trial := do
  let w ← (fields.read j).mapError (·.inContent "trial")
  if w.difficulty < 0 ∨ 100 < w.difficulty then
    .error (.content "trial" ("difficulty " ++ toString w.difficulty.toInt ++ " outside 0..=100"))
  else if w.kind = .skillCheck ∧ w.skill = none then
    .error (.content "trial" "SKILL_CHECK needs skill_required")
  else do
    let condition ← conditionOf w
    let modifiers ← w.modifiers.mapM fun (name, weight) => do
      return (← Modifier.ofName name, weight)
    return { kind := w.kind, difficulty := w.difficulty, skill := w.skill, condition, modifiers }

end Trial

end Parley
