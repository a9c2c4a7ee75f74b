import Parley.Condition.Basic
import Parley.Text.Upper

/-!
# Trials

A trial makes a response a gamble. Its chance in percent is worked out from its kind, its
difficulty (0 is trivial, 100 is hopeless), the actors and any modifiers, and lies from 0 to 100.
-/

namespace Parley

/-- What decides a trial. -/
inductive TrialKind where
  /-- Nothing: it always succeeds. -/
  | none
  | social (social : Social)
  | skillCheck
  | condition
deriving DecidableEq, Repr

/-- All kinds of trial, by the name that content uses. -/
def TrialKind.table : List (String × TrialKind) :=
  [("NONE", .none), ("LIE", .social .lie), ("PERSUADE", .social .persuade),
    ("INTIMIDATE", .social .intimidate), ("SKILL_CHECK", .skillCheck), ("CONDITION", .condition)]

/-- The kind of social skill that a trial puts to the test. -/
def TrialKind.social? : TrialKind → Option Social
  | .social s => some s
  | _ => Option.none

/-- Something that a chance is changed by. -/
inductive Modifier where
  | trust
  | value
  | fear
  | anger
  | owed
  | posFear
  | missionsAssigned
  | uLie
  | uPersuade
  | uIntimidate
  | flat
deriving DecidableEq, Repr

namespace Modifier

/-- All modifiers, by the name that content uses. -/
def table : List (String × Modifier) :=
  [("TRUST", .trust), ("VALUE", .value), ("FEAR", .fear), ("ANGER", .anger), ("OWED", .owed),
    ("POS_FEAR", .posFear), ("MISSIONS_ASSIGNED", .missionsAssigned), ("U_LIE", .uLie),
    ("U_PERSUADE", .uPersuade), ("U_INTIMIDATE", .uIntimidate), ("FLAT", .flat)]

/-- The modifier of a name. -/
def ofName (name : String) : Except Failure Modifier :=
  match table.lookup name with
  | some m => .ok m
  | none => .error (.unknownModifier name)

/-- What a modifier amounts to in a scene, before it is weighted. -/
def base {α β : Type} [Actor α] [Actor β] (s : Scene α β) : Modifier → Int32
  | .trust => (Actor.opinion s.npc).trust
  | .value => (Actor.opinion s.npc).value
  | .fear => (Actor.opinion s.npc).fear
  | .anger => (Actor.opinion s.npc).anger
  | .owed => (Actor.opinion s.npc).owed
  | .posFear => max (Actor.opinion s.npc).fear 0
  | .missionsAssigned => clamp32 s.missionsAssigned.length
  | .uLie => Actor.socialMod s.u .lie
  | .uPersuade => Actor.socialMod s.u .persuade
  | .uIntimidate => Actor.socialMod s.u .intimidate
  | .flat => 1

end Modifier

/-- A trial. -/
structure Trial where
  kind : TrialKind := .none
  difficulty : Int32 := 0
  skill : Option String := none
  condition : Option Condition := none
  modifiers : List (Modifier × Int32) := []

/-- How a trial went. -/
structure Roll where
  success : Bool
  chance : Int32
  /-- Was a number drawn? -/
  rolled : Bool
deriving DecidableEq, Repr

namespace Trial

/-- Is there anything to decide? -/
def isActive (t : Trial) : Bool := t.kind ≠ .none

/-- The trait with which every trial succeeds. -/
def mindControl : String := "DEBUG_MIND_CONTROL"

/-- How much of the level of a skill counts: nothing below zero, and nothing above ten. -/
def countedLevel (level : Int32) : Int32 := within32 0 10 level (by decide)

section

variable {α β : Type} [Actor α] [Actor β] (s : Scene α β)

/-- The sum of the weighted modifiers. -/
def bonus (modifiers : List (Modifier × Int32)) : Int32 :=
  (modifiers.map fun (m, weight) => mul32 (m.base s) weight).foldl add32 0

/-- The chance of a trial that is not decided by a condition, before the modifiers. -/
def plainChance (t : Trial) : TrialKind → Int32
  | .none => 100
  | .condition => 0
  | .social social =>
    add32 (add32 (100 - t.difficulty) (Actor.socialMod s.u social)) (Actor.socialMod s.npc social)
  | .skillCheck =>
    100 - 2 * t.difficulty + 10 * countedLevel ((t.skill.map (Actor.skillLevel s.u)).getD 0)

/-- The chance of success in percent. -/
def chance (t : Trial) : StateM Generator Int32 :=
  match t.kind with
  | .none => pure 100
  | kind =>
    if Actor.hasTrait s.u mindControl then pure 100
    else match kind with
      | .condition => do
        let passed ← match t.condition with
          | some c => c.check s none
          | none => pure false
        pure (if passed then 100 else 0)
      | kind =>
        pure (percent32 (add32 (t.plainChance s kind) (bonus s t.modifiers)))

/-- Decide a trial. A number from 0 to 99 is drawn unless it takes no luck. -/
def roll (t : Trial) : StateM Generator Roll := do
  let chance ← t.chance s
  match t.kind with
  | .none | .condition => pure ⟨100 ≤ chance, chance, false⟩
  | _ => do
    let n ← Generator.below100
    pure ⟨n.toInt < chance.toInt, chance, true⟩

/-- The word for a trial. -/
def label (t : Trial) : Option String :=
  match t.kind with
  | .none | .condition => none
  | .social .lie => some "LIE"
  | .social .persuade => some "PERSUADE"
  | .social .intimidate => some "INTIMIDATE"
  | .skillCheck => some (Text.upper (t.skill.getD "SKILL"))

/-- A text with the trial and its chance in front. -/
def decorate (t : Trial) (text : String) : StateM Generator String :=
  match t.label with
  | some label => do
    let chance ← t.chance s
    pure ("[" ++ label ++ " " ++ toString chance.toInt ++ "%] " ++ text)
  | none => pure text

end

end Trial

end Parley
