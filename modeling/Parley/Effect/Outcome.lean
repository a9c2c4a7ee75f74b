import Parley.Effect.Execution
import Parley.Effect.Reader

/-!
# Outcomes

What one way of choosing a response leads to: effects in order, a change of opinion, and the next
topic. The change of opinion may have a part that grows with the value of the selected mission.
-/

namespace Parley

/-- The topic that stands for staying where one is. -/
def stayHere : String := "TALK_NONE"

/-- The topic that stands for the end of the conversation. -/
def endTalk : String := "TALK_DONE"

/-- How bad an outcome is for the conversation. -/
inductive Consequence where
  | none
  | action
  | helpless
  | hostile
deriving DecidableEq, Repr

namespace Consequence

/-- The badness as a number. -/
def rank : Consequence → Nat
  | .none => 0
  | .action => 1
  | .helpless => 2
  | .hostile => 3

/-- The worse of two consequences. -/
def worse (a b : Consequence) : Consequence := if a.rank ≤ b.rank then b else a

/-- The consequence of an effect. -/
def ofEffect (e : Effect) : Consequence :=
  match e.kind with
  | .action .hostile | .action .insultCombat => .hostile
  | .action .playerWeaponDrop | .action .playerWeaponAway | .action .startMugging => .helpless
  | .addVar .. | .removeVar .. | .adjustVar .. | .setTextVar .. | .arithmetic .. | .message .. =>
    .none
  | _ => .action

end Consequence

/-- What one way of choosing a response leads to. -/
structure Outcome where
  nextTopic : String := stayHere
  effects : List Effect := []
  opinion : Opinion := .zero
  /-- The parts by which the value of the selected mission is divided. -/
  missionOpinion : Opinion := .zero

namespace Outcome

/-- The worst that an outcome can do to the conversation with an actor. -/
def consequence {β : Type} [Actor β] (o : Outcome) (npc : β) : Consequence :=
  (o.effects.map Consequence.ofEffect).foldl .worse
    (if Actor.checkHostileResponse npc o.opinion.anger then .hostile else .none)

/-- What the player is likely to get. -/
def likelyRewards (o : Outcome) : List (String × Int32) := o.effects.filterMap Effect.likelyReward

/-- `value` divided by `divisor`, rounded toward zero; zero for a zero divisor. -/
def scaled (value divisor : Int32) : Int32 := if divisor = 0 then 0 else value / divisor

/-- Is there a quotient that does not fit? -/
def overflows (value : Int32) (divisors : Opinion) : Bool :=
  value = Int32.minValue && divisors.parts.any (· = -1)

/-- The change of opinion when the selected mission has a value. -/
def opinionChange (o : Outcome) : Option Int32 → Except Fault Opinion
  | none => .ok o.opinion
  | some value =>
    if overflows value o.missionOpinion then .error .quotientOverflow
    else .ok (o.opinion.add (o.missionOpinion.map (scaled value)))

section

variable {α β : Type} [Actor α] [Actor β]

/-- Let the actors feel the change of opinion. An actor that has turned hostile ends the
conversation, whatever the outcome says. -/
def settle (o : Outcome) (delta : Opinion) (s : Scene α β) : String × Scene α β :=
  let s := if delta = .zero then s else { s with npc := Actor.addOpinion s.npc delta }
  if Actor.turnedHostile s.npc then (endTalk, { s with npc := Actor.makeAngry s.npc })
  else (o.nextTopic, s.refreshMissions)

/-- Carry out the effects of an outcome in order. Effects that fail are skipped. -/
def carryOut (o : Outcome) (e : Encounter α β) : Encounter α β :=
  (o.effects.forM Effect.attempt e).2

/-- Apply an outcome, and say which topic comes next. -/
def apply (o : Outcome) (e : Encounter α β) : Except Fault String × Encounter α β :=
  let e := o.carryOut e
  match o.opinionChange (Actor.selectedMissionValue e.scene.npc) with
  | .error fault => (.error fault, e)
  | .ok delta =>
    let (next, scene) := o.settle delta e.scene
    (.ok next, { e with scene })

end

/-- An outcome as it is written. -/
structure Written where
  topic : Option String := none
  effect : Option Json := none
  opinion : Option Opinion := none
  missionOpinion : Option Opinion := none

/-- The fields of an outcome. -/
def fields : Fields Written :=
  Written.mk <$> .optional "topic" .string <*> .optional "effect" .json
    <*> .optional "opinion" Opinion.reader <*> .optional "mission_opinion" Opinion.reader

/-- The outcome that is written. -/
def ofWritten (w : Written) : Except Failure Outcome := do
  let effects ← match w.effect with
    | some j => Effect.listOfJson j
    | none => pure []
  return {
    nextTopic := w.topic.getD stayHere
    effects
    opinion := w.opinion.getD .zero
    missionOpinion := w.missionOpinion.getD .zero }

end Outcome

end Parley
