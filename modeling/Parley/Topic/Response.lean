import Parley.Effect.Outcome
import Parley.Trial.Reader

/-!
# Responses

What the player can say on a topic, what it is shown as, and what comes of it. A response may be
a gamble with one outcome for success and one for failure. A repeat response stands for one
response for each item that an actor has.
-/

namespace Parley

/-- A text that depends on a condition. -/
structure TextChoice where
  condition : Condition
  ifTrue : String
  ifFalse : String

/-- Something the player can say. -/
structure Response where
  text : String
  choice : Option TextChoice := none
  condition : Option Condition := none
  /-- Of the switch responses only the first visible one is offered. -/
  switch : Bool := false
  /-- A switch response that does not keep later ones from being offered. -/
  default : Bool := false
  trial : Trial := {}
  success : Outcome := {}
  failure : Outcome := {}
  mission : Option String := none
  training : Training := .none
  item : Option String := none

namespace Response

/-- A response that leads to a topic. -/
def leadingTo (text topic : String) : Response := { text, success := { nextTopic := topic } }

/-- The topics to which a response can lead. -/
def nextTopics (r : Response) : List String :=
  r.success.nextTopic :: if r.trial.isActive then [r.failure.nextTopic] else []

/-- What comes of a response when its trial has succeeded, or has not. -/
def outcome (r : Response) (success : Bool) : Outcome := if success then r.success else r.failure

/-- Does a response end the conversation for sure? -/
def endsConversation (r : Response) : Bool :=
  r.success.nextTopic = endTalk && !r.trial.isActive

/-- Does a response, when it succeeds, stay on the topic? -/
def stays (r : Response) : Bool := r.success.nextTopic = stayHere

/-- What a response leads to when it succeeds with a chance. -/
def consequences {β : Type} [Actor β] (r : Response) (chance : Int32) (npc : β) :
    List Consequence :=
  if 100 ≤ chance then [r.success.consequence npc]
  else if chance ≤ 0 then [r.failure.consequence npc]
  else [r.success.consequence npc, r.failure.consequence npc]

/-- The text of a response in a scene. -/
def displayText {α β : Type} [Actor α] [Actor β] (s : Scene α β) (r : Response) :
    StateM Generator String :=
  match r.choice with
  | some choice => do
    if ← choice.condition.check s none then return choice.ifTrue else return choice.ifFalse
  | none => pure r.text

/-- A response as it is written. -/
structure Written where
  text : Option String
  choice : Option (Json × String × String)
  condition : Option Json
  switch : Bool
  default : Bool
  trial : Option Json
  success : Option Outcome.Written
  failure : Option Outcome.Written
  short : Outcome.Written
  mission : Option String
  training : Training
  item : Option String

/-- The fields of a text that depends on a condition. -/
def choiceFields : Fields (Json × String × String) :=
  (fun condition ifTrue ifFalse => (condition, ifTrue, ifFalse))
    <$> .required "condition" .json <*> .required "true" .string <*> .required "false" .string

/-- The fields of a response. -/
def fields : Fields Written :=
  (fun text choice condition switch default trial success failure topic effect opinion mission
      skill style spell proficiency item =>
    { text, choice, condition, switch, default, trial, success, failure,
      short := { topic, effect, opinion }, mission,
      training := { skill, style, spell, proficiency }, item })
    <$> .optional "text" .string
    <*> .optional "truefalsetext" choiceFields.read
    <*> .optional "condition" .json
    <*> .orElse "switch" .bool false
    <*> .orElse "default" .bool false
    <*> .optional "trial" .json
    <*> .optional "success" Outcome.fields.read
    <*> .optional "failure" Outcome.fields.read
    <*> .optional "topic" .string
    <*> .optional "effect" .json
    <*> .optional "opinion" Opinion.reader
    <*> .optional "mission" .string
    <*> .optional "skill" .string
    <*> .optional "style" .string
    <*> .optional "spell" .string
    <*> .optional "proficiency" .string
    <*> .optional "item" .string

/-- A response is refused. -/
def refuse {α : Type} (message : String) : Except Failure α :=
  .error (.content "response" message)

/-- The text that depends on a condition, if one is written. -/
def choiceOf : Option (Json × String × String) → Except Failure (Option TextChoice)
  | some (condition, ifTrue, ifFalse) => do
    return some ⟨← Condition.ofJson condition, ifTrue, ifFalse⟩
  | none => return none

/-- The text: as written, else the one for when the condition holds. -/
def textOf : Option String → Option TextChoice → Except Failure String
  | some text, _ => .ok text
  | none, some choice => .ok choice.ifTrue
  | none, none => refuse "needs text or truefalsetext"

/-- The outcome of success: under its own key, or in short among the fields of the response. -/
def successOf (w : Written) : Except Failure Outcome :=
  match w.success with
  | some success =>
    if w.short.topic.isSome || w.short.effect.isSome || w.short.opinion.isSome then
      refuse "give either \"success\" or topic/effect/opinion, not both"
    else Outcome.ofWritten success
  | none => Outcome.ofWritten w.short

/-- The outcome of failure, under its own key. -/
def failureOf : Option Outcome.Written → Except Failure Outcome
  | some failure => (Outcome.ofWritten failure).mapError (Failure.inContext "failure")
  | none => return {}

/-- The trial; without one there is nothing to decide. -/
def trialOf : Option Json → Except Failure Trial
  | some trial => Trial.ofJson trial
  | none => return {}

/-- The response that content writes. -/
def ofJson (j : Json) : Except Failure Response := do
  let w ← (fields.read j).mapError (·.inContent "response")
  let choice ← choiceOf w.choice
  let text ← textOf w.text choice
  let success ← successOf w
  let failure ← failureOf w.failure
  let trial ← trialOf w.trial
  let condition ← Condition.ofJson? w.condition
  return {
    text, choice, condition, switch := w.switch, default := w.default, trial, success, failure,
    mission := w.mission, training := w.training, item := w.item }

end Response

/-- A response for each of several items. -/
structure RepeatResponse where
  forItem : List String
  forCategory : List String
  /-- Are the items those of the other speaker? -/
  isNpc : Bool
  includeContainers : Bool
  response : Response

namespace RepeatResponse

/-- The fields of a repeat response. -/
def fields : Fields (List String × List String × Bool × Bool × Json) :=
  (fun forItem forCategory isNpc includeContainers response =>
    (forItem, forCategory, isNpc, includeContainers, response))
    <$> .orElse "for_item" (.list .string) []
    <*> .orElse "for_category" (.list .string) []
    <*> .orElse "is_npc" .bool false
    <*> .orElse "include_containers" .bool false
    <*> .required "response" .json

/-- The repeat response that content writes. -/
def ofJson (j : Json) : Except Failure RepeatResponse := do
  let (forItem, forCategory, isNpc, includeContainers, response) ←
    (fields.read j).mapError (·.inContent "repeat_response")
  if forItem.isEmpty && forCategory.isEmpty then
    .error (.content "repeat_response" "needs for_item or for_category")
  else do
    let response ← (Response.ofJson response).mapError (Failure.inContext "response")
    return { forItem, forCategory, isNpc, includeContainers, response }

end RepeatResponse

end Parley
