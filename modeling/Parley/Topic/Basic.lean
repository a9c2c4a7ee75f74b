import Parley.Topic.Line
import Parley.Topic.Response

/-!
# Topics

A topic has a line, effects that happen when it is entered, and responses. A topic may be defined
in several places: a later definition adds to an earlier one and overrides its line and its choice
about the built-in responses, where it says anything about them.
-/

namespace Parley

/-- Effects that happen when a topic is entered. -/
structure SpeakerEffect where
  condition : Option Condition
  effects : List Effect
  /-- The mark that keeps the effects from happening twice. -/
  sentinel : Option String

namespace SpeakerEffect

/-- The name of the variable that keeps a mark. -/
def sentinelName (sentinel : String) : String := "npctalk_var_sentinel_" ++ sentinel

/-- The name of the variable that keeps the mark of the effects. -/
def sentinelVar (e : SpeakerEffect) : Option String := e.sentinel.map sentinelName

/-- The fields of speaker effects. -/
def fields : Fields (Option Json × Json × Option String) :=
  (fun condition effect sentinel => (condition, effect, sentinel))
    <$> .optional "condition" .json <*> .required "effect" .json
    <*> .optional "sentinel" .string

/-- The speaker effects that content writes. -/
def ofJson (j : Json) : Except Failure SpeakerEffect := do
  let (condition, effect, sentinel) ←
    (fields.read j).mapError (·.inContent "speaker_effect")
  return ⟨← Condition.ofJson? condition, ← Effect.listOfJson effect, sentinel⟩

end SpeakerEffect

/-- Something to talk about. -/
structure Topic where
  id : String
  line : Option Line := none
  /-- Whether the built-in responses are left out, where that is said. -/
  replace? : Option Bool := none
  speakerEffects : List SpeakerEffect := []
  responses : List Response := []
  repeatResponses : List RepeatResponse := []

namespace Topic

/-- Are the built-in responses left out? -/
def replacesBuiltIn (t : Topic) : Bool := t.replace?.getD false

/-- A topic with nothing to say. -/
def new (id : String) : Topic := { id }

/-- The topic with a fixed line. -/
def withLine (t : Topic) (line : String) : Topic := { t with line := some (.fixed line) }

/-- The topic with one more response. -/
def withResponse (t : Topic) (r : Response) : Topic :=
  { t with responses := t.responses ++ [r] }

/-- A definition followed by a later one of the same topic. -/
def merge (t later : Topic) : Topic where
  id := t.id
  line := later.line.or t.line
  replace? := later.replace?.or t.replace?
  speakerEffects := t.speakerEffects ++ later.speakerEffects
  responses := t.responses ++ later.responses
  repeatResponses := t.repeatResponses ++ later.repeatResponses

/-- The topics to which the responses can lead, in order and with repeats. -/
def nextTopics (t : Topic) : List String :=
  (t.responses ++ t.repeatResponses.map (·.response)).flatMap Response.nextTopics

/-- A record of topics as it is written. -/
structure Written where
  ids : List String
  line : Option Json
  replace? : Option Bool
  speakerEffect : Option Json
  responses : List Json
  repeatResponses : List Json

/-- The fields of a record of topics. -/
def fields : Fields Written :=
  Written.mk
    <$> .required "id" (.either (fun j => (Reader.string j).map ([·])) (.list .string))
    <*> .optional "dynamic_line" .json
    <*> .optional "replace_built_in_responses" .bool
    <*> .optional "speaker_effect" .json
    <*> .orElse "responses" (.list .json) []
    <*> .orElse "repeat_responses" (.list .json) []

/-- The speaker effects of a record, as an array or a single one. -/
def speakerEffectsOf : Option Json → Except Failure (List SpeakerEffect)
  | some (.arr items) => indexed "speaker_effect" SpeakerEffect.ofJson items
  | some single => do return [← SpeakerEffect.ofJson single]
  | none => return []

/-- The line of a record, if it has one. -/
def lineOf : Option Json → Except Failure (Option Line)
  | some j => (Line.ofJson j).map some
  | none => return none

/-- The topic with an id that a record defines. -/
def build (id : String) (w : Written) : Except Failure Topic := do
  let speakerEffects ← speakerEffectsOf w.speakerEffect
  let line ← lineOf w.line
  let responses ← indexed "responses" Response.ofJson w.responses
  let repeatResponses ← indexed "repeat_responses" RepeatResponse.ofJson w.repeatResponses
  return { id, line, replace? := w.replace?, speakerEffects, responses, repeatResponses }

/-- The topic with an id that a record defines; a failure is reported under the id. -/
def ofWritten (w : Written) (id : String) : Except Failure Topic :=
  (build id w).mapError (Failure.inContext id)

/-- The topics that a record defines, one for each of its ids. -/
def allOfWritten (w : Written) : Except Failure (List Topic) := w.ids.mapM (ofWritten w)

/-- The topics that a record of content defines. -/
def allOfJson (j : Json) : Except Failure (List Topic) := do
  let w ← (fields.read j).mapError (·.inContent "talk_topic")
  allOfWritten w

end Topic

end Parley
