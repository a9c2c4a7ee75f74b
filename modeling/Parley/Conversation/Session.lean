import Parley.Settings
import Parley.Text.Basic
import Parley.Topic.Registry

/-!
# Sessions

A session is one conversation between the player's side and another speaker. It goes through the
graph of topics: on entering a topic its speaker effects happen, its line is said and responses
are offered, and the one that is chosen is applied.
-/

namespace Parley

/-- A conversation. -/
structure Session (α β : Type) where
  encounter : Encounter α β
  registry : Registry
  settings : TalkSettings
  /-- The responses on offer. -/
  responses : List Response := []
  lastTrial : Option Roll := none
  done : Bool := false

/-! ### Tags in texts -/

/-- A text with its tags replaced, one kind of tag after another. -/
def Scene.substitute {α β : Type} [Actor α] [Actor β] (s : Scene α β) (text : String) : String :=
  let text := Text.replace "<u_name>" (Actor.name s.u) text
  let text := Text.replace "<npc_name>" (Actor.name s.npc) text
  let text := Text.replace "<topic_item>" (s.current.item.getD "") text
  Text.replace "<reason>" s.current.reason text

namespace Session

variable {α β : Type} [Actor α] [Actor β]

/-- What conditions look at. -/
def scene (s : Session α β) : Scene α β := s.encounter.scene

/-- The session with another scene. -/
def withScene (s : Session α β) (scene : Scene α β) : Session α β :=
  { s with encounter := { s.encounter with scene } }

/-- The result of an evaluation that draws random numbers, and the session after it. -/
def drawing {γ : Type} (s : Session α β) (m : StateM Generator γ) : γ × Session α β :=
  let (result, generator) := m s.encounter.generator
  (result, { s with encounter := { s.encounter with generator } })

/-! ### Beginning -/

/-- A conversation that begins with the first topic of the settings. Without a seed the random
numbers start as for the seed `entropy`. -/
def start (u : α) (npc : β) (globals : Dict String) (registry : Registry)
    (settings : TalkSettings) (entropy : UInt64) : Session α β where
  encounter :=
    { scene :=
        { u, npc, globals, current := { id := settings.firstTopic }, earlier := []
          missionsAssigned := Actor.assignedMissions npc, byRadio := false }
      generator := .ofSeed (settings.seed.getD entropy)
      handoff := none }
  registry
  settings

/-- The conversation as one that is led by radio, or as one that is not. -/
def overRadio (s : Session α β) (byRadio : Bool) : Session α β :=
  s.withScene { s.scene with byRadio }

/-! ### Topics -/

/-- The definition of the topic that is being talked about. -/
def topic? (s : Session α β) : Option Topic := s.registry.get? s.scene.current.id

/-- Enter a topic. -/
def enter (s : Session α β) (entry : Entry) : Session α β :=
  s.withScene
    { s.scene with current := entry, earlier := s.scene.current :: s.scene.earlier }

/-- Give a reason for talking about the topic. -/
def setReason (s : Session α β) (reason : String) : Session α β :=
  s.withScene { s.scene with current := { s.scene.current with reason } }

/-- Take back the request for what is to happen after the conversation, and say what it was. -/
def takeHandoff (s : Session α β) : Option Handoff × Session α β :=
  (s.encounter.handoff, { s with encounter := { s.encounter with handoff := none } })

/-- A random number from `lo` to `hi`. -/
def sample (s : Session α β) (lo hi : Int64) : Except Fault (Int64 × Session α β) :=
  if h : lo ≤ hi then .ok (s.drawing fun g => g.sample lo hi h) else .error .emptyRange

/-! ### Entering a topic -/

/-- Does a speaker effect carry a mark that was set already? -/
def isMarked (e : SpeakerEffect) (npc : β) : Bool :=
  match e.sentinelVar with
  | some var => Actor.value? npc var = some "yes"
  | none => false

/-- Set the mark that speaker effects carry. -/
def mark (e : SpeakerEffect) (npc : β) : β :=
  match e.sentinelVar with
  | some var => Actor.setValue npc var "yes"
  | none => npc

/-- Whether a condition holds, where there is one. -/
def holds (scene : Scene α β) (c : Option Condition) (item : Option String) :
    StateM Generator Bool :=
  match c with
  | some c => c.check scene item
  | none => pure true

/-- Carry out speaker effects, unless their mark is set or their condition does not hold. -/
def speak (e : SpeakerEffect) : StateM (Encounter α β) Unit := fun enc =>
  if isMarked e enc.scene.npc then ((), enc)
  else
    let (due, generator) := holds enc.scene e.condition none enc.generator
    let enc := { enc with generator }
    if due then
      let ((), enc) := e.effects.forM Effect.attempt enc
      ((), { enc with scene := { enc.scene with npc := mark e enc.scene.npc } })
    else ((), enc)

/-- Carry out the speaker effects of the topic. -/
def applySpeakerEffects (s : Session α β) : Session α β :=
  match s.topic? with
  | some t => { s with encounter := (t.speakerEffects.forM speak s.encounter).2 }
  | none => s

/-- The line of the topic. -/
def line (s : Session α β) : String × Session α β :=
  match s.topic?.bind (·.line) with
  | some line =>
    let (text, s) := s.drawing (line.render s.scene)
    match text with
    | some text => (s.scene.substitute text, s)
    | none => (s.settings.placeholderLine, s)
  | none => (s.settings.placeholderLine, s)

/-! ### Responses -/

section

variable (scene : Scene α β)

/-- The items for which a repeat response stands: of the listed types those the owner has, then
the stacks of the listed categories. -/
def candidates (r : RepeatResponse) : List String :=
  let target : Target := if r.isNpc then .npc else .u
  let listed := r.forItem.filter fun id => scene.ask target (Actor.hasItem · id)
  let inventory := scene.ask target Actor.inventory
  let found := (Item.flattenAll inventory).filter fun item =>
    r.forCategory.contains item.category && (r.includeContainers || !item.isContainer)
  listed ++ found.map (·.type)

/-- The response for one item. -/
def instantiate (template : Response) (item : String) : Response :=
  { template with text := Text.replace "<topic_item>" item template.text, item := some item }

/-- The visible responses for some items. -/
def repeated (template : Response) : List String → StateM Generator (List Response)
  | [] => pure []
  | item :: rest => do
    let visible ← holds scene template.condition (some item)
    let more ← repeated template rest
    return if visible then instantiate template item :: more else more

/-- The visible responses of repeat responses. -/
def repeatedAll : List RepeatResponse → StateM Generator (List Response)
  | [] => pure []
  | r :: rest => do
    let first ← repeated scene r.response (candidates scene r)
    let more ← repeatedAll rest
    return first ++ more

/-- The visible authored responses. Once a switch response that is no default is offered, later
switch responses are passed over without looking at their conditions. -/
def authored (switched : Bool) : List Response → StateM Generator (List Response)
  | [] => pure []
  | r :: rest => do
    if r.switch && switched then authored switched rest
    else if ← holds scene r.condition none then do
      let more ← authored (switched || (r.switch && !r.default)) rest
      return r :: more
    else authored switched rest

/-- All visible responses of a topic. -/
def visible (t : Topic) : StateM Generator (List Response) := do
  let repeated ← repeatedAll scene t.repeatResponses
  let authored ← authored scene false t.responses
  return repeated ++ authored

end

/-- Offer the responses of the topic. A farewell is added unless the topic does without the
built-in responses and something else is visible. -/
def generate (s : Session α β) : Session α β :=
  let farewell := Response.leadingTo s.settings.farewellText endTalk
  match s.topic? with
  | some t =>
    let (responses, s) := s.drawing (visible s.scene t)
    { s with responses :=
        if t.replacesBuiltIn && !responses.isEmpty then responses else responses ++ [farewell] }
  | none => { s with responses := [farewell] }

/-- The response by which the conversation is best left: the only one; else one that ends it for
sure; else one that ends it with luck. -/
def bestQuit (s : Session α β) : Option Nat :=
  if s.responses.length = 1 then some 0
  else (s.responses.findIdx? Response.endsConversation).or
    (s.responses.findIdx? (·.success.nextTopic = endTalk))

/-! ### Choosing -/

/-- The skill that talking someone round trains. -/
def speechSkill : String := "speech"

/-- How much is learnt from a trial. -/
def practice (roll : Roll) : Int32 := (100 - roll.chance) / if roll.success then 10 else 7

/-- Note what a response asks of the other speaker, before it is decided. -/
def note (r : Response) (scene : Scene α β) : Scene α β :=
  let npc := match r.mission with
    | some mission => Actor.selectMission scene.npc mission
    | none => scene.npc
  let npc := if r.training.isEmpty then npc else Actor.storeChosenTraining npc r.training
  { scene with npc }

/-- Let the player learn from a trial of a social skill. -/
def learn (r : Response) (roll : Roll) (scene : Scene α β) : Scene α β :=
  if roll.rolled && r.trial.kind.social?.isSome && Actor.isPlayer scene.u then
    { scene with u := Actor.practiceSkill scene.u speechSkill (practice roll) }
  else scene

/-- Go on to the topic that an outcome says. -/
def goOn (r : Response) (next : String) (s : Session α β) : Session α β :=
  if next = endTalk then { s with done := true, responses := [] }
  else if next = stayHere then s
  else s.enter { id := next, item := r.item }

/-- Decide how a response turns out: note what it asks for, roll, and learn from the trial. -/
def resolve (s : Session α β) (r : Response) : Roll × Session α β :=
  let s := s.withScene (note r s.scene)
  let (roll, s) := s.drawing (r.trial.roll s.scene)
  let s := { s with lastTrial := some roll }
  (roll, s.withScene (learn r roll s.scene))

/-- Choose a response, and say which topic comes next. -/
def select (s : Session α β) (index : Nat) : Except Fault String × Session α β :=
  match s.responses[index]? with
  | none => (.error (.noSuchResponse index s.responses.length), s)
  | some r =>
    let (roll, s) := s.resolve r
    let (next, encounter) := (r.outcome roll.success).apply s.encounter
    let s := { s with encounter }
    match next with
    | .ok next => (.ok next, s.goOn r next)
    | .error fault => (.error fault, s)

end Session

end Parley
