import Parley.Conversation.Scene

/-!
# The encounter

What effects act on: the scene, the random generator, and the request to hand the conversation
over. `Act` is the type of a deed that may fail. What a deed did before it failed stays done.
-/

namespace Parley

/-- A request for what is to happen after the conversation. -/
inductive Handoff where
  | openDialogue (topic : Option String)
  | takeControl
deriving DecidableEq, Repr

/-- What effects act on. -/
structure Encounter (α β : Type) where
  scene : Scene α β
  generator : Generator
  handoff : Option Handoff

/-- A deed that may fail. -/
abbrev Act (α β γ : Type) : Type := ExceptT Failure (StateM (Encounter α β)) γ

namespace Scene

variable {α β : Type} [Actor α] [Actor β]

/-- Change one of the actors. -/
def tell (s : Scene α β) (t : Target) (f : {δ : Type} → [Actor δ] → δ → δ) : Scene α β :=
  match t with
  | .u => { s with u := f s.u }
  | .npc => { s with npc := f s.npc }

/-- Change one of the actors in a way that may fail. -/
def tell? (s : Scene α β) (t : Target) (f : {δ : Type} → [Actor δ] → δ → Except Failure δ) :
    Except Failure (Scene α β) :=
  match t with
  | .u => (f s.u).map fun u => { s with u }
  | .npc => (f s.npc).map fun npc => { s with npc }

/-- Store a text for a variable, or remove what is stored. -/
def write (s : Scene α β) (var : Variable) (value : Option String) :
    Except Failure (Scene α β) :=
  match var.scope with
  | .global =>
    .ok { s with globals := match value with
      | some value => s.globals.insert var.name value
      | none => s.globals.erase var.name }
  | .u => .ok (s.tell .u (Actor.write · var.name value))
  | .npc => .ok (s.tell .npc (Actor.write · var.name value))
  | scope => .error (.unsupportedScope scope.name)

/-- Look up again which missions are assigned. -/
def refreshMissions (s : Scene α β) : Scene α β :=
  { s with missionsAssigned := Actor.assignedMissions s.npc }

end Scene

namespace Act

variable {α β γ : Type} [Actor α] [Actor β]

/-- Evaluate something in the scene. -/
def evaluate (f : Scene α β → Draw γ) : Act α β γ :=
  ExceptT.mk fun e =>
    let (result, generator) := (f e.scene).run.run e.generator
    (result, { e with generator })

/-- Look at the scene. -/
def look (f : Scene α β → Except Failure γ) : Act α β γ :=
  ExceptT.mk fun e => (f e.scene, e)

/-- Change the scene in a way that may fail. -/
def change (f : Scene α β → Except Failure (Scene α β)) : Act α β Unit :=
  ExceptT.mk fun e => match f e.scene with
    | .ok scene => (.ok (), { e with scene })
    | .error failure => (.error failure, e)

/-- Change one of the actors. -/
def tell (t : Target) (f : {δ : Type} → [Actor δ] → δ → δ) : Act α β Unit :=
  change fun s => .ok (s.tell t f)

/-- Change one of the actors in a way that may fail. -/
def tell? (t : Target) (f : {δ : Type} → [Actor δ] → δ → Except Failure δ) : Act α β Unit :=
  change (·.tell? t f)

/-- Store a text for a variable, or remove what is stored. -/
def write (var : Variable) (value : Option String) : Act α β Unit := change (·.write var value)

/-- Ask for what is to happen after the conversation. -/
def handOver (handoff : Handoff) : Act α β Unit :=
  ExceptT.mk fun e => (.ok (), { e with handoff := some handoff })

end Act

end Parley
