import Parley.Conversation.Session

/-!
# Offers

How the responses on offer are shown: each with a key, its text with the trial in front, and a
warning of the worst that may come of it.
-/

namespace Parley

/-- A warning of what a response may lead to. -/
inductive Highlight where
  | plain
  | action
  | helpless
  | hostile
deriving DecidableEq, Repr

/-- The warning of a consequence. -/
def Highlight.ofConsequence : Consequence → Highlight
  | .none => .plain
  | .action => .action
  | .helpless => .helpless
  | .hostile => .hostile

/-- The warning of the worst of several consequences. -/
def Highlight.ofConsequences (l : List Consequence) : Highlight :=
  .ofConsequence (l.foldl .worse .none)

/-- A response as it is shown. -/
structure Offer where
  text : String
  highlight : Highlight
  hotkey : Char
deriving DecidableEq, Repr

/-- The keys for the first responses. -/
def hotkeys : List Char := "abcdefghijklmnopqrstuvwxyzABCDEFGHIJKLMNOPQRSTUVWXYZ".toList

/-- The key for the response at a place; a space where the keys have run out. -/
def hotkey (index : Nat) : Char := (hotkeys[index]?).getD ' '

namespace Session

variable {α β : Type} [Actor α] [Actor β]

/-- A response as it is shown at a place. -/
def offer (scene : Scene α β) (index : Nat) (r : Response) : StateM Generator Offer := do
  let chance ← r.trial.chance scene
  let text ← r.displayText scene
  let text ← r.trial.decorate scene (scene.substitute text)
  return {
    text
    highlight := .ofConsequences (r.consequences chance scene.npc)
    hotkey := hotkey index }

/-- Responses as they are shown from a place on. -/
def offersFrom (scene : Scene α β) : Nat → List Response → StateM Generator (List Offer)
  | _, [] => pure []
  | index, r :: rest => do
    let o ← offer scene index r
    let os ← offersFrom scene (index + 1) rest
    return o :: os

/-- The responses on offer, as they are shown. -/
def offers (s : Session α β) : List Offer × Session α β :=
  s.drawing (offersFrom s.scene 0 s.responses)

end Session

end Parley
