import Parley.Conversation.Offer

/-!
# Holding a conversation

A presenter shows a line and the offers and answers with the place of the chosen one. A
conversation goes through cycles of entering a topic, presenting it and applying the choice, until
it is over, the presenter wants to stop, or a fault breaks it off.
-/

namespace Parley

/-- Something that presents a conversation and makes the choices. -/
class Presenter (π : Type) where
  /-- Show who says what and the offers; answer with the place of the chosen one. -/
  present : π → (speaker line : String) → List Offer → Nat × π
  /-- Should the conversation be broken off? -/
  shouldStop : π → Bool := fun _ => false

/-- How a run of cycles ended. -/
inductive Ending where
  /-- The conversation is over. -/
  | over
  /-- The presenter wanted to stop. -/
  | stopped
  /-- A fault broke the conversation off. -/
  | broken (fault : Fault)
  /-- More cycles would have followed than were allowed. -/
  | unfinished
deriving DecidableEq, Repr

namespace Session

variable {α β π : Type} [Actor α] [Actor β] [Presenter π]

/-- Enter the topic and work out what to present: the line and the offers. -/
def opening (s : Session α β) : (String × List Offer) × Session α β :=
  let s := s.applySpeakerEffects
  let (line, s) := s.line
  let (offers, s) := s.generate.offers
  ((line, offers), s)

/-- One cycle of a conversation. -/
def cycle (s : Session α β) (p : π) : Except Fault String × Session α β × π :=
  let ((line, offers), s) := s.opening
  let (choice, p) := Presenter.present p (Actor.name s.scene.npc) line offers
  let (next, s) := s.select choice
  (next, s, p)

/-- Hold a conversation for a number of cycles at most. -/
def run : Nat → Session α β → π → Ending × Session α β × π
  | 0, s, p =>
    (if s.done then .over else if Presenter.shouldStop p then .stopped else .unfinished, s, p)
  | fuel + 1, s, p =>
    if s.done then (.over, s, p)
    else if Presenter.shouldStop p then (.stopped, s, p)
    else match s.cycle p with
      | (.ok _, s, p) => run fuel s p
      | (.error fault, s, p) => (.broken fault, s, p)

end Session

/-- A presenter that makes given choices and keeps what it was shown. -/
structure Script where
  choices : List Nat
  /-- The lines and offers so far, the last ones first. -/
  shown : List (String × List Offer) := []

namespace Script

/-- The number of cycles after which a script without choices wants to stop. -/
def patience : Nat := 64

/-- The next choice; the last offer where the script has run out. -/
def present (p : Script) (line : String) (offers : List Offer) : Nat × Script :=
  let shown := (line, offers) :: p.shown
  match p.choices with
  | choice :: choices => (choice, { choices, shown })
  | [] => (offers.length - 1, { choices := [], shown })

instance : Presenter Script where
  present p _ line offers := p.present line offers
  shouldStop p := p.choices.isEmpty && patience < p.shown.length

/-- The number of cycles that a script can take. -/
def maxCycles (choices : List Nat) : Nat := max choices.length (patience + 1)

end Script

/-- Hold a conversation by a script. -/
def Session.runScript {α β : Type} [Actor α] [Actor β] (s : Session α β) (choices : List Nat) :
    Ending × Session α β × Script :=
  s.run (Script.maxCycles choices) ({ choices } : Script)

end Parley
