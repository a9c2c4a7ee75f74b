import Mathlib.Logic.Relation
import Parley.Proofs.Operation

/-!
# Moves

What operations on a session do to the scene, one small change at a time. What every move
preserves is preserved by every operation and holds after every run.
-/

namespace Parley

variable {α β : Type} [Actor α] [Actor β]

/-- A small change of the scene. -/
inductive Scene.Move : Scene α β → Scene α β → Prop where
  /-- An effect is attempted; it may fail. -/
  | attempt (e : Effect) (enc : Encounter α β) : Move enc.scene (e.attempt enc).2.scene
  /-- The mark of speaker effects is set. -/
  | mark (e : SpeakerEffect) (s : Scene α β) : Move s { s with npc := Session.mark e s.npc }
  /-- It is noted what a response asks for. -/
  | note (r : Response) (s : Scene α β) : Move s (Session.note r s)
  /-- The player learns from a trial. -/
  | learn (r : Response) (roll : Roll) (s : Scene α β) : Move s (Session.learn r roll s)
  /-- A change of opinion is felt. -/
  | settle (o : Outcome) (delta : Opinion) (s : Scene α β) : Move s (o.settle delta s).2
  | enter (entry : Entry) (s : Scene α β) :
      Move s { s with current := entry, earlier := s.current :: s.earlier }
  | giveReason (reason : String) (s : Scene α β) :
      Move s { s with current := { s.current with reason } }
  | setRadio (byRadio : Bool) (s : Scene α β) : Move s { s with byRadio }

/-- Any number of moves. -/
def Scene.Moves : Scene α β → Scene α β → Prop := Relation.ReflTransGen Scene.Move

namespace Scene.Moves

variable {s s' s'' : Scene α β}

theorem refl (s : Scene α β) : s.Moves s := Relation.ReflTransGen.refl

theorem trans (h : s.Moves s') (h' : s'.Moves s'') : s.Moves s'' := Relation.ReflTransGen.trans h h'

theorem tail (h : s.Moves s') (h' : s'.Move s'') : s.Moves s'' := Relation.ReflTransGen.tail h h'

/-- What every move preserves is preserved by moves. -/
theorem preserves {P : Scene α β → Prop} (step : ∀ {s s'}, Scene.Move s s' → P s → P s')
    (h : s.Moves s') (start : P s) : P s' := by
  induction h with
  | refl => exact start
  | tail _ move ih => exact step move ih

end Scene.Moves

theorem moves_attempts (effects : List Effect) (enc : Encounter α β) :
    enc.scene.Moves (effects.forM Effect.attempt enc).2.scene := by
  refine forM_induction (P := fun enc' : Encounter α β => enc.scene.Moves enc'.scene)
    (.refl enc.scene) ?_
  intro e _ enc' h
  exact h.tail (.attempt e enc')

namespace Session

theorem moves_speak (e : SpeakerEffect) (enc : Encounter α β) :
    enc.scene.Moves (speak e enc).2.scene := by
  obtain ⟨g, h | ⟨enc', rfl, h⟩⟩ := speak_cases e enc
  · rw [h]
    exact .refl enc.scene
  · rw [h]
    exact (moves_attempts e.effects { enc with generator := g }).tail (.mark e _)

theorem moves_applySpeakerEffects (s : Session α β) :
    s.scene.Moves s.applySpeakerEffects.scene := by
  unfold applySpeakerEffects
  split
  · refine forM_induction (P := fun enc : Encounter α β => s.scene.Moves enc.scene)
      (.refl s.scene) ?_
    intro e _ enc h
    exact h.trans (moves_speak e enc)
  · exact .refl s.scene

theorem moves_afterEffects (s : Session α β) (r : Response) :
    s.scene.Moves (s.afterEffects r).scene := by
  have noted := (Scene.Moves.refl s.scene).tail (.note r s.scene)
  have learnt := noted.tail (.learn r (s.resolve r).1 (note r s.scene))
  exact learnt.trans (moves_attempts (s.decided r).effects (s.resolve r).2.encounter)

/-- A choice is a sequence of moves. -/
theorem moves_select (s : Session α β) (index : Nat) :
    s.scene.Moves (s.select index).2.scene := by
  cases hr : s.responses[index]? with
  | none =>
    rw [select_of_none hr]
    exact .refl s.scene
  | some r =>
    have effects := s.moves_afterEffects r
    rcases select_cases hr with ⟨fault, -, hs⟩ | ⟨delta, next, scene, -, settled, hs⟩
    · rw [hs]
      exact effects
    · have felt := effects.tail (.settle (s.decided r) delta (s.afterEffects r).scene)
      rw [settled] at felt
      rw [hs]
      rcases goOn_cases r next
          { (s.resolve r).2 with encounter := { s.afterEffects r with scene } } with
        ⟨-, hg⟩ | ⟨-, hg⟩ | ⟨-, -, hg⟩
      · rw [hg]
        exact felt
      · rw [hg]
        exact felt
      · rw [hg]
        exact felt.tail (.enter _ scene)

end Session

/-- Whatever is done to a session, its scene changes by moves. -/
theorem Operation.moves (op : Operation) (s : Session α β) :
    s.scene.Moves (op.perform s).scene := by
  cases op with
  | speak => exact s.moves_applySpeakerEffects
  | say =>
    obtain ⟨g, h⟩ := s.line_eq
    change s.scene.Moves s.line.2.scene
    rw [h]
    exact .refl s.scene
  | generate =>
    obtain ⟨g, responses, h⟩ := s.generate_eq
    change s.scene.Moves s.generate.scene
    rw [h]
    exact .refl s.scene
  | offer | takeHandoff => exact .refl s.scene
  | choose index => exact s.moves_select index
  | giveReason reason => exact (Scene.Moves.refl s.scene).tail (.giveReason reason s.scene)
  | setRadio byRadio => exact (Scene.Moves.refl s.scene).tail (.setRadio byRadio s.scene)
  | attempt e => exact (Scene.Moves.refl s.scene).tail (.attempt e s.encounter)
  | enter entry => exact (Scene.Moves.refl s.scene).tail (.enter entry s.scene)

/-- A run is made of moves. -/
theorem Session.moves_performAll (ops : List Operation) (s : Session α β) :
    s.scene.Moves (performAll ops s).scene := by
  refine performAll_induction (P := fun s' => s.scene.Moves s'.scene) (.refl s.scene) ?_
  intro op _ s' h
  exact h.trans (op.moves s')

end Parley
