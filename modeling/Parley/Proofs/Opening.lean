import Parley.Conversation.Run
import Parley.Proofs.CheckedSession

/-!
# What a topic opens with

When a topic is presented there is always something on offer, and all that is on offer is shown. So
there is a last offer to fall back on, and a choice that is shown is never refused.
-/

namespace Parley

variable {α β : Type} [Actor α] [Actor β]

namespace Session

/-- There is always something on offer, if only the farewell. -/
theorem generate_ne_nil (s : Session α β) : s.generate.responses ≠ [] := by
  unfold generate
  cases ht : s.topic? with
  | none => exact List.cons_ne_nil _ _
  | some t =>
    dsimp only
    split
    · rename_i builtIn
      rw [Bool.and_eq_true, Bool.not_eq_true', List.isEmpty_eq_false_iff] at builtIn
      exact builtIn.2
    · exact List.append_ne_nil_of_right_ne_nil _ (List.cons_ne_nil _ _)

theorem length_offersFrom (scene : Scene α β) (index : Nat) (responses : List Response)
    (g : Generator) : (offersFrom scene index responses g).1.length = responses.length := by
  induction responses generalizing index g with
  | nil => rfl
  | cons r rest ih => exact congrArg (· + 1) (ih (index + 1) (offer scene index r g).2)

/-- All responses on offer are shown when a topic is opened. -/
theorem length_opening (s : Session α β) :
    s.opening.1.2.length = s.opening.2.responses.length :=
  length_offersFrom _ 0 _ _

/-- Something is shown when a topic is opened. -/
theorem opening_pos (s : Session α β) : 0 < s.opening.1.2.length := by
  rw [length_opening]
  exact List.length_pos_iff.2 s.applySpeakerEffects.line.2.generate_ne_nil

/-- To choose what is not on offer is a fault of its own. -/
theorem select_eq_noSuchResponse {s : Session α β} {choice index offered : Nat} :
    (s.select choice).1 = .error (.noSuchResponse index offered) ↔
      choice = index ∧ s.responses.length = offered ∧ offered ≤ index := by
  cases hr : s.responses[choice]? with
  | none =>
    have beyond := List.getElem?_eq_none_iff.1 hr
    rw [select_of_none hr]
    constructor
    · rintro ⟨⟩
      exact ⟨rfl, rfl, beyond⟩
    · rintro ⟨rfl, rfl, -⟩
      rfl
  | some r =>
    have within := (List.getElem?_eq_some_iff.1 hr).1
    constructor
    · intro broken
      rcases select_entries hr with ⟨fault, overflow, broken', -⟩ | ⟨next, chosen, -⟩
      · obtain ⟨rfl, -⟩ := Outcome.opinionChange_eq_error.1 overflow
        rw [broken'] at broken
        cases broken
      · rw [chosen] at broken
        cases broken
    · rintro ⟨rfl, rfl, beyond⟩
      omega

end Session

end Parley
