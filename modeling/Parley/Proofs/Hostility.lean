import Parley.Actor.Npc
import Parley.Actor.Player
import Parley.Proofs.CheckedSession
import Parley.Proofs.Operation

/-!
# Hostile speakers

Another speaker is hostile by a mark or by its anger, and both may change while an outcome is
applied: effects set the mark and take it back, and the change of opinion comes after them. The
test is made last of all. So it does not matter what the effects did in between: a speaker that is
hostile then ends the conversation, and any other one leaves the next topic to the outcome. The one
choice after which this cannot be said is the one that ends in a fault before the test.
-/

namespace Parley

namespace Npc

/-- The temper counts as much as the mark. -/
theorem turnedHostile_iff (n : Npc) :
    n.turnedHostile = true ↔ n.hostile = true ∨ n.angerThreshold ≤ n.opinion.anger := by
  simp [turnedHostile]

/-- Whatever the temper, an angry speaker is hostile and follows nobody. -/
theorem makeAngry_hostile (n : Npc) :
    n.makeAngry.turnedHostile = true ∧ n.makeAngry.hostile = true ∧
      n.makeAngry.following = false := by
  simp [turnedHostile, makeAngry]

end Npc

section

variable {α : Type} {s : Scene α Npc} {delta : Opinion}

/-- The change of opinion leaves the mark and the patience of a speaker as they are, and brings its
anger to the sum within the 32-bit range. -/
theorem Scene.feel_hostile_iff : (s.feel delta).npc.turnedHostile = true ↔
    s.npc.hostile = true ∨
      s.npc.angerThreshold ≤ if delta = .zero then s.npc.opinion.anger
        else add32 s.npc.opinion.anger delta.anger := by
  rw [Npc.turnedHostile_iff, Scene.feel]
  by_cases still : delta = .zero
  · simp [still]
  · simp only [still, if_false]
    rfl

namespace Outcome

/-- A speaker that the change of opinion finds or makes hostile ends the conversation. -/
theorem settle_of_hostile (o : Outcome) (hostile : (s.feel delta).npc.turnedHostile = true) :
    o.settle delta s = (endTalk, { s.feel delta with npc := (s.feel delta).npc.makeAngry }) := by
  rw [settle_eq]
  exact if_pos hostile

/-- Any other speaker leaves the next topic to the outcome. -/
theorem settle_of_peaceful (o : Outcome) (peaceful : (s.feel delta).npc.turnedHostile = false) :
    o.settle delta s = (o.nextTopic, (s.feel delta).refreshMissions) := by
  rw [settle_eq]
  refine if_neg ?_
  rw [Bool.not_eq_true]
  exact peaceful

/-- Nothing that happens after the change of opinion makes peace or war. -/
theorem settle_hostile_iff (o : Outcome) (delta : Opinion) (s : Scene α Npc) :
    (o.settle delta s).2.npc.turnedHostile = true ↔ (s.feel delta).npc.turnedHostile = true := by
  cases hostile : (s.feel delta).npc.turnedHostile with
  | true =>
    rw [o.settle_of_hostile hostile]
    simp [Npc.makeAngry_hostile]
  | false =>
    rw [o.settle_of_peaceful hostile]
    exact Bool.eq_iff_iff.1 hostile

end Outcome

end

namespace Session

variable {α : Type}

/-- The topic that is next fits the other speaker: a hostile one, which is marked as such and
follows nobody, has ended the conversation with nothing left to say, and any other one leaves the
topic to the outcome. -/
structure Concludes (s : Session α Npc) (o : Outcome) (next : String) : Prop where
  of_hostile : s.scene.npc.turnedHostile = true →
    next = endTalk ∧ s.done = true ∧ s.responses = [] ∧ s.scene.npc.hostile = true ∧
      s.scene.npc.following = false
  of_peaceful : s.scene.npc.turnedHostile = false → next = o.nextTopic

/-- After the change of opinion the hostile speaker and any other one are told apart. -/
theorem concludes_goOn {s : Session α Npc} {o : Outcome} {r : Response} {delta : Opinion}
    {before scene : Scene α Npc} {next : String} (settled : o.settle delta before = (next, scene))
    (current : s.scene = scene) : (s.goOn r next).Concludes o next := by
  have npc : (s.goOn r next).scene.npc = scene.npc := by rw [npc_goOn, current]
  cases hostile : (before.feel delta).npc.turnedHostile with
  | true =>
    rw [o.settle_of_hostile hostile] at settled
    obtain ⟨rfl, rfl⟩ := Prod.mk.inj settled
    obtain ⟨turned, marked, alone⟩ := (before.feel delta).npc.makeAngry_hostile
    constructor
    · intro _
      rw [npc]
      exact ⟨rfl, rfl, rfl, marked, alone⟩
    · intro peaceful
      rw [npc, turned] at peaceful
      contradiction
  | false =>
    rw [o.settle_of_peaceful hostile] at settled
    obtain ⟨rfl, rfl⟩ := Prod.mk.inj settled
    constructor
    · intro turned
      have peaceful : (before.feel delta).refreshMissions.npc.turnedHostile = false := hostile
      rw [npc, peaceful] at turned
      contradiction
    · intro _
      rfl

variable [Actor α] {s : Session α Npc} {index : Nat} {r : Response}

/-- A choice comes back, with a topic that fits the other speaker, just when its outcome does not
divide the least value of a mission by minus one; where it does, the choice ends in a fault. -/
theorem choice_concludes_iff (h : s.responses[index]? = some r) :
    ((∃ next, (s.select index).1 = .ok next ∧
        (s.select index).2.Concludes (s.decided r) next) ↔
      ¬(-1 ∈ (s.decided r).missionOpinion.parts ∧
        (s.afterEffects r).scene.npc.selectedMissionValue = some Int32.minValue)) ∧
    (-1 ∈ (s.decided r).missionOpinion.parts →
      (s.afterEffects r).scene.npc.selectedMissionValue = some Int32.minValue →
      (s.select index).1 = .error .quotientOverflow) := by
  rcases select_cases h with ⟨fault, ho, hs⟩ | ⟨delta, next, scene, ho, settled, hs⟩
  · obtain ⟨rfl, value, part⟩ := Outcome.opinionChange_eq_error.1 ho
    rw [hs]
    refine ⟨⟨?_, fun fits => (fits ⟨part, value⟩).elim⟩, fun _ _ => rfl⟩
    rintro ⟨next, ⟨⟩, -⟩
  · have fits : ¬(-1 ∈ (s.decided r).missionOpinion.parts ∧
        (s.afterEffects r).scene.npc.selectedMissionValue = some Int32.minValue) := by
      rintro ⟨part, value⟩
      have broken := Outcome.opinionChange_eq_error.2 ⟨rfl, value, part⟩
      cases ho.symm.trans broken
    rw [hs]
    constructor
    · exact ⟨fun _ => fits, fun _ => ⟨next, rfl, concludes_goOn settled rfl⟩⟩
    · intro part value
      exact (fits ⟨part, value⟩).elim

/-- Who is hostile after a choice: a speaker that the effects leave with the mark, or whose anger
comes up to its patience. -/
theorem hostile_after_choice_iff (h : s.responses[index]? = some r) {delta : Opinion}
    (ho : (s.decided r).opinionChange (s.afterEffects r).scene.npc.selectedMissionValue =
      .ok delta) :
    (s.select index).2.scene.npc.turnedHostile = true ↔
      (s.afterEffects r).scene.npc.hostile = true ∨
        (s.afterEffects r).scene.npc.angerThreshold ≤
          if delta = .zero then (s.afterEffects r).scene.npc.opinion.anger
          else add32 (s.afterEffects r).scene.npc.opinion.anger delta.anger := by
  rcases select_cases h with ⟨fault, ho', -⟩ | ⟨delta', next, scene, ho', settled, hs⟩
  · cases ho.symm.trans ho'
  · cases ho.symm.trans ho'
    have npc : (s.select index).2.scene.npc = scene.npc := by
      rw [hs]
      exact npc_goOn ..
    have same := (s.decided r).settle_hostile_iff delta (s.afterEffects r).scene
    rw [settled] at same
    rw [npc, same, Scene.feel_hostile_iff]

/-- A speaker that the effects of an outcome have made an enemy, then neutral and then a follower is
still hostile by its anger, and ends the conversation. -/
theorem appeased_enemy_ends_talk :
    let effects : List Effect :=
      [⟨.action .hostile, .npc⟩, ⟨.action .makeNeutral, .npc⟩, ⟨.action .follow, .npc⟩]
    let opinion : Opinion := { Opinion.zero with anger := 15 }
    let r : Response := { text := "Draw!", success := { nextTopic := "MORE", effects, opinion } }
    let npc : Npc := { sheet := .new "Ann", opinion := { Opinion.zero with anger := 5 } }
    let s : Session Player Npc :=
      { start (.ofSheet (.new "Bob")) npc .empty .empty {} 0 with responses := [r] }
    (s.afterEffects r).scene.npc.hostile = false ∧ (s.afterEffects r).scene.npc.following = true ∧
      (s.select 0).2.scene.npc.turnedHostile = true ∧
      ∃ next, (s.select 0).1 = .ok next ∧ (s.select 0).2.Concludes (s.decided r) next := by
  intro effects opinion r npc s
  have fits : ¬(-1 ∈ (s.decided r).missionOpinion.parts ∧
      (s.afterEffects r).scene.npc.selectedMissionValue = some Int32.minValue) := by
    rintro ⟨part, -⟩
    revert part
    decide
  have offered : s.responses[0]? = some r := rfl
  refine ⟨?_, ?_, ?_, (choice_concludes_iff offered).1.2 fits⟩ <;> decide +kernel

/-- A hostile speaker whose selected mission has the least value does not end the conversation: the
choice breaks off, and the response is still on offer. -/
theorem enemy_with_least_value_breaks_off :
    let missionOpinion : Opinion := { Opinion.zero with trust := -1 }
    let r : Response := { text := "Well?", success := { missionOpinion } }
    let npc : Npc :=
      { (Npc.ofSheet (.new "Ann")).withMission "job" Int32.minValue with
        hostile := true, selectedMission := some "job" }
    let s : Session Player Npc :=
      { start (.ofSheet (.new "Bob")) npc .empty .empty {} 0 with responses := [r] }
    s.responses[0]? = some r ∧ (s.select 0).2.scene.npc.turnedHostile = true ∧
      (s.select 0).1 = .error .quotientOverflow ∧ (s.select 0).2.done = false ∧
      (s.select 0).2.responses = [r] := by
  refine ⟨rfl, ?_, ?_, ?_, ?_⟩ <;> rfl

end Session

end Parley
