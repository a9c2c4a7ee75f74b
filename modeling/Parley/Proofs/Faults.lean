import Parley.Proofs.CheckedSession
import Parley.Proofs.Loading
import Parley.Proofs.Recovery
import Parley.Proofs.Visible

/-!
# The one fault of a session

A session over topics that were loaded goes on through every operation, with one exception: after
the effects of the outcome that was chosen the selected mission has the least value there is, and a
part of the change of opinion divides it by minus one. Much of what could break a session off is
excluded by the form of its data: there is always a current topic, an operator has all of its
arguments, and to sample from a range or to bring a number into one takes a proof that the range is
not empty. What is left is arithmetic, and failures that may be passed over.
-/

namespace Parley

variable {α β : Type} [Actor α] [Actor β]

namespace Operation

/-- The session after an operation with exact arithmetic. -/
def checkedPerform (op : Operation) (s : Session α β) : Except Breach (Session α β) :=
  match op with
  | .offer => s.checkedOffers.map (·.2)
  | .choose index => s.checkedSelect index
  | op => .ok (op.perform s)

/-- The operation chooses a response whose outcome divides the least integer by minus one. -/
def Overflows (op : Operation) (s : Session α β) : Prop :=
  ∃ index r, op = .choose index ∧ s.responses[index]? = some r ∧
    -1 ∈ (s.decided r).missionOpinion.parts ∧
    Actor.selectedMissionValue (s.afterEffects r).scene.npc = some Int32.minValue

end Operation

namespace Session

/-- The trials of all responses, defined or on offer, have a percentage for a difficulty. -/
structure Proper (s : Session α β) : Prop where
  registry : s.registry.Proper
  responses : ∀ r ∈ s.responses, r.trial.Proper

namespace Proper

variable {s : Session α β}

/-- The farewell has no trial, and the others are those of a topic. -/
theorem generate (h : s.Proper) : ∀ r ∈ s.generate.responses, r.trial.Proper := by
  intro r mem
  rcases mem_generate mem with rfl | ⟨t, ht, mem | ⟨template, written, item, -, rfl⟩⟩
  · exact Trial.default_proper
  · exact (h.registry _ t ht).responses r mem
  · exact (h.registry _ t ht).repeatResponses template written

/-- Trials stay proper whatever is done to a session. -/
theorem perform (h : s.Proper) (op : Operation) : (op.perform s).Proper := by
  constructor
  · rw [op.registry_perform s]
    exact h.registry
  · rcases op.responses_perform s with old | rfl
    · exact fun r mem => h.responses r (old mem)
    · exact h.generate

end Proper

/-- In a session whose trials are proper an operation breaks off in exact arithmetic, and ends in a
fault, where the least integer is divided by minus one. -/
theorem Proper.checkedPerform_of_overflows {s : Session α β} (h : s.Proper) {op : Operation}
    (overflows : op.Overflows s) :
    op.checkedPerform s = .error .overflow ∧ op.fault? s = some .quotientOverflow := by
  obtain ⟨index, r, rfl, hr, part, value⟩ := overflows
  have ho := Outcome.opinionChange_eq_error.2 ⟨rfl, value, part⟩
  rcases select_cases hr with ⟨fault, ho', hs⟩ | ⟨delta, next, scene, ho', -, -⟩
  · rw [ho] at ho'
    obtain rfl := Except.error.inj ho'
    constructor
    · change s.checkedSelect index = _
      rw [checkedSelect_eq hr (h.responses r (List.mem_of_getElem? hr)), hs]
    · simp only [Operation.fault?, hs]
  · rw [ho] at ho'
    contradiction

/-- Everywhere else exact arithmetic leads to the same session, and there is no fault. -/
theorem Proper.checkedPerform_of_not_overflows {s : Session α β} (h : s.Proper) {op : Operation}
    (offered : ∀ index, op = .choose index → index < s.responses.length)
    (fits : ¬op.Overflows s) :
    op.checkedPerform s = .ok (op.perform s) ∧ op.fault? s = none := by
  cases op with
  | offer =>
    refine ⟨?_, rfl⟩
    change s.checkedOffers.map (·.2) = _
    rw [checkedOffers_eq h.responses]
    rfl
  | choose index =>
    have hr := List.getElem?_eq_getElem (offered index rfl)
    have proper := h.responses _ (List.getElem_mem (offered index rfl))
    rcases select_cases hr with ⟨fault, ho, -⟩ | ⟨delta, next, scene, -, -, hs⟩
    · obtain ⟨-, value, part⟩ := Outcome.opinionChange_eq_error.1 ho
      exact (fits ⟨index, _, rfl, hr, part, value⟩).elim
    · constructor
      · change s.checkedSelect index = .ok (s.select index).2
        rw [checkedSelect_eq hr proper, hs]
      · simp only [Operation.fault?, hs]
  | speak | say | generate | giveReason | setRadio | takeHandoff | attempt | enter =>
    exact ⟨rfl, rfl⟩

/-- Over topics that were loaded, in every state that operations lead to, an operation breaks off
just when it divides the least integer by minus one; only responses on offer can be chosen.
Everywhere else nothing overflows, and the operation does what it does in exact arithmetic. Nor
does anything hide a fault that is passed over as a failure, neither a condition nor an effect. -/
theorem fault_only_by_overflow (texts : List (String × String)) (u : Player) (npc : Npc)
    (globals : Dict String) (settings : TalkSettings) (entropy : UInt64) (generator : Generator)
    (ops : List Operation) (op : Operation) :
    let s := performAll ops
      ((start u npc globals (.loaded texts) settings entropy).withGenerator generator)
    (∀ index, op = .choose index → index < s.responses.length) →
      (op.Overflows s →
        op.checkedPerform s = .error .overflow ∧ op.fault? s = some .quotientOverflow) ∧
      (¬op.Overflows s → op.checkedPerform s = .ok (op.perform s) ∧ op.fault? s = none) ∧
      (∀ (scene : Scene Player Npc) (item : Option String) (c : Condition),
        (c.evaluate scene item).Recovers) ∧
      ∀ e : Effect, (e.execute : Act Player Npc Unit).Recovers := by
  intro s offered
  have proper : s.Proper := by
    refine performAll_induction (P := Proper) ⟨Registry.proper_loaded texts, ?_⟩
      fun op _ s h => h.perform op
    intro r mem
    contradiction
  refine ⟨proper.checkedPerform_of_overflows, proper.checkedPerform_of_not_overflows offered, ?_⟩
  exact ⟨fun _ _ c => c.recovers_evaluate, fun e => e.recovers_execute⟩

/-- A response to a mission of the least value, whose outcome divides that value by minus one. -/
theorem least_value_by_minus_one_overflows :
    let response := Json.object [("text", .str "Done."), ("mission", .str "job"),
      ("success", .object [("mission_opinion", .object [("trust", .num (.int (-1)))])])]
    let content := Json.object [("type", .str "talk_topic"), ("id", .str "JOB"),
      ("responses", .arr [response])]
    let texts := [("job.json", content.render)]
    let npc := (Npc.ofSheet (.new "Ann")).withMission "job" Int32.minValue
    let s := performAll [.generate]
      ((start (Player.ofSheet (.new "Bob")) npc .empty (.loaded texts) { firstTopic := "JOB" }
        0).withGenerator (.ofSeed 1))
    (Operation.choose 0).checkedPerform s = .error .overflow ∧
      (Operation.choose 0).fault? s = some .quotientOverflow := by
  intro response content texts npc s
  have first : (s.responses[0]?).any (fun r =>
      -1 ∈ (s.decided r).missionOpinion.parts ∧
        Actor.selectedMissionValue (s.afterEffects r).scene.npc = some Int32.minValue) = true := by
    decide +kernel
  obtain ⟨r, hr, overflowing⟩ := (Option.any_eq_true _ _).1 first
  obtain ⟨part, value⟩ := of_decide_eq_true overflowing
  have offered : ∀ index, Operation.choose 0 = .choose index → index < s.responses.length := by
    rintro _ ⟨⟩
    exact (List.getElem?_eq_some_iff.1 hr).1
  have overflows : (Operation.choose 0).Overflows s := ⟨0, r, rfl, hr, part, value⟩
  exact (fault_only_by_overflow texts _ npc _ _ _ _ [.generate] (.choose 0) offered).1 overflows

end Session

end Parley
