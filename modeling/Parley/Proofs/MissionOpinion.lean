import Parley.Proofs.Frame
import Parley.Proofs.Attempts

/-!
# The value of the selected mission

An outcome can have the other speaker's opinion grow with the value of the selected mission. That
value is looked up after the effects of the outcome. No effect takes a mission off the board or
changes its value, but one that is finished is no longer selected: then its value counts for
nothing, although it was selected when the response was chosen.
-/

namespace Parley

/-! ### The board -/

namespace Npc

/-- The mission is on the board with a value. -/
def Values (n : Npc) (id : String) (value : Int32) : Prop :=
  ∃ mission, n.missions.get? id = some mission ∧ mission.value = value

variable {n n' : Npc} {id : String} {value : Int32}

theorem Values.of_missions_eq (board : n.Values id value) (same : n'.missions = n.missions) :
    n'.Values id value := by
  rw [Values, same]
  exact board

/-- A mission may be put on the board anew if it has the value that was there. -/
theorem Values.insert (board : n.Values id value) {id' : String} {mission : Mission}
    (same : ∀ mission', n.missions.get? id' = some mission' → mission.value = mission'.value)
    (h : n'.missions = n.missions.insert id' mission) : n'.Values id value := by
  obtain ⟨old, found, rfl⟩ := board
  rw [Values, h, Dict.get?_insert]
  split
  · rename_i here
    exact ⟨mission, rfl, same old (here ▸ found)⟩
  · exact ⟨old, found, rfl⟩

theorem Values.setStatus (board : n.Values id value) {id' : String} {status : MissionStatus}
    (h : n.setStatus id' status = .ok n') : n'.Values id value := by
  obtain ⟨mission, found, rfl⟩ := setStatus_eq_ok.1 h
  refine board.insert (fun mission' found' => ?_) rfl
  rw [Option.some.inj (found.symm.trans found')]

theorem Values.finishMission (board : n.Values id value) {id' : String} {success : Bool}
    (h : n.finishMission id' success = .ok n') : n'.Values id value := by
  obtain ⟨mission, found, rfl⟩ := finishMission_eq_ok.1 h
  refine board.insert (fun mission' found' => ?_) rfl
  rw [Option.some.inj (found.symm.trans found')]

theorem Values.offerMission (board : n.Values id value) {id' : String}
    (h : n.offerMission id' = .ok n') : n'.Values id value := by
  obtain ⟨type, -, rfl⟩ := offerMission_eq_ok.1 h
  split
  · exact board
  · rename_i unknown
    refine board.insert (fun mission' found' => ?_) rfl
    rw [Dict.contains, found'] at unknown
    contradiction

end Npc

/-- No effect takes a mission off the board or changes its value. -/
theorem EffectKind.Stirs.values {kind : EffectKind} {n n' : Npc} (h : kind.Stirs n n')
    {id : String} {value : Int32} (board : n.Values id value) : n'.Values id value := by
  cases h with
  | kept same => exact board.of_missions_eq same.missions
  | assignMission assigned => exact board.setStatus assigned
  | finishMission closed => exact board.finishMission closed
  | offerMission offered => exact board.offerMission offered
  | addMission added =>
    obtain ⟨n₁, offered, assigned⟩ := Npc.addMission_eq_ok.1 added
    exact (board.offerMission offered).setStatus assigned
  | action => exact board.of_missions_eq (Npc.missions_performAction n _)

/-- No effect changes the opinion. -/
theorem EffectKind.Stirs.opinion {kind : EffectKind} {n n' : Npc} (h : kind.Stirs n n') :
    n'.opinion = n.opinion := by
  rcases h.temper_or_action with ⟨same, -⟩ | ⟨action, -, rfl⟩
  · exact same
  · cases action <;> rfl

/-! ### The selected mission -/

/-- No effect selects a mission. -/
theorem EffectKind.Affects.selected_or_none {kind : EffectKind} {n n' : Npc}
    (h : kind.Affects n n') :
    n'.selectedMission = n.selectedMission ∨ n'.selectedMission = none := by
  rcases h.selected with same | ⟨mission, success, -, closed⟩
  · exact .inl same
  · obtain ⟨_, -, rfl⟩ := Npc.finishMission_eq_ok.1 closed
    dsimp only
    split
    · exact .inr rfl
    · exact .inl rfl

/-- Does an effect finish a mission, be it a success or not? -/
def Effect.Finishes (e : Effect) (id : String) : Prop :=
  ∃ success, e.kind = .finishMission id success

namespace Effect

variable {α : Type} [Actor α] {e : Effect} {id : String} {value : Int32}

/-- A mission on the board that is finished is not selected any longer, even if the player had not
taken it on and the effect fails for that. -/
theorem Finishes.selected (finishes : e.Finishes id) (enc : Encounter α Npc)
    (board : enc.scene.npc.Values id value) :
    (e.attempt enc).2.scene.npc.selectedMission ≠ some id := by
  obtain ⟨kind, target⟩ := e
  obtain ⟨success, rfl⟩ : ∃ success, kind = .finishMission id success := finishes
  obtain ⟨mission, found, -⟩ := board
  obtain ⟨npc, closed⟩ : ∃ npc, enc.scene.npc.finishMission id success = .ok npc :=
    ⟨_, Npc.finishMission_eq_ok.2 ⟨mission, found, rfl⟩⟩
  let first : Act α Npc Unit := Act.tell? .npc (Actor.finishMission · id success)
  let second : Act α Npc Unit := Act.tell? .u (Actor.finishMission · id success)
  let enc₁ : Encounter α Npc := { enc with scene := { enc.scene with npc } }
  -- The board is changed before the player is asked, and nothing takes that back.
  have done : first.Succeeds enc () enc₁ :=
    Act.succeeds_tell?.2 ⟨_, Scene.tell?_npc_eq_ok.2 ⟨npc, closed, rfl⟩, rfl⟩
  have after : (first >>= fun _ => second).perform enc = second.perform enc₁ := by
    rw [Act.perform_bind, done]
  have same : npc = (second.perform enc₁).2.scene.npc := Act.untouched_tell?_u enc₁
  change ((first >>= fun _ => second).perform enc).2.scene.npc.selectedMission ≠ some id
  rw [after, ← same]
  obtain ⟨_, -, rfl⟩ := Npc.finishMission_eq_ok.1 closed
  dsimp only
  split
  · exact nofun
  · assumption

/-- Every other effect leaves the mission selected, or not selected, as it was. -/
theorem selected_attempt_iff (other : ¬e.Finishes id) (enc : Encounter α Npc) :
    (e.attempt enc).2.scene.npc.selectedMission = some id ↔
      enc.scene.npc.selectedMission = some id := by
  rcases (e.attempt_affects enc).selected with same | ⟨mission, success, kind, closed⟩
  · rw [same]
  · obtain ⟨_, -, after⟩ := Npc.finishMission_eq_ok.1 closed
    rw [after]
    dsimp only
    split
    · rename_i selected
      rw [selected]
      refine iff_of_false nofun fun same => ?_
      obtain rfl := Option.some.inj same
      exact other ⟨success, kind⟩
    · exact Iff.rfl

end Effect

/-! ### Outcomes -/

theorem Opinion.add_zero (o : Opinion) : o.add .zero = o := by
  have unchanged (n : Int32) : add32 n 0 = n := by
    have least := n.le_toInt
    have most := n.toInt_le
    refine Int32.toInt_inj.1 ?_
    rw [add32, toInt_clamp32, Int32.toInt_zero, Int32.toInt_minValue, Int32.toInt_maxValue]
    rw [Int32.toInt_maxValue] at most
    omega
  cases o
  simp only [add, zero, unchanged]

namespace Outcome

variable {α : Type} [Actor α]

/-- Does an outcome finish a mission? -/
def Finishes (o : Outcome) (id : String) : Prop := ∃ e ∈ o.effects, e.Finishes id

/-- No effect changes the value of a mission on the board. -/
theorem values_carryOut (o : Outcome) (enc : Encounter α Npc) {id : String} {value : Int32}
    (board : enc.scene.npc.Values id value) : (o.carryOut enc).scene.npc.Values id value := by
  refine forM_induction (P := fun enc : Encounter α Npc => enc.scene.npc.Values id value) board ?_
  intro e _ enc board
  exact (e.attempt_stirs enc).values board

/-- The opinion is changed by an outcome itself, not by its effects. -/
theorem opinion_carryOut (o : Outcome) (enc : Encounter α Npc) :
    (o.carryOut enc).scene.npc.opinion = enc.scene.npc.opinion := by
  refine forM_induction (P := fun enc' : Encounter α Npc =>
    enc'.scene.npc.opinion = enc.scene.npc.opinion) rfl ?_
  intro e _ enc' same
  exact (e.attempt_stirs enc').opinion.trans same

/-- Effects may clear the selected mission, but they select no other. -/
theorem selected_or_none_carryOut (o : Outcome) (enc : Encounter α Npc) :
    (o.carryOut enc).scene.npc.selectedMission = enc.scene.npc.selectedMission ∨
      (o.carryOut enc).scene.npc.selectedMission = none := by
  refine forM_induction (P := fun enc' : Encounter α Npc =>
    enc'.scene.npc.selectedMission = enc.scene.npc.selectedMission ∨
      enc'.scene.npc.selectedMission = none) (.inl rfl) ?_
  intro e _ enc' before
  rcases (e.attempt_affects enc').selected_or_none with same | none
  · rw [same]
    exact before
  · exact .inr none

/-- After some effects a mission on the board is selected if it was selected before and none of the
effects has finished it. -/
theorem selected_attempts_iff (effects : List Effect) (enc : Encounter α Npc) {id : String}
    {value : Int32} (board : enc.scene.npc.Values id value) :
    (effects.forM Effect.attempt enc).2.scene.npc.selectedMission = some id ↔
      enc.scene.npc.selectedMission = some id ∧ ∀ e ∈ effects, ¬e.Finishes id := by
  induction effects generalizing enc with
  | nil => exact (and_iff_left (List.forall_mem_nil _)).symm
  | cons e effects ih =>
    have rest := ih (e.attempt enc).2 ((e.attempt_stirs enc).values board)
    rw [List.forall_mem_cons]
    refine rest.trans ?_
    by_cases finishes : e.Finishes id
    · exact iff_of_false (fun h => finishes.selected enc board h.1) fun h => h.2.1 finishes
    · rw [Effect.selected_attempt_iff finishes, and_iff_right finishes]

/-- The value that counts for an outcome is that of the mission that was selected before, unless the
outcome finishes it. -/
theorem selectedMissionValue_carryOut (o : Outcome) (enc : Encounter α Npc) {id : String}
    {value : Int32} (selected : enc.scene.npc.selectedMission = some id)
    (board : enc.scene.npc.Values id value) :
    (¬o.Finishes id → (o.carryOut enc).scene.npc.selectedMissionValue = some value) ∧
      (o.Finishes id → (o.carryOut enc).scene.npc.selectedMissionValue = none) := by
  have still := selected_attempts_iff o.effects enc board
  constructor
  · intro remains
    have kept : (o.carryOut enc).scene.npc.selectedMission = some id :=
      still.2 ⟨selected, fun e mem finishes => remains ⟨e, mem, finishes⟩⟩
    obtain ⟨mission, found, rfl⟩ := o.values_carryOut enc board
    rw [Npc.selectedMissionValue, kept]
    simp [found]
  · rintro ⟨e, mem, finishes⟩
    have gone : (o.carryOut enc).scene.npc.selectedMission = none := by
      rcases o.selected_or_none_carryOut enc with same | none
      · exact absurd finishes ((still.1 (same.trans selected)).2 e mem)
      · exact none
    rw [Npc.selectedMissionValue, gone]
    rfl

omit [Actor α] in
/-- A change of opinion is felt in full. -/
theorem opinion_settle (o : Outcome) (delta : Opinion) (s : Scene α Npc) :
    (o.settle delta s).2.npc.opinion = s.npc.opinion.add delta := by
  have felt : (s.feel delta).npc.opinion = s.npc.opinion.add delta := by
    rw [Scene.feel]
    split
    · rename_i none
      rw [none, Opinion.add_zero]
    · rfl
  rw [settle_eq]
  split <;> exact felt

/-- Where the change of opinion is in range, an outcome is applied with that change. -/
theorem apply_of_opinionChange {o : Outcome} {enc : Encounter α Npc} {delta : Opinion}
    (h : o.opinionChange (o.carryOut enc).scene.npc.selectedMissionValue = .ok delta) :
    (∃ next, (o.apply enc).1 = .ok next) ∧
      (o.apply enc).2.scene.npc.opinion = enc.scene.npc.opinion.add delta := by
  have looked : o.opinionChange (Actor.selectedMissionValue (o.carryOut enc).scene.npc) =
      .ok delta := h
  have applied : o.apply enc = (.ok (o.settle delta (o.carryOut enc).scene).1,
      { o.carryOut enc with scene := (o.settle delta (o.carryOut enc).scene).2 }) := by
    rw [apply]
    dsimp only
    rw [looked]
  rw [applied]
  refine ⟨⟨_, rfl⟩, ?_⟩
  dsimp only
  rw [opinion_settle, opinion_carryOut]

/-- Let the mission that is selected with the other speaker be on the board, with a value that can
be divided by anything. To apply an outcome succeeds. Whatever its effects do to missions, it
changes the opinion by its own change and that part of the value which it divides, unless it
finishes the selected mission: then it changes the opinion by its own change only. -/
theorem opinion_grows_unless_finished (o : Outcome) (enc : Encounter α Npc) {id : String}
    {mission : Mission} (selected : enc.scene.npc.selectedMission = some id)
    (board : enc.scene.npc.missions.get? id = some mission)
    (divisible : mission.value ≠ Int32.minValue) :
    let before := enc.scene.npc.opinion
    let after := (o.apply enc).2.scene.npc.opinion
    let share := o.missionOpinion.map (scaled mission.value)
    (∃ next, (o.apply enc).1 = .ok next) ∧
      (¬o.Finishes id → after = before.add (o.opinion.add share)) ∧
      (o.Finishes id → after = before.add o.opinion) := by
  intro before after share
  obtain ⟨kept, gone⟩ := o.selectedMissionValue_carryOut enc selected ⟨mission, board, rfl⟩
  have fits : overflows mission.value o.missionOpinion = false := by
    rw [overflows, decide_eq_false divisible, Bool.false_and]
  by_cases finishes : o.Finishes id
  · have change : o.opinionChange (o.carryOut enc).scene.npc.selectedMissionValue =
        .ok o.opinion := by
      rw [gone finishes]
      rfl
    obtain ⟨next, opinion⟩ := apply_of_opinionChange change
    exact ⟨next, fun remains => absurd finishes remains, fun _ => opinion⟩
  · have change : o.opinionChange (o.carryOut enc).scene.npc.selectedMissionValue =
        .ok (o.opinion.add share) := by
      rw [kept finishes, opinionChange, fits]
      rfl
    obtain ⟨next, opinion⟩ := apply_of_opinionChange change
    exact ⟨next, fun _ => opinion, fun closed => absurd closed finishes⟩

/-- The rats count in full while the wolves are finished and the rats are offered again. -/
theorem rats_count_beside_wolves :
    let npc : Npc :=
      { ((Npc.ofSheet (.new "Ann")).withMission "rats" 40).withMission "wolves" 7 with
        missionTypes := .insert .empty "rats" 90, selectedMission := some "rats" }
    let enc : Encounter Player Npc :=
      { scene :=
          { u := .ofSheet (.new "Bob"), npc, globals := .empty, current := { id := "TALK" }
            earlier := [], missionsAssigned := [], byRadio := false }
        generator := .ofSeed 0
        handoff := none }
    let o : Outcome :=
      { effects := [⟨.finishMission "wolves" true, .u⟩, ⟨.offerMission "rats", .npc⟩]
        opinion := { Opinion.zero with trust := 1 }
        missionOpinion := { Opinion.zero with trust := 4, fear := -3 } }
    npc.missions.get? "rats" = some ⟨40, .available⟩ ∧ ¬o.Finishes "rats" ∧
      (o.apply enc).2.scene.npc.opinion = { Opinion.zero with trust := 11, fear := -13 } := by
  intro npc enc o
  have board : npc.missions.get? "rats" = some ⟨40, .available⟩ := by decide +kernel
  have remains : ¬o.Finishes "rats" := by
    rintro ⟨e, mem, success, kind⟩
    obtain rfl | rfl :
        e = ⟨.finishMission "wolves" true, .u⟩ ∨ e = ⟨.offerMission "rats", .npc⟩ := by
      simpa [o] using mem
    · injection kind with same
      exact absurd same (by decide)
    · contradiction
  obtain ⟨-, grows, -⟩ := opinion_grows_unless_finished o enc rfl board (by decide)
  exact ⟨board, remains, (grows remains).trans (by decide +kernel)⟩

/-- The rats are selected and worth forty, but count for nothing when they are finished. -/
theorem finished_rats_count_for_nothing :
    let npc : Npc :=
      { (Npc.ofSheet (.new "Ann")).withMission "rats" 40 with selectedMission := some "rats" }
    let enc : Encounter Player Npc :=
      { scene :=
          { u := .ofSheet (.new "Bob"), npc, globals := .empty, current := { id := "TALK" }
            earlier := [], missionsAssigned := [], byRadio := false }
        generator := .ofSeed 0
        handoff := none }
    let o : Outcome :=
      { effects := [⟨.finishMission "rats" true, .u⟩]
        missionOpinion := { Opinion.zero with trust := 4 } }
    npc.selectedMissionValue = some 40 ∧
      (o.apply enc).2.scene.npc.opinion = npc.opinion ∧
      npc.opinion.add (o.opinion.add (o.missionOpinion.map (scaled 40))) ≠ npc.opinion := by
  decide +kernel

end Outcome

end Parley
