import Parley.Actor.Npc
import Parley.Actor.Player

/-!
# Missions

What the steps of a mission do to the board of the other speaker and to the missions that the
player has taken on.
-/

namespace Parley

namespace Npc

variable {n n' : Npc} {id id' : String}

/-- The missions with a status are those that the board shows with it. -/
theorem mem_missionsWith {status : MissionStatus} :
    id ∈ n.missionsWith status ↔ ∃ mission, n.missions.get? id = some mission ∧
      mission.status = status := by
  simp only [missionsWith, List.mem_map, List.mem_filter, decide_eq_true_eq, Prod.exists,
    Dict.get?_eq_some_iff]
  constructor
  · rintro ⟨_, mission, ⟨hm, hs⟩, rfl⟩
    exact ⟨mission, hm, hs⟩
  · rintro ⟨mission, hm, hs⟩
    exact ⟨id, mission, ⟨hm, hs⟩, rfl⟩

/-- A status is set on the board, for missions that are there. -/
theorem setStatus_eq_ok {status : MissionStatus} :
    n.setStatus id status = .ok n' ↔ ∃ mission, n.missions.get? id = some mission ∧
      n' = { n with missions := n.missions.insert id { mission with status } } := by
  unfold setStatus
  cases n.missions.get? id with
  | none => simp
  | some mission => simp [eq_comm]

/-- The status of a mission that is finished. -/
def finalStatus (success : Bool) : MissionStatus := if success then .succeeded else .failed

/-- A mission that is finished is not assigned any more. -/
theorem finalStatus_ne_assigned (success : Bool) : finalStatus success ≠ .assigned := by
  cases success <;> decide

/-- The other speaker finishes any mission on its board. -/
theorem finishMission_eq_ok {success : Bool} :
    n.finishMission id success = .ok n' ↔ ∃ mission, n.missions.get? id = some mission ∧
      n' = { n with
        missions := n.missions.insert id { mission with status := finalStatus success }
        selectedMission := if n.selectedMission = some id then none else n.selectedMission } := by
  unfold finishMission setStatus
  cases n.missions.get? id with
  | none => simp [bind, Except.bind]
  | some mission =>
    simp only [bind, Except.bind, pure, Except.pure, Except.ok.injEq, Option.some.injEq,
      exists_eq_left', finalStatus]
    split <;> rw [eq_comm]

/-- An offer is made once; a mission that is on the board already stays as it is. -/
theorem offerMission_eq_ok :
    n.offerMission id = .ok n' ↔ ∃ value, n.missionTypes.get? id = some value ∧
      n' = if n.missions.contains id then n
        else { n with missions := n.missions.insert id ⟨value, .available⟩ } := by
  unfold offerMission
  cases n.missionTypes.get? id with
  | none => simp
  | some value =>
    simp only [Except.ok.injEq, Option.some.injEq, exists_eq_left']
    exact eq_comm

/-- A mission of a known type is put on the board first and then assigned. -/
theorem addMission_eq_ok :
    n.addMission id = .ok n' ↔
      ∃ n₁, n.offerMission id = .ok n₁ ∧ n₁.setStatus id .assigned = .ok n' := by
  unfold addMission
  cases n.offerMission id with
  | error failure => simp [bind, Except.bind]
  | ok n₁ => simp [bind, Except.bind]

/-- The two differ at most in their boards. -/
def SameButBoard (n n' : Npc) : Prop := ∃ missions, n' = { n with missions }

theorem sameButBoard_setStatus {status : MissionStatus} (h : n.setStatus id status = .ok n') :
    n.SameButBoard n' := by
  obtain ⟨_, -, rfl⟩ := setStatus_eq_ok.1 h
  exact ⟨_, rfl⟩

theorem sameButBoard_offerMission (h : n.offerMission id = .ok n') : n.SameButBoard n' := by
  obtain ⟨_, -, rfl⟩ := offerMission_eq_ok.1 h
  split
  · exact ⟨_, rfl⟩
  · exact ⟨_, rfl⟩

theorem sameButBoard_addMission (h : n.addMission id = .ok n') : n.SameButBoard n' := by
  obtain ⟨_, offered, assigned⟩ := addMission_eq_ok.1 h
  obtain ⟨_, rfl⟩ := sameButBoard_offerMission offered
  obtain ⟨_, rfl⟩ := sameButBoard_setStatus assigned
  exact ⟨_, rfl⟩

theorem missions_performAction (n : Npc) (action : Action) :
    (n.performAction action).missions = n.missions := by
  cases action <;> rfl

/-- The mission is not on the board, or it is over in this way already and not the selected one. -/
def IsOver (n : Npc) (id : String) (success : Bool) : Prop :=
  ∀ mission, n.missions.get? id = some mission →
    mission.status = finalStatus success ∧ n.selectedMission ≠ some id

/-- A mission is over just when finishing it changes nothing. -/
theorem isOver_iff {success : Bool} :
    n.IsOver id success ↔ ∀ n', n.finishMission id success = .ok n' → n' = n := by
  constructor
  · intro closed n' h
    obtain ⟨mission, hm, rfl⟩ := finishMission_eq_ok.1 h
    obtain ⟨status, selected⟩ := closed mission hm
    rw [if_neg selected, ← status, Dict.insert_of_get? hm]
  · intro h mission hm
    have same := h _ (finishMission_eq_ok.2 ⟨mission, hm, rfl⟩)
    constructor
    · have board := congrArg (·.missions.get? id) same
      simp only [Dict.get?_insert, if_true, hm, Option.some.injEq] at board
      exact (congrArg Mission.status board).symm
    · intro selected
      have := congrArg (·.selectedMission) same
      simp [selected] at this

end Npc

/-- The player finishes active missions only. -/
theorem Player.finishMission_eq_ok {p p' : Player} {id : String} {success : Bool} :
    p.finishMission id success = .ok p' ↔ p.activeMissions.contains id = true ∧
      p' = { p with
        activeMissions := p.activeMissions.erase id
        completedMissions := p.completedMissions ++ [(id, success)] } := by
  unfold finishMission
  cases p.activeMissions.contains id with
  | true => simp [eq_comm]
  | false => simp

theorem Player.finishMission_eq_error {p : Player} {id : String} {success : Bool}
    {failure : Failure} :
    p.finishMission id success = .error failure ↔
      p.activeMissions.contains id = false ∧ failure = .lookup .mission id := by
  unfold Player.finishMission
  cases p.activeMissions.contains id <;> simp [eq_comm]

end Parley
