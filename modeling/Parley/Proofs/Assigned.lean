import Parley.Proofs.Operation
import Parley.Proofs.Attempts
import Parley.Trial.Basic

/-!
# The list of missions taken on

A session keeps a list of the missions that are assigned on the board of the other speaker, and
conditions and trials look at the list, not at the board. The list is looked up at the start and by
every choice. Speaker effects can assign missions too, but nothing looks the list up after them, so
until the next choice it shows the board of the last one.
-/

namespace Parley

/-- A binding that does not count may be added without changing those that do. -/
theorem Dict.filter_insertEntry {β : Type} {p : String × β → Bool} {k : String} {v : β}
    {l : List (String × β)} (hp : p (k, v) = false) (new : l.lookup k = none) :
    (insertEntry k v l).filter p = l.filter p := by
  induction l with
  | nil => simp [insertEntry, hp]
  | cons head rest ih =>
    obtain ⟨k', v'⟩ := head
    rw [lookup_cons] at new
    split at new
    · contradiction
    · rename_i hne
      rw [insertEntry, if_neg hne]
      split
      · rw [List.filter_cons_of_neg (by simp [hp])]
      · rw [List.filter_cons, List.filter_cons, ih new]

namespace Npc

variable {n n' : Npc}

theorem missionsWith_congr (same : n'.missions = n.missions) (status : MissionStatus) :
    n'.missionsWith status = n.missionsWith status := by
  unfold missionsWith
  rw [same]

/-- A mission that is put on the board is not assigned by that. -/
theorem assigned_offerMission {id : String} (h : n.offerMission id = .ok n') :
    n'.missionsWith .assigned = n.missionsWith .assigned := by
  obtain ⟨value, -, rfl⟩ := offerMission_eq_ok.1 h
  split
  · rfl
  · rename_i unknown
    have new : n.missions.get? id = none := by simpa [Dict.contains] using unknown
    have others : (Dict.insertEntry id ⟨value, .available⟩ n.missions.entries).filter
        (·.2.status = .assigned) = n.missions.entries.filter (·.2.status = .assigned) :=
      Dict.filter_insertEntry rfl new
    exact congrArg (List.map (·.1)) others

end Npc

/-- Only the kinds that move a mission change which ones are assigned. -/
theorem EffectKind.Stirs.assigned {kind : EffectKind} {n n' : Npc} (h : kind.Stirs n n')
    (still : kind.movesMission = false) :
    n'.missionsWith .assigned = n.missionsWith .assigned := by
  cases h with
  | kept same => exact Npc.missionsWith_congr same.missions .assigned
  | offerMission offered => exact Npc.assigned_offerMission offered
  | action => exact Npc.missionsWith_congr (Npc.missions_performAction n _) .assigned
  | assignMission | finishMission | addMission => contradiction

/-- No speaker effects of any topic change which missions are assigned. -/
def Registry.LeavesMissions (r : Registry) : Prop :=
  ∀ id t, r.get? id = some t → ∀ speaker ∈ t.speakerEffects, ∀ e ∈ speaker.effects,
    e.kind.movesMission = false

namespace Session

variable {α : Type} [Actor α] {s : Session α Npc}

theorem kept_mark (e : SpeakerEffect) (n : Npc) : n.Kept (mark e n) := by
  unfold mark
  split
  · exact (Npc.Still.sheet n _).toKept
  · exact .refl n

/-- Speaker effects that move no mission leave the list of assigned ones as it is. -/
theorem assigned_speak {speaker : SpeakerEffect} (enc : Encounter α Npc)
    (still : ∀ e ∈ speaker.effects, e.kind.movesMission = false) :
    (speak speaker enc).2.scene.npc.missionsWith .assigned =
      enc.scene.npc.missionsWith .assigned := by
  obtain ⟨g, h | ⟨enc', rfl, h⟩⟩ := speak_cases speaker enc
  · rw [h]
  · rw [h]
    refine (Npc.missionsWith_congr (kept_mark speaker _).missions .assigned).trans ?_
    refine forM_induction (P := fun enc' : Encounter α Npc =>
      enc'.scene.npc.missionsWith .assigned = enc.scene.npc.missionsWith .assigned) rfl ?_
    intro e mem enc' same
    exact ((e.attempt_stirs enc').assigned (still e mem)).trans same

/-- A registry that leaves missions alone leaves them alone in all that a topic carries out. -/
theorem assigned_applySpeakerEffects (leaves : s.registry.LeavesMissions) :
    s.applySpeakerEffects.scene.npc.missionsWith .assigned =
      s.scene.npc.missionsWith .assigned := by
  unfold applySpeakerEffects
  cases ht : s.topic? with
  | none => rfl
  | some t =>
    refine forM_induction (P := fun enc : Encounter α Npc =>
      enc.scene.npc.missionsWith .assigned = s.scene.npc.missionsWith .assigned) rfl ?_
    intro speaker mem enc same
    exact (assigned_speak enc (leaves _ t ht speaker mem)).trans same

end Session

/-- Does an operation lead up to a choice: does it speak, work out the line, offer responses or
show them? -/
def Operation.presents : Operation → Bool
  | .speak | .say | .generate | .offer => true
  | _ => false

namespace Session

variable {α : Type} [Actor α] {s s' s'' : Session α Npc}

/-- What can be said of a session after it has been led up to a choice. -/
structure Presented (s s' : Session α Npc) : Prop where
  list : s'.scene.missionsAssigned = s.scene.missionsAssigned
  done : s'.done = s.done
  registry : s'.registry = s.registry
  assigned : s.registry.LeavesMissions →
    s'.scene.npc.missionsWith .assigned = s.scene.npc.missionsWith .assigned

namespace Presented

omit [Actor α] in
theorem refl (s : Session α Npc) : s.Presented s := ⟨rfl, rfl, rfl, fun _ => rfl⟩

omit [Actor α] in
theorem trans (h : s.Presented s') (h' : s'.Presented s'') : s.Presented s'' where
  list := h'.list.trans h.list
  done := h'.done.trans h.done
  registry := h'.registry.trans h.registry
  assigned leaves := (h'.assigned (h.registry ▸ leaves)).trans (h.assigned leaves)

/-- Only to speak changes more than the responses on offer and the random generator. -/
theorem perform {op : Operation} (presenting : op.presents = true) (s : Session α Npc) :
    s.Presented (op.perform s) := by
  cases op with
  | speak =>
    obtain ⟨encounter, hs⟩ := s.applySpeakerEffects_eq
    constructor
    · exact s.applySpeakerEffects_framed.missionsAssigned
    · change s.applySpeakerEffects.done = s.done
      rw [hs]
    · exact Operation.registry_perform .speak s
    · exact assigned_applySpeakerEffects
  | say =>
    obtain ⟨g, hs⟩ := s.line_eq
    change s.Presented s.line.2
    rw [hs]
    exact ⟨rfl, rfl, rfl, fun _ => rfl⟩
  | generate =>
    obtain ⟨g, responses, hs⟩ := s.generate_eq
    change s.Presented s.generate
    rw [hs]
    exact ⟨rfl, rfl, rfl, fun _ => rfl⟩
  | offer => exact ⟨rfl, rfl, rfl, fun _ => rfl⟩
  | choose | giveReason | setRadio | takeHandoff | attempt | enter => contradiction

/-- However many operations merely present the topic, the session stays as it was entered. -/
theorem performAll {ops : List Operation} (presenting : ∀ op ∈ ops, op.presents = true)
    (s : Session α Npc) : s.Presented (performAll ops s) := by
  refine performAll_induction (P := s.Presented) (.refl s) ?_
  intro op mem s' h
  exact h.trans (.perform (presenting op mem) s')

end Presented

omit [Actor α] in
/-- An outcome that goes on with the conversation looks the list up. -/
theorem list_settle {o : Outcome} {delta : Opinion} {scene scene' : Scene α Npc} {next : String}
    (settled : o.settle delta scene = (next, scene')) (going : next ≠ endTalk) :
    scene'.missionsAssigned = scene'.npc.missionsWith .assigned := by
  rw [o.settle_eq] at settled
  split at settled
  · exact absurd (Prod.mk.inj settled).1.symm going
  · obtain ⟨-, rfl⟩ := Prod.mk.inj settled
    rfl

/-- A choice that does not end the conversation looks the list up. -/
theorem list_select {s : Session α Npc} {index : Nat}
    (chosen : (s.select index).1.isOk = true) (going : (s.select index).2.done = false) :
    (s.select index).2.scene.missionsAssigned =
      (s.select index).2.scene.npc.missionsWith .assigned := by
  cases hr : s.responses[index]? with
  | none =>
    rw [select_of_none hr] at chosen
    contradiction
  | some r =>
    rcases select_cases hr with ⟨fault, -, hs⟩ | ⟨delta, next, scene, -, settled, hs⟩
    · rw [hs] at chosen
      contradiction
    · rw [hs] at going ⊢
      rcases goOn_cases r next
          { (s.resolve r).2 with encounter := { s.afterEffects r with scene } } with
        ⟨-, hg⟩ | ⟨rfl, hg⟩ | ⟨ends, -, hg⟩
      · rw [hg] at going
        contradiction
      · rw [hg]
        have looked := list_settle settled (by decide)
        exact looked
      · rw [hg]
        have looked := list_settle settled ends
        exact looked

/-- The list that conditions and trials look at shows the board as it was at the start or right
after the last choice. So it is up to date exactly as long as the assigned missions are the same as
then, and always if no speaker effects change which missions are assigned. -/
theorem list_up_to_date_iff (u : α) (npc : Npc) (globals : Dict String) (registry : Registry)
    (settings : TalkSettings) (entropy : UInt64) (generator : Generator)
    (earlier later : List Operation) (presenting : ∀ op ∈ later, op.presents = true) :
    let s₀ := (start u npc globals registry settings entropy).withGenerator generator
    let s₁ := performAll earlier s₀
    let s := performAll later s₁
    let board := s₁.scene.npc.missionsWith .assigned
    (earlier = [] ∨ ∃ ops index, earlier = ops ++ [.choose index] ∧
      ((performAll ops s₀).select index).1.isOk = true) →
    s.done = false →
    s.scene.missionsAssigned = board ∧
    (∀ item g, (Condition.hasAssignedMission.check s.scene item g).1 = decide (board.length = 1) ∧
      (Condition.hasManyAssignedMissions.check s.scene item g).1 = decide (2 ≤ board.length)) ∧
    Modifier.missionsAssigned.base s.scene = clamp32 board.length ∧
    (s.scene.missionsAssigned = s.scene.npc.missionsWith .assigned ↔
      s.scene.npc.missionsWith .assigned = board) ∧
    (registry.LeavesMissions →
      s.scene.missionsAssigned = s.scene.npc.missionsWith .assigned) := by
  intro s₀ s₁ s board looked going
  have presented : s₁.Presented s := .performAll presenting s₁
  -- The list is right at the start by construction, and after a choice because that looked it up.
  have shown : s₁.scene.missionsAssigned = board := by
    rcases looked with rfl | ⟨ops, index, rfl, chosen⟩
    · rfl
    · have last : s₁ = ((performAll ops s₀).select index).2 := by
        simp only [s₁, performAll, List.foldl_append]
        rfl
      have going₁ : s₁.done = false := presented.done.symm.trans going
      change s₁.scene.missionsAssigned = s₁.scene.npc.missionsWith .assigned
      rw [last] at going₁ ⊢
      exact list_select chosen going₁
  have now : s.scene.missionsAssigned = board := presented.list.trans shown
  refine ⟨now, fun item g => ?_, ?_, ?_, fun leaves => ?_⟩
  · rw [← now]
    exact ⟨rfl, rfl⟩
  · rw [← now]
    rfl
  · rw [now]
    exact eq_comm
  · have same : s₁.registry = registry := registry_performAll earlier s₀
    exact now.trans (presented.assigned (same ▸ leaves)).symm

/-- A mission that a response assigns is on the list after the choice, and stays there. -/
theorem assigned_by_choice_listed :
    let npc := (Npc.ofSheet (.new "Ann")).withMission "rats" 5
    let job : Response :=
      { text := "Any work?", success := { effects := [⟨.assignMission "rats", .u⟩] } }
    let s₁ := performAll [.speak, .generate, .choose 0]
      ((start (Player.ofSheet (.new "Bob")) npc .empty
        (Registry.empty.insert ((Topic.new "TALK").withResponse job))
        { firstTopic := "TALK" } 0).withGenerator (.ofSeed 1))
    let s := performAll [.speak, .say, .generate, .offer] s₁
    s.done = false ∧ s.scene.missionsAssigned = s.scene.npc.missionsWith .assigned ∧
      s.scene.npc.missionsWith .assigned = ["rats"] := by
  intro npc job s₁ s
  have going : s.done = false := by decide +kernel
  have now := list_up_to_date_iff (Player.ofSheet (.new "Bob")) npc .empty
    (Registry.empty.insert ((Topic.new "TALK").withResponse job)) { firstTopic := "TALK" } 0
    (.ofSeed 1) [.speak, .generate, .choose 0] [.speak, .say, .generate, .offer] (by decide)
    (.inr ⟨[.speak, .generate], 0, rfl, by decide +kernel⟩) going
  have same : s.scene.npc.missionsWith .assigned = s₁.scene.npc.missionsWith .assigned := by
    decide +kernel
  exact ⟨going, now.2.2.2.1.2 same, by decide +kernel⟩

/-- A mission that is assigned on entering a topic is not on the list. -/
theorem assigned_by_speaking_not_listed :
    let npc := (Npc.ofSheet (.new "Ann")).withMission "rats" 5
    let topic : Topic :=
      { Topic.new "TALK" with speakerEffects := [⟨none, [⟨.assignMission "rats", .u⟩], none⟩] }
    let s := (start (Player.ofSheet (.new "Bob")) npc .empty (Registry.empty.insert topic)
      { firstTopic := "TALK" } 0).applySpeakerEffects
    s.done = false ∧ s.scene.missionsAssigned = [] ∧
      s.scene.npc.missionsWith .assigned = ["rats"] ∧
      (Condition.hasAssignedMission.check s.scene none s.encounter.generator).1 = false := by
  intro npc topic s
  exact ⟨rfl, rfl, rfl, rfl⟩

end Session

end Parley
