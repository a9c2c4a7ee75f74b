import Parley.Proofs.Attempts

/-!
# Failing effects

An effect that fails is skipped, so it should not have changed anything. Between the player and
another speaker that is so for every effect but one: finishing a mission closes it on the board of
the other speaker before it is known whether the player has taken it on.
-/

namespace Parley

open Act

namespace Act

section

variable {α β γ : Type} [Actor γ] [Actor.InMemory γ]

/-- An item is taken exactly if there is something of it. -/
theorem ensureAccepts_ok_iff {receiver : γ} {item : Item} :
    ensureAccepts receiver item = .ok () ↔ 0 < item.count := by
  unfold ensureAccepts
  rw [Actor.canAccept_eq]
  by_cases hc : 0 < item.count <;> simp [hc]

/-- After the receiver has agreed to take the item, the trade goes through. -/
theorem clean_accepted {receiver : Scene α β → γ} {item : Item}
    {f : Unit → Act α β Unit} (hf : 0 < item.count → (f ()).Clean) :
    (look (fun s => ensureAccepts (receiver s) item) >>= f).Clean := by
  by_cases h : 0 < item.count
  · exact looks_look.bind_clean fun _ => hf h
  · intro e failure e' hfail
    rcases fails_bind.1 hfail with hl | ⟨_, _, hl, -⟩
    · exact looks_look.clean e failure e' hl
    · exact absurd (ensureAccepts_ok_iff.1 (succeeds_look.1 hl).1) h

variable [Actor α] [Actor β] [Actor.InMemory α] [Actor.InMemory β]

/-- Nobody refuses a positive number of an item. -/
theorem sure_addItem (t : Target) {item : Item} (h : 0 < item.count) :
    (tell? t (Actor.addItem · item) : Act α β Unit).Sure := by
  intro e failure e' hf
  obtain ⟨hs, -⟩ := fails_tell?.1 hf
  cases t with
  | u =>
    obtain ⟨u, hu⟩ := Actor.addItem_of_pos e.scene.u h
    rw [Scene.tell?_u_eq_ok.2 ⟨u, hu, rfl⟩] at hs
    contradiction
  | npc =>
    obtain ⟨npc, hn⟩ := Actor.addItem_of_pos e.scene.npc h
    rw [Scene.tell?_npc_eq_ok.2 ⟨npc, hn, rfl⟩] at hs
    contradiction

/-- A purchase that fails takes nothing from anyone. -/
theorem clean_buy (item : Item) (cost : Int64) : (buy item cost : Act α β Unit).Clean := by
  unfold buy
  refine looks_look.bind_clean fun _ => clean_accepted fun h => Sure.clean ?_
  exact sure_tell.bind fun _ => sure_tell.bind fun _ => sure_addItem .u h

theorem clean_sell (type : String) (count : Int32) (cost : Int64) :
    (sell type count cost : Act α β Unit).Clean := by
  unfold sell
  refine looks_look.bind_clean fun _ => looks_look.bind_clean fun category => ?_
  refine looks_look.bind_clean fun _ => clean_accepted fun h => ?_
  refine clean_tell?.bind_sure fun _ => ?_
  exact (sure_addItem .npc h).bind fun _ => sure_tell.bind fun _ => sure_tell

end

theorem sure_assignMission (mission : String) :
    (tell? .u (Actor.assignMission · mission) : Act Player Npc Unit).Sure := by
  intro e failure e' hf
  obtain ⟨hs, -⟩ := fails_tell?.1 hf
  simp [Scene.tell?, Actor.assignMission, Except.map] at hs

end Act

/-- Between actors kept in memory every effect that moves no mission fails cleanly. -/
theorem EffectKind.Steps.clean {α β : Type} [Actor α] [Actor β] [Actor.InMemory α]
    [Actor.InMemory β] {kind : EffectKind} {t : Target} {m : Act α β Unit} (h : kind.Steps t m)
    (single : kind.movesMission = false) : m.Clean := by
  induction h with
  | peek first _ ih => exact first.looks.bind_clean fun a => ih a single
  | write => exact clean_write
  | tell | offerMission => exact clean_tell?
  | spendCash | action => exact sure_tell.clean
  | buyItem => exact clean_buy _ _
  | sellItem => exact clean_sell _ _ _
  | openDialogue => exact sure_handOver.clean
  | takeControl => exact clean_tell?.bind_sure fun _ => sure_handOver
  | assignMission | finishMission | addMission => contradiction

namespace Effect

/-- Between the player and another speaker only the finishing of a mission may fail halfway: the
player does not refuse to take a mission on. -/
theorem execute_clean (e : Effect)
    (h : ∀ mission success, e.kind ≠ .finishMission mission success) :
    (e.execute : Act Player Npc Unit).Clean := by
  cases single : e.kind.movesMission with
  | false => exact e.execute_steps.clean single
  | true =>
    obtain ⟨kind, target⟩ := e
    cases kind with
    | assignMission | addMission => exact clean_tell?.bind_sure fun _ => sure_assignMission _
    | finishMission mission success => exact absurd rfl (h mission success)
    | _ => contradiction

/-- Finishing a mission fails with the board of the other speaker as it was, or with the mission
closed on that board because the player has not taken it on. -/
theorem fails_finishMission {mission : String} {success : Bool} {target : Target}
    {e e' : Encounter Player Npc} {failure : Failure}
    (h : (execute ⟨.finishMission mission success, target⟩).Fails e failure e') :
    e = e' ∨ ∃ npc, e.scene.npc.finishMission mission success = .ok npc ∧
      e.scene.u.activeMissions.contains mission = false ∧
      e' = { e with scene := { e.scene with npc } } := by
  rcases perform_both_cases (Actor.finishMission · mission success)
    (Actor.finishMission · mission success) e with same | ⟨npc, hn, ⟨_, hu, failed⟩ | ⟨u, -, ok⟩⟩
  · exact .inl (same.symm.trans (congrArg Prod.snd h))
  · obtain ⟨untaken, -⟩ := Player.finishMission_eq_error.1 hu
    exact .inr ⟨npc, hn, untaken, congrArg Prod.snd (h.symm.trans failed)⟩
  · exact absurd (congrArg Prod.fst (h.symm.trans ok)) nofun

/-- What a failing effect leaves behind: everything as it was, or a mission that is closed on the
board of the other speaker only. -/
theorem fails_cases {e : Effect} {enc enc' : Encounter Player Npc} {failure : Failure}
    (h : (execute e).Fails enc failure enc') :
    enc.Alike enc' ∨ ∃ mission success npc, e.kind = .finishMission mission success ∧
      enc.scene.npc.finishMission mission success = .ok npc ∧
      enc.scene.u.activeMissions.contains mission = false ∧
      enc' = { enc with scene := { enc.scene with npc } } := by
  by_cases hk : ∃ mission success, e.kind = .finishMission mission success
  · obtain ⟨mission, success, hk⟩ := hk
    obtain ⟨kind, target⟩ := e
    obtain rfl : kind = _ := hk
    rcases fails_finishMission h with rfl | ⟨npc, hn⟩
    · exact .inl (.refl enc)
    · exact .inr ⟨mission, success, npc, rfl, hn⟩
  · simp only [not_exists] at hk
    exact .inl (execute_clean e hk enc failure enc' h)

/-- Where the player has not taken the mission on, finishing it fails after the other speaker has
closed it. -/
theorem finishMission_fails {mission : String} {success : Bool} {target : Target}
    {e : Encounter Player Npc} {npc : Npc}
    (hn : e.scene.npc.finishMission mission success = .ok npc)
    (hu : e.scene.u.activeMissions.contains mission = false) :
    (execute ⟨.finishMission mission success, target⟩).Fails e (.lookup .mission mission)
      { e with scene := { e.scene with npc } } := by
  have closed : e.scene.tell? .npc (Actor.finishMission · mission success) =
      .ok { e.scene with npc } := Scene.tell?_npc_eq_ok.2 ⟨npc, hn, rfl⟩
  have untaken : ({ e.scene with npc } : Scene Player Npc).tell? .u
      (Actor.finishMission · mission success) = .error (.lookup .mission mission) :=
    Scene.tell?_u_eq_error.2 (Player.finishMission_eq_error.2 ⟨hu, rfl⟩)
  refine fails_bind.2 (.inr ⟨(), { e with scene := { e.scene with npc } }, ?_, ?_⟩)
  · exact succeeds_tell?.2 ⟨_, closed, rfl⟩
  · exact fails_tell?.2 ⟨untaken, rfl⟩

/-- A failing effect has changed nothing, in any encounter of the player with another speaker,
except for the finishing of a mission that stands open on the board of the other speaker and that
the player has not taken on. -/
theorem failure_changes_nothing_iff (e : Effect) (enc : Encounter Player Npc) :
    (∀ failure enc', e.execute.perform enc = (.error failure, enc') →
      enc' = { enc with generator := enc'.generator }) ↔
    ∀ mission success, e.kind = .finishMission mission success →
      enc.scene.u.activeMissions.contains mission = true ∨
        enc.scene.npc.IsOver mission success := by
  constructor
  · rintro h mission success hk
    obtain ⟨kind, target⟩ := e
    obtain rfl : kind = _ := hk
    cases hu : enc.scene.u.activeMissions.contains mission with
    | true => exact .inl rfl
    | false =>
      right
      rw [Npc.isOver_iff]
      intro npc hn
      have := h _ _ (finishMission_fails hn hu)
      exact congrArg (·.scene.npc) this
  · intro h failure enc' hf
    rcases fails_cases hf with alike | ⟨mission, success, npc, hk, hn, hu, rfl⟩
    · exact alike
    · rcases h mission success hk with active | closed
      · rw [hu] at active
        contradiction
      · rw [Npc.isOver_iff.1 closed npc hn]

/-- An effect that fails can close a mission: the player never took on the one that is finished. -/
theorem failing_finish_closes_mission :
    let npc := (Npc.ofSheet (.new "Ann")).withMission "rats" 5
    let enc : Encounter Player Npc :=
      { scene :=
          { u := .ofSheet (.new "Bob"), npc, globals := .empty, current := { id := "TALK" }
            earlier := [], missionsAssigned := [], byRadio := false }
        generator := .ofSeed 0
        handoff := none }
    ∃ enc', (execute ⟨.finishMission "rats" true, .u⟩).perform enc =
        (.error (.lookup .mission "rats"), enc') ∧
      enc.scene.npc.missionsWith .succeeded = [] ∧
      enc'.scene.npc.missionsWith .succeeded = ["rats"] ∧
      enc' ≠ { enc with generator := enc'.generator } := by
  intro npc enc
  refine ⟨_, finishMission_fails rfl rfl, rfl, rfl, fun same => ?_⟩
  exact absurd (congrArg (·.scene.npc.missionsWith .succeeded) same) (by decide)

end Effect

end Parley
