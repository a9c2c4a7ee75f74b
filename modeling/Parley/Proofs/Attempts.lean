import Parley.Proofs.Frame

/-!
# What attempted effects change

Whether an effect succeeds or fails, it makes on the sheets of the actors only changes of its kind,
and on the mission board, the temper and the selection of the other speaker only what its kind
allows. So what the changes of a kind preserve is preserved by every attempt.
-/

namespace Parley

open Act

section

variable {α β : Type} [Actor α] [Actor β] {t : Target} [Scene.Side α β t]

/-- The change of any sheet by an effect is one that its kind allows. -/
theorem EffectKind.Steps.alters {kind : EffectKind} {t' : Target} {m : Act α β Unit}
    (h : kind.Steps t' m) : m.Alters kind t := by
  induction h with
  | peek first _ ih => exact first.looks.alters.bind ih
  | write named => exact alters_write named
  | tell told => exact alters_tell? (fun h => (told.player h).1) fun h => (told.npc h).1
  | spendCash => exact alters_addCash rfl
  | buyItem =>
    exact buy_of Looks.alters Alters.bind (fun _ _ => alters_addCash rfl) (alters_addItem rfl)
  | sellItem =>
    exact sell_of Looks.alters Alters.bind (fun _ _ => alters_addCash rfl) alters_removeItems
      fun _ => alters_addItem rfl
  | assignMission =>
    exact (alters_aside? Player.sheet_assignMission Npc.sheet_setStatus).bind fun _ =>
      alters_aside? Player.sheet_assignMission Npc.sheet_setStatus
  | finishMission =>
    exact (alters_aside? Player.sheet_finishMission Npc.sheet_finishMission).bind fun _ =>
      alters_aside? Player.sheet_finishMission Npc.sheet_finishMission
  | offerMission => exact alters_aside? (fun h => by contradiction) Npc.sheet_offerMission
  | addMission =>
    exact (alters_aside? Player.sheet_assignMission Npc.sheet_addMission).bind fun _ =>
      alters_aside? Player.sheet_assignMission Npc.sheet_setStatus
  | openDialogue => exact alters_handOver
  | takeControl told =>
    refine (alters_tell? (fun h => ?_) fun h => ?_).bind fun _ => alters_handOver
    · exact (told.player h).1
    · exact (told.npc h).1
  | action =>
    refine alters_kept (fun p => .refl p.sheet) fun n => ?_
    exact n.sheet_performAction _ ▸ .refl n.sheet

/-- What the changes of a kind preserve is preserved by its effects, be it by success or by
failure. -/
theorem Effect.attempt_preserves {P : Sheet → Prop} (e : Effect) (enc : Encounter α β)
    (step : ∀ {s s'}, e.kind.Alters t s s' → P s → P s') (start : P (enc.scene.sheet t)) :
    P ((e.attempt enc).2.scene.sheet t) :=
  EffectKind.Alters.preserves step (e.execute_steps.alters enc) start

end

section

variable {α : Type} [Actor α]

/-- Where the step on the player fails, the one on the other speaker stays done. -/
theorem EffectKind.Steps.affects {kind : EffectKind} {t : Target} {m : Act α Npc Unit}
    (h : kind.Steps t m) : m.Touches kind.Affects := by
  induction h with
  | peek first _ ih =>
    refine (first.looks.touches (R := Eq) fun _ => rfl).bind_of ih ?_ ?_
    · exact fun same => same ▸ .refl _
    · exact fun same affected => same ▸ affected
  | write => exact still_write.mono .of_still
  | tell told => exact touches_tell? .refl fun h => .of_still (told.npc h).2
  | spendCash => exact (still_tell fun n => .sheet n _).mono .of_still
  | buyItem =>
    refine Touches.mono ?_ .of_still
    exact buy_of Looks.still Touches.bind (fun _ _ => still_tell fun n => .sheet n _)
      (still_tell? .of_map)
  | sellItem =>
    refine Touches.mono ?_ .of_still
    exact sell_of Looks.still Touches.bind (fun _ _ => still_tell fun n => .sheet n _)
      (still_tell? .of_map) fun _ => still_tell? .of_map
  | assignMission => exact touches_both .refl .assignMission
  | finishMission => exact touches_both .refl .finishMission
  | offerMission => exact touches_tell? .refl .offerMission
  | addMission => exact touches_both .refl .addMission
  | openDialogue => exact still_handOver.mono .of_still
  | takeControl told =>
    refine Touches.mono (Touches.bind ?_ fun _ => still_handOver) .of_still
    exact still_tell? fun h => (told.npc h).2
  | action => exact touches_tell .refl fun _ => .action

/-- An effect does to the temper, the mission board and the selection what its kind allows, and
nothing else. -/
theorem Effect.attempt_affects (e : Effect) (enc : Encounter α Npc) :
    e.kind.Affects enc.scene.npc (e.attempt enc).2.scene.npc := e.execute_steps.affects enc

/-- What an effect does to the other speaker, where it fails as where it succeeds, is what its kind
allows. -/
theorem Effect.attempt_stirs (e : Effect) (enc : Encounter α Npc) :
    e.kind.Stirs enc.scene.npc (e.attempt enc).2.scene.npc := (e.attempt_affects enc).stirs

end

section

variable {α β : Type}

/-- What a response asks for is noted outside the sheet. -/
theorem Session.sheet_note [Actor β] [memory : Actor.InMemory β] (r : Response) (s : Scene α β) :
    Actor.sheet (note r s).npc = Actor.sheet s.npc := by
  cases memory <;>
  · rw [note]
    dsimp only
    split <;> split <;> rfl

/-- Practice is noted on the sheet, but leaves alone what effects can change there. -/
theorem Session.sheet_learn [Actor α] [memory : Actor.InMemory α] (r : Response) (roll : Roll)
    (s : Scene α β) : (Actor.sheet s.u).Kept (Actor.sheet (learn r roll s).u) := by
  cases memory <;>
  · rw [learn]
    split <;> exact ⟨rfl, rfl, rfl, rfl, rfl, rfl⟩

theorem Session.npc_learn [Actor α] (r : Response) (roll : Roll) (s : Scene α β) :
    (learn r roll s).npc = s.npc := by
  rw [learn]
  split <;> rfl

theorem Outcome.sheet_settle [Actor β] [memory : Actor.InMemory β] (o : Outcome) (delta : Opinion)
    (s : Scene α β) : Actor.sheet (o.settle delta s).2.npc = Actor.sheet s.npc := by
  obtain ⟨npc, rfl | rfl, h | h⟩ := o.settle_cases delta s
  all_goals
    rw [h]
    cases memory <;> rfl

theorem Outcome.u_settle [Actor β] (o : Outcome) (delta : Opinion) (s : Scene α β) :
    (o.settle delta s).2.u = s.u := by
  obtain ⟨npc, -, h | h⟩ := o.settle_cases delta s
  · exact congrArg (·.2.u) h
  · exact congrArg (·.2.u) h

end

end Parley
