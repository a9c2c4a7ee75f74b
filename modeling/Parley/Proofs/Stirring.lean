import Parley.Effect.Basic
import Parley.Proofs.Deed
import Parley.Proofs.Missions

/-!
# Changes of the other speaker

Of the other speaker it is the temper, the mission board and the selected mission that a
conversation depends on. Most effects leave all of them alone. `EffectKind.Stirs` says what the
others do to temper and board: four kinds move a mission on the board, and an action can change the
temper. No effect selects a mission, but one that is finished is no longer selected.
-/

namespace Parley

/-- The temper and the mission board of a speaker are left alone. -/
structure Npc.Kept (n n' : Npc) : Prop where
  opinion : n'.opinion = n.opinion
  angerThreshold : n'.angerThreshold = n.angerThreshold
  hostile : n'.hostile = n.hostile
  missions : n'.missions = n.missions

namespace Npc.Kept

variable {n n' n'' : Npc}

theorem refl (n : Npc) : n.Kept n := ⟨rfl, rfl, rfl, rfl⟩

theorem trans (h : n.Kept n') (h' : n'.Kept n'') : n.Kept n'' where
  opinion := h'.opinion.trans h.opinion
  angerThreshold := h'.angerThreshold.trans h.angerThreshold
  hostile := h'.hostile.trans h.hostile
  missions := h'.missions.trans h.missions

end Npc.Kept

/-- Besides, the same mission is selected. -/
structure Npc.Still (n n' : Npc) : Prop extends n.Kept n' where
  selectedMission : n'.selectedMission = n.selectedMission

namespace Npc.Still

variable {n n' n'' : Npc}

theorem refl (n : Npc) : n.Still n := ⟨.refl n, rfl⟩

theorem trans (h : n.Still n') (h' : n'.Still n'') : n.Still n'' where
  toKept := h.toKept.trans h'.toKept
  selectedMission := h'.selectedMission.trans h.selectedMission

theorem sheet (n : Npc) (sheet : Sheet) : n.Still { n with sheet } := ⟨⟨rfl, rfl, rfl, rfl⟩, rfl⟩

theorem of_map {x : Except Failure Sheet} (h : x.map (fun sheet => { n with sheet }) = .ok n') :
    n.Still n' := by
  obtain ⟨sheet, -, rfl⟩ := map_eq_ok.1 h
  exact .sheet n sheet

/-- Handing over control stirs nobody. -/
theorem takeControl (h : n.takeControl = .ok n') : n.Still n' := by
  unfold Npc.takeControl at h
  split at h
  · obtain rfl := Except.ok.inj h
    exact ⟨⟨rfl, rfl, rfl, rfl⟩, rfl⟩
  · contradiction

end Npc.Still

/-- Does an effect change which missions are assigned? -/
def EffectKind.movesMission : EffectKind → Bool
  | .assignMission _ | .finishMission .. | .addMission _ => true
  | _ => false

/-- What an effect of a kind can do to the temper and the mission board of the other speaker. -/
inductive EffectKind.Stirs : EffectKind → Npc → Npc → Prop where
  | kept {kind n n'} (same : n.Kept n') : Stirs kind n n'
  | assignMission {mission n n'} (assigned : n.setStatus mission .assigned = .ok n') :
      Stirs (.assignMission mission) n n'
  | finishMission {mission success n n'} (closed : n.finishMission mission success = .ok n') :
      Stirs (.finishMission mission success) n n'
  | offerMission {mission n n'} (offered : n.offerMission mission = .ok n') :
      Stirs (.offerMission mission) n n'
  | addMission {mission n n'} (added : n.addMission mission = .ok n') :
      Stirs (.addMission mission) n n'
  | action {action n} : Stirs (.action action) n (n.performAction action)

/-- Only an action changes the temper of the other speaker. -/
theorem EffectKind.Stirs.temper_or_action {kind : EffectKind} {n n' : Npc} (h : kind.Stirs n n') :
    (n'.opinion = n.opinion ∧ n'.angerThreshold = n.angerThreshold ∧ n'.hostile = n.hostile) ∨
      ∃ action, kind = .action action ∧ n' = n.performAction action := by
  cases h with
  | kept same => exact .inl ⟨same.opinion, same.angerThreshold, same.hostile⟩
  | assignMission assigned =>
    obtain ⟨_, rfl⟩ := Npc.sameButBoard_setStatus assigned
    exact .inl ⟨rfl, rfl, rfl⟩
  | finishMission closed =>
    obtain ⟨_, -, rfl⟩ := Npc.finishMission_eq_ok.1 closed
    exact .inl ⟨rfl, rfl, rfl⟩
  | offerMission offered =>
    obtain ⟨_, rfl⟩ := Npc.sameButBoard_offerMission offered
    exact .inl ⟨rfl, rfl, rfl⟩
  | addMission added =>
    obtain ⟨_, rfl⟩ := Npc.sameButBoard_addMission added
    exact .inl ⟨rfl, rfl, rfl⟩
  | action => exact .inr ⟨_, rfl, rfl⟩

/-- What an effect of a kind can do to the other speaker, as far as it matters to a conversation:
to the temper and the mission board what `EffectKind.Stirs` says; and the same mission stays
selected, save that finishing it ends that. -/
structure EffectKind.Affects (kind : EffectKind) (n n' : Npc) : Prop where
  stirs : kind.Stirs n n'
  selected : n'.selectedMission = n.selectedMission ∨ ∃ mission success,
    kind = .finishMission mission success ∧ n.finishMission mission success = .ok n'

namespace EffectKind.Affects

variable {kind : EffectKind} {n n' : Npc}

theorem of_still (h : n.Still n') : kind.Affects n n' := ⟨.kept h.toKept, .inl h.selectedMission⟩

theorem refl (n : Npc) : kind.Affects n n := of_still (.refl n)

theorem assignMission {mission : String} (h : n.setStatus mission .assigned = .ok n') :
    EffectKind.Affects (.assignMission mission) n n' := by
  refine ⟨.assignMission h, .inl ?_⟩
  obtain ⟨_, rfl⟩ := Npc.sameButBoard_setStatus h
  rfl

/-- Finishing a mission changes the board, and clears the selected mission if it is that one. -/
theorem finishMission {mission : String} {success : Bool}
    (h : n.finishMission mission success = .ok n') :
    EffectKind.Affects (.finishMission mission success) n n' :=
  ⟨.finishMission h, .inr ⟨mission, success, rfl, h⟩⟩

theorem offerMission {mission : String} (h : n.offerMission mission = .ok n') :
    EffectKind.Affects (.offerMission mission) n n' := by
  refine ⟨.offerMission h, .inl ?_⟩
  obtain ⟨_, rfl⟩ := Npc.sameButBoard_offerMission h
  rfl

theorem addMission {mission : String} (h : n.addMission mission = .ok n') :
    EffectKind.Affects (.addMission mission) n n' := by
  refine ⟨.addMission h, .inl ?_⟩
  obtain ⟨_, rfl⟩ := Npc.sameButBoard_addMission h
  rfl

theorem action {action : Action} : EffectKind.Affects (.action action) n (n.performAction action) :=
  ⟨.action, .inl (by cases action <;> rfl)⟩

end EffectKind.Affects

namespace Act

variable {α γ δ : Type} {R S T : Npc → Npc → Prop} {m : Act α Npc γ} {f : γ → Act α Npc δ}

/-- However the deed turns out, it turns the other speaker into a related one. -/
def Touches (R : Npc → Npc → Prop) (m : Act α Npc γ) : Prop :=
  ∀ e : Encounter α Npc, R e.scene.npc (m.perform e).2.scene.npc

/-- What a deed does to the other speaker may be described more loosely. -/
theorem Touches.mono (hm : m.Touches R) (le : ∀ {n n'}, R n n' → S n n') : m.Touches S :=
  fun e => le (hm e)

/-- The second deed is only reached if the first one succeeds. -/
theorem Touches.bind_of (hm : m.Touches R) (hf : ∀ a, (f a).Touches S)
    (stop : ∀ {n n'}, R n n' → T n n') (go : ∀ {n n' n''}, R n n' → S n' n'' → T n n'') :
    (m >>= f).Touches T :=
  perform_bind_of (·.scene.npc) hm hf stop go

theorem Touches.bind (hm : m.Touches Npc.Still) (hf : ∀ a, (f a).Touches Npc.Still) :
    (m >>= f).Touches Npc.Still := hm.bind_of hf id .trans

theorem Looks.touches (hm : m.Looks) (refl : ∀ n, R n n) : m.Touches R := by
  intro e
  rw [hm e]
  exact refl e.scene.npc

theorem Looks.still (hm : m.Looks) : m.Touches Npc.Still := hm.touches .refl

theorem touches_change {q : Scene α Npc → Except Failure (Scene α Npc)} (refl : ∀ n, R n n)
    (hq : ∀ {s s'}, q s = .ok s' → R s.npc s'.npc) : (change q).Touches R :=
  perform_change_of (·.npc) refl hq

theorem still_handOver {h : Handoff} : (handOver h : Act α Npc Unit).Touches Npc.Still :=
  fun e => .refl e.scene.npc

variable [Actor α]

theorem touches_tell {t : Target} {f : {δ : Type} → [Actor δ] → δ → δ} (refl : ∀ n, R n n)
    (hf : ∀ n : Npc, R n (f n)) : (tell t f : Act α Npc Unit).Touches R := by
  intro e
  cases t with
  | u => exact refl e.scene.npc
  | npc => exact hf e.scene.npc

theorem still_tell {t : Target} {f : {δ : Type} → [Actor δ] → δ → δ}
    (hf : ∀ n : Npc, n.Still (f n)) : (tell t f : Act α Npc Unit).Touches Npc.Still :=
  touches_tell .refl hf

theorem touches_tell? {t : Target} {f : {δ : Type} → [Actor δ] → δ → Except Failure δ}
    (refl : ∀ n, R n n) (hf : ∀ {n n' : Npc}, f n = .ok n' → R n n') :
    (tell? t f : Act α Npc Unit).Touches R := by
  refine touches_change refl fun {s s'} h => ?_
  cases t with
  | u =>
    obtain ⟨u, -, rfl⟩ := Scene.tell?_u_eq_ok.1 h
    exact refl s.npc
  | npc =>
    obtain ⟨npc, hn, rfl⟩ := Scene.tell?_npc_eq_ok.1 h
    exact hf hn

theorem still_tell? {t : Target} {f : {δ : Type} → [Actor δ] → δ → Except Failure δ}
    (hf : ∀ {n n' : Npc}, f n = .ok n' → n.Still n') :
    (tell? t f : Act α Npc Unit).Touches Npc.Still := touches_tell? .refl hf

/-- What is done to the player leaves the other speaker as it is. -/
theorem untouched_tell?_u {f : {δ : Type} → [Actor δ] → δ → Except Failure δ} :
    (tell? .u f : Act α Npc Unit).Touches Eq := by
  refine touches_change (fun _ => rfl) fun h => ?_
  obtain ⟨u, -, rfl⟩ := Scene.tell?_u_eq_ok.1 h
  rfl

/-- A step on the other speaker first, then one on the player. -/
theorem touches_both {f f' : {δ : Type} → [Actor δ] → δ → Except Failure δ} (refl : ∀ n, R n n)
    (hf : ∀ {n n' : Npc}, f n = .ok n' → R n n') :
    (tell? .npc f >>= fun _ => tell? .u f' : Act α Npc Unit).Touches R :=
  (touches_tell? refl hf).bind_of (fun _ => untouched_tell?_u) id fun first same => same ▸ first

/-- Writing a variable does not stir the other speaker. -/
theorem still_write {var : Variable} {value : Option String} :
    (write var value : Act α Npc Unit).Touches Npc.Still := by
  refine touches_change .refl fun {s s'} h => ?_
  rcases Scene.write_cases h with ⟨globals, rfl⟩ | ⟨t, rfl⟩
  · exact .refl s.npc
  · cases t with
    | u => exact .refl s.npc
    | npc => cases value <;> exact .sheet s.npc _

end Act

end Parley
