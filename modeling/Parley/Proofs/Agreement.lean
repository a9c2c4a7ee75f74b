import Parley.Proofs.Attempts
import Parley.Proofs.Move

/-!
# Agreement on missions

The player keeps a set of missions taken on, the other speaker a board on which each mission has a
status. The two agree when the missions taken on are those assigned on the board. No effect breaks
the agreement, be it by success or by failure, so a session that starts with it keeps it.
-/

namespace Parley

/-! ### The two stores -/

/-- The missions in a set are those that are assigned on the board of a speaker. -/
def Agree (active : NameSet) (n : Npc) : Prop :=
  ∀ id, active.contains id = true ↔ id ∈ n.missionsWith .assigned

/-- Putting a mission on the board decides about its own id only. -/
theorem Npc.mem_missionsWith_insert {n : Npc} {id id' : String} {mission : Mission}
    {status : MissionStatus} :
    id' ∈ ({ n with missions := n.missions.insert id mission } : Npc).missionsWith status ↔
      if id' = id then mission.status = status else id' ∈ n.missionsWith status := by
  rw [mem_missionsWith, mem_missionsWith]
  dsimp only
  rw [Dict.get?_insert]
  split <;> simp

namespace Agree

variable {active : NameSet} {n n' : Npc} {id : String}

theorem of_missions_eq (h : Agree active n) (same : n'.missions = n.missions) :
    Agree active n' := by
  intro id
  rw [h id, Npc.mem_missionsWith, Npc.mem_missionsWith, same]

/-- A mission is active for the player from the moment it is assigned. -/
theorem assign (h : Agree active n) (assigned : n.setStatus id .assigned = .ok n') :
    Agree (active.add id) n' := by
  obtain ⟨mission, -, rfl⟩ := Npc.setStatus_eq_ok.1 assigned
  intro id'
  rw [NameSet.add, Dict.contains_insert, Npc.mem_missionsWith_insert, h id']
  split <;> simp [*]

/-- A mission that is closed is not assigned any more, so it must not be active either. -/
theorem finish (h : Agree active n) {success : Bool}
    (closed : n.finishMission id success = .ok n') : Agree (active.erase id) n' := by
  obtain ⟨mission, -, rfl⟩ := Npc.finishMission_eq_ok.1 closed
  refine of_missions_eq (n := { n with
    missions := n.missions.insert id { mission with status := Npc.finalStatus success } }) ?_ rfl
  intro id'
  rw [Dict.contains_erase, Npc.mem_missionsWith_insert, h id']
  have := Npc.finalStatus_ne_assigned success
  split <;> simp [*]

/-- Closing a mission that the player has not taken on leaves the agreement as it is. -/
theorem half_finish (h : Agree active n) {success : Bool}
    (closed : n.finishMission id success = .ok n') (idle : active.contains id = false) :
    Agree active n' := by
  intro id'
  rw [← h.finish closed id', Dict.contains_erase]
  constructor
  · intro has
    refine ⟨?_, has⟩
    rintro rfl
    rw [idle] at has
    contradiction
  · exact And.right

/-- An offer puts a mission on the board that nobody has taken on. -/
theorem offer (h : Agree active n) (offered : n.offerMission id = .ok n') : Agree active n' := by
  obtain ⟨value, -, rfl⟩ := Npc.offerMission_eq_ok.1 offered
  split
  · exact h
  · rename_i unknown
    intro id'
    rw [Npc.mem_missionsWith_insert, h id']
    split
    · rename_i same
      subst same
      constructor
      · intro assigned
        obtain ⟨mission, found, -⟩ := Npc.mem_missionsWith.1 assigned
        exact absurd (Dict.contains_iff.2 ⟨mission, found⟩) unknown
      · nofun
    · rfl

end Agree

/-! ### Changes that do not concern missions -/

theorem Player.activeMissions_of_map {x : Except Failure Sheet} {p p' : Player}
    (h : x.map (fun sheet => { p with sheet }) = .ok p') :
    p'.activeMissions = p.activeMissions := by
  obtain ⟨sheet, -, rfl⟩ := map_eq_ok.1 h
  rfl

theorem Npc.missions_of_map {x : Except Failure Sheet} {n n' : Npc}
    (h : x.map (fun sheet => { n with sheet }) = .ok n') : n'.missions = n.missions := by
  obtain ⟨sheet, -, rfl⟩ := map_eq_ok.1 h
  rfl

namespace Scene

/-- The player and the other speaker agree on the missions. -/
def MissionsAgree (s : Scene Player Npc) : Prop := Agree s.u.activeMissions s.npc

/-- Where they agree in one scene, they agree in another one. -/
def KeepsAgreement (s s' : Scene Player Npc) : Prop := s.MissionsAgree → s'.MissionsAgree

namespace MissionsAgree

variable {s s' : Scene Player Npc} {t : Target}

theorem tell {f : {δ : Type} → [Actor δ] → δ → δ} (h : s.MissionsAgree)
    (hu : ∀ p : Player, (f p).activeMissions = p.activeMissions)
    (hn : ∀ n : Npc, (f n).missions = n.missions) : (s.tell t f).MissionsAgree := by
  cases t with
  | u =>
    change Agree (f s.u).activeMissions s.npc
    rw [hu]
    exact h
  | npc => exact h.of_missions_eq (hn s.npc)

theorem tell? {f : {δ : Type} → [Actor δ] → δ → Except Failure δ} (h : s.MissionsAgree)
    (hu : ∀ {p p' : Player}, f p = .ok p' → p'.activeMissions = p.activeMissions)
    (hn : ∀ {n n' : Npc}, f n = .ok n' → n'.missions = n.missions)
    (told : s.tell? t f = .ok s') : s'.MissionsAgree := by
  cases t with
  | u =>
    obtain ⟨u, hf, rfl⟩ := tell?_u_eq_ok.1 told
    change Agree u.activeMissions s.npc
    rw [hu hf]
    exact h
  | npc =>
    obtain ⟨npc, hf, rfl⟩ := tell?_npc_eq_ok.1 told
    exact h.of_missions_eq (hn hf)

theorem write {var : Variable} {value : Option String} (h : s.MissionsAgree)
    (written : s.write var value = .ok s') : s'.MissionsAgree := by
  rcases write_cases written with ⟨globals, rfl⟩ | ⟨t, rfl⟩
  · exact h
  · cases value with
    | none => exact h.tell (fun _ => rfl) fun _ => rfl
    | some value => exact h.tell (fun _ => rfl) fun _ => rfl

end MissionsAgree

end Scene

/-! ### Effects -/

namespace Act

variable {γ δ : Type} {m : Act Player Npc γ} {f : γ → Act Player Npc δ}

/-- However the deed turns out, the two still agree if they did before. -/
def Agrees (m : Act Player Npc γ) : Prop :=
  ∀ e : Encounter Player Npc, e.scene.KeepsAgreement (m.perform e).2.scene

theorem Looks.agrees (hm : m.Looks) : m.Agrees := by
  intro e h
  rw [hm e]
  exact h

theorem Agrees.bind (hm : m.Agrees) (hf : ∀ a, (f a).Agrees) : (m >>= f).Agrees :=
  perform_bind_of (·.scene) hm hf id fun first second h => second (first h)

/-- A change of the scene keeps agreement if its successes do; where it fails it changes nothing. -/
theorem agrees_change {q : Scene Player Npc → Except Failure (Scene Player Npc)}
    (hq : ∀ {s s'}, q s = .ok s' → s.KeepsAgreement s') : (change q).Agrees :=
  perform_change_of id (fun _ => id) hq

theorem agrees_tell {t : Target} {f : {δ : Type} → [Actor δ] → δ → δ}
    (hu : ∀ p : Player, (f p).activeMissions = p.activeMissions)
    (hn : ∀ n : Npc, (f n).missions = n.missions) : (tell t f : Act Player Npc Unit).Agrees :=
  fun _ h => h.tell hu hn

theorem agrees_tell? {t : Target} {f : {δ : Type} → [Actor δ] → δ → Except Failure δ}
    (hu : ∀ {p p' : Player}, f p = .ok p' → p'.activeMissions = p.activeMissions)
    (hn : ∀ {n n' : Npc}, f n = .ok n' → n'.missions = n.missions) :
    (tell? t f : Act Player Npc Unit).Agrees := agrees_change fun told h => h.tell? hu hn told

/-- Both are told: the other speaker changes its board, and the player follows or refuses. -/
theorem agrees_both {f f' : {δ : Type} → [Actor δ] → δ → Except Failure δ}
    (both : ∀ {p p' : Player} {n n' : Npc}, Agree p.activeMissions n → f n = .ok n' →
      f' p = .ok p' → Agree p'.activeMissions n')
    (half : ∀ {p : Player} {n n' : Npc} {failure : Failure}, Agree p.activeMissions n →
      f n = .ok n' → f' p = .error failure → Agree p.activeMissions n') :
    (tell? .npc f >>= fun _ => tell? .u f' : Act Player Npc Unit).Agrees := by
  intro e h
  rcases perform_both_cases f f' e with same | ⟨npc, hn, ⟨_, hu, failed⟩ | ⟨u, hu, done⟩⟩
  · rw [same]
    exact h
  · rw [failed]
    exact half h hn hu
  · rw [done]
    exact both h hn hu

end Act

open Act in
/-- Every effect keeps the agreement. Four kinds move a mission; the others change what has nothing
to do with missions. -/
theorem EffectKind.Steps.agrees {kind : EffectKind} {t : Target} {m : Act Player Npc Unit}
    (h : kind.Steps t m) : m.Agrees := by
  induction h with
  | peek first _ ih => exact first.looks.agrees.bind ih
  | write => exact agrees_change fun written h => h.write written
  | tell told =>
    exact agrees_tell? (fun h => (told.player h).2) fun h => (told.npc h).2.missions
  | spendCash => exact agrees_tell (fun _ => rfl) fun _ => rfl
  | buyItem =>
    refine buy_of Looks.agrees Agrees.bind (fun _ _ => agrees_tell (fun _ => rfl) fun _ => rfl) ?_
    exact agrees_tell? Player.activeMissions_of_map Npc.missions_of_map
  | sellItem =>
    refine sell_of Looks.agrees Agrees.bind (fun _ _ => agrees_tell (fun _ => rfl) fun _ => rfl)
      ?_ fun _ => ?_
    all_goals exact agrees_tell? Player.activeMissions_of_map Npc.missions_of_map
  | assignMission =>
    refine agrees_both (fun h hn hu => ?_) fun _ _ hu => by contradiction
    obtain rfl := Except.ok.inj hu
    exact h.assign hn
  | finishMission =>
    refine agrees_both (fun h hn hu => ?_) fun h hn hu => ?_
    · obtain ⟨-, rfl⟩ := Player.finishMission_eq_ok.1 hu
      exact h.finish hn
    · exact h.half_finish hn (Player.finishMission_eq_error.1 hu).1
  | addMission =>
    refine agrees_both (fun h hn hu => ?_) fun _ _ hu => by contradiction
    obtain rfl := Except.ok.inj hu
    obtain ⟨n, offered, assigned⟩ := Npc.addMission_eq_ok.1 hn
    exact (h.offer offered).assign assigned
  | @offerMission mission t =>
    refine agrees_change fun offered h => ?_
    cases t with
    | u =>
      obtain ⟨u, hu, -⟩ := Scene.tell?_u_eq_ok.1 offered
      contradiction
    | npc =>
      obtain ⟨npc, hn, rfl⟩ := Scene.tell?_npc_eq_ok.1 offered
      exact Agree.offer h hn
  | openDialogue => exact fun _ => id
  | takeControl told =>
    refine Agrees.bind ?_ fun _ _ => id
    exact agrees_tell? (fun h => (told.player h).2) fun h => (told.npc h).2.missions
  | action => exact agrees_tell (fun _ => rfl) fun n => n.missions_performAction _

/-! ### Sessions -/

/-- Neither looking nor choosing moves a mission out of agreement, whatever is tried. -/
theorem Scene.MissionsAgree.move {s s' : Scene Player Npc} (h : s.MissionsAgree)
    (moved : s.Move s') : s'.MissionsAgree := by
  cases moved with
  | attempt e enc => exact e.execute_steps.agrees enc h
  | mark e s =>
    refine h.of_missions_eq ?_
    unfold Session.mark
    split <;> rfl
  | note r s =>
    refine h.of_missions_eq ?_
    unfold Session.note
    dsimp only
    split <;> split <;> rfl
  | learn r roll s =>
    unfold Session.learn
    split <;> exact h
  | settle o delta s =>
    unfold Outcome.settle
    dsimp only
    split <;> split <;> exact h.of_missions_eq rfl
  | enter | giveReason | setRadio => exact h

/-- A player and another speaker who agree on the missions still agree after any operations on a
session between them, single effects that are carried out or fail among them. -/
theorem Session.missions_agree (s : Session Player Npc) (ops : List Operation)
    (start : ∀ id, s.scene.u.activeMissions.contains id = true ↔
      id ∈ s.scene.npc.missionsWith .assigned) :
    let s' := performAll ops s
    ∀ id, s'.scene.u.activeMissions.contains id = true ↔
      id ∈ s'.scene.npc.missionsWith .assigned := by
  intro s'
  have run : s'.scene.MissionsAgree :=
    (Session.moves_performAll ops s).preserves (fun moved h => h.move moved) start
  exact run

/-- Both still agree after the same mission has been finished twice. -/
theorem Session.missions_agree_finished_twice :
    let npc : Npc := { Npc.ofSheet (.new "Ann") with
      missions := Dict.empty.insert "rats" ⟨5, .assigned⟩ }
    let u : Player := { Player.ofSheet (.new "Bob") with activeMissions := NameSet.add .empty "rats" }
    let finish : Operation := .attempt ⟨.finishMission "rats" true, .u⟩
    let s := performAll [.speak, finish, .generate, .choose 0, finish]
      (start u npc .empty .empty {} 0)
    ∀ id, s.scene.u.activeMissions.contains id = true ↔
      id ∈ s.scene.npc.missionsWith .assigned := by
  intro npc u finish s
  refine missions_agree _ _ fun id => ?_
  change (NameSet.add .empty "rats").contains id = true ↔ id ∈ ["rats"]
  rw [NameSet.add, Dict.contains_insert]
  simp [Dict.contains]

end Parley
