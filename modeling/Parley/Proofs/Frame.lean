import Parley.Conversation.Session
import Parley.Proofs.Steps

/-!
# What effects leave alone

Effects act on the two actors, the global variables and the request to hand over. The topics, the
list of missions taken on and the way in which the conversation is led stay as they are, whether
the effects succeed or fail.
-/

namespace Parley

variable {α β γ δ : Type}

/-- Two scenes agree in everything that effects leave alone. -/
structure Scene.Framed (s s' : Scene α β) : Prop where
  current : s'.current = s.current
  earlier : s'.earlier = s.earlier
  missionsAssigned : s'.missionsAssigned = s.missionsAssigned
  byRadio : s'.byRadio = s.byRadio

namespace Scene.Framed

variable {s s' s'' : Scene α β}

theorem refl (s : Scene α β) : s.Framed s := ⟨rfl, rfl, rfl, rfl⟩

theorem trans (h : s.Framed s') (h' : s'.Framed s'') : s.Framed s'' where
  current := h'.current.trans h.current
  earlier := h'.earlier.trans h.earlier
  missionsAssigned := h'.missionsAssigned.trans h.missionsAssigned
  byRadio := h'.byRadio.trans h.byRadio

/-- The topics entered so far are left alone. -/
theorem entries (h : s.Framed s') : s'.entries = s.entries := by
  unfold Scene.entries
  rw [h.current, h.earlier]

variable [Actor α] [Actor β]

theorem tell (s : Scene α β) (t : Target) (f : {δ : Type} → [Actor δ] → δ → δ) :
    s.Framed (s.tell t f) := by
  cases t <;> exact ⟨rfl, rfl, rfl, rfl⟩

theorem tell? {t : Target} {f : {δ : Type} → [Actor δ] → δ → Except Failure δ}
    (h : s.tell? t f = .ok s') : s.Framed s' := by
  cases t with
  | u =>
    obtain ⟨u, -, rfl⟩ := tell?_u_eq_ok.1 h
    exact ⟨rfl, rfl, rfl, rfl⟩
  | npc =>
    obtain ⟨npc, -, rfl⟩ := tell?_npc_eq_ok.1 h
    exact ⟨rfl, rfl, rfl, rfl⟩

theorem write {var : Variable} {value : Option String} (h : s.write var value = .ok s') :
    s.Framed s' := by
  rcases write_cases h with ⟨globals, rfl⟩ | ⟨t, rfl⟩
  · exact ⟨rfl, rfl, rfl, rfl⟩
  · exact .tell s t _

end Scene.Framed

namespace Act

/-- However the deed turns out, it leaves alone what effects leave alone. -/
def Stays (m : Act α β γ) : Prop := ∀ e : Encounter α β, e.scene.Framed (m.perform e).2.scene

variable {m : Act α β γ} {f : γ → Act α β δ}

/-- A deed that only looks stays within the frame. -/
theorem Looks.stays (hm : m.Looks) : m.Stays := by
  intro e
  rw [hm e]
  exact .refl e.scene

theorem Stays.bind (hm : m.Stays) (hf : ∀ a, (f a).Stays) : (m >>= f).Stays :=
  perform_bind_of (·.scene) hm hf id .trans

theorem stays_change {q : Scene α β → Except Failure (Scene α β)}
    (hq : ∀ {s s'}, q s = .ok s' → s.Framed s') : (change q).Stays :=
  perform_change_of id .refl hq

theorem stays_handOver {h : Handoff} : (handOver h : Act α β Unit).Stays := fun e =>
  .refl e.scene

variable [Actor α] [Actor β]

theorem stays_tell {t : Target} {f : {δ : Type} → [Actor δ] → δ → δ} :
    (tell t f : Act α β Unit).Stays := fun e => .tell e.scene t f

theorem stays_tell? {t : Target} {f : {δ : Type} → [Actor δ] → δ → Except Failure δ} :
    (tell? t f : Act α β Unit).Stays := stays_change .tell?

theorem stays_write {var : Variable} {value : Option String} :
    (write var value : Act α β Unit).Stays := stays_change .write

end Act

open Act in
/-- Each deed of an effect stays within the frame. -/
theorem EffectKind.Steps.stays [Actor α] [Actor β] {kind : EffectKind} {t : Target}
    {m : Act α β Unit} (h : kind.Steps t m) : m.Stays := by
  induction h with
  | peek first _ ih => exact first.looks.stays.bind ih
  | write => exact stays_write
  | tell | offerMission => exact stays_tell?
  | spendCash | action => exact stays_tell
  | buyItem => exact buy_of Looks.stays Stays.bind (fun _ _ => stays_tell) stays_tell?
  | sellItem =>
    exact sell_of Looks.stays Stays.bind (fun _ _ => stays_tell) stays_tell? fun _ => stays_tell?
  | assignMission | finishMission | addMission => exact stays_tell?.bind fun _ => stays_tell?
  | openDialogue => exact stays_handOver
  | takeControl => exact stays_tell?.bind fun _ => stays_handOver

/-- An effect leaves alone what effects leave alone, also if it fails. -/
theorem Effect.attempt_framed [Actor α] [Actor β] (e : Effect) (enc : Encounter α β) :
    enc.scene.Framed (e.attempt enc).2.scene := e.execute_steps.stays enc

/-- What every step of a sequence preserves holds after the sequence. -/
theorem forM_induction {σ ι : Type} {P : σ → Prop} {f : ι → StateM σ Unit} {l : List ι} {s : σ}
    (start : P s) (step : ∀ a ∈ l, ∀ s, P s → P (f a s).2) : P (l.forM f s).2 := by
  induction l generalizing s with
  | nil => exact start
  | cons a l ih => exact ih (step a (.head _) s start) fun b mem => step b (.tail _ mem)

section

variable [Actor α] [Actor β]

/-- A list of effects stays within the frame, those that fail included. -/
theorem attempts_framed (effects : List Effect) (enc : Encounter α β) :
    enc.scene.Framed (effects.forM Effect.attempt enc).2.scene := by
  refine forM_induction (P := fun enc' : Encounter α β => enc.scene.Framed enc'.scene)
    (.refl enc.scene) ?_
  intro e _ enc' h
  exact h.trans (e.attempt_framed enc')

theorem Outcome.carryOut_framed (o : Outcome) (enc : Encounter α β) :
    enc.scene.Framed (o.carryOut enc).scene := attempts_framed o.effects enc

end

/-- The scene after the other speaker has felt a change of opinion. -/
def Scene.feel [Actor β] (s : Scene α β) (delta : Opinion) : Scene α β :=
  if delta = .zero then s else { s with npc := Actor.addOpinion s.npc delta }

namespace Outcome

variable [Actor β]

/-- An outcome is settled by whether its opinion turns the other speaker hostile. -/
theorem settle_eq (o : Outcome) (delta : Opinion) (s : Scene α β) :
    o.settle delta s =
      if Actor.turnedHostile (s.feel delta).npc then
        (endTalk, { s.feel delta with npc := Actor.makeAngry (s.feel delta).npc })
      else (o.nextTopic, (s.feel delta).refreshMissions) := rfl

/-- The other speaker feels the change of opinion, if there is one. Having turned hostile, it gets
angry and ends the conversation; else the missions taken on are looked up. -/
theorem settle_cases (o : Outcome) (delta : Opinion) (s : Scene α β) :
    ∃ npc, (npc = s.npc ∨ npc = Actor.addOpinion s.npc delta) ∧
      (o.settle delta s = (endTalk, { s with npc := Actor.makeAngry npc }) ∨
        o.settle delta s = (o.nextTopic, { s with npc }.refreshMissions)) := by
  have felt : ∃ npc, (npc = s.npc ∨ npc = Actor.addOpinion s.npc delta) ∧
      s.feel delta = { s with npc } := by
    rw [Scene.feel]
    split
    · exact ⟨s.npc, .inl rfl, rfl⟩
    · exact ⟨_, .inr rfl, rfl⟩
  obtain ⟨npc, opinion, felt⟩ := felt
  refine ⟨npc, opinion, ?_⟩
  rw [settle_eq, felt]
  split
  · exact .inl rfl
  · exact .inr rfl

/-- The outcome refreshes the missions taken on, but leaves the topics alone. -/
theorem entries_settle (o : Outcome) (delta : Opinion) (s : Scene α β) :
    (o.settle delta s).2.entries = s.entries := by
  obtain ⟨npc, -, h | h⟩ := o.settle_cases delta s
  · exact congrArg (·.2.entries) h
  · exact congrArg (·.2.entries) h

/-- The topic that is next is the one of the outcome, or the end of the conversation. -/
theorem next_settle (o : Outcome) (delta : Opinion) (s : Scene α β) :
    (o.settle delta s).1 = endTalk ∨ (o.settle delta s).1 = o.nextTopic := by
  obtain ⟨npc, -, h | h⟩ := o.settle_cases delta s
  · exact .inl (congrArg Prod.fst h)
  · exact .inr (congrArg Prod.fst h)

end Outcome

namespace Session

variable [Actor α] [Actor β]

/-- Are speaker effects to be carried out: is their mark not set, and does their condition hold? -/
def isDue (e : SpeakerEffect) (enc : Encounter α β) : Bool :=
  !isMarked e enc.scene.npc && (holds enc.scene e.condition none enc.generator).1

variable {e : SpeakerEffect} {enc : Encounter α β}

theorem isDue_of_isMarked (marked : isMarked e enc.scene.npc = true) : isDue e enc = false := by
  rw [isDue, marked]
  rfl

/-- Speaker effects that are due are all attempted, and then marked. -/
theorem speak_of_due (due : isDue e enc = true) :
    ∃ g enc', enc' = (e.effects.forM Effect.attempt { enc with generator := g }).2 ∧
      (speak e enc).2 =
        { enc' with scene := { enc'.scene with npc := mark e enc'.scene.npc } } := by
  rw [isDue, Bool.and_eq_true, Bool.not_eq_true'] at due
  obtain ⟨unmarked, holding⟩ := due
  rw [speak, unmarked]
  rcases h : holds enc.scene e.condition none enc.generator with ⟨due, g⟩
  rw [h] at holding
  obtain rfl : due = true := holding
  exact ⟨g, _, rfl, rfl⟩

/-- Speaker effects that are not due are passed over. -/
theorem speak_of_not_due (due : isDue e enc = false) :
    ∃ g, (speak e enc).2 = { enc with generator := g } := by
  rw [speak]
  cases marked : isMarked e enc.scene.npc with
  | true => exact ⟨_, rfl⟩
  | false =>
    rw [isDue, marked] at due
    rcases h : holds enc.scene e.condition none enc.generator with ⟨due', g⟩
    rw [h] at due
    obtain rfl : due' = false := due
    exact ⟨g, rfl⟩

/-- Speaker effects are passed over, or they are all attempted and then marked. -/
theorem speak_cases (e : SpeakerEffect) (enc : Encounter α β) : ∃ g,
    (speak e enc).2 = { enc with generator := g } ∨
    ∃ enc', enc' = (e.effects.forM Effect.attempt { enc with generator := g }).2 ∧
      (speak e enc).2 =
        { enc' with scene := { enc'.scene with npc := mark e enc'.scene.npc } } := by
  cases due : isDue e enc with
  | false =>
    obtain ⟨g, passed⟩ := speak_of_not_due due
    exact ⟨g, .inl passed⟩
  | true =>
    obtain ⟨g, enc', attempted, spoken⟩ := speak_of_due due
    exact ⟨g, .inr ⟨enc', attempted, spoken⟩⟩

/-- Speaker effects stay within the frame, due or not. -/
theorem speak_framed (e : SpeakerEffect) (enc : Encounter α β) :
    enc.scene.Framed (speak e enc).2.scene := by
  obtain ⟨g, h | ⟨enc', rfl, h⟩⟩ := speak_cases e enc
  · rw [h]
    exact .refl enc.scene
  · rw [h]
    exact (attempts_framed e.effects { enc with generator := g }).trans ⟨rfl, rfl, rfl, rfl⟩

theorem applySpeakerEffects_framed (s : Session α β) :
    s.scene.Framed s.applySpeakerEffects.scene := by
  unfold applySpeakerEffects
  split
  · refine forM_induction (P := fun enc : Encounter α β => s.scene.Framed enc.scene)
      (.refl s.scene) ?_
    intro e _ enc h
    exact h.trans (speak_framed e enc)
  · exact .refl s.scene

omit [Actor α] in
theorem note_framed (r : Response) (s : Scene α β) : s.Framed (note r s) := ⟨rfl, rfl, rfl, rfl⟩

omit [Actor β] in
theorem learn_framed (r : Response) (roll : Roll) (s : Scene α β) : s.Framed (learn r roll s) := by
  unfold learn
  split <;> exact ⟨rfl, rfl, rfl, rfl⟩

end Session

end Parley
