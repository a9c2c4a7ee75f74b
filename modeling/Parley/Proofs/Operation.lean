import Mathlib.Logic.Relation
import Parley.Conversation.Offer
import Parley.Proofs.Frame

/-!
# Operations on a session

What can be done with a session, as data: a run is a list of operations that are performed one
after the other. Seen from the actors and the topics, a run is a sequence of moves, each of which
is one small change of the scene; what every move preserves holds after every run.
-/

namespace Parley

/-! ### Operations -/

/-- Something that can be done with a session. -/
inductive Operation where
  /-- Carry out the speaker effects of the topic. -/
  | speak
  /-- Work out the line of the topic. -/
  | say
  /-- Offer the responses of the topic. -/
  | generate
  /-- Work out how the responses are shown. -/
  | offer
  /-- Choose a response. -/
  | choose (index : Nat)
  /-- Give a reason for talking about the topic. -/
  | giveReason (reason : String)
  | setRadio (byRadio : Bool)
  | takeHandoff
  /-- Carry out an effect from outside. -/
  | attempt (e : Effect)
  /-- Enter a topic from outside. -/
  | enter (entry : Entry)

namespace Operation

variable {α β : Type} [Actor α] [Actor β]

/-- Does an operation enter a topic without a response that leads there? -/
def enters : Operation → Bool
  | .enter _ => true
  | _ => false

/-- The session after an operation, also if a fault breaks the operation off. -/
def perform (op : Operation) (s : Session α β) : Session α β :=
  match op with
  | .speak => s.applySpeakerEffects
  | .say => s.line.2
  | .generate => s.generate
  | .offer => s.offers.2
  | .choose index => (s.select index).2
  | .giveReason reason => s.setReason reason
  | .setRadio byRadio => s.overRadio byRadio
  | .takeHandoff => s.takeHandoff.2
  | .attempt e => { s with encounter := (e.attempt s.encounter).2 }
  | .enter entry => s.enter entry

/-- The fault by which an operation is broken off, if it is. -/
def fault? (op : Operation) (s : Session α β) : Option Fault :=
  match op with
  | .choose index => match (s.select index).1 with
    | .ok _ => none
    | .error fault => some fault
  | _ => none

end Operation

namespace Session

variable {α β : Type}

/-- The session with the random generator in another state. -/
def withGenerator (s : Session α β) (generator : Generator) : Session α β :=
  { s with encounter := { s.encounter with generator } }

variable [Actor α] [Actor β]

/-- The session after operations in order. -/
def performAll (ops : List Operation) (s : Session α β) : Session α β :=
  ops.foldl (fun s op => op.perform s) s

/-- What every operation of a run preserves holds after the run. -/
theorem performAll_induction {P : Session α β → Prop} {ops : List Operation} {s : Session α β}
    (start : P s) (step : ∀ op ∈ ops, ∀ s : Session α β, P s → P (op.perform s)) :
    P (performAll ops s) := by
  induction ops generalizing s with
  | nil => exact start
  | cons op ops ih =>
    refine ih (step op (.head _) s start) fun op' mem => ?_
    exact step op' (.tail _ mem)

/-- A run may be interrupted anywhere. -/
theorem performAll_append (ops ops' : List Operation) (s : Session α β) :
    performAll (ops ++ ops') s = performAll ops' (performAll ops s) := List.foldl_append

/-- What `record` notes down about the operations of a run, one after the other. -/
def during {γ : Type} (record : Operation → Session α β → List γ) :
    List Operation → Session α β → List γ
  | [], _ => []
  | op :: ops, s => record op s ++ during record ops (op.perform s)

/-- What is recorded during a run is recorded part by part. -/
theorem during_append {γ : Type} (record : Operation → Session α β → List γ)
    (ops ops' : List Operation) (s : Session α β) :
    during record (ops ++ ops') s =
      during record ops s ++ during record ops' (performAll ops s) := by
  induction ops generalizing s with
  | nil => rfl
  | cons op ops ih =>
    change record op s ++ during record (ops ++ ops') (op.perform s) = _
    rw [ih, ← List.append_assoc]
    rfl

/-! ### What operations do to a session -/

theorem line_eq (s : Session α β) : ∃ g, s.line.2 = s.withGenerator g := by
  unfold line
  split
  · simp only [drawing]
    split <;> exact ⟨_, rfl⟩
  · exact ⟨_, rfl⟩

/-- Generating changes nothing but the generator and the responses. -/
theorem generate_eq (s : Session α β) :
    ∃ g responses, s.generate = { s.withGenerator g with responses } := by
  unfold generate
  split
  · exact ⟨_, _, rfl⟩
  · exact ⟨_, _, rfl⟩

/-- Speaker effects act on the encounter alone. -/
theorem applySpeakerEffects_eq (s : Session α β) :
    ∃ encounter, s.applySpeakerEffects = { s with encounter } := by
  unfold applySpeakerEffects
  split <;> exact ⟨_, rfl⟩

/-- The outcome to which a response leads. -/
def decided (s : Session α β) (r : Response) : Outcome := r.outcome (s.resolve r).1.success

/-- The encounter after the effects of the outcome to which a response leads. -/
def afterEffects (s : Session α β) (r : Response) : Encounter α β :=
  (s.decided r).carryOut (s.resolve r).2.encounter

/-- Up to the effects of its outcome a choice leaves the topics alone. -/
theorem afterEffects_framed (s : Session α β) (r : Response) :
    s.scene.Framed (s.afterEffects r).scene := by
  have noted := note_framed r s.scene
  have learnt := learn_framed r (s.resolve r).1 (note r s.scene)
  exact (noted.trans learnt).trans ((s.decided r).carryOut_framed (s.resolve r).2.encounter)

/-- Choosing a response ends in a fault, with the effects carried out, or goes on to the topic that
its outcome says or to the end. -/
theorem select_cases {s : Session α β} {index : Nat} {r : Response}
    (h : s.responses[index]? = some r) :
    (∃ fault,
      (s.decided r).opinionChange (Actor.selectedMissionValue (s.afterEffects r).scene.npc) =
        .error fault ∧
      s.select index = (.error fault, { (s.resolve r).2 with encounter := s.afterEffects r })) ∨
    ∃ delta next scene,
      (s.decided r).opinionChange (Actor.selectedMissionValue (s.afterEffects r).scene.npc) =
        .ok delta ∧
      (s.decided r).settle delta (s.afterEffects r).scene = (next, scene) ∧
      s.select index = (.ok next, goOn r next
        { (s.resolve r).2 with encounter := { s.afterEffects r with scene } }) := by
  cases ho : (s.decided r).opinionChange
      (Actor.selectedMissionValue (s.afterEffects r).scene.npc) with
  | error fault =>
    refine .inl ⟨fault, rfl, ?_⟩
    simp only [decided, afterEffects] at ho ⊢
    simp only [select, h, Outcome.apply, ho]
  | ok delta =>
    refine .inr ⟨delta, ((s.decided r).settle delta (s.afterEffects r).scene).1,
      ((s.decided r).settle delta (s.afterEffects r).scene).2, rfl, rfl, ?_⟩
    simp only [decided, afterEffects] at ho ⊢
    simp only [select, h, Outcome.apply, ho]

/-- A choice beyond the responses breaks the conversation off and changes nothing. -/
theorem select_of_none {s : Session α β} {index : Nat} (h : s.responses[index]? = none) :
    s.select index = (.error (.noSuchResponse index s.responses.length), s) := by
  unfold select
  rw [h]

omit [Actor α] [Actor β] in
/-- Going on ends the conversation, stays on the topic, or enters the one that is next. -/
theorem goOn_cases (r : Response) (next : String) (s : Session α β) :
    (next = endTalk ∧ s.goOn r next = { s with done := true, responses := [] }) ∨
    (next = stayHere ∧ s.goOn r next = s) ∨
    (next ≠ endTalk ∧ next ≠ stayHere ∧
      s.goOn r next = s.enter { id := next, item := r.item }) := by
  unfold goOn
  by_cases he : next = endTalk
  · exact .inl ⟨he, if_pos he⟩
  · by_cases hs : next = stayHere
    · exact .inr (.inl ⟨hs, by rw [if_neg he, if_pos hs]⟩)
    · exact .inr (.inr ⟨he, hs, by rw [if_neg he, if_neg hs]⟩)

omit [Actor α] [Actor β] in
theorem entries_enter (s : Session α β) (entry : Entry) :
    (s.enter entry).scene.entries = s.scene.entries ++ [entry] := by
  simp [enter, withScene, scene, Scene.entries]

omit [Actor α] [Actor β] in
/-- The topic that is talked about is the last one that was entered. -/
theorem current_of_entries {s : Scene α β} {earlier : List Entry} {entry : Entry}
    (h : s.entries = earlier ++ [entry]) : s.current = entry :=
  List.head_eq_of_cons_eq (List.append_inj_right' h rfl)

omit [Actor α] [Actor β] in
/-- Going on leaves a part of the session alone if both the end of the talk and the start of a new
topic do. -/
theorem goOn_keeps {γ : Type} (part : Session α β → γ) (r : Response) (next : String)
    (s : Session α β) (ends : part { s with done := true, responses := [] } = part s)
    (enters : ∀ entry, part (s.enter entry) = part s) : part (s.goOn r next) = part s := by
  rcases goOn_cases r next s with ⟨-, hg⟩ | ⟨-, hg⟩ | ⟨-, -, hg⟩
  · rw [hg, ends]
  · rw [hg]
  · rw [hg, enters]

omit [Actor α] [Actor β] in
/-- Going on to the next topic does nothing to the other speaker. -/
theorem npc_goOn (r : Response) (next : String) (s : Session α β) :
    (s.goOn r next).scene.npc = s.scene.npc :=
  goOn_keeps (·.scene.npc) r next s rfl fun _ => rfl

/-- What a choice does to the topics: a fault leaves them alone, and so do the end and a stay; to go
on enters one more, which is about the item of the response and has no reason yet. -/
theorem select_entries {s : Session α β} {index : Nat} {r : Response}
    (h : s.responses[index]? = some r) :
    (∃ fault,
      (s.decided r).opinionChange (Actor.selectedMissionValue (s.afterEffects r).scene.npc) =
        .error fault ∧
      (s.select index).1 = .error fault ∧
      (s.select index).2.scene.entries = s.scene.entries) ∨
    ∃ next, (s.select index).1 = .ok next ∧
      (next = endTalk ∧ (s.select index).2.done = true ∧ (s.select index).2.responses = [] ∧
        (s.select index).2.scene.entries = s.scene.entries ∨
      next = stayHere ∧ (s.select index).2.done = s.done ∧
        (s.select index).2.scene.entries = s.scene.entries ∨
      next ≠ endTalk ∧ next ≠ stayHere ∧ (s.select index).2.done = s.done ∧
        (s.select index).2.scene.entries =
          s.scene.entries ++ [{ id := next, item := r.item, reason := "" }]) := by
  have topics := (s.afterEffects_framed r).entries
  rcases select_cases h with ⟨fault, overflow, hs⟩ | ⟨delta, next, scene, -, settled, hs⟩
  · rw [hs]
    exact .inl ⟨fault, overflow, rfl, topics⟩
  · have same := (s.decided r).entries_settle delta (s.afterEffects r).scene
    rw [settled] at same
    have kept : scene.entries = s.scene.entries := same.trans topics
    rw [hs]
    refine .inr ⟨next, rfl, ?_⟩
    rcases goOn_cases r next
        { (s.resolve r).2 with encounter := { s.afterEffects r with scene } } with
      ⟨ends, hg⟩ | ⟨stays, hg⟩ | ⟨on, goes, hg⟩
    · rw [hg]
      exact .inl ⟨ends, rfl, rfl, kept⟩
    · rw [hg]
      exact .inr (.inl ⟨stays, rfl, kept⟩)
    · rw [hg]
      refine .inr (.inr ⟨on, goes, rfl, ?_⟩)
      rw [entries_enter]
      exact congrArg (· ++ [_]) kept

theorem registry_select (s : Session α β) (index : Nat) :
    (s.select index).2.registry = s.registry := by
  cases h : s.responses[index]? with
  | none => rw [select_of_none h]
  | some r =>
    rcases select_cases h with ⟨fault, -, hs⟩ | ⟨delta, next, scene, -, -, hs⟩
    · rw [hs]
      rfl
    · rw [hs]
      exact goOn_keeps (·.registry) r next _ rfl fun _ => rfl

/-- A choice offers no new responses. -/
theorem responses_select (s : Session α β) (index : Nat) :
    (s.select index).2.responses ⊆ s.responses := by
  cases h : s.responses[index]? with
  | none => rw [select_of_none h]; exact List.Subset.refl _
  | some r =>
    rcases select_cases h with ⟨fault, -, hs⟩ | ⟨delta, next, scene, -, -, hs⟩
    · rw [hs]
      exact List.Subset.refl _
    · rw [hs]
      rcases goOn_cases r next
          { (s.resolve r).2 with encounter := { s.afterEffects r with scene } } with
        ⟨-, hg⟩ | ⟨-, hg⟩ | ⟨-, -, hg⟩ <;> rw [hg]
      · exact List.nil_subset _
      · exact List.Subset.refl _
      · exact List.Subset.refl _

end Session

/-- No operation changes the topics that are defined. -/
theorem Operation.registry_perform {α β : Type} [Actor α] [Actor β] (op : Operation)
    (s : Session α β) : (op.perform s).registry = s.registry := by
  cases op with
  | speak =>
    obtain ⟨encounter, h⟩ := s.applySpeakerEffects_eq
    change s.applySpeakerEffects.registry = s.registry
    rw [h]
  | say =>
    obtain ⟨g, h⟩ := s.line_eq
    change s.line.2.registry = s.registry
    rw [h]
    rfl
  | generate =>
    obtain ⟨g, responses, h⟩ := s.generate_eq
    change s.generate.registry = s.registry
    rw [h]
    rfl
  | choose index => exact s.registry_select index
  | offer | giveReason | setRadio | takeHandoff | attempt | enter => rfl

/-- Only to offer the responses of a topic brings new ones. -/
theorem Operation.responses_perform {α β : Type} [Actor α] [Actor β] (op : Operation)
    (s : Session α β) : (op.perform s).responses ⊆ s.responses ∨ op = .generate := by
  cases op with
  | generate => exact .inr rfl
  | speak =>
    obtain ⟨encounter, h⟩ := s.applySpeakerEffects_eq
    left
    change s.applySpeakerEffects.responses ⊆ s.responses
    rw [h]
    exact List.Subset.refl _
  | say =>
    obtain ⟨g, h⟩ := s.line_eq
    left
    change s.line.2.responses ⊆ s.responses
    rw [h]
    exact List.Subset.refl _
  | choose index => exact .inl (s.responses_select index)
  | offer | giveReason | setRadio | takeHandoff | attempt | enter =>
    exact .inl (List.Subset.refl _)

/-- Nothing that is done to a session changes its registry. -/
theorem Session.registry_performAll {α β : Type} [Actor α] [Actor β] (ops : List Operation)
    (s : Session α β) : (performAll ops s).registry = s.registry := by
  refine performAll_induction (P := fun s' : Session α β => s'.registry = s.registry) rfl ?_
  intro op _ s' same
  exact (op.registry_perform s').trans same

end Parley
