import Parley.Actor.Npc
import Parley.Actor.Player
import Parley.Proofs.Operation
import Parley.Proofs.Visible

/-!
# The graph of topics

A registry without problems is closed: the topics to which the responses lead are defined. A
session over such a registry only ever enters topics that are defined, whatever is done with it and
whoever takes part, so there is always a topic to offer responses for.
-/

namespace Parley

namespace Registry

/-- A topic that responses may lead to: one with a meaning of its own, or one that is defined. -/
def Leads (r : Registry) (next : String) : Prop :=
  next = stayHere ∨ next = endTalk ∨ r.contains next = true

/-- What is reachable are the next topics, other than staying and ending. -/
theorem mem_reachable {r : Registry} {id next : String} {t : Topic} (ht : r.get? id = some t) :
    next ∈ r.reachable id ↔ next ∈ t.nextTopics ∧ next ≠ stayHere ∧ next ≠ endTalk := by
  unfold reachable
  rw [ht]
  simp [NameSet.mem_keys_ofNames]

/-- A registry has no problems just when every topic to which one leads directly is defined. -/
theorem problems_eq_nil_iff {r : Registry} :
    r.problems = [] ↔ ∀ id ∈ r.ids, ∀ next ∈ r.reachable id, r.contains next = true := by
  simp [problems, dangling]

/-- Without problems, every topic leads to one that is defined, stays or ends. -/
theorem leads_of_problems_eq_nil {r : Registry} (h : r.problems = []) {id next : String}
    {t : Topic} (ht : r.get? id = some t) (hn : next ∈ t.nextTopics) : r.Leads next := by
  by_cases hs : next = stayHere
  · exact .inl hs
  · by_cases he : next = endTalk
    · exact .inr (.inl he)
    · have known : id ∈ r.ids := Dict.mem_keys.2 ⟨t, ht⟩
      exact .inr (.inr (problems_eq_nil_iff.1 h id known next ((mem_reachable ht).2 ⟨hn, hs, he⟩)))

end Registry

/-- Without a trial there is nothing in which a response could fail. -/
theorem Trial.roll_success {α β : Type} [Actor α] [Actor β] {s : Scene α β} {t : Trial}
    {g : Generator} (h : t.isActive = false) : (t.roll s g).1.success = true := by
  have kind : t.kind = .none := by simpa [isActive] using h
  unfold roll chance
  rw [kind]
  rfl

namespace Session

variable {α β : Type} [Actor α] [Actor β] {s : Session α β} {r : Response}

/-- The topic of the outcome that was decided is one of those to which the response can lead. -/
theorem decided_mem_nextTopics : (s.decided r).nextTopic ∈ r.nextTopics := by
  unfold decided Response.outcome Response.nextTopics
  cases hs : (s.resolve r).1.success with
  | true => exact .head _
  | false =>
    cases ha : r.trial.isActive with
    | true => exact .tail _ (.head _)
    | false =>
      have : (s.resolve r).1.success = true := Trial.roll_success ha
      rw [hs] at this
      contradiction

/-- A response on offer leads where the farewell or a response of the topic leads. -/
theorem nextTopics_generate (h : r ∈ s.generate.responses) {next : String}
    (hn : next ∈ r.nextTopics) : next = endTalk ∨ ∃ t, s.topic? = some t ∧ next ∈ t.nextTopics := by
  rcases mem_generate h with rfl | ⟨t, ht, h⟩
  · exact .inl (List.mem_singleton.1 hn)
  · refine .inr ⟨t, ht, List.mem_flatMap.2 ?_⟩
    rcases h with h | ⟨template, ht, item, -, rfl⟩
    · exact ⟨r, List.mem_append_left _ h, hn⟩
    · exact ⟨template.response, List.mem_append_right _ (List.mem_map_of_mem ht), hn⟩

/-- All topics that were entered are defined, and the responses on offer lead to defined ones. -/
structure Grounded (s : Session α β) : Prop where
  entries : ∀ entry ∈ s.scene.entries, s.registry.contains entry.id = true
  responses : ∀ r ∈ s.responses, ∀ next ∈ r.nextTopics, s.registry.Leads next

namespace Grounded

omit [Actor α] [Actor β] in
theorem topic? (h : s.Grounded) : s.topic?.isSome = true :=
  h.entries s.scene.current (List.mem_append_right _ (.head _))

omit [Actor α] [Actor β] in
/-- Another session over the same registry, with the same topics entered and no new responses. -/
theorem of_eq {s' : Session α β} (h : s.Grounded) (registry : s'.registry = s.registry)
    (entries : s'.scene.entries = s.scene.entries) (responses : s'.responses ⊆ s.responses) :
    s'.Grounded where
  entries entry mem := by
    rw [entries] at mem
    rw [registry]
    exact h.entries entry mem
  responses r mem next hn := by
    rw [registry]
    exact h.responses r (responses mem) next hn

/-- Generating puts nothing but grounded responses on offer. -/
theorem generate (h : s.Grounded) (closed : s.registry.problems = []) : s.generate.Grounded := by
  obtain ⟨g, responses, hg⟩ := s.generate_eq
  have registry : s.generate.registry = s.registry := by rw [hg]; rfl
  constructor
  · rw [registry, hg]
    exact h.entries
  · intro r mem next hn
    rw [registry]
    rcases nextTopics_generate mem hn with rfl | ⟨t, ht, hn⟩
    · exact .inr (.inl rfl)
    · exact Registry.leads_of_problems_eq_nil closed ht hn

omit [Actor α] [Actor β] in
/-- A defined topic may be entered. -/
theorem enter (h : s.Grounded) {entry : Entry} (known : s.registry.contains entry.id = true) :
    (s.enter entry).Grounded := by
  constructor
  · intro e mem
    rw [s.entries_enter, List.mem_append, List.mem_singleton] at mem
    rcases mem with mem | rfl
    · exact h.entries e mem
    · exact known
  · exact h.responses

/-- The topic that is next after a choice is one to which the response leads, or the end. -/
theorem select (h : s.Grounded) (index : Nat) : (s.select index).2.Grounded := by
  cases hr : s.responses[index]? with
  | none => rwa [select_of_none hr]
  | some r =>
    have topics := (s.afterEffects_framed r).entries
    rcases select_cases hr with ⟨fault, -, hs⟩ | ⟨delta, next, scene, -, settled, hs⟩
    · rw [hs]
      exact h.of_eq rfl topics fun _ => id
    · have after : ({ (s.resolve r).2 with
          encounter := { s.afterEffects r with scene } } : Session α β).Grounded := by
        have same := (s.decided r).entries_settle delta (s.afterEffects r).scene
        rw [settled] at same
        exact h.of_eq rfl (same.trans topics) fun _ => id
      rw [hs]
      rcases goOn_cases r next
          { (s.resolve r).2 with encounter := { s.afterEffects r with scene } } with
        ⟨-, hg⟩ | ⟨-, hg⟩ | ⟨ends, stays, hg⟩
      · rw [hg]
        exact after.of_eq rfl rfl (List.nil_subset _)
      · rw [hg]
        exact after
      · rw [hg]
        refine after.enter ?_
        have leads : s.registry.Leads next := by
          have := (s.decided r).next_settle delta (s.afterEffects r).scene
          rw [settled] at this
          rcases this with rfl | rfl
          · exact .inr (.inl rfl)
          · exact h.responses r (List.mem_of_getElem? hr) _ decided_mem_nextTopics
        exact (leads.resolve_left stays).resolve_left ends

omit [Actor α] [Actor β] in
theorem setReason (h : s.Grounded) (reason : String) : (s.setReason reason).Grounded := by
  constructor
  · intro entry mem
    rcases List.mem_append.1 mem with mem | mem
    · exact h.entries entry (List.mem_append_left _ mem)
    · obtain rfl := List.mem_singleton.1 mem
      exact h.entries s.scene.current (List.mem_append_right _ (.head _))
  · exact h.responses

/-- Every operation but entering a topic from outside keeps the session within defined topics. -/
theorem perform (h : s.Grounded) (closed : s.registry.problems = []) {op : Operation}
    (stays : op.enters = false) : (op.perform s).Grounded := by
  cases op with
  | speak =>
    refine h.of_eq (Operation.registry_perform .speak s) s.applySpeakerEffects_framed.entries ?_
    obtain ⟨encounter, hs⟩ := s.applySpeakerEffects_eq
    change s.applySpeakerEffects.responses ⊆ s.responses
    rw [hs]
    exact fun _ => id
  | say =>
    obtain ⟨g, hs⟩ := s.line_eq
    change s.line.2.Grounded
    rw [hs]
    exact h.of_eq rfl rfl fun _ => id
  | generate => exact h.generate closed
  | choose index => exact h.select index
  | giveReason reason => exact h.setReason reason
  | attempt e => exact h.of_eq rfl (e.attempt_framed s.encounter).entries fun _ => id
  | offer | setRadio | takeHandoff => exact h.of_eq rfl rfl fun _ => id
  | enter entry => contradiction

end Grounded

/-- Over a registry without problems that defines the first topic, every topic that a session ever
enters is defined; so the topic that is talked about can always be looked up. -/
theorem entered_topics_defined (u : α) (npc : β) (globals : Dict String) (registry : Registry)
    (settings : TalkSettings) (entropy : UInt64) (generator : Generator) (ops : List Operation)
    (closed : registry.problems = []) (first : registry.contains settings.firstTopic = true)
    (stays : ∀ op ∈ ops, op.enters = false) :
    let s := performAll ops
      ((start u npc globals registry settings entropy).withGenerator generator)
    (∀ entry ∈ s.scene.entries, registry.contains entry.id = true) ∧ s.topic?.isSome = true := by
  intro s
  have fresh : ((start u npc globals registry settings entropy).withGenerator
      generator).Grounded := by
    constructor
    · intro entry mem
      obtain rfl := List.mem_singleton.1 mem
      exact first
    · intro r mem
      contradiction
  have run : s.registry = registry ∧ s.Grounded := by
    refine performAll_induction (P := fun s => s.registry = registry ∧ s.Grounded) ⟨rfl, fresh⟩ ?_
    rintro op mem s ⟨same, grounded⟩
    refine ⟨(Operation.registry_perform op s).trans same, ?_⟩
    exact grounded.perform (same ▸ closed) (stays op mem)
  obtain ⟨same, grounded⟩ := run
  exact ⟨same ▸ grounded.entries, grounded.topic?⟩

/-- A conversation that goes from a greeting to the news and stays there. -/
theorem greeting_then_news_defined :
    let registry := Registry.empty.insertAll
      [(Topic.new "GREET").withResponse (.leadingTo "What is new?" "NEWS"),
        (Topic.new "NEWS").withResponse (.leadingTo "Go on." stayHere)]
    let s := performAll [.speak, .generate, .choose 0, .generate, .choose 0]
      ((start (Player.ofSheet (.new "Bob")) (Npc.ofSheet (.new "Ann")) .empty registry
        { firstTopic := "GREET" } 0).withGenerator (.ofSeed 1))
    (∀ entry ∈ s.scene.entries, registry.contains entry.id = true) ∧ s.topic?.isSome = true := by
  intro registry s
  exact entered_topics_defined _ _ _ registry _ _ _ _ rfl rfl (by decide)

end Session

end Parley
