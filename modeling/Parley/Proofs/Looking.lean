import Mathlib.Data.List.Forall2
import Parley.Actor.Npc
import Parley.Actor.Player
import Parley.Proofs.Operation
import Parley.Proofs.Steady
import Parley.Proofs.Visible

/-!
# Looking does not change the conversation

Between entering a topic and choosing a response one can work out lines, offer the responses, see
how they are shown and ask for the best way out. Over content without ranges none of this changes
anything but the responses on offer, and those come out the same each time. So it does not matter
to the rest of a conversation how often, and in which order, one looks.
-/

namespace Parley

theorem Registry.rangeFree_get? {r : Registry} (h : r.rangeFree = true) {id : String} {t : Topic}
    (ht : r.get? id = some t) : t.rangeFree = true := by
  have mem : t ∈ r.topics.values := List.mem_map_of_mem (Dict.get?_eq_some_iff.1 ht)
  exact List.all_eq_true.1 h t mem

namespace Session

variable {α β : Type} [Actor α] [Actor β] {s : Session α β}

/-- No range stands in the conditions of the topics and of the responses on offer. -/
structure RangeFree (s : Session α β) : Prop where
  registry : s.registry.rangeFree = true
  responses : ∀ r ∈ s.responses, r.rangeFree = true

omit [Actor α] [Actor β] in
theorem RangeFree.topic? (h : s.RangeFree) {t : Topic} (ht : s.topic? = some t) :
    t.rangeFree = true := Registry.rangeFree_get? h.registry ht

/-- The farewell and the responses of a topic without ranges have none. -/
theorem RangeFree.generate (h : s.RangeFree) : s.generate.RangeFree := by
  refine ⟨(Operation.registry_perform .generate s).symm ▸ h.registry, fun r mem => ?_⟩
  rcases mem_generate mem with rfl | ⟨t, ht, mem⟩
  · rfl
  · have free := h.topic? ht
    simp only [Topic.rangeFree, Bool.and_eq_true, List.all_eq_true] at free
    rcases mem with authored | ⟨template, repeated, item, -, rfl⟩
    · exact free.1.2 r authored
    · exact free.2 template repeated

/-- Whatever is done with a session, no ranges come in. -/
theorem RangeFree.perform (h : s.RangeFree) (op : Operation) : (op.perform s).RangeFree := by
  rcases op.responses_perform s with old | rfl
  · refine ⟨(op.registry_perform s).symm ▸ h.registry, fun r mem => ?_⟩
    exact h.responses r (old mem)
  · exact h.generate

theorem RangeFree.performAll (h : s.RangeFree) (ops : List Operation) :
    (performAll ops s).RangeFree :=
  performAll_induction h fun op _ _ free => free.perform op

omit [Actor α] [Actor β] in
/-- What a steady computation draws leaves the session as it is. -/
theorem drawing_of_steady {γ : Type} {m : StateM Generator γ} (h : Steady m) :
    (s.drawing m).2 = s := by
  obtain ⟨a, rfl⟩ := h
  rfl

/-- The line of a topic, whether it is the one that is talked about or not. -/
def lineAbout (s : Session α β) (id : String) : String × Session α β :=
  match (s.registry.get? id).bind (·.line) with
  | some line =>
    let (text, s) := s.drawing (line.render s.scene)
    match text with
    | some text => (s.scene.substitute text, s)
    | none => (s.settings.placeholderLine, s)
  | none => (s.settings.placeholderLine, s)

theorem line_eq_lineAbout (s : Session α β) : s.line = s.lineAbout s.scene.current.id := rfl

/-- Working out the line of a topic may draw random numbers, and changes nothing else. -/
theorem lineAbout_eq (s : Session α β) (id : String) :
    ∃ g, (s.lineAbout id).2 = s.withGenerator g := by
  unfold lineAbout
  split
  · simp only [drawing]
    split <;> exact ⟨_, rfl⟩
  · exact ⟨_, rfl⟩

/-- Without ranges, saying a line changes nothing. -/
theorem lineAbout_of_rangeFree (h : s.RangeFree) (id : String) : (s.lineAbout id).2 = s := by
  unfold lineAbout
  split
  · rename_i line hl
    obtain ⟨t, ht, hline⟩ := Option.bind_eq_some_iff.1 hl
    have free := Registry.rangeFree_get? h.registry ht
    have steady : Steady (line.render s.scene) := by
      refine line.steady ?_
      simp only [Topic.rangeFree, Bool.and_eq_true, hline, Option.all_some] at free
      exact free.1.1
    have same := drawing_of_steady (s := s) steady
    cases hd : s.drawing (line.render s.scene) with | mk text s'
    rw [hd] at same
    obtain rfl : s' = s := same
    cases text <;> rfl
  · rfl

theorem offers_of_rangeFree (h : s.RangeFree) : s.offers.2 = s :=
  drawing_of_steady (steady_offersFrom h.responses 0)

/-- Offering the responses does not depend on what was on offer before. -/
theorem generate_responses (s : Session α β) (responses : List Response) :
    ({ s with responses } : Session α β).generate = s.generate := rfl

/-- Without ranges, generating changes the responses and nothing else. -/
theorem generate_of_rangeFree (h : s.RangeFree) :
    s.generate = { s with responses := s.generate.responses } := by
  unfold generate
  cases ht : s.topic? with
  | none => rfl
  | some t =>
    have same := drawing_of_steady (s := s) (steady_visible (s := s.scene) (h.topic? ht))
    dsimp only
    rw [same]

/-- Without ranges, generating once more changes nothing. -/
theorem generate_generate (h : s.RangeFree) : s.generate.generate = s.generate := by
  have again := congrArg generate (generate_of_rangeFree h)
  exact again.trans (generate_responses s _)

/-- A way to look at a session. -/
inductive Look where
  /-- Work out the line of a topic. -/
  | line (id : String)
  /-- Offer the responses of the topic. -/
  | generate
  /-- See how the responses on offer are shown. -/
  | offers
  /-- Ask for the best way out. -/
  | quit
deriving DecidableEq, Repr

/-- The session after a look. -/
def Look.after (look : Look) (s : Session α β) : Session α β :=
  match look with
  | .line id => (s.lineAbout id).2
  | .generate => s.generate
  | .offers => s.offers.2
  | .quit => s

/-- The session after looks in order. -/
def afterLooks (s : Session α β) (looks : List Look) : Session α β :=
  looks.foldl (fun s look => look.after s) s

/-- Of all looks only generating leaves a trace. -/
theorem RangeFree.after (h : s.RangeFree) (look : Look) :
    look.after s = if look = .generate then s.generate else s := by
  cases look with
  | line id => exact lineAbout_of_rangeFree h id
  | generate => rfl
  | offers => exact offers_of_rangeFree h
  | quit => rfl

/-- All that looks come to is whether the responses were offered. -/
theorem RangeFree.afterLooks (h : s.RangeFree) (looks : List Look) :
    s.afterLooks looks = if .generate ∈ looks then s.generate else s := by
  -- The session is generalized: after the responses were offered the rest starts from there.
  induction looks generalizing s with
  | nil => rfl
  | cons look looks ih =>
    change (look.after s).afterLooks looks = _
    by_cases offering : look = .generate
    · rw [h.after, if_pos offering, ih h.generate, generate_generate h, ite_self]
      simp [offering]
    · rw [h.after, if_neg offering, ih h]
      simp [Ne.symm offering]

/-- A turn of a conversation: looks, and then a choice. -/
structure Turn where
  looks : List Look
  choice : Nat
deriving DecidableEq, Repr

/-- Enter the topic, look and choose; what the choice led to, and the session after it. -/
def takeTurn (s : Session α β) (t : Turn) : Except Fault String × Session α β :=
  (s.applySpeakerEffects.afterLooks t.looks).select t.choice

/-- Take turns in order; what the choices led to, and the session after them. -/
def takeTurns : List Turn → Session α β → List (Except Fault String) × Session α β
  | [], s => ([], s)
  | t :: ts, s =>
    let (result, s) := s.takeTurn t
    let (results, s) := takeTurns ts s
    (result :: results, s)

/-- Two turns make the same choice, each after the responses were offered. -/
def Turn.SameChoice (t t' : Turn) : Prop :=
  t.choice = t'.choice ∧ .generate ∈ t.looks ∧ .generate ∈ t'.looks

/-- However often one looks in a turn, what counts is that the responses were generated. -/
theorem RangeFree.takeTurn_eq (h : s.RangeFree) {t : Turn} (offering : .generate ∈ t.looks) :
    s.takeTurn t = s.applySpeakerEffects.generate.select t.choice := by
  have entered : s.applySpeakerEffects.RangeFree := h.perform .speak
  rw [takeTurn, entered.afterLooks, if_pos offering]

theorem RangeFree.takeTurn (h : s.RangeFree) {t : Turn} (offering : .generate ∈ t.looks) :
    (s.takeTurn t).2.RangeFree := by
  rw [h.takeTurn_eq offering]
  exact ((h.perform .speak).perform .generate).perform (.choose t.choice)

/-- Turns that make the same choices come to the same, however often one looks in between. -/
theorem RangeFree.takeTurns_eq {ts ts' : List Turn} (same : List.Forall₂ Turn.SameChoice ts ts')
    (h : s.RangeFree) : takeTurns ts s = takeTurns ts' s := by
  induction same generalizing s with
  | nil => rfl
  | @cons t t' ts ts' first _ ih =>
    obtain ⟨choice, offering, offering'⟩ := first
    have turn : s.takeTurn t = s.takeTurn t' := by
      rw [h.takeTurn_eq offering, h.takeTurn_eq offering', choice]
    have rest := ih (h.takeTurn offering)
    simp only [takeTurns, ← turn, rest]

/-- Over content without ranges, in whatever state a session has come to: working out a line,
showing the offers and asking for the best way out change nothing at all; offering the responses
changes nothing but the responses on offer, and doing it again changes nothing. So from there on
two conversations that make the same choices have the same results and end in the same state, the
random generator and both speakers included, however often one looks before each choice. -/
theorem looking_changes_nothing (u : α) (npc : β) (globals : Dict String) (registry : Registry)
    (settings : TalkSettings) (entropy : UInt64) (generator : Generator) (ops : List Operation)
    (free : registry.rangeFree = true) :
    let s := performAll ops
      ((start u npc globals registry settings entropy).withGenerator generator)
    (∀ id, (s.lineAbout id).2 = s) ∧ s.line.2 = s ∧ s.offers.2 = s ∧
      s.generate = { s with responses := s.generate.responses } ∧
      s.generate.generate = s.generate ∧
      (∀ looks, s.afterLooks looks = if .generate ∈ looks then s.generate else s) ∧
      ∀ ts ts', List.Forall₂ Turn.SameChoice ts ts' → takeTurns ts s = takeTurns ts' s := by
  intro s
  have h : s.RangeFree := RangeFree.performAll ⟨free, fun _ mem => absurd mem List.not_mem_nil⟩ ops
  refine ⟨lineAbout_of_rangeFree h, ?_, offers_of_rangeFree h, ?_, ?_, ?_, ?_⟩
  · rw [line_eq_lineAbout]
    exact lineAbout_of_rangeFree h _
  · exact generate_of_rangeFree h
  · exact generate_generate h
  · exact h.afterLooks
  · exact fun ts ts' same => h.takeTurns_eq same

/-- Someone is persuaded or not, however long one hesitates before trying. -/
theorem hesitation_changes_nothing :
    let plea : Response :=
      { text := "Help me.", condition := some (.not .npcHostile)
        trial := { kind := .social .persuade, difficulty := 50 }
        success := { nextTopic := "THANKS" } }
    let registry := Registry.empty.insertAll
      [((Topic.new "TALK").withLine "Well?").withResponse plea, Topic.new "THANKS"]
    let s := performAll [.speak, .say]
      ((start (Player.ofSheet (.new "Bob")) (Npc.ofSheet (.new "Ann")) .empty registry
        { firstTopic := "TALK" } 0).withGenerator (.ofSeed 7))
    registry.rangeFree = true ∧
      takeTurns [⟨[.generate], 0⟩, ⟨[.generate, .offers], 0⟩] s =
        takeTurns [⟨[.line "TALK", .generate, .offers, .quit, .generate], 0⟩,
          ⟨[.offers, .line "TALK", .generate, .generate], 0⟩] s := by
  intro plea registry s
  have free : registry.rangeFree = true := by decide +kernel
  have looking := looking_changes_nothing (Player.ofSheet (.new "Bob")) (Npc.ofSheet (.new "Ann"))
    .empty registry { firstTopic := "TALK" } 0 (.ofSeed 7) [.speak, .say] free
  refine ⟨free, looking.2.2.2.2.2.2 _ _ (.cons ?_ (.cons ?_ .nil))⟩
  · exact ⟨rfl, by decide, by decide⟩
  · exact ⟨rfl, by decide, by decide⟩

end Session

end Parley
